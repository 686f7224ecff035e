import Ebrc.Document.Yaml.Node

/-!
# YAML

A reader of YAML documents. The text becomes tokens, the tokens a tree of nodes, and the nodes
values of the kinds that they have. A document without a node says nothing.

What is wrong with a document is found by depth: first what stands at the top, then what is in the
lists and mappings there, and so on, and at one depth from front to back. A fault in the tokens or
in the tree comes before all others.
-/

namespace Ebrc

namespace Yaml

/-- What a node says, or what is wrong with it and how deep within the document. -/
abbrev Reading (α : Type) := Except (Nat × DocumentFault) α

namespace Reading

/-- Something is malformed at a depth. -/
def malformed {α : Type} (depth : Nat) : Reading α := .error (depth, .malformed)

/-- Two readings, of which both must succeed. Of two faults the one that is less deep counts, and
of two that are equally deep the first one. -/
def both {α β : Type} (x : Reading α) (y : Reading β) : Reading (α × β) :=
  match x, y with
  | .ok a, .ok b => .ok (a, b)
  | .ok _, .error g => .error g
  | .error f, .ok _ => .error f
  | .error f, .error g => .error (if g.1 < f.1 then g else f)

end Reading

namespace Node

/-- What a node says that stands for one scalar: itself, or what a mapping says that has a key for
the mapping as a whole. -/
def content? : Node → Option QuotedText
  | scalar _ content => some content
  | list _ _ => none
  | mapping _ entries => go entries
where
  /-- The same for the entries of a mapping. -/
  go : List (Node × Node) → Option QuotedText
    | [] => none
    | (.scalar .whole _, value) :: _ => content? value
    | _ :: rest => go rest

/-- The value of a node of a kind of scalars. -/
def scalarValue (depth : Nat) (node : Node) : Reading Value :=
  match node.content? with
  | none => Reading.malformed depth
  | some content =>
    match Scalar.read node.tag content with
    | .ok v => .ok v
    | .error f => .error (depth, f)

/-- The value of a key at a depth. Collections are no keys, and neither is a key that has asked for
entries in vain. A key for the mapping as a whole has the name that is written. -/
def keyValue (depth : Nat) : Node → Reading Value
  | scalar .whole content => .ok content.toValue
  | node =>
    match node.tag with
    | .list | .mapping | .pairs | .set => Reading.malformed depth
    | _ => node.scalarValue depth

/-- A mapping with these keys and values. -/
def objectOf (entries : List (Value × Value)) : Value :=
  let members := entries.filterMap fun
    | (.text name, v) => some (name, v)
    | _ => none
  let isName : Value → Bool
    | .text _ | .brokenText _ => true
    | _ => false
  if entries.all fun e => isName e.1 then .object members else .mixed members

mutual

/-- The value of a node at a depth. -/
def value (depth : Nat) : Node → Reading Value
  | scalar tag content =>
    match tag with
    | .list | .mapping | .pairs | .set => Reading.malformed (depth + 1)
    | _ => scalarValue depth (.scalar tag content)
  | list tag items =>
    match tag with
    | .list => (itemValues (depth + 1) items).map .list
    | .pairs => (pairValues (depth + 1) items).map .list
    | .mapping | .set => Reading.malformed (depth + 1)
    | _ => scalarValue depth (.list tag items)
  | mapping tag entries =>
    match tag with
    | .mapping => (entryValues (depth + 1) entries).map objectOf
    | .set => (entryValues (depth + 1) entries).map fun entries => .list (entries.map (·.1))
    | .list | .pairs => Reading.malformed (depth + 1)
    | _ => scalarValue depth (.mapping tag entries)

/-- The values of the items of a list. -/
def itemValues (depth : Nat) : List Node → Reading (List Value)
  | [] => .ok []
  | item :: rest =>
    (Reading.both (value depth item) (itemValues depth rest)).map fun (v, vs) => v :: vs

/-- The keys and values of the entries of a mapping. -/
def entryValues (depth : Nat) : List (Node × Node) → Reading (List (Value × Value))
  | [] => .ok []
  | (k, v) :: rest =>
    (Reading.both (Reading.both (keyValue depth k) (value depth v)) (entryValues depth rest)).map
      fun (e, es) => e :: es

/-- The items of a list of mappings with one entry each, as lists of a key and a value. -/
def pairValues (depth : Nat) : List Node → Reading (List Value)
  | [] => .ok []
  | .mapping _ [(k, v)] :: rest =>
    (Reading.both (Reading.both (value depth k) (value depth v)) (pairValues depth rest)).map
      fun ((k, v), vs) => .list [k, v] :: vs
  | _ :: _ => Reading.malformed depth

end

end Node

/-- Read a document. -/
def read (t : Text) : Except DocumentFault Value := do
  if !t.all isAllowed then .error .malformed
  else
    match ← Node.ofTokens? (tokens t) with
    | none => return .null
    | some top =>
      match top.value 0 with
      | .ok v => return v
      | .error (_, f) => .error f

end Yaml

end Ebrc
