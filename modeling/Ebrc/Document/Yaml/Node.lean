import Ebrc.Document.Yaml.Scalar
import Ebrc.Document.Yaml.Token

/-!
# Nodes of YAML

A document as the tree that its tokens describe: scalars, lists and mappings, each with the kind
that its tag declares or that it looks like. Where a node may stand and none does, there is an
empty scalar. A node may be named and referred to later; a collection that refers to itself is
empty there. There is one document at most.

A mapping may have keys that ask for the entries of other mappings. Those entries come in front of
its own ones, so that its own ones win.
-/

namespace Ebrc

namespace Yaml

/-- A node of a document. -/
inductive Node where
  | scalar (tag : Tag) (content : QuotedText)
  | list (tag : Tag) (items : List Node)
  | mapping (tag : Tag) (entries : List (Node × Node))

namespace Node

/-- The kind of a node. -/
def tag : Node → Tag
  | scalar tag _ | list tag _ | mapping tag _ => tag

/-- What stands where there is nothing. -/
def empty : Node := .scalar .null {}

/-- The entries that a key which asks for them gets from its value: a mapping, or a list of
mappings of which the first one wins. -/
def merged? : Node → Option (List (Node × Node))
  | mapping _ entries => some entries
  | list _ items => do
    let all ← items.mapM fun
      | mapping _ entries => some entries
      | _ => none
    return all.reverse.flatten
  | scalar _ _ => none

/-- The entries that an entry gets whose key asks for them. -/
def asked? (entry : Node × Node) : Option (List (Node × Node)) :=
  if entry.1.tag = .merge then merged? entry.2 else none

/-- A mapping with the entries that its keys ask for. A key that asks in vain stays. -/
def ofEntries (tag : Tag) (entries : List (Node × Node)) : Node :=
  .mapping tag ((entries.filterMap asked?).flatten ++ entries.filter fun e => (asked? e).isNone)

end Node

/-! ## Reading tokens -/

/-- How deep lists and mappings may be nested. -/
def maxLevels : Nat := 488

/-- What is known while nodes are read: the tokens ahead, how many levels of lists and mappings may
still be opened, the nodes that have been named, the last one first, and what the handles of tags
stand for. -/
structure Reader where
  ahead : List Token
  levels : Nat := maxLevels
  named : List (Text × Node) := []
  handles : List (Text × Text) := []

namespace Reader

/-- Stop at the token ahead. -/
def stop {α : Type} (r : Reader) : Except DocumentFault α :=
  match r.ahead with
  | .fault f :: _ => .error f
  | _ => .error .malformed

/-- Is the token ahead one of these? -/
def isAt (ends : List Token) (r : Reader) : Bool := r.ahead.head?.any (ends.contains ·)

/-- Give a node a name, if there is one. -/
def define (name : Option Text) (node : Node) (r : Reader) : Reader :=
  match name with
  | none => r
  | some name => { r with named := (name, node) :: r.named }

/-- What is written in front of a node: its name, and its tag as it is meant. -/
structure Properties where
  name : Option Text := none
  tag : Option Text := none

namespace Properties

/-- Is a tag declared? A single exclamation mark declares none. -/
def declared? (p : Properties) : Option Tag :=
  match p.tag with
  | none | some ['!'] => none
  | some t => some (Tag.ofText t)

/-- The kind of a scalar. -/
def scalarTag (p : Properties) (content : QuotedText) (isPlain : Bool) : Tag :=
  p.declared?.getD (if isPlain || p.tag.isSome then Scalar.kindOf content.text else .text)

/-- The empty scalar that these properties may belong to. -/
def emptyScalar (p : Properties) : Node := .scalar (p.declared?.getD .null) {}

end Properties

/-- A tag as it is meant. -/
def tagText (handle : Option Text) (rest : Text) (r : Reader) : Except DocumentFault Text :=
  match handle with
  | none => .ok rest
  | some handle =>
    match r.handles.lookup handle with
    | some start => .ok (start ++ rest)
    | none => .error .malformed

/-- The properties ahead, in either order. -/
def properties (r : Reader) : Except DocumentFault (Properties × Reader) := do
  let (name, tag, rest) : Option Text × Option (Option Text × Text) × List Token :=
    match r.ahead with
    | .anchor name :: .tag handle tag :: rest | .tag handle tag :: .anchor name :: rest =>
      (some name, some (handle, tag), rest)
    | .anchor name :: rest => (some name, none, rest)
    | .tag handle tag :: rest => (none, some (handle, tag), rest)
    | rest => (none, none, rest)
  let tag ← tag.mapM fun (handle, tag) => r.tagText handle tag
  if name.any fun name => (r.named.lookup name).isSome then .error .malformed
  else return ({ name, tag }, { r with ahead := rest })

/-- Go into a list or a mapping, whose node so far this is. -/
def enter (name : Option Text) (node : Node) (r : Reader) : Except DocumentFault Reader :=
  if r.levels = 0 then .error .tooDeep
  else .ok { r.define name node with levels := r.levels - 1 }

/-- Come out of a list or a mapping with its node. -/
def leave (name : Option Text) (node : Node) (r : Reader) : Node × Reader :=
  (node, { r.define name node with levels := r.levels + 1 })

/-- Behind an item in brackets: a comma is skipped, and otherwise the closing bracket follows. -/
def afterItem (close : Token) (r : Reader) : Except DocumentFault Reader :=
  match r.ahead with
  | .comma :: rest => .ok { r with ahead := rest }
  | _ => if r.isAt [close] then .ok r else r.stop

/-- Outside brackets: the tokens ahead that show that a key or a value is not written. -/
def blockEnds : List Token := [.key, .value, .blockEnd]

/-- The same between brackets, of which this token is the closing one. -/
def bracketEnds (close : Token) : List Token := [.value, .comma, close]

mutual

/-- The node ahead. A list may be `flush` with the key that it belongs to. -/
def node (flush : Bool) : Nat → Reader → Except DocumentFault (Node × Reader)
  | 0, _ => .error .malformed
  | fuel + 1, r => do
    match r.ahead with
    | .reference name :: rest =>
      match r.named.lookup name with
      | some node => return (node, { r with ahead := rest })
      | none => .error .malformed
    | _ =>
      let (p, r) ← r.properties
      let list (read : Reader → Except DocumentFault (List Node × Reader)) (r : Reader) :
          Except DocumentFault (Node × Reader) := do
        let tag := p.declared?.getD .list
        let (items, r) ← read (← r.enter p.name (.list tag []))
        return r.leave p.name (.list tag items)
      let mapping (read : Reader → Except DocumentFault (List (Node × Node) × Reader))
          (r : Reader) : Except DocumentFault (Node × Reader) := do
        let tag := p.declared?.getD .mapping
        let (entries, r) ← read (← r.enter p.name (.mapping tag []))
        return r.leave p.name (Node.ofEntries tag entries)
      match r.ahead with
      | .scalar content isPlain :: rest =>
        let node := Node.scalar (p.scalarTag content isPlain) content
        return (node, { r with ahead := rest }.define p.name node)
      | .openList :: rest => list (bracketItems fuel) { r with ahead := rest }
      | .openMapping :: rest => mapping (bracketEntries fuel) { r with ahead := rest }
      | .listStart :: rest => list (blockItems fuel) { r with ahead := rest }
      | .mappingStart :: rest => mapping (blockEntries fuel) { r with ahead := rest }
      | _ =>
        if flush && r.isAt [.item] then list (flushItems fuel) r
        else if p.name.isSome || p.tag.isSome then
          return (p.emptyScalar, r.define p.name p.emptyScalar)
        else r.stop

/-- The node ahead, unless one of these tokens is. -/
def nodeUnless (ends : List Token) (flush : Bool) :
    Nat → Reader → Except DocumentFault (Node × Reader)
  | 0, _ => .error .malformed
  | fuel + 1, r => if r.isAt ends then .ok (.empty, r) else node flush fuel r

/-- The key ahead, the mark in front of which has been read, and its value. -/
def entry (ends : List Token) (flush : Bool) :
    Nat → Reader → Except DocumentFault ((Node × Node) × Reader)
  | 0, _ => .error .malformed
  | fuel + 1, r => do
    let (key, r) ← nodeUnless ends flush fuel r
    match r.ahead with
    | .value :: rest =>
      let (value, r) ← nodeUnless ends flush fuel { r with ahead := rest }
      return ((key, value), r)
    | _ => return ((key, .empty), r)

/-- The items of a list in brackets from the next one on. An item may be a mapping of one entry
without brackets of its own. -/
def bracketItems : Nat → Reader → Except DocumentFault (List Node × Reader)
  | 0, _ => .error .malformed
  | fuel + 1, r => do
    match r.ahead with
    | .closeList :: rest => return ([], { r with ahead := rest })
    | ahead =>
      let (item, r) ← match ahead with
        | .key :: rest => do
          let (e, r) ← entry (bracketEnds .closeList) false fuel { r with ahead := rest }
          pure (Node.ofEntries .mapping [e], r)
        | _ => node false fuel r
      let (items, r) ← bracketItems fuel (← r.afterItem .closeList)
      return (item :: items, r)

/-- The entries of a mapping in brackets from the next one on. A key without a mark has no
value. -/
def bracketEntries : Nat → Reader → Except DocumentFault (List (Node × Node) × Reader)
  | 0, _ => .error .malformed
  | fuel + 1, r => do
    match r.ahead with
    | .closeMapping :: rest => return ([], { r with ahead := rest })
    | ahead =>
      let (e, r) ← match ahead with
        | .key :: rest =>
          entry (bracketEnds .closeMapping) false fuel { r with ahead := rest }
        | _ => do
          let (key, r) ← node false fuel r
          pure ((key, .empty), r)
      let (entries, r) ← bracketEntries fuel (← r.afterItem .closeMapping)
      return (e :: entries, r)

/-- The items of a list that indentation shows from the next one on. -/
def blockItems : Nat → Reader → Except DocumentFault (List Node × Reader)
  | 0, _ => .error .malformed
  | fuel + 1, r => do
    match r.ahead with
    | .blockEnd :: rest => return ([], { r with ahead := rest })
    | .item :: rest =>
      let (item, r) ← nodeUnless [.item, .blockEnd] false fuel { r with ahead := rest }
      let (items, r) ← blockItems fuel r
      return (item :: items, r)
    | _ => r.stop

/-- The items of a list that is flush with its key from the next one on. -/
def flushItems : Nat → Reader → Except DocumentFault (List Node × Reader)
  | 0, _ => .error .malformed
  | fuel + 1, r => do
    match r.ahead with
    | .item :: rest =>
      let (item, r) ← nodeUnless (.item :: blockEnds) false fuel { r with ahead := rest }
      let (items, r) ← flushItems fuel r
      return (item :: items, r)
    | _ => return ([], r)

/-- The entries of a mapping that indentation shows from the next one on. -/
def blockEntries : Nat → Reader → Except DocumentFault (List (Node × Node) × Reader)
  | 0, _ => .error .malformed
  | fuel + 1, r => do
    match r.ahead with
    | .blockEnd :: rest => return ([], { r with ahead := rest })
    | .key :: rest =>
      let (e, r) ← entry blockEnds true fuel { r with ahead := rest }
      let (entries, r) ← blockEntries fuel r
      return (e :: entries, r)
    | _ => r.stop

end

/-! ## Documents -/

/-- What handles stand for unless directives say something else. -/
def standardHandles : List (Text × Text) := [(['!'], ['!']), (['!', '!'], Tag.standardStart)]

/-- What handles stand for under these directives. There is one format version at most, the first
one, and one directive for a handle. -/
def handlesOf (directives : List Directive) : Except DocumentFault (List (Text × Text)) :=
  let versions := directives.filterMap fun
    | .version major => some major
    | _ => none
  let own := directives.filterMap fun
    | .tags handle start => some (handle, start)
    | _ => none
  if versions.all (· = 1) && versions.length ≤ 1 && decide (own.map (·.1)).Nodup then
    .ok (own ++ standardHandles)
  else .error .malformed

/-- The directives in front, and the tokens after them. -/
def directives : List Token → List Directive × List Token
  | .directive d :: rest =>
    let (others, rest) := directives rest
    (d :: others, rest)
  | rest => ([], rest)

/-- The node of the document ahead; none if there is no document. -/
def document? (fuel : Nat) (r : Reader) : Except DocumentFault (Option Node × Reader) := do
  match r.ahead with
  | .finish :: _ => return (none, r)
  | .directive _ :: _ | .documentStart :: _ =>
    let (directives, rest) := directives r.ahead
    let r := { r with ahead := rest, handles := ← handlesOf directives }
    match rest with
    | .documentStart :: rest =>
      let r := { r with ahead := rest }
      let isOver := match rest with
        | .directive _ :: _ => true
        | _ => r.isAt [.documentStart, .documentEnd, .finish]
      if isOver then return (some .empty, r)
      else
        let (top, r) ← node false fuel r
        return (some top, r)
    | _ => r.stop
  | _ =>
    let (top, r) ← node false fuel { r with handles := standardHandles }
    return (some top, r)

end Reader

namespace Node

/-- The node that a row of tokens describes; none if there is no document. -/
def ofTokens? (tokens : List Token) : Except DocumentFault (Option Node) := do
  let (top, r) ← Reader.document? (4 * tokens.length + 4) { ahead := tokens }
  let r := { r with ahead := r.ahead.dropWhile (· = Token.documentEnd) }
  if r.isAt [.finish] then return top else r.stop

end Node

end Yaml

end Ebrc
