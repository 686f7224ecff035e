import Ebrc.Text.Basic

/-!
# UTF-8

Bytes are decoded one at a time. A sequence that is broken off, or a byte that can start no
sequence, leaves a gap: one for each longest prefix of a sequence that the encoding allows.
A lenient reader puts the replacement character into the gaps, a strict one refuses them.
-/

namespace Ebrc

namespace Text

/-- A sequence of which some bytes have been read: how many are still owed, between which
bounds the next one must lie, and the value of those read. -/
structure Utf8Partial where
  owed : Nat
  least : Nat
  greatest : Nat
  value : Nat
  deriving Repr, DecidableEq

/-- A byte at the start of a sequence: a character or a gap, or the sequence it opens. -/
def startUtf8 (b : Nat) : Option Char ⊕ Utf8Partial :=
  if b < 0x80 then .inl (some (Char.ofNat b))
  else if b < 0xC2 then .inl none
  else if b < 0xE0 then .inr ⟨1, 0x80, 0xBF, b - 0xC0⟩
  else if b = 0xE0 then .inr ⟨2, 0xA0, 0xBF, 0⟩
  else if b = 0xED then .inr ⟨2, 0x80, 0x9F, 0xD⟩
  else if b < 0xF0 then .inr ⟨2, 0x80, 0xBF, b - 0xE0⟩
  else if b = 0xF0 then .inr ⟨3, 0x90, 0xBF, 0⟩
  else if b < 0xF4 then .inr ⟨3, 0x80, 0xBF, b - 0xF0⟩
  else if b = 0xF4 then .inr ⟨3, 0x80, 0x8F, 4⟩
  else .inl none

/-- The characters and the gaps of a byte sequence, given what has been read of the current
one. -/
def utf8Units : Option Utf8Partial → List UInt8 → List (Option Char)
  | none, [] => []
  | some _, [] => [none]
  | none, b :: rest =>
    match startUtf8 b.toNat with
    | .inl unit => unit :: utf8Units none rest
    | .inr opened => utf8Units (some opened) rest
  | some opened, b :: rest =>
    if opened.least ≤ b.toNat ∧ b.toNat ≤ opened.greatest then
      let value := 0x40 * opened.value + (b.toNat - 0x80)
      if opened.owed ≤ 1 then some (Char.ofNat value) :: utf8Units none rest
      else utf8Units (some ⟨opened.owed - 1, 0x80, 0xBF, value⟩) rest
    else
      match startUtf8 b.toNat with
      | .inl unit => none :: unit :: utf8Units none rest
      | .inr next => none :: utf8Units (some next) rest

/-- Decode, with the replacement character for every gap. -/
def decodeUtf8 (bytes : List UInt8) : Text :=
  (utf8Units none bytes).map (·.getD '\uFFFD')

/-- Decode a sequence that has no gap. -/
def decodeUtf8? (bytes : List UInt8) : Option Text :=
  (utf8Units none bytes).mapM id

/-- The bytes of a text. -/
def encodeUtf8 (t : Text) : List UInt8 := t.flatMap String.utf8EncodeChar

end Text

end Ebrc
