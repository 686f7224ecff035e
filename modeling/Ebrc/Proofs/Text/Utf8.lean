import Ebrc.Text.Utf8

/-!
# Reading what was written in UTF-8

The bytes that a text is written in are decoded into this text. The first byte of a character opens
a sequence of just as many further bytes as are written, and the bounds that it sets for the second
one hold: they keep out characters that could be written shorter, surrogates, and what lies beyond
the last code point.
-/

namespace Ebrc

namespace Text

variable {n : Nat} {opened : Utf8Partial} {bytes : List UInt8}

theorem toNat_ofNat_of_lt (small : n < 0x100) : (UInt8.ofNat n).toNat = n := by
  rw [UInt8.toNat_ofNat']
  exact Nat.mod_eq_of_lt small

/-! ## One byte -/

theorem utf8Units_ascii (small : n < 0x80) :
    utf8Units none (UInt8.ofNat n :: bytes) = some (Char.ofNat n) :: utf8Units none bytes := by
  rw [utf8Units, toNat_ofNat_of_lt (by omega), startUtf8, if_pos small]

theorem utf8Units_open (small : n < 0x100) (opens : startUtf8 n = .inr opened) :
    utf8Units none (UInt8.ofNat n :: bytes) = utf8Units (some opened) bytes := by
  rw [utf8Units, toNat_ofNat_of_lt small, opens]

variable {owed least greatest value : Nat}

/-- The next byte of a sequence that owes more than one. -/
theorem utf8Units_more (lower : least ≤ n) (upper : n ≤ greatest) (small : n < 0x100) :
    utf8Units (some ⟨owed + 2, least, greatest, value⟩) (UInt8.ofNat n :: bytes) =
      utf8Units (some ⟨owed + 1, 0x80, 0xBF, 0x40 * value + (n - 0x80)⟩) bytes := by
  rw [utf8Units, toNat_ofNat_of_lt small, if_pos ⟨lower, upper⟩]
  dsimp only
  rw [if_neg (by omega)]
  rfl

/-- The last byte of a sequence. -/
theorem utf8Units_done (lower : least ≤ n) (upper : n ≤ greatest) (small : n < 0x100) :
    utf8Units (some ⟨1, least, greatest, value⟩) (UInt8.ofNat n :: bytes) =
      some (Char.ofNat (0x40 * value + (n - 0x80))) :: utf8Units none bytes := by
  rw [utf8Units, toNat_ofNat_of_lt small, if_pos ⟨lower, upper⟩]
  rfl

/-! ## First bytes -/

/-- The first byte opens a sequence that still owes this many bytes after a second one, which has
this value and lies between the bounds. -/
def Opens (first owed value second : Nat) : Prop :=
  ∃ least greatest, startUtf8 first = .inr ⟨owed, least, greatest, value⟩ ∧
    least ≤ second ∧ second ≤ greatest

theorem startUtf8_two {first : Nat} (least : 0xC2 ≤ first) (greatest : first < 0xE0) :
    startUtf8 first = .inr ⟨1, 0x80, 0xBF, first - 0xC0⟩ := by
  rw [startUtf8, if_neg (by omega), if_neg (by omega), if_pos greatest]

/-- The first byte of three, of a character that needs so many and is no surrogate. -/
theorem opens_three {v : Nat} (long : 0x800 ≤ v) (short : v < 0x10000)
    (valid : v < 0xD800 ∨ 0xDFFF < v) :
    Opens (v / 4096 % 16 + 224) 2 (v / 4096) (v / 64 % 64 + 128) := by
  unfold Opens startUtf8
  rw [if_neg (by omega), if_neg (by omega), if_neg (by omega)]
  by_cases zero : v / 4096 = 0
  · rw [if_pos (by omega), zero]
    exact ⟨_, _, rfl, by omega, by omega⟩
  rw [if_neg (by omega)]
  by_cases surrogates : v / 4096 = 0xD
  · rw [if_pos (by omega), surrogates]
    exact ⟨_, _, rfl, by omega, by omega⟩
  rw [if_neg (by omega), if_pos (by omega)]
  have value : v / 4096 % 16 + 224 - 0xE0 = v / 4096 := by omega
  exact ⟨_, _, by rw [value], by omega, by omega⟩

/-- The first byte of four, of a character that needs so many. -/
theorem opens_four {v : Nat} (long : 0x10000 ≤ v) (short : v < 0x110000) :
    Opens (v / 262144 % 8 + 240) 3 (v / 262144) (v / 4096 % 64 + 128) := by
  unfold Opens startUtf8
  rw [if_neg (by omega), if_neg (by omega), if_neg (by omega), if_neg (by omega),
    if_neg (by omega), if_neg (by omega)]
  by_cases zero : v / 262144 = 0
  · rw [if_pos (by omega), zero]
    exact ⟨_, _, rfl, by omega, by omega⟩
  rw [if_neg (by omega)]
  by_cases last : v / 262144 = 4
  · rw [if_neg (by omega), if_pos (by omega), last]
    exact ⟨_, _, rfl, by omega, by omega⟩
  rw [if_pos (by omega)]
  have value : v / 262144 % 8 + 240 - 0xF0 = v / 262144 := by omega
  exact ⟨_, _, by rw [value], by omega, by omega⟩

/-! ## Characters and texts -/

/-- The bytes of a character are decoded into it, whatever follows. -/
theorem utf8Units_encodeChar (c : Char) (bytes : List UInt8) :
    utf8Units none (String.utf8EncodeChar c ++ bytes) = some c :: utf8Units none bytes := by
  have valid : c.toNat < 0xD800 ∨ 0xDFFF < c.toNat ∧ c.toNat < 0x110000 := c.valid
  have read {n : Nat} (same : n = c.toNat) : some (Char.ofNat n) = some c := by
    rw [same, Char.ofNat_toNat]
  have spelled : String.utf8EncodeChar c =
      if c.toNat ≤ 0x7F then [UInt8.ofNat c.toNat]
      else if c.toNat ≤ 0x7FF then
        [UInt8.ofNat (c.toNat / 64 % 32 + 192), UInt8.ofNat (c.toNat % 64 + 128)]
      else if c.toNat ≤ 0xFFFF then
        [UInt8.ofNat (c.toNat / 4096 % 16 + 224), UInt8.ofNat (c.toNat / 64 % 64 + 128),
          UInt8.ofNat (c.toNat % 64 + 128)]
      else
        [UInt8.ofNat (c.toNat / 262144 % 8 + 240), UInt8.ofNat (c.toNat / 4096 % 64 + 128),
          UInt8.ofNat (c.toNat / 64 % 64 + 128), UInt8.ofNat (c.toNat % 64 + 128)] := rfl
  rw [spelled]
  generalize c.toNat = v at valid read ⊢
  by_cases one : v ≤ 0x7F
  · rw [if_pos one, List.singleton_append, utf8Units_ascii (by omega), read rfl]
  rw [if_neg one]
  by_cases two : v ≤ 0x7FF
  · have opens : startUtf8 (v / 64 % 32 + 192) = .inr ⟨1, 0x80, 0xBF, _⟩ :=
      startUtf8_two (by omega) (by omega)
    rw [if_pos two, List.cons_append, List.singleton_append, utf8Units_open (by omega) opens,
      utf8Units_done (by omega) (by omega) (by omega),
      read (by omega)]
  rw [if_neg two]
  by_cases three : v ≤ 0xFFFF
  · obtain ⟨least, greatest, opens, lower, upper⟩ :=
      opens_three (v := v) (by omega) (by omega) (by omega)
    rw [if_pos three, List.cons_append, List.cons_append, List.singleton_append,
      utf8Units_open (by omega) opens,
      utf8Units_more lower upper (by omega),
      utf8Units_done (by omega) (by omega) (by omega),
      read (by omega)]
  · obtain ⟨least, greatest, opens, lower, upper⟩ :=
      opens_four (v := v) (by omega) (by omega)
    rw [if_neg three, List.cons_append, List.cons_append, List.cons_append, List.singleton_append,
      utf8Units_open (by omega) opens,
      utf8Units_more lower upper (by omega),
      utf8Units_more (by omega) (by omega) (by omega),
      utf8Units_done (by omega) (by omega) (by omega),
      read (by omega)]

theorem utf8Units_encodeUtf8 (t : Text) : utf8Units none (encodeUtf8 t) = t.map some := by
  induction t with
  | nil => rfl
  | cons c t ih =>
      have shape : encodeUtf8 (c :: t) = String.utf8EncodeChar c ++ encodeUtf8 t := rfl
      rw [shape, utf8Units_encodeChar, ih, List.map_cons]

/-- What was written is read back. -/
theorem decodeUtf8_encodeUtf8 (t : Text) : decodeUtf8 (encodeUtf8 t) = t := by
  rw [decodeUtf8, utf8Units_encodeUtf8, List.map_map]
  exact List.map_id t

end Text

end Ebrc
