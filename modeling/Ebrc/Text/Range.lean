/-!
# Ranges of code points

Character classes of the Unicode standard are given by tables of closed ranges in ascending
order. A range with a step covers every second code point, say, as the capitals of a block do
in which capitals and small letters alternate.
-/

namespace Ebrc

namespace Text

/-- Does the character lie in one of the closed ranges? -/
def inRanges (ranges : List (Nat × Nat)) (c : Char) : Bool :=
  ranges.any fun (first, last) => first ≤ c.toNat && c.toNat ≤ last

/-- Does the character lie on one of the ranges `first, first + step, …, last`? -/
def inSteppedRanges (ranges : List (Nat × Nat × Nat)) (c : Char) : Bool :=
  ranges.any fun (first, last, step) =>
    first ≤ c.toNat && c.toNat ≤ last && (c.toNat - first) % step == 0

end Text

end Ebrc
