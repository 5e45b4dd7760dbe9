/-
Sets of characters given by a table of ranges of code points:

* `Ranges.holds`: whether a code point is in one of the ranges.
-/

namespace TweeStory

/-- Ranges of code points, each with its first and its last, in rising order. -/
abbrev Ranges := List (Nat × Nat)

/-- Whether a code point lies in one of the ranges. -/
def Ranges.holds (n : Nat) : Ranges → Bool
  | [] => false
  | (first, last) :: rest => if n < first then false else n ≤ last || holds n rest

end TweeStory
