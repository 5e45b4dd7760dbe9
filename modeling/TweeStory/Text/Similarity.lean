/-
How alike two names are, by the measure of Jaro with the bonus of Winkler for a
common beginning.

* `Similarity.jaro`, `Similarity.winkler`: the measures, from 0 to 1;
* `didYouMean`: the candidates that are close to a name, the closest last;
* `bestMatch?`: the closest of them.
-/
import TweeStory.Text.Basic

namespace TweeStory

namespace Similarity

/-! ### Matching characters -/

/-- The tally of a comparison: the positions of the second text that are taken,
the number of matches, the number of them that lie before the match found just
before, and the position of the last match. -/
structure Tally where
  taken : List Nat
  hits : Nat
  crossings : Nat
  latest : Nat

/-- The first position from `lo` to `hi` that holds `c` and is not taken, the text
beginning at position `j`. -/
def firstFree? (c : Char) (taken : List Nat) (lo hi j : Nat) : Text → Option Nat
  | [] => none
  | d :: t =>
    if lo ≤ j && j ≤ hi && c == d && !taken.contains j then some j
    else firstFree? c taken lo hi (j + 1) t

/-- Matches each character of a text, the first of which is at position `i`, with
a free equal character of `other` at most `reach` positions away. -/
def tally (other : Text) (reach : Nat) : (i : Nat) → Tally → Text → Tally
  | _, found, [] => found
  | i, found, c :: t =>
    match firstFree? c found.taken (i - reach) (i + reach) 0 other with
    | none => tally other reach (i + 1) found t
    | some j =>
      let crossing := if j < found.latest then 1 else 0
      tally other reach (i + 1)
        ⟨j :: found.taken, found.hits + 1, found.crossings + crossing, j⟩ t

/-! ### The measures -/

/-- The measure of Jaro.  Equal texts measure 1, texts without a match 0. -/
def jaro (s t : Text) : Float :=
  if s.isEmpty && t.isEmpty then 1
  else if s.isEmpty || t.isEmpty then 0
  else if s.length == 1 && t.length == 1 then if s = t then 1 else 0
  else
    let found := tally t (max s.length t.length / 2 - 1) 0 ⟨[], 0, 0, 0⟩ s
    if found.hits == 0 then 0
    else
      let hits := Float.ofNat found.hits
      let share := hits / Float.ofNat s.length + hits / Float.ofNat t.length
      1.0 / 3.0 * (share + (hits - Float.ofNat found.crossings) / hits)

/-- The number of characters that two texts have in common at their
beginnings. -/
def commonLead : Text → Text → Nat
  | a :: s, b :: t => if a = b then commonLead s t + 1 else 0
  | _, _ => 0

/-- The measure of Jaro raised by a tenth of what is missing for each character of
the common beginning, up to 1. -/
def winkler (s t : Text) : Float :=
  let base := jaro s t
  let raised := base + 0.1 * Float.ofNat (commonLead s t) * (1 - base)
  if raised ≤ 1 then raised else 1

end Similarity

/-- The measure that a candidate must exceed to be close to a name. -/
def similarityThreshold : Float := 0.8

/-- The candidates close to `name`, the closest last.  Candidates that are equally
close stay in their order. -/
def didYouMean (name : Text) (candidates : List Text) : List Text :=
  let measured := candidates.map fun candidate => (Similarity.winkler name candidate, candidate)
  let close := measured.filter fun entry => entry.1 > similarityThreshold
  (close.mergeSort fun a b => a.1 ≤ b.1).map Prod.snd

/-- The candidate closest to `name`, if one is close. -/
def bestMatch? (name : Text) (candidates : List Text) : Option Text :=
  (didYouMean name candidates).getLast?

end TweeStory
