/-
Mappings of characters that differ in case only, under which one character may become
several.

* `CaseRun`: characters that keep their distance from what they become;
* `CaseMapping`: runs, and the characters that become several;
* `CaseMapping.apply`: a text under a mapping.
-/
import TweeStory.Text.Basic

namespace TweeStory

/-- A run of characters, each of which becomes one other. -/
structure CaseRun where
  /-- The code point of the first character. -/
  first : Nat
  /-- The code point of the last character. -/
  last : Nat
  /-- The distance from one character to the next. -/
  step : Nat
  /-- The code point that the first character becomes. -/
  target : Nat
deriving DecidableEq, Repr

/-- The code point that `n` becomes, if it is in the run. -/
def CaseRun.at? (run : CaseRun) (n : Nat) : Option Nat :=
  if run.first ≤ n && n ≤ run.last && (n - run.first) % run.step == 0 then
    some (run.target + (n - run.first))
  else none

/-- What characters become, each by itself. -/
structure CaseMapping where
  runs : List CaseRun
  /-- The code points of the characters that become several. -/
  special : List (Nat × List Nat)

namespace CaseMapping

/-- What one character becomes. -/
def char (m : CaseMapping) (c : Char) : Text :=
  match m.special.lookup c.toNat with
  | some ns => ns.map Char.ofNat
  | none => [((m.runs.findSome? (·.at? c.toNat)).map Char.ofNat).getD c]

/-- What a text becomes. -/
def apply (m : CaseMapping) (t : Text) : Text :=
  t.flatMap m.char

@[simp] theorem apply_append (m : CaseMapping) (s t : Text) :
    m.apply (s ++ t) = m.apply s ++ m.apply t := by
  simp [apply]

end CaseMapping

end TweeStory
