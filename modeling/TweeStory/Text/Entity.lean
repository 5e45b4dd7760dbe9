/-
Text inside markup.  Four characters are written as entities, in attribute values
and in element text alike.

* `Text.escaped`: the written form of a text.
-/
import TweeStory.Text.Basic

namespace TweeStory.Text

/-- The written form of one character. -/
def escapedChar (c : Char) : Text :=
  if c = '&' then "&amp;".toList
  else if c = '"' then "&quot;".toList
  else if c = '<' then "&lt;".toList
  else if c = '>' then "&gt;".toList
  else [c]

/-- The text with an entity for each ampersand, double quote and angle
bracket. -/
def escaped (t : Text) : Text :=
  t.flatMap escapedChar

@[simp] theorem escaped_append (s t : Text) : escaped (s ++ t) = escaped s ++ escaped t := by
  simp [escaped]

theorem escapedChar_eq_self {c : Char} (h : c ∉ ['&', '"', '<', '>']) : escapedChar c = [c] := by
  simp_all [escapedChar]

/-- No double quote and no angle bracket is left in the written form. -/
theorem not_mem_escaped {c : Char} (hc : c ∈ ['"', '<', '>']) (t : Text) : c ∉ escaped t := by
  have inChar : ∀ d, c ∉ escapedChar d := by
    intro d
    by_cases h : d ∈ ['&', '"', '<', '>']
    · simp only [List.mem_cons, List.not_mem_nil, or_false] at h hc
      rcases h with rfl | rfl | rfl | rfl <;> rcases hc with rfl | rfl | rfl <;> decide
    · rw [escapedChar_eq_self h, List.mem_singleton]
      rintro rfl
      exact h (List.mem_cons_of_mem _ hc)
  simp [escaped, inChar]

end TweeStory.Text
