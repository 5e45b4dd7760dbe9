/-
Reading text inside markup.

* `unescaped`: the text that a written form stands for;
* `unescaped_escaped`: reading undoes writing.
-/
import Mathlib.Tactic.Lemma
import TweeStory.Text.Entity

namespace TweeStory.Text

/-- The text that a written form stands for: the four entities are undone and all else
stands for itself. -/
def unescaped : Text → Text
  | '&' :: 'a' :: 'm' :: 'p' :: ';' :: t => '&' :: unescaped t
  | '&' :: 'q' :: 'u' :: 'o' :: 't' :: ';' :: t => '"' :: unescaped t
  | '&' :: 'l' :: 't' :: ';' :: t => '<' :: unescaped t
  | '&' :: 'g' :: 't' :: ';' :: t => '>' :: unescaped t
  | c :: t => c :: unescaped t
  | [] => []

lemma unescaped_cons {c : Char} (h : c ≠ '&') (t : Text) :
    unescaped (c :: t) = c :: unescaped t := by
  rw [unescaped] <;> simp [h]

/-- The written form of a character is read as the character. -/
lemma unescaped_escapedChar (c : Char) (t : Text) :
    unescaped (escapedChar c ++ t) = c :: unescaped t := by
  by_cases h : c ∈ ['&', '"', '<', '>']
  · simp only [List.mem_cons, List.not_mem_nil, or_false] at h
    rcases h with rfl | rfl | rfl | rfl <;> rfl
  · have hne : c ≠ '&' := fun heq => h (by simp [heq])
    rw [escapedChar_eq_self h, List.singleton_append, unescaped_cons hne]

/-- **Reading undoes writing.** -/
theorem unescaped_escaped (t : Text) : unescaped (escaped t) = t := by
  induction t with
  | nil => rfl
  | cons c t ih => rw [escaped, List.flatMap_cons, unescaped_escapedChar, ← escaped, ih]

end TweeStory.Text
