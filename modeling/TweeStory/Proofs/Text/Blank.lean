/-
White space in front of a text and behind it.

* `dropWhile_append_of_blank`, `takeWhile_append_of_blank`: white space before a text;
* `trim_append_of_blank`: what is left of a text without the white space at its ends
  does not depend on white space before it;
* `chomp_of_trim`: such a text has no line end behind it.
-/
import TweeStory.Proofs.Text.Lines
import TweeStory.Text.Blank

namespace TweeStory.Text

/-- Whether a text is a run of white space, possibly empty. -/
def IsSpace (t : Text) : Prop :=
  ∀ c ∈ t, isBlank c

lemma isSpace_nil : IsSpace [] := by
  simp [IsSpace]

lemma IsSpace.append {s t : Text} (hs : IsSpace s) (ht : IsSpace t) : IsSpace (s ++ t) :=
  fun c hc => (List.mem_append.mp hc).elim (hs c) (ht c)

lemma isBlank_of_isLineEnd {c : Char} (h : isLineEnd c) : isBlank c := by
  rw [isLineEnd, Bool.or_eq_true, beq_iff_eq, beq_iff_eq] at h
  rcases h with rfl | rfl <;> rfl

/-! ### White space in front -/

lemma dropWhile_append_of_blank {space : Text} (h : IsSpace space) (t : Text) :
    (space ++ t).dropWhile isBlank = t.dropWhile isBlank := by
  induction space with
  | nil => rfl
  | cons c space ih =>
      rw [List.cons_append, List.dropWhile_cons_of_pos (h c (by simp))]
      exact ih fun d hd => h d (by simp [hd])

lemma takeWhile_append_of_blank {space : Text} (h : IsSpace space) (t : Text) :
    (space ++ t).takeWhile isBlank = space ++ t.takeWhile isBlank := by
  induction space with
  | nil => rfl
  | cons c space ih =>
      rw [List.cons_append, List.takeWhile_cons_of_pos (h c (by simp))]
      rw [ih fun d hd => h d (by simp [hd]), List.cons_append]

/-- White space in front of a text goes when the text is trimmed. -/
lemma trim_append_of_blank {space : Text} (h : IsSpace space) (t : Text) :
    trim (space ++ t) = trim t := by
  rw [trim, trimStart, dropWhile_append_of_blank h, trim, trimStart]

/-- A text with no white space at its ends has no line end behind it. -/
lemma chomp_of_trim {t : Text} (h : trim t = t) : chomp t = t := by
  refine List.rdropWhile_eq_self_iff.mpr fun hne hend => ?_
  have hlast := List.rdropWhile_last_not isBlank (t.dropWhile isBlank) (h.symm ▸ hne :)
  have heq : (t.dropWhile isBlank).rdropWhile isBlank = t := h
  simp only [heq] at hlast
  exact hlast (isBlank_of_isLineEnd hend)

lemma isSpace_takeWhile (t : Text) : IsSpace (t.takeWhile isBlank) :=
  fun _ hc => List.mem_takeWhile_imp hc

lemma isAllBlank_eq_true_iff {t : Text} : isAllBlank t ↔ IsSpace t := by
  rw [isAllBlank, List.all_eq_true, IsSpace]

lemma isAllBlank_eq_false_iff {t : Text} : isAllBlank t = false ↔ ¬IsSpace t := by
  rw [← isAllBlank_eq_true_iff, Bool.not_eq_true]

end TweeStory.Text
