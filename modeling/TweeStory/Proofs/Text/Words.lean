/-
The words of a text.

* `IsWord`: a word, which is not empty and holds no white space;
* `isWord_of_mem_words`, `words_join`: the words of a text are words, and words with
  spaces between them are the words of the text that they make up.
-/
import TweeStory.Proofs.Text.Pieces
import TweeStory.Text.Blank

namespace TweeStory.Text

/-- A word is not empty and holds no white space. -/
def IsWord (word : Text) : Prop :=
  word ≠ [] ∧ ∀ c ∈ word, isBlank c = false

instance (word : Text) : Decidable (IsWord word) :=
  decidable_of_iff (word ≠ [] ∧ word.any isBlank = false) (by simp [IsWord])

lemma isWord_of_mem_words {t word : Text} (h : word ∈ words t) : IsWord word := by
  obtain ⟨hpiece, hne⟩ := List.mem_filter.mp h
  exact ⟨by simpa using hne, eq_false_of_mem_pieces hpiece⟩

/-- **Words with spaces between them** are the words of their text. -/
theorem words_join {ws : List Text} (h : ∀ word ∈ ws, IsWord word) :
    words (join [' '] ws) = ws := by
  induction ws with
  | nil => rfl
  | cons word ws ih =>
      obtain ⟨hne, hblank⟩ := h word (by simp)
      have hrest : ∀ w ∈ ws, IsWord w := fun w hw => h w (by simp [hw])
      cases ws with
      | nil =>
          rw [join, words, pieces_eq_singleton hblank]
          simp [hne]
      | cons next ws =>
          rw [join_cons _ _ (by simp), List.append_assoc, List.singleton_append, words,
            pieces_append_cons word (by rfl), pieces_eq_singleton hblank, List.singleton_append,
            List.filter_cons_of_pos (by simp [hne]), ← words, ih hrest]

end TweeStory.Text
