/-
The tags that headers give.

* `distinct_concat`, `mem_distinct`, `nodup_distinct`, `distinct_of_nodup`: words at their first
  places;
* `Header.isWord_of_mem_tags`: the tags of a header are words.
-/
import Mathlib.Data.List.Nodup
import Mathlib.Tactic.Lemma
import TweeStory.Passage.Header
import TweeStory.Proofs.Text.Words

namespace TweeStory

/-! ### Words at their first places -/

@[simp] lemma mem_distinct {word : Text} {words : List Text} :
    word ∈ distinct words ↔ word ∈ words := by
  induction words with
  | nil => rfl
  | cons first words ih =>
      by_cases h : word = first <;> simp [distinct, ih, h]

lemma nodup_distinct (words : List Text) : (distinct words).Nodup := by
  induction words with
  | nil => exact List.nodup_nil
  | cons first words ih => exact List.nodup_cons.mpr ⟨by simp, ih.filter _⟩

/-- A word that was there before is left out. -/
lemma distinct_concat (words : List Text) (word : Text) :
    distinct (words ++ [word]) =
      if word ∈ words then distinct words else distinct words ++ [word] := by
  induction words with
  | nil => rfl
  | cons first words ih =>
      rw [List.cons_append, distinct, ih, distinct]
      by_cases hmem : word ∈ words
      · simp [hmem]
      · rcases eq_or_ne word first with rfl | h
        · simp [hmem]
        · simp [hmem, h]

/-- Words of which none comes twice are all at their first places. -/
lemma distinct_of_nodup {words : List Text} (h : words.Nodup) : distinct words = words := by
  induction words with
  | nil => rfl
  | cons first words ih =>
      obtain ⟨hfirst, hrest⟩ := List.nodup_cons.mp h
      rw [distinct, ih hrest, List.filter_eq_self.mpr]
      intro word hword
      exact decide_eq_true fun heq => hfirst (heq ▸ hword)

/-! ### Tags -/

/-- The tags of a header are words. -/
lemma Header.isWord_of_mem_tags {text : Text} {header : Header} (h : parse? text = some header)
    {tag : Text} (hmem : tag ∈ header.tags) : Text.IsWord tag := by
  obtain ⟨rest, -, h⟩ := Option.bind_eq_some_iff.mp h
  split at h
  · obtain ⟨⟨tags, position⟩, -, h⟩ := Option.bind_eq_some_iff.mp h
    obtain rfl := Option.some.inj h
    exact Text.isWord_of_mem_words (mem_distinct.mp hmem)
  · obtain ⟨position, -, h⟩ := Option.bind_eq_some_iff.mp h
    obtain rfl := Option.some.inj h
    cases hmem

end TweeStory
