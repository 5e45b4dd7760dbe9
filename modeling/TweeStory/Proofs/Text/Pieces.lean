/-
The pieces of a text between the characters that divide it.

* `eq_false_of_mem_pieces`, `pieces_eq_singleton`: no piece holds such a character, and a text
  without one is a single piece;
* `pieces_append_cons`: the pieces on both sides of such a character;
* `pieces_append_of_undivided`: what stands behind the last of them goes to the last piece;
* `pieces_induction`: what holds of single pieces and of texts that such a character joins holds
  of every text;
* `join_append`: pieces are joined from the two parts of their list.
-/
import Mathlib.Tactic.Lemma
import TweeStory.Text.Basic

namespace TweeStory.Text

variable {p : Char → Bool}

/-- No piece holds a character that stands between pieces. -/
lemma eq_false_of_mem_pieces {t piece : Text} (h : piece ∈ pieces p t) :
    ∀ c ∈ piece, p c = false := by
  induction t generalizing piece with
  | nil =>
      rw [pieces, List.mem_singleton] at h
      simp [h]
  | cons d t ih =>
      rw [pieces] at h
      split at h
      · rcases List.mem_cons.mp h with rfl | h
        · simp
        · exact ih h
      · rename_i hd
        have hd : p d = false := by simpa using hd
        obtain ⟨first, rest, hpieces⟩ := List.exists_cons_of_ne_nil (pieces_ne_nil p t)
        rw [hpieces, consHead] at h
        rw [hpieces] at ih
        rcases List.mem_cons.mp h with rfl | h
        · intro c hc
          rcases List.mem_cons.mp hc with rfl | hc
          · exact hd
          · exact ih List.mem_cons_self c hc
        · exact ih (List.mem_cons_of_mem _ h)

lemma pieces_eq_singleton {s : Text} (h : ∀ c ∈ s, p c = false) : pieces p s = [s] := by
  induction s with
  | nil => rfl
  | cons c s ih =>
      rw [pieces, h c (by simp), ih fun d hd => h d (by simp [hd])]
      rfl

lemma consHead_append (c : Char) {ps : List Text} (h : ps ≠ []) (qs : List Text) :
    consHead c (ps ++ qs) = consHead c ps ++ qs := by
  cases ps with
  | nil => exact absurd rfl h
  | cons => rfl

/-- A character that divides the text stands between the pieces on its two sides. -/
lemma pieces_append_cons (s : Text) {c : Char} (hc : p c) (t : Text) :
    pieces p (s ++ c :: t) = pieces p s ++ pieces p t := by
  induction s with
  | nil => simp [pieces, hc]
  | cons d s ih =>
      rw [List.cons_append, pieces, pieces, ih]
      split
      · rfl
      · exact consHead_append d (pieces_ne_nil p s) _

/-- What holds no character that divides it goes to the last piece of the text in front of
it. -/
lemma pieces_append_of_undivided {s : Text} (h : ∀ c ∈ s, p c = false) (t : Text) :
    pieces p (t ++ s) = (pieces p t).dropLast ++ [(pieces p t).getLastD [] ++ s] := by
  induction t with
  | nil => exact pieces_eq_singleton h
  | cons c t ih =>
      rw [List.cons_append, pieces, pieces, ih]
      have hne := pieces_ne_nil p t
      obtain ⟨first, rest, hpieces⟩ := List.exists_cons_of_ne_nil hne
      rw [hpieces]
      split
      · simp
      · cases rest with
        | nil => rfl
        | cons => simp [consHead]

/-- **A text is made of pieces** that are joined by a character. -/
theorem pieces_induction (c : Char) {motive : Text → Prop}
    (piece : ∀ piece, c ∉ piece → motive piece)
    (append : ∀ s t, motive s → motive t → motive (s ++ c :: t)) (t : Text) : motive t := by
  induction hn : t.length using Nat.strongRecOn generalizing t with
  | ind n ih =>
      by_cases hmem : c ∈ t
      · obtain ⟨s, rest, rfl⟩ := List.append_of_mem hmem
        rw [List.length_append, List.length_cons] at hn
        exact append s rest (ih _ (by omega) s rfl) (ih _ (by omega) rest rfl)
      · exact piece t hmem

lemma join_append (glue : Text) {ps qs : List Text} (hp : ps ≠ []) (hq : qs ≠ []) :
    join glue (ps ++ qs) = join glue ps ++ glue ++ join glue qs := by
  induction ps with
  | nil => exact absurd rfl hp
  | cons first ps ih =>
      cases ps with
      | nil => exact join_cons glue first hq
      | cons next ps =>
          rw [List.cons_append, join_cons _ _ (List.append_ne_nil_of_right_ne_nil _ hq),
            ih (List.cons_ne_nil _ _), join_cons _ _ (List.cons_ne_nil _ _)]
          simp only [List.append_assoc]

end TweeStory.Text
