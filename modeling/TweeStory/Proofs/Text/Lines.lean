/-
What the lines of a text are, apart from how they are found.

* `IsFullLine`, `AreFullLines`: a line with its end, and the lines of one text;
* `fullLines_eq_iff`: the lines of a text are the only ones that make it up;
* `chomp_append`, `chomp_append_of_isLineEnd`, `notMem_chomp`: a line without its end.
-/
import Mathlib.Data.List.DropRight
import Mathlib.Tactic.Lemma
import TweeStory.Text.Lines

namespace TweeStory.Text

/-! ### Full lines -/

/-- A line with its end: not empty, and without a line feed before its last
character. -/
def IsFullLine (line : Text) : Prop :=
  line ≠ [] ∧ '\n' ∉ line.dropLast

/-- Whether a line ends in a line feed. -/
def IsEnded (line : Text) : Prop :=
  line.getLast? = some '\n'

instance (line : Text) : Decidable (IsEnded line) :=
  inferInstanceAs (Decidable (_ = _))

/-- The lines of one text: all but the last end in a line feed. -/
def AreFullLines : List Text → Prop
  | [] => True
  | line :: rest => IsFullLine line ∧ (rest ≠ [] → IsEnded line) ∧ AreFullLines rest

lemma isFullLine_cons_iff {c : Char} {line : Text} (h : line ≠ []) :
    IsFullLine (c :: line) ↔ c ≠ '\n' ∧ IsFullLine line := by
  rw [IsFullLine, List.dropLast_cons_of_ne_nil h, List.mem_cons, not_or, IsFullLine]
  simp [h, eq_comm]

lemma isFullLine_singleton (c : Char) : IsFullLine [c] :=
  ⟨by simp, by simp⟩

/-- A character in front of a line that is not empty leaves its end as it is. -/
lemma isEnded_cons_iff {c : Char} {line : Text} (h : line ≠ []) :
    IsEnded (c :: line) ↔ IsEnded line := by
  obtain ⟨d, line, rfl⟩ := List.exists_cons_of_ne_nil h
  simp [IsEnded]

/-- The lines found in a text are lines of one text. -/
lemma areFullLines_fullLines (t : Text) : AreFullLines (fullLines t) := by
  induction t with
  | nil => trivial
  | cons c t ih =>
      by_cases hc : c = '\n'
      · rw [fullLines, if_pos hc, hc]
        exact ⟨isFullLine_singleton _, fun _ => rfl, ih⟩
      · rw [fullLines, if_neg hc]
        cases hlines : fullLines t with
        | nil => exact ⟨isFullLine_singleton c, fun h => absurd rfl h, trivial⟩
        | cons line rest =>
            rw [hlines] at ih
            obtain ⟨hline, hend, hrest⟩ := ih
            exact ⟨(isFullLine_cons_iff hline.1).mpr ⟨hc, hline⟩,
              fun h => (isEnded_cons_iff hline.1).mpr (hend h), hrest⟩

/-- A line that ends in a line feed is found at the beginning of a text. -/
lemma fullLines_append_of_isEnded {line : Text} (h : IsFullLine line) (hend : IsEnded line)
    (t : Text) : fullLines (line ++ t) = line :: fullLines t := by
  induction line with
  | nil => exact absurd rfl h.1
  | cons c line ih =>
      by_cases hline : line = []
      · subst hline
        have hc : c = '\n' := by simpa [IsEnded] using hend
        simp [fullLines, hc]
      · obtain ⟨hc, hrest⟩ := (isFullLine_cons_iff hline).mp h
        rw [List.cons_append, fullLines, if_neg hc,
          ih hrest ((isEnded_cons_iff hline).mp hend), consHead]

/-- A text that is one line has no other. -/
lemma fullLines_of_isFullLine {line : Text} (h : IsFullLine line) : fullLines line = [line] := by
  induction line with
  | nil => exact absurd rfl h.1
  | cons c line ih =>
      by_cases hline : line = []
      · subst hline
        by_cases hc : c = '\n' <;> simp [fullLines, hc, consHead]
      · obtain ⟨hc, hrest⟩ := (isFullLine_cons_iff hline).mp h
        rw [fullLines, if_neg hc, ih hrest, consHead]

lemma fullLines_flatten {lines : List Text} (h : AreFullLines lines) :
    fullLines lines.flatten = lines := by
  induction lines with
  | nil => rfl
  | cons line rest ih =>
      obtain ⟨hline, hend, hrest⟩ := h
      by_cases hnil : rest = []
      · subst hnil
        simpa using fullLines_of_isFullLine hline
      · rw [List.flatten_cons, fullLines_append_of_isEnded hline (hend hnil), ih hrest]

/-- **The lines of a text** are the one way to cut it into full lines. -/
theorem fullLines_eq_iff {t : Text} {lines : List Text} :
    fullLines t = lines ↔ lines.flatten = t ∧ AreFullLines lines := by
  constructor
  · rintro rfl
    exact ⟨flatten_fullLines t, areFullLines_fullLines t⟩
  · rintro ⟨rfl, h⟩
    exact fullLines_flatten h

lemma AreFullLines.isFullLine {lines : List Text} (h : AreFullLines lines) {line : Text}
    (hmem : line ∈ lines) : IsFullLine line := by
  induction lines with
  | nil => cases hmem
  | cons first rest ih =>
      rcases List.mem_cons.mp hmem with rfl | hrest
      · exact h.1
      · exact ih h.2.2 hrest

lemma isFullLine_of_mem_fullLines {t line : Text} (h : line ∈ fullLines t) : IsFullLine line :=
  (areFullLines_fullLines t).isFullLine h

/-- Lines before others of one text all end in a line feed. -/
lemma areFullLines_append_iff {lines rest : List Text} :
    AreFullLines (lines ++ rest) ↔
      AreFullLines lines ∧ (rest ≠ [] → ∀ line ∈ lines, IsEnded line) ∧ AreFullLines rest := by
  induction lines with
  | nil => simp [AreFullLines]
  | cons line lines ih =>
      rw [List.cons_append, AreFullLines, ih, AreFullLines, List.forall_mem_cons]
      by_cases hrest : rest = []
      · simp [hrest, AreFullLines]
      · simp only [ne_eq, List.append_eq_nil_iff, hrest, not_false_eq_true, and_false, forall_const]
        tauto

/-! ### Lines without their ends -/

/-- What a line has at its end are line feeds and carriage returns. -/
lemma exists_chomp_append (t : Text) : ∃ e, t = chomp t ++ e ∧ ∀ c ∈ e, isLineEnd c := by
  refine ⟨t.rtakeWhile isLineEnd, ?_, fun c hc => List.mem_rtakeWhile_imp hc⟩
  exact List.rdropWhile_append_rtakeWhile.symm

lemma chomp_eq_nil_iff {t : Text} : chomp t = [] ↔ ∀ c ∈ t, isLineEnd c :=
  List.rdropWhile_eq_nil_iff

/-- What stands before a line that has more than its end stays when the end goes. -/
lemma chomp_append {t : Text} (s : Text) (h : chomp t ≠ []) : chomp (s ++ t) = s ++ chomp t := by
  rw [chomp, dropEndWhile, ne_eq, List.reverse_eq_nil_iff] at h
  simp [chomp, dropEndWhile, List.dropWhile_append, h]

/-- Line feeds and carriage returns behind a text go with its end. -/
lemma chomp_append_of_isLineEnd {e : Text} (h : ∀ c ∈ e, isLineEnd c) (t : Text) :
    chomp (t ++ e) = chomp t := by
  have hreverse : ∀ c ∈ e.reverse, isLineEnd c := fun c hc => h c (List.mem_reverse.mp hc)
  rw [chomp, dropEndWhile, List.reverse_append, List.dropWhile_append_of_pos hreverse, chomp,
    dropEndWhile]

/-- There is no line feed in a full line but at its end. -/
lemma notMem_chomp {line : Text} (h : IsFullLine line) : '\n' ∉ chomp line := by
  obtain ⟨body, c, rfl⟩ := List.eq_nil_or_concat' line |>.resolve_left h.1
  have hbody : '\n' ∉ body := by simpa using h.2
  rw [show chomp (body ++ [c]) = _ from List.rdropWhile_concat isLineEnd body c]
  split
  · exact fun hmem => hbody ((List.rdropWhile_prefix isLineEnd body).subset hmem)
  · rename_i hc
    simp only [List.mem_append, List.mem_singleton, hbody, false_or]
    rintro rfl
    exact hc rfl

end TweeStory.Text
