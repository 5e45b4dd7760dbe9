/-
Texts without the white space at their ends, line by line.

* `exists_trimEnd_append`, `trimEnd_append_of_blank`: what goes is white space, and white space
  behind a text goes;
* `trim_append_cons`: a text is trimmed on either side of a character that is no white space;
* `trimEnd_withoutLineEnd`: the end of a line is white space;
* `fullLines_append_of_not_isEnded`: a line without a line feed runs into the next;
* `getElem?_fullLines_append`: white space behind lines goes to the last of them, or to lines
  behind it;
* `exists_of_getElem?_lines_trimEnd`: the lines of a text without the white space at its end
  are those of the text, but for the white space at their ends;
* `exists_map_trimEnd_lines_join`: so are the lines of joined texts.
-/
import TweeStory.Proofs.Text.Blank

namespace TweeStory.Text

variable {t line : Text} {k : Nat}

/-! ### The end of a text -/

lemma IsSpace.reverse (h : IsSpace t) : IsSpace t.reverse :=
  fun c hc => h c (List.mem_reverse.mp hc)

/-- What a text has behind its last character that is not white space is white space. -/
lemma exists_trimEnd_append (t : Text) : ∃ space, t = trimEnd t ++ space ∧ IsSpace space := by
  refine ⟨t.rtakeWhile isBlank, ?_, fun c hc => List.mem_rtakeWhile_imp hc⟩
  exact List.rdropWhile_append_rtakeWhile.symm

/-- White space behind a text goes when the end of the text is trimmed. -/
lemma trimEnd_append_of_blank {space : Text} (h : IsSpace space) (t : Text) :
    trimEnd (t ++ space) = trimEnd t := by
  rw [trimEnd, dropEndWhile, List.reverse_append, dropWhile_append_of_blank h.reverse, trimEnd,
    dropEndWhile]

lemma trim_append_of_blank_end {space : Text} (h : IsSpace space) (t : Text) :
    trim (t ++ space) = trim t := by
  rw [trim, trim, trimStart, trimStart, List.dropWhile_append]
  split
  · rename_i hall
    rw [List.isEmpty_iff] at hall
    rw [hall, List.dropWhile_eq_nil_iff.mpr h]
  · exact trimEnd_append_of_blank h _

lemma trim_trimStart (t : Text) : trim (trimStart t) = trim t := by
  conv_rhs => rw [← List.takeWhile_append_dropWhile (p := isBlank) (l := t)]
  rw [trim_append_of_blank (isSpace_takeWhile t), trimStart]

lemma trim_trimEnd (t : Text) : trim (trimEnd t) = trim t := by
  obtain ⟨space, heq, hspace⟩ := exists_trimEnd_append t
  conv_rhs => rw [heq, trim_append_of_blank_end hspace]

/-- What goes when a text is trimmed is white space. -/
lemma exists_trim_append (t : Text) :
    ∃ before after, t = before ++ (trim t ++ after) ∧ IsSpace before ∧ IsSpace after := by
  obtain ⟨after, ht, hafter⟩ := exists_trimEnd_append (trimStart t)
  refine ⟨t.takeWhile isBlank, after, ?_, isSpace_takeWhile t, hafter⟩
  rw [trim, ← ht, trimStart, List.takeWhile_append_dropWhile]

/-- A text between characters that are not white space has no white space at its ends. -/
lemma trim_cons_concat {c d : Char} (hc : isBlank c = false) (hd : isBlank d = false) (t : Text) :
    trim (c :: (t ++ [d])) = c :: (t ++ [d]) := by
  have hc : ¬isBlank c := Bool.not_eq_true _ ▸ hc
  have hd : ¬isBlank d := Bool.not_eq_true _ ▸ hd
  rw [trim, trimStart, List.dropWhile_cons_of_neg hc, ← List.cons_append]
  exact List.rdropWhile_concat_neg isBlank (c :: t) d hd

lemma trimStart_append_cons {c : Char} (hc : isBlank c = false) (s t : Text) :
    trimStart (s ++ c :: t) = trimStart s ++ c :: t := by
  have hc : ¬isBlank c := Bool.not_eq_true _ ▸ hc
  rw [trimStart, List.dropWhile_append, List.dropWhile_cons_of_neg hc, trimStart]
  split
  · rename_i hall
    rw [List.isEmpty_iff.mp hall, List.nil_append]
  · rfl

lemma trimEnd_append_cons {c : Char} (hc : isBlank c = false) (s t : Text) :
    trimEnd (s ++ c :: t) = s ++ c :: trimEnd t := by
  have hc : ¬isBlank c := Bool.not_eq_true _ ▸ hc
  rw [trimEnd, dropEndWhile, List.reverse_append, List.reverse_cons, List.append_assoc,
    List.singleton_append, List.dropWhile_append, List.dropWhile_cons_of_neg hc, trimEnd,
    dropEndWhile]
  split
  · rename_i hall
    simp [List.isEmpty_iff.mp hall]
  · simp

/-- A text is trimmed on either side of a character that is not white space. -/
lemma trim_append_cons {c : Char} (hc : isBlank c = false) (s t : Text) :
    trim (s ++ c :: t) = trimStart s ++ c :: trimEnd t := by
  rw [trim, trimStart_append_cons hc, trimEnd_append_cons hc]

lemma trim_cons {c : Char} (hc : isBlank c = false) (t : Text) : trim (c :: t) = c :: trimEnd t :=
  trim_append_cons hc [] t

/-- The end of a line is white space. -/
lemma exists_withoutLineEnd_append (line : Text) :
    ∃ e, line = withoutLineEnd line ++ e ∧ IsSpace e := by
  cases hbody : beforeEnd? ['\n'] line with
  | none =>
      have hwhole : withoutLineEnd line = line := by simp only [withoutLineEnd, hbody]
      exact ⟨[], by rw [hwhole, List.append_nil], isSpace_nil⟩
  | some body =>
      have hline := beforeEnd?_eq_some_iff.mp hbody
      cases hshort : beforeEnd? ['\r'] body with
      | none =>
          have hfeed : withoutLineEnd line = body := by
            simp only [withoutLineEnd, hbody, hshort, Option.getD_none]
          exact ⟨['\n'], hfeed ▸ hline, by simp [IsSpace, isBlank]⟩
      | some short =>
          have hreturn : withoutLineEnd line = short := by
            simp only [withoutLineEnd, hbody, hshort, Option.getD_some]
          refine ⟨['\r', '\n'], ?_, by simp [IsSpace, isBlank]⟩
          rw [hreturn, hline, beforeEnd?_eq_some_iff.mp hshort, List.append_assoc]
          rfl

lemma trimEnd_withoutLineEnd (line : Text) : trimEnd (withoutLineEnd line) = trimEnd line := by
  obtain ⟨e, heq, he⟩ := exists_withoutLineEnd_append line
  conv_rhs => rw [heq, trimEnd_append_of_blank he]

/-! ### The lines of a text -/

/-- Lines with a text in front of the first of them, which is a line of its own if there is
none. -/
def appendHead (t : Text) : List Text → List Text
  | [] => [t]
  | line :: lines => (t ++ line) :: lines

/-- A line without a line feed runs into the first line behind it. -/
lemma fullLines_append_of_not_isEnded (h : IsFullLine line) (hend : ¬IsEnded line) (t : Text) :
    fullLines (line ++ t) = appendHead line (fullLines t) := by
  induction line with
  | nil => exact absurd rfl h.1
  | cons c line ih =>
      by_cases hline : line = []
      · subst hline
        have hc : c ≠ '\n' := by
          rintro rfl
          exact hend rfl
        rw [List.singleton_append, fullLines, if_neg hc]
        cases fullLines t <;> rfl
      · obtain ⟨hc, hrest⟩ := (isFullLine_cons_iff hline).mp h
        rw [List.cons_append, fullLines, if_neg hc,
          ih hrest fun hended => hend ((isEnded_cons_iff hline).mpr hended)]
        cases fullLines t <;> rfl

lemma IsSpace.of_mem_fullLines (h : IsSpace t) (hline : line ∈ fullLines t) : IsSpace line :=
  fun c hc => h c (flatten_fullLines t ▸ List.mem_flatten.mpr ⟨line, hline, hc⟩)

/-- White space behind a line goes to its end, or to lines behind it. -/
lemma exists_fullLines_append {space : Text} (h : IsSpace space) (hline : IsFullLine line) :
    ∃ e rest, fullLines (line ++ space) = (line ++ e) :: rest ∧ IsSpace e := by
  by_cases hend : IsEnded line
  · refine ⟨[], fullLines space, ?_, isSpace_nil⟩
    rw [fullLines_append_of_isEnded hline hend, List.append_nil]
  · rw [fullLines_append_of_not_isEnded hline hend]
    cases hspace : fullLines space with
    | nil => exact ⟨[], [], by rw [List.append_nil]; rfl, isSpace_nil⟩
    | cons first rest => exact ⟨first, rest, rfl, h.of_mem_fullLines (by rw [hspace]; simp)⟩

/-- White space behind lines of one text goes to the last of them, or to lines behind it. -/
lemma getElem?_fullLines_append {space : Text} (h : IsSpace space) {lines : List Text}
    (hlines : AreFullLines lines) (hline : lines[k]? = some line) :
    ∃ e, (fullLines (lines.flatten ++ space))[k]? = some (line ++ e) ∧ IsSpace e := by
  induction lines generalizing k with
  | nil => cases hline
  | cons first rest ih =>
      obtain ⟨hfirst, hend, hrest⟩ := hlines
      rw [List.flatten_cons, List.append_assoc]
      cases k with
      | zero =>
          obtain rfl := Option.some.inj hline
          by_cases hnil : rest = []
          · obtain ⟨e, later, heq, he⟩ := exists_fullLines_append h hfirst
            exact ⟨e, by rw [hnil, List.flatten_nil, List.nil_append, heq]; rfl, he⟩
          · refine ⟨[], ?_, isSpace_nil⟩
            rw [fullLines_append_of_isEnded hfirst (hend hnil), List.append_nil]
            rfl
      | succ k =>
          have hnil : rest ≠ [] := by
            rintro rfl
            cases hline
          rw [fullLines_append_of_isEnded hfirst (hend hnil)]
          exact ih hrest hline

/-- **The lines of a text without the white space at its end** are lines of the text, but for
the white space at their ends. -/
lemma exists_of_getElem?_lines_trimEnd (h : (lines (trimEnd t))[k]? = some line) :
    ∃ whole, (fullLines t)[k]? = some whole ∧ trimEnd line = trimEnd whole := by
  rw [lines, List.getElem?_map, Option.map_eq_some_iff] at h
  obtain ⟨full, hfull, rfl⟩ := h
  obtain ⟨space, heq, hspace⟩ := exists_trimEnd_append t
  obtain ⟨e, hwhole, he⟩ :=
    getElem?_fullLines_append hspace (areFullLines_fullLines (trimEnd t)) hfull
  rw [flatten_fullLines, ← heq] at hwhole
  exact ⟨full ++ e, hwhole, by rw [trimEnd_withoutLineEnd, trimEnd_append_of_blank he]⟩

/-! ### Joined lines -/

lemma lines_append_feed (h : '\n' ∉ line) (t : Text) :
    lines (line ++ '\n' :: t) = withoutLineEnd (line ++ ['\n']) :: lines t := by
  have hline : IsFullLine (line ++ ['\n']) := ⟨by simp, by rwa [List.dropLast_concat]⟩
  have hend : IsEnded (line ++ ['\n']) := List.getLast?_concat ..
  rw [← List.singleton_append, ← List.append_assoc, lines, fullLines_append_of_isEnded hline hend]
  rfl

lemma lines_of_notMem (h : '\n' ∉ line) (hne : line ≠ []) :
    lines line = [withoutLineEnd line] := by
  have hline : IsFullLine line := ⟨hne, fun hmem => h (List.dropLast_subset line hmem)⟩
  rw [lines, fullLines_of_isFullLine hline]
  rfl

/-- **The lines of joined texts** without line feeds are these texts, but for white space at their
ends, and for an empty one at the end. -/
lemma exists_map_trimEnd_lines_join {texts : List Text} (h : ∀ t ∈ texts, '\n' ∉ t) :
    ∃ rest, (rest = [] ∨ rest = [[]]) ∧
      texts.map trimEnd = (lines (join ['\n'] texts)).map trimEnd ++ rest := by
  induction texts with
  | nil => exact ⟨[], Or.inl rfl, rfl⟩
  | cons first texts ih =>
      obtain ⟨hfirst, hlater⟩ := List.forall_mem_cons.mp h
      by_cases hnil : texts = []
      · subst hnil
        by_cases hempty : first = []
        · subst hempty
          exact ⟨[[]], Or.inr rfl, rfl⟩
        · refine ⟨[], Or.inl rfl, ?_⟩
          rw [join, lines_of_notMem hfirst hempty, List.map_singleton, List.map_singleton,
            trimEnd_withoutLineEnd, List.append_nil]
      · obtain ⟨rest, hrest, heq⟩ := ih hlater
        have hfeed : trimEnd (first ++ ['\n']) = trimEnd first :=
          trimEnd_append_of_blank (by simp [IsSpace, isBlank]) first
        refine ⟨rest, hrest, ?_⟩
        rw [List.map_cons, heq, join_cons ['\n'] first hnil, List.append_assoc,
          List.singleton_append, lines_append_feed hfirst, List.map_cons, trimEnd_withoutLineEnd,
          hfeed, List.cons_append]

end TweeStory.Text
