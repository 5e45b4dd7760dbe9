/-
Texts in quotes, as links write them.

* `LinkBody.escape`: a text with a backslash before each quote of one kind;
* `LinkBody.unescape_escape`: the text is what is left without these backslashes;
* `LinkBody.exists_quotedSides_escape`: the longest way to close the quote around such a text
  is the one at its end, if nothing follows or the text does not end in a backslash;
* `LinkBody.textSide?_quoted`: a text in quotes is read back from its written form;
* `LinkBody.exists_of_textSide?_concat`: a side that ends in a quote begins with it.
-/
import TweeStory.Link.Basic
import TweeStory.Proofs.Text.Quotes
import TweeStory.Proofs.Text.Search

namespace TweeStory.LinkBody

open Text

variable {quote : Char} {t : Text}

/-- A quote is no backslash. -/
lemma ne_backslash_of_isQuote (h : isQuote quote) : quote ≠ '\\' := by
  rintro rfl
  exact absurd h (by decide)

/-- A plain text holds neither quotes nor what separators are made of, but for a dash. -/
lemma isPlain_iff : isPlain t ↔ t ≠ [] ∧ '<' ∉ t ∧ '>' ∉ t ∧ '|' ∉ t ∧ '\'' ∉ t ∧ '"' ∉ t := by
  simp [isPlain, List.all_eq_true, forall_and, List.forall_mem_ne', and_assoc]

/-- A plain text holds no quote. -/
lemma notMem_of_isPlain (h : isPlain t) (hquote : isQuote quote) : quote ∉ t := by
  obtain ⟨-, -, -, -, hsingle, hdouble⟩ := isPlain_iff.mp h
  rcases isQuote_iff.mp hquote with rfl | rfl
  · exact hsingle
  · exact hdouble

/-- A plain text does not begin with a quote. -/
lemma exists_cons_of_isPlain (h : isPlain t) : ∃ c rest, t = c :: rest ∧ ¬isQuote c := by
  obtain ⟨c, rest, rfl⟩ := List.exists_cons_of_ne_nil (isPlain_iff.mp h).1
  exact ⟨c, rest, rfl, fun hquote => notMem_of_isPlain h hquote List.mem_cons_self⟩

/-! ### Escapes -/

/-- The text with a backslash before each quote of that kind. -/
def escape (quote : Char) (t : Text) : Text :=
  t.flatMap fun c => if c = quote then ['\\', c] else [c]

lemma escape_quote (quote : Char) (t : Text) :
    escape quote (quote :: t) = '\\' :: quote :: escape quote t := by
  simp [escape]

lemma escape_cons {c : Char} (h : c ≠ quote) (t : Text) :
    escape quote (c :: t) = c :: escape quote t := by
  simp [escape, h]

lemma escape_ne_nil (h : t ≠ []) : escape quote t ≠ [] := by
  obtain ⟨c, t, rfl⟩ := List.exists_cons_of_ne_nil h
  by_cases hc : c = quote
  · simp [hc, escape_quote]
  · simp [escape_cons hc]

/-- Every quote of an escaped text stands right after a backslash. -/
lemma exists_of_escape_eq (hne : quote ≠ '\\') {u v : Text}
    (h : escape quote t = u ++ quote :: v) : ∃ w, u = w ++ ['\\'] := by
  induction t generalizing u with
  | nil => simp [escape] at h
  | cons c t ih =>
      by_cases hc : c = quote
      · subst hc
        rw [escape_quote] at h
        match u with
        | [] => exact absurd (List.cons.inj h).1.symm hne
        | [d] => exact ⟨[], by rw [(List.cons.inj h).1]; rfl⟩
        | d :: e :: u =>
            obtain ⟨w, rfl⟩ := ih (List.cons.inj (List.cons.inj h).2).2
            exact ⟨d :: e :: w, rfl⟩
      · rw [escape_cons hc] at h
        match u with
        | [] => exact absurd (List.cons.inj h).1 hc
        | d :: u =>
            obtain ⟨w, rfl⟩ := ih (List.cons.inj h).2
            exact ⟨d :: w, rfl⟩

/-- A text is what is left of its escaped form without the backslashes before quotes. -/
lemma unescape_escape (hne : quote ≠ '\\') (t : Text) : unescape quote (escape quote t) = t := by
  induction t with
  | nil => rfl
  | cons c t ih =>
      by_cases hc : c = quote
      · subst hc
        have hfront : escape c (c :: t) = ['\\', c] ++ escape c t := escape_quote c t
        rw [hfront, unescape, replaceAll_append (by simp)]
        exact congrArg (c :: ·) ih
      · have hbegins : beginsWith (c :: escape quote t) ['\\', quote] = false := by
          rw [← Bool.not_eq_true, beginsWith_iff]
          rintro ⟨rest, h⟩
          -- the quote would stand at the start of the escaped rest
          obtain ⟨w, hw⟩ := exists_of_escape_eq hne (u := []) (List.cons.inj h).2
          simp at hw
        rw [escape_cons hc, unescape, replaceAll_cons hbegins]
        exact congrArg (c :: ·) ih

/-! ### Closing quotes -/

/-- Whether a text ends right after a backslash, where `escaped` says so of its start. -/
def endsEscaped (escaped : Bool) (t : Text) : Bool :=
  t.foldl (fun _ c => c == '\\') escaped

lemma endsEscaped_false_iff : endsEscaped false t = true ↔ t.getLast? = some '\\' := by
  rcases List.eq_nil_or_concat t with rfl | ⟨s, c, rfl⟩
  · simp [endsEscaped]
  · simp [endsEscaped]

/-- What closes a quote is that quote. -/
lemma eq_of_mem_closings {escaped : Bool} {side : Text × Text}
    (h : side ∈ closings quote escaped t) : t = side.1 ++ quote :: side.2 := by
  induction t generalizing escaped side with
  | nil => cases h
  | cons c t ih =>
      rw [closings] at h
      have hlater : ∀ side ∈ (closings quote (c == '\\') t).map fun later =>
          (c :: later.1, later.2), c :: t = side.1 ++ quote :: side.2 := by
        intro side hside
        obtain ⟨later, hmem, rfl⟩ := List.mem_map.mp hside
        exact congrArg (c :: ·) (ih hmem)
      split at h
      · rename_i hc
        rcases List.mem_cons.mp h with rfl | h
        · exact hc ▸ rfl
        · split at h
          · exact hlater side h
          · cases h
      · exact hlater side h

/-- The quote around an escaped text can be closed inside, where something follows, and in the
ways in which it can be closed behind. -/
lemma exists_closings_escape (hne : quote ≠ '\\') (escaped : Bool) (t rest : Text) :
    ∃ early, closings quote escaped (escape quote t ++ quote :: rest) =
      early ++ (closings quote (endsEscaped escaped t) (quote :: rest)).map
        (fun side => (escape quote t ++ side.1, side.2)) ∧ ∀ side ∈ early, side.2 ≠ [] := by
  induction t generalizing escaped with
  | nil => exact ⟨[], by simp [escape, endsEscaped], by simp⟩
  | cons c t ih =>
      obtain ⟨early, hearly, hrest⟩ := ih (c == '\\')
      by_cases hc : c = quote
      · -- the backslash in front lets the quote pass for a closing one, and more of them follow
        subst hc
        refine ⟨(['\\'], escape c t ++ c :: rest) ::
          early.map fun side => ('\\' :: c :: side.1, side.2), ?_, ?_⟩
        · rw [escape_quote, List.cons_append, List.cons_append, closings, if_neg hne.symm, closings,
            if_pos rfl, hearly]
          simp [endsEscaped, Function.comp_def]
        · exact List.forall_mem_cons.mpr ⟨by simp, List.forall_mem_map.mpr hrest⟩
      · refine ⟨early.map fun side => (c :: side.1, side.2), ?_, List.forall_mem_map.mpr hrest⟩
        rw [escape_cons hc, List.cons_append, closings, if_neg hc, hearly]
        simp [endsEscaped, Function.comp_def]

/-- The longest way to close the quote around an escaped text is at its end, if nothing follows
or the text does not end in a backslash. -/
lemma exists_quotedSides_escape (hne : quote ≠ '\\') (ht : t ≠ []) (rest : Text)
    (hrest : t.getLast? = some '\\' → rest = []) :
    ∃ early, quotedSides quote (escape quote t ++ quote :: rest) =
      early ++ [(escape quote t, rest)] ∧ ∀ side ∈ early, side.2 ≠ [] := by
  obtain ⟨early, hearly, hsides⟩ := exists_closings_escape hne false t rest
  have hlast : closings quote (endsEscaped false t) (quote :: rest) = [([], rest)] := by
    rw [closings, if_pos rfl]
    split
    · rename_i hescaped
      rw [hrest (endsEscaped_false_iff.mp hescaped)]
      rfl
    · rfl
  refine ⟨early.filter fun side => !side.1.isEmpty, ?_, fun side hside =>
    hsides side (List.mem_filter.mp hside).1⟩
  rw [quotedSides, hearly, hlast, List.filter_append]
  simp [escape_ne_nil ht]

/-! ### Whole sides -/

/-- A text in quotes is read back from its written form. -/
lemma textSide?_quoted (hquote : isQuote quote) (ht : t ≠ []) :
    textSide? (quote :: escape quote t ++ [quote]) = some t := by
  have hne := ne_backslash_of_isQuote hquote
  obtain ⟨early, hsides, hearly⟩ := exists_quotedSides_escape hne ht [] fun _ => rfl
  have hnone : early.find? (fun side => side.2.isEmpty) = none :=
    List.find?_eq_none.mpr fun side hside => by simpa using hearly side hside
  rw [List.cons_append, textSide?, if_pos hquote, hsides, List.find?_append, hnone]
  exact congrArg some (unescape_escape hne t)

/-- A side that ends in a quote begins with it. -/
lemma exists_of_textSide?_concat (hquote : isQuote quote) {text : Text}
    (h : textSide? (t ++ [quote]) = some text) : ∃ inner, t = quote :: inner := by
  cases hside : t ++ [quote] with
  | nil => simp at hside
  | cons c rest =>
      rw [hside, textSide?] at h
      split at h
      · obtain ⟨side, hfind, -⟩ := Option.map_eq_some_iff.mp h
        have hempty : side.2 = [] := by simpa using List.find?_some hfind
        have hmem := List.mem_filter.mp (List.mem_of_find?_eq_some hfind)
        have hrest := eq_of_mem_closings hmem.1
        rw [hempty] at hrest
        have heq : t ++ [quote] = (c :: side.1) ++ [c] := by rw [hside, hrest]; rfl
        obtain ⟨rfl, hc⟩ := List.append_inj' heq rfl
        exact ⟨side.1, by rw [List.head_eq_of_cons_eq hc]⟩
      · -- a plain text has no quotes
        split at h
        · rename_i hplain
          exact absurd (hside ▸ List.mem_concat_self) (notMem_of_isPlain hplain hquote)
        · cases h

end TweeStory.LinkBody
