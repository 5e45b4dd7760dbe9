/-
Where the separators of links stand, and what that says about their shapes.

* `Separator`, `IsUndivided`: the separators of forward links, and texts without them;
* `exists_of_untilSeparator?`, `untilSeparator?_mark`: the first separator of a forward link;
* `eq_of_mem_splits`, `exists_splits_append`: the separators of reverse links;
* `forward?_plain`, `forward?_quoted`: forward links are read at the separator behind their
  text, be it plain or in quotes;
* `backward?_append`, `textSide?_of_mem_splits`: reverse links are read at their last separator
  with a side behind it, and none in a quoted text has one;
* `forward?_of_isUndivided`, `forward?_reverseMark`: other links are not read as forward ones.
-/
import Mathlib.Data.List.Infix
import TweeStory.Proofs.Link.Quoting

namespace TweeStory.LinkBody

open Text

variable {quote : Char} {t dest : Text}

/-! ### Separators of forward links -/

/-- The separators of forward links. -/
inductive Separator where
  | arrow
  | pipe
deriving DecidableEq, Repr

/-- A separator as it is written. -/
def Separator.mark : Separator → Text
  | arrow => "->".toList
  | pipe => "|".toList

/-- The shape of a link with the separator. -/
def Separator.style : Separator → LinkStyle
  | arrow => .arrow
  | pipe => .pipe

/-- The text holds no separator of a forward link. -/
def IsUndivided (t : Text) : Prop :=
  ∀ sep : Separator, ¬sep.mark <:+: t

instance : DecidablePred IsUndivided := fun t =>
  decidable_of_iff (¬"->".toList <:+: t ∧ ¬"|".toList <:+: t)
    ⟨fun h sep => sep.casesOn h.1 h.2, fun h => ⟨h .arrow, h .pipe⟩⟩

/-- A text with a separator at its start begins with one of its marks. -/
lemma beginsWith_mark_iff : (beginsWith t arrowMark || beginsWith t pipeMark) ↔
    ∃ (sep : Separator) (dest : Text), t = sep.mark ++ dest := by
  rw [Bool.or_eq_true, beginsWith_iff, beginsWith_iff]
  constructor
  · rintro (h | h)
    · exact ⟨.arrow, h⟩
    · exact ⟨.pipe, h⟩
  · rintro ⟨_ | _, h⟩
    · exact Or.inl h
    · exact Or.inr h

lemma destination?_mark (sep : Separator) (hdest : dest ≠ []) :
    destination? (sep.mark ++ dest) = some (sep.style, dest) := by
  have hempty : dest.isEmpty = false := List.isEmpty_eq_false_iff.mpr hdest
  cases sep with
  | arrow =>
      rw [destination?, Separator.mark, arrowMark, after?_append]
      simp only [hempty]
      rfl
  | pipe =>
      have harrow : after? arrowMark ("|".toList ++ dest) = none := rfl
      rw [destination?, Separator.mark, harrow, pipeMark, after?_append]
      simp only [hempty]
      rfl

/-- A destination stands behind a separator, which gives the shape. -/
lemma exists_of_destination? {style : LinkStyle} (h : destination? t = some (style, dest)) :
    ∃ sep : Separator, t = sep.mark ++ dest ∧ style = sep.style ∧ dest ≠ [] := by
  rw [destination?] at h
  split at h
  · rename_i rest hafter
    split at h
    · cases h
    · rename_i hrest
      cases h
      exact ⟨.arrow, after?_eq_some_iff.mp hafter, rfl, by simpa using hrest⟩
  · split at h
    · rename_i rest hafter
      split at h
      · cases h
      · rename_i hrest
        cases h
        exact ⟨.pipe, after?_eq_some_iff.mp hafter, rfl, by simpa using hrest⟩
    · cases h

/-- Nothing of a text is lost around its first separator. -/
lemma exists_of_untilSeparator? {before rest : Text}
    (h : untilSeparator? t = some (before, rest)) :
    t = before ++ rest ∧ ∃ (sep : Separator) (dest : Text), rest = sep.mark ++ dest := by
  induction t generalizing before with
  | nil => cases h
  | cons c t ih =>
      rw [untilSeparator?] at h
      split at h
      · rename_i hbegins
        cases h
        exact ⟨rfl, beginsWith_mark_iff.mp hbegins⟩
      · obtain ⟨⟨later, last⟩, hlater, heq⟩ := Option.map_eq_some_iff.mp h
        cases heq
        obtain ⟨rfl, hrest⟩ := ih hlater
        exact ⟨rfl, hrest⟩

/-- A plain text ends where the first separator begins. -/
lemma untilSeparator?_mark (ht : isPlain t) (sep : Separator) (dest : Text) :
    untilSeparator? (t ++ (sep.mark ++ dest)) = some (t, sep.mark ++ dest) := by
  obtain ⟨-, -, harrow, hpipe, -⟩ := isPlain_iff.mp ht
  clear ht
  induction t with
  | nil => cases sep <;> rfl
  | cons c t ih =>
      have hbegins : ¬(beginsWith (c :: (t ++ (sep.mark ++ dest))) arrowMark ||
          beginsWith (c :: (t ++ (sep.mark ++ dest))) pipeMark) := by
        rw [beginsWith_mark_iff]
        rintro ⟨_ | _, rest, h⟩
        · -- the rest of the mark would be in the text or begin the separator
          have h : t ++ (sep.mark ++ dest) = '>' :: rest := (List.cons.inj h).2
          cases t with
          | nil => cases sep <;> cases (List.cons.inj h).1
          | cons d t => exact harrow ((List.cons.inj h).1 ▸ by simp)
        · have hc : c = '|' := (List.cons.inj h).1
          exact hpipe (hc ▸ List.mem_cons_self)
      rw [List.cons_append, untilSeparator?, if_neg hbegins, ih
        (fun h => harrow (List.mem_cons_of_mem _ h)) fun h => hpipe (List.mem_cons_of_mem _ h)]
      rfl

/-! ### Separators of reverse links -/

/-- Nothing of a text is lost around a separator. -/
lemma eq_of_mem_splits {sep : Text} {split : Text × Text} (h : split ∈ splits sep t) :
    t = split.1 ++ (sep ++ split.2) := by
  induction t generalizing split with
  | nil => cases h
  | cons c t ih =>
      have hlater : ∀ split ∈ (splits sep t).map fun later => (c :: later.1, later.2),
          c :: t = split.1 ++ (sep ++ split.2) := by
        intro split hsplit
        obtain ⟨later, hmem, rfl⟩ := List.mem_map.mp hsplit
        exact congrArg (c :: ·) (ih hmem)
      rw [splits] at h
      split at h
      · rename_i hafter
        rcases List.mem_cons.mp h with rfl | h
        · have hfront := after?_eq_some_iff.mp hafter
          exact hfront
        · exact hlater split h
      · exact hlater split h

/-- A text without a separator is not split. -/
lemma splits_eq_nil {sep : Text} (h : ¬sep <:+: t) : splits sep t = [] :=
  List.eq_nil_iff_forall_not_mem.mpr fun split hsplit =>
    h ⟨split.1, split.2, by rw [List.append_assoc, ← eq_of_mem_splits hsplit]⟩

/-- The last ways to split a text are those of its end. -/
lemma exists_splits_append (sep s t : Text) : ∃ early, splits sep (s ++ t) =
    early ++ (splits sep t).map fun split => (s ++ split.1, split.2) := by
  induction s with
  | nil => exact ⟨[], by simp⟩
  | cons c s ih =>
      obtain ⟨early, hearly⟩ := ih
      rw [List.cons_append, splits, hearly]
      cases after? sep (c :: (s ++ t)) with
      | none => exact ⟨early.map fun split => (c :: split.1, split.2), by simp [Function.comp_def]⟩
      | some rest =>
          exact ⟨([], rest) :: early.map fun split => (c :: split.1, split.2),
            by simp [Function.comp_def]⟩

/-- The separator of a reverse link does not reach over itself. -/
lemma splits_reverseMark (side : Text) : splits reverseMark (reverseMark ++ side) =
    ([], side) :: (splits reverseMark side).map fun split => (reverseMark ++ split.1, split.2) := by
  have hmark : reverseMark = ['<', '-'] := rfl
  rw [hmark, List.cons_append, List.singleton_append, splits, splits]
  simp [after?, Function.comp_def]

/-- A reverse link is split at a separator with a valid side behind it, if no separator in the
side has one. -/
lemma backward?_append {side text : Text} (hdest : dest ≠ []) (hside : textSide? side = some text)
    (hlater : ∀ split ∈ splits reverseMark side, textSide? split.2 = none) :
    backward? (dest ++ (reverseMark ++ side)) = some ⟨.reverseArrow, text, dest⟩ := by
  obtain ⟨early, hearly⟩ := exists_splits_append reverseMark dest (reverseMark ++ side)
  rw [backward?, hearly, splits_reverseMark, List.map_cons, List.map_map, List.reverse_append,
    List.reverse_cons, List.findSome?_append, List.findSome?_append,
    List.findSome?_eq_none_iff.mpr]
  · simp [hdest, hside]
  · intro split hsplit
    obtain ⟨later, hmem, rfl⟩ := List.mem_map.mp (List.mem_reverse.mp hsplit)
    simp [hlater later hmem]

/-- No separator in a quoted text has a valid side behind it. -/
lemma textSide?_of_mem_splits (hquote : isQuote quote) {split : Text × Text}
    (h : split ∈ splits reverseMark (quote :: escape quote t ++ [quote])) :
    textSide? split.2 = none := by
  obtain ⟨before, side⟩ := split
  rw [Option.eq_none_iff_forall_ne_some]
  intro text htext
  have hsplit : quote :: escape quote t ++ [quote] = before ++ ('<' :: '-' :: side) :=
    eq_of_mem_splits h
  -- the side ends in the quote, and so it would begin with one in the escaped text
  rcases List.eq_nil_or_concat side with rfl | ⟨start, last, rfl⟩
  · cases htext
  rw [List.concat_eq_append] at hsplit htext
  have hends : quote :: escape quote t ++ [quote] = (before ++ '<' :: '-' :: start) ++ [last] := by
    simpa using hsplit
  obtain ⟨hfront, hlast⟩ := List.append_inj' hends rfl
  obtain rfl : quote = last := (List.cons.inj hlast).1
  obtain ⟨inner, rfl⟩ := exists_of_textSide?_concat hquote htext
  cases before with
  | nil =>
      obtain rfl : quote = '<' := (List.cons.inj hfront).1
      exact absurd hquote (by decide)
  | cons first before =>
      have hescape : escape quote t = (before ++ ['<', '-']) ++ quote :: inner := by
        simpa using (List.cons.inj hfront).2
      obtain ⟨u, hu⟩ := exists_of_escape_eq (ne_backslash_of_isQuote hquote) hescape
      have hdash : (before ++ ['<']) ++ ['-'] = u ++ ['\\'] := by simpa using hu
      cases (List.append_inj' hdash rfl).2

/-! ### Forward links -/

/-- A text without separators is no forward link. -/
lemma forward?_of_isUndivided (h : IsUndivided t) : forward? t = none := by
  cases t with
  | nil => rfl
  | cons c t =>
      rw [forward?]
      split
      · refine List.findSome?_eq_none_iff.mpr fun side hside => ?_
        have hrest := eq_of_mem_closings (List.mem_filter.mp (List.mem_reverse.mp hside)).1
        rw [Option.map_eq_none_iff, Option.eq_none_iff_forall_ne_some]
        rintro ⟨style, dest⟩ hfound
        obtain ⟨sep, hsep, -⟩ := exists_of_destination? hfound
        exact h sep ⟨c :: (side.1 ++ [c]), dest, by simp [hrest, hsep]⟩
      · cases hcut : untilSeparator? (c :: t) with
        | none => rfl
        | some cut =>
            obtain ⟨ht, sep, dest, hsep⟩ := exists_of_untilSeparator? hcut
            exact absurd ⟨cut.1, dest, by rw [ht, hsep, List.append_assoc]⟩ (h sep)

/-- A forward link with a plain text is read as one. -/
lemma forward?_plain (ht : isPlain t) (sep : Separator) (hdest : dest ≠ []) :
    forward? (t ++ (sep.mark ++ dest)) = some ⟨sep.style, t, dest⟩ := by
  obtain ⟨c, rest, rfl, hquote⟩ := exists_cons_of_isPlain ht
  have hcut := untilSeparator?_mark ht sep dest
  rw [List.cons_append] at hcut
  rw [List.cons_append, forward?, if_neg hquote, hcut]
  simp only [ht, if_pos, destination?_mark sep hdest, Option.map_some]

/-- A forward link with a text in quotes is read as one, if the text does not end in a
backslash. -/
lemma forward?_quoted (hquote : isQuote quote) (ht : t ≠ []) (hlast : t.getLast? ≠ some '\\')
    (sep : Separator) (hdest : dest ≠ []) :
    forward? (quote :: escape quote t ++ [quote] ++ (sep.mark ++ dest)) =
      some ⟨sep.style, t, dest⟩ := by
  have hne := ne_backslash_of_isQuote hquote
  obtain ⟨early, hsides, -⟩ :=
    exists_quotedSides_escape hne ht (sep.mark ++ dest) fun h => absurd h hlast
  have hbody : quote :: escape quote t ++ [quote] ++ (sep.mark ++ dest) =
      quote :: (escape quote t ++ quote :: (sep.mark ++ dest)) := by simp
  rw [hbody, forward?, if_pos hquote, hsides, List.reverse_append, List.reverse_singleton,
    List.singleton_append, List.findSome?_cons]
  simp only [destination?_mark sep hdest, Option.map_some, unescape_escape hne]

/-- The first separator of a forward link stands behind that of a reverse link, if none stands
before it. -/
lemma mem_of_untilSeparator? (hdest : IsUndivided dest) {rest before after : Text}
    (h : untilSeparator? (dest ++ (reverseMark ++ rest)) = some (before, after)) :
    '<' ∈ before := by
  obtain ⟨heq, sep, last, rfl⟩ := exists_of_untilSeparator? h
  have hmark : '<' ∉ sep.mark := by cases sep <;> decide
  rcases List.append_eq_append_iff.mp heq with ⟨u, rfl, hrest⟩ | ⟨u, rfl, hrest⟩
  · cases u with
    | nil => cases sep <;> cases (List.cons.inj hrest).1
    | cons c u =>
        obtain rfl : '<' = c := (List.cons.inj hrest).1
        simp
  · -- the separator would be in the destination or hold the first character of the mark
    rcases List.append_eq_append_iff.mp hrest with ⟨w, rfl, -⟩ | ⟨w, hw, hover⟩
    · exact absurd ⟨before, w, by rw [List.append_assoc]⟩ (hdest sep)
    · cases w with
      | nil => exact absurd ⟨before, [], by simp [hw]⟩ (hdest sep)
      | cons c w =>
          obtain rfl : '<' = c := (List.cons.inj hover).1
          simp [hw] at hmark

/-- A text with the separator of a reverse link before any other separator is no forward
link. -/
lemma forward?_reverseMark (hdest : IsUndivided dest) (hne : dest ≠ [])
    (hhead : dest.head?.any isQuote = false) (rest : Text) :
    forward? (dest ++ (reverseMark ++ rest)) = none := by
  obtain ⟨c, start, rfl⟩ := List.exists_cons_of_ne_nil hne
  have hquote : ¬isQuote c := Bool.not_eq_true _ ▸ hhead
  rw [List.cons_append, forward?, if_neg hquote, ← List.cons_append]
  cases hcut : untilSeparator? (c :: start ++ (reverseMark ++ rest)) with
  | none => rfl
  | some cut =>
      have hplain : ¬isPlain cut.1 := fun h =>
        (isPlain_iff.mp h).2.1 (mem_of_untilSeparator? hdest hcut)
      simp [hplain]

end TweeStory.LinkBody
