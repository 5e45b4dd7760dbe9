/-
The grammar of link bodies, and which of its shapes a body is read as.

* `IsSide`: the text sides of links, and the texts that they stand for;
* `IsForward`, `IsBackward`, `OccursOnce`: the ways to cut a body at a separator;
* `Reads`: the shapes of a body in the order in which they count;
* `textSide?_eq_some_iff`: the text sides that are read are those of the grammar;
* `exists_isForward`, `isSome_forward?`, `exists_isBackward`, `isSome_backward?`: links with a
  valid text are found, and the longest or the shortest text counts;
* `parse_eq_iff`: a body is read as the grammar says.
-/
import TweeStory.Proofs.Link.Cuts

namespace TweeStory.LinkBody

open Text

variable {quote : Char} {body side text dest t : Text} {sep : Separator}

/-! ### The grammar -/

/-- A text side of a link, and the text that it stands for.  A plain text stands for itself.  A
text in quotes, in which each of these quotes comes right after a backslash, stands for what is
left without these backslashes. -/
inductive IsSide : (side text : Text) → Prop
  | plain {t : Text} (ne_nil : t ≠ [])
      (plain : '<' ∉ t ∧ '>' ∉ t ∧ '|' ∉ t ∧ '\'' ∉ t ∧ '"' ∉ t) : IsSide t t
  | quoted {quote : Char} {inner : Text} (isQuote : isQuote quote) (ne_nil : inner ≠ [])
      (guarded : ∀ before after, inner = before ++ quote :: after →
        before.getLast? = some '\\') :
      IsSide (quote :: inner ++ [quote]) (inner.replaceAll ['\\', quote] [quote])

/-- A body is a text side, the separator of a forward link, and a destination. -/
structure IsForward (body side text : Text) (sep : Separator) (dest : Text) : Prop where
  body_eq : body = side ++ (sep.mark ++ dest)
  isSide : IsSide side text
  dest_ne_nil : dest ≠ []

/-- A body is a destination, the separator of a reverse link, and a text side. -/
structure IsBackward (body dest side text : Text) : Prop where
  body_eq : body = dest ++ ("<-".toList ++ side)
  isSide : IsSide side text
  dest_ne_nil : dest ≠ []

/-- A body is cut by the one occurrence of a separator in it. -/
structure OccursOnce (sep body before after : Text) : Prop where
  body_eq : body = before ++ (sep ++ after)
  unique : ∀ before' after', body = before' ++ (sep ++ after') → before' = before

/-- A body has a text side, a separator and a destination. -/
def IsWellFormed (body : Text) : Prop :=
  (∃ side text sep dest, IsForward body side text sep dest) ∨
    ∃ dest side text, IsBackward body dest side text

/-- What a body is read as.  Forward links come first, with the longest text side, and reverse
links second, with the shortest; a body that is neither is cut by the first separator that it has
exactly once, and is bare without one. -/
inductive Reads (body : Text) : LinkBody → Prop
  | forward {side text : Text} {sep : Separator} {dest : Text}
      (isForward : IsForward body side text sep dest)
      (longest : ∀ side' text' sep' dest', IsForward body side' text' sep' dest' →
        side'.length ≤ side.length) :
      Reads body ⟨sep.style, text, dest⟩
  | backward {dest side text : Text}
      (notForward : ¬∃ side text sep dest, IsForward body side text sep dest)
      (isBackward : IsBackward body dest side text)
      (shortest : ∀ dest' side' text', IsBackward body dest' side' text' →
        side.length ≤ side'.length) :
      Reads body ⟨.reverseArrow, text, dest⟩
  | malformedArrow {text dest : Text} (malformed : ¬IsWellFormed body)
      (arrow : OccursOnce "->".toList body text dest) :
      Reads body ⟨.malformedArrow, text, dest⟩
  | malformedReverse {dest text : Text} (malformed : ¬IsWellFormed body)
      (noArrow : ¬∃ before after, OccursOnce "->".toList body before after)
      (reverse : OccursOnce "<-".toList body dest text) :
      Reads body ⟨.malformedReverse, text, dest⟩
  | malformedPipe {text dest : Text} (malformed : ¬IsWellFormed body)
      (noArrow : ¬∃ before after, OccursOnce "->".toList body before after)
      (noReverse : ¬∃ before after, OccursOnce "<-".toList body before after)
      (pipe : OccursOnce "|".toList body text dest) :
      Reads body ⟨.malformedPipe, text, dest⟩
  | bare (malformed : ¬IsWellFormed body)
      (noArrow : ¬∃ before after, OccursOnce "->".toList body before after)
      (noReverse : ¬∃ before after, OccursOnce "<-".toList body before after)
      (noPipe : ¬∃ before after, OccursOnce "|".toList body before after) :
      Reads body ⟨.bare, body, body⟩

/-! ### Text sides -/

/-- A side that begins with a quote is a text in quotes. -/
lemma isSide_quoted_iff (hquote : isQuote quote) :
    IsSide (quote :: t) text ↔ ∃ inner, t = inner ++ [quote] ∧ inner ≠ [] ∧
      (∀ before after, inner = before ++ quote :: after → before.getLast? = some '\\') ∧
      text = unescape quote inner := by
  constructor
  · intro h
    cases h with
    | plain hne hplain =>
        exact absurd List.mem_cons_self (notMem_of_isPlain (isPlain_iff.mpr ⟨hne, hplain⟩) hquote)
    | quoted _ hne hguarded => exact ⟨_, rfl, hne, hguarded, rfl⟩
  · rintro ⟨inner, rfl, hne, hguarded, rfl⟩
    exact .quoted hquote hne hguarded

/-- A side that does not begin with a quote is plain. -/
lemma isSide_unquoted_iff {c : Char} (hquote : ¬isQuote c) :
    IsSide (c :: t) text ↔ isPlain (c :: t) ∧ text = c :: t := by
  rw [isPlain_iff]
  constructor
  · intro h
    cases h with
    | plain hne hplain => exact ⟨⟨hne, hplain⟩, rfl⟩
    | quoted hopen _ _ => exact absurd hopen hquote
  · rintro ⟨⟨hne, hplain⟩, rfl⟩
    exact .plain hne hplain

lemma IsSide.ne_nil (h : IsSide side text) : side ≠ [] := by
  cases h with
  | plain hne _ => exact hne
  | quoted _ _ _ => simp

/-- **The text sides that are read** are those of the grammar. -/
lemma textSide?_eq_some_iff : textSide? side = some text ↔ IsSide side text := by
  cases side with
  | nil => exact ⟨fun h => (by cases h), fun h => absurd rfl h.ne_nil⟩
  | cons c t =>
      rw [textSide?]
      split
      · rename_i hquote
        rw [isSide_quoted_iff hquote, Option.map_eq_some_iff]
        constructor
        · rintro ⟨⟨inner, rest⟩, hfind, rfl⟩
          obtain rfl : rest = [] := by simpa using List.find?_some hfind
          obtain ⟨ht, hne, hguarded⟩ := mem_quotedSides_iff.mp (List.mem_of_find?_eq_some hfind)
          exact ⟨inner, ht, hne, hguarded, rfl⟩
        · rintro ⟨inner, ht, hne, hguarded, rfl⟩
          have hmem : (inner, []) ∈ quotedSides c t :=
            mem_quotedSides_iff.mpr ⟨ht, hne, hguarded⟩
          obtain ⟨⟨inner', rest⟩, hfind⟩ := Option.isSome_iff_exists.mp
            (List.find?_isSome.mpr ⟨_, hmem, rfl⟩ :
              ((quotedSides c t).find? fun side => side.2.isEmpty).isSome)
          obtain rfl : rest = [] := by simpa using List.find?_some hfind
          have ht' := (mem_quotedSides_iff.mp (List.mem_of_find?_eq_some hfind)).1
          obtain ⟨rfl, -⟩ := List.append_inj' (ht'.symm.trans ht) rfl
          exact ⟨_, hfind, rfl⟩
      · rename_i hquote
        rw [isSide_unquoted_iff hquote]
        split
        · rename_i hplain
          simp [hplain, eq_comm]
        · rename_i hplain
          simp [hplain]

/-! ### Forward links -/

/-- A forward link that begins with a quote has one of the ways to close it in front of its
separator. -/
lemma isForward_quoted_iff (hquote : isQuote quote) :
    IsForward (quote :: t) side text sep dest ↔
      ∃ inner, (inner, sep.mark ++ dest) ∈ quotedSides quote t ∧
        side = quote :: inner ++ [quote] ∧ text = unescape quote inner ∧ dest ≠ [] := by
  constructor
  · rintro ⟨hbody, hside, hdest⟩
    obtain ⟨c, rest, rfl⟩ := List.exists_cons_of_ne_nil hside.ne_nil
    obtain ⟨rfl, ht⟩ := List.cons.inj hbody
    obtain ⟨inner, rfl, hne, hguarded, rfl⟩ := (isSide_quoted_iff hquote).mp hside
    exact ⟨inner, mem_quotedSides_iff.mpr ⟨by simpa using ht, hne, hguarded⟩, rfl, rfl, hdest⟩
  · rintro ⟨inner, hmem, rfl, rfl, hdest⟩
    obtain ⟨rfl, hne, hguarded⟩ := mem_quotedSides_iff.mp hmem
    exact ⟨by simp, .quoted hquote hne hguarded, hdest⟩

/-- A forward link that does not begin with a quote has a plain text, which ends where the first
separator begins. -/
lemma IsForward.of_unquoted {c : Char} (h : IsForward (c :: t) side text sep dest)
    (hquote : ¬isQuote c) : isPlain side ∧ text = side ∧
      untilSeparator? (c :: t) = some (side, sep.mark ++ dest) := by
  obtain ⟨d, rest, rfl⟩ := List.exists_cons_of_ne_nil h.isSide.ne_nil
  obtain ⟨rfl, -⟩ := List.cons.inj h.body_eq
  obtain ⟨hplain, htext⟩ := (isSide_unquoted_iff hquote).mp h.isSide
  exact ⟨hplain, htext, h.body_eq ▸ untilSeparator?_mark hplain sep dest⟩

/-- A forward link that is read is one by the grammar, with the longest text side. -/
lemma exists_isForward {link : LinkBody} (h : forward? body = some link) :
    ∃ side text sep dest, IsForward body side text sep dest ∧
      (∀ side' text' sep' dest', IsForward body side' text' sep' dest' →
        side'.length ≤ side.length) ∧
      link = ⟨sep.style, text, dest⟩ := by
  cases body with
  | nil => cases h
  | cons c t =>
      rw [forward?] at h
      split at h
      · rename_i hquote
        obtain ⟨⟨inner, rest⟩, hmem, hread, hlongest⟩ :=
          (areOrdered_quotedSides c t).exists_longest h
        obtain ⟨⟨style, dest⟩, hdest, rfl⟩ := Option.map_eq_some_iff.mp hread
        obtain ⟨sep, rfl, rfl, hne⟩ := exists_of_destination? hdest
        refine ⟨c :: inner ++ [c], unescape c inner, sep, dest,
          (isForward_quoted_iff hquote).mpr ⟨inner, hmem, rfl, rfl, hne⟩, ?_, rfl⟩
        intro side' text' sep' dest' h'
        obtain ⟨inner', hmem', rfl, rfl, hne'⟩ := (isForward_quoted_iff hquote).mp h'
        have hle := hlongest _ hmem' (by simp [destination?_mark sep' hne'])
        simpa using hle
      · rename_i hquote
        cases hcut : untilSeparator? (c :: t) with
        | none => simp [hcut] at h
        | some cut =>
            obtain ⟨before, rest⟩ := cut
            simp only [hcut] at h
            split at h
            · rename_i hplain
              obtain ⟨⟨style, dest⟩, hdest, rfl⟩ := Option.map_eq_some_iff.mp h
              obtain ⟨sep, rfl, rfl, hne⟩ := exists_of_destination? hdest
              obtain ⟨hbody, -⟩ := exists_of_untilSeparator? hcut
              obtain ⟨hnil, hall⟩ := isPlain_iff.mp hplain
              refine ⟨before, before, sep, dest, ⟨hbody, .plain hnil hall, hne⟩, ?_, rfl⟩
              intro side' text' sep' dest' h'
              have hcut' := (h'.of_unquoted hquote).2.2
              rw [hcut] at hcut'
              rw [(Prod.mk.inj (Option.some.inj hcut')).1]
            · cases h

/-- A forward link by the grammar is found. -/
lemma IsForward.isSome_forward? (h : IsForward body side text sep dest) :
    (forward? body).isSome := by
  cases body with
  | nil => exact absurd (List.append_eq_nil_iff.mp h.body_eq.symm).1 h.isSide.ne_nil
  | cons c t =>
      rw [forward?]
      split
      · rename_i hquote
        obtain ⟨inner, hmem, -, -, hdest⟩ := (isForward_quoted_iff hquote).mp h
        rw [List.findSome?_isSome_iff]
        exact ⟨_, List.mem_reverse.mpr hmem, by simp [destination?_mark sep hdest]⟩
      · rename_i hquote
        obtain ⟨hplain, -, hcut⟩ := h.of_unquoted hquote
        simp [hcut, hplain, destination?_mark sep h.dest_ne_nil]

lemma forward?_eq_none_iff :
    forward? body = none ↔ ¬∃ side text sep dest, IsForward body side text sep dest := by
  constructor
  · rintro hnone ⟨side, text, sep, dest, hlink⟩
    simpa [hnone] using hlink.isSome_forward?
  · refine fun hno => Option.eq_none_iff_forall_ne_some.mpr fun link hlink => hno ?_
    obtain ⟨side, text, sep, dest, hlink, -⟩ := exists_isForward hlink
    exact ⟨side, text, sep, dest, hlink⟩

/-- The text side of a forward link determines the link. -/
lemma IsForward.eq_of_length_eq {side' text' dest' : Text} {sep' : Separator}
    (h : IsForward body side text sep dest) (h' : IsForward body side' text' sep' dest')
    (hlength : side.length = side'.length) :
    (⟨sep.style, text, dest⟩ : LinkBody) = ⟨sep'.style, text', dest'⟩ := by
  obtain ⟨rfl, hrest⟩ := List.append_inj (h.body_eq.symm.trans h'.body_eq) hlength
  have htext := textSide?_eq_some_iff.mpr h.isSide
  rw [textSide?_eq_some_iff.mpr h'.isSide] at htext
  have hdest := destination?_mark sep h.dest_ne_nil
  rw [hrest, destination?_mark sep' h'.dest_ne_nil] at hdest
  obtain ⟨hstyle, rfl⟩ := Prod.mk.inj (Option.some.inj hdest)
  rw [Option.some.inj htext, hstyle]

/-! ### Reverse links -/

lemma mem_splits_reverseMark_iff :
    (dest, side) ∈ splits reverseMark body ↔ body = dest ++ (reverseMark ++ side) :=
  mem_splits_iff (by decide)

/-- A reverse link that is read is one by the grammar, with the shortest text side. -/
lemma exists_isBackward {link : LinkBody} (h : backward? body = some link) :
    ∃ dest side text, IsBackward body dest side text ∧
      (∀ dest' side' text', IsBackward body dest' side' text' → side.length ≤ side'.length) ∧
      link = ⟨.reverseArrow, text, dest⟩ := by
  obtain ⟨⟨dest, side⟩, hmem, hread, hlongest⟩ :=
    (areOrdered_splits reverseMark body).exists_longest h
  have hbody := mem_splits_reverseMark_iff.mp hmem
  simp only [Option.ite_none_left_eq_some, Option.map_eq_some_iff] at hread
  obtain ⟨hdest, text, htext, rfl⟩ := hread
  refine ⟨dest, side, text, ⟨hbody, textSide?_eq_some_iff.mp htext, by simpa using hdest⟩, ?_, rfl⟩
  intro dest' side' text' h'
  have hle := hlongest (dest', side') (mem_splits_reverseMark_iff.mpr h'.body_eq)
    (by simp [h'.dest_ne_nil, textSide?_eq_some_iff.mpr h'.isSide])
  have hlength := congrArg List.length (hbody.symm.trans h'.body_eq)
  simp only [List.length_append, reverseMark] at hlength hle
  omega

/-- A reverse link by the grammar is found. -/
lemma IsBackward.isSome_backward? (h : IsBackward body dest side text) :
    (backward? body).isSome := by
  rw [backward?, List.findSome?_isSome_iff]
  exact ⟨(dest, side), List.mem_reverse.mpr (mem_splits_reverseMark_iff.mpr h.body_eq),
    by simp [h.dest_ne_nil, textSide?_eq_some_iff.mpr h.isSide]⟩

lemma backward?_eq_none_iff :
    backward? body = none ↔ ¬∃ dest side text, IsBackward body dest side text := by
  constructor
  · rintro hnone ⟨dest, side, text, hlink⟩
    simpa [hnone] using hlink.isSome_backward?
  · refine fun hno => Option.eq_none_iff_forall_ne_some.mpr fun link hlink => hno ?_
    obtain ⟨dest, side, text, hlink, -⟩ := exists_isBackward hlink
    exact ⟨dest, side, text, hlink⟩

/-- The text side of a reverse link determines the link. -/
lemma IsBackward.eq_of_length_eq {dest' side' text' : Text} (h : IsBackward body dest side text)
    (h' : IsBackward body dest' side' text') (hlength : side.length = side'.length) :
    (⟨.reverseArrow, text, dest⟩ : LinkBody) = ⟨.reverseArrow, text', dest'⟩ := by
  have heq := h.body_eq.symm.trans h'.body_eq
  obtain ⟨rfl, hrest⟩ := List.append_inj' heq (by simp [hlength])
  have htext := textSide?_eq_some_iff.mpr h.isSide
  rw [List.append_cancel_left hrest, textSide?_eq_some_iff.mpr h'.isSide] at htext
  rw [Option.some.inj htext]

/-! ### Other bodies -/

/-- A single split is the one occurrence of the separator. -/
lemma splits_eq_singleton_iff {mark before after : Text} (hmark : mark ≠ []) :
    splits mark body = [(before, after)] ↔ OccursOnce mark body before after := by
  constructor
  · intro h
    refine ⟨eq_of_mem_splits (h ▸ List.mem_singleton_self _), fun before' after' heq => ?_⟩
    have hmem : (before', after') ∈ splits mark body := (mem_splits_iff hmark).mpr heq
    rw [h, List.mem_singleton] at hmem
    exact congrArg Prod.fst hmem
  · rintro ⟨hbody, hunique⟩
    have hmem : (before, after) ∈ splits mark body := (mem_splits_iff hmark).mpr hbody
    have hordered := areOrdered_splits mark body
    match hsplits : splits mark body with
    | [] =>
        rw [hsplits] at hmem
        cases hmem
    | [cut] =>
        rw [hsplits] at hmem
        rw [List.mem_singleton.mp hmem]
    | cut :: next :: rest =>
        -- two splits would be two occurrences
        rw [hsplits] at hordered
        have hlt := List.rel_of_pairwise_cons hordered (List.mem_cons_self (a := next))
        have hsame : ∀ other ∈ splits mark body, other.1 = before :=
          fun other hother => hunique _ _ (eq_of_mem_splits hother)
        rw [hsame cut (by simp [hsplits]), hsame next (by simp [hsplits])] at hlt
        exact absurd hlt (lt_irrefl _)

/-- A separator that does not occur once does not give a single split. -/
lemma forall_splits_ne_iff {mark : Text} (hmark : mark ≠ []) :
    (∀ before after, splits mark body ≠ [(before, after)]) ↔
      ¬∃ before after, OccursOnce mark body before after := by
  simp [splits_eq_singleton_iff hmark]

/-- A body that is not well-formed is read by the first separator that it has once. -/
lemma reads_fallback (h : ¬IsWellFormed body) : Reads body (fallback body) := by
  have honce {mark before after : Text} (hmark : mark ≠ [])
      (hsplits : splits mark body = [(before, after)]) : OccursOnce mark body before after :=
    (splits_eq_singleton_iff hmark).mp hsplits
  rw [fallback]
  split
  · exact .malformedArrow h (honce (by decide) ‹_›)
  · rename_i harrow
    have harrow := (forall_splits_ne_iff (by decide)).mp harrow
    split
    · exact .malformedReverse h harrow (honce (by decide) ‹_›)
    · rename_i hreverse
      have hreverse := (forall_splits_ne_iff (by decide)).mp hreverse
      split
      · exact .malformedPipe h harrow hreverse (honce (by decide) ‹_›)
      · rename_i hpipe
        exact .bare h harrow hreverse ((forall_splits_ne_iff (by decide)).mp hpipe)

/-- A body that is not well-formed is read neither as a forward link nor as a reverse one. -/
lemma parse_of_not_isWellFormed (h : ¬IsWellFormed body) : parse body = fallback body := by
  obtain ⟨hforward, hbackward⟩ := not_or.mp h
  rw [parse, forward?_eq_none_iff.mpr hforward, backward?_eq_none_iff.mpr hbackward]
  rfl

/-! ### All bodies -/

/-- What a body is read as is one of its shapes by the grammar. -/
lemma reads_parse (body : Text) : Reads body (parse body) := by
  rw [parse]
  cases hforward : forward? body with
  | some link =>
      obtain ⟨side, text, sep, dest, hlink, hlongest, rfl⟩ := exists_isForward hforward
      exact .forward hlink hlongest
  | none =>
      have hno := forward?_eq_none_iff.mp hforward
      cases hbackward : backward? body with
      | some link =>
          obtain ⟨dest, side, text, hlink, hshortest, rfl⟩ := exists_isBackward hbackward
          exact .backward hno hlink hshortest
      | none => exact reads_fallback (not_or.mpr ⟨hno, backward?_eq_none_iff.mp hbackward⟩)

/-- The grammar gives a body no other shape than the one that it is read as. -/
lemma Reads.parse_eq {link : LinkBody} (h : Reads body link) : parse body = link := by
  cases h with
  | forward hlink hlongest =>
      obtain ⟨found, hfound⟩ := Option.isSome_iff_exists.mp hlink.isSome_forward?
      obtain ⟨side', text', sep', dest', hlink', hlongest', rfl⟩ := exists_isForward hfound
      rw [parse, hfound]
      exact hlink'.eq_of_length_eq hlink
        (le_antisymm (hlongest _ _ _ _ hlink') (hlongest' _ _ _ _ hlink))
  | backward hno hlink hshortest =>
      obtain ⟨found, hfound⟩ := Option.isSome_iff_exists.mp hlink.isSome_backward?
      obtain ⟨dest', side', text', hlink', hshortest', rfl⟩ := exists_isBackward hfound
      rw [parse, forward?_eq_none_iff.mpr hno, hfound]
      exact hlink'.eq_of_length_eq hlink
        (le_antisymm (hshortest' _ _ _ hlink) (hshortest _ _ _ hlink'))
  | malformedArrow hill harrow =>
      rw [parse_of_not_isWellFormed hill, fallback, arrowMark,
        (splits_eq_singleton_iff (by decide)).mpr harrow]
  | malformedReverse hill harrow hreverse =>
      rw [parse_of_not_isWellFormed hill, fallback, reverseMark,
        (splits_eq_singleton_iff (by decide)).mpr hreverse]
      split
      · exact absurd ‹_› ((forall_splits_ne_iff (by decide)).mpr harrow _ _)
      · rfl
  | malformedPipe hill harrow hreverse hpipe =>
      rw [parse_of_not_isWellFormed hill, fallback, pipeMark,
        (splits_eq_singleton_iff (by decide)).mpr hpipe]
      split
      · exact absurd ‹_› ((forall_splits_ne_iff (by decide)).mpr harrow _ _)
      · split
        · exact absurd ‹_› ((forall_splits_ne_iff (by decide)).mpr hreverse _ _)
        · rfl
  | bare hill harrow hreverse hpipe =>
      rw [parse_of_not_isWellFormed hill, fallback]
      split
      · exact absurd ‹_› ((forall_splits_ne_iff (by decide)).mpr harrow _ _)
      · split
        · exact absurd ‹_› ((forall_splits_ne_iff (by decide)).mpr hreverse _ _)
        · split
          · exact absurd ‹_› ((forall_splits_ne_iff (by decide)).mpr hpipe _ _)
          · rfl

/-- **A body is read as the grammar says**, whatever the body is. -/
theorem parse_eq_iff {link : LinkBody} : parse body = link ↔ Reads body link :=
  ⟨fun h => h ▸ reads_parse body, Reads.parse_eq⟩

/-- The longest text in quotes counts, though a shorter one has a separator behind it. -/
example : parse "'up\\'->in'->Hall".toList = ⟨.arrow, "up'->in".toList, "Hall".toList⟩ := by
  decide

end TweeStory.LinkBody
