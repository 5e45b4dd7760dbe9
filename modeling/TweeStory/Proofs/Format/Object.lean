/-
The object in the text of a format file, by the bytes between its bounds.

* `FallsBetween`, `StandsAt`: offsets between characters, and those at which a needle stands;
* `isLeast_of_cut?`, `isGreatest_of_cutLast?`: the cuts of a text are at the least and at the
  greatest of them;
* `IsBounds`, `object?_of_le`, `object?_of_lt`: the first opening brace and the last end mark,
  and what they are the bounds of if they are in order, and if not;
* `EndsBehind`, `endsBehind_iff`: when they are in order;
* `IsSafelyRead`, `isSafelyRead_iff`: so these are the files that are read without a slice that
  ends before it begins;
* `ofSource_eq_crossed_iff`, `not_isSafelyRead_crossed`: the others are not.
-/
import Mathlib.Order.Bounds.Basic
import TweeStory.Format.Basic
import TweeStory.Proofs.Source.Span
import TweeStory.Proofs.Text.Occurrences

namespace TweeStory

namespace Text

variable {needle s s' t before rest : Text} {offset : Nat}

/-! ### Offsets -/

/-- An offset falls between characters of a text. -/
def FallsBetween (t : Text) (offset : Nat) : Prop :=
  (t.takeBytes? offset).isSome

/-- A needle stands in a text at an offset. -/
def StandsAt (needle t : Text) (offset : Nat) : Prop :=
  ∃ before rest, t = before ++ needle ++ rest ∧ before.utf8Length = offset

lemma StandsAt.fallsBetween (h : StandsAt needle t offset) : FallsBetween t offset := by
  obtain ⟨before, rest, rfl, rfl⟩ := h
  rw [FallsBetween, List.append_assoc, takeBytes?_append]
  rfl

lemma standsAt_nil_iff : StandsAt needle [] offset ↔ needle = [] ∧ offset = 0 := by
  constructor
  · rintro ⟨before, rest, h, rfl⟩
    rw [eq_comm, List.append_eq_nil_iff, List.append_eq_nil_iff] at h
    rw [h.1.1]
    exact ⟨h.1.2, rfl⟩
  · rintro ⟨rfl, rfl⟩
    exact ⟨[], [], rfl, rfl⟩

/-- A needle stands in front of a text, or behind its first character. -/
lemma standsAt_cons_iff {c : Char} : StandsAt needle (c :: t) offset ↔
    (offset = 0 ∧ beginsWith (c :: t) needle) ∨
      ∃ i, StandsAt needle t i ∧ offset = c.utf8Size + i := by
  constructor
  · rintro ⟨before, rest, h, rfl⟩
    cases before with
    | nil => exact .inl ⟨rfl, beginsWith_iff.mpr ⟨rest, h⟩⟩
    | cons d before =>
        obtain ⟨rfl, rfl⟩ := List.cons.inj h
        exact .inr ⟨_, ⟨before, rest, rfl, rfl⟩, rfl⟩
  · rintro (⟨rfl, hbegins⟩ | ⟨_, ⟨before, rest, rfl, rfl⟩, rfl⟩)
    · obtain ⟨rest, h⟩ := beginsWith_iff.mp hbegins
      exact ⟨[], rest, h, rfl⟩
    · exact ⟨c :: before, rest, rfl, rfl⟩

/-- A needle stands behind the beginning of a text as it stands in the rest. -/
lemma standsAt_append_iff : StandsAt needle (s ++ t) (s.utf8Length + offset) ↔
    StandsAt needle t offset := by
  induction s with
  | nil => rw [List.nil_append, utf8Length_nil, Nat.zero_add]
  | cons c s ih =>
      have hpos := c.utf8Size_pos
      rw [List.cons_append, utf8Length_cons, Nat.add_assoc, standsAt_cons_iff, ← ih]
      constructor
      · rintro (⟨hzero, -⟩ | ⟨i, hi, heq⟩)
        · omega
        · rwa [Nat.add_left_cancel heq]
      · exact fun h => .inr ⟨_, h, rfl⟩

/-- **The first cut** is at the least offset at which the needle stands. -/
lemma isLeast_of_cut? (h : cut? needle t = some (before, rest)) :
    IsLeast {i | StandsAt needle t i} before.utf8Length := by
  refine ⟨⟨before, rest, eq_of_cut? h, rfl⟩, fun i (hi : StandsAt needle t i) => ?_⟩
  induction t generalizing before i with
  | nil =>
      obtain ⟨-, rfl⟩ := standsAt_nil_iff.mp hi
      have hnil := eq_of_cut? h
      rw [eq_comm, List.append_eq_nil_iff, List.append_eq_nil_iff] at hnil
      rw [hnil.1.1]
      exact Nat.le_refl 0
  | cons c t ih =>
      rw [cut?] at h
      cases hafter : after? needle (c :: t) with
      | some _ =>
          rw [hafter] at h
          cases h
          exact Nat.zero_le i
      | none =>
          rw [hafter] at h
          obtain ⟨⟨before, rest⟩, hcut, heq⟩ := Option.map_eq_some_iff.mp h
          cases heq
          rcases standsAt_cons_iff.mp hi with ⟨-, hbegins⟩ | ⟨j, hj, rfl⟩
          · rw [beginsWith, hafter] at hbegins
            cases hbegins
          · exact Nat.add_le_add_left (ih hcut j hj) _

/-- A needle stands somewhere in a text that it can be cut from. -/
lemma exists_cut? (h : StandsAt needle t offset) : ∃ cut, cut? needle t = some cut := by
  induction t generalizing offset with
  | nil =>
      obtain ⟨rfl, -⟩ := standsAt_nil_iff.mp h
      exact ⟨_, rfl⟩
  | cons c t ih =>
      rw [cut?]
      cases hafter : after? needle (c :: t) with
      | some rest => exact ⟨_, rfl⟩
      | none =>
          rcases standsAt_cons_iff.mp h with ⟨-, hbegins⟩ | ⟨i, hi, -⟩
          · rw [beginsWith, hafter] at hbegins
            cases hbegins
          · obtain ⟨cut, hcut⟩ := ih hi
            rw [hcut]
            exact ⟨_, rfl⟩

lemma exists_cutLast? (h : StandsAt needle t offset) : ∃ cut, cutLast? needle t = some cut := by
  induction t generalizing offset with
  | nil =>
      obtain ⟨rfl, -⟩ := standsAt_nil_iff.mp h
      exact ⟨_, rfl⟩
  | cons c t ih =>
      rw [cutLast?]
      rcases standsAt_cons_iff.mp h with ⟨-, hbegins⟩ | ⟨i, hi, -⟩
      · obtain ⟨rest, hafter⟩ := Option.isSome_iff_exists.mp hbegins
        rw [hafter]
        cases cutLast? needle t <;> exact ⟨_, rfl⟩
      · obtain ⟨cut, hcut⟩ := ih hi
        rw [hcut]
        exact ⟨_, rfl⟩

/-- **The last cut** is at the greatest offset at which the needle stands. -/
lemma isGreatest_of_cutLast? (h : cutLast? needle t = some (before, rest)) :
    IsGreatest {i | StandsAt needle t i} before.utf8Length := by
  refine ⟨⟨before, rest, eq_of_cutLast? h, rfl⟩, fun i (hi : StandsAt needle t i) => ?_⟩
  induction t generalizing before i with
  | nil =>
      obtain ⟨-, rfl⟩ := standsAt_nil_iff.mp hi
      exact Nat.zero_le _
  | cons c t ih =>
      rcases standsAt_cons_iff.mp hi with ⟨rfl, -⟩ | ⟨j, hj, rfl⟩
      · exact Nat.zero_le _
      · obtain ⟨⟨before, rest⟩, hcut⟩ := exists_cutLast? hj
        rw [cutLast?, hcut] at h
        cases h
        exact Nat.add_le_add_left (ih hcut j hj) _

lemma includes_iff {needle t : Text} : t.includes needle ↔ ∃ i, StandsAt needle t i := by
  rw [includes, Option.isSome_iff_exists]
  constructor
  · rintro ⟨⟨before, rest⟩, h⟩
    exact ⟨_, (isLeast_of_cut? h).1⟩
  · rintro ⟨i, h⟩
    exact exists_cut? h

lemma isPrefix_of_cut? (h : cut? needle t = some (before, rest)) : before <+: t := by
  rw [eq_of_cut? h, List.append_assoc]
  exact List.prefix_append before _

lemma isPrefix_of_cutLast? (h : cutLast? needle t = some (before, rest)) : before <+: t := by
  rw [eq_of_cutLast? h, List.append_assoc]
  exact List.prefix_append before _

/-- Of two beginnings of a text, the one with fewer characters is the one with fewer bytes. -/
lemma length_le_iff_utf8Length_le (h : s <+: t) (h' : s' <+: t) :
    s.length ≤ s'.length ↔ s.utf8Length ≤ s'.utf8Length := by
  induction s generalizing s' t with
  | nil => exact iff_of_true (Nat.zero_le _) (Nat.zero_le _)
  | cons c s ih =>
      have hpos := c.utf8Size_pos
      cases s' with
      | nil =>
          refine iff_of_false (Nat.not_succ_le_zero _) (Nat.not_le_of_lt ?_)
          exact Nat.add_pos_left hpos _
      | cons d s' =>
          obtain ⟨u, rfl⟩ := h
          rw [List.cons_append, List.cons_prefix_cons] at h'
          obtain ⟨rfl, htail⟩ := h'
          rw [List.length_cons, List.length_cons, Nat.add_le_add_iff_right,
            ih (List.prefix_append s u) htail, utf8Length_cons, utf8Length_cons,
            Nat.add_le_add_iff_left]

end Text

namespace StoryFormat

open Text

variable {contents : Text} {range : ByteRange}

/-! ### Bounds -/

/-- The bounds of the object in the text of a format file: where the first opening brace and where
the last end mark begin. -/
structure IsBounds (contents : Text) (range : ByteRange) : Prop where
  start : IsLeast {i | StandsAt ['\x7b'] contents i} range.start
  stop : IsGreatest {i | StandsAt (endMark contents) contents i} range.stop

/-- The bounds are the lengths of the two cuts, in bytes. -/
lemma IsBounds.exists_cuts (h : IsBounds contents range) : ∃ before behind upToEnd rest,
    cut? ['\x7b'] contents = some (before, behind) ∧ before.utf8Length = range.start ∧
      cutLast? (endMark contents) contents = some (upToEnd, rest) ∧
      upToEnd.utf8Length = range.stop ∧
      (before.length ≤ upToEnd.length ↔ range.start ≤ range.stop) := by
  obtain ⟨⟨before, behind⟩, hbefore⟩ := exists_cut? h.start.1
  obtain ⟨⟨upToEnd, rest⟩, hend⟩ := exists_cutLast? h.stop.1
  have hstart : before.utf8Length = range.start := (isLeast_of_cut? hbefore).unique h.start
  have hstop : upToEnd.utf8Length = range.stop := (isGreatest_of_cutLast? hend).unique h.stop
  have hlength :=
    length_le_iff_utf8Length_le (isPrefix_of_cut? hbefore) (isPrefix_of_cutLast? hend)
  rw [hstart, hstop] at hlength
  exact ⟨before, behind, upToEnd, rest, hbefore, hstart, hend, hstop, hlength⟩

/-- There is no object exactly if there are no bounds of one. -/
lemma object?_eq_noObject_iff :
    object? contents = .error .noObject ↔ ¬∃ range, IsBounds contents range := by
  rw [object?]
  constructor
  · rintro h ⟨range, hrange⟩
    obtain ⟨before, behind, upToEnd, rest, hbefore, -, hend, -, -⟩ := hrange.exists_cuts
    simp only [hbefore, hend] at h
    split at h <;> cases h
  · intro h
    split
    · rename_i hbefore hend
      exact absurd ⟨⟨_, _⟩, isLeast_of_cut? hbefore, isGreatest_of_cutLast? hend⟩ h
    · rfl

/-- **Bounds in order** are those of the object. -/
lemma object?_of_le (h : IsBounds contents range) (hle : range.start ≤ range.stop) :
    ∃ part, contents.slice? range = some part ∧ object? contents = .ok (part ++ ['\x7d']) := by
  obtain ⟨start, stop⟩ := range
  obtain ⟨before, behind, upToEnd, rest, hbefore, rfl, hend, rfl, hlength⟩ := h.exists_cuts
  have hprefix : before <+: upToEnd := List.prefix_of_prefix_length_le
    (isPrefix_of_cut? hbefore) (isPrefix_of_cutLast? hend) (hlength.mpr hle)
  obtain ⟨part, rfl⟩ := hprefix
  refine ⟨part, ?_, ?_⟩
  · rw [eq_of_cutLast? hend, utf8Length_append, List.append_assoc]
    exact slice?_append before part _
  · simp only [object?, hbefore, hend, if_pos (hlength.mpr hle), List.drop_left]

/-- **Crossed bounds** are none of an object. -/
lemma object?_of_lt (h : IsBounds contents range) (hlt : range.stop < range.start) :
    object? contents = .error .crossed := by
  obtain ⟨before, behind, upToEnd, rest, hbefore, -, hend, -, hlength⟩ := h.exists_cuts
  have hnot : ¬before.length ≤ upToEnd.length := fun hle =>
    Nat.not_le_of_lt hlt (hlength.mp hle)
  simp only [object?, hbefore, hend, if_neg hnot]

/-! ### Bounds in order -/

/-- If an end mark stands in the text of a format file, one stands behind the first opening
brace. -/
def EndsBehind (contents : Text) : Prop :=
  ∀ before behind, contents = before ++ '\x7b' :: behind → '\x7b' ∉ before →
    includes contents (endMark contents) → includes behind (endMark contents)

lemma endMark_ne_nil (contents : Text) : endMark contents ≠ [] := by
  rw [endMark]
  split <;> decide

lemma brace_notMem_endMark (contents : Text) : '\x7b' ∉ endMark contents := by
  rw [endMark]
  split <;> decide

/-- An end mark does not begin at a brace, so it stands in front of one or behind it. -/
lemma le_iff_includes {before behind mark : Text} {stop : Nat} (hne : mark ≠ [])
    (hmark : '\x7b' ∉ mark)
    (hstop : IsGreatest {i | StandsAt mark (before ++ '\x7b' :: behind) i} stop) :
    before.utf8Length ≤ stop ↔ includes behind mark := by
  constructor
  · intro hle
    obtain ⟨i, rfl⟩ := Nat.exists_eq_add_of_le hle
    rcases standsAt_cons_iff.mp (standsAt_append_iff.mp hstop.1) with ⟨-, hbegins⟩ | ⟨j, hj, -⟩
    · rw [beginsWith_cons_of_notMem hne hmark] at hbegins
      cases hbegins
    · exact includes_iff.mpr ⟨j, hj⟩
  · intro hincludes
    obtain ⟨j, hj⟩ := includes_iff.mp hincludes
    have hbrace : StandsAt mark ('\x7b' :: behind) ('\x7b'.utf8Size + j) :=
      standsAt_cons_iff.mpr (.inr ⟨j, hj, rfl⟩)
    exact (Nat.le_add_right _ _).trans (hstop.2 (standsAt_append_iff.mpr hbrace))

/-- **The bounds are in order** exactly if an end mark stands behind the first brace. -/
lemma endsBehind_iff : EndsBehind contents ↔
    ∀ range, IsBounds contents range → range.start ≤ range.stop := by
  have hne : endMark contents ≠ [] := endMark_ne_nil contents
  have hmark := brace_notMem_endMark contents
  have hstart {before behind : Text} (hcontents : contents = before ++ '\x7b' :: behind)
      (hbefore : '\x7b' ∉ before) :
      IsLeast {i | StandsAt ['\x7b'] contents i} before.utf8Length :=
    isLeast_of_cut? (hcontents ▸ cut?_append_of_notMem hbefore [] behind)
  constructor
  · intro h range hrange
    obtain ⟨part, rest, hpart, -⟩ := hrange.start.1
    have hmem : '\x7b' ∈ contents := by simp [hpart]
    obtain ⟨before, behind, hcontents, hbefore⟩ := List.eq_append_cons_of_mem hmem
    have hincludes := h before behind hcontents hbefore (includes_iff.mpr ⟨_, hrange.stop.1⟩)
    have hstop := hrange.stop
    -- the end mark depends on the contents, so it is fixed before they are taken apart
    rw [hrange.start.unique (hstart hcontents hbefore)]
    generalize endMark contents = mark at hne hmark hincludes hstop
    subst hcontents
    exact (le_iff_includes hne hmark hstop).mpr hincludes
  · intro h before behind hcontents hbefore hincludes
    obtain ⟨i, hi⟩ := includes_iff.mp hincludes
    obtain ⟨⟨upToEnd, rest⟩, hcut⟩ := exists_cutLast? hi
    have hstop := isGreatest_of_cutLast? hcut
    have hle := h ⟨_, _⟩ ⟨hstart hcontents hbefore, hstop⟩
    generalize endMark contents = mark at hne hmark hstop ⊢
    subst hcontents
    exact (le_iff_includes hne hmark hstop).mp hle

/-! ### Reading -/

/-- The text of a format file is read between bounds that fall between its characters and are in
order, so that there is a format or an error. -/
structure IsSafelyRead (contents : Text) : Prop where
  /-- The bounds are offsets between characters. -/
  between : ∀ range, IsBounds contents range →
    FallsBetween contents range.start ∧ FallsBetween contents range.stop
  /-- The bounds are in order. -/
  ordered : ∀ range, IsBounds contents range → range.start ≤ range.stop
  /-- The object is what stands between the bounds, and closed again. -/
  object : ∀ range, IsBounds contents range →
    ∃ part, contents.slice? range = some part ∧ object? contents = .ok (part ++ ['\x7d'])
  /-- There is no object exactly if there are no bounds of one. -/
  noObject : ofSource contents = .error .noObject ↔ ¬∃ range, IsBounds contents range
  /-- There is a format, or no object, or one that describes no format. -/
  answer : (∃ format, ofSource contents = .ok format) ∨
    ofSource contents = .error .noObject ∨ ofSource contents = .error .malformed

lemma ofSource_of_object?_error {e : FormatError} (h : object? contents = .error e) :
    ofSource contents = .error e := by
  rw [ofSource, h]

lemma ofSource_of_object?_ok {object : Text} (h : object? contents = .ok object) :
    (∃ format, ofSource contents = .ok format) ∨ ofSource contents = .error .malformed := by
  simp only [ofSource, h]
  cases (Json.parse? object).bind ofJson? with
  | none => exact .inr rfl
  | some format => exact .inl ⟨format, rfl⟩

lemma isSafelyRead_of_endsBehind (h : EndsBehind contents) : IsSafelyRead contents := by
  have hordered := endsBehind_iff.mp h
  have hobject := fun range (hrange : IsBounds contents range) =>
    object?_of_le hrange (hordered range hrange)
  have hread : (∃ range, IsBounds contents range) →
      (∃ format, ofSource contents = .ok format) ∨ ofSource contents = .error .malformed := by
    rintro ⟨range, hrange⟩
    obtain ⟨part, -, hpart⟩ := hobject range hrange
    exact ofSource_of_object?_ok hpart
  have hmissing : (¬∃ range, IsBounds contents range) → ofSource contents = .error .noObject :=
    fun hnone => ofSource_of_object?_error (object?_eq_noObject_iff.mpr hnone)
  exact
    { between := fun range hrange => ⟨hrange.start.1.fallsBetween, hrange.stop.1.fallsBetween⟩
      ordered := hordered
      object := hobject
      noObject := by
        refine ⟨fun hno hrange => ?_, hmissing⟩
        rcases hread hrange with ⟨format, hformat⟩ | hmalformed
        · rw [hformat] at hno
          cases hno
        · rw [hmalformed] at hno
          cases hno
      answer := by
        by_cases hrange : ∃ range, IsBounds contents range
        · exact (hread hrange).imp_right .inr
        · exact .inr (.inl (hmissing hrange)) }

lemma IsSafelyRead.ofSource_ne_crossed (h : IsSafelyRead contents) :
    ofSource contents ≠ .error .crossed := by
  intro hcrossed
  rcases h.answer with ⟨format, hanswer⟩ | hanswer | hanswer <;>
    · rw [hcrossed] at hanswer
      cases hanswer

/-- **The files that are read safely** are those in which an end mark stands behind the first
opening brace, if there are both. -/
theorem isSafelyRead_iff : IsSafelyRead contents ↔ EndsBehind contents :=
  ⟨fun h => endsBehind_iff.mpr h.ordered, isSafelyRead_of_endsBehind⟩

/-- In the other files the object would end before it begins. -/
theorem ofSource_eq_crossed_iff : ofSource contents = .error .crossed ↔ ¬EndsBehind contents := by
  constructor
  · exact fun hcrossed h => (isSafelyRead_of_endsBehind h).ofSource_ne_crossed hcrossed
  · intro h
    rw [endsBehind_iff] at h
    push Not at h
    obtain ⟨range, hrange, hlt⟩ := h
    exact ofSource_of_object?_error (object?_of_lt hrange hlt)

/-- A closing brace in front of an opening one ends an object before it begins. -/
theorem not_isSafelyRead_crossed : ¬IsSafelyRead "\x7d\x7b".toList :=
  fun h => h.ofSource_ne_crossed rfl

/-- So does code in front of the object, in a format that the word for code stands in. -/
example : ofSource ",\"setup\":harlowe\x7b\x7d".toList = .error .crossed := by
  decide

end StoryFormat

end TweeStory
