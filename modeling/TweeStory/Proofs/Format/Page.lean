/-
The page of a story, as its format fills the slots of the template.

* `Slot`: the slots of a template;
* `IsPage`: the template with both slots filled at once, so that what is filled in is not looked
  at again;
* `isInert_slots`: no slot reaches over another;
* `IsPage.occurrences_le`, `IsPage.eq_of_occurrences_eq`: the slots for data that stand in the
  template stand in it when the name is filled in, and if there are no others, the page is right;
* `IsPage.length_eq`: the length of a page, by the slots of its template;
* `IsSetApart`, `IsPage.occurrences_replaceAll`: slots for the name that touch nothing that a slot
  for data is made of;
* `isPage_render_iff`: when the page of a format is right;
* `not_isPage_render_slotName`: it is not right if the name of the story is a slot.
-/
import Mathlib.Tactic.Linarith
import TweeStory.Format.Basic
import TweeStory.Proofs.Text.Occurrences

namespace TweeStory.StoryFormat

open Text

variable {storyName storyData template page : Text}

/-! ### Pages -/

/-- The slots of a template. -/
inductive Slot where
  | name
  | data
deriving DecidableEq, Repr

/-- A slot as it is written. -/
def Slot.mark : Slot → Text
  | name => "\x7b\x7bSTORY_NAME\x7d\x7d".toList
  | data => "\x7b\x7bSTORY_DATA\x7d\x7d".toList

lemma Slot.mark_ne_nil (slot : Slot) : slot.mark ≠ [] := by
  cases slot <;> decide

/-- The template with the name and the data of a story in all of its slots.  Only the template is
read: what is filled in stands in the page as it is. -/
inductive IsPage (storyName storyData : Text) : (template page : Text) → Prop
  | nil : IsPage storyName storyData [] []
  | name {template page : Text} (rest : IsPage storyName storyData template page) :
      IsPage storyName storyData (Slot.name.mark ++ template) (storyName ++ page)
  | data {template page : Text} (rest : IsPage storyName storyData template page) :
      IsPage storyName storyData (Slot.data.mark ++ template) (storyData ++ page)
  | text {c : Char} {template page : Text}
      (noName : beginsWith (c :: template) Slot.name.mark = false)
      (noData : beginsWith (c :: template) Slot.data.mark = false)
      (rest : IsPage storyName storyData template page) :
      IsPage storyName storyData (c :: template) (c :: page)

/-- Every template has a page. -/
lemma exists_isPage (storyName storyData template : Text) :
    ∃ page, IsPage storyName storyData template page := by
  induction hn : template.length using Nat.strong_induction_on generalizing template with
  | _ n ih =>
      have hrest {slot rest : Text} (hne : slot ≠ []) (ht : template = slot ++ rest) :
          ∃ page, IsPage storyName storyData rest page := by
        have hpos := List.length_pos_iff.mpr hne
        refine ih _ ?_ rest rfl
        rw [← hn, ht, List.length_append]
        omega
      by_cases hname : template.beginsWith Slot.name.mark
      · obtain ⟨rest, rfl⟩ := beginsWith_iff.mp hname
        obtain ⟨page, hpage⟩ := hrest Slot.name.mark_ne_nil rfl
        exact ⟨_, .name hpage⟩
      · by_cases hdata : template.beginsWith Slot.data.mark
        · obtain ⟨rest, rfl⟩ := beginsWith_iff.mp hdata
          obtain ⟨page, hpage⟩ := hrest Slot.data.mark_ne_nil rfl
          exact ⟨_, .data hpage⟩
        · cases template with
          | nil => exact ⟨_, .nil⟩
          | cons c rest =>
              obtain ⟨page, hpage⟩ := hrest (List.cons_ne_nil c []) rfl
              exact ⟨_, .text (by simpa using hname) (by simpa using hdata) hpage⟩

/-! ### Slots apart from each other -/

/-- **No slot begins in another one**, whatever stands behind it. -/
lemma isInert_slots :
    IsInert Slot.data.mark Slot.name.mark ∧ IsInert Slot.name.mark Slot.data.mark ∧
      IsInert Slot.name.mark Slot.name.mark.tail ∧ IsInert Slot.data.mark Slot.data.mark.tail := by
  refine ⟨?_, ?_, ?_, ?_⟩
  all_goals repeat' first | exact trivial | refine ⟨fun _ => rfl, ?_⟩

lemma occurrences_name_append (t : Text) :
    occurrences Slot.data.mark (Slot.name.mark ++ t) = occurrences Slot.data.mark t ∧
      occurrences Slot.name.mark (Slot.name.mark ++ t) = occurrences Slot.name.mark t + 1 :=
  ⟨occurrences_append_of_isInert isInert_slots.1 t,
    occurrences_needle_append isInert_slots.2.2.1 Slot.name.mark_ne_nil t⟩

lemma occurrences_data_append (t : Text) :
    occurrences Slot.data.mark (Slot.data.mark ++ t) = occurrences Slot.data.mark t + 1 ∧
      occurrences Slot.name.mark (Slot.data.mark ++ t) = occurrences Slot.name.mark t :=
  ⟨occurrences_needle_append isInert_slots.2.2.2 Slot.data.mark_ne_nil t,
    occurrences_append_of_isInert isInert_slots.2.1 t⟩

lemma replaceAll_data_append (t : Text) :
    (Slot.data.mark ++ t).replaceAll Slot.name.mark storyName =
      Slot.data.mark ++ t.replaceAll Slot.name.mark storyName :=
  replaceAll_append_of_isInert isInert_slots.2.1 t storyName

namespace IsPage

/-! ### The name first -/

/-- The slots for data of a template are there when the name is filled in. -/
lemma occurrences_le (h : IsPage storyName storyData template page) :
    occurrences Slot.data.mark template ≤
      occurrences Slot.data.mark (template.replaceAll Slot.name.mark storyName) := by
  induction h with
  | nil => exact Nat.zero_le _
  | @name template page _ ih =>
      rw [(occurrences_name_append template).1, replaceAll_append Slot.name.mark_ne_nil]
      exact ih.trans (le_occurrences_append storyName _)
  | @data template page _ ih =>
      rw [replaceAll_data_append, (occurrences_data_append _).1,
        (occurrences_data_append _).1]
      omega
  | @text c template page hname hdata _ ih =>
      rw [replaceAll_cons hname, occurrences_cons_of_beginsWith_eq_false hdata]
      exact ih.trans (le_occurrences_append [c] _)

/-- If there are no others, the data goes into the slots of the template. -/
lemma eq_of_occurrences_eq (h : IsPage storyName storyData template page)
    (heq : occurrences Slot.data.mark (template.replaceAll Slot.name.mark storyName) =
      occurrences Slot.data.mark template) :
    page = (template.replaceAll Slot.name.mark storyName).replaceAll Slot.data.mark storyData := by
  induction h with
  | nil => rfl
  | @name template page hpage ih =>
      rw [(occurrences_name_append template).1, replaceAll_append Slot.name.mark_ne_nil] at heq
      have hle := hpage.occurrences_le
      have hmore : occurrences Slot.data.mark (template.replaceAll Slot.name.mark storyName) ≤
          occurrences Slot.data.mark (storyName ++ template.replaceAll Slot.name.mark storyName) :=
        le_occurrences_append storyName _
      rw [replaceAll_append Slot.name.mark_ne_nil, replaceAll_append_of_occurrences_eq (by omega),
        ih (by omega)]
  | @data template page _ ih =>
      rw [replaceAll_data_append, (occurrences_data_append _).1,
        (occurrences_data_append _).1] at heq
      rw [replaceAll_data_append, replaceAll_append Slot.data.mark_ne_nil, ih (by omega)]
  | @text c template page hname hdata hpage ih =>
      rw [replaceAll_cons hname, occurrences_cons_of_beginsWith_eq_false hdata] at heq
      have hle := hpage.occurrences_le
      have hmore : occurrences Slot.data.mark (template.replaceAll Slot.name.mark storyName) ≤
          occurrences Slot.data.mark ([c] ++ template.replaceAll Slot.name.mark storyName) :=
        le_occurrences_append [c] _
      rw [List.singleton_append] at hmore
      have hone : occurrences Slot.data.mark ([c] ++ template.replaceAll Slot.name.mark storyName) =
          occurrences Slot.data.mark (template.replaceAll Slot.name.mark storyName) := by
        rw [List.singleton_append]
        omega
      have hpass := replaceAll_append_of_occurrences_eq hone storyData
      rw [List.singleton_append] at hpass
      rw [replaceAll_cons hname, hpass, ih (by omega), List.singleton_append]

/-! ### Lengths -/

/-- **The length of a page**, by the slots of its template. -/
lemma length_eq (h : IsPage storyName storyData template page) :
    page.length + occurrences Slot.name.mark template * Slot.name.mark.length +
        occurrences Slot.data.mark template * Slot.data.mark.length =
      template.length + occurrences Slot.name.mark template * storyName.length +
        occurrences Slot.data.mark template * storyData.length := by
  induction h with
  | nil => simp [occurrences]
  | @name template page _ ih =>
      obtain ⟨hdata, hname⟩ := occurrences_name_append template
      rw [hdata, hname, List.length_append, List.length_append, Nat.add_mul, Nat.add_mul]
      omega
  | @data template page _ ih =>
      obtain ⟨hdata, hname⟩ := occurrences_data_append template
      rw [hdata, hname, List.length_append, List.length_append, Nat.add_mul, Nat.add_mul]
      omega
  | @text c template page hname hdata _ ih =>
      rw [occurrences_cons_of_beginsWith_eq_false hname,
        occurrences_cons_of_beginsWith_eq_false hdata, List.length_cons, List.length_cons]
      omega

end IsPage

/-! ### Slots that are set apart -/

/-- Next to the slots for the name stands nothing that a slot for data is made of. -/
def IsSetApart (template : Text) : Prop :=
  ∀ before after, template = before ++ (Slot.name.mark ++ after) →
    (∀ c ∈ before.getLast?, c ∉ Slot.data.mark) ∧ ∀ c ∈ after.head?, c ∉ Slot.data.mark

lemma IsSetApart.of_append {s t : Text} (h : IsSetApart (s ++ t)) : IsSetApart t := by
  rintro before after rfl
  obtain ⟨hbefore, hafter⟩ := h (s ++ before) after (List.append_assoc s before _).symm
  refine ⟨fun c hc => hbefore c ?_, hafter⟩
  rw [List.getLast?_append, Option.mem_def.mp hc]
  rfl

/-- No slot for the name stands right behind a character of a slot for data. -/
lemma IsSetApart.beginsWith_eq_false {c : Char} {t : Text} (h : IsSetApart (c :: t))
    (hc : c ∈ Slot.data.mark) : beginsWith t Slot.name.mark = false := by
  rw [Bool.eq_false_iff, ne_eq, beginsWith_iff]
  rintro ⟨after, rfl⟩
  exact (h [c] after rfl).1 c rfl hc

/-- What a slot for data is made of and stands behind such a character was there before the name
was filled in. -/
lemma IsSetApart.beginsWith_of_replaceAll {c : Char} {w t : Text} (h : IsSetApart (c :: t))
    (hc : c ∈ Slot.data.mark) (hw : ∀ a ∈ w, a ∈ Slot.data.mark)
    (hbegins : beginsWith (t.replaceAll Slot.name.mark storyName) w) : beginsWith t w := by
  induction w generalizing c t with
  | nil => rfl
  | cons a w ih =>
      obtain ⟨ha, hlater⟩ := List.forall_mem_cons.mp hw
      cases t with
      | nil => exact hbegins
      | cons d t =>
          obtain ⟨rest, htext⟩ := beginsWith_iff.mp hbegins
          rw [replaceAll_cons (h.beginsWith_eq_false hc)] at htext
          obtain ⟨rfl, hrest⟩ := List.cons.inj htext
          have hapart : IsSetApart (d :: t) := IsSetApart.of_append (s := [c]) h
          obtain ⟨later, rfl⟩ :=
            beginsWith_iff.mp (ih hapart ha hlater (beginsWith_iff.mpr ⟨rest, hrest⟩))
          exact beginsWith_iff.mpr ⟨later, rfl⟩

/-- **Slots for data in a name** are found in each slot for the name that is set apart, and no
others come in. -/
lemma IsPage.occurrences_replaceAll (h : IsPage storyName storyData template page)
    (hapart : IsSetApart template) :
    occurrences Slot.data.mark (template.replaceAll Slot.name.mark storyName) =
      occurrences Slot.data.mark template +
        occurrences Slot.name.mark template * occurrences Slot.data.mark storyName := by
  induction h with
  | nil => simp [occurrences, replaceAll_nil]
  | @name template page _ ih =>
      have happend :
          occurrences Slot.data.mark (storyName ++ template.replaceAll Slot.name.mark storyName) =
          occurrences Slot.data.mark storyName +
            occurrences Slot.data.mark (template.replaceAll Slot.name.mark storyName) := by
        cases template with
        | nil => simp [replaceAll_nil, occurrences]
        | cons c rest =>
            have hc : c ∉ Slot.data.mark := (hapart [] (c :: rest) rfl).2 c rfl
            have hname : beginsWith (c :: rest) Slot.name.mark = false := by
              rw [Bool.eq_false_iff, ne_eq, beginsWith_iff]
              rintro ⟨after, hafter⟩
              obtain ⟨rfl, -⟩ := List.cons.inj hafter
              exact hc (by decide)
            rw [replaceAll_cons hname, occurrences_append_cons hc]
      obtain ⟨hdata, hname⟩ := occurrences_name_append template
      rw [replaceAll_append Slot.name.mark_ne_nil, happend, ih hapart.of_append, hdata, hname,
        Nat.add_mul]
      omega
  | @data template page _ ih =>
      obtain ⟨hdata, hname⟩ := occurrences_data_append template
      rw [replaceAll_data_append, (occurrences_data_append _).1, hdata, hname,
        ih hapart.of_append]
      omega
  | @text c template page hname hdata _ ih =>
      have hlater : IsSetApart template := IsSetApart.of_append (s := [c]) hapart
      have hbegins : beginsWith (c :: template.replaceAll Slot.name.mark storyName)
          Slot.data.mark = false := by
        rw [Bool.eq_false_iff, ne_eq, beginsWith_iff]
        rintro ⟨rest, hrest⟩
        -- the slot would stand in the template already
        obtain ⟨hc, hrest⟩ := List.cons.inj hrest
        have hbehind : beginsWith template Slot.data.mark.tail :=
          hapart.beginsWith_of_replaceAll (hc ▸ by decide) (fun a ha => List.mem_of_mem_tail ha)
            (beginsWith_iff.mpr ⟨rest, hrest⟩)
        obtain ⟨later, rfl⟩ := beginsWith_iff.mp hbehind
        rw [hc] at hdata
        exact absurd (beginsWith_iff.mpr ⟨later, rfl⟩) (Bool.eq_false_iff.mp hdata)
      rw [replaceAll_cons hname, occurrences_cons_of_beginsWith_eq_false hbegins,
        occurrences_cons_of_beginsWith_eq_false hname,
        occurrences_cons_of_beginsWith_eq_false hdata, ih hlater]

/-! ### Rendered pages -/

lemma render_eq (format : StoryFormat) (storyName storyData : Text) :
    format.render storyName storyData =
      (format.source.replaceAll Slot.name.mark storyName).replaceAll Slot.data.mark storyData :=
  rfl

/-- **A format fills its slots at once**, whatever the data is, exactly if the name of the story
brings in no slot for data.  It brings in none if it has none and the slots for it are set apart
in the template. -/
theorem isPage_render_iff (format : StoryFormat) (storyName : Text) :
    ((∀ storyData, IsPage storyName storyData format.source (format.render storyName storyData)) ↔
        occurrences Slot.data.mark (format.source.replaceAll Slot.name.mark storyName) =
          occurrences Slot.data.mark format.source) ∧
      (IsSetApart format.source → storyName.includes Slot.data.mark = false →
        ∀ storyData,
          IsPage storyName storyData format.source (format.render storyName storyData)) := by
  have hpage (heq : occurrences Slot.data.mark (format.source.replaceAll Slot.name.mark storyName) =
      occurrences Slot.data.mark format.source) (storyData : Text) :
      IsPage storyName storyData format.source (format.render storyName storyData) := by
    obtain ⟨page, hpage⟩ := exists_isPage storyName storyData format.source
    rw [render_eq, ← hpage.eq_of_occurrences_eq heq]
    exact hpage
  refine ⟨⟨fun h => ?_, hpage⟩, fun hapart hname => hpage ?_⟩
  · -- one character of data more is one character more for each slot
    have hlengths (storyData : Text) := And.intro (h storyData).length_eq
      (length_replaceAll isInert_slots.2.2.2 Slot.data.mark_ne_nil
        (format.source.replaceAll Slot.name.mark storyName) storyData)
    obtain ⟨hnone, hnone'⟩ := hlengths []
    obtain ⟨hone, hone'⟩ := hlengths ['x']
    simp only [render_eq, List.length_nil, List.length_singleton, Nat.mul_zero, Nat.mul_one]
      at hnone hnone' hone hone'
    omega
  · obtain ⟨page, hpage⟩ := exists_isPage storyName [] format.source
    rw [hpage.occurrences_replaceAll hapart,
      (occurrences_eq_zero_iff Slot.data.mark_ne_nil).mpr hname, Nat.mul_zero, Nat.add_zero]

/-- A template whose slots stand in elements. -/
def plainFormat : StoryFormat where
  name := "Plain".toList
  version := ['1']
  source := "<title>\x7b\x7bSTORY_NAME\x7d\x7d</title>\x7b\x7bSTORY_DATA\x7d\x7d".toList

theorem isPage_render_plainFormat :
    occurrences Slot.data.mark
        (plainFormat.source.replaceAll Slot.name.mark "A \x7b\x7bTale".toList) =
        occurrences Slot.data.mark plainFormat.source ∧
      ∀ storyData, IsPage "A \x7b\x7bTale".toList storyData plainFormat.source
        (plainFormat.render "A \x7b\x7bTale".toList storyData) := by
  have h : occurrences Slot.data.mark
      (plainFormat.source.replaceAll Slot.name.mark "A \x7b\x7bTale".toList) =
      occurrences Slot.data.mark plainFormat.source := by decide
  exact ⟨h, (isPage_render_iff plainFormat _).1.mpr h⟩

/-- The data of a story whose name is a slot stands in the place of the name too. -/
theorem not_isPage_render_slotName :
    ¬IsPage Slot.data.mark "<tw-storydata></tw-storydata>".toList plainFormat.source
      (plainFormat.render Slot.data.mark "<tw-storydata></tw-storydata>".toList) := by
  intro h
  exact absurd h.length_eq (by decide)

end TweeStory.StoryFormat
