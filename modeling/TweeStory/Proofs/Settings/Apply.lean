/-
What a text of settings does to the settings of a build.

* `SettingLine.ofLine?`: what a line sets, if it sets anything;
* `Text.IsFollowable`, `Text.FaultAt`: texts whose lines can all be followed, and the first
  line of a text that cannot be;
* `BuildSettings.followed`: the settings after all lines of a text;
* `apply_of_isFollowable`, `apply_of_faultAt`: a text is followed as a whole or not at all;
* `ifidSpecified_followed_iff`: where the IFID is set.
-/
import Mathlib.Data.List.Basic
import Mathlib.Tactic.Lemma
import TweeStory.Settings.Basic

namespace TweeStory

/-! ### Lines of settings -/

/-- What a line sets, if it can be followed and is no comment. -/
def SettingLine.ofLine? (line : Text) : Option SettingLine :=
  match parse line with
  | .ok set => set
  | .error _ => none

/-- Every line of the text can be followed. -/
def Text.IsFollowable (content : Text) : Prop :=
  ∀ line ∈ content.lines, (SettingLine.parse line).isOk

/-- Of a list of lines, the one with number `i`, counting from 0, is the first that cannot
be followed, for the reason `e`. -/
structure SettingLine.FirstFault (lines : List Text) (i : Nat) (e : DirectiveError) : Prop where
  fault : ∃ line, lines[i]? = some line ∧ parse line = .error e
  first : ∀ line ∈ lines.take i, (parse line).isOk

/-- The line with number `i` is the first of the text that cannot be followed. -/
def Text.FaultAt (content : Text) (i : Nat) (e : DirectiveError) : Prop :=
  SettingLine.FirstFault content.lines i e

namespace SettingLine

variable {line : Text} {lines : List Text} {i : Nat} {e : DirectiveError}

lemma ofLine?_eq_some_iff {set : SettingLine} :
    ofLine? line = some set ↔ parse line = .ok (some set) := by
  rw [ofLine?]
  cases parse line <;> simp

/-- The first fault of lines is that of the first line, or the first of the others. -/
lemma firstFault_cons_iff :
    FirstFault (line :: lines) i e ↔
      (i = 0 ∧ parse line = .error e) ∨
        ∃ j, i = j + 1 ∧ (parse line).isOk ∧ FirstFault lines j e := by
  cases i with
  | zero =>
      refine ⟨fun h => ?_, fun h => ?_⟩
      · obtain ⟨_, hline, hparse⟩ := h.fault
        exact Or.inl ⟨rfl, Option.some.inj hline ▸ hparse⟩
      · obtain ⟨-, hparse⟩ | ⟨j, hj, -⟩ := h
        · exact ⟨⟨line, rfl, hparse⟩, fun _ hmem => (by cases hmem)⟩
        · cases hj
  | succ j =>
      refine ⟨fun h => ?_, fun h => ?_⟩
      · obtain ⟨hline, hfirst⟩ := List.forall_mem_cons.mp h.first
        exact Or.inr ⟨j, rfl, hline, h.fault, hfirst⟩
      · obtain ⟨hzero, -⟩ | ⟨k, hk, hline, hrest⟩ := h
        · cases hzero
        · obtain rfl := Nat.succ.inj hk
          exact ⟨hrest.fault, List.forall_mem_cons.mpr ⟨hline, hrest.first⟩⟩

/-- Lines can all be followed, or there is a first fault among them. -/
lemma isOk_or_exists_firstFault (lines : List Text) :
    (∀ line ∈ lines, (parse line).isOk) ∨ ∃ i e, FirstFault lines i e := by
  induction lines with
  | nil => exact Or.inl (by simp)
  | cons line lines ih =>
      cases hparse : parse line with
      | error e => exact Or.inr ⟨0, e, firstFault_cons_iff.mpr (Or.inl ⟨rfl, hparse⟩)⟩
      | ok found =>
          have hline : (parse line).isOk := by rw [hparse]; rfl
          obtain hrest | ⟨i, e, hrest⟩ := ih
          · exact Or.inl (List.forall_mem_cons.mpr ⟨hline, hrest⟩)
          · exact Or.inr ⟨i + 1, e, firstFault_cons_iff.mpr (Or.inr ⟨i, rfl, hline, hrest⟩)⟩

lemma FirstFault.not_isOk (h : FirstFault lines i e) : ¬∀ line ∈ lines, (parse line).isOk := by
  obtain ⟨line, hline, hparse⟩ := h.fault
  intro hall
  have hok := hall line (List.mem_of_getElem? hline)
  rw [hparse] at hok
  cases hok

end SettingLine

/-! ### Texts of settings -/

lemma Text.not_isFollowable_iff {content : Text} :
    ¬content.IsFollowable ↔ ∃ i e, content.FaultAt i e := by
  refine ⟨fun h => ?_, fun ⟨i, e, h⟩ => h.not_isOk⟩
  exact (SettingLine.isOk_or_exists_firstFault content.lines).resolve_left h

namespace BuildSettings

open SettingLine

/-- The settings after all lines of a text. -/
def followed (settings : BuildSettings) (content : Text) : BuildSettings :=
  (content.lines.filterMap ofLine?).foldl set settings

variable {settings settings' : BuildSettings} {lines : List Text} {content : Text} {i : Nat}
  {e : DirectiveError}

lemma readLines_of_isOk (n : Nat) (h : ∀ line ∈ lines, (parse line).isOk) :
    readLines n lines = .ok (lines.filterMap ofLine?) := by
  induction lines generalizing n with
  | nil => rfl
  | cons line lines ih =>
      obtain ⟨hline, hrest⟩ := List.forall_mem_cons.mp h
      rw [readLines, ih (n + 1) hrest, List.filterMap_cons, ofLine?]
      cases hparse : parse line with
      | error e =>
          rw [hparse] at hline
          cases hline
      | ok found => cases found <;> rfl

/-- Reading stops at the first line that cannot be followed. -/
lemma readLines_of_firstFault (n : Nat) (h : FirstFault lines i e) :
    readLines n lines = .error (n + i, e) := by
  induction lines generalizing n i with
  | nil =>
      obtain ⟨_, hline, -⟩ := h.fault
      cases hline
  | cons line lines ih =>
      rw [readLines]
      obtain ⟨rfl, hparse⟩ | ⟨j, rfl, hline, hrest⟩ := firstFault_cons_iff.mp h
      · rw [hparse]
        rfl
      · have hlater : readLines (n + 1) lines = .error (n + (j + 1), e) := by
          rw [ih (n + 1) hrest, Nat.add_assoc, Nat.add_comm 1]
        rw [hlater]
        cases hparse : parse line with
        | error e =>
            rw [hparse] at hline
            cases hline
        | ok found => cases found <;> rfl

/-- A text is followed as a whole if every line of it can be. -/
lemma apply_of_isFollowable (settings : BuildSettings) (h : content.IsFollowable) :
    settings.apply content = .ok (settings.followed content) := by
  rw [apply, readLines_of_isOk 0 h]
  rfl

/-- A text with a line that cannot be followed is not followed at all. -/
lemma apply_of_faultAt (settings : BuildSettings) (h : content.FaultAt i e) :
    settings.apply content = .error (i, e) := by
  rw [apply, readLines_of_firstFault 0 h, Nat.zero_add]
  rfl

/-! ### The IFID -/

/-- A setting of the IFID marks it as set, and no line takes the mark away. -/
lemma ifidSpecified_foldl_set_iff {sets : List SettingLine} :
    (sets.foldl set settings).ifidSpecified ↔
      settings.ifidSpecified ∨ ∃ line ∈ sets, line.setting = .ifid := by
  induction sets generalizing settings with
  | nil => simp
  | cons line sets ih =>
      rw [List.foldl_cons, ih, List.exists_mem_cons_iff, ← or_assoc]
      cases hsetting : line.setting <;> simp [set, hsetting, setIfid]

/-- The IFID counts as set after a text if it did before or a line of the text sets it. -/
lemma ifidSpecified_followed_iff :
    (settings.followed content).ifidSpecified ↔
      settings.ifidSpecified ∨
        ∃ line ∈ content.lines, ∃ value, parse line = .ok (some ⟨.ifid, value⟩) := by
  rw [followed, ifidSpecified_foldl_set_iff]
  refine or_congr_right ⟨?_, ?_⟩
  · rintro ⟨⟨setting, value⟩, hmem, rfl⟩
    obtain ⟨line, hline, hset⟩ := List.mem_filterMap.mp hmem
    exact ⟨line, hline, value, ofLine?_eq_some_iff.mp hset⟩
  · rintro ⟨line, hline, value, hset⟩
    exact ⟨⟨.ifid, value⟩, List.mem_filterMap.mpr ⟨line, hline, ofLine?_eq_some_iff.mpr hset⟩, rfl⟩

end BuildSettings

end TweeStory
