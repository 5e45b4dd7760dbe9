/-
What the settings hold after the lines of a text.

* `BuildSettings.value?`, `Setting.kept`: what settings hold, one setting at a time, and the form
  in which a value is kept;
* `value?_set`, `value?_foldl_set`: what one line does to them, and what lines do;
* `Text.LastSets`, `BuildSettings.IsFollowedBy`: the last line of a text for a setting, and
  settings that hold what these lines say;
* `isFollowedBy_followed`: so do the settings after all lines of a text.
-/
import TweeStory.Proofs.Settings.Apply
import TweeStory.Proofs.Settings.Grammar

namespace TweeStory

open SettingLine

/-- The form in which the value of a setting is kept: an IFID stands in upper case. -/
def Setting.kept : Setting → Text → Text
  | .ifid, value => value.upper
  | _, value => value

/-- A line of the text gives the setting the value, and no later one gives it another. -/
def Text.LastSets (content : Text) (setting : Setting) (value : Text) : Prop :=
  ∃ before line after, content.lines = before ++ line :: after ∧ Sets line setting value ∧
    ∀ later ∈ after, ∀ value', ¬Sets later setting value'

namespace BuildSettings

variable {settings : BuildSettings} {setting : Setting} {value line : Text}
  {sets : List SettingLine}

/-! ### What settings hold -/

/-- What the settings hold for one of the things that can be set.  There may be no format. -/
def value? (settings : BuildSettings) : Setting → Option Text
  | .name => some settings.storyName
  | .format => settings.storyFormat
  | .ifid => some settings.ifid
  | .start => some settings.startPassage

/-- A line changes what the settings hold for its own setting alone. -/
lemma value?_set (set : SettingLine) :
    (settings.set set).value? setting =
      if set.setting = setting then some (setting.kept set.value) else settings.value? setting := by
  obtain ⟨own, value⟩ := set
  cases own <;> cases setting <;> rfl

/-- Lines for other settings change nothing. -/
lemma value?_foldl_set_of_forall_ne (h : ∀ set ∈ sets, set.setting ≠ setting) :
    (sets.foldl set settings).value? setting = settings.value? setting := by
  induction sets generalizing settings with
  | nil => rfl
  | cons set sets ih =>
      obtain ⟨hset, hrest⟩ := List.forall_mem_cons.mp h
      rw [List.foldl_cons, ih hrest, value?_set, if_neg hset]

/-- Of lines for one setting, the last one counts. -/
lemma value?_foldl_set_append_cons (before : List SettingLine)
    (h : ∀ set ∈ sets, set.setting ≠ setting) :
    ((before ++ ⟨setting, value⟩ :: sets).foldl set settings).value? setting =
      some (setting.kept value) := by
  rw [List.foldl_append, List.foldl_cons, value?_foldl_set_of_forall_ne h, value?_set, if_pos rfl]

/-! ### What a text sets -/

lemma ofLine?_eq_some_iff_sets :
    ofLine? line = some ⟨setting, value⟩ ↔ Sets line setting value := by
  rw [ofLine?_eq_some_iff, parse_eq_some_iff]

/-- Lines none of which is for a setting are read as settings none of which is that one. -/
lemma forall_ne_of_forall_not_sets {lines : List Text}
    (h : ∀ line ∈ lines, ∀ value, ¬Sets line setting value) :
    ∀ set ∈ lines.filterMap ofLine?, set.setting ≠ setting := by
  rintro set hset rfl
  obtain ⟨line, hline, hread⟩ := List.mem_filterMap.mp hset
  exact h line hline set.value (ofLine?_eq_some_iff_sets.mp hread)

/-- Settings that hold what the last line of a text for each setting says, and are as they were
before it for the others. -/
structure IsFollowedBy (settings : BuildSettings) (content : Text) (settings' : BuildSettings) :
    Prop where
  /-- The last line for a setting counts, under whatever key and however it is written. -/
  value?_of_lastSets : ∀ setting value, content.LastSets setting value →
    settings'.value? setting = some (setting.kept value)
  /-- What no line is for stays as it is. -/
  value?_of_not_sets : ∀ setting, (∀ line ∈ content.lines, ∀ value, ¬Sets line setting value) →
    settings'.value? setting = settings.value? setting
  /-- The IFID counts as set if it did before or a line sets it. -/
  ifidSpecified_iff : settings'.ifidSpecified ↔
    settings.ifidSpecified ∨ ∃ line ∈ content.lines, ∃ value, Sets line .ifid value

lemma isFollowedBy_followed (settings : BuildSettings) (content : Text) :
    settings.IsFollowedBy content (settings.followed content) where
  value?_of_lastSets := by
    rintro setting value ⟨before, line, after, hlines, hline, hlater⟩
    rw [followed, hlines, List.filterMap_append,
      List.filterMap_cons_some (ofLine?_eq_some_iff_sets.mpr hline)]
    exact value?_foldl_set_append_cons _ (forall_ne_of_forall_not_sets hlater)
  value?_of_not_sets := fun _ hnone =>
    value?_foldl_set_of_forall_ne (forall_ne_of_forall_not_sets hnone)
  ifidSpecified_iff := by
    simp only [ifidSpecified_followed_iff, parse_eq_some_iff]

end BuildSettings

end TweeStory
