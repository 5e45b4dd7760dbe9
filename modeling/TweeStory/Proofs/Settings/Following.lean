/-
How a text of settings is followed, as a whole or not at all.

* `FirstFault.insert`, `apply_of_isIdle`: a line that says nothing counts, and does nothing else;
* `BuildSettings.IsAllOrNothing`, `isAllOrNothing_apply`: a text is followed as a whole, or it
  leaves the settings as they are.
-/
import TweeStory.Proofs.Story.Settings

namespace TweeStory

open SettingLine

/-! ### Faults -/

namespace SettingLine

variable {line : Text} {before after : List Text} {i : Nat} {e : DirectiveError}

/-- The number of a line after one more line is put in front of the one with number `k`. -/
def moved (k i : Nat) : Nat :=
  if i < k then i else i + 1

/-- A line that can be followed moves the first fault behind it by one. -/
lemma FirstFault.insert (h : FirstFault (before ++ after) i e) (hline : (parse line).isOk) :
    FirstFault (before ++ line :: after) (moved before.length i) e := by
  induction before generalizing i with
  | nil => exact firstFault_cons_iff.mpr (Or.inr ⟨i, rfl, hline, h⟩)
  | cons first before ih =>
      obtain ⟨rfl, hparse⟩ | ⟨j, rfl, hfirst, hrest⟩ := firstFault_cons_iff.mp h
      · exact firstFault_cons_iff.mpr (Or.inl ⟨rfl, hparse⟩)
      · refine firstFault_cons_iff.mpr (Or.inr ⟨_, ?_, hfirst, ih hrest⟩)
        simp only [moved, List.length_cons, Nat.add_lt_add_iff_right]
        split <;> rfl

end SettingLine

namespace BuildSettings

variable {settings : BuildSettings} {content line : Text}

/-- **A line that says nothing** counts where lines are numbered, and does nothing else. -/
lemma apply_of_isIdle {longer : Text} {before after : List Text}
    (hcontent : content.lines = before ++ after) (hidle : IsIdle line)
    (hlonger : longer.lines = before ++ line :: after) :
    settings.apply longer =
      (settings.apply content).mapError fun fault => (moved before.length fault.1, fault.2) := by
  have hread := parse_eq_none_iff.mpr hidle
  have hok : (parse line).isOk := by rw [hread]; rfl
  by_cases hfollow : content.IsFollowable
  · have hfollow' : longer.IsFollowable := by
      rw [Text.IsFollowable, hcontent, List.forall_mem_append] at hfollow
      rw [Text.IsFollowable, hlonger, List.forall_mem_append, List.forall_mem_cons]
      exact ⟨hfollow.1, hok, hfollow.2⟩
    have hnone : ofLine? line = none := by rw [ofLine?, hread]
    have hsame : settings.followed longer = settings.followed content := by
      rw [followed, followed, hlonger, hcontent, List.filterMap_append, List.filterMap_append,
        List.filterMap_cons_none hnone]
    rw [apply_of_isFollowable settings hfollow, apply_of_isFollowable settings hfollow', hsame]
    rfl
  · obtain ⟨i, e, hfault⟩ := Text.not_isFollowable_iff.mp hfollow
    have hfault' : longer.FaultAt (moved before.length i) e := by
      rw [Text.FaultAt, hcontent] at hfault
      rw [Text.FaultAt, hlonger]
      exact hfault.insert hok
    rw [apply_of_faultAt settings hfault, apply_of_faultAt settings hfault']
    rfl

/-! ### All or nothing -/

/-- A text of settings is followed as a whole, or it leaves the settings as they are. -/
structure IsAllOrNothing (settings : BuildSettings) (content : Text) : Prop where
  /-- There is an error exactly if some line cannot be followed.  The error has the number of the
  first such line, with all lines counted, and its reason. -/
  error_iff : ∀ i e, settings.apply content = .error (i, e) ↔ content.FaultAt i e
  /-- Where a passage has the text, passages are sorted up to it, with the error.  The settings
  are as they were before it, whatever they were, as is all that the passages before it gave. -/
  sort_of_faultAt : ∀ i e, content.FaultAt i e → ∀ (s : Sorting) (p : Passage) (ps : List Passage),
    p.isSettings → p.content = content →
      s.sort (p :: ps) = (s, .error (.directive p.name (p.lines[i]?.map (·.origin)) e))
  /-- A text without such a line is followed. -/
  ok : (∀ i e, ¬content.FaultAt i e) →
    ∃ settings', settings.apply content = .ok settings' ∧ settings.IsFollowedBy content settings'
  /-- A line that says nothing is counted, but has no effect. -/
  idle : ∀ before line after (longer : Text), content.lines = before ++ after → IsIdle line →
    longer.lines = before ++ line :: after →
    settings.apply longer =
      (settings.apply content).mapError fun fault => (moved before.length fault.1, fault.2)

/-- **A text of settings is followed as a whole or not at all.** -/
theorem isAllOrNothing_apply (settings : BuildSettings) (content : Text) :
    settings.IsAllOrNothing content where
  error_iff i e := by
    refine ⟨fun herror => ?_, apply_of_faultAt settings⟩
    by_cases hfollow : content.IsFollowable
    · rw [apply_of_isFollowable settings hfollow] at herror
      cases herror
    · obtain ⟨i', e', hfault⟩ := Text.not_isFollowable_iff.mp hfollow
      rw [apply_of_faultAt settings hfault] at herror
      cases herror
      exact hfault
  sort_of_faultAt i e hfault s p ps hp hcontent := by
    have hfails : p.FailsAt i e := ⟨hp, hcontent ▸ hfault⟩
    simp only [Sorting.sort, Sorting.sortOne_of_failsAt s hfails, Sorting.failure]
  ok hnone := by
    have hfollow : content.IsFollowable := not_not.mp fun hnot => by
      obtain ⟨i, e, hfault⟩ := Text.not_isFollowable_iff.mp hnot
      exact hnone i e hfault
    exact ⟨_, apply_of_isFollowable settings hfollow, isFollowedBy_followed settings content⟩
  idle _ _ _ _ hcontent hidle hlonger := apply_of_isIdle hcontent hidle hlonger

example : (initial []).apply
    "name = A\r\n# a: b\nTwee2::build_config.title : 'B'\nifid=\"ab\"".toList =
      .ok ⟨"B".toList, none, "AB".toList, true, "Start".toList⟩ := rfl

example : (initial []).apply "name = A\n\n  // start:\nstart:\nname".toList =
    .error (3, .emptyValue "start".toList) := rfl

end BuildSettings

end TweeStory
