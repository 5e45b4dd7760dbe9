/-
What the settings are after a story was read, whether it is in order or not.

* `Passage.isSettings`, `Passage.IsFaulty`, `Passage.FailsAt`: passages of settings, and
  those with a line that cannot be followed;
* `Passage.configured`: the settings after one passage;
* `Passage.SetsIfid`, `ifidSpecified_foldl_configured_iff`: where the IFID is set;
* `Sorting.exists_sort`, `exists_sort_of_failsAt`: sorting ends at the first faulty passage, and
  the settings are then those after the passages before it;
* `StoryOutcome.IsConfigured`, `Story.isConfigured_ofLines`: so does reading a story.
-/
import TweeStory.Proofs.Settings.Values
import TweeStory.Proofs.Story.Sorting

namespace TweeStory

/-! ### Passages of settings -/

namespace Passage

variable {p : Passage}

/-- Whether the passage holds settings. -/
def isSettings (p : Passage) : Bool :=
  !p.isReserved && !p.tags.contains "stylesheet".toList && !p.tags.contains "script".toList &&
    p.tags.contains "twee2".toList

/-- The passage holds settings, and some line of them cannot be followed. -/
def IsFaulty (p : Passage) : Prop :=
  p.isSettings ∧ ¬p.content.IsFollowable

/-- The passage holds settings, and the line with number `i` is the first of them that cannot
be followed. -/
def FailsAt (p : Passage) (i : Nat) (e : DirectiveError) : Prop :=
  p.isSettings ∧ p.content.FaultAt i e

/-- The settings after a passage all lines of which can be followed if it holds settings. -/
def configured (settings : BuildSettings) (p : Passage) : BuildSettings :=
  if p.name = "StoryTitle".toList then { settings with storyName := p.content }
  else if p.isSettings then settings.followed p.content
  else settings

lemma isSettings_eq : p.isSettings = decide (p.role = .settings) := by
  have hsettings : p.isSettings =
      (!p.isReserved && !p.hasTag stylesheetTag && !p.hasTag scriptTag && p.hasTag settingsTag) :=
    rfl
  rw [hsettings, isReserved_eq, role]
  split_ifs <;> simp_all

/-- What a passage does to the settings, by what it is for. -/
lemma configured_eq (settings : BuildSettings) (p : Passage) :
    configured settings p =
      match p.role with
      | .title => { settings with storyName := p.content }
      | .settings => settings.followed p.content
      | _ => settings := by
  have hconfigured : configured settings p =
      if p.name = storyTitle then { settings with storyName := p.content }
      else if p.isSettings then settings.followed p.content else settings := rfl
  rw [hconfigured, isSettings_eq]
  cases hrole : p.role <;> simp [name_eq_storyTitle_iff, hrole]

/-- A passage of settings has its lines followed. -/
lemma configured_of_isSettings (settings : BuildSettings) (h : p.isSettings) :
    configured settings p = settings.followed p.content := by
  have hrole : p.role = .settings := by simpa [isSettings_eq] using h
  rw [configured_eq, hrole]

lemma isFollowedBy_configured (p : Passage) (h : p.isSettings) (settings : BuildSettings) :
    settings.IsFollowedBy p.content (configured settings p) := by
  rw [configured_of_isSettings settings h]
  exact settings.isFollowedBy_followed p.content

lemma isFaulty_iff : p.IsFaulty ↔ ∃ i e, p.FailsAt i e := by
  simp only [IsFaulty, FailsAt, Text.not_isFollowable_iff, exists_and_left]

/-- All passages can be followed, or there is a first one that cannot be. -/
lemma not_isFaulty_or_exists_first (ps : List Passage) :
    (∀ p ∈ ps, ¬p.IsFaulty) ∨
      ∃ before p after i e, ps = before ++ p :: after ∧ (∀ q ∈ before, ¬q.IsFaulty) ∧
        p.FailsAt i e := by
  classical
  cases hfind : ps.find? fun p => p.IsFaulty with
  | none =>
      have hnone := List.find?_eq_none.mp hfind
      exact Or.inl fun p hp => by simpa using hnone p hp
  | some p =>
      obtain ⟨hp, before, after, rfl, hbefore⟩ := List.find?_eq_some_iff_append.mp hfind
      obtain ⟨i, e, hfails⟩ := isFaulty_iff.mp (of_decide_eq_true hp)
      exact Or.inr ⟨before, p, after, i, e, rfl, fun q hq => by simpa using hbefore q hq, hfails⟩

/-- The passage holds a line that sets the IFID. -/
def SetsIfid (p : Passage) : Prop :=
  p.isSettings ∧
    ∃ line ∈ p.content.lines, ∃ value, SettingLine.parse line = .ok (some ⟨.ifid, value⟩)

lemma ifidSpecified_configured_iff {settings : BuildSettings} :
    (configured settings p).ifidSpecified ↔ settings.ifidSpecified ∨ p.SetsIfid := by
  by_cases hsettings : p.isSettings
  · rw [configured_of_isSettings settings hsettings, SetsIfid,
      BuildSettings.ifidSpecified_followed_iff, and_iff_right hsettings]
  · have hsame : (configured settings p).ifidSpecified = settings.ifidSpecified := by
      rw [configured, if_neg hsettings]
      split_ifs <;> rfl
    simp [hsame, SetsIfid, hsettings]

/-- The IFID counts as set after passages if it did before or one of them sets it. -/
lemma ifidSpecified_foldl_configured_iff {settings : BuildSettings} {ps : List Passage} :
    (ps.foldl configured settings).ifidSpecified ↔
      settings.ifidSpecified ∨ ∃ p ∈ ps, p.SetsIfid := by
  induction ps generalizing settings with
  | nil => simp
  | cons p ps ih =>
      rw [List.foldl_cons, ih, ifidSpecified_configured_iff, List.exists_mem_cons_iff, or_assoc]

end Passage

/-! ### Sorting -/

namespace Sorting

variable {p : Passage} {ps : List Passage} {i : Nat} {e : DirectiveError}

/-- A passage that is not faulty is sorted, and changes the settings. -/
lemma exists_sortOne (s : Sorting) (h : ¬p.IsFaulty) :
    ∃ s' p', s.sortOne p = .ok (s', p') ∧ s'.settings = Passage.configured s.settings p := by
  rw [sortOne, Passage.configured_eq]
  cases hrole : p.role
  case settings =>
    have hsettings : p.isSettings := by simp [Passage.isSettings_eq, hrole]
    have hfollow : p.content.IsFollowable := not_not.mp fun hnot => h ⟨hsettings, hnot⟩
    simp only [BuildSettings.apply_of_isFollowable s.settings hfollow]
    exact ⟨_, _, rfl, rfl⟩
  all_goals exact ⟨_, _, rfl, rfl⟩

/-- A faulty passage is not sorted. -/
lemma sortOne_of_failsAt (s : Sorting) (h : p.FailsAt i e) :
    s.sortOne p = .error (failure p (i, e)) := by
  have hrole : p.role = .settings := by simpa [Passage.isSettings_eq] using h.1
  simp only [sortOne, hrole, BuildSettings.apply_of_faultAt s.settings h.2]

/-- **Sorting goes on behind passages that are not faulty**, with the settings after them. -/
lemma exists_sort_append (s : Sorting) (h : ∀ p ∈ ps, ¬p.IsFaulty) (rest : List Passage) :
    ∃ (s' : Sorting) (ps' : List Passage),
      s'.settings = ps.foldl Passage.configured s.settings ∧
        s.sort (ps ++ rest) = ((s'.sort rest).1, (s'.sort rest).2.map (ps' ++ ·)) := by
  induction ps generalizing s with
  | nil =>
      refine ⟨s, [], rfl, Prod.ext rfl ?_⟩
      rw [List.nil_append]
      cases (s.sort rest).2 <;> rfl
  | cons p ps ih =>
      obtain ⟨hp, hps⟩ := List.forall_mem_cons.mp h
      obtain ⟨s₁, p', hone, hsettings⟩ := exists_sortOne s hp
      obtain ⟨s', ps', hfold, hrest⟩ := ih s₁ hps
      refine ⟨s', p' :: ps', by rw [hfold, hsettings, List.foldl_cons], ?_⟩
      simp only [List.cons_append, sort, hone, hrest]
      cases (s'.sort rest).2 <;> rfl

/-- Passages none of which is faulty are sorted. -/
lemma exists_sort (s : Sorting) (h : ∀ p ∈ ps, ¬p.IsFaulty) :
    ∃ s' ps', s.sort ps = (s', .ok ps') ∧
      s'.settings = ps.foldl Passage.configured s.settings := by
  obtain ⟨s', ps', hsettings, heq⟩ := exists_sort_append s h []
  rw [List.append_nil] at heq
  exact ⟨s', ps' ++ [], heq, hsettings⟩

/-- Sorting ends at the first faulty passage. -/
lemma exists_sort_of_failsAt (s : Sorting) (h : ∀ q ∈ ps, ¬q.IsFaulty) (hp : p.FailsAt i e)
    (after : List Passage) :
    ∃ s', s.sort (ps ++ p :: after) = (s', .error (failure p (i, e))) ∧
      s'.settings = ps.foldl Passage.configured s.settings := by
  obtain ⟨s', ps', hsettings, heq⟩ := exists_sort_append s h (p :: after)
  have hstop : s'.sort (p :: after) = (s', .error (failure p (i, e))) := by
    simp only [sort, sortOne_of_failsAt s' hp]
  exact ⟨s', by rw [heq, hstop]; rfl, hsettings⟩

/-- Passages that are sorted without an error have changed the settings, each in its turn. -/
lemma settings_of_sort {s s' : Sorting} {ps' : List Passage} (h : s.sort ps = (s', .ok ps')) :
    s'.settings = ps.foldl Passage.configured s.settings := by
  obtain hnone | ⟨before, p, after, i, e, rfl, hbefore, hp⟩ :=
    Passage.not_isFaulty_or_exists_first ps
  · obtain ⟨s₁, ps₁, hsort, hsettings⟩ := exists_sort s hnone
    rw [hsort] at h
    exact (Prod.mk.inj h).1 ▸ hsettings
  · obtain ⟨s₁, hsort, -⟩ := exists_sort_of_failsAt s hbefore hp after
    rw [hsort] at h
    cases h

end Sorting

/-! ### Stories -/

/-- The settings of an outcome are those that its passages make of given ones, and its error
is that of the first passage of settings that cannot be followed. -/
structure StoryOutcome.IsConfigured (outcome : StoryOutcome) (settings : BuildSettings)
    (ps : List Passage) : Prop where
  /-- There is an error exactly if some passage is faulty. -/
  error_iff : (∃ error, outcome.story = .error error) ↔ ∃ p ∈ ps, p.IsFaulty
  /-- The error is about the first line that cannot be followed in the first faulty passage.
  The settings are those after the passages before it. -/
  error : ∀ error, outcome.story = .error error →
    ∃ before p after i reason, ps = before ++ p :: after ∧ (∀ q ∈ before, ¬q.IsFaulty) ∧
      p.FailsAt i reason ∧
      error = .directive p.name (p.lines[i]?.map (·.origin)) reason ∧
      outcome.settings = before.foldl Passage.configured settings
  /-- A story with an error has no start and no document to warn about. -/
  silent : ∀ error, outcome.story = .error error → ∀ w ∈ outcome.warnings,
    w.name ≠ "MissingStartPassage".toList ∧ w.name ≠ "MissingIfid".toList
  /-- A story without an error has the settings after all of its passages. -/
  settings_eq : ∀ story, outcome.story = .ok story →
    outcome.settings = ps.foldl Passage.configured settings
  startPassage_eq : ∀ story, outcome.story = .ok story →
    story.startPassage = outcome.settings.startPassage
  /-- A passage of settings makes the settings hold what the last of its lines for each of them
  says, and leaves the others as they are. -/
  followed : ∀ p ∈ ps, p.isSettings → ∀ before : BuildSettings,
    before.IsFollowedBy p.content (Passage.configured before p)

/-- Names used again are all that blocks are warned about. -/
lemma Block.name_of_mem_duplicates {sources : Sources} {earlier later : List Block} {w : Warning}
    (h : w ∈ duplicates sources earlier later) : w.name = "DuplicatePassage".toList := by
  induction later generalizing earlier with
  | nil => cases h
  | cons b later ih =>
      rcases List.mem_append.mp h with h | h
      · obtain ⟨first, -, rfl⟩ := Option.map_eq_some_iff.mp (Option.mem_toList.mp h)
        rfl
      · exact ih h

namespace Story

variable (sources : Sources) (registry : Registry) (settings : BuildSettings) (lines : List Line)

/-- **What the settings are after a story was read.** -/
theorem isConfigured_ofLines :
    (ofLines sources registry settings lines).IsConfigured settings
      (prepared sources registry lines).records := by
  obtain hnone | ⟨before, p, after, i, e, hps, hbefore, hp⟩ :=
    Passage.not_isFaulty_or_exists_first (prepared sources registry lines).records
  · obtain ⟨s, records, hsorted, hsettings⟩ :=
      Sorting.exists_sort ⟨settings, [], [], [], 0⟩ hnone
    rw [ofLines_of_ok hsorted]
    exact
      { error_iff := iff_of_false (fun ⟨_, h⟩ => by cases h) fun ⟨p, hp, hfaulty⟩ =>
          hnone p hp hfaulty
        error := fun _ h => by cases h
        silent := fun _ h => by cases h
        settings_eq := fun _ _ => hsettings
        startPassage_eq := fun _ h => by cases h; rfl
        followed := fun p _ hp before => p.isFollowedBy_configured hp before }
  · obtain ⟨s, hsorted, hsettings⟩ :=
      Sorting.exists_sort_of_failsAt ⟨settings, [], [], [], 0⟩ hbefore hp after
    rw [← hps] at hsorted
    rw [ofLines_of_error hsorted]
    exact
      { error_iff := iff_of_true ⟨_, rfl⟩
          ⟨p, by simp [hps], Passage.isFaulty_iff.mpr ⟨i, e, hp⟩⟩
        error := fun _ h => by
          cases h
          exact ⟨before, p, after, i, e, hps, hbefore, hp, rfl, hsettings⟩
        silent := fun _ _ w hw => by
          rw [(PassageMap.tells_ofLines sources lines).2] at hw
          rw [Block.name_of_mem_duplicates hw]
          decide
        settings_eq := fun _ h => by cases h
        startPassage_eq := fun _ h => by cases h
        followed := fun p _ hp before => p.isFollowedBy_configured hp before }

end Story

end TweeStory
