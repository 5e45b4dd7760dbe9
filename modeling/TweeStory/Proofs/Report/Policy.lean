/-
Which problems of a story are reported, in what order, and when they make a run fail.

* `Issue.IsNotAfter`, `Policy.perm_judge`, `Policy.pairwise_judge`, `Policy.filter_judge`: the
  problems in the order of their places, and in the order they were raised where they have the
  same place;
* `Policy.fails_iff`: a run fails if one of the problems is an error;
* `Issue.IsPrintedAsError`, `Issue.isPrintedAsError_print_iff`: what is printed says which they
  are;
* `Configuration.layers`, `IsAllowed`, `IsDenied`: the policies of the command line and of the
  configuration file;
* `isJudged_report`: what is reported under these policies.
-/
import Mathlib.Data.List.Pairwise
import Mathlib.Tactic.Lemma
import TweeStory.Config.Layered
import TweeStory.Report.Issue

namespace TweeStory

variable {policy : Policy} {error : Option CompileError} {warnings : Diagnostics} {w : Warning}

/-! ### Order -/

namespace Issue

/-- Problems without a place come first, then those of earlier files, and then those of earlier
lines. -/
def IsNotAfter (a b : Issue) : Prop :=
  a.context = none ∨ ∃ o p, a.context = some o ∧ b.context = some p ∧
    (o.file < p.file ∨ o.file = p.file ∧ o.line ≤ p.line)

lemma isNotAfter_iff_le {a b : Issue} : a.IsNotAfter b ↔ a.le b := by
  rw [IsNotAfter, le]
  cases a.context with
  | none => simp
  | some o => cases b.context <;> simp [Origin.le]

lemma IsNotAfter.trans {a b c : Issue} (hab : a.IsNotAfter b) (hbc : b.IsNotAfter c) :
    a.IsNotAfter c := by
  rcases hab with ha | ⟨o, p, ha, hb, hop⟩
  · exact Or.inl ha
  · rcases hbc with hb' | ⟨p', q, hb', hc, hpq⟩
    · rw [hb] at hb'
      cases hb'
    · obtain rfl : p = p' := Option.some.inj (hb.symm.trans hb')
      exact Or.inr ⟨o, q, ha, hc, by omega⟩

lemma isNotAfter_total (a b : Issue) : a.IsNotAfter b ∨ b.IsNotAfter a := by
  cases ha : a.context with
  | none => exact Or.inl (Or.inl ha)
  | some o =>
      cases hb : b.context with
      | none => exact Or.inr (Or.inl hb)
      | some p =>
          rcases Nat.lt_trichotomy o.file p.file with hlt | heq | hlt
          · exact Or.inl (Or.inr ⟨o, p, ha, hb, Or.inl hlt⟩)
          · rcases Nat.le_total o.line p.line with hle | hle
            · exact Or.inl (Or.inr ⟨o, p, ha, hb, Or.inr ⟨heq, hle⟩⟩)
            · exact Or.inr (Or.inr ⟨p, o, hb, ha, Or.inr ⟨heq.symm, hle⟩⟩)
          · exact Or.inr (Or.inr ⟨p, o, hb, ha, Or.inl hlt⟩)

lemma isNotAfter_of_context_eq {a b : Issue} (h : a.context = b.context) : a.IsNotAfter b := by
  cases ha : a.context with
  | none => exact Or.inl ha
  | some o => exact Or.inr ⟨o, o, ha, h ▸ ha, Or.inr ⟨rfl, Nat.le_refl _⟩⟩

lemma le_trans (a b c : Issue) (hab : a.le b) (hbc : b.le c) : a.le c :=
  isNotAfter_iff_le.mp ((isNotAfter_iff_le.mpr hab).trans (isNotAfter_iff_le.mpr hbc))

lemma le_total (a b : Issue) : a.le b || b.le a := by
  rw [Bool.or_eq_true, ← isNotAfter_iff_le, ← isNotAfter_iff_le]
  exact isNotAfter_total a b

end Issue

namespace Policy

/-- The problems that a policy leaves, in the order they were raised. -/
def raised (policy : Policy) (error : Option CompileError) (warnings : Diagnostics) :
    List Issue :=
  warnings.filterMap policy.judgeWarning ++ (error.map Issue.error).toList

lemma perm_judge (policy : Policy) (error : Option CompileError) (warnings : Diagnostics) :
    (policy.judge error warnings).Perm (policy.raised error warnings) :=
  List.mergeSort_perm _ _

/-- Problems are in the order of their places. -/
lemma pairwise_judge (policy : Policy) (error : Option CompileError) (warnings : Diagnostics) :
    (policy.judge error warnings).Pairwise Issue.IsNotAfter :=
  (List.pairwise_mergeSort Issue.le_trans Issue.le_total _).imp Issue.isNotAfter_iff_le.mpr

/-- **Problems with the same place** keep their order. -/
lemma filter_judge (policy : Policy) (error : Option CompileError) (warnings : Diagnostics)
    (place : Option Origin) :
    (policy.judge error warnings).filter (·.context = place) =
      (policy.raised error warnings).filter (·.context = place) := by
  have hsame : ((policy.raised error warnings).filter (·.context = place)).Pairwise
      fun a b => a.le b := by
    refine List.pairwise_of_forall_mem_list fun a ha b hb => ?_
    have ha : a.context = place := by simpa using (List.mem_filter.mp ha).2
    have hb : b.context = place := by simpa using (List.mem_filter.mp hb).2
    exact Issue.isNotAfter_iff_le.mp (Issue.isNotAfter_of_context_eq (ha.trans hb.symm))
  have hsub : ((policy.raised error warnings).filter (·.context = place)).Sublist
      (policy.judge error warnings) :=
    List.sublist_mergeSort Issue.le_trans Issue.le_total hsame List.filter_sublist
  have hfilter := hsub.filter (·.context = place)
  rw [List.filter_filter] at hfilter
  simp only [Bool.and_self] at hfilter
  exact (hfilter.eq_of_length
    (((policy.perm_judge error warnings).filter _).length_eq.symm)).symm

/-! ### Failure -/

/-- The problem that a policy makes of a warning is an error if the policy denies the warning. -/
lemma exists_judgeWarning_iff : (∃ issue ∈ policy.judgeWarning w, issue.isError) ↔
    covers policy.allow w = false ∧ covers policy.deny w := by
  rw [judgeWarning]
  by_cases hallow : covers policy.allow w <;> simp [hallow, Issue.isError]

/-- **A run fails** if one of the problems that a policy leaves is an error. -/
lemma fails_iff : policy.fails error warnings ↔
    ∃ issue ∈ policy.judge error warnings, issue.isError := by
  have herror : error.isSome ↔ ∃ issue ∈ (error.map Issue.error).toList, issue.isError := by
    cases error <;> simp [Issue.isError]
  have hwarnings : (∃ w ∈ warnings, covers policy.allow w = false ∧ covers policy.deny w) ↔
      ∃ issue ∈ warnings.filterMap policy.judgeWarning, issue.isError := by
    simp only [← exists_judgeWarning_iff, List.mem_filterMap]
    constructor
    · rintro ⟨w, hw, issue, hissue, herror⟩
      exact ⟨issue, ⟨w, hw, hissue⟩, herror⟩
    · rintro ⟨issue, ⟨w, hw, hissue⟩, herror⟩
      exact ⟨w, hw, issue, hissue, herror⟩
  simp only [(policy.perm_judge error warnings).mem_iff, raised, List.mem_append, or_and_right,
    exists_or, ← herror, ← hwarnings]
  simp [fails]

lemma anyError_judge (policy : Policy) (error : Option CompileError) (warnings : Diagnostics) :
    anyError (policy.judge error warnings) = policy.fails error warnings := by
  rw [Bool.eq_iff_iff, fails_iff, anyError, List.any_eq_true]

end Policy

/-! ### What is printed -/

namespace Issue

/-- What is printed about a problem begins with the word for an error. -/
def IsPrintedAsError (compact : Bool) (printed : List Terminal.Item) : Prop :=
  (Terminal.plain printed).beginsWith (if compact then "Error: ".toList else "error[".toList)

/-- **An error is printed as one**, on one line or with its lines, and nothing else is. -/
lemma isPrintedAsError_print_iff (sources : Sources) (compact : Bool) (issue : Issue) :
    IsPrintedAsError compact (issue.print sources compact) ↔ issue.isError := by
  rw [IsPrintedAsError, ← Bool.eq_iff_iff, print]
  cases compact with
  | true =>
      -- One line has the word for its own.
      rw [if_pos rfl, printCompact]
      cases issue.isError <;> cases issue.isNotice <;> rfl
  | false =>
      -- A report begins with the word for its severity.
      rw [if_neg Bool.false_ne_true, Report.print, Report.heading]
      match issue with
      | error _ | warning _ true => rfl
      | warning w false =>
          rw [show (report sources (warning w false)).severity =
            if w.kind.isNotice then .note else .warning from rfl]
          cases w.kind.isNotice <;> rfl

end Issue

/-! ### Layers of policies -/

namespace Configuration

/-- The policies that count for a story: that of the command line, that for all formats and that
of the format in force, which is the choice of the story before that of the command line. -/
def layers (file : ConfigFile) (arguments : Arguments) (storyFormat : Option Text) :
    List Policy :=
  arguments.policy :: (file.policies.lookup "default".toList).toList ++
    ((storyFormat.or arguments.format).bind fun name => file.policies.lookup name).toList

lemma policy_addPolicy (config : Configuration) (name : Text) :
    (config.addPolicy name).policy =
      ⟨config.policy.allow ++ (config.policies.lookup name).toList.flatMap Policy.allow,
        config.policy.deny ++ (config.policies.lookup name).toList.flatMap Policy.deny⟩ := by
  rw [addPolicy]
  cases config.policies.lookup name <;> simp [Policy.append]

@[simp] lemma arguments_addPolicy (config : Configuration) (name : Text) :
    (config.addPolicy name).arguments = config.arguments := by
  rw [addPolicy]
  split <;> rfl

@[simp] lemma formats_addPolicy (config : Configuration) (name : Text) :
    (config.addPolicy name).formats = config.formats := by
  rw [addPolicy]
  split <;> rfl

@[simp] lemma policies_addPolicy (config : Configuration) (name : Text) :
    (config.addPolicy name).policies = config.policies := by
  rw [addPolicy]
  split <;> rfl

/-- The lists of the policy in force are those of the layers, one behind the other. -/
lemma policy_selectFormat_layer (file : ConfigFile) (arguments : Arguments)
    (storyFormat : Option Text) :
    ((layer file arguments).selectFormat storyFormat).policy =
      ⟨(layers file arguments storyFormat).flatMap Policy.allow,
        (layers file arguments storyFormat).flatMap Policy.deny⟩ := by
  have hlayer : (layer file arguments).policy =
      ⟨arguments.policy.allow ++
          (file.policies.lookup "default".toList).toList.flatMap Policy.allow,
        arguments.policy.deny ++
          (file.policies.lookup "default".toList).toList.flatMap Policy.deny⟩ :=
    policy_addPolicy _ _
  have hpolicies : (layer file arguments).policies = file.policies := policies_addPolicy _ _
  have harguments : (layer file arguments).arguments = arguments := arguments_addPolicy _ _
  rw [selectFormat, formatInForce, harguments, layers]
  cases storyFormat.or arguments.format with
  | none => simp [hlayer]
  | some name => simp [policy_addPolicy, hlayer, hpolicies]

end Configuration

/-- A policy of the layers allows the warning, by its name or by that for all warnings. -/
def IsAllowed (layers : List Policy) (w : Warning) : Prop :=
  ∃ policy ∈ layers, w.name ∈ policy.allow ∨ "all".toList ∈ policy.allow

/-- A policy of the layers denies the warning, by its name or by that for all warnings. -/
def IsDenied (layers : List Policy) (w : Warning) : Prop :=
  ∃ policy ∈ layers, w.name ∈ policy.deny ∨ "all".toList ∈ policy.deny

instance (layers : List Policy) (w : Warning) : Decidable (IsAllowed layers w) :=
  inferInstanceAs (Decidable (∃ policy ∈ layers, _))

instance (layers : List Policy) (w : Warning) : Decidable (IsDenied layers w) :=
  inferInstanceAs (Decidable (∃ policy ∈ layers, _))

/-- The problems to report under layers of policies in the order they were raised: the warnings
that are not allowed, as errors if they are denied, and then the error. -/
def layeredIssues (layers : List Policy) (error : Option CompileError) (warnings : Diagnostics) :
    List Issue :=
  (warnings.filter fun w => ¬IsAllowed layers w).map (fun w => .warning w (IsDenied layers w)) ++
    (error.map Issue.error).toList

/-- The problems are those to report, in the order of their places, and in the order they were
raised where they have the same place. -/
structure IsJudged (layers : List Policy) (error : Option CompileError) (warnings : Diagnostics)
    (issues : List Issue) : Prop where
  perm : issues.Perm (layeredIssues layers error warnings)
  pairwise : issues.Pairwise Issue.IsNotAfter
  filter_context : ∀ place, issues.filter (·.context = place) =
    (layeredIssues layers error warnings).filter (·.context = place)

/-- The problems are printed one behind the other, and the errors among them as errors.  The run
fails if there is one. -/
structure IsReported (issues : List Issue) (sources : Sources) (compact : Bool)
    (report : List Terminal.Item × Bool) : Prop where
  printed : report.1 = issues.flatMap (Issue.print sources compact) ++ [.reset]
  asErrors : ∀ issue ∈ issues,
    Issue.IsPrintedAsError compact (issue.print sources compact) ↔ issue.isError
  fails : report.2 ↔ ∃ issue ∈ issues, issue.isError

section Layers

variable {layers : List Policy}

lemma covers_flatMap_iff (f : Policy → List Text) : Policy.covers (layers.flatMap f) w ↔
    ∃ policy ∈ layers, w.name ∈ f policy ∨ "all".toList ∈ f policy := by
  simp only [Policy.covers, Bool.or_eq_true, List.contains_iff_mem, List.mem_flatMap, and_or_left,
    exists_or]
  exact or_comm

/-- What a policy leaves whose lists are those of the layers. -/
lemma raised_flatMap (layers : List Policy) (error : Option CompileError)
    (warnings : Diagnostics) :
    Policy.raised ⟨layers.flatMap Policy.allow, layers.flatMap Policy.deny⟩ error warnings =
      layeredIssues layers error warnings := by
  rw [Policy.raised, layeredIssues, ← List.filterMap_eq_map, List.filterMap_filter]
  congr 2
  funext w
  have hallow : Policy.covers (layers.flatMap Policy.allow) w = decide (IsAllowed layers w) := by
    rw [Bool.eq_iff_iff, decide_eq_true_iff]
    exact covers_flatMap_iff Policy.allow
  have hdeny : Policy.covers (layers.flatMap Policy.deny) w = decide (IsDenied layers w) := by
    rw [Bool.eq_iff_iff, decide_eq_true_iff]
    exact covers_flatMap_iff Policy.deny
  rw [Policy.judgeWarning, hallow, hdeny]
  by_cases h : IsAllowed layers w <;> simp [h]

end Layers

/-- **What is reported of a story** under the policies of the command line and of the
configuration file. -/
theorem isJudged_report (file : ConfigFile) (arguments : Arguments) (storyFormat : Option Text)
    (error : Option CompileError) (warnings : Diagnostics) :
    let policy := ((Configuration.layer file arguments).selectFormat storyFormat).policy
    let issues := policy.judge error warnings
    IsJudged (Configuration.layers file arguments storyFormat) error warnings issues ∧
      ∀ sources compact,
        IsReported issues sources compact (policy.report sources compact error warnings) := by
  intro policy issues
  have hraised : policy.raised error warnings =
      layeredIssues (Configuration.layers file arguments storyFormat) error warnings := by
    rw [← raised_flatMap, ← Configuration.policy_selectFormat_layer]
  refine ⟨?_, fun sources compact => ?_⟩
  · rw [show issues = policy.judge error warnings from rfl]
    exact
      { perm := hraised ▸ policy.perm_judge error warnings
        pairwise := policy.pairwise_judge error warnings
        filter_context := fun place => hraised ▸ policy.filter_judge error warnings place }
  · exact
      { printed := rfl
        asErrors := fun issue _ => Issue.isPrintedAsError_print_iff sources compact issue
        fails := Policy.fails_iff }

end TweeStory
