/-
Paths with values in place of their variables, at once and round by round.

* `variableNames`, `expandPiece`, `expandOnce`: the names that stand in a path, each from a dollar
  sign to the next slash, and the path in which each is replaced by its value, which is not looked
  at again;
* `Environment.Knows`, `variableValue_eq_ok_iff`: what the environment has for a name;
* `expandOnce_append_cons`, `expandOnce_of_notMem`: parts of a path that a slash divides are
  expanded apart, and a path without a dollar sign stays as it is;
* `IsSafeFor`: values that hold no dollar sign, for a path in which no other name hides one of the
  names that are replaced;
* `expandOnce_replaceAll`: a round changes nothing in what the path is expanded to;
* `expandRounds_eq`: so as many rounds as there are names are enough;
* `ExpandsAtOnce`, `expandsAtOnce_of_isSafeFor`: what the rounds of such a path come to;
* `not_expandsAtOnce_hidden`, `expandRounds_looping`: a name that hides another is no error, and
  values that bring in each other never come to an end.
-/
import Mathlib.Data.List.Basic
import Mathlib.Data.List.TakeWhile
import TweeStory.Config.Variables
import TweeStory.Proofs.Text.Occurrences
import TweeStory.Proofs.Text.Pieces

namespace TweeStory

open Text

/-! ### Names -/

/-- The names of the variables. -/
def PathVariable.name : PathVariable → Text
  | home => "HOME".toList
  | workingDirectory => "PWD".toList
  | programDirectory => "TWEEFORGE_BIN_DIR".toList
  | dataDirectory => "TWEEFORGE_DATA_DIR".toList

variable {env : Environment} {path name value s t : Text}

lemma PathVariable.ofName?_eq_some_iff {v : PathVariable} :
    ofName? name = some v ↔ name = v.name := by
  constructor
  · intro h
    rw [ofName?] at h
    split_ifs at h with hhome hwork hprogram hdata
    all_goals
      obtain rfl := Option.some.inj h
      assumption
  · rintro rfl
    cases v <;> rfl

/-- No name of a variable begins with that of another one. -/
lemma PathVariable.includes_name {v w : PathVariable} (h : v ≠ w) :
    includes ('$' :: v.name) ('$' :: w.name) = false := by
  cases v <;> cases w <;> first | exact absurd rfl h | rfl

/-- What an environment has for the names of the variables. -/
inductive Environment.Knows (env : Environment) : (name value : Text) → Prop
  | home {value : Text} (home : env.home = some value) : env.Knows "HOME".toList value
  | workingDirectory {value : Text} (workingDirectory : env.workingDirectory = some value) :
      env.Knows "PWD".toList value
  | programDirectory {value : Text} (programDirectory : env.programDirectory = some value) :
      env.Knows "TWEEFORGE_BIN_DIR".toList value
  | dataDirectory {value : Text} (dataDirectory : env.dataDirectory = some value) :
      env.Knows "TWEEFORGE_DATA_DIR".toList value

lemma Environment.knows_iff : env.Knows name value ↔
    ∃ v, PathVariable.ofName? name = some v ∧ v.value? env = some value := by
  constructor
  · intro h
    cases h with
    | home h => exact ⟨.home, rfl, h⟩
    | workingDirectory h => exact ⟨.workingDirectory, rfl, h⟩
    | programDirectory h => exact ⟨.programDirectory, rfl, h⟩
    | dataDirectory h => exact ⟨.dataDirectory, rfl, h⟩
  · rintro ⟨v, hname, hvalue⟩
    obtain rfl := PathVariable.ofName?_eq_some_iff.mp hname
    cases v with
    | home => exact .home hvalue
    | workingDirectory => exact .workingDirectory hvalue
    | programDirectory => exact .programDirectory hvalue
    | dataDirectory => exact .dataDirectory hvalue

/-- The value of a name is what the environment has for it. -/
lemma variableValue_eq_ok_iff : variableValue env name = .ok value ↔ env.Knows name value := by
  rw [Environment.knows_iff, variableValue]
  cases PathVariable.ofName? name with
  | none => simp
  | some v => cases hvalue : v.value? env <;> simp [hvalue]

lemma exists_of_variableValue (h : variableValue env name = .ok value) :
    ∃ v, PathVariable.ofName? name = some v := by
  obtain ⟨v, hname, -⟩ := Environment.knows_iff.mp (variableValue_eq_ok_iff.mp h)
  exact ⟨v, hname⟩

lemma variableValue_eq_error_iff :
    (∃ e, variableValue env name = .error e) ↔ ∀ value, ¬env.Knows name value := by
  simp only [← variableValue_eq_ok_iff]
  cases variableValue env name <;> simp

/-- The name in a piece of a path between slashes: what stands behind its first dollar sign. -/
def variableName? (piece : Text) : Option Text :=
  (cut? ['$'] piece).map fun cut => cut.2

/-- The names in a path, each from a dollar sign to the next slash or the end. -/
def variableNames (path : Text) : List Text :=
  (path.pieces (· == '/')).filterMap variableName?

lemma cut?_dollar_eq_none (h : '$' ∉ t) : cut? ['$'] t = none :=
  includes_eq_false_iff.mp (includes_of_notMem List.mem_cons_self h)

lemma cut?_dollar (h : '$' ∉ s) (t : Text) : cut? ['$'] (s ++ '$' :: t) = some (s, t) :=
  cut?_append_of_notMem h [] t

/-- A piece has a dollar sign or none. -/
lemma exists_of_mem_dollar (h : '$' ∈ t) :
    ∃ before name, t = before ++ '$' :: name ∧ '$' ∉ before := by
  obtain ⟨before, name, ht, hbefore⟩ := List.eq_append_cons_of_mem h
  exact ⟨before, name, ht, hbefore⟩

lemma pieces_slash_eq_singleton (h : '/' ∉ t) : t.pieces (· == '/') = [t] :=
  pieces_eq_singleton fun _ hc => beq_false_of_ne fun heq => h (heq ▸ hc)

lemma variableNames_append_cons (s t : Text) :
    variableNames (s ++ '/' :: t) = variableNames s ++ variableNames t := by
  rw [variableNames, pieces_append_cons s rfl, List.filterMap_append]
  rfl

lemma variableNames_piece (hslash : '/' ∉ s ++ '$' :: name) (h : '$' ∉ s) :
    variableNames (s ++ '$' :: name) = [name] := by
  rw [variableNames, pieces_slash_eq_singleton hslash, List.filterMap_cons, variableName?,
    cut?_dollar h]
  rfl

/-- A path has no names exactly if it has no dollar sign. -/
lemma variableNames_eq_nil_iff : variableNames path = [] ↔ '$' ∉ path := by
  induction path using pieces_induction '/' with
  | piece piece hslash =>
      by_cases hdollar : '$' ∈ piece
      · obtain ⟨before, name, rfl, hbefore⟩ := exists_of_mem_dollar hdollar
        rw [variableNames_piece hslash hbefore]
        simp
      · rw [variableNames, pieces_slash_eq_singleton hslash, List.filterMap_cons, variableName?,
          cut?_dollar_eq_none hdollar]
        simp [hdollar]
  | append s t hs ht =>
      rw [variableNames_append_cons, List.append_eq_nil_iff, hs, ht]
      simp [not_or]

lemma takeWhile_append_cons {p : Char → Bool} {c : Char} (hc : p c = false) (s t : Text) :
    (s ++ c :: t).takeWhile p = s.takeWhile p := by
  induction s with
  | nil => simp [hc]
  | cons d s ih => simp only [List.cons_append, List.takeWhile_cons, ih]

/-- The first name of a path is the one that a round looks at. -/
lemma firstVariable?_eq (path : Text) : firstVariable? path = (variableNames path).head? := by
  induction path using pieces_induction '/' with
  | piece piece hslash =>
      by_cases hdollar : '$' ∈ piece
      · obtain ⟨before, name, rfl, hbefore⟩ := exists_of_mem_dollar hdollar
        have hname : name.takeWhile (· ≠ '/') = name :=
          List.takeWhile_eq_self_iff.mpr fun c hc =>
            decide_eq_true fun heq =>
              hslash (List.mem_append_right _ (List.mem_cons_of_mem _ (heq ▸ hc)))
        rw [firstVariable?, cut?_dollar hbefore, variableNames_piece hslash hbefore]
        exact congrArg some hname
      · rw [firstVariable?, cut?_dollar_eq_none hdollar, variableNames_eq_nil_iff.mpr hdollar]
        rfl
  | append s t hs ht =>
      rw [variableNames_append_cons]
      by_cases hdollar : '$' ∈ s
      · obtain ⟨before, rest, rfl, hbefore⟩ := exists_of_mem_dollar hdollar
        have hne : variableNames (before ++ '$' :: rest) ≠ [] := fun h =>
          variableNames_eq_nil_iff.mp h hdollar
        have hrest : (rest ++ '/' :: t).takeWhile (· ≠ '/') = rest.takeWhile (· ≠ '/') :=
          takeWhile_append_cons (by simp) rest t
        rw [List.head?_append_of_ne_nil _ hne, ← hs, firstVariable?, firstVariable?,
          cut?_dollar hbefore, List.append_assoc, List.cons_append, cut?_dollar hbefore]
        exact congrArg some hrest
      · have hplain : includes s ['$'] = false := includes_of_notMem List.mem_cons_self hdollar
        have hcut := cut?_append_cons (c := '/') hplain (by decide) t
        rw [variableNames_eq_nil_iff.mpr hdollar, List.nil_append, ← ht, firstVariable?, hcut,
          Option.map_map, firstVariable?]
        rfl

/-! ### All variables at once -/

/-- A piece of a path between slashes with the value of its variable. -/
def expandPiece (env : Environment) (piece : Text) : Except VariableError Text :=
  match cut? ['$'] piece with
  | none => .ok piece
  | some (before, name) => (variableValue env name).map (before ++ ·)

/-- The path with the values of its variables.  It is read once, from left to right, and nothing
but the names and their dollar signs is replaced. -/
def expandOnce (env : Environment) (path : Text) : Except VariableError Text :=
  ((path.pieces (· == '/')).mapM (expandPiece env)).map (join ['/'])

lemma ne_nil_of_mapM_eq_ok {ε α β : Type} {f : α → Except ε β} {xs : List α} {ys : List β}
    (h : xs.mapM f = .ok ys) (hne : xs ≠ []) : ys ≠ [] := by
  obtain ⟨x, xs, rfl⟩ := List.exists_cons_of_ne_nil hne
  rw [List.mapM_cons] at h
  cases hx : f x with
  | error e =>
      rw [hx] at h
      cases h
  | ok y =>
      rw [hx] at h
      cases hxs : xs.mapM f with
      | error e =>
          rw [hxs] at h
          cases h
      | ok ys =>
          rw [hxs] at h
          cases h
          exact List.cons_ne_nil y ys

/-- **Parts of a path that a slash divides** are expanded apart from each other. -/
lemma expandOnce_append_cons (env : Environment) (s t : Text) :
    expandOnce env (s ++ '/' :: t) =
      (expandOnce env s).bind fun x => (expandOnce env t).map fun y => x ++ '/' :: y := by
  rw [expandOnce, pieces_append_cons s rfl, List.mapM_append, expandOnce, expandOnce]
  cases hs : (s.pieces (· == '/')).mapM (expandPiece env) with
  | error e => rfl
  | ok xs =>
      cases ht : (t.pieces (· == '/')).mapM (expandPiece env) with
      | error e => rfl
      | ok ys =>
          have hjoin := join_append ['/'] (ne_nil_of_mapM_eq_ok hs (pieces_ne_nil _ _))
            (ne_nil_of_mapM_eq_ok ht (pieces_ne_nil _ _))
          rw [List.append_assoc] at hjoin
          exact congrArg Except.ok hjoin

lemma expandOnce_piece (env : Environment) (h : '/' ∉ t) :
    expandOnce env t = expandPiece env t := by
  rw [expandOnce, pieces_slash_eq_singleton h, List.mapM_cons]
  cases expandPiece env t <;> rfl

lemma expandPiece_dollar (h : '$' ∉ s) (name : Text) :
    expandPiece env (s ++ '$' :: name) = (variableValue env name).map (s ++ ·) := by
  rw [expandPiece, cut?_dollar h]

/-- A path without a dollar sign stays as it is. -/
lemma expandOnce_of_notMem (env : Environment) (h : '$' ∉ path) :
    expandOnce env path = .ok path := by
  induction path using pieces_induction '/' with
  | piece piece hslash => rw [expandOnce_piece env hslash, expandPiece, cut?_dollar_eq_none h]
  | append s t hs ht =>
      rw [List.mem_append, not_or, List.mem_cons, not_or] at h
      rw [expandOnce_append_cons, hs h.1, ht h.2.2]
      rfl

/-- A path cannot be expanded if its first name has no value. -/
lemma expandOnce_of_head? {e : VariableError} (h : (variableNames path).head? = some name)
    (hvalue : variableValue env name = .error e) : expandOnce env path = .error e := by
  induction path using pieces_induction '/' with
  | piece piece hslash =>
      by_cases hdollar : '$' ∈ piece
      · obtain ⟨before, own, rfl, hbefore⟩ := exists_of_mem_dollar hdollar
        rw [variableNames_piece hslash hbefore] at h
        obtain rfl := Option.some.inj h
        rw [expandOnce_piece env hslash, expandPiece_dollar hbefore, hvalue]
        rfl
      · rw [variableNames_eq_nil_iff.mpr hdollar] at h
        cases h
  | append s t hs ht =>
      rw [variableNames_append_cons] at h
      rw [expandOnce_append_cons]
      by_cases hdollar : '$' ∈ s
      · have hne : variableNames s ≠ [] := fun hnil => variableNames_eq_nil_iff.mp hnil hdollar
        rw [List.head?_append_of_ne_nil _ hne] at h
        rw [hs h]
        rfl
      · rw [variableNames_eq_nil_iff.mpr hdollar, List.nil_append] at h
        rw [expandOnce_of_notMem env hdollar, ht h]
        rfl

/-- **A path cannot be expanded** exactly if one of its names has no value. -/
lemma expandOnce_error_iff : (∃ e, expandOnce env path = .error e) ↔
    ∃ name ∈ variableNames path, ∃ e, variableValue env name = .error e := by
  induction path using pieces_induction '/' with
  | piece piece hslash =>
      rw [expandOnce_piece env hslash]
      by_cases hdollar : '$' ∈ piece
      · obtain ⟨before, name, rfl, hbefore⟩ := exists_of_mem_dollar hdollar
        rw [variableNames_piece hslash hbefore, expandPiece_dollar hbefore]
        cases hvalue : variableValue env name <;> simp [Except.map, hvalue]
      · rw [variableNames_eq_nil_iff.mpr hdollar, expandPiece, cut?_dollar_eq_none hdollar]
        simp
  | append s t hs ht =>
      rw [variableNames_append_cons, expandOnce_append_cons]
      simp only [List.mem_append, or_and_right, exists_or, ← hs, ← ht]
      cases expandOnce env s <;> cases expandOnce env t <;> simp [Except.bind, Except.map]

/-! ### Rounds -/

/-- The values of an environment can be put into a path round by round. -/
structure Environment.IsSafeFor (env : Environment) (path : Text) : Prop where
  /-- No value that the path asks for holds a dollar sign. -/
  value : ∀ name ∈ variableNames path, ∀ value, variableValue env name = .ok value → '$' ∉ value
  /-- No name that is none of a variable holds one that the path asks for, with its dollar sign. -/
  hidden : ∀ other ∈ variableNames path, PathVariable.ofName? other = none →
    ∀ name ∈ variableNames path, (PathVariable.ofName? name).isSome →
      includes ('$' :: other) ('$' :: name) = false

lemma Environment.IsSafeFor.mono (h : env.IsSafeFor path)
    (hnames : ∀ name ∈ variableNames t, name ∈ variableNames path) : env.IsSafeFor t where
  value := fun name hname => h.value name (hnames name hname)
  hidden := fun other hother hnone name hname =>
    h.hidden other (hnames other hother) hnone name (hnames name hname)

/-- A name that has a value is found in the other names of a path only if they are equal. -/
lemma Environment.IsSafeFor.includes_eq_false (h : env.IsSafeFor path) {other : Text}
    (hname : name ∈ variableNames path) (hvalue : variableValue env name = .ok value)
    (hother : other ∈ variableNames path) (hne : other ≠ name) :
    includes ('$' :: other) ('$' :: name) = false := by
  obtain ⟨v, hv⟩ := exists_of_variableValue hvalue
  cases hw : PathVariable.ofName? other with
  | none => exact h.hidden other hother hw name hname (by rw [hv]; rfl)
  | some w =>
      obtain rfl := PathVariable.ofName?_eq_some_iff.mp hv
      obtain rfl := PathVariable.ofName?_eq_some_iff.mp hw
      exact PathVariable.includes_name fun heq => hne (congrArg PathVariable.name heq)

/-- **A round changes nothing in what a path is expanded to**, and takes one name out of it, if
that name is hidden in no other and its value brings in none. -/
lemma expandOnce_replaceAll (hvalue : variableValue env name = .ok value) (hdollar : '$' ∉ value)
    (hothers : ∀ other ∈ variableNames path, other ≠ name →
      includes ('$' :: other) ('$' :: name) = false) :
    expandOnce env (path.replaceAll ('$' :: name) value) = expandOnce env path ∧
      variableNames (path.replaceAll ('$' :: name) value) =
        (variableNames path).filter (· ≠ name) := by
  have hneedle : '$' :: name ≠ [] := List.cons_ne_nil _ _
  have hslash : '/' ∉ '$' :: name := by
    obtain ⟨v, hv⟩ := exists_of_variableValue hvalue
    obtain rfl := PathVariable.ofName?_eq_some_iff.mp hv
    cases v <;> decide
  -- no name has a slash, so a round changes the pieces of a path apart from each other
  induction path using pieces_induction '/' with
  | piece piece hpiece =>
      by_cases hmem : '$' ∈ piece
      · obtain ⟨before, own, rfl, hbefore⟩ := exists_of_mem_dollar hmem
        rw [variableNames_piece hpiece hbefore] at hothers ⊢
        rw [replaceAll_append_of_isInert (isInert_of_notMem hbefore name)]
        by_cases heq : own = name
        · subst heq
          have hreplace : Text.replaceAll ('$' :: own) ('$' :: own) value = value := by
            have happend := replaceAll_append hneedle [] value
            rwa [List.append_nil, replaceAll_nil, List.append_nil] at happend
          have hplain : '$' ∉ before ++ value := by simp [hbefore, hdollar]
          rw [hreplace, expandOnce_of_notMem env hplain, variableNames_eq_nil_iff.mpr hplain,
            expandOnce_piece env hpiece, expandPiece_dollar hbefore, hvalue]
          exact ⟨rfl, by simp⟩
        · rw [replaceAll_eq_self hneedle (hothers own (by simp) heq),
            variableNames_piece hpiece hbefore]
          exact ⟨rfl, by simp [heq]⟩
      · have hself : piece.replaceAll ('$' :: name) value = piece :=
          replaceAll_eq_self hneedle (includes_of_notMem List.mem_cons_self hmem) value
        rw [hself, variableNames_eq_nil_iff.mpr hmem]
        exact ⟨rfl, rfl⟩
  | append s t hs ht =>
      rw [variableNames_append_cons, List.forall_mem_append] at hothers
      obtain ⟨hs, hsNames⟩ := hs hothers.1
      obtain ⟨ht, htNames⟩ := ht hothers.2
      rw [replaceAll_append_cons hneedle hslash, expandOnce_append_cons, expandOnce_append_cons,
        hs, ht, variableNames_append_cons, variableNames_append_cons, hsNames, htNames,
        List.filter_append]
      exact ⟨rfl, rfl⟩

/-- **As many rounds as there are names are enough.** -/
theorem expandRounds_eq {n : Nat} (hsafe : env.IsSafeFor path)
    (hn : (variableNames path).length ≤ n) : expandRounds env n path = expandOnce env path := by
  induction n generalizing path with
  | zero =>
      have hplain : '$' ∉ path :=
        variableNames_eq_nil_iff.mp (List.eq_nil_of_length_eq_zero (Nat.le_zero.mp hn))
      rw [expandRounds, if_neg (by simpa using hplain), expandOnce_of_notMem env hplain]
  | succ n ih =>
      rw [expandRounds, firstVariable?_eq]
      cases hnames : variableNames path with
      | nil => exact (expandOnce_of_notMem env (variableNames_eq_nil_iff.mp hnames)).symm
      | cons name rest =>
          -- a round takes every occurrence of the first name, and so fewer names are left
          have hname : name ∈ variableNames path := hnames ▸ List.mem_cons_self
          simp only [List.head?_cons]
          cases hvalue : variableValue env name with
          | error e => exact (expandOnce_of_head? (by rw [hnames]; rfl) hvalue).symm
          | ok value =>
              obtain ⟨hexpand, hrest⟩ := expandOnce_replaceAll hvalue
                (hsafe.value name hname value hvalue)
                fun other hother hne => hsafe.includes_eq_false hname hvalue hother hne
              have hlength : (variableNames (path.replaceAll ('$' :: name) value)).length ≤ n := by
                rw [hrest, hnames, List.filter_cons_of_neg (by simp)]
                rw [hnames, List.length_cons] at hn
                exact Nat.le_trans (List.length_filter_le _ rest) (Nat.le_of_succ_le_succ hn)
              refine (ih (hsafe.mono fun other hother => ?_) hlength).trans hexpand
              rw [hrest] at hother
              exact (List.mem_filter.mp hother).1

/-- The rounds of a path come to what it is expanded to at once. -/
structure ExpandsAtOnce (env : Environment) (path : Text) : Prop where
  /-- Each name with its dollar sign is replaced by its value, which stays as it is, and so does
  all other text. -/
  result : expandVariables env path = expandOnce env path
  /-- The value of a name is what the environment has for it. -/
  value_iff : ∀ name value, variableValue env name = .ok value ↔ env.Knows name value
  /-- The rounds come to an end: there are no more of them than names. -/
  rounds : ∀ n, (variableNames path).length ≤ n →
    expandRounds env n path = expandVariables env path
  /-- There is an error exactly if a name is none of a variable, or its value is not known. -/
  error_iff : (∃ e, expandVariables env path = .error e) ↔
    ∃ name ∈ variableNames path, ∀ value, ¬env.Knows name value

lemma length_variableNames_le (path : Text) : (variableNames path).length ≤ path.length := by
  induction path using pieces_induction '/' with
  | piece piece hslash =>
      by_cases hdollar : '$' ∈ piece
      · obtain ⟨before, name, rfl, hbefore⟩ := exists_of_mem_dollar hdollar
        rw [variableNames_piece hslash hbefore]
        exact List.length_pos_of_mem hdollar
      · rw [variableNames_eq_nil_iff.mpr hdollar]
        exact Nat.zero_le _
  | append s t hs ht =>
      rw [variableNames_append_cons, List.length_append, List.length_append, List.length_cons]
      omega

/-- **Variables are replaced at once** if no value brings in a dollar sign, and no name that is
none of a variable hides one that is. -/
theorem expandsAtOnce_of_isSafeFor (hsafe : env.IsSafeFor path) : ExpandsAtOnce env path := by
  have hresult : expandVariables env path = expandOnce env path := by
    refine expandRounds_eq hsafe ((length_variableNames_le path).trans ?_)
    exact Nat.le_add_right path.length 64
  exact
    { result := hresult
      value_iff := fun _ _ => variableValue_eq_ok_iff
      rounds := fun n hn => (expandRounds_eq hsafe hn).trans hresult.symm
      error_iff := by simp only [hresult, expandOnce_error_iff, variableValue_eq_error_iff] }

/-- The home directory and the working directory are known. -/
def harbourEnvironment : Environment where
  home := some "/home/ann".toList
  workingDirectory := some "/srv/tales".toList
  programDirectory := none
  dataDirectory := none
  configDirectory := none

theorem expandsAtOnce_harbourEnvironment :
    harbourEnvironment.IsSafeFor "$HOME/a$PWD/b$HOME/$NOPE$PW".toList ∧
      ExpandsAtOnce harbourEnvironment "$HOME/a$PWD/b$HOME/$NOPE$PW".toList := by
  have hsafe : harbourEnvironment.IsSafeFor "$HOME/a$PWD/b$HOME/$NOPE$PW".toList := by
    have hnames : variableNames "$HOME/a$PWD/b$HOME/$NOPE$PW".toList =
        ["HOME".toList, "PWD".toList, "HOME".toList, "NOPE$PW".toList] := by decide
    constructor
    · rw [hnames]
      intro name hname value hvalue
      simp only [List.mem_cons, List.not_mem_nil, or_false] at hname
      rcases hname with rfl | rfl | rfl | rfl <;> cases hvalue <;> decide
    · rw [hnames]
      decide
  exact ⟨hsafe, expandsAtOnce_of_isSafeFor hsafe⟩

/-- A name that is none of a variable is no error where it hides one that stands before it. -/
theorem not_expandsAtOnce_hidden : ¬ExpandsAtOnce harbourEnvironment "$HOME/x$HOMEx".toList := by
  intro h
  exact absurd h.result (by decide)

/-- A home directory with the name of a directory that looks like a variable. -/
def loopingEnvironment : Environment :=
  { harbourEnvironment with home := some "/$HOME".toList }

/-- The value of a variable may bring it in again, and then no number of rounds is enough. -/
lemma expandRounds_looping (n : Nat) :
    expandRounds loopingEnvironment n "$HOME".toList = .error .endless := by
  have hround (n k : Nat) : expandRounds loopingEnvironment n
      (List.replicate k '/' ++ "$HOME".toList) = .error .endless := by
    induction n generalizing k with
    | zero => rw [expandRounds, if_pos (by simp)]
    | succ n ih =>
        have hslashes : '$' ∉ List.replicate k '/' := by simp
        have hfirst : firstVariable? (List.replicate k '/' ++ "$HOME".toList) =
            some "HOME".toList := by
          have hcut : cut? ['$'] (List.replicate k '/' ++ "$HOME".toList) =
              some (List.replicate k '/', "HOME".toList) := cut?_dollar hslashes _
          rw [firstVariable?, hcut]
          rfl
        have hvalue : variableValue loopingEnvironment "HOME".toList = .ok "/$HOME".toList := rfl
        have hnext : replaceAll (List.replicate k '/' ++ "$HOME".toList) ('$' :: "HOME".toList)
            "/$HOME".toList = List.replicate (k + 1) '/' ++ "$HOME".toList := by
          rw [replaceAll_append_of_isInert (isInert_of_notMem hslashes _), List.replicate_succ',
            List.append_assoc]
          rfl
        rw [expandRounds, hfirst]
        simp only [hvalue, hnext, ih]
  exact hround n 0

end TweeStory
