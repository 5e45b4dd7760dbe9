/-
What a run does to files.

* `ConfigFile.IsMade`, `ConfigFile.sameFiles_or_isMade_load`: reading the configuration makes at
  most the file of the configuration;
* `Configuration.IsPage`: the page of a story;
* `Configuration.Ends`, `Configuration.ends_build`: the ways in which a build ends;
* `configuration?`, `FileTree.configured`, `run_eq_of_configuration?`: a run goes on from the
  tree with the configuration file if it has a configuration;
* `Configuration.HoldsBack`: why a run writes no page;
* `RunOutcome.IsCareful`, `isCareful_run`: a run that is held back leaves everything as it is,
  any other writes the page and no other file, and problems that are errors make it fail.
-/
import TweeStory.Proofs.FileTree
import TweeStory.Proofs.Report.Policy
import TweeStory.Proofs.Story.Provenance
import TweeStory.Run.Basic

namespace TweeStory

open FileTree

/-! ### The configuration file -/

namespace ConfigFile

/-- The later tree has a new file for the configuration of the user, with the text that such a
file is made with.  The path of the file leads to it, and led nowhere before.  Where everything
stands in a directory and the path does not go up, nothing stood at the place of the file. -/
def IsMade (env : Environment) (tree later : FileTree) : Prop :=
  ∃ path loc, path? env = some path ∧ tree.find? path = none ∧ later.locate path = .ok loc ∧
    tree.Writes loc defaultText later ∧
    (tree.IsClosed → ['.', '.'] ∉ path.text.pieces (· == '/') → tree.at? loc = none)

variable {env : Environment} {tree later : FileTree} {path : Path} {contents : Text}

/-- Making the file of the configuration leaves the files as they are if it fails. -/
lemma sameFiles_or_isMade_loadText (tree : FileTree) (hpath : path? env = some path) :
    tree.SameFiles (loadText tree path).1 ∨ IsMade env tree (loadText tree path).1 := by
  rw [loadText]
  split
  · split <;> exact Or.inl fun _ => rfl
  · rename_i hnone
    split
    · exact Or.inl fun _ => rfl
    · split
      · rename_i left hleft
        exact Or.inl (addsDirectories_of_makeDirectories (.inr hleft)).sameFiles
      · rename_i made hmade
        have hadds := addsDirectories_of_makeDirectories (.inl hmade)
        split
        · exact Or.inl hadds.sameFiles
        · rename_i written hwrite
          have hmissing : tree.find? path = none := by simpa using hnone
          obtain ⟨loc, hloc, rfl⟩ := Option.map_eq_some_iff.mp hwrite
          obtain ⟨dir, name, rfl, hreceives⟩ := exists_receives hloc
          exact Or.inr ⟨path, dir ++ [name], hpath, hmissing, hreceives.locate_put _,
            hadds.sameFiles.writes (made.writes_put (by simp) _),
            fun hclosed hup => hclosed.at?_eq_none hadds hmissing hreceives hup⟩

/-- The tree is that after the text of the configuration was read. -/
lemma load_of_path? (tree : FileTree) (hpath : path? env = some path) :
    (load env tree).1 = (loadText tree path).1 := by
  simp only [load, hpath]
  rcases loadText tree path with ⟨later, e | contents⟩
  · rfl
  · cases hjson : ofJson env later contents <;> simp [hjson]

/-- A configuration file that is there is not made. -/
lemma load_of_isSome (hpath : path? env = some path) (hthere : (tree.find? path).isSome) :
    (load env tree).1 = tree := by
  rw [load_of_path? tree hpath, loadText, if_pos hthere]
  cases tree.read path <;> rfl

/-- **Reading the configuration** makes at most the file of the configuration. -/
lemma sameFiles_or_isMade_load (env : Environment) (tree : FileTree) :
    tree.SameFiles (load env tree).1 ∨ IsMade env tree (load env tree).1 := by
  cases hpath : path? env with
  | none =>
      left
      rw [load, hpath]
      exact fun _ => rfl
  | some path =>
      rw [load_of_path? tree hpath]
      exact sameFiles_or_isMade_loadText tree hpath

end ConfigFile

/-! ### Builds -/

/-- The compile of a build. -/
def compilation (ifid : Text) (tree : FileTree) (input : Path) : Compilation :=
  compile tree .standard (.initial ifid) input

namespace Configuration

variable {config : Configuration} {ifid page : Text} {tree later : FileTree} {input : Path}
  {settings : BuildSettings} {story : Story} {c : Compilation} {failure : Option RunError}

@[simp] lemma arguments_selectFormat (config : Configuration) (storyFormat : Option Text) :
    (config.selectFormat storyFormat).arguments = config.arguments := by
  rw [selectFormat]
  split <;> simp

@[simp] lemma formats_selectFormat (config : Configuration) (storyFormat : Option Text) :
    (config.selectFormat storyFormat).formats = config.formats := by
  rw [selectFormat]
  split <;> simp

/-- The policy for a story does not change the file of its format. -/
@[simp] lemma formatFile_selectFormat (config : Configuration) (storyFormat : Option Text) :
    (config.selectFormat storyFormat).formatFile storyFormat = config.formatFile storyFormat := by
  simp [formatFile, formatInForce]

@[simp] lemma target_selectFormat (config : Configuration) (storyFormat : Option Text)
    (tree : FileTree) (storyName : Text) :
    (config.selectFormat storyFormat).target tree storyName = config.target tree storyName := by
  simp [target]

@[simp] lemma page_selectFormat (config : Configuration) (tree : FileTree)
    (settings : BuildSettings) (story : Story) :
    (config.selectFormat settings.storyFormat).page tree settings story =
      config.page tree settings story := by
  simp [Configuration.page]

/-- The page is the data of the story alone, with the name of its format, if that is asked for,
and else the template of the format with the data in it. -/
def IsPage (config : Configuration) (tree : FileTree) (settings : BuildSettings) (story : Story)
    (page : Text) : Prop :=
  let data := story.document settings
  (config.arguments.exportData ∧ page = story.fill data (settings.storyFormat.getD []) []) ∨
    config.arguments.exportData = false ∧ ∃ format,
      StoryFormat.load tree (config.formatFile settings.storyFormat) = .ok format ∧
        page = format.render settings.storyName (story.fill data format.name format.version)

/-- The problems of a compile that are reported. -/
def problems (config : Configuration) (c : Compilation) : List Issue :=
  c.issues (config.selectFormat c.settings.storyFormat).policy

/-- A page is to be written: no problem is an error, and there is a page of the story. -/
structure HasPage (config : Configuration) (tree : FileTree) (c : Compilation) (page : Text) :
    Prop where
  problems : anyError (config.problems c) = false
  lint : config.arguments.lint = false
  isPage : ∃ story, c.story = .ok story ∧ config.IsPage tree c.settings story page

/-- How a build ends: the tree that it leaves, and why it failed, if it did. -/
inductive Ends (config : Configuration) (tree : FileTree) (c : Compilation) :
    FileTree → Option RunError → Prop
  | problems (hproblems : anyError (config.problems c)) :
      Ends config tree c tree (some .problems)
  | linted (hproblems : anyError (config.problems c) = false) (hlint : config.arguments.lint) :
      Ends config tree c tree none
  | unformatted {e : FormatFileError} (hproblems : anyError (config.problems c) = false)
      (hexport : config.arguments.exportData = false)
      (hload : StoryFormat.load tree (config.formatFile c.settings.storyFormat) = .error e) :
      Ends config tree c tree (some (.format (config.formatFile c.settings.storyFormat) e))
  | unwritten {page : Text} {later : FileTree} {e : RunError} (hpage : config.HasPage tree c page)
      (hwrite : writePage tree (config.target tree c.settings.storyName) page =
        (later, some e)) : Ends config tree c later (some e)
  | written {page : Text} {later : FileTree} (hpage : config.HasPage tree c page)
      (hwrite : writePage tree (config.target tree c.settings.storyName) page = (later, none)) :
      Ends config tree c later none

/-- A story that does not compile has a problem that is an error. -/
lemma anyError_problems_of_error {e : CompileError} (h : c.story = .error e) :
    anyError (config.problems c) := by
  rw [problems, Compilation.issues, h, anyError, List.any_eq_true]
  exact ⟨.error e, List.mem_mergeSort.mpr (by simp), rfl⟩

/-- There is a page unless the format gives none. -/
lemma isPage_or_unformatted_page (config : Configuration) (tree : FileTree)
    (settings : BuildSettings) (story : Story) :
    (∃ page, config.page tree settings story = .ok page ∧
        config.IsPage tree settings story page) ∨
      ∃ e, config.arguments.exportData = false ∧
        StoryFormat.load tree (config.formatFile settings.storyFormat) = .error e ∧
        config.page tree settings story =
          .error (.format (config.formatFile settings.storyFormat) e) := by
  rw [Configuration.page]
  by_cases hexport : config.arguments.exportData
  · exact Or.inl ⟨_, if_pos hexport, Or.inl ⟨hexport, rfl⟩⟩
  · have hrender : config.arguments.exportData = false := by simpa using hexport
    simp only [if_neg hexport]
    cases hload : StoryFormat.load tree (config.formatFile settings.storyFormat) with
    | error e => exact Or.inr ⟨e, hrender, rfl, rfl⟩
    | ok format => exact Or.inl ⟨_, rfl, Or.inr ⟨hrender, format, hload, rfl⟩⟩

/-- A page that is there is written, or cannot be. -/
lemma ends_deliver (h : config.HasPage tree c page) (storyFormat : Option Text)
    (printed : List Terminal.Item) :
    let outcome := (config.selectFormat storyFormat).deliver printed tree c.settings.storyName page
    config.Ends tree c outcome.tree outcome.failure := by
  rw [deliver, target_selectFormat]
  rcases hwrite : writePage tree (config.target tree c.settings.storyName) page with
    ⟨later, _ | e⟩
  · exact .written h hwrite
  · exact .unwritten h hwrite

/-- **The ways in which a build ends.** -/
lemma ends_build (config : Configuration) (ifid : Text) (tree : FileTree) (input : Path) :
    config.Ends tree (compilation ifid tree input) (config.build ifid tree input).tree
      (config.build ifid tree input).failure := by
  rw [build, ← compilation]
  generalize compilation ifid tree input = c
  cases hstory : c.story with
  | error e => exact .problems (anyError_problems_of_error hstory)
  | ok story =>
      have hreport : anyError (config.problems c) =
          ((config.selectFormat c.settings.storyFormat).policy.report c.sources
            config.arguments.compact none (c.warnings ++ story.checkLinks.2)).2 := by
        rw [problems, Compilation.issues, hstory, Policy.anyError_judge, Policy.report]
      simp only [arguments_selectFormat, page_selectFormat]
      split_ifs with hfails hlint
      · exact .problems (hreport.trans hfails)
      · exact .linted (hreport.trans (by simpa using hfails)) hlint
      · have hnone := hreport.trans (by simpa using hfails)
        rcases config.isPage_or_unformatted_page tree c.settings story with
          ⟨page, hpage, hisPage⟩ | ⟨e, hexport, hload, herror⟩
        · rw [hpage]
          exact ends_deliver ⟨hnone, by simpa using hlint, story, hstory, hisPage⟩ _ _
        · rw [herror]
          exact .unformatted hnone hexport hload

lemma addsDirectories_of_prepare {target : Target} (h : prepare tree target = .ok later) :
    tree.AddsDirectories later := by
  rw [prepare] at h
  split at h
  · cases h
    exact .refl tree
  · split at h
    · rename_i made hmade
      cases h
      exact addsDirectories_of_makeDirectories (.inl hmade)
    · cases h

/-- A directory that cannot be made leaves those on the way to it behind at most. -/
lemma addsDirectories_of_prepare_eq_error {target : Target} {e : RunError}
    (h : prepare tree target = .error (later, e)) : tree.AddsDirectories later := by
  rw [prepare] at h
  split at h
  · cases h
  · split at h
    · cases h
    · rename_i left hleft
      cases h
      exact addsDirectories_of_makeDirectories (.inr hleft)

/-- A page is written if its path leads to a place for a file once directories are made. -/
lemma writePage_of_writable? {target : Target} {made : FileTree} {loc : Location}
    (hprepare : prepare tree target = .ok made) (hwritable : made.writable? target.path = some loc)
    (page : Text) :
    writePage tree target page = (made.put loc (.text (page ++ ['\n'])), none) := by
  simp only [writePage, hprepare, write?, hwritable, Option.map_some]

/-- A page that cannot be written leaves directories behind at most. -/
lemma addsDirectories_of_writePage {target : Target} {e : RunError}
    (h : writePage tree target page = (later, some e)) : tree.AddsDirectories later := by
  rw [writePage] at h
  split at h
  · rename_i left error hleft
    cases h
    exact addsDirectories_of_prepare_eq_error hleft
  · rename_i made hmade
    split at h
    · cases h
    · cases h
      exact addsDirectories_of_prepare hmade

/-- A page is written to the file that its path names once directories are made. -/
lemma exists_receives_of_writePage {target : Target}
    (h : writePage tree target page = (later, none)) :
    ∃ made dir name, tree.AddsDirectories made ∧ made.Receives target.path dir name ∧
      later = made.put (dir ++ [name]) (.text (page ++ ['\n'])) := by
  rw [writePage] at h
  split at h
  · cases h
  · rename_i made hmade
    split at h
    · rename_i written hwrite
      cases h
      obtain ⟨loc, hloc, rfl⟩ := Option.map_eq_some_iff.mp hwrite
      obtain ⟨dir, name, rfl, hreceives⟩ := exists_receives hloc
      exact ⟨made, dir, name, addsDirectories_of_prepare hmade, hreceives, rfl⟩
    · cases h

/-- **A build** leaves the files as they are or writes a page. -/
lemma Ends.sameFiles_or_exists_receives (h : config.Ends tree c later failure) :
    tree.SameFiles later ∨
      ∃ page made dir name, config.HasPage tree c page ∧ tree.AddsDirectories made ∧
        made.Receives (config.target tree c.settings.storyName).path dir name ∧
        later = made.put (dir ++ [name]) (.text (page ++ ['\n'])) := by
  cases h with
  | problems | linted | unformatted => exact Or.inl fun _ => rfl
  | unwritten _ hwrite => exact Or.inl (addsDirectories_of_writePage hwrite).sameFiles
  | written hpage hwrite =>
      obtain ⟨made, dir, name, hadds, hreceives, hlater⟩ := exists_receives_of_writePage hwrite
      exact Or.inr ⟨_, made, dir, name, hpage, hadds, hreceives, hlater⟩

/-- A build with a problem that is an error leaves the tree as it is, and fails. -/
lemma Ends.of_anyError (h : config.Ends tree c later failure)
    (herror : anyError (config.problems c)) : later = tree ∧ failure = some .problems := by
  cases h with
  | problems => exact ⟨rfl, rfl⟩
  | linted hproblems | unformatted hproblems => exact absurd herror (by simp [hproblems])
  | unwritten hpage | written hpage => exact absurd herror (by simp [hpage.problems])

/-- A build that is asked for no page leaves the tree as it is. -/
lemma Ends.eq_of_lint (h : config.Ends tree c later failure) (hlint : config.arguments.lint) :
    later = tree := by
  cases h with
  | problems | linted | unformatted => rfl
  | unwritten hpage | written hpage => exact absurd hlint (by simp [hpage.lint])

/-- A build whose format cannot be loaded leaves the tree as it is. -/
lemma Ends.eq_of_load_eq_error {e : FormatFileError} (h : config.Ends tree c later failure)
    (hexport : config.arguments.exportData = false)
    (hload : StoryFormat.load tree (config.formatFile c.settings.storyFormat) = .error e) :
    later = tree := by
  have hpage : ∀ page, ¬ config.HasPage tree c page := by
    rintro page ⟨-, -, story, -, ⟨hexport', -⟩ | ⟨-, format, hload', -⟩⟩
    · simp [hexport] at hexport'
    · simp [hload] at hload'
  cases h with
  | problems | linted | unformatted => rfl
  | unwritten h | written h => exact absurd h (hpage _)

end Configuration

/-! ### Runs -/

/-- The tree once the configuration of the user has been read. -/
def FileTree.configured (tree : FileTree) (env : Environment) : FileTree :=
  (ConfigFile.load env tree).1

/-- The configuration of a run, if its file and its command line give one. -/
def configuration? (env : Environment) (words : List Text) (tree : FileTree) :
    Option Configuration :=
  match (ConfigFile.load env tree).2, Arguments.ofTexts words with
  | .ok file, .ok arguments => some (.layer file arguments)
  | _, _ => none

/-- Why a run writes no page: formats are listed, the story is only checked or does not compile,
a problem counts as an error, or the format of the page cannot be loaded. -/
inductive Configuration.HoldsBack (config : Configuration) (ifid : Text) (tree : FileTree) : Prop
  | listed (h : config.arguments.listFormats)
  | linted (h : config.arguments.lint)
  | failed {input : Path} {e : CompileError} (hinput : config.arguments.input = some input)
      (h : (compilation ifid tree input).story = .error e)
  | denied {input : Path} {issue : Issue} (hinput : config.arguments.input = some input)
      (hissue : issue ∈ config.problems (compilation ifid tree input)) (h : issue.isError)
  | unformatted {input : Path} {e : FormatFileError}
      (hinput : config.arguments.input = some input) (hexport : config.arguments.exportData = false)
      (h : StoryFormat.load tree
        (config.formatFile (compilation ifid tree input).settings.storyFormat) = .error e)

/-- The outcome of a run writes no more than it may, and fails where it should. -/
structure RunOutcome.IsCareful (outcome : RunOutcome) (env : Environment) (ifid : Text)
    (words : List Text) (tree : FileTree) : Prop where
  /-- At most the configuration file is made before all else. -/
  configured : tree.SameFiles (tree.configured env) ∨
    ConfigFile.IsMade env tree (tree.configured env)
  /-- A run that is held back changes nothing more, nor does one without a configuration. -/
  heldBack : (∀ config ∈ configuration? env words tree,
      config.HoldsBack ifid (tree.configured env)) → outcome.tree = tree.configured env
  /-- Any run writes at most one file, with the page of the story and a line feed. -/
  written : (tree.configured env).SameFiles outcome.tree ∨
    ∃ config ∈ configuration? env words tree, ∃ input ∈ config.arguments.input, ∃ story page loc,
      let c := compilation ifid (tree.configured env) input
      c.story = .ok story ∧ config.IsPage (tree.configured env) c.settings story page ∧
        (tree.configured env).Writes loc (page ++ ['\n']) outcome.tree
  /-- A run that is not held back writes the page if there is a place for its file. -/
  delivers : ∀ config ∈ configuration? env words tree,
    ¬config.HoldsBack ifid (tree.configured env) → ∀ input ∈ config.arguments.input,
      let c := compilation ifid (tree.configured env) input
      let target := config.target (tree.configured env) c.settings.storyName
      ∀ made loc, Configuration.prepare (tree.configured env) target = .ok made →
        made.writable? target.path = some loc → outcome.failure = none ∧
          ∃ story page, c.story = .ok story ∧
            config.IsPage (tree.configured env) c.settings story page ∧
            (tree.configured env).Writes loc (page ++ ['\n']) outcome.tree
  /-- A story that does not compile and a problem that is an error make the run fail. -/
  fails : ∀ config ∈ configuration? env words tree, config.arguments.listFormats = false →
    ∀ input ∈ config.arguments.input,
      let c := compilation ifid (tree.configured env) input
      ((∃ e, c.story = .error e) ∨ ∃ issue ∈ config.problems c, issue.isError) →
        outcome.failure = some .problems

variable {env : Environment} {ifid : Text} {words : List Text} {tree : FileTree} {input : Path}
  {config : Configuration}

/-- A run without a configuration changes nothing after reading the configuration. -/
lemma tree_run_of_configuration?_eq_none (h : configuration? env words tree = none)
    (ifid : Text) : (run env ifid words tree).tree = tree.configured env := by
  rw [configuration?] at h
  rw [run, FileTree.configured]
  rcases hload : ConfigFile.load env tree with ⟨before, e | file⟩
  · rfl
  · rcases hwords : Arguments.ofTexts words with refusal | arguments
    · cases refusal <;> rfl
    · simp [hload, hwords] at h

/-- A run that has a configuration goes on with it. -/
lemma run_eq_of_configuration? (h : configuration? env words tree = some config) (ifid : Text) :
    run env ifid words tree = config.run ifid (tree.configured env) := by
  rw [configuration?] at h
  rw [run, FileTree.configured]
  rcases hload : ConfigFile.load env tree with ⟨before, e | file⟩
  · simp [hload] at h
  · rcases hwords : Arguments.ofTexts words with refusal | arguments
    · simp [hload, hwords] at h
    · rw [hload, hwords] at h
      obtain rfl := Option.some.inj h
      rfl

namespace Configuration

lemma run_of_listFormats (h : config.arguments.listFormats) (ifid : Text) (tree : FileTree) :
    (config.run ifid tree).tree = tree := by
  rw [Configuration.run, if_pos h]
  rfl

lemma run_of_input_eq_none (h : config.arguments.input = none) (ifid : Text) (tree : FileTree) :
    (config.run ifid tree).tree = tree := by
  rw [Configuration.run, h]
  split <;> rfl

/-- A run with a story builds it unless formats are to be listed. -/
lemma run_of_input_eq_some (hlist : config.arguments.listFormats = false)
    (hinput : config.arguments.input = some input) (ifid : Text) (tree : FileTree) :
    config.run ifid tree = config.build ifid tree input := by
  rw [Configuration.run, hlist, if_neg Bool.false_ne_true, hinput]

/-- A run changes nothing or ends as the build of its story. -/
lemma tree_run_or_ends_run (config : Configuration) (ifid : Text) (tree : FileTree) :
    (config.run ifid tree).tree = tree ∨
      ∃ input, config.arguments.input = some input ∧
        config.Ends tree (compilation ifid tree input) (config.run ifid tree).tree
          (config.run ifid tree).failure := by
  cases hlist : config.arguments.listFormats with
  | true => exact Or.inl (run_of_listFormats hlist ifid tree)
  | false =>
      cases hinput : config.arguments.input with
      | none => exact Or.inl (run_of_input_eq_none hinput ifid tree)
      | some input =>
          rw [run_of_input_eq_some hlist hinput]
          exact Or.inr ⟨input, rfl, config.ends_build ifid tree input⟩

/-- A run that is held back changes nothing. -/
lemma HoldsBack.tree_run (h : config.HoldsBack ifid tree) :
    (config.run ifid tree).tree = tree := by
  rcases config.tree_run_or_ends_run ifid tree with heq | ⟨input, hinput, hends⟩
  · exact heq
  · have hsame : ∀ {other : Path}, config.arguments.input = some other → other = input :=
      fun hother => Option.some.inj (hother.symm.trans hinput)
    cases h with
    | listed hlist => exact run_of_listFormats hlist ifid tree
    | linted hlint => exact hends.eq_of_lint hlint
    | failed hother herror =>
        obtain rfl := hsame hother
        exact (hends.of_anyError (anyError_problems_of_error herror)).1
    | denied hother hissue herror =>
        obtain rfl := hsame hother
        exact (hends.of_anyError (List.any_eq_true.mpr ⟨_, hissue, herror⟩)).1
    | unformatted hother hexport hload =>
        obtain rfl := hsame hother
        exact hends.eq_of_load_eq_error hexport hload

/-- Only problems hold an export back. -/
lemma not_holdsBack_of_export (hinput : config.arguments.input = some input)
    (hexport : config.arguments.exportData) (hlint : config.arguments.lint = false)
    (hlist : config.arguments.listFormats = false)
    (hproblems : anyError (config.problems (compilation ifid tree input)) = false) :
    ¬config.HoldsBack ifid tree := by
  intro hheld
  cases hheld with
  | listed h => simp [hlist] at h
  | linted h => simp [hlint] at h
  | failed hother herror =>
      obtain rfl := Option.some.inj (hinput.symm.trans hother)
      simp [anyError_problems_of_error herror] at hproblems
  | denied hother hissue herror =>
      obtain rfl := Option.some.inj (hinput.symm.trans hother)
      exact absurd (List.any_eq_true.mpr ⟨_, hissue, herror⟩) (Bool.eq_false_iff.mp hproblems)
  | unformatted _ h => simp [hexport] at h

/-- A run leaves the files as they are or writes a page. -/
lemma sameFiles_or_exists_receives_run (config : Configuration) (ifid : Text) (tree : FileTree) :
    tree.SameFiles (config.run ifid tree).tree ∨
      ∃ input, config.arguments.input = some input ∧ ∃ page made dir name,
        config.HasPage tree (compilation ifid tree input) page ∧ tree.AddsDirectories made ∧
        made.Receives (config.target tree (compilation ifid tree input).settings.storyName).path
          dir name ∧
        (config.run ifid tree).tree = made.put (dir ++ [name]) (.text (page ++ ['\n'])) := by
  rcases config.tree_run_or_ends_run ifid tree with heq | ⟨input, hinput, hends⟩
  · exact Or.inl fun _ => by rw [heq]
  · exact hends.sameFiles_or_exists_receives.imp_right fun hreceives => ⟨input, hinput, hreceives⟩

/-- A run that is not held back writes the page if there is a place for its file. -/
lemma writes_run (hfree : ¬config.HoldsBack ifid tree)
    (hinput : config.arguments.input = some input) {made : FileTree} {loc : Location}
    (hprepare : prepare tree (config.target tree
      (compilation ifid tree input).settings.storyName) = .ok made)
    (hwritable : made.writable? (config.target tree
      (compilation ifid tree input).settings.storyName).path = some loc) :
    (config.run ifid tree).failure = none ∧
      ∃ story page, (compilation ifid tree input).story = .ok story ∧
        config.IsPage tree (compilation ifid tree input).settings story page ∧
        tree.Writes loc (page ++ ['\n']) (config.run ifid tree).tree := by
  have hlist : config.arguments.listFormats = false :=
    Bool.eq_false_iff.mpr fun hlist => hfree (.listed hlist)
  rw [run_of_input_eq_some hlist hinput]
  have hends := config.ends_build ifid tree input
  have hwrite := writePage_of_writable? hprepare hwritable
  generalize (config.build ifid tree input).tree = later at hends ⊢
  generalize (config.build ifid tree input).failure = failure at hends ⊢
  cases hends with
  | problems hproblems =>
      obtain ⟨issue, hissue, herror⟩ := List.any_eq_true.mp hproblems
      exact absurd (.denied hinput hissue herror) hfree
  | linted _ hlint => exact absurd (.linted hlint) hfree
  | unformatted _ hexport hload => exact absurd (.unformatted hinput hexport hload) hfree
  | unwritten _ hunwritten =>
      rw [hwrite] at hunwritten
      cases hunwritten
  | written hpage hwritten =>
      rw [hwrite] at hwritten
      cases hwritten
      obtain ⟨story, hstory, hisPage⟩ := hpage.isPage
      have hloc : loc ≠ [] := by
        obtain ⟨dir, name, rfl, -⟩ := exists_receives hwritable
        simp
      exact ⟨rfl, story, _, hstory, hisPage,
        (addsDirectories_of_prepare hprepare).sameFiles.writes (made.writes_put hloc _)⟩

/-- A run with a problem that is an error fails. -/
lemma failure_run_of_anyError (hlist : config.arguments.listFormats = false)
    (hinput : config.arguments.input = some input)
    (herror : anyError (config.problems (compilation ifid tree input))) :
    (config.run ifid tree).failure = some .problems := by
  rw [run_of_input_eq_some hlist hinput]
  exact ((config.ends_build ifid tree input).of_anyError herror).2

end Configuration

/-- A run with a configuration writes at most one file, with the page of the story. -/
lemma sameFiles_or_writes_run (h : configuration? env words tree = some config) (ifid : Text) :
    (tree.configured env).SameFiles (run env ifid words tree).tree ∨
      ∃ input ∈ config.arguments.input, ∃ story page loc,
        let c := compilation ifid (tree.configured env) input
        c.story = .ok story ∧ config.IsPage (tree.configured env) c.settings story page ∧
          (tree.configured env).Writes loc (page ++ ['\n']) (run env ifid words tree).tree := by
  rw [run_eq_of_configuration? h]
  rcases config.sameFiles_or_exists_receives_run ifid (tree.configured env) with
    hsame | ⟨input, hinput, page, made, dir, name, hpage, hadds, -, hlater⟩
  · exact Or.inl hsame
  · obtain ⟨story, hstory, hisPage⟩ := hpage.isPage
    exact Or.inr ⟨input, hinput, story, page, dir ++ [name], hstory, hisPage,
      hlater ▸ hadds.sameFiles.writes (made.writes_put (by simp) _)⟩

/-- **Every run is careful.** -/
theorem isCareful_run (env : Environment) (ifid : Text) (words : List Text) (tree : FileTree) :
    (run env ifid words tree).IsCareful env ifid words tree := by
  cases hconfig : configuration? env words tree with
  | none =>
      have htree := tree_run_of_configuration?_eq_none hconfig ifid
      exact
        { configured := ConfigFile.sameFiles_or_isMade_load env tree
          heldBack := fun _ => htree
          written := Or.inl fun _ => by rw [htree]
          delivers := fun config hmem => by simp [hconfig] at hmem
          fails := fun config hmem => by simp [hconfig] at hmem }
  | some config =>
      have hrun := run_eq_of_configuration? hconfig ifid
      refine
        { configured := ConfigFile.sameFiles_or_isMade_load env tree
          heldBack := fun hall => hrun ▸ (hall config hconfig).tree_run
          written := (sameFiles_or_writes_run hconfig ifid).imp_right
            fun hwrites => ⟨config, hconfig, hwrites⟩
          delivers := fun other hother hfree input hinput made loc hprepare hwritable => ?_
          fails := fun other hother hlist input hinput herror => ?_ }
      · obtain rfl : config = other := Option.some.inj (hconfig.symm.trans hother)
        exact hrun ▸ Configuration.writes_run hfree hinput hprepare hwritable
      · obtain rfl : config = other := Option.some.inj (hconfig.symm.trans hother)
        rw [hrun]
        refine Configuration.failure_run_of_anyError hlist hinput ?_
        rcases herror with ⟨e, he⟩ | ⟨issue, hissue, he⟩
        · exact Configuration.anyError_problems_of_error he
        · exact List.any_eq_true.mpr ⟨issue, hissue, he⟩

end TweeStory
