/-
Where a run puts the page of a story.

* `Path.exists_pieces_join`: the pieces of a path that is read from the end of another;
* `FileTree.PutsPage`: where the name of a story leads to;
* `Configuration.AsksFor`: the directory that a page is asked for in;
* `placed_run`: the page goes where the name of the story leads to from that directory, which is
  a place in the directory itself if the name has no slash;
* `not_inDirectory_pierTree`: a name with a slash leads out of the directory.
-/
import TweeStory.Proofs.Run.Writing
import TweeStory.Proofs.Story.Sorting
import TweeStory.Proofs.Text.Pieces

namespace TweeStory

open FileTree

variable {tree later : FileTree} {p base : Path} {start dir loc : Location}
  {name rest storyName : Text}

/-! ### Paths that are read from the end of others -/

lemma Text.beginsWith_append_of_ne_nil {s : Text} {c : Char} (hs : s ≠ []) (t : Text) :
    Text.beginsWith (s ++ t) [c] = Text.beginsWith s [c] := by
  obtain ⟨d, s, rfl⟩ := List.exists_cons_of_ne_nil hs
  by_cases h : c = d <;> simp [beginsWith, after?, h]

/-- **A path read from the end of another** that leads somewhere has pieces that lead there, and
then its own. -/
lemma Path.exists_pieces_join (hbase : tree.locate base = .ok start)
    (hrest : Text.beginsWith rest ['/'] = false) :
    ∃ ps, (base.join rest).text.pieces (· == '/') = ps ++ rest.pieces (· == '/') ∧
      tree.walk (tree.origin (base.join rest)) ps = .ok start := by
  obtain ⟨-, hnil, hwalk⟩ := walk_of_locate hbase
  have horigin : ∀ t, tree.origin ⟨base.text ++ t⟩ = tree.origin base := by
    intro t
    rw [origin, origin, Text.beginsWith_append_of_ne_nil hnil]
  rw [join, hrest, if_neg Bool.false_ne_true]
  by_cases hslash : base.text.finishesWith ['/']
  · rw [if_pos (by simp [hslash])]
    obtain ⟨before, htext⟩ : ∃ before, base.text = before ++ ['/'] := by
      rw [Text.finishesWith, Option.isSome_iff_exists] at hslash
      obtain ⟨before, hbefore⟩ := hslash
      exact ⟨before, Text.beforeEnd?_eq_some_iff.mp hbefore⟩
    refine ⟨before.pieces (· == '/'), ?_, ?_⟩
    · rw [htext, List.append_assoc]
      exact Text.pieces_append_cons before rfl rest
    · -- The slash at the end stands before an empty piece, which leads nowhere else.
      rw [horigin]
      rw [htext, Text.pieces_append_cons before rfl [], walk_append_eq_ok_iff] at hwalk
      obtain ⟨between, hbetween, hlast⟩ := hwalk
      obtain ⟨next, hstep, hnext⟩ := walk_cons_eq_ok_iff.mp hlast
      cases hstep with
      | stay => exact Except.ok.inj hnext ▸ hbetween
      | down _ hname => exact absurd rfl hname.ne_nil
  · rw [if_neg (by simp [hnil, hslash])]
    exact ⟨base.text.pieces (· == '/'), Text.pieces_append_cons base.text rfl rest,
      (horigin _).symm ▸ hwalk⟩

/-! ### Where the name of a story leads to -/

/-- The name of a story leads to the file of its page: up to its last slash it is a path to a
directory, from the root if it begins with a slash, and what is behind it is the name of the file
without its ending. -/
def FileTree.PutsPage (tree : FileTree) (start : Location) (storyName : Text) (loc : Location) :
    Prop :=
  ∃ dir, tree.walk (if storyName.beginsWith ['/'] then [] else start)
      (storyName.pieces (· == '/')).dropLast = .ok dir ∧
    loc = dir ++ [(storyName.pieces (· == '/')).getLastD [] ++ ".html".toList]

/-- A name without a slash leads to a file in the directory itself. -/
lemma FileTree.PutsPage.eq_of_not_mem (h : tree.PutsPage start storyName loc)
    (hslash : '/' ∉ storyName) : loc = start ++ [storyName ++ ".html".toList] := by
  obtain ⟨dir, hwalk, rfl⟩ := h
  have hpieces : storyName.pieces (· == '/') = [storyName] :=
    Text.pieces_eq_singleton fun c hc => beq_false_of_ne fun heq => hslash (heq ▸ hc)
  have hlead : storyName.beginsWith ['/'] = false := by
    rw [Bool.eq_false_iff]
    intro h
    obtain ⟨rest, rfl⟩ := Text.beginsWith_iff.mp h
    exact hslash List.mem_cons_self
  rw [hpieces, hlead] at hwalk
  rw [hpieces, ← Except.ok.inj hwalk]
  rfl

lemma beginsWith_append_pageEnding (storyName : Text) :
    Text.beginsWith (storyName ++ pageEnding) ['/'] = storyName.beginsWith ['/'] := by
  cases storyName with
  | nil => rfl
  | cons c t => exact Text.beginsWith_append_of_ne_nil (List.cons_ne_nil c t) _

/-- The pieces of the name of a page. -/
lemma pieces_append_pageEnding (storyName : Text) :
    Text.pieces (· == '/') (storyName ++ pageEnding) = (storyName.pieces (· == '/')).dropLast ++
      [(storyName.pieces (· == '/')).getLastD [] ++ pageEnding] := by
  have hslash : pageEnding.any (· == '/') = false := rfl
  exact Text.pieces_append_of_undivided
    (fun c hc => by simpa using List.any_eq_false.mp hslash c hc) storyName

/-- A file whose path ends in pieces that are read from a directory. -/
lemma FileTree.Receives.putsPage {ps : List Text} (h : tree.Receives p dir name)
    (hpieces : p.text.pieces (· == '/') = ps ++ Text.pieces (· == '/') (storyName ++ pageEnding))
    (hwalk : tree.walk (tree.origin p) ps =
      .ok (if storyName.beginsWith ['/'] then [] else start)) :
    tree.PutsPage start storyName (dir ++ [name]) := by
  rw [pieces_append_pageEnding, ← List.append_assoc] at hpieces
  have hlast := h.pieces
  have hdir := h.walk
  rw [hpieces, List.dropLast_concat] at hlast hdir
  rw [walk_append_eq_ok_iff] at hdir
  obtain ⟨between, hbetween, hdir⟩ := hdir
  obtain rfl := Except.ok.inj (hwalk.symm.trans hbetween)
  rw [List.append_cancel_left_eq, List.singleton_inj] at hlast
  exact ⟨dir, hdir, by rw [← hlast, pageEnding]⟩

/-- The page of a story in the working directory. -/
lemma FileTree.Receives.putsPage_standard
    (h : tree.Receives (Target.standard storyName).path dir name) :
    tree.PutsPage tree.here storyName (dir ++ [name]) := by
  refine h.putsPage (List.nil_append _).symm ?_
  rw [origin, Target.standard, beginsWith_append_pageEnding]
  rfl

/-- The page of a story in a directory that a path leads to. -/
lemma FileTree.Receives.putsPage_join (hbase : tree.locate base = .ok start)
    (h : tree.Receives (base.join (storyName ++ pageEnding)) dir name) :
    tree.PutsPage start storyName (dir ++ [name]) := by
  by_cases hlead : storyName.beginsWith ['/']
  · have hjoin : base.join (storyName ++ pageEnding) = ⟨storyName ++ pageEnding⟩ := by
      rw [Path.join, beginsWith_append_pageEnding, if_pos hlead]
    rw [hjoin] at h
    refine h.putsPage (List.nil_append _).symm ?_
    rw [origin, beginsWith_append_pageEnding, if_pos hlead, if_pos hlead]
    rfl
  · have hrest : Text.beginsWith (storyName ++ pageEnding) ['/'] = false := by
      rw [beginsWith_append_pageEnding]
      simpa using hlead
    obtain ⟨ps, hpieces, hwalk⟩ := Path.exists_pieces_join hbase hrest
    exact h.putsPage hpieces (by rw [if_neg hlead]; exact hwalk)

/-- The name leads to the same place in a tree that keeps what a walk needs. -/
lemma FileTree.PutsPage.mono (h : tree.PutsPage start storyName loc)
    (hkeeps : tree.Keeps later) : later.PutsPage start storyName loc := by
  obtain ⟨dir, hwalk, hloc⟩ := h
  exact ⟨dir, hkeeps.walk hwalk, hloc⟩

/-! ### Runs -/

/-- The directory that a page is asked for in: the working directory if no output is given, and
the directory that the output of an export leads to. -/
inductive Configuration.AsksFor (config : Configuration) (tree : FileTree) : Location → Prop
  | here (houtput : config.arguments.output = none) : AsksFor config tree tree.here
  | output {output : Text} {dir : Location} (houtput : config.arguments.output = some output)
      (hexport : config.arguments.exportData) (hlocate : tree.locate ⟨output⟩ = .ok dir)
      (hdir : tree.at? dir = some .directory) : AsksFor config tree dir

variable {config : Configuration} {env : Environment} {words : List Text} {made : FileTree}

/-- A page that is asked for in a directory goes where the name of the story leads to from
there. -/
lemma Configuration.AsksFor.putsPage (hasked : config.AsksFor tree start)
    (hadds : tree.AddsDirectories made)
    (h : made.Receives (config.target tree storyName).path dir name) :
    made.PutsPage start storyName (dir ++ [name]) := by
  cases hasked with
  | here houtput =>
      rw [Configuration.target, houtput] at h
      exact hadds.here ▸ h.putsPage_standard
  | @output output _ houtput hexport hlocate hdir =>
      have hdirectory : tree.isDirectory ⟨output⟩ = true := by
        rw [isDirectory, find?, hlocate, decide_eq_true_iff]
        exact hdir
      rw [Configuration.target, houtput] at h
      simp only [if_pos hexport, Target.ofExport, hdirectory, if_true] at h
      exact h.putsPage_join (hadds.keeps.locate hlocate)

/-- **The page of a story** goes where the name of the story leads to from the directory that it
is asked for in.  If the name has no slash, that is a place in this directory itself. -/
theorem placed_run (hconfig : config ∈ configuration? env words tree)
    (hasked : config.AsksFor (tree.configured env) start) (ifid : Text) :
    let before := tree.configured env
    let outcome := run env ifid words tree
    before.SameFiles outcome.tree ∨
      ∃ input ∈ config.arguments.input, ∃ loc contents,
        let storyName := (compilation ifid before input).settings.storyName
        before.Writes loc contents outcome.tree ∧ outcome.tree.PutsPage start storyName loc ∧
          ('/' ∉ storyName → loc = start ++ [storyName ++ ".html".toList]) := by
  intro before outcome
  rw [show outcome = config.run ifid before from run_eq_of_configuration? hconfig ifid]
  rcases config.sameFiles_or_exists_receives_run ifid before with
    hsame | ⟨input, hinput, page, made, dir, name, -, hadds, hreceives, hlater⟩
  · exact Or.inl hsame
  · have hputs := (hasked.putsPage hadds hreceives).mono
      (keeps_put_text hreceives.free (page ++ ['\n']))
    rw [← hlater] at hputs
    exact Or.inr ⟨input, hinput, dir ++ [name], page ++ ['\n'],
      hlater ▸ hadds.sameFiles.writes (made.writes_put (by simp) _), hputs, hputs.eq_of_not_mem⟩

/-- A story whose name has a slash, a directory for what stands before it, and a configuration
file. -/
def pierTree : FileTree where
  entries :=
    [(["etc".toList], .directory), (["etc".toList, "tweeforge".toList], .directory),
      (["etc".toList, "tweeforge".toList, "config.json".toList],
        .text "\x7b\"format_paths\": [], \"format_configs\": \x7b\x7d\x7d".toList),
      (["pages".toList], .directory),
      (["story.tw".toList], .text ":: StoryTitle\npages/Harbour\n:: Start\nHi\n".toList)]
  here := []

/-- The place of the configuration file is known. -/
def pierEnvironment : Environment := ⟨none, none, none, none, some "/etc".toList⟩

/-- The story is to be exported. -/
def pierWords : List Text := ["story.tw".toList, "--export".toList]

/-- The configuration file is there, so that it is not made. -/
lemma configured_pierTree : pierTree.configured pierEnvironment = pierTree :=
  ConfigFile.load_of_isSome rfl (by decide)

lemma exists_configuration?_pierTree :
    ∃ config ∈ configuration? pierEnvironment pierWords pierTree,
      config.arguments.input = some (.ofString "story.tw") ∧
      config.arguments.output = none ∧ config.arguments.exportData ∧
      config.arguments.lint = false ∧ config.arguments.listFormats = false ∧
      config.arguments.format = none ∧ config.policy.deny = [] := by
  have h : (configuration? pierEnvironment pierWords pierTree).any fun config =>
      config.arguments.input = some (.ofString "story.tw") ∧
      config.arguments.output = none ∧ config.arguments.exportData ∧
      config.arguments.lint = false ∧ config.arguments.listFormats = false ∧
      config.arguments.format = none ∧ config.policy.deny = [] := by decide +kernel
  cases hconfig : configuration? pierEnvironment pierWords pierTree with
  | none => simp [hconfig] at h
  | some config => exact ⟨config, rfl, by simpa [hconfig] using h⟩

theorem placed_run_pierTree :
    ∃ config ∈ configuration? pierEnvironment pierWords pierTree,
      let before := pierTree.configured pierEnvironment
      let outcome := run pierEnvironment [] pierWords pierTree
      config.AsksFor before before.here ∧
        (before.SameFiles outcome.tree ∨
          ∃ input ∈ config.arguments.input, ∃ loc contents,
            let storyName := (compilation [] before input).settings.storyName
            before.Writes loc contents outcome.tree ∧
              outcome.tree.PutsPage before.here storyName loc ∧
              ('/' ∉ storyName → loc = before.here ++ [storyName ++ ".html".toList])) := by
  obtain ⟨config, hconfig, -, houtput, -⟩ := exists_configuration?_pierTree
  exact ⟨config, hconfig, .here houtput, placed_run hconfig (.here houtput) []⟩

/-- No problem of the story is an error if no warning is denied. -/
lemma anyError_problems_pierTree (hformat : config.arguments.format = none)
    (hdeny : config.policy.deny = []) :
    anyError (config.problems (compilation [] pierTree (.ofString "story.tw"))) = false := by
  have hstoryFormat : (compilation [] pierTree (.ofString "story.tw")).settings.storyFormat =
      none := by decide +kernel
  obtain ⟨story, hstory⟩ : ∃ story,
      (compilation [] pierTree (.ofString "story.tw")).story = .ok story :=
    Story.exists_story_of_isOk (by decide +kernel)
  have hselect : config.selectFormat none = config := by
    rw [Configuration.selectFormat, Configuration.formatInForce, hformat]
    rfl
  rw [Configuration.problems, Compilation.issues, hstory, hstoryFormat, hselect,
    Policy.anyError_judge, Policy.fails, hdeny]
  simp [Policy.covers]

lemma target_pierTree (houtput : config.arguments.output = none) :
    config.target pierTree (compilation [] pierTree (.ofString "story.tw")).settings.storyName =
      .standard "pages/Harbour".toList := by
  have hname : (compilation [] pierTree (.ofString "story.tw")).settings.storyName =
      "pages/Harbour".toList := by decide +kernel
  rw [hname, Configuration.target, houtput]

/-- The page stands in another directory than that which it is asked for in. -/
theorem not_inDirectory_pierTree :
    ∃ config ∈ configuration? pierEnvironment pierWords pierTree,
      config.AsksFor pierTree pierTree.here ∧
        ∃ loc, (run pierEnvironment [] pierWords pierTree).tree.file? loc ≠ pierTree.file? loc ∧
          ¬ ∃ name, loc = pierTree.here ++ [name] := by
  obtain ⟨config, hconfig, hinput, houtput, hexport, hlint, hlist, hformat, hdeny⟩ :=
    exists_configuration?_pierTree
  refine ⟨config, hconfig, .here houtput, ["pages".toList, "Harbour.html".toList], ?_,
    by simp [pierTree]⟩
  have hfree := Configuration.not_holdsBack_of_export hinput hexport hlint hlist
    (anyError_problems_pierTree hformat hdeny)
  have hprepare : Configuration.prepare pierTree (.standard "pages/Harbour".toList) =
      .ok pierTree := rfl
  have hwritable : pierTree.writable? (Target.standard "pages/Harbour".toList).path =
      some ["pages".toList, "Harbour.html".toList] := by decide
  rw [← target_pierTree houtput] at hprepare hwritable
  obtain ⟨-, story, page, -, -, hwrites⟩ :=
    Configuration.writes_run hfree hinput hprepare hwritable
  have hbefore : pierTree.file? ["pages".toList, "Harbour.html".toList] = none := by decide
  rw [run_eq_of_configuration? hconfig, configured_pierTree, hwrites.file, hbefore]
  exact Option.some_ne_none _

end TweeStory
