/-
Which story formats a configuration finds, and in which of the directories it lists.

* `formatFileIn`, `HoldsFormat`: the format file under a name in a directory, and that it is there;
* `holdsFormat_iff`: what stands in the tree then;
* `lookup_findFormats`, `lookup_foldl_findFormats`: what one directory adds to the formats that
  were found before it, and what a list of directories comes to;
* `FirstHolds`, `IsDiscovered`: the first directory that holds a format, and the formats of a list
  of directories, each with the file in that directory;
* `LeadsTo`: the file that the name of a format leads to;
* `ConfigFile.Finds`, `ConfigFile.exists_file_finds`: the formats that the text of a configuration
  finds, in whatever order the directories list them, and the format file of a run.
-/
import Mathlib.Data.List.Forall2
import TweeStory.Proofs.FileTree.Listing
import TweeStory.Proofs.Report.Policy

namespace TweeStory

open FileTree

/-! ### Formats in a directory -/

/-- The format file under a name in a directory. -/
def formatFileIn (dir : Path) (name : Text) : Path :=
  (dir.join name).join formatFileName

variable {tree later : FileTree} {dir : Path} {dirs : List Path} {name key : Text}
  {formats : List (Text × Path)}

/-- A directory holds a format with the name: it lists the name, and there is a format file under
it. -/
structure HoldsFormat (tree : FileTree) (dir : Path) (name : Text) : Prop where
  listed : name ∈ tree.list dir
  isFile : tree.isFile (formatFileIn dir name)

lemma holdsFormat_iff_contains : HoldsFormat tree dir name ↔
    (tree.list dir).contains name && tree.isFile (formatFileIn dir name) := by
  rw [Bool.and_eq_true, List.contains_iff_mem]
  exact ⟨fun h => ⟨h.listed, h.isFile⟩, fun h => ⟨h.1, h.2⟩⟩

instance (tree : FileTree) (dir : Path) (name : Text) : Decidable (HoldsFormat tree dir name) :=
  decidable_of_iff _ holdsFormat_iff_contains.symm

lemma isEntryName_formatFileName : IsEntryName formatFileName where
  ne_nil := by decide
  ne_here := by decide
  ne_up := by decide
  length_le := by decide

/-- **A directory holds a format** exactly if there is a directory with the name of the format in
it, and in that one there is a file with the name of a format file, whose path is no longer than a
path may be.  A file with the name of the format does not count, nor an empty directory, nor one
whose format file is a directory. -/
theorem holdsFormat_iff (hname : IsEntryName name) (hslash : '/' ∉ name) :
    HoldsFormat tree dir name ↔ isWellFormed (formatFileIn dir name) ∧
      ∃ loc, tree.locate dir = .ok loc ∧ tree.at? loc = some .directory ∧
        tree.at? (loc ++ [name]) = some .directory ∧
        (tree.file? (loc ++ [name] ++ [formatFileName])).isSome := by
  by_cases hdir : dir.text = []
  · -- an empty path leads nowhere
    have hnone (loc : Location) : tree.locate dir ≠ .ok loc := by
      simp [locate_eq_ok_iff, hdir]
    constructor
    · intro h
      obtain ⟨loc, hloc, -⟩ := mem_list_iff.mp h.listed
      exact absurd hloc (hnone loc)
    · rintro ⟨-, loc, hloc, -⟩
      exact absurd hloc (hnone loc)
  · obtain ⟨rest, hrest⟩ := Path.exists_text_join hslash hdir
    have hjoined : (dir.join name).text ≠ [] := by simp [hrest, hdir]
    have hfileSlash : '/' ∉ formatFileName := by decide
    constructor
    · intro h
      obtain ⟨l, hlocate, hfile⟩ := isFile_iff.mp h.isFile
      have hformed := (locate_eq_ok_iff.mp hlocate).1
      have hformed' := isWellFormed_of_join hfileSlash hjoined hformed
      obtain ⟨between, hbetween, hstep⟩ :=
        (locate_join_iff hfileSlash hjoined hformed).mp hlocate
      obtain ⟨loc, hloc, hdown⟩ := (locate_join_iff hslash hdir hformed').mp hbetween
      obtain ⟨hat, -, rfl⟩ := (step_iff hname).mp hdown
      obtain ⟨hat', -, rfl⟩ := (step_iff isEntryName_formatFileName).mp hstep
      exact ⟨hformed, loc, hloc, hat, hat', hfile⟩
    · rintro ⟨hformed, loc, hloc, hat, hat', hfile⟩
      have hformed' := isWellFormed_of_join hfileSlash hjoined hformed
      have hthere : (tree.at? (loc ++ [name])).isSome := by rw [hat']; rfl
      have hfileThere : (tree.at? (loc ++ [name] ++ [formatFileName])).isSome := by
        rw [file?, Option.isSome_filter] at hfile
        exact Option.isSome_of_any hfile
      refine ⟨mem_list_iff.mpr ⟨loc, hloc, hat, hthere⟩, isFile_iff.mpr ⟨_, ?_, hfile⟩⟩
      have hdown := (locate_join_iff hslash hdir hformed').mpr
        ⟨loc, hloc, (step_iff hname).mpr ⟨hat, hthere, rfl⟩⟩
      exact (locate_join_iff hfileSlash hjoined hformed).mpr
        ⟨_, hdown, (step_iff isEntryName_formatFileName).mpr ⟨hat', hfileThere, rfl⟩⟩

/-- What is no directory holds no format. -/
lemma not_holdsFormat (h : tree.isDirectory dir = false) : ¬HoldsFormat tree dir name := by
  intro hholds
  have hlisted := hholds.listed
  rw [list_eq_nil h] at hlisted
  exact List.not_mem_nil hlisted

/-- The order in which directories are listed is no part of what they hold. -/
lemma holdsFormat_iff_of_isRelisting (h : tree.IsRelisting later) :
    HoldsFormat later dir name ↔ HoldsFormat tree dir name :=
  ⟨fun hholds => ⟨(h.list dir).mem_iff.mp hholds.listed, h.isFile _ ▸ hholds.isFile⟩,
    fun hholds => ⟨(h.list dir).mem_iff.mpr hholds.listed, (h.isFile _).symm ▸ hholds.isFile⟩⟩

/-! ### Searching -/

/-- The formats after a name that a directory lists was looked at. -/
def addFormat (tree : FileTree) (dir : Path) (formats : List (Text × Path)) (name : Text) :
    List (Text × Path) :=
  if tree.isFile (formatFileIn dir name) && !(formats.any fun entry => entry.1 = name) then
    formats ++ [(name, formatFileIn dir name)]
  else formats

lemma findFormats_eq (tree : FileTree) (formats : List (Text × Path)) (dir : Path) :
    findFormats tree formats dir = (tree.list dir).foldl (addFormat tree dir) formats :=
  rfl

lemma any_key_eq_isSome_lookup (formats : List (Text × Path)) (name : Text) :
    (formats.any fun entry => entry.1 = name) = (formats.lookup name).isSome := by
  induction formats with
  | nil => rfl
  | cons entry formats ih =>
      rw [List.any_cons, List.lookup_cons, ih]
      by_cases h : name = entry.1
      · simp [h]
      · have hbeq : (name == entry.1) = false := beq_false_of_ne h
        simp [hbeq, Ne.symm h]

/-- **What one name adds**: its file if there is one, and if the name has no file yet. -/
lemma lookup_addFormat (tree : FileTree) (dir : Path) (formats : List (Text × Path))
    (name key : Text) : (addFormat tree dir formats name).lookup key =
      (formats.lookup key).or
        (if key = name ∧ tree.isFile (formatFileIn dir key) then some (formatFileIn dir key)
          else none) := by
  rw [addFormat, any_key_eq_isSome_lookup]
  by_cases hkey : key = name
  · subst hkey
    cases hlookup : formats.lookup key with
    | some file => simp [hlookup]
    | none => cases tree.isFile (formatFileIn dir key) <;> simp [hlookup, List.lookup_append]
  · have hbeq : (key == name) = false := beq_false_of_ne hkey
    rw [if_neg (not_and_of_not_left _ hkey), Option.or_none]
    split_ifs <;> simp [hbeq, List.lookup_append, List.lookup_cons]

lemma nodup_addFormat (h : (formats.map Prod.fst).Nodup) (tree : FileTree) (dir : Path)
    (name : Text) : ((addFormat tree dir formats name).map Prod.fst).Nodup := by
  rw [addFormat]
  split_ifs with hnew
  · rw [List.map_append, List.map_singleton, ← List.concat_eq_append, List.nodup_concat]
    refine ⟨fun hmem => ?_, h⟩
    obtain ⟨entry, hentry, hname⟩ := List.mem_map.mp hmem
    simp only [Bool.and_eq_true, Bool.not_eq_true', List.any_eq_false, decide_eq_true_iff] at hnew
    exact hnew.2 entry hentry hname
  · exact h

/-- **What one directory adds**: the names of the formats that it holds, as far as they have no
files yet.  The order in which it lists them plays no part. -/
lemma lookup_findFormats (tree : FileTree) (formats : List (Text × Path)) (dir : Path)
    (key : Text) : (findFormats tree formats dir).lookup key =
      (formats.lookup key).or
        (if HoldsFormat tree dir key then some (formatFileIn dir key) else none) := by
  have hrun (names : List Text) : (names.foldl (addFormat tree dir) formats).lookup key =
      (formats.lookup key).or
        (if key ∈ names ∧ tree.isFile (formatFileIn dir key) then some (formatFileIn dir key)
          else none) := by
    induction names generalizing formats with
    | nil => simp
    | cons name names ih =>
        rw [List.foldl_cons, ih, lookup_addFormat, Option.or_assoc]
        congr 1
        by_cases hfile : tree.isFile (formatFileIn dir key)
        · by_cases hkey : key = name
          · subst hkey
            simp [hfile]
          · simp [hkey]
        · simp [hfile]
  rw [findFormats_eq, hrun]
  simp only [holdsFormat_iff_contains, Bool.and_eq_true, List.contains_iff_mem]

lemma nodup_findFormats (h : (formats.map Prod.fst).Nodup) (tree : FileTree) (dir : Path) :
    ((findFormats tree formats dir).map Prod.fst).Nodup := by
  rw [findFormats_eq]
  generalize tree.list dir = names
  induction names generalizing formats with
  | nil => exact h
  | cons name names ih => exact ih (nodup_addFormat h tree dir name)

/-- **What a list of directories comes to**: a name has the file in the first of them that holds a
format of that name. -/
lemma lookup_foldl_findFormats (tree : FileTree) (formats : List (Text × Path))
    (dirs : List Path) (key : Text) : (dirs.foldl (findFormats tree) formats).lookup key =
      (formats.lookup key).or
        ((dirs.find? fun dir => HoldsFormat tree dir key).map fun dir => formatFileIn dir key) := by
  induction dirs generalizing formats with
  | nil => simp
  | cons dir dirs ih =>
      rw [List.foldl_cons, ih, lookup_findFormats, Option.or_assoc, List.find?_cons]
      by_cases h : HoldsFormat tree dir key <;> simp [h]

lemma nodup_foldl_findFormats (h : (formats.map Prod.fst).Nodup) (tree : FileTree)
    (dirs : List Path) : ((dirs.foldl (findFormats tree) formats).map Prod.fst).Nodup := by
  induction dirs generalizing formats with
  | nil => exact h
  | cons dir dirs ih => exact ih (nodup_findFormats h tree dir)

/-! ### The first directory -/

/-- The directory is the first of the list that holds a format of the name. -/
structure FirstHolds (tree : FileTree) (dirs : List Path) (name : Text) (dir : Path) : Prop where
  holds : HoldsFormat tree dir name
  first : ∃ before behind, dirs = before ++ dir :: behind ∧
    ∀ other ∈ before, ¬HoldsFormat tree other name

lemma find?_holdsFormat_eq_some_iff :
    (dirs.find? fun dir => HoldsFormat tree dir name) = some dir ↔
      FirstHolds tree dirs name dir := by
  rw [List.find?_eq_some_iff_append]
  simp only [decide_eq_true_iff, Bool.not_eq_true', decide_eq_false_iff_not]
  exact ⟨fun h => ⟨h.1, h.2⟩, fun h => ⟨h.holds, h.first⟩⟩

/-- The formats are those of the listed directories: each name of a format that one of them holds,
once, with the format file in the first of them. -/
structure IsDiscovered (tree : FileTree) (dirs : List Path) (formats : List (Text × Path)) :
    Prop where
  nodup : (formats.map Prod.fst).Nodup
  key_iff : ∀ name, name ∈ formats.map Prod.fst ↔ ∃ dir ∈ dirs, HoldsFormat tree dir name
  lookup_iff : ∀ name file, formats.lookup name = some file ↔
    ∃ dir, FirstHolds tree dirs name dir ∧ file = formatFileIn dir name

lemma mem_keys_iff : name ∈ formats.map Prod.fst ↔ (formats.lookup name).isSome := by
  rw [← any_key_eq_isSome_lookup, List.any_eq_true, List.mem_map]
  simp

lemma isDiscovered_of_lookup (hnodup : (formats.map Prod.fst).Nodup)
    (hlookup : ∀ name, formats.lookup name =
      (dirs.find? fun dir => HoldsFormat tree dir name).map fun dir => formatFileIn dir name) :
    IsDiscovered tree dirs formats where
  nodup := hnodup
  key_iff := fun name => by
    rw [mem_keys_iff, hlookup, Option.isSome_map, List.find?_isSome]
    simp
  lookup_iff := fun name file => by
    rw [hlookup, Option.map_eq_some_iff]
    exact exists_congr fun dir => and_congr find?_holdsFormat_eq_some_iff eq_comm

/-- **The directories are searched** one after the other, and the first that holds a format is the
one that counts. -/
lemma isDiscovered_foldl_findFormats (tree : FileTree) (dirs : List Path) :
    IsDiscovered tree dirs (dirs.foldl (findFormats tree) []) :=
  isDiscovered_of_lookup (nodup_foldl_findFormats (by simp) tree dirs) fun name => by
    rw [lookup_foldl_findFormats, List.lookup_nil, Option.none_or]

/-- Names lead to the same files in formats that were found in the same directories. -/
lemma IsDiscovered.lookup_eq {others : List (Text × Path)} (h : IsDiscovered tree dirs formats)
    (hothers : IsDiscovered tree dirs others) (name : Text) :
    others.lookup name = formats.lookup name :=
  Option.ext fun file => by rw [h.lookup_iff, hothers.lookup_iff]

/-- What is no directory adds nothing to the formats. -/
lemma IsDiscovered.filter_isDirectory (h : IsDiscovered tree dirs formats) :
    IsDiscovered tree (dirs.filter tree.isDirectory) formats := by
  refine isDiscovered_of_lookup h.nodup fun name => ?_
  have hsame (dir : Path) : tree.isDirectory dir ∧ HoldsFormat tree dir name ↔
      HoldsFormat tree dir name := by
    refine and_iff_right_of_imp fun hholds => ?_
    by_contra hdir
    exact not_holdsFormat (Bool.eq_false_iff.mpr hdir) hholds
  rw [List.find?_filter]
  simp only [decide_eq_true_iff, hsame]
  rw [(isDiscovered_foldl_findFormats tree dirs).lookup_eq h, lookup_foldl_findFormats,
    List.lookup_nil, Option.none_or]

/-! ### Format files -/

/-- Where the name of a format leads: to the format file in the first directory that holds a format
of that name, and if there is none, where the name leads as a path. -/
inductive LeadsTo (tree : FileTree) (dirs : List Path) (name : Text) : Path → Prop
  | known {dir : Path} (h : FirstHolds tree dirs name dir) :
      LeadsTo tree dirs name (formatFileIn dir name)
  | unknown (h : ∀ dir ∈ dirs, ¬HoldsFormat tree dir name) : LeadsTo tree dirs name ⟨name⟩

lemma IsDiscovered.leadsTo (h : IsDiscovered tree dirs formats) (name : Text) :
    LeadsTo tree dirs name ((formats.lookup name).getD ⟨name⟩) := by
  cases hlookup : formats.lookup name with
  | some file =>
      obtain ⟨dir, hfirst, rfl⟩ := (h.lookup_iff name file).mp hlookup
      exact .known hfirst
  | none =>
      refine .unknown fun dir hdir hholds => ?_
      have hkey := mem_keys_iff.mp ((h.key_iff name).mpr ⟨dir, hdir, hholds⟩)
      rw [hlookup] at hkey
      cases hkey

lemma Configuration.formatFile_layer {file : ConfigFile} {arguments : Arguments}
    {storyFormat : Option Text} (h : storyFormat.or arguments.format = some name) :
    (layer file arguments).formatFile storyFormat = (file.formats.lookup name).getD ⟨name⟩ := by
  have hinForce : (layer file arguments).formatInForce storyFormat = some name := by
    rw [formatInForce, layer, arguments_addPolicy, h]
  rw [formatFile, hinForce, layer, formats_addPolicy]

namespace ConfigFile

variable {env : Environment} {contents : Text} {paths : List Text}
  {policies : List (Text × Policy)}

/-- The text of a configuration lists the paths and has the policies. -/
def Reads (contents : Text) (paths : List Text) (policies : List (Text × Policy)) : Prop :=
  ((Json.stripComments? contents).bind Json.parse?).bind readConfig? = some (paths, policies)

/-- Paths lead to directories, or to where directories might stand, once their variables are
replaced. -/
def LeadTo (env : Environment) (paths : List Text) (dirs : List Path) : Prop :=
  List.Forall₂ (fun path dir => expandVariables env path = .ok dir.text) paths dirs

/-- The directories that paths lead to are searched in the order of the paths. -/
lemma findAllFormats_eq (h : LeadTo env paths dirs) (tree : FileTree)
    (formats : List (Text × Path)) :
    findAllFormats env tree formats paths = .ok (dirs.foldl (findFormats tree) formats) := by
  induction h generalizing formats with
  | nil => rfl
  | cons hpath _ ih =>
      rw [findAllFormats, hpath]
      exact ih _

lemma ofJson_eq (hreads : Reads contents paths policies) (hdirs : LeadTo env paths dirs)
    (tree : FileTree) :
    ofJson env tree contents = .ok ⟨dirs.foldl (findFormats tree) [], policies⟩ := by
  rw [ofJson, hreads]
  simp only [findAllFormats_eq hdirs]
  rfl

/-- What a configuration finds in the directories that it lists, and which format file a run has
with it. -/
structure Finds (env : Environment) (tree : FileTree) (contents : Text) (dirs : List Path)
    (file : ConfigFile) : Prop where
  /-- The formats are those of the directories, each in the first that holds it. -/
  discovered : IsDiscovered tree dirs file.formats
  /-- They are also those of the paths that lead to directories, and so the others add none. -/
  directories : IsDiscovered tree (dirs.filter tree.isDirectory) file.formats
  /-- A directory that holds a format has a directory of that name in it, and in that one there is
  a file with the name of a format file. -/
  held : ∀ dir ∈ dirs, ∀ name, IsEntryName name → '/' ∉ name →
    (HoldsFormat tree dir name ↔ isWellFormed (formatFileIn dir name) ∧
      ∃ loc, tree.locate dir = .ok loc ∧ tree.at? loc = some .directory ∧
        tree.at? (loc ++ [name]) = some .directory ∧
        (tree.file? (loc ++ [name] ++ ["format.js".toList])).isSome)
  /-- If directories list their names in another order, the same is found. -/
  relisted : ∀ later, tree.IsRelisting later → ∃ other, ofJson env later contents = .ok other ∧
    other.policies = file.policies ∧
    ∀ name, other.formats.lookup name = file.formats.lookup name
  /-- That is so if the entries of the tree stand in another order. -/
  reordered : (tree.entries.map Prod.fst).Nodup → ∀ later : FileTree,
    later.entries.Perm tree.entries → later.here = tree.here → tree.IsRelisting later
  /-- The format that the story names counts, whatever the command line names. -/
  ofStory : ∀ arguments name,
    LeadsTo tree dirs name ((Configuration.layer file arguments).formatFile (some name))
  /-- If the story names none, the format that the command line names counts. -/
  ofArguments : ∀ arguments name, arguments.format = some name →
    LeadsTo tree dirs name ((Configuration.layer file arguments).formatFile none)

/-- **The formats of a configuration** are found in the directories that it lists, whatever stands
where the paths lead. -/
theorem exists_file_finds (hreads : Reads contents paths policies) (hdirs : LeadTo env paths dirs) :
    ∃ file, ofJson env tree contents = .ok file ∧ file.policies = policies ∧
      Finds env tree contents dirs file := by
  have hdiscovered := isDiscovered_foldl_findFormats tree dirs
  refine ⟨_, ofJson_eq hreads hdirs tree, rfl, ?_⟩
  exact
    { discovered := hdiscovered
      directories := hdiscovered.filter_isDirectory
      held := fun dir _ name hname hslash => holdsFormat_iff hname hslash
      relisted := fun later hlater => by
        refine ⟨_, ofJson_eq hreads hdirs later, rfl, fun name => ?_⟩
        rw [lookup_foldl_findFormats, lookup_foldl_findFormats]
        simp only [holdsFormat_iff_of_isRelisting hlater]
      reordered := fun hnodup later hentries hhere => isRelisting_of_perm hentries hnodup hhere
      ofStory := fun arguments name => by
        rw [Configuration.formatFile_layer Option.some_or]
        exact hdiscovered.leadsTo name
      ofArguments := fun arguments name hformat => by
        rw [Configuration.formatFile_layer (Option.none_or.trans hformat)]
        exact hdiscovered.leadsTo name }

/-- Two shelves of formats, one of which stands on both, and on the first of them a note, a
directory without a format file, and one whose format file is a directory. -/
def shelfTree : FileTree where
  entries :=
    [(["home".toList], .directory), (["home".toList, "ann".toList], .directory),
      (["home".toList, "ann".toList, "note".toList], .text "Hi".toList),
      (["home".toList, "ann".toList, "bare".toList], .directory),
      (["home".toList, "ann".toList, "odd".toList], .directory),
      (["home".toList, "ann".toList, "odd".toList, formatFileName], .directory),
      (["home".toList, "ann".toList, "snow".toList], .directory),
      (["home".toList, "ann".toList, "snow".toList, formatFileName], .text []),
      (["two".toList], .directory), (["two".toList, "wave".toList], .directory),
      (["two".toList, "wave".toList, formatFileName], .binary),
      (["two".toList, "snow".toList], .directory),
      (["two".toList, "snow".toList, formatFileName], .text [])]
  here := []

/-- A configuration that lists both shelves, with a path between them that leads nowhere. -/
def shelfText : Text :=
  ("\x7b\"format_paths\": [\"$HOME\", \"/none\", \"/two\"], // shelves\n" ++
    "\"format_configs\": \x7b\x7d\x7d").toList

/-- The home directory is the first shelf. -/
def shelfEnvironment : Environment := ⟨some "/home/ann".toList, none, none, none, none⟩

theorem exists_file_finds_shelfTree :
    let paths := ["$HOME".toList, "/none".toList, "/two".toList]
    let dirs := [Path.ofString "/home/ann", Path.ofString "/none", Path.ofString "/two"]
    Reads shelfText paths [] ∧ LeadTo shelfEnvironment paths dirs ∧
      ∃ file, ofJson shelfEnvironment shelfTree shelfText = .ok file ∧ file.policies = [] ∧
        Finds shelfEnvironment shelfTree shelfText dirs file := by
  intro paths dirs
  have hreads : Reads shelfText paths [] := by
    rw [Reads]
    decide +kernel
  have hdirs : LeadTo shelfEnvironment paths dirs :=
    .cons (by decide) (.cons (by decide) (.cons (by decide) .nil))
  exact ⟨hreads, hdirs, exists_file_finds hreads hdirs⟩

end ConfigFile

end TweeStory
