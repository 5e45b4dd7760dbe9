/-
What changes of a file tree leave as it is.

* `FileTree.file?`, `FileTree.SameFiles`, `FileTree.Writes`: the file at a location, trees with
  the same files, and trees that differ by one file;
* `FileTree.Step`, `FileTree.walk_append_eq_ok_iff`: walks along the pieces of a path, step by
  step;
* `FileTree.Keeps`: a tree that keeps what a walk needs, so that walks lead to the same places;
* `FileTree.AddsDirectories`, `FileTree.addsDirectories_of_makeDirectories`: making directories
  adds directories and nothing else;
* `FileTree.Receives`, `Receives.locate_put`: where a file is written, and that its path leads
  there afterwards;
* `FileTree.IsClosed`, `IsClosed.at?_eq_none`: where everything stands in a directory, a path
  that leads nowhere does not lead to something that was there once directories are made.
-/
import Mathlib.Data.List.Basic
import Mathlib.Data.List.Induction
import Mathlib.Tactic.SplitIfs
import TweeStory.FileTree

namespace TweeStory.FileTree

variable {tree later last : FileTree} {loc l : Location} {piece : Text} {ps qs : List Text}
  {p : Path}

/-! ### Files -/

/-- The file at a location. -/
def file? (tree : FileTree) (loc : Location) : Option Entry :=
  (tree.at? loc).filter (· ≠ .directory)

/-- The later tree has the files of the earlier one and no others. -/
def SameFiles (tree later : FileTree) : Prop :=
  ∀ loc, later.file? loc = tree.file? loc

/-- The later tree has a file with the given contents at a location, which may have been there
before with other contents, and has otherwise the files of the earlier tree. -/
structure Writes (tree : FileTree) (loc : Location) (contents : Text) (later : FileTree) :
    Prop where
  file : later.file? loc = some (.text contents)
  others : ∀ l, l ≠ loc → later.file? l = tree.file? l

/-- A file that is written after others stayed as they were is all that changes. -/
lemma SameFiles.writes {contents : Text} (h : tree.SameFiles later)
    (h' : later.Writes loc contents last) : tree.Writes loc contents last :=
  ⟨h'.file, fun l hl => (h'.others l hl).trans (h l)⟩

/-- Putting a text at a location writes a file there. -/
lemma writes_put (tree : FileTree) (hloc : loc ≠ []) (contents : Text) :
    tree.Writes loc contents (tree.put loc (.text contents)) where
  file := by rw [file?, tree.at?_put hloc]; rfl
  others := fun l hl => by rw [file?, tree.at?_put_of_ne hl, ← file?]

/-! ### Walks -/

/-- A piece of a path that is a name an entry may have. -/
structure IsEntryName (piece : Text) : Prop where
  ne_nil : piece ≠ []
  ne_here : piece ≠ ['.']
  ne_up : piece ≠ ['.', '.']
  length_le : piece.utf8Length ≤ nameLimit

/-- A piece of a path leads from a directory to a location. -/
inductive Step (tree : FileTree) : Location → Text → Location → Prop
  | stay {loc : Location} {piece : Text} (hdir : tree.at? loc = some .directory)
      (hpiece : piece = [] ∨ piece = ['.']) : Step tree loc piece loc
  | up {loc : Location} (hdir : tree.at? loc = some .directory) :
      Step tree loc ['.', '.'] loc.dropLast
  | down {loc : Location} {piece : Text} (hdir : tree.at? loc = some .directory)
      (hname : IsEntryName piece) (hthere : (tree.at? (loc ++ [piece])).isSome) :
      Step tree loc piece (loc ++ [piece])

/-- A walk takes a step for each piece. -/
lemma walk_cons_eq_ok_iff :
    tree.walk loc (piece :: ps) = .ok l ↔
      ∃ next, tree.Step loc piece next ∧ tree.walk next ps = .ok l := by
  constructor
  · intro h
    rw [walk] at h
    split at h
    · cases h
    · rename_i hdir
      split_ifs at h with hstay hup hlong hthere
      · exact ⟨loc, .stay hdir (by simpa using hstay), h⟩
      · exact ⟨loc.dropLast, hup ▸ .up hdir, h⟩
      · have hne : piece ≠ [] ∧ piece ≠ ['.'] := by simpa using hstay
        exact ⟨loc ++ [piece], .down hdir ⟨hne.1, hne.2, hup, Nat.not_lt.mp hlong⟩
          (by simpa [Option.isSome_iff_ne_none] using hthere), h⟩
    · cases h
  · rintro ⟨next, hstep, h⟩
    rw [walk]
    cases hstep with
    | stay hdir hpiece => simpa [hdir, hpiece] using h
    | up hdir => simpa [hdir] using h
    | down hdir hname hthere =>
        have hlong := Nat.not_lt.mpr hname.length_le
        have hnone : (tree.at? (loc ++ [piece])).isNone = false := by simpa using hthere
        simpa [hdir, hname.ne_nil, hname.ne_here, hname.ne_up, hlong, hnone] using h

/-- A walk along pieces and further pieces is one walk and then another. -/
lemma walk_append_eq_ok_iff :
    tree.walk loc (ps ++ qs) = .ok l ↔
      ∃ between, tree.walk loc ps = .ok between ∧ tree.walk between qs = .ok l := by
  induction ps generalizing loc with
  | nil => simp [walk]
  | cons piece ps ih =>
      simp only [List.cons_append, walk_cons_eq_ok_iff, ih]
      constructor
      · rintro ⟨next, hstep, between, hps, hqs⟩
        exact ⟨between, ⟨next, hstep, hps⟩, hqs⟩
      · rintro ⟨between, ⟨next, hstep, hps⟩, hqs⟩
        exact ⟨next, hstep, between, hps, hqs⟩

/-- A path that leads somewhere is walked along its pieces. -/
lemma walk_of_locate (h : tree.locate p = .ok loc) : isWellFormed p ∧ p.text ≠ [] ∧
    tree.walk (tree.origin p) (p.text.pieces (· == '/')) = .ok loc := by
  rw [locate] at h
  split_ifs at h with hformed hnil
  exact ⟨by simpa using hformed, hnil, h⟩

/-! ### Trees that keep what a walk needs -/

/-- The later tree has directories where the earlier one has them, and something wherever the
earlier one has something. -/
structure Keeps (tree later : FileTree) : Prop where
  here : later.here = tree.here
  directory : ∀ loc, tree.at? loc = some .directory → later.at? loc = some .directory
  isSome : ∀ loc, (tree.at? loc).isSome → (later.at? loc).isSome

namespace Keeps

lemma origin_eq (h : tree.Keeps later) (p : Path) : later.origin p = tree.origin p := by
  rw [origin, origin, h.here]

lemma step (h : tree.Keeps later) (hstep : tree.Step loc piece l) : later.Step loc piece l := by
  cases hstep with
  | stay hdir hpiece => exact .stay (h.directory _ hdir) hpiece
  | up hdir => exact .up (h.directory _ hdir)
  | down hdir hname hthere => exact .down (h.directory _ hdir) hname (h.isSome _ hthere)

/-- **Walks lead to the same places** in a tree that keeps what they need. -/
lemma walk (h : tree.Keeps later) (hwalk : tree.walk loc ps = .ok l) :
    later.walk loc ps = .ok l := by
  induction ps generalizing loc with
  | nil => exact hwalk
  | cons piece ps ih =>
      obtain ⟨next, hstep, hrest⟩ := walk_cons_eq_ok_iff.mp hwalk
      exact walk_cons_eq_ok_iff.mpr ⟨next, h.step hstep, ih hrest⟩

lemma locate (h : tree.Keeps later) (hlocate : tree.locate p = .ok loc) :
    later.locate p = .ok loc := by
  obtain ⟨hformed, hnil, hwalk⟩ := walk_of_locate hlocate
  rw [FileTree.locate, hformed, if_neg (by simp), if_neg hnil, h.origin_eq]
  exact h.walk hwalk

end Keeps

/-- A file takes no place of a directory. -/
lemma keeps_put_text (hloc : tree.at? loc ≠ some .directory) (contents : Text) :
    tree.Keeps (tree.put loc (.text contents)) := by
  have hne : loc ≠ [] := by
    rintro rfl
    exact hloc rfl
  refine ⟨rfl, fun l hl => ?_, fun l hl => ?_⟩
  · have hother : l ≠ loc := by
      rintro rfl
      exact hloc hl
    rw [tree.at?_put_of_ne hother, hl]
  · by_cases hl' : l = loc
    · rw [hl', tree.at?_put hne]
      rfl
    · rwa [tree.at?_put_of_ne hl']

/-! ### Directories that are made -/

/-- The later tree has all that the earlier one has, and directories besides. -/
structure AddsDirectories (tree later : FileTree) : Prop where
  here : later.here = tree.here
  at? : ∀ loc, later.at? loc = tree.at? loc ∨
    (tree.at? loc = none ∧ later.at? loc = some .directory)

namespace AddsDirectories

lemma refl (tree : FileTree) : tree.AddsDirectories tree :=
  ⟨rfl, fun _ => Or.inl rfl⟩

lemma trans (h : tree.AddsDirectories later) (h' : later.AddsDirectories last) :
    tree.AddsDirectories last := by
  refine ⟨h'.here.trans h.here, fun loc => ?_⟩
  rcases h.at? loc with heq | ⟨hnone, hdir⟩
  · rw [← heq]
    exact h'.at? loc
  · rcases h'.at? loc with heq' | ⟨hnone', -⟩
    · exact Or.inr ⟨hnone, heq'.trans hdir⟩
    · rw [hdir] at hnone'
      cases hnone'

lemma keeps (h : tree.AddsDirectories later) : tree.Keeps later := by
  refine ⟨h.here, fun loc hloc => ?_, fun loc hloc => ?_⟩
  · rcases h.at? loc with heq | ⟨-, hdir⟩
    · exact heq.trans hloc
    · exact hdir
  · rcases h.at? loc with heq | ⟨-, hdir⟩
    · rwa [heq]
    · rw [hdir]
      rfl

lemma sameFiles (h : tree.AddsDirectories later) : tree.SameFiles later := by
  intro loc
  rcases h.at? loc with heq | ⟨hnone, hdir⟩
  · rw [file?, file?, heq]
  · rw [file?, file?, hnone, hdir]
    rfl

end AddsDirectories

lemma addsDirectories_put (hloc : tree.at? loc = none) :
    tree.AddsDirectories (tree.put loc .directory) := by
  have hne : loc ≠ [] := by
    rintro rfl
    cases hloc
  refine ⟨rfl, fun l => ?_⟩
  by_cases hl : l = loc
  · exact Or.inr ⟨hl ▸ hloc, hl ▸ tree.at?_put hne _⟩
  · exact Or.inl (tree.at?_put_of_ne hl _)

lemma addsDirectories_of_makeAlong
    (h : tree.makeAlong loc ps = .ok later ∨ tree.makeAlong loc ps = .error later) :
    tree.AddsDirectories later := by
  induction ps generalizing tree loc with
  | nil =>
      obtain rfl : tree = later := by simpa [makeAlong] using h
      exact .refl tree
  | cons piece ps ih =>
      rw [makeAlong] at h
      split_ifs at h
      · exact ih h
      · exact ih h
      · obtain rfl : tree = later := by simpa using h
        exact .refl tree
      · split at h
        · exact ih h
        · obtain rfl : tree = later := by simpa using h
          exact .refl tree
        · rename_i hnone
          exact (addsDirectories_put hnone).trans (ih h)

/-- **Making directories** adds directories and nothing else, also where it fails. -/
lemma addsDirectories_of_makeDirectories
    (h : tree.makeDirectories p = .ok later ∨ tree.makeDirectories p = .error later) :
    tree.AddsDirectories later := by
  rw [makeDirectories] at h
  split_ifs at h
  · obtain rfl : tree = later := by simpa using h
    exact .refl tree
  · exact addsDirectories_of_makeAlong h

/-! ### Files that are written -/

/-- A write to the path is one to the file with the given name in a directory. -/
structure Receives (tree : FileTree) (p : Path) (dir : Location) (name : Text) : Prop where
  isWellFormed : isWellFormed p
  pieces : p.text.pieces (· == '/') = (p.text.pieces (· == '/')).dropLast ++ [name]
  isEntryName : IsEntryName name
  walk : tree.walk (tree.origin p) (p.text.pieces (· == '/')).dropLast = .ok dir
  directory : tree.at? dir = some .directory
  free : tree.at? (dir ++ [name]) ≠ some .directory

/-- What is written goes to a name in a directory. -/
lemma exists_receives (h : tree.writable? p = some loc) :
    ∃ dir name, loc = dir ++ [name] ∧ tree.Receives p dir name := by
  obtain ⟨before, name, hpieces⟩ :=
    List.eq_nil_or_concat' (p.text.pieces (· == '/')) |>.resolve_left (Text.pieces_ne_nil _ _)
  rw [writable?] at h
  simp only [hpieces, List.getLastD_concat, List.dropLast_concat] at h
  split_ifs at h with hformed hname
  simp only [Bool.or_eq_true, decide_eq_true_eq, not_or, Nat.not_lt] at hname
  obtain ⟨⟨⟨hnil, hhere⟩, hup⟩, hlong⟩ := hname
  split at h
  · cases h
  · rename_i dir hwalk
    split_ifs at h with hplace
    simp only [Bool.and_eq_true, decide_eq_true_eq] at hplace
    exact ⟨dir, name, (Option.some.inj h).symm,
      { isWellFormed := by simpa using hformed
        pieces := by rw [hpieces, List.dropLast_concat]
        isEntryName := ⟨hnil, hhere, hup, hlong⟩
        walk := by rw [hpieces, List.dropLast_concat, hwalk]
        directory := hplace.1
        free := hplace.2 }⟩

/-- In a tree that has the directory and something under the name, the path leads there. -/
lemma Receives.locate_eq {dir : Location} {name : Text} (h : tree.Receives p dir name)
    (horigin : later.origin p = tree.origin p)
    (hwalk : later.walk (tree.origin p) (p.text.pieces (· == '/')).dropLast = .ok dir)
    (hdir : later.at? dir = some .directory) (hthere : (later.at? (dir ++ [name])).isSome) :
    later.locate p = .ok (dir ++ [name]) := by
  have htext : p.text ≠ [] := by
    intro hnil
    have hpieces := h.pieces
    rw [hnil] at hpieces
    exact h.isEntryName.ne_nil (List.singleton_inj.mp hpieces).symm
  rw [locate, h.isWellFormed, if_neg (by simp), if_neg htext, h.pieces, horigin]
  exact walk_append_eq_ok_iff.mpr ⟨dir, hwalk, walk_cons_eq_ok_iff.mpr
    ⟨_, .down hdir h.isEntryName hthere, rfl⟩⟩

/-- The path of a file that was written leads to it. -/
lemma Receives.locate_put {dir : Location} {name : Text} (h : tree.Receives p dir name)
    (contents : Text) : (tree.put (dir ++ [name]) (.text contents)).locate p =
      .ok (dir ++ [name]) := by
  have hkeeps := keeps_put_text h.free contents
  refine h.locate_eq (hkeeps.origin_eq p) (hkeeps.walk h.walk)
    (hkeeps.directory _ h.directory) ?_
  rw [tree.at?_put (by simp)]
  rfl

/-! ### Trees whose entries stand in directories -/

/-- What stands at a location stands in a directory. -/
def IsClosed (tree : FileTree) : Prop :=
  ∀ loc name, (tree.at? (loc ++ [name])).isSome → tree.at? loc = some .directory

lemma IsClosed.directory_of_append (h : tree.IsClosed) {rest : Location}
    (hdir : tree.at? (loc ++ rest) = some .directory) : tree.at? loc = some .directory := by
  induction rest using List.reverseRecOn with
  | nil => rwa [List.append_nil] at hdir
  | append_singleton rest name ih =>
      rw [← List.append_assoc] at hdir
      exact ih (h _ name (by rw [hdir]; rfl))

/-- A step that does not go up leads into the location. -/
lemma Step.exists_append (h : tree.Step loc piece l) (hup : piece ≠ ['.', '.']) :
    ∃ rest, l = loc ++ rest := by
  cases h with
  | stay => exact ⟨[], (List.append_nil loc).symm⟩
  | up => exact absurd rfl hup
  | down => exact ⟨[piece], rfl⟩

lemma exists_append_of_walk (h : tree.walk loc ps = .ok l) (hup : ['.', '.'] ∉ ps) :
    ∃ rest, l = loc ++ rest := by
  induction ps generalizing loc with
  | nil =>
      obtain rfl := Except.ok.inj h
      exact ⟨[], (List.append_nil _).symm⟩
  | cons piece ps ih =>
      rw [List.mem_cons, not_or] at hup
      obtain ⟨next, hstep, hrest⟩ := walk_cons_eq_ok_iff.mp h
      obtain ⟨first, rfl⟩ := hstep.exists_append (Ne.symm hup.1)
      obtain ⟨rest, rfl⟩ := ih hrest hup.2
      exact ⟨first ++ rest, List.append_assoc _ _ _⟩

/-- **What stands in a directory is reached** by every walk that does not go up and leads there
in some tree. -/
lemma IsClosed.walk (h : tree.IsClosed) (hwalk : later.walk loc ps = .ok l)
    (hup : ['.', '.'] ∉ ps) (hdir : tree.at? l = some .directory) :
    tree.walk loc ps = .ok l := by
  induction ps generalizing loc with
  | nil => exact hwalk
  | cons piece ps ih =>
      obtain ⟨rest, hrest⟩ := exists_append_of_walk hwalk hup
      rw [List.mem_cons, not_or] at hup
      obtain ⟨next, hstep, hwalk⟩ := walk_cons_eq_ok_iff.mp hwalk
      obtain ⟨behind, hnext⟩ := exists_append_of_walk hwalk hup.2
      have hloc : tree.at? loc = some .directory := h.directory_of_append (hrest ▸ hdir)
      have hthere : tree.at? next = some .directory := h.directory_of_append (hnext ▸ hdir)
      refine walk_cons_eq_ok_iff.mpr ⟨next, ?_, ih hwalk hup.2⟩
      cases hstep with
      | stay _ hpiece => exact .stay hloc hpiece
      | up => exact .up hloc
      | down _ hname => exact .down hloc hname (by rw [hthere]; rfl)

/-- Where a path that does not go up leads nowhere, making directories does not make it lead to
something that was there. -/
lemma IsClosed.at?_eq_none (h : tree.IsClosed) (hadds : tree.AddsDirectories later)
    (hnone : tree.find? p = none) {dir : Location} {name : Text}
    (hreceives : later.Receives p dir name)
    (hup : ['.', '.'] ∉ p.text.pieces (· == '/')) : tree.at? (dir ++ [name]) = none := by
  by_contra hsome
  have hthere : (tree.at? (dir ++ [name])).isSome := Option.isSome_iff_ne_none.mpr hsome
  have hdir := h dir name hthere
  have horigin : tree.origin p = later.origin p := (hadds.keeps.origin_eq p).symm
  have hwalk := h.walk hreceives.walk (fun hmem => hup (List.dropLast_subset _ hmem)) hdir
  rw [find?, hreceives.locate_eq horigin hwalk hdir hthere] at hnone
  exact hsome hnone

end TweeStory.FileTree
