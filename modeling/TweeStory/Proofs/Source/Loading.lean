/-
What loading does to the sources.

* `Sources.IsFirst`: the first source with a path equal to a given one;
* `Sources.Opens`, `Sources.Refuses`: the two ways in which a path leads to a
  source, and the paths that lead to none;
* `load_eq_ok_iff`, `load_eq_error_iff`: loading follows them;
* `Opens.prefix_files`: loading leaves the sources that were there as they are.
-/
import Mathlib.Data.List.Infix
import Mathlib.Tactic.Lemma
import TweeStory.Source.Library

namespace TweeStory.Sources

variable {tree : FileTree} {sources sources' : Sources} {path : Path} {id : Nat}

/-! ### Sources by path -/

/-- The source with number `id` is the first whose path equals `path`. -/
structure IsFirst (sources : Sources) (path : Path) (id : Nat) : Prop where
  agrees : ∃ file, sources.files[id]? = some file ∧ file.path.agrees path
  first : ∀ j < id, ∀ file, sources.files[j]? = some file → ¬file.path.agrees path

/-- No source has a path equal to `path`. -/
def Lacks (sources : Sources) (path : Path) : Prop :=
  ∀ file ∈ sources.files, ¬file.path.agrees path

lemma find?_eq_some_iff : sources.find? path = some id ↔ sources.IsFirst path id := by
  rw [find?, List.findIdx?_eq_some_iff_getElem]
  constructor
  · rintro ⟨hid, hagrees, hfirst⟩
    refine ⟨⟨sources.files[id], List.getElem?_eq_getElem hid, hagrees⟩, ?_⟩
    intro j hj file hfile
    obtain ⟨hlt, rfl⟩ := List.getElem?_eq_some_iff.mp hfile
    exact hfirst j hj
  · rintro ⟨⟨file, hfile, hagrees⟩, hfirst⟩
    obtain ⟨hid, rfl⟩ := List.getElem?_eq_some_iff.mp hfile
    exact ⟨hid, hagrees, fun j hj => hfirst j hj _ (List.getElem?_eq_getElem (by omega))⟩

lemma find?_eq_none_iff : sources.find? path = none ↔ sources.Lacks path := by
  simp [find?, Lacks]

lemma IsFirst.lt (h : sources.IsFirst path id) : id < sources.files.length := by
  obtain ⟨file, hfile, -⟩ := h.agrees
  exact (List.getElem?_eq_some_iff.mp hfile).1

lemma IsFirst.not_lacks (h : sources.IsFirst path id) : ¬sources.Lacks path := by
  rw [← find?_eq_none_iff, find?_eq_some_iff.mpr h]
  simp

/-- More sources behind the others do not change which one is the first. -/
lemma IsFirst.of_isPrefix (h : sources.IsFirst path id) (hs : sources.files <+: sources'.files) :
    sources'.IsFirst path id := by
  obtain ⟨rest, hrest⟩ := hs
  have hget : ∀ j ≤ id, sources'.files[j]? = sources.files[j]? := by
    intro j hj
    rw [← hrest, List.getElem?_append_left (lt_of_le_of_lt hj h.lt)]
  obtain ⟨file, hfile, hagrees⟩ := h.agrees
  refine ⟨⟨file, by rw [hget id le_rfl, hfile], hagrees⟩, ?_⟩
  intro j hj file hfile
  exact h.first j hj file (by rw [← hget j hj.le, hfile])

/-! ### Loading -/

/-- The path leads to the source with number `id`: the first one with an equal path,
or else a new one with the text that the file tree has at the path. -/
inductive Opens (tree : FileTree) (sources : Sources) (path : Path) : Nat → Sources → Prop
  | loaded {id : Nat} (first : sources.IsFirst path id) : Opens tree sources path id sources
  | fresh {contents : Text} (lacks : sources.Lacks path)
      (read : tree.read path = .ok contents) :
      Opens tree sources path sources.files.length
        ⟨sources.files ++ [⟨path.text, path, contents⟩]⟩

/-- The path leads to no source: none has an equal path, and the file tree has no
text at the path. -/
def Refuses (tree : FileTree) (sources : Sources) (path : Path) : Prop :=
  sources.Lacks path ∧ ∃ e, tree.read path = .error e

lemma load_eq_ok_iff :
    sources.load tree path = .ok (id, sources') ↔ Opens tree sources path id sources' := by
  constructor
  · intro h
    rw [load] at h
    split at h
    · rename_i found
      cases h
      exact .loaded (find?_eq_some_iff.mp found)
    · rename_i absent
      split at h
      · cases h
      · rename_i contents hread
        cases h
        exact .fresh (find?_eq_none_iff.mp absent) hread
  · rintro (first | ⟨lacks, hread⟩)
    · rw [load, find?_eq_some_iff.mpr first]
    · rw [load, find?_eq_none_iff.mpr lacks]
      simp only [hread, push]

lemma load_eq_error_iff :
    (∃ e, sources.load tree path = .error e) ↔ Refuses tree sources path := by
  rw [load, Refuses, ← find?_eq_none_iff]
  cases sources.find? path with
  | some id => simp
  | none => cases tree.read path <;> simp

/-- A path leads to a source or it does not. -/
lemma opens_or_refuses (tree : FileTree) (sources : Sources) (path : Path) :
    (∃ id sources', Opens tree sources path id sources') ∨ Refuses tree sources path := by
  cases h : sources.load tree path with
  | ok result => exact Or.inl ⟨result.1, result.2, load_eq_ok_iff.mp h⟩
  | error e => exact Or.inr (load_eq_error_iff.mp ⟨e, h⟩)

lemma Opens.prefix_files (h : Opens tree sources path id sources') :
    sources.files <+: sources'.files := by
  cases h with
  | loaded => exact List.prefix_rfl
  | fresh => exact List.prefix_append _ _

/-- The source that a path leads to is the first with an equal path afterwards. -/
lemma Opens.isFirst (h : Opens tree sources path id sources') : sources'.IsFirst path id := by
  cases h with
  | loaded first => exact first
  | fresh lacks =>
      refine ⟨⟨_, List.getElem?_concat_length, by simp [Path.agrees]⟩, ?_⟩
      intro j hj file hfile
      rw [List.getElem?_append_left hj] at hfile
      exact lacks file (List.mem_of_getElem? hfile)

/-- Loading a path adds no source with another path. -/
lemma Opens.lacks (h : Opens tree sources path id sources') {q : Path} (hq : sources.Lacks q)
    (hpath : ¬path.agrees q) : sources'.Lacks q := by
  cases h with
  | loaded => exact hq
  | fresh =>
      intro file hfile
      rcases List.mem_append.mp hfile with hfile | hfile
      · exact hq file hfile
      · rw [List.mem_singleton.mp hfile]
        exact hpath

/-! ### Texts -/

lemma getElem?_of_isPrefix (hs : sources.files <+: sources'.files) {file : SourceFile}
    (h : sources.files[id]? = some file) : sources'.files[id]? = some file := by
  obtain ⟨rest, hrest⟩ := hs
  rw [← hrest, List.getElem?_append_left (List.getElem?_eq_some_iff.mp h).1, h]

lemma contents?_of_isPrefix (hs : sources.files <+: sources'.files) {contents : Text}
    (h : sources.contents? id = some contents) : sources'.contents? id = some contents := by
  obtain ⟨file, hfile, rfl⟩ := Option.map_eq_some_iff.mp h
  rw [contents?, getElem?_of_isPrefix hs hfile]
  rfl

lemma lt_of_contents? {contents : Text} (h : sources.contents? id = some contents) :
    id < sources.files.length := by
  obtain ⟨file, hfile, -⟩ := Option.map_eq_some_iff.mp h
  exact (List.getElem?_eq_some_iff.mp hfile).1

/-- A line of a source has its place as its origin and the text that stands there. -/
lemma mem_lines_iff {line : Line} :
    line ∈ sources.lines id ↔
      ∃ contents n text, sources.contents? id = some contents ∧
        contents.fullLines[n]? = some text ∧ line = ⟨⟨id, n + 1⟩, text, []⟩ := by
  rw [lines]
  cases sources.contents? id with
  | none => simp
  | some contents =>
      rw [List.mem_iff_getElem?]
      simp only [Line.getElem?_number, Option.map_eq_some_iff, Option.some.injEq,
        exists_eq_left', exists_and_left]
      constructor
      · rintro ⟨n, text, htext, rfl⟩
        exact ⟨n, text, htext, by rw [Nat.add_comm]⟩
      · rintro ⟨n, text, htext, rfl⟩
        exact ⟨n, text, htext, by rw [Nat.add_comm]⟩

end TweeStory.Sources
