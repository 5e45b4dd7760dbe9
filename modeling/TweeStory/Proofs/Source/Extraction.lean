/-
Lines of a source moved to a file of their own.

* `Extraction`: a block of lines of a source, and the file that it moves to;
* `Extraction.sources`: the sources after the move, the new file being loaded or not;
* `Extraction.skip`, `Extraction.origin`: the number of a source and the origin of a
  line after the move;
* `Extraction.isFirst_iff`, `Extraction.opens`: other paths lead to the same sources.

The new file takes a number `k`, and the sources from `k` on move up by one.  As long
as the file is not loaded, there are at most `k` sources and none of them moves.
-/
import Mathlib.Data.List.InsertIdx
import TweeStory.Proofs.Include.Directive
import TweeStory.Proofs.Source.Loading

namespace TweeStory

open Text

/-- A block of lines of a source that moves to a file of its own.  Paths are read from
`base`. -/
structure Extraction (base : Path) where
  /-- The number of the source. -/
  root : Nat
  /-- The source before the move. -/
  source : SourceFile
  above : List Text
  block : List Text
  below : List Text
  /-- The path of the file, as the line in the place of the block gives it. -/
  target : Text
  /-- The file that the block moves to. -/
  file : SourceFile
  lines_eq : source.contents.fullLines = above ++ block ++ below
  /-- The lines of the block end in a line feed.  So do those above it, unless there is
  nothing behind them. -/
  ended : ∀ line ∈ above ++ block, IsEnded line
  target_ne_nil : target ≠ []
  trim_target : target.trim = target
  notMem_target : '\n' ∉ target
  contents_eq : file.contents = block.flatten
  agrees : file.path.agrees (base.join target)
  /-- The file is not the source itself. -/
  apart : ¬source.path.agrees (base.join target)

namespace Extraction

variable {base : Path} (m : Extraction base)

/-! ### After the move -/

/-- The line in the place of the block. -/
def call : Text := IncludeDirective.mark ++ m.target ++ ['\n']

/-- The text of the source after the move. -/
def remainder : Text := (m.above ++ m.call :: m.below).flatten

/-- The source after the move. -/
def shrink (file : SourceFile) : SourceFile := { file with contents := m.remainder }

/-- The sources after the move.  The new file is among them if it has a number. -/
def sources (place : Option Nat) (sources : Sources) : Sources :=
  let files := sources.files.modify m.root m.shrink
  match place with
  | none => ⟨files⟩
  | some k => ⟨files.insertIdx k m.file⟩

/-- The number of a source when the new file has the number `k`. -/
def skip (k id : Nat) : Nat := if id < k then id else id + 1

/-- The origin of a line when the new file has the number `k`. -/
def origin (k : Nat) (o : Origin) : Origin :=
  if o.file ≠ m.root then ⟨skip k o.file, o.line⟩
  else if o.line ≤ m.above.length then ⟨skip k m.root, o.line⟩
  else if o.line ≤ m.above.length + m.block.length then ⟨k, o.line - m.above.length⟩
  else ⟨skip k m.root, o.line - m.block.length + 1⟩

/-- The new file has the number `k` among the sources, or will have it when it is
loaded. -/
def Stands (k : Nat) (place : Option Nat) (sources : Sources) : Prop :=
  place = some k ∧ k ≤ sources.files.length ∨ place = none ∧ sources.files.length ≤ k

/-- The path is neither that of the source nor that of the new file. -/
def Avoids (p : Path) : Prop :=
  ¬m.source.path.agrees p ∧ ¬m.file.path.agrees p

instance (p : Path) : Decidable (m.Avoids p) :=
  inferInstanceAs (Decidable (_ ∧ _))

/-! ### Numbers -/

lemma skip_lt_skip_iff {k i j : Nat} : skip k i < skip k j ↔ i < j := by
  unfold skip
  split <;> split <;> omega

lemma skip_inj {k i j : Nat} : skip k i = skip k j ↔ i = j := by
  unfold skip
  split <;> split <;> omega

lemma skip_ne (k id : Nat) : skip k id ≠ k := by
  unfold skip
  split <;> omega

lemma exists_skip_of_ne {k j : Nat} (h : j ≠ k) : ∃ id, skip k id = j := by
  by_cases hj : j < k
  · exact ⟨j, if_pos hj⟩
  · exact ⟨j - 1, by rw [skip, if_neg (by omega)]; omega⟩

variable {m} {k : Nat} {place : Option Nat} {sources sources' : Sources}

/-- What stands at both ends of a growth stands at every moment of it. -/
lemma Stands.between {middle : Sources} (h : Stands k place sources)
    (h' : Stands k place sources') (hs : sources.files <+: middle.files)
    (hs' : middle.files <+: sources'.files) : Stands k place middle := by
  have hle := hs.length_le
  have hle' := hs'.length_le
  rcases h with ⟨rfl, hk⟩ | ⟨rfl, hk⟩
  · exact Or.inl ⟨rfl, hk.trans hle⟩
  · rcases h' with ⟨h', -⟩ | ⟨-, hk'⟩
    · cases h'
    · exact Or.inr ⟨rfl, hle'.trans hk'⟩

/-! ### Files -/

lemma getElem?_skip (h : Stands k place sources) (id : Nat) :
    (m.sources place sources).files[skip k id]? =
      (sources.files.modify m.root m.shrink)[id]? := by
  rcases h with ⟨rfl, hk⟩ | ⟨rfl, hk⟩
  · rw [Extraction.sources, skip]
    split
    · rename_i hid
      rw [List.getElem?_insertIdx_of_lt hid]
    · rw [List.getElem?_insertIdx_of_gt (by omega), Nat.add_sub_cancel]
  · rw [Extraction.sources, skip]
    split
    · rfl
    · rw [List.getElem?_eq_none (by simp; omega), List.getElem?_eq_none (by simp; omega)]

/-- The number of the new file is the number of no other. -/
lemma eq_file_of_getElem? (h : Stands k place sources) {file : SourceFile}
    (hfile : (m.sources place sources).files[k]? = some file) : file = m.file := by
  rcases h with ⟨rfl, hk⟩ | ⟨rfl, hk⟩
  · rw [Extraction.sources, List.getElem?_insertIdx_self, if_pos (by simpa using hk)] at hfile
    exact (Option.some.inj hfile).symm
  · rw [Extraction.sources, List.getElem?_eq_none (by simpa using hk)] at hfile
    cases hfile

/-- A source other than the one that the block stands in stays as it is. -/
lemma getElem?_skip_of_ne (h : Stands k place sources) {id : Nat} (hid : id ≠ m.root) :
    (m.sources place sources).files[skip k id]? = sources.files[id]? := by
  rw [getElem?_skip h, List.getElem?_modify_ne _ _ hid.symm]

lemma getElem?_skip_root (h : Stands k place sources)
    (hroot : sources.files[m.root]? = some m.source) :
    (m.sources place sources).files[skip k m.root]? = some (m.shrink m.source) := by
  rw [getElem?_skip h, List.getElem?_modify_eq, hroot]
  rfl

/-- The move changes no path. -/
lemma exists_agrees_skip_iff (h : Stands k place sources) (id : Nat) (p : Path) :
    (∃ file, (m.sources place sources).files[skip k id]? = some file ∧ file.path.agrees p) ↔
      ∃ file, sources.files[id]? = some file ∧ file.path.agrees p := by
  rw [getElem?_skip h, List.getElem?_modify]
  by_cases hid : m.root = id <;> simp [hid, shrink]

/-! ### Paths -/

/-- The sources with a path that the move avoids are the same. -/
lemma exists_agrees_iff (h : Stands k place sources) {p : Path} (hp : m.Avoids p) (j : Nat) :
    (∃ file, (m.sources place sources).files[j]? = some file ∧ file.path.agrees p) ↔
      ∃ id, j = skip k id ∧ ∃ file, sources.files[id]? = some file ∧ file.path.agrees p := by
  by_cases hj : j = k
  · subst hj
    constructor
    · rintro ⟨file, hfile, hagrees⟩
      rw [eq_file_of_getElem? h hfile] at hagrees
      exact absurd hagrees hp.2
    · rintro ⟨id, hid, -⟩
      exact absurd hid.symm (skip_ne j id)
  · obtain ⟨id, rfl⟩ := exists_skip_of_ne hj
    rw [exists_agrees_skip_iff h]
    constructor
    · exact fun hfile => ⟨id, rfl, hfile⟩
    · rintro ⟨id', hid, hfile⟩
      rwa [skip_inj.mp hid]

/-- The first source with a path that the move avoids is the same. -/
lemma isFirst_iff (h : Stands k place sources) {p : Path} (hp : m.Avoids p) (j : Nat) :
    (m.sources place sources).IsFirst p j ↔ ∃ id, j = skip k id ∧ sources.IsFirst p id := by
  constructor
  · rintro ⟨agrees, first⟩
    obtain ⟨id, rfl, hid⟩ := (exists_agrees_iff h hp j).mp agrees
    refine ⟨id, rfl, hid, fun i hi file hfile hagrees => ?_⟩
    obtain ⟨file', hfile', hagrees'⟩ :=
      (exists_agrees_skip_iff (m := m) h i p).mpr ⟨file, hfile, hagrees⟩
    exact first _ (skip_lt_skip_iff.mpr hi) file' hfile' hagrees'
  · rintro ⟨id, rfl, agrees, first⟩
    refine ⟨(exists_agrees_skip_iff h id p).mpr agrees, fun i hi file hfile hagrees => ?_⟩
    obtain ⟨id', rfl, file', hfile', hagrees'⟩ :=
      (exists_agrees_iff h hp i).mp ⟨file, hfile, hagrees⟩
    exact first _ (skip_lt_skip_iff.mp hi) file' hfile' hagrees'

lemma lacks_iff (h : Stands k place sources) {p : Path} (hp : m.Avoids p) :
    (m.sources place sources).Lacks p ↔ sources.Lacks p := by
  constructor
  · intro hlacks file hfile hagrees
    obtain ⟨id, hid⟩ := List.mem_iff_getElem?.mp hfile
    obtain ⟨file', hfile', hagrees'⟩ :=
      (exists_agrees_skip_iff (m := m) h id p).mpr ⟨file, hid, hagrees⟩
    exact hlacks file' (List.mem_of_getElem? hfile') hagrees'
  · intro hlacks file hfile hagrees
    obtain ⟨j, hj⟩ := List.mem_iff_getElem?.mp hfile
    obtain ⟨id, -, file', hfile', hagrees'⟩ := (exists_agrees_iff h hp j).mp ⟨file, hj, hagrees⟩
    exact hlacks file' (List.mem_of_getElem? hfile') hagrees'

/-! ### Loading -/

lemma insertIdx_append {α : Type} {k : Nat} {l : List α} (h : k ≤ l.length) (x : α)
    (l' : List α) : (l ++ l').insertIdx k x = l.insertIdx k x ++ l' := by
  induction l generalizing k with
  | nil =>
      obtain rfl : k = 0 := by simpa using h
      rfl
  | cons a l ih =>
      cases k with
      | zero => rfl
      | succ k => simpa using ih (by simpa using h)

lemma modify_append {α : Type} {i : Nat} {l : List α} (h : i < l.length) (f : α → α)
    (l' : List α) : (l ++ l').modify i f = l.modify i f ++ l' := by
  induction l generalizing i with
  | nil => simp at h
  | cons a l ih =>
      cases i with
      | zero => rfl
      | succ i => simpa using ih (by simpa using h)

/-- A source that is loaded is loaded after the move too, and takes the number that the
move gives it. -/
lemma sources_concat (hroot : sources.files[m.root]? = some m.source) {file : SourceFile}
    (h : Stands k place sources) (h' : Stands k place ⟨sources.files ++ [file]⟩) :
    m.sources place ⟨sources.files ++ [file]⟩ = ⟨(m.sources place sources).files ++ [file]⟩ ∧
      skip k sources.files.length = (m.sources place sources).files.length := by
  have hlt : m.root < sources.files.length := (List.getElem?_eq_some_iff.mp hroot).1
  rcases h with ⟨rfl, hk⟩ | ⟨rfl, hk⟩
  · rw [Extraction.sources, Extraction.sources, skip, if_neg (by omega)]
    have hk' : k ≤ (sources.files.modify m.root m.shrink).length := by simpa using hk
    rw [List.length_insertIdx_of_le_length hk', List.length_modify]
    simp [modify_append hlt, insertIdx_append hk']
  · rcases h' with ⟨h', -⟩ | ⟨-, hk'⟩
    · cases h'
    · have hlt' : sources.files.length + 1 ≤ k := by simpa using hk'
      rw [Extraction.sources, Extraction.sources, skip, if_pos (Nat.lt_of_succ_le hlt')]
      simp [modify_append hlt]

variable {tree tree' : FileTree} {p : Path} {id : Nat}

lemma ne_root_of_isFirst (hroot : sources.files[m.root]? = some m.source) (hp : m.Avoids p)
    (h : sources.IsFirst p id) : id ≠ m.root := by
  rintro rfl
  obtain ⟨file, hfile, hagrees⟩ := h.agrees
  rw [hroot, Option.some.injEq] at hfile
  exact hp.1 (hfile ▸ hagrees)

/-- **Loading after the move.**  A path that the move avoids, and at which the file
tree has the same text, leads to the same source. -/
lemma opens (hroot : sources.files[m.root]? = some m.source) (hp : m.Avoids p)
    (hread : (tree'.read p).toOption = (tree.read p).toOption)
    (h : Stands k place sources) (h' : Stands k place sources')
    (hopens : sources.Opens tree p id sources') :
    (m.sources place sources).Opens tree' p (skip k id) (m.sources place sources') := by
  cases hopens with
  | loaded first => exact .loaded ((isFirst_iff h hp _).mpr ⟨id, rfl, first⟩)
  | @fresh contents lacks read =>
      have hread' : tree'.read p = .ok contents := by
        rw [read] at hread
        cases hcase : tree'.read p with
        | ok contents' => rw [hcase] at hread; exact congrArg _ (Option.some.inj hread)
        | error e => rw [hcase] at hread; cases hread
      obtain ⟨hconcat, hlength⟩ := sources_concat hroot h h'
      rw [hconcat, hlength]
      exact .fresh ((lacks_iff h hp).mpr lacks) hread'

lemma refuses (hp : m.Avoids p) (hread : (tree'.read p).toOption = (tree.read p).toOption)
    (h : Stands k place sources) (hrefuses : sources.Refuses tree p) :
    (m.sources place sources).Refuses tree' p := by
  obtain ⟨lacks, e, he⟩ := hrefuses
  refine ⟨(lacks_iff h hp).mpr lacks, ?_⟩
  rw [he] at hread
  cases hcase : tree'.read p with
  | ok contents => rw [hcase] at hread; cases hread
  | error e' => exact ⟨e', rfl⟩

/-! ### Loading the new file -/

/-- The new file can be read: it is loaded, or the file tree has it. -/
inductive Readable (m : Extraction base) (tree : FileTree) (sources : Sources) :
    Option Nat → Prop
  | loaded {k : Nat} (h : k ≤ sources.files.length) : Readable m tree sources (some k)
  | stored (read : tree.read (base.join m.target) = .ok m.file.contents)
      (file_eq : m.file = ⟨(base.join m.target).text, base.join m.target, m.file.contents⟩) :
      Readable m tree sources none

lemma Avoids.not_agrees (h : m.Avoids p) : ¬p.agrees (base.join m.target) := by
  have hagrees := m.agrees
  rw [Path.agrees, decide_eq_true_eq] at hagrees
  rw [Path.agrees, decide_eq_true_eq, ← hagrees]
  intro heq
  exact h.2 (by rw [Path.agrees, heq, decide_eq_true_eq])

/-- After the move, no source but the new file has its path. -/
lemma eq_of_agrees (h : Stands k place sources) (hlacks : sources.Lacks p) {j : Nat}
    {file : SourceFile} (hfile : (m.sources place sources).files[j]? = some file)
    (hagrees : file.path.agrees p) : j = k := by
  by_contra hj
  obtain ⟨id, rfl⟩ := exists_skip_of_ne hj
  obtain ⟨file', hfile', hagrees'⟩ :=
    (exists_agrees_skip_iff h id p).mp ⟨file, hfile, hagrees⟩
  exact hlacks file' (List.mem_of_getElem? hfile') hagrees'

/-- The path of the new file leads to it if it is loaded. -/
lemma opens_loaded (hk : k ≤ sources.files.length)
    (hlacks : sources.Lacks (base.join m.target)) :
    (m.sources (some k) sources).Opens tree (base.join m.target) k
      (m.sources (some k) sources) := by
  refine .loaded ⟨⟨m.file, ?_, m.agrees⟩, fun j hj file hfile hagrees => ?_⟩
  · rw [Extraction.sources, List.getElem?_insertIdx_self, if_pos (by simpa using hk)]
  · have heq := eq_of_agrees (Or.inl ⟨rfl, hk⟩) hlacks hfile hagrees
    omega

/-- The path of the new file leads to it if the file tree has it, and it then has the
next number. -/
lemma opens_stored (hlacks : sources.Lacks (base.join m.target))
    (read : tree.read (base.join m.target) = .ok m.file.contents)
    (file_eq : m.file = ⟨(base.join m.target).text, base.join m.target, m.file.contents⟩) :
    (m.sources none sources).Opens tree (base.join m.target) sources.files.length
      (m.sources (some sources.files.length) sources) := by
  have hlength : (m.sources none sources).files.length = sources.files.length := by
    simp [Extraction.sources]
  have hconcat : m.sources (some sources.files.length) sources =
      ⟨(m.sources none sources).files ++ [m.file]⟩ := by
    rw [← hlength]
    exact congrArg Sources.mk List.insertIdx_length_self
  have hlacks' : (m.sources none sources).Lacks (base.join m.target) := by
    intro file hfile hagrees
    obtain ⟨j, hj⟩ := List.mem_iff_getElem?.mp hfile
    have heq := eq_of_agrees (Or.inr ⟨rfl, le_rfl⟩) hlacks hj hagrees
    have hlt := (List.getElem?_eq_some_iff.mp hj).1
    omega
  rw [hconcat, file_eq, ← hlength]
  exact .fresh hlacks' read

/-! ### Lines -/

variable (m)

/-- The line in the place of the block asks for the new file. -/
lemma asks_call : m.call.Asks [] m.target := by
  refine ⟨?_, isSpace_nil, m.target_ne_nil⟩
  have htarget : chomp m.target = m.target := chomp_of_trim m.trim_target
  have hend : chomp m.call = chomp (IncludeDirective.mark ++ m.target) :=
    List.rdropWhile_concat_pos _ _ _ rfl
  rw [hend, chomp_append _ (htarget.symm ▸ m.target_ne_nil), htarget]
  rfl

lemma isFullLine_call : IsFullLine m.call := by
  have hmark : '\n' ∉ IncludeDirective.mark := by decide
  refine ⟨by simp [call], ?_⟩
  rw [call, List.dropLast_concat, List.mem_append, not_or]
  exact ⟨hmark, m.notMem_target⟩

lemma areFullLines : AreFullLines (m.above ++ m.block ++ m.below) :=
  m.lines_eq ▸ areFullLines_fullLines _

/-- The lines of the source after the move. -/
lemma fullLines_remainder : fullLines m.remainder = m.above ++ m.call :: m.below := by
  obtain ⟨habove, -, hbelow⟩ := areFullLines_append_iff.mp m.areFullLines
  obtain ⟨habove, -, -⟩ := areFullLines_append_iff.mp habove
  refine fullLines_flatten (areFullLines_append_iff.mpr ⟨habove, fun _ line hline => ?_, ?_⟩)
  · exact m.ended line (List.mem_append_left _ hline)
  · exact ⟨m.isFullLine_call, fun _ => by simp [call, IsEnded], hbelow⟩

/-- The lines of the new file. -/
lemma fullLines_file : fullLines m.file.contents = m.block := by
  obtain ⟨habove, -, -⟩ := areFullLines_append_iff.mp m.areFullLines
  obtain ⟨-, -, hblock⟩ := areFullLines_append_iff.mp habove
  rw [m.contents_eq, fullLines_flatten hblock]

end Extraction

/-! ### Moving lines -/

/-- The line at another origin, its chain left out. -/
def Line.move (μ : Origin → Origin) (line : Line) : Line := ⟨μ line.origin, line.text, []⟩

namespace Line

variable {file n : Nat}

lemma number_append (texts rest : List Text) :
    number file n (texts ++ rest) =
      number file n texts ++ number file (n + texts.length) rest := by
  induction texts generalizing n with
  | nil => rfl
  | cons t texts ih => simp [number, ih, Nat.add_assoc, Nat.add_comm 1]

/-- Numbered lines at other origins are numbered lines again, if the origins follow
one another. -/
lemma map_move_number {μ : Origin → Origin} {file' n' : Nat} {texts : List Text}
    (h : ∀ i < texts.length, μ ⟨file, n + i⟩ = ⟨file', n' + i⟩) :
    (number file n texts).map (move μ) = number file' n' texts := by
  refine List.ext_getElem? fun i => ?_
  rw [List.getElem?_map, getElem?_number, getElem?_number, Option.map_map]
  cases ht : texts[i]? with
  | none => rfl
  | some t =>
      have hi : i < texts.length := (List.getElem?_eq_some_iff.mp ht).1
      simp [move, h i hi]

end Line

namespace Extraction

variable {base : Path} {m : Extraction base} {k : Nat} {place : Option Nat} {sources : Sources}

/-- The lines of the source before the move. -/
lemma lines_root (hroot : sources.files[m.root]? = some m.source) :
    sources.lines m.root = Line.number m.root 1 m.above ++
      (Line.number m.root (1 + m.above.length) m.block ++
        Line.number m.root (1 + m.above.length + m.block.length) m.below) := by
  simp [Sources.lines, Sources.contents?, hroot, m.lines_eq, Line.number_append, Nat.add_assoc]

/-- The lines of the source after the move. -/
lemma lines_skip_root (h : Stands k place sources)
    (hroot : sources.files[m.root]? = some m.source) :
    (m.sources place sources).lines (skip k m.root) =
      (Line.number m.root 1 m.above).map (Line.move (m.origin k)) ++
        ⟨⟨skip k m.root, m.above.length + 1⟩, m.call, []⟩ ::
          (Line.number m.root (1 + m.above.length + m.block.length) m.below).map
            (Line.move (m.origin k)) := by
  have habove : (Line.number m.root 1 m.above).map (Line.move (m.origin k)) =
      Line.number (skip k m.root) 1 m.above := by
    refine Line.map_move_number fun i hi => ?_
    rw [origin, if_neg (by simp), if_pos (by simp; omega)]
  have hbelow : (Line.number m.root (1 + m.above.length + m.block.length) m.below).map
      (Line.move (m.origin k)) = Line.number (skip k m.root) (m.above.length + 2) m.below := by
    refine Line.map_move_number fun i hi => ?_
    rw [origin, if_neg (by simp), if_neg (by simp; omega), if_neg (by simp; omega)]
    simp only [Origin.mk.injEq, true_and]
    omega
  have hlines : (m.shrink m.source).contents.fullLines = m.above ++ m.call :: m.below :=
    m.fullLines_remainder
  rw [habove, hbelow]
  simp [Sources.lines, Sources.contents?, getElem?_skip_root h hroot, hlines, Line.number_append,
    Line.number, Nat.add_comm 1]

/-- The lines of the new file. -/
lemma lines_file (hk : k ≤ sources.files.length) :
    (m.sources (some k) sources).lines k =
      (Line.number m.root (1 + m.above.length) m.block).map (Line.move (m.origin k)) := by
  have hfile : (m.sources (some k) sources).files[k]? = some m.file := by
    rw [Extraction.sources, List.getElem?_insertIdx_self, if_pos (by simpa using hk)]
  have hblock : (Line.number m.root (1 + m.above.length) m.block).map (Line.move (m.origin k)) =
      Line.number k 1 m.block := by
    refine Line.map_move_number fun i hi => ?_
    rw [origin, if_neg (by simp), if_neg (by simp; omega), if_pos (by simp; omega)]
    simp only [Origin.mk.injEq, true_and]
    omega
  rw [hblock]
  simp [Sources.lines, Sources.contents?, hfile, m.fullLines_file]

/-- The lines of any other source. -/
lemma lines_skip (h : Stands k place sources) {id : Nat} (hid : id ≠ m.root) :
    (m.sources place sources).lines (skip k id) =
      (sources.lines id).map (Line.move (m.origin k)) := by
  rw [Sources.lines, Sources.lines, Sources.contents?, getElem?_skip_of_ne h hid,
    ← Sources.contents?]
  cases sources.contents? id with
  | none => rfl
  | some contents =>
      refine (Line.map_move_number fun i hi => ?_).symm
      rw [origin, if_pos hid]

end Extraction

end TweeStory
