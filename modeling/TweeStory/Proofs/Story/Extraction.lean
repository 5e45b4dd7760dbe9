/-
Lines moved to a file of their own do not show.

* `Extraction.IsTransparent`: two expansions that differ by the move only and tell the
  same story;
* `Extraction.exists_isTransparent`: the expansions before and after a move are such,
  if what the other lines name is the same in both file trees;
* `not_isTransparent_intoDirectory`: it is not enough that the other lines name neither
  of the two files.
-/
import TweeStory.Proofs.Include.Agreement
import TweeStory.Proofs.Include.Extraction
import TweeStory.Proofs.Story.Relocation

namespace TweeStory.Extraction

open Text

variable {base : Path}

/-- The expansion after the move has the sources of the one before, the source of the
block without the block and the new file at the number `k`; it has the same texts and
the same warnings, about the same lines where they are now; and its story has the same
document, or the same error. -/
structure IsTransparent (m : Extraction base) (k : Nat) (old new : Expansion) : Prop where
  sources : new.sources = m.sources (some k) old.sources
  texts : new.lines.map (·.text) = old.lines.map (·.text)
  origins : new.lines.map (·.origin) = old.lines.map fun line => m.origin k line.origin
  warnings : new.warnings = old.warnings.map (Warning.move (m.origin k))
  document : ∀ (registry : Registry) (settings : BuildSettings),
    (Story.ofLines new.sources registry settings new.lines).document =
      (Story.ofLines old.sources registry settings old.lines).document.mapError
        (CompileError.move (m.origin k))

/-- Expansions with the same lines at other origins have stories with the same document,
or the same error about a line at another origin. -/
lemma document_of_map_move {μ : Origin → Origin} {old new : Expansion}
    (h : new.lines.map (Line.move id) = old.lines.map (Line.move μ)) (registry : Registry)
    (settings : BuildSettings) :
    (Story.ofLines new.sources registry settings new.lines).document =
      (Story.ofLines old.sources registry settings old.lines).document.mapError
        (CompileError.move μ) := by
  have hid : ∀ result : Except CompileError Text,
      result.mapError (CompileError.move id) = result := by
    intro result
    cases result with
    | ok document => rfl
    | error e => cases e <;> simp [Except.mapError, CompileError.move]
  have hnew := @Story.document_ofLines_map_move id new.sources new.sources registry settings
    new.lines
  rw [← hid (Story.ofLines new.sources registry settings new.lines).document, ← hnew, h]
  exact Story.document_ofLines_map_move registry settings old.lines

/-- **Inclusion is transparent.**  A block of lines of a source moves to a new file that
can be read, and a directive for it takes the place of the block.  If no line of a source
names the source or the new file, and every path that one names has the same text in the
file trees before and after the move, then the two expansions tell the same story. -/
theorem exists_isTransparent (m : Extraction base) {tree tree' : FileTree} {sources : Sources}
    {place : Option Nat} (hsource : sources.files[m.root]? = some m.source)
    (hlacks : sources.Lacks (base.join m.target)) (hreadable : m.Readable tree' sources place)
    (hnames : ∀ p ∈ (resolveIncludes tree base sources
      (sources.lines m.root)).sources.namedPaths base, m.Keeps tree tree' p) :
    ∃ k, k ≤ (resolveIncludes tree base sources (sources.lines m.root)).sources.files.length ∧
      m.IsTransparent k (resolveIncludes tree base sources (sources.lines m.root))
        (resolveIncludes tree' base (m.sources place sources)
          ((m.sources place sources).lines (m.rootAfter place))) := by
  obtain ⟨t, hexpands, hsources, hwarnings⟩ :=
    expands_resolveIncludes tree base sources m.root
  generalize resolveIncludes tree base sources (sources.lines m.root) = old at *
  obtain ⟨lines, _, _⟩ := old
  subst hsources hwarnings
  obtain ⟨k, out, hk, hexpands', hout⟩ :=
    exists_expands hsource hlacks hreadable hexpands hnames
  rw [resolveIncludes_of_expands hexpands']
  refine ⟨k, hk, rfl, ?_, ?_, rfl, fun registry settings => document_of_map_move hout _ _⟩
  · have htexts := congrArg (List.map Line.text) hout
    simpa [Line.move, Function.comp_def] using htexts
  · have horigins := congrArg (List.map Line.origin) hout
    simpa [Line.move, Function.comp_def] using horigins

/-- A story with a second file, and with others. -/
def storyTree (story : Text) (others : List (Location × Entry)) : FileTree where
  entries :=
    (["story.tw".toList], .text story) :: (["two.tw".toList], .text "Two\n".toList) :: others
  here := []

/-- The move of two lines to a file beside the story. -/
def twoLines : Extraction ⟨[]⟩ where
  root := 0
  source := ⟨"story.tw".toList, .ofString "story.tw",
    ":: Start\nOne\n::@include two.tw\nThree".toList⟩
  above := [":: Start\n".toList]
  block := ["One\n".toList, "::@include two.tw\n".toList]
  below := ["Three".toList]
  target := "one.tw".toList
  file := ⟨"one.tw".toList, .ofString "one.tw", "One\n::@include two.tw\n".toList⟩
  lines_eq := by decide
  ended := by decide
  target_ne_nil := by decide
  trim_target := by decide
  notMem_target := by decide
  contents_eq := by decide
  agrees := by decide
  apart := by decide

theorem exists_isTransparent_twoLines :
    let sources : Sources := ⟨[twoLines.source]⟩
    let old := resolveIncludes (storyTree twoLines.source.contents []) ⟨[]⟩ sources
      (sources.lines 0)
    let new := resolveIncludes
      (storyTree twoLines.remainder [(["one.tw".toList], .text twoLines.file.contents)]) ⟨[]⟩
      (twoLines.sources none sources) ((twoLines.sources none sources).lines 0)
    ∃ k, k ≤ old.sources.files.length ∧ twoLines.IsTransparent k old new := by
  have hlacks : Sources.Lacks ⟨[twoLines.source]⟩ (Path.join ⟨[]⟩ twoLines.target) := by
    intro file hfile
    rw [List.mem_singleton.mp hfile]
    decide
  exact exists_isTransparent twoLines rfl hlacks (.stored (by decide) rfl) (by decide)

/-- The move of one line to a file in a directory that is made for it. -/
def intoDirectory : Extraction ⟨[]⟩ where
  root := 0
  source := ⟨"story.tw".toList, .ofString "story.tw", "One\n::@include new/../two.tw\n".toList⟩
  above := []
  block := ["One\n".toList]
  below := ["::@include new/../two.tw\n".toList]
  target := "new/one.tw".toList
  file := ⟨"new/one.tw".toList, .ofString "new/one.tw", "One\n".toList⟩
  lines_eq := by decide
  ended := by decide
  target_ne_nil := by decide
  trim_target := by decide
  notMem_target := by decide
  contents_eq := by decide
  agrees := by decide
  apart := by decide

/-- A path that names neither of the two files may pass through the directory that is
made for the new file, and lead to a file after the move only. -/
theorem not_isTransparent_intoDirectory :
    let sources : Sources := ⟨[intoDirectory.source]⟩
    let tree := storyTree intoDirectory.source.contents []
    let tree' := storyTree intoDirectory.remainder
      [(["new".toList], .directory),
        (["new".toList, "one.tw".toList], .text intoDirectory.file.contents)]
    let old := resolveIncludes tree ⟨[]⟩ sources (sources.lines 0)
    let new := resolveIncludes tree' ⟨[]⟩ (intoDirectory.sources none sources)
      ((intoDirectory.sources none sources).lines 0)
    sources.files[intoDirectory.root]? = some intoDirectory.source ∧
      sources.Lacks (Path.join ⟨[]⟩ intoDirectory.target) ∧
      intoDirectory.Readable tree' sources none ∧
      (∀ p ∈ old.sources.namedPaths ⟨[]⟩, intoDirectory.Avoids p) ∧
      ∀ k, ¬intoDirectory.IsTransparent k old new := by
  refine ⟨rfl, fun file hfile => ?_, .stored (by decide) rfl, by decide, fun k h => ?_⟩
  · rw [List.mem_singleton.mp hfile]
    decide
  · exact absurd h.texts (by decide)

end TweeStory.Extraction
