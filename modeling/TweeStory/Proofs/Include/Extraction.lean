/-
The expansion of lines after a block of them moved to a file of its own.

* `Sources.namedPaths`: the paths that the lines of sources can ask for;
* `Extraction.Keeps`: a path that leads to the same before the move and after it;
* `Extraction.Chains`: chains that forbid the same files;
* `Yields.move`, `Expands.move`: lines that name such paths only come to the same
  before the move and after it, line by line and one after the other.

A line of the block stands on a longer chain after the move, with the source that the
block stood in before the new file.  Both are on it for nothing, since no path leads to
them.
-/
import TweeStory.Proofs.Include.Provenance
import TweeStory.Proofs.Source.Extraction

namespace TweeStory

open Text Sources Extraction

variable {tree tree' : FileTree} {base : Path}

/-! ### Named paths -/

/-- The paths that the lines of the sources can ask for. -/
def Sources.namedPaths (base : Path) (sources : Sources) : List Path :=
  sources.files.flatMap fun file => file.contents.fullLines.flatMap base.named

lemma Sources.mem_namedPaths_of_isPrefix {sources sources' : Sources} {p : Path}
    (h : p ∈ sources.namedPaths base) (hs : sources.files <+: sources'.files) :
    p ∈ sources'.namedPaths base := by
  obtain ⟨file, hfile, hp⟩ := List.mem_flatMap.mp h
  exact List.mem_flatMap.mpr ⟨file, hs.subset hfile, hp⟩

/-- A line names what the line at its origin names. -/
lemma Line.StemsFrom.mem_namedPaths {sources : Sources} {line : Line}
    (h : line.StemsFrom sources) {p : Path} (hp : p ∈ base.named line.text) :
    p ∈ sources.namedPaths base := by
  obtain ⟨contents, space, text, n, hcontents, htext, -, hspace, -, heq⟩ := h
  obtain ⟨file, hfile, rfl⟩ := Option.map_eq_some_iff.mp hcontents
  rw [heq, Path.named_append hspace] at hp
  exact List.mem_flatMap.mpr ⟨file, List.mem_of_getElem? hfile,
    List.mem_flatMap.mpr ⟨text, List.mem_of_getElem? htext, hp⟩⟩

/-- A rule loads at most one source, from a path that the line names. -/
lemma Yields.eq_or_opens {chain : List Nat} {line : Line} {s t : Progress}
    {left nested : List Line} (h : Yields tree base chain line s left nested t)
    (hline : IsFullLine line.text) :
    t.sources = s.sources ∨
      ∃ p ∈ base.named line.text, ∃ id, s.sources.Opens tree p id t.sources := by
  cases h with
  | cycle | missing | missingEntry | header | body => exact Or.inl rfl
  | directive asks acyclic opens =>
      exact Or.inr ⟨_, Path.join_mem_named asks hline, _, opens⟩
  | entry plain parses listed solid opens =>
      exact Or.inr ⟨_, Path.join_trim_mem_named, _, opens⟩

lemma Expands.prefix_files {chain : List Nat} {lines out : List Line} {s t : Progress}
    (h : Expands tree base chain lines s out t) : s.sources.files <+: t.sources.files := by
  induction h with
  | nil => exact List.prefix_rfl
  | cons first _ _ ihdeep ihlater => exact first.prefix_files.trans (ihdeep.trans ihlater)

/-- A path that no line names is loaded by none. -/
lemma Expands.lacks {chain : List Nat} {lines out : List Line} {s t : Progress}
    (h : Expands tree base chain lines s out t) {q : Path}
    (hlines : ∀ line ∈ lines, line.StemsFrom s.sources)
    (hnames : ∀ p ∈ t.sources.namedPaths base, ¬p.agrees q) (hs : s.sources.Lacks q) :
    t.sources.Lacks q := by
  induction h with
  | nil => exact hs
  | @cons chain line rest left nested inner outer s s₁ s₂ s₃ first deep later ihdeep ihlater =>
      have hline := hlines line List.mem_cons_self
      have hprefix := deep.prefix_files.trans later.prefix_files
      have hnames₁ : ∀ p ∈ s₂.sources.namedPaths base, ¬p.agrees q := fun p hp =>
        hnames p (Sources.mem_namedPaths_of_isPrefix hp later.prefix_files)
      have hs₁ : s₁.sources.Lacks q := by
        rcases first.eq_or_opens hline.isFullLine with heq | ⟨p, hp, id, hopens⟩
        · exact heq ▸ hs
        · exact hopens.lacks hs (hnames p (Sources.mem_namedPaths_of_isPrefix
            (hline.mem_namedPaths hp) (first.prefix_files.trans hprefix)))
      refine ihlater (fun l hl => ?_) hnames (ihdeep (fun l hl => ?_) hnames₁ hs₁)
      · exact (hlines l (List.mem_cons_of_mem _ hl)).of_isPrefix
          (first.prefix_files.trans deep.prefix_files)
      · exact first.stemsFrom hline l (List.mem_append_right _ hl)

/-! ### What the move keeps -/

/-- The warning about lines at other origins. -/
def Warning.move (μ : Origin → Origin) (w : Warning) : Warning :=
  { w with context := w.context.map μ, referent := w.referent.map μ }

namespace Extraction

variable (m : Extraction base)

/-- The path is not one of the two that the move is about, and the file trees before
and after the move have the same text at it, or none. -/
def Keeps (tree tree' : FileTree) (p : Path) : Prop :=
  m.Avoids p ∧ (tree'.read p).toOption = (tree.read p).toOption

instance (tree tree' : FileTree) (p : Path) : Decidable (m.Keeps tree tree' p) :=
  inferInstanceAs (Decidable (_ ∧ _))

/-- The progress of an expansion after the move. -/
def progress (k : Nat) (place : Option Nat) (s : Progress) : Progress :=
  ⟨s.inSection, m.sources place s.sources, s.warnings.map (Warning.move (m.origin k))⟩

/-- The chains before and after the move have the same files, the source of the block
and the new file aside. -/
def Chains (k : Nat) (chain chain' : List Nat) : Prop :=
  ∀ id ≠ m.root, id ∈ chain ↔ skip k id ∈ chain'

variable {m} {k : Nat} {place : Option Nat} {chain chain' : List Nat}

lemma chains_nil : m.Chains k [] [] := by
  simp [Chains]

/-- A line goes on both chains, whether it moves or not. -/
lemma Chains.snoc (h : m.Chains k chain chain') (o : Origin) :
    m.Chains k (chain ++ [o.file]) (chain' ++ [(m.origin k o).file]) := by
  intro id hid
  have hfile : id = o.file ↔ skip k id = (m.origin k o).file := by
    by_cases ho : o.file = m.root
    · have hmoved : (m.origin k o).file = skip k m.root ∨ (m.origin k o).file = k := by
        rw [origin, if_neg (by simpa using ho)]
        split
        · exact Or.inl rfl
        · split
          · exact Or.inr rfl
          · exact Or.inl rfl
      rcases hmoved with hmoved | hmoved
      · simp [hmoved, ho, skip_inj]
      · simp [hmoved, ho, hid, skip_ne]
    · rw [origin, if_pos ho, skip_inj]
  rw [List.mem_append, List.mem_append, List.mem_singleton, List.mem_singleton, h id hid, hfile]

@[simp] lemma sources_progress (s : Progress) :
    (m.progress k place s).sources = m.sources place s.sources := rfl

lemma progress_warn (s : Progress) (kind : WarningKind) (line : Line) :
    m.progress k place (s.warn kind line) =
      (m.progress k place s).warn kind (line.move (m.origin k)) := by
  simp [progress, Progress.warn, Warning.move, Line.move]

end Extraction

/-! ### Lines -/

section Lines

variable {m : Extraction base} {k : Nat} {place : Option Nat} {chain chain' : List Nat}

lemma map_move_indent (μ : Origin → Origin) (space : Text) (lines : List Line) :
    (lines.map fun l => { l with text := space ++ l.text }).map (Line.move μ) =
      (lines.map (Line.move μ)).map fun l => { l with text := space ++ l.text } := by
  simp [Line.move]

lemma map_move_under (μ : Origin → Origin) (chain : List Nat) (lines : List Line) :
    (lines.map (Line.under chain)).map (Line.move μ) = lines.map (Line.move μ) := by
  simp [Line.move, Line.under]

/-- A line that names paths only that the move keeps comes to the same after the move,
and to the same progress. -/
lemma Yields.move {line : Line} {s t : Progress} {left nested : List Line}
    (h : Yields tree base chain line s left nested t) (hline : IsFullLine line.text)
    (hroot : s.sources.files[m.root]? = some m.source)
    (hs : Stands k place s.sources) (ht : Stands k place t.sources)
    (hnames : ∀ p ∈ base.named line.text, m.Keeps tree tree' p) (hc : m.Chains k chain chain') :
    ∃ left', Yields tree' base chain' (line.move (m.origin k)) (m.progress k place s) left'
        (nested.map (Line.move (m.origin k))) (m.progress k place t) ∧
      left'.map (Line.move id) = left.map (Line.move (m.origin k)) := by
  have hchain := hc.snoc line.origin
  cases h with
  | @cycle space rest id asks first mem =>
      have hp := (hnames _ (Path.join_mem_named asks hline)).1
      have hid := ne_root_of_isFirst hroot hp first
      refine ⟨[], ?_, rfl⟩
      rw [progress_warn]
      exact .cycle asks ((isFirst_iff hs hp _).mpr ⟨id, rfl, first⟩) ((hchain id hid).mp mem)
  | missing asks refused =>
      obtain ⟨hp, hread⟩ := hnames _ (Path.join_mem_named asks hline)
      refine ⟨[], ?_, rfl⟩
      rw [progress_warn]
      exact .missing asks (refuses hp hread hs refused)
  | @directive space rest id sources asks acyclic opened =>
      obtain ⟨hp, hread⟩ := hnames _ (Path.join_mem_named asks hline)
      have hroot' := getElem?_of_isPrefix opened.prefix_files hroot
      have hid := ne_root_of_isFirst hroot' hp opened.isFirst
      refine ⟨[], ?_, rfl⟩
      rw [map_move_indent, ← lines_skip ht hid]
      refine .directive asks (fun j hj mem => ?_) (opens hroot hp hread hs ht opened)
      obtain ⟨i, rfl, hi⟩ := (isFirst_iff hs hp j).mp hj
      exact acyclic i hi ((hchain i (ne_root_of_isFirst hroot hp hi)).mpr mem)
  | header plain parses => exact ⟨_, .header plain parses, rfl⟩
  | @entry id sources plain parses listed solid opened =>
      obtain ⟨hp, hread⟩ := hnames _ Path.join_trim_mem_named
      have hroot' := getElem?_of_isPrefix opened.prefix_files hroot
      have hid := ne_root_of_isFirst hroot' hp opened.isFirst
      refine ⟨_, .entry plain parses listed solid (opens hroot hp hread hs ht opened), ?_⟩
      rw [map_move_under, map_move_under, lines_skip ht hid]
      simp [Line.move]
  | missingEntry plain parses listed solid refused =>
      obtain ⟨hp, hread⟩ := hnames _ Path.join_trim_mem_named
      refine ⟨[], ?_, rfl⟩
      rw [progress_warn]
      exact .missingEntry plain parses listed solid (refuses hp hread hs refused)
  | body plain parses idle => exact ⟨_, .body plain parses idle, rfl⟩

/-- **Lines after the move.**  Lines that name paths only that the move keeps come to
the same after the move, and to the same progress. -/
lemma Expands.move {lines out : List Line} {s t : Progress}
    (h : Expands tree base chain lines s out t)
    (hlines : ∀ line ∈ lines, line.StemsFrom s.sources)
    (hroot : s.sources.files[m.root]? = some m.source)
    (hs : Stands k place s.sources) (ht : Stands k place t.sources)
    (hnames : ∀ p ∈ t.sources.namedPaths base, m.Keeps tree tree' p)
    (hc : m.Chains k chain chain') :
    ∃ out', Expands tree' base chain' (lines.map (Line.move (m.origin k)))
        (m.progress k place s) out' (m.progress k place t) ∧
      out'.map (Line.move id) = out.map (Line.move (m.origin k)) := by
  induction h generalizing chain' with
  | nil => exact ⟨[], .nil, rfl⟩
  | @cons chain line rest left nested inner outer s s₁ s₂ s₃ first deep later ihdeep ihlater =>
      have hline := hlines line List.mem_cons_self
      have hprefix := first.prefix_files.trans deep.prefix_files
      have hs₂ := hs.between ht hprefix later.prefix_files
      have hs₁ := hs.between hs₂ first.prefix_files deep.prefix_files
      have hnames₂ : ∀ p ∈ s₂.sources.namedPaths base, m.Keeps tree tree' p := fun p hp =>
        hnames p (Sources.mem_namedPaths_of_isPrefix hp later.prefix_files)
      have hnamed : ∀ p ∈ base.named line.text, m.Keeps tree tree' p := fun p hp =>
        hnames₂ p (Sources.mem_namedPaths_of_isPrefix (hline.mem_namedPaths hp) hprefix)
      obtain ⟨left', first', hleft⟩ := first.move hline.isFullLine hroot hs hs₁ hnamed hc
      obtain ⟨inner', deep', hinner⟩ := ihdeep
        (fun l hl => first.stemsFrom hline l (List.mem_append_right _ hl))
        (getElem?_of_isPrefix first.prefix_files hroot) hs₁ hs₂ hnames₂ (hc.snoc line.origin)
      obtain ⟨outer', later', houter⟩ := ihlater
        (fun l hl => (hlines l (List.mem_cons_of_mem _ hl)).of_isPrefix hprefix)
        (getElem?_of_isPrefix hprefix hroot) hs₂ ht hnames hc
      refine ⟨left' ++ inner' ++ outer', .cons first' deep' later', ?_⟩
      simp only [List.map_append, hleft, hinner, houter]

end Lines

/-! ### The source -/

namespace Extraction

variable {m : Extraction base} {k : Nat} {place : Option Nat} {sources : Sources}

/-- The number of the source of the block after the move. -/
def rootAfter (m : Extraction base) : Option Nat → Nat
  | none => m.root
  | some k => skip k m.root

lemma chains_singleton : m.Chains k [] [skip k m.root] := by
  intro id hid
  simp [skip_inj, hid]

lemma map_indent_nil (lines : List Line) :
    (lines.map fun l => { l with text := [] ++ l.text }) = lines :=
  List.map_id lines

/-- The line in the place of the block comes to what the block comes to. -/
lemma yields_call (h : Stands k place sources) (hk : k ≤ sources.files.length)
    (hroot : sources.files[m.root]? = some m.source)
    (hopens : (m.sources place sources).Opens tree' (base.join m.target) k
      (m.sources (some k) sources)) {s : Progress} (hs : s.sources = sources) (line : Line)
    (hfile : line.origin.file = skip k m.root) (htext : line.text = m.call) :
    Yields tree' base [] line (m.progress k place s) []
      ((Line.number m.root (1 + m.above.length) m.block).map (Line.move (m.origin k)))
      (m.progress k (some k) s) := by
  subst hs
  have hasks : line.text.Asks [] m.target := htext ▸ m.asks_call
  have hpath : base.join (trim m.target) = base.join m.target := by rw [m.trim_target]
  rw [← lines_file hk, ← map_indent_nil ((m.sources (some k) s.sources).lines k)]
  refine .directive hasks (fun j hj mem => ?_) (hpath ▸ hopens)
  rw [List.nil_append, List.mem_singleton, hfile] at mem
  obtain ⟨file, hget, hagrees⟩ := hj.agrees
  rw [mem, sources_progress, getElem?_skip_root h hroot, Option.some.injEq] at hget
  rw [← hget, hpath] at hagrees
  exact m.apart hagrees

/-- The new file has a number when the line in the place of the block asks for it: the
one that it was loaded with, or else the next one. -/
lemma Readable.exists_opens (h : m.Readable tree' sources place)
    (hroot : sources.files[m.root]? = some m.source) {sources₁ : Sources}
    (hsub : sources.files <+: sources₁.files) (hlacks : sources₁.Lacks (base.join m.target)) :
    ∃ k, Stands k place sources ∧ Stands k place sources₁ ∧ k ≤ sources₁.files.length ∧
      (m.sources place sources₁).Opens tree' (base.join m.target) k
        (m.sources (some k) sources₁) ∧ m.rootAfter place = skip k m.root := by
  have hle := hsub.length_le
  cases h with
  | @loaded k hk =>
      have hk₁ := hk.trans hle
      exact ⟨k, Or.inl ⟨rfl, hk⟩, Or.inl ⟨rfl, hk₁⟩, hk₁, opens_loaded hk₁ hlacks, rfl⟩
  | stored read file_eq =>
      have hlt := (List.getElem?_eq_some_iff.mp hroot).1
      refine ⟨sources₁.files.length, Or.inr ⟨rfl, hle⟩, Or.inr ⟨rfl, le_rfl⟩, le_rfl,
        opens_stored hlacks read file_eq, ?_⟩
      rw [rootAfter, skip, if_pos (lt_of_lt_of_le hlt hle)]

/-- **The source after the move.**  When the lines of all sources name paths only that
the move keeps, the source comes to the same after the move, and the new file is loaded
in the end. -/
lemma exists_expands {out : List Line} {t : Progress}
    (hroot : sources.files[m.root]? = some m.source)
    (hlacks : sources.Lacks (base.join m.target)) (hreadable : m.Readable tree' sources place)
    (h : Expands tree base [] (sources.lines m.root) ⟨false, sources, []⟩ out t)
    (hnames : ∀ p ∈ t.sources.namedPaths base, m.Keeps tree tree' p) :
    ∃ k out', k ≤ t.sources.files.length ∧
      Expands tree' base [] ((m.sources place sources).lines (m.rootAfter place))
        ⟨false, m.sources place sources, []⟩ out' (m.progress k (some k) t) ∧
      out'.map (Line.move id) = out.map (Line.move (m.origin k)) := by
  have hlines : ∀ line ∈ sources.lines m.root, line.StemsFrom sources := fun line hline =>
    stemsFrom_of_mem_lines hline
  rw [lines_root hroot] at h hlines
  obtain ⟨outAbove, outRest, s₁, habove, hrest, rfl⟩ := h.exists_append
  obtain ⟨outBlock, outBelow, s₂, hblock, hbelow, rfl⟩ := hrest.exists_append
  have hprefix₁ := habove.prefix_files
  have hprefix₂ := hprefix₁.trans hblock.prefix_files
  -- no line above the block loads the new file
  have hlacks₁ : s₁.sources.Lacks (base.join m.target) := by
    refine habove.lacks (fun l hl => hlines l (List.mem_append_left _ hl)) (fun p hp => ?_) hlacks
    exact (hnames p (mem_namedPaths_of_isPrefix hp hrest.prefix_files)).1.not_agrees
  obtain ⟨k, hs, hs₁, hk, hopens, hafter⟩ := hreadable.exists_opens hroot hprefix₁ hlacks₁
  have hk₂ := hk.trans hblock.prefix_files.length_le
  have hk₃ := hk₂.trans hbelow.prefix_files.length_le
  have hroot₁ := getElem?_of_isPrefix hprefix₁ hroot
  have hroot₂ := getElem?_of_isPrefix hprefix₂ hroot
  have hnames₂ : ∀ p ∈ s₂.sources.namedPaths base, m.Keeps tree tree' p := fun p hp =>
    hnames p (mem_namedPaths_of_isPrefix hp hbelow.prefix_files)
  have hnames₁ : ∀ p ∈ s₁.sources.namedPaths base, m.Keeps tree tree' p := fun p hp =>
    hnames₂ p (mem_namedPaths_of_isPrefix hp hblock.prefix_files)
  obtain ⟨outAbove', habove', hAbove⟩ := habove.move
    (fun l hl => hlines l (List.mem_append_left _ hl)) hroot hs hs₁ hnames₁ chains_nil
  obtain ⟨outBlock', hblock', hBlock⟩ := hblock.move
    (fun l hl => (hlines l (List.mem_append_right _ (List.mem_append_left _ hl))).of_isPrefix
      hprefix₁)
    hroot₁ (Or.inl ⟨rfl, hk⟩) (Or.inl ⟨rfl, hk₂⟩) hnames₂ chains_singleton
  obtain ⟨outBelow', hbelow', hBelow⟩ := hbelow.move
    (fun l hl => (hlines l (List.mem_append_right _ (List.mem_append_right _ hl))).of_isPrefix
      hprefix₂)
    hroot₂ (Or.inl ⟨rfl, hk₂⟩) (Or.inl ⟨rfl, hk₃⟩) hnames chains_nil
  refine ⟨k, outAbove' ++ ([] ++ outBlock' ++ outBelow'), hk₃, ?_, ?_⟩
  · rw [hafter, lines_skip_root hs hroot]
    exact habove'.append
      (.cons (yields_call hs₁ hk hroot₁ hopens rfl _ rfl rfl) hblock' hbelow')
  · simp only [List.map_append, List.nil_append, hAbove, hBlock, hBelow]

end Extraction

end TweeStory
