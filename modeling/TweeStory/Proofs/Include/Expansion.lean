/-
The expansion of lines as a recursion on files.

* `Progress`: what an expansion carries from line to line;
* `Yields`: what one line comes to;
* `Expands`: what lines come to, those of the files they ask for in their place;
* `Expands.append`, `Expands.exists_append`: lines in two parts;
* `Scan.step?_of_yields`, `exists_yields`: the scan takes its steps by the same rules.

A line is looked at together with its chain, the files whose directives led to it.
The lines of a directive's file are expanded in their turn, with the file of the
directive at the end of their chain.  The lines of an entry's file are left as they
are.
-/
import TweeStory.Include.Scan
import TweeStory.Proofs.Include.Directive
import TweeStory.Proofs.Source.Loading

namespace TweeStory

open Text

/-- What an expansion carries from line to line. -/
structure Progress where
  /-- Whether the latest header was that of the passage that lists files. -/
  inSection : Bool
  sources : Sources
  warnings : Diagnostics

/-- The progress with a warning about a line. -/
def Progress.warn (s : Progress) (kind : WarningKind) (line : Line) : Progress :=
  { s with warnings := s.warnings ++ [⟨kind, some line.origin, none⟩] }

/-- The line with the files that led to it. -/
def Line.under (chain : List Nat) (line : Line) : Line :=
  { line with ancestry := chain }

/-! ### The rules -/

/-- What a line comes to under a chain: the lines that it leaves in its place as they
are, the lines of a file that are expanded in its place, and the progress after it. -/
inductive Yields (tree : FileTree) (base : Path) (chain : List Nat) (line : Line)
    (s : Progress) : List Line → List Line → Progress → Prop
  /-- A directive that names a file on the chain or the file of the line. -/
  | cycle {space rest : Text} {id : Nat} (asks : line.text.Asks space rest)
      (first : s.sources.IsFirst (base.join rest.trim) id)
      (mem : id ∈ chain ++ [line.origin.file]) :
      Yields tree base chain line s [] []
        (s.warn (.includeCycle (base.join rest.trim).text) line)
  /-- A directive that names a file that cannot be read. -/
  | missing {space rest : Text} (asks : line.text.Asks space rest)
      (refuses : s.sources.Refuses tree (base.join rest.trim)) :
      Yields tree base chain line s [] []
        (s.warn (.missingInclude (base.join rest.trim).text) line)
  /-- A directive that names any other file: the white space in front of the directive comes in
  front of each line of the file. -/
  | directive {space rest : Text} {id : Nat} {sources : Sources} (asks : line.text.Asks space rest)
      (acyclic : ∀ j, s.sources.IsFirst (base.join rest.trim) j →
        j ∉ chain ++ [line.origin.file])
      (opens : s.sources.Opens tree (base.join rest.trim) id sources) :
      Yields tree base chain line s []
        ((sources.lines id).map fun l => { l with text := space ++ l.text })
        { s with sources := sources }
  | header {header : Header} (plain : ∀ space rest, ¬line.text.Asks space rest)
      (parses : Header.parse? line.text = some header) :
      Yields tree base chain line s [line.under chain] []
        { s with inSection := header.name = "StoryIncludes".toList }
  /-- A path in the passage that lists files. -/
  | entry {id : Nat} {sources : Sources} (plain : ∀ space rest, ¬line.text.Asks space rest)
      (parses : Header.parse? line.text = none) (listed : s.inSection)
      (solid : ¬IsSpace line.text)
      (opens : s.sources.Opens tree (base.join line.text.trim) id sources) :
      Yields tree base chain line s
        ((sources.lines id).map (Line.under (chain ++ [line.origin.file]))) []
        { s with sources := sources }
  /-- A path in the passage that lists files, of a file that cannot be read. -/
  | missingEntry (plain : ∀ space rest, ¬line.text.Asks space rest)
      (parses : Header.parse? line.text = none) (listed : s.inSection)
      (solid : ¬IsSpace line.text)
      (refuses : s.sources.Refuses tree (base.join line.text.trim)) :
      Yields tree base chain line s [] []
        (s.warn (.missingInclude (base.join line.text.trim).text) line)
  | body (plain : ∀ space rest, ¬line.text.Asks space rest)
      (parses : Header.parse? line.text = none)
      (idle : s.inSection = false ∨ IsSpace line.text) :
      Yields tree base chain line s [line.under chain] [] s

/-- What lines come to under a chain, one after the other. -/
inductive Expands (tree : FileTree) (base : Path) :
    List Nat → List Line → Progress → List Line → Progress → Prop
  | nil {chain : List Nat} {s : Progress} : Expands tree base chain [] s [] s
  | cons {chain : List Nat} {line : Line} {rest left nested inner outer : List Line}
      {s s₁ s₂ s₃ : Progress} (first : Yields tree base chain line s left nested s₁)
      (deep : Expands tree base (chain ++ [line.origin.file]) nested s₁ inner s₂)
      (later : Expands tree base chain rest s₂ outer s₃) :
      Expands tree base chain (line :: rest) s (left ++ inner ++ outer) s₃

variable {tree : FileTree} {base : Path}

/-- Some rule applies to every line. -/
lemma exists_yields (tree : FileTree) (base : Path) (chain : List Nat) {line : Line}
    (hline : IsFullLine line.text) (s : Progress) :
    ∃ left nested t, Yields tree base chain line s left nested t := by
  cases hask : IncludeDirective.parse? line.text.chomp with
  | some d =>
      obtain ⟨rest, asks, -⟩ := exists_asks hask
      by_cases hcycle : ∃ id, s.sources.IsFirst (base.join rest.trim) id ∧
          id ∈ chain ++ [line.origin.file]
      · obtain ⟨id, first, mem⟩ := hcycle
        exact ⟨_, _, _, .cycle asks first mem⟩
      · have acyclic : ∀ j, s.sources.IsFirst (base.join rest.trim) j →
            j ∉ chain ++ [line.origin.file] := fun j first mem => hcycle ⟨j, first, mem⟩
        rcases Sources.opens_or_refuses tree s.sources (base.join rest.trim) with
          ⟨id, sources, opens⟩ | refuses
        · exact ⟨_, _, _, .directive asks acyclic opens⟩
        · exact ⟨_, _, _, .missing asks refuses⟩
  | none =>
      have plain := plain_of_parse? hline hask
      cases parses : Header.parse? line.text with
      | some header => exact ⟨_, _, _, .header plain parses⟩
      | none =>
          by_cases hidle : s.inSection = false ∨ IsSpace line.text
          · exact ⟨_, _, _, .body plain parses hidle⟩
          · rw [not_or, Bool.not_eq_false] at hidle
            rcases Sources.opens_or_refuses tree s.sources (base.join line.text.trim) with
              ⟨id, sources, opens⟩ | refuses
            · exact ⟨_, _, _, .entry plain parses hidle.1 hidle.2 opens⟩
            · exact ⟨_, _, _, .missingEntry plain parses hidle.1 hidle.2 refuses⟩

/-- The rules look at the chain that they are given, not at the one of the line. -/
lemma Yields.under {chain : List Nat} {line : Line} {s t : Progress} {left nested : List Line}
    (h : Yields tree base chain line s left nested t) (other : List Nat) :
    Yields tree base chain (line.under other) s left nested t := by
  cases h with
  | cycle asks first mem => exact .cycle asks first mem
  | missing asks refuses => exact .missing asks refuses
  | directive asks acyclic opens => exact .directive asks acyclic opens
  | header plain parses => exact .header plain parses
  | entry plain parses listed solid opens => exact .entry plain parses listed solid opens
  | missingEntry plain parses listed solid refuses =>
      exact .missingEntry plain parses listed solid refuses
  | body plain parses idle => exact .body plain parses idle

/-- Lines come to what those before and those behind come to, one after the other. -/
lemma Expands.append {chain : List Nat} {lines lines' out out' : List Line}
    {s s' t : Progress} (h : Expands tree base chain lines s out s')
    (h' : Expands tree base chain lines' s' out' t) :
    Expands tree base chain (lines ++ lines') s (out ++ out') t := by
  induction h with
  | nil => exact h'
  | cons first deep _ _ ihlater =>
      simpa using Expands.cons first deep (ihlater h')

lemma Expands.exists_append {chain : List Nat} {lines lines' out : List Line} {s t : Progress}
    (h : Expands tree base chain (lines ++ lines') s out t) :
    ∃ out₁ out₂ s', Expands tree base chain lines s out₁ s' ∧
      Expands tree base chain lines' s' out₂ t ∧ out = out₁ ++ out₂ := by
  induction lines generalizing s out with
  | nil => exact ⟨[], out, s, .nil, h, rfl⟩
  | cons line lines ih =>
      cases h with
      | cons first deep later =>
          obtain ⟨out₁, out₂, s', hlines, hlines', rfl⟩ := ih later
          exact ⟨_, out₂, s', .cons first deep hlines, hlines', by simp⟩

/-! ### The scan -/

/-- The scan with given lines behind it and before it. -/
def Progress.scan (s : Progress) (done pending : List Line) : Scan :=
  ⟨done, pending, s.inSection, s.sources, s.warnings⟩

namespace Scan

lemma isCycle_eq_true_iff {sources : Sources} {asking : Line} {path : Path} :
    isCycle sources asking path = true ↔ ∃ id, sources.IsFirst path id ∧ id ∈ asking.chain := by
  simp only [← Sources.find?_eq_some_iff, isCycle]
  cases sources.find? path with
  | some id => simp
  | none => simp

lemma isCycle_eq_false_iff {sources : Sources} {asking : Line} {path : Path} :
    isCycle sources asking path = false ↔
      ∀ id, sources.IsFirst path id → id ∉ asking.chain := by
  rw [← Bool.not_eq_true, isCycle_eq_true_iff, not_exists]
  exact forall_congr' fun id => not_and

lemma fetch_of_opens {sources sources' : Sources} {path : Path} {id : Nat}
    (h : sources.Opens tree path id sources') (asking : Line) :
    fetch tree sources asking path =
      .ok ((sources'.lines id).map (Line.under asking.chain), sources') := by
  rw [fetch, Sources.load_eq_ok_iff.mpr h]
  rfl

lemma fetch_of_refuses {sources : Sources} {path : Path} (h : sources.Refuses tree path)
    (asking : Line) : ∃ e, fetch tree sources asking path = .error e := by
  obtain ⟨e, he⟩ := Sources.load_eq_error_iff.mpr h
  exact ⟨e, by rw [fetch, he]; rfl⟩

/-- A step over a directive follows it. -/
lemma step?_of_asks {line : Line} (hline : IsFullLine line.text) {space path : Text}
    (asks : line.text.Asks space path) (s : Progress) (done rest : List Line) :
    (s.scan done (line :: rest)).step? tree base =
      some ((s.scan done (line :: rest)).followDirective tree base line rest
        ⟨space, path.trim⟩) := by
  simp only [step?, Progress.scan, Line.body, asks.parse?_chomp hline]

/-- A step over a line that is neither a directive nor a header follows it as a path
if it is one in the passage that lists files. -/
lemma step?_of_plain {line : Line} (plain : ∀ space rest, ¬line.text.Asks space rest)
    (parses : Header.parse? line.text = none) (s : Progress) (done rest : List Line) :
    (s.scan done (line :: rest)).step? tree base =
      if s.inSection && !line.text.isAllBlank then
        some ((s.scan done (line :: rest)).followEntry tree base line rest)
      else some ((s.scan done (line :: rest)).keep line rest) := by
  simp only [step?, Progress.scan, Line.body, parse?_of_plain plain, parses]
  rfl

/-- **The scan takes its steps by the rules**: the lines that a line leaves in its
place go behind the scan, and those that are expanded in its place come before it. -/
lemma step?_of_yields {line : Line} (hline : IsFullLine line.text) {s t : Progress}
    {left nested : List Line} (h : Yields tree base line.ancestry line s left nested t)
    (done rest : List Line) :
    (s.scan done (line :: rest)).step? tree base =
      some (t.scan (left.reverse ++ done) (nested.map (Line.under line.chain) ++ rest)) := by
  cases h with
  | cycle asks first mem =>
      have hcycle := isCycle_eq_true_iff.mpr ⟨_, first, mem⟩
      rw [step?_of_asks hline asks]
      simp [followDirective, Progress.scan, Progress.warn, Diagnostics.warn, Diagnostics.push,
        hcycle]
  | missing asks refuses =>
      have hcycle : isCycle s.sources line (base.join _) = false :=
        isCycle_eq_false_iff.mpr fun id first => absurd refuses.1 first.not_lacks
      obtain ⟨e, he⟩ := fetch_of_refuses refuses line
      rw [step?_of_asks hline asks]
      simp [followDirective, Progress.scan, Progress.warn, Diagnostics.warn, Diagnostics.push,
        hcycle, he]
  | directive asks acyclic opens =>
      have hcycle : isCycle s.sources line (base.join _) = false :=
        isCycle_eq_false_iff.mpr acyclic
      have hfetch := fetch_of_opens opens line
      rw [step?_of_asks hline asks]
      simp [followDirective, Progress.scan, hcycle, hfetch, Function.comp_def, indent, Line.under]
  | @header header plain parses =>
      have hstep : (s.scan done (line :: rest)).step? tree base =
          some { (s.scan done (line :: rest)).keep line rest with
            inSection := header.name = storyIncludes } := by
        simp only [step?, Progress.scan, Line.body, parse?_of_plain plain, parses]
      exact hstep
  | entry plain parses listed solid opens =>
      have hfetch := fetch_of_opens opens line
      rw [step?_of_plain plain parses, listed, isAllBlank_eq_false_iff.mpr solid]
      simp [followEntry, Progress.scan, hfetch, Line.chain, listed]
  | missingEntry plain parses listed solid refuses =>
      obtain ⟨e, he⟩ := fetch_of_refuses refuses line
      rw [step?_of_plain plain parses, listed, isAllBlank_eq_false_iff.mpr solid]
      simp [followEntry, Progress.scan, Progress.warn, Diagnostics.warn, Diagnostics.push, he,
        listed]
  | body plain parses idle =>
      have hkeep : (s.inSection && !line.text.isAllBlank) = false := by
        rcases idle with idle | idle
        · rw [idle, Bool.false_and]
        · rw [isAllBlank_eq_true_iff.mpr idle, Bool.not_true, Bool.and_false]
      rw [step?_of_plain plain parses, hkeep]
      simp [keep, Progress.scan, Line.under]

/-- A step over a line under a given chain. -/
lemma step?_under {chain : List Nat} {line : Line} (hline : IsFullLine line.text)
    {s t : Progress} {left nested : List Line}
    (h : Yields tree base chain line s left nested t) (done rest : List Line) :
    (s.scan done (line.under chain :: rest)).step? tree base =
      some (t.scan (left.reverse ++ done)
        (nested.map (Line.under (chain ++ [line.origin.file])) ++ rest)) :=
  @step?_of_yields tree base (line.under chain) hline s t left nested (h.under chain) done rest

/-- The progress of a scan. -/
def progress (s : Scan) : Progress :=
  ⟨s.inSection, s.sources, s.warnings⟩

@[simp] lemma sources_progress (s : Scan) : s.progress.sources = s.sources := rfl

@[simp] lemma done_scan (s : Progress) (done pending : List Line) :
    (s.scan done pending).done = done := rfl

@[simp] lemma pending_scan (s : Progress) (done pending : List Line) :
    (s.scan done pending).pending = pending := rfl

@[simp] lemma sources_scan (s : Progress) (done pending : List Line) :
    (s.scan done pending).sources = s.sources := rfl

lemma scan_progress {s : Scan} {pending : List Line} (h : s.pending = pending) :
    s.progress.scan s.done pending = s := by
  subst h
  rfl

/-- What a step of the scan does. -/
lemma exists_yields_of_step? {s s' : Scan} (hline : ∀ line ∈ s.pending, IsFullLine line.text)
    (hstep : s.step? tree base = some s') :
    ∃ line rest left nested t, s.pending = line :: rest ∧
      Yields tree base line.ancestry line s.progress left nested t ∧
      s' = t.scan (left.reverse ++ s.done) (nested.map (Line.under line.chain) ++ rest) := by
  cases hpending : s.pending with
  | nil => simp [step?, hpending] at hstep
  | cons line rest =>
      have hfull : IsFullLine line.text := hline line (by simp [hpending])
      obtain ⟨left, nested, t, h⟩ := exists_yields tree base line.ancestry hfull s.progress
      have hs := step?_of_yields hfull h s.done rest
      rw [scan_progress hpending, hstep] at hs
      exact ⟨line, rest, left, nested, t, rfl, h, Option.some.inj hs⟩

lemma run_of_step? {s s' : Scan} (h : s.step? tree base = some s') (n : Nat) :
    run tree base (n + 1) s = run tree base n s' := by
  rw [run, h]

/-- What every step keeps holds after any number of steps. -/
lemma run_induction {P : Scan → Prop}
    (hstep : ∀ s s', P s → s.step? tree base = some s' → P s') (n : Nat) {s : Scan} (h : P s) :
    P (run tree base n s) := by
  induction n generalizing s with
  | zero => exact h
  | succ n ih =>
      rw [run]
      cases hs : s.step? tree base with
      | none => exact h
      | some s' => exact ih (hstep s s' h hs)

end Scan

end TweeStory
