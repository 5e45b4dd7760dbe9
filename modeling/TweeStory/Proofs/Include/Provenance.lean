/-
Where the lines of an expansion come from.

* `Line.StemsFrom`: the line at its origin, with white space in front;
* `Yields.stemsFrom`: the rules keep to lines that stem from their origins;
* `Scan.Stems`, `Scan.stems_run`: so does the scan, before and behind it;
* `Scan.Chained`, `Scan.chained_run`: no file occurs twice on the chain of a line
  before the scan.
-/
import TweeStory.Proofs.Include.Expansion
import TweeStory.Proofs.Source.Span

namespace TweeStory

open Text

variable {tree : FileTree} {base : Path} {sources sources' : Sources}

/-! ### Lines and their origins -/

/-- The line is the one at its origin in a loaded source, with white space in front,
possibly none, that goes on one line. -/
def Line.StemsFrom (sources : Sources) (line : Line) : Prop :=
  ∃ contents space text n, sources.contents? line.origin.file = some contents ∧
    contents.fullLines[n]? = some text ∧ line.origin.line = n + 1 ∧
    IsSpace space ∧ '\n' ∉ space ∧ line.text = space ++ text

namespace Line.StemsFrom

variable {line : Line}

lemma isFullLine (h : line.StemsFrom sources) : IsFullLine line.text := by
  obtain ⟨contents, space, text, n, -, htext, -, -, hspace, heq⟩ := h
  have hfull := isFullLine_of_mem_fullLines (List.mem_of_getElem? htext)
  rw [heq]
  refine ⟨by simp [hfull.1], ?_⟩
  rw [List.dropLast_append_of_ne_nil hfull.1, List.mem_append, not_or]
  exact ⟨hspace, hfull.2⟩

lemma of_isPrefix (h : line.StemsFrom sources) (hs : sources.files <+: sources'.files) :
    line.StemsFrom sources' := by
  obtain ⟨contents, space, text, n, hcontents, hrest⟩ := h
  exact ⟨contents, space, text, n, Sources.contents?_of_isPrefix hs hcontents, hrest⟩

lemma has (h : line.StemsFrom sources) : sources.Has line.origin := by
  obtain ⟨contents, space, text, n, hcontents, htext, hn, -⟩ := h
  exact ⟨contents, text, n, hcontents, htext, hn⟩

/-- The line is white space and then the line at its origin, lines counting from 1. -/
lemma exists_space (h : line.StemsFrom sources) :
    ∃ contents space text, sources.contents? line.origin.file = some contents ∧
      1 ≤ line.origin.line ∧ line.origin.line ≤ contents.fullLines.length ∧
      contents.fullLines[line.origin.line - 1]? = some text ∧
      IsSpace space ∧ line.text = space ++ text := by
  obtain ⟨contents, space, text, n, hcontents, htext, hn, hspace, -, heq⟩ := h
  have hlt : n < contents.fullLines.length := (List.getElem?_eq_some_iff.mp htext).1
  have hindex : line.origin.line - 1 = n := by omega
  exact ⟨contents, space, text, hcontents, by omega, by omega, hindex ▸ htext, hspace, heq⟩

/-- A line keeps its origin under any chain. -/
lemma under (h : line.StemsFrom sources) (chain : List Nat) :
    (line.under chain).StemsFrom sources := h

lemma indent (h : line.StemsFrom sources) {space : Text} (hspace : IsSpace space)
    (hline : '\n' ∉ space) :
    ({ line with text := space ++ line.text } : Line).StemsFrom sources := by
  obtain ⟨contents, before, text, n, hcontents, htext, hn, hbefore, hfeed, heq⟩ := h
  refine ⟨contents, space ++ before, text, n, hcontents, htext, hn, hspace.append hbefore, ?_, ?_⟩
  · rw [List.mem_append, not_or]
    exact ⟨hline, hfeed⟩
  · rw [heq, List.append_assoc]

end Line.StemsFrom

/-- The lines of a source stem from it. -/
lemma Sources.stemsFrom_of_mem_lines {id : Nat} {line : Line} (h : line ∈ sources.lines id) :
    line.StemsFrom sources := by
  obtain ⟨contents, n, text, hcontents, htext, rfl⟩ := Sources.mem_lines_iff.mp h
  exact ⟨contents, [], text, n, hcontents, htext, rfl, isSpace_nil, by simp, rfl⟩

/-- Every line that the warning is about satisfies `P`. -/
def Warning.AllOrigins (P : Origin → Prop) (w : Warning) : Prop :=
  (∀ o ∈ w.context, P o) ∧ ∀ o ∈ w.referent, P o

namespace Yields

variable {chain : List Nat} {line : Line} {s t : Progress} {left nested : List Line}

/-- The rules leave the sources that were there as they are. -/
lemma prefix_files (h : Yields tree base chain line s left nested t) :
    s.sources.files <+: t.sources.files := by
  cases h with
  | directive asks acyclic opens => exact opens.prefix_files
  | entry plain parses listed solid opens => exact opens.prefix_files
  | cycle | missing | header | missingEntry | body => exact List.prefix_rfl

/-- The lines that a rule leaves or has expanded stem from their origins. -/
lemma stemsFrom (h : Yields tree base chain line s left nested t)
    (hline : line.StemsFrom s.sources) : ∀ l ∈ left ++ nested, l.StemsFrom t.sources := by
  cases h with
  | cycle | missing | missingEntry => simp
  | header | body =>
      intro l hl
      rw [List.append_nil, List.mem_singleton] at hl
      subst hl
      exact hline.under chain
  | directive asks acyclic opens =>
      intro l hl
      rw [List.nil_append] at hl
      obtain ⟨raw, hraw, rfl⟩ := List.mem_map.mp hl
      exact (Sources.stemsFrom_of_mem_lines hraw).indent asks.isSpace
        (asks.notMem_space hline.isFullLine)
  | entry plain parses listed solid opens =>
      intro l hl
      rw [List.append_nil] at hl
      obtain ⟨raw, hraw, rfl⟩ := List.mem_map.mp hl
      exact (Sources.stemsFrom_of_mem_lines hraw).under _

/-- A rule gives at most one warning, about the line that it is about. -/
lemma warnings_eq (h : Yields tree base chain line s left nested t) :
    t.warnings = s.warnings ∨
      ∃ kind, t.warnings = s.warnings ++ [⟨kind, some line.origin, none⟩] := by
  cases h with
  | cycle | missing | missingEntry => exact Or.inr ⟨_, rfl⟩
  | directive | header | entry | body => exact Or.inl rfl

lemma allOrigins (h : Yields tree base chain line s left nested t)
    (hline : line.StemsFrom s.sources) (hs : ∀ w ∈ s.warnings, w.AllOrigins s.sources.Has) :
    ∀ w ∈ t.warnings, w.AllOrigins t.sources.Has := by
  have hold : ∀ w ∈ s.warnings, w.AllOrigins t.sources.Has := fun w hw =>
    ⟨fun o ho => ((hs w hw).1 o ho).of_isPrefix h.prefix_files,
      fun o ho => ((hs w hw).2 o ho).of_isPrefix h.prefix_files⟩
  rcases h.warnings_eq with heq | ⟨kind, heq⟩
  · exact heq ▸ hold
  · intro w hw
    rw [heq, List.mem_append, List.mem_singleton] at hw
    rcases hw with hw | rfl
    · exact hold w hw
    · refine ⟨fun o ho => ?_, fun o ho => by cases ho⟩
      obtain rfl : line.origin = o := Option.some.inj ho
      exact hline.has.of_isPrefix h.prefix_files

end Yields

namespace Scan

/-! ### The lines of a scan -/

/-- Every line of the scan stems from its origin. -/
def Stems (s : Scan) : Prop :=
  ∀ line ∈ s.done ++ s.pending, line.StemsFrom s.sources

lemma Stems.isFullLine {s : Scan} (h : s.Stems) : ∀ line ∈ s.pending, IsFullLine line.text :=
  fun line hline => (h line (List.mem_append_right _ hline)).isFullLine

/-- A step of a scan whose lines stem from their origins follows a rule. -/
lemma Stems.exists_yields {s s' : Scan} (h : s.Stems) (hstep : s.step? tree base = some s') :
    ∃ line rest left nested t, s.pending = line :: rest ∧ line.StemsFrom s.sources ∧
      Yields tree base line.ancestry line s.progress left nested t ∧
      s' = t.scan (left.reverse ++ s.done) (nested.map (Line.under line.chain) ++ rest) := by
  obtain ⟨line, rest, left, nested, t, hpending, hyields, heq⟩ :=
    exists_yields_of_step? h.isFullLine hstep
  exact ⟨line, rest, left, nested, t, hpending, h line (by simp [hpending]), hyields, heq⟩

/-- A scan that takes no step has no line before it. -/
lemma Stems.pending_eq_nil {s : Scan} (h : s.Stems) (hstep : s.step? tree base = none) :
    s.pending = [] := by
  cases hpending : s.pending with
  | nil => rfl
  | cons line rest =>
      have hfull := h.isFullLine line (by simp [hpending])
      obtain ⟨left, nested, t, hyields⟩ := TweeStory.exists_yields tree base line.ancestry hfull
        s.progress
      have hsome := step?_of_yields hfull hyields s.done rest
      rw [scan_progress hpending, hstep] at hsome
      cases hsome

lemma Stems.step {s s' : Scan} (h : s.Stems) (hstep : s.step? tree base = some s') :
    s'.Stems := by
  obtain ⟨line, rest, left, nested, t, hpending, hline, hyields, rfl⟩ := h.exists_yields hstep
  intro l hl
  have hnew := hyields.stemsFrom hline
  have hold : ∀ l ∈ s.done ++ rest, l.StemsFrom t.sources := fun l hl =>
    (h l (by rw [hpending]; simp at hl ⊢; tauto)).of_isPrefix hyields.prefix_files
  simp only [done_scan, pending_scan, List.mem_append, List.mem_reverse, List.mem_map] at hl
  rcases hl with (hl | hl) | ⟨raw, hraw, rfl⟩ | hl
  · exact hnew l (List.mem_append_left _ hl)
  · exact hold l (List.mem_append_left _ hl)
  · exact (hnew raw (List.mem_append_right _ hraw)).under _
  · exact hold l (List.mem_append_right _ hl)

/-- **Provenance**: the lines of a scan stem from their origins at every moment. -/
theorem stems_run {s : Scan} (h : s.Stems) (n : Nat) : (run tree base n s).Stems :=
  run_induction (fun _ _ h hstep => h.step hstep) n h

/-- The warnings of a scan are about lines of loaded sources at every moment. -/
theorem allOrigins_run {s : Scan} (hstems : s.Stems)
    (h : ∀ w ∈ s.warnings, w.AllOrigins s.sources.Has) (n : Nat) :
    ∀ w ∈ (run tree base n s).warnings, w.AllOrigins (run tree base n s).sources.Has := by
  refine (run_induction
    (P := fun s => s.Stems ∧ ∀ w ∈ s.warnings, w.AllOrigins s.sources.Has) ?_ n ⟨hstems, h⟩).2
  rintro s s' ⟨hstems, h⟩ hstep
  obtain ⟨line, rest, left, nested, t, -, hline, hyields, rfl⟩ := hstems.exists_yields hstep
  exact ⟨hstems.step hstep, hyields.allOrigins hline h⟩

/-! ### Chains -/

/-- No file occurs twice on the chain of a line before the scan, and all files on it
are loaded. -/
def Chained (s : Scan) : Prop :=
  ∀ line ∈ s.pending, line.chain.Nodup ∧ ∀ id ∈ line.chain, id < s.sources.files.length

/-- The scan over the lines of a source. -/
def start (sources : Sources) (id : Nat) : Scan :=
  ⟨[], sources.lines id, false, sources, []⟩

lemma stems_start (sources : Sources) (id : Nat) : (start sources id).Stems :=
  fun _ hl => Sources.stemsFrom_of_mem_lines hl

lemma chained_start (sources : Sources) (id : Nat) : (start sources id).Chained := by
  intro line hline
  obtain ⟨contents, n, text, hcontents, -, rfl⟩ := Sources.mem_lines_iff.mp hline
  refine ⟨by simp [Line.chain], fun j hj => ?_⟩
  rw [Line.chain, List.nil_append, List.mem_singleton] at hj
  exact hj ▸ Sources.lt_of_contents? hcontents

end Scan

/-- The lines that a directive asks for stand on a chain without repetition, because
their file is not on the chain of the directive. -/
lemma Yields.chained {line : Line} {s t : Progress} {left nested : List Line}
    (h : Yields tree base line.ancestry line s left nested t) (hnodup : line.chain.Nodup)
    (hloaded : ∀ id ∈ line.chain, id < s.sources.files.length) :
    ∀ l ∈ nested.map (Line.under line.chain),
      l.chain.Nodup ∧ ∀ id ∈ l.chain, id < t.sources.files.length := by
  cases h with
  | cycle | missing | header | entry | missingEntry | body => simp
  | @directive space rest id sources asks acyclic opens =>
      intro l hl
      obtain ⟨raw, hraw, rfl⟩ := List.mem_map.mp hl
      obtain ⟨source, hsource, rfl⟩ := List.mem_map.mp hraw
      obtain ⟨contents, n, text, hcontents, -, rfl⟩ := Sources.mem_lines_iff.mp hsource
      have hfresh : id ∉ line.chain := by
        cases opens with
        | loaded first => exact acyclic id first
        | fresh => exact fun hmem => lt_irrefl _ (hloaded _ hmem)
      refine ⟨List.nodup_append.mpr ⟨hnodup, by simp, ?_⟩, fun j hj => ?_⟩
      · intro j hj k hk
        rw [List.mem_singleton.mp hk]
        rintro rfl
        exact hfresh hj
      · rcases List.mem_append.mp hj with hj | hj
        · exact lt_of_lt_of_le (hloaded j hj) opens.prefix_files.length_le
        · rw [List.mem_singleton.mp hj]
          exact Sources.lt_of_contents? hcontents

namespace Scan

lemma Chained.step {s s' : Scan} (h : s.Chained) (hstems : s.Stems)
    (hstep : s.step? tree base = some s') : s'.Chained := by
  obtain ⟨line, rest, left, nested, t, hpending, -, hyields, rfl⟩ := hstems.exists_yields hstep
  intro l hl
  rcases List.mem_append.mp hl with hl | hl
  · obtain ⟨hnodup, hloaded⟩ := h line (by simp [hpending])
    exact hyields.chained hnodup hloaded l hl
  · obtain ⟨hnodup, hloaded⟩ := h l (by simp [hpending, hl])
    refine ⟨hnodup, fun id hid => ?_⟩
    exact lt_of_lt_of_le (hloaded id hid) hyields.prefix_files.length_le

/-- No file occurs twice on the chain of a line before the scan, at any moment. -/
theorem chained_run {s : Scan} (hstems : s.Stems) (h : s.Chained) (n : Nat) :
    (run tree base n s).Chained :=
  (run_induction (P := fun s => s.Stems ∧ s.Chained)
    (fun _ _ h hstep => ⟨h.1.step hstep, h.2.step h.1 hstep⟩) n ⟨hstems, h⟩).2

end Scan

end TweeStory
