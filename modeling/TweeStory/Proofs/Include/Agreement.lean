/-
The scan gives the lines of the recursive expansion.

* `Scan.run_of_expands`: what lines come to, the scan comes to;
* `Scan.exists_expands`: what the scan comes to, the lines come to;
* `resolveIncludes_of_expands`, `expands_resolveIncludes`: both for the lines of a source;
* `resolveIncludes_eq_iff`: the scan over the lines of a source and their recursive
  expansion are the same.

Both directions speak of lines with others behind them: the scan puts the lines of a
file before the rest of the lines, and comes back to the rest when it has looked at
the lines of the file.
-/
import TweeStory.Proofs.Include.Termination

namespace TweeStory

variable {tree : FileTree} {base : Path}

namespace Scan

/-- The scan over lines under a chain, with other lines behind them, comes to those
other lines with what the lines come to behind it. -/
lemma run_of_expands {chain : List Nat} {lines out : List Line} {s t : Progress}
    (h : Expands tree base chain lines s out t) (done rest : List Line)
    (hstems : (s.scan done (lines.map (Line.under chain) ++ rest)).Stems) :
    ∃ k, ∀ m, run tree base (k + m) (s.scan done (lines.map (Line.under chain) ++ rest)) =
      run tree base m (t.scan (out.reverse ++ done) rest) := by
  induction h generalizing done rest with
  | nil => exact ⟨0, fun m => by rw [Nat.zero_add]; rfl⟩
  | @cons chain line tail left nested inner outer s s₁ s₂ s₃ first _ _ ihdeep ihlater =>
      have hfull : line.text.IsFullLine := hstems.isFullLine (line.under chain) (by simp)
      have hstep := step?_under hfull first done (tail.map (Line.under chain) ++ rest)
      have hstems₁ := hstems.step hstep
      obtain ⟨k₁, hk₁⟩ := ihdeep _ _ hstems₁
      have hstems₂ : (run tree base (k₁ + 0) _).Stems := stems_run hstems₁ (k₁ + 0)
      rw [hk₁ 0] at hstems₂
      obtain ⟨k₂, hk₂⟩ := ihlater _ _ hstems₂
      refine ⟨k₁ + k₂ + 1, fun m => ?_⟩
      rw [show k₁ + k₂ + 1 + m = (k₁ + (k₂ + m)) + 1 by omega]
      rw [List.map_cons, List.cons_append, run_of_step? hstep, hk₁, hk₂]
      simp

/-- A scan over lines under a chain, with other lines behind them, that ends comes to
those other lines with what the lines come to behind it.  The induction is on the
number of steps: a line takes one of them, and leaves fewer to the lines of its file
and to those behind it. -/
lemma exists_expands (n : Nat) {chain : List Nat} {lines : List Line} {s : Progress}
    (done rest : List Line)
    (hstems : (s.scan done (lines.map (Line.under chain) ++ rest)).Stems)
    (hend : (run tree base n
      (s.scan done (lines.map (Line.under chain) ++ rest))).pending = []) :
    ∃ out t m, m ≤ n ∧ Expands tree base chain lines s out t ∧
      (t.scan (out.reverse ++ done) rest).Stems ∧
      run tree base n (s.scan done (lines.map (Line.under chain) ++ rest)) =
        run tree base m (t.scan (out.reverse ++ done) rest) := by
  induction n using Nat.strong_induction_on generalizing chain lines s done rest with
  | _ n ih =>
      cases lines with
      | nil => exact ⟨[], s, n, le_rfl, .nil, hstems, rfl⟩
      | cons line tail =>
          cases n with
          | zero => simp [run] at hend
          | succ n =>
              have hfull : line.text.IsFullLine := hstems.isFullLine (line.under chain) (by simp)
              obtain ⟨left, nested, s₁, first⟩ := exists_yields tree base chain hfull s
              have hstep := step?_under hfull first done (tail.map (Line.under chain) ++ rest)
              rw [List.map_cons, List.cons_append] at hstems hend ⊢
              rw [run_of_step? hstep] at hend ⊢
              obtain ⟨inner, s₂, m₁, hm₁, deep, hstems₂, hrun₁⟩ :=
                ih n (Nat.lt_succ_self n) _ _ (hstems.step hstep) hend
              rw [hrun₁] at hend ⊢
              obtain ⟨outer, s₃, m₂, hm₂, later, hstems₃, hrun₂⟩ :=
                ih m₁ (Nat.lt_succ_of_le hm₁) _ _ hstems₂ hend
              refine ⟨left ++ inner ++ outer, s₃, m₂, by omega, .cons first deep later, ?_⟩
              simpa using And.intro hstems₃ hrun₂

end Scan

/-! ### The lines of a source -/

/-- The lines of a source have no chain. -/
lemma Sources.map_under_lines (sources : Sources) (id : Nat) :
    (sources.lines id).map (Line.under []) = sources.lines id := by
  refine (List.map_congr_left fun line hline => ?_).trans (List.map_id _)
  obtain ⟨contents, n, text, -, -, rfl⟩ := Sources.mem_lines_iff.mp hline
  rfl

/-- The expansion of the lines of a source, and the scan at its end. -/
lemma exists_expands_lines (tree : FileTree) (base : Path) (sources : Sources) (root : Nat) :
    ∃ out t, Expands tree base [] (sources.lines root) ⟨false, sources, []⟩ out t ∧
      Scan.finish tree base sources root = t.scan out.reverse [] := by
  have hlines : Scan.start sources root = Progress.scan ⟨false, sources, []⟩ []
      ((sources.lines root).map (Line.under []) ++ []) := by
    rw [Sources.map_under_lines, List.append_nil]
    rfl
  have hstems := Scan.stems_start sources root
  have hend := Scan.pending_finish tree base sources root
  rw [Scan.finish] at hend ⊢
  generalize (Scan.start sources root).fuel tree = n at hend ⊢
  rw [hlines] at hstems hend ⊢
  obtain ⟨out, t, m, -, hexpands, -, hrun⟩ := Scan.exists_expands n [] [] hstems hend
  refine ⟨out, t, hexpands, ?_⟩
  rw [hrun, Scan.run_of_pending_eq_nil tree base m rfl, List.append_nil]

/-- Lines come to one thing only, because the scan does. -/
lemma Expands.unique {sources : Sources} {root : Nat} {out out' : List Line} {t t' : Progress}
    (h : Expands tree base [] (sources.lines root) ⟨false, sources, []⟩ out t)
    (h' : Expands tree base [] (sources.lines root) ⟨false, sources, []⟩ out' t') :
    t.scan out.reverse [] = t'.scan out'.reverse [] := by
  have hstems : (Progress.scan ⟨false, sources, []⟩ []
      ((sources.lines root).map (Line.under []) ++ [])).Stems := by
    rw [Sources.map_under_lines, List.append_nil]
    exact Scan.stems_start sources root
  obtain ⟨k, hk⟩ := Scan.run_of_expands h [] [] hstems
  obtain ⟨k', hk'⟩ := Scan.run_of_expands h' [] [] hstems
  have hrun := (hk k').symm.trans (Nat.add_comm k k' ▸ hk' k)
  rw [Scan.run_of_pending_eq_nil tree base k' rfl, Scan.run_of_pending_eq_nil tree base k rfl,
    List.append_nil, List.append_nil] at hrun
  exact hrun

/-- What the lines of a source come to, the scan gives. -/
lemma resolveIncludes_of_expands {sources : Sources} {root : Nat} {out : List Line}
    {t : Progress}
    (h : Expands tree base [] (sources.lines root) ⟨false, sources, []⟩ out t) :
    resolveIncludes tree base sources (sources.lines root) = ⟨out, t.sources, t.warnings⟩ := by
  obtain ⟨out', t', hexpands, hfinish⟩ := exists_expands_lines tree base sources root
  rw [Scan.resolveIncludes_eq_finish, hfinish, hexpands.unique h]
  simp [Progress.scan]

/-- What the scan gives, the lines of the source come to. -/
lemma expands_resolveIncludes (tree : FileTree) (base : Path) (sources : Sources) (root : Nat) :
    ∃ t, Expands tree base [] (sources.lines root) ⟨false, sources, []⟩
        (resolveIncludes tree base sources (sources.lines root)).lines t ∧
      t.sources = (resolveIncludes tree base sources (sources.lines root)).sources ∧
      t.warnings = (resolveIncludes tree base sources (sources.lines root)).warnings := by
  obtain ⟨out, t, hexpands, -⟩ := exists_expands_lines tree base sources root
  rw [resolveIncludes_of_expands hexpands]
  exact ⟨t, hexpands, rfl, rfl⟩

/-- **The scan is the recursive expansion.**  The lines, the sources and the warnings
that `resolveIncludes` gives for a source are those that the lines of the source expand
to, outside the passage that lists files and under the empty chain. -/
theorem resolveIncludes_eq_iff (tree : FileTree) (base : Path) (sources : Sources) (root : Nat)
    (e : Expansion) :
    resolveIncludes tree base sources (sources.lines root) = e ↔
      ∃ inSection, Expands tree base [] (sources.lines root) ⟨false, sources, []⟩ e.lines
        ⟨inSection, e.sources, e.warnings⟩ := by
  constructor
  · rintro rfl
    obtain ⟨t, hexpands, hsources, hwarnings⟩ := expands_resolveIncludes tree base sources root
    exact ⟨t.inSection, hsources ▸ hwarnings ▸ hexpands⟩
  · rintro ⟨inSection, h⟩
    rw [resolveIncludes_of_expands h]

end TweeStory
