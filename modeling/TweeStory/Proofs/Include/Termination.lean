/-
Every scan ends.

* `Scan.rank`: the paths that a line may still follow;
* `Scan.potential`: a number for the lines before the scan, by their ranks;
* `potential_lt_of_step?`: every step lowers it;
* `potential_le_fuel`: the number of steps that a scan is given is enough.

A line before the scan may follow the paths of directives that lead to no file on its
chain.  A directive is replaced by lines that may follow one path less, because its
file is on their chains; and there are at most as many of them as a file has lines.  So
the weight of a line is a power of a number larger than that, the exponent being the
number of the paths that it may follow.
-/
import TweeStory.Proofs.Include.Provenance

namespace TweeStory.Scan

open Text

variable {tree : FileTree} {base : Path} {paths : List Path} {longest : Nat}

/-! ### Counting -/

/-- A predicate that gives up a member of a list holds of fewer members. -/
lemma countP_lt_countP {α : Type} {p q : α → Bool} {l : List α} (h : ∀ x ∈ l, p x → q x)
    {x : α} (hx : x ∈ l) (hq : q x) (hp : ¬p x) : l.countP p < l.countP q := by
  obtain ⟨before, after, rfl⟩ := List.append_of_mem hx
  have hbefore : before.countP p ≤ before.countP q :=
    List.countP_mono_left fun y hy => h y (by simp [hy])
  have hafter : after.countP p ≤ after.countP q :=
    List.countP_mono_left fun y hy => h y (by simp [hy])
  rw [List.countP_append, List.countP_append, List.countP_cons_of_pos hq,
    List.countP_cons_of_neg hp]
  omega

lemma le_foldr_max {n : Nat} {l : List Nat} (h : n ∈ l) : n ≤ l.foldr max 0 := by
  induction l with
  | nil => cases h
  | cons m l ih =>
      rw [List.foldr_cons]
      rcases List.mem_cons.mp h with rfl | h
      · exact Nat.le_max_left _ _
      · exact le_trans (ih h) (Nat.le_max_right _ _)

/-! ### What a scan can reach -/

/-- The text has at most `longest` lines, and its directives lead to `paths`. -/
structure Fits (base : Path) (paths : List Path) (longest : Nat) (t : Text) : Prop where
  length_le : t.fullLines.length ≤ longest
  target_mem : ∀ line ∈ t.fullLines, ∀ d, IncludeDirective.parse? line.chomp = some d →
    base.join d.target ∈ paths

/-- The texts that are on disk and those that are loaded fit. -/
structure Confined (tree : FileTree) (base : Path) (paths : List Path) (longest : Nat)
    (sources : Sources) : Prop where
  texts : ∀ t ∈ texts tree, Fits base paths longest t
  files : ∀ file ∈ sources.files, Fits base paths longest file.contents

lemma mem_texts_of_read {path : Path} {contents : Text} (h : tree.read path = .ok contents) :
    contents ∈ texts tree := by
  rw [FileTree.read] at h
  split at h
  · cases h
  · rename_i loc _
    split at h
    · rename_i found
      cases h
      rw [FileTree.at?] at found
      split at found
      · cases found
      · obtain ⟨entry, hentry, heq⟩ := Option.map_eq_some_iff.mp found
        exact List.mem_filterMap.mpr ⟨entry, List.mem_of_find?_eq_some hentry, by simp [heq]⟩
    · cases h
    · cases h

lemma Confined.of_opens {sources sources' : Sources} {path : Path} {id : Nat}
    (h : Confined tree base paths longest sources) (ho : sources.Opens tree path id sources') :
    Confined tree base paths longest sources' := by
  cases ho with
  | loaded => exact h
  | fresh lacks hread =>
      refine ⟨h.texts, fun file hfile => ?_⟩
      rcases List.mem_append.mp hfile with hfile | hfile
      · exact h.files file hfile
      · rw [List.mem_singleton.mp hfile]
        exact h.texts _ (mem_texts_of_read hread)

lemma Confined.fits {sources : Sources} (h : Confined tree base paths longest sources) {id : Nat}
    {contents : Text} (hc : sources.contents? id = some contents) :
    Fits base paths longest contents := by
  obtain ⟨file, hfile, rfl⟩ := Option.map_eq_some_iff.mp hc
  exact h.files file (List.mem_of_getElem? hfile)

lemma Confined.length_lines_le {sources : Sources} (h : Confined tree base paths longest sources)
    (id : Nat) : (sources.lines id).length ≤ longest := by
  rw [Sources.lines]
  cases hc : sources.contents? id with
  | none => exact Nat.zero_le _
  | some contents =>
      rw [Line.length_number]
      exact (h.fits hc).length_le

/-- White space in front of a line does not change where its directive leads. -/
lemma Confined.target_mem {sources : Sources} (h : Confined tree base paths longest sources)
    {line : Line} (hline : line.StemsFrom sources) {space rest : Text}
    (asks : line.text.Asks space rest) : base.join rest.trim ∈ paths := by
  have hparse := asks.parse?_chomp hline.isFullLine
  obtain ⟨contents, before, text, n, hcontents, htext, -, hbefore, -, heq⟩ := hline
  rw [heq, IncludeDirective.parse?_chomp_append hbefore] at hparse
  obtain ⟨d, hd, hdirective⟩ := Option.map_eq_some_iff.mp hparse
  have htarget : d.target = rest.trim := congrArg IncludeDirective.target hdirective
  exact htarget ▸ (h.fits hcontents).target_mem text (List.mem_of_getElem? htext) d hd

/-! ### The potential -/

/-- The number of paths that lead to no file that the line stands in. -/
def rank (sources : Sources) (paths : List Path) (line : Line) : Nat :=
  paths.countP fun path => !isCycle sources line path

/-- The potential of lines: a power for each, the exponent being its rank. -/
def potential (paths : List Path) (longest : Nat) (sources : Sources) : List Line → Nat
  | [] => 0
  | line :: rest =>
    Nat.pow (longest + 1) (rank sources paths line) + potential paths longest sources rest

lemma potential_append (sources : Sources) (lines rest : List Line) :
    potential paths longest sources (lines ++ rest) =
      potential paths longest sources lines + potential paths longest sources rest := by
  induction lines with
  | nil => simp [potential]
  | cons line lines ih => simp [potential, ih, Nat.add_assoc]

lemma potential_le_of_rank_le {sources : Sources} {r : Nat} {lines : List Line}
    (h : ∀ line ∈ lines, rank sources paths line ≤ r) :
    potential paths longest sources lines ≤ lines.length * Nat.pow (longest + 1) r := by
  induction lines with
  | nil => simp [potential]
  | cons line lines ih =>
      have hfirst : Nat.pow (longest + 1) (rank sources paths line) ≤ Nat.pow (longest + 1) r :=
        Nat.pow_le_pow_right (Nat.succ_pos longest) (h line (by simp))
      have hrest := ih fun l hl => h l (by simp [hl])
      rw [potential, List.length_cons, Nat.succ_mul]
      omega

/-- What a path leads to does not change when more sources are loaded, so no line has
more paths to follow than before. -/
lemma rank_le_of_isPrefix {sources sources' : Sources} (hs : sources.files <+: sources'.files)
    (line : Line) : rank sources' paths line ≤ rank sources paths line := by
  refine List.countP_mono_left fun path _ hopen => ?_
  rw [Bool.not_eq_true', isCycle_eq_false_iff] at hopen ⊢
  exact fun id first => hopen id (first.of_isPrefix hs)

lemma potential_le_of_isPrefix (paths : List Path) (longest : Nat) {sources sources' : Sources}
    (hs : sources.files <+: sources'.files) (lines : List Line) :
    potential paths longest sources' lines ≤ potential paths longest sources lines := by
  induction lines with
  | nil => exact le_rfl
  | cons line lines ih =>
      exact Nat.add_le_add
        (Nat.pow_le_pow_right (Nat.succ_pos longest) (rank_le_of_isPrefix hs line)) ih

/-- The lines that a directive asks for have a path less to follow than the directive. -/
lemma rank_under_lt {sources sources' : Sources} {path : Path} {id : Nat} {line l : Line}
    (hpath : path ∈ paths) (acyclic : ∀ j, sources.IsFirst path j → j ∉ line.chain)
    (opens : sources.Opens tree path id sources') (hid : l.origin.file = id)
    (hunder : l.ancestry = line.chain) :
    rank sources' paths l < rank sources paths line := by
  have hchain : l.chain = line.chain ++ [id] := by rw [Line.chain, hid, hunder]
  have hclosed : isCycle sources' l path = true :=
    isCycle_eq_true_iff.mpr ⟨id, opens.isFirst, by simp [hchain]⟩
  have hopen : isCycle sources line path = false := isCycle_eq_false_iff.mpr acyclic
  refine countP_lt_countP (fun p _ hp => ?_) hpath (by simp [hopen]) (by simp [hclosed])
  rw [Bool.not_eq_true', isCycle_eq_false_iff, hchain] at hp
  rw [Bool.not_eq_true', isCycle_eq_false_iff]
  intro j first mem
  exact hp j (first.of_isPrefix opens.prefix_files) (List.mem_append_left _ mem)

/-- The lines that a rule has expanded weigh less than the line that it is about. -/
lemma potential_nested_lt {line : Line} {s t : Progress} {left nested : List Line}
    (hconf : Confined tree base paths longest s.sources) (hline : line.StemsFrom s.sources)
    (h : Yields tree base line.ancestry line s left nested t) :
    potential paths longest t.sources (nested.map (Line.under line.chain)) <
      Nat.pow (longest + 1) (rank s.sources paths line) := by
  cases h with
  | cycle | missing | header | entry | missingEntry | body =>
      exact Nat.pow_pos (Nat.succ_pos longest)
  | @directive space rest id sources asks acyclic opens =>
      have hlt : ∀ l ∈ ((sources.lines id).map fun l => { l with text := space ++ l.text }).map
          (Line.under line.chain), rank sources paths l < rank s.sources paths line := by
        intro l hl
        obtain ⟨raw, hraw, rfl⟩ := List.mem_map.mp hl
        obtain ⟨source, hsource, rfl⟩ := List.mem_map.mp hraw
        obtain ⟨contents, n, text, -, -, rfl⟩ := Sources.mem_lines_iff.mp hsource
        exact rank_under_lt (hconf.target_mem hline asks) acyclic opens rfl rfl
      have hcount := (hconf.of_opens opens).length_lines_le id
      cases hrank : rank s.sources paths line with
      | zero =>
          have hnil : sources.lines id = [] := List.eq_nil_iff_forall_not_mem.mpr fun l hl => by
            have hl := hlt _ (List.mem_map_of_mem (List.mem_map_of_mem hl))
            omega
          rw [hnil]
          exact Nat.one_pos
      | succ r =>
          have hrest : ∀ l ∈ ((sources.lines id).map fun l =>
              { l with text := space ++ l.text }).map (Line.under line.chain),
              rank sources paths l ≤ r := fun l hl =>
            Nat.le_of_lt_succ (lt_of_lt_of_eq (hlt l hl) hrank)
          have hle : potential paths longest sources _ ≤ _ := potential_le_of_rank_le hrest
          rw [List.length_map, List.length_map] at hle
          calc potential paths longest sources _
              ≤ (sources.lines id).length * Nat.pow (longest + 1) r := hle
            _ ≤ longest * Nat.pow (longest + 1) r := Nat.mul_le_mul_right _ hcount
            _ < (longest + 1) * Nat.pow (longest + 1) r :=
                Nat.mul_lt_mul_of_pos_right (Nat.lt_succ_self longest)
                  (Nat.pow_pos (Nat.succ_pos longest))
            _ = Nat.pow (longest + 1) (r + 1) := (Nat.pow_succ' ..).symm

/-- **The potential**: every step lowers it. -/
theorem potential_lt_of_step? {s s' : Scan} (hstems : s.Stems)
    (hconf : Confined tree base paths longest s.sources)
    (hstep : s.step? tree base = some s') :
    potential paths longest s'.sources s'.pending <
      potential paths longest s.sources s.pending := by
  obtain ⟨line, rest, left, nested, t, hpending, hline, hyields, rfl⟩ := hstems.exists_yields hstep
  have hnested := potential_nested_lt hconf hline hyields
  have hrest := potential_le_of_isPrefix paths longest hyields.prefix_files rest
  rw [pending_scan, sources_scan, potential_append, hpending, potential]
  exact Nat.add_lt_add_of_lt_of_le hnested hrest

lemma Confined.step {s s' : Scan} (h : Confined tree base paths longest s.sources)
    (hstems : s.Stems) (hstep : s.step? tree base = some s') :
    Confined tree base paths longest s'.sources := by
  obtain ⟨line, rest, left, nested, t, -, -, hyields, rfl⟩ := hstems.exists_yields hstep
  cases hyields with
  | directive asks acyclic opens => exact h.of_opens opens
  | entry plain parses listed solid opens => exact h.of_opens opens
  | cycle | missing | header | missingEntry | body => exact h

/-- A scan has ended after as many steps as its potential. -/
lemma pending_run_eq_nil {s : Scan} (hstems : s.Stems)
    (hconf : Confined tree base paths longest s.sources) {n : Nat}
    (hn : potential paths longest s.sources s.pending ≤ n) :
    (run tree base n s).pending = [] := by
  induction n generalizing s with
  | zero =>
      cases hpending : s.pending with
      | nil => exact hpending
      | cons line rest =>
          have hpos : 0 < Nat.pow (longest + 1) (rank s.sources paths line) :=
            Nat.pow_pos (Nat.succ_pos longest)
          rw [hpending, potential] at hn
          omega
  | succ n ih =>
      rw [run]
      cases hs : s.step? tree base with
      | none => exact hstems.pending_eq_nil hs
      | some s' =>
          have hlt := potential_lt_of_step? hstems hconf hs
          exact ih (hstems.step hs) (hconf.step hstems hs) (by omega)

/-! ### The steps of a scan -/

/-- The texts that a scan can read. -/
def readable (tree : FileTree) (s : Scan) : List Text :=
  texts tree ++ s.sources.files.map (·.contents)

/-- The paths that the directives of a scan can lead to. -/
def targets (tree : FileTree) (base : Path) (s : Scan) : List Path :=
  (s.pending.map (·.text) ++ ((readable tree s).map fullLines).flatten).filterMap fun line =>
    (IncludeDirective.parse? line.chomp).map fun d => base.join d.target

/-- The number of lines of the longest text that a scan can read. -/
def maxLines (tree : FileTree) (s : Scan) : Nat :=
  (((readable tree s).map fullLines).map List.length).foldr max 0

lemma fits_of_mem_readable {s : Scan} {t : Text} (h : t ∈ readable tree s) :
    Fits base (targets tree base s) (maxLines tree s) t := by
  have hlines : t.fullLines ∈ (readable tree s).map fullLines := List.mem_map_of_mem h
  refine ⟨le_foldr_max (List.mem_map_of_mem hlines), fun line hline d hd => ?_⟩
  refine List.mem_filterMap.mpr ⟨line, List.mem_append_right _ ?_, by simp [hd]⟩
  exact List.mem_flatten_of_mem hlines hline

lemma confined (tree : FileTree) (base : Path) (s : Scan) :
    Confined tree base (targets tree base s) (maxLines tree s) s.sources where
  texts _ ht := fits_of_mem_readable (List.mem_append_left _ ht)
  files _ hfile := fits_of_mem_readable (List.mem_append_right _ (List.mem_map_of_mem hfile))

/-- The number of steps that a scan is given is no smaller than its potential. -/
lemma potential_le_fuel (tree : FileTree) (base : Path) (s : Scan) :
    potential (targets tree base s) (maxLines tree s) s.sources s.pending ≤ fuel tree s := by
  have hrank : ∀ line ∈ s.pending,
      rank s.sources (targets tree base s) line ≤ (targets tree base s).length :=
    fun _ _ => List.countP_le_length
  have hcount : (targets tree base s).length =
      (s.pending.map (·.text) ++ ((readable tree s).map fullLines).flatten).countP isDirective := by
    rw [targets, List.length_filterMap_eq_countP]
    refine List.countP_congr fun line _ => ?_
    rw [Option.isSome_map]
    rfl
  refine le_trans (potential_le_of_rank_le hrank) (le_of_eq ?_)
  rw [hcount]
  rfl

/-- The scan over the lines of a source after the steps that it is given. -/
def finish (tree : FileTree) (base : Path) (sources : Sources) (root : Nat) : Scan :=
  run tree base ((start sources root).fuel tree) (start sources root)

lemma pending_finish (tree : FileTree) (base : Path) (sources : Sources) (root : Nat) :
    (finish tree base sources root).pending = [] :=
  pending_run_eq_nil (stems_start sources root) (confined tree base _)
    (potential_le_fuel tree base _)

lemma resolveIncludes_eq_finish (tree : FileTree) (base : Path) (sources : Sources)
    (root : Nat) :
    resolveIncludes tree base sources (sources.lines root) =
      ⟨(finish tree base sources root).done.reverse, (finish tree base sources root).sources,
        (finish tree base sources root).warnings⟩ := by
  have hresult : (finish tree base sources root).result =
      (finish tree base sources root).done.reverse := by
    rw [result, pending_finish, List.append_nil]
  exact congrArg (Expansion.mk · _ _) hresult

/-- A scan cannot take more steps than its potential. -/
lemma not_forall_step? {states : Nat → Scan} (hstems : (states 0).Stems) :
    ¬∀ n, (states n).step? tree base = some (states (n + 1)) := by
  intro hsteps
  -- each state has lost at least one unit of potential against the one before
  have hfall : ∀ n, (states n).Stems ∧
      Confined tree base (targets tree base (states 0)) (maxLines tree (states 0))
        (states n).sources ∧
      potential (targets tree base (states 0)) (maxLines tree (states 0)) (states n).sources
          (states n).pending + n ≤ (states 0).fuel tree := by
    intro n
    induction n with
    | zero => exact ⟨hstems, confined tree base _, potential_le_fuel tree base _⟩
    | succ n ih =>
        obtain ⟨hs, hconf, hle⟩ := ih
        have hlt := potential_lt_of_step? hs hconf (hsteps n)
        exact ⟨hs.step (hsteps n), hconf.step hs (hsteps n), by omega⟩
  have hlast := (hfall ((states 0).fuel tree + 1)).2.2
  omega

/-- **Every scan ends.**  Over the lines of a source no scan takes steps forever, and the
steps that `resolveIncludes` takes leave no line before the scan.  At every moment the
chain of a line before the scan is free of repetition, and its files are loaded. -/
theorem scan_ends (tree : FileTree) (base : Path) (sources : Sources) (root : Nat) :
    (¬∃ states : Nat → Scan, states 0 = start sources root ∧
        ∀ n, (states n).step? tree base = some (states (n + 1))) ∧
      (finish tree base sources root).pending = [] ∧
      resolveIncludes tree base sources (sources.lines root) =
        ⟨(finish tree base sources root).done.reverse,
          (finish tree base sources root).sources, (finish tree base sources root).warnings⟩ ∧
      ∀ n, (run tree base n (start sources root)).Chained := by
  have hstems := stems_start sources root
  refine ⟨?_, pending_finish tree base sources root,
    resolveIncludes_eq_finish tree base sources root,
    fun n => chained_run hstems (chained_start sources root) n⟩
  rintro ⟨states, hzero, hsteps⟩
  exact not_forall_step? (hzero ▸ hstems) hsteps

end TweeStory.Scan
