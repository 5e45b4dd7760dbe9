/-
What the directories of a file tree list, and where paths that go on from one of them lead.

* `mem_list_iff`: the names that a directory lists are those of the entries in it;
* `step_iff`, `locate_join_iff`: a path that goes on with a name leads into the directory;
* `IsRelisting`: a tree with the same files that lists its directories in another order;
* `isRelisting_of_perm`: the entries in another order give such a tree.
-/
import Mathlib.Data.List.Nodup
import TweeStory.Proofs.FileTree
import TweeStory.Proofs.Text.Pieces

namespace TweeStory

open Text

/-! ### Joined paths -/

variable {p : Path} {name : Text}

lemma Path.text_join (hname : '/' ∉ name) (hp : p.text ≠ []) :
    (p.join name).text = p.text ++ '/' :: name ∨
      (∃ before, p.text = before ++ ['/']) ∧ (p.join name).text = p.text ++ name := by
  have hrelative : Text.beginsWith name ['/'] = false := by
    rw [Bool.eq_false_iff, Ne, beginsWith_iff]
    rintro ⟨rest, rfl⟩
    exact hname List.mem_cons_self
  rw [join, hrelative, if_neg Bool.false_ne_true]
  split_ifs with hslash
  · right
    rw [Bool.or_eq_true, decide_eq_true_iff, or_iff_right hp] at hslash
    obtain ⟨before, hbefore⟩ := Option.isSome_iff_exists.mp hslash
    exact ⟨⟨before, beforeEnd?_eq_some_iff.mp hbefore⟩, rfl⟩
  · exact Or.inl rfl

/-- What is joined to a path stands behind it. -/
lemma Path.exists_text_join (hname : '/' ∉ name) (hp : p.text ≠ []) :
    ∃ rest, (p.join name).text = p.text ++ rest := by
  rcases Path.text_join hname hp with h | ⟨-, h⟩
  · exact ⟨_, h⟩
  · exact ⟨_, h⟩

namespace FileTree

variable {tree later : FileTree} {loc l : Location}

lemma isWellFormed_of_join (hname : '/' ∉ name) (hp : p.text ≠ [])
    (h : isWellFormed (p.join name)) : isWellFormed p := by
  obtain ⟨rest, hrest⟩ := Path.exists_text_join hname hp
  simp only [isWellFormed, hrest, List.contains_eq_mem, List.mem_append, utf8Length_append,
    Bool.and_eq_true, Bool.not_eq_true', decide_eq_false_iff_not, not_or,
    decide_eq_true_iff] at h ⊢
  exact ⟨h.1.1, by omega⟩

lemma origin_join (hname : '/' ∉ name) (hp : p.text ≠ []) :
    tree.origin (p.join name) = tree.origin p := by
  obtain ⟨rest, hrest⟩ := Path.exists_text_join hname hp
  obtain ⟨c, t, htext⟩ := List.exists_cons_of_ne_nil hp
  have hbegins : Text.beginsWith (c :: t ++ rest) ['/'] = Text.beginsWith (c :: t) ['/'] := by
    simp only [beginsWith, List.cons_append, after?]
    split <;> rfl
  rw [origin, origin, hrest, htext, hbegins]

/-! ### Names in a directory -/

/-- Something stands at a location exactly if there is an entry for it. -/
lemma isSome_at?_concat_iff : (tree.at? (loc ++ [name])).isSome ↔
    ∃ entry ∈ tree.entries, entry.1 = loc ++ [name] := by
  rw [at?, if_neg (by simp), Option.isSome_map, List.find?_isSome]
  simp

lemma mem_names_iff : name ∈ tree.names loc ↔ (tree.at? (loc ++ [name])).isSome := by
  rw [names, List.mem_filterMap, isSome_at?_concat_iff]
  constructor
  · rintro ⟨entry, hentry, h⟩
    split at h
    · split_ifs at h with heq
      obtain rfl := Option.some.inj h
      exact ⟨entry, hentry, heq⟩
    · cases h
  · rintro ⟨entry, hentry, heq⟩
    exact ⟨entry, hentry, by simp [heq]⟩

/-- The names that a directory lists are those of the entries in it. -/
lemma mem_list_iff : name ∈ tree.list p ↔ ∃ loc, tree.locate p = .ok loc ∧
    tree.at? loc = some .directory ∧ (tree.at? (loc ++ [name])).isSome := by
  rw [list]
  cases tree.locate p with
  | error e => simp
  | ok loc =>
      by_cases hdir : tree.at? loc = some .directory
      · simp [hdir, mem_names_iff]
      · simp [hdir]

/-- What is no directory lists no names. -/
lemma list_eq_nil (h : tree.isDirectory p = false) : tree.list p = [] := by
  rw [isDirectory, find?] at h
  rw [list]
  cases hlocate : tree.locate p with
  | error e => rfl
  | ok loc =>
      rw [hlocate] at h
      exact if_neg (of_decide_eq_false h)

/-! ### Walks into a directory -/

lemma Step.directory {piece : Text} (h : tree.Step loc piece l) :
    tree.at? loc = some .directory := by
  cases h with
  | stay hdir => exact hdir
  | up hdir => exact hdir
  | down hdir => exact hdir

/-- A name leads from a directory to what stands under the name. -/
lemma step_iff (hname : IsEntryName name) : tree.Step loc name l ↔
    tree.at? loc = some .directory ∧ (tree.at? (loc ++ [name])).isSome ∧ l = loc ++ [name] := by
  constructor
  · intro h
    cases h with
    | stay _ hpiece => exact absurd hpiece (not_or.mpr ⟨hname.ne_nil, hname.ne_here⟩)
    | up => exact absurd rfl hname.ne_up
    | down hdir _ hthere => exact ⟨hdir, hthere, rfl⟩
  · rintro ⟨hdir, hthere, rfl⟩
    exact .down hdir hname hthere

lemma walk_singleton_eq_ok_iff : tree.walk loc [name] = .ok l ↔ tree.Step loc name l := by
  rw [walk_cons_eq_ok_iff]
  constructor
  · rintro ⟨next, hstep, hnext⟩
    exact Except.ok.inj hnext ▸ hstep
  · exact fun hstep => ⟨l, hstep, rfl⟩

/-- A slash at the end of a path needs a directory in front of it. -/
lemma walk_concat_nil_eq_ok_iff {ps : List Text} : tree.walk loc (ps ++ [[]]) = .ok l ↔
    tree.walk loc ps = .ok l ∧ tree.at? l = some .directory := by
  rw [walk_append_eq_ok_iff]
  simp only [walk_singleton_eq_ok_iff]
  constructor
  · rintro ⟨between, hwalk, hstep⟩
    cases hstep with
    | stay hdir => exact ⟨hwalk, hdir⟩
    | down _ hname => exact absurd rfl hname.ne_nil
  · rintro ⟨hwalk, hdir⟩
    exact ⟨l, hwalk, .stay hdir (Or.inl rfl)⟩

lemma walk_join_eq_ok_iff (hname : '/' ∉ name) (hp : p.text ≠ []) {start : Location} :
    tree.walk start ((p.join name).text.pieces (· == '/')) = .ok l ↔
      ∃ loc, tree.walk start (p.text.pieces (· == '/')) = .ok loc ∧ tree.Step loc name l := by
  have hsingle : name.pieces (· == '/') = [name] :=
    pieces_eq_singleton fun c hc => beq_false_of_ne fun heq => hname (heq ▸ hc)
  rcases Path.text_join hname hp with htext | ⟨⟨before, hbefore⟩, htext⟩
  · rw [htext, pieces_append_cons p.text rfl, hsingle, walk_append_eq_ok_iff]
    simp only [walk_singleton_eq_ok_iff]
  · -- the empty piece behind the last slash is replaced by the name
    have hjoined : before ++ ['/'] ++ name = before ++ '/' :: name := by simp
    rw [htext, hbefore, hjoined, pieces_append_cons before rfl, hsingle, walk_append_eq_ok_iff,
      pieces_append_cons before rfl]
    simp only [walk_singleton_eq_ok_iff, walk_concat_nil_eq_ok_iff,
      show Text.pieces (· == '/') [] = [[]] from rfl]
    constructor
    · rintro ⟨between, hwalk, hstep⟩
      exact ⟨between, ⟨hwalk, hstep.directory⟩, hstep⟩
    · rintro ⟨between, ⟨hwalk, -⟩, hstep⟩
      exact ⟨between, hwalk, hstep⟩

lemma locate_eq_ok_iff : tree.locate p = .ok l ↔ isWellFormed p ∧ p.text ≠ [] ∧
    tree.walk (tree.origin p) (p.text.pieces (· == '/')) = .ok l := by
  constructor
  · exact walk_of_locate
  · rintro ⟨hformed, hnil, hwalk⟩
    rw [locate, hformed, if_neg (by simp), if_neg hnil, hwalk]

/-- **A path that goes on with a name** leads from where it led before to what stands there under
the name. -/
lemma locate_join_iff (hname : '/' ∉ name) (hp : p.text ≠ [])
    (hformed : isWellFormed (p.join name)) : tree.locate (p.join name) = .ok l ↔
      ∃ loc, tree.locate p = .ok loc ∧ tree.Step loc name l := by
  obtain ⟨rest, hrest⟩ := Path.exists_text_join hname hp
  have hnil : (p.join name).text ≠ [] := by simp [hrest, hp]
  simp only [locate_eq_ok_iff, hformed, isWellFormed_of_join hname hp hformed, hp, hnil,
    origin_join hname hp, walk_join_eq_ok_iff hname hp, ne_eq, not_false_eq_true, true_and]

/-- A path leads to a file exactly if it leads to a location with one. -/
lemma isFile_iff : tree.isFile p ↔ ∃ loc, tree.locate p = .ok loc ∧ (tree.file? loc).isSome := by
  rw [isFile, find?]
  cases tree.locate p with
  | error e => simp
  | ok loc =>
      simp only [Except.ok.injEq, exists_eq_left', file?]
      cases tree.at? loc with
      | none => simp
      | some entry => cases entry <;> simp [Option.filter]

/-! ### Other orders -/

/-- The later tree has the same files, and its directories list the same names in some order. -/
structure IsRelisting (tree later : FileTree) : Prop where
  list : ∀ p, (later.list p).Perm (tree.list p)
  isFile : ∀ p, later.isFile p = tree.isFile p

lemma find?_eq_some_iff {entries : List (Location × Entry)} (h : (entries.map Prod.fst).Nodup)
    {entry : Location × Entry} :
    (entries.find? fun other => other.1 = loc) = some entry ↔ entry ∈ entries ∧ entry.1 = loc := by
  constructor
  · intro hfind
    exact ⟨List.mem_of_find?_eq_some hfind, by simpa using List.find?_some hfind⟩
  · rintro ⟨hmem, rfl⟩
    cases hfind : entries.find? fun other => other.1 = entry.1 with
    | none => simpa using List.find?_eq_none.mp hfind entry hmem
    | some other =>
        have hloc : other.1 = entry.1 := by simpa using List.find?_some hfind
        exact congrArg some
          (List.inj_on_of_nodup_map h (List.mem_of_find?_eq_some hfind) hmem hloc)

lemma walk_congr (h : ∀ loc, later.at? loc = tree.at? loc) (loc : Location) (ps : List Text) :
    later.walk loc ps = tree.walk loc ps := by
  induction ps generalizing loc with
  | nil => rfl
  | cons piece ps ih => simp only [walk, h, ih]

/-- **The entries of a tree in another order** give a tree that is listed in another order. -/
theorem isRelisting_of_perm (hentries : later.entries.Perm tree.entries)
    (hnodup : (tree.entries.map Prod.fst).Nodup) (hhere : later.here = tree.here) :
    tree.IsRelisting later := by
  have hnodup' : (later.entries.map Prod.fst).Nodup := (hentries.map _).nodup_iff.mpr hnodup
  have hat (loc : Location) : later.at? loc = tree.at? loc := by
    have hfind : (later.entries.find? fun entry => entry.1 = loc) =
        tree.entries.find? fun entry => entry.1 = loc :=
      Option.ext fun entry => by
        rw [find?_eq_some_iff hnodup', find?_eq_some_iff hnodup, hentries.mem_iff]
    rw [at?, at?, hfind]
  have hlocate (p : Path) : later.locate p = tree.locate p := by
    have horigin : later.origin p = tree.origin p := by rw [origin, origin, hhere]
    rw [locate, locate, horigin, walk_congr hat]
  refine ⟨fun p => ?_, fun p => by simp only [isFile, find?, hlocate, hat]⟩
  rw [list, list, hlocate]
  cases tree.locate p with
  | error e => exact List.Perm.refl _
  | ok loc =>
      simp only [hat]
      split_ifs
      · exact hentries.filterMap _
      · exact List.Perm.refl _

end FileTree

end TweeStory
