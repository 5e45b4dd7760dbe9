/-
Which lines are directives.

* `Text.Asks`: the grammar of directives: white space, the mark, and a path;
* `Asks.parse?_chomp`, `exists_asks`: the lines of the grammar are those that are
  read as directives;
* `parse?_chomp_append`: white space in front of a line changes nothing but the
  white space of its directive;
* `Path.named`: the paths that a line can ask for.
-/
import TweeStory.Include.Directive
import TweeStory.Path
import TweeStory.Proofs.Text.Blank

namespace TweeStory

open Text

/-- The text is white space, the mark of directives and then `rest`, without the line
feeds and carriage returns at its end. -/
structure Text.Asks (line space rest : Text) : Prop where
  chomp_eq : line.chomp = space ++ "::@include ".toList ++ rest
  isSpace : IsSpace space
  ne_nil : rest ≠ []

namespace IncludeDirective

/-- The mark begins with a character that is no white space. -/
lemma dropWhile_mark_append (rest : Text) :
    (mark ++ rest).dropWhile isBlank = mark ++ rest :=
  List.dropWhile_cons_of_neg (by decide)

lemma takeWhile_mark_append (rest : Text) : (mark ++ rest).takeWhile isBlank = [] :=
  List.takeWhile_cons_of_neg (by decide)

/-- **The grammar of directives.** -/
theorem parse?_eq_some_iff {body : Text} {d : IncludeDirective} :
    parse? body = some d ↔
      ∃ rest, body = d.indent ++ mark ++ rest ∧ IsSpace d.indent ∧ rest ≠ [] ∧ '\n' ∉ rest ∧
        d.target = rest.trim := by
  constructor
  · intro h
    rw [parse?, Option.bind_eq_bind, Option.bind_eq_some_iff] at h
    obtain ⟨rest, hrest, h⟩ := h
    split at h
    · cases h
    · rename_i hcond
      rw [Option.pure_def, Option.some.injEq] at h
      subst h
      simp only [Bool.or_eq_true, List.isEmpty_iff, List.contains_iff_mem, not_or] at hcond
      refine ⟨rest, ?_, isSpace_takeWhile body, hcond.1, hcond.2, rfl⟩
      rw [List.append_assoc, ← after?_eq_some_iff.mp hrest, List.takeWhile_append_dropWhile]
  · rintro ⟨rest, rfl, hspace, hne, hline, htarget⟩
    obtain ⟨indent, target⟩ := d
    subst htarget
    rw [parse?, List.append_assoc, dropWhile_append_of_blank hspace, dropWhile_mark_append,
      takeWhile_append_of_blank hspace, takeWhile_mark_append, after?_append]
    simp [hne, hline]

/-- A text of nothing but line feeds and carriage returns is no directive. -/
lemma parse?_eq_none_of_isSpace {body : Text} (h : IsSpace body) : parse? body = none := by
  have hnil : body.dropWhile isBlank = [] := List.dropWhile_eq_nil_iff.mpr h
  rw [parse?, hnil]
  rfl

/-- White space in front of a line goes to the white space of its directive. -/
lemma parse?_chomp_append {space : Text} (h : IsSpace space) (t : Text) :
    parse? (chomp (space ++ t)) =
      (parse? (chomp t)).map fun d => ⟨space ++ d.indent, d.target⟩ := by
  by_cases hnil : chomp t = []
  · have hends : IsSpace (chomp (space ++ t)) := by
      intro c hc
      have hmem : c ∈ space ++ t := (List.rdropWhile_prefix isLineEnd _).subset hc
      rcases List.mem_append.mp hmem with hc | hc
      · exact h c hc
      · exact isBlank_of_isLineEnd (chomp_eq_nil_iff.mp hnil c hc)
    rw [parse?_eq_none_of_isSpace hends, hnil, parse?_eq_none_of_isSpace isSpace_nil]
    rfl
  · rw [chomp_append space hnil, parse?, parse?, dropWhile_append_of_blank h,
      takeWhile_append_of_blank h]
    cases after? mark ((chomp t).dropWhile isBlank) with
    | none => rfl
    | some rest =>
        by_cases hrest : rest = [] ∨ '\n' ∈ rest <;> simp [hrest]

end IncludeDirective

namespace Text

variable {line space rest : Text}

/-- A directive by the grammar is read as one. -/
lemma Asks.parse?_chomp (h : Asks line space rest) (hline : IsFullLine line) :
    IncludeDirective.parse? line.chomp = some ⟨space, rest.trim⟩ := by
  refine IncludeDirective.parse?_eq_some_iff.mpr
    ⟨rest, h.chomp_eq, h.isSpace, h.ne_nil, fun hmem => notMem_chomp hline ?_, rfl⟩
  rw [h.chomp_eq]
  exact List.mem_append_right _ hmem

/-- A line that is read as a directive is one by the grammar. -/
lemma exists_asks {d : IncludeDirective} (h : IncludeDirective.parse? line.chomp = some d) :
    ∃ rest, Asks line d.indent rest ∧ d.target = rest.trim := by
  obtain ⟨rest, hbody, hspace, hne, -, htarget⟩ := IncludeDirective.parse?_eq_some_iff.mp h
  exact ⟨rest, ⟨hbody, hspace, hne⟩, htarget⟩

lemma parse?_of_plain (plain : ∀ space rest, ¬Asks line space rest) :
    IncludeDirective.parse? line.chomp = none := by
  cases h : IncludeDirective.parse? line.chomp with
  | none => rfl
  | some d =>
      obtain ⟨rest, asks, -⟩ := exists_asks h
      exact absurd asks (plain d.indent rest)

lemma plain_of_parse? (hline : IsFullLine line)
    (h : IncludeDirective.parse? line.chomp = none) : ∀ space rest, ¬Asks line space rest := by
  intro space rest asks
  rw [asks.parse?_chomp hline] at h
  cases h

/-- There is no line feed in the white space before a directive. -/
lemma Asks.notMem_space (h : Asks line space rest) (hline : IsFullLine line) :
    '\n' ∉ space := by
  refine fun hmem => notMem_chomp hline ?_
  rw [h.chomp_eq]
  exact List.mem_append_left _ (List.mem_append_left _ hmem)

end Text

/-! ### The paths that a line names -/

/-- The paths that a line can ask for: that of a directive, and the whole line as an
entry of the passage that lists files. -/
def Path.named (base : Path) (line : Text) : List Path :=
  ((IncludeDirective.parse? line.chomp).map fun d => base.join d.target).toList ++
    [base.join line.trim]

namespace Path

variable {base : Path} {line space rest : Text}

lemma join_mem_named (h : line.Asks space rest) (hline : IsFullLine line) :
    base.join rest.trim ∈ base.named line := by
  simp [named, h.parse?_chomp hline]

lemma join_trim_mem_named : base.join line.trim ∈ base.named line := by
  simp [named]

/-- White space in front of a line does not change what it names. -/
lemma named_append (h : IsSpace space) (line : Text) :
    base.named (space ++ line) = base.named line := by
  rw [named, named, IncludeDirective.parse?_chomp_append h, trim_append_of_blank h, Option.map_map]
  rfl

end Path

end TweeStory
