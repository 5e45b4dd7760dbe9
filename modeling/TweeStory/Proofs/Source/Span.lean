/-
Lines of a source as ranges of its bytes.

* `Text.slice?_append`: the bytes of a part of a text are the part;
* `Text.getElem?_startsAfter`: the table of line starts follows the lines;
* `Sources.Has`, `Sources.Shows`: an origin that is a line of a source, and one whose
  span is that line without its end;
* `Sources.Has.shows`: every line of a source has its span.
-/
import TweeStory.Proofs.Source.Loading
import TweeStory.Proofs.Text.Lines

namespace TweeStory

namespace Text

/-! ### Bytes of a part -/

lemma dropBytes?_append (s t : Text) : dropBytes? (utf8Length s) (s ++ t) = some t := by
  induction s with
  | nil => cases t <;> rfl
  | cons c s ih =>
      have hpos := c.utf8Size_pos
      obtain ⟨n, hn⟩ : ∃ n, c.utf8Size + utf8Length s = n + 1 :=
        ⟨c.utf8Size + utf8Length s - 1, by omega⟩
      rw [utf8Length_cons, hn, List.cons_append, dropBytes?, if_neg (by omega), ← ih]
      congr 1
      omega

lemma takeBytes?_append (s t : Text) : takeBytes? (utf8Length s) (s ++ t) = some s := by
  induction s with
  | nil => cases t <;> rfl
  | cons c s ih =>
      have hpos := c.utf8Size_pos
      obtain ⟨n, hn⟩ : ∃ n, c.utf8Size + utf8Length s = n + 1 :=
        ⟨c.utf8Size + utf8Length s - 1, by omega⟩
      have hrest : n + 1 - c.utf8Size = utf8Length s := by omega
      rw [utf8Length_cons, hn, List.cons_append, takeBytes?, if_neg (by omega), hrest, ih]
      rfl

/-- The bytes of a part of a text are the part. -/
lemma slice?_append (before part after : Text) :
    (before ++ part ++ after).slice?
      ⟨before.utf8Length, before.utf8Length + part.utf8Length⟩ = some part := by
  rw [slice?, List.append_assoc, dropBytes?_append, Option.bind_some]
  rw [show before.utf8Length + part.utf8Length - before.utf8Length = part.utf8Length by omega]
  exact takeBytes?_append part after

/-! ### The table of line starts -/

lemma startsAfter_append {body : Text} (h : '\n' ∉ body) (offset : Nat) (t : Text) :
    startsAfter offset (body ++ t) = startsAfter (offset + body.utf8Length) t := by
  induction body generalizing offset with
  | nil => rfl
  | cons c body ih =>
      rw [List.mem_cons, not_or] at h
      rw [List.cons_append, startsAfter, if_neg (Ne.symm h.1), ih h.2, utf8Length_cons,
        Nat.add_assoc]

/-- A line that ends in a line feed has the next line start after it. -/
lemma startsAfter_of_isEnded {line : Text} (h : IsFullLine line) (hend : IsEnded line)
    (offset : Nat) (t : Text) :
    startsAfter offset (line ++ t) =
      (offset + line.utf8Length) :: startsAfter (offset + line.utf8Length) t := by
  obtain ⟨body, c, rfl⟩ := List.eq_nil_or_concat' line |>.resolve_left h.1
  have hc : c = '\n' := by simpa [IsEnded] using hend
  subst hc
  have hbody : '\n' ∉ body := by simpa using h.2
  rw [List.append_assoc, startsAfter_append hbody, List.singleton_append, startsAfter, if_pos rfl,
    utf8Length_append, utf8Length_cons, utf8Length_nil, Nat.add_zero, Nat.add_assoc]

/-- **The table of line starts** gives where each line of a text begins and ends. -/
lemma getElem?_startsAfter {lines : List Text} (h : AreFullLines lines) (offset : Nat) {n : Nat}
    {line : Text} (hline : lines[n]? = some line) :
    (offset :: startsAfter offset lines.flatten)[n]? =
        some (offset + utf8Length (lines.take n).flatten) ∧
      ((offset :: startsAfter offset lines.flatten)[n + 1]?).getD
          (offset + utf8Length lines.flatten) =
        offset + utf8Length (lines.take n).flatten + line.utf8Length := by
  induction lines generalizing offset n with
  | nil => cases hline
  | cons first rest ih =>
      obtain ⟨hfirst, hend, hrest⟩ := h
      by_cases hnil : rest = []
      · -- the only line, which may lack its line feed
        subst hnil
        cases n with
        | succ n => simp at hline
        | zero =>
            obtain rfl : first = line := by simpa using hline
            obtain ⟨body, c, rfl⟩ := List.eq_nil_or_concat' first |>.resolve_left hfirst.1
            have hbody : '\n' ∉ body := by simpa using hfirst.2
            refine ⟨by simp, ?_⟩
            rw [List.flatten_cons, List.flatten_nil, List.append_nil, startsAfter_append hbody]
            by_cases hc : c = '\n' <;> simp [startsAfter, hc, Nat.add_assoc]
      · rw [List.flatten_cons, startsAfter_of_isEnded hfirst (hend hnil)]
        cases n with
        | zero =>
            obtain rfl : first = line := by simpa using hline
            simp
        | succ n =>
            have hn := ih hrest (offset + first.utf8Length) (by simpa using hline)
            rw [List.getElem?_cons_succ, List.getElem?_cons_succ, List.take_succ_cons,
              List.flatten_cons, utf8Length_append, utf8Length_append]
            rw [← Nat.add_assoc, ← Nat.add_assoc]
            exact hn

end Text

namespace Sources

/-! ### Origins -/

/-- The origin is a line of a loaded source. -/
def Has (sources : Sources) (o : Origin) : Prop :=
  ∃ contents text n, sources.contents? o.file = some contents ∧
    contents.fullLines[n]? = some text ∧ o.line = n + 1

/-- The origin is a line of a loaded source, lines counting from 1, and its span holds
that line without its end. -/
def Shows (sources : Sources) (o : Origin) : Prop :=
  ∃ contents text range, sources.contents? o.file = some contents ∧ 1 ≤ o.line ∧
    contents.fullLines[o.line - 1]? = some text ∧ sources.span? o = some range ∧
    contents.slice? range = some text.chomp

variable {sources : Sources} {o : Origin}

lemma Has.of_isPrefix {sources' : Sources} (h : sources.Has o)
    (hs : sources.files <+: sources'.files) : sources'.Has o := by
  obtain ⟨contents, text, n, hcontents, hrest⟩ := h
  exact ⟨contents, text, n, contents?_of_isPrefix hs hcontents, hrest⟩

/-- The range of a line holds its text. -/
lemma lineRange?_of_getElem? {id n : Nat} {contents text : Text}
    (hcontents : sources.contents? id = some contents)
    (htext : contents.fullLines[n]? = some text) :
    sources.lineRange? id n =
      some ⟨Text.utf8Length (contents.fullLines.take n).flatten,
        Text.utf8Length (contents.fullLines.take n).flatten + text.utf8Length⟩ := by
  obtain ⟨file, hfile, rfl⟩ := Option.map_eq_some_iff.mp hcontents
  obtain ⟨hstart, hstop⟩ :=
    Text.getElem?_startsAfter (Text.areFullLines_fullLines file.contents) 0 htext
  rw [Text.flatten_fullLines, Nat.zero_add] at hstart
  rw [Text.flatten_fullLines, Nat.zero_add, Nat.zero_add] at hstop
  rw [lineRange?, hfile]
  simp only [SourceFile.lineStarts, Option.bind_eq_bind, Option.bind_some, hstart, hstop]
  rfl

/-- **Spans**: the span of a line of a source holds the line without its end. -/
theorem Has.shows (h : sources.Has o) : sources.Shows o := by
  obtain ⟨contents, text, n, hcontents, htext, hn⟩ := h
  obtain ⟨e, he, -⟩ := Text.exists_chomp_append text
  have hsplit : contents = (contents.fullLines.take n).flatten ++ text ++
      (contents.fullLines.drop (n + 1)).flatten := by
    have hlt := (List.getElem?_eq_some_iff.mp htext).1
    conv_lhs => rw [← Text.flatten_fullLines contents, ← List.take_append_drop n contents.fullLines]
    rw [List.drop_eq_getElem_cons hlt, (List.getElem?_eq_some_iff.mp htext).2, List.flatten_append,
      List.flatten_cons, List.append_assoc]
  have hslice := Text.slice?_append (contents.fullLines.take n).flatten text
    (contents.fullLines.drop (n + 1)).flatten
  rw [← hsplit] at hslice
  have hbody := Text.slice?_append (contents.fullLines.take n).flatten text.chomp
    (e ++ (contents.fullLines.drop (n + 1)).flatten)
  rw [List.append_assoc, ← List.append_assoc text.chomp, ← he, ← List.append_assoc,
    ← hsplit] at hbody
  have hspan : sources.span? o = some ⟨Text.utf8Length (contents.fullLines.take n).flatten,
      Text.utf8Length (contents.fullLines.take n).flatten + text.chomp.utf8Length⟩ := by
    rw [span?, hn]
    simp only [hcontents, lineRange?_of_getElem? hcontents htext, hslice, Option.bind_eq_bind,
      Option.bind_some]
    rfl
  exact ⟨contents, text, _, hcontents, by omega, by rw [hn]; exact htext, hspan, hbody⟩

end Sources

end TweeStory
