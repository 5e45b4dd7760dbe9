/-
The two tables of the lines of a source: their texts, and where they start.

* `Text.allLines`, `Text.OpensLine`: the lines of a text with the empty one that starts at its
  end, if one does;
* `Text.rangesFrom`, `Tiles`: the byte ranges of texts that stand one behind the other, and ranges
  that are consecutive from one offset to another;
* `Text.startsAfter_eq`, `Sources.lineRange?_eq`: the table of starts is made of such ranges;
* `Finds`: what a search in a table of numbers in order comes to;
* `Sources.isGreatest_lineIndex`: the last line that starts at an offset or before it;
* `Sources.TablesAgree`, `Sources.tablesAgree`: what the tables say of each other.
-/
import Mathlib.Order.Bounds.Basic
import TweeStory.Proofs.Source.Span
import TweeStory.Proofs.Text.Pieces

namespace TweeStory

/-! ### Consecutive ranges -/

/-- The ranges are consecutive and cover the bytes from `start` to `stop`. -/
def Tiles : (start stop : Nat) → List ByteRange → Prop
  | start, stop, [] => start = stop
  | start, stop, range :: ranges =>
    range.start = start ∧ range.start ≤ range.stop ∧ Tiles range.stop stop ranges

lemma Tiles.stop_eq {start stop i : Nat} {ranges : List ByteRange} {range : ByteRange}
    (h : Tiles start stop ranges) (hrange : ranges[i]? = some range) :
    range.stop = (ranges[i + 1]?.map (·.start)).getD stop := by
  induction ranges generalizing start i with
  | nil => cases hrange
  | cons first ranges ih =>
      obtain ⟨-, -, hrest⟩ := h
      cases i with
      | succ i => exact ih hrest hrange
      | zero =>
          obtain rfl : first = range := by simpa using hrange
          cases ranges with
          | nil => exact hrest
          | cons second ranges => exact hrest.1.symm

namespace Text

variable {t : Text} {offset : Nat}

/-- The byte ranges of texts that stand one behind the other from an offset on. -/
def rangesFrom (offset : Nat) : List Text → List ByteRange
  | [] => []
  | t :: ts => ⟨offset, offset + t.utf8Length⟩ :: rangesFrom (offset + t.utf8Length) ts

@[simp] lemma length_rangesFrom (offset : Nat) (ts : List Text) :
    (rangesFrom offset ts).length = ts.length := by
  induction ts generalizing offset with
  | nil => rfl
  | cons t ts ih => simp [rangesFrom, ih]

lemma tiles_rangesFrom (offset : Nat) (ts : List Text) :
    Tiles offset (offset + utf8Length ts.flatten) (rangesFrom offset ts) := by
  induction ts generalizing offset with
  | nil => rfl
  | cons t ts ih =>
      refine ⟨rfl, Nat.le_add_right _ _, ?_⟩
      rw [List.flatten_cons, utf8Length_append, ← Nat.add_assoc]
      exact ih (offset + t.utf8Length)

lemma rangesFrom_append (offset : Nat) (ts us : List Text) :
    rangesFrom offset (ts ++ us) =
      rangesFrom offset ts ++ rangesFrom (offset + utf8Length ts.flatten) us := by
  induction ts generalizing offset with
  | nil => rfl
  | cons t ts ih =>
      rw [List.cons_append, rangesFrom, ih, List.flatten_cons, utf8Length_append, Nat.add_assoc]
      rfl

/-- The bytes of one of the texts that make up another are that text. -/
lemma slice?_flatten {ts : List Text} {i : Nat} (ht : ts[i]? = some t) :
    slice? ts.flatten ⟨utf8Length (ts.take i).flatten,
      utf8Length (ts.take i).flatten + t.utf8Length⟩ = some t := by
  obtain ⟨hlt, rfl⟩ := List.getElem?_eq_some_iff.mp ht
  have hsplit : ts.flatten = (ts.take i).flatten ++ ts[i] ++ (ts.drop (i + 1)).flatten := by
    conv_lhs => rw [← List.take_append_drop i ts]
    rw [List.drop_eq_getElem_cons hlt, List.flatten_append, List.flatten_cons, List.append_assoc]
  rw [hsplit]
  exact slice?_append _ ts[i] _

/-! ### All lines of a text -/

/-- The lines of a text with the line feeds that end them.  Behind a final line feed there is an
empty line, and so there is in the empty text. -/
def allLines : Text → List Text
  | [] => [[]]
  | c :: t => if c = '\n' then [c] :: allLines t else consHead c (allLines t)

/-- A line starts at the end of the text. -/
def OpensLine (t : Text) : Prop :=
  t = [] ∨ IsEnded t

instance (t : Text) : Decidable (OpensLine t) :=
  inferInstanceAs (Decidable (_ ∨ _))

lemma allLines_ne_nil (t : Text) : allLines t ≠ [] := by
  cases t with
  | nil => simp [allLines]
  | cons c t => rw [allLines]; split <;> simp [consHead_ne_nil]

@[simp] lemma flatten_allLines (t : Text) : (allLines t).flatten = t := by
  induction t with
  | nil => rfl
  | cons c t ih => by_cases h : c = '\n' <;> simp [allLines, h, ih]

lemma fullLines_ne_nil (h : t ≠ []) : fullLines t ≠ [] := by
  intro hnil
  have hflatten := flatten_fullLines t
  rw [hnil] at hflatten
  exact h hflatten.symm

/-- **All lines of a text** are its full lines and the empty one that starts at its end, if one
does. -/
lemma allLines_eq (t : Text) :
    allLines t = fullLines t ++ if OpensLine t then [[]] else [] := by
  induction t with
  | nil => rfl
  | cons c t ih =>
      by_cases hnil : t = []
      · subst hnil
        by_cases hc : c = '\n' <;> simp [allLines, fullLines, consHead, OpensLine, IsEnded, hc]
      · have hopens : OpensLine (c :: t) ↔ OpensLine t := by
          simp [OpensLine, hnil, isEnded_cons_iff hnil]
        simp only [hopens]
        by_cases hc : c = '\n'
        · rw [allLines, if_pos hc, fullLines, if_pos hc, ih, List.cons_append]
        · rw [allLines, if_neg hc, fullLines, if_neg hc, ih,
            consHead_append c (fullLines_ne_nil hnil)]

/-- A character in front of the first text moves the start of that text only. -/
lemma rangesFrom_consHead (offset : Nat) (c : Char) {ts : List Text} (h : ts ≠ []) :
    (rangesFrom offset (consHead c ts)).map (·.start) =
      offset :: ((rangesFrom (offset + c.utf8Size) ts).map (·.start)).tail := by
  obtain ⟨t, ts, rfl⟩ := List.exists_cons_of_ne_nil h
  simp [consHead, rangesFrom, Nat.add_assoc]

/-- **The table of line starts** has the start of each line of the text. -/
lemma startsAfter_eq (offset : Nat) (t : Text) :
    offset :: startsAfter offset t = (rangesFrom offset (allLines t)).map (·.start) := by
  induction t generalizing offset with
  | nil => rfl
  | cons c t ih =>
      rw [startsAfter, allLines]
      by_cases hc : c = '\n'
      · rw [if_pos hc, if_pos hc, ih, rangesFrom, List.map_cons]
        simp
      · rw [if_neg hc, if_neg hc, rangesFrom_consHead offset c (allLines_ne_nil t), ← ih,
          List.tail_cons]

/-- The lines start one behind the other. -/
lemma pairwise_startsAfter (offset : Nat) (t : Text) :
    (offset :: startsAfter offset t).Pairwise (· < ·) := by
  induction t generalizing offset with
  | nil => simp [startsAfter]
  | cons c t ih =>
      have hpos := c.utf8Size_pos
      have hnext := ih (offset + c.utf8Size)
      rw [startsAfter]
      by_cases hc : c = '\n'
      · rw [if_pos hc]
        refine List.pairwise_cons.mpr ⟨fun x hx => ?_, hnext⟩
        rcases List.mem_cons.mp hx with rfl | hlater
        · omega
        · have hlt := (List.pairwise_cons.mp hnext).1 x hlater
          omega
      · rw [if_neg hc]
        obtain ⟨hbelow, hrest⟩ := List.pairwise_cons.mp hnext
        refine List.pairwise_cons.mpr ⟨fun x hx => ?_, hrest⟩
        have hlt := hbelow x hx
        omega

end Text

/-! ### Searches in a table -/

/-- What a search for a number in a table in order comes to: a place where it stands, or else the
place at which it can be put in. -/
inductive Finds (table : List Nat) (x : Nat) : (found : Bool) → (i : Nat) → Prop
  | there {i : Nat} (stands : table[i]? = some x) : Finds table x true i
  | absent {i : Nat} (below : ∀ j < i, ∃ y, table[j]? = some y ∧ y < x)
      (above : ∀ j y, i ≤ j → table[j]? = some y → x < y) : Finds table x false i

/-- The entries of a table in order up to a number are those that a search passes. -/
lemma lt_length_takeWhile_iff {table : List Nat} (h : table.Pairwise (· < ·)) {x i : Nat} :
    i < (table.takeWhile (· ≤ x)).length ↔ ∃ y, table[i]? = some y ∧ y ≤ x := by
  induction table generalizing i with
  | nil => simp
  | cons first table ih =>
      obtain ⟨hfirst, hrest⟩ := List.pairwise_cons.mp h
      by_cases hle : first ≤ x
      · rw [List.takeWhile_cons_of_pos (by simpa using hle), List.length_cons]
        cases i with
        | zero => simpa using hle
        | succ i => simpa using ih hrest
      · rw [List.takeWhile_cons_of_neg (by simpa using hle)]
        refine iff_of_false (Nat.not_lt_zero i) ?_
        rintro ⟨y, hy, hyx⟩
        rcases List.mem_cons.mp (List.mem_of_getElem? hy) with rfl | hmem
        · exact hle hyx
        · have hlt := hfirst y hmem
          omega

/-! ### Ranges of lines -/

namespace SourceFile

/-- The ranges of the lines of a file. -/
def ranges (file : SourceFile) : List ByteRange :=
  Text.rangesFrom 0 file.contents.allLines

lemma tiles_ranges (file : SourceFile) : Tiles 0 file.contents.utf8Length file.ranges := by
  have htiles := Text.tiles_rangesFrom 0 file.contents.allLines
  rwa [Text.flatten_allLines, Nat.zero_add] at htiles

lemma getElem?_lineStarts (file : SourceFile) (i : Nat) :
    file.lineStarts[i]? = file.ranges[i]?.map (·.start) := by
  rw [lineStarts, Text.startsAfter_eq, ranges, List.getElem?_map]

lemma pairwise_lineStarts (file : SourceFile) : file.lineStarts.Pairwise (· < ·) :=
  Text.pairwise_startsAfter 0 file.contents

/-- There is a range for each full line, and one more if a line starts at the end of the file. -/
lemma length_ranges (file : SourceFile) : file.ranges.length =
    file.contents.fullLines.length + if file.contents.OpensLine then 1 else 0 := by
  rw [ranges, Text.length_rangesFrom, Text.allLines_eq, List.length_append]
  split <;> rfl

end SourceFile

namespace Sources

variable {sources : Sources} {id i offset : Nat} {file : SourceFile} {range : ByteRange}

lemma contents?_eq (h : sources.files[id]? = some file) :
    sources.contents? id = some file.contents := by
  rw [contents?, h]
  rfl

/-- **The range of a line** is one of those that the file is divided into. -/
lemma lineRange?_eq (h : sources.files[id]? = some file) (i : Nat) :
    sources.lineRange? id i = file.ranges[i]? := by
  rw [lineRange?, h]
  simp only [Option.bind_eq_bind, Option.bind_some, file.getElem?_lineStarts]
  cases hrange : file.ranges[i]? with
  | none => rfl
  | some range =>
      rw [← file.tiles_ranges.stop_eq hrange]
      rfl

/-- **The texts of the lines** of a source are the bytes of their ranges. -/
lemma exists_lineRange? (h : sources.files[id]? = some file) {line : Line}
    (hline : (sources.lines id)[i]? = some line) :
    line.origin = ⟨id, i + 1⟩ ∧ ∃ range, sources.lineRange? id i = some range ∧
      file.contents.slice? range = some line.text := by
  rw [lines, contents?_eq h] at hline
  simp only [Line.getElem?_number, Option.map_eq_some_iff] at hline
  obtain ⟨text, htext, rfl⟩ := hline
  have hslice := Text.slice?_flatten htext
  rw [Text.flatten_fullLines] at hslice
  exact ⟨by rw [Nat.add_comm], _, lineRange?_of_getElem? (contents?_eq h) htext, hslice⟩

lemma length_lines (h : sources.files[id]? = some file) :
    (sources.lines id).length = file.contents.fullLines.length := by
  rw [lines, contents?_eq h, Line.length_number]

/-- The line that starts at the end of a file is empty. -/
lemma lineRange?_of_opensLine (h : sources.files[id]? = some file)
    (hopens : file.contents.OpensLine) :
    sources.lineRange? id (sources.lines id).length =
      some ⟨file.contents.utf8Length, file.contents.utf8Length⟩ := by
  have hranges : file.ranges = Text.rangesFrom 0 file.contents.fullLines ++
      [⟨file.contents.utf8Length, file.contents.utf8Length⟩] := by
    rw [SourceFile.ranges, Text.allLines_eq, if_pos hopens, Text.rangesFrom_append,
      Text.flatten_fullLines, Nat.zero_add]
    rfl
  rw [lineRange?_eq h, hranges, length_lines h, ← Text.length_rangesFrom 0,
    List.getElem?_concat_length]

/-! ### The line at an offset -/

lemma getElem?_lineStarts_iff (h : sources.files[id]? = some file) {start : Nat} :
    file.lineStarts[i]? = some start ↔
      ∃ range, sources.lineRange? id i = some range ∧ range.start = start := by
  rw [lineRange?_eq h, file.getElem?_lineStarts, Option.map_eq_some_iff]

/-- A search passes the lines that start at the offset or before it. -/
lemma lt_length_lineStarts_iff (h : sources.files[id]? = some file) :
    i < (file.lineStarts.takeWhile (· ≤ offset)).length ↔
      ∃ range, sources.lineRange? id i = some range ∧ range.start ≤ offset := by
  rw [lt_length_takeWhile_iff file.pairwise_lineStarts]
  constructor
  · rintro ⟨start, hstart, hle⟩
    obtain ⟨range, hrange, rfl⟩ := (getElem?_lineStarts_iff h).mp hstart
    exact ⟨range, hrange, hle⟩
  · rintro ⟨range, hrange, hle⟩
    exact ⟨_, (getElem?_lineStarts_iff h).mpr ⟨range, hrange, rfl⟩, hle⟩

/-- The first line starts before every offset, so a search passes it. -/
lemma length_lineStarts_pos (file : SourceFile) (offset : Nat) :
    0 < (file.lineStarts.takeWhile (· ≤ offset)).length := by
  rw [SourceFile.lineStarts, List.takeWhile_cons_of_pos (by simp)]
  exact Nat.succ_pos _

/-- **The line at an offset** is the last one that starts there or before. -/
lemma isGreatest_lineIndex (h : sources.files[id]? = some file) (offset : Nat) :
    ∃ i, sources.lineIndex? id offset = some i ∧
      IsGreatest {i | ∃ range, sources.lineRange? id i = some range ∧ range.start ≤ offset} i := by
  have hpos := length_lineStarts_pos file offset
  refine ⟨(file.lineStarts.takeWhile (· ≤ offset)).length - 1, by rw [lineIndex?, h]; rfl, ?_, ?_⟩
  · exact (lt_length_lineStarts_iff h).mp (Nat.sub_one_lt_of_lt hpos)
  · intro j hj
    have hlt := (lt_length_lineStarts_iff h).mpr hj
    omega

/-- An offset before the end of a file lies in the range of its line. -/
lemma lt_stop_of_isGreatest (h : sources.files[id]? = some file)
    (hlt : offset < file.contents.utf8Length)
    (hi : IsGreatest {i | ∃ range, sources.lineRange? id i = some range ∧ range.start ≤ offset} i) :
    ∃ range, sources.lineRange? id i = some range ∧ range.start ≤ offset ∧
      offset < range.stop := by
  obtain ⟨⟨range, hrange, hle⟩, hgreatest⟩ := hi
  refine ⟨range, hrange, hle, ?_⟩
  rw [lineRange?_eq h] at hrange
  rw [file.tiles_ranges.stop_eq hrange]
  cases hnext : file.ranges[i + 1]? with
  | none => exact hlt
  | some next =>
      -- the next line starts behind the offset, for this one is the last that does not
      by_contra hnot
      have hmem := hgreatest ⟨next, (lineRange?_eq h _).trans hnext, Nat.not_lt.mp hnot⟩
      omega

/-- The offset stands in the table, or there is a place at which it can be put in. -/
lemma exists_finds (h : sources.files[id]? = some file) (offset : Nat) :
    ∃ found i, Finds file.lineStarts offset found i := by
  obtain ⟨k, -, ⟨range, hrange, hle⟩, hgreatest⟩ := isGreatest_lineIndex h offset
  have hstart := (getElem?_lineStarts_iff h).mpr ⟨range, hrange, rfl⟩
  by_cases heq : range.start = offset
  · exact ⟨true, k, .there (heq ▸ hstart)⟩
  · refine ⟨false, k + 1, .absent (fun j hj => ?_) fun j y hj hy => ?_⟩
    · obtain ⟨hk, hkr⟩ := List.getElem?_eq_some_iff.mp hstart
      have hjlt : j < file.lineStarts.length := by omega
      refine ⟨_, List.getElem?_eq_getElem hjlt, ?_⟩
      rcases Nat.lt_or_eq_of_le (Nat.le_of_lt_succ hj) with hlt | rfl
      · have hbefore := List.pairwise_iff_getElem.mp file.pairwise_lineStarts j k hjlt hk hlt
        omega
      · omega
    · by_contra hnot
      obtain ⟨later, hlater, rfl⟩ := (getElem?_lineStarts_iff h).mp hy
      have hmem := hgreatest ⟨later, hlater, Nat.not_lt.mp hnot⟩
      omega

/-- **A search in the table** ends at the line of the offset, or at the place behind it. -/
lemma lineIndex?_of_finds (h : sources.files[id]? = some file) {found : Bool}
    (hfinds : Finds file.lineStarts offset found i) :
    (found = false → 0 < i) ∧
      sources.lineIndex? id offset = some (if found then i else i - 1) := by
  obtain ⟨k, hk, ⟨range, hrange, hle⟩, hgreatest⟩ := isGreatest_lineIndex h offset
  have hstart := (getElem?_lineStarts_iff h).mpr ⟨range, hrange, rfl⟩
  rw [hk]
  cases hfinds with
  | there stands =>
      obtain ⟨own, hown, rfl⟩ := (getElem?_lineStarts_iff h).mp stands
      refine ⟨fun hfalse => absurd hfalse (by decide), congrArg some ?_⟩
      refine Nat.le_antisymm ?_ (hgreatest ⟨own, hown, Nat.le_refl _⟩)
      -- a later line would start behind this one, and so behind the offset
      by_contra hlt
      obtain ⟨hik, hki⟩ := List.getElem?_eq_some_iff.mp stands
      obtain ⟨hkk, hkr⟩ := List.getElem?_eq_some_iff.mp hstart
      have hbehind :=
        List.pairwise_iff_getElem.mp file.pairwise_lineStarts i k hik hkk (Nat.not_le.mp hlt)
      omega
  | absent below above =>
      have hlt : k < i := by
        by_contra hnot
        have habove := above k _ (Nat.not_lt.mp hnot) hstart
        omega
      refine ⟨fun _ => Nat.zero_lt_of_lt hlt, congrArg some ?_⟩
      obtain ⟨y, hy, hbelow⟩ := below (i - 1) (by omega)
      obtain ⟨last, hlast, rfl⟩ := (getElem?_lineStarts_iff h).mp hy
      have hmem := hgreatest ⟨last, hlast, Nat.le_of_lt hbelow⟩
      simp only [Bool.false_eq_true, if_false]
      omega

/-! ### Both tables -/

/-- The table of the lines of a source and the table of their starts agree. -/
structure TablesAgree (sources : Sources) (id : Nat) (file : SourceFile) : Prop where
  /-- The ranges of the lines are consecutive and cover the whole text.  There is one for each
  line, and one more if the text is empty or ends in a line feed. -/
  ranges : ∃ ranges, Tiles 0 file.contents.utf8Length ranges ∧
    (∀ i, sources.lineRange? id i = ranges[i]?) ∧
    ranges.length = (sources.lines id).length +
      if file.contents = [] ∨ file.contents.getLast? = some '\n' then 1 else 0
  /-- The range that belongs to no line is empty. -/
  last : file.contents = [] ∨ file.contents.getLast? = some '\n' →
    sources.lineRange? id (sources.lines id).length =
      some ⟨file.contents.utf8Length, file.contents.utf8Length⟩
  /-- The lines are numbered from 1, and their texts are the bytes of the ranges. -/
  text : ∀ i line, (sources.lines id)[i]? = some line → line.origin = ⟨id, i + 1⟩ ∧
    ∃ range, sources.lineRange? id i = some range ∧ file.contents.slice? range = some line.text
  /-- The line at an offset is the last one that starts there or before, and the offset lies in
  its range if it is one in the text. -/
  index : ∀ offset, ∃ i, sources.lineIndex? id offset = some i ∧
    IsGreatest {i | ∃ range, sources.lineRange? id i = some range ∧ range.start ≤ offset} i ∧
    (offset < file.contents.utf8Length → ∃ range, sources.lineRange? id i = some range ∧
      range.start ≤ offset ∧ offset < range.stop)
  /-- A search in the table of starts ends at that line, or at the place behind it, which is never
  the first one. -/
  search : ∀ offset, (∃ found i, Finds file.lineStarts offset found i) ∧
    ∀ found i, Finds file.lineStarts offset found i → (found = false → 0 < i) ∧
      sources.lineIndex? id offset = some (if found then i else i - 1)

/-- **The tables of a source agree**, whatever its text. -/
theorem tablesAgree (h : sources.files[id]? = some file) : TablesAgree sources id file where
  ranges := by
    refine ⟨file.ranges, file.tiles_ranges, lineRange?_eq h, ?_⟩
    rw [length_lines h]
    exact file.length_ranges
  last := lineRange?_of_opensLine h
  text := fun _ _ hline => exists_lineRange? h hline
  index := by
    intro offset
    obtain ⟨i, hindex, hgreatest⟩ := isGreatest_lineIndex h offset
    exact ⟨i, hindex, hgreatest, fun hlt => lt_stop_of_isGreatest h hlt hgreatest⟩
  search := fun offset => ⟨exists_finds h offset, fun _ _ => lineIndex?_of_finds h⟩

/-- A file with a character of two bytes, a carriage return and a final line feed. -/
def pierFile : SourceFile :=
  ⟨"pier.tw".toList, .ofString "pier.tw", "é\r\n\nb\n".toList⟩

/-- The sources with that file alone. -/
def pierSources : Sources :=
  ⟨[pierFile]⟩

theorem tablesAgree_pierSources : pierSources.files[0]? = some pierFile ∧
    TablesAgree pierSources 0 pierFile :=
  ⟨rfl, tablesAgree rfl⟩

/-- A text that ends in a line feed has one start more than lines, which is its end. -/
example :
    let file : SourceFile := ⟨"quay.tw".toList, .ofString "quay.tw", "é\r\n\nb\n".toList⟩
    (Sources.lines ⟨[file]⟩ 0).length = 3 ∧ file.lineStarts = [0, 4, 5, 7] ∧
      Sources.lineIndex? ⟨[file]⟩ 0 6 = some 2 := by
  decide

end Sources

end TweeStory
