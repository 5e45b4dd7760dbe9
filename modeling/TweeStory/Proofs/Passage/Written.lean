/-
Headers as they are written.

* `Header.written`, `Header.IsWritable`: the line for a header, and the headers that are read back
  from it;
* `Header.parts`, `Header.isShortest_parts`: the parts of that line, which no other way to cut it
  comes before;
* `Header.parse?_written`: a header is read back from its line.
-/
import TweeStory.Proofs.Passage.HeaderLine

namespace TweeStory.Header

open Text

variable {header : Header} {ending : Text}

/-! ### Writing -/

/-- The line for a header, with each pair of brackets only where something stands in it. -/
def written (header : Header) : Text :=
  ":: ".toList ++ header.name ++
    (if header.tags = [] then [] else " [".toList ++ join [' '] header.tags ++ "]".toList) ++
    (match header.position with
      | none => []
      | some position => " <".toList ++ position ++ ">".toList)

/-- Nothing in a header ends one of its parts early. -/
structure IsWritable (header : Header) : Prop where
  trim_name : header.name.trim = header.name
  name : '[' ∉ header.name ∧ '<' ∉ header.name
  tags : ∀ tag ∈ header.tags, IsWord tag ∧ ']' ∉ tag
  nodup : header.tags.Nodup
  position : ∀ position ∈ header.position, '\n' ∉ position

/-! ### The parts of a written header -/

/-- The parts of the line for a header. -/
def parts (header : Header) : HeaderParts where
  lead := ' ' :: header.name ++ if header.tags = [] then [] else [' ']
  tags := if header.tags = [] then none else some (join [' '] header.tags)
  gap := if header.position = none then [] else [' ']
  position := header.position
  tail := []

lemma written_eq_text (header : Header) : header.written = header.parts.text := by
  by_cases htags : header.tags = [] <;> cases hposition : header.position <;>
    simp [written, HeaderParts.text, parts, mark, enclosed, htags, hposition]

lemma header_parts (h : header.IsWritable) : header.parts.header = header := by
  have hname : header.parts.lead.trim = header.name := by
    have hfront : IsSpace [' '] := by simp [IsSpace, isBlank]
    have hback : IsSpace (if header.tags = [] then [] else [' ']) := by
      split
      · exact isSpace_nil
      · exact hfront
    have hlead : header.parts.lead = [' '] ++
        (header.name ++ if header.tags = [] then [] else [' ']) := rfl
    rw [hlead, trim_append_of_blank hfront, trim_append_of_blank_end hback, h.trim_name]
  have htags : distinct (header.parts.tags.getD []).words = header.tags := by
    by_cases hnil : header.tags = []
    · simp [parts, hnil, words, pieces, distinct]
    · have hwords := words_join fun tag htag => (h.tags tag htag).1
      simp [parts, hnil, hwords, distinct_of_nodup h.nodup]
  rw [HeaderParts.header, hname, htags]
  rfl

/-- There is no line end behind a written header. -/
lemma chomp_written (h : header.IsWritable) : chomp header.written = header.written := by
  have hconcat : ∀ (t : Text) {c : Char}, ¬isLineEnd c → chomp (t ++ [c]) = t ++ [c] :=
    fun t {c} hc => List.rdropWhile_concat_neg isLineEnd t c hc
  rw [written]
  cases header.position with
  | some position =>
      simp only [← List.append_assoc]
      exact hconcat _ (by decide)
  | none =>
      rw [List.append_nil]
      by_cases htags : header.tags = []
      · rw [if_pos htags, List.append_nil]
        rcases eq_or_ne header.name [] with hname | hname
        · rw [hname]
          decide
        · have hchomp := chomp_of_trim h.trim_name
          rw [chomp_append _ (by rwa [hchomp]), hchomp]
      · rw [if_neg htags]
        simp only [← List.append_assoc]
        exact hconcat _ (by decide)

/-- No word holds the character that no tag holds. -/
lemma notMem_join {c : Char} (hc : c ≠ ' ') {tags : List Text} (h : ∀ tag ∈ tags, c ∉ tag) :
    c ∉ join [' '] tags := by
  induction tags with
  | nil => simp [join]
  | cons tag tags ih =>
      obtain ⟨htag, hrest⟩ := List.forall_mem_cons.mp h
      cases tags with
      | nil => exact htag
      | cons => simp [join_cons, htag, hc, ih hrest]

/-- The line for a header can be cut into its parts. -/
lemma isOf_parts (h : header.IsWritable) (hending : ∀ c ∈ ending, isLineEnd c) :
    header.parts.IsOf (header.written ++ ending) where
  text_eq := by
    rw [chomp_append_of_isLineEnd hending, chomp_written h, written_eq_text]
  lead := by
    obtain ⟨hsquare, hangle⟩ := h.name
    by_cases htags : header.tags = [] <;> simp [parts, htags, hsquare, hangle]
  tags := by
    by_cases htags : header.tags = []
    · simp [parts, htags]
    · have hline : '\n' ∉ join [' '] header.tags := notMem_join (by decide) fun tag htag hmem =>
        absurd ((h.tags tag htag).1.2 _ hmem) (by decide)
      simpa [parts, htags] using hline
  gap := by
    by_cases hposition : header.position = none <;> simp [parts, hposition, IsSpace, isBlank]
  position := h.position
  tail := isSpace_nil

/-- No way to cut the line for a header has shorter tags, since no tag holds the bracket behind
them. -/
lemma isShortest_parts (h : header.IsWritable) (hending : ∀ c ∈ ending, isLineEnd c) :
    header.parts.IsShortest (header.written ++ ending) := by
  have hparts := isOf_parts h hending
  refine ⟨hparts, fun other hother tags htags tags' htags' => ?_⟩
  have hbracket : ']' ∉ tags := by
    by_cases hnil : header.tags = []
    · simp [parts, hnil] at htags
    · obtain rfl : join [' '] header.tags = tags := by simpa [parts, hnil] using htags
      exact notMem_join (by decide) fun tag htag => (h.tags tag htag).2
  obtain ⟨t, htext, hcloses⟩ := hparts.exists_closes htags
  obtain ⟨t', htext', hcloses'⟩ := hother.exists_closes htags'
  obtain ⟨-, rfl⟩ := hparts.eq_of_square hother htext htext'
  exact hcloses.length_le hbracket hcloses'

/-- **Headers are read back** from the lines that are written for them, whatever line feeds and
carriage returns stand behind them. -/
theorem parse?_written (h : header.IsWritable) (hending : ∀ c ∈ ending, isLineEnd c) :
    parse? (header.written ++ ending) = some header := by
  rw [(isShortest_parts h hending).parse?_eq, header_parts h]

/-- A header whose texts are full of brackets. -/
def pier : Header where
  name := "Pier] > 2 ::".toList
  tags := ["[a".toList, "<b>".toList]
  position := some "1,2>] [x] <3".toList

theorem parse?_written_pier :
    pier.IsWritable ∧ (∀ c ∈ "\r\n".toList, isLineEnd c) ∧
      parse? (pier.written ++ "\r\n".toList) = some pier := by
  have hpier : pier.IsWritable :=
    { trim_name := by decide
      name := by decide
      tags := by decide
      nodup := by decide
      position := by decide }
  have hending : ∀ c ∈ "\r\n".toList, isLineEnd c := by simp [isLineEnd]
  exact ⟨hpier, hending, parse?_written hpier hending⟩

end TweeStory.Header
