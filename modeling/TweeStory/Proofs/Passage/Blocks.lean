/-
The passages of a story, header by header.

* `Block`, `Block.ofLines`: a header with the lines up to the next one, and the blocks
  that lines are made of;
* `Block.passage`: the passage that a block tells;
* `Block.last?`, `Block.duplicates`: the last block with a name, and the warnings about
  names that were used before;
* `PassageMap.Tells`: the passages are those of the last blocks with their names, in the
  order of the first;
* `PassageMap.tells_ofLines`: so are the passages that are read from lines.
-/
import Mathlib.Data.List.TakeWhile
import TweeStory.Passage.OfLines
import TweeStory.Proofs.Passage.Header
import TweeStory.Proofs.Passage.Map

namespace TweeStory

/-! ### Blocks -/

/-- A header, where it stands, and the lines between it and the next one. -/
structure Block where
  header : Header
  origin : Origin
  body : List Line

namespace Block

/-- Whether a line is no header. -/
def isBody (line : Line) : Bool :=
  (Header.parse? line.text).isNone

/-- The blocks of lines in order.  Lines before the first header are in none. -/
def ofLines : List Line → List Block
  | [] => []
  | line :: rest =>
    match Header.parse? line.text with
    | some header => ⟨header, line.origin, rest.takeWhile isBody⟩ :: ofLines rest
    | none => ofLines rest

/-- The name of the passage of a block. -/
def name (b : Block) : Text :=
  b.header.name

/-- The passage that a block tells. -/
def passage (b : Block) : Passage where
  name := b.header.name
  tags := b.header.tags
  position := b.header.position.getD "0,0".toList
  content := Text.trimEnd (b.body.flatMap (·.text))
  lines := b.body
  excluded := false
  pid := none
  origin := b.origin

/-- The last block with a name. -/
def last? (name : Text) (blocks : List Block) : Option Block :=
  (blocks.filter fun b => b.name = name).getLast?

/-- The passages that blocks tell: for every name, at the place of the first block with
the name, what the last block with the name tells. -/
def told (blocks : List Block) : PassageMap where
  records := (distinct (blocks.map (·.name))).filterMap fun name =>
    (last? name blocks).map passage
  index := (distinct (blocks.map (·.name))).zipIdx

/-- The warnings about blocks that come after others: one for each block whose name was
used before.  It stands at the header of the block, and refers to the header of the last
block before it that has the name. -/
def duplicates (sources : Sources) (earlier : List Block) : List Block → Diagnostics
  | [] => []
  | b :: later =>
    ((last? b.name earlier).map fun first =>
        { kind := .duplicatePassage b.name (sources.describe first.origin)
            (sources.describe b.origin)
          context := some b.origin
          referent := some first.origin }).toList ++
      duplicates sources (earlier ++ [b]) later

variable {sources : Sources} {lines : List Line} {b : Block}

lemma isBody_iff {line : Line} : isBody line ↔ Header.parse? line.text = none :=
  Option.isNone_iff_eq_none

lemma last?_concat (name : Text) (blocks : List Block) (b : Block) :
    last? name (blocks ++ [b]) = if b.name = name then some b else last? name blocks := by
  by_cases h : b.name = name <;> simp [last?, List.filter_append, h]

/-- The header of a block is that of a line. -/
lemma exists_line_of_mem_ofLines (h : b ∈ ofLines lines) :
    ∃ line ∈ lines, Header.parse? line.text = some b.header := by
  induction lines with
  | nil => cases h
  | cons line rest ih =>
      rw [ofLines] at h
      split at h
      · rename_i header hheader
        rcases List.mem_cons.mp h with rfl | h
        · exact ⟨line, by simp, hheader⟩
        · obtain ⟨l, hl, hparse⟩ := ih h
          exact ⟨l, by simp [hl], hparse⟩
      · obtain ⟨l, hl, hparse⟩ := ih h
        exact ⟨l, by simp [hl], hparse⟩

/-- No line of the body of a block is a header. -/
lemma isBody_of_mem_body (h : b ∈ ofLines lines) {line : Line} (hline : line ∈ b.body) :
    isBody line := by
  induction lines with
  | nil => cases h
  | cons first rest ih =>
      rw [ofLines] at h
      split at h
      · rcases List.mem_cons.mp h with rfl | h
        · exact List.mem_takeWhile_imp hline
        · exact ih h
      · exact ih h

/-- The lines of the body of a block are lines that the blocks are made of. -/
lemma mem_of_mem_body (h : b ∈ ofLines lines) {line : Line} (hline : line ∈ b.body) :
    line ∈ lines := by
  induction lines with
  | nil => cases h
  | cons first rest ih =>
      rw [ofLines] at h
      split at h
      · rcases List.mem_cons.mp h with rfl | h
        · exact List.mem_cons_of_mem _ ((List.takeWhile_prefix isBody).subset hline)
        · exact List.mem_cons_of_mem _ (ih h)
      · exact List.mem_cons_of_mem _ (ih h)

/-- The passage of a block before its content is closed. -/
def opened (b : Block) : Passage :=
  { Passage.ofHeader b.header b.origin with
    content := b.body.flatMap (·.text)
    lines := b.body }

lemma foldl_push (p : Passage) (body : List Line) :
    body.foldl Passage.push p =
      { p with content := p.content ++ body.flatMap (·.text), lines := p.lines ++ body } := by
  induction body generalizing p with
  | nil => simp
  | cons line body ih => simp [ih, Passage.push]

end Block

namespace PassageMap

/-- The passages are those that blocks tell, `passage` being what a block tells: there is
one for every name of a block, in the order of the first blocks with the names, and the
last block with its name tells it. -/
structure Tells (passage : Block → Passage) (blocks : List Block) (passages : PassageMap) :
    Prop where
  names : passages.names = distinct (blocks.map (·.name))
  index : passages.index = passages.names.zipIdx
  records : ∀ p ∈ passages.records, (Block.last? p.name blocks).map passage = some p

namespace Tells

variable {passage : Block → Passage} {blocks : List Block} {passages : PassageMap}

lemma keys_eq (h : passages.Tells passage blocks) : passages.keys = passages.names := by
  rw [keys, h.index, List.zipIdx_map_fst]

lemma isIndexed (h : passages.Tells passage blocks) : passages.IsIndexed where
  index := by rw [h.keys_eq, h.index]
  nodup := by
    rw [h.keys_eq, h.names]
    exact nodup_distinct _
  length := by
    rw [h.keys_eq]
    exact List.length_map _

/-- A further block whose name was used before replaces the passage of the last block
with the name. -/
lemma insert_of_mem (h : passages.Tells passage blocks) (hname : ∀ b, (passage b).name = b.name)
    {b : Block} (hmem : b.name ∈ passages.names) :
    (passages.insert (passage b)).2.1 = (Block.last? b.name blocks).map passage ∧
      (passages.insert (passage b)).2.2.Tells passage (blocks ++ [b]) := by
  obtain ⟨i, old, hi, hold, heq⟩ :=
    h.isIndexed.insert_of_mem (p := passage b) (by rwa [hname, h.keys_eq])
  rw [h.keys_eq, hname] at hi
  have hget : ∀ {j : Nat} {q : Passage}, passages.records[j]? = some q →
      passages.names[j]? = some q.name := by
    intro j q hq
    simp [PassageMap.names, hq]
  have hnames : ({ passages with records := passages.records.set i (passage b) } :
      PassageMap).names = passages.names := by
    obtain ⟨hlt, hi⟩ := List.getElem?_eq_some_iff.mp hi
    have hset := List.set_getElem_self hlt
    rw [hi] at hset
    rw [PassageMap.names, List.map_set, hname]
    exact hset
  rw [heq]
  refine ⟨?_, ?_, ?_, fun p hp => ?_⟩
  · have hlast := h.records old (List.mem_of_getElem? hold)
    rw [← hlast, Option.some.inj ((hget hold).symm.trans hi)]
  · rw [hnames, h.names, List.map_append, List.map_singleton, distinct_concat, if_pos]
    rwa [h.names, mem_distinct] at hmem
  · rw [hnames, h.index]
  · -- the passages at other places have other names
    obtain ⟨j, hj⟩ := List.mem_iff_getElem?.mp hp
    rw [Block.last?_concat]
    rw [List.getElem?_set] at hj
    split at hj
    · split at hj
      · obtain rfl := Option.some.inj hj
        simp [hname]
      · cases hj
    · rename_i hij
      have hne : b.name ≠ p.name := by
        intro heq
        have hlt := (List.getElem?_eq_some_iff.mp hi).1
        have hnodup := h.isIndexed.nodup
        rw [h.keys_eq] at hnodup
        exact hij ((List.getElem?_inj hlt hnodup).mp (by rw [hi, hget hj, heq]))
      rw [if_neg hne]
      exact h.records p (List.mem_of_getElem? hj)

/-- A further block with a new name tells a passage at the end. -/
lemma insert_of_notMem (h : passages.Tells passage blocks)
    (hname : ∀ b, (passage b).name = b.name) {b : Block} (hmem : b.name ∉ passages.names) :
    (passages.insert (passage b)).2.1 = (Block.last? b.name blocks).map passage ∧
      (passages.insert (passage b)).2.2.Tells passage (blocks ++ [b]) := by
  have hnew : b.name ∉ blocks.map (·.name) := by rwa [h.names, mem_distinct] at hmem
  have hnames : (⟨passages.records ++ [passage b],
      passages.index ++ [(b.name, passages.size)]⟩ : PassageMap).names =
        passages.names ++ [b.name] := by
    simp [PassageMap.names, hname]
  rw [PassageMap.insert_of_notMem (p := passage b) (by rwa [hname, h.keys_eq]), hname]
  refine ⟨?_, ?_, ?_, fun p hp => ?_⟩
  · have hlast : Block.last? b.name blocks = none := by
      rw [Block.last?, List.getLast?_eq_none_iff, List.filter_eq_nil_iff]
      intro c hc
      have hne : c.name ≠ b.name := fun heq => hnew (heq ▸ List.mem_map_of_mem hc)
      simpa using hne
    rw [hlast]
    rfl
  · rw [hnames, h.names, List.map_append, List.map_singleton, distinct_concat, if_neg hnew]
  · rw [hnames, List.zipIdx_append, h.index]
    simp [PassageMap.names, size]
  · rw [Block.last?_concat]
    rcases List.mem_append.mp hp with hp | hp
    · have hne : b.name ≠ p.name := fun heq => hmem (heq ▸ List.mem_map_of_mem hp)
      rw [if_neg hne]
      exact h.records p hp
    · rw [List.mem_singleton.mp hp, hname]
      simp

/-- **A further block** replaces the passage of the last block with its name, and tells
its own. -/
lemma insert (h : passages.Tells passage blocks) (hname : ∀ b, (passage b).name = b.name)
    (b : Block) :
    (passages.insert (passage b)).2.1 = (Block.last? b.name blocks).map passage ∧
      (passages.insert (passage b)).2.2.Tells passage (blocks ++ [b]) := by
  by_cases hmem : b.name ∈ passages.names
  · exact h.insert_of_mem hname hmem
  · exact h.insert_of_notMem hname hmem

/-- Closing the passages closes what the blocks tell. -/
lemma map (h : passages.Tells passage blocks) (f : Passage → Passage)
    (hf : ∀ p, (f p).name = p.name) : (passages.map f).Tells (f ∘ passage) blocks := by
  have hnames : (passages.map f).names = passages.names := by
    simp [PassageMap.names, PassageMap.map, hf, Function.comp_def]
  refine ⟨hnames.trans h.names, h.index.trans (by rw [hnames]), fun p hp => ?_⟩
  obtain ⟨q, hq, rfl⟩ := List.mem_map.mp hp
  rw [hf, ← Option.map_map, h.records q hq]
  rfl

/-- What blocks tell is one collection of passages. -/
lemma eq_told (h : passages.Tells Block.passage blocks) : passages = Block.told blocks := by
  have hrecords : (passages.names.filterMap fun name =>
      (Block.last? name blocks).map Block.passage) = passages.records := by
    rw [PassageMap.names, List.filterMap_map]
    exact (List.filterMap_congr h.records).trans List.filterMap_some
  rw [Block.told, ← h.names, hrecords, ← h.index]

end Tells

/-! ### Reading lines -/

namespace Reading

variable {sources : Sources}

/-- Reads a block: its header and then its body. -/
def readBlock (sources : Sources) (state : Reading) (b : Block) : Reading :=
  b.body.foldl (read sources) (state.openPassage sources b.header b.origin)

/-- Reading lines is reading the lines before the first header and then the blocks. -/
lemma foldl_read (state : Reading) (lines : List Line) :
    lines.foldl (read sources) state =
      (Block.ofLines lines).foldl (readBlock sources)
        ((lines.takeWhile Block.isBody).foldl (read sources) state) := by
  induction lines generalizing state with
  | nil => rfl
  | cons line rest ih =>
      rw [List.foldl_cons, ih, Block.ofLines, List.takeWhile_cons]
      cases hparse : Header.parse? line.text with
      | none => simp [Block.isBody, hparse]
      | some header => simp [Block.isBody, readBlock, read, hparse]

/-- While no passage is open, lines that are no headers are dropped. -/
lemma foldl_read_of_closed (state : Reading) (hclosed : state.current = none)
    {lines : List Line} (hbody : ∀ line ∈ lines, Block.isBody line) :
    lines.foldl (read sources) state = state := by
  induction lines with
  | nil => rfl
  | cons line rest ih =>
      have hread : state.read sources line = state := by
        simp [read, Block.isBody_iff.mp (hbody line (by simp)), hclosed]
      rw [List.foldl_cons, hread]
      exact ih fun l hl => hbody l (by simp [hl])

/-- Lines of a body go to the passage that was inserted last. -/
lemma foldl_read_body {passages : PassageMap} {p : Passage} {warnings : Diagnostics}
    {body : List Line} (hbody : ∀ line ∈ body, Block.isBody line) :
    body.foldl (read sources) ⟨(passages.insert p).2.2, some (passages.insert p).1, warnings⟩ =
      ⟨(passages.insert (body.foldl Passage.push p)).2.2, some (passages.insert p).1,
        warnings⟩ := by
  induction body generalizing p with
  | nil => rfl
  | cons line body ih =>
      obtain ⟨hplace, -, hmap⟩ := insert_modified passages p (·.push line) rfl
      have hread : read sources ⟨(passages.insert p).2.2, some (passages.insert p).1, warnings⟩
          line = ⟨(passages.insert (p.push line)).2.2, some (passages.insert (p.push line)).1,
            warnings⟩ := by
        simp only [read, Block.isBody_iff.mp (hbody line (by simp)), hmap, hplace]
      rw [List.foldl_cons, hread, ih fun l hl => hbody l (by simp [hl]), hplace]
      rfl

/-- A block inserts its passage. -/
lemma readBlock_eq (sources : Sources) (state : Reading) {b : Block}
    (hbody : ∀ line ∈ b.body, Block.isBody line) :
    (state.readBlock sources b).passages = (state.passages.insert b.opened).2.2 ∧
      (state.readBlock sources b).warnings = state.warnings ++
        ((state.passages.insert b.opened).2.1.map fun p =>
          replaced sources b.name p.origin b.origin).toList := by
  have hopened : b.body.foldl Passage.push (.ofHeader b.header b.origin) = b.opened := by
    simp [Block.foldl_push, Block.opened, Passage.ofHeader]
  obtain ⟨-, hinsert, -⟩ := insert_modified state.passages (.ofHeader b.header b.origin)
    (fun _ => b.opened) rfl
  rw [hinsert, readBlock, openPassage, foldl_read_body hbody, hopened]
  exact ⟨rfl, rfl⟩

/-- **What blocks tell** is told by the passages that are read from them, and the
warnings are those about names used again. -/
lemma tells_foldl_readBlock (sources : Sources) (state : Reading) {earlier later : List Block}
    (h : state.passages.Tells Block.opened earlier)
    (hbody : ∀ b ∈ later, ∀ line ∈ b.body, Block.isBody line) :
    (later.foldl (readBlock sources) state).passages.Tells Block.opened (earlier ++ later) ∧
      (later.foldl (readBlock sources) state).warnings =
        state.warnings ++ Block.duplicates sources earlier later := by
  induction later generalizing state earlier with
  | nil => simpa [Block.duplicates] using h
  | cons b later ih =>
      obtain ⟨hpassages, hwarnings⟩ := readBlock_eq sources state (hbody b (by simp))
      obtain ⟨hreplaced, htells⟩ := h.insert (fun _ => rfl) b
      rw [← hpassages] at htells
      rw [hreplaced, Option.map_map] at hwarnings
      obtain ⟨hall, hrest⟩ := ih _ htells fun c hc => hbody c (by simp [hc])
      refine ⟨by simpa using hall, ?_⟩
      -- what is replaced has the origin of the block that told it
      rw [List.foldl_cons, hrest, hwarnings, Block.duplicates, List.append_assoc]
      rfl

end Reading

variable (sources : Sources) (lines : List Line)

/-- The blocks of lines tell what is read from the lines. -/
lemma tells_ofLines :
    (ofLines sources lines).1.Tells Block.passage (Block.ofLines lines) ∧
      (ofLines sources lines).2 = Block.duplicates sources [] (Block.ofLines lines) := by
  have hempty : empty.Tells Block.opened [] := ⟨rfl, rfl, fun p hp => by cases hp⟩
  have hread : lines.foldl (Reading.read sources) ⟨empty, none, []⟩ =
      (Block.ofLines lines).foldl (Reading.readBlock sources) ⟨empty, none, []⟩ := by
    rw [Reading.foldl_read, Reading.foldl_read_of_closed _ rfl]
    exact fun line hline => List.mem_takeWhile_imp hline
  obtain ⟨hpassages, hwarnings⟩ := Reading.tells_foldl_readBlock sources ⟨empty, none, []⟩
    hempty fun b hb line => Block.isBody_of_mem_body hb
  rw [ofLines, hread]
  exact ⟨hpassages.map Passage.close fun _ => rfl, hwarnings⟩

/-- **Passages are read header by header.**  The passages of lines are those that their
blocks tell, one for every name, and the warnings are those about names used again. -/
theorem ofLines_eq_told :
    ofLines sources lines =
        (Block.told (Block.ofLines lines), Block.duplicates sources [] (Block.ofLines lines)) ∧
      (Block.told (Block.ofLines lines)).names = distinct ((Block.ofLines lines).map (·.name)) := by
  obtain ⟨htells, hwarnings⟩ := tells_ofLines sources lines
  have htold := htells.eq_told
  exact ⟨Prod.ext htold hwarnings, htold ▸ htells.names⟩

end PassageMap

end TweeStory
