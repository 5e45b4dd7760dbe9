/-
Reading the data of a story back from its document.

* `PassageData`, `StoryData`: what a document says about a passage and about a story;
* `StoryData.decode?`: the data that a document holds;
* `Story.pieces`, `Story.document_eq_written`: the document piece by piece;
* `Story.IsRead`: a story that was read from lines, whose tags are words;
* `Story.IsDecodable`, `Story.isDecodable_of_isRead`: the document of such a story gives
  its data back, and has no tags but its own.
-/
import TweeStory.Proofs.Markup.Reader
import TweeStory.Proofs.Story.Sorting

namespace TweeStory

open Markup

/-! ### Data -/

/-- What a document says about a passage. -/
structure PassageData where
  pid : Nat
  name : Text
  tags : List Text
  position : Text
  content : Text
deriving DecidableEq, Repr

/-- What a document says about a story. -/
structure StoryData where
  storyName : Text
  startPid : Nat
  ifid : Text
  passages : List PassageData
deriving DecidableEq, Repr

/-- What the document of a story says about one of its passages. -/
def Passage.data (p : Passage) : PassageData :=
  ⟨p.pid.getD 0, p.name, p.tags, p.position, p.content⟩

/-- What the document of a story says about it, and about each of its passages that is not
excluded, in order. -/
def Story.data (story : Story) (settings : BuildSettings) : StoryData :=
  ⟨settings.storyName, story.startPid, settings.ifid,
    (story.passages.records.filter fun p => !p.excluded).map Passage.data⟩

/-! ### Decoding -/

/-- The number that digits stand for. -/
def Text.toNat? (t : Text) : Option Nat :=
  if !t.isEmpty && t.all Char.isDigit then some (Nat.ofDigitChars 10 t 0) else none

lemma Text.toNat?_ofNat (n : Nat) : toNat? (ofNat n) = some n := by
  have hall : (ofNat n).all Char.isDigit = true :=
    List.all_eq_true.mpr fun c hc => Nat.isDigit_of_mem_toDigits (by decide) (by decide) hc
  have hne : (ofNat n).isEmpty = false := List.isEmpty_eq_false_iff.mpr Nat.toDigits_ne_nil
  rw [toNat?, hall, hne, ofNat, Nat.ofDigitChars_ten_toDigits]
  rfl

/-- The name of the elements of passages. -/
def passageTag : Text := "tw-passagedata".toList

/-- The name of the element of a story. -/
def storyTag : Text := "tw-storydata".toList

/-- What an element says about its passage. -/
def PassageData.ofPiece? (piece : Piece) : Option PassageData := do
  let pid ← (← piece.1.value? "pid".toList).toNat?
  let name ← piece.1.value? "name".toList
  let tags ← piece.1.value? "tags".toList
  let position ← piece.1.value? "position".toList
  return ⟨pid, name, tags.words, position, piece.2.unescaped⟩

/-- What the pieces of a document say about its story: the first tag about the story
itself, and those of passages about them. -/
def StoryData.ofPieces? (pieces : List Piece) : Option StoryData := do
  let (tag, _) ← pieces.head?.filter fun piece => piece.1.name = storyTag
  let storyName ← tag.value? "name".toList
  let startPid ← (← tag.value? "startnode".toList).toNat?
  let ifid ← tag.value? "ifid".toList
  let passages ← (pieces.filter fun piece => piece.1.name = passageTag).mapM PassageData.ofPiece?
  return ⟨storyName, startPid, ifid, passages⟩

/-- The data that a document holds. -/
def StoryData.decode? (document : Text) : Option StoryData :=
  (read? document).bind ofPieces?

/-! ### The document piece by piece -/

/-- The attributes of the element of a passage. -/
def Passage.attributes (p : Passage) : List (Text × Text) :=
  [("pid".toList, Text.ofNat (p.pid.getD 0)),
    ("name".toList, p.name),
    ("tags".toList, Text.join [' '] p.tags),
    ("position".toList, p.position)]

/-- The pieces of the element of a passage. -/
def Passage.pieces (p : Passage) : List Piece :=
  leaf passageTag p.attributes p.content

/-- The attributes of the element of the stylesheet. -/
def styleAttributes : List (Text × Text) :=
  [("role".toList, "stylesheet".toList),
    ("id".toList, "twine-user-stylesheet".toList),
    ("type".toList, "text/twine-css".toList)]

/-- The attributes of the element of the script. -/
def scriptAttributes : List (Text × Text) :=
  [("role".toList, "script".toList),
    ("id".toList, "twine-user-script".toList),
    ("type".toList, "text/twine-javascript".toList)]

/-- The pieces of the element of the stylesheet, its slot open. -/
def stylePieces : List Piece :=
  leaf "style".toList styleAttributes cssSlot

/-- The pieces of the element of the script, its slot open. -/
def scriptPieces : List Piece :=
  leaf "script".toList scriptAttributes jsSlot

namespace Story

/-- The attributes of the element of a story before its slots. -/
def leadAttributes (story : Story) (settings : BuildSettings) : List (Text × Text) :=
  [("name".toList, settings.storyName),
    ("startnode".toList, Text.ofNat story.startPid),
    ("creator".toList, creatorName),
    ("creator-version".toList, creatorVersion),
    ("ifid".toList, settings.ifid)]

/-- The attributes of the element of a story. -/
def attributes (story : Story) (settings : BuildSettings) : List (Text × Text) :=
  story.leadAttributes settings ++
    [("format".toList, formatSlot), ("format-version".toList, formatVersionSlot),
      ("options".toList, [])]

/-- The pieces of the document of a story. -/
def pieces (story : Story) (settings : BuildSettings) : List Piece :=
  (openTag storyTag (story.attributes settings), []) ::
    (stylePieces ++ scriptPieces ++ story.elements.flatMap Passage.pieces ++
      [(closeTag storyTag, [])])

/-- A document is one element, in it those of the stylesheet, the script and the passages. -/
lemma document_eq_element (story : Story) (settings : BuildSettings) :
    story.document settings = element storyTag (story.attributes settings)
      (styleElement ++ scriptElement ++ story.elements.flatMap Passage.element) :=
  rfl

/-- The document of a story is made of its pieces. -/
lemma document_eq_written (story : Story) (settings : BuildSettings) :
    story.document settings = written (story.pieces settings) := by
  have hstyle : styleElement = written stylePieces := (written_leaf _ _ _).symm
  have hscript : scriptElement = written scriptPieces := (written_leaf _ _ _).symm
  have hpassages : story.elements.flatMap Passage.element =
      written (story.elements.flatMap Passage.pieces) := by
    rw [written, List.flatMap_assoc]
    exact List.flatMap_congr fun p _ => (written_leaf passageTag p.attributes p.content).symm
  rw [document_eq_element, element_eq, hstyle, hscript, hpassages, ← written_append,
    ← written_append]
  simp [written, pieces]

/-- No name, no attribute and no text of a document ends early. -/
lemma isPlain_pieces (story : Story) (settings : BuildSettings) :
    IsPlain (story.pieces settings) := by
  have hopen : (openTag storyTag (story.attributes settings)).IsPlain :=
    isPlain_openTag (by decide) (by simp [attributes, leadAttributes])
  have hstyle : IsPlain stylePieces := isPlain_leaf (by decide) (by decide) _
  have hscript : IsPlain scriptPieces := isPlain_leaf (by decide) (by decide) _
  have hpassages : IsPlain (story.elements.flatMap Passage.pieces) := fun piece hpiece => by
    obtain ⟨p, -, hmem⟩ := List.mem_flatMap.mp hpiece
    exact isPlain_leaf (by decide) (by simp [Passage.attributes]) _ piece hmem
  have hclose : IsPlain [(closeTag storyTag, [])] :=
    List.forall_mem_singleton.mpr ⟨isPlain_closeTag (by decide), List.not_mem_nil⟩
  have hcontent := isPlain_append.mpr
    ⟨isPlain_append.mpr ⟨isPlain_append.mpr ⟨hstyle, hscript⟩, hpassages⟩, hclose⟩
  exact List.forall_mem_cons.mpr ⟨⟨hopen, List.not_mem_nil⟩, hcontent⟩

end Story

/-! ### Reading the data back -/

/-- The element of a passage whose tags are words is read as its data. -/
lemma PassageData.ofPiece?_attributes {p : Passage} (htags : ∀ tag ∈ p.tags, Text.IsWord tag) :
    ofPiece? (openTag passageTag p.attributes, p.content.escaped) = some p.data := by
  have hpid : p.attributes.lookup "pid".toList = some (Text.ofNat (p.pid.getD 0)) := rfl
  have hname : p.attributes.lookup "name".toList = some p.name := rfl
  have hjoined : p.attributes.lookup "tags".toList = some (Text.join [' '] p.tags) := rfl
  have hposition : p.attributes.lookup "position".toList = some p.position := rfl
  simp only [ofPiece?, value?_openTag, hpid, hname, hjoined, hposition, Option.bind_eq_bind,
    Option.bind_some, Text.toNat?_ofNat, Text.words_join htags, Text.unescaped_escaped]
  rfl

lemma PassageData.mapM_ofPiece? {ps : List Passage}
    (htags : ∀ p ∈ ps, ∀ tag ∈ p.tags, Text.IsWord tag) :
    (ps.map fun p => (openTag passageTag p.attributes, p.content.escaped)).mapM ofPiece? =
      some (ps.map Passage.data) := by
  induction ps with
  | nil => rfl
  | cons p ps ih =>
      rw [List.map_cons, List.mapM_cons, ofPiece?_attributes (htags p (by simp)),
        ih fun q hq => htags q (by simp [hq])]
      rfl

namespace Story

/-- The passages are the pieces whose tags have the name of the elements of passages. -/
lemma filter_pieces (story : Story) (settings : BuildSettings) :
    (story.pieces settings).filter (fun piece => piece.1.name = passageTag) =
      story.elements.map fun p => (openTag passageTag p.attributes, p.content.escaped) := by
  have hopen : ([(openTag storyTag (story.attributes settings), [])] : List Piece).filter
      (fun piece => piece.1.name = passageTag) = [] := rfl
  have hsheets : (stylePieces ++ scriptPieces).filter (fun piece => piece.1.name = passageTag) =
      [] := by decide
  have hpassage : ∀ p : Passage, p.pieces.filter (fun piece => piece.1.name = passageTag) =
      [(openTag passageTag p.attributes, p.content.escaped)] := fun _ => rfl
  have hclose : ([(closeTag storyTag, [])] : List Piece).filter
      (fun piece => piece.1.name = passageTag) = [] := by decide
  rw [pieces, ← List.singleton_append, List.filter_append, hopen, List.filter_append,
    List.filter_append, hsheets, List.filter_flatMap, hclose, List.append_nil]
  simp only [hpassage, List.nil_append, List.map_eq_flatMap]

/-- The pieces of a document whose passages have words for tags are read as the data of its
story. -/
lemma ofPieces?_pieces {story : Story} (settings : BuildSettings)
    (htags : ∀ p ∈ story.elements, ∀ tag ∈ p.tags, Text.IsWord tag) :
    StoryData.ofPieces? (story.pieces settings) = some (story.data settings) := by
  have hname : (story.attributes settings).lookup "name".toList = some settings.storyName := rfl
  have hstart : (story.attributes settings).lookup "startnode".toList =
      some (Text.ofNat story.startPid) := rfl
  have hifid : (story.attributes settings).lookup "ifid".toList = some settings.ifid := rfl
  have hhead : (story.pieces settings).head?.filter (fun piece => piece.1.name = storyTag) =
      some (openTag storyTag (story.attributes settings), []) := rfl
  simp only [StoryData.ofPieces?, hhead, filter_pieces, PassageData.mapM_ofPiece? htags,
    value?_openTag, hname, hstart, hifid, Text.toNat?_ofNat, Option.bind_eq_bind, Option.bind_some]
  rfl

end Story

/-! ### Stories that were read -/

namespace Story

/-- A story that was read from lines. -/
def IsRead (story : Story) : Prop :=
  ∃ sources registry settings lines, (ofLines sources registry settings lines).story = .ok story

/-- A story that was compiled was read from the lines of its source. -/
lemma isRead_compile {tree : FileTree} {registry : Registry} {settings : BuildSettings}
    {path : Path} {story : Story} (h : (compile tree registry settings path).story = .ok story) :
    story.IsRead := by
  rw [compile] at h
  split at h
  · cases h
  · exact ⟨_, _, _, _, h⟩

/-- The tags of the passages of a story that was read are words. -/
lemma IsRead.isWord {story : Story} (h : story.IsRead) {p : Passage}
    (hp : p ∈ story.passages.records) : ∀ tag ∈ p.tags, Text.IsWord tag := by
  obtain ⟨sources, registry, settings, lines, hstory⟩ := h
  obtain ⟨s, records, hsorted, rfl, -⟩ := exists_sorted hstory
  obtain rfl := (Sorting.gives_sort hsorted).records
  have hunsorted := List.mem_map_of_mem (f := Passage.unsorted) hp
  rw [Passage.map_unsorted_numbered] at hunsorted
  obtain ⟨q, hq, heq⟩ := List.mem_map.mp hunsorted
  obtain ⟨r, hr, rfl⟩ := List.mem_map.mp hq
  obtain ⟨b, hb, rfl⟩ :=
    Option.map_eq_some_iff.mp ((PassageMap.tells_ofLines sources lines).1.records r hr)
  obtain ⟨tags, content, happly, hsublist⟩ := registry.exists_apply_eq b.passage
  have hptags : p.tags = tags := by
    rw [happly] at heq
    exact (congrArg Passage.tags heq).symm
  have hblock : b ∈ Block.ofLines lines := List.mem_of_mem_filter (List.mem_of_getLast? hb)
  obtain ⟨line, -, hparse⟩ := Block.exists_line_of_mem_ofLines hblock
  intro tag htag
  exact Header.isWord_of_mem_tags hparse (hsublist.subset (hptags ▸ htag))

/-- The elements of a story that was read have the numbers from 1 on, in order. -/
lemma IsRead.map_pid {story : Story} (h : story.IsRead) :
    story.elements.map (·.pid) =
      (List.range' 1 (story.passages.records.countP fun p => !p.excluded)).map some := by
  obtain ⟨sources, registry, settings, lines, hstory⟩ := h
  obtain ⟨s, records, hsorted, rfl, -⟩ := exists_sorted hstory
  obtain rfl := (Sorting.gives_sort hsorted).records
  exact Passage.map_pid_numbered 0 fun p hp => unsorted_of_mem_prepared hp

/-! ### The document holds the data -/

/-- The document of a story gives its data back, and nothing in the story changes which
tags the document has. -/
structure IsDecodable (story : Story) (settings : BuildSettings) : Prop where
  /-- The data are read back from the document. -/
  decode : StoryData.decode? (story.document settings) = some (story.data settings)
  /-- Stories with one document have the same data. -/
  data_eq : ∀ (story' : Story) (settings' : BuildSettings), story'.IsRead →
    story'.document settings' = story.document settings →
      story'.data settings' = story.data settings
  /-- The data of passages have the numbers from 1 on, in order. -/
  pids : (story.data settings).passages.map (·.pid) =
    List.range' 1 (story.passages.records.countP fun p => !p.excluded)
  /-- The numbers are those of the passages. -/
  pid : ∀ p ∈ story.passages.records, p.excluded = false → p.pid = some p.data.pid
  /-- There is an element for the story, in it one for the stylesheet, one for the script
  and one for each passage that is not excluded, and no other. -/
  tags : (read? (story.document settings)).map (·.map (·.1.name)) =
    some ([storyTag, "style".toList, "/style".toList, "script".toList, "/script".toList] ++
      (List.replicate (story.passages.records.countP fun p => !p.excluded)
        [passageTag, '/' :: passageTag]).flatten ++ ['/' :: storyTag])

variable {story : Story}

/-- The pieces of a document are read back from it. -/
lemma read?_document (story : Story) (settings : BuildSettings) :
    read? (story.document settings) = some (story.pieces settings) := by
  rw [document_eq_written, read?_written (story.isPlain_pieces settings)]

lemma map_name_pieces (story : Story) (settings : BuildSettings) :
    (story.pieces settings).map (·.1.name) =
      [storyTag, "style".toList, "/style".toList, "script".toList, "/script".toList] ++
        (List.replicate story.elements.length [passageTag, '/' :: passageTag]).flatten ++
          ['/' :: storyTag] := by
  have hpassages : (story.elements.flatMap Passage.pieces).map (·.1.name) =
      (List.replicate story.elements.length [passageTag, '/' :: passageTag]).flatten := by
    rw [List.map_flatMap, ← List.map_const', List.flatMap_def]
    rfl
  have hsheets : (stylePieces ++ scriptPieces).map (·.1.name) =
      ["style".toList, "/style".toList, "script".toList, "/script".toList] := rfl
  rw [pieces, List.map_cons, List.map_append, List.map_append, hsheets, hpassages]
  rfl

lemma IsRead.decode?_document (h : story.IsRead) (settings : BuildSettings) :
    StoryData.decode? (story.document settings) = some (story.data settings) := by
  have htags : ∀ p ∈ story.elements, ∀ tag ∈ p.tags, Text.IsWord tag :=
    fun p hp => h.isWord (List.mem_of_mem_filter hp)
  rw [StoryData.decode?, read?_document, Option.bind_some, ofPieces?_pieces settings htags]

/-- **The document of a story that was read can be read back.** -/
theorem isDecodable_of_isRead (h : story.IsRead) (settings : BuildSettings) :
    story.IsDecodable settings := by
  have hpid : ∀ p ∈ story.elements, p.pid = some p.data.pid := fun p hp => by
    have hmem : p.pid ∈ story.elements.map (·.pid) := List.mem_map_of_mem hp
    rw [h.map_pid] at hmem
    obtain ⟨n, -, hn⟩ := List.mem_map.mp hmem
    rw [← hn, Passage.data, ← hn, Option.getD_some]
  have hpids : ((story.data settings).passages.map (·.pid)).map some =
      (List.range' 1 (story.passages.records.countP fun p => !p.excluded)).map some := by
    rw [← h.map_pid, data, List.map_map, List.map_map]
    exact List.map_congr_left fun p hp => (hpid p hp).symm
  exact
    { decode := h.decode?_document settings
      data_eq := fun story' settings' h' heq => by
        have hdecode := h'.decode?_document settings'
        rw [heq, h.decode?_document settings] at hdecode
        exact (Option.some.inj hdecode).symm
      pids := List.map_injective_iff.mpr (fun _ _ => Option.some.inj) hpids
      pid := fun p hp hexcluded => hpid p (mem_elements_iff.mpr ⟨hp, hexcluded⟩)
      tags := by rw [read?_document, Option.map_some, map_name_pieces, length_elements] }

/-- A story whose texts are full of markup. -/
def markupTree : FileTree where
  entries :=
    [(["story.tw".toList], .text ([":: StoryTitle\n", "Tom & \"Jerry\"\n", ":: \"Inn\" > [a  b]",
      " <\"1\">\n", "</tw-passagedata>\n", ":: Start\n", "&amp;&lt;"].map String.toList).flatten)]
  here := []

theorem isDecodable_of_isRead_markupTree :
    ∃ story, (compile markupTree .empty (.initial []) (.ofString "story.tw")).story = .ok story ∧
      story.IsRead ∧ story.IsDecodable
        (compile markupTree .empty (.initial []) (.ofString "story.tw")).settings := by
  obtain ⟨story, hstory⟩ : ∃ story,
      (compile markupTree .empty (.initial []) (.ofString "story.tw")).story = .ok story :=
    exists_story_of_isOk (by decide)
  have hread := isRead_compile hstory
  exact ⟨story, hstory, hread, isDecodable_of_isRead hread _⟩

end Story

end TweeStory
