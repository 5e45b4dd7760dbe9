/-
Filling the slots of a document.

* `slots`, `Text.IsSlotFree`: the four slots, and texts in which none of them occurs;
* `Frame`, `Frame.fillSlots_text`: what stands around four slots, and how they are filled;
* `Story.frame`: what stands around the slots of the document of a story;
* `Story.documentWith`, `Story.fill_document_eq_documentWith`: filling a document changes its
  slots and nothing else, if no slot occurs in the name of the story and in its IFID;
* `Story.IsFilled`, `Story.isFilled_fill`: so it is filled as it should be;
* `Story.not_isFilled_fill_slotTitle`: and is not if the name is one.
-/
import TweeStory.Proofs.Story.Decoding

namespace TweeStory

open Markup Text

/-! ### Slots -/

/-- The slots of a document. -/
def slots : List Text :=
  ["\x7b\x7bSTORY_FORMAT\x7d\x7d".toList, "\x7b\x7bSTORY_FORMAT_VERSION\x7d\x7d".toList,
    "\x7b\x7bSTORY_CSS\x7d\x7d".toList, "\x7b\x7bSTORY_JS\x7d\x7d".toList]

/-- No slot occurs in the text. -/
def Text.IsSlotFree (t : Text) : Prop :=
  ∀ slot ∈ slots, t.includes slot = false

instance (t : Text) : Decidable t.IsSlotFree :=
  inferInstanceAs (Decidable (∀ slot ∈ slots, t.includes slot = false))

lemma isToken_of_mem_slots : ∀ slot ∈ slots, IsToken slot := by
  decide

/-! ### Frames -/

/-- What stands around four slots, without the characters next to them. -/
structure Frame where
  /-- What stands before the name of the format. -/
  lead : Text
  /-- What stands between the name and the version of the format. -/
  between : Text
  /-- What stands between the version of the format and the stylesheet. -/
  style : Text
  /-- What stands between the stylesheet and the script. -/
  script : Text
  /-- What stands behind the script. -/
  tail : Text

namespace Frame

/-- A frame with texts in its slots. -/
def text (frame : Frame) (formatName formatVersion css js : Text) : Text :=
  frame.lead ++ '"' :: (formatName ++ '"' :: (frame.between ++ '"' :: (formatVersion ++ '"' ::
    (frame.style ++ '>' :: (css ++ '<' :: (frame.script ++ '>' :: (js ++ frame.tail)))))))

/-- No slot occurs before the script but in its place. -/
structure IsSlotFree (frame : Frame) : Prop where
  lead : frame.lead.IsSlotFree
  between : '\x7b' ∉ frame.between
  style : '\x7b' ∉ frame.style
  script : '\x7b' ∉ frame.script

variable {frame : Frame} {formatName formatVersion : Text}

/-- A slot that does not occur in a text does not occur in what stands before it and the
version of the format. -/
lemma includes_append_style (h : frame.IsSlotFree) (hname : formatName.IsSlotFree)
    (hversion : formatVersion.IsSlotFree) {slot : Text} (hslot : slot ∈ slots) {t : Text}
    (ht : t.includes slot = false) :
    (frame.lead ++ '"' :: (formatName ++ '"' :: (frame.between ++ '"' :: (formatVersion ++ '"' ::
      t)))).includes slot = false := by
  have htoken := isToken_of_mem_slots slot hslot
  have hquote : '"' ∉ slot := htoken.notMem (by decide)
  refine includes_append_cons (h.lead slot hslot) hquote ?_
  refine includes_append_cons (hname slot hslot) hquote ?_
  refine includes_append_cons (includes_of_notMem htoken.brace h.between) hquote ?_
  exact includes_append_cons (hversion slot hslot) hquote ht

lemma replaceFirst_formatSlot (h : frame.IsSlotFree) (formatName version css js : Text) :
    (frame.text formatSlot version css js).replaceFirst formatSlot formatName =
      frame.text formatName version css js :=
  replaceFirst_append_cons (h.lead formatSlot (by decide)) (by decide) (by decide) _ _

lemma replaceFirst_formatVersionSlot (h : frame.IsSlotFree) (hname : formatName.IsSlotFree)
    (formatVersion css js : Text) :
    (frame.text formatName formatVersionSlot css js).replaceFirst formatVersionSlot
      formatVersion = frame.text formatName formatVersion css js := by
  have hbefore : (frame.lead ++ '"' :: (formatName ++ '"' :: frame.between)).includes
      formatVersionSlot = false :=
    includes_append_cons (h.lead _ (by decide)) (by decide)
      (includes_append_cons (hname _ (by decide)) (by decide)
        (includes_of_notMem (by decide) h.between))
  have hfill := replaceFirst_append_cons hbefore (c := '"') (by decide) (by decide)
    ('"' :: (frame.style ++ '>' :: (css ++ '<' :: (frame.script ++ '>' :: (js ++ frame.tail)))))
    formatVersion
  simpa only [text, List.append_assoc, List.cons_append] using hfill

/-- The script is filled in while the slot of the stylesheet is open. -/
lemma replaceFirst_jsSlot (h : frame.IsSlotFree) (hname : formatName.IsSlotFree)
    (hversion : formatVersion.IsSlotFree) (js : Text) :
    (frame.text formatName formatVersion cssSlot jsSlot).replaceFirst jsSlot js =
      frame.text formatName formatVersion cssSlot js := by
  have hsheet : (frame.style ++ '>' :: (cssSlot ++ '<' :: frame.script)).includes jsSlot = false :=
    includes_append_cons (includes_of_notMem (by decide) h.style) (by decide)
      (includes_append_cons (by decide) (by decide) (includes_of_notMem (by decide) h.script))
  have hbefore := includes_append_style h hname hversion (by decide) hsheet
  have hfill := replaceFirst_append_cons hbefore (c := '>') (by decide) (by decide) frame.tail js
  simpa only [text, List.append_assoc, List.cons_append] using hfill

/-- The slot of the stylesheet stands before the script, whatever the script is. -/
lemma replaceFirst_cssSlot (h : frame.IsSlotFree) (hname : formatName.IsSlotFree)
    (hversion : formatVersion.IsSlotFree) (css js : Text) :
    (frame.text formatName formatVersion cssSlot js).replaceFirst cssSlot css =
      frame.text formatName formatVersion css js := by
  have hslot : cssSlot ∈ slots := by decide
  have hbefore := includes_append_style h hname hversion hslot
    (includes_of_notMem (by decide) h.style)
  have hfill := replaceFirst_append_cons hbefore (c := '>') (by decide) (by decide)
    ('<' :: (frame.script ++ '>' :: (js ++ frame.tail))) css
  simpa only [text, List.append_assoc, List.cons_append] using hfill

/-- **Each slot is filled in its place**, whatever the stylesheet and the script are and
whatever stands behind the script. -/
theorem fillSlots_text (h : frame.IsSlotFree) (hname : formatName.IsSlotFree)
    (hversion : formatVersion.IsSlotFree) (css js : Text) :
    fillSlots (frame.text formatSlot formatVersionSlot cssSlot jsSlot) css js formatName
        formatVersion =
      frame.text formatName formatVersion css js := by
  rw [fillSlots, replaceFirst_formatSlot h, replaceFirst_formatVersionSlot h hname,
    replaceFirst_jsSlot h hname hversion, replaceFirst_cssSlot h hname hversion]

end Frame

/-! ### The slots of a story -/

/-- The tag that opens the element of a story, with texts in its slots. -/
def Story.filledTag (story : Story) (settings : BuildSettings) (formatName formatVersion : Text) :
    Tag :=
  ⟨storyTag, (openTag storyTag (story.leadAttributes settings)).fields ++
    [("format".toList, formatName), ("format-version".toList, formatVersion),
      ("options".toList, [])]⟩

/-- What stands between the slots of the version of the format and the stylesheet. -/
def styleLead : Text :=
  fieldText ("options".toList, []) ++ '>' :: '<' :: ("style".toList ++
    (openTag "style".toList styleAttributes).fields.flatMap fieldText)

/-- What stands between the slots of the stylesheet and the script. -/
def scriptLead : Text :=
  '/' :: ("style".toList ++ '>' :: '<' :: ("script".toList ++
    (openTag "script".toList scriptAttributes).fields.flatMap fieldText))

/-- A tag has the name and the IFID of a story, and the name and the version of a format. -/
structure Markup.Tag.Carries (tag : Tag) (settings : BuildSettings)
    (formatName formatVersion : Text) : Prop where
  name : tag.fields.lookup "name".toList = some settings.storyName.escaped
  ifid : tag.fields.lookup "ifid".toList = some settings.ifid.escaped
  formatName : tag.fields.lookup "format".toList = some formatName
  formatVersion : tag.fields.lookup "format-version".toList = some formatVersion

namespace Story

/-- What stands around the slots of the document of a story. -/
def frame (story : Story) (settings : BuildSettings) : Frame where
  lead := '<' :: (storyTag ++ ((openTag storyTag (story.leadAttributes settings)).fields.flatMap
    fieldText ++ ' ' :: ("format".toList ++ ['='])))
  between := ' ' :: ("format-version".toList ++ ['='])
  style := styleLead
  script := scriptLead
  tail := (closeTag "script".toList).text ++ (story.elements.flatMap Passage.element ++
    (closeTag storyTag).text)

variable (story : Story) (settings : BuildSettings)

/-- A frame with texts in its slots begins with the tag of the story and the elements of the
stylesheet and the script. -/
lemma text_frame (formatName formatVersion css js : Text) :
    (story.frame settings).text formatName formatVersion css js =
      (story.filledTag settings formatName formatVersion).text ++
        (element "style".toList styleAttributes css ++
          element "script".toList scriptAttributes js ++
            (story.elements.flatMap Passage.element ++ (closeTag storyTag).text)) := by
  have hopen : ∀ name attributes, (openTag name attributes).name = name := fun _ _ => rfl
  have hfield : ∀ key value, fieldText (key, value) =
      ' ' :: (key ++ '=' :: '"' :: (value ++ ['"'])) := fun key value => by
    simp [fieldText]
  simp only [Frame.text, frame, styleLead, scriptLead, filledTag, element_eq, Tag.text, hopen,
    hfield, closeTag, List.flatMap_append, List.flatMap_cons, List.flatMap_nil, List.append_assoc,
    List.cons_append, List.nil_append]

/-- The document of a story with texts in the places of its slots, as they are. -/
def documentWith (formatName formatVersion css js : Text) : Text :=
  (story.filledTag settings formatName formatVersion).text ++
    (element "style".toList styleAttributes css ++ element "script".toList scriptAttributes js ++
      (story.elements.flatMap Passage.element ++ (closeTag storyTag).text))

/-- A document is its frame with the slots open. -/
lemma document_eq_text :
    story.document settings =
      (story.frame settings).text formatSlot formatVersionSlot cssSlot jsSlot := by
  have htag : openTag storyTag (story.attributes settings) =
      story.filledTag settings formatSlot formatVersionSlot := rfl
  have hstyle : styleElement = element "style".toList styleAttributes cssSlot := rfl
  have hscript : scriptElement = element "script".toList scriptAttributes jsSlot := rfl
  rw [text_frame, document_eq_element, element_eq, htag, hstyle, hscript]
  simp only [List.append_assoc]

/-! ### What stands before the slots -/

/-- A text without an opening brace has no slot. -/
lemma isSlotFree_of_notMem {t : Text} (h : '\x7b' ∉ t) : t.IsSlotFree :=
  fun slot hslot => includes_of_notMem (isToken_of_mem_slots slot hslot).brace h

lemma isSlotFree_escaped {t : Text} (h : t.IsSlotFree) : t.escaped.IsSlotFree :=
  fun slot hslot => includes_escaped (isToken_of_mem_slots slot hslot) (h slot hslot)

/-- Attributes have no slot if their values have none. -/
lemma isSlotFree_flatMap_fieldText {fields : List (Text × Text)}
    (h : ∀ field ∈ fields, '\x7b' ∉ field.1 ∧ field.2.IsSlotFree) {s t : Text} (hs : '\x7b' ∉ s)
    (ht : '\x7b' ∉ t) : Text.IsSlotFree (s ++ (fields.flatMap fieldText ++ t)) := by
  induction fields generalizing s with
  | nil => exact isSlotFree_of_notMem (by simp [hs, ht])
  | cons field fields ih =>
      obtain ⟨hkey, hvalue⟩ := h field (by simp)
      intro slot hslot
      have hquote : '"' ∉ slot := (isToken_of_mem_slots slot hslot).notMem (by decide)
      have hbefore : '\x7b' ∉ s ++ ' ' :: (field.1 ++ ['=']) := by simp [hs, hkey]
      have hrest : Text.IsSlotFree ([] ++ (fields.flatMap fieldText ++ t)) :=
        ih (fun field hmem => h field (by simp [hmem])) List.not_mem_nil
      have htext : s ++ ((field :: fields).flatMap fieldText ++ t) =
          (s ++ ' ' :: (field.1 ++ ['='])) ++ '"' :: (field.2 ++ '"' ::
            ([] ++ (fields.flatMap fieldText ++ t))) := by
        simp [fieldText]
      rw [htext]
      exact includes_append_cons (isSlotFree_of_notMem hbefore slot hslot) hquote
        (includes_append_cons (hvalue slot hslot) hquote (hrest slot hslot))

variable {story : Story} {settings : BuildSettings} {formatName formatVersion : Text}

/-- No slot occurs too early in the document of a story whose name and IFID have none. -/
lemma isSlotFree_frame (hname : settings.storyName.IsSlotFree) (hifid : settings.ifid.IsSlotFree) :
    (story.frame settings).IsSlotFree where
  lead := by
    have hdigits : '\x7b' ∉ Text.ofNat story.startPid := fun hmem =>
      absurd (Nat.isDigit_of_mem_toDigits (by decide) (by decide) hmem) (by decide)
    have hattributes : ∀ attr ∈ story.leadAttributes settings,
        '\x7b' ∉ attr.1 ∧ attr.2.IsSlotFree := by
      simp only [leadAttributes, List.forall_mem_cons]
      exact ⟨⟨by decide, hname⟩, ⟨by decide, isSlotFree_of_notMem hdigits⟩, by decide, by decide,
        ⟨by decide, hifid⟩, List.forall_mem_nil _⟩
    have hfields : ∀ field ∈ (openTag storyTag (story.leadAttributes settings)).fields,
        '\x7b' ∉ field.1 ∧ field.2.IsSlotFree := fun field hfield => by
      obtain ⟨attr, hmem, rfl⟩ := List.mem_map.mp hfield
      exact ⟨(hattributes attr hmem).1, isSlotFree_escaped (hattributes attr hmem).2⟩
    exact isSlotFree_flatMap_fieldText hfields (show '\x7b' ∉ '<' :: storyTag by decide) (by decide)
  between := show '\x7b' ∉ ' ' :: ("format-version".toList ++ ['=']) by decide
  style := show '\x7b' ∉ styleLead by decide
  script := show '\x7b' ∉ scriptLead by decide

/-! ### Filled documents -/

/-- **Filling the document of a story** whose name and IFID have no slots fills the slots. -/
lemma fill_document (hname : settings.storyName.IsSlotFree) (hifid : settings.ifid.IsSlotFree)
    (hformat : formatName.IsSlotFree) (hversion : formatVersion.IsSlotFree) :
    story.fill (story.document settings) formatName formatVersion =
      (story.frame settings).text formatName formatVersion story.css story.js := by
  rw [fill, document_eq_text]
  exact Frame.fillSlots_text (isSlotFree_frame hname hifid) hformat hversion _ _

/-- **Filling changes the slots and nothing else**, if no slot occurs in the name of the story and
in its IFID: the document with the slots open becomes the same document with the name and the
version of the format, the stylesheet and the script, whatever slots occur in these sheets and in
the passages. -/
theorem fill_document_eq_documentWith (story : Story) (settings : BuildSettings)
    (hname : settings.storyName.IsSlotFree) (hifid : settings.ifid.IsSlotFree)
    (hformat : formatName.IsSlotFree) (hversion : formatVersion.IsSlotFree) :
    story.document settings =
        story.documentWith settings formatSlot formatVersionSlot cssSlot jsSlot ∧
      story.fill (story.document settings) formatName formatVersion =
        story.documentWith settings formatName formatVersion story.css story.js := by
  constructor
  · rw [document_eq_text, text_frame, documentWith]
  · rw [fill_document hname hifid hformat hversion, text_frame, documentWith]

/-- A story with slots in its stylesheet, its script and everything that is said of a passage. -/
def slotTree : FileTree where
  entries :=
    [(["story.tw".toList], .text ([":: A [script]\n", "\x7b\x7bSTORY_CSS\x7d\x7d\n",
      "\x7b\x7bSTORY_JS\x7d\x7d\n", ":: B [stylesheet]\n", "\x7b\x7bSTORY_JS\x7d\x7d\n",
      ":: \x7b\x7bSTORY_JS\x7d\x7d [\x7b\x7bSTORY_CSS\x7d\x7d]",
      " <\x7b\x7bSTORY_FORMAT\x7d\x7d>\n", "\x7b\x7bSTORY_FORMAT_VERSION\x7d\x7d\n",
      "\x7b\x7bSTORY_FORMAT_VERSION\x7d\x7d\n"].map String.toList).flatten)]
  here := []

theorem fill_document_eq_documentWith_slotTree :
    let outcome := compile slotTree .empty (.initial "1f".toList) (.ofString "story.tw")
    ∃ story, outcome.story = .ok story ∧ outcome.settings.storyName.IsSlotFree ∧
      outcome.settings.ifid.IsSlotFree ∧ Text.IsSlotFree "Harlowe".toList ∧
      Text.IsSlotFree "3.3.8".toList ∧
      story.document outcome.settings =
        story.documentWith outcome.settings formatSlot formatVersionSlot cssSlot jsSlot ∧
      story.fill (story.document outcome.settings) "Harlowe".toList "3.3.8".toList =
        story.documentWith outcome.settings "Harlowe".toList "3.3.8".toList story.css story.js := by
  intro outcome
  have hname : outcome.settings.storyName.IsSlotFree := by decide +kernel
  have hifid : outcome.settings.ifid.IsSlotFree := by decide +kernel
  have hformat : Text.IsSlotFree "Harlowe".toList := by decide
  have hversion : Text.IsSlotFree "3.3.8".toList := by decide
  obtain ⟨story, hstory⟩ : ∃ story, outcome.story = .ok story :=
    exists_story_of_isOk (by decide +kernel)
  exact ⟨story, hstory, hname, hifid, hformat, hversion,
    fill_document_eq_documentWith story outcome.settings hname hifid hformat hversion⟩

/-- A document is filled for a story and a format: its tag has what was there before and
what was filled in, and behind it stand the stylesheet and the script in their elements. -/
def IsFilled (story : Story) (settings : BuildSettings) (formatName formatVersion : Text)
    (document : Text) : Prop :=
  ∃ tag rest, readTag? document = some (tag, element "style".toList styleAttributes story.css ++
      element "script".toList scriptAttributes story.js ++ rest) ∧
    tag.Carries settings formatName formatVersion

/-- The tag of a filled document is plain. -/
lemma isPlain_filledTag (story : Story) (settings : BuildSettings)
    (hformatName : '"' ∉ formatName) (hformatVersion : '"' ∉ formatVersion) :
    (story.filledTag settings formatName formatVersion).IsPlain where
  name := show storyTag.any endsName = false by decide
  fields := by
    have hlead : (openTag storyTag (story.leadAttributes settings)).IsPlain :=
      isPlain_openTag (by decide) (by simp [leadAttributes])
    refine List.forall_mem_append.mpr ⟨hlead.fields, ?_⟩
    simp only [List.forall_mem_cons]
    exact ⟨⟨by decide, hformatName⟩, ⟨by decide, hformatVersion⟩, by decide,
      List.forall_mem_nil _⟩

/-- **The slots are filled, and author text is left as it is**, if no slot occurs in the name
of the story and in its IFID. -/
theorem isFilled_fill (story : Story) (settings : BuildSettings)
    (hname : settings.storyName.IsSlotFree) (hifid : settings.ifid.IsSlotFree)
    (hformat : formatName.IsSlotFree) (hversion : formatVersion.IsSlotFree)
    (hformatQuote : '"' ∉ formatName) (hversionQuote : '"' ∉ formatVersion) :
    story.IsFilled settings formatName formatVersion
      (story.fill (story.document settings) formatName formatVersion) := by
  have hplain := isPlain_filledTag story settings hformatQuote hversionQuote
  refine ⟨story.filledTag settings formatName formatVersion,
    story.elements.flatMap Passage.element ++ (closeTag storyTag).text, ?_, ⟨rfl, rfl, rfl, rfl⟩⟩
  rw [fill_document hname hifid hformat hversion, text_frame, readTag?_text hplain]

/-- The lines of a story whose stylesheet, script and body speak of slots. -/
def slotLines : List Line :=
  Line.number 0 1 ([":: StoryTitle\n", "Tom & \x7b\x7bx\x7d\x7d\n", ":: A [script]\n",
    "\x7b\x7bSTORY_CSS\x7d\x7d\n", ":: B [stylesheet]\n", "\x7b\x7bSTORY_JS\x7d\x7d\n",
    ":: Start\n", "\x7b\x7bSTORY_FORMAT\x7d\x7d\n"].map String.toList)

theorem isFilled_fill_slotLines :
    let outcome := ofLines .empty .empty (.initial "1f".toList) slotLines
    ∃ story, outcome.story = .ok story ∧ outcome.settings.storyName.IsSlotFree ∧
      outcome.settings.ifid.IsSlotFree ∧
      story.IsFilled outcome.settings "Harlowe".toList "3.3.8".toList
        (story.fill (story.document outcome.settings) "Harlowe".toList "3.3.8".toList) := by
  intro outcome
  have hname : outcome.settings.storyName.IsSlotFree := by decide
  have hifid : outcome.settings.ifid.IsSlotFree := by decide
  obtain ⟨story, hstory⟩ : ∃ story, outcome.story = .ok story :=
    exists_story_of_isOk (by decide)
  exact ⟨story, hstory, hname, hifid, isFilled_fill story outcome.settings hname hifid
    (by decide) (by decide) (by decide) (by decide)⟩

/-- The lines of a story whose title is a slot. -/
def slotTitle : List Line :=
  Line.number 0 1 ([":: StoryTitle\n", "\x7b\x7bSTORY_FORMAT\x7d\x7d\n",
    ":: Start\n", "Hi\n"].map String.toList)

/-- The tag of the document of that story after its slots were filled: the title has gone,
and the slot of the name of the format is open. -/
def slotTitleTag : Tag :=
  ⟨storyTag,
    [("name".toList, "Harlowe".toList), ("startnode".toList, ['1']),
      ("creator".toList, creatorName), ("creator-version".toList, creatorVersion),
      ("ifid".toList, "1F".toList), ("format".toList, formatSlot),
      ("format-version".toList, "3.3.8".toList), ("options".toList, [])]⟩

/-- A title that is a slot is filled in the place of the slot. -/
theorem not_isFilled_fill_slotTitle :
    let outcome := ofLines .empty .empty (.initial "1f".toList) slotTitle
    ∃ story, outcome.story = .ok story ∧ Text.IsSlotFree "Harlowe".toList ∧
      Text.IsSlotFree "3.3.8".toList ∧ '"' ∉ "Harlowe".toList ∧ '"' ∉ "3.3.8".toList ∧
      ¬story.IsFilled outcome.settings "Harlowe".toList "3.3.8".toList
        (story.fill (story.document outcome.settings) "Harlowe".toList "3.3.8".toList) := by
  intro outcome
  have hfill : outcome.story.toOption.any fun story =>
      (story.fill (story.document outcome.settings) "Harlowe".toList
        "3.3.8".toList).beginsWith slotTitleTag.text := by decide +kernel
  cases hstory : outcome.story with
  | error e =>
      rw [hstory] at hfill
      cases hfill
  | ok story =>
      rw [hstory, Except.toOption, Option.any_some] at hfill
      refine ⟨story, rfl, by decide, by decide, by decide, by decide, ?_⟩
      rintro ⟨tag, rest, hread, htag⟩
      obtain ⟨t, ht⟩ := beginsWith_iff.mp hfill
      rw [ht, readTag?_text ⟨by decide, by decide⟩] at hread
      obtain ⟨rfl, -⟩ := Prod.mk.inj (Option.some.inj hread)
      exact absurd htag.formatName (by decide)

end Story

end TweeStory
