/-
The document of a story: its data as markup, with slots for what the story format
decides.

* `Markup.field`, `Markup.element`: attributes and elements, as text;
* `Story.document`: the data of a story, the slots open;
* `Story.fill`: the data with its slots filled.

The slots are four tokens.  Each is filled at its first occurrence, the script
before the stylesheet.
-/
import TweeStory.Story.Basic
import TweeStory.Text.Entity

namespace TweeStory

/-! ### Markup -/

/-- An attribute in front of its element's content. -/
def Markup.field (name : Text) (value : Text) : Text :=
  ' ' :: name ++ "=\"".toList ++ value.escaped ++ "\"".toList

/-- An element with its attributes in order and its content, which is markup. -/
def Markup.element (name : Text) (attributes : List (Text × Text)) (content : Text) : Text :=
  '<' :: name ++ attributes.flatMap (fun (key, value) => field key value) ++ ['>'] ++
    content ++ "</".toList ++ name ++ ['>']

/-! ### Slots -/

/-- The slot of the name of the story format. -/
def formatSlot : Text := "\x7b\x7bSTORY_FORMAT\x7d\x7d".toList

/-- The slot of the version of the story format. -/
def formatVersionSlot : Text := "\x7b\x7bSTORY_FORMAT_VERSION\x7d\x7d".toList

/-- The slot of the stylesheet. -/
def cssSlot : Text := "\x7b\x7bSTORY_CSS\x7d\x7d".toList

/-- The slot of the script. -/
def jsSlot : Text := "\x7b\x7bSTORY_JS\x7d\x7d".toList

/-- The name of this program, which the document gives for its creator. -/
def creatorName : Text := "tweeforge".toList

/-- The version of this program. -/
def creatorVersion : Text := "0.1.0".toList

/-! ### The document -/

/-- The element of a passage. -/
def Passage.element (p : Passage) : Text :=
  Markup.element "tw-passagedata".toList
    [("pid".toList, Text.ofNat (p.pid.getD 0)),
      ("name".toList, p.name),
      ("tags".toList, Text.join [' '] p.tags),
      ("position".toList, p.position)]
    p.content.escaped

/-- The element of the stylesheet, its slot open. -/
def styleElement : Text :=
  Markup.element "style".toList
    [("role".toList, "stylesheet".toList),
      ("id".toList, "twine-user-stylesheet".toList),
      ("type".toList, "text/twine-css".toList)]
    cssSlot.escaped

/-- The element of the script, its slot open. -/
def scriptElement : Text :=
  Markup.element "script".toList
    [("role".toList, "script".toList),
      ("id".toList, "twine-user-script".toList),
      ("type".toList, "text/twine-javascript".toList)]
    jsSlot.escaped

/-- The data of a story as one element, the slots open. -/
def Story.document (story : Story) (settings : BuildSettings) : Text :=
  Markup.element "tw-storydata".toList
    [("name".toList, settings.storyName),
      ("startnode".toList, Text.ofNat story.startPid),
      ("creator".toList, creatorName),
      ("creator-version".toList, creatorVersion),
      ("ifid".toList, settings.ifid),
      ("format".toList, formatSlot),
      ("format-version".toList, formatVersionSlot),
      ("options".toList, [])]
    (styleElement ++ scriptElement ++ story.elements.flatMap Passage.element)

/-- The data with the slots filled, each at its first occurrence: the name and the
version of the format, the script, and the stylesheet. -/
def fillSlots (data : Text) (css js formatName formatVersion : Text) : Text :=
  (((data.replaceFirst formatSlot formatName).replaceFirst formatVersionSlot formatVersion)
    |>.replaceFirst jsSlot js)
    |>.replaceFirst cssSlot css

/-- The data with the slots filled for a story and a format. -/
def Story.fill (story : Story) (data formatName formatVersion : Text) : Text :=
  fillSlots data story.css story.js formatName formatVersion

end TweeStory
