/-
Story formats, which turn the data of a story into a page.

* `StoryFormat`: the name, the version and the template of a format;
* `StoryFormat.object?`: the object inside the text of a format file;
* `StoryFormat.ofSource`: the format that the text of a format file gives;
* `StoryFormat.render`: the page of a story.
-/
import TweeStory.Json.Decode

namespace TweeStory

/-- A story format. -/
structure StoryFormat where
  name : Text
  version : Text
  /-- The template of a page, with slots for the name and the data of a story. -/
  source : Text
deriving DecidableEq, Repr

/-- Why the text of a format file gives no format. -/
inductive FormatError where
  /-- It has no object. -/
  | noObject
  /-- What would end the object stands before its beginning. -/
  | crossed
  /-- The object does not describe a format. -/
  | malformed
deriving DecidableEq, Repr

/-- The words of the error. -/
def FormatError.message : FormatError → Text
  | noObject => "Could not find Twine2 JSON blob".toList
  | crossed => "The JSON blob of the story format ends before it begins".toList
  | malformed => "Failed to parse story format JSON".toList

namespace StoryFormat

/-! ### Reading -/

/-- The name of a format that gives none. -/
def defaultName : Text := "Untitled Story Format".toList

/-- A word in the text of formats whose object holds code. -/
def codeWord : Text := "harlowe".toList

/-- What begins the member of an object that holds code. -/
def codeMark : Text := ",\"setup\":".toList

/-- What the object ends with: its closing brace, or the member that holds code,
which is no JSON. -/
def endMark (contents : Text) : Text :=
  if contents.includes codeWord then codeMark else ['\x7d']

/-- The object inside the text of a format file: from the first opening brace to
the last end mark, closed again. -/
def object? (contents : Text) : Except FormatError Text :=
  match Text.cut? ['\x7b'] contents, Text.cutLast? (endMark contents) contents with
  | some (before, _), some (upToEnd, _) =>
    if before.length ≤ upToEnd.length then .ok (upToEnd.drop before.length ++ ['\x7d'])
    else .error .crossed
  | _, _ => .error .noObject

/-- The format that a JSON value describes. -/
def ofJson? (json : Json) : Option StoryFormat := do
  match ← json.record? ["name".toList, "version".toList, "source".toList] with
  | [name, some version, some source] =>
    return ⟨← Json.optional? Json.text? defaultName name, ← version.text?, ← source.text?⟩
  | _ => none

/-- The format that the text of a format file gives. -/
def ofSource (contents : Text) : Except FormatError StoryFormat :=
  match object? contents with
  | .error e => .error e
  | .ok object =>
    match (Json.parse? object).bind ofJson? with
    | some format => .ok format
    | none => .error .malformed

/-! ### Pages -/

/-- The slot of the name of the story. -/
def nameSlot : Text := "\x7b\x7bSTORY_NAME\x7d\x7d".toList

/-- The slot of the data of the story. -/
def dataSlot : Text := "\x7b\x7bSTORY_DATA\x7d\x7d".toList

/-- The page of a story: the template with the name in all its slots and then the
data in all its slots. -/
def render (format : StoryFormat) (storyName storyData : Text) : Text :=
  (format.source.replaceAll nameSlot storyName).replaceAll dataSlot storyData

end StoryFormat

end TweeStory
