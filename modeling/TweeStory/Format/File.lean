/-
Story formats in files.

* `FormatFileError`: why a file gives no format;
* `StoryFormat.load`: the format in the file at a path.
-/
import TweeStory.FileTree
import TweeStory.Format.Basic

namespace TweeStory

/-- Why a file gives no story format. -/
inductive FormatFileError where
  /-- The file cannot be read. -/
  | unreadable
  /-- The text of the file gives none. -/
  | inSource (e : FormatError)
deriving DecidableEq, Repr

/-- The story format in the file at a path. -/
def StoryFormat.load (tree : FileTree) (path : Path) : Except FormatFileError StoryFormat :=
  match tree.read path with
  | .error _ => .error .unreadable
  | .ok contents =>
    match ofSource contents with
    | .ok format => .ok format
    | .error e => .error (.inSource e)

end TweeStory
