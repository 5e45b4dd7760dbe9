/-
The links of a story.

* `Story.checkLinks`: the links of all passages, and the warnings about them.
-/
import TweeStory.Link.Check
import TweeStory.Story.Basic

namespace TweeStory

/-- The lines of all passages of a story in order. -/
def Story.bodyLines (story : Story) : List Line :=
  story.passages.records.flatMap (·.lines)

/-- The links of all passages in order, and the warnings about them. -/
def Story.checkLinks (story : Story) : List Link × Diagnostics :=
  (story.bodyLines.flatMap fun line => line.checkLinks.1,
    story.bodyLines.flatMap fun line => line.checkLinks.2)

end TweeStory
