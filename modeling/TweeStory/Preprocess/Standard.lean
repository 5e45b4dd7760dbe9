/-
The transformers that every run has.

* `Registry.standard`: the registry with them.
-/
import TweeStory.Markdown.Page
import TweeStory.Preprocess

namespace TweeStory

/-- The tag of passages that are written in Markdown. -/
def markdownTag : Text := "markdown".toList

/-- The registry of a run. -/
def Registry.standard : Registry :=
  Registry.empty.register markdownTag Markdown.render

end TweeStory
