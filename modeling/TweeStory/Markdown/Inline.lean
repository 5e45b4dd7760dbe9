/-
What a line of prose is made of.

* `Inline`: text, code, breaks, emphasis, links, images and raw markup;
* `Inline.plain`: the text of an element, for readers who do not see it.
-/
import TweeStory.Text.Basic

namespace TweeStory.Markdown

/-- A part of prose. -/
inductive Inline where
  | text (t : Text)
  | code (t : Text)
  /-- Markup that is passed on as it is. -/
  | raw (t : Text)
  /-- The end of a line inside a paragraph. -/
  | softBreak
  /-- The end of a line that is kept. -/
  | hardBreak
  | emphasis (body : List Inline)
  | strong (body : List Inline)
  | link (target title : Text) (body : List Inline)
  | image (target title : Text) (body : List Inline)
deriving Repr

mutual

/-- The text of a part of prose, with a space for each end of a line. -/
def Inline.plain : Inline → Text
  | .text t | .code t | .raw t => t
  | .softBreak | .hardBreak => [' ']
  | .emphasis body | .strong body | .link _ _ body | .image _ _ body => Inline.plainAll body

/-- The texts of parts of prose. -/
def Inline.plainAll : List Inline → Text
  | [] => []
  | part :: rest => part.plain ++ Inline.plainAll rest

end

end TweeStory.Markdown
