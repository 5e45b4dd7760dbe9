/-
Values that may stand in quotes:

* `isQuote`: the single and the double quote;
* `Text.unwrapQuotes`: a value without one pair of equal quotes around it.
-/
import TweeStory.Text.Basic

namespace TweeStory

/-- Whether a character is a single or a double quote. -/
def isQuote (c : Char) : Bool :=
  c == '\'' || c == '"'

/-- The text without the pair of equal quotes around it, if there is one.  A
single character is no pair. -/
def Text.unwrapQuotes : Text → Text
  | [] => []
  | q :: rest =>
    if isQuote q && rest.getLast? = some q then rest.dropLast else q :: rest

end TweeStory
