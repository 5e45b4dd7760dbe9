/-
Checks of the links on a line.

* `Link.ofLine`: the links on a line;
* `LinkBody.faults`: what is wrong with the quotes of a malformed link;
* `Line.checkLinks`: the links on a line, and the warnings about them in order.
-/
import TweeStory.Link.Basic
import TweeStory.Warning

namespace TweeStory

/-- Whether a character has a meaning in links and in their quoting. -/
def isSpecial (c : Char) : Bool :=
  c == '[' || c == ']' || c == '\'' || c == '"' || c == '\\'

/-- The number of times that a quote stands in the text with no backslash right
before it; `escaped` says whether the text begins right after one. -/
def Text.looseQuotes (quote : Char) : (escaped : Bool) → Text → Nat
  | _, [] => 0
  | escaped, c :: t =>
    (if c = quote && !escaped then 1 else 0) + looseQuotes quote (c == '\\') t

/-- What is wrong with the quotes of a text that is the side of a malformed link.
A quoted text has to end in its quote and to hold that quote only after a
backslash; a text without quotes must not be all special characters. -/
def LinkBody.textFaults : Text → List WarningKind
  | [] => [.unquotedSpecialCharacters []]
  | c :: t =>
    if isQuote c then
      if (c :: t).getLast? = some c then
        List.replicate (Text.looseQuotes c false t.dropLast) (.unquotedQuote (c :: t) c)
      else [.unterminatedQuote (c :: t) c]
    else if (c :: t).all isSpecial then [.unquotedSpecialCharacters (c :: t)]
    else []

/-- What is wrong with the quotes of a link.  Only malformed links are looked
at. -/
def LinkBody.faults (link : LinkBody) : List WarningKind :=
  if link.style.isMalformed then textFaults link.text else []

/-- The links on a line. -/
def Link.ofLine (line : Line) : List Link :=
  (bodies line.text).map fun body => ⟨LinkBody.parse body, line.origin⟩

/-- The warnings about a link. -/
def Link.warnings (link : Link) : Diagnostics :=
  link.faults.map fun kind => ⟨kind, some link.origin, none⟩

/-- The links on a line, and the warnings about them in order. -/
def Line.checkLinks (line : Line) : List Link × Diagnostics :=
  let links := Link.ofLine line
  (links, links.flatMap Link.warnings)

end TweeStory
