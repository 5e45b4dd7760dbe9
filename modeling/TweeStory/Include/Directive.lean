/-
Lines that ask for a file, `::@include path`.

* `IncludeDirective.parse?`: the directive on a line, if the line is one.
-/
import TweeStory.Text.Blank

namespace TweeStory

/-- A line that asks for the lines of a file in its place. -/
structure IncludeDirective where
  /-- The white space before the directive, which goes before each line of the
  file. -/
  indent : Text
  /-- The path, read from the directory of the root file. -/
  target : Text
deriving DecidableEq, Repr

/-- The mark that begins the path of a directive. -/
def IncludeDirective.mark : Text := "::@include ".toList

/-- The directive on a line without its end, if the line is one.  The path is what
follows the mark, white space at its ends left out; something has to follow, and
no further line. -/
def IncludeDirective.parse? (body : Text) : Option IncludeDirective := do
  let rest ← Text.after? mark (body.dropWhile isBlank)
  if rest.isEmpty || rest.contains '\n' then none
  else return ⟨body.takeWhile isBlank, rest.trim⟩

end TweeStory
