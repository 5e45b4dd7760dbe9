/-
Lines of story source and where they come from.

* `Origin`: a line of a loaded file, by the number of the file and of the line;
* `Line`: a line of source with its origin and the files that led to it.
-/
import TweeStory.Text.Lines

namespace TweeStory

/-- A line of a loaded source file.  Files are numbered from 0 in the order of
loading, lines from 1. -/
structure Origin where
  file : Nat
  line : Nat
deriving DecidableEq, Repr

/-- Whether the first origin is not after the second, by file and then by
line. -/
def Origin.le (a b : Origin) : Bool :=
  a.file < b.file || (a.file == b.file && a.line ≤ b.line)

/-- A line of source.  The text has the line's end, if the file has one there.
A line of an included file keeps its origin in that file. -/
structure Line where
  origin : Origin
  text : Text
  /-- The files whose lines asked for this one, outermost first. -/
  ancestry : List Nat
deriving DecidableEq, Repr

/-- The text of the line without its end. -/
def Line.body (line : Line) : Text :=
  line.text.chomp

/-- The files that a line stands in: those that led to it, then its own. -/
def Line.chain (line : Line) : List Nat :=
  line.ancestry ++ [line.origin.file]

end TweeStory
