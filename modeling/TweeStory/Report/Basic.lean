/-
Reports, which show a problem with the lines that it is about.

* `Severity`: how bad a problem is;
* `Label`: a marked line of a source;
* `Report`: a problem with its lines and hints;
* `Report.print`: a report on a terminal.

A report begins with its severity, code and message.  For each source that has
marked lines follows where the first of them is, and the lines with marks below
them: `^` below the line that the problem is on, `-` below a line that it refers
to.  Hints come last.
-/
import TweeStory.Source.Library
import TweeStory.Terminal
import TweeStory.Text.Width

namespace TweeStory

/-- How bad a problem is. -/
inductive Severity where
  | note
  | warning
  | error
deriving DecidableEq, Repr

/-- The word for a severity in a report. -/
def Severity.word : Severity → Text
  | note => "note".toList
  | warning => "warning".toList
  | error => "error".toList

/-- The colour of a severity. -/
def Severity.colour : Severity → Terminal.Colour
  | note => .green
  | warning => .yellow
  | error => .red

/-- A marked line of a source. -/
structure Label where
  /-- Whether the problem is on this line, and not only refers to it. -/
  primary : Bool
  file : Nat
  /-- The line without its end. -/
  range : ByteRange
  message : Text
deriving DecidableEq, Repr

/-- A problem with the lines that it is about. -/
structure Report where
  severity : Severity
  code : Text
  message : Text
  labels : List Label
  notes : List Text
deriving Repr

namespace Report

open Terminal (Item Style styled)

/-! ### Margins -/

/-- The style of margins and line numbers. -/
def marginStyle : Style := .plain .blue

/-- The style of the marks and messages of a line. -/
def labelStyle (severity : Severity) (primary : Bool) : Style :=
  if primary then .plain severity.colour else .plain .blue

/-- Spaces in place of a line number of at most `width` digits. -/
def gutter (width : Nat) : Item :=
  .text (List.replicate (width + 1) ' ')

/-- A number at the right of `width` columns. -/
def rightAligned (width n : Nat) : Text :=
  let digits := Text.ofNat n
  List.replicate (width - digits.length) ' ' ++ digits

/-- The end of a line. -/
def newline : Item := .ofString "\n"

/-- The line to the right of the line numbers. -/
def border : List Item :=
  styled marginStyle "│".toList

/-- A row without a line number. -/
def row (width : Nat) (items : List Item) : List Item :=
  gutter width :: border ++ items ++ [newline]

/-! ### A line of source -/

/-- The characters of a line with the offset and the number of columns of each, for
a text at a byte offset and a column.  A tab goes to the next multiple of four. -/
def columnsFrom (offset column : Nat) : Text → List (Nat × Nat × Char)
  | [] => []
  | c :: t =>
    let width := if c = '\t' then 4 - column % 4 else columns c
    (offset, width, c) :: columnsFrom (offset + c.utf8Size) (column + width) t

/-- A line as it is shown, with spaces for tabs. -/
def shown (t : Text) : Text :=
  (columnsFrom 0 0 t).flatMap fun (_, width, c) =>
    if c = '\t' then List.replicate width ' ' else [c]

/-- A line of source without its end and without null characters before that. -/
def withoutEnd (t : Text) : Text :=
  Text.dropEndWhile (fun c => c == '\n' || c == '\r' || c == '\x00') t

/-- The number of marks below the first `length` bytes of a line: one for each
column, and one more if the line is shorter than that. -/
def markCount (source : Text) (length : Nat) : Nat :=
  let under := (columnsFrom 0 0 source).filter fun entry => entry.1 < length
  let columns := under.foldr (fun entry count => entry.2.1 + count) 0
  columns + if source.utf8Length < length then 1 else 0

/-- A marked line, by its index in its source. -/
structure MarkedLine where
  index : Nat
  labels : List Label

/-- The bytes that marks stand below.  Even an empty line has one. -/
def Label.length (label : Label) : Nat :=
  max 1 (label.range.stop - label.range.start)

/-- A line of source with its number. -/
def sourceRow (width number : Nat) (items : List Item) : List Item :=
  styled marginStyle (rightAligned width number) ++ .text [' '] :: border ++ .text [' '] :: items ++
    [newline]

/-- A line of source without marks. -/
def plainLine (width number : Nat) (text : Text) : List Item :=
  sourceRow width number [.text (shown (withoutEnd text))]

/-- The row of marks below a line and what hangs below the marks.  The message of
a label stands beside its marks if no other label marks the line, and hangs below
them if one does. -/
def marks (width : Nat) (severity : Severity) (source : Text) (labels : List Label) :
    List Item :=
  let primary := labels.any (·.primary)
  let length := (labels.map Label.length).foldr max 0
  let mark := if primary then '^' else '-'
  let marked := .text [' '] ::
    styled (labelStyle severity primary) (List.replicate (markCount source length) mark)
  let said := labels.filter fun label => !label.message.isEmpty
  match labels, said with
  | [_], [label] =>
    row width (marked ++ .text [' '] :: styled (labelStyle severity label.primary) label.message)
  | _, [] => row width marked
  | _, _ =>
    let pointer := (columnsFrom 0 0 source).head?.elim [] fun (_, columns, _) =>
      styled (labelStyle severity (said.any (·.primary))) "│".toList ++
        [.text (List.replicate (columns - 1) ' ')]
    row width marked ++ row width (.text [' '] :: pointer) ++
      said.reverse.flatMap fun label =>
        row width (.text [' '] :: styled (labelStyle severity label.primary) label.message)

/-- A marked line with its marks. -/
def markedLine (width number : Nat) (severity : Severity) (text : Text)
    (labels : List Label) : List Item :=
  let source := withoutEnd text
  let content : List Item :=
    if labels.any (·.primary) && !source.isEmpty then
      styled (labelStyle severity true) (shown source)
    else [.text (shown source)]
  sourceRow width number content ++ marks width severity source labels

/-! ### The lines of a source -/

/-- The text of a line of a source with its end, lines counting from 0. -/
def lineText (sources : Sources) (file index : Nat) : Text :=
  (do (← sources.contents? file).slice? (← sources.lineRange? file index)).getD []

/-- The marked lines with one more label, in rising order. -/
def addLabel (index : Nat) (label : Label) : List MarkedLine → List MarkedLine
  | [] => [⟨index, [label]⟩]
  | line :: rest =>
    if index < line.index then ⟨index, [label]⟩ :: line :: rest
    else if index = line.index then { line with labels := line.labels ++ [label] } :: rest
    else line :: addLabel index label rest

/-- What stands between two marked lines: nothing, the line between them if there
is just one, or a break. -/
def between (sources : Sources) (width file first next : Nat) : List Item :=
  if next = first + 1 then []
  else if next = first + 2 then
    plainLine width (first + 2) (lineText sources file (first + 1))
  else gutter width :: styled marginStyle "·".toList ++ [newline]

/-- The marked lines of a source in order. -/
def printLines (sources : Sources) (width file : Nat) (severity : Severity) :
    List MarkedLine → List Item
  | [] => []
  | line :: rest =>
    markedLine width (line.index + 1) severity (lineText sources file line.index) line.labels ++
      (match rest with
        | [] => []
        | next :: _ => between sources width file line.index next.index) ++
      printLines sources width file severity rest

/-- The marked lines of a source, and before them where the first of them is. -/
def printFile (sources : Sources) (width : Nat) (severity : Severity) (file : Nat)
    (lines : List MarkedLine) : List Item :=
  let place := (sources.name? file).getD [] ++ ':' ::
    Text.ofNat ((lines.head?.map (·.index)).getD 0 + 1) ++ ":1".toList
  gutter width :: styled marginStyle "┌─".toList ++ [.text (' ' :: place), newline] ++
    row width [] ++ printLines sources width file severity lines

/-! ### Whole reports -/

/-- The index of the line that a label marks. -/
def Label.index (sources : Sources) (label : Label) : Nat :=
  (sources.lineIndex? label.file label.range.start).getD 0

/-- The sources that labels are in, each once. -/
def filesOf (labels : List Label) : List Nat :=
  labels.foldl (fun files label =>
    if files.contains label.file then files else files ++ [label.file]) []

/-- The marked lines of a source. -/
def linesOf (sources : Sources) (labels : List Label) (file : Nat) : List MarkedLine :=
  (labels.filter fun label => label.file = file).foldl
    (fun lines label => addLabel (Label.index sources label) label lines) []

/-- The number of digits of the largest line number. -/
def numberWidth (sources : Sources) (labels : List Label) : Nat :=
  (labels.map fun label => (Text.ofNat (Label.index sources label + 1)).length).foldr max 0

/-- The sources in order, with an empty row between each two. -/
def printFiles (sources : Sources) (width : Nat) (severity : Severity) (labels : List Label) :
    List Nat → List Item
  | [] => []
  | file :: rest =>
    printFile sources width severity file (linesOf sources labels file) ++
      (if rest.isEmpty then [] else row width []) ++
      printFiles sources width severity labels rest

/-- A hint, its further lines below the first. -/
def printNote (width : Nat) (note : Text) : List Item :=
  match note.lines with
  | [] => []
  | first :: rest =>
    gutter width :: styled marginStyle "=".toList ++ [.text (' ' :: first), newline] ++
      rest.flatMap fun line => [gutter width, .text (' ' :: ' ' :: line), newline]

/-- The first line of a report. -/
def heading (report : Report) : List Item :=
  [.style ⟨some report.severity.colour, true, true⟩,
    .text (report.severity.word ++ '[' :: report.code ++ [']']),
    .style ⟨none, true, true⟩, .text (": ".toList ++ report.message), .reset, newline]

/-- A report on a terminal. -/
def print (sources : Sources) (report : Report) : List Item :=
  let width := numberWidth sources report.labels
  report.heading ++
    printFiles sources width report.severity report.labels (filesOf report.labels) ++
    (if report.labels.isEmpty || report.notes.isEmpty then [] else row width []) ++
    report.notes.flatMap (printNote width) ++ [newline]

end Report

end TweeStory
