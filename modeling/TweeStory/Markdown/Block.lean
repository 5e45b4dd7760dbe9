/-
What a text is made of: paragraphs, headings, code, and the containers of them.

* `Block`: a part of a text;
* `takeIndented`, `takeFenced`, `takeRaw`: the lines of code and of markup;
* `Outline`: the parts of a text that have been read, complete or still open;
* `Outline.readPart`: reads one part;
* `Block.ofText`: the parts of a text.

A line belongs to the open containers whose margins it has.  A paragraph goes on without
them, as long as the line is not the start of something else.
-/
import TweeStory.Markdown.Definition

namespace TweeStory.Markdown

/-- A part of a text. -/
inductive Block where
  | paragraph (p : Prose)
  /-- A heading, and the white space at the end of its line. -/
  | heading (level : Nat) (p : Prose) (space : Text)
  | code (language contents : Text)
  /-- Markup that is passed on as it is. -/
  | raw (contents : Text)
  | rule
  | quote (body : List Block)
  /-- A list from a number on.  In a loose one the items have paragraphs. -/
  | list (kind : ListKind) (number : Nat) (isLoose : Bool) (items : List Block)
  | item (body : List Block)
deriving Repr

/-! ### Code and markup -/

/-- A line of code, and whether it is blank. -/
structure CodeLine where
  words : Text
  isBlank : Bool
deriving DecidableEq, Repr

/-- The lines of indented code from a cursor on, `n` of them at most, and the text after
them. -/
def takeIndented (containers : List Container) : (n : Nat) → Cursor → List CodeLine × Text
  | 0, c => ([], c.rest)
  | n + 1, c =>
    let line : CodeLine := ⟨c.keptLine, startsBlank c.rest⟩
    let (lacking, next) := enterText containers c.afterKept
    let (indent, inner) := next.skip codeIndent
    if c.afterKept ≠ [] && lacking = 0 && (indent = codeIndent || isAtLineEnd inner.rest) then
      let (more, rest) := takeIndented containers n inner
      (line :: more, rest)
    else ([line], c.afterKept)

/-- Code without the blank lines at its end. -/
def codeContents (lines : List CodeLine) : Text :=
  (lines.reverse.dropWhile (·.isBlank)).reverse.flatMap (·.words)

/-- The lines of code that a fence began, `n` of them at most, and the text after them. -/
def takeFenced (containers : List Container) (fence : Fence) : (n : Nat) → Text → Text × Text
  | 0, t => ([], t)
  | n + 1, t =>
    let (lacking, c) := enterText containers t
    let c := c.past fence.indent
    let (indent, inner) := c.skip (codeIndent - fence.indent)
    if lacking ≠ 0 then ([], t)
    else if indent < codeIndent - fence.indent &&
        (inner.rest = [] || fence.isClosedBy (firstLine inner.rest)) then
      ([], afterLine inner.rest)
    else
      let (more, rest) := takeFenced containers fence n c.afterKept
      (c.keptLine ++ more, rest)

/-- The lines of a block of markup from a cursor on, `n` of them at most, and the text after
them. -/
def takeRaw (containers : List Container) (stop : RawEnd) : (n : Nat) → Cursor → Text × Text
  | 0, c => ([], c.rest)
  | n + 1, c =>
    let (lacking, next) := enterText containers c.afterKept
    if lacking ≠ 0 || stop.isMet (fullLine c.rest) || next.rest = [] ||
        (stop = .blank && startsBlank next.rest) then
      (c.keptLine, c.afterKept)
    else
      let (more, rest) := takeRaw containers stop n next
      (c.keptLine ++ more, rest)

/-! ### Outlines -/

/-- An open container, with the parts in it that are complete, latest first. -/
structure Frame where
  container : Container
  blocks : List Block
deriving Repr

/-- The parts of a text that have been read. -/
structure Outline where
  /-- The complete parts that are in no container, latest first. -/
  blocks : List Block
  /-- The open containers, innermost first. -/
  frames : List Frame
  /-- Whether there was a blank line since the latest part began. -/
  isAfterBlank : Bool
  /-- Whether the latest line with a part was the marker of an item and nothing else. -/
  beginsItem : Bool
  /-- The definitions so far. -/
  definitions : List Definition
deriving Repr

/-- A container as a part. -/
def Frame.toBlock (f : Frame) : Block :=
  match f.container with
  | .quote => .quote f.blocks.reverse
  | .list kind number isLoose => .list kind number isLoose f.blocks.reverse
  | .item _ => .item f.blocks.reverse

namespace Outline

/-- Nothing has been read. -/
def empty : Outline := ⟨[], [], false, false, []⟩

/-- The open containers, innermost first. -/
def containers (o : Outline) : List Container :=
  o.frames.map (·.container)

/-- One more complete part in the innermost container. -/
def add (o : Outline) (block : Block) : Outline :=
  match o.frames with
  | [] => { o with blocks := block :: o.blocks }
  | f :: outer => { o with frames := { f with blocks := block :: f.blocks } :: outer }

/-- Completes the innermost container. -/
def closeFrame (o : Outline) : Outline :=
  match o.frames with
  | [] => o
  | f :: outer =>
    { o with
      frames := outer
      beginsItem := o.beginsItem && !(f.container matches .list _ _ false) }.add f.toBlock

/-- Completes the innermost `n` containers. -/
def closeFrames : (n : Nat) → Outline → Outline
  | 0, o => o
  | n + 1, o => closeFrames n o.closeFrame

/-- One more open container. -/
def push (o : Outline) (container : Container) : Outline :=
  { o with frames := ⟨container, []⟩ :: o.frames }

/-- Completes an item that began with two blank lines. -/
def closeEmptyItem (o : Outline) : Outline :=
  let o' :=
    match o.frames with
    | ⟨.item _, _⟩ :: _ => if o.beginsItem && o.isAfterBlank then o.closeFrame else o
    | _ => o
  { o' with beginsItem := false }

/-- Makes a list loose if it is the container of the innermost one. -/
def loosenOuter : List Frame → List Frame
  | f :: ⟨.list kind number _, blocks⟩ :: outer => f :: ⟨.list kind number true, blocks⟩ :: outer
  | frames => frames

/-- Makes way for a part that is no list item: completes a list that is innermost.  A
blank line before the part makes the list loose that it is in. -/
def beginPart (o : Outline) : Outline :=
  let o := o.closeEmptyItem
  let o :=
    match o.frames with
    | ⟨.list .., _⟩ :: _ => o.closeFrame
    | _ => o
  if o.isAfterBlank then { o with frames := loosenOuter o.frames, isAfterBlank := false } else o

/-- Begins a list. -/
def beginList (o : Outline) (m : ListMarker) : Outline :=
  { o.beginPart.push (.list m.kind m.number false) with isAfterBlank := false }

/-- Makes way for a list item: the innermost container is then a list of its kind. -/
def beginItem (o : Outline) (m : ListMarker) : Outline :=
  let o := o.closeEmptyItem
  match o.frames with
  | ⟨.list kind number isLoose, blocks⟩ :: outer =>
    if kind = m.kind then
      { o with
        frames := ⟨.list kind number (isLoose || o.isAfterBlank), blocks⟩ :: outer
        isAfterBlank := false }
    else o.beginList m
  | _ => o.beginList m

/-! ### Starts -/

/-- Opens the containers that begin at a cursor, `n` at most.  There is no cursor after
the marker of an item with nothing after it. -/
def openContainers : (n : Nat) → Outline → Cursor → Outline × Option Cursor
  | 0, o, c => (o, some c)
  | n + 1, o, c =>
    let (indent, inner) := c.skip codeIndent
    if indent = codeIndent then (o, some c)
    else
      match listMarker? (firstLine inner.rest) with
      | some m =>
        let (contents, inner) := m.contents indent inner
        let o := (o.beginItem m).push (.item contents)
        if startsBlank inner.rest then ({ o with beginsItem := true }, none)
        else openContainers n o inner
      | none =>
        match afterQuoteMarker? inner with
        | some inner => openContainers n (o.beginPart.push .quote) inner
        | none => (o, some c)

/-- Notes a blank line.  Directly inside a quote it does not count.  An item that has begun
with one goes on without a margin. -/
def addBlank (o : Outline) : Outline :=
  match o.frames with
  | ⟨.quote, _⟩ :: _ => o
  | ⟨.item indent, blocks⟩ :: outer =>
    { o with
      frames := ⟨.item (if o.beginsItem then 0 else indent), blocks⟩ :: outer
      isAfterBlank := true }
  | _ => { o with isAfterBlank := true }

/-! ### Parts -/

/-- Reads indented code from a cursor on. -/
def readIndented (o : Outline) (c : Cursor) : Outline × Text :=
  let o := o.beginPart
  let (lines, rest) := takeIndented o.containers c.rest.length c
  ({ o with isAfterBlank := (lines.getLast?).elim false (·.isBlank) }.add
    (.code [] (codeContents lines)), rest)

/-- Reads code that a fence begins before a text. -/
def readFenced (o : Outline) (fence : Fence) (t : Text) : Outline × Text :=
  let o := o.beginPart
  let (contents, rest) := takeFenced o.containers fence t.length t
  (o.add (.code (fence.info.takeWhile (· ≠ ' ')) contents), rest)

/-- Reads a block of markup from a cursor on. -/
def readRaw (o : Outline) (stop : RawEnd) (c : Cursor) : Outline × Text :=
  let o := o.beginPart
  let (contents, rest) := takeRaw o.containers stop c.rest.length c
  (o.add (.raw contents), rest)

/-- Reads a heading with `level` hashes at the start of a text. -/
def readHeading (o : Outline) (level : Nat) (t : Text) : Outline × Text :=
  let (words, space) := headingWords ((firstLine t).drop level)
  (o.beginPart.add (.heading level (.ofText words) space), afterLine t)

/-- Reads a paragraph, or a heading with a line under it. -/
def readParagraph (o : Outline) (t : Text) : Outline × Text :=
  let o := o.beginPart
  let (p, level?, rest) := takeProse o.containers t.length t
  let p := Prose.withoutSpaceAtEnd p
  match level? with
  | some level => (o.add (.heading level p []), rest)
  | none => (o.add (.paragraph p), rest)

/-- Reads a part that holds no others at the start of a text, `indent` columns from its
margin. -/
def readLeaf (o : Outline) (indent : Nat) (c : Cursor) : Outline × Text :=
  let t := c.rest
  match RawEnd.start? (firstLine t) with
  | some stop => o.readRaw stop { c with spare := indent }
  | none =>
    if isRule (firstLine t) then (o.beginPart.add .rule, afterLine t)
    else
      match headingLevel? (firstLine t), Fence.ofText? indent t, definition? o.containers t with
      | some level, _, _ => o.readHeading level t
      | none, some fence, _ => o.readFenced fence c.afterKept
      | none, none, some (d, rest) => ({ o with definitions := o.definitions ++ [d] }, rest)
      | none, none, none => o.readParagraph t

/-- Reads a part, a definition or a blank line at the start of a text that is not empty, and
gives the rest. -/
def readPart (o : Outline) (t : Text) : Outline × Text :=
  let (lacking, c) := enterText o.containers t
  match openContainers t.length (closeFrames lacking o) c with
  | (o, none) => (o, afterLine t)
  | (o, some c) =>
    let (indent, inner) := c.skip codeIndent
    if startsBlank c.rest then (o.addBlank, afterLine c.rest)
    else if indent = codeIndent then o.readIndented inner
    else o.readLeaf indent inner

/-- Reads at most `n` parts of a text. -/
def readParts : (n : Nat) → Outline → Text → Outline
  | 0, o, _ => o
  | _, o, [] => o
  | n + 1, o, t =>
    let (o, rest) := o.readPart t
    readParts n o rest

/-- Completes everything that is open. -/
def close (o : Outline) : Outline :=
  closeFrames o.frames.length o

end Outline

/-! ### Texts -/

/-- The outline of a whole text. -/
def Outline.ofText (t : Text) : Outline :=
  (Outline.empty.readParts t.length t).close

/-- The parts of a text, and its definitions. -/
def Block.ofText (t : Text) : List Block × List Definition :=
  let o := Outline.ofText t
  (o.blocks.reverse, o.definitions)

end TweeStory.Markdown
