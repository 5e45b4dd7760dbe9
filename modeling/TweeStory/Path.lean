/-
Paths as they are written.  The text of a path is kept as it is, and two texts
name the same path when they have the same steps.

* `Path.steps`, `Path.agrees`: the steps of a path and equality by steps, so
  that doubled slashes, inner dots and a final slash do not count;
* `Path.join`: a path read from the end of another;
* `Path.parent?`, `Path.fileName?`: a path without its last step, and the name
  of that step.
-/
import TweeStory.Text.Basic

namespace TweeStory

/-- A path, as its author wrote it. -/
structure Path where
  text : Text
deriving DecidableEq, Repr

/-- A step of a path. -/
inductive Path.Step where
  | root
  | here
  | up
  | child (name : Text)
deriving DecidableEq, Repr

namespace Path

/-- The path whose text is the string `s`. -/
def ofString (s : String) : Path :=
  ⟨s.toList⟩

/-! ### Steps -/

/-- The step that a piece between slashes stands for.  A dot that is not the
first piece, and an empty piece, stand for none. -/
def innerStep? (piece : Text) : Option Step :=
  if piece = [] || piece = ['.'] then none
  else if piece = ['.', '.'] then some .up
  else some (.child piece)

/-- The steps of a path whose pieces between slashes are given.  An empty first
piece with a slash after it is the root. -/
def stepsOfPieces : List Text → List Step
  | [] => []
  | [[]] => []
  | [] :: rest => .root :: rest.filterMap innerStep?
  | ['.'] :: rest => .here :: rest.filterMap innerStep?
  | first :: rest => (first :: rest).filterMap innerStep?

/-- The steps of a path. -/
def steps (p : Path) : List Step :=
  stepsOfPieces (p.text.pieces (· == '/'))

/-- Whether two paths have the same steps. -/
def agrees (p q : Path) : Bool :=
  p.steps = q.steps

/-! ### Composition -/

/-- The path `rest` read from the end of `base`.  An absolute path stays as it
is. -/
def join (base : Path) (rest : Text) : Path :=
  if Text.beginsWith rest ['/'] then ⟨rest⟩
  else if base.text = [] || base.text.finishesWith ['/'] then ⟨base.text ++ rest⟩
  else ⟨base.text ++ '/' :: rest⟩

/-! ### The last step -/

/-- Pieces in reverse, from the last one that stands for a step. -/
def dropIdle (reversed : List Text) : List Text :=
  reversed.dropWhile fun piece => (innerStep? piece).isNone

/-- The path without its last step: the text up to the step before it.  The
root and the empty path have none. -/
def parent? (p : Path) : Option Path :=
  match p.text.pieces (· == '/') with
  | [] => none
  | first :: rest =>
    match dropIdle rest.reverse with
    | [] => if first = [] then none else some ⟨[]⟩
    | _ :: before =>
      match (dropIdle before).reverse with
      | [] => if first = [] then some ⟨['/']⟩ else some ⟨first⟩
      | inner => some ⟨Text.join ['/'] (first :: inner)⟩

/-- The name of the last step, if that step is a name. -/
def fileName? (p : Path) : Option Text :=
  match p.steps.getLast? with
  | some (.child name) => some name
  | _ => none

end Path

end TweeStory
