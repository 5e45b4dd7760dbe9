/-
Links, `[[body]]`, and the shapes of their bodies.

* `Link.bodies`: the bodies of the links on a line;
* `LinkStyle`, `LinkBody`: the shapes of a body and its two sides;
* `LinkBody.forward?`: `text->dest` and `text|dest`;
* `LinkBody.backward?`: `dest<-text`;
* `LinkBody.fallback`: any other body, by the separator that it has once;
* `LinkBody.parse`: the shape of a body, well-formed ones first.

The text of a link may stand in single or double quotes, and may then hold
separators and that quote after a backslash.
-/
import TweeStory.Source.Line
import TweeStory.Text.Unwrap

namespace TweeStory

/-! ### Finding links -/

/-- The body of the link that begins at the start of the text. -/
def Link.bodyAt? : Text → Option Text
  | '[' :: '[' :: rest =>
    match rest.dropWhile (· ≠ ']') with
    | ']' :: ']' :: _ => some (rest.takeWhile (· ≠ ']'))
    | _ => none
  | _ => none

theorem Link.not_mem_bodyAt? {t body : Text} (h : Link.bodyAt? t = some body) :
    ']' ∉ body := by
  unfold bodyAt? at h
  split at h
  · split at h
    · cases h
      intro hm
      simpa using List.all_eq_true.1 List.all_takeWhile _ hm
    · cases h
  · cases h

/-- The bodies of the links in a text of which `skip` more characters belong to a
link that was found already. -/
def Link.bodiesFrom : (skip : Nat) → Text → List Text
  | _, [] => []
  | skip + 1, _ :: t => bodiesFrom skip t
  | 0, c :: t =>
    match bodyAt? (c :: t) with
    | some body => body :: bodiesFrom (body.length + 3) t
    | none => bodiesFrom 0 t

/-- The bodies of the links in a text, found from left to right.  No body holds a
closing bracket. -/
def Link.bodies (t : Text) : List Text :=
  bodiesFrom 0 t

/-! ### Shapes -/

/-- The shapes of a link body. -/
inductive LinkStyle where
  | bare
  | arrow
  | pipe
  | reverseArrow
  | malformedArrow
  | malformedPipe
  | malformedReverse
deriving DecidableEq, Repr

/-- The name of a shape. -/
def LinkStyle.name : LinkStyle → Text
  | bare => "bare".toList
  | arrow => "->".toList
  | pipe => "|".toList
  | reverseArrow => "<-".toList
  | malformedArrow => "malformed ->".toList
  | malformedPipe => "malformed |".toList
  | malformedReverse => "malformed <-".toList

/-- Whether a shape is one that a separator gives away but its sides do not
fit. -/
def LinkStyle.isMalformed : LinkStyle → Bool
  | malformedArrow | malformedPipe | malformedReverse => true
  | bare | arrow | pipe | reverseArrow => false

/-- The shape of a link body, the text that is shown and the passage that the link
leads to. -/
structure LinkBody where
  style : LinkStyle
  text : Text
  dest : Text
deriving DecidableEq, Repr

/-- A link on a line. -/
structure Link extends LinkBody where
  origin : Origin
deriving DecidableEq, Repr

namespace LinkBody

/-! ### The text side -/

/-- Whether a text may stand without quotes. -/
def isPlain (t : Text) : Bool :=
  !t.isEmpty && t.all fun c => c != '<' && c != '>' && c != '|' && c != '\'' && c != '"'

/-- The ways to close a quote in the text after it, from the shortest: what is
inside and what follows.  Every quote before the closing one stands right after a
backslash; `escaped` says whether the text begins right after one. -/
def closings (quote : Char) : (escaped : Bool) → Text → List (Text × Text)
  | _, [] => []
  | escaped, c :: t =>
    let later := (closings quote (c == '\\') t).map fun (inner, rest) => (c :: inner, rest)
    if c = quote then ([], t) :: (if escaped then later else []) else later

/-- The ways to close a quote with something inside, from the shortest. -/
def quotedSides (quote : Char) (t : Text) : List (Text × Text) :=
  (closings quote false t).filter fun side => !side.1.isEmpty

/-- The text inside quotes without the backslashes before that quote. -/
def unescape (quote : Char) (t : Text) : Text :=
  t.replaceAll ['\\', quote] [quote]

/-- The text that a whole side gives: a quoted text, or a plain one. -/
def textSide? : Text → Option Text
  | [] => none
  | c :: t =>
    if isQuote c then
      ((quotedSides c t).find? fun side => side.2.isEmpty).map fun side => unescape c side.1
    else if isPlain (c :: t) then some (c :: t) else none

/-! ### Separators -/

/-- The texts before and after each occurrence of a separator. -/
def splits (sep : Text) : Text → List (Text × Text)
  | [] => []
  | c :: t =>
    let later := (splits sep t).map fun (before, rest) => (c :: before, rest)
    match Text.after? sep (c :: t) with
    | some rest => ([], rest) :: later
    | none => later

/-- The separator of an arrow link. -/
def arrowMark : Text := "->".toList

/-- The separator of a pipe link. -/
def pipeMark : Text := "|".toList

/-- The separator of a reverse link. -/
def reverseMark : Text := "<-".toList

/-- The shape and the destination, for what follows the text of a link. -/
def destination? (t : Text) : Option (LinkStyle × Text) :=
  match Text.after? arrowMark t with
  | some dest => if dest.isEmpty then none else some (.arrow, dest)
  | none =>
    match Text.after? pipeMark t with
    | some dest => if dest.isEmpty then none else some (.pipe, dest)
    | none => none

/-- The text before the first separator of a forward link, and the text from
it. -/
def untilSeparator? : Text → Option (Text × Text)
  | [] => none
  | c :: t =>
    if Text.beginsWith (c :: t) arrowMark || Text.beginsWith (c :: t) pipeMark then
      some ([], c :: t)
    else (untilSeparator? t).map fun (before, rest) => (c :: before, rest)

/-! ### The shapes in turn -/

/-- Reads `text->dest` or `text|dest`.  Of the ways to close a quoted text, the
longest with a separator and a destination after it counts. -/
def forward? : Text → Option LinkBody
  | [] => none
  | c :: t =>
    if isQuote c then
      (quotedSides c t).reverse.findSome? fun (inner, rest) =>
        (destination? rest).map fun (style, dest) => ⟨style, unescape c inner, dest⟩
    else
      match untilSeparator? (c :: t) with
      | none => none
      | some (text, rest) =>
        if isPlain text then
          (destination? rest).map fun (style, dest) => ⟨style, text, dest⟩
        else none

/-- Reads `dest<-text` at the last separator that leaves a valid text. -/
def backward? (body : Text) : Option LinkBody :=
  (splits reverseMark body).reverse.findSome? fun (dest, side) =>
    if dest.isEmpty then none
    else (textSide? side).map fun text => ⟨.reverseArrow, text, dest⟩

/-- The shape of a body that is not well-formed: by the first of the separators
that occurs exactly once, and bare if none does. -/
def fallback (body : Text) : LinkBody :=
  match splits arrowMark body with
  | [(text, dest)] => ⟨.malformedArrow, text, dest⟩
  | _ =>
    match splits reverseMark body with
    | [(dest, text)] => ⟨.malformedReverse, text, dest⟩
    | _ =>
      match splits pipeMark body with
      | [(text, dest)] => ⟨.malformedPipe, text, dest⟩
      | _ => ⟨.bare, body, body⟩

/-- The shape of a link body. -/
def parse (body : Text) : LinkBody :=
  match forward? body with
  | some link => link
  | none => (backward? body).getD (fallback body)

end LinkBody

end TweeStory
