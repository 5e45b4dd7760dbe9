/-
A file tree as a finite value, seen from a working directory.

* `FileTree`: what stands at each location, a location being the names on the
  way from the root;
* `FileTree.locate`: the location a path leads to, or why it leads nowhere;
* `FileTree.read`: the text of a file;
* `FileTree.write?`: the tree after a file is written, if that is possible;
* `FileTree.makeDirectories`: the tree after the directories of a path are made,
  or what a failure leaves.
-/
import TweeStory.Path

namespace TweeStory

/-- The names on the way from the root to a place in a file tree. -/
abbrev Location := List Text

/-- What stands at a location. -/
inductive Entry where
  | directory
  /-- A file whose bytes are UTF-8. -/
  | text (contents : Text)
  /-- A file whose bytes are not UTF-8. -/
  | binary
deriving DecidableEq, Repr

/-- Why a path gives no text. -/
inductive AccessError where
  /-- Nothing stands where the path leads. -/
  | notFound
  /-- The path is malformed, passes through a file, or leads to something that
  is not text. -/
  | unreadable
deriving DecidableEq, Repr

/-- The entries of a file tree with their locations, and the directory that
relative paths start from. -/
structure FileTree where
  entries : List (Location × Entry)
  here : Location
deriving Repr

namespace FileTree

/-- The number of bytes that a name may have. -/
def nameLimit : Nat := 255

/-- The number of bytes that the text of a path stays below. -/
def pathLimit : Nat := 4096

/-! ### Entries -/

/-- What stands at a location.  The root is always a directory. -/
def at? (tree : FileTree) (loc : Location) : Option Entry :=
  if loc = [] then some .directory
  else (tree.entries.find? fun entry => entry.1 = loc).map Prod.snd

/-- The entries with `entry` at `loc`, in the place of what stood there. -/
def putEntry (loc : Location) (entry : Entry) :
    List (Location × Entry) → List (Location × Entry)
  | [] => [(loc, entry)]
  | (l, e) :: rest =>
    if l = loc then (loc, entry) :: rest else (l, e) :: putEntry loc entry rest

/-- The tree with `entry` at `loc`. -/
def put (tree : FileTree) (loc : Location) (entry : Entry) : FileTree :=
  { tree with entries := putEntry loc entry tree.entries }

theorem find?_putEntry (loc : Location) (entry : Entry) (entries : List (Location × Entry)) :
    (putEntry loc entry entries).find? (fun e => e.1 = loc) = some (loc, entry) := by
  induction entries with
  | nil => simp [putEntry]
  | cons e entries ih =>
    obtain ⟨l, e⟩ := e
    by_cases h : l = loc <;> simp [putEntry, h, ih]

theorem find?_putEntry_of_ne {loc loc' : Location} (h : loc' ≠ loc) (entry : Entry)
    (entries : List (Location × Entry)) :
    (putEntry loc entry entries).find? (fun e => e.1 = loc') =
      entries.find? (fun e => e.1 = loc') := by
  induction entries with
  | nil => simp [putEntry, Ne.symm h]
  | cons e entries ih =>
    obtain ⟨l, e⟩ := e
    by_cases hl : l = loc
    · subst hl; simp [putEntry, Ne.symm h]
    · by_cases hl' : l = loc' <;> simp [putEntry, hl, hl', ih, h]

/-- What is put at a location stands there. -/
theorem at?_put (tree : FileTree) {loc : Location} (h : loc ≠ []) (entry : Entry) :
    (tree.put loc entry).at? loc = some entry := by
  simp [at?, put, h, find?_putEntry]

/-- Nothing changes at other locations. -/
theorem at?_put_of_ne (tree : FileTree) {loc loc' : Location} (h : loc' ≠ loc)
    (entry : Entry) : (tree.put loc entry).at? loc' = tree.at? loc' := by
  simp [at?, put, find?_putEntry_of_ne h]

/-- The names of the entries directly inside a directory. -/
def names (tree : FileTree) (loc : Location) : List Text :=
  tree.entries.filterMap fun entry =>
    match entry.1.getLast? with
    | some name => if entry.1 = loc ++ [name] then some name else none
    | none => none

/-! ### Following a path -/

/-- The location reached from `loc` along pieces of a path.  Each piece, an
empty one too, needs a directory to start from. -/
def walk (tree : FileTree) : Location → List Text → Except AccessError Location
  | loc, [] => .ok loc
  | loc, piece :: rest =>
    match tree.at? loc with
    | none => .error .notFound
    | some .directory =>
      if piece = [] || piece = ['.'] then walk tree loc rest
      else if piece = ['.', '.'] then walk tree loc.dropLast rest
      else if nameLimit < piece.utf8Length then .error .unreadable
      else if (tree.at? (loc ++ [piece])).isNone then .error .notFound
      else walk tree (loc ++ [piece]) rest
    | some _ => .error .unreadable

/-- Whether the text of a path can be looked up at all. -/
def isWellFormed (p : Path) : Bool :=
  !p.text.contains '\x00' && p.text.utf8Length < pathLimit

/-- Where the pieces of a path start. -/
def origin (tree : FileTree) (p : Path) : Location :=
  if p.text.beginsWith ['/'] then [] else tree.here

/-- The location that a path leads to. -/
def locate (tree : FileTree) (p : Path) : Except AccessError Location :=
  if !isWellFormed p then .error .unreadable
  else if p.text = [] then .error .notFound
  else tree.walk (tree.origin p) (p.text.pieces (· == '/'))

/-- What stands where a path leads. -/
def find? (tree : FileTree) (p : Path) : Option Entry :=
  match tree.locate p with
  | .ok loc => tree.at? loc
  | .error _ => none

/-- Whether a path leads to a directory. -/
def isDirectory (tree : FileTree) (p : Path) : Bool :=
  tree.find? p = some .directory

/-- Whether a path leads to a file. -/
def isFile (tree : FileTree) (p : Path) : Bool :=
  match tree.find? p with
  | some (.text _) | some .binary => true
  | _ => false

/-- The names inside the directory that a path leads to. -/
def list (tree : FileTree) (p : Path) : List Text :=
  match tree.locate p with
  | .ok loc => if tree.at? loc = some .directory then tree.names loc else []
  | .error _ => []

/-- The text of the file that a path leads to. -/
def read (tree : FileTree) (p : Path) : Except AccessError Text :=
  match tree.locate p with
  | .error e => .error e
  | .ok loc =>
    match tree.at? loc with
    | some (.text contents) => .ok contents
    | some _ => .error .unreadable
    | none => .error .notFound

/-! ### Changes -/

/-- The location of the file that a write to a path creates or overwrites: a
name in a directory that exists, and no directory itself. -/
def writable? (tree : FileTree) (p : Path) : Option Location :=
  if !isWellFormed p then none
  else
    let pieces := p.text.pieces (· == '/')
    let name := pieces.getLastD []
    if name = [] || name = ['.'] || name = ['.', '.'] || nameLimit < name.utf8Length then none
    else
      match tree.walk (tree.origin p) pieces.dropLast with
      | .error _ => none
      | .ok loc =>
        if tree.at? loc = some .directory &&
            tree.at? (loc ++ [name]) ≠ some .directory then
          some (loc ++ [name])
        else none

/-- The tree after `contents` are written to the file that a path names. -/
def write? (tree : FileTree) (p : Path) (contents : Text) : Option FileTree :=
  (tree.writable? p).map fun loc => tree.put loc (.text contents)

/-- The tree after every directory along the pieces of a path is made that does
not exist yet.  Where one cannot be made, the tree is left with those before it. -/
def makeAlong (tree : FileTree) : Location → List Text → Except FileTree FileTree
  | _, [] => .ok tree
  | loc, piece :: rest =>
    if piece = [] || piece = ['.'] then makeAlong tree loc rest
    else if piece = ['.', '.'] then makeAlong tree loc.dropLast rest
    else if nameLimit < piece.utf8Length then .error tree
    else
      match tree.at? (loc ++ [piece]) with
      | some .directory => makeAlong tree (loc ++ [piece]) rest
      | some _ => .error tree
      | none => makeAlong (tree.put (loc ++ [piece]) .directory) (loc ++ [piece]) rest

/-- The tree after the directory that a path names is made, with those on the
way to it.  The error is the tree that a failure leaves. -/
def makeDirectories (tree : FileTree) (p : Path) : Except FileTree FileTree :=
  if !isWellFormed p then .error tree
  else tree.makeAlong (tree.origin p) (p.text.pieces (· == '/'))

/-- The tree after the directories of a path are made, if all of them can be. -/
def makeDirectories? (tree : FileTree) (p : Path) : Option FileTree :=
  (tree.makeDirectories p).toOption

end FileTree

end TweeStory
