/-
Values of known shapes.

* `Json.text?`, `Json.texts?`: a string and a list of strings;
* `Json.entries?`: an object as a table;
* `Json.record?`: a record with fields of given names.
-/
import TweeStory.Json.Basic

namespace TweeStory.Json

/-- The text of a string. -/
def text? : Json → Option Text
  | .string text => text
  | _ => none

/-- The texts of an array of strings. -/
def texts? : Json → Option (List Text)
  | .array items => items.mapM text?
  | _ => none

/-- The members of an object with their names. -/
def entries? : Json → Option (List (Text × Json))
  | .object members => members.mapM fun (name, value) => name.map fun name => (name, value)
  | _ => none

/-- The values of a record with the given fields, each field at most once.  Other
members are passed over.  A record may also be written as an array of its first
fields in order. -/
def record? (fields : List Text) : Json → Option (List (Option Json))
  | .array items =>
    if fields.length < items.length then none
    else some (fields.mapIdx fun i _ => items[i]?)
  | json => do
    let entries ← entries? json
    fields.mapM fun field =>
      match entries.filter fun entry => entry.1 = field with
      | [] => some none
      | [entry] => some (some entry.2)
      | _ => none

/-- The value of a field that may be left out. -/
def optional? {α : Type} (decode : Json → Option α) (default : α) : Option Json → Option α
  | none => some default
  | some value => decode value

end TweeStory.Json
