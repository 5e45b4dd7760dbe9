/-
Transformers of content, chosen by the tags of a passage.

* `Registry`: tags with their transformers in the order of registration;
* `Registry.register`: the registry with a transformer for a tag;
* `Registry.apply`, `Registry.run`: the transformers run over a passage and over
  all passages of a story.

A transformer runs over the passages with its tag, and the tag is then gone.
-/
import TweeStory.Passage.Map

namespace TweeStory

/-- A function from the content of a passage to new content. -/
abbrev Transformer := Text → Text

/-- Transformers by tag, in the order in which their tags were registered. -/
structure Registry where
  entries : List (Text × Transformer)

namespace Registry

/-- No transformer. -/
def empty : Registry := ⟨[]⟩

/-- The entries with a transformer for `tag`, in the place of the one that the tag
had, or at the end. -/
def put (tag : Text) (f : Transformer) : List (Text × Transformer) → List (Text × Transformer)
  | [] => [(tag, f)]
  | (t, g) :: rest => if t = tag then (tag, f) :: rest else (t, g) :: put tag f rest

/-- The registry with a transformer for a tag.  A tag that is registered again keeps
its place in the order. -/
def register (registry : Registry) (tag : Text) (f : Transformer) : Registry :=
  ⟨put tag f registry.entries⟩

/-- The registered tags in order. -/
def tags (registry : Registry) : List Text :=
  registry.entries.map Prod.fst

theorem map_fst_put (tag : Text) (f : Transformer) (entries : List (Text × Transformer)) :
    (put tag f entries).map Prod.fst =
      if tag ∈ entries.map Prod.fst then entries.map Prod.fst
      else entries.map Prod.fst ++ [tag] := by
  induction entries with
  | nil => simp [put]
  | cons e entries ih =>
    obtain ⟨t, g⟩ := e
    by_cases h : t = tag
    · simp [put, h]
    · simp only [put, h, if_false, List.map_cons, ih, List.mem_cons, Ne.symm h, false_or]
      split <;> simp

/-- Only a tag that is new changes the list of tags. -/
theorem tags_register (registry : Registry) (tag : Text) (f : Transformer) :
    (registry.register tag f).tags =
      if tag ∈ registry.tags then registry.tags else registry.tags ++ [tag] :=
  map_fst_put tag f registry.entries

/-- The passage after one transformer, which runs if the passage has its tag. -/
def fire (p : Passage) (entry : Text × Transformer) : Passage :=
  if p.hasTag entry.1 then { p.removeTag entry.1 with content := entry.2 p.content } else p

/-- The passage after all transformers in order. -/
def apply (registry : Registry) (p : Passage) : Passage :=
  registry.entries.foldl fire p

/-- The passages after all transformers. -/
def run (registry : Registry) (passages : PassageMap) : PassageMap :=
  passages.map registry.apply

end Registry

end TweeStory
