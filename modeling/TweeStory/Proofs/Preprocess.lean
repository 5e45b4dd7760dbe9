/-
What transformers leave as it is.

* `Registry.exists_apply_eq`: they change the content of a passage, take tags away, and
  leave the rest;
* `Registry.names_run`: the names of the passages of a story stay;
* `Registry.IsIdleOn`: no transformer runs over a passage, which then stays as it is.
-/
import Mathlib.Tactic.Lemma
import TweeStory.Preprocess

namespace TweeStory.Registry

/-- Transformers change the content of a passage and take tags away. -/
lemma exists_apply_eq (registry : Registry) (p : Passage) :
    ∃ tags content, registry.apply p = { p with tags := tags, content := content } ∧
      tags.Sublist p.tags := by
  rw [apply]
  induction registry.entries generalizing p with
  | nil => exact ⟨p.tags, p.content, rfl, List.Sublist.refl _⟩
  | cons entry entries ih =>
      rw [List.foldl_cons, fire]
      split
      · obtain ⟨tags, content, heq, htags⟩ :=
          ih { p.removeTag entry.1 with content := entry.2 p.content }
        exact ⟨tags, content, heq, htags.trans List.filter_sublist⟩
      · exact ih p

@[simp] lemma name_apply (registry : Registry) (p : Passage) :
    (registry.apply p).name = p.name := by
  obtain ⟨tags, content, heq, -⟩ := registry.exists_apply_eq p
  rw [heq]

/-- Transformers leave the names of passages as they are. -/
@[simp] lemma names_run (registry : Registry) (passages : PassageMap) :
    (registry.run passages).names = passages.names := by
  simp [run, PassageMap.names, PassageMap.map]

/-- No transformer is registered for a tag of the passage. -/
def IsIdleOn (registry : Registry) (p : Passage) : Prop :=
  ∀ tag ∈ p.tags, tag ∉ registry.tags

/-- A passage without a tag of a transformer stays as it is. -/
lemma IsIdleOn.apply_eq {registry : Registry} {p : Passage} (h : registry.IsIdleOn p) :
    registry.apply p = p := by
  have hfire : ∀ entry ∈ registry.entries, fire p entry = p := fun entry hentry => by
    rw [fire, if_neg]
    intro htag
    exact h entry.1 (List.contains_iff_mem.mp htag) (List.mem_map_of_mem hentry)
  rw [apply]
  generalize registry.entries = entries at hfire
  induction entries with
  | nil => rfl
  | cons entry entries ih =>
      obtain ⟨hentry, hrest⟩ := List.forall_mem_cons.mp hfire
      rw [List.foldl_cons, hentry, ih hrest]

end TweeStory.Registry
