/-
What the transformers of a registry do to a passage together.

* `Registry.ofCalls`, `Registry.last?`: the registry after transformers were registered one
  after the other, and the one registered last for a tag;
* `tags_ofCalls`, `transformer?_ofCalls`: a tag keeps the place where it was first registered,
  with the transformer registered last for it;
* `tags_apply`, `content_apply`: what the transformers of a registry make of a passage, which has
  none of their tags afterwards;
* `Registry.transformers`: those that run over a passage, each once and in order;
* `Registry.composes_ofCalls`: what they do, once and again, to a passage and to all passages.
-/
import Mathlib.Data.List.Induction
import TweeStory.Proofs.Passage.Header
import TweeStory.Proofs.Preprocess

namespace TweeStory.Registry

variable {entries calls : List (Text × Transformer)} {call : Text × Transformer} {tag : Text}
  {registry : Registry} {p : Passage}

/-! ### Registering -/

/-- The registry after transformers were registered for tags, one after the other. -/
def ofCalls (calls : List (Text × Transformer)) : Registry :=
  calls.foldl (fun registry call => registry.register call.1 call.2) empty

/-- The transformer that was registered last for a tag. -/
def last? (calls : List (Text × Transformer)) (tag : Text) : Option Transformer :=
  (calls.reverse.find? fun call => call.1 = tag).map Prod.snd

/-- The transformer that the registry has for a tag. -/
def transformer? (registry : Registry) (tag : Text) : Option Transformer :=
  (registry.entries.find? fun entry => entry.1 = tag).map Prod.snd

lemma ofCalls_concat (calls : List (Text × Transformer)) (call : Text × Transformer) :
    ofCalls (calls ++ [call]) = (ofCalls calls).register call.1 call.2 := by
  rw [ofCalls, List.foldl_concat, ofCalls]

lemma last?_concat :
    last? (calls ++ [call]) tag = if call.1 = tag then some call.2 else last? calls tag := by
  rw [last?, List.reverse_concat, List.find?_cons]
  by_cases h : call.1 = tag <;> simp [h, last?]

/-- A new transformer for a tag takes the place of the one it had, and no other. -/
lemma find?_put (f : Transformer) :
    (put call.1 f entries).find? (fun entry => entry.1 = tag) =
      if call.1 = tag then some (call.1, f) else entries.find? fun entry => entry.1 = tag := by
  induction entries with
  | nil => by_cases h : call.1 = tag <;> simp [put, h]
  | cons entry entries ih =>
      rw [put]
      by_cases hentry : entry.1 = call.1
      · rw [if_pos hentry]
        by_cases h : call.1 = tag <;> simp [hentry, h]
      · rw [if_neg hentry, List.find?_cons, List.find?_cons, ih]
        by_cases h : call.1 = tag
        · simp [← h, hentry]
        · simp [h]

lemma transformer?_register :
    (registry.register call.1 call.2).transformer? tag =
      if call.1 = tag then some call.2 else registry.transformer? tag := by
  rw [transformer?, register, find?_put]
  split <;> rfl

/-- Tags stand in the order in which they were first registered. -/
lemma tags_ofCalls (calls : List (Text × Transformer)) :
    (ofCalls calls).tags = distinct (calls.map Prod.fst) := by
  induction calls using List.reverseRecOn with
  | nil => rfl
  | append_singleton calls call ih =>
      rw [ofCalls_concat, tags_register, ih, List.map_append, List.map_singleton, distinct_concat]
      simp only [mem_distinct]

/-- A tag has the transformer that was registered last for it. -/
lemma transformer?_ofCalls (calls : List (Text × Transformer)) (tag : Text) :
    (ofCalls calls).transformer? tag = last? calls tag := by
  induction calls using List.reverseRecOn with
  | nil => rfl
  | append_singleton calls call ih => rw [ofCalls_concat, transformer?_register, last?_concat, ih]

/-! ### Running -/

lemma hasTag_iff : p.hasTag tag ↔ tag ∈ p.tags :=
  List.contains_iff_mem

/-- After a transformer its tag is gone, whether it was there or not. -/
lemma tags_fire (p : Passage) (entry : Text × Transformer) :
    (fire p entry).tags = p.tags.filter (· ≠ entry.1) := by
  rw [fire]
  split
  · rfl
  · rename_i htag
    refine (List.filter_eq_self.mpr fun tag hmem => ?_).symm
    exact decide_eq_true fun heq => htag (hasTag_iff.mpr (heq ▸ hmem))

lemma hasTag_fire {entry : Text × Transformer} (h : tag ≠ entry.1) :
    (fire p entry).hasTag tag = p.hasTag tag := by
  rw [Bool.eq_iff_iff, hasTag_iff, hasTag_iff, tags_fire]
  simp [h]

/-- After all transformers the registered tags are gone. -/
lemma tags_apply (registry : Registry) (p : Passage) :
    (registry.apply p).tags = p.tags.filter (· ∉ registry.tags) := by
  rw [apply, tags]
  induction registry.entries generalizing p with
  | nil => simp
  | cons entry entries ih =>
      rw [List.foldl_cons, ih, tags_fire, List.filter_filter]
      refine List.filter_congr fun tag _ => ?_
      rw [← Bool.decide_and, List.map_cons]
      exact decide_eq_decide.mpr (by rw [List.mem_cons, not_or, and_comm])

/-- Transformers of different tags run over the content one after the other, each on what the
one before has made of it. -/
lemma content_foldl_fire (h : (entries.map Prod.fst).Nodup) (p : Passage) :
    (entries.foldl fire p).content =
      (entries.filter fun entry => p.hasTag entry.1).foldl
        (fun content entry => entry.2 content) p.content := by
  induction entries generalizing p with
  | nil => rfl
  | cons entry entries ih =>
      obtain ⟨hnew, hrest⟩ := List.nodup_cons.mp h
      -- the other entries are for other tags, which the passage still has
      have hothers : ∀ other ∈ entries, (fire p entry).hasTag other.1 = p.hasTag other.1 :=
        fun other hother =>
          hasTag_fire fun heq => hnew (heq ▸ List.mem_map_of_mem hother)
      rw [List.foldl_cons, ih hrest, List.filter_congr hothers, List.filter_cons, fire]
      split <;> rfl

lemma find?_eq_some_of_mem (h : (entries.map Prod.fst).Nodup) {entry : Text × Transformer}
    (hmem : entry ∈ entries) : (entries.find? fun other => other.1 = entry.1) = some entry := by
  cases hfind : entries.find? fun other => other.1 = entry.1 with
  | none => simpa using List.find?_eq_none.mp hfind entry hmem
  | some other =>
      have htag : other.1 = entry.1 := by simpa using List.find?_some hfind
      exact congrArg some
        (List.inj_on_of_nodup_map h (List.mem_of_find?_eq_some hfind) hmem htag)

/-- The transformers that run are those of the registered tags that the passage has. -/
lemma content_apply (h : registry.tags.Nodup) (p : Passage) :
    (registry.apply p).content =
      ((registry.tags.filter fun tag => p.hasTag tag).filterMap registry.transformer?).foldl
        (fun content f => f content) p.content := by
  have hchosen : (registry.tags.filter fun tag => p.hasTag tag).filterMap registry.transformer? =
      (registry.entries.filter fun entry => p.hasTag entry.1).map Prod.snd := by
    rw [tags, List.filter_map, List.filterMap_map, ← List.filterMap_eq_map]
    refine List.filterMap_congr fun entry hentry => ?_
    rw [Function.comp_apply, transformer?, find?_eq_some_of_mem h (List.mem_of_mem_filter hentry)]
    rfl
  rw [apply, content_foldl_fire h, hchosen, List.foldl_map]

/-- After the transformers have run, none is left to run over the passage. -/
lemma isIdleOn_apply (registry : Registry) (p : Passage) :
    registry.IsIdleOn (registry.apply p) := by
  intro tag htag
  rw [tags_apply] at htag
  exact of_decide_eq_true (List.mem_filter.mp htag).2

/-! ### Composition -/

/-- The transformers that run over a passage: for every tag of it that was registered, in the
order in which the tags were first registered, the one that was registered last. -/
def transformers (calls : List (Text × Transformer)) (p : Passage) : List Transformer :=
  ((distinct (calls.map Prod.fst)).filter fun tag => p.hasTag tag).filterMap (last? calls)

/-- What a registry does to passages, in terms of the calls by which transformers were
registered. -/
structure Composes (registry : Registry) (calls : List (Text × Transformer)) : Prop where
  /-- The transformers of the tags of a passage run over its content, each once.  The passage
  loses these tags, and nothing else of it changes. -/
  apply_eq : ∀ p : Passage, registry.apply p =
    { p with
      tags := p.tags.filter (· ∉ calls.map Prod.fst)
      content := (transformers calls p).foldl (fun content f => f content) p.content }
  /-- No transformer runs over a passage again, whatever they have made of its content. -/
  apply_apply : ∀ p : Passage, registry.apply (registry.apply p) = registry.apply p
  records_run : ∀ passages : PassageMap,
    (registry.run passages).records = passages.records.map registry.apply
  place?_run : ∀ (passages : PassageMap) (name : Text),
    (registry.run passages).place? name = passages.place? name
  get?_run : ∀ (passages : PassageMap) (name : Text),
    (registry.run passages).get? name = (passages.get? name).map registry.apply
  run_run : ∀ passages : PassageMap, registry.run (registry.run passages) = registry.run passages

lemma apply_ofCalls (calls : List (Text × Transformer)) (p : Passage) :
    (ofCalls calls).apply p =
      { p with
        tags := p.tags.filter (· ∉ calls.map Prod.fst)
        content := (transformers calls p).foldl (fun content f => f content) p.content } := by
  have hregistered : ∀ tag, tag ∈ (ofCalls calls).tags ↔ tag ∈ calls.map Prod.fst := fun tag => by
    rw [tags_ofCalls, mem_distinct]
  have htags := tags_apply (ofCalls calls) p
  simp only [hregistered] at htags
  have hcontent := content_apply (tags_ofCalls calls ▸ nodup_distinct _) p
  rw [tags_ofCalls, funext (transformer?_ofCalls calls), ← transformers] at hcontent
  obtain ⟨tags, content, heq, -⟩ := (ofCalls calls).exists_apply_eq p
  rw [heq] at htags hcontent ⊢
  rw [← htags, ← hcontent]

/-- **Registered transformers compose**: those of the tags of a passage run once, in the order
in which their tags were first registered, and running them again changes nothing. -/
theorem composes_ofCalls (calls : List (Text × Transformer)) :
    (ofCalls calls).Composes calls where
  apply_eq := apply_ofCalls calls
  apply_apply p := (isIdleOn_apply _ p).apply_eq
  records_run _ := rfl
  place?_run _ _ := rfl
  get?_run passages name := by
    rw [run, PassageMap.get?, PassageMap.place?_map, PassageMap.get?, Option.map_bind]
    congr 1
    funext i
    simp [PassageMap.at?, PassageMap.map]
  run_run passages := by
    have hrecords : (passages.records.map (ofCalls calls).apply).map (ofCalls calls).apply =
        passages.records.map (ofCalls calls).apply := by
      rw [List.map_map]
      exact List.map_congr_left fun p _ => (isIdleOn_apply _ p).apply_eq
    exact congrArg (PassageMap.mk · passages.index) hrecords

example :
    -- a tag that is registered again keeps its place, with the new transformer
    let registry := ofCalls [("b".toList, fun _ => []), ("a".toList, List.reverse),
      ("b".toList, (· ++ "!?".toList)), ("c".toList, List.reverse)]
    let p := Passage.ofHeader ⟨[], ["a", "x", "b"].map String.toList, none⟩ ⟨0, 1⟩
    ((registry.apply p).tags, (registry.apply p).content) = (["x".toList], "?!".toList) := by
  decide

end TweeStory.Registry
