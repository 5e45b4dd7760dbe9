/-
The story of lines at other origins.

* `Passage.move`, `CompileError.move`: a passage and an error at other origins;
* `PassageMap.ofLines_map_move`: the passages of lines at other origins;
* `Sorting.sort_map_move`: how they are sorted;
* `Story.document_ofLines_map_move`: the document does not depend on origins, and an
  error goes along with its line.

Only texts decide what a story says.  The sources that describe origins in warnings
may be others too.
-/
import TweeStory.Proofs.Source.Extraction
import TweeStory.Proofs.Story.Origins
import TweeStory.Story.Document

namespace TweeStory

/-- The passage with its header and lines at other origins. -/
def Passage.move (μ : Origin → Origin) (p : Passage) : Passage :=
  { p with lines := p.lines.map (Line.move μ), origin := μ p.origin }

/-- The error about a line at another origin. -/
def CompileError.move (μ : Origin → Origin) : CompileError → CompileError
  | directive passage origin error => directive passage (origin.map μ) error
  | e => e

/-- The document of the story, or the error that ended the compile. -/
def StoryOutcome.document (outcome : StoryOutcome) : Except CompileError Text :=
  outcome.story.map fun story => story.document outcome.settings

variable {μ : Origin → Origin} {sources sources' : Sources}

/-! ### Passages -/

namespace PassageMap

/-- A passage goes to the same place. -/
lemma insert_map_move (passages : PassageMap) (p : Passage) :
    (passages.map (Passage.move μ)).insert (p.move μ) =
      ((passages.insert p).1, (passages.insert p).2.1.map (Passage.move μ),
        (passages.insert p).2.2.map (Passage.move μ)) := by
  have hplace : (passages.map (Passage.move μ)).place? (p.move μ).name = passages.place? p.name :=
    rfl
  rw [insert, insert, hplace]
  cases passages.place? p.name with
  | some i => simp [PassageMap.map, List.map_set]
  | none => simp [PassageMap.map, size, Passage.move]

lemma modifyAt_map_move (passages : PassageMap) (i : Nat) (line : Line) :
    (passages.map (Passage.move μ)).modifyAt i (·.push (line.move μ)) =
      (passages.modifyAt i (·.push line)).map (Passage.move μ) := by
  refine congrArg (PassageMap.mk · passages.index) (List.ext_getElem? fun j => ?_)
  simp only [PassageMap.map, PassageMap.modifyAt, List.getElem?_modify, List.getElem?_map]
  cases passages.records[j]? with
  | none => rfl
  | some p => by_cases hij : i = j <;> simp [hij, Passage.move, Passage.push, Line.move]

/-- A line at another origin is read into the same place. -/
lemma Reading.read_move {state state' : Reading} (line : Line)
    (hpassages : state'.passages = state.passages.map (Passage.move μ))
    (hcurrent : state'.current = state.current) :
    (state'.read sources' (line.move μ)).passages =
        (state.read sources line).passages.map (Passage.move μ) ∧
      (state'.read sources' (line.move μ)).current = (state.read sources line).current := by
  have htext : (line.move μ).text = line.text := rfl
  rw [read, read, htext]
  cases Header.parse? line.text with
  | some header =>
      have hinsert := insert_map_move (μ := μ) state.passages (.ofHeader header line.origin)
      simp only [openPassage, hpassages]
      exact ⟨congrArg (·.2.2) hinsert, congrArg (fun r => some r.1) hinsert⟩
  | none =>
      rw [hcurrent]
      cases state.current with
      | none => exact ⟨hpassages, hcurrent⟩
      | some i =>
          refine ⟨?_, rfl⟩
          simp only [hpassages]
          exact modifyAt_map_move state.passages i line

/-- **The passages of lines at other origins** are the same passages at other origins. -/
lemma ofLines_map_move (lines : List Line) :
    (ofLines sources' (lines.map (Line.move μ))).1 =
      (ofLines sources lines).1.map (Passage.move μ) := by
  have hfold : ∀ state state' : Reading,
      state'.passages = state.passages.map (Passage.move μ) → state'.current = state.current →
      ((lines.map (Line.move μ)).foldl (Reading.read sources') state').passages =
        (lines.foldl (Reading.read sources) state).passages.map (Passage.move μ) := by
    induction lines with
    | nil => exact fun _ _ hpassages _ => hpassages
    | cons line lines ih =>
        intro state state' hpassages hcurrent
        obtain ⟨hpassages, hcurrent⟩ := Reading.read_move line hpassages hcurrent
        exact ih _ _ hpassages hcurrent
  have hclose : ∀ passages : PassageMap, (passages.map (Passage.move μ)).map Passage.close =
      (passages.map Passage.close).map (Passage.move μ) := by
    intro passages
    simp [PassageMap.map, Passage.close, Passage.move]
  rw [ofLines, ofLines, hfold ⟨empty, none, []⟩ ⟨empty, none, []⟩ rfl rfl, hclose]

end PassageMap

/-! ### Transformers and sorting -/

/-- Transformers look at contents and tags only. -/
lemma Registry.apply_move (registry : Registry) (p : Passage) :
    registry.apply (p.move μ) = (registry.apply p).move μ := by
  have hfire : ∀ (q : Passage) (entry : Text × Transformer),
      fire (q.move μ) entry = (fire q entry).move μ := by
    intro q entry
    have htag : (q.move μ).hasTag entry.1 = q.hasTag entry.1 := rfl
    rw [fire, fire, htag]
    split <;> rfl
  rw [apply, apply]
  induction registry.entries generalizing p with
  | nil => rfl
  | cons entry entries ih => rw [List.foldl_cons, List.foldl_cons, hfire, ih]

namespace Sorting

/-- The error goes along with its line. -/
lemma failure_move (p : Passage) (fault : Nat × DirectiveError) :
    failure (p.move μ) fault = (failure p fault).move μ := by
  simp [failure, Passage.move, CompileError.move, Function.comp_def, Line.move]

lemma sortOne_move (s : Sorting) (p : Passage) :
    s.sortOne (p.move μ) =
      ((s.sortOne p).map fun result => (result.1, result.2.move μ)).mapError
        (CompileError.move μ) := by
  have hrole : (p.move μ).role = p.role := rfl
  have hcontent : (p.move μ).content = p.content := rfl
  rw [sortOne, sortOne, hrole, hcontent]
  cases p.role
  case settings =>
    cases s.settings.apply p.content with
    | ok settings => rfl
    | error fault => exact congrArg Except.error (failure_move p fault)
  all_goals rfl

/-- Sorting passages at other origins gives the same, at other origins. -/
lemma sort_map_move (s : Sorting) (ps : List Passage) :
    s.sort (ps.map (Passage.move μ)) =
      ((s.sort ps).1, ((s.sort ps).2.map (List.map (Passage.move μ))).mapError
        (CompileError.move μ)) := by
  induction ps generalizing s with
  | nil => rfl
  | cons p ps ih =>
      rw [List.map_cons, sort, sort, sortOne_move]
      cases s.sortOne p with
      | error e => rfl
      | ok result =>
          obtain ⟨s', p'⟩ := result
          simp only [Except.map, Except.mapError, ih]
          cases (s'.sort ps).2 <;> rfl

end Sorting

/-! ### Stories -/

namespace Story

variable (story : Story)

/-- The story with its passages at other origins. -/
def move (μ : Origin → Origin) : Story :=
  { story with passages := story.passages.map (Passage.move μ) }

lemma elements_move : (story.move μ).elements = story.elements.map (Passage.move μ) := by
  rw [elements, elements, move, PassageMap.map, List.filter_map]
  rfl

lemma startPid_move : (story.move μ).startPid = story.startPid := by
  have hplace : (story.move μ).passages.place? (story.move μ).startPassage =
      story.passages.place? story.startPassage := rfl
  rw [startPid, startPid, startPid?, startPid?, PassageMap.get?, PassageMap.get?, hplace]
  cases story.passages.place? story.startPassage with
  | none => rfl
  | some i =>
      simp only [Option.bind_some, PassageMap.at?, move, PassageMap.map, List.getElem?_map]
      cases story.passages.records[i]? <;> rfl

/-- The document does not depend on origins. -/
lemma document_move (settings : BuildSettings) :
    (story.move μ).document settings = story.document settings := by
  have helements : (story.move μ).elements.flatMap Passage.element =
      story.elements.flatMap Passage.element := by
    rw [elements_move, List.flatMap_map]
    rfl
  rw [document, document, startPid_move, helements]

/-- The passages that are sorted are the same at other origins. -/
lemma prepared_map_move (registry : Registry) (lines : List Line) :
    prepared sources' registry (lines.map (Line.move μ)) =
      (prepared sources registry lines).map (Passage.move μ) := by
  have hofLines := @PassageMap.ofLines_map_move μ sources sources' lines
  rw [prepared, prepared, hofLines]
  simp [Registry.run, PassageMap.map, Registry.apply_move]

/-- **The story of lines at other origins** has the same document, or the same error
about a line at another origin. -/
lemma document_ofLines_map_move (registry : Registry) (settings : BuildSettings)
    (lines : List Line) :
    (ofLines sources' registry settings (lines.map (Line.move μ))).document =
      (ofLines sources registry settings lines).document.mapError (CompileError.move μ) := by
  have hprepared := @prepared_map_move μ sources sources' registry lines
  have hsorted : sorted sources' registry settings (lines.map (Line.move μ)) =
      ((sorted sources registry settings lines).1,
        ((sorted sources registry settings lines).2.map
          (List.map (Passage.move μ))).mapError (CompileError.move μ)) := by
    rw [sorted, hprepared, PassageMap.map, Sorting.sort_map_move, sorted]
  cases hsort : sorted sources registry settings lines with
  | mk s result =>
      rw [hsort] at hsorted
      cases result with
      | error e => rw [ofLines_of_error hsort, ofLines_of_error hsorted]; rfl
      | ok records =>
          have hdocument := document_move (μ := μ)
            ⟨{ prepared sources registry lines with records := records }, s.css, s.js, s.title,
              s.settings.startPassage⟩ s.settings
          rw [ofLines_of_ok hsort, ofLines_of_ok hsorted, hprepared]
          simp only [StoryOutcome.document, Except.map, Except.mapError]
          exact congrArg Except.ok hdocument

end Story

end TweeStory
