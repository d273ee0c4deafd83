import Recall.Proofs.DocumentIds
import Recall.Store.Observations
import Recall.Tool.Parameters

/-!
What makes an observation acceptable, and the texts under which it is indexed. Parameters are
accepted when one of their texts is not blank. The documents have the narrative and each fact,
and only without any of these the title, or else the subtitle; so an observation is accepted
exactly when it has a document.
-/

namespace Recall

def Filled (given : Option String) (text : String) : Prop :=
  given = some text ∧ Text.isBlank text = false

theorem any_filled_iff {given : Option String} :
    given.any (!Text.isBlank ·) = true ↔ ∃ text, Filled given text := by
  simp [Option.any_eq_true, Filled]

theorem Document.nonBlank_eq_some_iff {given : Option String} {text : String} :
    nonBlank given = some text ↔ Filled given text := by
  simp [nonBlank, Option.filter_eq_some_iff, Filled]

namespace ObservationContent

/-- The texts that are indexed first. A fact is known by its place among all facts. -/
inductive Tells (content : ObservationContent) : String → Option Nat → String → Prop
  | narrative {text : String} (filled : Filled content.narrative text) :
      Tells content "narrative" none text
  | fact {i : Nat} {text : String} (filled : Filled content.facts[i]? text) :
      Tells content "fact" (some i) text

/-- The texts under which an observation is indexed, each with its field. -/
inductive Indexes (content : ObservationContent) : String → Option Nat → String → Prop
  | told {field : String} {index : Option Nat} {text : String}
      (told : content.Tells field index text) : Indexes content field index text
  | title {text : String} (untold : ∀ field index other, ¬ content.Tells field index other)
      (filled : Filled content.title text) : Indexes content "title" none text
  | subtitle {text : String} (untold : ∀ field index other, ¬ content.Tells field index other)
      (untitled : ∀ other, ¬ Filled content.title other)
      (filled : Filled content.subtitle text) : Indexes content "subtitle" none text

def Speaks (content : ObservationContent) : Prop :=
  ∃ text, Filled content.title text ∨ Filled content.subtitle text ∨
    Filled content.narrative text ∨ ∃ i : Nat, Filled content.facts[i]? text

theorem speaks_iff_indexes {content : ObservationContent} :
    content.Speaks ↔ ∃ field index text, content.Indexes field index text := by
  constructor
  · intro speaks
    by_cases told : ∃ field index other, content.Tells field index other
    · obtain ⟨field, index, other, told⟩ := told
      exact ⟨field, index, other, .told told⟩
    · simp only [not_exists] at told
      by_cases titled : ∃ title, Filled content.title title
      · obtain ⟨title, filled⟩ := titled
        exact ⟨"title", none, title, .title told filled⟩
      · simp only [not_exists] at titled
        obtain ⟨text, title | subtitle | narrative | ⟨i, fact⟩⟩ := speaks
        · exact absurd title (titled text)
        · exact ⟨"subtitle", none, text, .subtitle told titled subtitle⟩
        · exact absurd (.narrative narrative) (told "narrative" none text)
        · exact absurd (.fact fact) (told "fact" (some i) text)
  · rintro ⟨field, index, text, told | ⟨untold, filled⟩ | ⟨untold, untitled, filled⟩⟩
    · cases told with
      | narrative filled => exact ⟨text, Or.inr (Or.inr (Or.inl filled))⟩
      | fact filled => exact ⟨text, Or.inr (Or.inr (Or.inr ⟨_, filled⟩))⟩
    · exact ⟨text, Or.inl filled⟩
    · exact ⟨text, Or.inr (Or.inl filled)⟩

end ObservationContent

namespace Document

def told (o : Observation) : List Document :=
  let document := make .observation o.id o.project (some o.scope)
  (nonBlank o.content.narrative).toList.map (document "narrative" none) ++
    o.content.facts.zipIdx.filterMap fun (fact, i) =>
      (nonBlank (some fact)).map (document "fact" (some i))

def titles (o : Observation) : List Document :=
  match nonBlank o.content.title, nonBlank o.content.subtitle with
  | some title, _ => [make .observation o.id o.project (some o.scope) "title" none title]
  | none, some subtitle =>
    [make .observation o.id o.project (some o.scope) "subtitle" none subtitle]
  | none, none => []

theorem ofObservation_eq (o : Observation) :
    ofObservation o = if !(told o).isEmpty then told o else titles o :=
  rfl

theorem mem_told_iff {o : Observation} {d : Document} :
    d ∈ told o ↔ ∃ field index text, o.content.Tells field index text ∧
      d = make .observation o.id o.project (some o.scope) field index text := by
  simp only [told, List.mem_append, List.mem_map, Option.mem_toList, nonBlank_eq_some_iff,
    List.mem_filterMap, Option.map_eq_some_iff, Prod.exists, List.mem_zipIdx_iff_getElem?]
  constructor
  · rintro (⟨text, filled, rfl⟩ | ⟨fact, i, listed, text, filled, rfl⟩)
    · exact ⟨"narrative", none, text, .narrative filled, rfl⟩
    · exact ⟨"fact", some i, text, .fact (listed ▸ filled), rfl⟩
  · rintro ⟨field, index, text, filled | ⟨⟨listed, filled⟩⟩, rfl⟩
    · exact Or.inl ⟨text, filled, rfl⟩
    · exact Or.inr ⟨text, _, listed, text, ⟨rfl, filled⟩, rfl⟩

theorem mem_titles_iff {o : Observation} {d : Document} :
    d ∈ titles o ↔
      (∃ text, Filled o.content.title text ∧
        d = make .observation o.id o.project (some o.scope) "title" none text) ∨
      ((∀ other, ¬ Filled o.content.title other) ∧ ∃ text, Filled o.content.subtitle text ∧
        d = make .observation o.id o.project (some o.scope) "subtitle" none text) := by
  simp only [titles, ← nonBlank_eq_some_iff]
  cases nonBlank o.content.title with
  | some title => simp
  | none => cases nonBlank o.content.subtitle <;> simp

theorem told_eq_nil_iff {o : Observation} :
    told o = [] ↔ ∀ field index text, ¬ o.content.Tells field index text := by
  rw [List.eq_nil_iff_forall_not_mem]
  constructor
  · intro untold field index text told
    exact untold _ (mem_told_iff.mpr ⟨field, index, text, told, rfl⟩)
  · intro untold d member
    obtain ⟨field, index, text, told, -⟩ := mem_told_iff.mp member
    exact untold field index text told

theorem mem_ofObservation_iff {o : Observation} {d : Document} :
    d ∈ ofObservation o ↔ ∃ field index text, o.content.Indexes field index text ∧
      d = make .observation o.id o.project (some o.scope) field index text := by
  rw [ofObservation_eq]
  by_cases silent : told o = []
  · have untold := told_eq_nil_iff.mp silent
    rw [silent, if_neg (by simp), mem_titles_iff]
    constructor
    · rintro (⟨text, filled, rfl⟩ | ⟨untitled, text, filled, rfl⟩)
      · exact ⟨"title", none, text, .title untold filled, rfl⟩
      · exact ⟨"subtitle", none, text, .subtitle untold untitled filled, rfl⟩
    · rintro ⟨field, index, text, told | ⟨-, filled⟩ | ⟨-, untitled, filled⟩, rfl⟩
      · exact absurd told (untold field index text)
      · exact Or.inl ⟨text, filled, rfl⟩
      · exact Or.inr ⟨untitled, text, filled, rfl⟩
  · rw [if_pos (by simpa using silent), mem_told_iff]
    constructor
    · rintro ⟨field, index, text, told, rfl⟩
      exact ⟨field, index, text, .told told, rfl⟩
    · rintro ⟨field, index, text, told | ⟨untold, -⟩ | ⟨untold, -⟩, rfl⟩
      · exact ⟨field, index, text, told, rfl⟩
      · exact absurd (told_eq_nil_iff.mpr untold) silent
      · exact absurd (told_eq_nil_iff.mpr untold) silent

theorem ofObservation_ne_nil_iff {o : Observation} : ofObservation o ≠ [] ↔ o.content.Speaks := by
  rw [ObservationContent.speaks_iff_indexes]
  constructor
  · intro spoken
    obtain ⟨d, member⟩ := List.exists_mem_of_ne_nil _ spoken
    obtain ⟨field, index, text, indexed, -⟩ := mem_ofObservation_iff.mp member
    exact ⟨field, index, text, indexed⟩
  · rintro ⟨field, index, text, indexed⟩
    exact List.ne_nil_of_mem (mem_ofObservation_iff.mpr ⟨field, index, text, indexed, rfl⟩)

end Document

namespace Tool.ObservationParameters

structure Gives (p : ObservationParameters) (content : ObservationContent) : Prop where
  title : content.title = p.title
  subtitle : content.subtitle = p.subtitle
  narrative : content.narrative = p.narrative
  facts : content.facts = p.facts.getD []

theorem hasContent_iff {p : ObservationParameters} {content : ObservationContent}
    (gives : p.Gives content) : p.hasContent = true ↔ content.Speaks := by
  have spoken : (∃ text ∈ p.facts.getD [], Text.isBlank text = false) ↔
      ∃ text, ∃ i : Nat, Filled content.facts[i]? text := by
    simp only [Filled, gives.facts, List.mem_iff_getElem?, ← exists_and_right]
  simp only [hasContent, Bool.or_eq_true, List.any_cons, List.any_nil, Bool.or_false,
    any_filled_iff, List.any_eq_true, Bool.not_eq_true', spoken, ← gives.title, ← gives.subtitle,
    ← gives.narrative, ObservationContent.Speaks, exists_or, or_assoc]

def draftOf (modifiedAt : String → Option Int) (p : ObservationParameters)
    (type : ObservationType) (scope : Option Scope) : ObservationDraft := {
  content := {
    type, title := p.title, subtitle := p.subtitle, narrative := p.narrative
    facts := p.facts.getD [], concepts := p.concepts.getD []
    filesRead := p.filesRead.getD [], filesModified := p.filesModified.getD []
    fileTimes := captureTimes modifiedAt (p.filesRead.getD [] ++ p.filesModified.getD []) }
  scope, importance := p.importance }

theorem toDraft_ok_iff {modifiedAt : String → Option Int} {p : ObservationParameters}
    {draft : ObservationDraft} : p.toDraft modifiedAt = .ok draft ↔
      Text.isBlank p.sessionKey = false ∧ p.hasContent = true ∧
        ∃ type scope, ObservationType.parse p.type = .ok type ∧ p.scopeGiven = .ok scope ∧
          p.draftOf modifiedAt type scope = draft := by
  simp only [toDraft]
  cases named : Text.isBlank p.sessionKey with
  | true => simp [throw, throwThe, MonadExceptOf.throw, bind, Except.bind]
  | false =>
      cases typed : ObservationType.parse p.type with
      | error failure => simp [bind, Except.bind]
      | ok type =>
          cases given : p.scopeGiven with
          | error failure => simp [bind, Except.bind]
          | ok scope =>
              cases filled : p.hasContent with
              | true => simp [bind, Except.bind, pure, Except.pure, draftOf]
              | false => simp [bind, Except.bind]

theorem gives_draftOf (modifiedAt : String → Option Int) (p : ObservationParameters)
    (type : ObservationType) (scope : Option Scope) :
    p.Gives (p.draftOf modifiedAt type scope).content :=
  ⟨rfl, rfl, rfl, rfl⟩

theorem gives_stored {modifiedAt : String → Option Int} {p : ObservationParameters}
    {draft : ObservationDraft} (accepted : p.toDraft modifiedAt = .ok draft)
    (number : Option Int) (occasion : Occasion) (id : Int) :
    p.Gives (Store.observationOf draft number occasion id).content := by
  obtain ⟨-, -, type, scope, -, -, rfl⟩ := toDraft_ok_iff.mp accepted
  exact p.gives_draftOf modifiedAt type scope

theorem accepted_iff_speaks {modifiedAt : String → Option Int} {p : ObservationParameters}
    {content : ObservationContent} (named : Text.isBlank p.sessionKey = false)
    (typed : ∃ type, ObservationType.parse p.type = .ok type)
    (given : ∃ scope, p.scopeGiven = .ok scope) (gives : p.Gives content) :
    (∃ draft, p.toDraft modifiedAt = .ok draft) ↔ content.Speaks := by
  rw [← hasContent_iff gives]
  constructor
  · rintro ⟨draft, accepted⟩
    exact (toDraft_ok_iff.mp accepted).2.1
  · intro filled
    obtain ⟨type, typed⟩ := typed
    obtain ⟨scope, given⟩ := given
    exact ⟨_, toDraft_ok_iff.mpr ⟨named, filled, type, scope, typed, given, rfl⟩⟩

end Tool.ObservationParameters

/-- Of parameters without other faults those are accepted whose observation has a document, and
an observation has one document for each text under which it is indexed. -/
theorem accepted_as_documented (modifiedAt : String → Option Int) :
    (∀ p : Tool.ObservationParameters, Text.isBlank p.sessionKey = false →
      (∃ type, ObservationType.parse p.type = .ok type) → (∃ scope, p.scopeGiven = .ok scope) →
      (∀ o : Observation, p.Gives o.content →
        ((∃ draft, p.toDraft modifiedAt = .ok draft) ↔ Document.ofObservation o ≠ [])) ∧
      ∀ draft, p.toDraft modifiedAt = .ok draft → ∀ number occasion id,
        p.Gives (Store.observationOf draft number occasion id).content) ∧
    ∀ o : Observation, ((Document.ofObservation o).map (·.docId)).Nodup ∧
      ∀ d, d ∈ Document.ofObservation o ↔
        ∃ field index text, o.content.Indexes field index text ∧ d = {
          docId := Document.idOf .observation o.id field index, content := text
          metadata := {
            sourceId := o.id, docType := RecordKind.observation.docType, field
            project := o.project, scope := some o.scope.name } } := by
  refine ⟨fun p named typed given => ⟨?_, ?_⟩, fun o => ⟨?_, ?_⟩⟩
  · intro o gives
    rw [Tool.ObservationParameters.accepted_iff_speaks named typed given gives,
      Document.ofObservation_ne_nil_iff]
  · intro draft accepted number occasion id
    exact Tool.ObservationParameters.gives_stored accepted number occasion id
  · exact Document.ofObservation_nodup o
  · exact fun d => Document.mem_ofObservation_iff

/-- A title of an ideographic space, and facts of which only the third is not blank. -/
def hushed : Tool.ObservationParameters := {
  sessionKey := "session", type := "decision", scope := some "global", title := some "\u3000"
  facts := some ["", "\t", "one writer"] }

theorem hushed_documented :
    (Text.isBlank hushed.sessionKey = false ∧
      (∃ type, ObservationType.parse hushed.type = .ok type) ∧
      ∃ scope, hushed.scopeGiven = .ok scope) ∧
    ∃ draft, hushed.toDraft (fun _ => none) = .ok draft ∧ ∀ number occasion id,
      Document.ofObservation (Store.observationOf draft number occasion id) ≠ [] := by
  have named : Text.isBlank hushed.sessionKey = false := by decide +kernel
  have typed : ∃ type, ObservationType.parse hushed.type = .ok type := ⟨.decision, rfl⟩
  have given : ∃ scope, hushed.scopeGiven = .ok scope := ⟨some .everywhere, rfl⟩
  have accepted : ∃ draft, hushed.toDraft (fun _ => none) = .ok draft := by
    refine ⟨hushed.draftOf (fun _ => none) .decision (some .everywhere), ?_⟩
    decide +kernel
  obtain ⟨documented, stored⟩ := (accepted_as_documented fun _ => none).1 hushed named typed given
  obtain ⟨draft, made⟩ := accepted
  refine ⟨⟨named, typed, given⟩, draft, made, fun number occasion id => ?_⟩
  exact (documented _ (stored draft made number occasion id)).mp ⟨draft, made⟩

end Recall
