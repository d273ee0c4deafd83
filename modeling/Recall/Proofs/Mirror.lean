import Mathlib.Data.List.Induction
import Recall.Proofs.PromptTexts
import Recall.Proofs.Provenance
import Recall.Proofs.Reliability

/-!
How far an index mirrors the store. A record that is written through the engine brings its
documents, and an evicted one takes them along, so a reliable index holds the documents of the
records there are. There are two exceptions: a record that is evicted between its reading and
its indexing, and a prompt that was saved with a text and later with a blank one.
-/

namespace Recall

/-- The index holds the documents of the records there are, with prompts under the given texts;
these are the texts of the prompts that have one. -/
structure Engine.Mirrors (engine : Engine) (texts : Int → Option String) : Prop where
  sound : engine.store.Sound
  reliable : engine.Reliable
  documents : ∀ d, d ∈ engine.documents ↔ ∃ kind, d ∈ engine.store.indexedDocuments texts kind
  current : ∀ p ∈ engine.store.prompts.rows, Text.isBlank p.text = false →
    texts p.id = some p.text
  known : ∀ id : Int, engine.store.lastId .prompt < id → texts id = none

namespace Store

variable {store : Store} {kind : RecordKind} {id : Int} {d : Document}

theorem documentsOf_isOf (member : d ∈ store.documentsOf kind id) : d.IsOf kind id := by
  obtain ⟨label, -, describes⟩ := documents_describe (documentsOf_subset member)
  exact ⟨describes.docType, documentsOf_source member⟩

theorem mem_documentsOf_delete (sound : store.Sound) {ids : List Int} :
    d ∈ (store.delete ids kind).documentsOf kind id ↔
      d ∈ store.documentsOf kind id ∧ ¬ Eviction.Names ⟨kind, ids⟩ d := by
  rw [(sound.delete ids kind).mem_documentsOf, sound.mem_documentsOf, mem_documents_delete,
    and_right_comm]

end Store

namespace Engine

variable {engine : Engine} {mid : Store} {kind : RecordKind} {ids : List Int} {id : Int}
  {d : Document}

theorem mem_recording (reliable : engine.Reliable) (made : engine.AllMade) (sound : mid.Sound)
    {turn : PassTurn}
    (unhurried : turn = .between → id ∈ ids → mid.documentsOf kind id = []) :
    d ∈ (engine.recording turn mid kind id ids).documents ↔
      d ∈ (engine.addDocuments (mid.documentsOf kind id)).documents ∧
        ¬ Eviction.Names ⟨kind, ids⟩ d := by
  have read := mid.documentsOf_nodup kind id
  have readMade {e : Document} (member : e ∈ mid.documentsOf kind id) : e.Made :=
    Store.made_of_mem (Store.documentsOf_subset member)
  -- With the pass first, the documents that it takes are not put in.
  have first (added : List Document) (once : (added.map (·.docId)).Nodup)
      (left : ∀ e, e ∈ added ↔ e ∈ mid.documentsOf kind id ∧ ¬ Eviction.Names ⟨kind, ids⟩ e) :
      d ∈ ((engine.evicting mid kind ids).addDocuments added).documents ↔
        d ∈ (engine.addDocuments (mid.documentsOf kind id)).documents ∧
          ¬ Eviction.Names ⟨kind, ids⟩ d := by
    have served : (engine.evicting mid kind ids).Reliable :=
      reliable.of_service (engine.evicting_documents mid kind ids).1
    rw [served.addDocuments once, reliable.addDocuments read,
      made.mem_evicting_iff reliable.online, left]
    constructor
    · rintro (⟨⟨old, unnamed⟩, apart⟩ | ⟨new, unnamed⟩)
      · refine ⟨Or.inl ⟨old, fun listed => apart ?_⟩, unnamed⟩
        obtain ⟨e, member, same⟩ := List.mem_map.mp listed
        rw [← same]
        exact List.mem_map_of_mem ((left e).mpr
          ⟨member, fun named => unnamed ((made d old).names (readMade member) same named)⟩)
      · exact ⟨Or.inr new, unnamed⟩
    · rintro ⟨⟨old, apart⟩ | new, unnamed⟩
      · refine Or.inl ⟨⟨old, unnamed⟩, fun listed => apart ?_⟩
        obtain ⟨e, member, same⟩ := List.mem_map.mp listed
        rw [← same]
        exact List.mem_map_of_mem ((left e).mp member).1
      · exact Or.inr ⟨new, unnamed⟩
  cases turn with
  | early =>
      exact first _ ((mid.delete ids kind).documentsOf_nodup kind id) fun e =>
        Store.mem_documentsOf_delete sound
  | between =>
      refine first _ read fun e => (and_iff_left_of_imp fun member named => ?_).symm
      have taken := ((Document.names_iff (Store.documentsOf_isOf member)).mp named).2
      rw [unhurried rfl taken] at member
      cases member
  | late =>
      have online : (engine.addDocuments (mid.documentsOf kind id)).Online :=
        (reliable.of_service (engine.addDocuments_documents _).1).online
      exact (made.addDocuments fun e => readMade).mem_evicting_iff online mid kind ids

end Engine

namespace Engine.Mirrors

variable {engine : Engine} {texts : Int → Option String}

theorem made (mirrors : engine.Mirrors texts) : engine.AllMade := by
  intro d member
  obtain ⟨kind, expected⟩ := (mirrors.documents d).mp member
  obtain ⟨label, -, field, index, content, made⟩ := Store.indexedDocuments_made expected
  exact ⟨kind, label.id, label.project, label.scope, field, index, content, made⟩

theorem of_pass {after : Engine} (mirrors : engine.Mirrors texts) (kind : RecordKind)
    (ids : List Int) (store : after.store = engine.store.delete ids kind)
    (service : after.service = engine.service)
    (documents : ∀ d, d ∈ after.documents ↔
      d ∈ engine.documents ∧ ¬ Eviction.Names ⟨kind, ids⟩ d) : after.Mirrors texts := by
  refine ⟨?_, mirrors.reliable.of_service service, ?_, ?_, ?_⟩
  · rw [store]
    exact mirrors.sound.delete ids kind
  · intro d
    rw [documents, mirrors.documents, store]
    simp only [Store.mem_indexedDocuments_delete, exists_and_right]
  · intro p live filled
    rw [store] at live
    cases kind with
    | prompt => exact mirrors.current p (List.mem_filter.mp live).1 filled
    | observation | summary => exact mirrors.current p live filled
  · intro id past
    rw [store] at past
    change (((engine.store.delete ids kind).lastId .prompt : Nat) : Int) < id at past
    rw [Store.lastId_delete] at past
    exact mirrors.known id past

theorem pass (mirrors : engine.Mirrors texts) (kind : RecordKind) (ids : List Int) :
    (engine.evicting engine.store kind ids).Mirrors texts :=
  mirrors.of_pass kind ids (engine.evicting_sameStore engine.store kind ids).store
    (engine.evicting_documents engine.store kind ids).1 fun _ =>
      mirrors.made.mem_evicting_iff mirrors.reliable.online engine.store kind ids

section Written

variable {submission : Submission} {occasion : Occasion} {mid : Store} {stored : Stored}
  {d : Document}

theorem mem_indexing_own (mirrors : engine.Mirrors texts)
    (writes : submission.Writes occasion engine.store mid stored)
    (own : d.IsOf submission.kind stored.id) :
    d ∈ (engine.addDocuments (mid.documentsOf submission.kind stored.id)).documents ↔
      ∃ kind, d ∈ mid.indexedDocuments (submission.renew texts stored.id) kind := by
  have sound : mid.Sound := writes.stores.sound mirrors.sound
  have only {store : Store} {texts : Int → Option String} :
      (∃ kind, d ∈ store.indexedDocuments texts kind) ↔
        d ∈ store.indexedDocuments texts submission.kind := by
    refine ⟨?_, fun member => ⟨_, member⟩⟩
    rintro ⟨kind, member⟩
    obtain ⟨id, -, isOf⟩ := Store.indexedDocuments_isOf member
    rw [RecordKind.docType_injective (own.1.symm.trans isOf.1)]
    exact member
  rw [mirrors.reliable.addDocuments (mid.documentsOf_nodup _ _), mirrors.documents, only, only,
    writes.indexedDocuments_own mirrors.sound mirrors.known own]
  constructor
  · rintro (⟨old, apart⟩ | new)
    · refine Or.inr ⟨old, fun e made isOf same => apart ?_⟩
      rw [same]
      exact List.mem_map_of_mem (sound.mem_documentsOf.mpr ⟨made, isOf.2⟩)
    · exact Or.inl (Store.documentsOf_subset new)
  · rintro (made | ⟨old, apart⟩)
    · exact Or.inr (sound.mem_documentsOf.mpr ⟨made, own.2⟩)
    · refine Or.inl ⟨old, fun listed => ?_⟩
      obtain ⟨e, member, same⟩ := List.mem_map.mp listed
      exact apart e (Store.documentsOf_subset member) (Store.documentsOf_isOf member) same.symm

theorem mem_indexing_other (mirrors : engine.Mirrors texts)
    (writes : submission.Writes occasion engine.store mid stored)
    (other : ¬ d.IsOf submission.kind stored.id) :
    d ∈ (engine.addDocuments (mid.documentsOf submission.kind stored.id)).documents ↔
      ∃ kind, d ∈ mid.indexedDocuments (submission.renew texts stored.id) kind := by
  have absent : d ∉ mid.documentsOf submission.kind stored.id :=
    fun member => other (Store.documentsOf_isOf member)
  rw [mirrors.reliable.addDocuments (mid.documentsOf_nodup _ _), or_iff_left absent]
  refine (and_iff_left_of_imp fun held listed => other ?_).trans ((mirrors.documents d).trans ?_)
  · obtain ⟨e, member, same⟩ := List.mem_map.mp listed
    exact (Store.made_of_mem (Store.documentsOf_subset member)).isOf (mirrors.made d held)
      same.symm (Store.documentsOf_isOf member)
  · exact exists_congr fun kind => (writes.indexedDocuments_other texts other).symm

theorem index (mirrors : engine.Mirrors texts)
    (writes : submission.Writes occasion engine.store mid stored) :
    { engine.addDocuments (mid.documentsOf submission.kind stored.id) with store := mid }.Mirrors
      (submission.renew texts stored.id) := by
  have sound : mid.Sound := writes.stores.sound mirrors.sound
  refine ⟨sound, ?_, ?_, ?_, ?_⟩
  · exact mirrors.reliable.of_service (engine.addDocuments_documents _).1
  · intro d
    by_cases own : d.IsOf submission.kind stored.id
    · exact mirrors.mem_indexing_own writes own
    · exact mirrors.mem_indexing_other writes own
  · intro p live filled
    rcases writes.prompt_cases mirrors.sound live with
      ⟨number, text, rfl, same, saved⟩ | ⟨old, apart⟩
    · rw [same, saved]
      exact if_pos ⟨rfl, saved ▸ filled⟩
    · rw [Submission.renew_other apart]
      exact mirrors.current p old filled
  · intro id past
    have grown := writes.stores.lastId_le .prompt
    simp only at past
    rw [Submission.renew_other, mirrors.known id (by omega)]
    rintro isPrompt rfl
    have bound := (sound.bounds submission.kind stored.id writes.stores.present).2
    rw [isPrompt] at bound
    omega

theorem write (mirrors : engine.Mirrors texts) (turn : PassTurn) (ids : List Int)
    (writes : submission.Writes occasion engine.store mid stored)
    (unhurried : turn = .between → stored.id ∈ ids →
      mid.documentsOf submission.kind stored.id = []) :
    (engine.recording turn mid submission.kind stored.id ids).Mirrors
      (submission.renew texts stored.id) := by
  have sound : mid.Sound := writes.stores.sound mirrors.sound
  have store := (engine.recording_sameStore turn mid submission.kind stored.id ids).store.trans
    (engine.evicting_sameStore mid submission.kind ids).store
  have service := (engine.recording_documents turn mid submission.kind stored.id ids).1.trans
    (engine.addDocuments_documents (mid.documentsOf submission.kind stored.id)).1.symm
  exact (mirrors.index writes).of_pass submission.kind ids store service fun d =>
    mem_recording mirrors.reliable mirrors.made sound unhurried

end Written

end Engine.Mirrors

def Step.savedText? (id : Int) (step : Step) : Option String :=
  match step.operation, step.outcome.result with
  | .record (.prompt _ text) _, .ok (.stored (some stored)) =>
    if stored.id = id then some text else none
  | _, _ => none

/-- The texts under which prompts are indexed: the last ones that were not blank. -/
def Step.renew (texts : Int → Option String) (step : Step) (id : Int) : Option String :=
  match step.savedText? id with
  | some text => if Text.isBlank text then texts id else some text
  | none => texts id

def textsOf (history : List Step) : Int → Option String := history.foldl Step.renew fun _ => none

def Operation.records : Operation → Bool
  | record _ _ | cleanup _ _ => true
  | _ => false

theorem textsOf_concat (history : List Step) (step : Step) :
    textsOf (history ++ [step]) = step.renew (textsOf history) := by
  simp only [textsOf, List.foldl_append, List.foldl_cons, List.foldl_nil]

theorem Step.renew_unanswered {step : Step}
    (quiet : ∀ stored, step.outcome.result ≠ .ok (.stored (some stored)))
    (texts : Int → Option String) : step.renew texts = texts := by
  funext id
  have unsaved : step.savedText? id = none := by
    simp only [savedText?]
    split
    · rename_i stored _ answered
      exact absurd answered (quiet stored)
    · rfl
  simp only [renew, unsaved]

theorem Step.renew_answered {step : Step} {submission : Submission} {occasion : Occasion}
    {stored : Stored} (asked : step.operation = .record submission occasion)
    (answered : step.outcome.result = .ok (.stored (some stored)))
    (texts : Int → Option String) : step.renew texts = submission.renew texts stored.id := by
  funext id
  cases submission with
  | prompt number text =>
      simp only [renew, savedText?, asked, answered, Submission.renew]
      by_cases same : stored.id = id
      · subst same
        cases blank : Text.isBlank text <;> simp [blank]
      · simp [same, Ne.symm same]
  | observation draft number | newObservation draft number | summary content number =>
      have unsaved : step.savedText? id = none := by
        simp only [savedText?, asked]
      simp only [Step.renew, unsaved, Submission.renew]

theorem Engine.Mirrors.step {engine : Engine} {texts : Int → Option String}
    (mirrors : engine.Mirrors texts) {operation : Operation} (asked : operation.records = true)
    (unhurried : ¬ Step.Overtaken ⟨engine, operation⟩) :
    (engine.perform operation).engine.Mirrors (Step.renew texts ⟨engine, operation⟩) := by
  cases operation with
  | record submission occasion =>
      rcases engine.submission_cases occasion submission with
        ⟨result, -, whole, unanswered⟩ | ⟨stored, mid, ids, ran, -, -, -, whole⟩
      · rw [Step.renew_unanswered]
        · simp only [perform, whole]
          exact mirrors
        · intro stored answered
          simp only [Step.outcome, perform, whole, Outcome.map] at answered
          cases result with
          | error failure => cases answered
          | ok answer =>
              cases answered
              exact unanswered stored rfl
      · have answered : (engine.record occasion submission).result = .ok (some stored) := by
          rw [whole]
        have renewed : Step.renew texts ⟨engine, .record submission occasion⟩ =
            submission.renew texts stored.id := by
          refine Step.renew_answered rfl ?_ texts
          simp only [Step.outcome, perform, Outcome.map, answered]
          rfl
        rw [renewed]
        simp only [perform, whole]
        refine mirrors.write occasion.pass ids (Submission.transaction_writes ran) ?_
        intro turn taken
        by_contra documented
        refine unhurried ⟨submission, occasion, stored, mid, rfl, turn, ran, answered, ?_,
          documented, mirrors.reliable.embeds _⟩
        rw [whole, (engine.recording_sameStore _ mid submission.kind stored.id ids).store,
          (engine.evicting_sameStore mid submission.kind ids).store, Store.ids_delete, if_pos rfl]
        simp [taken]
  | cleanup kind pool =>
      rw [Step.renew_unanswered]
      · simp only [perform]
        rcases engine.cleanup_cases kind pool with ⟨failure, whole⟩ | ⟨ids, -, whole⟩
        · rw [whole]
          exact mirrors
        · rw [whole]
          exact mirrors.pass kind ids
      · intro stored
        exact Answer.map_ne fun ids same => by cases same
  | store submission occasion => cases asked
  | amend amendment => cases asked
  | delete kind ids => cases asked
  | search request now => cases asked
  | reembed => cases asked
  | embedWith embedder => cases asked

theorem Engine.mirrors_after (engine : Engine) (operations : List Operation)
    (empty : engine.store = {}) (bare : engine.documents = []) (reliable : engine.Reliable)
    (asked : ∀ operation ∈ operations, operation.records = true)
    (unhurried : ∀ step ∈ engine.history operations, ¬ step.Overtaken) :
    (engine.after operations).Mirrors (textsOf (engine.history operations)) := by
  induction operations using List.reverseRecOn with
  | nil =>
      refine ⟨?_, reliable, ?_, ?_, fun _ _ => rfl⟩
      · change engine.store.Sound
        rw [empty]
        exact Store.sound_empty
      · intro d
        change d ∈ engine.documents ↔ ∃ kind, d ∈ engine.store.indexedDocuments _ kind
        rw [bare, empty]
        refine iff_of_false (by simp) ?_
        rintro ⟨kind, member⟩
        cases kind <;> cases member
      · intro p live
        change p ∈ engine.store.prompts.rows at live
        rw [empty] at live
        cases live
  | append_singleton operations operation ih =>
      rw [Engine.history_concat] at unhurried
      have earlier := ih (fun other member => asked other (List.mem_append_left _ member))
        fun step member => unhurried step (List.mem_append_left _ member)
      rw [Engine.after_concat, Engine.history_concat, textsOf_concat]
      exact earlier.step (asked operation (by simp)) (unhurried _ (by simp))

theorem textsOf_eq_none {history : List Step} {id : Int} : textsOf history id = none ↔
    ∀ step ∈ history, ∀ text, step.savedText? id = some text → Text.isBlank text = true := by
  induction history using List.reverseRecOn with
  | nil => exact iff_of_true rfl fun step member => by cases member
  | append_singleton history step ih =>
      rw [textsOf_concat]
      simp only [List.mem_append, List.mem_singleton, or_imp, forall_and, forall_eq]
      simp only [Step.renew]
      cases saved : step.savedText? id with
      | none => simpa using ih
      | some text =>
          cases blank : Text.isBlank text with
          | true => simpa [blank] using ih
          | false => simp [blank]

namespace Engine.Mirrors

variable {engine : Engine} {texts : Int → Option String}

/-- A document that stays behind is none of the prompt's present state. -/
theorem not_mirrored (mirrors : engine.Mirrors texts) {p : Prompt} {text : String}
    (live : p ∈ engine.store.prompts.rows) (blank : Text.isBlank p.text = true)
    (saved : texts p.id = some text) :
    ∃ d ∈ engine.documents, ∀ kind, d ∉ engine.store.documents kind := by
  refine ⟨Document.make .prompt p.id p.project none "prompt" none text, ?_, ?_⟩
  · refine (mirrors.documents _).mpr ⟨.prompt, Store.mem_indexedPrompts.mpr ?_⟩
    exact ⟨p.label, List.mem_map_of_mem live, text, saved, rfl⟩
  · intro kind member
    obtain ⟨label, -, describes⟩ := Store.documents_describe member
    have isPrompt : RecordKind.prompt = kind := RecordKind.docType_injective describes.docType
    subst isPrompt
    obtain ⟨other, present, made⟩ := List.mem_flatMap.mp member
    have once := mirrors.sound.nodup .prompt
    rw [Store.ids_prompt] at once
    have same : p = other := List.inj_on_of_nodup_map once live present
      (Document.ofPrompt_source made)
    have filled := (Document.mem_ofPrompt.mp made).1
    rw [← same, blank] at filled
    cases filled

theorem mirrored (mirrors : engine.Mirrors texts)
    (silent : ∀ p ∈ engine.store.prompts.rows, Text.isBlank p.text = true → texts p.id = none)
    (d : Document) :
    d ∈ engine.documents ↔ ∃ kind, d ∈ engine.store.documents kind := by
  rw [mirrors.documents]
  refine exists_congr fun kind => ?_
  cases kind with
  | observation | summary => rfl
  | prompt =>
      constructor
      · intro member
        obtain ⟨label, held, text, saved, rfl⟩ := Store.mem_indexedPrompts.mp member
        obtain ⟨p, live, rfl⟩ := List.mem_map.mp held
        change texts p.id = some text at saved
        cases blank : Text.isBlank p.text with
        | true =>
            rw [silent p live blank] at saved
            cases saved
        | false =>
            rw [mirrors.current p live blank] at saved
            cases saved
            exact List.mem_flatMap.mpr ⟨p, live, Document.mem_ofPrompt.mpr ⟨blank, rfl⟩⟩
      · intro member
        obtain ⟨p, live, made⟩ := List.mem_flatMap.mp member
        obtain ⟨filled, rfl⟩ := Document.mem_ofPrompt.mp made
        refine Store.mem_indexedPrompts.mpr ⟨p.label, List.mem_map_of_mem live, p.text, ?_, rfl⟩
        exact mirrors.current p live filled

end Engine.Mirrors

/-- What keeps a mirror from being faithful is that a record was overtaken by its own pass, or
that a prompt was saved with some text and then with a blank one. -/
theorem index_mirrors_iff (engine : Engine) (operations : List Operation)
    (empty : engine.store = {}) (bare : engine.documents = []) (reliable : engine.Reliable)
    (asked : ∀ operation ∈ operations, operation.records = true) :
    (∀ d, d ∈ (engine.after operations).documents ↔
        ∃ kind, d ∈ (engine.after operations).store.documents kind) ↔
      (∀ step ∈ engine.history operations, ¬ step.Overtaken) ∧
        ∀ p ∈ (engine.after operations).store.prompts.rows, Text.isBlank p.text = true →
          ∀ step ∈ engine.history operations, ∀ text, step.savedText? p.id = some text →
            Text.isBlank text = true := by
  simp only [← textsOf_eq_none]
  constructor
  · intro same
    -- That the texts tell the documents is only known of runs without an overtaken record.
    have owned : ∀ d ∈ (engine.after operations).documents,
        (engine.after operations).store.Owns d := by
      intro d held
      obtain ⟨kind, present⟩ := (same d).mp held
      obtain ⟨label, live, describes⟩ := Store.documents_describe present
      exact ⟨kind, label, live, describes⟩
    have unhurried := Engine.not_overtaken_of_owned (empty ▸ Store.sound_empty) reliable.online
      bare owned
    refine ⟨unhurried, fun p live blank => ?_⟩
    have mirrors := engine.mirrors_after operations empty bare reliable asked unhurried
    cases saved : textsOf (engine.history operations) p.id with
    | none => rfl
    | some text =>
        obtain ⟨d, held, absent⟩ := mirrors.not_mirrored live blank saved
        obtain ⟨kind, present⟩ := (same d).mp held
        exact absurd present (absent kind)
  · rintro ⟨unhurried, silent⟩
    exact (engine.mirrors_after operations empty bare reliable asked unhurried).mirrored silent

def mirroring : Engine where
  retention := { observationsPerProject := 1, prompts := 1 }
  index := some { embedder := constantEmbedder }

/-- A prompt is given another text and then makes room for one that was blank at first. Passes
come at any turn. -/
def rewriting : List Operation :=
  let occasion (now : Int) (pass : PassTurn) : Occasion :=
    { sessionKey := "session", project := "project", now, pass }
  let draft (facts : List String) : ObservationDraft :=
    { content := { type := .feature, facts }, scope := some .project }
  [.record (.observation (draft ["first", " ", "third"]) none) (occasion 1 .late),
    .record (.observation (draft ["second"]) none) (occasion 2 .between),
    .record (.summary { request := some "read", notes := some "" } none) (occasion 3 .early),
    .record (.prompt 1 "what?") (occasion 4 .between),
    .record (.prompt 1 "which?") (occasion 5 .late),
    .record (.prompt 2 " ") (occasion 6 .between),
    .record (.prompt 2 "why?") (occasion 7 .early),
    .cleanup .prompt .everywhere]

theorem rewriting_mirrors_iff :
    (mirroring.store = {} ∧ mirroring.documents = [] ∧ mirroring.Reliable ∧
      ∀ operation ∈ rewriting, operation.records = true) ∧
    ((∀ d, d ∈ (mirroring.after rewriting).documents ↔
        ∃ kind, d ∈ (mirroring.after rewriting).store.documents kind) ↔
      (∀ step ∈ mirroring.history rewriting, ¬ step.Overtaken) ∧
        ∀ p ∈ (mirroring.after rewriting).store.prompts.rows, Text.isBlank p.text = true →
          ∀ step ∈ mirroring.history rewriting, ∀ text, step.savedText? p.id = some text →
            Text.isBlank text = true) := by
  have reliable : mirroring.Reliable := ⟨_, rfl, rfl, constantEmbedder_neverFails⟩
  have asked : ∀ operation ∈ rewriting, operation.records = true := by
    simp [rewriting, Operation.records]
  exact ⟨⟨rfl, rfl, reliable, asked⟩, index_mirrors_iff mirroring rewriting rfl rfl reliable asked⟩

def blanking : List Operation :=
  let occasion (now : Int) : Occasion := { sessionKey := "session", project := "project", now }
  [.record (.prompt 1 "hello world") (occasion 1), .record (.prompt 1 "  ") (occasion 2)]

theorem blanked_prompt_not_mirrored :
    ¬ ∀ d, d ∈ (mirroring.after blanking).documents ↔
      ∃ kind, d ∈ (mirroring.after blanking).store.documents kind := by
  intro same
  let old := Document.make .prompt 1 "project" none "prompt" none "hello world"
  have held : old ∈ (mirroring.after blanking).documents := by decide +kernel
  have absent (kind : RecordKind) : old ∉ (mirroring.after blanking).store.documents kind := by
    cases kind <;> decide +kernel
  obtain ⟨kind, present⟩ := (same old).mp held
  exact absent kind present

end Recall
