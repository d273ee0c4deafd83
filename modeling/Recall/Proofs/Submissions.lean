import Recall.Proofs.Passes

namespace Recall

def Written.map (change : α → β) (written : Written α) : Written β := {
  store := written.store, committed := written.committed, result := written.result.map change
  evictions := written.evictions }

def Submission.pool (occasion : Occasion) : Submission → Pool
  | observation draft _ | newObservation draft _ => Store.poolOf draft occasion.project
  | summary _ _ => .everywhere
  | prompt _ _ => .everywhere

namespace Engine

def evicting (engine : Engine) (store : Store) (kind : RecordKind) (ids : List Int) : Engine :=
  (Store.evictionsOf kind ids).foldl dropEvicted { engine with store := store.delete ids kind }

def written (engine : Engine) (occasion : Occasion) : Submission → Written (Option Stored)
  | .observation draft number =>
    (engine.store.writeObservation engine.retention draft number occasion).map some
  | .newObservation draft number =>
    engine.store.writeNewObservation engine.retention draft number occasion
  | .summary content number => (engine.store.writeSummary content number occasion).map some
  | .prompt number text => (engine.store.writePrompt engine.retention number text occasion).map some

theorem storeOnly_eq (engine : Engine) (occasion : Occasion) (submission : Submission) :
    engine.storeOnly occasion submission = engine.settle (engine.written occasion submission) := by
  cases submission <;> rfl

theorem settleIndexed_map (engine : Engine) (kind : RecordKind) (turn : PassTurn)
    (written : Written Stored) :
    (engine.settleIndexed kind turn some written).map some =
      engine.settleIndexed kind turn id (written.map some) := by
  obtain ⟨store, committed, result, evictions⟩ := written
  cases result <;> cases turn <;> rfl

theorem record_eq (engine : Engine) (occasion : Occasion) (submission : Submission) :
    engine.record occasion submission = engine.settleIndexed submission.kind occasion.pass id
      (engine.written occasion submission) := by
  cases submission with
  | newObservation draft number => rfl
  | observation draft number | summary content number | prompt number text =>
      exact engine.settleIndexed_map _ occasion.pass _

theorem settleIndexed_unanswered (engine : Engine) (kind : RecordKind) (turn : PassTurn)
    {result : Except Failure (Option Stored)} (unanswered : ∀ stored, result ≠ .ok (some stored)) :
    engine.settleIndexed kind turn id { store := engine.store, result } = { engine, result } := by
  rcases result with failure | _ | stored
  · cases turn <;> rfl
  · cases turn <;> rfl
  · exact absurd rfl (unanswered stored)

def accepting (engine : Engine) (occasion : Occasion) (submission : Submission) :
    Written (Option Stored) :=
  (engine.store.writeInto engine.retention submission.kind (submission.pool occasion)
    (submission.transaction occasion)).map some

theorem written_summary (engine : Engine) (content : SummaryContent) (number : Option Int)
    (occasion : Occasion) :
    engine.written occasion (.summary content number) =
      engine.accepting occasion (.summary content number) := by
  simp only [written, accepting, Store.writeSummary, Store.writeInto, Submission.kind,
    Submission.transaction, Submission.pool]
  rcases engine.store.commit (Store.storeSummary content number occasion) with
    ⟨store, failure | stored⟩
  · rfl
  · rfl

theorem written_eq (engine : Engine) (occasion : Occasion) (submission : Submission) :
    engine.written occasion submission = engine.accepting occasion submission ∨
      engine.written occasion submission = { store := engine.store, result := .ok none } := by
  cases submission with
  | observation draft number => exact Or.inl rfl
  | newObservation draft number =>
      simp only [written, Store.writeNewObservation]
      split
      · exact Or.inr rfl
      · exact Or.inl rfl
  | summary content number => exact Or.inl (engine.written_summary content number occasion)
  | prompt number text => exact Or.inl rfl

/-- A submission is refused and leaves the store as it was, or its transaction is carried out
and followed by a pass. -/
theorem written_cases (engine : Engine) (occasion : Occasion) (submission : Submission) :
    (∃ result, engine.written occasion submission = { store := engine.store, result } ∧
      ∀ stored, result ≠ .ok (some stored)) ∨
    ∃ stored mid ids, (submission.transaction occasion).run engine.store = .ok (stored, mid) ∧
      mid.passAfterWrite engine.retention submission.kind (submission.pool occasion) =
        (mid.delete ids submission.kind, ids) ∧
      ids.Subperm (mid.ids submission.kind) ∧
      engine.written occasion submission = {
        store := mid.delete ids submission.kind, committed := mid
        result := .ok (some stored), evictions := Store.evictionsOf submission.kind ids } := by
  rcases engine.written_eq occasion submission with carried | repeated
  · cases ran : (submission.transaction occasion).run engine.store with
    | error failure =>
        refine Or.inl ⟨.error failure, ?_, by intro stored same; cases same⟩
        rw [carried]
        simp only [accepting, Store.writeInto, Store.commit, ran]
        rfl
    | ok pair =>
        obtain ⟨stored, mid⟩ := pair
        obtain ⟨ids, passed, part⟩ := Store.passAfterWrite_eq engine.retention mid
          submission.kind (submission.pool occasion)
        refine Or.inr ⟨stored, mid, ids, rfl, passed, part, ?_⟩
        rw [carried]
        simp only [accepting, Store.writeInto, Store.commit, ran, passed]
        rfl
  · exact Or.inl ⟨.ok none, repeated, by intro stored same; cases same⟩

def recording (engine : Engine) (turn : PassTurn) (mid : Store) (kind : RecordKind) (id : Int)
    (ids : List Int) : Engine :=
  match turn with
  | .early =>
    (engine.evicting mid kind ids).addDocuments ((mid.delete ids kind).documentsOf kind id)
  | .between => (engine.evicting mid kind ids).addDocuments (mid.documentsOf kind id)
  | .late => (engine.addDocuments (mid.documentsOf kind id)).evicting mid kind ids

theorem submission_cases (engine : Engine) (occasion : Occasion) (submission : Submission) :
    (∃ result, engine.storeOnly occasion submission = { engine, result } ∧
      engine.record occasion submission = { engine, result } ∧
      ∀ stored, result ≠ .ok (some stored)) ∨
    ∃ stored mid ids, (submission.transaction occasion).run engine.store = .ok (stored, mid) ∧
      mid.passAfterWrite engine.retention submission.kind (submission.pool occasion) =
        (mid.delete ids submission.kind, ids) ∧
      ids.Subperm (mid.ids submission.kind) ∧
      engine.storeOnly occasion submission = {
        engine := engine.evicting mid submission.kind ids
        result := .ok (some stored)
        evictions := Store.evictionsOf submission.kind ids } ∧
      engine.record occasion submission = {
        engine := engine.recording occasion.pass mid submission.kind stored.id ids
        result := .ok (some stored)
        evictions := Store.evictionsOf submission.kind ids } := by
  rw [storeOnly_eq, record_eq]
  rcases engine.written_cases occasion submission with
    ⟨result, whole, unanswered⟩ | ⟨stored, mid, ids, ran, passed, part, whole⟩
  · rw [whole]
    exact Or.inl ⟨result, rfl, engine.settleIndexed_unanswered _ _ unanswered, unanswered⟩
  · rw [whole]
    refine Or.inr ⟨stored, mid, ids, ran, passed, part, rfl, ?_⟩
    simp only [settleIndexed, writtenDocuments, id, Option.toList_some, List.flatMap_singleton,
      recording]
    cases occasion.pass <;> rfl

theorem storeOnly_cases (engine : Engine) (occasion : Occasion) (submission : Submission) :
    (∃ result, engine.storeOnly occasion submission = { engine, result } ∧
      ∀ stored, result ≠ .ok (some stored)) ∨
    ∃ stored mid ids, (submission.transaction occasion).run engine.store = .ok (stored, mid) ∧
      mid.passAfterWrite engine.retention submission.kind (submission.pool occasion) =
        (mid.delete ids submission.kind, ids) ∧
      ids.Subperm (mid.ids submission.kind) ∧
      engine.storeOnly occasion submission = {
        engine := engine.evicting mid submission.kind ids
        result := .ok (some stored)
        evictions := Store.evictionsOf submission.kind ids } := by
  rcases engine.submission_cases occasion submission with
    ⟨result, whole, -, unanswered⟩ | ⟨stored, mid, ids, ran, passed, part, whole, -⟩
  · exact Or.inl ⟨result, whole, unanswered⟩
  · exact Or.inr ⟨stored, mid, ids, ran, passed, part, whole⟩

theorem cleanup_cases (engine : Engine) (kind : RecordKind) (pool : Pool) :
    (∃ failure, engine.cleanup kind pool = { engine, result := .error failure }) ∨
    ∃ ids, ids.Subperm (engine.store.ids kind) ∧ engine.cleanup kind pool = {
      engine := engine.evicting engine.store kind ids
      result := .ok ids
      evictions := Store.evictionsOf kind ids } := by
  cases ran : engine.store.cleanup engine.retention kind pool with
  | error failure => exact Or.inl ⟨failure, by simp only [cleanup, ran]⟩
  | ok pair =>
      obtain ⟨store, ids⟩ := pair
      have passed := ran
      simp only [Store.cleanup] at passed
      cases quota : engine.retention.quota kind pool with
      | error failure =>
          rw [quota] at passed
          cases passed
      | ok keep =>
          rw [quota] at passed
          obtain ⟨deleted, part, -⟩ := Store.evict_ok passed
          refine Or.inr ⟨ids, part, ?_⟩
          simp only [cleanup, ran, deleted]
          rfl

def bare (engine : Engine) : Engine := { engine with index := none }

def settings (engine : Engine) : RetentionSettings × SearchSettings :=
  (engine.retention, engine.searching)

def SameStore (before after : Engine) : Prop := after.bare = before.bare

namespace SameStore

variable {before after : Engine}

theorem store (same : before.SameStore after) : after.store = before.store :=
  (congrArg Engine.store same :)

theorem settings (same : before.SameStore after) : after.settings = before.settings :=
  (congrArg Engine.settings same :)

end SameStore

theorem withIndex_sameStore (engine : Engine)
    (change : VectorIndex → Except Failure (VectorIndex × Nat)) :
    engine.SameStore (engine.withIndex change) := by
  simp only [withIndex]
  split
  · rfl
  · split <;> rfl

theorem addDocuments_sameStore (engine : Engine) (documents : List Document) :
    engine.SameStore (engine.addDocuments documents) := by
  simp only [addDocuments]
  split
  · rfl
  · exact engine.withIndex_sameStore _

theorem dropping_sameStore (engine : Engine) (evictions : List Eviction) :
    engine.SameStore (evictions.foldl dropEvicted engine) := by
  induction evictions generalizing engine with
  | nil => rfl
  | cons first rest ih =>
      have dropped := engine.withIndex_sameStore
        (·.removeSources first.kind.docType first.ids)
      exact (ih (engine.dropEvicted first)).trans dropped

theorem evicting_sameStore (engine : Engine) (store : Store) (kind : RecordKind)
    (ids : List Int) :
    ({ engine with store := store.delete ids kind } : Engine).SameStore
      (engine.evicting store kind ids) :=
  dropping_sameStore _ _

theorem recording_sameStore (engine : Engine) (turn : PassTurn) (mid : Store)
    (kind : RecordKind) (id : Int) (ids : List Int) :
    (engine.evicting mid kind ids).SameStore (engine.recording turn mid kind id ids) := by
  cases turn with
  | early | between => exact addDocuments_sameStore _ _
  | late =>
      have taken := engine.evicting_sameStore mid kind ids
      have indexed := engine.addDocuments_sameStore (mid.documentsOf kind id)
      have passed := (engine.addDocuments (mid.documentsOf kind id)).evicting_sameStore mid kind ids
      have before : ({ engine.addDocuments (mid.documentsOf kind id) with
          store := mid.delete ids kind } : Engine).bare =
            ({ engine with store := mid.delete ids kind } : Engine).bare :=
        congrArg (fun other : Engine => { other with store := mid.delete ids kind }) indexed
      exact passed.trans (before.trans taken.symm)

theorem record_sameStore (engine : Engine) (occasion : Occasion) (submission : Submission) :
    (engine.storeOnly occasion submission).engine.SameStore
        (engine.record occasion submission).engine ∧
      (engine.record occasion submission).result =
        (engine.storeOnly occasion submission).result ∧
      (engine.record occasion submission).evictions =
        (engine.storeOnly occasion submission).evictions := by
  rcases engine.submission_cases occasion submission with
    ⟨result, stored, recorded, -⟩ | ⟨written, mid, ids, -, -, -, stored, recorded⟩
  · rw [stored, recorded]
    exact ⟨rfl, rfl, rfl⟩
  · rw [stored, recorded]
    exact ⟨engine.recording_sameStore occasion.pass mid submission.kind written.id ids, rfl, rfl⟩

theorem reembed_sameStore {engine after : Engine} {updated : Nat}
    (ran : engine.reembed = .ok (after, updated)) : engine.SameStore after := by
  simp only [reembed] at ran
  split at ran
  · cases ran
    rfl
  · rename_i index held
    cases made : index.reembed with
    | error failure =>
        rw [made] at ran
        cases ran
    | ok pair =>
        rw [made] at ran
        cases ran
        rfl

end Engine

end Recall
