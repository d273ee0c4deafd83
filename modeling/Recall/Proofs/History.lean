import Recall.Engine

namespace Recall

inductive Submission
  | observation (draft : ObservationDraft) (promptNumber : Option Int)
  /-- Left out when it repeats a recent observation. -/
  | newObservation (draft : ObservationDraft) (promptNumber : Option Int)
  | summary (content : SummaryContent) (promptNumber : Option Int)
  | prompt (number : Int) (text : String)

def Submission.kind : Submission → RecordKind
  | observation _ _ | newObservation _ _ => .observation
  | summary _ _ => .summary
  | prompt _ _ => .prompt

inductive Amendment
  | createSession (occasion : Occasion) (prompt : Option String)
  | completeSession (key : String) (status : SessionStatus) (now : Int)
  | incrementPromptCounter (key : String)
  | markSuperseded (ids : List Int)
  | recordRetrieval (ids : List Int) (now : Int)
  | updateImportance (id : Int) (importance : Float)
  | updateMatchedCount (id matched : Int)

inductive Operation
  | record (submission : Submission) (occasion : Occasion)
  | store (submission : Submission) (occasion : Occasion)
  | amend (amendment : Amendment)
  | delete (kind : RecordKind) (ids : List Int)
  | cleanup (kind : RecordKind) (pool : Pool)
  | search (request : SearchRequest) (now : Int)
  | reembed
  /-- From now on another embedder serves the index. -/
  | embedWith (embedder : Embedder)

inductive Answer
  /-- Nothing is stored for a repetition. -/
  | stored (record : Option Stored)
  | session (id : Nat)
  | found (known : Bool)
  | counter (value : Int)
  | done
  | count (records : Nat)
  | removed (ids : List Int)
  | results (response : SearchResponse)

def Outcome.map (change : α → β) (outcome : Outcome α) : Outcome β := {
  engine := outcome.engine, result := outcome.result.map change, evictions := outcome.evictions }

def Amendment.apply (store : Store) : Amendment → Store × Except Failure Answer
  | createSession occasion prompt =>
    let (store, result) := store.commit (Store.upsertSession occasion prompt)
    (store, result.map .session)
  | completeSession key status now =>
    let (store, known) := store.completeSession key status now
    (store, .ok (.found known))
  | incrementPromptCounter key =>
    let (store, result) := store.incrementPromptCounter key
    (store, result.map .counter)
  | markSuperseded ids => (store.markSuperseded ids, .ok .done)
  | recordRetrieval ids now => (store.recordRetrieval ids now, .ok .done)
  | updateImportance id importance =>
    let (store, result) := store.commit (Store.updateImportance id importance)
    (store, result.map .found)
  | updateMatchedCount id matched =>
    let (store, known) := store.updateMatchedCount id matched
    (store, .ok (.found known))

namespace Engine

def record (engine : Engine) (occasion : Occasion) : Submission → Outcome (Option Stored)
  | .observation draft number => (engine.recordObservation draft number occasion).map some
  | .newObservation draft number => engine.recordNewObservation draft number occasion
  | .summary content number => (engine.recordSummary content number occasion).map some
  | .prompt number text => (engine.recordPrompt number text occasion).map some

/-- The record is stored, and what it evicts leaves the index, but it is not indexed. -/
def storeOnly (engine : Engine) (occasion : Occasion) : Submission → Outcome (Option Stored)
  | .observation draft number => (engine.storeObservation draft number occasion).map some
  | .newObservation draft number => engine.storeNewObservation draft number occasion
  | .summary content number => (engine.storeSummary content number occasion).map some
  | .prompt number text => (engine.storePrompt number text occasion).map some

def perform (engine : Engine) : Operation → Outcome Answer
  | .record submission occasion => (engine.record occasion submission).map .stored
  | .store submission occasion => (engine.storeOnly occasion submission).map .stored
  | .amend amendment =>
    let (store, result) := amendment.apply engine.store
    { engine := { engine with store }, result }
  | .delete kind ids => {
      engine := { engine with store := engine.store.delete ids kind }
      result := .ok (.count (engine.store.countIds ids kind)) }
  | .cleanup kind pool => (engine.cleanup kind pool).map .removed
  | .search request now => (engine.search request now).map .results
  | .reembed =>
    match engine.reembed with
    | .ok (engine, updated) => { engine, result := .ok (.count updated) }
    | .error failure => { engine, result := .error failure }
  | .embedWith embedder => {
      engine := { engine with index := engine.index.map (·.reopen embedder) }
      result := .ok .done }

def after (engine : Engine) (operations : List Operation) : Engine :=
  operations.foldl (fun engine operation => (engine.perform operation).engine) engine

end Engine

structure Step where
  before : Engine
  operation : Operation

def Step.outcome (step : Step) : Outcome Answer := step.before.perform step.operation

def Engine.history (engine : Engine) : List Operation → List Step
  | [] => []
  | operation :: operations =>
    ⟨engine, operation⟩ :: (engine.perform operation).engine.history operations

namespace Engine

theorem after_concat (engine : Engine) (operations : List Operation) (operation : Operation) :
    engine.after (operations ++ [operation]) =
      ((engine.after operations).perform operation).engine := by
  simp only [after, List.foldl_append, List.foldl_cons, List.foldl_nil]

theorem history_concat (engine : Engine) (operations : List Operation) (operation : Operation) :
    engine.history (operations ++ [operation]) =
      engine.history operations ++ [⟨engine.after operations, operation⟩] := by
  induction operations generalizing engine with
  | nil => rfl
  | cons first rest ih =>
      simp only [List.cons_append, history, ih]
      rfl

/-- What holds at the start and outlives each operation of a run holds after the run. -/
theorem after_invariant (holds : Engine → Prop) (engine : Engine) (operations : List Operation)
    (start : holds engine)
    (preserved : ∀ operation ∈ operations, ∀ met, holds met →
      holds (met.perform operation).engine) :
    holds (engine.after operations) := by
  induction operations generalizing engine with
  | nil => exact start
  | cons first rest ih =>
      apply ih
      · exact preserved first List.mem_cons_self engine start
      · intro operation member
        exact preserved operation (List.mem_cons_of_mem first member)

end Engine

end Recall
