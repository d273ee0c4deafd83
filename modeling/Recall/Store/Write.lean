import Recall.Settings.Basic
import Recall.Similarity.Cluster
import Recall.Store.Eviction

/-!
Writes under quotas. A write of a record with a quota is followed by an eviction pass over
the pool that the record is in. An observation may be left out when it repeats a recent one.
-/

namespace Recall

structure Eviction where
  kind : RecordKind
  ids : List Int
  deriving DecidableEq, Repr

def Eviction.toJson (e : Eviction) : Json :=
  .object [("kind", .text e.kind.name), ("ids", .ofIntegers e.ids)]

def RetentionSettings.quota (settings : RetentionSettings) (kind : RecordKind) (pool : Pool) :
    Except Failure Nat :=
  match kind, pool with
  | .observation, .project _ => .ok settings.observationsPerProject
  | .observation, .everywhere => .ok settings.observationsEverywhere
  | .prompt, _ => .ok settings.prompts
  | .summary, _ => .error .summariesAreKept

/-- Without any time the pass that follows a write is late from the start. -/
def RetentionSettings.deadline (settings : RetentionSettings) : Deadline :=
  { passedAtStart := settings.timeoutSeconds = 0 }

structure Written (α : Type) where
  store : Store
  /-- The store when the write was committed and nothing was evicted yet. -/
  committed : Store := store
  result : Except Failure α
  evictions : List Eviction := []

namespace Store

/-- A pass that a caller asks for. It has no deadline, and its failure is reported. -/
def cleanup (settings : RetentionSettings) (store : Store) (kind : RecordKind) (pool : Pool) :
    Except Failure (Store × List Int) := do
  let keep ← settings.quota kind pool
  store.evict kind pool keep {}

/-- The pass after a write. Its failure is nobody's concern. -/
def passAfterWrite (settings : RetentionSettings) (store : Store) (kind : RecordKind)
    (pool : Pool) : Store × List Int :=
  match settings.quota kind pool with
  | .error _ => (store, [])
  | .ok keep =>
    match store.evict kind pool keep settings.deadline with
    | .ok (store, ids) => (store, ids)
    | .error _ => (store, [])

def evictionsOf (kind : RecordKind) (ids : List Int) : List Eviction :=
  if ids.isEmpty then [] else [⟨kind, ids⟩]

def writeInto (settings : RetentionSettings) (store : Store) (kind : RecordKind) (pool : Pool)
    (change : Transaction α) : Written α :=
  match store.commit change with
  | (store, .error failure) => { store, result := .error failure }
  | (committed, .ok value) =>
    let (store, ids) := committed.passAfterWrite settings kind pool
    { store, committed, result := .ok value, evictions := evictionsOf kind ids }

def poolOf (draft : ObservationDraft) (project : String) : Pool :=
  match draft.resolvedScope with
  | .everywhere => .everywhere
  | .project => .project project

def writeObservation (settings : RetentionSettings) (store : Store) (draft : ObservationDraft)
    (promptNumber : Option Int) (occasion : Occasion) : Written Stored :=
  store.writeInto settings .observation (poolOf draft occasion.project)
    (storeObservation draft promptNumber occasion)

/-- A recent observation that the project sees is similar to the draft. -/
def repeatsRecent (settings : RetentionSettings) (store : Store) (draft : ObservationDraft)
    (project : String) : Bool :=
  let recent := store.recentObservations project settings.dedupWindow
  Similarity.similarToAny draft.content (recent.map (·.content)) settings.dedupThreshold

def writeNewObservation (settings : RetentionSettings) (store : Store)
    (draft : ObservationDraft) (promptNumber : Option Int) (occasion : Occasion) :
    Written (Option Stored) :=
  if store.repeatsRecent settings draft occasion.project then { store, result := .ok none }
  else
    let written := store.writeObservation settings draft promptNumber occasion
    { written with result := written.result.map some }

def writeSummary (store : Store) (content : SummaryContent) (promptNumber : Option Int)
    (occasion : Occasion) : Written Stored :=
  let (store, result) := store.commit (storeSummary content promptNumber occasion)
  { store, result }

def writePrompt (settings : RetentionSettings) (store : Store) (number : Int) (text : String)
    (occasion : Occasion) : Written Stored :=
  store.writeInto settings .prompt .everywhere (savePrompt number text occasion)

end Store

structure Statistics where
  project : String
  observations : Nat
  observationsEverywhere : Nat
  summaries : Nat
  prompts : Nat
  deriving DecidableEq, Repr

def Statistics.toJson (s : Statistics) : Json := .object [
  ("project", .text s.project),
  ("observations", .integer s.observations),
  ("global_observations", .integer s.observationsEverywhere),
  ("summaries", .integer s.summaries),
  ("prompts", .integer s.prompts)]

def Store.statistics (store : Store) (project : String) : Statistics := {
  project
  observations := store.observations.rows.countP (Pool.project project).holdsObservation
  observationsEverywhere := store.observations.rows.countP Pool.everywhere.holdsObservation
  summaries := store.countSummaries project
  prompts := store.prompts.rows.length }

end Recall
