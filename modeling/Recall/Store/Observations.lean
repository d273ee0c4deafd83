import Recall.Number.Order
import Recall.Record.Column
import Recall.Store.Search
import Recall.Store.Sessions

namespace Recall

/-- Which observations a request may see. Without a project it spans all projects. -/
structure ObservationFilter where
  project : Option String
  /-- Observations of scope `everywhere` are admitted. -/
  includeEverywhere : Bool
  /-- Superseded observations are left out. -/
  activeOnly : Bool
  deriving DecidableEq, Repr

namespace ObservationFilter

def visibleTo (project : String) : ObservationFilter := ⟨some project, true, false⟩

def all : ObservationFilter := ⟨none, true, false⟩

def admits (filter : ObservationFilter) (o : Observation) : Bool :=
  let everywhere := decide (o.scope = .everywhere)
  let inScope := match filter.project, filter.includeEverywhere with
    | some project, true => (o.project = project && !everywhere) || everywhere
    | some project, false => o.project = project && !everywhere
    | none, true => true
    | none, false => !everywhere
  inScope && (!filter.activeOnly || !o.superseded)

def scan (filter : ObservationFilter) : Scan Observation := {
  visible := filter.admits
  gathered := filter.project.map fun project o =>
    o.project = project || (filter.includeEverywhere && o.scope = .everywhere)
  conditions := if filter.activeOnly then 2 else 1 }

end ObservationFilter

def mostImportantFirst (a b : Observation) : Bool :=
  let (x, y) := (Number.valueKey a.importance, Number.valueKey b.importance)
  y < x || (x = y && newestFirst a b)

namespace Store

/-- Zero is stored without a sign. -/
def storedImportance (importance : Float) : Float :=
  if Number.magnitude importance = 0 then 0 else importance

def observationOf (draft : ObservationDraft) (promptNumber : Option Int) (occasion : Occasion)
    (id : Int) : Observation := {
  id, sessionKey := occasion.sessionKey, project := occasion.project
  scope := draft.resolvedScope, content := draft.content, promptNumber
  discoveryTokens := occasion.tokens
  importance := storedImportance (draft.importance.getD 1)
  retrievalCount := 0, lastRetrievedAt := none, superseded := false
  createdAt := occasion.now }

def insertObservation (draft : ObservationDraft) (promptNumber : Option Int)
    (occasion : Occasion) : Transaction Stored := fun store =>
  if Number.isNaN (draft.importance.getD 1) then .error .importanceNotANumber
  else if noIdAfter store.observations.lastId then .error .idsExhausted
  else
    let table := store.observations.insert (observationOf draft promptNumber occasion)
    .ok (⟨table.lastId, occasion.now⟩, { store with observations := table })

def storeObservation (draft : ObservationDraft) (promptNumber : Option Int)
    (occasion : Occasion) : Transaction Stored := do
  let _ ← upsertSession occasion none
  insertObservation draft promptNumber occasion

def listOrder : SortOrder → Observation → Observation → Bool
  | .oldestFirst => oldestFirst
  | .importance => mostImportantFirst
  | .newestFirst | .unspecified => newestFirst

def fetchOrder : SortOrder → Observation → Observation → Bool
  | .oldestFirst => oldestFirst
  | .newestFirst => newestFirst
  | .importance | .unspecified => mostImportantFirst

/-- A limit that is no signed 64-bit number is refused, unless nothing is asked for. -/
def fetch [Row α] (table : Table α) (order : α → α → Bool) (ids : List Int)
    (limit : Option Nat) : Except Failure (List α) :=
  if ids.isEmpty then .ok []
  else
    let rows := (table.withIds ids).mergeSort order
    match limit with
    | none => .ok rows
    | some n => if n < Number.signedBound then .ok (rows.take n) else .error .limitTooLarge

def getObservations (store : Store) (ids : List Int) (order : SortOrder) (limit : Option Nat) :
    Except Failure (List Observation) :=
  fetch store.observations (fetchOrder order) ids limit

def listObservations (store : Store) (filter : ObservationFilter) (order : SortOrder)
    (limit : Nat) : List Observation :=
  limited limit ((store.observations.rows.filter filter.admits).mergeSort (listOrder order))

def recentObservations (store : Store) (project : String) (limit : Nat) : List Observation :=
  store.listObservations (.visibleTo project) .newestFirst limit

def activeObservations (store : Store) (project : String) (limit : Nat) : List Observation :=
  store.listObservations { ObservationFilter.visibleTo project with activeOnly := true }
    .newestFirst limit

def searchObservations (store : Store) (query : String) (filter : ObservationFilter)
    (limit : Nat) : Except Failure (List (Observation × Float)) :=
  store.observations.search filter.scan query limit

def countObservations (store : Store) (project : String) : Nat :=
  store.observations.rows.countP (ObservationFilter.visibleTo project).admits

def setColumn (store : Store) (id : Int) (column : ListColumn) (stored : String) : Store :=
  { store with
    observations := store.observations.update [id] fun o =>
      { o with content := column.read stored o.content } }

def markSuperseded (store : Store) (ids : List Int) : Store :=
  { store with observations := store.observations.update ids ({ · with superseded := true }) }

/-- An id that is named several times is counted as often. -/
def recordRetrieval (store : Store) (ids : List Int) (now : Int) : Store :=
  { store with
    observations := store.observations.update ids fun o =>
      { o with
        retrievalCount := o.retrievalCount + ids.count o.id
        lastRetrievedAt := some now } }

def updateImportance (id : Int) (importance : Float) : Transaction Bool := fun store =>
  let found := (store.observations.find? id).isSome
  if found && Number.isNaN importance then .error .importanceNotANumber
  else .ok (found, { store with
    observations := store.observations.update [id]
      ({ · with importance := storedImportance importance }) })

end Store

end Recall
