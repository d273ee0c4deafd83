import Recall.Search.Semantic
import Recall.Store.Write

/-!
The engine: a store, and perhaps a vector index beside it. A record that is written through
the engine is read again and indexed; a record that is evicted leaves the index. The index is
served as well as it goes: its failures never make a write fail.
-/

namespace Recall

def Store.documentsOf (store : Store) (kind : RecordKind) (id : Int) : List Document :=
  match kind with
  | .observation => (store.observations.find? id).toList.flatMap Document.ofObservation
  | .summary => (store.summaries.find? id).toList.flatMap Document.ofSummary
  | .prompt => (store.prompts.find? id).toList.flatMap Document.ofPrompt

structure Engine where
  retention : RetentionSettings := {}
  searching : SearchSettings := {}
  store : Store := {}
  index : Option VectorIndex := none

structure Outcome (α : Type) where
  engine : Engine
  result : Except Failure α
  evictions : List Eviction := []

namespace Engine

def withIndex (engine : Engine)
    (change : VectorIndex → Except Failure (VectorIndex × Nat)) : Engine :=
  match engine.index with
  | none => engine
  | some index =>
    match change index with
    | .ok (index, _) => { engine with index := some index }
    | .error _ => engine

def dropEvicted (engine : Engine) (eviction : Eviction) : Engine :=
  engine.withIndex fun index => index.removeSources eviction.kind.docType eviction.ids

def settle (engine : Engine) (written : Written α) : Outcome α := {
  engine := written.evictions.foldl dropEvicted { engine with store := written.store }
  result := written.result
  evictions := written.evictions }

def addDocuments (engine : Engine) (documents : List Document) : Engine :=
  if documents.isEmpty then engine else engine.withIndex (·.add documents)

/-- The documents of the record that was written, as it is read again at that turn. It may be
gone by then. -/
def writtenDocuments (kind : RecordKind) (turn : PassTurn) (record? : α → Option Stored)
    (written : Written α) : List Document :=
  let store := match turn with
    | .early => written.store
    | .between | .late => written.committed
  match written.result with
  | .ok value => (record? value).toList.flatMap fun stored => store.documentsOf kind stored.id
  | .error _ => []

/-- Takes over the store after a write and indexes the record. Up to a late pass, what was
evicted leaves the index before the record comes in. -/
def settleIndexed (engine : Engine) (kind : RecordKind) (turn : PassTurn)
    (record? : α → Option Stored) (written : Written α) : Outcome α :=
  let documents := writtenDocuments kind turn record? written
  match turn with
  | .early | .between =>
    let outcome := engine.settle written
    { outcome with engine := outcome.engine.addDocuments documents }
  | .late => (engine.addDocuments documents).settle written

def storeObservation (engine : Engine) (draft : ObservationDraft) (promptNumber : Option Int)
    (occasion : Occasion) : Outcome Stored :=
  engine.settle (engine.store.writeObservation engine.retention draft promptNumber occasion)

def storeNewObservation (engine : Engine) (draft : ObservationDraft)
    (promptNumber : Option Int) (occasion : Occasion) : Outcome (Option Stored) :=
  engine.settle (engine.store.writeNewObservation engine.retention draft promptNumber occasion)

def storeSummary (engine : Engine) (content : SummaryContent) (promptNumber : Option Int)
    (occasion : Occasion) : Outcome Stored :=
  engine.settle (engine.store.writeSummary content promptNumber occasion)

def storePrompt (engine : Engine) (number : Int) (text : String) (occasion : Occasion) :
    Outcome Stored :=
  engine.settle (engine.store.writePrompt engine.retention number text occasion)

def recordObservation (engine : Engine) (draft : ObservationDraft) (promptNumber : Option Int)
    (occasion : Occasion) : Outcome Stored :=
  engine.settleIndexed .observation occasion.pass some
    (engine.store.writeObservation engine.retention draft promptNumber occasion)

def recordNewObservation (engine : Engine) (draft : ObservationDraft)
    (promptNumber : Option Int) (occasion : Occasion) : Outcome (Option Stored) :=
  engine.settleIndexed .observation occasion.pass id
    (engine.store.writeNewObservation engine.retention draft promptNumber occasion)

def recordSummary (engine : Engine) (content : SummaryContent) (promptNumber : Option Int)
    (occasion : Occasion) : Outcome Stored :=
  engine.settleIndexed .summary occasion.pass some
    (engine.store.writeSummary content promptNumber occasion)

def recordPrompt (engine : Engine) (number : Int) (text : String) (occasion : Occasion) :
    Outcome Stored :=
  engine.settleIndexed .prompt occasion.pass some
    (engine.store.writePrompt engine.retention number text occasion)

def cleanup (engine : Engine) (kind : RecordKind) (pool : Pool) : Outcome (List Int) :=
  match engine.store.cleanup engine.retention kind pool with
  | .error failure => { engine, result := .error failure }
  | .ok (store, ids) =>
    engine.settle { store, result := .ok ids, evictions := Store.evictionsOf kind ids }

def search (engine : Engine) (request : SearchRequest) (now : Int) : Outcome SearchResponse :=
  let (store, result) := Search.run engine.store engine.searching engine.index request now
  { engine := { engine with store }, result }

def atTime (engine : Engine) (now : Int) : Engine :=
  { engine with index := engine.index.map ({ · with clock := now }) }

def reembed (engine : Engine) : Except Failure (Engine × Nat) :=
  match engine.index with
  | none => .ok (engine, 0)
  | some index => do
    let (index, updated) ← index.reembed
    return ({ engine with index := some index }, updated)

def indexStatus (engine : Engine) : Except Failure (Option RebuildNeed) :=
  match engine.index with
  | none => .ok none
  | some index => index.rebuildNeed.map some

end Engine

end Recall
