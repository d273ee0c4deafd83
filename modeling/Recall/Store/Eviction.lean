import Recall.Store.Prompts

/-!
Eviction. A pass over a pool keeps its newest rows, as many as the quota allows, and removes
the rest. A pass that is late, at its start or when it is about to be committed, changes
nothing.
-/

namespace Recall

inductive Pool
  | project (name : String)
  | everywhere
  deriving DecidableEq, Repr

namespace Pool

def holdsObservation : Pool → Observation → Bool
  | project name, o => o.project = name && o.scope = .project
  | everywhere, o => o.scope = .everywhere

/-- All prompts are in the pool `everywhere`. -/
def holdsPrompt : Pool → Prompt → Bool
  | project name, p => p.project = name
  | everywhere, _ => true

end Pool

structure Deadline where
  passedAtStart : Bool := false
  passedAtCommit : Bool := false
  deriving DecidableEq, Repr

def beyondQuota [Row α] (keep : Nat) (pool : List α) : List α :=
  ((pool.mergeSort newestFirst).drop keep).reverse

/-- The ids of the removed rows come with the new table. The quota is looked at for the first
row of the pool, so an empty pool takes any. -/
def Table.evict [Row α] (table : Table α) (inPool : α → Bool) (keep : Nat)
    (deadline : Deadline) : Except Failure (Table α × List Int) :=
  if deadline.passedAtStart then .error .deadlinePassed
  else if Number.signedBound ≤ keep && table.rows.any inPool then .error .quotaTooLarge
  else if deadline.passedAtCommit then .error .deadlinePassed
  else
    let ids := (beyondQuota keep (table.rows.filter inPool)).map Row.id
    .ok (table.remove ids, ids)

/-- Summaries are never evicted. -/
def Store.evict (store : Store) (kind : RecordKind) (pool : Pool) (keep : Nat)
    (deadline : Deadline) : Except Failure (Store × List Int) :=
  match kind with
  | .observation => do
    let (table, ids) ← store.observations.evict pool.holdsObservation keep deadline
    return ({ store with observations := table }, ids)
  | .summary => .ok (store, [])
  | .prompt => do
    let (table, ids) ← store.prompts.evict pool.holdsPrompt keep deadline
    return ({ store with prompts := table }, ids)

end Recall
