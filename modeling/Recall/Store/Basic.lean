import Recall.Record.Observation
import Recall.Record.Prompt
import Recall.Record.Session
import Recall.Record.Summary
import Recall.Store.Table

namespace Recall

instance : Row Observation where
  id := Observation.id
  createdAt := Observation.createdAt
  columns := ["o.title", "o.subtitle", "o.narrative"]
  columns_ne_nil := List.cons_ne_nil _ _
  texts o := o.content.searchedTexts

instance : Row Summary where
  id := Summary.id
  createdAt := Summary.createdAt
  columns := ["s.request", "s.investigated", "s.learned", "s.completed", "s.next_steps", "s.notes"]
  columns_ne_nil := List.cons_ne_nil _ _
  texts s := s.content.searchedTexts

instance : Row Prompt where
  id := Prompt.id
  createdAt := Prompt.createdAt
  columns := ["p.prompt_text"]
  columns_ne_nil := List.cons_ne_nil _ _
  texts p := [some p.text]

structure Store where
  sessions : List Session := []
  lastSessionId : Nat := 0
  observations : Table Observation := {}
  summaries : Table Summary := {}
  prompts : Table Prompt := {}
  deriving Repr

abbrev Transaction := StateT Store (Except Failure)

def Store.commit (store : Store) (change : Transaction α) : Store × Except Failure α :=
  match change.run store with
  | .ok (result, changed) => (changed, .ok result)
  | .error failure => (store, .error failure)

/-- The pass that follows a write is a task of its own. It comes before the record is read for
the index, between that and the indexing, or after both. -/
inductive PassTurn
  | early
  | between
  | late
  deriving DecidableEq, Repr

structure Occasion where
  sessionKey : String
  project : String
  /-- How many tokens the record has cost. -/
  tokens : Int := 0
  now : Int
  pass : PassTurn := .early
  deriving DecidableEq, Repr

structure Stored where
  id : Int
  createdAt : Int
  deriving DecidableEq, Repr

namespace Store

/-- Opening a stored database sets up ranked search where it is missing. -/
def reopen (store : Store) : Store :=
  { store with
    observations := store.observations.openRanking
    summaries := store.summaries.openRanking
    prompts := store.prompts.openRanking }

def dropRanking (store : Store) : RecordKind → Store
  | .observation => { store with observations := store.observations.dropRanking }
  | .summary => { store with summaries := store.summaries.dropRanking }
  | .prompt => { store with prompts := store.prompts.dropRanking }

def delete (store : Store) (ids : List Int) : RecordKind → Store
  | .observation => { store with observations := store.observations.remove ids }
  | .summary => { store with summaries := store.summaries.remove ids }
  | .prompt => { store with prompts := store.prompts.remove ids }

def countIds (store : Store) (ids : List Int) : RecordKind → Nat
  | .observation => (store.observations.withIds ids).length
  | .summary => (store.summaries.withIds ids).length
  | .prompt => (store.prompts.withIds ids).length

def setCreatedAt (store : Store) (id time : Int) : RecordKind → Store
  | .observation =>
    { store with observations := store.observations.update [id] ({ · with createdAt := time }) }
  | .summary =>
    { store with summaries := store.summaries.update [id] ({ · with createdAt := time }) }
  | .prompt => { store with prompts := store.prompts.update [id] ({ · with createdAt := time }) }

end Store

end Recall
