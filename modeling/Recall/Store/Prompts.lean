import Recall.Store.Summaries

namespace Recall.Store

def prompt? (store : Store) (key : String) (number : Int) : Option Prompt :=
  store.prompts.rows.find? fun p => p.sessionKey = key && p.number = number

def promptOf (number : Int) (text : String) (occasion : Occasion) (id : Int) : Prompt := {
  id, sessionKey := occasion.sessionKey, project := occasion.project, number, text
  matchedObservations := 0, tokens := occasion.tokens, createdAt := occasion.now }

/-- Every call uses up a prompt id, also when the prompt is there already. -/
def upsertPrompt (number : Int) (text : String) (occasion : Occasion) :
    Transaction Stored := fun store =>
  let table := store.prompts
  if noIdAfter table.lastId then .error .idsExhausted
  else match store.prompt? occasion.sessionKey number with
    | some p =>
      let table := table.update [p.id] ({ · with text, tokens := occasion.tokens })
      .ok (⟨p.id, p.createdAt⟩,
        { store with prompts := { table with lastId := table.lastId + 1 } })
    | none =>
      let table := table.insert (promptOf number text occasion)
      .ok (⟨table.lastId, occasion.now⟩, { store with prompts := table })

def raisePromptCounter (key : String) (number : Int) : Transaction Unit := fun store =>
  .ok ((), store.updateSession key fun s =>
    { s with promptCounter := s.promptCounter.raiseTo number })

def savePrompt (number : Int) (text : String) (occasion : Occasion) : Transaction Stored := do
  let _ ← upsertSession occasion (some text)
  let stored ← upsertPrompt number text occasion
  raisePromptCounter occasion.sessionKey number
  return stored

def getPrompts (store : Store) (ids : List Int) (order : SortOrder) (limit : Option Nat) :
    Except Failure (List Prompt) :=
  fetch store.prompts (ageOrder order) ids limit

def listPrompts (store : Store) (project : Option String) (order : SortOrder) (limit : Nat) :
    List Prompt :=
  limited limit
    ((store.prompts.rows.filter (inProject project ·.project)).mergeSort (ageOrder order))

def promptScan (project : Option String) : Scan Prompt where
  visible := (inProject project ·.project)

def searchPrompts (store : Store) (query : String) (project : Option String) (limit : Nat) :
    Except Failure (List (Prompt × Float)) :=
  store.prompts.search (promptScan project) query limit

def updateMatchedCount (store : Store) (id matched : Int) : Store × Bool :=
  ({ store with
      prompts := store.prompts.update [id] ({ · with matchedObservations := matched }) },
    (store.prompts.find? id).isSome)

end Recall.Store
