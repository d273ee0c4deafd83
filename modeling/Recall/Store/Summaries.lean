import Recall.Store.Observations

namespace Recall.Store

def ageOrder [Row α] : SortOrder → α → α → Bool
  | .oldestFirst => oldestFirst
  | _ => newestFirst

def inProject (project : Option String) (own : String) : Bool := project.all (· = own)

def summaryOf (content : SummaryContent) (promptNumber : Option Int) (occasion : Occasion)
    (id : Int) : Summary := {
  id, sessionKey := occasion.sessionKey, project := occasion.project, content, promptNumber
  discoveryTokens := occasion.tokens, createdAt := occasion.now }

def insertSummary (content : SummaryContent) (promptNumber : Option Int) (occasion : Occasion) :
    Transaction Stored := fun store =>
  if noIdAfter store.summaries.lastId then .error .idsExhausted
  else
    let table := store.summaries.insert (summaryOf content promptNumber occasion)
    .ok (⟨table.lastId, occasion.now⟩, { store with summaries := table })

def storeSummary (content : SummaryContent) (promptNumber : Option Int) (occasion : Occasion) :
    Transaction Stored := do
  let _ ← upsertSession occasion none
  insertSummary content promptNumber occasion

def getSummaries (store : Store) (ids : List Int) (order : SortOrder) (limit : Option Nat) :
    Except Failure (List Summary) :=
  fetch store.summaries (ageOrder order) ids limit

def listSummaries (store : Store) (project : Option String) (order : SortOrder) (limit : Nat) :
    List Summary :=
  limited limit
    ((store.summaries.rows.filter (inProject project ·.project)).mergeSort (ageOrder order))

def summaryScan (project : Option String) : Scan Summary where
  visible := (inProject project ·.project)

def searchSummaries (store : Store) (query : String) (project : Option String) (limit : Nat) :
    Except Failure (List (Summary × Float)) :=
  store.summaries.search (summaryScan project) query limit

def countSummaries (store : Store) (project : String) : Nat :=
  store.summaries.rows.countP (·.project = project)

end Recall.Store
