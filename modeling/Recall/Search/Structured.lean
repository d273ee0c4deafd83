import Recall.Search.Item
import Recall.Store.Prompts

namespace Recall.Search

structure Plan where
  store : Store
  request : SearchRequest
  limit : Nat

namespace Plan

def keywordMatches (plan : Plan) (query : String) (kind : RecordKind) :
    Except Failure (List SearchItem) :=
  let format := plan.request.format
  match kind with
  | .observation => do
    let found ← plan.store.searchObservations query plan.request.filter plan.limit
    return found.map fun (o, score) => (SearchItem.ofObservation format o).withScore score
  | .summary => do
    let found ← plan.store.searchSummaries query plan.request.project plan.limit
    return found.map fun (s, score) => (SearchItem.ofSummary format s).withScore score
  | .prompt => do
    let found ← plan.store.searchPrompts query plan.request.project plan.limit
    return found.map fun (p, score) => (SearchItem.ofPrompt format p).withScore score

def recent (plan : Plan) (kind : RecordKind) : List SearchItem :=
  let format := plan.request.format
  let order := plan.request.order
  match kind with
  | .observation =>
    (plan.store.listObservations plan.request.filter order plan.limit).map
      (SearchItem.ofObservation format)
  | .summary =>
    (plan.store.listSummaries plan.request.project order plan.limit).map
      (SearchItem.ofSummary format)
  | .prompt =>
    (plan.store.listPrompts plan.request.project order plan.limit).map
      (SearchItem.ofPrompt format)

/-- One kind that cannot be searched is enough to fail. -/
def matching (plan : Plan) : Except Failure (List SearchItem) :=
  match plan.request.queryText with
  | some query => (plan.request.type.kinds.mapM (plan.keywordMatches query)).map List.flatten
  | none => .ok []

def latest (plan : Plan) : List SearchItem := plan.request.type.kinds.flatMap plan.recent

def found (plan : Plan) : Except Failure (List SearchItem) :=
  plan.matching.map fun matching => if matching.isEmpty then plan.latest else matching

def structured (plan : Plan) : Except Failure (List SearchItem) :=
  plan.found.map fun found => (SearchItem.sort plan.request.order found).take plan.limit

end Plan

end Recall.Search
