import Recall.Index.Basic
import Recall.Ranking.Fusion
import Recall.Search.Structured
import Recall.Settings.Basic
import Recall.Similarity.Cluster

/-!
Search with a vector index. Records near to the query in meaning and records that match its
keywords are ranked together, and of similar observations only the best ranked is shown.
-/

namespace Recall.Search

open Ranking (Scored)

inductive Hit
  | observation (o : Observation)
  | summary (s : Summary)
  | prompt (p : Prompt)

namespace Hit

def item (format : Format) : Hit → SearchItem
  | observation o => .ofObservation format o
  | summary s => .ofSummary format s
  | prompt p => .ofPrompt format p

def observation? : Hit → Option Observation
  | observation o => some o
  | _ => none

end Hit

/-- Each record once, at the place of its nearest document. -/
def vectorRanking (matches_ : List VectorMatch) : List (Scored Float) :=
  (matches_.map fun m => ⟨m.metadata.docType, m.metadata.sourceId, m.score⟩).eraseDupsBy
    fun a b => a.key == b.key

/-- The candidates are counted in 64-bit words. A count that is out of range ends the search
with a crash. -/
def candidateCount (settings : SearchSettings) (limit : Nat) : Except Failure Nat :=
  let candidates := limit * max settings.candidateFactor 1
  if candidates < Number.wordBound then .ok candidates else .error .candidatesOverflow

def clampLimit (settings : SearchSettings) (limit : Option Nat) : Nat :=
  max 1 (min (limit.getD settings.defaultLimit) (max settings.largestLimit 1))

namespace Plan

def rankedKind (plan : Plan) (query : String) (candidates : Nat) (kind : RecordKind) :
    Except Failure (List (Scored Float)) :=
  match kind with
  | .observation => do
    let found ← plan.store.searchObservations query plan.request.filter candidates
    return found.map fun (o, score) => ⟨kind.docType, o.id, score⟩
  | .summary => do
    let found ← plan.store.searchSummaries query plan.request.project candidates
    return found.map fun (s, score) => ⟨kind.docType, s.id, score⟩
  | .prompt => do
    let found ← plan.store.searchPrompts query plan.request.project candidates
    return found.map fun (p, score) => ⟨kind.docType, p.id, score⟩

/-- The keyword matches of all requested kinds in one ranking by score. A kind that cannot be
searched is left out. -/
def fullTextRanking (plan : Plan) (query : String) (candidates : Nat) : List (Scored Float) :=
  (plan.request.type.kinds.flatMap fun kind =>
    (plan.rankedKind query candidates kind).toOption.getD []).mergeSort Ranking.bestFirst

def vectorFilter (plan : Plan) : VectorFilter :=
  ⟨plan.request.type.docType, plan.request.project, plan.request.includeEverywhere⟩

/-- A last look at the record itself; its project was compared when it was ranked. -/
def observationVisible (plan : Plan) (o : Observation) : Bool :=
  !(plan.request.excludeSuperseded && o.superseded) &&
    (plan.request.includeEverywhere || o.scope ≠ .everywhere)

def hit? (plan : Plan) (scored : Scored Float) : Option Hit := do
  match ← RecordKind.ofDocType? scored.docType with
  | .observation =>
    let o ← plan.store.observations.find? scored.id
    if plan.observationVisible o then return .observation o else none
  | .summary => return .summary (← plan.store.summaries.find? scored.id)
  | .prompt => return .prompt (← plan.store.prompts.find? scored.id)

def withoutRepeats (threshold : Float) (hits : List (Scored Float × Hit)) :
    List (Scored Float × Hit) :=
  let observations := hits.filterMap (·.2.observation?)
  let kept := (Similarity.clusterIndices (observations.map (·.content)) threshold).filterMap
    fun i => observations[i]?.map (·.id)
  hits.filter fun (_, hit) => hit.observation?.all (·.id ∈ kept)

def semantic (plan : Plan) (settings : SearchSettings) (index : VectorIndex) (query : String)
    (candidates : Nat) : Except Failure (List SearchItem) := do
  let near ← index.query query candidates plan.vectorFilter
  let fused := Ranking.fuse [vectorRanking near, plan.fullTextRanking query candidates]
  let hits := fused.filterMap fun scored => (plan.hit? scored).map (scored, ·)
  let items := (withoutRepeats settings.dedupThreshold hits).map fun (scored, hit) =>
    (hit.item plan.request.format).withScore scored.score
  return SearchItem.sort plan.request.order (items.take plan.limit)

/-- What the index finds, if there is a query and an index that answers. -/
def semantic? (plan : Plan) (settings : SearchSettings) (index : Option VectorIndex) :
    Except Failure (Option (List SearchItem)) :=
  match plan.request.queryText, index with
  | some query, some index =>
    if index.isConnected then
      (candidateCount settings plan.limit).map fun candidates =>
        (plan.semantic settings index query candidates).toOption
    else .ok none
  | _, _ => .ok none

def respond (plan : Plan) (settings : SearchSettings) (index : Option VectorIndex) :
    Except Failure SearchResponse := do
  match ← plan.semantic? settings index with
  | some results => return ⟨results, .vector⟩
  | none => return ⟨← plan.structured, .structured⟩

end Plan

def shownObservations (response : SearchResponse) : List Int :=
  (response.results.filter (·.kind = .observation)).map (·.id)

/-- The response, and the store in which the observations shown count as retrieved. -/
def run (store : Store) (settings : SearchSettings) (index : Option VectorIndex)
    (request : SearchRequest) (now : Int) : Store × Except Failure SearchResponse :=
  let plan : Plan := ⟨store, request, clampLimit settings request.limit⟩
  match plan.respond settings index with
  | .error failure => (store, .error failure)
  | .ok response =>
    let shown := shownObservations response
    (if shown.isEmpty then store else store.recordRetrieval shown now, .ok response)

end Recall.Search
