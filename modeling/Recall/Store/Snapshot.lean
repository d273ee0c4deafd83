import Recall.Json.Decode
import Recall.Store.Basic

namespace Recall.Snapshot

def text? (json : Json) (name : String) : Option String := (json.member? name).bind Json.asText?

def integer? (json : Json) (name : String) : Option Int :=
  (json.member? name).bind Json.asInteger?

def natural? (json : Json) (name : String) : Option Nat :=
  (json.member? name).bind Json.asNatural?

def optional? (read : Json → Option α) (json : Json) (name : String) : Option (Option α) :=
  (json.member? name).bind (Json.orNull? read)

def ofSession (s : Session) : Json := .object [
  ("id", .integer s.id),
  ("session_key", .text s.key),
  ("project", .text s.project),
  ("user_prompt", .ofOption .text s.userPrompt),
  ("status", .text s.status.name),
  ("prompt_counter", match s.promptCounter with
    | .count n => .integer n
    | .overflowed => .null),
  ("started_at_epoch", .integer s.startedAt),
  ("completed_at_epoch", .ofOption .integer s.completedAt)]

def session? (json : Json) : Option Session := do
  return {
    id := ← natural? json "id"
    key := ← text? json "session_key"
    project := ← text? json "project"
    userPrompt := ← optional? Json.asText? json "user_prompt"
    status := ← (SessionStatus.parse (← text? json "status")).toOption
    promptCounter := match ← optional? Json.asInteger? json "prompt_counter" with
      | some n => .count n
      | none => .overflowed
    startedAt := ← integer? json "started_at_epoch"
    completedAt := ← optional? Json.asInteger? json "completed_at_epoch" }

def ofObservation (o : Observation) : Json :=
  .object (o.members ++ [("importance_bits", .integer o.importance.toBits.toNat)])

def observation? (json : Json) : Option Observation := do
  let draft ← ObservationDraft.ofJson? json
  return {
    id := ← integer? json "id"
    sessionKey := ← text? json "session_key"
    project := ← text? json "project"
    scope := ← draft.scope
    content := draft.content
    promptNumber := ← optional? Json.asInteger? json "prompt_number"
    discoveryTokens := ← integer? json "discovery_tokens"
    importance := Float.ofBits (← natural? json "importance_bits").toUInt64
    retrievalCount := ← natural? json "retrieval_count"
    lastRetrievedAt := ← optional? Json.asInteger? json "last_retrieved_at_epoch"
    superseded := ← (json.member? "superseded").bind Json.asBoolean?
    createdAt := ← integer? json "created_at_epoch" }

def summary? (json : Json) : Option Summary := do
  return {
    id := ← integer? json "id"
    sessionKey := ← text? json "session_key"
    project := ← text? json "project"
    content := ← SummaryContent.ofJson? json
    promptNumber := ← optional? Json.asInteger? json "prompt_number"
    discoveryTokens := ← integer? json "discovery_tokens"
    createdAt := ← integer? json "created_at_epoch" }

def prompt? (json : Json) : Option Prompt := do
  return {
    id := ← integer? json "id"
    sessionKey := ← text? json "session_key"
    project := ← text? json "project"
    number := ← integer? json "prompt_number"
    text := ← text? json "prompt_text"
    matchedObservations := ← integer? json "matched_observations"
    tokens := ← integer? json "token_count"
    createdAt := ← integer? json "created_at_epoch" }

def ofTable (write : α → Json) (table : Table α) : Json := .object [
  ("rows", .array (table.rows.map write)),
  ("last_id", .integer table.lastId),
  ("ranked_after", .ofOption (fun id => .integer (Int.ofNat id)) table.rankedAfter)]

def table? (read : Json → Option α) (json : Json) : Option (Table α) := do
  return {
    rows := ← (json.member? "rows").bind (Json.asList? read)
    lastId := ← natural? json "last_id"
    rankedAfter := ← optional? Json.asNatural? json "ranked_after" }

def ofStore (store : Store) : Json := .object [
  ("sessions", .array (store.sessions.map ofSession)),
  ("last_session_id", .integer store.lastSessionId),
  ("observations", ofTable ofObservation store.observations),
  ("summaries", ofTable Summary.toJson store.summaries),
  ("prompts", ofTable Prompt.toJson store.prompts)]

def store? (json : Json) : Option Store := do
  return {
    sessions := ← (json.member? "sessions").bind (Json.asList? session?)
    lastSessionId := ← natural? json "last_session_id"
    observations := ← (json.member? "observations").bind (table? observation?)
    summaries := ← (json.member? "summaries").bind (table? summary?)
    prompts := ← (json.member? "prompts").bind (table? prompt?) }

end Recall.Snapshot
