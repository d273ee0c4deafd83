import Recall.Json.Decode
import Recall.Record.Vocabulary

namespace Recall

structure ObservationContent where
  type : ObservationType
  title : Option String := none
  subtitle : Option String := none
  narrative : Option String := none
  facts : List String := []
  concepts : List String := []
  filesRead : List String := []
  filesModified : List String := []
  /-- Modification times in milliseconds, in ascending order of the paths. -/
  fileTimes : List (String × Int) := []
  deriving DecidableEq, Repr

structure ObservationDraft where
  content : ObservationContent
  scope : Option Scope := none
  importance : Option Float := none
  deriving DecidableEq, Repr

def ObservationDraft.resolvedScope (draft : ObservationDraft) : Scope :=
  draft.scope.getD (Scope.ofConcepts draft.content.concepts)

structure Observation where
  id : Int
  sessionKey : String
  project : String
  scope : Scope
  content : ObservationContent
  promptNumber : Option Int
  discoveryTokens : Int
  importance : Float
  retrievalCount : Nat
  lastRetrievedAt : Option Int
  superseded : Bool
  createdAt : Int
  deriving DecidableEq, Repr

def ObservationContent.searchedTexts (content : ObservationContent) : List (Option String) :=
  [content.title, content.subtitle, content.narrative]

namespace ObservationDraft

def scope? (json : Json) : Option Scope := json.asName?.bind Scope.ofName?

def type? (json : Json) : Option ObservationType := json.asName?.bind ObservationType.ofName?

def ofJson? (json : Json) : Option ObservationDraft := do
  let layout ← Json.Layout.ofJson? 11 json
  let type ← layout.required 0 "type" type?
  let scope ← layout.defaulted 1 "scope" (Json.orNull? scope?) none
  let title ← layout.defaulted 2 "title" (Json.orNull? Json.asText?) none
  let subtitle ← layout.defaulted 3 "subtitle" (Json.orNull? Json.asText?) none
  let narrative ← layout.defaulted 4 "narrative" (Json.orNull? Json.asText?) none
  let facts ← layout.defaulted 5 "facts" (Json.asList? Json.asText?) []
  let concepts ← layout.defaulted 6 "concepts" (Json.asList? Json.asText?) []
  let filesRead ← layout.defaulted 7 "files_read" (Json.asList? Json.asText?) []
  let filesModified ← layout.defaulted 8 "files_modified" (Json.asList? Json.asText?) []
  let fileTimes ← layout.defaulted 9 "file_mtimes" (Json.asMap? Json.asInteger?) []
  let importance ← layout.defaulted 10 "importance" (Json.orNull? Json.asReal?) none
  return {
    content := {
      type, title, subtitle, narrative, facts, concepts, filesRead, filesModified, fileTimes }
    scope, importance }

end ObservationDraft

namespace ObservationContent

def timesToJson (times : List (String × Int)) : Json :=
  .object (times.map fun (path, time) => (path, .integer time))

def members (content : ObservationContent) : List (String × Json) := [
  ("type", .text content.type.name),
  ("title", .ofOption .text content.title),
  ("subtitle", .ofOption .text content.subtitle),
  ("narrative", .ofOption .text content.narrative),
  ("facts", .ofTexts content.facts),
  ("concepts", .ofTexts content.concepts),
  ("files_read", .ofTexts content.filesRead),
  ("files_modified", .ofTexts content.filesModified),
  ("file_mtimes", timesToJson content.fileTimes)]

end ObservationContent

namespace Observation

def members (o : Observation) : List (String × Json) := [
  ("id", .integer o.id),
  ("session_key", .text o.sessionKey),
  ("project", .text o.project),
  ("scope", .text o.scope.name)] ++ o.content.members ++ [
  ("prompt_number", .ofOption .integer o.promptNumber),
  ("discovery_tokens", .integer o.discoveryTokens),
  ("importance", .real o.importance),
  ("retrieval_count", .integer o.retrievalCount),
  ("last_retrieved_at_epoch", .ofOption .integer o.lastRetrievedAt),
  ("superseded", .boolean o.superseded),
  ("created_at_epoch", .integer o.createdAt)]

def toJson (o : Observation) : Json := .object o.members

end Observation

end Recall
