import Recall.Search.Request

namespace Recall.Tool

structure SearchParameters where
  query : Option String := none
  type : Option String := none
  project : Option String := none
  format : Option String := none
  order : Option String := none
  limit : Option Nat := none
  includeEverywhere : Option Bool := none
  excludeSuperseded : Option Bool := none
  deriving DecidableEq, Repr

namespace SearchParameters

def ofJson? (json : Json) : Option SearchParameters := do
  let layout ← Json.Layout.ofJson? 8 json
  return {
    query := ← layout.optional 0 "query" Json.asText?
    type := ← layout.optional 1 "type" Json.asText?
    project := ← layout.optional 2 "project" Json.asText?
    format := ← layout.optional 3 "format" Json.asText?
    order := ← layout.optional 4 "order_by" Json.asText?
    limit := ← layout.optional 5 "limit" Json.asNatural?
    includeEverywhere := ← layout.optional 6 "include_global" Json.asBoolean?
    excludeSuperseded := ← layout.optional 7 "exclude_superseded" Json.asBoolean? }

/-- Of several unknown names the format is reported first, then the type, then the order. A
blank project is no project. -/
def toRequest (p : SearchParameters) : Except Failure SearchRequest := do
  let format ← Format.parse (p.format.getD "")
  let type ← SearchType.parse (p.type.getD "")
  let order ← SortOrder.parse (p.order.getD "")
  return {
    format, type, order, query := p.query, limit := p.limit
    project := p.project.filter (!Text.isBlank ·)
    includeEverywhere := p.includeEverywhere.getD true
    excludeSuperseded := p.excludeSuperseded.getD false }

end SearchParameters

structure FetchParameters where
  ids : List Int
  order : Option String := none
  limit : Option Nat := none
  deriving DecidableEq, Repr

def FetchParameters.ofJson? (json : Json) : Option FetchParameters := do
  let layout ← Json.Layout.ofJson? 3 json
  return {
    ids := ← layout.required 0 "ids" (Json.asList? Json.asInteger?)
    order := ← layout.optional 1 "order_by" Json.asText?
    limit := ← layout.optional 2 "limit" Json.asNatural? }

structure ObservationParameters where
  sessionKey : String
  project : Option String := none
  type : String
  scope : Option String := none
  title : Option String := none
  subtitle : Option String := none
  narrative : Option String := none
  facts : Option (List String) := none
  concepts : Option (List String) := none
  filesRead : Option (List String) := none
  filesModified : Option (List String) := none
  promptNumber : Option Int := none
  discoveryTokens : Option Int := none
  importance : Option Float := none
  deduplicate : Option Bool := none
  deriving DecidableEq, Repr

namespace ObservationParameters

def ofJson? (json : Json) : Option ObservationParameters := do
  let layout ← Json.Layout.ofJson? 15 json
  let text (position : Nat) (name : String) := layout.optional position name Json.asText?
  let texts (position : Nat) (name : String) :=
    layout.optional position name (Json.asList? Json.asText?)
  return {
    sessionKey := ← layout.required 0 "session_key" Json.asText?
    project := ← text 1 "project"
    type := ← layout.required 2 "type" Json.asText?
    scope := ← text 3 "scope"
    title := ← text 4 "title"
    subtitle := ← text 5 "subtitle"
    narrative := ← text 6 "narrative"
    facts := ← texts 7 "facts"
    concepts := ← texts 8 "concepts"
    filesRead := ← texts 9 "files_read"
    filesModified := ← texts 10 "files_modified"
    promptNumber := ← layout.optional 11 "prompt_number" Json.asInteger?
    discoveryTokens := ← layout.optional 12 "discovery_tokens" Json.asInteger?
    importance := ← layout.optional 13 "importance" Json.asReal?
    deduplicate := ← layout.optional 14 "deduplicate" Json.asBoolean? }

def hasContent (p : ObservationParameters) : Bool :=
  ([p.title, p.subtitle, p.narrative].any fun text => text.any (!Text.isBlank ·)) ||
    (p.facts.getD []).any (!Text.isBlank ·)

def captureTimes (modifiedAt : String → Option Int) (paths : List String) :
    List (String × Int) :=
  (paths.eraseDups.mergeSort fun a b => a ≤ b).filterMap fun path =>
    (modifiedAt path).map (path, ·)

def scopeGiven (p : ObservationParameters) : Except Failure (Option Scope) :=
  match p.scope with
  | none => .ok none
  | some given => (Scope.parse given).map some

/-- The draft, if the parameters make sense; of several faults the first in this order is
reported. -/
def toDraft (modifiedAt : String → Option Int) (p : ObservationParameters) :
    Except Failure ObservationDraft := do
  if Text.isBlank p.sessionKey then throw (.emptyValue "session_key")
  let type ← ObservationType.parse p.type
  let scope ← p.scopeGiven
  if !p.hasContent then throw (.emptyValue "observation content")
  let filesRead := p.filesRead.getD []
  let filesModified := p.filesModified.getD []
  return {
    content := {
      type, title := p.title, subtitle := p.subtitle, narrative := p.narrative
      facts := p.facts.getD [], concepts := p.concepts.getD []
      filesRead, filesModified
      fileTimes := captureTimes modifiedAt (filesRead ++ filesModified) }
    scope, importance := p.importance }

end ObservationParameters

end Recall.Tool
