import Recall.Index.Document
import Recall.Search.Request

namespace Recall

/-- At most a hundred characters of the trimmed text; a longer one is cut and ends in dots. -/
def truncateTitle (text : String) : String :=
  let trimmed := Text.trim text
  if trimmed.length ≤ 100 then trimmed
  else Text.trimEnd (String.ofList (trimmed.toList.take 97)) ++ "..."

structure SearchItem where
  kind : RecordKind
  id : Int
  title : String
  content : Option String
  project : String
  scope : Option Scope
  createdAt : Int
  score : Option Float := none
  metadata : Option (List (String × Json))
  importance : Option Float

namespace SearchItem

def observationTitle (content : ObservationContent) : String :=
  ([content.title, content.subtitle, content.narrative, content.facts.head?].findSome?
    Document.nonBlank).getD ""

def observationContent (content : ObservationContent) : String :=
  let facts := if content.facts.isEmpty then none
    else some ("\n".intercalate (content.facts.map ("- " ++ ·)))
  "\n\n".intercalate
    ((Document.nonBlank content.subtitle).toList ++ (Document.nonBlank content.narrative).toList ++
      facts.toList)

def whenFull (format : Format) (value : α) : Option α :=
  if format = .full then some value else none

def ofObservation (format : Format) (o : Observation) : SearchItem := {
  kind := .observation, id := o.id, title := truncateTitle (observationTitle o.content)
  content := whenFull format (observationContent o.content)
  project := o.project, scope := some o.scope, createdAt := o.createdAt
  metadata := whenFull format [
    ("observation_type", .text o.content.type.name),
    ("session_key", .text o.sessionKey),
    ("concepts", .ofTexts o.content.concepts),
    ("files_read", .ofTexts o.content.filesRead),
    ("files_modified", .ofTexts o.content.filesModified),
    ("importance", .real o.importance),
    ("superseded", .boolean o.superseded)]
  importance := some o.importance }

def ofSummary (format : Format) (s : Summary) : SearchItem := {
  kind := .summary, id := s.id
  title := truncateTitle ((s.content.fields.head?.map (·.2)).getD "")
  content := whenFull format
    ("\n".intercalate (s.content.fields.map fun (name, text) => name ++ ": " ++ text))
  project := s.project, scope := none, createdAt := s.createdAt
  metadata := whenFull format [
    ("session_key", .text s.sessionKey),
    ("prompt_number", .ofOption .integer s.promptNumber)]
  importance := none }

def ofPrompt (format : Format) (p : Prompt) : SearchItem := {
  kind := .prompt, id := p.id, title := truncateTitle p.text
  content := whenFull format p.text
  project := p.project, scope := none, createdAt := p.createdAt
  metadata := whenFull format [
    ("session_key", .text p.sessionKey),
    ("prompt_number", .integer p.number),
    ("matched_observations", .integer p.matchedObservations),
    ("token_count", .integer p.tokens)]
  importance := none }

def kindName (item : SearchItem) : String :=
  match item.kind with
  | .observation => "observation"
  | .summary => "session"
  | .prompt => "prompt"

def withScore (score : Float) (item : SearchItem) : SearchItem := { item with score := some score }

/-- Records without an importance of their own count as important as a plain observation. -/
def weight (item : SearchItem) : Float := item.importance.getD 1

def newestFirst (a b : SearchItem) : Bool :=
  b.createdAt < a.createdAt || (a.createdAt = b.createdAt && b.id ≤ a.id)

def mostImportantFirst (a b : SearchItem) : Bool :=
  let (x, y) := (Number.totalKey a.weight, Number.totalKey b.weight)
  y < x || (x = y && newestFirst a b)

def sort (order : SortOrder) (items : List SearchItem) : List SearchItem :=
  match order with
  | .unspecified => items
  | .oldestFirst => items.mergeSort fun a b => newestFirst b a
  | .newestFirst => items.mergeSort newestFirst
  | .importance => items.mergeSort mostImportantFirst

def optionalMember (name : String) (write : α → Json) (value : Option α) :
    List (String × Json) :=
  value.toList.map fun value => (name, write value)

def toJson (item : SearchItem) : Json := .object ([
  ("type", .text item.kindName),
  ("id", .integer item.id),
  ("title", .text item.title)] ++
  optionalMember "content" .text item.content ++ [
  ("project", .text item.project)] ++
  optionalMember "scope" (.text ·.name) item.scope ++ [
  ("created_at_epoch", .integer item.createdAt)] ++
  optionalMember "score" .real item.score ++
  optionalMember "metadata" .object item.metadata)

end SearchItem

inductive Strategy
  | vector
  | structured
  deriving DecidableEq, Repr

def Strategy.name : Strategy → String
  | vector => "vector"
  | structured => "structured"

structure SearchResponse where
  results : List SearchItem
  strategy : Strategy

def SearchResponse.toJson (response : SearchResponse) : Json := .object [
  ("results", .array (response.results.map SearchItem.toJson)),
  ("total", .integer response.results.length),
  ("strategy", .text response.strategy.name)]

end Recall
