import Recall.Json.Decode
import Recall.Record.Vocabulary

namespace Recall

structure SummaryContent where
  request : Option String := none
  investigated : Option String := none
  learned : Option String := none
  completed : Option String := none
  nextSteps : Option String := none
  notes : Option String := none
  deriving DecidableEq, Repr

structure Summary where
  id : Int
  sessionKey : String
  project : String
  content : SummaryContent
  promptNumber : Option Int
  discoveryTokens : Int
  createdAt : Int
  deriving DecidableEq, Repr

namespace SummaryContent

def namedTexts (content : SummaryContent) : List (String × Option String) := [
  ("request", content.request),
  ("investigated", content.investigated),
  ("learned", content.learned),
  ("completed", content.completed),
  ("next_steps", content.nextSteps),
  ("notes", content.notes)]

def searchedTexts (content : SummaryContent) : List (Option String) :=
  content.namedTexts.map (·.2)

def fields (content : SummaryContent) : List (String × String) :=
  content.namedTexts.filterMap fun (name, text) =>
    (text.filter (!Text.isBlank ·)).map (name, ·)

def ofJson? (json : Json) : Option SummaryContent := do
  let layout ← Json.Layout.ofJson? 6 json
  let field (position : Nat) (name : String) :=
    layout.defaulted position name (Json.orNull? Json.asText?) none
  return {
    request := ← field 0 "request"
    investigated := ← field 1 "investigated"
    learned := ← field 2 "learned"
    completed := ← field 3 "completed"
    nextSteps := ← field 4 "next_steps"
    notes := ← field 5 "notes" }

def members (content : SummaryContent) : List (String × Json) :=
  content.namedTexts.map fun (name, text) => (name, .ofOption .text text)

end SummaryContent

def Summary.toJson (s : Summary) : Json := .object ([
  ("id", .integer s.id),
  ("session_key", .text s.sessionKey),
  ("project", .text s.project)] ++ s.content.members ++ [
  ("prompt_number", .ofOption .integer s.promptNumber),
  ("discovery_tokens", .integer s.discoveryTokens),
  ("created_at_epoch", .integer s.createdAt)])

end Recall
