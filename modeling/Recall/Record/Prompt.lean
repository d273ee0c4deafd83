import Recall.Json.Value

namespace Recall

structure Prompt where
  id : Int
  sessionKey : String
  project : String
  number : Int
  text : String
  matchedObservations : Int
  tokens : Int
  createdAt : Int
  deriving DecidableEq, Repr

def Prompt.toJson (p : Prompt) : Json := .object [
  ("id", .integer p.id),
  ("session_key", .text p.sessionKey),
  ("project", .text p.project),
  ("prompt_number", .integer p.number),
  ("prompt_text", .text p.text),
  ("matched_observations", .integer p.matchedObservations),
  ("created_at_epoch", .integer p.createdAt),
  ("token_count", .integer p.tokens)]

end Recall
