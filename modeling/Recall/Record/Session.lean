import Recall.Json.Value
import Recall.Number.Word
import Recall.Record.Vocabulary

/-!
Sessions. The prompt counter is a signed 64-bit count; once it has been pushed past that
range it is no whole number any more, and no later step brings it back.
-/

namespace Recall

inductive PromptCounter
  | count (n : Int)
  | overflowed
  deriving DecidableEq, Repr

namespace PromptCounter

def largest : Int := Number.signedBound - 1

def raiseTo (number : Int) : PromptCounter → PromptCounter
  | count n => count (max n number)
  | overflowed => overflowed

def increment : PromptCounter → PromptCounter
  | count n => if n < largest then count (n + 1) else overflowed
  | overflowed => overflowed

def read : PromptCounter → Except Failure Int
  | count n => .ok n
  | overflowed => .error .promptCounterOverflow

end PromptCounter

structure Session where
  id : Nat
  key : String
  project : String
  /-- The text of the latest prompt. -/
  userPrompt : Option String
  status : SessionStatus
  promptCounter : PromptCounter
  startedAt : Int
  completedAt : Option Int
  deriving DecidableEq, Repr

def Session.toJson (s : Session) (counter : Int) : Json := .object [
  ("id", .integer s.id),
  ("session_key", .text s.key),
  ("project", .text s.project),
  ("user_prompt", .ofOption .text s.userPrompt),
  ("status", .text s.status.name),
  ("prompt_counter", .integer counter),
  ("started_at_epoch", .integer s.startedAt),
  ("completed_at_epoch", .ofOption .integer s.completedAt)]

end Recall
