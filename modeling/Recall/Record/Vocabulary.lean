import Recall.Failure
import Recall.Text.Blank
import Recall.Text.Lowercase

namespace Recall

inductive RecordKind
  | observation
  | summary
  | prompt
  deriving DecidableEq, Repr

namespace RecordKind

def name : RecordKind → String
  | observation => "observation"
  | summary => "summary"
  | prompt => "prompt"

def docType : RecordKind → String
  | observation => "observation"
  | summary => "session_summary"
  | prompt => "user_prompt"

def ofName? : String → Option RecordKind
  | "observation" => some observation
  | "summary" => some summary
  | "prompt" => some prompt
  | _ => none

def ofDocType? : String → Option RecordKind
  | "observation" => some observation
  | "session_summary" => some summary
  | "user_prompt" => some prompt
  | _ => none

end RecordKind

inductive Scope
  | project
  | everywhere
  deriving DecidableEq, Repr

namespace Scope

def name : Scope → String
  | project => "project"
  | everywhere => "global"

def ofName? : String → Option Scope
  | "project" => some project
  | "global" => some everywhere
  | _ => none

def parse (given : String) : Except Failure Scope :=
  match ofName? given with
  | some scope => .ok scope
  | none => .error (.unknownName "scope" given)

/-- Concepts of general interest; an observation with one of them is visible everywhere
unless its scope is given. -/
def generalConcepts : List String :=
  ["security", "performance", "testing", "pattern", "anti-pattern", "best-practice",
    "architecture", "debugging", "workflow", "tooling"]

def ofConcepts (concepts : List String) : Scope :=
  if concepts.any fun concept => Text.lowercase (Text.trim concept) ∈ generalConcepts then
    everywhere
  else project

end Scope

inductive ObservationType
  | decision
  | bugfix
  | feature
  | refactor
  | discovery
  | change
  deriving DecidableEq, Repr

namespace ObservationType

def name : ObservationType → String
  | decision => "decision"
  | bugfix => "bugfix"
  | feature => "feature"
  | refactor => "refactor"
  | discovery => "discovery"
  | change => "change"

def ofName? : String → Option ObservationType
  | "decision" => some decision
  | "bugfix" => some bugfix
  | "feature" => some feature
  | "refactor" => some refactor
  | "discovery" => some discovery
  | "change" => some change
  | _ => none

def parse (given : String) : Except Failure ObservationType :=
  match ofName? given with
  | some type => .ok type
  | none => .error (.unknownName "observation type" given)

end ObservationType

inductive SessionStatus
  | active
  | completed
  | failed
  deriving DecidableEq, Repr

namespace SessionStatus

def name : SessionStatus → String
  | active => "active"
  | completed => "completed"
  | failed => "failed"

def parse : String → Except Failure SessionStatus
  | "active" => .ok active
  | "completed" => .ok completed
  | "failed" => .ok failed
  | given => .error (.unknownName "session status" given)

end SessionStatus

/-- How a caller wants records ordered. `unspecified` leaves it to the request. -/
inductive SortOrder
  | oldestFirst
  | newestFirst
  | importance
  | unspecified
  deriving DecidableEq, Repr

namespace SortOrder

def name : SortOrder → String
  | oldestFirst => "date_asc"
  | newestFirst => "date_desc"
  | importance => "importance"
  | unspecified => "default"

def parse : String → Except Failure SortOrder
  | "date_asc" => .ok oldestFirst
  | "date_desc" => .ok newestFirst
  | "importance" => .ok importance
  | "" | "default" | "relevance" => .ok unspecified
  | given => .error (.unknownName "order" given)

end SortOrder

end Recall
