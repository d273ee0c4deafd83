import Recall.Store.Observations

namespace Recall

inductive SearchType
  | all
  | observations
  | sessions
  | prompts
  deriving DecidableEq, Repr

namespace SearchType

def name : SearchType → String
  | all => "all"
  | observations => "observations"
  | sessions => "sessions"
  | prompts => "prompts"

def parse : String → Except Failure SearchType
  | "" | "all" => .ok all
  | "observations" => .ok observations
  | "sessions" => .ok sessions
  | "prompts" => .ok prompts
  | given => .error (.unknownName "search type" given)

def kinds : SearchType → List RecordKind
  | all => [.observation, .summary, .prompt]
  | observations => [.observation]
  | sessions => [.summary]
  | prompts => [.prompt]

def docType : SearchType → Option String
  | all => none
  | observations => some RecordKind.observation.docType
  | sessions => some RecordKind.summary.docType
  | prompts => some RecordKind.prompt.docType

end SearchType

inductive Format
  | index
  | full
  deriving DecidableEq, Repr

namespace Format

def name : Format → String
  | index => "index"
  | full => "full"

def parse : String → Except Failure Format
  | "" | "index" => .ok index
  | "full" => .ok full
  | given => .error (.unknownName "format" given)

end Format

structure SearchRequest where
  format : Format := .index
  type : SearchType := .all
  /-- Without a project all projects are searched. -/
  project : Option String := none
  query : Option String := none
  order : SortOrder := .unspecified
  limit : Option Nat := none
  includeEverywhere : Bool := true
  excludeSuperseded : Bool := false
  deriving DecidableEq, Repr

namespace SearchRequest

def queryText (request : SearchRequest) : Option String :=
  (request.query.map Text.trim).filter fun text => !text.isEmpty

def filter (request : SearchRequest) : ObservationFilter :=
  ⟨request.project, request.includeEverywhere, request.excludeSuperseded⟩

end SearchRequest

inductive Preset
  | decisions
  | changes
  | howItWorks
  deriving DecidableEq, Repr

namespace Preset

def ofName? : String → Option Preset
  | "decisions" => some decisions
  | "changes" => some changes
  | "how_it_works" => some howItWorks
  | _ => none

def words : Preset → String
  | decisions => "decision decided chose chosen tradeoff rationale alternative"
  | changes => "changed modified updated refactored implemented added removed"
  | howItWorks => "architecture design mechanism works flow pattern"

def apply (preset : Preset) (request : SearchRequest) : SearchRequest :=
  { request with
    query := some (match request.queryText with
      | some text => text ++ " " ++ preset.words
      | none => preset.words)
    type := .observations }

end Preset

end Recall
