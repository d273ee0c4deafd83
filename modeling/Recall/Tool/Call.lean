import Recall.Engine
import Recall.Tool.Parameters

namespace Recall.Tool

structure Surroundings where
  defaultProject : String
  now : Int
  /-- When a file was last modified, in milliseconds, if it is there. -/
  modifiedAt : String → Option Int

inductive Answer
  | data (json : Json)
  | refusal (message : String)

inductive Name
  | search
  | preset (preset : Preset)
  | getObservations
  | storeObservation
  deriving DecidableEq, Repr

def Name.ofText? : String → Option Name
  | "search" => some .search
  | "get_observations" => some .getObservations
  | "store_observation" => some .storeObservation
  | name => (Preset.ofName? name).map .preset

def staleFiles (modifiedAt : String → Option Int) (o : Observation) : List String :=
  (o.content.fileTimes.filter fun (path, time) => modifiedAt path ≠ some time).map (·.1)

def viewToJson (modifiedAt : String → Option Int) (o : Observation) : Json :=
  .object (o.members ++ [("stale_files", .ofTexts (staleFiles modifiedAt o))])

/-- What the assistant is told of a search. A crash leaves the call without an answer. -/
def searchAnswer : Except Failure SearchResponse → Except Failure Answer
  | .ok response => .ok (.data response.toJson)
  | .error failure =>
    if failure.category = .crash then .error failure
    else .ok (.refusal s!"search failed: {failure.message}")

def search (engine : Engine) (around : Surroundings) (preset : Option Preset)
    (p : SearchParameters) : Outcome Answer :=
  match p.toRequest with
  | .error failure => { engine, result := .ok (.refusal failure.message) }
  | .ok request =>
    let request := match preset with
      | some preset => preset.apply request
      | none => request
    let outcome := engine.search request around.now
    { engine := outcome.engine, result := searchAnswer outcome.result }

def getObservations (engine : Engine) (around : Surroundings) (p : FetchParameters) : Answer :=
  match SortOrder.parse (p.order.getD "") with
  | .error failure => .refusal failure.message
  | .ok order =>
    match engine.store.getObservations p.ids order p.limit with
    | .error failure => .refusal s!"fetch failed: {failure.message}"
    | .ok found => .data (.array (found.map (viewToJson around.modifiedAt)))

def storedToJson : Option Stored → Json
  | some stored => .object [
      ("id", .integer stored.id),
      ("created_at_epoch", .integer stored.createdAt),
      ("deduplicated", .boolean false)]
  | none => .object [("deduplicated", .boolean true)]

/-- A blank project stands for the default one, and repetitions are left out unless the
caller wants them. -/
def storeObservation (engine : Engine) (around : Surroundings) (p : ObservationParameters) :
    Outcome Answer :=
  match p.toDraft around.modifiedAt with
  | .error failure => { engine, result := .ok (.refusal failure.message) }
  | .ok draft =>
    let occasion : Occasion := {
      sessionKey := p.sessionKey
      project := (p.project.filter (!Text.isBlank ·)).getD around.defaultProject
      tokens := p.discoveryTokens.getD 0, now := around.now }
    let outcome : Outcome (Option Stored) :=
      if p.deduplicate.getD true then
        engine.recordNewObservation draft p.promptNumber occasion
      else
        let outcome := engine.recordObservation draft p.promptNumber occasion
        { outcome with result := outcome.result.map some }
    { outcome with
      result := .ok (match outcome.result with
        | .ok stored => .data (storedToJson stored)
        | .error failure => .refusal s!"store failed: {failure.message}") }

def call (engine : Engine) (around : Surroundings) (name : String) (arguments : Json) :
    Option (Outcome Answer) := do
  match ← Name.ofText? name with
  | .search => return search engine around none (← SearchParameters.ofJson? arguments)
  | .preset preset =>
    return search engine around (some preset) (← SearchParameters.ofJson? arguments)
  | .getObservations =>
    let answer := getObservations engine around (← FetchParameters.ofJson? arguments)
    return { engine, result := .ok answer }
  | .storeObservation =>
    return storeObservation (engine.atTime around.now) around
      (← ObservationParameters.ofJson? arguments)

end Recall.Tool
