import Recall.Json.Value

namespace Recall.Tool

structure Parameter where
  name : String
  type : String
  description : String
  isRequired : Bool := false
  deriving DecidableEq, Repr

structure Description where
  name : String
  text : String
  parameters : List Parameter
  deriving DecidableEq, Repr

def instructions : String :=
  "memento is a long-term memory store for coding sessions. Use search (or the decisions, " ++
  "changes and how_it_works presets) to find past observations, get_observations to read " ++
  "them in full, and store_observation to record new ones."

def searchParameters : List Parameter := [
  ⟨"query", "string", "Natural language query. Omit to list the most recent records.", false⟩,
  ⟨"type", "string", "Record types to search: all (default), observations, sessions, prompts. " ++
    "Ignored by presets.", false⟩,
  ⟨"project", "string", "Project to search. Omit to search every project.", false⟩,
  ⟨"format", "string", "index (default, titles only) or full (content and metadata)", false⟩,
  ⟨"order_by", "string",
    "Ordering for fetched records: default, date_desc, date_asc, importance", false⟩,
  ⟨"limit", "integer", "Maximum number of results (1-100). Defaults to 20.", false⟩,
  ⟨"include_global", "boolean",
    "Include global-scope observations from other projects. Defaults to true.", false⟩,
  ⟨"exclude_superseded", "boolean",
    "Drop observations that have been superseded. Defaults to false.", false⟩]

def fetchParameters : List Parameter := [
  ⟨"ids", "array", "Observation IDs to fetch, e.g. from a search result", true⟩,
  ⟨"order_by", "string",
    "Ordering: default (importance then recency), date_desc, date_asc, importance", false⟩,
  ⟨"limit", "integer", "Maximum number of observations to return", false⟩]

def observationParameters : List Parameter := [
  ⟨"session_key", "string", "Session the observation was made in. The session is created if " ++
    "it does not exist.", true⟩,
  ⟨"project", "string", "Project the observation belongs to. Defaults to the configured " ++
    "default project.", false⟩,
  ⟨"type", "string",
    "Observation type: decision, bugfix, feature, refactor, discovery, change", true⟩,
  ⟨"scope", "string", "project or global. Derived from concepts when omitted.", false⟩,
  ⟨"title", "string", "Short title", false⟩,
  ⟨"subtitle", "string", "One-line elaboration of the title", false⟩,
  ⟨"narrative", "string", "Full description of what was learned", false⟩,
  ⟨"facts", "array", "Discrete facts, each indexed separately", false⟩,
  ⟨"concepts", "array", "Concept tags such as architecture or security", false⟩,
  ⟨"files_read", "array", "Files read while making the observation", false⟩,
  ⟨"files_modified", "array", "Files modified while making the observation", false⟩,
  ⟨"prompt_number", "integer", "Prompt number within the session", false⟩,
  ⟨"discovery_tokens", "integer", "Tokens spent discovering this observation", false⟩,
  ⟨"importance", "number", "Importance weight used for ordering. Defaults to 1.0.", false⟩,
  ⟨"deduplicate", "boolean",
    "Skip the write if a near-duplicate was stored recently. Defaults to true.", false⟩]

def catalog : List Description := [
  ⟨"changes", "Search for recent changes: what was modified, added, removed or refactored.",
    searchParameters⟩,
  ⟨"decisions", "Search for past decisions, their rationale and the alternatives considered.",
    searchParameters⟩,
  ⟨"get_observations",
    "Fetch full observations by ID, including which of their files changed on disk since.",
    fetchParameters⟩,
  ⟨"how_it_works", "Search for explanations of how a component or mechanism works.",
    searchParameters⟩,
  ⟨"search", "Search observations, session summaries and prompts. Uses semantic + keyword " ++
    "search when a query is given, otherwise lists recent records.", searchParameters⟩,
  ⟨"store_observation", "Store an observation: a decision, bugfix, feature, refactor, " ++
    "discovery or change learned during a session.", observationParameters⟩]

def Description.parameterNames (d : Description) : List String :=
  (d.parameters.map (·.name)).mergeSort fun a b => a ≤ b

def Description.requiredNames (d : Description) : Option (List String) :=
  let names := (d.parameters.filter (·.isRequired)).map (·.name)
  if names.isEmpty then none else some names

end Recall.Tool
