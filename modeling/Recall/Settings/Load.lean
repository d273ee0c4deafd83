import Recall.Failure
import Recall.Settings.Basic
import Recall.Toml.Document

/-!
All settings of the program, and how they are read: defaults first, then the settings file,
then the environment. A group of settings is a table, or an array that lists the group's
settings in order; what is left out keeps its default.
-/

namespace Recall

structure Settings where
  logLevel : String
  dbPath : String
  vectorDbPath : String
  defaultProject : String
  provider : String
  model : String
  cacheDir : String
  retention : RetentionSettings := {}
  search : SearchSettings := {}
  deriving DecidableEq, Repr

namespace Settings

def directory (home : Option String) : String := home.getD "." ++ "/.memento"

def filePath (home : Option String) : String := directory home ++ "/config.toml"

def defaults (home : Option String) : Settings := {
  logLevel := "info"
  dbPath := directory home ++ "/memento.db"
  vectorDbPath := directory home ++ "/vectors.db"
  defaultProject := "default"
  provider := "local"
  model := "all-MiniLM-L6-v2"
  cacheDir := directory home ++ "/models" }

def expandTilde (home : Option String) (path : String) : String :=
  match path.toList, home with
  | '~' :: '/' :: rest, some home =>
    if rest.head? = some '/' then String.ofList rest else home ++ "/" ++ String.ofList rest
  | _, _ => path

/-- The settings of one group, by name or by position. A date stands for a table of which
nothing is known. -/
inductive Group
  | named (members : List (String × Toml))
  | listed (items : List Toml)

def Group.ofToml? : Toml → Option Group
  | .table members => some (named members)
  | .array items => some (listed items)
  | .moment => some (named [])
  | _ => none

def Group.read (group : Group) (position : Nat) (name : String) (read : Toml → Option α)
    (default : α) : Option α :=
  let found := match group with
    | named members => (members.find? (·.1 = name)).map (·.2)
    | listed items => items[position]?
  match found with
  | some value => read value
  | none => some default

def asReal? : Toml → Option Float
  | .real x => some x
  | .integer n =>
    if Number.isSigned n || Number.isUnsigned n then some (Number.nearest (n < 0) n.natAbs 0) else none
  | _ => none

def readServer (s : Settings) (group : Group) : Option Settings := do
  return { s with logLevel := ← group.read 0 "log_level" Toml.asText? s.logLevel }

def readStorage (s : Settings) (group : Group) : Option Settings := do
  return { s with
    dbPath := ← group.read 0 "db_path" Toml.asText? s.dbPath
    vectorDbPath := ← group.read 1 "vector_db_path" Toml.asText? s.vectorDbPath
    defaultProject := ← group.read 2 "default_project" Toml.asText? s.defaultProject }

def readEmbedding (s : Settings) (group : Group) : Option Settings := do
  return { s with
    provider := ← group.read 0 "provider" Toml.asText? s.provider
    model := ← group.read 1 "model" Toml.asText? s.model
    cacheDir := ← group.read 2 "cache_dir" Toml.asText? s.cacheDir }

def readRetention (s : Settings) (group : Group) : Option Settings := do
  let r := s.retention
  let count (position : Nat) (name : String) := group.read position name Toml.asNatural?
  return { s with
    retention := {
      observationsPerProject := ← count 0 "max_observations_per_project" r.observationsPerProject
      observationsEverywhere := ← count 1 "max_global_observations" r.observationsEverywhere
      prompts := ← count 2 "max_prompts" r.prompts
      timeoutSeconds := ← count 3 "eviction_timeout_secs" r.timeoutSeconds
      dedupThreshold := ← group.read 4 "write_dedup_threshold" asReal? r.dedupThreshold
      dedupWindow := ← count 5 "write_dedup_window" r.dedupWindow } }

def readSearch (s : Settings) (group : Group) : Option Settings := do
  let r := s.search
  let count (position : Nat) (name : String) := group.read position name Toml.asNatural?
  return { s with
    search := {
      defaultLimit := ← count 0 "default_limit" r.defaultLimit
      largestLimit := ← count 1 "max_limit" r.largestLimit
      candidateFactor := ← count 2 "candidate_multiplier" r.candidateFactor
      dedupThreshold := ← group.read 3 "dedup_threshold" asReal? r.dedupThreshold } }

def readGroup (name : String) (read : Settings → Group → Option Settings)
    (members : List (String × Toml)) (s : Settings) : Option Settings :=
  match members.find? (·.1 = name) with
  | some (_, value) => (Group.ofToml? value).bind (read s)
  | none => some s

def readDocument (s : Settings) (members : List (String × Toml)) : Option Settings :=
  some s >>= readGroup "server" readServer members
    >>= readGroup "storage" readStorage members
    >>= readGroup "embedding" readEmbedding members
    >>= readGroup "retention" readRetention members
    >>= readGroup "search" readSearch members

/-- Variables that are set win over the file, also when they are empty. -/
def override (s : Settings) (environment : String → Option String) : Settings := { s with
  dbPath := (environment "MEMENTO_DB").getD s.dbPath
  vectorDbPath := (environment "MEMENTO_VECTOR_DB").getD s.vectorDbPath
  logLevel := (environment "MEMENTO_LOG_LEVEL").getD s.logLevel }

def load (home : Option String) (file : Option String) (environment : String → Option String) :
    Except Failure Settings :=
  let read := match file with
    | none => some (defaults home)
    | some text => (Toml.parse? text).bind (readDocument (defaults home))
  match read with
  | some s => .ok (s.override environment)
  | none => .error .settingsMalformed

end Settings

end Recall
