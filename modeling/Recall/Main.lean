import Std.Time.DateTime.Timestamp
import Recall.CommandLine.Program
import Recall.Tool.Conversation

namespace Recall.CommandLine

def textAt? (path : String) : IO (Option String) := do
  try return some (← IO.FS.readFile path) catch _ => return none

def bytesAt? (path : String) : IO (Option (List UInt8)) := do
  try return some (← IO.FS.readBinFile path).toList catch _ => return none

def currentTime : IO Int := do
  return (← Std.Time.Timestamp.now).toMillisecondsSinceUnixEpoch.val

def readSettings (home file : Option String) : IO (Except Failure Settings) := do
  let text ← textAt? (file.getD (Settings.filePath home))
  let db ← IO.getEnv "MEMENTO_DB"
  let vectorDb ← IO.getEnv "MEMENTO_VECTOR_DB"
  let logLevel ← IO.getEnv "MEMENTO_LOG_LEVEL"
  return Settings.load home text fun
    | "MEMENTO_DB" => db
    | "MEMENTO_VECTOR_DB" => vectorDb
    | "MEMENTO_LOG_LEVEL" => logLevel
    | _ => none

structure Places where
  store : String
  models : String

def Places.ofSettings (home : Option String) (settings : Settings) : Places := {
  store := Settings.expandTilde home settings.dbPath
  models := Settings.expandTilde home settings.cacheDir }

def modelFile (model tokenizer : Option (List UInt8)) (name : String) : Option (List UInt8) :=
  if name = Embedding.modelFileName then model
  else if name = Embedding.tokenizerFileName then tokenizer
  else none

def keep (places : Places) (engine : Engine) : IO Unit := do
  let directory := (places.store.toList.reverse.dropWhile (· ≠ '/')).reverse
  if !directory.isEmpty then IO.FS.createDirAll (String.ofList directory)
  IO.FS.writeFile places.store (storedText engine)

/-- Times of files are not looked up, so no file is ever recorded with one. -/
def surroundings (settings : Settings) (now : Int) : Tool.Surroundings :=
  { defaultProject := settings.defaultProject, now, modifiedAt := fun _ => none }

partial def serve (settings : Settings) (places : Places) (engine : Engine) : IO Unit := do
  let line ← (← IO.getStdin).getLine
  if line.isEmpty then return
  match Json.parse? line with
  | none => serve settings places engine
  | some message =>
    let now ← currentTime
    let (engine, reply) := Tool.converse engine (surroundings settings now) message
    keep places engine
    match reply with
    | some reply =>
      IO.println reply.render
      (← IO.getStdout).flush
    | none => pure ()
    serve settings places engine

def complain (failure : Failure) : IO UInt32 := do
  IO.eprint (complaint failure)
  return UInt32.ofNat failure.exitStatus

def finish (report : Report) : IO UInt32 := do
  IO.print report.output
  match report.failure with
  | some failure => complain failure
  | none => return 0

def carryOut (home : Option String) (settings : Settings) (command : Command) : IO UInt32 := do
  let places := Places.ofSettings home settings
  let model ← bytesAt? (places.models ++ "/" ++ Embedding.modelFileName)
  let tokenizer ← bytesAt? (places.models ++ "/" ++ Embedding.tokenizerFileName)
  let files := modelFile model tokenizer
  let context : Context := {
    defaultProject := settings.defaultProject, model := settings.model
    modelDirectory := places.models, isPresent := fun name => (files name).isSome
    now := ← currentTime }
  if !command.needsEngine then finish (command.report {} context)
  else
    match openEngine { settings with cacheDir := places.models } (← textAt? places.store) files with
    | .error failure => complain failure
    | .ok engine =>
      match command with
      | .serve =>
        serve settings places engine
        return 0
      | command =>
        let report := command.report engine context
        keep places report.engine
        finish report

def run (arguments : List String) : IO UInt32 := do
  match parse arguments with
  | .refused =>
    IO.eprint usageComplaint
    return 2
  | .shown text =>
    IO.print text
    return 0
  | .command file command =>
    let home ← IO.getEnv "HOME"
    match ← readSettings home file with
    | .error failure => complain failure
    | .ok settings => carryOut home settings command

end Recall.CommandLine

def main (arguments : List String) : IO UInt32 := Recall.CommandLine.run arguments
