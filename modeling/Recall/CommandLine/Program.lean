import Recall.CommandLine.Report
import Recall.Json.Writer
import Recall.Store.Snapshot

namespace Recall.CommandLine

def openStore (stored : Option String) : Except Failure Store :=
  match stored with
  | none => .ok {}
  | some text =>
    match (Json.parse? text).bind Snapshot.store? with
    | some store => .ok store.reopen
    | none => .error .storeMalformed

def openEngine (settings : Settings) (stored : Option String)
    (modelFile : String → Option (List UInt8)) : Except Failure Engine := do
  let store ← openStore stored
  match ← Embedding.Provider.ofName settings.provider settings.cacheDir modelFile with
  | .none => return { retention := settings.retention, searching := settings.search, store }
  | .localModel _ => .error .modelWithoutRuntime

def Command.needsEngine : Command → Bool
  | downloadModel => false
  | _ => true

def storedText (engine : Engine) : String := (Snapshot.ofStore engine.store).render

def complaint (failure : Failure) : String := line s!"Error: {failure.message}"

def usageComplaint : String := line "error: invalid arguments" ++ line "" ++ line topLevel.usage

end Recall.CommandLine
