namespace Recall

inductive Failure
  | unknownName (what given : String)
  | emptyValue (what : String)
  | emptySessionKey
  | unknownSession (key : String)
  | summariesAreKept
  | limitTooLarge
  | quotaTooLarge
  | deadlinePassed
  | importanceNotANumber
  | promptCounterOverflow
  | idsExhausted
  | expressionTooDeep
  | patternTooLong
  | candidatesOverflow
  | indexOffline
  | embedderOffline
  | vectorsMissing (vectors texts : Nat)
  | unknownProvider (name : String)
  | modelFileMissing (path : String)
  | fileUnreadable (path : String)
  | modelWithoutRuntime
  | storeMalformed
  | settingsMalformed
  | hiddenStateShape (dimensions : List Int)
  | hiddenStateSize (values expected : Nat)
  deriving DecidableEq, Repr

namespace Failure

def message : Failure → String
  | unknownName what given => s!"unknown {what}: {given}"
  | emptyValue what => s!"{what} must not be empty"
  | emptySessionKey => "session key must not be empty"
  | unknownSession key => s!"session not found: {key}"
  | summariesAreKept => "summaries are not subject to retention"
  | limitTooLarge | quotaTooLarge => "datatype mismatch"
  | deadlinePassed => "eviction deadline passed"
  | importanceNotANumber => "importance is not a number"
  | promptCounterOverflow => "prompt counter out of range"
  | idsExhausted => "database or disk is full"
  | expressionTooDeep => "Expression tree is too large (maximum depth 1000)"
  | patternTooLong => "LIKE or GLOB pattern too complex"
  | candidatesOverflow => "attempt to multiply with overflow"
  | indexOffline => "index offline"
  | embedderOffline => "embedder offline"
  | vectorsMissing vectors texts => s!"embedder returned {vectors} vectors for {texts} texts"
  | unknownProvider name => s!"unknown embedding provider: {name}. Supported: local, none"
  | modelFileMissing path =>
    s!"{path} not found. Run \x60memento model download\x60 first."
  | fileUnreadable path => s!"failed to open {path}"
  | modelWithoutRuntime => "no runtime for embedding models; set the provider to none"
  | storeMalformed => "the stored records cannot be read"
  | settingsMalformed => "failed to parse config TOML"
  | hiddenStateShape dimensions =>
    let listed := ", ".intercalate (dimensions.map toString)
    s!"unexpected hidden state shape [{listed}], expected [batch, seq, 384]"
  | hiddenStateSize values expected =>
    s!"hidden state buffer has {values} values, shape says {expected}"

/-- Who is told what: a caller is told by name what to mend, what the storage layer refuses is
reported without words, and a crash answers nobody. -/
inductive Category
  | unknownVariant
  | empty
  | storage
  | crash
  | other
  deriving DecidableEq, Repr

def category : Failure → Category
  | unknownName _ _ => .unknownVariant
  | emptyValue _ => .empty
  | limitTooLarge | quotaTooLarge | importanceNotANumber | promptCounterOverflow
  | idsExhausted | expressionTooDeep | patternTooLong | storeMalformed => .storage
  | candidatesOverflow => .crash
  | _ => .other

def exitStatus (failure : Failure) : Nat := if failure.category = .crash then 101 else 1

end Failure

end Recall
