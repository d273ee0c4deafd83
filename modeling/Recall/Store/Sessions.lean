import Recall.Store.Basic

namespace Recall.Store

def session? (store : Store) (key : String) : Option Session :=
  store.sessions.find? (·.key = key)

def updateSession (store : Store) (key : String) (change : Session → Session) : Store :=
  { store with
    sessions := store.sessions.map fun s => if s.key = key then change s else s }

/-- An empty project leaves the project as it is, and no prompt leaves the prompt. -/
def refreshSession (project : String) (prompt : Option String) (s : Session) : Session :=
  { s with
    project := if project.isEmpty then s.project else project
    userPrompt := prompt <|> s.userPrompt }

def newSession (id : Nat) (occasion : Occasion) (prompt : Option String) : Session := {
  id, key := occasion.sessionKey, project := occasion.project, userPrompt := prompt
  status := .active, promptCounter := .count 0, startedAt := occasion.now, completedAt := none }

/-- Every call uses up a session id, also when the session is there already. -/
def upsertSession (occasion : Occasion) (prompt : Option String) : Transaction Nat := fun store =>
  if occasion.sessionKey.isEmpty then .error .emptySessionKey
  else if noIdAfter store.lastSessionId then .error .idsExhausted
  else
    let next := store.lastSessionId + 1
    match store.session? occasion.sessionKey with
    | some s =>
      let refreshed := store.updateSession occasion.sessionKey
        (refreshSession occasion.project prompt)
      .ok (s.id, { refreshed with lastSessionId := next })
    | none =>
      let s := newSession next occasion prompt
      .ok (next, { store with sessions := store.sessions ++ [s], lastSessionId := next })

def readSession (store : Store) (key : String) : Except Failure (Option (Session × Int)) :=
  match store.session? key with
  | none => .ok none
  | some s => s.promptCounter.read.map fun counter => some (s, counter)

def completeSession (store : Store) (key : String) (status : SessionStatus) (now : Int) :
    Store × Bool :=
  (store.updateSession key ({ · with status, completedAt := some now }),
    (store.session? key).isSome)

/-- The counter is stored before it is read back. -/
def incrementPromptCounter (store : Store) (key : String) : Store × Except Failure Int :=
  match store.session? key with
  | none => (store, .error (.unknownSession key))
  | some s =>
    let counter := s.promptCounter.increment
    (store.updateSession key ({ · with promptCounter := counter }), counter.read)

end Recall.Store
