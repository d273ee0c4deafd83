import Recall.Proofs.SessionRows

namespace Recall

/-- What happens to a session, as far as a caller knows from the answers. -/
inductive SessionEvent
  /-- The session is created, or a record is written in it. A prompt brings its text and its
  number. -/
  | entry (project : String) (text : Option String) (number : Option Int)
  | increment
  | completion (status : SessionStatus)
  deriving DecidableEq, Repr

namespace SessionEvent

def isEntry : SessionEvent → Bool
  | entry _ _ _ => true
  | _ => false

def project? : SessionEvent → Option String
  | entry project _ _ => if project.isEmpty then none else some project
  | _ => none

def text? : SessionEvent → Option String
  | entry _ text _ => text
  | _ => none

def status? : SessionEvent → Option SessionStatus
  | completion status => some status
  | _ => none

def advance (counter : Int) : SessionEvent → Int
  | entry _ _ (some number) => max counter number
  | increment => counter + 1
  | _ => counter

end SessionEvent

def Session.CountsBelow (s : Session) : Prop :=
  ∃ counter < PromptCounter.largest, s.promptCounter = .count counter

def Submission.entry (submission : Submission) (occasion : Occasion) : SessionEvent :=
  .entry occasion.project (submission.prompt?.map Prod.snd) (submission.prompt?.map Prod.fst)

/-- What happens at a step, and to the session of which key. A refused write, a repetition that
is passed over and a completion that finds no session are no events. -/
def Step.sessionEvent? (step : Step) : Option (String × SessionEvent) :=
  match step.operation, step.outcome.result with
  | .record submission occasion, .ok (.stored (some _))
  | .store submission occasion, .ok (.stored (some _)) =>
    some (occasion.sessionKey, submission.entry occasion)
  | .amend (.createSession occasion text), .ok _ =>
    some (occasion.sessionKey, .entry occasion.project text none)
  | .amend (.completeSession key status _), .ok (.found true) => some (key, .completion status)
  | .amend (.incrementPromptCounter key), .ok _ => some (key, .increment)
  | _, _ => none

def Step.eventFor? (step : Step) (key : String) : Option SessionEvent :=
  (step.sessionEvent?.filter (·.1 = key)).map Prod.snd

/-- How an event changes the session of a key, which may not be there before. -/
structure SessionEvent.Makes (event : SessionEvent) (before : Option Session) (after : Session) :
    Prop where
  entered : before = none → event.isEntry = true
  id : ∀ s, before = some s → after.id = s.id
  project : after.project = event.project?.getD ((before.map (·.project)).getD "")
  userPrompt : after.userPrompt = (event.text? <|> before.bind (·.userPrompt))
  promptCounter : ∀ counter < PromptCounter.largest,
    (before.map (·.promptCounter)).getD (.count 0) = .count counter →
      after.promptCounter = .count (event.advance counter)
  status : after.status = event.status?.getD ((before.map (·.status)).getD .active)

theorem Store.opened_makes (store : Store) (occasion : Occasion) (text : Option String)
    (number : Option Int) :
    (SessionEvent.entry occasion.project text number).Makes (store.session? occasion.sessionKey)
      ((store.opened occasion text).numbered number) := by
  simp only [Store.opened]
  cases found : store.session? occasion.sessionKey with
  | none =>
      refine ⟨fun _ => rfl, fun s same => (by cases same), ?_, ?_, ?_, ?_⟩
      · cases number <;>
        · simp only [Session.numbered, newSession, SessionEvent.project?, Option.map_none,
            Option.getD_none]
          split
          · rename_i empty
            exact String.isEmpty_iff.mp empty
          · rfl
      · cases number <;> simp [Session.numbered, newSession, SessionEvent.text?]
      · rintro counter - same
        cases same
        cases number <;> rfl
      · cases number <;> rfl
  | some s =>
      refine ⟨fun absent => (by cases absent), ?_, ?_, ?_, ?_, ?_⟩
      · rintro other ⟨rfl⟩
        cases number <;> rfl
      · cases number <;>
        · simp only [Session.numbered, refreshSession, SessionEvent.project?, Option.map_some,
            Option.getD_some]
          split <;> rfl
      · cases number <;> rfl
      · rintro counter - same
        have counts : s.promptCounter = .count counter := same
        cases number with
        | none => exact counts
        | some number =>
            simp only [Session.numbered, refreshSession, counts]
            rfl
      · cases number <;> rfl

theorem Session.completion_makes (s : Session) (status : SessionStatus) (now : Int) :
    (SessionEvent.completion status).Makes (some s)
      { s with status, completedAt := some now } := by
  refine ⟨fun absent => (by cases absent), ?_, rfl, rfl, fun counter _ counts => counts, rfl⟩
  rintro other ⟨rfl⟩
  rfl

theorem Session.increment_makes (s : Session) :
    SessionEvent.increment.Makes (some s)
      { s with promptCounter := s.promptCounter.increment } := by
  refine ⟨fun absent => (by cases absent), ?_, rfl, rfl, ?_, rfl⟩
  · rintro other ⟨rfl⟩
    rfl
  · intro counter below counts
    have same : s.promptCounter = .count counter := counts
    simp only [same, PromptCounter.increment, if_pos below, SessionEvent.advance]

namespace Step

inductive Touches (step : Step) : Prop
  | nothing (told : step.sessionEvent? = none)
      (same : step.outcome.engine.store.sessions = step.before.store.sessions)
  | enters (occasion : Occasion) (text : Option String) (number : Option Int) (id : Nat)
      (opened : Store)
      (told : step.sessionEvent? =
        some (occasion.sessionKey, .entry occasion.project text number))
      (ran : (Store.upsertSession occasion text).run step.before.store = .ok (id, opened))
      (after : step.outcome.engine.store.sessions =
        (opened.updateSession occasion.sessionKey (Session.numbered number)).sessions)
  | completes (key : String) (status : SessionStatus) (now : Int) (s : Session)
      (told : step.sessionEvent? = some (key, .completion status))
      (found : step.before.store.session? key = some s)
      (after : step.outcome.engine.store.sessions =
        (step.before.store.updateSession key
          ({ · with status, completedAt := some now })).sessions)
  /-- A counter that is past its range is stored as well, but reported as a failure. -/
  | counts (key : String) (s : Session)
      (asked : step.operation = .amend (.incrementPromptCounter key))
      (told : ∀ event ∈ step.sessionEvent?, event = (key, .increment))
      (counted : s.CountsBelow → step.sessionEvent?.isSome = true)
      (found : step.before.store.session? key = some s)
      (after : step.outcome.engine.store.sessions =
        (step.before.store.updateSession key
          ({ · with promptCounter := s.promptCounter.increment })).sessions)

theorem submitted_touches {step : Step} {submission : Submission} {occasion : Occasion}
    (told : step.sessionEvent? =
      match (step.before.storeOnly occasion submission).result with
      | .ok (some _) => some (occasion.sessionKey, submission.entry occasion)
      | _ => none)
    (same : step.outcome.engine.store =
      (step.before.storeOnly occasion submission).engine.store) : step.Touches := by
  rcases step.before.storeOnly_cases occasion submission with
    ⟨refused, whole, unanswered⟩ | ⟨stored, mid, ids, ran, passed, part, whole⟩
  · rw [whole] at told same
    refine .nothing ?_ (congrArg Store.sessions same)
    rw [told]
    split
    · rename_i stored answered
      exact absurd answered (unanswered stored)
    · rfl
  · rw [whole] at told same
    obtain ⟨id, opened, first, sessions⟩ := Submission.transaction_opens ran
    have kept : step.outcome.engine.store.sessions = mid.sessions := by
      rw [same, (step.before.evicting_sameStore mid submission.kind ids).store]
      exact mid.sessions_delete ids submission.kind
    refine .enters occasion _ _ id opened told first ?_
    rw [kept, sessions]

theorem created_touches (before : Engine) (occasion : Occasion) (text : Option String) :
    Touches ⟨before, .amend (.createSession occasion text)⟩ := by
  let step : Step := ⟨before, .amend (.createSession occasion text)⟩
  have whole : step.outcome = {
      engine := { before with store :=
        (before.store.commit (Store.upsertSession occasion text)).1 }
      result := (before.store.commit (Store.upsertSession occasion text)).2.map .session } := rfl
  change step.Touches
  cases ran : (Store.upsertSession occasion text).run before.store with
  | error failure =>
      simp only [Store.commit, ran] at whole
      refine .nothing ?_ ?_
      · simp only [sessionEvent?, whole]
        rfl
      · rw [whole]
  | ok pair =>
      simp only [Store.commit, ran] at whole
      refine .enters occasion text none pair.1 pair.2 ?_ ran ?_
      · simp only [sessionEvent?, whole]
        rfl
      · rw [whole]
        exact congrArg Store.sessions (Store.updateSession_eq fun s _ _ => rfl).symm

theorem completed_touches (before : Engine) (key : String) (status : SessionStatus)
    (now : Int) : Touches ⟨before, .amend (.completeSession key status now)⟩ := by
  have answered : (⟨before, .amend (.completeSession key status now)⟩ : Step).outcome.result =
      .ok (.found (before.store.session? key).isSome) := rfl
  cases found : before.store.session? key with
  | none =>
      rw [found] at answered
      refine .nothing ?_ ?_
      · simp only [sessionEvent?, answered, Option.isSome_none]
      · have idle : before.store.updateSession key
            ({ · with status, completedAt := some now }) = before.store := by
          refine Store.updateSession_eq fun s live own => absurd own ?_
          simpa using List.find?_eq_none.mp found s live
        exact congrArg Store.sessions idle
  | some s =>
      rw [found] at answered
      refine .completes key status now s ?_ found rfl
      simp only [sessionEvent?, answered, Option.isSome_some]

theorem incremented_touches (before : Engine) (key : String) :
    Touches ⟨before, .amend (.incrementPromptCounter key)⟩ := by
  let step : Step := ⟨before, .amend (.incrementPromptCounter key)⟩
  have whole : step.outcome = {
      engine := { before with store := (before.store.incrementPromptCounter key).1 }
      result := (before.store.incrementPromptCounter key).2.map .counter } := rfl
  change step.Touches
  cases found : before.store.session? key with
  | none =>
      simp only [Store.incrementPromptCounter, found] at whole
      refine .nothing ?_ ?_
      · simp only [sessionEvent?, whole]
        rfl
      · rw [whole]
  | some s =>
      simp only [Store.incrementPromptCounter, found] at whole
      refine .counts key s rfl ?_ ?_ found ?_
      · intro event told
        simp only [sessionEvent?, whole] at told
        split at told <;> simp_all [step]
      · rintro ⟨counter, below, counts⟩
        have next : s.promptCounter.increment.read = .ok (counter + 1) := by
          rw [counts, PromptCounter.increment, if_pos below]
          rfl
        simp only [sessionEvent?, whole, next]
        rfl
      · rw [whole]

theorem cleaned_touches (before : Engine) (kind : RecordKind) (pool : Pool) :
    Touches ⟨before, .cleanup kind pool⟩ := by
  refine .nothing ?_ ?_
  · simp only [sessionEvent?]
  · simp only [outcome, Engine.perform]
    rcases before.cleanup_cases kind pool with ⟨failure, whole⟩ | ⟨ids, -, whole⟩
    · rw [whole]
      rfl
    · rw [whole]
      refine Eq.trans ?_ (before.store.sessions_delete ids kind)
      exact congrArg Store.sessions (before.evicting_sameStore before.store kind ids).store

theorem reembedded_touches (before : Engine) : Touches ⟨before, .reembed⟩ := by
  refine .nothing ?_ ?_
  · simp only [sessionEvent?]
  · simp only [outcome, Engine.perform]
    split
    · rename_i after updated ran
      exact congrArg Store.sessions (Engine.reembed_sameStore ran).store
    · rfl

theorem touches (step : Step) : step.Touches := by
  obtain ⟨before, operation⟩ := step
  cases operation with
  | record submission occasion =>
      obtain ⟨same, result, -⟩ := before.record_sameStore occasion submission
      refine submitted_touches ?_ same.store
      simp only [sessionEvent?, outcome, Engine.perform, Outcome.map, result]
      cases (before.storeOnly occasion submission).result with
      | error failure => rfl
      | ok answer => cases answer <;> rfl
  | store submission occasion =>
      refine submitted_touches ?_ rfl
      simp only [sessionEvent?, outcome, Engine.perform, Outcome.map]
      cases (before.storeOnly occasion submission).result with
      | error failure => rfl
      | ok answer => cases answer <;> rfl
  | amend amendment =>
      cases amendment with
      | createSession occasion text => exact created_touches before occasion text
      | completeSession key status now => exact completed_touches before key status now
      | incrementPromptCounter key => exact incremented_touches before key
      | updateImportance id importance =>
          exact .nothing rfl (before.store.sessions_updateImportance id importance)
      | markSuperseded ids | recordRetrieval ids now | updateMatchedCount id matched =>
          exact .nothing rfl rfl
  | delete kind ids => exact .nothing rfl (before.store.sessions_delete ids kind)
  | cleanup kind pool => exact cleaned_touches before kind pool
  | search request now => exact .nothing rfl (Search.run_sessions _ _ _ request now)
  | reembed => exact reembedded_touches before
  | embedWith embedder => exact .nothing rfl rfl

theorem Touches.keys {step : Step} (touches : step.Touches)
    (once : (step.before.store.sessions.map (·.key)).Nodup) :
    (step.outcome.engine.store.sessions.map (·.key)).Nodup := by
  have updated {store : Store} {key : String} {change : Session → Session}
      (after : step.outcome.engine.store.sessions = (store.updateSession key change).sessions)
      (fixed : ∀ s, (change s).key = s.key) (apart : (store.sessions.map (·.key)).Nodup) :
      (step.outcome.engine.store.sessions.map (·.key)).Nodup := by
    rw [after, Store.keys_updateSession fixed]
    exact apart
  cases touches with
  | nothing told same =>
      rw [same]
      exact once
  | enters occasion text number id opened told ran after =>
      exact updated after (Session.numbered_key number) (Store.upsertSession_keys ran once)
  | completes key status now s told found after => exact updated after (fun _ => rfl) once
  | counts key s asked told counted found after => exact updated after (fun _ => rfl) once

/-- The session of a key changes by the event that is told of it, and not without one. -/
def Heeds (step : Step) (key : String) : Prop :=
  (step.eventFor? key = none ∧
    step.outcome.engine.store.session? key = step.before.store.session? key) ∨
  ∃ event s, step.eventFor? key = some event ∧ step.outcome.engine.store.session? key = some s ∧
    event.Makes (step.before.store.session? key) s

theorem heeds_of_makes {step : Step} {own : String} {event : SessionEvent} {after : Session}
    (told : step.sessionEvent? = some (own, event))
    (changed : ∀ key, step.outcome.engine.store.session? key =
      if key = own then some after else step.before.store.session? key)
    (makes : event.Makes (step.before.store.session? own) after) (key : String) :
    step.Heeds key := by
  by_cases same : key = own
  · subst same
    refine Or.inr ⟨event, after, by simp [eventFor?, told], ?_, makes⟩
    rw [changed, if_pos rfl]
  · refine Or.inl ⟨by simp [eventFor?, told, Ne.symm same], ?_⟩
    rw [changed, if_neg same]

theorem heeds_of_update {step : Step} {own : String} {event : SessionEvent} {s : Session}
    {change : Session → Session} (told : step.sessionEvent? = some (own, event))
    (found : step.before.store.session? own = some s)
    (after : step.outcome.engine.store.sessions =
      (step.before.store.updateSession own change).sessions)
    (fixed : ∀ s, (change s).key = s.key) (makes : event.Makes (some s) (change s))
    (key : String) : step.Heeds key := by
  refine heeds_of_makes told (fun other => ?_) (found ▸ makes) key
  rw [Store.session?_of_update after fixed, found]
  rfl

theorem heeds (step : Step) (key : String)
    (below : ∀ s, step.before.store.session? key = some s → s.CountsBelow) :
    step.Heeds key := by
  cases step.touches with
  | nothing told same =>
      refine Or.inl ⟨?_, Store.session?_of_sessions same key⟩
      rw [eventFor?, told]
      rfl
  | enters occasion text number id opened told ran after =>
      refine heeds_of_makes told (fun other => ?_)
        (step.before.store.opened_makes occasion text number) key
      rw [Store.session?_of_update after (Session.numbered_key number),
        Store.upsertSession_opens ran, Store.upsertSession_opens ran]
      by_cases same : other = occasion.sessionKey
      · simp only [if_pos same, if_true, Option.map_some]
      · simp only [if_neg same]
  | completes own status now s told found after =>
      exact heeds_of_update told found after (fun _ => rfl) (s.completion_makes status now) key
  | counts own s asked told counted found after =>
      by_cases same : key = own
      · subst same
        obtain ⟨event, reported⟩ := Option.isSome_iff_exists.mp (counted (below s found))
        obtain rfl := told event reported
        exact heeds_of_update reported found after (fun _ => rfl) s.increment_makes key
      · refine Or.inl ⟨?_, ?_⟩
        · rw [eventFor?, Option.map_eq_none_iff, Option.filter_eq_none_iff]
          intro event reported
          rw [told event reported]
          simpa using Ne.symm same
        · have kept := Store.session?_of_update after (fun _ => rfl) key
          rw [kept, if_neg same]

end Step

end Recall
