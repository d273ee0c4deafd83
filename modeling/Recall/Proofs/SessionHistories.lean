import Mathlib.Data.List.Induction
import Recall.Proofs.SessionEvents

namespace Recall

def lastOf (value? : SessionEvent → Option α) (events : List SessionEvent) : Option α :=
  (events.filterMap value?).getLast?

def counterOf (events : List SessionEvent) : Int := events.foldl SessionEvent.advance 0

structure Session.Follows (s : Session) (events : List SessionEvent) : Prop where
  entered : ∃ event ∈ events, event.isEntry = true
  project : s.project = (lastOf SessionEvent.project? events).getD ""
  userPrompt : s.userPrompt = lastOf SessionEvent.text? events
  promptCounter : s.promptCounter = .count (counterOf events)
  status : s.status = (lastOf SessionEvent.status? events).getD .active

structure Session.Continues (s later : Session) : Prop where
  id : later.id = s.id
  promptCounter : ∃ counted counter, s.promptCounter = .count counted ∧
    later.promptCounter = .count counter ∧ counted ≤ counter

def Engine.sessionEvents (engine : Engine) (key : String) (operations : List Operation) :
    List SessionEvent :=
  (engine.history operations).filterMap (·.eventFor? key)

theorem lastOf_concat (value? : SessionEvent → Option α) (events : List SessionEvent)
    (event : SessionEvent) :
    lastOf value? (events ++ [event]) = (value? event).or (lastOf value? events) := by
  rw [lastOf, List.filterMap_append, List.getLast?_append]
  cases brought : value? event with
  | none => simp [brought, lastOf]
  | some value => simp [brought]

theorem lastOf_singleton (value? : SessionEvent → Option α) (event : SessionEvent) :
    lastOf value? [event] = value? event := by
  have alone := lastOf_concat value? [] event
  rw [List.nil_append] at alone
  rw [alone]
  cases value? event <;> rfl

theorem counterOf_concat (events : List SessionEvent) (event : SessionEvent) :
    counterOf (events ++ [event]) = event.advance (counterOf events) := by
  rw [counterOf, List.foldl_append]
  rfl

theorem SessionEvent.le_advance (counter : Int) (event : SessionEvent) :
    counter ≤ event.advance counter := by
  rcases event with ⟨project, text, _ | number⟩ | _ | status
  · exact Int.le_refl _
  · exact Int.le_max_left counter number
  · exact Int.le_add_one (Int.le_refl _)
  · exact Int.le_refl _

theorem counterOf_mono (earlier later : List SessionEvent) :
    counterOf earlier ≤ counterOf (earlier ++ later) := by
  induction later using List.reverseRecOn with
  | nil => exact Int.le_of_eq (congrArg counterOf (List.append_nil earlier).symm)
  | append_singleton later event ih =>
      rw [← List.append_assoc, counterOf_concat]
      exact Int.le_trans ih (event.le_advance _)

theorem number_le_counterOf {events : List SessionEvent} {project : String}
    {text : Option String} {number : Int}
    (saved : .entry project text (some number) ∈ events) : number ≤ counterOf events := by
  obtain ⟨earlier, later, rfl⟩ := List.append_of_mem saved
  have raised : number ≤ counterOf (earlier ++ [.entry project text (some number)]) := by
    rw [counterOf_concat]
    exact Int.le_max_right _ number
  rw [List.append_cons]
  exact Int.le_trans raised (counterOf_mono _ later)

theorem SessionEvent.Makes.follows_first {event : SessionEvent} {after : Session}
    (makes : event.Makes none after) : after.Follows [event] where
  entered := ⟨event, List.mem_singleton_self _, makes.entered rfl⟩
  project := by
    rw [makes.project, lastOf_singleton]
    rfl
  userPrompt := by
    rw [makes.userPrompt, lastOf_singleton]
    cases event.text? <;> rfl
  promptCounter := makes.promptCounter 0 (by decide) rfl
  status := by
    rw [makes.status, lastOf_singleton]
    rfl

theorem SessionEvent.Makes.follows_next {event : SessionEvent} {events : List SessionEvent}
    {s after : Session} (makes : event.Makes (some s) after) (follows : s.Follows events)
    (below : s.CountsBelow) : after.Follows (events ++ [event]) where
  entered := by
    obtain ⟨first, told, enters⟩ := follows.entered
    exact ⟨first, List.mem_append_left _ told, enters⟩
  project := by
    rw [makes.project, lastOf_concat, Option.getD_or]
    exact congrArg event.project?.getD follows.project
  userPrompt := by
    rw [makes.userPrompt, lastOf_concat, ← follows.userPrompt, Option.or_eq_orElse]
    rfl
  promptCounter := by
    obtain ⟨counter, room, counts⟩ := below
    have same : counter = counterOf events :=
      PromptCounter.count.inj (counts.symm.trans follows.promptCounter)
    rw [counterOf_concat, ← same]
    exact makes.promptCounter counter room counts
  status := by
    rw [makes.status, lastOf_concat, Option.getD_or]
    exact congrArg event.status?.getD follows.status

namespace Engine

theorem sessionEvents_concat (engine : Engine) (key : String) (operations : List Operation)
    (operation : Operation) :
    engine.sessionEvents key (operations ++ [operation]) =
      engine.sessionEvents key operations ++
        ((⟨engine.after operations, operation⟩ : Step).eventFor? key).toList := by
  rw [sessionEvents, history_concat, List.filterMap_append]
  cases told : (⟨engine.after operations, operation⟩ : Step).eventFor? key <;>
    simp [sessionEvents, told]

def CountsBelow (engine : Engine) (key : String) (operations : List Operation) : Prop :=
  ∀ step ∈ engine.history operations, ∀ s ∈ step.before.store.session? key, s.CountsBelow

theorem sessionEvents_prefix (engine : Engine) (key : String) (earlier later : List Operation) :
    ∃ rest, engine.sessionEvents key (earlier ++ later) =
      engine.sessionEvents key earlier ++ rest := by
  induction later using List.reverseRecOn with
  | nil => exact ⟨[], by rw [List.append_nil, List.append_nil]⟩
  | append_singleton later operation ih =>
      obtain ⟨rest, same⟩ := ih
      rw [← List.append_assoc, sessionEvents_concat, same, List.append_assoc]
      exact ⟨_, rfl⟩

theorem CountsBelow.of_append {engine : Engine} {key : String} {earlier later : List Operation}
    (below : engine.CountsBelow key (earlier ++ later)) : engine.CountsBelow key earlier := by
  induction later using List.reverseRecOn with
  | nil => rwa [List.append_nil] at below
  | append_singleton later operation ih =>
      apply ih
      intro step member
      rw [← List.append_assoc] at below
      refine below step ?_
      rw [history_concat]
      exact List.mem_append_left _ member

theorem CountsBelow.last {engine : Engine} {key : String} {operations : List Operation}
    {operation : Operation} (below : engine.CountsBelow key (operations ++ [operation])) :
    ∀ s, (engine.after operations).store.session? key = some s → s.CountsBelow := by
  refine below ⟨engine.after operations, operation⟩ ?_
  rw [history_concat]
  exact List.mem_append_right _ (List.mem_singleton_self _)

def Told (engine : Engine) (key : String) (events : List SessionEvent) : Prop :=
  match engine.store.session? key with
  | none => events = []
  | some s => s.Follows events

theorem Told.next (step : Step) {key : String} {events : List SessionEvent}
    (told : step.before.Told key events) (heeds : step.Heeds key)
    (below : ∀ s, step.before.store.session? key = some s → s.CountsBelow) :
    step.outcome.engine.Told key (events ++ (step.eventFor? key).toList) := by
  rcases heeds with ⟨silent, same⟩ | ⟨event, after, reported, changed, makes⟩
  · rw [silent, Option.toList_none, List.append_nil, Told, same]
    exact told
  · rw [reported, Option.toList_some, Told, changed]
    cases found : step.before.store.session? key with
    | none =>
        rw [Told, found] at told
        rw [found] at makes
        simp only [told, List.nil_append]
        exact makes.follows_first
    | some s =>
        rw [Told, found] at told
        rw [found] at makes
        exact makes.follows_next told (below s found)

theorem told_after (engine : Engine) (operations : List Operation) (key : String)
    (start : engine.store.session? key = none) (below : engine.CountsBelow key operations) :
    (engine.after operations).Told key (engine.sessionEvents key operations) := by
  induction operations using List.reverseRecOn with
  | nil =>
      change engine.Told key []
      rw [Told, start]
  | append_singleton operations operation ih =>
      rw [after_concat, sessionEvents_concat]
      exact Told.next ⟨engine.after operations, operation⟩ (ih below.of_append)
        (Step.heeds _ key below.last) below.last

theorem session_id_kept (engine : Engine) (earlier later : List Operation) (key : String)
    (below : engine.CountsBelow key (earlier ++ later)) {s : Session}
    (found : (engine.after earlier).store.session? key = some s) :
    ∃ t, (engine.after (earlier ++ later)).store.session? key = some t ∧ t.id = s.id := by
  induction later using List.reverseRecOn with
  | nil =>
      rw [List.append_nil]
      exact ⟨s, found, rfl⟩
  | append_singleton later operation ih =>
      rw [← List.append_assoc] at below ⊢
      obtain ⟨t, reached, same⟩ := ih below.of_append
      rw [after_concat]
      let step : Step := ⟨engine.after (earlier ++ later), operation⟩
      rcases step.heeds key below.last with ⟨-, kept⟩ | ⟨event, u, -, changed, makes⟩
      · exact ⟨t, kept.trans reached, same⟩
      · exact ⟨u, changed, (makes.id t reached).trans same⟩

theorem keys_nodup_after (engine : Engine) (operations : List Operation)
    (once : (engine.store.sessions.map (·.key)).Nodup) :
    ((engine.after operations).store.sessions.map (·.key)).Nodup :=
  engine.after_invariant (fun met => (met.store.sessions.map (·.key)).Nodup) operations once
    fun operation _ met holds => (Step.touches ⟨met, operation⟩).keys holds

theorem Told.follows {engine : Engine} {key : String} {events : List SessionEvent}
    (told : engine.Told key events) {s : Session} (found : engine.store.session? key = some s) :
    s.Follows events := by
  rw [Told, found] at told
  exact told

theorem Told.isSome_iff {engine : Engine} {key : String} {events : List SessionEvent}
    (told : engine.Told key events) :
    (engine.store.session? key).isSome ↔ ∃ event ∈ events, event.isEntry = true := by
  cases found : engine.store.session? key with
  | none =>
      rw [Told, found] at told
      simp only at told
      simp [told]
  | some s => exact iff_of_true rfl (told.follows found).entered

theorem session_continues (engine : Engine) (earlier later : List Operation) (key : String)
    (start : engine.store.session? key = none)
    (below : engine.CountsBelow key (earlier ++ later)) {s : Session}
    (found : (engine.after earlier).store.session? key = some s) :
    ∃ t ∈ (engine.after (earlier ++ later)).store.session? key, s.Continues t := by
  obtain ⟨t, reached, same⟩ := engine.session_id_kept earlier later key below found
  have before := (engine.told_after earlier key start below.of_append).follows found
  have now := (engine.told_after (earlier ++ later) key start below).follows reached
  obtain ⟨rest, events⟩ := engine.sessionEvents_prefix key earlier later
  refine ⟨t, reached, same, _, _, before.promptCounter, now.promptCounter, ?_⟩
  rw [events]
  exact counterOf_mono _ rest

/-- After any run from an empty store, whatever else the run is made of, a key has at most one
session. The session is there if something was entered under the key, holds what the events of
the key tell, and goes on as the same session from then on. -/
theorem session_follows_history (engine : Engine) (operations : List Operation) (key : String)
    (empty : engine.store = {}) (below : engine.CountsBelow key operations) :
    ((engine.after operations).store.sessions.map (·.key)).Nodup ∧
    (((engine.after operations).store.session? key).isSome ↔
      ∃ event ∈ engine.sessionEvents key operations, event.isEntry = true) ∧
    (∀ s ∈ (engine.after operations).store.session? key,
      s.Follows (engine.sessionEvents key operations)) ∧
    (∀ project text number,
      .entry project text (some number) ∈ engine.sessionEvents key operations →
        number ≤ counterOf (engine.sessionEvents key operations)) ∧
    (∀ earlier later, earlier ++ later = operations →
      ∀ s ∈ (engine.after earlier).store.session? key,
        ∃ t ∈ (engine.after operations).store.session? key, s.Continues t) ∧
    ∀ step ∈ engine.history operations, step.eventFor? key = none →
      step.outcome.engine.store.session? key = step.before.store.session? key := by
  have start : engine.store.session? key = none := by
    rw [empty]
    rfl
  have told := engine.told_after operations key start below
  refine ⟨engine.keys_nodup_after operations ?_, told.isSome_iff, fun s => told.follows,
    fun project text number => number_le_counterOf, ?_, ?_⟩
  · rw [empty]
    exact List.nodup_nil
  · rintro earlier later rfl s found
    exact engine.session_continues earlier later key start below found
  · intro step member silent
    rcases step.heeds key (below step member) with ⟨-, kept⟩ | ⟨event, s, reported, -⟩
    · exact kept
    · rw [silent] at reported
      cases reported

end Engine

instance (s : Session) : Decidable s.CountsBelow :=
  match counted : s.promptCounter with
  | .count counter =>
    if below : counter < PromptCounter.largest then .isTrue ⟨counter, below, counted⟩
    else .isFalse fun ⟨_, other, same⟩ =>
      below (PromptCounter.count.inj (counted.symm.trans same) ▸ other)
  | .overflowed => .isFalse fun ⟨_, _, same⟩ => by cases counted.symm.trans same

instance (engine : Engine) (key : String) (operations : List Operation) :
    Decidable (engine.CountsBelow key operations) :=
  inferInstanceAs (Decidable (∀ step ∈ engine.history operations,
    ∀ s ∈ step.before.store.session? key, s.CountsBelow))

def morning : List Operation := [
  .amend (.createSession { sessionKey := "morning", project := "garden", now := 1 } none),
  .store (.prompt 4 "list the beds") { sessionKey := "morning", project := "", now := 2 },
  .amend (.createSession { sessionKey := "noon", project := "kitchen", now := 3 } none),
  .store (.prompt 9 "refused") { sessionKey := "", project := "shed", now := 4 },
  .amend (.incrementPromptCounter "morning"),
  .delete .prompt [1],
  .store (.prompt 2 "water the beds") { sessionKey := "morning", project := "yard", now := 5 },
  .amend (.completeSession "morning" .completed 6)]

theorem morning_follows_history : ({} : Engine).store = {} ∧
    ({} : Engine).CountsBelow "morning" morning ∧
    ∃ s ∈ (({} : Engine).after morning).store.session? "morning",
      s.project = "yard" ∧ s.userPrompt = some "water the beds" ∧
      s.promptCounter = .count 5 ∧ s.status = .completed := by
  have below : ({} : Engine).CountsBelow "morning" morning := by decide +kernel
  have events : ({} : Engine).sessionEvents "morning" morning = [
      .entry "garden" none none, .entry "" (some "list the beds") (some 4), .increment,
      .entry "yard" (some "water the beds") (some 2), .completion .completed] := by
    decide +kernel
  obtain ⟨-, there, follows, -⟩ := Engine.session_follows_history {} morning "morning" rfl below
  rw [events] at there follows
  obtain ⟨s, found⟩ := Option.isSome_iff_exists.mp (there.mpr ⟨_, List.mem_cons_self, rfl⟩)
  have told := follows s found
  exact ⟨rfl, below, s, found, told.project, told.userPrompt, told.promptCounter, told.status⟩

end Recall
