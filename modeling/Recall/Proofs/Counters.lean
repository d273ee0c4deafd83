import Mathlib.Data.List.Nodup
import Recall.Proofs.SessionHistories

/-!
The counter of prompts at the end of its range. Counting up from the largest number stores a
value that is no number any more, and from then on the session cannot be read. Nothing else
brings a counter there, and nothing brings it back.
-/

namespace Recall

namespace Session

def Overflowed (s : Session) : Prop := s.promptCounter = .overflowed

def exhausted (s : Session) : Bool :=
  match s.promptCounter with
  | .count counter => PromptCounter.largest ≤ counter
  | .overflowed => false

theorem increment_exhausted {s : Session} (exhausted : s.exhausted = true) :
    s.promptCounter.increment = .overflowed := by
  cases counts : s.promptCounter with
  | overflowed => rfl
  | count counter =>
      simp only [Session.exhausted, counts, decide_eq_true_eq] at exhausted
      rw [PromptCounter.increment, if_neg (Int.not_lt.mpr exhausted)]

theorem increment_overflowed_iff (s : Session) :
    s.promptCounter.increment = .overflowed ↔ s.Overflowed ∨ s.exhausted = true := by
  simp only [Overflowed, exhausted]
  cases s.promptCounter with
  | overflowed => simp [PromptCounter.increment]
  | count counter =>
      by_cases below : counter < PromptCounter.largest
      · simp [PromptCounter.increment, below]
      · simp [PromptCounter.increment, below, Int.not_lt.mp below]

theorem numbered_overflowed_iff (number : Option Int) (s : Session) :
    (s.numbered number).Overflowed ↔ s.Overflowed := by
  cases number with
  | none => rfl
  | some number =>
      simp only [numbered, Overflowed]
      cases s.promptCounter <;> simp [PromptCounter.raiseTo]

end Session

namespace Store

/-- The counter goes up by one and reads so, or nothing happens. -/
inductive CountsUp (store : Store) (key : String) : Prop
  | counted (s : Session) (counter : Int) (found : store.session? key = some s)
      (counts : s.promptCounter = .count counter)
      (ran : store.incrementPromptCounter key =
        (store.updateSession key ({ · with promptCounter := .count (counter + 1) }),
          .ok (counter + 1)))
      (reads : (store.incrementPromptCounter key).1.readSession key =
        .ok (some ({ s with promptCounter := .count (counter + 1) }, counter + 1)))
  | refused (failure : Failure) (ran : store.incrementPromptCounter key = (store, .error failure))

def Readable (store : Store) (key : String) : Prop :=
  ∀ s, store.session? key = some s → ∃ counter, store.readSession key = .ok (some (s, counter))

def Overflows (store : Store) (key : String) : Prop :=
  ∃ s, store.session? key = some s ∧ s.Overflowed

theorem overflows_of_found {store : Store} {key : String} {s : Session}
    (found : store.session? key = some s) : store.Overflows key ↔ s.Overflowed := by
  constructor
  · intro overflows
    obtain ⟨other, present, overflowed⟩ := overflows
    rw [Option.some.inj (found.symm.trans present)]
    exact overflowed
  · intro overflowed
    exact ⟨s, found, overflowed⟩

theorem overflows_of_same {before after : Store} {key : String}
    (same : after.session? key = before.session? key) :
    after.Overflows key ↔ before.Overflows key := by
  rw [Overflows, same, Overflows]

theorem readable_iff (store : Store) (key : String) :
    store.Readable key ↔ ¬store.Overflows key := by
  constructor
  · intro readable overflows
    obtain ⟨s, found, overflowed⟩ := overflows
    obtain ⟨counter, read⟩ := readable s found
    rw [Session.Overflowed] at overflowed
    simp only [readSession, found, overflowed, PromptCounter.read] at read
    cases read
  · intro sane s found
    cases counts : s.promptCounter with
    | overflowed => exact absurd ⟨s, found, counts⟩ sane
    | count counter =>
        refine ⟨counter, ?_⟩
        simp only [readSession, found, counts, PromptCounter.read]
        rfl

theorem session?_setCounter {store : Store} {key : String} {s : Session}
    (found : store.session? key = some s) (counter : PromptCounter) :
    (store.updateSession key ({ · with promptCounter := counter })).session? key =
      some { s with promptCounter := counter } := by
  have fixed (other : Session) : ({ other with promptCounter := counter } : Session).key =
      other.key := rfl
  rw [session?_updateSession fixed, if_pos rfl, found, Option.map_some]

theorem counts_of_below {store : Store} {key : String} {s : Session} {counter : Int}
    (found : store.session? key = some s) (counts : s.promptCounter = .count counter)
    (below : counter < PromptCounter.largest) : store.CountsUp key := by
  have ran : store.incrementPromptCounter key =
      (store.updateSession key ({ · with promptCounter := .count (counter + 1) }),
        .ok (counter + 1)) := by
    simp only [incrementPromptCounter, found, counts, PromptCounter.increment, if_pos below,
      PromptCounter.read]
  refine .counted s counter found counts ran ?_
  simp only [ran, readSession, session?_setCounter found]
  rfl

theorem refuses_of_overflowed {store : Store} {key : String} {s : Session}
    (once : (store.sessions.map (·.key)).Nodup) (found : store.session? key = some s)
    (overflowed : s.Overflowed) : store.CountsUp key := by
  have idle : store.updateSession key ({ · with promptCounter := .overflowed }) = store := by
    apply updateSession_eq
    intro other live own
    have same : other = s := List.inj_on_of_nodup_map once live (List.mem_of_find?_eq_some found)
      (own.trans (session?_key found).symm)
    rw [same, ← overflowed]
  refine .refused .promptCounterOverflow ?_
  rw [Session.Overflowed] at overflowed
  simp only [incrementPromptCounter, found, overflowed, PromptCounter.increment, idle,
    PromptCounter.read]

/-- After the largest number the failure is reported when the counter is already spoilt. -/
theorem not_countsUp_of_exhausted {store : Store} {key : String} {s : Session}
    (found : store.session? key = some s) (exhausted : s.exhausted = true) :
    ¬store.CountsUp key := by
  have ran : store.incrementPromptCounter key =
      (store.updateSession key ({ · with promptCounter := .overflowed }),
        .error .promptCounterOverflow) := by
    simp only [incrementPromptCounter, found, Session.increment_exhausted exhausted,
      PromptCounter.read]
  intro counts
  cases counts with
  | counted other counter present number answered reads =>
      have result := congrArg Prod.snd (ran.symm.trans answered)
      cases result
  | refused failure unchanged =>
      have same : store.updateSession key ({ · with promptCounter := .overflowed }) = store :=
        congrArg Prod.fst (ran.symm.trans unchanged)
      have spoilt := session?_setCounter found .overflowed
      rw [same, found] at spoilt
      rw [Option.some.inj spoilt] at exhausted
      cases exhausted

theorem countsUp_iff {store : Store} (once : (store.sessions.map (·.key)).Nodup) (key : String) :
    store.CountsUp key ↔ ∀ s, store.session? key = some s → s.exhausted = false := by
  constructor
  · intro counts s found
    apply Bool.eq_false_iff.mpr
    intro exhausted
    exact not_countsUp_of_exhausted found exhausted counts
  · intro room
    cases found : store.session? key with
    | none =>
        refine .refused (.unknownSession key) ?_
        simp only [incrementPromptCounter, found]
    | some s =>
        cases counts : s.promptCounter with
        | overflowed => exact refuses_of_overflowed once found counts
        | count counter =>
            have below := room s found
            simp only [Session.exhausted, counts, decide_eq_false_iff_not, Int.not_le] at below
            exact counts_of_below found counts below

theorem opened_overflowed_iff (store : Store) (occasion : Occasion) (text : Option String) :
    (store.opened occasion text).Overflowed ↔ store.Overflows occasion.sessionKey := by
  cases found : store.session? occasion.sessionKey with
  | none =>
      simp only [opened, Overflows, found]
      simp [newSession, Session.Overflowed]
  | some s =>
      rw [overflows_of_found found]
      simp only [opened, found]
      rfl

theorem overflows_of_update {before after : Store} {own : String} {change : Session → Session}
    (same : after.sessions = (before.updateSession own change).sessions)
    (fixed : ∀ s, (change s).key = s.key)
    (idle : ∀ s, before.session? own = some s → ((change s).Overflowed ↔ s.Overflowed))
    (key : String) : after.Overflows key ↔ before.Overflows key := by
  have looked := session?_of_update same fixed key
  by_cases other : key = own
  · subst other
    rw [if_pos rfl] at looked
    cases found : before.session? key with
    | none =>
        rw [found] at looked
        exact overflows_of_same (looked.trans found.symm)
    | some s =>
        rw [found] at looked
        rw [overflows_of_found looked, overflows_of_found found]
        exact idle s found
  · rw [if_neg other] at looked
    exact overflows_of_same looked

end Store

namespace Step

def Exhausts (step : Step) (key : String) : Prop :=
  step.operation = .amend (.incrementPromptCounter key) ∧
    ∃ s, step.before.store.session? key = some s ∧ s.exhausted = true

theorem Exhausts.overflows {step : Step} {key : String} (exhausts : step.Exhausts key) :
    step.outcome.engine.store.Overflows key := by
  obtain ⟨asked, s, found, exhausted⟩ := exhausts
  have after : step.outcome.engine.store =
      step.before.store.updateSession key ({ · with promptCounter := .overflowed }) := by
    simp only [outcome, Engine.perform, asked, Amendment.apply, Store.incrementPromptCounter,
      found, Session.increment_exhausted exhausted]
  rw [after]
  exact ⟨_, Store.session?_setCounter found .overflowed, rfl⟩

/-- Only counting up at the end of the range makes a counter overflow, and for good. -/
theorem overflows_iff (step : Step) (key : String) :
    step.outcome.engine.store.Overflows key ↔
      step.before.store.Overflows key ∨ step.Exhausts key := by
  have exhausted : step.Exhausts key → step.outcome.engine.store.Overflows key :=
    Exhausts.overflows
  -- A step that leaves the overflow as it was cannot have exhausted the counter either.
  have undisturbed (kept : step.outcome.engine.store.Overflows key ↔
      step.before.store.Overflows key) : step.outcome.engine.store.Overflows key ↔
        step.before.store.Overflows key ∨ step.Exhausts key := by
    rw [← kept]
    exact (or_iff_left_of_imp exhausted).symm
  cases step.touches with
  | nothing told same =>
      apply undisturbed
      exact Store.overflows_of_same (Store.session?_of_sessions same key)
  | enters occasion text number id opened told ran after =>
      apply undisturbed
      have entered : opened.Overflows key ↔ step.before.store.Overflows key := by
        have looked := Store.upsertSession_opens ran key
        by_cases own : key = occasion.sessionKey
        · subst own
          rw [if_pos rfl] at looked
          rw [Store.overflows_of_found looked]
          exact step.before.store.opened_overflowed_iff occasion text
        · rw [if_neg own] at looked
          exact Store.overflows_of_same looked
      rw [← entered]
      exact Store.overflows_of_update after (Session.numbered_key number)
        (fun s _ => s.numbered_overflowed_iff number) key
  | completes own status now s told found after =>
      apply undisturbed
      exact Store.overflows_of_update after (fun _ => rfl) (fun _ _ => Iff.rfl) key
  | counts own s asked told counted found after =>
      by_cases same : key = own
      · subst same
        have changed := Store.session?_of_update after (fun _ => rfl) key
        rw [if_pos rfl, found] at changed
        have last : step.Exhausts key ↔ s.exhausted = true := by
          constructor
          · intro exhausts
            obtain ⟨-, other, present, spent⟩ := exhausts
            rw [Option.some.inj (found.symm.trans present)]
            exact spent
          · intro spent
            exact ⟨asked, s, found, spent⟩
        rw [Store.overflows_of_found changed, Store.overflows_of_found found, last]
        exact s.increment_overflowed_iff
      · apply undisturbed
        have kept := Store.session?_of_update after (fun _ => rfl) key
        rw [if_neg same] at kept
        exact Store.overflows_of_same kept

end Step

namespace Engine

theorem overflows_after (engine : Engine) (operations : List Operation)
    (empty : engine.store = {}) (key : String) :
    (engine.after operations).store.Overflows key ↔
      ∃ step ∈ engine.history operations, step.Exhausts key := by
  induction operations using List.reverseRecOn with
  | nil =>
      have absent : (engine.after []).store.session? key = none := by
        change engine.store.session? key = none
        rw [empty]
        rfl
      simp [Store.Overflows, absent, history]
  | append_singleton operations operation ih =>
      let step : Step := ⟨engine.after operations, operation⟩
      have next : (engine.after (operations ++ [operation])).store.Overflows key ↔
          (engine.after operations).store.Overflows key ∨ step.Exhausts key := by
        rw [after_concat]
        exact step.overflows_iff key
      rw [next, ih, history_concat]
      simp only [List.mem_append, List.mem_singleton, or_and_right, exists_or,
        exists_eq_left, step]

/-- Whether counting up is sound depends on the present counter, and whether the session can
be read on what was counted up before. -/
theorem counter_sound_iff (engine : Engine) (operations : List Operation)
    (empty : engine.store = {}) (key : String) :
    let store := (engine.after operations).store
    (store.CountsUp key ↔ ∀ s, store.session? key = some s → s.exhausted = false) ∧
    (store.Readable key ↔ ∀ step ∈ engine.history operations, ¬step.Exhausts key) := by
  intro store
  have once : (store.sessions.map (·.key)).Nodup := by
    apply engine.keys_nodup_after operations
    rw [empty]
    exact List.nodup_nil
  constructor
  · exact Store.countsUp_iff once key
  · rw [store.readable_iff, engine.overflows_after operations empty]
    simp only [not_exists, not_and]

def brimming : List Operation := [
  .store (.prompt PromptCounter.largest "last") { sessionKey := "s", project := "p", now := 1 }]

theorem brimming_exhausted : ∃ s, (Engine.after {} brimming).store.session? "s" = some s ∧
    s.exhausted = true := by
  have full : ((Engine.after {} brimming).store.session? "s").any Session.exhausted = true := by
    decide +kernel
  exact (Option.any_eq_true _ _).mp full

theorem brimming_counter_sound :
    let store := (Engine.after {} brimming).store
    store.Readable "s" ∧ ¬store.CountsUp "s" := by
  intro store
  have sound := counter_sound_iff {} brimming rfl "s"
  constructor
  · apply sound.2.mpr
    intro step member exhausts
    rw [List.mem_singleton.mp member] at exhausts
    cases exhausts.1
  · intro counts
    obtain ⟨s, found, exhausted⟩ := brimming_exhausted
    rw [sound.1.mp counts s found] at exhausted
    cases exhausted

theorem brimming_spoilt :
    ¬(Engine.after {} brimming).store.CountsUp "s" ∧
      ¬(Engine.after {} (brimming ++ [.amend (.incrementPromptCounter "s")])).store.Readable
        "s" := by
  obtain ⟨s, found, exhausted⟩ := brimming_exhausted
  constructor
  · exact Store.not_countsUp_of_exhausted found exhausted
  · rw [Store.readable_iff, after_concat, not_not]
    have spoils : Step.Exhausts ⟨Engine.after {} brimming, .amend (.incrementPromptCounter "s")⟩
        "s" := ⟨rfl, s, found, exhausted⟩
    exact spoils.overflows

end Engine

end Recall
