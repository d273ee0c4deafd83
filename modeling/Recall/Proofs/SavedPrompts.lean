import Mathlib.Data.List.Nodup
import Recall.Proofs.Retention
import Recall.Proofs.SessionRows

namespace Recall

def Prompt.place (p : Prompt) : String × Int := (p.sessionKey, p.number)

/-- A counter that is no number any more is past all numbers that a prompt can have. -/
def PromptCounter.AtLeast (number : Int) : PromptCounter → Prop
  | count n => number ≤ n
  | overflowed => True

namespace Store

def promptPlaces (store : Store) : List (String × Int) := store.prompts.rows.map Prompt.place

/-- What saving a prompt makes of a store, and what is handed back for it. -/
structure SavesPrompt (before : Store) (number : Int) (text : String) (occasion : Occasion)
    (stored : Stored) (after : Store) : Prop where
  replaced : ∀ p ∈ before.prompts.rows, p.place = (occasion.sessionKey, number) →
    stored = ⟨p.id, p.createdAt⟩ ∧ after.prompts.rows = before.prompts.rows.map fun row =>
      if row = p then { p with text, tokens := occasion.tokens } else row
  added : (occasion.sessionKey, number) ∉ before.promptPlaces →
    stored = ⟨(before.prompts.lastId + 1 : Nat), occasion.now⟩ ∧
      after.prompts.rows = before.prompts.rows ++ [promptOf number text occasion stored.id]
  /-- The session is there afterwards, whether it was before or not. -/
  session : ∃ s, after.session? occasion.sessionKey = some s ∧ s.userPrompt = some text ∧
    s.promptCounter.AtLeast number
  otherSessions : ∀ key, key ≠ occasion.sessionKey → after.session? key = before.session? key
  observations : after.observations = before.observations
  summaries : after.summaries = before.summaries

theorem prompt?_iff {store : Store} (apart : store.promptPlaces.Nodup) {key : String}
    {number : Int} {p : Prompt} :
    store.prompt? key number = some p ↔ p ∈ store.prompts.rows ∧ p.place = (key, number) := by
  constructor
  · intro found
    have named := List.find?_some found
    simp only [Bool.and_eq_true, decide_eq_true_eq] at named
    exact ⟨List.mem_of_find?_eq_some found, Prod.ext named.1 named.2⟩
  · intro own
    cases found : store.prompt? key number with
    | none =>
        have absent := List.find?_eq_none.mp found p own.1
        simp only [Prompt.place, Prod.mk.injEq] at own
        simp [own.2] at absent
    | some other =>
        have named := List.find?_some found
        simp only [Bool.and_eq_true, decide_eq_true_eq] at named
        have same : other.place = p.place := (Prod.ext named.1 named.2).trans own.2.symm
        rw [List.inj_on_of_nodup_map apart (List.mem_of_find?_eq_some found) own.1 same]

theorem prompt?_eq_none_iff {store : Store} {key : String} {number : Int} :
    store.prompt? key number = none ↔ (key, number) ∉ store.promptPlaces := by
  simp [prompt?, promptPlaces, Prompt.place]

theorem savePrompt_cases {number : Int} {text : String} {occasion : Occasion}
    {store after : Store} {stored : Stored}
    (ran : (savePrompt number text occasion).run store = .ok (stored, after)) :
    after.observations = store.observations ∧ after.summaries = store.summaries ∧
    ((∃ p, store.prompt? occasion.sessionKey number = some p ∧ stored = ⟨p.id, p.createdAt⟩ ∧
        after.prompts.rows =
          (store.prompts.update [p.id] ({ · with text, tokens := occasion.tokens })).rows) ∨
      (store.prompt? occasion.sessionKey number = none ∧
        stored = ⟨(store.prompts.lastId + 1 : Nat), occasion.now⟩ ∧
        after.prompts.rows = store.prompts.rows ++ [promptOf number text occasion stored.id])) := by
  obtain ⟨session, opened, first, ran⟩ := Transaction.bind_ok ran
  obtain ⟨sessions, last, rfl⟩ := upsertSession_ok first
  obtain ⟨found, saved, second, ran⟩ := Transaction.bind_ok ran
  cases ran
  simp only [upsertPrompt, StateT.run] at second
  split at second
  · cases second
  · split at second
    · rename_i p found
      cases second
      exact ⟨rfl, rfl, Or.inl ⟨p, found, rfl, rfl⟩⟩
    · rename_i absent
      cases second
      exact ⟨rfl, rfl, Or.inr ⟨absent, rfl, rfl⟩⟩

theorem opened_userPrompt (store : Store) (occasion : Occasion) (text : String) :
    (store.opened occasion (some text)).userPrompt = some text := by
  rw [opened]
  split <;> rfl

end Store

theorem Session.numbered_atLeast (number : Int) (s : Session) :
    (s.numbered (some number)).promptCounter.AtLeast number := by
  simp only [numbered]
  cases s.promptCounter with
  | count n => exact Int.le_max_right n number
  | overflowed => trivial

namespace Store

theorem savePrompt_session {number : Int} {text : String} {occasion : Occasion}
    {store after : Store} {stored : Stored}
    (ran : (savePrompt number text occasion).run store = .ok (stored, after)) (key : String) :
    after.session? key = if key = occasion.sessionKey
      then some ((store.opened occasion (some text)).numbered (some number))
      else store.session? key := by
  have submitted : ((Submission.prompt number text).transaction occasion).run store =
      .ok (stored, after) := ran
  obtain ⟨id, opened, first, same⟩ := Submission.transaction_opens submitted
  rw [session?_of_update same (Session.numbered_key _), upsertSession_opens first,
    upsertSession_opens first]
  by_cases own : key = occasion.sessionKey
  · simp [own, Submission.prompt?]
  · simp [own]

theorem savePrompt_saves {number : Int} {text : String} {occasion : Occasion}
    {store after : Store} {stored : Stored} (sound : store.Sound)
    (apart : store.promptPlaces.Nodup)
    (ran : (savePrompt number text occasion).run store = .ok (stored, after)) :
    store.SavesPrompt number text occasion stored after := by
  obtain ⟨observations, summaries, written⟩ := savePrompt_cases ran
  have session := savePrompt_session ran
  refine ⟨?_, ?_, ?_, ?_, observations, summaries⟩
  · intro p live own
    have found := (prompt?_iff apart).mpr ⟨live, own⟩
    rcases written with ⟨q, known, answered, rows⟩ | ⟨absent, -, -⟩
    · cases Option.some.inj (known.symm.trans found)
      refine ⟨answered, ?_⟩
      rw [rows, Table.update]
      apply List.map_congr_left
      intro row present
      have once := sound.nodup .prompt
      rw [ids_prompt] at once
      have same : Row.id row ∈ [p.id] ↔ row = p := by
        rw [List.mem_singleton]
        constructor
        · intro named
          exact List.inj_on_of_nodup_map once present live named
        · intro itself
          rw [itself]
          rfl
      by_cases itself : row = p
      · subst itself
        simp only [same, if_true]
      · simp only [same, itself, if_false]
    · rw [absent] at found
      cases found
  · intro free
    have unknown := prompt?_eq_none_iff.mpr free
    rcases written with ⟨q, known, -, -⟩ | ⟨-, answered, rows⟩
    · rw [unknown] at known
      cases known
    · exact ⟨answered, rows⟩
  · refine ⟨(store.opened occasion (some text)).numbered (some number), ?_, ?_, ?_⟩
    · rw [session, if_pos rfl]
    · exact store.opened_userPrompt occasion text
    · exact Session.numbered_atLeast number _
  · intro key other
    rw [session, if_neg other]

theorem savePrompt_places {number : Int} {text : String} {occasion : Occasion}
    {store after : Store} {stored : Stored} (apart : store.promptPlaces.Nodup)
    (ran : (savePrompt number text occasion).run store = .ok (stored, after)) :
    after.promptPlaces.Nodup := by
  obtain ⟨-, -, written⟩ := savePrompt_cases ran
  rcases written with ⟨p, -, -, rows⟩ | ⟨absent, -, rows⟩
  · have same := Table.map_update Prompt.place store.prompts [p.id]
      ({ · with text, tokens := occasion.tokens }) fun _ => rfl
    rw [promptPlaces, rows, same]
    exact apart
  · rw [promptPlaces, rows, List.map_append]
    apply List.nodup_append.mpr
    refine ⟨apart, List.pairwise_singleton _ _, ?_⟩
    intro place old other new same
    rw [List.map_singleton, List.mem_singleton] at new
    subst same
    rw [new] at old
    exact prompt?_eq_none_iff.mp absent old

theorem transaction_places {submission : Submission} {occasion : Occasion}
    {store after : Store} {stored : Stored} (apart : store.promptPlaces.Nodup)
    (ran : (submission.transaction occasion).run store = .ok (stored, after)) :
    after.promptPlaces.Nodup := by
  cases submission with
  | prompt number text => exact savePrompt_places apart ran
  | observation draft number | newObservation draft number =>
      cases Submission.transaction_writes ran with
      | observation draft number kind scope room id written summaries prompts =>
          rw [promptPlaces, prompts]
          exact apart
  | summary content number =>
      cases Submission.transaction_writes ran with
      | observation draft number kind scope room id written summaries prompts => cases kind
      | summary content number room id written observations prompts =>
          rw [promptPlaces, prompts]
          exact apart

theorem promptPlaces_delete (store : Store) (ids : List Int) (kind : RecordKind) :
    (store.delete ids kind).promptPlaces.Sublist store.promptPlaces := by
  cases kind with
  | observation | summary => exact List.Sublist.refl _
  | prompt => exact List.filter_sublist.map _

theorem Amends.promptPlaces {before after : Store} (amends : before.Amends after) :
    after.promptPlaces = before.promptPlaces := by
  cases amends with
  | sessions sessions last => rfl
  | observations ids change label => rfl
  | prompts ids change label place =>
      exact Table.map_update Prompt.place _ ids change fun p => Prod.ext (place p).1 (place p).2

end Store

namespace Engine

theorem promptPlaces_after (engine : Engine) (operations : List Operation)
    (apart : engine.store.promptPlaces.Nodup) :
    (engine.after operations).store.promptPlaces.Nodup := by
  apply after_keeps (·.promptPlaces.Nodup) _ _ _ engine operations apart
  · intro submission occasion store after stored apart ran
    exact Store.transaction_places apart ran
  · intro before after amends apart
    rw [amends.promptPlaces]
    exact apart
  · intro store ids kind apart
    exact apart.sublist (store.promptPlaces_delete ids kind)

/-- Whatever became of the places before, also when a prompt was evicted or deleted there. -/
theorem prompts_are_upserted (engine : Engine) (operations : List Operation)
    (empty : engine.store = {}) :
    let store := (engine.after operations).store
    store.promptPlaces.Nodup ∧
    ∀ (settings : RetentionSettings) (number : Int) (text : String) (occasion : Occasion)
      (stored : Stored),
      let written := store.writePrompt settings number text occasion
      let saved := (store.commit (Store.savePrompt number text occasion)).1
      written.result = .ok stored →
        written.store = (saved.passAfterWrite settings .prompt .everywhere).1 ∧
        saved.promptPlaces.Nodup ∧
        store.SavesPrompt number text occasion stored saved ∧
        ((occasion.sessionKey, number) ∉ store.promptPlaces →
          ∀ id ∈ handedOutIn (engine.history operations) .prompt, id < stored.id) := by
  intro store
  have sound : store.Sound := engine.after_sound operations (by rw [empty]; exact Store.sound_empty)
  have apart : store.promptPlaces.Nodup := by
    apply engine.promptPlaces_after operations
    rw [empty]
    exact List.nodup_nil
  refine ⟨apart, ?_⟩
  intro settings number text occasion stored written saved answered
  cases ran : (Store.savePrompt number text occasion).run store with
  | error failure =>
      simp only [written, Store.writePrompt, Store.writeInto, Store.commit, ran] at answered
      cases answered
  | ok pair =>
      obtain ⟨handed, after⟩ := pair
      have committed : saved = after := by
        simp only [saved, Store.commit, ran]
      simp only [written, Store.writePrompt, Store.writeInto, Store.commit, ran] at answered ⊢
      cases answered
      rw [committed]
      have saves := Store.savePrompt_saves sound apart ran
      refine ⟨rfl, Store.savePrompt_places apart ran, saves, ?_⟩
      intro free id old
      have bound := (account_of_run engine operations .prompt empty).2 id old
      rw [(saves.added free).1]
      change id < ((store.prompts.lastId + 1 : Nat) : Int)
      change id ≤ (store.prompts.lastId : Int) at bound
      omega

def resaving : List Operation :=
  let occasion (project : String) (now : Int) : Occasion :=
    { sessionKey := "session", project, now }
  [.store (.prompt 1 "what?") (occasion "one" 1), .delete .prompt [1],
    .record (.prompt 1 "which?") (occasion "two" 2), .amend (.updateMatchedCount 2 7)]

theorem resaving_upserts :
    let store := (Engine.after {} resaving).store
    let occasion : Occasion :=
      { sessionKey := "session", project := "three", tokens := 5, now := 3 }
    let resaved := (store.commit (Store.savePrompt 1 "why?" occasion)).1
    let first := (store.commit (Store.savePrompt 0 "who?" occasion)).1
    store.promptPlaces.Nodup ∧
    store.SavesPrompt 1 "why?" occasion ⟨2, 2⟩ resaved ∧
    store.SavesPrompt 0 "who?" occasion ⟨3, 3⟩ first ∧
    ∀ id ∈ handedOutIn (Engine.history {} resaving) .prompt, id < 3 := by
  intro store occasion resaved first
  obtain ⟨apart, upserts⟩ := prompts_are_upserted {} resaving rfl
  have one : (store.writePrompt {} 1 "why?" occasion).result = .ok ⟨2, 2⟩ := by decide +kernel
  have two : (store.writePrompt {} 0 "who?" occasion).result = .ok ⟨3, 3⟩ := by decide +kernel
  have free : ("session", (0 : Int)) ∉ store.promptPlaces := by decide +kernel
  obtain ⟨-, -, saved, -⟩ := upserts {} 1 "why?" occasion ⟨2, 2⟩ one
  obtain ⟨-, -, added, fresh⟩ := upserts {} 0 "who?" occasion ⟨3, 3⟩ two
  exact ⟨apart, saved, added, fresh free⟩

end Engine

end Recall
