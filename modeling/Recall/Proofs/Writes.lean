import Recall.Proofs.Labels

namespace Recall

theorem Table.map_update [Row α] (view : α → β) (table : Table α) (ids : List Int)
    (change : α → α) (fixed : ∀ row, view (change row) = view row) :
    (table.update ids change).rows.map view = table.rows.map view := by
  simp only [Table.update, List.map_map]
  apply List.map_congr_left
  intro row _
  simp only [Function.comp_apply]
  split
  · exact fixed row
  · rfl

theorem Transaction.bind_ok {first : Transaction α} {next : α → Transaction β} {store : Store}
    {result : β} {after : Store} (ran : (first >>= next).run store = .ok (result, after)) :
    ∃ value mid, first.run store = .ok (value, mid) ∧ (next value).run mid = .ok (result, after) := by
  rw [StateT.run_bind] at ran
  cases reached : first.run store with
  | error failure =>
      rw [reached] at ran
      cases ran
  | ok pair =>
      rw [reached] at ran
      exact ⟨pair.1, pair.2, rfl, ran⟩

namespace Store

theorem keeps_sessions (store : Store) (sessions : List Session) (lastSessionId : Nat) :
    store.Keeps { store with sessions, lastSessionId } :=
  ⟨fun kind => by cases kind <;> rfl, fun kind => by cases kind <;> exact Nat.le_refl _,
    fun kind within => by cases kind <;> exact within⟩

theorem keeps_updateObservations (store : Store) (ids : List Int)
    (change : Observation → Observation) (fixed : ∀ o, (change o).label = o.label) :
    store.Keeps { store with observations := store.observations.update ids change } where
  labels kind := by
    cases kind with
    | observation => exact Table.map_update _ _ ids change fixed
    | summary => rfl
    | prompt => rfl
  lastId kind := by cases kind <;> exact Nat.le_refl _
  inRange kind within := by cases kind <;> exact within

theorem keeps_updatePrompts (store : Store) (ids : List Int) (change : Prompt → Prompt)
    (fixed : ∀ p, (change p).label = p.label) :
    store.Keeps { store with prompts := store.prompts.update ids change } where
  labels kind := by
    cases kind with
    | observation => rfl
    | summary => rfl
    | prompt => exact Table.map_update _ _ ids change fixed
  lastId kind := by cases kind <;> exact Nat.le_refl _
  inRange kind within := by cases kind <;> exact within

theorem upsertSession_ok {occasion : Occasion} {prompt : Option String} {store after : Store}
    {id : Nat} (ran : (upsertSession occasion prompt).run store = .ok (id, after)) :
    ∃ sessions lastSessionId, after = { store with sessions, lastSessionId } := by
  simp only [upsertSession, StateT.run] at ran
  split at ran
  · cases ran
  · split at ran
    · cases ran
    · split at ran <;> cases ran <;> exact ⟨_, _, rfl⟩

inductive Amends (before : Store) : Store → Prop
  | sessions (sessions : List Session) (lastSessionId : Nat) :
      Amends before { before with sessions, lastSessionId }
  | observations (ids : List Int) (change : Observation → Observation)
      (label : ∀ o, (change o).label = o.label) :
      Amends before { before with observations := before.observations.update ids change }
  | prompts (ids : List Int) (change : Prompt → Prompt) (label : ∀ p, (change p).label = p.label)
      (place : ∀ p, (change p).sessionKey = p.sessionKey ∧ (change p).number = p.number) :
      Amends before { before with prompts := before.prompts.update ids change }

theorem Amends.refl (store : Store) : store.Amends store :=
  .sessions store.sessions store.lastSessionId

theorem Amends.keeps {before after : Store} (amends : before.Amends after) :
    before.Keeps after := by
  cases amends with
  | sessions sessions last => exact before.keeps_sessions sessions last
  | observations ids change label => exact before.keeps_updateObservations ids change label
  | prompts ids change label place => exact before.keeps_updatePrompts ids change label

end Store

theorem Amendment.amends (store : Store) (amendment : Amendment) :
    store.Amends (amendment.apply store).1 := by
  cases amendment with
  | createSession occasion prompt =>
      simp only [apply, Store.commit]
      split
      · rename_i ran
        obtain ⟨sessions, last, rfl⟩ := Store.upsertSession_ok ran
        exact .sessions sessions last
      · exact .refl store
  | completeSession key status now => exact .sessions _ store.lastSessionId
  | incrementPromptCounter key =>
      simp only [apply, Store.incrementPromptCounter]
      split
      · exact .refl store
      · exact .sessions _ store.lastSessionId
  | markSuperseded ids => exact .observations ids _ fun _ => rfl
  | recordRetrieval ids now => exact .observations ids _ fun _ => rfl
  | updateImportance id importance =>
      simp only [apply, Store.commit, Store.updateImportance, StateT.run]
      split
      · rename_i ran
        split at ran
        · cases ran
        · cases ran
          exact .observations [id] _ fun _ => rfl
      · exact .refl store
  | updateMatchedCount id matched =>
      exact .prompts [id] _ (fun _ => rfl) fun _ => ⟨rfl, rfl⟩

theorem Amendment.keeps (store : Store) (amendment : Amendment) :
    store.Keeps (amendment.apply store).1 :=
  (amendment.amends store).keeps

theorem Answer.map_ne {result : Except Failure α} {write : α → Answer} {answer : Answer}
    (differs : ∀ value, write value ≠ answer) : result.map write ≠ .ok answer := by
  cases result with
  | error failure =>
      intro same
      cases same
  | ok value =>
      intro same
      exact differs value (Except.ok.inj same)

theorem Amendment.not_stored (store : Store) (amendment : Amendment) (stored : Stored) :
    (amendment.apply store).2 ≠ .ok (.stored (some stored)) := by
  cases amendment with
  | createSession occasion prompt => exact Answer.map_ne fun id same => by cases same
  | incrementPromptCounter key => exact Answer.map_ne fun counter same => by cases same
  | updateImportance id importance => exact Answer.map_ne fun known same => by cases same
  | completeSession key status now | markSuperseded ids | recordRetrieval ids now
  | updateMatchedCount id matched =>
      intro same
      cases same

theorem Search.run_cases (store : Store) (settings : SearchSettings)
    (index : Option VectorIndex) (request : SearchRequest) (now : Int) :
    (Search.run store settings index request now).1 = store ∨
      ∃ ids, (Search.run store settings index request now).1 = store.recordRetrieval ids now := by
  simp only [Search.run]
  split
  · exact Or.inl rfl
  · dsimp only
    split
    · exact Or.inl rfl
    · exact Or.inr ⟨_, rfl⟩

theorem Search.run_amends (store : Store) (settings : SearchSettings)
    (index : Option VectorIndex) (request : SearchRequest) (now : Int) :
    store.Amends (Search.run store settings index request now).1 := by
  rcases Search.run_cases store settings index request now with same | ⟨ids, marked⟩
  · rw [same]
    exact .refl store
  · rw [marked]
    exact Amendment.amends store (.recordRetrieval ids now)

namespace Submission

def scope : Submission → Option Scope
  | observation draft _ | newObservation draft _ => some draft.resolvedScope
  | summary _ _ => none
  | prompt _ _ => none

def transaction (occasion : Occasion) : Submission → Transaction Stored
  | observation draft number | newObservation draft number =>
    Store.storeObservation draft number occasion
  | summary content number => Store.storeSummary content number occasion
  | prompt number text => Store.savePrompt number text occasion

/-- What a stored submission does to the tables. Only a prompt can replace an earlier one, and
that uses up an id too. -/
inductive Writes (occasion : Occasion) (before after : Store) (stored : Stored) :
    Submission → Prop
  | observation {submission : Submission} (draft : ObservationDraft) (number : Option Int)
      (kind : submission.kind = .observation) (scope : submission.scope = draft.resolvedScope)
      (room : before.observations.lastId + 1 < Number.signedBound)
      (id : stored.id = (before.observations.lastId + 1 : Nat))
      (written : after.observations =
        before.observations.insert (Store.observationOf draft number occasion))
      (summaries : after.summaries = before.summaries) (prompts : after.prompts = before.prompts) :
      Writes occasion before after stored submission
  | summary (content : SummaryContent) (number : Option Int)
      (room : before.summaries.lastId + 1 < Number.signedBound)
      (id : stored.id = (before.summaries.lastId + 1 : Nat))
      (written : after.summaries =
        before.summaries.insert (Store.summaryOf content number occasion))
      (observations : after.observations = before.observations)
      (prompts : after.prompts = before.prompts) :
      Writes occasion before after stored (.summary content number)
  | newPrompt (number : Int) (text : String)
      (room : before.prompts.lastId + 1 < Number.signedBound)
      (id : stored.id = (before.prompts.lastId + 1 : Nat))
      (written : after.prompts = before.prompts.insert (Store.promptOf number text occasion))
      (observations : after.observations = before.observations)
      (summaries : after.summaries = before.summaries) :
      Writes occasion before after stored (.prompt number text)
  | savedPrompt (number : Int) (text : String)
      (room : before.prompts.lastId + 1 < Number.signedBound)
      (present : stored.id ∈ before.ids .prompt)
      (written : after.prompts = {
        before.prompts.update [stored.id] ({ · with text, tokens := occasion.tokens }) with
        lastId := before.prompts.lastId + 1 })
      (observations : after.observations = before.observations)
      (summaries : after.summaries = before.summaries) :
      Writes occasion before after stored (.prompt number text)

theorem insertObservation_ok {draft : ObservationDraft} {number : Option Int}
    {occasion : Occasion} {store after : Store} {stored : Stored}
    (ran : (Store.insertObservation draft number occasion).run store = .ok (stored, after)) :
    store.observations.lastId + 1 < Number.signedBound ∧
      stored.id = (store.observations.lastId + 1 : Nat) ∧ after = { store with
        observations := store.observations.insert
          (Store.observationOf draft number occasion) } := by
  simp only [Store.insertObservation, StateT.run] at ran
  split at ran
  · cases ran
  · split at ran
    · cases ran
    · rename_i below
      cases ran
      simp only [noIdAfter, decide_eq_true_eq, Nat.not_le] at below
      exact ⟨below, rfl, rfl⟩

theorem insertSummary_ok {content : SummaryContent} {number : Option Int}
    {occasion : Occasion} {store after : Store} {stored : Stored}
    (ran : (Store.insertSummary content number occasion).run store = .ok (stored, after)) :
    store.summaries.lastId + 1 < Number.signedBound ∧
      stored.id = (store.summaries.lastId + 1 : Nat) ∧ after = { store with
        summaries := store.summaries.insert (Store.summaryOf content number occasion) } := by
  simp only [Store.insertSummary, StateT.run] at ran
  split at ran
  · cases ran
  · rename_i below
    cases ran
    simp only [noIdAfter, decide_eq_true_eq, Nat.not_le] at below
    exact ⟨below, rfl, rfl⟩

theorem upsertPrompt_ok {number : Int} {text : String} {occasion : Occasion}
    {store after : Store} {stored : Stored}
    (ran : (Store.upsertPrompt number text occasion).run store = .ok (stored, after)) :
    store.prompts.lastId + 1 < Number.signedBound ∧
    ((store.prompt? occasion.sessionKey number = none ∧
        stored.id = (store.prompts.lastId + 1 : Nat) ∧ after = { store with
        prompts := store.prompts.insert (Store.promptOf number text occasion) }) ∨
      ∃ p, store.prompt? occasion.sessionKey number = some p ∧ stored.id = p.id ∧
        after = { store with prompts := {
          store.prompts.update [stored.id] ({ · with text, tokens := occasion.tokens }) with
          lastId := store.prompts.lastId + 1 } }) := by
  simp only [Store.upsertPrompt, StateT.run] at ran
  split at ran
  · cases ran
  · rename_i below
    simp only [noIdAfter, decide_eq_true_eq, Nat.not_le] at below
    refine ⟨below, ?_⟩
    split at ran
    · rename_i p found
      cases ran
      exact Or.inr ⟨p, found, rfl, rfl⟩
    · rename_i absent
      cases ran
      exact Or.inl ⟨absent, rfl, rfl⟩

theorem prompt?_id_mem {store : Store} {key : String} {number : Int} {p : Prompt}
    (found : store.prompt? key number = some p) : p.id ∈ store.ids .prompt := by
  rw [Store.ids_prompt]
  exact List.mem_map_of_mem (List.mem_of_find?_eq_some found)

theorem transaction_writes {submission : Submission} {occasion : Occasion}
    {store after : Store} {stored : Stored}
    (ran : (submission.transaction occasion).run store = .ok (stored, after)) :
    submission.Writes occasion store after stored := by
  cases submission with
  | observation draft number | newObservation draft number =>
      obtain ⟨session, opened, first, ran⟩ := Transaction.bind_ok ran
      obtain ⟨sessions, last, rfl⟩ := Store.upsertSession_ok first
      obtain ⟨room, id, rfl⟩ := insertObservation_ok ran
      exact .observation draft number rfl rfl room id rfl rfl rfl
  | summary content number =>
      obtain ⟨session, opened, first, ran⟩ := Transaction.bind_ok ran
      obtain ⟨sessions, last, rfl⟩ := Store.upsertSession_ok first
      obtain ⟨room, id, rfl⟩ := insertSummary_ok ran
      exact .summary content number room id rfl rfl rfl
  | prompt number text =>
      obtain ⟨session, opened, first, ran⟩ := Transaction.bind_ok ran
      obtain ⟨sessions, last, rfl⟩ := Store.upsertSession_ok first
      obtain ⟨found, saved, second, ran⟩ := Transaction.bind_ok ran
      cases ran
      obtain ⟨room, ⟨-, id, rfl⟩ | ⟨p, known, id, rfl⟩⟩ := upsertPrompt_ok second
      · exact .newPrompt number text room id rfl rfl rfl
      · refine .savedPrompt number text room ?_ rfl rfl rfl
        rw [id]
        exact prompt?_id_mem known

def Stores (submission : Submission) (occasion : Occasion) (before : Store) (stored : Stored)
    (after : Store) : Prop :=
  (before.Keeps after ∧ stored.id ∈ before.ids submission.kind) ∨
    before.Adds submission.kind ⟨stored.id, occasion.project, submission.scope⟩ after

theorem Stores.sound {submission : Submission} {occasion : Occasion} {before after : Store}
    {stored : Stored} (stores : submission.Stores occasion before stored after)
    (sound : before.Sound) : after.Sound := by
  rcases stores with ⟨keeps, -⟩ | adds
  · exact keeps.sound sound
  · exact adds.sound sound

theorem Stores.lastId_le {submission : Submission} {occasion : Occasion} {before after : Store}
    {stored : Stored} (stores : submission.Stores occasion before stored after)
    (kind : RecordKind) : before.lastId kind ≤ after.lastId kind := by
  rcases stores with ⟨keeps, -⟩ | adds
  · exact keeps.lastId kind
  · exact adds.lastId_le kind

theorem Stores.present {submission : Submission} {occasion : Occasion} {before after : Store}
    {stored : Stored} (stores : submission.Stores occasion before stored after) :
    stored.id ∈ after.ids submission.kind := by
  rcases stores with ⟨keeps, present⟩ | adds
  · rw [keeps.ids]
    exact present
  · rw [adds.ids]
    exact List.mem_append_right _ (List.mem_singleton_self _)

theorem Stores.labels_cases {submission : Submission} {occasion : Occasion}
    {before after : Store} {stored : Stored}
    (stores : submission.Stores occasion before stored after) (kind : RecordKind) :
    after.labels kind = before.labels kind ∨
      ∃ label : Label, after.labels kind = before.labels kind ++ [label] ∧
        kind = submission.kind ∧ label.id = stored.id ∧ before.lastId kind < label.id := by
  rcases stores with ⟨keeps, -⟩ | adds
  · exact Or.inl (keeps.labels kind)
  · by_cases same : kind = submission.kind
    · subst same
      have next := adds.next
      exact Or.inr ⟨_, adds.labels, rfl, rfl, by omega⟩
    · exact Or.inl (adds.others kind same).1

theorem Writes.stores {submission : Submission} {occasion : Occasion} {before after : Store}
    {stored : Stored} (writes : submission.Writes occasion before after stored) :
    submission.Stores occasion before stored after := by
  cases writes with
  | observation draft number kind scope room id written summaries prompts =>
      refine Or.inr ⟨?_, ?_, ?_, ?_, ?_⟩
      · rw [kind, scope]
        simp only [Store.labels, written, Table.insert, List.map_append, id]
        rfl
      · rw [kind]
        exact id
      · simp only [kind, Store.lastId, written, Table.insert]
      · simp only [kind, Store.lastId, written, Table.insert]
        exact room
      · intro other differs
        cases other with
        | observation => exact absurd kind.symm differs
        | summary => simp only [Store.labels, Store.lastId, summaries, and_self]
        | prompt => simp only [Store.labels, Store.lastId, prompts, and_self]
  | summary content number room id written observations prompts =>
      refine Or.inr ⟨?_, id, ?_, ?_, ?_⟩
      · simp only [Submission.kind, Store.labels, written, Table.insert, List.map_append, id]
        rfl
      · simp only [Submission.kind, Store.lastId, written, Table.insert]
      · simp only [Submission.kind, Store.lastId, written, Table.insert]
        exact room
      · intro other differs
        cases other with
        | observation => simp only [Store.labels, Store.lastId, observations, and_self]
        | summary => exact absurd rfl differs
        | prompt => simp only [Store.labels, Store.lastId, prompts, and_self]
  | newPrompt number text room id written observations summaries =>
      refine Or.inr ⟨?_, id, ?_, ?_, ?_⟩
      · simp only [Submission.kind, Store.labels, written, Table.insert, List.map_append, id]
        rfl
      · simp only [Submission.kind, Store.lastId, written, Table.insert]
      · simp only [Submission.kind, Store.lastId, written, Table.insert]
        exact room
      · intro other differs
        cases other with
        | observation => simp only [Store.labels, Store.lastId, observations, and_self]
        | summary => simp only [Store.labels, Store.lastId, summaries, and_self]
        | prompt => exact absurd rfl differs
  | savedPrompt number text room present written observations summaries =>
      refine Or.inl ⟨⟨?_, ?_, ?_⟩, present⟩
      · intro kind
        cases kind with
        | observation => simp only [Store.labels, observations]
        | summary => simp only [Store.labels, summaries]
        | prompt =>
            simp only [Store.labels, written]
            exact Table.map_update _ _ [stored.id] _ fun _ => rfl
      · intro kind
        cases kind with
        | observation => simp only [Store.lastId, observations, Nat.le_refl]
        | summary => simp only [Store.lastId, summaries, Nat.le_refl]
        | prompt => simp only [Store.lastId, written, Nat.le_add_right]
      · intro kind within
        cases kind with
        | observation => simpa only [Store.lastId, observations] using within
        | summary => simpa only [Store.lastId, summaries] using within
        | prompt => simpa only [Store.lastId, written] using room

end Submission

end Recall
