import Mathlib.Data.List.Induction
import Mathlib.Data.List.Nodup
import Recall.Proofs.Effects

namespace Recall

structure Observation.Continues (operations : List Operation) (o later : Observation) :
    Prop where
  fixed : later = { o with
    importance := later.importance, retrievalCount := later.retrievalCount
    lastRetrievedAt := later.lastRetrievedAt, superseded := later.superseded }
  superseded : o.superseded = true → later.superseded = true
  retrievalCount : o.retrievalCount ≤ later.retrievalCount
  importance : later.importance = o.importance ∨ ∃ value,
    .amend (.updateImportance o.id value) ∈ operations ∧
      later.importance = Store.storedImportance value

structure Prompt.Continues (operations : List Operation) (p later : Prompt) : Prop where
  fixed : later = { p with
    text := later.text, tokens := later.tokens, matchedObservations := later.matchedObservations }
  saved : (later.text = p.text ∧ later.tokens = p.tokens) ∨
    ∃ operation ∈ operations, ∃ occasion : Occasion,
      (operation = .record (.prompt p.number later.text) occasion ∨
        operation = .store (.prompt p.number later.text) occasion) ∧
      occasion.sessionKey = p.sessionKey ∧ occasion.tokens = later.tokens
  matched : later.matchedObservations = p.matchedObservations ∨
    .amend (.updateMatchedCount p.id later.matchedObservations) ∈ operations

namespace Observation.Continues

variable {operations others : List Operation} {o later last : Observation}

theorem refl (operations : List Operation) (o : Observation) : o.Continues operations o :=
  ⟨rfl, fun marked => marked, Nat.le_refl _, Or.inl rfl⟩

theorem id_eq (continues : o.Continues operations later) : later.id = o.id := by
  rw [continues.fixed]

theorem trans (first : o.Continues operations later) (second : later.Continues others last) :
    o.Continues (operations ++ others) last where
  fixed := by
    rw [second.fixed, first.fixed]
  superseded marked := second.superseded (first.superseded marked)
  retrievalCount := Nat.le_trans first.retrievalCount second.retrievalCount
  importance := by
    rcases second.importance with same | ⟨value, asked, set⟩
    · rw [same]
      exact first.importance.imp_right fun ⟨value, asked, set⟩ =>
        ⟨value, List.mem_append_left _ asked, set⟩
    · rw [first.id_eq] at asked
      exact Or.inr ⟨value, List.mem_append_right _ asked, set⟩

end Observation.Continues

namespace Prompt.Continues

variable {operations others : List Operation} {p later last : Prompt}

theorem refl (operations : List Operation) (p : Prompt) : p.Continues operations p :=
  ⟨rfl, Or.inl ⟨rfl, rfl⟩, Or.inl rfl⟩

theorem id_eq (continues : p.Continues operations later) : later.id = p.id := by
  rw [continues.fixed]

theorem trans (first : p.Continues operations later) (second : later.Continues others last) :
    p.Continues (operations ++ others) last where
  fixed := by
    rw [second.fixed, first.fixed]
  saved := by
    have number : later.number = p.number := by rw [first.fixed]
    have session : later.sessionKey = p.sessionKey := by rw [first.fixed]
    rcases second.saved with ⟨text, tokens⟩ | ⟨operation, member, occasion, asked, own, cost⟩
    · rw [text, tokens]
      exact first.saved.imp_right fun ⟨operation, member, saves⟩ =>
        ⟨operation, List.mem_append_left _ member, saves⟩
    · rw [number] at asked
      rw [session] at own
      exact Or.inr ⟨operation, List.mem_append_right _ member, occasion, asked, own, cost⟩
  matched := by
    rcases second.matched with same | asked
    · rw [same]
      exact first.matched.imp_right (List.mem_append_left _)
    · rw [first.id_eq] at asked
      exact Or.inr (List.mem_append_right _ asked)

end Prompt.Continues

/-- Every row goes back to a row of its id, as the relation allows, or has come since. -/
structure Table.Evolves [Row α] (relation : α → α → Prop) (before after : Table α) : Prop where
  lastId : before.lastId ≤ after.lastId
  rows : ∀ later ∈ after.rows,
    (∃ earlier ∈ before.rows, Row.id earlier = Row.id later ∧ relation earlier later) ∨
      (before.lastId : Int) < Row.id later

namespace Table

variable [Row α] {relation : α → α → Prop}

theorem Evolves.refl (same : ∀ row, relation row row) (table : Table α) :
    table.Evolves relation table :=
  ⟨Nat.le_refl _, fun row member => Or.inl ⟨row, member, rfl, same row⟩⟩

theorem Evolves.trans {first second whole : α → α → Prop} {before middle after : Table α}
    (one : before.Evolves first middle) (two : middle.Evolves second after)
    (compose : ∀ a b c, first a b → second b c → whole a c) :
    before.Evolves whole after where
  lastId := Nat.le_trans one.lastId two.lastId
  rows := by
    have grown := one.lastId
    intro last member
    rcases two.rows last member with ⟨later, present, same, next⟩ | new
    · rcases one.rows later present with ⟨row, start, own, goes⟩ | new
      · exact Or.inl ⟨row, start, own.trans same, compose row later last goes next⟩
      · rw [same] at new
        exact Or.inr new
    · exact Or.inr (by omega)

theorem evolves_update (same : ∀ row, relation row row) (table : Table α) (ids : List Int)
    {change : α → α}
    (allowed : ∀ row ∈ table.rows, Row.id row ∈ ids → relation row (change row))
    (fixed : ∀ row, Row.id (change row) = Row.id row) :
    table.Evolves relation (table.update ids change) where
  lastId := Nat.le_refl _
  rows := by
    intro later member
    obtain ⟨row, present, rfl⟩ := List.mem_map.mp member
    refine Or.inl ⟨row, present, ?_⟩
    split
    · rename_i named
      exact ⟨(fixed row).symm, allowed row present named⟩
    · exact ⟨rfl, same row⟩

theorem evolves_remove (same : ∀ row, relation row row) (table : Table α) (ids : List Int) :
    table.Evolves relation (table.remove ids) :=
  ⟨Nat.le_refl _, fun row member => Or.inl ⟨row, List.mem_of_mem_filter member, rfl, same row⟩⟩

theorem evolves_insert (same : ∀ row, relation row row) (table : Table α) {make : Int → α}
    (named : ∀ id, Row.id (make id) = id) : table.Evolves relation (table.insert make) where
  lastId := Nat.le_succ _
  rows := by
    intro later member
    rcases List.mem_append.mp member with old | new
    · exact Or.inl ⟨later, old, rfl, same later⟩
    · rw [List.mem_singleton.mp new, named]
      exact Or.inr (Int.ofNat_lt.mpr (Nat.lt_succ_self _))

theorem Evolves.relates {before after : Table α} (evolves : before.Evolves relation after)
    {ids : List Int} (own : ids = before.rows.map Row.id) (once : ids.Nodup)
    (bounds : ∀ id ∈ ids, 0 < id ∧ id ≤ before.lastId) {row later : α}
    (live : row ∈ before.rows) (present : later ∈ after.rows)
    (same : Row.id later = Row.id row) : relation row later := by
  subst own
  rcases evolves.rows later present with ⟨earlier, old, named, continues⟩ | new
  · rwa [List.inj_on_of_nodup_map once old live (named.trans same)] at continues
  · have known := (bounds (Row.id row) (List.mem_map_of_mem live)).2
    omega

theorem Evolves.id_cases {before after : Table α} (evolves : before.Evolves relation after)
    {id : Int} (member : id ∈ after.rows.map Row.id) :
    id ∈ before.rows.map Row.id ∨ (before.lastId : Int) < id := by
  obtain ⟨later, present, rfl⟩ := List.mem_map.mp member
  rcases evolves.rows later present with ⟨earlier, old, own, -⟩ | new
  · exact Or.inl (own ▸ List.mem_map_of_mem old)
  · exact Or.inr new

end Table

structure Store.Evolves (operations : List Operation) (before after : Store) : Prop where
  observations : before.observations.Evolves (Observation.Continues operations)
    after.observations
  summaries : before.summaries.Evolves (· = ·) after.summaries
  prompts : before.prompts.Evolves (Prompt.Continues operations) after.prompts

namespace Store

variable {operations others : List Operation}

theorem evolves_of_same {before after : Store}
    (observations : after.observations = before.observations)
    (summaries : after.summaries = before.summaries) (prompts : after.prompts = before.prompts) :
    before.Evolves operations after where
  observations := observations ▸ .refl (.refl operations) _
  summaries := summaries ▸ .refl (fun _ => rfl) _
  prompts := prompts ▸ .refl (.refl operations) _

theorem Evolves.trans {first second third : Store} (one : first.Evolves operations second)
    (two : second.Evolves others third) : first.Evolves (operations ++ others) third where
  observations := one.observations.trans two.observations fun _ _ _ => .trans
  summaries := one.summaries.trans two.summaries fun _ _ _ => .trans
  prompts := one.prompts.trans two.prompts fun _ _ _ => .trans

theorem evolves_delete (operations : List Operation) (store : Store) (ids : List Int)
    (kind : RecordKind) : store.Evolves operations (store.delete ids kind) := by
  have start : store.Evolves operations store := evolves_of_same rfl rfl rfl
  cases kind with
  | observation => exact { start with observations := Table.evolves_remove (.refl _) _ ids }
  | summary => exact { start with summaries := Table.evolves_remove (fun _ => rfl) _ ids }
  | prompt => exact { start with prompts := Table.evolves_remove (.refl _) _ ids }

theorem Evolves.id_cases {before after : Store} (evolves : before.Evolves operations after)
    (kind : RecordKind) {id : Int} (member : id ∈ after.ids kind) :
    id ∈ before.ids kind ∨ (before.lastId kind : Int) < id := by
  cases kind with
  | observation =>
      rw [ids_observation] at member ⊢
      exact evolves.observations.id_cases member
  | summary =>
      rw [ids_summary] at member ⊢
      exact evolves.summaries.id_cases member
  | prompt =>
      rw [ids_prompt] at member ⊢
      exact evolves.prompts.id_cases member

theorem Evolves.lastId_le {before after : Store} (evolves : before.Evolves operations after)
    (kind : RecordKind) : before.lastId kind ≤ after.lastId kind := by
  cases kind with
  | observation => exact evolves.observations.lastId
  | summary => exact evolves.summaries.lastId
  | prompt => exact evolves.prompts.lastId

theorem evolves_updateObservations (store : Store) (ids : List Int)
    {change : Observation → Observation}
    (allowed : ∀ o : Observation, o.id ∈ ids → o.Continues operations (change o))
    (fixed : ∀ o, (change o).id = o.id) : store.Evolves operations { store with
      observations := store.observations.update ids change } := by
  have start : store.Evolves operations store := evolves_of_same rfl rfl rfl
  exact { start with
    observations := store.observations.evolves_update (.refl _) ids (fun o _ => allowed o) fixed }

end Store

theorem Store.Sound.prompt?_eq {store : Store} (sound : store.Sound) {key : String} {number : Int}
    {p row : Prompt} (found : store.prompt? key number = some p)
    (live : row ∈ store.prompts.rows) (same : row.id = p.id) :
    row.sessionKey = key ∧ row.number = number := by
  have once := sound.nodup .prompt
  rw [ids_prompt] at once
  rw [List.inj_on_of_nodup_map once live (List.mem_of_find?_eq_some found) same]
  simpa using List.find?_some found

namespace Submission

theorem transaction_evolves {submission : Submission} {occasion : Occasion}
    {store after : Store} {stored : Stored} {operation : Operation} (sound : store.Sound)
    (asked : operation = .record submission occasion ∨ operation = .store submission occasion)
    (ran : (submission.transaction occasion).run store = .ok (stored, after)) :
    store.Evolves [operation] after := by
  have start : store.Evolves [operation] store := Store.evolves_of_same rfl rfl rfl
  cases submission with
  | observation draft number | newObservation draft number =>
      obtain ⟨session, opened, first, ran⟩ := Transaction.bind_ok ran
      obtain ⟨sessions, last, rfl⟩ := Store.upsertSession_ok first
      obtain ⟨-, -, rfl⟩ := insertObservation_ok ran
      exact { start with
        observations := store.observations.evolves_insert (.refl _) fun _ => rfl }
  | summary content number =>
      obtain ⟨session, opened, first, ran⟩ := Transaction.bind_ok ran
      obtain ⟨sessions, last, rfl⟩ := Store.upsertSession_ok first
      obtain ⟨-, -, rfl⟩ := insertSummary_ok ran
      exact { start with
        summaries := store.summaries.evolves_insert (fun _ => rfl) fun _ => rfl }
  | prompt number text =>
      obtain ⟨session, opened, first, ran⟩ := Transaction.bind_ok ran
      obtain ⟨sessions, last, rfl⟩ := Store.upsertSession_ok first
      obtain ⟨found, saved, second, ran⟩ := Transaction.bind_ok ran
      cases ran
      obtain ⟨-, ⟨-, -, rfl⟩ | ⟨p, known, id, rfl⟩⟩ := upsertPrompt_ok second
      · exact { start with prompts := store.prompts.evolves_insert (.refl _) fun _ => rfl }
      · have saves : ∀ row ∈ store.prompts.rows, row.id ∈ [stored.id] →
            row.Continues [operation] { row with text, tokens := occasion.tokens } := by
          intro row live named
          obtain ⟨own, numbered⟩ := sound.prompt?_eq known live
            ((List.mem_singleton.mp named).trans id)
          refine ⟨rfl, Or.inr ⟨operation, List.mem_singleton_self _, occasion, ?_, own.symm, rfl⟩,
            Or.inl rfl⟩
          rw [numbered]
          exact asked
        have replaced := store.prompts.evolves_update
          (Prompt.Continues.refl [operation]) [stored.id] saves fun _ => rfl
        exact { start with
          prompts := ⟨Nat.le_succ_of_le replaced.lastId, replaced.rows⟩ }

end Submission

theorem Store.evolves_recordRetrieval (operations : List Operation) (store : Store)
    (ids : List Int) (now : Int) : store.Evolves operations (store.recordRetrieval ids now) :=
  store.evolves_updateObservations ids
    (fun _ _ => ⟨rfl, fun marked => marked, Nat.le_add_right _ _, Or.inl rfl⟩) fun _ => rfl

theorem Amendment.evolves (store : Store) (amendment : Amendment) :
    store.Evolves [.amend amendment] (amendment.apply store).1 := by
  cases amendment with
  | createSession occasion prompt =>
      simp only [apply, Store.commit]
      split
      · rename_i ran
        obtain ⟨sessions, last, rfl⟩ := Store.upsertSession_ok ran
        exact Store.evolves_of_same rfl rfl rfl
      · exact Store.evolves_of_same rfl rfl rfl
  | completeSession key status now => exact Store.evolves_of_same rfl rfl rfl
  | incrementPromptCounter key =>
      simp only [apply, Store.incrementPromptCounter]
      split <;> exact Store.evolves_of_same rfl rfl rfl
  | markSuperseded ids =>
      exact store.evolves_updateObservations ids
        (fun _ _ => ⟨rfl, fun _ => rfl, Nat.le_refl _, Or.inl rfl⟩) fun _ => rfl
  | recordRetrieval ids now => exact store.evolves_recordRetrieval _ ids now
  | updateImportance id importance =>
      have set (o : Observation) (named : o.id ∈ [id]) :
          o.Continues [.amend (.updateImportance id importance)]
            { o with importance := Store.storedImportance importance } := by
        rw [← List.mem_singleton.mp named]
        exact ⟨rfl, fun marked => marked, Nat.le_refl _,
          Or.inr ⟨importance, List.mem_singleton_self _, rfl⟩⟩
      simp only [apply, Store.commit, Store.updateImportance, StateT.run]
      split
      · rename_i ran
        split at ran <;> cases ran
        exact store.evolves_updateObservations [id] set fun _ => rfl
      · exact Store.evolves_of_same rfl rfl rfl
  | updateMatchedCount id matched =>
      have set (p : Prompt) (_ : p ∈ store.prompts.rows) (named : p.id ∈ [id]) :
          p.Continues [.amend (.updateMatchedCount id matched)]
            { p with matchedObservations := matched } := by
        rw [← List.mem_singleton.mp named]
        exact ⟨rfl, Or.inl ⟨rfl, rfl⟩, Or.inr (List.mem_singleton_self _)⟩
      have start : store.Evolves [.amend (.updateMatchedCount id matched)] store :=
        Store.evolves_of_same rfl rfl rfl
      exact { start with
        prompts := store.prompts.evolves_update (.refl _) [id] set fun _ => rfl }

namespace Engine

theorem storeOnly_evolves {engine : Engine} {submission : Submission} {occasion : Occasion}
    {operation : Operation} (sound : engine.store.Sound)
    (asked : operation = .record submission occasion ∨ operation = .store submission occasion) :
    engine.store.Evolves [operation] (engine.storeOnly occasion submission).engine.store := by
  rcases engine.storeOnly_cases occasion submission with
    ⟨refused, whole, -⟩ | ⟨stored, mid, ids, ran, -, -, whole⟩
  · rw [whole]
    exact Store.evolves_of_same rfl rfl rfl
  · rw [whole, (engine.evicting_sameStore mid submission.kind ids).store]
    have written := Submission.transaction_evolves sound asked ran
    exact written.trans (Store.evolves_delete [] mid ids submission.kind)

theorem perform_evolves (engine : Engine) (operation : Operation) (sound : engine.store.Sound) :
    engine.store.Evolves [operation] (engine.perform operation).engine.store := by
  cases operation with
  | record submission occasion =>
      have same := (engine.record_sameStore occasion submission).1.store
      exact same ▸ storeOnly_evolves sound (Or.inl rfl)
  | store submission occasion => exact storeOnly_evolves sound (Or.inr rfl)
  | amend amendment => exact amendment.evolves engine.store
  | delete kind ids => exact Store.evolves_delete _ engine.store ids kind
  | cleanup kind pool =>
      simp only [perform]
      rcases engine.cleanup_cases kind pool with ⟨failure, whole⟩ | ⟨ids, -, whole⟩
      · rw [whole]
        exact Store.evolves_of_same rfl rfl rfl
      · rw [whole]
        have same := (engine.evicting_sameStore engine.store kind ids).store
        exact same ▸ Store.evolves_delete _ engine.store ids kind
  | search request now =>
      change engine.store.Evolves _
        (Search.run engine.store engine.searching engine.index request now).1
      rcases Search.run_cases engine.store engine.searching engine.index request now with
        same | ⟨ids, marked⟩
      · rw [same]
        exact Store.evolves_of_same rfl rfl rfl
      · rw [marked]
        exact engine.store.evolves_recordRetrieval _ ids now
  | reembed =>
      simp only [perform]
      split
      · rename_i after updated ran
        have same := (reembed_sameStore ran).store
        exact same ▸ Store.evolves_of_same rfl rfl rfl
      · exact Store.evolves_of_same rfl rfl rfl
  | embedWith embedder => exact Store.evolves_of_same rfl rfl rfl

theorem after_evolves (engine : Engine) (operations : List Operation)
    (sound : engine.store.Sound) :
    engine.store.Evolves operations (engine.after operations).store := by
  induction operations using List.reverseRecOn with
  | nil => exact Store.evolves_of_same rfl rfl rfl
  | append_singleton operations operation ih =>
      rw [after_concat]
      exact ih.trans (perform_evolves _ operation (engine.after_sound operations sound))

theorem after_append (engine : Engine) (earlier later : List Operation) :
    engine.after (earlier ++ later) = (engine.after earlier).after later :=
  List.foldl_append

/-- Whoever is live at two moments of a run is the same record at both, apart from what the
operations between them were asked to change. An id that is free at a moment stays free. -/
theorem records_are_permanent (engine : Engine) (earlier later : List Operation)
    (sound : engine.store.Sound) :
    (∀ o ∈ (engine.after earlier).store.observations.rows,
      ∀ now ∈ (engine.after (earlier ++ later)).store.observations.rows,
        now.id = o.id → o.Continues later now) ∧
    (∀ s ∈ (engine.after earlier).store.summaries.rows,
      ∀ now ∈ (engine.after (earlier ++ later)).store.summaries.rows,
        now.id = s.id → now = s) ∧
    (∀ p ∈ (engine.after earlier).store.prompts.rows,
      ∀ now ∈ (engine.after (earlier ++ later)).store.prompts.rows,
        now.id = p.id → p.Continues later now) ∧
    ∀ kind, ∀ id ∈ (engine.after earlier).store.ids kind,
      ∀ middle rest, middle ++ rest = later →
        id ∉ (engine.after (earlier ++ middle)).store.ids kind →
          id ∉ (engine.after (earlier ++ later)).store.ids kind := by
  have start := engine.after_sound earlier sound
  have evolves := (engine.after earlier).after_evolves later start
  rw [← after_append] at evolves
  refine ⟨?_, ?_, ?_, ?_⟩
  · intro o live now present
    exact evolves.observations.relates (Store.ids_observation _) (start.nodup .observation)
      (start.bounds .observation) live present
  · intro s live now present same
    exact (evolves.summaries.relates (Store.ids_summary _) (start.nodup .summary)
      (start.bounds .summary) live present same).symm
  · intro p live now present
    exact evolves.prompts.relates (Store.ids_prompt _) (start.nodup .prompt)
      (start.bounds .prompt) live present
  · rintro kind id live middle rest rfl gone again
    have before := (engine.after earlier).after_evolves middle start
    have after := (engine.after (earlier ++ middle)).after_evolves rest
      (engine.after_sound (earlier ++ middle) sound)
    rw [← after_append] at before after
    rw [← List.append_assoc] at again
    have known := (start.bounds kind id live).2
    have grown := before.lastId_le kind
    rcases after.id_cases kind again with there | new
    · exact gone there
    · omega

end Engine

def drafted : List Operation :=
  let occasion : Occasion := { sessionKey := "session", project := "project", now := 1 }
  [.store (.observation { content := { type := .decision, title := some "plan" } } none) occasion,
    .store (.summary { request := some "plan" } none) occasion,
    .store (.prompt 1 "draft the plan") occasion]

def revised : List Operation :=
  let occasion : Occasion := { sessionKey := "session", project := "elsewhere", now := 2 }
  [.amend (.updateImportance 1 2),
    .amend (.markSuperseded [1]),
    .delete .summary [1],
    .store (.summary { request := some "plan" } none) occasion,
    .store (.prompt 1 "revise the plan") occasion]

theorem revised_are_permanent : ({} : Engine).store.Sound ∧
    (∃ o ∈ (({} : Engine).after drafted).store.observations.rows,
      ∃ now ∈ (({} : Engine).after (drafted ++ revised)).store.observations.rows,
        now.superseded = true ∧ o.Continues revised now) ∧
    (∃ p ∈ (({} : Engine).after drafted).store.prompts.rows,
      ∃ now ∈ (({} : Engine).after (drafted ++ revised)).store.prompts.rows,
        now.text = "revise the plan" ∧ p.Continues revised now) ∧
    1 ∈ (({} : Engine).after drafted).store.ids .summary ∧
    1 ∉ (({} : Engine).after (drafted ++ revised)).store.ids .summary := by
  obtain ⟨observations, -, prompts, ids⟩ :=
    Engine.records_are_permanent {} drafted revised Store.sound_empty
  have there : 1 ∈ (({} : Engine).after drafted).store.ids .summary := by decide +kernel
  have gone : 1 ∉ (({} : Engine).after (drafted ++ revised.take 3)).store.ids .summary := by
    decide +kernel
  refine ⟨Store.sound_empty, ?_, ?_, there, ids .summary 1 there (revised.take 3)
    (revised.drop 3) (List.take_append_drop 3 revised) gone⟩
  · obtain ⟨o, live, named⟩ : ∃ o ∈ (({} : Engine).after drafted).store.observations.rows,
        o.id = 1 := by decide +kernel
    obtain ⟨now, present, same, marked⟩ :
        ∃ now ∈ (({} : Engine).after (drafted ++ revised)).store.observations.rows,
          now.id = 1 ∧ now.superseded = true := by decide +kernel
    exact ⟨o, live, now, present, marked,
      observations o live now present (same.trans named.symm)⟩
  · obtain ⟨p, live, named⟩ : ∃ p ∈ (({} : Engine).after drafted).store.prompts.rows,
        p.id = 1 := by decide +kernel
    obtain ⟨now, present, same, text⟩ :
        ∃ now ∈ (({} : Engine).after (drafted ++ revised)).store.prompts.rows,
          now.id = 1 ∧ now.text = "revise the plan" := by decide +kernel
    exact ⟨p, live, now, present, text, prompts p live now present (same.trans named.symm)⟩

end Recall
