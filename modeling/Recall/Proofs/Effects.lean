import Recall.Proofs.Submissions

namespace Recall

def Operation.submission? : Operation → Option Submission
  | record submission _ => some submission
  | store submission _ => some submission
  | _ => none

inductive Effect (engine : Engine) (operation : Operation) (outcome : Outcome Answer) : Prop
  /-- Records stay, and no id is handed out. -/
  | keeps (kept : engine.store.Keeps outcome.engine.store) (spared : outcome.evictions = [])
      (quiet : ∀ stored, outcome.result ≠ .ok (.stored (some stored)))
      (spares : ∀ kind ids, operation ≠ .delete kind ids)
  /-- A record is stored, and a pass over its pool follows. -/
  | stores (submission : Submission) (occasion : Occasion) (stored : Stored) (mid : Store)
      (ids : List Int) (asked : operation.submission? = some submission)
      (stores : submission.Stores occasion engine.store stored mid)
      (passed : mid.passAfterWrite engine.retention submission.kind
        (submission.pool occasion) = (outcome.engine.store, ids))
      (deleted : outcome.engine.store = mid.delete ids submission.kind)
      (part : ids.Subperm (mid.ids submission.kind))
      (answered : outcome.result = .ok (.stored (some stored)))
      (reported : outcome.evictions = Store.evictionsOf submission.kind ids)
  | deletes (kind : RecordKind) (ids : List Int) (asked : operation = .delete kind ids)
      (deleted : outcome.engine.store = engine.store.delete ids kind)
      (spared : outcome.evictions = [])
      (quiet : ∀ stored, outcome.result ≠ .ok (.stored (some stored)))
  | cleans (kind : RecordKind) (pool : Pool) (ids : List Int)
      (asked : operation = .cleanup kind pool)
      (deleted : outcome.engine.store = engine.store.delete ids kind)
      (part : ids.Subperm (engine.store.ids kind))
      (reported : outcome.evictions = Store.evictionsOf kind ids)
      (quiet : ∀ stored, outcome.result ≠ .ok (.stored (some stored)))

namespace Effect

variable {engine : Engine} {operation : Operation} {outcome : Outcome Answer}

theorem sound (effect : Effect engine operation outcome) (sound : engine.store.Sound) :
    outcome.engine.store.Sound := by
  cases effect with
  | keeps kept => exact kept.sound sound
  | stores submission occasion stored mid ids asked stores passed deleted =>
      rw [deleted]
      exact (stores.sound sound).delete ids submission.kind
  | deletes kind ids asked deleted =>
      rw [deleted]
      exact sound.delete ids kind
  | cleans kind pool ids asked deleted =>
      rw [deleted]
      exact sound.delete ids kind

theorem lastId_le (effect : Effect engine operation outcome) (kind : RecordKind) :
    engine.store.lastId kind ≤ outcome.engine.store.lastId kind := by
  cases effect with
  | keeps kept => exact kept.lastId kind
  | stores submission occasion stored mid ids asked stores passed deleted =>
      rw [deleted, Store.lastId_delete]
      exact stores.lastId_le kind
  | deletes other ids asked deleted | cleans other pool ids asked deleted =>
      rw [deleted]
      exact Nat.le_of_eq (Store.lastId_delete _ ids other kind).symm

theorem label_cases (effect : Effect engine operation outcome) {kind : RecordKind} {label : Label}
    (live : label ∈ outcome.engine.store.labels kind) :
    label ∈ engine.store.labels kind ∨ engine.store.lastId kind < label.id := by
  have older {ids : List Int} {store : Store} {other : RecordKind}
      (deleted : outcome.engine.store = store.delete ids other) :
      label ∈ store.labels kind := by
    rw [deleted, Store.labels_delete] at live
    split at live
    · rename_i same
      rw [same]
      exact (List.mem_filter.mp live).1
    · exact live
  cases effect with
  | keeps kept =>
      rw [kept.labels kind] at live
      exact Or.inl live
  | stores submission occasion stored mid ids asked stores passed deleted =>
      have present := older deleted
      rcases stores.labels_cases kind with same | ⟨new, grown, -, -, past⟩
      · rw [same] at present
        exact Or.inl present
      · rw [grown, List.mem_append, List.mem_singleton] at present
        rcases present with before | rfl
        · exact Or.inl before
        · exact Or.inr past
  | deletes other ids asked deleted => exact Or.inl (older deleted)
  | cleans other pool ids asked deleted => exact Or.inl (older deleted)

theorem label_kept (effect : Effect engine operation outcome) {kind : RecordKind} {label : Label}
    (live : label ∈ engine.store.labels kind) :
    label ∈ outcome.engine.store.labels kind ∨
      (∃ eviction ∈ outcome.evictions, eviction.kind = kind ∧ label.id ∈ eviction.ids) ∨
      ∃ ids, operation = .delete kind ids := by
  have later {ids : List Int} {store : Store} {other : RecordKind}
      (present : label ∈ store.labels kind)
      (deleted : outcome.engine.store = store.delete ids other) :
      label ∈ outcome.engine.store.labels kind ∨ (other = kind ∧ label.id ∈ ids) := by
    rw [deleted, Store.labels_delete]
    split
    · rename_i same
      subst same
      by_cases named : label.id ∈ ids
      · exact Or.inr ⟨rfl, named⟩
      · exact Or.inl (List.mem_filter.mpr ⟨present, by simpa using named⟩)
    · exact Or.inl present
  have told {ids : List Int} {other : RecordKind} (named : other = kind ∧ label.id ∈ ids)
      (reported : outcome.evictions = Store.evictionsOf other ids) :
      ∃ eviction ∈ outcome.evictions, eviction.kind = kind ∧ label.id ∈ eviction.ids := by
    have filled : ids.isEmpty = false := by
      cases ids with
      | nil => cases named.2
      | cons first rest => rfl
    refine ⟨⟨other, ids⟩, ?_, named⟩
    simp [reported, Store.evictionsOf, filled]
  cases effect with
  | keeps kept =>
      rw [kept.labels kind]
      exact Or.inl live
  | stores submission occasion stored mid ids asked stores passed deleted part answered reported =>
      have present : label ∈ mid.labels kind := by
        rcases stores.labels_cases kind with same | ⟨new, grown, -, -, -⟩
        · rw [same]
          exact live
        · rw [grown]
          exact List.mem_append_left _ live
      rcases later present deleted with kept | named
      · exact Or.inl kept
      · exact Or.inr (Or.inl (told named reported))
  | deletes other ids asked deleted =>
      rcases later live deleted with kept | ⟨same, named⟩
      · exact Or.inl kept
      · subst same
        exact Or.inr (Or.inr ⟨ids, asked⟩)
  | cleans other pool ids asked deleted part reported =>
      rcases later live deleted with kept | named
      · exact Or.inl kept
      · exact Or.inr (Or.inl (told named reported))

end Effect

namespace Engine

theorem submitted_effect {engine : Engine} {operation : Operation} {submission : Submission}
    {occasion : Occasion} {outcome : Outcome (Option Stored)}
    (asked : operation.submission? = some submission)
    (same : (engine.storeOnly occasion submission).engine.SameStore outcome.engine)
    (result : outcome.result = (engine.storeOnly occasion submission).result)
    (evictions : outcome.evictions = (engine.storeOnly occasion submission).evictions) :
    Effect engine operation (outcome.map .stored) := by
  have spares : ∀ kind ids, operation ≠ .delete kind ids := by
    intro kind ids deletion
    rw [deletion] at asked
    cases asked
  rcases engine.storeOnly_cases occasion submission with
    ⟨refused, whole, unanswered⟩ | ⟨stored, mid, ids, ran, passed, part, whole⟩
  · rw [whole] at same result evictions
    refine .keeps ?_ evictions ?_ spares
    · change engine.store.Keeps outcome.engine.store
      rw [same.store]
      exact engine.store.keeps_refl
    · intro stored answered
      rw [Outcome.map, result] at answered
      cases refused with
      | error failure => cases answered
      | ok answer =>
          cases answered
          exact unanswered stored rfl
  · rw [whole] at same result evictions
    have kept := engine.evicting_sameStore mid submission.kind ids
    have deleted : outcome.engine.store = mid.delete ids submission.kind :=
      same.store.trans kept.store
    refine .stores submission occasion stored mid ids asked
      (Submission.transaction_writes ran).stores ?_ deleted part ?_ evictions
    · rw [passed]
      exact congrArg (·, ids) deleted.symm
    · rw [Outcome.map, result]
      rfl

theorem storeOnly_settings (engine : Engine) (occasion : Occasion) (submission : Submission) :
    (engine.storeOnly occasion submission).engine.settings = engine.settings := by
  rcases engine.storeOnly_cases occasion submission with
    ⟨refused, whole, -⟩ | ⟨stored, mid, ids, -, -, -, whole⟩
  · rw [whole]
  · rw [whole]
    exact (engine.evicting_sameStore mid submission.kind ids).settings

theorem perform_settings (engine : Engine) (operation : Operation) :
    (engine.perform operation).engine.settings = engine.settings := by
  cases operation with
  | record submission occasion =>
      have same := (engine.record_sameStore occasion submission).1.settings
      exact same.trans (engine.storeOnly_settings occasion submission)
  | store submission occasion => exact engine.storeOnly_settings occasion submission
  | amend amendment => rfl
  | delete kind ids => rfl
  | cleanup kind pool =>
      simp only [perform]
      rcases engine.cleanup_cases kind pool with ⟨failure, whole⟩ | ⟨ids, -, whole⟩
      · rw [whole]
        rfl
      · rw [whole]
        exact (engine.evicting_sameStore engine.store kind ids).settings
  | search request now => rfl
  | reembed =>
      simp only [perform]
      split
      · rename_i after updated ran
        exact (reembed_sameStore ran).settings
      · rfl
  | embedWith embedder => rfl

theorem perform_retention (engine : Engine) (operation : Operation) :
    (engine.perform operation).engine.retention = engine.retention :=
  congrArg Prod.fst (engine.perform_settings operation)

theorem perform_searching (engine : Engine) (operation : Operation) :
    (engine.perform operation).engine.searching = engine.searching :=
  congrArg Prod.snd (engine.perform_settings operation)

theorem cleanup_effect (engine : Engine) (kind : RecordKind) (pool : Pool) :
    Effect engine (.cleanup kind pool) (engine.perform (.cleanup kind pool)) := by
  simp only [perform]
  rcases engine.cleanup_cases kind pool with ⟨failure, whole⟩ | ⟨ids, part, whole⟩
  · rw [whole]
    exact .keeps engine.store.keeps_refl rfl (by intro stored same; cases same)
      (by intro other ids same; cases same)
  · rw [whole]
    refine .cleans kind pool ids rfl ?_ part rfl (by intro stored same; cases same)
    exact (engine.evicting_sameStore engine.store kind ids).store

theorem perform_effect (engine : Engine) (operation : Operation) :
    Effect engine operation (engine.perform operation) := by
  cases operation with
  | record submission occasion =>
      obtain ⟨same, result, evictions⟩ := engine.record_sameStore occasion submission
      exact submitted_effect rfl same result evictions
  | store submission occasion => exact submitted_effect rfl rfl rfl rfl
  | amend amendment =>
      refine .keeps (amendment.keeps engine.store) rfl ?_ (by intro kind ids same; cases same)
      intro stored same
      exact amendment.not_stored engine.store stored same
  | delete kind ids => exact .deletes kind ids rfl rfl rfl (by intro stored same; cases same)
  | cleanup kind pool => exact engine.cleanup_effect kind pool
  | search request now =>
      refine .keeps (Search.run_amends _ _ _ request now).keeps rfl ?_ (by intro kind ids same; cases same)
      exact fun stored => Answer.map_ne fun response same => by cases same
  | reembed =>
      simp only [perform]
      split
      · rename_i after updated ran
        refine .keeps ?_ rfl (by intro stored same; cases same) (by intro kind ids same; cases same)
        change engine.store.Keeps after.store
        rw [(reembed_sameStore ran).store]
        exact engine.store.keeps_refl
      · exact .keeps engine.store.keeps_refl rfl (by intro stored same; cases same)
          (by intro kind ids same; cases same)
  | embedWith embedder =>
      exact .keeps engine.store.keeps_refl rfl (by intro stored same; cases same)
        (by intro kind ids same; cases same)

section

variable (holds : Store → Prop)
  (submits : ∀ (submission : Submission) (occasion : Occasion) (store after : Store)
    (stored : Stored), holds store →
      (submission.transaction occasion).run store = .ok (stored, after) → holds after)
  (amends : ∀ before after : Store, before.Amends after → holds before → holds after)
  (deletes : ∀ (store : Store) (ids : List Int) (kind : RecordKind), holds store →
    holds (store.delete ids kind))

include submits amends deletes

/-- What the transactions, the amendments and the deletions of a store keep, every operation
keeps. -/
theorem perform_keeps (engine : Engine) (operation : Operation) (held : holds engine.store) :
    holds (engine.perform operation).engine.store := by
  have submitted (submission : Submission) (occasion : Occasion) :
      holds (engine.storeOnly occasion submission).engine.store := by
    rcases engine.storeOnly_cases occasion submission with
      ⟨refused, whole, -⟩ | ⟨stored, mid, ids, ran, -, -, whole⟩
    · rw [whole]
      exact held
    · rw [whole, (engine.evicting_sameStore mid submission.kind ids).store]
      exact deletes mid ids submission.kind (submits submission occasion _ mid stored held ran)
  cases operation with
  | record submission occasion =>
      change holds (engine.record occasion submission).engine.store
      rw [(engine.record_sameStore occasion submission).1.store]
      exact submitted submission occasion
  | store submission occasion => exact submitted submission occasion
  | amend amendment => exact amends _ _ (amendment.amends engine.store) held
  | delete kind ids => exact deletes engine.store ids kind held
  | cleanup kind pool =>
      simp only [perform]
      rcases engine.cleanup_cases kind pool with ⟨failure, whole⟩ | ⟨ids, -, whole⟩
      · rw [whole]
        exact held
      · rw [whole]
        change holds (engine.evicting engine.store kind ids).store
        rw [(engine.evicting_sameStore engine.store kind ids).store]
        exact deletes engine.store ids kind held
  | search request now =>
      have kept := Search.run_amends engine.store engine.searching engine.index request now
      exact amends _ _ kept held
  | reembed =>
      simp only [perform]
      split
      · rename_i after updated ran
        change holds after.store
        rw [(reembed_sameStore ran).store]
        exact held
      · exact held
  | embedWith embedder => exact held

theorem after_keeps (engine : Engine) (operations : List Operation) (start : holds engine.store) :
    holds (engine.after operations).store :=
  engine.after_invariant (holds ·.store) operations start fun operation _ met held =>
    perform_keeps holds submits amends deletes met operation held

end

theorem after_sound (engine : Engine) (operations : List Operation)
    (sound : engine.store.Sound) : (engine.after operations).store.Sound :=
  engine.after_invariant (·.store.Sound) operations sound fun operation _ met holds =>
    (met.perform_effect operation).sound holds

end Engine

end Recall
