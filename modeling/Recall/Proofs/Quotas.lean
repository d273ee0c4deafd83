import Recall.Proofs.Effects

namespace Recall

namespace Store

def WithinQuota (store : Store) (settings : RetentionSettings) (kind : RecordKind)
    (pool : Pool) : Prop :=
  ∀ keep, settings.quota kind pool = .ok keep → store.poolSize kind pool ≤ keep

structure WithinQuotas (store : Store) (settings : RetentionSettings) : Prop where
  project : ∀ name, store.observations.rows.countP (Pool.project name).holdsObservation ≤
    settings.observationsPerProject
  everywhere : store.observations.rows.countP Pool.everywhere.holdsObservation ≤
    settings.observationsEverywhere
  prompts : store.prompts.rows.length ≤ settings.prompts

theorem poolSize_of_labels {before after : Store} {kind : RecordKind}
    (same : after.labels kind = before.labels kind) (pool : Pool) :
    after.poolSize kind pool = before.poolSize kind pool := by
  simp only [poolSize, same]

theorem poolSize_delete_le (store : Store) (ids : List Int) (kind other : RecordKind)
    (pool : Pool) : (store.delete ids kind).poolSize other pool ≤ store.poolSize other pool := by
  simp only [poolSize, labels_delete]
  split
  · rename_i same
    subst same
    exact List.filter_sublist.countP_le
  · exact Nat.le_refl _

theorem poolSize_empty (kind : RecordKind) (pool : Pool) : ({} : Store).poolSize kind pool = 0 := by
  cases kind <;> rfl

theorem WithinQuota.delete {store : Store} {settings : RetentionSettings} {kind : RecordKind}
    {pool : Pool} (within : store.WithinQuota settings kind pool) (ids : List Int)
    (other : RecordKind) : (store.delete ids other).WithinQuota settings kind pool := by
  intro keep quota
  exact Nat.le_trans (store.poolSize_delete_le ids other kind pool) (within keep quota)

theorem WithinQuota.of_labels {before after : Store} {settings : RetentionSettings}
    {kind : RecordKind} {pool : Pool} (within : before.WithinQuota settings kind pool)
    (same : after.labels kind = before.labels kind) :
    after.WithinQuota settings kind pool := by
  intro keep quota
  rw [poolSize_of_labels same]
  exact within keep quota

theorem withinQuotas_of_pools {store : Store} {settings : RetentionSettings}
    (within : ∀ kind pool, store.WithinQuota settings kind pool) :
    store.WithinQuotas settings where
  project name := by
    rw [← poolSize_observation]
    exact within .observation (.project name) _ rfl
  everywhere := by
    rw [← poolSize_observation]
    exact within .observation .everywhere _ rfl
  prompts := by
    have whole : store.poolSize .prompt .everywhere = store.prompts.rows.length := by
      rw [poolSize_prompt]
      exact List.countP_eq_length.mpr fun _ _ => rfl
    rw [← whole]
    exact within .prompt .everywhere _ rfl

end Store

/-- Another pool that a record counts for is a part of its own, with the same quota. -/
theorem Submission.pool_of_holds {submission : Submission} {occasion : Occasion} {pool : Pool}
    {id : Int}
    (held : pool.holds submission.kind ⟨id, occasion.project, submission.scope⟩ = true) :
    (∀ label, pool.holds submission.kind label = true →
      (submission.pool occasion).holds submission.kind label = true) ∧
    ∀ settings : RetentionSettings, settings.quota submission.kind pool =
      settings.quota submission.kind (submission.pool occasion) := by
  cases submission with
  | observation draft number | newObservation draft number =>
      have own : Store.poolOf draft occasion.project = pool := by
        simp only [kind, scope] at held
        cases resolved : draft.resolvedScope <;> cases pool <;>
          simp_all [Pool.holds, Store.poolOf]
      subst own
      exact ⟨fun _ other => other, fun _ => rfl⟩
  | summary content number =>
      cases pool <;> cases held
  | prompt number text =>
      refine ⟨fun _ _ => rfl, fun _ => ?_⟩
      cases pool <;> rfl

/-- The pass looks after the pools that the new record counts for, and the others have not
grown. -/
theorem within_of_stores {settings : RetentionSettings} {submission : Submission}
    {occasion : Occasion} {stored : Stored} {before mid after : Store} {ids : List Int}
    (sound : before.Sound) (inTime : settings.timeoutSeconds ≠ 0)
    (stores : submission.Stores occasion before stored mid)
    (passed : mid.passAfterWrite settings submission.kind (submission.pool occasion) =
      (after, ids))
    (deleted : after = mid.delete ids submission.kind)
    (within : ∀ kind pool, before.WithinQuota settings kind pool) (kind : RecordKind)
    (pool : Pool) : after.WithinQuota settings kind pool := by
  rcases stores with ⟨keeps, present⟩ | adds
  · rw [deleted]
    exact ((within kind pool).of_labels (keeps.labels kind)).delete ids submission.kind
  · by_cases same : kind = submission.kind
    · subst same
      cases held : pool.holds submission.kind ⟨stored.id, occasion.project, submission.scope⟩ with
      | true =>
          obtain ⟨part, quotas⟩ := Submission.pool_of_holds held
          intro keep quota
          have own := Store.passAfterWrite_within (adds.sound sound) inTime
            ((quotas settings).symm.trans quota)
          rw [passed] at own
          exact Nat.le_trans (List.countP_mono_left fun label _ => part label) own
      | false =>
          rw [deleted]
          intro keep quota
          calc
            (mid.delete ids submission.kind).poolSize submission.kind pool ≤
                mid.poolSize submission.kind pool := mid.poolSize_delete_le _ _ _ _
            _ = before.poolSize submission.kind pool := by
              simp [Store.poolSize, adds.labels, held]
            _ ≤ keep := within submission.kind pool keep quota
    · rw [deleted]
      exact ((within kind pool).of_labels (adds.others kind same).1).delete ids submission.kind

theorem Effect.within_quotas {engine : Engine} {operation : Operation}
    {outcome : Outcome Answer} (effect : Effect engine operation outcome)
    (sound : engine.store.Sound) (inTime : engine.retention.timeoutSeconds ≠ 0)
    (within : ∀ kind pool, engine.store.WithinQuota engine.retention kind pool)
    (kind : RecordKind) (pool : Pool) :
    outcome.engine.store.WithinQuota engine.retention kind pool := by
  cases effect with
  | keeps kept => exact (within kind pool).of_labels (kept.labels kind)
  | stores submission occasion stored mid ids asked stores passed deleted =>
      exact within_of_stores sound inTime stores passed deleted within kind pool
  | deletes other ids asked deleted | cleans other pool ids asked deleted =>
      rw [deleted]
      exact (within kind _).delete ids other

theorem Engine.after_within_quota (engine : Engine) (operations : List Operation)
    (empty : engine.store = {}) (inTime : engine.retention.timeoutSeconds ≠ 0)
    (kind : RecordKind) (pool : Pool) :
    (engine.after operations).store.WithinQuota engine.retention kind pool := by
  let holds (met : Engine) : Prop := met.retention = engine.retention ∧ met.store.Sound ∧
    ∀ kind pool, met.store.WithinQuota engine.retention kind pool
  have reached : holds (engine.after operations) := by
    apply engine.after_invariant holds operations
    · refine ⟨rfl, empty ▸ Store.sound_empty, ?_⟩
      intro kind pool keep quota
      rw [empty, Store.poolSize_empty]
      exact Nat.zero_le keep
    · rintro operation - met ⟨settings, sound, within⟩
      have effect := met.perform_effect operation
      refine ⟨(met.perform_retention operation).trans settings, effect.sound sound, ?_⟩
      rw [← settings] at inTime within ⊢
      exact effect.within_quotas sound inTime within
  exact reached.2.2 kind pool

end Recall
