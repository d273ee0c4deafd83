import Mathlib.Data.List.Perm.Subperm
import Recall.Proofs.Writes

namespace Recall

theorem kept_append_beyondQuota_perm [Row α] (keep : Nat) (pool : List α) :
    ((pool.mergeSort newestFirst).take keep ++ beyondQuota keep pool).Perm pool := by
  have split : ((pool.mergeSort newestFirst).take keep ++ beyondQuota keep pool).Perm
      ((pool.mergeSort newestFirst).take keep ++ (pool.mergeSort newestFirst).drop keep) :=
    (List.reverse_perm _).append_left _
  rw [List.take_append_drop] at split
  exact split.trans (List.mergeSort_perm pool newestFirst)

namespace Table

variable [Row α]

theorem remove_nil (table : Table α) : table.remove [] = table := by
  have whole : table.rows.filter (fun row => !(Row.id row ∈ ([] : List Int))) = table.rows :=
    List.filter_eq_self.mpr fun row _ => by simp
  simp only [remove, whole]

theorem evict_ok {table after : Table α} {inPool : α → Bool} {keep : Nat} {deadline : Deadline}
    {ids : List Int} (ran : table.evict inPool keep deadline = .ok (after, ids)) :
    after = table.remove ids ∧
      ids = (beyondQuota keep (table.rows.filter inPool)).map Row.id := by
  simp only [evict] at ran
  split at ran
  · cases ran
  · split at ran
    · cases ran
    · split at ran
      · cases ran
      · cases ran
        exact ⟨rfl, rfl⟩

theorem evict_of_room (table : Table α) (inPool : α → Bool) {keep : Nat} {deadline : Deadline}
    (within : keep < Number.signedBound)
    (inTime : deadline.passedAtStart = false ∧ deadline.passedAtCommit = false) :
    let ids := (beyondQuota keep (table.rows.filter inPool)).map Row.id
    table.evict inPool keep deadline = .ok (table.remove ids, ids) := by
  simp only [evict, inTime.1, inTime.2, Nat.not_le.mpr within, decide_false, Bool.false_and,
    if_false, Bool.false_eq_true]

theorem evicted_subperm (table : Table α) (inPool : α → Bool) (keep : Nat) :
    ((beyondQuota keep (table.rows.filter inPool)).map Row.id).Subperm
      (table.rows.map Row.id) := by
  let pool := table.rows.filter inPool
  have taken : ((beyondQuota keep pool).map Row.id).Sublist
      (((pool.mergeSort newestFirst).take keep ++ beyondQuota keep pool).map Row.id) :=
    (List.sublist_append_right _ _).map Row.id
  have whole := (kept_append_beyondQuota_perm keep pool).map Row.id
  have within : (pool.map Row.id).Sublist (table.rows.map Row.id) :=
    List.filter_sublist.map Row.id
  exact (taken.subperm.trans whole.subperm).trans within.subperm

theorem countP_remove_evicted (table : Table α) (inPool : α → Bool) (keep : Nat) :
    (table.remove ((beyondQuota keep (table.rows.filter inPool)).map Row.id)).rows.countP
      inPool ≤ keep := by
  let pool := table.rows.filter inPool
  let ids := (beyondQuota keep pool).map Row.id
  have taken : (beyondQuota keep pool).countP (fun row => !(Row.id row ∈ ids)) = 0 := by
    rw [List.countP_eq_zero]
    intro row member
    have named : Row.id row ∈ ids := List.mem_map_of_mem member
    simp [named]
  calc
    (table.remove ids).rows.countP inPool =
        pool.countP (fun row => !(Row.id row ∈ ids)) := by
      simp only [remove, pool, List.countP_filter, Bool.and_comm]
    _ = ((pool.mergeSort newestFirst).take keep ++ beyondQuota keep pool).countP
        (fun row => !(Row.id row ∈ ids)) :=
      ((kept_append_beyondQuota_perm keep pool).countP_eq _).symm
    _ = ((pool.mergeSort newestFirst).take keep).countP (fun row => !(Row.id row ∈ ids)) := by
      rw [List.countP_append, taken, Nat.add_zero]
    _ ≤ ((pool.mergeSort newestFirst).take keep).length := List.countP_le_length
    _ ≤ keep := List.length_take_le keep _

theorem evict_spec {table after : Table α} {inPool : α → Bool} {keep : Nat}
    {deadline : Deadline} {ids : List Int}
    (ran : table.evict inPool keep deadline = .ok (after, ids)) :
    after = table.remove ids ∧ ids.Subperm (table.rows.map Row.id) ∧
      after.rows.countP inPool ≤ keep := by
  obtain ⟨removed, rfl⟩ := evict_ok ran
  refine ⟨removed, table.evicted_subperm inPool keep, ?_⟩
  rw [removed]
  exact table.countP_remove_evicted inPool keep

end Table

def Pool.holds (pool : Pool) (kind : RecordKind) (label : Label) : Bool :=
  match kind, pool with
  | .observation, project name => label.project = name && label.scope = some .project
  | .observation, everywhere => label.scope = some .everywhere
  | .summary, _ => false
  | .prompt, project name => label.project = name
  | .prompt, everywhere => true

namespace Store

def poolSize (store : Store) (kind : RecordKind) (pool : Pool) : Nat :=
  (store.labels kind).countP (pool.holds kind)

theorem poolSize_observation (store : Store) (pool : Pool) :
    store.poolSize .observation pool = store.observations.rows.countP pool.holdsObservation := by
  simp only [poolSize, labels, List.countP_map]
  congr 1
  funext o
  have scopes (scope : Scope) : decide (some o.scope = some scope) = decide (o.scope = scope) :=
    decide_eq_decide.mpr (Option.some_inj)
  cases pool with
  | project name => exact congrArg (decide (o.project = name) && ·) (scopes .project)
  | everywhere => exact scopes .everywhere

theorem poolSize_prompt (store : Store) (pool : Pool) :
    store.poolSize .prompt pool = store.prompts.rows.countP pool.holdsPrompt := by
  simp only [poolSize, labels, List.countP_map]
  congr 1
  funext p
  cases pool <;> rfl

theorem delete_nil (store : Store) (kind : RecordKind) : store.delete [] kind = store := by
  cases kind <;> simp only [delete, Table.remove_nil]

theorem evict_ok {store after : Store} {kind : RecordKind} {pool : Pool} {keep : Nat}
    {deadline : Deadline} {ids : List Int}
    (ran : store.evict kind pool keep deadline = .ok (after, ids)) :
    after = store.delete ids kind ∧ ids.Subperm (store.ids kind) ∧
      after.poolSize kind pool ≤ keep := by
  cases kind with
  | observation =>
      cases passed : store.observations.evict pool.holdsObservation keep deadline with
      | error failure =>
          simp only [evict, passed] at ran
          cases ran
      | ok pair =>
          simp only [evict, passed] at ran
          cases ran
          obtain ⟨removed, part, small⟩ := Table.evict_spec passed
          refine ⟨?_, ?_, ?_⟩
          · rw [removed]
            rfl
          · rw [ids_observation]
            exact part
          · rw [poolSize_observation]
            exact small
  | summary =>
      cases ran
      have outside : pool.holds .summary = fun _ => false := by
        funext label
        cases pool <;> rfl
      refine ⟨(delete_nil store .summary).symm, List.nil_subperm, ?_⟩
      simp [poolSize, outside]
  | prompt =>
      cases passed : store.prompts.evict pool.holdsPrompt keep deadline with
      | error failure =>
          simp only [evict, passed] at ran
          cases ran
      | ok pair =>
          simp only [evict, passed] at ran
          cases ran
          obtain ⟨removed, part, small⟩ := Table.evict_spec passed
          refine ⟨?_, ?_, ?_⟩
          · rw [removed]
            rfl
          · rw [ids_prompt]
            exact part
          · rw [poolSize_prompt]
            exact small

theorem evict_in_time (store : Store) (kind : RecordKind) (pool : Pool) {keep : Nat}
    {deadline : Deadline} (within : keep < Number.signedBound)
    (inTime : deadline.passedAtStart = false ∧ deadline.passedAtCommit = false) :
    ∃ after ids, store.evict kind pool keep deadline = .ok (after, ids) := by
  cases kind with
  | observation =>
      simp only [evict, Table.evict_of_room _ _ within inTime]
      exact ⟨_, _, rfl⟩
  | summary => exact ⟨store, [], rfl⟩
  | prompt =>
      simp only [evict, Table.evict_of_room _ _ within inTime]
      exact ⟨_, _, rfl⟩

theorem length_le_of_ascending (ids : List Int) (low high : Int) (room : low ≤ high)
    (ascending : ids.Pairwise (· < ·)) (bounds : ∀ id ∈ ids, low < id ∧ id ≤ high) :
    (ids.length : Int) ≤ high - low := by
  induction ids generalizing low with
  | nil => simpa using room
  | cons first rest ih =>
      have firstBounds := bounds first List.mem_cons_self
      have parts := List.pairwise_cons.mp ascending
      have shorter := ih first firstBounds.2 parts.2 (by
        intro id member
        exact ⟨parts.1 id member, (bounds id (List.mem_cons_of_mem first member)).2⟩)
      simp only [List.length_cons]
      omega

theorem Sound.length_lt {store : Store} (sound : store.Sound) (kind : RecordKind) :
    (store.ids kind).length < Number.signedBound := by
  have bounded := length_le_of_ascending (store.ids kind) 0 (store.lastId kind) (by omega)
    (sound.ascending kind) (sound.bounds kind)
  have inRange := sound.inRange kind
  omega

theorem Sound.poolSize_lt {store : Store} (sound : store.Sound) (kind : RecordKind)
    (pool : Pool) : store.poolSize kind pool < Number.signedBound := by
  have counted : store.poolSize kind pool ≤ (store.ids kind).length := by
    rw [ids, List.length_map]
    exact List.countP_le_length
  exact Nat.lt_of_le_of_lt counted (sound.length_lt kind)

/-- The pass after a write deletes what it reports, also when it fails and reports nothing. -/
theorem passAfterWrite_eq (settings : RetentionSettings) (store : Store) (kind : RecordKind)
    (pool : Pool) :
    ∃ ids, store.passAfterWrite settings kind pool = (store.delete ids kind, ids) ∧
      ids.Subperm (store.ids kind) := by
  simp only [passAfterWrite]
  split
  · exact ⟨[], by rw [delete_nil], List.nil_subperm⟩
  · split
    · rename_i after ids ran
      obtain ⟨deleted, part, -⟩ := evict_ok ran
      exact ⟨ids, by rw [deleted], part⟩
    · exact ⟨[], by rw [delete_nil], List.nil_subperm⟩

/-- A quota out of the range of ids cannot be exceeded, so a pass may fail on it. -/
theorem passAfterWrite_within {settings : RetentionSettings} {store : Store}
    {kind : RecordKind} {pool : Pool} {keep : Nat} (sound : store.Sound)
    (inTime : settings.timeoutSeconds ≠ 0) (quota : settings.quota kind pool = .ok keep) :
    (store.passAfterWrite settings kind pool).1.poolSize kind pool ≤ keep := by
  have deadline : settings.deadline.passedAtStart = false ∧
      settings.deadline.passedAtCommit = false := by
    simp [RetentionSettings.deadline, inTime]
  simp only [passAfterWrite, quota]
  by_cases within : keep < Number.signedBound
  · obtain ⟨after, ids, ran⟩ := store.evict_in_time kind pool within deadline
    rw [ran]
    exact (evict_ok ran).2.2
  · have small := sound.poolSize_lt kind pool
    split
    · rename_i after ids ran
      exact (evict_ok ran).2.2
    · change store.poolSize kind pool ≤ keep
      omega

end Store

end Recall
