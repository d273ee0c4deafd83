import Recall.Proofs.Newest
import Recall.Proofs.Passes

namespace Recall

variable [Row α]

def Deadline.missed (deadline : Deadline) : Bool :=
  deadline.passedAtStart || deadline.passedAtCommit

theorem Deadline.missed_eq_false {deadline : Deadline} (inTime : deadline.missed = false) :
    deadline.passedAtStart = false ∧ deadline.passedAtCommit = false :=
  Bool.or_eq_false_iff.mp inTime

theorem beyondQuota_ordered {pool : List α} (once : (pool.map Row.id).Nodup) (keep : Nat) :
    (beyondQuota keep pool).Pairwise fun a b => newer b a = true := by
  apply List.pairwise_reverse.mpr
  exact (newest_ordered once).sublist (List.drop_sublist keep _)

theorem beyondQuota_subset (keep : Nat) (pool : List α) : beyondQuota keep pool ⊆ pool := by
  intro row beyond
  apply (kept_append_beyondQuota_perm keep pool).mem_iff.mp
  exact List.mem_append_right _ beyond

theorem beyondQuota_perm {pool : List α} (once : (pool.map Row.id).Nodup) (keep : Nat) :
    (beyondQuota keep pool).Perm (pool.filter fun row => keep ≤ rank pool row) := by
  have distinct := List.Nodup.of_map Row.id once
  have apart : (beyondQuota keep pool).Nodup :=
    (beyondQuota_ordered once keep).imp fun {a b} above same => by
      rw [same, newer_irrefl] at above
      cases above
  apply (List.perm_ext_iff_of_nodup apart (distinct.filter _)).mpr
  intro row
  rw [List.mem_filter, decide_eq_true_eq]
  constructor
  · intro beyond
    have member := beyondQuota_subset keep pool beyond
    exact ⟨member, (mem_beyondQuota_iff once member keep).mp beyond⟩
  · intro low
    exact (mem_beyondQuota_iff once low.1 keep).mpr low.2

theorem beyondQuota_of_room {keep : Nat} {pool : List α} (room : pool.length ≤ keep) :
    beyondQuota keep pool = [] := by
  rw [beyondQuota, List.drop_eq_nil_of_le, List.reverse_nil]
  rw [List.length_mergeSort]
  exact room

/-- The ids of a pass take no row along that is not meant. -/
theorem id_mem_evicted_iff {rows : List α} (once : (rows.map Row.id).Nodup) {row : α}
    (live : row ∈ rows) (inPool : α → Bool) (keep : Nat) :
    Row.id row ∈ (beyondQuota keep (rows.filter inPool)).map Row.id ↔
      inPool row = true ∧ keep ≤ rank (rows.filter inPool) row := by
  have own := ids_filter_nodup once inPool
  constructor
  · -- Another row of the table might have the id; as ids are given once it is this row.
    intro taken
    obtain ⟨other, beyond, same⟩ := List.mem_map.mp taken
    have present := beyondQuota_subset keep _ beyond
    have there := List.mem_filter.mp present
    rw [List.inj_on_of_nodup_map once there.1 live same] at beyond present there
    exact ⟨there.2, (mem_beyondQuota_iff own present keep).mp beyond⟩
  · intro low
    have present := List.mem_filter.mpr ⟨live, low.1⟩
    exact List.mem_map_of_mem ((mem_beyondQuota_iff own present keep).mpr low.2)

namespace Table

def keepNewest (table : Table α) (inPool : α → Bool) (keep : Nat) : Table α :=
  { table with
    rows := table.rows.filter fun row =>
      !inPool row || rank (table.rows.filter inPool) row < keep }

theorem remove_evicted {table : Table α} (once : (table.rows.map Row.id).Nodup)
    (inPool : α → Bool) (keep : Nat) :
    table.remove ((beyondQuota keep (table.rows.filter inPool)).map Row.id) =
      table.keepNewest inPool keep := by
  have same : ∀ row ∈ table.rows,
      (!decide (Row.id row ∈ (beyondQuota keep (table.rows.filter inPool)).map Row.id)) =
        (!inPool row || rank (table.rows.filter inPool) row < keep) := by
    intro row live
    simp only [id_mem_evicted_iff once live inPool keep]
    by_cases held : inPool row = true
    · simp only [held, true_and, Bool.not_true, Bool.false_or, ← decide_not, Nat.not_le]
    · simp [held]
  rw [remove, keepNewest, List.filter_congr same]

theorem pool_keepNewest (table : Table α) (inPool : α → Bool) (keep : Nat) :
    (table.keepNewest inPool keep).rows.filter inPool =
      (table.rows.filter inPool).filter fun row => rank (table.rows.filter inPool) row < keep := by
  rw [keepNewest, List.filter_filter, List.filter_filter]
  apply List.filter_congr
  intro row _
  cases inPool row <;> simp

theorem outside_keepNewest (table : Table α) (inPool : α → Bool) (keep : Nat) :
    (table.keepNewest inPool keep).rows.filter (!inPool ·) = table.rows.filter (!inPool ·) := by
  rw [keepNewest, List.filter_filter]
  apply List.filter_congr
  intro row _
  cases inPool row <;> simp

theorem length_pool_keepNewest {table : Table α} (once : (table.rows.map Row.id).Nodup)
    (inPool : α → Bool) (keep : Nat) :
    ((table.keepNewest inPool keep).rows.filter inPool).length =
      min keep (table.rows.filter inPool).length := by
  rw [pool_keepNewest]
  exact length_filter_rank (ids_filter_nodup once inPool) keep

theorem evict_in_time {table : Table α} (once : (table.rows.map Row.id).Nodup)
    (inPool : α → Bool) {keep : Nat} {deadline : Deadline} (within : keep < Number.signedBound)
    (inTime : deadline.missed = false) :
    table.evict inPool keep deadline = .ok (table.keepNewest inPool keep,
      (beyondQuota keep (table.rows.filter inPool)).map Row.id) := by
  rw [← remove_evicted once]
  exact table.evict_of_room inPool within (Deadline.missed_eq_false inTime)

theorem evict_again {table : Table α} (once : (table.rows.map Row.id).Nodup)
    (inPool : α → Bool) {keep more : Nat} {deadline : Deadline} (larger : keep ≤ more)
    (within : more < Number.signedBound) (inTime : deadline.missed = false) :
    (table.keepNewest inPool keep).evict inPool more deadline =
      .ok (table.keepNewest inPool keep, []) := by
  have room : ((table.keepNewest inPool keep).rows.filter inPool).length ≤ more := by
    rw [length_pool_keepNewest once]
    omega
  have passed := (table.keepNewest inPool keep).evict_of_room inPool within
    (Deadline.missed_eq_false inTime)
  simp only [beyondQuota_of_room room, List.map_nil, remove_nil] at passed
  exact passed

theorem evict_too_late (table : Table α) (inPool : α → Bool) (keep : Nat)
    {deadline : Deadline} (late : deadline.missed = true) :
    ∃ failure, table.evict inPool keep deadline = .error failure := by
  simp only [evict]
  by_cases atStart : deadline.passedAtStart = true
  · exact ⟨.deadlinePassed, by rw [if_pos atStart]⟩
  · rw [if_neg atStart]
    have atCommit : deadline.passedAtCommit = true :=
      (Bool.or_eq_true_iff.mp late).resolve_left atStart
    by_cases large : (Number.signedBound ≤ keep && table.rows.any inPool) = true
    · exact ⟨.quotaTooLarge, by rw [if_pos large]⟩
    · exact ⟨.deadlinePassed, by rw [if_neg large, if_pos atCommit]⟩

/-- An empty pool takes any quota, and there is nothing to take. -/
theorem evict_too_large (table : Table α) (inPool : α → Bool) {keep : Nat}
    (large : Number.signedBound ≤ keep) (deadline : Deadline) :
    (∃ failure, table.evict inPool keep deadline = .error failure) ∨
      table.evict inPool keep deadline = .ok (table, []) := by
  by_cases late : deadline.missed = true
  · left
    exact table.evict_too_late inPool keep late
  · have checks := Deadline.missed_eq_false (Bool.eq_false_iff.mpr late)
    simp only [evict, checks.1, checks.2, large, decide_true, Bool.true_and, Bool.false_eq_true,
      if_false]
    by_cases pooled : table.rows.any inPool = true
    · left
      exact ⟨.quotaTooLarge, by rw [if_pos pooled]⟩
    · right
      have unpooled : table.rows.filter inPool = [] := by
        apply List.filter_eq_nil_iff.mpr
        intro row live holds
        exact pooled (List.any_eq_true.mpr ⟨row, live, holds⟩)
      rw [if_neg pooled, unpooled, beyondQuota_of_room (Nat.zero_le keep), List.map_nil, remove_nil]

/-- What is removed, in the order in which it is reported, is the pool without its newest
rows. -/
theorem evict_keeps_newest (table : Table α) (once : (table.rows.map Row.id).Nodup)
    (inPool : α → Bool) (keep : Nat) :
    let pool := table.rows.filter inPool
    let kept := table.keepNewest inPool keep
    (∀ deadline : Deadline, deadline.missed = false → keep < Number.signedBound →
      ∃ removed : List α,
        table.evict inPool keep deadline = .ok (kept, removed.map Row.id) ∧
        removed.Perm (pool.filter fun row => keep ≤ rank pool row) ∧
        (removed.Pairwise fun a b => newer b a = true) ∧
        (removed.map Row.id).Nodup) ∧
    kept.rows.filter inPool = pool.filter (fun row => rank pool row < keep) ∧
    (kept.rows.filter inPool).length = min keep pool.length ∧
    kept.rows.filter (!inPool ·) = table.rows.filter (!inPool ·) ∧
    (∀ (again : Deadline) (more : Nat), again.missed = false → keep ≤ more →
      more < Number.signedBound → kept.evict inPool more again = .ok (kept, [])) ∧
    (∀ deadline : Deadline, deadline.missed = true →
      ∃ failure, table.evict inPool keep deadline = .error failure) ∧
    (Number.signedBound ≤ keep → ∀ deadline : Deadline,
      (∃ failure, table.evict inPool keep deadline = .error failure) ∨
        table.evict inPool keep deadline = .ok (table, [])) := by
  have own := ids_filter_nodup once inPool
  refine ⟨?_, table.pool_keepNewest inPool keep, length_pool_keepNewest once inPool keep,
    table.outside_keepNewest inPool keep, ?_, ?_, ?_⟩
  · intro deadline inTime within
    have removed := beyondQuota_perm own keep
    refine ⟨_, evict_in_time once inPool within inTime, removed, beyondQuota_ordered own keep, ?_⟩
    exact (removed.map Row.id).nodup_iff.mpr (ids_filter_nodup own _)
  · intro again more inTime larger within
    exact evict_again once inPool larger within inTime
  · intro deadline late
    exact table.evict_too_late inPool keep late
  · intro large deadline
    exact table.evict_too_large inPool large deadline

def tied : Table Prompt where
  rows := [
    { id := 1, sessionKey := "s", project := "p", number := 1, text := "first",
      matchedObservations := 0, tokens := 0, createdAt := 7 },
    { id := 2, sessionKey := "s", project := "q", number := 2, text := "elsewhere",
      matchedObservations := 0, tokens := 0, createdAt := 3 },
    { id := 3, sessionKey := "s", project := "p", number := 3, text := "second",
      matchedObservations := 0, tokens := 0, createdAt := 7 },
    { id := 4, sessionKey := "s", project := "p", number := 4, text := "imported",
      matchedObservations := 0, tokens := 0, createdAt := 5 }]
  lastId := 4

theorem tied_keeps_newest :
    let inPool := (Pool.project "p").holdsPrompt
    let kept := tied.keepNewest inPool 1
    kept.rows.map Row.id = [2, 3] ∧
    (∃ removed : List Prompt, tied.evict inPool 1 {} = .ok (kept, removed.map Row.id) ∧
      removed.Pairwise fun a b => newer b a = true) ∧
    kept.evict inPool 2 {} = .ok (kept, []) ∧
    (∃ failure, tied.evict inPool 1 { passedAtCommit := true } = .error failure) ∧
    ((∃ failure, tied.evict inPool Number.signedBound {} = .error failure) ∨
      tied.evict inPool Number.signedBound {} = .ok (tied, [])) := by
  have once : (tied.rows.map Row.id).Nodup := by decide
  obtain ⟨takes, -, -, -, again, late, -⟩ :=
    tied.evict_keeps_newest once (Pool.project "p").holdsPrompt 1
  obtain ⟨-, -, -, -, -, -, tooLarge⟩ :=
    tied.evict_keeps_newest once (Pool.project "p").holdsPrompt Number.signedBound
  obtain ⟨removed, passed, -, ordered, -⟩ := takes {} rfl (by decide)
  refine ⟨by decide, ⟨removed, passed, ordered⟩, ?_, ?_, ?_⟩
  · exact again {} 2 rfl (by decide) (by decide)
  · exact late { passedAtCommit := true } rfl
  · exact tooLarge (Nat.le_refl _) {}

end Table

end Recall
