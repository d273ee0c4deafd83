import Recall.Proofs.Courses

namespace Recall

namespace Store

/-- All that inserts read of a store, and all that passes leave as it is. -/
def emptied (store : Store) : Store :=
  { store with observations := { store.observations with rows := [] } }

theorem eq_of_emptied {first second : Store} (same : first.emptied = second.emptied)
    (rows : first.observations.rows = second.observations.rows) : first = second := by
  obtain ⟨_, _, ⟨_, _, _⟩, _, _⟩ := first
  obtain ⟨_, _, ⟨_, _, _⟩, _, _⟩ := second
  simp_all [emptied]

theorem upsertSession_emptied (store : Store) (occasion : Occasion) (prompt : Option String) :
    (upsertSession occasion prompt).run store.emptied =
      ((upsertSession occasion prompt).run store).map fun (id, after) => (id, after.emptied) := by
  have known : store.emptied.session? occasion.sessionKey =
      store.session? occasion.sessionKey := rfl
  have last : store.emptied.lastSessionId = store.lastSessionId := rfl
  simp only [upsertSession, StateT.run, known, last]
  by_cases unnamed : occasion.sessionKey.isEmpty = true
  · simp only [unnamed, if_true]
    rfl
  · by_cases full : noIdAfter store.lastSessionId = true
    · simp only [unnamed, full, if_true]
      rfl
    · simp only [unnamed, full]
      cases store.session? occasion.sessionKey <;> rfl

theorem insertObservation_emptied (store : Store) (draft : ObservationDraft)
    (number : Option Int) (occasion : Occasion) :
    ((insertObservation draft number occasion).run store.emptied).map
        (fun (stored, after) => (stored, after.emptied)) =
      ((insertObservation draft number occasion).run store).map
        fun (stored, after) => (stored, after.emptied) := by
  have last : store.emptied.observations.lastId = store.observations.lastId := rfl
  simp only [insertObservation, StateT.run, last]
  split
  · rfl
  · split <;> rfl

theorem storeObservation_emptied (store : Store) (draft : ObservationDraft)
    (number : Option Int) (occasion : Occasion) :
    ((storeObservation draft number occasion).run store.emptied).map
        (fun (stored, after) => (stored, after.emptied)) =
      ((storeObservation draft number occasion).run store).map
        fun (stored, after) => (stored, after.emptied) := by
  simp only [storeObservation, StateT.run_bind, upsertSession_emptied]
  cases (upsertSession occasion none).run store with
  | error failure => rfl
  | ok pair => exact insertObservation_emptied pair.2 draft number occasion

end Store

namespace Course

variable {quota : Pool → Nat} {first second : Course}

structure Alike (first second : Course) : Prop where
  emptied : first.store.emptied = second.store.emptied
  ever : first.ever = second.ever

theorem Alike.insert (alike : first.Alike second) (draft : ObservationDraft)
    (number : Option Int) (occasion : Occasion) :
    (first.next quota (.insert draft number occasion)).Alike
      (second.next quota (.insert draft number occasion)) := by
  have agree := (first.store.storeObservation_emptied draft number occasion).symm.trans
    (alike.emptied ▸ second.store.storeObservation_emptied draft number occasion)
  simp only [next, Store.turn]
  cases one : (Store.storeObservation draft number occasion).run first.store with
  | error failure =>
      cases other : (Store.storeObservation draft number occasion).run second.store with
      | error failure =>
          simp only [List.append_nil]
          exact alike
      | ok pair =>
          rw [one, other] at agree
          cases agree
  | ok pair =>
      cases other : (Store.storeObservation draft number occasion).run second.store with
      | error failure =>
          rw [one, other] at agree
          cases agree
      | ok partner =>
          obtain ⟨stored, after⟩ := pair
          obtain ⟨twin, later⟩ := partner
          rw [one, other] at agree
          obtain ⟨rfl, emptied⟩ := Prod.mk.inj (Except.ok.inj agree)
          refine ⟨emptied, (ever_insert _ _).trans ?_⟩
          exact (congrArg (· ++ _) alike.ever).trans (ever_insert _ _).symm

theorem Alike.pass (alike : first.Alike second) (pool : Pool) (deadline : Deadline) :
    (first.next quota (.pass pool deadline)).Alike second := by
  simp only [next, Store.turn]
  cases ran : first.store.evict .observation pool (quota pool) deadline with
  | error failure =>
      simp only [List.append_nil]
      exact alike
  | ok pair =>
      obtain ⟨after, ids⟩ := pair
      obtain ⟨-, rfl⟩ := Store.evict_observation_ok ran
      exact ⟨alike.emptied, (ever_evict _ _ _).trans alike.ever⟩

theorem Alike.inserts (alike : first.Alike second) (turns : List Turn) :
    (turns.foldl (next quota) first).Alike
      ((turns.filter (·.isInsert)).foldl (next quota) second) := by
  induction turns generalizing first second with
  | nil => exact alike
  | cons turn rest ih =>
      cases turn with
      | insert draft number occasion => exact ih (alike.insert draft number occasion)
      | pass pool deadline => exact ih (alike.pass pool deadline)

/-- Every observation is in some pool, and which of a settled pool are live is settled by what
was inserted. -/
theorem Regular.mem_rows_iff {course : Course} (regular : course.Regular quota)
    (settled : ∀ pool, course.everIn pool ≠ [] → course.Settled pool) {o : Observation} :
    o ∈ course.store.observations.rows ↔ ∃ pool : Pool, o ∈ course.everIn pool ∧
      rank (course.everIn pool) o < quota pool := by
  have known {pool : Pool} (member : o ∈ course.everIn pool) : course.Settled pool :=
    settled pool (List.ne_nil_of_mem member)
  constructor
  · intro live
    obtain ⟨pool, held⟩ := Pool.exists_holdsObservation o
    have member := List.mem_filter.mpr ⟨regular.live.subset live, held⟩
    exact ⟨pool, (regular.mem_liveIn_iff (known member)).mp (List.mem_filter.mpr ⟨live, held⟩)⟩
  · rintro ⟨pool, member, high⟩
    exact regular.spared pool o member high

theorem Regular.store_eq (one : first.Regular quota) (other : second.Regular quota)
    (alike : first.Alike second)
    (settled : ∀ pool, first.everIn pool ≠ [] → first.Settled pool ∧ second.Settled pool) :
    first.store = second.store := by
  refine Store.eq_of_emptied alike.emptied ?_
  have everIn (pool : Pool) : second.everIn pool = first.everIn pool := by
    simp only [Course.everIn, alike.ever]
  have ascending {course : Course} (regular : course.Regular quota) :
      course.store.observations.rows.Pairwise (·.id < ·.id) :=
    (List.pairwise_map.mp regular.ascending).sublist regular.live
  have same : first.store.observations.rows.Perm second.store.observations.rows := by
    rw [List.perm_ext_iff_of_nodup
      ((List.Nodup.of_map _ one.once).sublist one.live)
      ((List.Nodup.of_map _ other.once).sublist other.live)]
    intro o
    rw [one.mem_rows_iff fun pool filled => (settled pool filled).1,
      other.mem_rows_iff fun pool filled => (settled pool (everIn pool ▸ filled)).2]
    simp only [everIn]
  refine List.Perm.eq_of_pairwise ?_ (ascending one) (ascending other) same
  intro a b _ _ below above
  omega

end Course

/-- Where the last pass over a pool follows the last insert into it, it does not matter when the
passes before were made. -/
theorem eviction_independent_of_schedule (quota : Pool → Nat) (start : Store)
    (turns : List Turn) (sound : start.Sound) :
    let course := start.course quota turns
    (∀ pool, course.Settled pool →
      HoldsNewest (quota pool) (course.everIn pool) (course.liveIn pool)
        (course.evictedFrom pool)) ∧
    ∀ others : List Turn, others.filter (·.isInsert) = turns.filter (·.isInsert) →
      (∀ pool, course.everIn pool ≠ [] →
        course.Settled pool ∧ (start.course quota others).Settled pool) →
      course.store = (start.course quota others).store := by
  intro course
  have regular (any : List Turn) : (start.course quota any).Regular quota :=
    (Course.Regular.start sound).after any
  refine ⟨fun pool settled => (regular turns).holdsNewest settled, ?_⟩
  intro others inserts settled
  have begun : ({ start } : Course).Alike { start } := ⟨rfl, rfl⟩
  have one : (start.course quota turns).Alike
      (start.course quota (turns.filter (·.isInsert))) := begun.inserts turns
  have other : (start.course quota others).Alike
      (start.course quota (others.filter (·.isInsert))) := begun.inserts others
  rw [inserts] at other
  have alike : course.Alike (start.course quota others) :=
    ⟨one.emptied.trans other.emptied.symm, one.ever.trans other.ever.symm⟩
  exact (regular turns).store_eq (regular others) alike settled

def scant : Pool → Nat
  | .project _ => 2
  | .everywhere => 1

/-- A pass is made soon after each insert into a pool that may be full. Two observations are of
one time, and the clock is set back before another. -/
def promptly : List Turn :=
  let insert (project : String) (scope : Scope) (now : Int) : Turn :=
    .insert { content := { type := .decision }, scope := some scope } none
      { sessionKey := "session", project, now }
  [insert "hall" .project 5, .pass (.project "hall") {}, insert "hall" .project 7,
    insert "hall" .everywhere 7, .pass .everywhere {}, insert "hall" .project 5,
    insert "attic" .project 2, .pass (.project "hall") {}, insert "attic" .everywhere 3,
    .pass .everywhere {}, .pass (.project "attic") {}]

def belatedly : List Turn :=
  promptly.filter (·.isInsert) ++
    [.pass .everywhere { passedAtStart := true }, .pass (.project "attic") {},
      .pass (.project "hall") {}, .pass .everywhere {}]

def scantPools : List Pool := [.project "hall", .project "attic", .everywhere]

theorem promptly_alike_belatedly :
    (({} : Store).Sound ∧ belatedly.filter (·.isInsert) = promptly.filter (·.isInsert) ∧
      ∀ pool ∈ scantPools, (Store.course scant {} promptly).Settled pool ∧
        (Store.course scant {} belatedly).Settled pool) ∧
    (∀ pool ∈ scantPools, let course := Store.course scant {} promptly
      HoldsNewest (scant pool) (course.everIn pool) (course.liveIn pool)
        (course.evictedFrom pool)) ∧
    (Store.course scant {} promptly).store = (Store.course scant {} belatedly).store := by
  have settled : ∀ pool ∈ scantPools, (Store.course scant {} promptly).Settled pool ∧
      (Store.course scant {} belatedly).Settled pool := by decide +kernel
  have inserts : belatedly.filter (·.isInsert) = promptly.filter (·.isInsert) := rfl
  have covered : ∀ row ∈ (Store.course scant {} promptly).ever,
      ∃ pool ∈ scantPools, pool.holdsObservation row = true := by decide +kernel
  obtain ⟨newest, same⟩ :=
    eviction_independent_of_schedule scant {} promptly Store.sound_empty
  refine ⟨⟨Store.sound_empty, inserts, settled⟩, ?_, same belatedly inserts ?_⟩
  · exact fun pool listed => newest pool (settled pool listed).1
  · intro pool filled
    obtain ⟨row, member⟩ := List.exists_mem_of_ne_nil _ filled
    obtain ⟨present, held⟩ := List.mem_filter.mp member
    obtain ⟨other, listed, also⟩ := covered row present
    exact Pool.holdsObservation_unique also held ▸ settled other listed

end Recall
