import Recall.Proofs.Evictions

/-!
Courses of inserts and eviction passes. A pool on which a pass follows the last insert holds
the newest of all rows that were ever put into it, as many as its quota allows, whatever
passes there were before, and every other row was reported once.
-/

namespace Recall

inductive Turn
  | insert (draft : ObservationDraft) (promptNumber : Option Int) (occasion : Occasion)
  | pass (pool : Pool) (deadline : Deadline)

def Turn.isInsert : Turn → Bool
  | insert _ _ _ => true
  | pass _ _ => false

inductive Entry
  | inserted (row : Observation)
  | passed (pool : Pool) (ids : List Int)

namespace Entry

def row? : Entry → Option Observation
  | inserted row => some row
  | passed _ _ => none

def idsFrom (pool : Pool) : Entry → List Int
  | inserted _ => []
  | passed other ids => if other = pool then ids else []

end Entry

def Store.turn (quota : Pool → Nat) (store : Store) : Turn → Store × List Entry
  | .insert draft number occasion =>
    match (storeObservation draft number occasion).run store with
    | .ok (stored, after) => (after, [.inserted (observationOf draft number occasion stored.id)])
    | .error _ => (store, [])
  | .pass pool deadline =>
    match store.evict .observation pool (quota pool) deadline with
    | .ok (after, ids) => (after, [.passed pool ids])
    | .error _ => (store, [])

structure Course where
  start : Store
  store : Store := start
  log : List Entry := []

def Course.next (quota : Pool → Nat) (course : Course) (turn : Turn) : Course :=
  let (store, entries) := course.store.turn quota turn
  { course with store, log := course.log ++ entries }

def Store.course (quota : Pool → Nat) (start : Store) (turns : List Turn) : Course :=
  turns.foldl (Course.next quota) { start }

namespace Course

def ever (course : Course) : List Observation :=
  course.start.observations.rows ++ course.log.filterMap Entry.row?

def everIn (course : Course) (pool : Pool) : List Observation :=
  course.ever.filter pool.holdsObservation

def liveIn (course : Course) (pool : Pool) : List Observation :=
  course.store.observations.rows.filter pool.holdsObservation

def evictedFrom (course : Course) (pool : Pool) : List Int :=
  course.log.flatMap (Entry.idsFrom pool)

/-- The last pass over the pool comes after the last insert into it. -/
def Settled (course : Course) (pool : Pool) : Prop :=
  ∃ early ids late, course.log = early ++ .passed pool ids :: late ∧
    ∀ row, .inserted row ∈ late → pool.holdsObservation row = false

end Course

def Entry.settles (pool : Pool) : List Entry → Bool
  | [] => false
  | entry :: rest =>
    settles pool rest || match entry with
      | .inserted _ => false
      | .passed other _ =>
        other = pool && (rest.filterMap row?).all fun row => !pool.holdsObservation row

theorem Entry.mem_inserted_iff {log : List Entry} {row : Observation} :
    .inserted row ∈ log ↔ row ∈ log.filterMap row? := by
  rw [List.mem_filterMap]
  constructor
  · exact fun member => ⟨.inserted row, member, rfl⟩
  · rintro ⟨entry, member, same⟩
    cases entry with
    | inserted other =>
        cases same
        exact member
    | passed pool ids => cases same

theorem Entry.settles_iff (pool : Pool) (log : List Entry) :
    settles pool log = true ↔ ∃ early ids late, log = early ++ .passed pool ids :: late ∧
      ∀ row, .inserted row ∈ late → pool.holdsObservation row = false := by
  induction log with
  | nil => simp [settles]
  | cons entry rest ih =>
      simp only [settles, Bool.or_eq_true, ih]
      constructor
      · rintro (⟨early, ids, late, rfl, quiet⟩ | here)
        · exact ⟨entry :: early, ids, late, rfl, quiet⟩
        · cases entry with
          | inserted row => cases here
          | passed other ids =>
              simp only [Bool.and_eq_true, decide_eq_true_eq, List.all_eq_true,
                Bool.not_eq_true'] at here
              obtain ⟨rfl, quiet⟩ := here
              exact ⟨[], ids, rest, rfl, fun row member => quiet row (mem_inserted_iff.mp member)⟩
      · rintro ⟨early, ids, late, whole, quiet⟩
        cases early with
        | nil =>
            cases whole
            refine Or.inr ?_
            simp only [decide_true, Bool.true_and, List.all_eq_true, Bool.not_eq_true']
            exact fun row member => quiet row (mem_inserted_iff.mpr member)
        | cons first early =>
            cases whole
            exact Or.inl ⟨early, ids, late, rfl, quiet⟩

instance (course : Course) (pool : Pool) : Decidable (course.Settled pool) :=
  decidable_of_iff _ (Entry.settles_iff pool course.log)

/-- The live rows are the newest that there ever were, and each of the others is reported
once. -/
structure HoldsNewest (keep : Nat) (ever live : List Observation) (evicted : List Int) :
    Prop where
  part : live.Sublist ever
  size : live.length = min keep ever.length
  newest : ∀ kept ∈ live, ∀ gone ∈ ever, gone ∉ live → newer kept gone = true
  reported : evicted.Perm ((ever.filter (· ∉ live)).map (·.id))
  once : evicted.Nodup

theorem Pool.holdsObservation_unique {first second : Pool} {o : Observation}
    (one : first.holdsObservation o = true) (other : second.holdsObservation o = true) :
    first = second := by
  cases first <;> cases second <;> simp_all [Pool.holdsObservation]

theorem Pool.exists_holdsObservation (o : Observation) :
    ∃ pool : Pool, pool.holdsObservation o = true := by
  cases scope : o.scope with
  | project => exact ⟨.project o.project, by simp [Pool.holdsObservation, scope]⟩
  | everywhere => exact ⟨.everywhere, by simp [Pool.holdsObservation, scope]⟩

theorem append_rest_perm [DecidableEq α] {part whole : List α} (once : whole.Nodup)
    (inside : part.Sublist whole) : (part ++ whole.filter (· ∉ part)).Perm whole := by
  have same : part.Perm (whole.filter (· ∈ part)) := by
    rw [List.perm_ext_iff_of_nodup (once.sublist inside) (once.filter _)]
    intro item
    rw [List.mem_filter, decide_eq_true_eq]
    exact ⟨fun member => ⟨inside.subset member, member⟩, fun member => member.2⟩
  refine (same.append_right _).trans ?_
  simpa using List.filter_append_perm (· ∈ part) whole

def Pool.excess (pool : Pool) (keep : Nat) (rows : List Observation) : List Int :=
  (beyondQuota keep (rows.filter pool.holdsObservation)).map (·.id)

theorem Pool.mem_excess_iff {pool : Pool} {keep : Nat} {rows : List Observation}
    (once : (rows.map (·.id)).Nodup) {o : Observation} (live : o ∈ rows) :
    o.id ∈ pool.excess keep rows ↔ pool.holdsObservation o = true ∧
      keep ≤ rank (rows.filter pool.holdsObservation) o :=
  id_mem_evicted_iff once live pool.holdsObservation keep

theorem Pool.taken_perm (pool : Pool) (keep : Nat) {rows : List Observation}
    (once : (rows.map (·.id)).Nodup) :
    ((rows.filter pool.holdsObservation).filter fun o => o.id ∈ pool.excess keep rows).Perm
      (beyondQuota keep (rows.filter pool.holdsObservation)) := by
  have own := ids_filter_nodup once pool.holdsObservation
  refine List.Perm.trans ?_ (beyondQuota_perm own keep).symm
  apply List.Perm.of_eq
  apply List.filter_congr
  intro o present
  obtain ⟨live, held⟩ := List.mem_filter.mp present
  simp only [Pool.mem_excess_iff once live, held, true_and]

theorem Pool.other_untouched {pool other : Pool} (differ : pool ≠ other) (keep : Nat)
    {rows : List Observation} (once : (rows.map (·.id)).Nodup) :
    (rows.filter fun o => !(o.id ∈ pool.excess keep rows)).filter other.holdsObservation =
      rows.filter other.holdsObservation := by
  rw [List.filter_filter]
  refine List.filter_congr fun o live => ?_
  cases held : other.holdsObservation o with
  | false => rfl
  | true =>
      have outside : o.id ∉ pool.excess keep rows := by
        rw [Pool.mem_excess_iff once live]
        rintro ⟨inside, -⟩
        exact differ (Pool.holdsObservation_unique inside held)
      simp [outside]

theorem Pool.excess_account (pool other : Pool) (keep : Nat) {rows : List Observation}
    (once : (rows.map (·.id)).Nodup) :
    (((rows.filter fun o => !(o.id ∈ pool.excess keep rows)).filter
      other.holdsObservation).map (·.id) ++
        if pool = other then pool.excess keep rows else []).Perm
      ((rows.filter other.holdsObservation).map (·.id)) := by
  by_cases same : pool = other
  · subst same
    rw [if_pos rfl, List.filter_comm, Pool.excess, ← List.map_append]
    refine List.Perm.map _ (((pool.taken_perm keep once).symm.append_left _).trans ?_)
    exact List.perm_append_comm.trans (List.filter_append_perm _ _)
  · rw [if_neg same, Pool.other_untouched same keep once, List.append_nil]

namespace Store

theorem storeObservation_ok {draft : ObservationDraft} {number : Option Int}
    {occasion : Occasion} {store after : Store} {stored : Stored}
    (ran : (storeObservation draft number occasion).run store = .ok (stored, after)) :
    stored.id = (store.observations.lastId + 1 : Nat) ∧
      after.observations =
        store.observations.insert (observationOf draft number occasion) := by
  obtain ⟨session, opened, first, ran⟩ := Transaction.bind_ok ran
  obtain ⟨sessions, last, rfl⟩ := upsertSession_ok first
  obtain ⟨-, id, rfl⟩ := Submission.insertObservation_ok ran
  exact ⟨id, rfl⟩

theorem evict_observation_ok {store after : Store} {pool : Pool} {keep : Nat}
    {deadline : Deadline} {ids : List Int}
    (ran : store.evict .observation pool keep deadline = .ok (after, ids)) :
    ids = pool.excess keep store.observations.rows ∧
      after = { store with observations := store.observations.remove ids } := by
  cases passed : store.observations.evict pool.holdsObservation keep deadline with
  | error failure =>
      simp only [evict, passed] at ran
      cases ran
  | ok pair =>
      simp only [evict, passed] at ran
      cases ran
      obtain ⟨removed, taken⟩ := Table.evict_ok passed
      exact ⟨taken, by rw [removed]⟩

theorem turn_cases (quota : Pool → Nat) (store : Store) (turn : Turn) :
    store.turn quota turn = (store, []) ∨
    (∃ row after, store.turn quota turn = (after, [.inserted row]) ∧
      row.id = (store.observations.lastId + 1 : Nat) ∧
      after.observations.lastId = store.observations.lastId + 1 ∧
      after.observations.rows = store.observations.rows ++ [row]) ∨
    ∃ pool after, store.turn quota turn =
        (after, [.passed pool (pool.excess (quota pool) store.observations.rows)]) ∧
      after.observations.lastId = store.observations.lastId ∧
      after.observations.rows = store.observations.rows.filter fun o =>
        !(o.id ∈ pool.excess (quota pool) store.observations.rows) := by
  cases turn with
  | insert draft number occasion =>
      cases ran : (storeObservation draft number occasion).run store with
      | error failure => exact Or.inl (by simp only [turn, ran])
      | ok pair =>
          obtain ⟨stored, after⟩ := pair
          obtain ⟨id, written⟩ := storeObservation_ok ran
          refine Or.inr (Or.inl ⟨observationOf draft number occasion stored.id, after,
            by simp only [turn, ran], id, ?_, ?_⟩)
          · rw [written]
            rfl
          · rw [written, id]
            rfl
  | pass pool deadline =>
      cases ran : store.evict .observation pool (quota pool) deadline with
      | error failure => exact Or.inl (by simp only [turn, ran])
      | ok pair =>
          obtain ⟨after, ids⟩ := pair
          obtain ⟨rfl, removed⟩ := evict_observation_ok ran
          refine Or.inr (Or.inr ⟨pool, after, by simp only [turn, ran], ?_, ?_⟩)
          · rw [removed]
            rfl
          · rw [removed]
            rfl

end Store

namespace Course

variable {quota : Pool → Nat} {course : Course}

def insert (course : Course) (after : Store) (row : Observation) : Course :=
  { course with store := after, log := course.log ++ [.inserted row] }

def evict (course : Course) (after : Store) (pool : Pool) (ids : List Int) : Course :=
  { course with store := after, log := course.log ++ [.passed pool ids] }

theorem ever_insert (after : Store) (row : Observation) :
    (course.insert after row).ever = course.ever ++ [row] := by
  simp [ever, insert, Entry.row?]

theorem ever_evict (after : Store) (pool : Pool) (ids : List Int) :
    (course.evict after pool ids).ever = course.ever := by
  simp [ever, evict, Entry.row?]

theorem evictedFrom_insert (after : Store) (row : Observation) (pool : Pool) :
    (course.insert after row).evictedFrom pool = course.evictedFrom pool := by
  simp [evictedFrom, insert, Entry.idsFrom]

theorem evictedFrom_evict (after : Store) (pool other : Pool) (ids : List Int) :
    (course.evict after pool ids).evictedFrom other =
      course.evictedFrom other ++ if pool = other then ids else [] := by
  simp [evictedFrom, evict, Entry.idsFrom]

theorem settled_concat {after : Course} {entry : Entry} {pool : Pool}
    (logged : after.log = course.log ++ [entry]) (settled : after.Settled pool) :
    (∃ ids, entry = .passed pool ids) ∨
      (course.Settled pool ∧ ∀ row, entry = .inserted row → pool.holdsObservation row = false) := by
  obtain ⟨early, ids, late, whole, quiet⟩ := settled
  rw [logged] at whole
  rcases List.eq_nil_or_concat late with rfl | ⟨rest, last, rfl⟩
  · exact Or.inl ⟨ids, List.singleton_inj.mp (List.append_inj' whole rfl).2⟩
  · rw [List.concat_eq_append] at whole quiet
    rw [← List.cons_append, ← List.append_assoc] at whole
    obtain ⟨before, same⟩ := List.append_inj' whole rfl
    cases same
    refine Or.inr ⟨⟨early, ids, rest, before, ?_⟩, ?_⟩
    · exact fun row member => quiet row (List.mem_append_left _ member)
    · rintro row rfl
      exact quiet row (List.mem_append_right _ (List.mem_singleton_self _))

/-- What each turn preserves. Whatever is among the newest of its pool is live, and once a pass
has come after the last insert nothing else is. -/
structure Regular (quota : Pool → Nat) (course : Course) : Prop where
  ascending : (course.ever.map (·.id)).Pairwise (· < ·)
  bounded : ∀ o ∈ course.ever, o.id ≤ course.store.observations.lastId
  live : course.store.observations.rows.Sublist course.ever
  accounted : ∀ pool, ((course.liveIn pool).map (·.id) ++ course.evictedFrom pool).Perm
    ((course.everIn pool).map (·.id))
  spared : ∀ pool, ∀ o ∈ course.everIn pool, rank (course.everIn pool) o < quota pool →
    o ∈ course.store.observations.rows
  settled : ∀ pool, course.Settled pool → ∀ o ∈ course.liveIn pool,
    rank (course.everIn pool) o < quota pool

theorem Regular.once (regular : course.Regular quota) : (course.ever.map (·.id)).Nodup :=
  regular.ascending.imp fun below => Int.ne_of_lt below

theorem Regular.rows_once (regular : course.Regular quota) :
    (course.store.observations.rows.map (·.id)).Nodup :=
  regular.once.sublist (regular.live.map _)

theorem Regular.everIn_once (regular : course.Regular quota) (pool : Pool) :
    ((course.everIn pool).map (·.id)).Nodup :=
  ids_filter_nodup regular.once pool.holdsObservation

theorem Regular.liveIn_sublist (regular : course.Regular quota) (pool : Pool) :
    (course.liveIn pool).Sublist (course.everIn pool) :=
  regular.live.filter pool.holdsObservation

theorem Regular.start {start : Store} (sound : start.Sound) : Regular quota { start } where
  ascending := by
    have ascending := sound.ascending .observation
    rw [Store.ids_observation] at ascending
    simpa [ever] using ascending
  bounded o member := by
    have own : o.id ∈ start.ids .observation := by
      rw [Store.ids_observation]
      exact List.mem_map_of_mem (by simpa [ever] using member)
    exact (sound.bounds .observation o.id own).2
  live := by simp [ever]
  accounted pool := by simp [liveIn, everIn, ever, evictedFrom]
  spared pool o member _ := by
    have present := (List.mem_filter.mp member).1
    simpa [ever] using present
  settled pool settled := by
    obtain ⟨early, ids, late, unpassed, -⟩ := settled
    cases early <;> cases unpassed

theorem everIn_insert (after : Store) (row : Observation) (pool : Pool) :
    (course.insert after row).everIn pool =
      course.everIn pool ++ [row].filter pool.holdsObservation := by
  rw [everIn, ever_insert, List.filter_append]
  rfl

theorem everIn_evict (after : Store) (pool other : Pool) (ids : List Int) :
    (course.evict after pool ids).everIn other = course.everIn other := by
  rw [everIn, ever_evict]
  rfl

theorem liveIn_insert {after : Store} {row : Observation}
    (rows : after.observations.rows = course.store.observations.rows ++ [row]) (pool : Pool) :
    (course.insert after row).liveIn pool =
      course.liveIn pool ++ [row].filter pool.holdsObservation := by
  rw [liveIn, liveIn, ← List.filter_append, ← rows]
  rfl

theorem Regular.insert (regular : course.Regular quota) {after : Store} {row : Observation}
    (next : row.id = (course.store.observations.lastId + 1 : Nat))
    (last : after.observations.lastId = course.store.observations.lastId + 1)
    (rows : after.observations.rows = course.store.observations.rows ++ [row]) :
    (course.insert after row).Regular quota where
  ascending := by
    rw [ever_insert, List.map_append, List.pairwise_append]
    refine ⟨regular.ascending, List.pairwise_singleton _ _, ?_⟩
    intro id member new isNew
    obtain ⟨o, present, rfl⟩ := List.mem_map.mp member
    have bound := regular.bounded o present
    have same : new = row.id := List.mem_singleton.mp isNew
    omega
  bounded o member := by
    change o.id ≤ after.observations.lastId
    rw [ever_insert] at member
    rcases List.mem_append.mp member with present | new
    · have bound := regular.bounded o present
      omega
    · rw [List.mem_singleton.mp new]
      omega
  live := by
    change after.observations.rows.Sublist _
    rw [rows, ever_insert]
    exact regular.live.append_right _
  accounted pool := by
    rw [everIn_insert, liveIn_insert rows, evictedFrom_insert, List.map_append, List.map_append,
      List.append_assoc]
    refine (List.perm_append_comm.append_left _).trans ?_
    rw [← List.append_assoc]
    exact (regular.accounted pool).append_right _
  spared pool o member high := by
    change o ∈ after.observations.rows
    rw [rows]
    rw [everIn_insert] at member high
    rcases List.mem_append.mp member with present | new
    · refine List.mem_append_left _ (regular.spared pool o present ?_)
      exact Nat.lt_of_le_of_lt (rank_mono (List.sublist_append_left _ _) o) high
    · exact List.mem_append_right _ (List.mem_filter.mp new).1
  settled pool settled o member := by
    rcases settled_concat rfl settled with ⟨ids, same⟩ | ⟨before, elsewhere⟩
    · cases same
    · have without : [row].filter pool.holdsObservation = [] := by
        simp [elsewhere row rfl]
      rw [liveIn_insert rows, without, List.append_nil] at member
      rw [everIn_insert, without, List.append_nil]
      exact regular.settled pool before o member

/-- A pass takes nothing that is among the newest of its pool. -/
theorem Regular.spares (regular : course.Regular quota) (pool : Pool) {other : Pool}
    {o : Observation} (member : o ∈ course.everIn other)
    (high : rank (course.everIn other) o < quota other) :
    o.id ∉ pool.excess (quota pool) course.store.observations.rows := by
  rw [Pool.mem_excess_iff regular.rows_once (regular.spared other o member high)]
  rintro ⟨held, low⟩
  have same := Pool.holdsObservation_unique held (List.mem_filter.mp member).2
  subst same
  have counted := rank_mono (regular.liveIn_sublist pool) o
  change rank (course.store.observations.rows.filter pool.holdsObservation) o ≤ _ at counted
  omega

theorem Regular.high_of_left (regular : course.Regular quota) {pool : Pool} {o : Observation}
    (live : o ∈ course.store.observations.rows) (held : pool.holdsObservation o = true)
    (left : o.id ∉ pool.excess (quota pool) course.store.observations.rows) :
    rank (course.everIn pool) o < quota pool := by
  rw [Pool.mem_excess_iff regular.rows_once live] at left
  refine Nat.lt_of_not_le fun low => left ⟨held, ?_⟩
  refine le_rank_of_live (regular.everIn_once pool) ?_
    (List.mem_filter.mpr ⟨regular.live.subset live, held⟩) low
  intro row present high
  exact List.mem_filter.mpr
    ⟨regular.spared pool row present high, (List.mem_filter.mp present).2⟩

theorem Regular.evict (regular : course.Regular quota) {after : Store} {pool : Pool}
    (last : after.observations.lastId = course.store.observations.lastId)
    (rows : after.observations.rows = course.store.observations.rows.filter fun o =>
      !(o.id ∈ pool.excess (quota pool) course.store.observations.rows)) :
    (course.evict after pool
      (pool.excess (quota pool) course.store.observations.rows)).Regular quota where
  ascending := by
    rw [ever_evict]
    exact regular.ascending
  bounded o member := by
    change o.id ≤ after.observations.lastId
    rw [ever_evict] at member
    rw [last]
    exact regular.bounded o member
  live := by
    rw [ever_evict]
    change after.observations.rows.Sublist _
    rw [rows]
    exact List.filter_sublist.trans regular.live
  accounted other := by
    have account := Pool.excess_account pool other (quota pool) regular.rows_once
    rw [← rows] at account
    rw [everIn_evict, evictedFrom_evict]
    refine (List.perm_append_comm.append_left _).trans ?_
    rw [← List.append_assoc]
    exact (account.append_right _).trans (regular.accounted other)
  spared other o member high := by
    change o ∈ after.observations.rows
    rw [everIn_evict] at member high
    rw [rows, List.mem_filter]
    exact ⟨regular.spared other o member high, by simpa using regular.spares pool member high⟩
  settled other settled o member := by
    rw [everIn_evict]
    obtain ⟨live, held⟩ := List.mem_filter.mp member
    change o ∈ after.observations.rows at live
    rw [rows, List.mem_filter] at live
    rcases settled_concat rfl settled with ⟨ids, same⟩ | ⟨before, -⟩
    · cases same
      exact regular.high_of_left live.1 held (by simpa using live.2)
    · exact regular.settled other before o (List.mem_filter.mpr ⟨live.1, held⟩)

theorem Regular.next (regular : course.Regular quota) (turn : Turn) :
    (course.next quota turn).Regular quota := by
  rcases course.store.turn_cases quota turn with
    refused | ⟨row, after, came, next, last, rows⟩ | ⟨pool, after, came, last, rows⟩
  · simp only [Course.next, refused, List.append_nil]
    exact regular
  · simp only [Course.next, came]
    exact regular.insert next last rows
  · simp only [Course.next, came]
    exact regular.evict last rows

theorem Regular.after (regular : course.Regular quota) (turns : List Turn) :
    (turns.foldl (Course.next quota) course).Regular quota := by
  induction turns generalizing course with
  | nil => exact regular
  | cons turn rest ih => exact ih (regular.next turn)

theorem Regular.mem_liveIn_iff (regular : course.Regular quota) {pool : Pool}
    (settled : course.Settled pool) {o : Observation} :
    o ∈ course.liveIn pool ↔ o ∈ course.everIn pool ∧ rank (course.everIn pool) o < quota pool := by
  constructor
  · intro member
    obtain ⟨live, held⟩ := List.mem_filter.mp member
    exact ⟨List.mem_filter.mpr ⟨regular.live.subset live, held⟩,
      regular.settled pool settled o member⟩
  · rintro ⟨member, high⟩
    exact List.mem_filter.mpr
      ⟨regular.spared pool o member high, (List.mem_filter.mp member).2⟩

/-- A row that is left is newer than one that is gone. -/
theorem Regular.newer_of_gone (regular : course.Regular quota) {pool : Pool}
    (settled : course.Settled pool) {kept gone : Observation} (live : kept ∈ course.liveIn pool)
    (present : gone ∈ course.everIn pool) (absent : gone ∉ course.liveIn pool) :
    newer kept gone = true := by
  obtain ⟨member, high⟩ := (regular.mem_liveIn_iff settled).mp live
  have low : quota pool ≤ rank (course.everIn pool) gone := by
    refine Nat.le_of_not_lt fun high => absent ?_
    exact (regular.mem_liveIn_iff settled).mpr ⟨present, high⟩
  have distinct : kept.id ≠ gone.id := by
    intro same
    rw [List.inj_on_of_nodup_map (regular.everIn_once pool) member present same] at live
    exact absent live
  refine (newer_total distinct).resolve_right fun reversed => ?_
  have ranked : rank (course.everIn pool) gone ≤ rank (course.everIn pool) kept :=
    rank_le_of_newer reversed
  omega

theorem Regular.length_liveIn (regular : course.Regular quota) {pool : Pool}
    (settled : course.Settled pool) :
    (course.liveIn pool).length = min (quota pool) (course.everIn pool).length := by
  have whole : (course.everIn pool).Nodup := List.Nodup.of_map _ (regular.everIn_once pool)
  have same : (course.liveIn pool).Perm
      ((course.everIn pool).filter fun o => rank (course.everIn pool) o < quota pool) := by
    rw [List.perm_ext_iff_of_nodup (whole.sublist (regular.liveIn_sublist pool)) (whole.filter _)]
    intro o
    rw [regular.mem_liveIn_iff settled, List.mem_filter, decide_eq_true_eq]
  rw [same.length_eq]
  exact length_filter_rank (regular.everIn_once pool) (quota pool)

theorem Regular.holdsNewest (regular : course.Regular quota) {pool : Pool}
    (settled : course.Settled pool) :
    HoldsNewest (quota pool) (course.everIn pool) (course.liveIn pool)
      (course.evictedFrom pool) where
  part := regular.liveIn_sublist pool
  size := regular.length_liveIn settled
  newest _ live _ present absent := regular.newer_of_gone settled live present absent
  reported := by
    have split := append_rest_perm (List.Nodup.of_map _ (regular.everIn_once pool))
      (regular.liveIn_sublist pool)
    have total := (regular.accounted pool).trans (split.map _).symm
    rw [List.map_append, List.perm_append_left_iff] at total
    exact total
  once := ((regular.accounted pool).nodup_iff.mpr (regular.everIn_once pool)).sublist
    (List.sublist_append_right _ _)

end Course

end Recall
