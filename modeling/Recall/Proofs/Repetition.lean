import Recall.Proofs.Clusters
import Recall.Proofs.Courses
import Recall.Proofs.Effects
import Recall.Proofs.Refusals

namespace Recall

def Observation.seenFrom (project : String) (o : Observation) : Bool :=
  o.scope = .everywhere || (o.scope = .project && o.project = project)

namespace Store

def seenFrom (store : Store) (project : String) : List Observation :=
  store.observations.rows.filter (·.seenFrom project)

/-- Of all that the project sees, superseded or not, fewer observations than the window allows
are newer than this one. -/
structure Recent (store : Store) (project : String) (window : Nat) (o : Observation) : Prop where
  live : o ∈ store.observations.rows
  seen : o.seenFrom project = true
  rank : rank (store.seenFrom project) o < window

theorem admits_visibleTo (project : String) :
    (ObservationFilter.visibleTo project).admits = (·.seenFrom project) := by
  funext o
  cases scope : o.scope <;>
    simp [ObservationFilter.admits, ObservationFilter.visibleTo, Observation.seenFrom, scope]

theorem Sound.seenFrom_once {store : Store} (sound : store.Sound) (project : String) :
    ((store.seenFrom project).map Row.id).Nodup := by
  have once := sound.nodup .observation
  rw [ids_observation] at once
  exact ids_filter_nodup once _

theorem mem_recentObservations_iff {store : Store} (sound : store.Sound) {project : String}
    {window : Nat} {o : Observation} :
    o ∈ store.recentObservations project window ↔ store.Recent project window o := by
  have recent : store.Recent project window o ↔
      o ∈ store.seenFrom project ∧ rank (store.seenFrom project) o < window := by
    constructor
    · rintro ⟨live, seen, high⟩
      exact ⟨List.mem_filter.mpr ⟨live, seen⟩, high⟩
    · rintro ⟨present, high⟩
      exact ⟨(List.mem_filter.mp present).1, (List.mem_filter.mp present).2, high⟩
  rw [recent]
  simp only [recentObservations, listObservations, admits_visibleTo, limited]
  split
  · exact mem_newest_iff (sound.seenFrom_once project) window
  · rename_i endless
    have counted : rank (store.seenFrom project) o ≤ store.observations.rows.length :=
      Nat.le_trans List.countP_le_length (List.length_filter_le _ _)
    have few := sound.length_lt .observation
    rw [ids_observation, List.length_map] at few
    rw [List.mem_mergeSort]
    exact ⟨fun present => ⟨present, by omega⟩, fun both => both.1⟩

theorem repeatsRecent_iff {store : Store} (sound : store.Sound) {settings : RetentionSettings}
    {draft : ObservationDraft} {project : String} :
    store.repeatsRecent settings draft project = true ↔
      ∃ o, store.Recent project settings.dedupWindow o ∧
        Similarity.similar settings.dedupThreshold (Similarity.terms draft.content)
          (Similarity.terms o.content) = true := by
  simp only [repeatsRecent, Similarity.similarToAny, List.any_map, List.any_eq_true,
    Function.comp_apply, mem_recentObservations_iff sound]

theorem writeNewObservation_none_iff {store : Store} {settings : RetentionSettings}
    {draft : ObservationDraft} {number : Option Int} {occasion : Occasion} :
    (store.writeNewObservation settings draft number occasion).result = .ok none ↔
      store.repeatsRecent settings draft occasion.project = true := by
  simp only [writeNewObservation]
  split
  · rename_i repeated
    exact ⟨fun _ => repeated, fun _ => rfl⟩
  · rename_i new
    constructor
    · intro passed
      obtain ⟨stored, -, same⟩ := Except.map_ok_iff.mp passed
      cases same
    · intro repeated
      exact absurd repeated new

end Store

namespace Similarity

theorem overlap_self (terms : List String) : (overlap terms terms).toDouble = 1 := by
  cases terms with
  | nil => rfl
  | cons first rest =>
      have whole : (first :: rest).countP ((first :: rest).contains ·) = (first :: rest).length :=
        List.countP_eq_length.mpr fun term member => List.contains_iff_mem.mpr member
      have shared : overlap (first :: rest) (first :: rest) =
          ⟨(first :: rest).length, (first :: rest).length⟩ := by
        simp only [overlap, whole, Nat.add_sub_cancel]
        rfl
      rw [shared]
      simp [Overlap.toDouble]

theorem similar_self {threshold : Float} (low : Number.atMost threshold 1 = true)
    (terms : List String) : similar threshold terms terms = true := by
  rw [similar, overlap_self]
  exact low

end Similarity

structure RetentionSettings.Attentive (settings : RetentionSettings) : Prop where
  threshold : Number.atMost settings.dedupThreshold 1 = true
  window : 0 < settings.dedupWindow
  observationsPerProject : 0 < settings.observationsPerProject
  observationsEverywhere : 0 < settings.observationsEverywhere

theorem RetentionSettings.Attentive.quota_pos {settings : RetentionSettings}
    (attentive : settings.Attentive) {pool : Pool} {keep : Nat}
    (quota : settings.quota .observation pool = .ok keep) : 0 < keep := by
  cases pool with
  | project name =>
      cases quota
      exact attentive.observationsPerProject
  | everywhere =>
      cases quota
      exact attentive.observationsEverywhere

namespace Store

theorem passAfterWrite_spares {settings : RetentionSettings} {store : Store} {pool : Pool}
    (once : (store.observations.rows.map (·.id)).Nodup) {o : Observation}
    (live : o ∈ store.observations.rows)
    (high : ∀ keep, settings.quota .observation pool = .ok keep →
      rank (store.observations.rows.filter pool.holdsObservation) o < keep) :
    o ∈ (store.passAfterWrite settings .observation pool).1.observations.rows := by
  simp only [passAfterWrite]
  split
  · exact live
  · rename_i keep quota
    split
    · rename_i after ids ran
      obtain ⟨rfl, rfl⟩ := evict_observation_ok ran
      have spared : Row.id o ∉ pool.excess keep store.observations.rows := by
        change o.id ∉ _
        rw [Pool.mem_excess_iff once live]
        rintro ⟨-, low⟩
        exact absurd (high keep quota) (Nat.not_lt.mpr low)
      exact List.mem_filter.mpr ⟨live, by simpa using spared⟩
    · exact live

theorem passAfterWrite_sublist (settings : RetentionSettings) (store : Store) (pool : Pool) :
    (store.passAfterWrite settings .observation pool).1.observations.rows.Sublist
      store.observations.rows := by
  obtain ⟨ids, passed, -⟩ := store.passAfterWrite_eq settings .observation pool
  rw [passed]
  exact List.filter_sublist

theorem seenFrom_of_pool {draft : ObservationDraft} {project : String} {o : Observation}
    (held : (poolOf draft project).holdsObservation o = true) : o.seenFrom project = true := by
  cases scope : draft.resolvedScope <;>
    simp_all [poolOf, Pool.holdsObservation, Observation.seenFrom]

theorem observationOf_held (draft : ObservationDraft) (number : Option Int) (occasion : Occasion)
    (id : Int) : (poolOf draft occasion.project).holdsObservation
      (observationOf draft number occasion id) = true := by
  cases scope : draft.resolvedScope <;>
    simp [poolOf, scope, Pool.holdsObservation, observationOf]

/-- Written at a time that no observation is past, a row is the newest that its project sees,
and the pass after the write leaves it there. -/
theorem stored_recent {settings : RetentionSettings} {store mid : Store} (sound : store.Sound)
    {draft : ObservationDraft} {number : Option Int} {occasion : Occasion} {stored : Stored}
    (ran : (storeObservation draft number occasion).run store = .ok (stored, mid))
    (latest : ∀ o ∈ store.seenFrom occasion.project, o.createdAt ≤ occasion.now)
    (attentive : settings.Attentive) :
    (mid.passAfterWrite settings .observation (poolOf draft occasion.project)).1.Recent
      occasion.project settings.dedupWindow (observationOf draft number occasion stored.id) := by
  let row := observationOf draft number occasion stored.id
  let pool := poolOf draft occasion.project
  obtain ⟨id, written⟩ := storeObservation_ok ran
  have rows : mid.observations.rows = store.observations.rows ++ [row] := by
    rw [written, Table.insert, ← id]
  have live : row ∈ mid.observations.rows := by
    rw [rows]
    exact List.mem_append_right _ (List.mem_singleton_self row)
  have held : pool.holdsObservation row = true := observationOf_held draft number occasion _
  have seen : row.seenFrom occasion.project = true := seenFrom_of_pool held
  have writes : (Submission.observation draft number).Writes occasion store mid stored :=
    Submission.transaction_writes ran
  have once : (mid.observations.rows.map (·.id)).Nodup := by
    rw [← ids_observation]
    exact (writes.stores.sound sound).nodup .observation
  -- No row is of a later time, and none of the same time has a greater id.
  have topmost : rank (mid.seenFrom occasion.project) row = 0 := by
    apply List.countP_eq_zero.mpr
    intro o present above
    obtain ⟨there, seen⟩ := List.mem_filter.mp present
    rw [rows, List.mem_append, List.mem_singleton] at there
    rcases there with earlier | rfl
    · have past : o.createdAt ≤ occasion.now := latest o (List.mem_filter.mpr ⟨earlier, seen⟩)
      have used : o.id ≤ store.observations.lastId := by
        have known := sound.bounds .observation o.id
        rw [ids_observation] at known
        exact (known (List.mem_map_of_mem earlier)).2
      rw [newer_iff] at above
      change occasion.now < o.createdAt ∨ (o.createdAt = occasion.now ∧ stored.id < o.id) at above
      omega
    · rw [newer_irrefl] at above
      cases above
  have inPool : (mid.observations.rows.filter pool.holdsObservation).Sublist
      (mid.seenFrom occasion.project) :=
    List.monotone_filter_right _ fun o => seenFrom_of_pool
  refine ⟨passAfterWrite_spares once live ?_, seen, ?_⟩
  · intro keep quota
    calc
      rank (mid.observations.rows.filter pool.holdsObservation) row ≤
          rank (mid.seenFrom occasion.project) row := rank_mono inPool row
      _ = 0 := topmost
      _ < keep := attentive.quota_pos quota
  · calc
      rank ((mid.passAfterWrite settings .observation pool).1.seenFrom occasion.project) row ≤
          rank (mid.seenFrom occasion.project) row :=
        rank_mono ((passAfterWrite_sublist settings mid pool).filter _) row
      _ = 0 := topmost
      _ < settings.dedupWindow := attentive.window

end Store

namespace Engine

theorem recordNewObservation_eq (engine : Engine) (draft : ObservationDraft)
    (number : Option Int) (occasion : Occasion) :
    engine.recordNewObservation draft number occasion =
      if engine.store.repeatsRecent engine.retention draft occasion.project then
        { engine, result := .ok none }
      else (engine.recordObservation draft number occasion).map some := by
  change engine.record occasion (.newObservation draft number) =
    if _ then _ else engine.record occasion (.observation draft number)
  rw [record_eq, record_eq, written_eq_ite, written_eq_ite]
  cases repeated : engine.store.repeatsRecent engine.retention draft occasion.project with
  | true =>
      have passed : Submission.repeats engine occasion (.newObservation draft number) = true :=
        repeated
      rw [if_pos passed, if_pos rfl]
      exact engine.settleIndexed_unanswered _ _ fun stored same => by cases same
  | false =>
      have new : Submission.repeats engine occasion (.newObservation draft number) = false :=
        repeated
      rw [new]
      rfl

theorem recordNewObservation_none_iff {engine : Engine} {draft : ObservationDraft}
    {number : Option Int} {occasion : Occasion} :
    (engine.recordNewObservation draft number occasion).result = .ok none ↔
      engine.store.repeatsRecent engine.retention draft occasion.project = true := by
  have written : (engine.recordNewObservation draft number occasion).result =
      (engine.storeNewObservation draft number occasion).result :=
    engine.record_result occasion (.newObservation draft number)
  rw [written]
  exact Store.writeNewObservation_none_iff

theorem record_retention (engine : Engine) (occasion : Occasion) (submission : Submission) :
    (engine.record occasion submission).engine.retention = engine.retention :=
  engine.perform_retention (.record submission occasion)

theorem record_sound {engine : Engine} (sound : engine.store.Sound) (occasion : Occasion)
    (submission : Submission) : (engine.record occasion submission).engine.store.Sound :=
  (engine.perform_effect (.record submission occasion)).sound sound

theorem record_store (engine : Engine) (occasion : Occasion) (submission : Submission) :
    (engine.record occasion submission).engine.store =
      (engine.storeOnly occasion submission).engine.store :=
  (engine.record_sameStore occasion submission).1.store

theorem repeats_recorded {engine : Engine} (sound : engine.store.Sound)
    {draft : ObservationDraft} {number : Option Int} {occasion : Occasion} {stored : Stored}
    (recorded : (engine.recordObservation draft number occasion).result = .ok stored)
    (latest : ∀ o ∈ engine.store.seenFrom occasion.project, o.createdAt ≤ occasion.now)
    (attentive : engine.retention.Attentive) :
    (engine.recordObservation draft number occasion).engine.store.repeatsRecent
      engine.retention draft occasion.project = true := by
  let submission := Submission.observation draft number
  have answer : (engine.storeOnly occasion submission).result = .ok (some stored) := by
    rw [← record_result]
    exact congrArg (Except.map some) recorded
  have reached : (engine.recordObservation draft number occasion).engine.store =
      (engine.storeOnly occasion submission).engine.store :=
    engine.record_store occasion submission
  have after := engine.record_sound sound occasion submission
  rw [record_store] at after
  rw [reached, Store.repeatsRecent_iff after]
  rcases engine.storeOnly_cases occasion submission with
    ⟨refused, whole, nothing⟩ | ⟨other, mid, ids, ran, passed, -, whole⟩
  · rw [whole] at answer
    exact absurd answer (nothing stored)
  · have left : (engine.storeOnly occasion submission).engine.store =
        (mid.passAfterWrite engine.retention .observation
          (Store.poolOf draft occasion.project)).1 := by
      rw [whole]
      exact ((engine.evicting_sameStore mid .observation ids).store).trans
        (congrArg Prod.fst passed).symm
    rw [left]
    exact ⟨_, Store.stored_recent sound ran latest attentive,
      Similarity.similar_self attentive.threshold _⟩

/-- Recording an observation if it is new passes it over exactly when a recent one is similar,
and then nothing at all changes; otherwise it is recorded as any other. So it is passed over
right after it was recorded, either way, unless the clock stood back. -/
theorem recordNew_passes_over_repetitions (engine : Engine) (sound : engine.store.Sound)
    (draft : ObservationDraft) (number : Option Int) (occasion : Occasion) :
    let outcome := engine.recordNewObservation draft number occasion
    let recorded := (engine.recordObservation draft number occasion).map some
    (outcome.result = .ok none ↔
      ∃ o, engine.store.Recent occasion.project engine.retention.dedupWindow o ∧
        Similarity.similar engine.retention.dedupThreshold (Similarity.terms draft.content)
          (Similarity.terms o.content) = true) ∧
    (outcome.result = .ok none → outcome = { engine, result := .ok none, evictions := [] }) ∧
    (outcome.result ≠ .ok none → outcome = recorded) ∧
    (engine.retention.Attentive →
      (∀ o ∈ engine.store.seenFrom occasion.project, o.createdAt ≤ occasion.now) →
      ∀ first stored, first = outcome ∨ first = recorded → first.result = .ok (some stored) →
      ∀ (again : Occasion) (numberAgain : Option Int), again.project = occasion.project →
        first.engine.recordNewObservation draft numberAgain again =
          { engine := first.engine, result := .ok none, evictions := [] }) := by
  intro outcome recorded
  have whole : outcome = if engine.store.repeatsRecent engine.retention draft occasion.project
      then { engine, result := .ok none } else recorded :=
    engine.recordNewObservation_eq draft number occasion
  have passed : outcome.result = .ok none ↔ _ := recordNewObservation_none_iff
  refine ⟨passed.trans (Store.repeatsRecent_iff sound), ?_, ?_, ?_⟩
  · intro skipped
    rw [whole, if_pos (passed.mp skipped)]
  · intro kept
    rw [whole, if_neg (fun repeated => kept (passed.mpr repeated))]
  · intro attentive latest first stored either written again numberAgain same
    have alike : first = recorded := by
      rcases either with rfl | rfl
      · rw [whole, if_neg]
        intro repeated
        rw [passed.mpr repeated] at written
        cases written
      · rfl
    subst alike
    obtain ⟨other, known, answer⟩ := Except.map_ok_iff.mp written
    have repeated := repeats_recorded sound known latest attentive
    have settings : recorded.engine.retention = engine.retention :=
      engine.record_retention occasion (.observation draft number)
    rw [recordNewObservation_eq, same, settings]
    exact if_pos repeated

end Engine

def echo : ObservationDraft :=
  { content := { type := .bugfix, title := some "to an index", filesRead := ["src/Index"] } }

theorem echo_passed_over :
    let evening : Occasion := { sessionKey := "evening", project := "project", now := 2 }
    let night : Occasion := { sessionKey := "night", project := "project", now := 1 }
    let recorded := begun.recordNewObservation echo none evening
    begun.store.Sound ∧ recorded.result = .ok (some ⟨2, 2⟩) ∧
      recorded.engine.recordNewObservation echo (some 7) night =
        { engine := recorded.engine, result := .ok none, evictions := [] } := by
  intro evening night recorded
  have sound : begun.store.Sound := Engine.after_sound {} _ Store.sound_empty
  have written : recorded.result = .ok (some ⟨2, 2⟩) := by decide +kernel
  have latest : ∀ o ∈ begun.store.seenFrom evening.project, o.createdAt ≤ evening.now := by
    decide +kernel
  have contract := Engine.recordNew_passes_over_repetitions begun sound echo none evening
  have attentive : begun.retention.Attentive :=
    ⟨by decide +kernel, by decide +kernel, by decide +kernel, by decide +kernel⟩
  exact ⟨sound, written, contract.2.2.2 attentive latest recorded _ (Or.inl rfl) written night
    (some 7) rfl⟩

end Recall
