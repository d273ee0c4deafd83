import Mathlib.Data.List.Induction
import Recall.Proofs.Quotas

namespace Recall

namespace Step

def handedOut (kind : RecordKind) (step : Step) : List Int :=
  match step.operation.submission?, step.outcome.result with
  | some submission, .ok (.stored (some stored)) =>
    if submission.kind = kind then [stored.id] else []
  | _, _ => []

def evicted (kind : RecordKind) (step : Step) : List Int :=
  (step.outcome.evictions.filter (·.kind = kind)).flatMap (·.ids)

def deleted (kind : RecordKind) (step : Step) : List Int :=
  match step.operation with
  | .delete other ids =>
    if other = kind then (step.before.store.ids kind).filter (· ∈ ids) else []
  | _ => []

end Step

def handedOutIn (history : List Step) (kind : RecordKind) : List Int :=
  history.flatMap (Step.handedOut kind)

def evictedIn (history : List Step) (kind : RecordKind) : List Int :=
  history.flatMap (Step.evicted kind)

def deletedIn (history : List Step) (kind : RecordKind) : List Int :=
  history.flatMap (Step.deleted kind)

namespace Store

/-- Every id that was handed out is in one of three places, and in that one once. -/
structure Accounts (store : Store) (history : List Step) (kind : RecordKind) : Prop where
  once : (store.ids kind ++ evictedIn history kind ++ deletedIn history kind).Nodup
  complete : ∀ id, id ∈ handedOutIn history kind ↔
    id ∈ store.ids kind ++ evictedIn history kind ++ deletedIn history kind

theorem ids_delete_append_perm {store : Store} {ids : List Int} {kind : RecordKind}
    (sound : store.Sound) (part : ids.Subperm (store.ids kind)) :
    ((store.delete ids kind).ids kind ++ ids).Perm (store.ids kind) := by
  have live := sound.nodup kind
  obtain ⟨taken, same, within⟩ := part
  have once : ids.Nodup := (live.sublist within).perm same
  have named : ((store.ids kind).filter (· ∈ ids)).Perm ids := by
    rw [List.perm_ext_iff_of_nodup (live.filter _) once]
    intro id
    simp only [List.mem_filter, decide_eq_true_eq, and_iff_right_iff_imp]
    exact fun member => within.subset (same.mem_iff.mpr member)
  have whole := (List.filter_append_perm (· ∈ ids) (store.ids kind)).symm
  rw [ids_delete, if_pos rfl]
  exact (named.symm.append_left _).trans (List.perm_append_comm.trans whole.symm)

theorem ids_delete_append_deleted_perm (store : Store) (ids : List Int) (kind : RecordKind) :
    ((store.delete ids kind).ids kind ++ (store.ids kind).filter (· ∈ ids)).Perm
      (store.ids kind) := by
  rw [ids_delete, if_pos rfl]
  exact List.perm_append_comm.trans (List.filter_append_perm (· ∈ ids) (store.ids kind))

end Store

/-- The ids that a step makes new, and what becomes of those there are. -/
structure Step.Balances (step : Step) (kind : RecordKind) (fresh : List Int) : Prop where
  total : (step.outcome.engine.store.ids kind ++ step.evicted kind ++ step.deleted kind).Perm
    (step.before.store.ids kind ++ fresh)
  once : fresh.Nodup
  next : ∀ id ∈ fresh, step.before.store.lastId kind < id ∧
    id ≤ step.outcome.engine.store.lastId kind
  known : ∀ id ∈ step.handedOut kind, id ∈ step.before.store.ids kind ++ fresh
  told : ∀ id ∈ fresh, id ∈ step.handedOut kind

theorem evicted_of_reported {step : Step} {other : RecordKind} {ids : List Int}
    (reported : step.outcome.evictions = Store.evictionsOf other ids) (kind : RecordKind) :
    step.evicted kind = if other = kind then ids else [] := by
  simp only [Step.evicted, reported, Store.evictionsOf]
  cases ids with
  | nil => simp
  | cons first rest => by_cases same : other = kind <;> simp [same]

theorem handedOut_of_quiet {step : Step}
    (quiet : ∀ stored, step.outcome.result ≠ .ok (.stored (some stored))) (kind : RecordKind) :
    step.handedOut kind = [] := by
  simp only [Step.handedOut]
  split
  · rename_i stored _ answered
    exact absurd answered (quiet stored)
  · rfl

theorem handedOut_of_answered {step : Step} {submission : Submission} {stored : Stored}
    (asked : step.operation.submission? = some submission)
    (answered : step.outcome.result = .ok (.stored (some stored))) (kind : RecordKind) :
    step.handedOut kind = if submission.kind = kind then [stored.id] else [] := by
  simp only [Step.handedOut, asked, answered]

theorem deleted_of_spared {step : Step} (spares : ∀ kind ids, step.operation ≠ .delete kind ids)
    (kind : RecordKind) : step.deleted kind = [] := by
  simp only [Step.deleted]

theorem deleted_of_submission {step : Step} {submission : Submission}
    (asked : step.operation.submission? = some submission) (kind : RecordKind) :
    step.deleted kind = [] := by
  apply deleted_of_spared
  intro other ids same
  rw [same] at asked
  cases asked

/-- The record comes under a fresh id, or a prompt is saved anew under its old one; then the
pass moves ids from the store to the report. -/
theorem balances_of_stores {step : Step} {submission : Submission} {occasion : Occasion}
    {stored : Stored} {mid : Store} {ids : List Int} (sound : step.before.store.Sound)
    (asked : step.operation.submission? = some submission)
    (stores : submission.Stores occasion step.before.store stored mid)
    (deleted : step.outcome.engine.store = mid.delete ids submission.kind)
    (part : ids.Subperm (mid.ids submission.kind))
    (answered : step.outcome.result = .ok (.stored (some stored)))
    (reported : step.outcome.evictions = Store.evictionsOf submission.kind ids)
    (kind : RecordKind) : ∃ fresh, step.Balances kind fresh := by
  have handed := handedOut_of_answered asked answered kind
  have moved : (step.outcome.engine.store.ids kind ++ step.evicted kind ++
      step.deleted kind).Perm (mid.ids kind) := by
    rw [deleted, evicted_of_reported reported, deleted_of_submission asked, List.append_nil]
    by_cases same : submission.kind = kind
    · subst same
      rw [if_pos rfl]
      exact Store.ids_delete_append_perm (stores.sound sound) part
    · rw [if_neg same, List.append_nil, Store.ids_delete, if_neg (Ne.symm same)]
  have last : step.outcome.engine.store.lastId kind = mid.lastId kind := by
    rw [deleted, Store.lastId_delete]
  rcases stores with ⟨keeps, present⟩ | adds
  · -- A prompt that is saved anew is answered with the id that it has.
    refine ⟨[], ?_, List.nodup_nil, ?_, ?_, ?_⟩
    · rw [List.append_nil, ← keeps.ids kind]
      exact moved
    · intro id member
      cases member
    · intro id member
      rw [handed] at member
      split at member
      · rename_i same
        rw [List.mem_singleton.mp member, ← same, List.append_nil]
        exact present
      · cases member
    · intro id member
      cases member
  · by_cases same : submission.kind = kind
    · subst same
      rw [if_pos rfl] at handed
      have next := adds.next
      refine ⟨[stored.id], ?_, List.pairwise_singleton _ _, ?_, ?_, ?_⟩
      · rw [← adds.ids]
        exact moved
      · intro id member
        rw [List.mem_singleton.mp member, last, adds.lastId]
        change stored.id = _ at next
        omega
      · intro id member
        rw [handed] at member
        exact List.mem_append_right _ member
      · intro id member
        rw [handed]
        exact member
    · rw [if_neg same] at handed
      refine ⟨[], ?_, List.nodup_nil, ?_, ?_, ?_⟩
      · rw [List.append_nil, ← adds.ids_other (Ne.symm same)]
        exact moved
      · intro id member
        cases member
      · intro id member
        rw [handed] at member
        cases member
      · intro id member
        cases member

theorem balances_of_quiet {step : Step}
    (quiet : ∀ stored, step.outcome.result ≠ .ok (.stored (some stored))) {kind : RecordKind}
    (moved : (step.outcome.engine.store.ids kind ++ step.evicted kind ++
      step.deleted kind).Perm (step.before.store.ids kind)) : step.Balances kind [] where
  total := by
    rw [List.append_nil]
    exact moved
  once := List.nodup_nil
  next id member := by cases member
  known id member := by
    rw [handedOut_of_quiet quiet] at member
    cases member
  told id member := by cases member

theorem Step.balances (step : Step) (sound : step.before.store.Sound) (kind : RecordKind) :
    ∃ fresh, step.Balances kind fresh := by
  cases step.before.perform_effect step.operation with
  | keeps kept none quiet spares =>
      refine ⟨[], balances_of_quiet quiet ?_⟩
      have silent : step.evicted kind = [] := by
        simp only [Step.evicted, Step.outcome, none, List.filter_nil, List.flatMap_nil]
      rw [silent, deleted_of_spared spares, List.append_nil, List.append_nil]
      exact List.Perm.of_eq (kept.ids kind)
  | stores submission occasion stored mid ids asked stores passed deleted part answered
      reported =>
      exact balances_of_stores sound asked stores deleted part answered reported kind
  | deletes other ids asked deleted none quiet =>
      refine ⟨[], balances_of_quiet quiet ?_⟩
      have silent : step.evicted kind = [] := by
        simp only [Step.evicted, Step.outcome, none, List.filter_nil, List.flatMap_nil]
      have gone : step.deleted kind =
          if other = kind then (step.before.store.ids kind).filter (· ∈ ids) else [] := by
        simp only [Step.deleted, asked]
      rw [silent, List.append_nil, gone, Step.outcome, deleted]
      by_cases same : other = kind
      · subst same
        rw [if_pos rfl]
        exact Store.ids_delete_append_deleted_perm _ ids other
      · rw [if_neg same, List.append_nil, Store.ids_delete, if_neg (Ne.symm same)]
  | cleans other pool ids asked deleted part reported quiet =>
      refine ⟨[], balances_of_quiet quiet ?_⟩
      have spared : step.deleted kind = [] := by
        apply deleted_of_spared
        intro third named same
        rw [asked] at same
        cases same
      rw [evicted_of_reported reported, spared, List.append_nil, Step.outcome, deleted]
      by_cases same : other = kind
      · subst same
        rw [if_pos rfl]
        exact Store.ids_delete_append_perm sound part
      · rw [if_neg same, List.append_nil, Store.ids_delete, if_neg (Ne.symm same)]

theorem account_perm {live gone lost evicted deleted now fresh : List Int}
    (total : (now ++ evicted ++ deleted).Perm (live ++ fresh)) :
    (now ++ (gone ++ evicted) ++ (lost ++ deleted)).Perm (live ++ gone ++ lost ++ fresh) := by
  rw [List.perm_iff_count] at total ⊢
  intro id
  have counted := total id
  simp only [List.count_append] at counted ⊢
  omega

/-- A step extends an account. The bound keeps fresh ids apart from all earlier ones. -/
theorem Store.Accounts.extend {history : List Step} {step : Step} {kind : RecordKind}
    (sound : step.before.store.Sound) (accounts : step.before.store.Accounts history kind)
    (bounded : ∀ id ∈ handedOutIn history kind, id ≤ step.before.store.lastId kind) :
    step.outcome.engine.store.Accounts (history ++ [step]) kind ∧
      ∀ id ∈ handedOutIn (history ++ [step]) kind,
        id ≤ step.outcome.engine.store.lastId kind := by
  obtain ⟨fresh, total, single, next, known, told⟩ := step.balances sound kind
  have grown := (step.before.perform_effect step.operation).lastId_le kind
  have handed : handedOutIn (history ++ [step]) kind =
      handedOutIn history kind ++ step.handedOut kind := by
    simp only [handedOutIn, List.flatMap_append, List.flatMap_singleton]
  have whole : (step.outcome.engine.store.ids kind ++ evictedIn (history ++ [step]) kind ++
      deletedIn (history ++ [step]) kind).Perm
      ((step.before.store.ids kind ++ evictedIn history kind ++ deletedIn history kind) ++
        fresh) := by
    simp only [evictedIn, deletedIn, List.flatMap_append, List.flatMap_singleton]
    exact account_perm total
  have apart : ∀ id ∈ fresh, id ∉ handedOutIn history kind := by
    intro id isFresh old
    have bound := bounded id old
    have above := (next id isFresh).1
    omega
  refine ⟨⟨?_, ?_⟩, ?_⟩
  · rw [whole.nodup_iff, List.nodup_append]
    refine ⟨accounts.once, single, ?_⟩
    intro id old new isFresh same
    subst same
    exact apart id isFresh ((accounts.complete id).mpr old)
  · intro id
    rw [whole.mem_iff, handed, List.mem_append, List.mem_append, ← accounts.complete id]
    constructor
    · rintro (old | now)
      · exact Or.inl old
      · rcases List.mem_append.mp (known id now) with live | isFresh
        · refine Or.inl ((accounts.complete id).mpr ?_)
          exact List.mem_append_left _ (List.mem_append_left _ live)
        · exact Or.inr isFresh
    · rintro (old | isFresh)
      · exact Or.inl old
      · exact Or.inr (told id isFresh)
  · intro id member
    rw [handed, List.mem_append] at member
    rcases member with old | now
    · have bound := bounded id old
      change step.before.store.lastId kind ≤ step.outcome.engine.store.lastId kind at grown
      omega
    · rcases List.mem_append.mp (known id now) with live | isFresh
      · have bound := (sound.bounds kind id live).2
        change step.before.store.lastId kind ≤ step.outcome.engine.store.lastId kind at grown
        omega
      · exact (next id isFresh).2

theorem account_of_run (engine : Engine) (operations : List Operation) (kind : RecordKind)
    (empty : engine.store = {}) :
    (engine.after operations).store.Accounts (engine.history operations) kind ∧
      ∀ id ∈ handedOutIn (engine.history operations) kind,
        id ≤ (engine.after operations).store.lastId kind := by
  induction operations using List.reverseRecOn with
  | nil =>
      have bare : engine.store.ids kind = [] := by
        rw [empty]
        cases kind <;> rfl
      refine ⟨⟨?_, ?_⟩, ?_⟩
      · change (engine.store.ids kind ++ [] ++ []).Nodup
        rw [bare]
        exact List.nodup_nil
      · intro id
        change id ∈ [] ↔ id ∈ engine.store.ids kind ++ [] ++ []
        rw [bare]
        rfl
      · intro id member
        cases member
  | append_singleton operations operation ih =>
      have sound := engine.after_sound operations (by rw [empty]; exact Store.sound_empty)
      let step : Step := ⟨engine.after operations, operation⟩
      have extended : _ ∧ _ := Store.Accounts.extend (show step.before.store.Sound from sound)
        ih.1 ih.2
      rw [Engine.after_concat, Engine.history_concat]
      exact extended

/-- For every run from an empty store, and so after each operation of it. -/
theorem after_within_quotas_and_accounts (engine : Engine) (operations : List Operation)
    (empty : engine.store = {}) (inTime : engine.retention.timeoutSeconds ≠ 0) :
    (engine.after operations).store.WithinQuotas engine.retention ∧
      ∀ kind, (engine.after operations).store.Accounts (engine.history operations) kind := by
  constructor
  · exact Store.withinQuotas_of_pools (engine.after_within_quota operations empty inTime)
  · intro kind
    exact (account_of_run engine operations kind empty).1

def crowded : Engine where
  retention := {
    observationsPerProject := 1, observationsEverywhere := 0, prompts := 1, timeoutSeconds := 3 }

/-- Each quota is exceeded, a prompt is saved anew and a record is deleted. -/
def crowding : List Operation :=
  let occasion (now : Int) : Occasion := { sessionKey := "session", project := "project", now }
  let draft (scope : Scope) (narrative : String) : ObservationDraft :=
    { content := { type := .decision, narrative := some narrative }, scope := some scope }
  [.store (.observation (draft .project "first") none) (occasion 1),
    .record (.newObservation (draft .project "second") (some 1)) (occasion 2),
    .store (.observation (draft .everywhere "third") none) (occasion 2),
    .store (.prompt 1 "what?") (occasion 3),
    .record (.prompt 1 "which?") (occasion 4),
    .store (.prompt 2 "why?") (occasion 5),
    .cleanup .observation .everywhere,
    .delete .prompt [2, 3],
    .search { type := .observations } 6]

theorem crowded_within_quotas_and_accounts :
    (crowded.store = {} ∧ crowded.retention.timeoutSeconds ≠ 0) ∧
    (crowded.after crowding).store.WithinQuotas crowded.retention ∧
      ∀ kind, (crowded.after crowding).store.Accounts (crowded.history crowding) kind :=
  ⟨⟨rfl, by decide⟩, after_within_quotas_and_accounts crowded crowding rfl (by decide)⟩

end Recall
