import Recall.Proofs.Submissions
import Recall.Proofs.Writes

namespace Recall

theorem Transaction.bind_error_iff {first : Transaction α} {next : α → Transaction β}
    {store : Store} {failure : Failure} : (first >>= next).run store = .error failure ↔
      first.run store = .error failure ∨ ∃ value mid, first.run store = .ok (value, mid) ∧
        (next value).run mid = .error failure := by
  rw [StateT.run_bind]
  cases reached : first.run store with
  | error other =>
      constructor
      · intro failed
        cases failed
        exact Or.inl rfl
      · rintro (failed | ⟨value, mid, ran, -⟩)
        · cases failed
          rfl
        · cases ran
  | ok pair =>
      obtain ⟨value, mid⟩ := pair
      constructor
      · intro failed
        exact Or.inr ⟨value, mid, rfl, failed⟩
      · rintro (failed | ⟨other, after, ran, failed⟩)
        · cases failed
        · cases ran
          exact failed

def Occasion.fault? (store : Store) (occasion : Occasion) : Option Failure :=
  if occasion.sessionKey.isEmpty then some .emptySessionKey
  else if noIdAfter store.lastSessionId then some .idsExhausted
  else none

namespace Submission

def importance : Submission → Float
  | observation draft _ | newObservation draft _ => draft.importance.getD 1
  | summary _ _ | prompt _ _ => 1

def rowFault? (store : Store) (submission : Submission) : Option Failure :=
  if Number.isNaN submission.importance then some .importanceNotANumber
  else if noIdAfter (store.lastId submission.kind) then some .idsExhausted
  else none

def fault? (store : Store) (occasion : Occasion) (submission : Submission) : Option Failure :=
  (occasion.fault? store).or (submission.rowFault? store)

def repeats (engine : Engine) (occasion : Occasion) : Submission → Bool
  | newObservation draft _ => engine.store.repeatsRecent engine.retention draft occasion.project
  | _ => false

end Submission

namespace Store

theorem upsertSession_error_iff {occasion : Occasion} {prompt : Option String} {store : Store}
    {failure : Failure} : (upsertSession occasion prompt).run store = .error failure ↔
      occasion.fault? store = some failure := by
  simp only [upsertSession, StateT.run, Occasion.fault?]
  split
  · simp
  · split
    · simp
    · split <;> simp

/-- A write fails at its session, or at the row that comes after it. The session leaves the
tables alone, so the row meets them as they were. -/
theorem afterSession_error_iff {occasion : Occasion} {prompt : Option String}
    {next : Nat → Transaction α} {rowFault : Option Failure} {store : Store} {failure : Failure}
    (row : ∀ id sessions last,
      (next id).run { store with sessions, lastSessionId := last } = .error failure ↔
        rowFault = some failure) :
    (upsertSession occasion prompt >>= next).run store = .error failure ↔
      (occasion.fault? store).or rowFault = some failure := by
  rw [Transaction.bind_error_iff, upsertSession_error_iff, Option.or_eq_some_iff]
  refine or_congr_right ?_
  constructor
  · rintro ⟨id, mid, opened, failed⟩
    obtain ⟨sessions, last, rfl⟩ := upsertSession_ok opened
    refine ⟨?_, (row id sessions last).mp failed⟩
    cases faulty : occasion.fault? store with
    | none => rfl
    | some other =>
        rw [upsertSession_error_iff.mpr faulty] at opened
        cases opened
  · rintro ⟨faultless, fault⟩
    cases opened : (upsertSession occasion prompt).run store with
    | error other =>
        rw [upsertSession_error_iff.mp opened] at faultless
        cases faultless
    | ok pair =>
        obtain ⟨id, mid⟩ := pair
        obtain ⟨sessions, last, rfl⟩ := upsertSession_ok opened
        exact ⟨id, _, rfl, (row id sessions last).mpr fault⟩

end Store

theorem Submission.transaction_error_iff {submission : Submission} {occasion : Occasion}
    {store : Store} {failure : Failure} :
    (submission.transaction occasion).run store = .error failure ↔
      submission.fault? store occasion = some failure := by
  have plain : Number.isNaN 1 = false := by decide
  cases submission with
  | observation draft number | newObservation draft number =>
      refine Store.afterSession_error_iff fun id sessions last => ?_
      simp only [Store.insertObservation, StateT.run, rowFault?, importance, kind, Store.lastId]
      split
      · rename_i unnumbered
        simp [unnumbered]
      · rename_i numbered
        split
        · rename_i readable
          simp [numbered, readable]
        · rename_i beyond
          simp [numbered, beyond]
  | summary content number =>
      refine Store.afterSession_error_iff fun id sessions last => ?_
      simp only [Store.insertSummary, StateT.run, rowFault?, importance, plain, kind, Store.lastId]
      split
      · rename_i readable
        simp [readable]
      · rename_i beyond
        simp [beyond]
  | prompt number text =>
      refine Store.afterSession_error_iff fun id sessions last => ?_
      rw [Transaction.bind_error_iff]
      simp only [rowFault?, importance, plain, kind, Store.lastId]
      constructor
      · rintro (failed | ⟨stored, mid, -, failed⟩)
        · simp only [Store.upsertPrompt, StateT.run] at failed
          split at failed
          · rename_i readable
            cases failed
            simp [readable]
          · split at failed <;> cases failed
        · cases failed
      · intro fault
        refine Or.inl ?_
        simp only [Store.upsertPrompt, StateT.run]
        split
        · rename_i readable
          simpa [readable] using fault
        · rename_i beyond
          simp [beyond] at fault

theorem Except.map_error_iff {result : Except Failure α} {write : α → β} {failure : Failure} :
    result.map write = .error failure ↔ result = .error failure := by
  cases result with
  | error other =>
      constructor
      · intro failed
        cases failed
        rfl
      · intro failed
        cases failed
        rfl
  | ok value =>
      constructor
      · intro failed
        cases failed
      · intro failed
        cases failed

theorem Except.map_ok_iff {result : Except Failure α} {write : α → β} {answer : β} :
    result.map write = .ok answer ↔ ∃ value, result = .ok value ∧ write value = answer := by
  cases result with
  | error failure =>
      constructor
      · intro answered
        cases answered
      · rintro ⟨value, same, -⟩
        cases same
  | ok value =>
      constructor
      · intro answered
        exact ⟨value, rfl, Except.ok.inj answered⟩
      · rintro ⟨other, same, rfl⟩
        cases same
        rfl

namespace Engine

theorem accepting_error_iff {engine : Engine} {submission : Submission} {occasion : Occasion}
    {failure : Failure} : (engine.accepting occasion submission).result = .error failure ↔
      (submission.transaction occasion).run engine.store = .error failure := by
  change Except.map some (engine.store.writeInto engine.retention submission.kind
    (submission.pool occasion) (submission.transaction occasion)).result = .error failure ↔ _
  rw [Except.map_error_iff]
  simp only [Store.writeInto, Store.commit]
  cases (submission.transaction occasion).run engine.store with
  | error other => simp
  | ok pair => simp

theorem written_eq_ite (engine : Engine) (occasion : Occasion) (submission : Submission) :
    engine.written occasion submission =
      if submission.repeats engine occasion then { store := engine.store, result := .ok none }
      else engine.accepting occasion submission := by
  cases submission with
  | newObservation draft number => rfl
  | observation draft number => rfl
  | summary content number => exact engine.written_summary content number occasion
  | prompt number text => rfl

theorem storeOnly_error_iff {engine : Engine} {occasion : Occasion} {submission : Submission}
    {failure : Failure} : (engine.storeOnly occasion submission).result = .error failure ↔
      submission.repeats engine occasion = false ∧
        submission.fault? engine.store occasion = some failure := by
  rw [storeOnly_eq, written_eq_ite]
  change (if submission.repeats engine occasion then _ else _ : Written _).result = _ ↔ _
  cases repeated : submission.repeats engine occasion with
  | true => simp
  | false =>
      rw [← Submission.transaction_error_iff, ← accepting_error_iff]
      simp

theorem record_result (engine : Engine) (occasion : Occasion) (submission : Submission) :
    (engine.record occasion submission).result =
      (engine.storeOnly occasion submission).result :=
  (engine.record_sameStore occasion submission).2.1

theorem storeOnly_refused {engine : Engine} {occasion : Occasion} {submission : Submission}
    {failure : Failure} (failed : (engine.storeOnly occasion submission).result = .error failure) :
    engine.storeOnly occasion submission = { engine, result := .error failure } := by
  rcases engine.storeOnly_cases occasion submission with
    ⟨result, whole, -⟩ | ⟨stored, mid, ids, -, -, -, whole⟩
  · rw [whole] at failed ⊢
    rw [show result = .error failure from failed]
  · rw [whole] at failed
    cases failed

theorem record_refused {engine : Engine} {occasion : Occasion} {submission : Submission}
    {failure : Failure} (failed : (engine.record occasion submission).result = .error failure) :
    engine.record occasion submission = { engine, result := .error failure } := by
  rcases engine.submission_cases occasion submission with
    ⟨result, -, whole, -⟩ | ⟨stored, mid, ids, -, -, -, -, whole⟩
  · rw [whole] at failed ⊢
    rw [show result = .error failure from failed]
  · rw [whole] at failed
    cases failed

end Engine

theorem Store.commit_error_iff {store : Store} {change : Transaction α} {failure : Failure} :
    (store.commit change).2 = .error failure ↔ change.run store = .error failure := by
  simp only [commit]
  cases change.run store with
  | error other => simp
  | ok pair => simp

theorem Store.commit_refused {store : Store} {change : Transaction α} {failure : Failure}
    (failed : (store.commit change).2 = .error failure) : (store.commit change).1 = store := by
  simp only [commit, commit_error_iff.mp failed]

/-- A counter of prompts is stored before it is found to be out of range. -/
theorem Amendment.refused {store : Store} {amendment : Amendment} {failure : Failure}
    (failed : (amendment.apply store).2 = .error failure)
    (other : ∀ key, amendment ≠ .incrementPromptCounter key) :
    (amendment.apply store).1 = store := by
  cases amendment with
  | createSession occasion prompt =>
      exact Store.commit_refused (Except.map_error_iff.mp failed)
  | updateImportance id importance =>
      exact Store.commit_refused (Except.map_error_iff.mp failed)
  | incrementPromptCounter key => exact absurd rfl (other key)
  | completeSession key status now | markSuperseded ids | recordRetrieval ids now
  | updateMatchedCount id matched => cases failed

namespace Operation

def Writes : Operation → Prop
  | record _ _ | store _ _ | amend (.createSession _ _) | amend (.updateImportance _ _) => True
  | _ => False

def fault? (engine : Engine) : Operation → Option Failure
  | record submission occasion | store submission occasion =>
    if submission.repeats engine occasion then none else submission.fault? engine.store occasion
  | amend (.createSession occasion _) => occasion.fault? engine.store
  | amend (.updateImportance id importance) =>
    if (engine.store.observations.find? id).isSome && Number.isNaN importance then
      some .importanceNotANumber
    else none
  | _ => none

theorem writes_of_fault {engine : Engine} {operation : Operation} {failure : Failure}
    (fault : operation.fault? engine = some failure) : operation.Writes := by
  cases operation with
  | record submission occasion | store submission occasion => exact trivial
  | amend amendment =>
      cases amendment with
      | createSession occasion prompt | updateImportance id importance => exact trivial
      | completeSession key status now | markSuperseded ids | recordRetrieval ids now
      | updateMatchedCount id matched | incrementPromptCounter key => cases fault
  | delete kind ids | search request now | embedWith embedder | cleanup kind pool | reembed =>
      cases fault

end Operation

namespace Engine

theorem perform_refused {engine : Engine} {operation : Operation} {failure : Failure}
    (failed : (engine.perform operation).result = .error failure)
    (other : ∀ key, operation ≠ .amend (.incrementPromptCounter key)) :
    engine.perform operation = { engine, result := .error failure } := by
  cases operation with
  | record submission occasion =>
      have refused := record_refused (Except.map_error_iff.mp failed)
      simp only [perform, refused]
      rfl
  | store submission occasion =>
      have refused := storeOnly_refused (Except.map_error_iff.mp failed)
      simp only [perform, refused]
      rfl
  | amend amendment =>
      have still := Amendment.refused failed fun key same => other key (congrArg _ same)
      have answer : (amendment.apply engine.store).2 = .error failure := failed
      simp only [perform, still, answer]
  | delete kind ids | embedWith embedder => cases failed
  | search request now =>
      have answer := Except.map_error_iff.mp failed
      simp only [perform, Engine.search, Search.run] at answer ⊢
      split at answer
      · cases answer
        rfl
      · cases answer
  | cleanup kind pool =>
      simp only [perform] at failed ⊢
      rcases engine.cleanup_cases kind pool with ⟨cause, whole⟩ | ⟨ids, -, whole⟩
      · rw [whole] at failed ⊢
        cases failed
        rfl
      · rw [whole] at failed
        cases failed
  | reembed =>
      simp only [perform] at failed ⊢
      split at failed
      · cases failed
      · cases failed
        rfl

theorem perform_error_iff {engine : Engine} {operation : Operation} {failure : Failure}
    (writes : operation.Writes) : (engine.perform operation).result = .error failure ↔
      operation.fault? engine = some failure := by
  cases operation with
  | record submission occasion =>
      refine Except.map_error_iff.trans ?_
      rw [record_result, storeOnly_error_iff]
      simp [Operation.fault?]
  | store submission occasion =>
      refine Except.map_error_iff.trans ?_
      rw [storeOnly_error_iff]
      simp [Operation.fault?]
  | amend amendment =>
      cases amendment with
      | createSession occasion prompt =>
          exact (Except.map_error_iff.trans Store.commit_error_iff).trans
            Store.upsertSession_error_iff
      | updateImportance id importance =>
          refine (Except.map_error_iff.trans Store.commit_error_iff).trans ?_
          simp only [Store.updateImportance, StateT.run, Operation.fault?]
          split
          · simp
          · simp
      | completeSession key status now | markSuperseded ids | recordRetrieval ids now
      | updateMatchedCount id matched | incrementPromptCounter key => exact writes.elim
  | delete kind ids | search request now | embedWith embedder | cleanup kind pool | reembed =>
      exact writes.elim

/-- Nothing of a refused write is left, whatever it had done to the session before it failed,
and the faults are all that a write fails for. -/
theorem refused_leaves_no_trace (engine : Engine) (operation : Operation)
    (writes : operation.Writes) (failure : Failure) :
    ((engine.perform operation).result = .error failure ↔
      operation.fault? engine = some failure) ∧
    ((engine.perform operation).result = .error failure →
      engine.perform operation = { engine, result := .error failure, evictions := [] }) := by
  refine ⟨perform_error_iff writes, fun failed => ?_⟩
  apply perform_refused failed
  rintro key rfl
  exact writes

def accepted (engine : Engine) : List Operation → List Operation
  | [] => []
  | operation :: operations =>
    let rest := (engine.perform operation).engine.accepted operations
    if (operation.fault? engine).isSome then rest else operation :: rest

theorem perform_faulty {engine : Engine} {operation : Operation}
    (faulty : (operation.fault? engine).isSome) :
    (engine.perform operation).engine = engine := by
  obtain ⟨failure, fault⟩ := Option.isSome_iff_exists.mp faulty
  have writes := Operation.writes_of_fault fault
  have failed := (perform_error_iff writes).mpr fault
  have refused := perform_refused failed (by
    rintro key rfl
    exact writes)
  rw [refused]

theorem history_accepted (engine : Engine) (operations : List Operation) :
    engine.history (engine.accepted operations) =
      (engine.history operations).filter fun step =>
        (step.operation.fault? step.before).isNone := by
  induction operations generalizing engine with
  | nil => rfl
  | cons operation rest ih =>
      simp only [accepted, history]
      cases fault : operation.fault? engine with
      | some failure =>
          have still : (engine.perform operation).engine = engine :=
            perform_faulty (by rw [fault]; rfl)
          rw [List.filter_cons_of_neg (by simp [fault]), ← ih]
          simp only [Option.isSome_some, if_true, still]
      | none =>
          rw [List.filter_cons_of_pos (by simp [fault]), ← ih]
          simp only [Option.isSome_none, Bool.false_eq_true, if_false, history]

theorem after_accepted (engine : Engine) (operations : List Operation) :
    engine.after (engine.accepted operations) = engine.after operations := by
  induction operations generalizing engine with
  | nil => rfl
  | cons operation rest ih =>
      simp only [accepted]
      split
      · rename_i faulty
        rw [perform_faulty faulty, ih]
        simp only [after, List.foldl_cons, perform_faulty faulty]
      · exact ih (engine.perform operation).engine

end Engine

def begun : Engine :=
  Engine.after {} [.record
    (.observation { content := { type := .discovery, title := some "the cache" } } none)
    { sessionKey := "morning", project := "project", now := 1 }]

def unmeasured : Operation :=
  .record (.observation { content := { type := .discovery }, importance := some (0 / 0) } none)
    { sessionKey := "evening", project := "project", now := 2 }

theorem unmeasured_leaves_no_trace : unmeasured.Writes ∧
    begun.perform unmeasured =
      { engine := begun, result := .error .importanceNotANumber, evictions := [] } := by
  have refused := begun.refused_leaves_no_trace unmeasured trivial .importanceNotANumber
  have fault : unmeasured.fault? begun = some .importanceNotANumber := by decide +kernel
  exact ⟨trivial, refused.2 (refused.1.mpr fault)⟩

end Recall
