import Mathlib.Algebra.Group.Nat.Defs
import Mathlib.Data.List.TakeWhile
import Recall.Proofs.Indexing
import Recall.Proofs.Presentation

/-!
An engine beside its index. What is written does not depend on the index, and an index that
fails a query makes way for the search without one. So an engine whose index is of no use goes
the same way as one that has none, as long as no search counts its candidates beyond the range
of a word: such a search ends before the index is asked.
-/

namespace Recall

namespace Engine

def OutOfReach (engine : Engine) : Prop := ∀ reach ∈ engine.reach?, reach ≠ .online

/-- The request has a query for the index, and the candidates cannot be counted in words. -/
structure Overcounts (engine : Engine) (request : SearchRequest) : Prop where
  asked : request.queryText.isSome = true
  connected : ∃ reach ∈ engine.reach?, reach ≠ .disconnected
  excess : Number.wordBound ≤
    (engine.plan request).limit * max engine.searching.candidateFactor 1

end Engine

def Outcome.bare (outcome : Outcome α) : Outcome α :=
  { outcome with engine := outcome.engine.bare }

/-- The same happens, but for the number of vectors made anew. What is fetched between two
operations is read from the store alone. -/
structure Step.Agrees (step other : Step) : Prop where
  operation : other.operation = step.operation
  met : other.before.store = step.before.store
  store : other.outcome.engine.store = step.outcome.engine.store
  evictions : other.outcome.evictions = step.outcome.evictions
  result : step.operation ≠ .reembed → other.outcome.result = step.outcome.result

namespace Engine

theorem bare_addDocuments (engine : Engine) (documents : List Document) :
    engine.bare.addDocuments documents = engine.bare := by
  simp only [addDocuments]
  split <;> rfl

theorem bare_dropping (engine : Engine) (evictions : List Eviction) :
    evictions.foldl dropEvicted engine.bare = engine.bare := by
  induction evictions with
  | nil => rfl
  | cons first rest ih => exact ih

theorem settle_bare (engine : Engine) (written : Written α) :
    engine.bare.settle written = (engine.settle written).bare := by
  let taken : Engine := { engine with store := written.store }
  have same : written.evictions.foldl dropEvicted taken.bare =
      (written.evictions.foldl dropEvicted taken).bare :=
    (taken.bare_dropping _).trans (taken.dropping_sameStore _).symm
  simp only [settle, Outcome.bare]
  rw [← same]
  rfl

theorem settle_of_bare {engine other : Engine} (same : other.bare = engine.bare)
    (written : Written α) : (other.settle written).bare = (engine.settle written).bare := by
  rw [← settle_bare, ← settle_bare, same]

theorem settleIndexed_bare (engine : Engine) (kind : RecordKind) (turn : PassTurn)
    (record? : α → Option Stored) (written : Written α) :
    engine.bare.settleIndexed kind turn record? written =
      (engine.settleIndexed kind turn record? written).bare := by
  cases turn with
  | early | between =>
      simp only [settleIndexed, settle_bare, Outcome.bare, bare_addDocuments]
      exact congrArg (Outcome.mk · _ _) (addDocuments_sameStore _ _).symm
  | late =>
      simp only [settleIndexed, bare_addDocuments, settle_bare]
      exact (settle_of_bare (engine.addDocuments_sameStore _) written).symm

theorem storeOnly_bare (engine : Engine) (occasion : Occasion) (submission : Submission) :
    engine.bare.storeOnly occasion submission = (engine.storeOnly occasion submission).bare := by
  rw [storeOnly_eq, storeOnly_eq, ← settle_bare]
  cases submission <;> rfl

theorem record_bare (engine : Engine) (occasion : Occasion) (submission : Submission) :
    engine.bare.record occasion submission = (engine.record occasion submission).bare := by
  rw [record_eq, record_eq, ← settleIndexed_bare]
  cases submission <;> rfl

theorem cleanup_bare (engine : Engine) (kind : RecordKind) (pool : Pool) :
    engine.bare.cleanup kind pool = (engine.cleanup kind pool).bare := by
  have same : engine.bare.store.cleanup engine.bare.retention kind pool =
      engine.store.cleanup engine.retention kind pool := rfl
  simp only [cleanup, same]
  split
  · rfl
  · exact engine.settle_bare _

end Engine

namespace Table

variable [Row α]

theorem refusal?_ne_overflow (table : Table α) (scan : Scan α) (query : String) (limit : Nat) :
    table.refusal? scan query limit ≠ some .candidatesOverflow := by
  simp only [refusal?, containingRefusal?]
  intro overflowed
  repeat' split at overflowed
  all_goals cases overflowed

end Table

namespace Search.Plan

theorem refusal?_ne_overflow (plan : Plan) (query : String) (limit : Nat) (kind : RecordKind) :
    plan.refusal? query limit kind ≠ some .candidatesOverflow := by
  cases kind <;> exact Table.refusal?_ne_overflow _ _ _ _

theorem matchingRefusal?_ne_overflow (plan : Plan) :
    plan.matchingRefusal? ≠ some .candidatesOverflow := by
  intro overflowed
  obtain ⟨query, -, found⟩ := Option.bind_eq_some_iff.mp overflowed
  obtain ⟨kind, -, refused⟩ := List.exists_of_findSome?_eq_some found
  exact plan.refusal?_ne_overflow query plan.limit kind refused

theorem respond_of_failed {plan : Plan} {settings : SearchSettings} {held : Option VectorIndex}
    (failed : ∀ index ∈ held, index.isConnected = true → ∀ query ∈ plan.request.queryText,
      ∃ candidates failure, candidateCount settings plan.limit = .ok candidates ∧
        index.query query candidates plan.vectorFilter = .error failure) :
    plan.respond settings held = plan.respond settings none := by
  have passed : plan.semantic? settings held = .ok none := by
    cases held with
    | none => exact plan.semantic?_unindexed settings
    | some index =>
        cases asked : plan.request.queryText with
        | none => simp only [semantic?, asked]
        | some query =>
            simp only [semantic?, asked]
            split
            · rename_i connected
              obtain ⟨candidates, failure, counted, refused⟩ :=
                failed index rfl connected query asked
              rw [counted, Except.map, semantic_refused refused]
              rfl
            · rfl
  rw [respond_structured passed, respond_structured (plan.semantic?_unindexed settings)]

end Search.Plan

namespace Engine

theorem search_bare {engine : Engine} {request : SearchRequest} (now : Int)
    (same : (engine.plan request).respond engine.searching engine.index =
      (engine.plan request).respond engine.searching none) :
    engine.bare.search request now = (engine.search request now).bare := by
  have ran : Search.run engine.bare.store engine.bare.searching engine.bare.index request now =
      Search.run engine.store engine.searching engine.index request now := by
    rw [plan] at same
    simp only [Search.run, same]
    rfl
  simp only [search, ran]
  rfl

theorem search_overflow_iff {engine : Engine} {request : SearchRequest} {now : Int} :
    (engine.search request now).result = .error .candidatesOverflow ↔
      engine.Overcounts request := by
  rw [search_result, Search.Plan.respond_error_iff, Search.Plan.semantic?_error_iff]
  constructor
  · rintro (⟨asked, ⟨index, held, connected⟩, counted⟩ | ⟨-, refused⟩)
    · refine ⟨asked, ⟨index.reach, ?_, of_decide_eq_true connected⟩,
        (Search.candidateCount_error_iff.mp counted).1⟩
      rw [reach?, held]
      rfl
    · exact absurd refused (engine.plan request).matchingRefusal?_ne_overflow
  · rintro ⟨asked, ⟨reach, reached, connected⟩, excess⟩
    obtain ⟨index, held, rfl⟩ := Option.map_eq_some_iff.mp reached
    exact Or.inl ⟨asked, ⟨index, held, decide_eq_true connected⟩,
      Search.candidateCount_error_iff.mpr ⟨excess, rfl⟩⟩

theorem bare_not_overcounts (engine : Engine) (request : SearchRequest) :
    ¬ engine.bare.Overcounts request :=
  fun overcounts => nomatch overcounts.connected

theorem Overcounts.not_alike {engine : Engine} {request : SearchRequest}
    (overcounts : engine.Overcounts request) (now : Int) :
    (engine.bare.search request now).result ≠ (engine.search request now).result := by
  rw [search_overflow_iff.mpr overcounts, Ne, search_overflow_iff]
  exact engine.bare_not_overcounts request

/-- Where queries fail, those that are not even asked make the difference. -/
theorem search_bare_of_failed {engine : Engine} {request : SearchRequest}
    (counted : ¬ engine.Overcounts request)
    (failed : ∀ index ∈ engine.index, ∀ query ∈ request.queryText, ∀ candidates,
      0 < candidates → ∃ failure,
        index.query query candidates (engine.plan request).vectorFilter = .error failure)
    (now : Int) : engine.bare.search request now = (engine.search request now).bare := by
  refine Engine.search_bare now (Search.Plan.respond_of_failed ?_)
  intro index held connected query asked
  let candidates := (engine.plan request).limit * max engine.searching.candidateFactor 1
  have fits : candidates < Number.wordBound := by
    refine Nat.lt_of_not_le fun excess => counted ⟨?_, ?_, excess⟩
    · exact Option.isSome_iff_exists.mpr ⟨query, asked⟩
    · exact ⟨index.reach, Option.mem_map_of_mem _ held, of_decide_eq_true connected⟩
  have wanted : 0 < candidates := Nat.mul_pos (engine.plan_limit_pos request)
    (Nat.lt_of_lt_of_le Nat.zero_lt_one (Nat.le_max_right _ _))
  obtain ⟨failure, refused⟩ := failed index held query asked candidates wanted
  exact ⟨candidates, failure, Search.candidateCount_ok_iff.mpr ⟨fits, rfl⟩, refused⟩

theorem OutOfReach.query {engine : Engine} (away : engine.OutOfReach) {index : VectorIndex}
    (held : engine.index = some index) (text : String) (limit : Nat) (filter : VectorFilter) :
    index.query text limit filter = .error .indexOffline := by
  have offline : index.reach ≠ .online := away index.reach (by simp [reach?, held])
  simp only [VectorIndex.query, VectorIndex.whenOnline, if_neg offline]

theorem OutOfReach.search_bare {engine : Engine} (away : engine.OutOfReach)
    {request : SearchRequest} (counted : ¬ engine.Overcounts request) (now : Int) :
    engine.bare.search request now = (engine.search request now).bare :=
  search_bare_of_failed counted (fun _ held _ _ _ _ => ⟨_, away.query held _ _ _⟩) now

theorem OutOfReach.perform {engine : Engine} (away : engine.OutOfReach) (operation : Operation) :
    (engine.perform operation).engine.OutOfReach := by
  simp only [OutOfReach, perform_reach]
  exact away

theorem OutOfReach.reembed {engine : Engine} (away : engine.OutOfReach) :
    (engine.perform .reembed).engine = engine := by
  simp only [Engine.perform, Engine.reembed]
  cases held : engine.index with
  | none => rfl
  | some index =>
      have offline : index.reach ≠ .online := away index.reach (by simp [reach?, held])
      simp only [VectorIndex.reembed, VectorIndex.add, VectorIndex.whenOnline, if_neg offline]
      rfl

theorem overcounts_perform (engine : Engine) (operation : Operation) (request : SearchRequest) :
    (engine.perform operation).engine.Overcounts request ↔ engine.Overcounts request := by
  have reach := engine.perform_reach operation
  have searching := engine.perform_searching operation
  constructor
  · rintro ⟨asked, connected, excess⟩
    rw [plan, searching] at excess
    rw [reach] at connected
    exact ⟨asked, connected, excess⟩
  · rintro ⟨asked, connected, excess⟩
    refine ⟨asked, ?_, ?_⟩
    · rw [reach]
      exact connected
    · rw [plan, searching]
      exact excess

theorem OutOfReach.perform_bare {engine : Engine} (away : engine.OutOfReach)
    {operation : Operation} (other : operation ≠ .reembed)
    (counted : ∀ request now, operation = .search request now → ¬ engine.Overcounts request) :
    engine.bare.perform operation = (engine.perform operation).bare := by
  cases operation with
  | record submission occasion =>
      exact congrArg (Outcome.map Answer.stored) (engine.record_bare occasion submission)
  | store submission occasion =>
      exact congrArg (Outcome.map Answer.stored) (engine.storeOnly_bare occasion submission)
  | amend amendment => rfl
  | delete kind ids => rfl
  | cleanup kind pool => exact congrArg (Outcome.map Answer.removed) (engine.cleanup_bare kind pool)
  | search request now =>
      exact congrArg (Outcome.map Answer.results) (away.search_bare (counted _ _ rfl) now)
  | reembed => exact absurd rfl other
  | embedWith embedder => rfl

theorem OutOfReach.agrees {engine : Engine} (away : engine.OutOfReach) {operation : Operation}
    (counted : ∀ request now, operation = .search request now → ¬ engine.Overcounts request) :
    Step.Agrees ⟨engine, operation⟩ ⟨engine.bare, operation⟩ := by
  by_cases asked : operation = .reembed
  · subst asked
    refine ⟨rfl, rfl, ?_, ?_, fun other => absurd rfl other⟩
    · change engine.store = (engine.perform .reembed).engine.store
      rw [away.reembed]
    · simp only [Step.outcome, Engine.perform]
      split <;> split <;> rfl
  · have same := away.perform_bare asked counted
    refine ⟨rfl, rfl, ?_, ?_, fun _ => ?_⟩
    · exact congrArg (·.engine.store) same
    · exact congrArg (·.evictions) same
    · exact congrArg (·.result) same

theorem OutOfReach.bare_perform {engine : Engine} (away : engine.OutOfReach)
    {operation : Operation}
    (counted : ∀ request now, operation = .search request now → ¬ engine.Overcounts request) :
    (engine.bare.perform operation).engine = (engine.perform operation).engine.bare := by
  by_cases asked : operation = .reembed
  · subst asked
    rw [away.reembed]
    rfl
  · exact congrArg (·.engine) (away.perform_bare asked counted)

theorem OutOfReach.history_agrees_iff {engine : Engine} (away : engine.OutOfReach)
    (operations : List Operation) :
    List.Forall₂ Step.Agrees (engine.history operations) (engine.bare.history operations) ↔
      ∀ request now, .search request now ∈ operations → ¬ engine.Overcounts request := by
  induction operations generalizing engine with
  | nil => exact ⟨fun _ _ _ asked => absurd asked List.not_mem_nil, fun _ => .nil⟩
  | cons operation rest ih =>
      simp only [history, List.forall₂_cons, List.mem_cons]
      constructor
      · rintro ⟨agrees, others⟩
        have counted : ∀ request now, operation = .search request now →
            ¬ engine.Overcounts request := by
          rintro request now rfl overcounts
          -- The search crashes beside its index, and without one no search crashes.
          have same : (engine.bare.search request now).result.map Answer.results =
              (engine.search request now).result.map Answer.results :=
            agrees.result (by simp)
          rw [search_overflow_iff.mpr overcounts] at same
          cases ran : (engine.bare.search request now).result with
          | ok response =>
              rw [ran] at same
              cases same
          | error failure =>
              rw [ran] at same
              cases same
              exact engine.bare_not_overcounts request (search_overflow_iff.mp ran)
        rw [away.bare_perform counted] at others
        rintro request now (same | later)
        · exact counted request now same.symm
        · rw [← engine.overcounts_perform operation]
          exact (ih (away.perform operation)).mp others request now later
      · intro counted
        have here : ∀ request now, operation = .search request now →
            ¬ engine.Overcounts request := fun request now same =>
          counted request now (Or.inl same.symm)
        refine ⟨away.agrees here, ?_⟩
        rw [away.bare_perform here]
        refine (ih (away.perform operation)).mpr fun request now later => ?_
        rw [engine.overcounts_perform operation]
        exact counted request now (Or.inr later)

end Engine

theorem SearchRequest.queryText_filled {request : SearchRequest} {query : String}
    (asked : request.queryText = some query) : Text.isBlank query = false := by
  obtain ⟨given, nonempty⟩ := Option.filter_eq_some_iff.mp asked
  obtain ⟨text, -, rfl⟩ := Option.map_eq_some_iff.mp given
  refine Bool.eq_false_iff.mpr fun blank => ?_
  let rest := (Text.trimStartChars text.toList).reverse.dropWhile Text.isWhiteSpace
  have trimmed : Text.trim text = String.ofList rest.reverse := rfl
  have all : ∀ c ∈ rest, Text.isWhiteSpace c = true := by
    simpa [Text.isBlank, trimmed] using blank
  have bare : rest = [] := by
    refine List.eq_nil_of_length_eq_zero (Nat.eq_zero_of_not_pos fun filled => ?_)
    exact List.dropWhile_get_zero_not _ _ filled (all _ (List.get_mem rest ⟨0, filled⟩))
  rw [trimmed, bare] at nonempty
  cases nonempty

theorem VectorIndex.query_unembedded {index : VectorIndex} {text : String} {failure : Failure}
    (online : index.reach = .online) (filled : Text.isBlank text = false)
    (unembedded : index.embedder.embed text = .error failure) {limit : Nat} (wanted : 0 < limit)
    (filter : VectorFilter) : index.query text limit filter = .error failure := by
  simp only [query, whenOnline, online, if_true, filled, unembedded, Bool.false_or,
    decide_eq_true_eq, if_neg (Nat.ne_of_gt wanted)]
  rfl

/-- Through any run an index out of reach makes no difference, and neither does one in reach to
a search that it cannot embed, but for a search that overcounts its candidates. -/
theorem index_failure_alike_iff (engine : Engine) (operations : List Operation) :
    (engine.OutOfReach →
      (List.Forall₂ Step.Agrees (engine.history operations) (engine.bare.history operations) ↔
        ∀ request now, .search request now ∈ operations → ¬ engine.Overcounts request)) ∧
    ∀ index request query failure now, engine.index = some index → index.reach = .online →
      request.queryText = some query → index.embedder.embed query = .error failure →
      (((engine.bare.search request now).result = (engine.search request now).result ∧
          (engine.bare.search request now).engine.store =
            (engine.search request now).engine.store) ↔
        ¬ engine.Overcounts request) := by
  refine ⟨fun away => away.history_agrees_iff operations, ?_⟩
  intro index request query failure now held online asked unembedded
  constructor
  · exact fun same overcounts => overcounts.not_alike now same.1
  · intro counted
    have same := Engine.search_bare_of_failed counted (fun other also text given candidates
        wanted => ?_) now
    · rw [same]
      exact ⟨rfl, rfl⟩
    · cases held.symm.trans also
      cases asked.symm.trans given
      exact ⟨failure, VectorIndex.query_unembedded online
        (SearchRequest.queryText_filled asked) unembedded wanted _⟩

def unreached : Engine where
  retention := { observationsPerProject := 1, observationsEverywhere := 0, prompts := 1 }
  index := some { embedder := Embedding.wordEmbedder "words", reach := .failing }

def unreaching : List Operation :=
  let occasion (now : Int) : Occasion := { sessionKey := "session", project := "project", now }
  let draft (scope : Scope) (narrative : String) : ObservationDraft :=
    { content := { type := .change, narrative := some narrative }, scope := some scope }
  [.record (.observation (draft .project "a release") none) (occasion 1),
    .record (.newObservation (draft .project "another release") (some 1)) (occasion 2),
    .record (.observation (draft .everywhere "gone at once") none) (occasion 3),
    .store (.prompt 1 "when?") (occasion 4),
    .record (.prompt 2 "where?") (occasion 5),
    .search { query := some "release" } 6,
    .search (Preset.changes.apply { project := some "project" }) 7,
    .amend (.markSuperseded [2]),
    .reembed,
    .embedWith (Embedding.wordEmbedder "others"),
    .delete .prompt [2],
    .cleanup .prompt .everywhere]

def mute : VectorIndex where
  embedder := {
    version := "mute"
    embed := fun _ => .error .indexOffline
    embedBatch := fun _ => .error .indexOffline
    embed_size := nofun
    embedBatch_size := nofun }

def unheard : Engine where
  store := {
    observations := ({} : Table Observation).insert
      (Store.observationOf { content := { type := .change, title := some "a release" } } none
        { sessionKey := "session", project := "project", now := 1 }) }
  index := some mute

theorem unreached_and_unheard_alike :
    let request : SearchRequest := { query := some "release" }
    (unreached.OutOfReach ∧ unheard.index = some mute ∧ mute.reach = .online ∧
      request.queryText = some "release" ∧
      mute.embedder.embed "release" = .error .indexOffline) ∧
    (∀ request now, .search request now ∈ unreaching → ¬ unreached.Overcounts request) ∧
    List.Forall₂ Step.Agrees (unreached.history unreaching)
      (unreached.bare.history unreaching) ∧
    (unheard.bare.search request 9).result = (unheard.search request 9).result ∧
    (unheard.bare.search request 9).engine.store = (unheard.search request 9).engine.store := by
  intro request
  have away : unreached.OutOfReach := by
    rintro reach ⟨rfl⟩
    decide
  have asked : request.queryText = some "release" := by decide +kernel
  have few (request : SearchRequest) (unlimited : request.limit = none) :
      ¬ unreached.Overcounts request := by
    rintro ⟨-, -, excess⟩
    simp only [Engine.plan, unlimited] at excess
    exact absurd excess (by decide +kernel)
  have counted : ∀ request now, .search request now ∈ unreaching →
      ¬ unreached.Overcounts request := by
    intro request now member
    refine few request ?_
    simp only [unreaching, List.mem_cons, Operation.search.injEq, reduceCtorEq, false_or,
      or_false, List.not_mem_nil] at member
    rcases member with ⟨rfl, -⟩ | ⟨rfl, -⟩ <;> rfl
  have spared : ¬ unheard.Overcounts request := by
    rintro ⟨-, -, excess⟩
    exact absurd excess (by decide +kernel)
  have agrees := (index_failure_alike_iff unreached unreaching).1 away
  have alike := (index_failure_alike_iff unheard []).2 mute request "release" .indexOffline 9
    rfl rfl asked rfl
  exact ⟨⟨away, rfl, rfl, asked, rfl⟩, counted, agrees.mpr counted, alike.mpr spared⟩

def overflowing : Engine := { unheard with searching := { candidateFactor := 2 ^ 62 } }

theorem overflowing_not_alike :
    let request : SearchRequest := { query := some "release" }
    request.queryText = some "release" ∧
    overflowing.index = some mute ∧ mute.reach = .online ∧
    mute.embedder.embed "release" = .error .indexOffline ∧
    (overflowing.search request 9).result = .error .candidatesOverflow ∧
    ∃ response, (overflowing.bare.search request 9).result = .ok response ∧
      response.results.map (·.id) = [1] := by
  intro request
  have asked : request.queryText = some "release" := by decide +kernel
  have overcounts : overflowing.Overcounts request :=
    ⟨by rw [asked]; rfl, ⟨.online, rfl, by decide⟩, by decide +kernel⟩
  have unindexed := (overflowing.bare.plan request).semantic?_unindexed
    overflowing.bare.searching
  have bare := overflowing.bare.search_result request 9
  refine ⟨asked, rfl, rfl, rfl, Engine.search_overflow_iff.mpr overcounts,
    ⟨(overflowing.bare.plan request).shown, .structured⟩, ?_, by decide +kernel⟩
  rw [bare]
  exact Search.Plan.respond_ok_iff.mpr (Or.inr ⟨unindexed, by decide +kernel, rfl⟩)

end Recall
