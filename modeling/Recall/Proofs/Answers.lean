import Recall.Search.Semantic

/-!
Searches and their refusals. A keyword search that is not refused lists what it would list if
no query were too long, and the same goes for all that is made of keyword searches.
-/

namespace Recall

def refusing (refusal? : Option Failure) (value : α) : Except Failure α :=
  match refusal? with
  | some failure => .error failure
  | none => .ok value

theorem refusing_ok_iff {refusal? : Option Failure} {value other : α} :
    refusing refusal? value = .ok other ↔ refusal? = none ∧ value = other := by
  cases refusal? <;> simp [refusing]

theorem refusing_error_iff {refusal? : Option Failure} {value : α} {failure : Failure} :
    refusing refusal? value = .error failure ↔ refusal? = some failure := by
  cases refusal? <;> simp [refusing]

theorem map_refusing (refusal? : Option Failure) (value : α) (change : α → β) :
    (refusing refusal? value).map change = refusing refusal? (change value) := by
  cases refusal? <;> rfl

theorem mapM_refusing (refusal? : α → Option Failure) (value : α → β) (items : List α) :
    items.mapM (fun item => refusing (refusal? item) (value item)) =
      refusing (items.findSome? refusal?) (items.map value) := by
  induction items with
  | nil => rfl
  | cons first rest ih =>
      rw [List.mapM_cons, ih, List.findSome?_cons]
      cases refusal? first with
      | some failure => rfl
      | none => cases rest.findSome? refusal? <;> rfl

namespace FullText.Condition

theorem depthAny_of_depth {depth : Nat} {conditions : List Condition}
    (alike : ∀ condition ∈ conditions, condition.depth = depth) {joined : Nat}
    (positive : 0 < joined) (above : depth ≤ joined) :
    depthAny joined conditions = joined + conditions.length := by
  induction conditions generalizing joined with
  | nil => rfl
  | cons first rest ih =>
      obtain ⟨here, others⟩ := List.forall_mem_cons.mp alike
      have next : depthAny joined (first :: rest) = depthAny (joined + 1) rest := by
        rw [depthAny, here, if_neg (Nat.ne_of_gt positive), Nat.max_eq_left above]
      rw [next, ih others (Nat.succ_pos _) (Nat.le_succ_of_le above), List.length_cons]
      omega

theorem depth_anyOf {depth : Nat} {conditions : List Condition} (positive : 0 < depth)
    (alike : ∀ condition ∈ conditions, condition.depth = depth) (filled : conditions ≠ []) :
    (anyOf conditions).depth + 1 = depth + conditions.length := by
  cases conditions with
  | nil => exact absurd rfl filled
  | cons first rest =>
      obtain ⟨here, others⟩ := List.forall_mem_cons.mp alike
      have next : (anyOf (first :: rest)).depth = depthAny depth rest := by
        rw [Condition.depth, depthAny, here]
        rfl
      rw [next, depthAny_of_depth others positive (Nat.le_refl _), List.length_cons]
      omega

end FullText.Condition

theorem FullText.depth_likeCondition {columns : List String} (filled : columns ≠ [])
    {first count : Nat} (positive : 0 < count) :
    (likeCondition columns first count).depth = columns.length + count + 1 := by
  have word (parameter : Nat) :
      (Condition.anyOf (columns.map (Condition.like · parameter))).depth = columns.length + 2 := by
    have alike : ∀ condition ∈ columns.map (Condition.like · parameter),
        condition.depth = 3 := by simp [Condition.depth]
    have chain := Condition.depth_anyOf (Nat.succ_pos 2) alike (by simpa using filled)
    rw [List.length_map] at chain
    omega
  have words : ∀ condition ∈ (List.range' first count).map (fun parameter =>
      Condition.anyOf (columns.map (Condition.like · parameter))),
      condition.depth = columns.length + 2 := by
    intro condition member
    obtain ⟨parameter, -, rfl⟩ := List.mem_map.mp member
    exact word parameter
  have chain := Condition.depth_anyOf (Nat.succ_pos _) words (by simp [Nat.ne_of_gt positive])
  rw [List.length_map, List.length_range'] at chain
  rw [likeCondition]
  omega

theorem FullText.refuses_of_short {keywords : List String}
    (short : ∀ keyword ∈ keywords, isTooLong keyword = false) (texts : List (Option String)) :
    refuses keywords texts = false := by
  rw [refuses, Option.any_eq_false_iff_get]
  intro found
  exact short _ (List.get_find?_mem found)

namespace Table

variable [Row α]

def best (table : Table α) (visible : α → Bool) (query : String) (limit : Nat) :
    List (α × Float) :=
  limited limit ((table.ranked (FullText.keywords query)).filter (visible ·.1))

/-- What a search lists when it is not refused. -/
def answers (table : Table α) (visible : α → Bool) (query : String) (limit : Nat) :
    List (α × Float) :=
  if (FullText.keywords query).isEmpty then []
  else if (table.best visible query limit).isEmpty then
    (limited limit ((table.mentioning (FullText.keywords query)).filter visible)).map (·, 0)
  else (table.best visible query limit).map fun (row, relevance) =>
    (row, Ranking.normalize relevance)

def containingRefusal? (table : Table α) (scan : Scan α) (keywords : List String) (limit : Nat) :
    Option Failure :=
  if FullText.largestDepth < (Row.columns α).length + keywords.length + 1 + scan.conditions then
    some .expressionTooDeep
  else if (table.compared scan keywords limit).any fun row =>
      FullText.refuses keywords (Row.texts row) then some .patternTooLong
  else none

def refusal? (table : Table α) (scan : Scan α) (query : String) (limit : Nat) : Option Failure :=
  if (FullText.keywords query).isEmpty then none
  else if (table.best scan.visible query limit).isEmpty then
    table.containingRefusal? scan (FullText.keywords query) limit
  else none

/-- The keywords are few enough, and no row that is compared comes to one that is too long. -/
structure Takes (table : Table α) (scan : Scan α) (keywords : List String) (limit : Nat) :
    Prop where
  shallow : (Row.columns α).length + keywords.length + 1 + scan.conditions ≤
    FullText.largestDepth
  short : ∀ row ∈ table.compared scan keywords limit,
    FullText.refuses keywords (Row.texts row) = false

theorem containingRefusal?_none_iff {table : Table α} {scan : Scan α} {keywords : List String}
    {limit : Nat} :
    table.containingRefusal? scan keywords limit = none ↔ table.Takes scan keywords limit := by
  have both : table.Takes scan keywords limit ↔
      ¬ FullText.largestDepth <
          (Row.columns α).length + keywords.length + 1 + scan.conditions ∧
        ¬ (table.compared scan keywords limit).any
          (fun row => FullText.refuses keywords (Row.texts row)) = true := by
    rw [Nat.not_lt, List.any_eq_true]
    refine ⟨fun takes => ⟨takes.shallow, ?_⟩, fun ⟨shallow, short⟩ => ⟨shallow, ?_⟩⟩
    · rintro ⟨row, compared, refused⟩
      rw [takes.short row compared] at refused
      cases refused
    · intro row compared
      cases refused : FullText.refuses keywords (Row.texts row) with
      | false => rfl
      | true => exact absurd ⟨row, compared, refused⟩ short
  rw [both, containingRefusal?]
  split
  · simp [*]
  · split <;> simp [*]

/-- Keywords of any letters fit, as long as they are neither very many nor very long. -/
theorem takes_of_short {table : Table α} {scan : Scan α} {keywords : List String} {limit : Nat}
    (room : (Row.columns α).length + scan.conditions ≤ 7) (few : keywords.length ≤ 992)
    (short : ∀ keyword ∈ keywords, FullText.isTooLong keyword = false) :
    table.Takes scan keywords limit where
  shallow := by
    rw [FullText.largestDepth]
    omega
  short row _ := FullText.refuses_of_short short (Row.texts row)

theorem Takes.refusal? {table : Table α} {scan : Scan α} {query : String} {limit : Nat}
    (takes : table.Takes scan (FullText.keywords query) limit) :
    table.refusal? scan query limit = none := by
  simp only [Table.refusal?, containingRefusal?_none_iff.mpr takes, ite_self]

theorem containing_eq (table : Table α) (scan : Scan α) {keywords : List String} (limit : Nat)
    (worded : keywords ≠ []) : table.containing scan keywords limit =
      refusing (table.containingRefusal? scan keywords limit)
        (limited limit ((table.mentioning keywords).filter scan.visible)) := by
  simp only [containing, containingRefusal?, FullText.depth_likeCondition
    (Row.columns_ne_nil (α := α)) (List.length_pos_iff.mpr worded)]
  split
  · rfl
  · split <;> rfl

theorem best_eq_nil {table : Table α} {visible : α → Bool} {query : String} {limit : Nat}
    (unanswered : table.answers visible query limit = [])
    (worded : FullText.keywords query ≠ []) : table.best visible query limit = [] := by
  cases found : table.best visible query limit with
  | nil => rfl
  | cons first rest => simp [answers, worded, found] at unanswered

/-- Without an answer it depends on the rows that would be compared whether that is said. -/
theorem refusal?_none_iff {table : Table α} {scan : Scan α} {query : String} {limit : Nat}
    (unanswered : table.answers scan.visible query limit = []) :
    table.refusal? scan query limit = none ↔
      (FullText.keywords query ≠ [] → table.Takes scan (FullText.keywords query) limit) := by
  by_cases worded : FullText.keywords query = []
  · simp [refusal?, worded]
  · simp [refusal?, worded, best_eq_nil unanswered worded, containingRefusal?_none_iff]

theorem refusal?_deep {table : Table α} {scan : Scan α} {query : String} {limit : Nat}
    (unanswered : table.answers scan.visible query limit = [])
    (worded : FullText.keywords query ≠ [])
    (deep : FullText.largestDepth <
      (Row.columns α).length + (FullText.keywords query).length + 1 + scan.conditions) :
    table.refusal? scan query limit = some .expressionTooDeep := by
  simp [refusal?, containingRefusal?, worded, best_eq_nil unanswered worded, deep]

theorem search_eq (table : Table α) (scan : Scan α) (query : String) (limit : Nat) :
    table.search scan query limit =
      refusing (table.refusal? scan query limit) (table.answers scan.visible query limit) := by
  simp only [search, refusal?, answers]
  split
  · rfl
  · rename_i worded
    rw [List.isEmpty_iff] at worded
    change (if (table.best scan.visible query limit).isEmpty then _ else _) = _
    split
    · rw [table.containing_eq scan limit worded, map_refusing]
    · rfl

end Table

theorem ObservationFilter.scan_room (filter : ObservationFilter) :
    (Row.columns Observation).length + filter.scan.conditions ≤ 7 := by
  have conditions : filter.scan.conditions ≤ 2 := by
    simp only [scan]
    split <;> decide
  exact Nat.add_le_add (by decide : 3 ≤ 5) conditions

theorem Store.summaryScan_room (project : Option String) :
    (Row.columns Summary).length + (summaryScan project).conditions ≤ 7 :=
  Nat.le_refl 7

theorem Store.promptScan_room (project : Option String) :
    (Row.columns Prompt).length + (promptScan project).conditions ≤ 7 :=
  (by decide : 2 ≤ 7)

namespace Search.Plan

def refusal? (plan : Plan) (query : String) (limit : Nat) : RecordKind → Option Failure
  | .observation => plan.store.observations.refusal? plan.request.filter.scan query limit
  | .summary => plan.store.summaries.refusal? (Store.summaryScan plan.request.project) query limit
  | .prompt => plan.store.prompts.refusal? (Store.promptScan plan.request.project) query limit

def Takes (plan : Plan) (query : String) (limit : Nat) : RecordKind → Prop
  | .observation => plan.store.observations.Takes plan.request.filter.scan
      (FullText.keywords query) limit
  | .summary => plan.store.summaries.Takes (Store.summaryScan plan.request.project)
      (FullText.keywords query) limit
  | .prompt => plan.store.prompts.Takes (Store.promptScan plan.request.project)
      (FullText.keywords query) limit

theorem takes_of_short {plan : Plan} {query : String} {limit : Nat} {kind : RecordKind}
    (few : (FullText.keywords query).length ≤ 992)
    (short : ∀ keyword ∈ FullText.keywords query, FullText.isTooLong keyword = false) :
    plan.Takes query limit kind := by
  cases kind with
  | observation => exact Table.takes_of_short (ObservationFilter.scan_room _) few short
  | summary => exact Table.takes_of_short (Store.summaryScan_room _) few short
  | prompt => exact Table.takes_of_short (Store.promptScan_room _) few short

theorem Takes.refusal? {plan : Plan} {query : String} {limit : Nat} {kind : RecordKind}
    (takes : plan.Takes query limit kind) : plan.refusal? query limit kind = none := by
  cases kind <;> exact Table.Takes.refusal? takes

def matchItems (plan : Plan) (query : String) (kind : RecordKind) : List SearchItem :=
  let format := plan.request.format
  let project := plan.request.project
  match kind with
  | .observation =>
    (plan.store.observations.answers plan.request.filter.admits query plan.limit).map
      fun (o, score) => (SearchItem.ofObservation format o).withScore score
  | .summary =>
    (plan.store.summaries.answers (Store.inProject project ·.project) query plan.limit).map
      fun (s, score) => (SearchItem.ofSummary format s).withScore score
  | .prompt =>
    (plan.store.prompts.answers (Store.inProject project ·.project) query plan.limit).map
      fun (p, score) => (SearchItem.ofPrompt format p).withScore score

def rankedItems (plan : Plan) (query : String) (candidates : Nat) (kind : RecordKind) :
    List (Ranking.Scored Float) :=
  let project := plan.request.project
  match kind with
  | .observation =>
    (plan.store.observations.answers plan.request.filter.admits query candidates).map
      fun (o, score) => ⟨kind.docType, o.id, score⟩
  | .summary =>
    (plan.store.summaries.answers (Store.inProject project ·.project) query candidates).map
      fun (s, score) => ⟨kind.docType, s.id, score⟩
  | .prompt =>
    (plan.store.prompts.answers (Store.inProject project ·.project) query candidates).map
      fun (p, score) => ⟨kind.docType, p.id, score⟩

theorem keywordMatches_eq (plan : Plan) (query : String) (kind : RecordKind) :
    plan.keywordMatches query kind =
      refusing (plan.refusal? query plan.limit kind) (plan.matchItems query kind) := by
  cases kind with
  | observation =>
      change (Table.search _ _ _ _).map _ = _
      rw [Table.search_eq, map_refusing]
      rfl
  | summary | prompt =>
      change (Table.search _ _ _ _).map _ = _
      rw [Table.search_eq, map_refusing]
      rfl

theorem refusal?_none_iff {plan : Plan} {query : String} {kind : RecordKind}
    (unmatched : plan.matchItems query kind = []) : plan.refusal? query plan.limit kind = none ↔
      (FullText.keywords query ≠ [] → plan.Takes query plan.limit kind) := by
  cases kind with
  | observation | summary | prompt =>
      exact Table.refusal?_none_iff (List.map_eq_nil_iff.mp unmatched)

theorem rankedKind_eq (plan : Plan) (query : String) (candidates : Nat) (kind : RecordKind) :
    plan.rankedKind query candidates kind =
      refusing (plan.refusal? query candidates kind) (plan.rankedItems query candidates kind) := by
  cases kind with
  | observation | summary | prompt =>
      change (Table.search _ _ _ _).map _ = _
      rw [Table.search_eq, map_refusing]
      rfl

def matchingRefusal? (plan : Plan) : Option Failure :=
  plan.request.queryText.bind fun query =>
    plan.request.type.kinds.findSome? (plan.refusal? query plan.limit)

def allMatches (plan : Plan) : List SearchItem :=
  match plan.request.queryText with
  | some query => plan.request.type.kinds.flatMap (plan.matchItems query)
  | none => []

def shown (plan : Plan) : List SearchItem :=
  (SearchItem.sort plan.request.order
    (if plan.allMatches.isEmpty then plan.latest else plan.allMatches)).take plan.limit

theorem matching_eq (plan : Plan) :
    plan.matching = refusing plan.matchingRefusal? plan.allMatches := by
  simp only [matching, matchingRefusal?, allMatches]
  cases plan.request.queryText with
  | none => rfl
  | some query =>
      simp only [Option.bind_some, funext (plan.keywordMatches_eq query), mapM_refusing,
        map_refusing, List.flatMap_def]

theorem structured_eq (plan : Plan) :
    plan.structured = refusing plan.matchingRefusal? plan.shown := by
  simp only [structured, found, matching_eq, map_refusing, shown]

theorem mem_fullTextRanking {plan : Plan} {query : String} {candidates : Nat}
    {entry : Ranking.Scored Float} : entry ∈ plan.fullTextRanking query candidates ↔
      ∃ kind ∈ plan.request.type.kinds, plan.refusal? query candidates kind = none ∧
        entry ∈ plan.rankedItems query candidates kind := by
  simp only [fullTextRanking, List.mem_mergeSort, List.mem_flatMap, rankedKind_eq]
  refine exists_congr fun kind => and_congr_right fun _ => ?_
  cases plan.refusal? query candidates kind <;> simp [refusing, Except.toOption]

end Search.Plan

namespace Search

theorem candidateCount_ok_iff {settings : SearchSettings} {limit candidates : Nat} :
    candidateCount settings limit = .ok candidates ↔
      limit * max settings.candidateFactor 1 < Number.wordBound ∧
        candidates = limit * max settings.candidateFactor 1 := by
  simp only [candidateCount]
  split
  · rename_i fits
    simp [fits, eq_comm]
  · rename_i overflows
    simp [overflows]

theorem candidateCount_error_iff {settings : SearchSettings} {limit : Nat} {failure : Failure} :
    candidateCount settings limit = .error failure ↔
      Number.wordBound ≤ limit * max settings.candidateFactor 1 ∧
        failure = .candidatesOverflow := by
  simp only [candidateCount]
  split
  · rename_i fits
    simp [Nat.not_le.mpr fits]
  · rename_i overflows
    simp [Nat.not_lt.mp overflows, eq_comm]

namespace Plan

theorem semantic?_some_iff {plan : Plan} {settings : SearchSettings} {index : Option VectorIndex}
    {items : List SearchItem} : plan.semantic? settings index = .ok (some items) ↔
      ∃ query held candidates, plan.request.queryText = some query ∧ index = some held ∧
        held.isConnected = true ∧ candidateCount settings plan.limit = .ok candidates ∧
        plan.semantic settings held query candidates = .ok items := by
  simp only [semantic?]
  cases plan.request.queryText with
  | none => simp
  | some query =>
      cases index with
      | none => simp
      | some held =>
          cases connected : held.isConnected with
          | false => simp [connected]
          | true =>
              cases counted : candidateCount settings plan.limit with
              | error failure => simp [connected, Except.map]
              | ok candidates =>
                  cases answered : plan.semantic settings held query candidates with
                  | error failure => simp [connected, Except.map, Except.toOption, answered]
                  | ok found => simp [connected, Except.map, Except.toOption, answered]

theorem semantic?_error_iff {plan : Plan} {settings : SearchSettings}
    {index : Option VectorIndex} {failure : Failure} :
    plan.semantic? settings index = .error failure ↔ plan.request.queryText.isSome = true ∧
      (∃ held, index = some held ∧ held.isConnected = true) ∧
        candidateCount settings plan.limit = .error failure := by
  simp only [semantic?]
  cases plan.request.queryText with
  | none => simp
  | some query =>
      cases index with
      | none => simp
      | some held =>
          cases connected : held.isConnected with
          | false => simp [connected]
          | true =>
              cases counted : candidateCount settings plan.limit with
              | error other => simp [connected, Except.map]
              | ok candidates => simp [connected, Except.map]

theorem semantic?_unindexed (plan : Plan) (settings : SearchSettings) :
    plan.semantic? settings none = .ok none := by
  cases asked : plan.request.queryText <;> simp [semantic?, asked]

theorem respond_structured {plan : Plan} {settings : SearchSettings} {index : Option VectorIndex}
    (passed : plan.semantic? settings index = .ok none) : plan.respond settings index =
      refusing plan.matchingRefusal? ⟨plan.shown, .structured⟩ := by
  rw [respond, passed, structured_eq]
  cases plan.matchingRefusal? <;> rfl

theorem respond_ok_iff {plan : Plan} {settings : SearchSettings} {index : Option VectorIndex}
    {response : SearchResponse} : plan.respond settings index = .ok response ↔
      (∃ items, plan.semantic? settings index = .ok (some items) ∧ response = ⟨items, .vector⟩) ∨
        (plan.semantic? settings index = .ok none ∧ plan.matchingRefusal? = none ∧
          response = ⟨plan.shown, .structured⟩) := by
  rcases found : plan.semantic? settings index with failure | _ | items
  · rw [respond, found]
    constructor
    · rintro ⟨⟩
    · rintro (⟨items, ⟨⟩, -⟩ | ⟨⟨⟩, -⟩)
  · rw [respond_structured found, refusing_ok_iff]
    constructor
    · rintro ⟨accepted, same⟩
      exact Or.inr ⟨rfl, accepted, same.symm⟩
    · rintro (⟨items, ⟨⟩, -⟩ | ⟨-, accepted, same⟩)
      exact ⟨accepted, same.symm⟩
  · rw [respond, found]
    constructor
    · rintro ⟨⟩
      exact Or.inl ⟨items, rfl, rfl⟩
    · rintro (⟨_, ⟨⟩, rfl⟩ | ⟨⟨⟩, -⟩)
      rfl

theorem respond_error_iff {plan : Plan} {settings : SearchSettings}
    {index : Option VectorIndex} {failure : Failure} :
    plan.respond settings index = .error failure ↔
      plan.semantic? settings index = .error failure ∨
        (plan.semantic? settings index = .ok none ∧ plan.matchingRefusal? = some failure) := by
  rcases found : plan.semantic? settings index with other | _ | items
  · simp [respond, found, bind, Except.bind]
  · rw [respond_structured found, refusing_error_iff]
    simp
  · simp [respond, found, bind, Except.bind, pure, Except.pure]

end Plan

end Search

end Recall
