import Mathlib.Algebra.GroupWithZero.Nat
import Mathlib.Data.Prod.Lex
import Recall.Proofs.Gaps
import Recall.Proofs.KeywordMatches
import Recall.Proofs.StableOrder
import Recall.Proofs.Visibility

/-!
The list that a search without an index shows when no keyword matches. Each kind is sorted
and cut by itself before the whole is sorted again and cut: that comes to the first of all
visible records.
-/

namespace Recall

namespace SearchItem

def age (item : SearchItem) : Int ×ₗ Int := toLex (item.createdAt, item.id)

def standing (item : SearchItem) : Int ×ₗ Int ×ₗ Int :=
  toLex (Number.valueKey item.weight, item.age)

def listedBefore : SortOrder → SearchItem → SearchItem → Bool
  | .oldestFirst, a, b => a.age ≤ b.age
  | .importance, a, b => b.standing ≤ a.standing
  | .newestFirst, a, b | .unspecified, a, b => b.age ≤ a.age

def arrange (order : SortOrder) (items : List SearchItem) : List SearchItem :=
  if order = .unspecified then items else items.mergeSort (listedBefore order)

theorem ranks_listedBefore (order : SortOrder) : Ranks (listedBefore order) := by
  cases order with
  | oldestFirst => exact ranks_key age
  | newestFirst | unspecified => exact (ranks_key age).flip
  | importance => exact (ranks_key standing).flip

theorem age_le_iff {a b : SearchItem} : b.age ≤ a.age ↔
    b.createdAt < a.createdAt ∨ (a.createdAt = b.createdAt ∧ b.id ≤ a.id) := by
  rw [age, age, Prod.Lex.toLex_le_toLex, eq_comm]

theorem standing_le_iff {a b : SearchItem} : b.standing ≤ a.standing ↔
    Number.valueKey b.weight < Number.valueKey a.weight ∨
      (Number.valueKey a.weight = Number.valueKey b.weight ∧ b.age ≤ a.age) := by
  rw [standing, standing, Prod.Lex.toLex_le_toLex, eq_comm]

theorem listedBefore_newest {order : SortOrder} {a b : SearchItem}
    (one : listedBefore order a b = true) (two : listedBefore order b a = true) :
    listedBefore .newestFirst a b = true := by
  cases order with
  | oldestFirst => exact two
  | newestFirst | unspecified => exact one
  | importance =>
      simp only [listedBefore, decide_eq_true_eq] at *
      have same := le_antisymm one two
      exact le_of_eq (congrArg (fun place => (ofLex place).2) same)

theorem newestFirst_eq (a b : SearchItem) : newestFirst a b = listedBefore .newestFirst a b := by
  rw [Bool.eq_iff_iff, listedBefore, decide_eq_true_eq, age_le_iff]
  simp [newestFirst]

end SearchItem

namespace Number

def isNegativeZero (x : Float) : Bool := isNegative x && magnitude x = 0

theorem totalKey_lt_iff {x y : Float} (signless : isNegativeZero x = false) :
    totalKey x < totalKey y ↔ valueKey x < valueKey y := by
  have large : isNegative x = true → magnitude x ≠ 0 := by
    simpa [isNegativeZero] using signless
  simp only [totalKey, valueKey]
  split
  · have filled := large ‹_›
    split <;> omega
  · split <;> omega

theorem totalKey_eq_iff {x y : Float} (first : isNegativeZero x = false)
    (second : isNegativeZero y = false) :
    totalKey x = totalKey y ↔ valueKey x = valueKey y := by
  have below : totalKey x < totalKey y ↔ _ := totalKey_lt_iff first
  have above : totalKey y < totalKey x ↔ _ := totalKey_lt_iff second
  omega

end Number

namespace SearchItem

theorem mostImportantFirst_eq {a b : SearchItem} (first : Number.isNegativeZero a.weight = false)
    (second : Number.isNegativeZero b.weight = false) :
    mostImportantFirst a b = listedBefore .importance a b := by
  rw [Bool.eq_iff_iff, listedBefore, decide_eq_true_eq, standing_le_iff]
  simp only [mostImportantFirst, Bool.or_eq_true, Bool.and_eq_true, decide_eq_true_eq,
    newestFirst_eq, listedBefore, Number.totalKey_lt_iff second,
    Number.totalKey_eq_iff first second]

theorem sort_eq_arrange {order : SortOrder} {items : List SearchItem}
    (signless : order = .importance → ∀ item ∈ items, Number.isNegativeZero item.weight = false) :
    sort order items = arrange order items := by
  have resort {before after : SearchItem → SearchItem → Bool}
      (same : ∀ a ∈ items, ∀ b ∈ items, before a b = after a b) :
      items.mergeSort before = items.mergeSort after := by
    simpa using List.map_mergeSort (f := fun item => item) same
  cases order with
  | unspecified => rfl
  | oldestFirst => exact resort fun a _ b _ => newestFirst_eq b a
  | newestFirst => exact resort fun a _ b _ => newestFirst_eq a b
  | importance =>
      exact resort fun a first b second =>
        mostImportantFirst_eq (signless rfl a first) (signless rfl b second)

end SearchItem

namespace Search.Plan

def visible (plan : Plan) (kind : RecordKind) : List SearchItem :=
  let format := plan.request.format
  let own := Store.inProject plan.request.project
  match kind with
  | .observation => (plan.store.observations.rows.filter plan.request.filter.admits).map
      (SearchItem.ofObservation format)
  | .summary => (plan.store.summaries.rows.filter (own ·.project)).map
      (SearchItem.ofSummary format)
  | .prompt => (plan.store.prompts.rows.filter (own ·.project)).map
      (SearchItem.ofPrompt format)

section

variable [Row α] {item : α → SearchItem}

def Dates (item : α → SearchItem) : Prop :=
  ∀ row, (item row).createdAt = Row.createdAt row ∧ (item row).id = Row.id row

theorem newestFirst_item (dates : Dates item) (a b : α) :
    newestFirst a b = SearchItem.listedBefore .newestFirst (item a) (item b) := by
  rw [← SearchItem.newestFirst_eq]
  simp only [newestFirst, SearchItem.newestFirst, (dates a).1, (dates a).2, (dates b).1,
    (dates b).2]

theorem ageOrder_item (dates : Dates item) (plain : ∀ row, (item row).importance = none)
    (order : SortOrder) (a b : α) :
    Store.ageOrder order a b = SearchItem.listedBefore order (item a) (item b) := by
  cases order with
  | oldestFirst => exact newestFirst_item dates b a
  | newestFirst | unspecified => exact newestFirst_item dates a b
  | importance =>
      have aged : Store.ageOrder .importance a b = newestFirst a b := rfl
      have level (row : α) : (item row).weight = 1 := by
        rw [SearchItem.weight, plain]
        rfl
      rw [aged, newestFirst_item dates, Bool.eq_iff_iff]
      simp only [SearchItem.listedBefore, decide_eq_true_eq, SearchItem.standing_le_iff, level,
        lt_irrefl, false_or, true_and]

theorem listOrder_item (format : Format) (order : SortOrder) (a b : Observation) :
    Store.listOrder order a b = SearchItem.listedBefore order (.ofObservation format a)
      (.ofObservation format b) := by
  have dates : Dates (SearchItem.ofObservation format) := fun _ => ⟨rfl, rfl⟩
  cases order with
  | oldestFirst => exact newestFirst_item dates b a
  | newestFirst | unspecified => exact newestFirst_item dates a b
  | importance =>
      have level (o : Observation) :
          (SearchItem.ofObservation format o).weight = o.importance := rfl
      have aged := newestFirst_item dates a b
      rw [Bool.eq_iff_iff] at aged ⊢
      simp only [SearchItem.listedBefore, decide_eq_true_eq] at aged
      simp only [Store.listOrder, mostImportantFirst, Bool.or_eq_true, Bool.and_eq_true,
        decide_eq_true_eq, aged, SearchItem.listedBefore, SearchItem.standing_le_iff, level]

end

theorem limited_listed {item : α → SearchItem} {order : SortOrder} {before : α → α → Bool}
    (same : ∀ a b, before a b = SearchItem.listedBefore order (item a) (item b)) (limit : Nat)
    (rows : List α) : (limited limit (rows.mergeSort before)).map item =
      limited limit ((rows.map item).mergeSort (SearchItem.listedBefore order)) := by
  rw [← List.map_mergeSort fun a _ b _ => same a b]
  simp only [limited]
  split
  · exact List.map_take
  · rfl

theorem recent_eq (plan : Plan) (kind : RecordKind) : plan.recent kind =
    limited plan.limit
      ((plan.visible kind).mergeSort (SearchItem.listedBefore plan.request.order)) := by
  cases kind with
  | observation => exact limited_listed (listOrder_item _ _) plan.limit _
  | summary =>
      exact limited_listed (ageOrder_item (fun _ => ⟨rfl, rfl⟩) (fun _ => rfl) _) plan.limit _
  | prompt =>
      exact limited_listed (ageOrder_item (fun _ => ⟨rfl, rfl⟩) (fun _ => rfl) _) plan.limit _

theorem limited_sameTop (limit : Nat) (items : List α) :
    SameTop limit (limited limit items) items := by
  simp only [SameTop, limited]
  split
  · rw [List.take_take, Nat.min_self]
  · rfl

theorem limited_ordered {order : α → α → Bool} (limit : Nat) {items : List α}
    (ordered : items.Pairwise (order · · = true)) :
    (limited limit items).Pairwise (order · · = true) := by
  simp only [limited]
  split
  · exact ordered.sublist (List.take_sublist _ _)
  · exact ordered

/-- All visible records of the kinds asked for, each kind with the newest first, and then in
the order asked for. -/
def listing (plan : Plan) : List SearchItem :=
  SearchItem.arrange plan.request.order (plan.request.type.kinds.flatMap fun kind =>
    (plan.visible kind).mergeSort (SearchItem.listedBefore .newestFirst))

/-- The limits that are set on the kinds make no difference. -/
theorem arrange_recent (plan : Plan) : SameTop plan.limit
    (SearchItem.arrange plan.request.order (plan.request.type.kinds.flatMap plan.recent))
    plan.listing := by
  have newest := SearchItem.ranks_listedBefore .newestFirst
  have ranks := SearchItem.ranks_listedBefore plan.request.order
  simp only [listing, SearchItem.arrange]
  split
  · rename_i unspecified
    refine SameTop.flatMap fun kind _ => ?_
    rw [recent_eq, unspecified]
    exact limited_sameTop plan.limit _
  · refine SameTop.mergeSort_flatMap ranks fun kind _ => ?_
    have sorted := List.pairwise_mergeSort ranks.trans ranks.total (plan.visible kind)
    rw [ranks.mergeSort_mergeSort newest fun a b => SearchItem.listedBefore_newest,
      recent_eq, List.mergeSort_of_pairwise (limited_ordered plan.limit sorted)]
    exact limited_sameTop plan.limit _

theorem arrange_length (order : SortOrder) (items : List SearchItem) :
    (SearchItem.arrange order items).length = items.length := by
  rw [SearchItem.arrange]
  split
  · rfl
  · exact List.length_mergeSort _

theorem listing_length (plan : Plan) : plan.listing.length =
    (plan.request.type.kinds.map fun kind => (plan.visible kind).length).sum := by
  rw [listing, arrange_length, List.length_flatMap]
  simp only [List.length_mergeSort]

theorem mem_recent {plan : Plan} {kind : RecordKind} {item : SearchItem}
    (member : item ∈ plan.recent kind) : item ∈ plan.visible kind := by
  rw [recent_eq] at member
  exact List.mem_mergeSort.mp (limited_subset member)

theorem visible_signless {plan : Plan}
    (signless : ∀ o ∈ plan.store.observations.rows, Number.isNegativeZero o.importance = false)
    {kind : RecordKind} {item : SearchItem} (member : item ∈ plan.visible kind) :
    Number.isNegativeZero item.weight = false := by
  cases kind with
  | observation =>
      obtain ⟨o, present, rfl⟩ := List.mem_map.mp member
      exact signless o (List.mem_filter.mp present).1
  | summary | prompt =>
      obtain ⟨row, present, rfl⟩ := List.mem_map.mp member
      exact (by decide : Number.isNegativeZero 1 = false)

theorem shown_eq_listing {plan : Plan}
    (unmatched : ∀ query, plan.request.queryText = some query →
      ∀ kind ∈ plan.request.type.kinds, plan.matchItems query kind = [])
    (signless : plan.request.order = .importance →
      ∀ o ∈ plan.store.observations.rows, Number.isNegativeZero o.importance = false) :
    plan.shown = plan.listing.take plan.limit := by
  have bare : plan.allMatches = [] := by
    simp only [allMatches]
    split
    · rename_i query asked
      exact List.flatMap_eq_nil_iff.mpr (unmatched query asked)
    · rfl
  rw [shown, bare, List.isEmpty_nil, if_pos rfl, SearchItem.sort_eq_arrange]
  · exact plan.arrange_recent
  · intro importance item member
    obtain ⟨kind, -, recent⟩ := List.mem_flatMap.mp member
    exact visible_signless (signless importance) (mem_recent recent)

theorem matchingRefusal?_none_iff {plan : Plan}
    (unmatched : ∀ query, plan.request.queryText = some query →
      ∀ kind ∈ plan.request.type.kinds, plan.matchItems query kind = []) :
    plan.matchingRefusal? = none ↔ ∀ query, plan.request.queryText = some query →
      FullText.keywords query ≠ [] →
        ∀ kind ∈ plan.request.type.kinds, plan.Takes query plan.limit kind := by
  cases asked : plan.request.queryText with
  | none => simp [matchingRefusal?, asked]
  | some query =>
      simp only [matchingRefusal?, asked, Option.bind_some, List.findSome?_eq_none_iff,
        Option.some.injEq, forall_eq']
      constructor
      · intro accepted worded kind member
        exact (refusal?_none_iff (unmatched query asked kind member)).mp (accepted kind member)
          worded
      · intro takes kind member
        exact (refusal?_none_iff (unmatched query asked kind member)).mpr fun worded =>
          takes worded kind member

end Search.Plan

section

variable [Row α] {table : Table α}

theorem Table.answers_silent (silent : ∀ row ∈ table.rows, ∀ text, some text ∉ Row.texts row)
    {visible : α → Bool} {query : String} {limit : Nat} (room : 0 < limit) :
    table.answers visible query limit = [] := by
  rw [answers_eq_nil_iff room]
  refine Or.inr ⟨?_, ?_⟩
  · have unranked : table.ranked (FullText.keywords query) = [] := by
      simp only [ranked, FullText.ranked, FullText.relevances, List.map_eq_nil_iff]
      rw [← List.length_eq_zero_iff, List.length_mergeSort, List.length_map,
        List.length_eq_zero_iff, List.filter_eq_nil_iff]
      intro entry prepared found
      obtain ⟨row, listed, rfl⟩ := List.mem_map.mp prepared
      obtain ⟨-, -, text, own, -⟩ := (FullText.hasAny_iff row).mp found
      exact silent row (table.rankedRows_sublist.subset listed) text own
    rw [unranked]
    rfl
  · rw [List.filter_eq_nil_iff]
    intro row mentioned
    obtain ⟨listed, found⟩ := List.mem_filter.mp (List.mem_mergeSort.mp mentioned)
    obtain ⟨-, -, text, own, -⟩ := FullText.mentions_iff.mp found
    exact absurd own (silent row listed text)

end

/-- Of a search that does not go by the index, when there is no query or none of its keywords
occurs. It fails exactly when that cannot be found out, for too many keywords or too long ones. -/
theorem unmatched_search_lists (engine : Engine) (request : SearchRequest) (now : Int)
    (structured :
      (engine.plan request).semantic? engine.searching engine.index = .ok none)
    (unmatched : ∀ query, request.queryText = some query → ∀ kind ∈ request.type.kinds,
      (engine.plan request).matchItems query kind = [])
    (signless : request.order = .importance →
      ∀ o ∈ engine.store.observations.rows, Number.isNegativeZero o.importance = false) :
    let plan := engine.plan request
    let listed : SearchResponse := ⟨plan.listing.take plan.limit, .structured⟩
    ((engine.search request now).result = .ok listed ↔
      ∀ query, request.queryText = some query → FullText.keywords query ≠ [] →
        ∀ kind ∈ request.type.kinds, plan.Takes query plan.limit kind) ∧
    (∀ response, (engine.search request now).result = .ok response → response = listed) ∧
    listed.results.length = min plan.limit
      (request.type.kinds.map fun kind => (plan.visible kind).length).sum := by
  intro plan listed
  have shown : plan.shown = listed.results := Search.Plan.shown_eq_listing unmatched signless
  have answers (response : SearchResponse) : (engine.search request now).result = .ok response ↔
      plan.matchingRefusal? = none ∧ response = listed := by
    rw [engine.search_result, Search.Plan.respond_ok_iff]
    change (∃ items, plan.semantic? engine.searching engine.index = .ok (some items) ∧ _) ∨
      plan.semantic? engine.searching engine.index = .ok none ∧ _ ↔ _
    rw [show plan.semantic? engine.searching engine.index = .ok none from structured, shown]
    constructor
    · rintro (⟨items, ⟨⟩, -⟩ | ⟨-, accepted, same⟩)
      exact ⟨accepted, same⟩
    · rintro ⟨accepted, same⟩
      exact Or.inr ⟨rfl, accepted, same⟩
  refine ⟨?_, fun response answered => ((answers response).mp answered).2, ?_⟩
  · rw [answers, and_iff_left rfl]
    exact Search.Plan.matchingRefusal?_none_iff unmatched
  · rw [List.length_take, plan.listing_length]
    rfl

/-- Observations whose importance and age differ, and records of the kinds that have no
importance. -/
def assorted : Engine :=
  let occasion (project : String) (now : Int) : Occasion :=
    { sessionKey := "session", project, now }
  let observation (project : String) (now : Int) (importance : Option Float) :=
    Store.observationOf
      { content := { type := .bugfix }, scope := some .project, importance } none
      (occasion project now)
  let summary := Store.summaryOf { request := some "mend it" } none (occasion "one" 5)
  { store := {
      observations := ((({} : Table Observation).insert (observation "one" 5 (some 2))).insert
        (observation "two" 6 none)).insert (observation "one" 5 (some 0))
      summaries := ({} : Table Summary).insert summary
      prompts := ({} : Table Prompt).insert (Store.promptOf 1 "why?" (occasion "one" 3)) } }

theorem assorted_unmatched_lists :
    let request : SearchRequest :=
      { project := some "one", query := some "tests?", order := .importance, limit := some 1 }
    let plan := assorted.plan request
    let listed : SearchResponse := ⟨plan.listing.take plan.limit, .structured⟩
    (plan.semantic? assorted.searching assorted.index = .ok none ∧
      (∀ query, request.queryText = some query → ∀ kind ∈ request.type.kinds,
        plan.matchItems query kind = []) ∧
      (request.order = .importance → ∀ o ∈ assorted.store.observations.rows,
        Number.isNegativeZero o.importance = false)) ∧
    (assorted.search request 9).result = .ok listed ∧
    listed.results.length = min plan.limit
      (request.type.kinds.map fun kind => (plan.visible kind).length).sum := by
  intro request plan listed
  have asked : request.queryText = some "tests?" := by decide +kernel
  have structured : plan.semantic? assorted.searching assorted.index = .ok none := by
    simp only [Search.Plan.semantic?]
    split
    · rename_i held
      cases held
    · rfl
  have signless : ∀ o ∈ assorted.store.observations.rows,
      Number.isNegativeZero o.importance = false := by decide +kernel
  have unmatched (query : String) (given : request.queryText = some query) :
      ∀ kind ∈ request.type.kinds, plan.matchItems query kind = [] := by
    rw [asked] at given
    cases given
    intro kind _
    cases kind <;> decide +kernel
  have takes (query : String) (given : request.queryText = some query) :
      FullText.keywords query ≠ [] → ∀ kind ∈ request.type.kinds,
        plan.Takes query plan.limit kind := by
    rw [asked] at given
    cases given
    exact fun _ kind _ => Search.Plan.takes_of_short (by decide +kernel) (by decide +kernel)
  obtain ⟨lists, -, size⟩ :=
    unmatched_search_lists assorted request 9 structured unmatched fun _ => signless
  exact ⟨⟨structured, unmatched, fun _ => signless⟩, lists.mpr takes, size⟩

def wordless : Engine :=
  let observation := Store.observationOf { content := { type := .discovery } } none
    { sessionKey := "session", project := "project", now := 1 }
  { store := { observations := ({} : Table Observation).insert observation } }

section

variable (request : SearchRequest)

theorem wordless_matchItems (query : String) (kind : RecordKind) :
    (wordless.plan request).matchItems query kind = [] := by
  have observations : ∀ o ∈ wordless.store.observations.rows, ∀ text,
      some text ∉ Row.texts o := by
    intro o member text
    rw [List.mem_singleton.mp member]
    simp [Row.texts, ObservationContent.searchedTexts, Store.observationOf]
  have summaries : ∀ s ∈ wordless.store.summaries.rows, ∀ text, some text ∉ Row.texts s :=
    fun _ member => nomatch member
  have prompts : ∀ p ∈ wordless.store.prompts.rows, ∀ text, some text ∉ Row.texts p :=
    fun _ member => nomatch member
  have room := wordless.plan_limit_pos request
  cases kind <;> simp only [Search.Plan.matchItems, List.map_eq_nil_iff]
  · exact Table.answers_silent observations room
  · exact Table.answers_silent summaries room
  · exact Table.answers_silent prompts room

theorem wordless_refuses {others : List RecordKind}
    (asked : request.type.kinds = .observation :: others) {query : String}
    (given : request.queryText = some query)
    (many : 1000 ≤ (FullText.keywords query).length) (now : Int) :
    (wordless.search request now).result = .error .expressionTooDeep := by
  have worded : FullText.keywords query ≠ [] := by
    intro bare
    rw [bare] at many
    exact absurd many (by decide)
  have unanswered := List.map_eq_nil_iff.mp (wordless_matchItems request query .observation)
  have deep : (wordless.plan request).refusal? query (wordless.plan request).limit .observation =
      some .expressionTooDeep := by
    refine Table.refusal?_deep unanswered worded ?_
    rw [FullText.largestDepth]
    omega
  have refused : (wordless.plan request).matchingRefusal? = some .expressionTooDeep := by
    simp only [Search.Plan.matchingRefusal?, Engine.plan] at deep ⊢
    rw [given, asked, Option.bind_some, List.findSome?_cons, deep]
  have passed := (wordless.plan request).semantic?_unindexed wordless.searching
  rw [wordless.search_result]
  refine (Search.Plan.respond_structured passed).trans ?_
  rw [refused]
  rfl

end

theorem long_query_not_listed :
    let request : SearchRequest := { query := some (FullText.numbers 1000) }
    let plan := wordless.plan request
    (plan.semantic? wordless.searching wordless.index = .ok none ∧
      (∀ query, request.queryText = some query → ∀ kind ∈ request.type.kinds,
        plan.matchItems query kind = []) ∧ plan.listing.take plan.limit ≠ []) ∧
    (wordless.search request 9).result = .error .expressionTooDeep := by
  intro request plan
  have many := FullText.le_length_keywords_numbers 1000
  have worded : FullText.keywords (FullText.numbers 1000) ≠ [] := by
    intro bare
    rw [bare] at many
    exact absurd many (by decide)
  have asked : request.queryText = some (Text.trim (FullText.numbers 1000)) :=
    SearchRequest.queryText_of_keywords rfl worded
  refine ⟨⟨Search.Plan.semantic?_unindexed _ _, fun query _ kind _ =>
    wordless_matchItems request query kind, ?_⟩, ?_⟩
  · refine List.ne_nil_of_length_pos ?_
    rw [List.length_take, plan.listing_length]
    decide +kernel
  · refine wordless_refuses request rfl asked ?_ 9
    rw [FullText.keywords_trim]
    exact many

end Recall
