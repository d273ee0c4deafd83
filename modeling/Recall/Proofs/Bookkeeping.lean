import Recall.Proofs.Presentation

namespace Recall

open Ranking (Scored)

theorem limited_map (limit : Nat) (change : α → β) (rows : List α) :
    limited limit (rows.map change) = (limited limit rows).map change := by
  simp only [limited]
  split
  · exact List.map_take.symm
  · rfl

theorem listed_map (change : α → α) {visible : α → Bool} {order : α → α → Bool}
    (unseen : ∀ row, visible (change row) = visible row)
    (level : ∀ a b, order (change a) (change b) = order a b) (limit : Nat) (rows : List α) :
    limited limit (((rows.map change).filter visible).mergeSort order) =
      (limited limit ((rows.filter visible).mergeSort order)).map change := by
  have seen : visible ∘ change = visible := funext unseen
  rw [List.filter_map, seen, ← limited_map,
    List.map_mergeSort fun a _ b _ => (level a b).symm]

theorem readUntil_map {found : α → Bool} {change : α → α}
    (unseen : ∀ row, found (change row) = found row) (enough : Nat) (rows : List α) :
    readUntil found enough (rows.map change) = (readUntil found enough rows).map change := by
  induction rows generalizing enough with
  | nil => cases enough <;> rfl
  | cons first rest ih =>
      cases enough with
      | zero => rfl
      | succ enough => simp only [List.map_cons, readUntil, unseen, ih]

namespace FullText

def Indexed.relabel (change : α → β) (entry : Indexed α) : Indexed β :=
  ⟨change entry.row, entry.columns⟩

theorem relevances_relabel (phrases : List (List Token)) (change : α → β)
    (entries : List (Indexed α)) :
    relevances phrases (entries.map (Indexed.relabel change)) =
      (relevances phrases entries).map (Prod.map (Indexed.relabel change) id) := by
  simp only [relevances, List.length_map, List.map_map, List.countP_map, List.filter_map]
  rfl

theorem ranked_relabel (phrases : List (List Token)) (change : α → β)
    (entries : List (Indexed α)) :
    ranked phrases (entries.map (Indexed.relabel change)) =
      (ranked phrases entries).map (Prod.map change id) := by
  simp only [ranked, relevances_relabel]
  rw [← List.map_mergeSort (r := fun a b => decide (Number.totalKey a.2 ≤ Number.totalKey b.2))
    fun a _ b _ => rfl, List.map_map, List.map_map]
  rfl

end FullText

namespace Table

variable [Row α]

def mapRows (change : α → α) (table : Table α) : Table α :=
  { table with rows := table.rows.map change }

/-- A change of rows that keeps what a table looks at. -/
structure Discreet (change : α → α) : Prop where
  id_eq : ∀ row, Row.id (change row) = Row.id row
  createdAt_eq : ∀ row, Row.createdAt (change row) = Row.createdAt row
  texts_eq : ∀ row, Row.texts (change row) = Row.texts row

namespace Discreet

variable {change : α → α}

theorem newestFirst (discreet : Discreet change) (a b : α) :
    Recall.newestFirst (change a) (change b) = Recall.newestFirst a b := by
  simp only [Recall.newestFirst, discreet.id_eq, discreet.createdAt_eq]

theorem find? (discreet : Discreet change) (table : Table α) (id : Int) :
    (table.mapRows change).find? id = (table.find? id).map change := by
  simp only [Table.find?, mapRows, List.find?_map, Function.comp_def, discreet.id_eq]

theorem ranked (discreet : Discreet change) (table : Table α) (keywords : List String) :
    (table.mapRows change).ranked keywords =
      (table.ranked keywords).map (Prod.map change id) := by
  have rows : (table.mapRows change).rankedRows = table.rankedRows.map change := by
    simp only [rankedRows, mapRows]
    split
    · simp only [List.filter_map, Function.comp_def, discreet.id_eq]
    · rfl
  have columns : indexed ∘ change = FullText.Indexed.relabel change ∘ indexed := by
    funext row
    simp only [Function.comp_apply, indexed, discreet.texts_eq, FullText.Indexed.relabel]
  rw [Table.ranked, Table.ranked, rows, List.map_map, columns, ← List.map_map,
    FullText.ranked_relabel]

theorem mentioning (discreet : Discreet change) (table : Table α) (keywords : List String) :
    (table.mapRows change).mentioning keywords = (table.mentioning keywords).map change := by
  simp only [Table.mentioning, mapRows, List.filter_map, Function.comp_def, discreet.texts_eq]
  exact (List.map_mergeSort fun a _ b _ => (discreet.newestFirst a b).symm).symm

theorem best (discreet : Discreet change) {visible : α → Bool}
    (unseen : ∀ row, visible (change row) = visible row) (table : Table α) (query : String)
    (limit : Nat) : (table.mapRows change).best visible query limit =
      (table.best visible query limit).map (Prod.map change id) := by
  rw [Table.best, discreet.ranked, List.filter_map, limited_map]
  simp only [Function.comp_def, Prod.map_fst, unseen]
  rfl

theorem answers (discreet : Discreet change) {visible : α → Bool}
    (unseen : ∀ row, visible (change row) = visible row) (table : Table α) (query : String)
    (limit : Nat) : (table.mapRows change).answers visible query limit =
      (table.answers visible query limit).map (Prod.map change id) := by
  have mentioned (keywords : List String) :
      limited limit (((table.mapRows change).mentioning keywords).filter visible) =
        (limited limit ((table.mentioning keywords).filter visible)).map change := by
    rw [discreet.mentioning, List.filter_map, limited_map]
    simp only [Function.comp_def, unseen]
  simp only [Table.answers, discreet.best unseen, mentioned, List.isEmpty_map]
  split
  · rfl
  · split
    · rw [List.map_map, List.map_map]
      rfl
    · rw [List.map_map, List.map_map]
      rfl

structure Unseen (scan : Scan α) (change : α → α) : Prop where
  visible : ∀ row, scan.visible (change row) = scan.visible row
  gathered : ∀ test, scan.gathered = some test → ∀ row, test (change row) = test row

theorem compared (discreet : Discreet change) {scan : Scan α} (unseen : Unseen scan change)
    (table : Table α) (keywords : List String) (limit : Nat) :
    (table.mapRows change).compared scan keywords limit =
      (table.compared scan keywords limit).map change := by
  have newest : (table.rows.map change).mergeSort Recall.newestFirst =
      (table.rows.mergeSort Recall.newestFirst).map change :=
    (List.map_mergeSort fun a _ b _ => (discreet.newestFirst a b).symm).symm
  have found (row : α) : (FullText.mentions keywords (Row.texts (change row)) &&
      scan.visible (change row)) =
        (FullText.mentions keywords (Row.texts row) && scan.visible row) := by
    rw [discreet.texts_eq, unseen.visible]
  simp only [Table.compared, mapRows]
  split
  · rename_i gathered given
    split
    · rfl
    · rw [List.filter_map]
      exact congrArg _ (List.filter_congr fun row _ => unseen.gathered gathered given row)
  · rw [newest]
    split
    · exact readUntil_map found limit _
    · rfl

theorem refusal? (discreet : Discreet change) {scan : Scan α} (unseen : Unseen scan change)
    (table : Table α) (query : String) (limit : Nat) :
    (table.mapRows change).refusal? scan query limit = table.refusal? scan query limit := by
  simp only [Table.refusal?, containingRefusal?, discreet.best unseen.visible,
    discreet.compared unseen, List.isEmpty_map, List.any_map, Function.comp_def,
    discreet.texts_eq]

end Discreet

end Table

def Observation.unmarked (o : Observation) : Observation :=
  { o with retrievalCount := 0, lastRetrievedAt := none }

theorem Observation.unmarked_discreet : Table.Discreet Observation.unmarked :=
  ⟨fun _ => rfl, fun _ => rfl, fun _ => rfl⟩

namespace Store

def unmarked (store : Store) : Store :=
  { store with observations := store.observations.mapRows Observation.unmarked }

theorem answers_unmarked (store : Store) (filter : ObservationFilter) (query : String)
    (limit : Nat) : store.unmarked.observations.answers filter.admits query limit =
      (store.observations.answers filter.admits query limit).map
        (Prod.map Observation.unmarked id) :=
  Observation.unmarked_discreet.answers (fun _ => rfl) store.observations query limit

theorem listObservations_unmarked (store : Store) (filter : ObservationFilter)
    (order : SortOrder) (limit : Nat) :
    store.unmarked.listObservations filter order limit =
      (store.listObservations filter order limit).map Observation.unmarked := by
  have level (a b : Observation) :
      listOrder order a.unmarked b.unmarked = listOrder order a b := by
    cases order <;> rfl
  exact listed_map Observation.unmarked (fun _ => rfl) level limit store.observations.rows

end Store

namespace Search

def Hit.unmarked : Hit → Hit
  | observation o => .observation o.unmarked
  | summary s => .summary s
  | prompt p => .prompt p

theorem Hit.observation?_unmarked (hit : Hit) :
    hit.unmarked.observation? = hit.observation?.map Observation.unmarked := by
  cases hit <;> rfl

theorem Hit.item_unmarked (format : Format) (hit : Hit) :
    hit.unmarked.item format = hit.item format := by
  cases hit <;> rfl

namespace Plan

def unmarked (plan : Plan) : Plan := { plan with store := plan.store.unmarked }

theorem refusal?_unmarked (plan : Plan) (query : String) (limit : Nat) (kind : RecordKind) :
    plan.unmarked.refusal? query limit kind = plan.refusal? query limit kind := by
  cases kind with
  | observation =>
      have unseen : Table.Discreet.Unseen plan.request.filter.scan Observation.unmarked := by
        refine ⟨fun _ => rfl, fun test given o => ?_⟩
        obtain ⟨project, -, rfl⟩ := Option.map_eq_some_iff.mp given
        rfl
      exact Observation.unmarked_discreet.refusal? unseen _ query limit
  | summary | prompt => rfl

theorem matchItems_unmarked (plan : Plan) (query : String) (kind : RecordKind) :
    plan.unmarked.matchItems query kind = plan.matchItems query kind := by
  cases kind with
  | observation =>
      simp only [matchItems, unmarked, Store.answers_unmarked, List.map_map]
      rfl
  | summary | prompt => rfl

theorem rankedItems_unmarked (plan : Plan) (query : String) (candidates : Nat)
    (kind : RecordKind) :
    plan.unmarked.rankedItems query candidates kind = plan.rankedItems query candidates kind := by
  cases kind with
  | observation =>
      simp only [rankedItems, unmarked, Store.answers_unmarked, List.map_map]
      rfl
  | summary | prompt => rfl

theorem recent_unmarked (plan : Plan) (kind : RecordKind) :
    plan.unmarked.recent kind = plan.recent kind := by
  cases kind with
  | observation =>
      simp only [recent, unmarked, Store.listObservations_unmarked, List.map_map]
      rfl
  | summary | prompt => rfl

theorem structured_unmarked (plan : Plan) : plan.unmarked.structured = plan.structured := by
  have kinds : plan.unmarked.request.type.kinds = plan.request.type.kinds := rfl
  have asked : plan.unmarked.request.queryText = plan.request.queryText := rfl
  have limit : plan.unmarked.limit = plan.limit := rfl
  have refused : plan.unmarked.matchingRefusal? = plan.matchingRefusal? := by
    simp only [matchingRefusal?, asked, kinds, limit, funext (plan.refusal?_unmarked _ _)]
  have matching : plan.unmarked.allMatches = plan.allMatches := by
    simp only [allMatches, asked, kinds, funext (plan.matchItems_unmarked _)]
  have latest : plan.unmarked.latest = plan.latest := by
    simp only [Plan.latest, kinds, funext plan.recent_unmarked]
  rw [structured_eq, structured_eq, refused, shown, shown, matching, latest]
  rfl

theorem fullTextRanking_unmarked (plan : Plan) (query : String) (candidates : Nat) :
    plan.unmarked.fullTextRanking query candidates = plan.fullTextRanking query candidates := by
  have ranked (kind : RecordKind) : plan.unmarked.rankedKind query candidates kind =
      plan.rankedKind query candidates kind := by
    rw [rankedKind_eq, rankedKind_eq, refusal?_unmarked, rankedItems_unmarked]
  simp only [fullTextRanking, funext ranked]
  rfl

theorem hit?_unmarked (plan : Plan) (scored : Scored Float) :
    plan.unmarked.hit? scored = (plan.hit? scored).map Hit.unmarked := by
  have found (id : Int) : plan.unmarked.store.observations.find? id =
      (plan.store.observations.find? id).map Observation.unmarked :=
    Observation.unmarked_discreet.find? plan.store.observations id
  have visible (o : Observation) :
      plan.unmarked.observationVisible o.unmarked = plan.observationVisible o := rfl
  simp only [hit?, Option.bind_eq_bind]
  cases RecordKind.ofDocType? scored.docType with
  | none => rfl
  | some kind =>
      cases kind with
      | observation =>
          simp only [Option.bind_some, found]
          cases plan.store.observations.find? scored.id with
          | none => rfl
          | some o =>
              simp only [Option.map_some, Option.bind_some, visible]
              split <;> rfl
      | summary =>
          change ((plan.store.summaries.find? scored.id).bind fun s => some (Hit.summary s)) = _
          cases plan.store.summaries.find? scored.id <;> rfl
      | prompt =>
          change ((plan.store.prompts.find? scored.id).bind fun p => some (Hit.prompt p)) = _
          cases plan.store.prompts.find? scored.id <;> rfl

theorem withoutRepeats_unmarked (threshold : Float) (hits : List (Scored Float × Hit)) :
    withoutRepeats threshold (hits.map (Prod.map id Hit.unmarked)) =
      (withoutRepeats threshold hits).map (Prod.map id Hit.unmarked) := by
  have observations : (hits.map (Prod.map id Hit.unmarked)).filterMap (·.2.observation?) =
      (hits.filterMap (·.2.observation?)).map Observation.unmarked := by
    rw [List.filterMap_map, List.map_filterMap]
    exact List.filterMap_congr fun entry _ => entry.2.observation?_unmarked
  have contents (listed : List Observation) :
      (listed.map Observation.unmarked).map (·.content) = listed.map (·.content) := by
    rw [List.map_map]
    rfl
  have named (listed : List Observation) (place : Nat) :
      ((listed.map Observation.unmarked)[place]?).map (·.id) = listed[place]?.map (·.id) := by
    rw [List.getElem?_map, Option.map_map]
    rfl
  have kept (ids : List Int) (entry : Scored Float × Hit) :
      (Prod.map id Hit.unmarked entry).2.observation?.all (·.id ∈ ids) =
        entry.2.observation?.all (·.id ∈ ids) := by
    simp only [Prod.map_snd, Hit.observation?_unmarked, Option.all_map]
    rfl
  simp only [withoutRepeats, observations, contents, named]
  rw [List.filter_map]
  congr 1
  exact List.filter_congr fun entry _ => kept _ entry

theorem semantic_unmarked (plan : Plan) (settings : SearchSettings) (index : VectorIndex)
    (query : String) (candidates : Nat) :
    plan.unmarked.semantic settings index query candidates =
      plan.semantic settings index query candidates := by
  have hits (ranking : List (Scored Float)) : plan.unmarked.hits ranking =
      (plan.hits ranking).map (Prod.map id Hit.unmarked) := by
    simp only [Plan.hits, List.map_filterMap, hit?_unmarked, Option.map_map]
    rfl
  have shown (entry : Scored Float × Hit) :
      plan.unmarked.present (Prod.map id Hit.unmarked entry) = plan.present entry :=
    congrArg (SearchItem.withScore entry.1.score) (entry.2.item_unmarked plan.request.format)
  have same : plan.unmarked.present ∘ Prod.map id Hit.unmarked = plan.present := funext shown
  have limit : plan.unmarked.limit = plan.limit := rfl
  have request : plan.unmarked.request = plan.request := rfl
  have asked : index.query query candidates plan.unmarked.vectorFilter =
      index.query query candidates plan.vectorFilter := rfl
  cases answered : index.query query candidates plan.vectorFilter with
  | error failure => rw [semantic_refused answered, semantic_refused (asked.trans answered)]
  | ok near =>
      rw [semantic_answered answered, semantic_answered (asked.trans answered), limit, request,
        fullTextRanking_unmarked, hits, withoutRepeats_unmarked, ← List.map_take, List.map_map,
        same]

/-- A response depends on a store without its marks. -/
theorem respond_unmarked (plan : Plan) (settings : SearchSettings) (index : Option VectorIndex) :
    plan.unmarked.respond settings index = plan.respond settings index := by
  have asked : plan.unmarked.request.queryText = plan.request.queryText := rfl
  have limit : plan.unmarked.limit = plan.limit := rfl
  simp only [respond, semantic?, asked, limit, semantic_unmarked, structured_unmarked]

end Plan

end Search

end Recall
