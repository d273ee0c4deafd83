import Recall.Proofs.KeywordSearch
import Recall.Proofs.Listing

/-!
Rows that are asked for by their ids, and rows that are listed. Asked for all ids, in whatever
order and however often, a fetch gives what a list gives under the same limit: the first rows in
the order. Only limits past the signed numbers tell the two apart, for there a list has no bound
and a fetch is refused.
-/

namespace Recall

section

variable [Row α]

def Table.CoveredBy (table : Table α) (ids : List Int) : Prop :=
  ∀ row ∈ table.rows, Row.id row ∈ ids

/-- Where importance does not count, rows come by their age. -/
def Row.Precedes : SortOrder → α → α → Prop
  | .oldestFirst, a, b => newer b a
  | _, a, b => newer a b

end

def Observation.Precedes : SortOrder → Observation → Observation → Prop
  | .importance, a, b => Number.valueKey b.importance < Number.valueKey a.importance ∨
      (Number.valueKey a.importance = Number.valueKey b.importance ∧ newer a b)
  | order, a, b => Row.Precedes order a b

structure Leads (precedes : α → α → Prop) (limit : Nat) (rows listed : List α) : Prop where
  present : ∀ row ∈ listed, row ∈ rows
  ordered : listed.Pairwise precedes
  size : listed.length = min limit rows.length
  ahead : ∀ row ∈ rows, row ∉ listed → ∀ other ∈ listed, precedes other row

theorem limited_length {limit : Nat} {rows : List α} (few : rows.length < Number.signedBound) :
    (limited limit rows).length = min limit rows.length := by
  simp only [limited]
  split
  · exact List.length_take
  · omega

theorem leads_limited {order : α → α → Bool} {precedes : α → α → Prop} {rows : List α}
    (ordered : (rows.mergeSort order).Pairwise precedes)
    (few : rows.length < Number.signedBound) (limit : Nat) :
    Leads precedes limit rows (limited limit (rows.mergeSort order)) where
  present row member := List.mem_mergeSort.mp (limited_subset member)
  ordered := ordered.sublist (limited_sublist limit _)
  size := by
    rw [limited_length (by rwa [List.length_mergeSort]), List.length_mergeSort]
  ahead row member omitted :=
    (limited_omits ordered (List.mem_mergeSort.mpr member) omitted).2

namespace Store

section

variable [Row α]

/-- Ids that are named again, and ids of no row, make no difference. -/
theorem fetch_of_coveredBy {table : Table α} {ids : List Int} (covered : table.CoveredBy ids)
    (order : α → α → Bool) (limit : Nat) : fetch table order ids (some limit) =
      if limit < Number.signedBound ∨ ids = [] then .ok (limited limit (table.rows.mergeSort order))
      else .error .limitTooLarge := by
  cases ids with
  | nil =>
      have bare : table.rows = [] :=
        List.eq_nil_iff_forall_not_mem.mpr fun row member => List.not_mem_nil (covered row member)
      simp [fetch, bare, limited]
  | cons id rest =>
      have all : table.withIds (id :: rest) = table.rows :=
        List.filter_eq_self.mpr fun row member => decide_eq_true (covered row member)
      simp only [fetch, all, limited, List.isEmpty_cons, Bool.false_eq_true, if_false,
        reduceCtorEq, or_false]
      split <;> rfl

theorem fetch_leads {table : Table α} {ids : List Int} (covered : table.CoveredBy ids)
    {order : α → α → Bool} {precedes : α → α → Prop} (ranks : Ranks order)
    (strict : ∀ a b, Row.id a ≠ Row.id b → order a b = true → precedes a b)
    (once : (table.rows.map Row.id).Nodup)
    (few : (table.rows.map Row.id).length < Number.signedBound) (limit : Nat) :
    let listed := limited limit (table.rows.mergeSort order)
    (fetch table order ids (some limit) =
      if limit < Number.signedBound ∨ ids = [] then .ok listed else .error .limitTooLarge) ∧
    Leads precedes limit table.rows listed := by
  rw [List.length_map] at few
  exact ⟨fetch_of_coveredBy covered order limit,
    leads_limited (mergeSort_ordered ranks strict once) few limit⟩

theorem ranks_ageOrder (order : SortOrder) : Ranks (ageOrder (α := α) order) := by
  cases order with
  | oldestFirst => exact ranks_newestFirst.flip
  | newestFirst | importance | unspecified => exact ranks_newestFirst

theorem precedes_of_ageOrder {order : SortOrder} {a b : α} (differ : Row.id a ≠ Row.id b)
    (before : ageOrder order a b = true) : Row.Precedes order a b := by
  cases order with
  | oldestFirst => exact newer_of_newestFirst differ.symm before
  | newestFirst | importance | unspecified => exact newer_of_newestFirst differ before

end

theorem ranks_listOrder (order : SortOrder) : Ranks (listOrder order) := by
  have ranks := SearchItem.ranks_listedBefore order
  have same := Search.Plan.listOrder_item .index order
  constructor
  · intro a b c
    rw [same, same, same]
    exact ranks.trans _ _ _
  · intro a b
    rw [same, same]
    exact ranks.total _ _

theorem precedes_of_listOrder {order : SortOrder} {a b : Observation}
    (differ : Row.id a ≠ Row.id b) (before : listOrder order a b = true) :
    Observation.Precedes order a b := by
  cases order with
  | oldestFirst => exact newer_of_newestFirst differ.symm before
  | newestFirst | unspecified => exact newer_of_newestFirst differ before
  | importance =>
      simp only [listOrder, mostImportantFirst, Bool.or_eq_true, Bool.and_eq_true,
        decide_eq_true_eq] at before
      exact before.imp_right (And.imp_right (newer_of_newestFirst differ))

theorem fetchOrder_eq_listOrder {order : SortOrder} (explicit : order ≠ .unspecified) :
    fetchOrder order = listOrder order := by
  cases order with
  | unspecified => exact absurd rfl explicit
  | oldestFirst | newestFirst | importance => rfl

theorem listObservations_all (store : Store) (order : SortOrder) (limit : Nat) :
    store.listObservations .all order limit =
      limited limit (store.observations.rows.mergeSort (listOrder order)) := by
  have all : store.observations.rows.filter ObservationFilter.all.admits =
      store.observations.rows := List.filter_eq_self.mpr fun _ _ => rfl
  rw [listObservations, all]

theorem listSummaries_none (store : Store) (order : SortOrder) (limit : Nat) :
    store.listSummaries none order limit =
      limited limit (store.summaries.rows.mergeSort (ageOrder order)) := by
  have all : store.summaries.rows.filter (inProject none ·.project) = store.summaries.rows :=
    List.filter_eq_self.mpr fun _ _ => rfl
  rw [listSummaries, all]

theorem listPrompts_none (store : Store) (order : SortOrder) (limit : Nat) :
    store.listPrompts none order limit =
      limited limit (store.prompts.rows.mergeSort (ageOrder order)) := by
  have all : store.prompts.rows.filter (inProject none ·.project) = store.prompts.rows :=
    List.filter_eq_self.mpr fun _ _ => rfl
  rw [listPrompts, all]

end Store

/-- A fetch of all rows, under a limit that is a signed number, gives what a list gives. -/
theorem fetch_all_eq_list (store : Store) (sound : store.Sound) (ids : List Int)
    (order : SortOrder) (limit : Nat) :
    let fetched {α : Type} (listed : List α) : Except Failure (List α) :=
      if limit < Number.signedBound ∨ ids = [] then .ok listed else .error .limitTooLarge
    (order ≠ .unspecified → store.observations.CoveredBy ids →
      let listed := store.listObservations .all order limit
      store.getObservations ids order (some limit) = fetched listed ∧
        Leads (Observation.Precedes order) limit store.observations.rows listed) ∧
    (store.summaries.CoveredBy ids →
      let listed := store.listSummaries none order limit
      store.getSummaries ids order (some limit) = fetched listed ∧
        Leads (Row.Precedes order) limit store.summaries.rows listed) ∧
    (store.prompts.CoveredBy ids →
      let listed := store.listPrompts none order limit
      store.getPrompts ids order (some limit) = fetched listed ∧
        Leads (Row.Precedes order) limit store.prompts.rows listed) := by
  intro fetched
  have once := sound.nodup
  have few := sound.length_lt
  refine ⟨?_, ?_, ?_⟩
  · intro explicit covered
    rw [store.listObservations_all, Store.getObservations, Store.fetchOrder_eq_listOrder explicit]
    exact Store.fetch_leads covered (Store.ranks_listOrder order)
      (fun _ _ => Store.precedes_of_listOrder) (store.ids_observation ▸ once .observation)
      (store.ids_observation ▸ few .observation) limit
  · intro covered
    rw [store.listSummaries_none]
    exact Store.fetch_leads covered (Store.ranks_ageOrder order)
      (fun _ _ => Store.precedes_of_ageOrder) (store.ids_summary ▸ once .summary)
      (store.ids_summary ▸ few .summary) limit
  · intro covered
    rw [store.listPrompts_none]
    exact Store.fetch_leads covered (Store.ranks_ageOrder order)
      (fun _ _ => Store.precedes_of_ageOrder) (store.ids_prompt ▸ once .prompt)
      (store.ids_prompt ▸ few .prompt) limit

theorem assorted_sound : assorted.store.Sound where
  ascending kind := by cases kind <;> decide +kernel
  bounds kind := by cases kind <;> decide +kernel
  inRange kind := by cases kind <;> decide +kernel

theorem assorted_fetches :
    let store := assorted.store
    let ids : List Int := [2, 1, 3, 1, 7]
    (store.Sound ∧ SortOrder.importance ≠ .unspecified ∧ store.observations.CoveredBy ids ∧
      store.summaries.CoveredBy ids ∧ store.prompts.CoveredBy ids) ∧
    store.getObservations ids .importance (some 2) =
      .ok (store.listObservations .all .importance 2) ∧
    store.getSummaries ids .importance (some 2) = .ok (store.listSummaries none .importance 2) ∧
    store.getPrompts ids .importance (some 2) = .ok (store.listPrompts none .importance 2) := by
  intro store ids
  have covered : store.observations.CoveredBy ids ∧ store.summaries.CoveredBy ids ∧
      store.prompts.CoveredBy ids := by
    simp only [Table.CoveredBy]
    decide +kernel
  obtain ⟨observations, summaries, prompts⟩ :=
    fetch_all_eq_list store assorted_sound ids .importance 2
  exact ⟨⟨assorted_sound, by decide, covered⟩, (observations (by decide) covered.1).1,
    (summaries covered.2.1).1, (prompts covered.2.2).1⟩

theorem assorted_refuses :
    let store := assorted.store
    let ids : List Int := [1, 2, 3]
    store.Sound ∧ store.observations.CoveredBy ids ∧
    store.getObservations ids .newestFirst (some Number.signedBound) = .error .limitTooLarge ∧
    (store.listObservations .all .newestFirst Number.signedBound).length = 3 := by
  intro store ids
  have three : store.observations.rows.length = 3 := by decide +kernel
  refine ⟨assorted_sound, ?_, rfl, ?_⟩
  · simp only [Table.CoveredBy]
    decide +kernel
  · rw [store.listObservations_all, limited_length, List.length_mergeSort, three]
    · rfl
    · rw [List.length_mergeSort, three]
      decide

end Recall
