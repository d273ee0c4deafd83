import Mathlib.Data.List.Nodup
import Mathlib.Data.List.Perm.Subperm
import Recall.Proofs.StableOrder
import Recall.Store.Eviction

namespace Recall

variable [Row α]

def newer (a b : α) : Bool :=
  Row.createdAt b < Row.createdAt a || (Row.createdAt a = Row.createdAt b && Row.id b < Row.id a)

def rank (rows : List α) (row : α) : Nat := rows.countP (newer · row)

theorem ids_filter_nodup {rows : List α} (once : (rows.map Row.id).Nodup) (chosen : α → Bool) :
    ((rows.filter chosen).map Row.id).Nodup :=
  once.sublist (List.filter_sublist.map _)

theorem newer_iff {a b : α} : newer a b = true ↔ Row.createdAt b < Row.createdAt a ∨
    (Row.createdAt a = Row.createdAt b ∧ Row.id b < Row.id a) := by
  simp [newer]

theorem newestFirst_iff {a b : α} : newestFirst a b = true ↔
    Row.createdAt b < Row.createdAt a ∨
      (Row.createdAt a = Row.createdAt b ∧ Row.id b ≤ Row.id a) := by
  simp [newestFirst]

theorem newer_irrefl (a : α) : newer a a = false := by
  simp [newer]

theorem newer_trans {a b c : α} (first : newer a b = true) (second : newer b c = true) :
    newer a c = true := by
  rw [newer_iff] at *
  omega

theorem newer_total {a b : α} (distinct : Row.id a ≠ Row.id b) :
    newer a b = true ∨ newer b a = true := by
  rw [newer_iff, newer_iff]
  omega

theorem newestFirst_trans (a b c : α) (first : newestFirst a b = true)
    (second : newestFirst b c = true) : newestFirst a c = true := by
  rw [newestFirst_iff] at *
  omega

theorem newestFirst_total (a b : α) : (newestFirst a b || newestFirst b a) = true := by
  rw [Bool.or_eq_true, newestFirst_iff, newestFirst_iff]
  omega

theorem rank_mono {rows all : List α} (part : rows.Sublist all) (row : α) :
    rank rows row ≤ rank all row :=
  part.countP_le

theorem rank_le_of_newer {rows : List α} {a b : α} (above : newer a b = true) :
    rank rows a ≤ rank rows b :=
  List.countP_mono_left fun _ _ first => newer_trans first above

/-- In a list with the newest first a row stands at the place that its rank gives. -/
theorem mem_drop_iff_rank {rows : List α} (ordered : rows.Pairwise (newer · · = true))
    {row : α} (member : row ∈ rows) (keep : Nat) : row ∈ rows.drop keep ↔ keep ≤ rank rows row := by
  induction rows generalizing keep with
  | nil => cases member
  | cons first rest ih =>
      obtain ⟨above, ordered⟩ := List.pairwise_cons.mp ordered
      have absent : first ∉ rest := by
        intro present
        have itself := above first present
        rw [newer_irrefl] at itself
        cases itself
      cases keep with
      | zero => simpa using member
      | succ keep =>
          rw [List.drop_succ_cons]
          rcases List.mem_cons.mp member with rfl | later
          · have topmost : rank (row :: rest) row = 0 := by
              refine List.countP_eq_zero.mpr ?_
              intro other present
              rcases List.mem_cons.mp present with rfl | below
              · simp [newer_irrefl]
              · intro reversed
                have loop := newer_trans (above other below) reversed
                rw [newer_irrefl] at loop
                cases loop
            rw [topmost]
            constructor
            · intro below
              exact absurd (List.mem_of_mem_drop below) absent
            · intro high
              omega
          · have counted : rank (first :: rest) row = rank rest row + 1 := by
              simp [rank, above row later]
            rw [counted, ih ordered later keep]
            omega

theorem ordered_nodup {rows : List α} (ordered : rows.Pairwise (newer · · = true)) :
    rows.Nodup := by
  refine ordered.imp ?_
  intro a b above same
  rw [same, newer_irrefl] at above
  cases above

theorem mem_take_iff_rank {rows : List α} (ordered : rows.Pairwise (newer · · = true))
    {row : α} (member : row ∈ rows) (keep : Nat) : row ∈ rows.take keep ↔ rank rows row < keep := by
  have halves : (rows.take keep ++ rows.drop keep).Nodup := by
    rw [List.take_append_drop]
    exact ordered_nodup ordered
  have somewhere : row ∈ rows.take keep ++ rows.drop keep := by
    rwa [List.take_append_drop]
  rw [← Nat.not_le, ← mem_drop_iff_rank ordered member]
  constructor
  · intro taken dropped
    exact List.disjoint_of_nodup_append halves taken dropped
  · exact (List.mem_append.mp somewhere).resolve_right

theorem mergeSort_ordered {order : α → α → Bool} {precedes : α → α → Prop} (ranks : Ranks order)
    (strict : ∀ a b, Row.id a ≠ Row.id b → order a b = true → precedes a b) {rows : List α}
    (once : (rows.map Row.id).Nodup) : (rows.mergeSort order).Pairwise precedes := by
  have sorted := List.pairwise_mergeSort ranks.trans ranks.total rows
  have distinct : (rows.mergeSort order).Pairwise (Row.id · ≠ Row.id ·) :=
    List.pairwise_map.mp (((List.mergeSort_perm rows order).map Row.id).nodup_iff.mpr once)
  refine (sorted.and distinct).imp ?_
  intro a b ⟨before, differ⟩
  exact strict a b differ before

theorem ranks_newestFirst : Ranks (newestFirst (α := α)) :=
  ⟨newestFirst_trans, newestFirst_total⟩

theorem newer_of_newestFirst {a b : α} (differ : Row.id a ≠ Row.id b)
    (before : newestFirst a b = true) : newer a b = true := by
  rw [newestFirst_iff] at before
  rw [newer_iff]
  omega

/-- With ids that are all different the order of a pass leaves no choice. -/
theorem newest_ordered {rows : List α} (once : (rows.map Row.id).Nodup) :
    (rows.mergeSort newestFirst).Pairwise (newer · · = true) :=
  mergeSort_ordered ranks_newestFirst (fun _ _ => newer_of_newestFirst) once

theorem rank_mergeSort (rows : List α) (row : α) :
    rank (rows.mergeSort newestFirst) row = rank rows row :=
  (List.mergeSort_perm rows newestFirst).countP_eq _

theorem mem_beyondQuota_iff {pool : List α} (once : (pool.map Row.id).Nodup) {row : α}
    (member : row ∈ pool) (keep : Nat) : row ∈ beyondQuota keep pool ↔ keep ≤ rank pool row := by
  rw [beyondQuota, List.mem_reverse, mem_drop_iff_rank (newest_ordered once)
    (List.mem_mergeSort.mpr member), rank_mergeSort]

theorem mem_newest_iff {pool : List α} (once : (pool.map Row.id).Nodup) {row : α} (keep : Nat) :
    row ∈ (pool.mergeSort newestFirst).take keep ↔ row ∈ pool ∧ rank pool row < keep := by
  have listed : row ∈ pool ↔ row ∈ pool.mergeSort newestFirst := List.mem_mergeSort.symm
  rw [← rank_mergeSort, listed]
  constructor
  · intro taken
    have present := List.mem_of_mem_take taken
    exact ⟨present, (mem_take_iff_rank (newest_ordered once) present keep).mp taken⟩
  · rintro ⟨present, high⟩
    exact (mem_take_iff_rank (newest_ordered once) present keep).mpr high

theorem length_filter_rank {pool : List α} (once : (pool.map Row.id).Nodup) (keep : Nat) :
    (pool.filter fun row => rank pool row < keep).length = min keep pool.length := by
  have top : (pool.filter fun row => rank pool row < keep).Perm
      ((pool.mergeSort newestFirst).take keep) := by
    rw [List.perm_ext_iff_of_nodup ((List.Nodup.of_map Row.id once).filter _)
      ((ordered_nodup (newest_ordered once)).sublist (List.take_sublist _ _))]
    intro row
    rw [mem_newest_iff once, List.mem_filter, decide_eq_true_eq]
  rw [top.length_eq, List.length_take, List.length_mergeSort]

/-- The first rows are newer than all others, so if they are live they count against a row. -/
theorem le_rank_of_live {all live : List α} (once : (all.map Row.id).Nodup) {keep : Nat}
    (spared : ∀ row ∈ all, rank all row < keep → row ∈ live) {row : α} (member : row ∈ all)
    (low : keep ≤ rank all row) : keep ≤ rank live row := by
  let sorted := all.mergeSort newestFirst
  have ordered : sorted.Pairwise (newer · · = true) := newest_ordered once
  have below : row ∈ sorted.drop keep := by
    rw [mem_drop_iff_rank ordered (List.mem_mergeSort.mpr member), rank_mergeSort]
    exact low
  have apart : (sorted.take keep ++ sorted.drop keep).Pairwise (newer · · = true) := by
    rw [List.take_append_drop]
    exact ordered
  have counted : sorted.take keep ⊆ live.filter (newer · row) := by
    intro top taken
    obtain ⟨present, high⟩ := (mem_newest_iff once keep).mp taken
    exact List.mem_filter.mpr
      ⟨spared top present high, (List.pairwise_append.mp apart).2.2 top taken row below⟩
  have full : (sorted.take keep).length = keep := by
    have more : 0 < (sorted.drop keep).length := List.length_pos_of_mem below
    rw [List.length_drop] at more
    rw [List.length_take]
    omega
  calc
    keep = (sorted.take keep).length := full.symm
    _ ≤ (live.filter (newer · row)).length :=
      (List.subperm_of_subset ((ordered_nodup ordered).sublist (List.take_sublist keep sorted))
        counted).length_le
    _ = rank live row := List.countP_eq_length_filter.symm

end Recall
