import Mathlib.Data.List.Basic
import Mathlib.Order.Lattice

/-!
Sorting in which equal items keep their places. Such a sort is determined by the places of
equal items, so a list may be sorted in parts that are merged afterwards, and the first items
of the whole come from the first items of the parts.
-/

namespace Recall

/-- An order in which different items may share a place. -/
structure Ranks (order : α → α → Bool) : Prop where
  trans : ∀ a b c, order a b = true → order b c = true → order a c = true
  total : ∀ a b, (order a b || order b a) = true

theorem ranks_key [LinearOrder β] (key : α → β) : Ranks fun a b => decide (key a ≤ key b) where
  trans a b c first second := by
    rw [decide_eq_true_eq] at *
    exact le_trans first second
  total a b := by
    simpa using le_total (key a) (key b)

theorem Ranks.flip {order : α → α → Bool} (ranks : Ranks order) : Ranks fun a b => order b a where
  trans a b c first second := ranks.trans c b a second first
  total a b := ranks.total b a

def tied (order : α → α → Bool) (a b : α) : Bool := order a b && order b a

section

variable {order : α → α → Bool} {a b c : α}

theorem tied_iff : tied order a b = true ↔ order a b = true ∧ order b a = true :=
  Bool.and_eq_true_iff

theorem Ranks.refl (ranks : Ranks order) (a : α) : order a a = true := by
  simpa using ranks.total a a

theorem Ranks.tied_self (ranks : Ranks order) (a : α) : tied order a a = true :=
  tied_iff.mpr ⟨ranks.refl a, ranks.refl a⟩

theorem Ranks.tied_trans (ranks : Ranks order) (first : tied order a b = true)
    (second : tied order a c = true) : order b c = true :=
  ranks.trans b a c (tied_iff.mp first).2 (tied_iff.mp second).1

theorem Ranks.filter_tied_ordered (ranks : Ranks order) (c : α) (items : List α) :
    (items.filter (tied order c)).Pairwise (order · · = true) := by
  refine List.pairwise_of_forall_mem_list fun a first b second => ?_
  exact ranks.tied_trans (List.mem_filter.mp first).2 (List.mem_filter.mp second).2

theorem Ranks.filter_mergeSort (ranks : Ranks order) {chosen : α → Bool} {items : List α}
    (ordered : (items.filter chosen).Pairwise (order · · = true)) :
    (items.mergeSort order).filter chosen = items.filter chosen := by
  have part : (items.filter chosen).Sublist (items.mergeSort order) :=
    List.sublist_mergeSort ranks.trans ranks.total ordered List.filter_sublist
  have inside := part.filter chosen
  rw [List.filter_filter] at inside
  simp only [Bool.and_self] at inside
  exact (inside.eq_of_length
    ((List.mergeSort_perm items order).filter chosen).length_eq.symm).symm

theorem Ranks.filter_tied_mergeSort (ranks : Ranks order) (c : α) (items : List α) :
    (items.mergeSort order).filter (tied order c) = items.filter (tied order c) :=
  ranks.filter_mergeSort (ranks.filter_tied_ordered c items)

theorem Ranks.pairwise_mergeSort (ranks : Ranks order) {place : α → α → Prop} {items : List α}
    (placed : items.Pairwise place) :
    (items.mergeSort order).Pairwise fun a b =>
      order a b = true ∧ (order b a = true → place a b) := by
  have sorted := List.pairwise_mergeSort ranks.trans ranks.total items
  refine List.pairwise_iff_forall_sublist.mpr fun {a b} pair => ?_
  have ordered := List.pairwise_iff_forall_sublist.mp sorted pair
  refine ⟨ordered, fun reversed => ?_⟩
  have together := pair.filter (tied order a)
  rw [ranks.filter_tied_mergeSort, List.filter_cons_of_pos (ranks.tied_self a),
    List.filter_cons_of_pos (tied_iff.mpr ⟨ordered, reversed⟩), List.filter_nil] at together
  exact List.pairwise_iff_forall_sublist.mp placed (together.trans List.filter_sublist)

/-- In a list in order the places of equal items decide all. -/
theorem Ranks.eq_of_filter_tied (ranks : Ranks order) {first second : List α}
    (one : first.Pairwise (order · · = true)) (two : second.Pairwise (order · · = true))
    (same : ∀ c, first.filter (tied order c) = second.filter (tied order c)) :
    first = second := by
  have mem {items other : List α} (agree : ∀ c, items.filter (tied order c) =
      other.filter (tied order c)) {a : α} (member : a ∈ items) : a ∈ other := by
    have kept := List.mem_filter.mpr ⟨member, ranks.tied_self a⟩
    rw [agree a] at kept
    exact (List.mem_filter.mp kept).1
  induction first generalizing second with
  | nil =>
      cases second with
      | nil => rfl
      | cons other rest => cases mem (fun c => (same c).symm) List.mem_cons_self
  | cons item tail ih =>
      cases second with
      | nil => cases mem same List.mem_cons_self
      | cons other rest =>
          have least {items : List α} {top a : α}
              (ordered : (top :: items).Pairwise (order · · = true)) (member : a ∈ top :: items) :
              order top a = true := by
            rcases List.mem_cons.mp member with rfl | later
            · exact ranks.refl _
            · exact (List.pairwise_cons.mp ordered).1 a later
          have together : tied order item other = true :=
            tied_iff.mpr ⟨least one (mem (fun c => (same c).symm) List.mem_cons_self),
              least two (mem same List.mem_cons_self)⟩
          have heads := same item
          rw [List.filter_cons_of_pos (ranks.tied_self item),
            List.filter_cons_of_pos together] at heads
          obtain ⟨rfl, -⟩ := List.cons.inj heads
          refine congrArg (item :: ·) (ih one.of_cons two.of_cons fun c => ?_)
          have whole := same c
          simp only [List.filter_cons] at whole
          split at whole
          · exact (List.cons.inj whole).2
          · exact whole

theorem Ranks.mergeSort_congr (ranks : Ranks order) {first second : List α}
    (same : ∀ c, first.filter (tied order c) = second.filter (tied order c)) :
    first.mergeSort order = second.mergeSort order := by
  refine ranks.eq_of_filter_tied (List.pairwise_mergeSort ranks.trans ranks.total _)
    (List.pairwise_mergeSort ranks.trans ranks.total _) fun c => ?_
  rw [ranks.filter_tied_mergeSort, ranks.filter_tied_mergeSort, same]

/-- Where a coarser order comes first it makes no difference. -/
theorem Ranks.mergeSort_mergeSort (ranks : Ranks order) {coarse : α → α → Bool}
    (also : Ranks coarse) (finer : ∀ a b, order a b = true → order b a = true → coarse a b = true)
    (items : List α) : (items.mergeSort coarse).mergeSort order = items.mergeSort order := by
  refine ranks.mergeSort_congr fun c => ?_
  have within (part : List α) : part.filter (tied order c) =
      (part.filter (tied coarse c)).filter (tied order c) := by
    rw [List.filter_filter]
    refine List.filter_congr fun a _ => ?_
    cases together : tied order c a with
    | false => rfl
    | true =>
        obtain ⟨below, above⟩ := tied_iff.mp together
        simp [tied, finer c a below above, finer a c above below]
  rw [within, also.filter_tied_mergeSort, ← within]

theorem Ranks.filter_tied_merge (ranks : Ranks order) (c : α) {first second : List α}
    (one : first.Pairwise (order · · = true)) :
    (first.merge second order).filter (tied order c) =
      first.filter (tied order c) ++ second.filter (tied order c) := by
  induction first generalizing second with
  | nil => rw [List.nil_merge]; rfl
  | cons item tail ih =>
      induction second with
      | nil => rw [List.merge_right, List.filter_nil, List.append_nil]
      | cons other rest inner =>
          rw [List.cons_merge_cons]
          split
          · rw [List.filter_cons, ih one.of_cons, List.filter_cons (x := item)]
            split
            · rfl
            · rfl
          · rename_i below
            rw [List.filter_cons, inner, List.filter_cons (x := other)]
            split
            · rename_i together
              have apart : (item :: tail).filter (tied order c) = [] := by
                refine List.filter_eq_nil_iff.mpr fun a member also => below ?_
                refine ranks.trans item a other ?_ (ranks.tied_trans also together)
                rcases List.mem_cons.mp member with rfl | later
                · exact ranks.refl _
                · exact (List.pairwise_cons.mp one).1 a later
              rw [apart, List.nil_append, List.nil_append]
            · rfl

theorem Ranks.mergeSort_append (ranks : Ranks order) (first second : List α) :
    (first ++ second).mergeSort order =
      (first.mergeSort order).merge (second.mergeSort order) order := by
  have sorted (items : List α) := List.pairwise_mergeSort ranks.trans ranks.total items
  refine ranks.eq_of_filter_tied (sorted _)
    (List.pairwise_merge ranks.trans ranks.total _ _ (sorted first) (sorted second)) fun c => ?_
  rw [ranks.filter_tied_merge c (sorted first), ranks.filter_tied_mergeSort,
    ranks.filter_tied_mergeSort, ranks.filter_tied_mergeSort, List.filter_append]

end

def SameTop (limit : Nat) (first second : List α) : Prop := first.take limit = second.take limit

namespace SameTop

variable {limit : Nat} {first second : List α}

theorem mono (alike : SameTop limit first second) {less : Nat} (below : less ≤ limit) :
    SameTop less first second := by
  have shorter := congrArg (List.take less) alike
  rwa [List.take_take, List.take_take, Nat.min_eq_left below] at shorter

theorem succ_iff : SameTop (limit + 1) first second ↔ (first = [] ∧ second = []) ∨
    ∃ item rest other, first = item :: rest ∧ second = item :: other ∧
      SameTop limit rest other := by
  cases first <;> cases second <;> simp [SameTop]
  exact fun _ => eq_comm

theorem append {left right : List α} (one : SameTop limit first second)
    (two : SameTop limit left right) : SameTop limit (first ++ left) (second ++ right) := by
  induction limit generalizing first second with
  | zero => rfl
  | succ limit ih =>
      rcases succ_iff.mp one with ⟨rfl, rfl⟩ | ⟨item, rest, other, rfl, rfl, below⟩
      · exact two
      · exact succ_iff.mpr (Or.inr ⟨item, _, _, rfl, rfl, ih below (two.mono (Nat.le_succ _))⟩)

theorem merge (order : α → α → Bool) {left right : List α} (one : SameTop limit first second)
    (two : SameTop limit left right) :
    SameTop limit (first.merge left order) (second.merge right order) := by
  induction limit generalizing first second left right with
  | zero => rfl
  | succ limit ih =>
      rcases succ_iff.mp one with ⟨rfl, rfl⟩ | ⟨item, rest, other, rfl, rfl, below⟩
      · rw [List.nil_merge, List.nil_merge]
        exact two
      · rcases succ_iff.mp two with ⟨rfl, rfl⟩ | ⟨head, tail, last, rfl, rfl, above⟩
        · rw [List.merge_right, List.merge_right]
          exact one
        · rw [List.cons_merge_cons, List.cons_merge_cons]
          split
          · exact succ_iff.mpr (Or.inr
              ⟨item, _, _, rfl, rfl, ih below (two.mono (Nat.le_succ _))⟩)
          · exact succ_iff.mpr (Or.inr
              ⟨head, _, _, rfl, rfl, ih (one.mono (Nat.le_succ _)) above⟩)

theorem flatMap {kinds : List κ} {part other : κ → List α}
    (each : ∀ kind ∈ kinds, SameTop limit (part kind) (other kind)) :
    SameTop limit (kinds.flatMap part) (kinds.flatMap other) := by
  induction kinds with
  | nil => rfl
  | cons kind rest ih =>
      obtain ⟨one, others⟩ := List.forall_mem_cons.mp each
      rw [List.flatMap_cons, List.flatMap_cons]
      exact one.append (ih others)

/-- Where the parts begin alike when they are sorted, so does the whole. -/
theorem mergeSort_flatMap {order : α → α → Bool} (ranks : Ranks order) {kinds : List κ}
    {part other : κ → List α}
    (each : ∀ kind ∈ kinds,
      SameTop limit ((part kind).mergeSort order) ((other kind).mergeSort order)) :
    SameTop limit ((kinds.flatMap part).mergeSort order)
      ((kinds.flatMap other).mergeSort order) := by
  induction kinds with
  | nil => rfl
  | cons kind rest ih =>
      obtain ⟨one, others⟩ := List.forall_mem_cons.mp each
      rw [List.flatMap_cons, List.flatMap_cons, ranks.mergeSort_append, ranks.mergeSort_append]
      exact one.merge order (ih others)

end SameTop

end Recall
