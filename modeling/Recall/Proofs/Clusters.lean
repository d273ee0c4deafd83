import Mathlib.Data.List.Nodup
import Mathlib.Data.List.Pairwise
import Mathlib.Data.List.Perm.Basic
import Recall.Similarity.Cluster

namespace Recall

def Before (items : List α) (a b : α) : Prop := [a, b].Sublist items

namespace Before

variable {items : List α} {a b c : α}

theorem mem_left (before : Before items a b) : a ∈ items :=
  before.subset (List.mem_cons_self)

theorem mem_right (before : Before items a b) : b ∈ items :=
  before.subset (List.mem_cons_of_mem _ (List.mem_singleton_self _))

theorem mono (before : Before items a b) {all : List α} (part : items.Sublist all) :
    Before all a b :=
  before.trans part

theorem map (before : Before items a b) (f : α → β) : Before (items.map f) (f a) (f b) :=
  List.Sublist.map f before

theorem cons_iff {first : α} : Before (first :: items) a b ↔
    Before items a b ∨ (a = first ∧ b ∈ items) := by
  constructor
  · intro before
    rcases List.sublist_cons_iff.mp before with later | ⟨rest, same, part⟩
    · exact Or.inl later
    · cases same
      exact Or.inr ⟨rfl, List.singleton_sublist.mp part⟩
  · rintro (later | ⟨rfl, member⟩)
    · exact later.cons first
    · exact (List.singleton_sublist.mpr member).cons_cons a

theorem trans (once : items.Nodup) (one : Before items a b) (other : Before items b c) :
    Before items a c := by
  induction items with
  | nil => cases one
  | cons first rest ih =>
      obtain ⟨absent, once⟩ := List.nodup_cons.mp once
      rw [cons_iff] at one other ⊢
      rcases one with one | ⟨rfl, member⟩
      · rcases other with other | ⟨rfl, -⟩
        · exact Or.inl (ih once one other)
        · exact absurd one.mem_right absent
      · rcases other with other | ⟨rfl, -⟩
        · exact Or.inr ⟨rfl, other.mem_right⟩
        · exact absurd member absent

theorem of_filterMap {f : α → Option β} {x y : β} (before : Before (items.filterMap f) x y) :
    ∃ a b, f a = some x ∧ f b = some y ∧ Before items a b := by
  obtain ⟨chosen, part, pair⟩ := List.sublist_filterMap_iff.mp before
  obtain ⟨front, a, rest, rfl, -, left, pair⟩ := List.filterMap_eq_cons_iff.mp pair.symm
  obtain ⟨middle, b, last, rfl, -, right, -⟩ := List.filterMap_eq_cons_iff.mp pair
  refine ⟨a, b, left, right, List.Sublist.trans ?_ part⟩
  refine List.Sublist.trans ?_ (List.sublist_append_right _ _)
  exact (List.singleton_sublist.mpr (List.mem_append_right _ List.mem_cons_self)).cons_cons a

end Before

theorem before_of_append {front back : List α} {a b : α} (left : a ∈ front) (right : b ∈ back) :
    Before (front ++ back) a b :=
  (List.singleton_sublist.mpr left).append (List.singleton_sublist.mpr right)

theorem before_or_before {items : List α} {a b : α} (one : a ∈ items) (two : b ∈ items)
    (distinct : a ≠ b) : Before items a b ∨ Before items b a := by
  induction items with
  | nil => cases one
  | cons first rest ih =>
      rw [Before.cons_iff, Before.cons_iff]
      rcases List.mem_cons.mp one with start | later
      · rcases List.mem_cons.mp two with same | also
        · exact absurd (start.trans same.symm) distinct
        · exact Or.inl (Or.inr ⟨start, also⟩)
      · rcases List.mem_cons.mp two with start | also
        · exact Or.inr (Or.inr ⟨start, later⟩)
        · rcases ih later also with before | before
          · exact Or.inl (Or.inl before)
          · exact Or.inr (Or.inl before)

/-- What a list loses to a limit comes after the last that it keeps. -/
theorem before_of_cut {items : List α} {item : α} {limit : Nat} (room : 0 < limit)
    (member : item ∈ items) (cut : item ∉ items.take limit) :
    ∃ last, (items.take limit)[limit - 1]? = some last ∧ Before items last item := by
  have gone : item ∈ items.drop limit := by
    rw [← List.take_append_drop limit items] at member
    exact (List.mem_append.mp member).resolve_left cut
  have long : limit < items.length := by
    have remains := List.length_pos_of_mem gone
    rw [List.length_drop] at remains
    omega
  have full : limit - 1 < (items.take limit).length := by
    rw [List.length_take]
    omega
  have before := before_of_append (List.getElem_mem full) gone
  rw [List.take_append_drop] at before
  exact ⟨_, List.getElem?_eq_getElem full, before⟩

theorem nodup_eraseDups [BEq α] [LawfulBEq α] (items : List α) : items.eraseDups.Nodup := by
  match items with
  | [] => exact List.nodup_nil
  | first :: rest =>
      rw [List.eraseDups_cons, List.nodup_cons]
      refine ⟨?_, nodup_eraseDups _⟩
      simp
termination_by items.length
decreasing_by exact Nat.lt_succ_of_le (List.length_filter_le _ _)

namespace Similarity

theorem asSet_nodup (texts : List String) : (asSet texts).Nodup :=
  (List.mergeSort_perm _ _).nodup_iff.mpr (nodup_eraseDups _)

theorem terms_nodup (content : ObservationContent) : (terms content).Nodup := asSet_nodup _

theorem overlap_comm {a b : List String} (left : a.Nodup) (right : b.Nodup) :
    overlap a b = overlap b a := by
  have shared : a.countP (b.contains ·) = b.countP (a.contains ·) := by
    have common : (a.filter (b.contains ·)).Perm (b.filter (a.contains ·)) := by
      rw [List.perm_ext_iff_of_nodup (left.filter _) (right.filter _)]
      intro term
      simp [and_comm]
    rw [List.countP_eq_length_filter, List.countP_eq_length_filter, common.length_eq]
  simp only [overlap, shared, Bool.and_comm a.isEmpty, Nat.add_comm a.length]

theorem similar_comm (threshold : Float) (first second : ObservationContent) :
    similar threshold (terms first) (terms second) =
      similar threshold (terms second) (terms first) := by
  rw [similar, similar, overlap_comm (terms_nodup first) (terms_nodup second)]

variable {similar : α → α → Bool}

theorem representatives_cons (first : α) (rest : List α) :
    representatives similar (first :: rest) =
      first :: representatives similar (rest.filter (!similar first ·)) := by
  rw [representatives]

theorem representatives_sublist (items : List α) :
    (representatives similar items).Sublist items := by
  match items with
  | [] => simp [representatives]
  | first :: rest =>
      rw [representatives_cons]
      exact ((representatives_sublist _).trans List.filter_sublist).cons_cons first
termination_by items.length
decreasing_by exact Nat.lt_succ_of_le (List.length_filter_le _ _)

theorem representatives_apart (items : List α) :
    (representatives similar items).Pairwise (similar · · = false) := by
  match items with
  | [] => simp [representatives]
  | first :: rest =>
      rw [representatives_cons, List.pairwise_cons]
      refine ⟨?_, representatives_apart _⟩
      intro other chosen
      have kept := (representatives_sublist _).subset chosen
      simpa using (List.mem_filter.mp kept).2
termination_by items.length
decreasing_by exact Nat.lt_succ_of_le (List.length_filter_le _ _)

/-- Nothing is left out that nothing stands for. -/
theorem represented {items : List α} {item : α} (member : item ∈ items) :
    item ∈ representatives similar items ∨ ∃ better ∈ representatives similar items,
      similar better item = true ∧ Before items better item := by
  match items with
  | [] => cases member
  | first :: rest =>
      rw [representatives_cons]
      rcases List.mem_cons.mp member with rfl | later
      · exact Or.inl List.mem_cons_self
      · cases repeats : similar first item with
        | true =>
            exact Or.inr ⟨first, List.mem_cons_self, repeats,
              Before.cons_iff.mpr (Or.inr ⟨rfl, later⟩)⟩
        | false =>
            have kept : item ∈ rest.filter (!similar first ·) :=
              List.mem_filter.mpr ⟨later, by simp [repeats]⟩
            rcases represented kept with chosen |
              ⟨better, chosen, repeats, before⟩
            · exact Or.inl (List.mem_cons_of_mem _ chosen)
            · exact Or.inr ⟨better, List.mem_cons_of_mem _ chosen, repeats,
                before.mono (List.filter_sublist.cons first)⟩
termination_by items.length
decreasing_by exact Nat.lt_succ_of_le (List.length_filter_le _ _)

theorem representatives_map (f : β → α) (items : List β) :
    representatives similar (items.map f) =
      (representatives (fun a b => similar (f a) (f b)) items).map f := by
  match items with
  | [] => simp [representatives]
  | first :: rest =>
      rw [List.map_cons, representatives_cons, representatives_cons, List.map_cons,
        List.filter_map, representatives_map f]
      rfl
termination_by items.length
decreasing_by exact Nat.lt_succ_of_le (List.length_filter_le _ _)

theorem clusterIndices_filterMap (records : List α) (content : α → ObservationContent)
    (threshold : Float) (read : α → β) :
    ((clusterIndices (records.map content) threshold).filterMap
        fun i => records[i]?.map read) =
      (representatives (fun a b => Similarity.similar threshold (terms (content a))
        (terms (content b))) records).map read := by
  let place : α × Nat → List String × Nat := Prod.map (fun record => terms (content record)) id
  have numbered : ((records.map content).map terms).zipIdx = records.zipIdx.map place := by
    rw [List.map_map, List.zipIdx_map]
    rfl
  have records_eq : records = records.zipIdx.map Prod.fst := (List.zipIdx_map_fst 0 records).symm
  rw [clusterIndices, numbered, representatives_map, List.map_map, List.filterMap_map]
  conv_rhs => rw [records_eq, representatives_map, List.map_map]
  rw [← List.filterMap_eq_map]
  refine List.filterMap_congr fun entry chosen => ?_
  have present := (representatives_sublist _).subset chosen
  have found := List.mem_zipIdx_iff_getElem?.mp present
  simp [place, found]

end Similarity

end Recall
