import Mathlib.Algebra.BigOperators.Fin
import Mathlib.Algebra.Order.Field.Rat
import Mathlib.Data.List.Sort
import Mathlib.Tactic.NormNum
import Mathlib.Tactic.Ring
import Recall.Proofs.Clusters
import Recall.Proofs.StableOrder
import Recall.Ranking.Fusion

/-!
What a fusion of rankings comes to. Reading the lists one after the other and crediting each
item with the points of its place gives the board that is sorted in the end. In exact fractions
an item has the sum of the points of all its places, and the board is the only list of all keys
in that order.
-/

namespace Recall.Ranking

def credit [Score S] (board : List (Scored S)) (met : Occurrence S) : List (Scored S) :=
  if met.key ∈ board.map Scored.key then
    board.map fun item =>
      if item.key = met.key then { item with score := item.score + met.points } else item
  else board ++ [⟨met.key.1, met.key.2, met.points⟩]

section

variable [Score S]

def entries (met : List (Occurrence S)) (keys : List (String × Int)) : List (Scored S) :=
  keys.map fun key => ⟨key.1, key.2, fusedScore met key⟩

theorem entries_keys (met : List (Occurrence S)) (keys : List (String × Int)) :
    (entries met keys).map Scored.key = keys := by
  rw [entries, List.map_map]
  exact List.map_id keys

theorem entries_append (met : List (Occurrence S)) (keys more : List (String × Int)) :
    entries met (keys ++ more) = entries met keys ++ entries met more :=
  List.map_append

theorem sum_concat (terms : List S) (last : S) :
    sum (terms ++ [last]) = if terms = [] then last else sum terms + last := by
  cases terms with
  | nil => rfl
  | cons first rest => simp [sum, List.foldl_append]

theorem fusedScore_concat_other {met : List (Occurrence S)} {last : Occurrence S}
    {key : String × Int} (other : key ≠ last.key) :
    fusedScore (met ++ [last]) key = fusedScore met key := by
  simp [fusedScore, List.filter_append, other.symm]

theorem fusedScore_concat_own (met : List (Occurrence S)) (last : Occurrence S) :
    fusedScore (met ++ [last]) last.key =
      if last.key ∈ met.map Occurrence.key then fusedScore met last.key + last.points
      else last.points := by
  have own : [last].filter (·.key = last.key) = [last] := by simp
  rw [fusedScore, List.filter_append, own, List.map_append, List.map_singleton, sum_concat]
  have absent : (met.filter (·.key = last.key)).map Occurrence.points = [] ↔
      last.key ∉ met.map Occurrence.key := by
    simp [List.filter_eq_nil_iff]
  by_cases known : last.key ∈ met.map Occurrence.key
  · rw [if_neg (absent.not.mpr (not_not.mpr known)), if_pos known]
    rfl
  · rw [if_pos (absent.mpr known), if_neg known]

theorem eraseDups_concat [BEq α] [LawfulBEq α] (items : List α) (last : α) :
    (items ++ [last]).eraseDups =
      if last ∈ items then items.eraseDups else items.eraseDups ++ [last] := by
  rw [List.eraseDups_append]
  by_cases known : last ∈ items
  · simp [List.removeAll, known]
  · simp [List.removeAll, List.eraseDups_cons, known]

theorem entries_concat_known {met : List (Occurrence S)} {last : Occurrence S}
    (known : last.key ∈ met.map Occurrence.key) (keys : List (String × Int)) :
    entries (met ++ [last]) keys = (entries met keys).map fun item =>
      if item.key = last.key then { item with score := item.score + last.points } else item := by
  rw [entries, entries, List.map_map]
  refine List.map_congr_left fun key _ => ?_
  by_cases own : key = last.key
  · subst own
    simp [Scored.key, fusedScore_concat_own, known]
  · simp [Scored.key, fusedScore_concat_other own, own]

theorem entries_concat_new {met : List (Occurrence S)} {last : Occurrence S}
    {keys : List (String × Int)} (fresh : last.key ∉ keys) :
    entries (met ++ [last]) keys = entries met keys :=
  List.map_congr_left fun key member => by
    rw [fusedScore_concat_other (ne_of_mem_of_not_mem member fresh)]

/-- One step of the reading: the board keeps up with what has been met. -/
theorem credit_entries (met : List (Occurrence S)) (last : Occurrence S) :
    credit (entries met (met.map Occurrence.key).eraseDups) last =
      entries (met ++ [last]) ((met ++ [last]).map Occurrence.key).eraseDups := by
  have listed : last.key ∈ (entries met (met.map Occurrence.key).eraseDups).map Scored.key ↔
      last.key ∈ met.map Occurrence.key := by
    rw [entries_keys, List.mem_eraseDups]
  rw [credit, List.map_append, List.map_singleton, eraseDups_concat]
  by_cases known : last.key ∈ met.map Occurrence.key
  · rw [if_pos (listed.mpr known), if_pos known, entries_concat_known known]
  · have fresh : last.key ∉ (met.map Occurrence.key).eraseDups := by
      rwa [List.mem_eraseDups]
    rw [if_neg (listed.not.mpr known), if_neg known, entries_append, entries_concat_new fresh]
    simp [entries, fusedScore_concat_own, known]

theorem foldl_credit (met : List (Occurrence S)) :
    met.foldl credit [] = entries met (met.map Occurrence.key).eraseDups := by
  induction met using List.reverseRecOn with
  | nil => rfl
  | append_singleton met last ih => rw [List.foldl_concat, ih, credit_entries]

theorem fuse_eq_credited (lists : List (List (Scored S))) :
    fuse lists = ((occurrences lists).foldl credit []).mergeSort bestFirst := by
  rw [foldl_credit]
  rfl

theorem occurrences_keys {lists others : List (List (Scored S))}
    (same : others.map (·.map Scored.key) = lists.map (·.map Scored.key)) :
    occurrences others = occurrences lists := by
  have read (lists : List (List (Scored S))) : occurrences lists =
      (lists.map (·.map Scored.key)).zipIdx.flatMap fun (keys, number) =>
        keys.zipIdx.map fun (key, rank) => ⟨key, points S number rank⟩ := by
    simp only [occurrences, List.zipIdx_map, List.flatMap_map, List.map_map, Prod.map_fst,
      Prod.map_snd]
    rfl
  rw [read, read, same]

theorem fuse_keys {lists others : List (List (Scored S))}
    (same : others.map (·.map Scored.key) = lists.map (·.map Scored.key)) :
    fuse others = fuse lists := by
  rw [fuse, fuse, occurrences_keys same]

end

def bonus : Nat → ℚ
  | 0 => 1 / 20
  | 1 | 2 => 1 / 50
  | _ => 0

def award (list rank : Nat) : ℚ :=
  (if list < 2 then 2 else 1) / (60 + rank + 1) + bonus rank

def earned (lists : List (List (Scored ℚ))) (key : String × Int) : ℚ :=
  ∑ l : Fin lists.length, ∑ r : Fin lists[l].length,
    if lists[l][r].key = key then award l r else 0

def keysRead (lists : List (List (Scored S))) : List (String × Int) :=
  lists.flatten.map Scored.key

def Outranks (read : List (String × Int)) (a b : Scored ℚ) : Prop :=
  b.score < a.score ∨ (b.score = a.score ∧ read.idxOf a.key < read.idxOf b.key)

/-- What a fusion of exact scores has to be. -/
structure Fuses (lists : List (List (Scored ℚ))) (fused : List (Scored ℚ)) : Prop where
  keys : ∀ key, key ∈ fused.map Scored.key ↔ ∃ list ∈ lists, ∃ item ∈ list, item.key = key
  once : (fused.map Scored.key).Nodup
  scores : ∀ item ∈ fused, item.score = earned lists item.key
  ordered : fused.Pairwise (Outranks (keysRead lists))

theorem points_eq_award (list rank : Nat) : points ℚ list rank = award list rank := by
  have weighed : ((weight list : Nat) : ℚ) = if list < 2 then 2 else 1 := by
    simp only [weight]
    split <;> norm_num
  have raised : ((topBonus rank : Nat) : ℚ) / ((100 : Nat) : ℚ) = bonus rank := by
    match rank with
    | 0 | 1 | 2 => norm_num [topBonus, bonus]
    | _ + 3 => simp [topBonus, bonus]
  calc
    points ℚ list rank = ((weight list : Nat) : ℚ) / ((60 + rank + 1 : Nat) : ℚ) +
        ((topBonus rank : Nat) : ℚ) / ((100 : Nat) : ℚ) := rfl
    _ = award list rank := by
      rw [weighed, raised, award]
      push_cast
      rfl

theorem sum_eq (terms : List ℚ) : sum terms = terms.sum := by
  cases terms with
  | nil => rfl
  | cons first rest =>
      rw [List.sum_eq_foldl, List.foldl_cons, zero_add]
      rfl

theorem fusedScore_eq (met : List (Occurrence ℚ)) (key : String × Int) :
    fusedScore met key = (met.map fun o => if o.key = key then o.points else 0).sum := by
  rw [fusedScore, sum_eq]
  induction met with
  | nil => rfl
  | cons first rest ih =>
      by_cases own : first.key = key
      · simpa [own] using ih
      · simpa [own] using ih

theorem sum_zipIdx (items : List α) (value : α → Nat → ℚ) :
    (items.zipIdx.map fun (item, i) => value item i).sum =
      ∑ i : Fin items.length, value items[i] i := by
  have read : (items.zipIdx.map fun (item, i) => value item i) =
      List.ofFn fun i : Fin items.length => value items[i] i := by
    apply List.ext_getElem
    · simp
    · intro i _ _
      simp
  rw [read, List.sum_ofFn]

theorem fusedScore_occurrences (lists : List (List (Scored ℚ))) (key : String × Int) :
    fusedScore (occurrences lists) key = earned lists key := by
  let placed (item : Scored ℚ) (number rank : Nat) : ℚ :=
    if item.key = key then award number rank else 0
  calc
    fusedScore (occurrences lists) key =
        (lists.zipIdx.map fun (list, number) =>
          (list.zipIdx.map fun (item, rank) => placed item number rank).sum).sum := by
      rw [fusedScore_eq, occurrences, List.map_flatMap, List.flatMap_def, List.sum_flatten,
        List.map_map]
      refine congrArg List.sum (List.map_congr_left fun entry _ => ?_)
      simp only [Function.comp_apply, List.map_map, points_eq_award]
      rfl
    _ = (lists.zipIdx.map fun (list, number) =>
          ∑ r : Fin list.length, placed list[r] number r).sum := by
      refine congrArg List.sum (List.map_congr_left fun (list, number) _ => ?_)
      exact sum_zipIdx list fun item rank => placed item number rank
    _ = earned lists key :=
      sum_zipIdx lists fun list number => ∑ r : Fin list.length, placed list[r] number r

theorem occurrences_read [Score S] (lists : List (List (Scored S))) :
    (occurrences lists).map Occurrence.key = keysRead lists := by
  have numbered {list : List (Scored S)} (number : Nat) :
      (list.zipIdx.map fun entry =>
        (⟨entry.1.key, points S number entry.2⟩ : Occurrence S)).map Occurrence.key =
        list.map Scored.key := by
    rw [List.map_map]
    calc
      list.zipIdx.map (Scored.key ∘ Prod.fst) = (list.zipIdx.map Prod.fst).map Scored.key :=
        List.map_map.symm
      _ = list.map Scored.key := by rw [List.zipIdx_map_fst]
  calc
    (occurrences lists).map Occurrence.key =
        lists.zipIdx.flatMap fun entry => entry.1.map Scored.key := by
      rw [occurrences, List.map_flatMap]
      exact List.flatMap_congr fun entry _ => numbered entry.2
    _ = (lists.zipIdx.map Prod.fst).flatMap (List.map Scored.key) := (List.flatMap_map _ _ _).symm
    _ = keysRead lists := by
      rw [List.zipIdx_map_fst, keysRead, List.map_flatten, List.flatMap_def]

theorem eraseDups_met [BEq α] [LawfulBEq α] (items : List α) :
    items.eraseDups.Pairwise fun a b => items.idxOf a < items.idxOf b := by
  induction items using List.reverseRecOn with
  | nil => exact List.Pairwise.nil
  | append_singleton items last ih =>
      have grown : items.eraseDups.Pairwise fun a b =>
          (items ++ [last]).idxOf a < (items ++ [last]).idxOf b := by
        refine ih.imp_of_mem fun {a b} one two before => ?_
        rwa [List.idxOf_append_of_mem (List.mem_eraseDups.mp one),
          List.idxOf_append_of_mem (List.mem_eraseDups.mp two)]
      rw [eraseDups_concat]
      split
      · exact grown
      · rename_i fresh
        refine List.pairwise_append.mpr ⟨grown, List.pairwise_singleton _ _, fun a one b two => ?_⟩
        have known := List.mem_eraseDups.mp one
        rw [List.mem_singleton.mp two, List.idxOf_append_of_mem known,
          List.idxOf_append_of_notMem fresh]
        exact Nat.lt_add_right _ (List.idxOf_lt_length_of_mem known)

theorem bestFirst_ranks : Ranks (bestFirst (S := ℚ)) :=
  (ranks_key Scored.score).flip

theorem mem_keysRead_iff {lists : List (List (Scored S))} {key : String × Int} :
    key ∈ keysRead lists ↔ ∃ list ∈ lists, ∃ item ∈ list, item.key = key := by
  simp only [keysRead, List.mem_map, List.mem_flatten]
  constructor
  · rintro ⟨item, ⟨list, listed, present⟩, same⟩
    exact ⟨list, listed, item, present, same⟩
  · rintro ⟨list, listed, item, present, same⟩
    exact ⟨item, ⟨list, listed, present⟩, same⟩

theorem fuse_eq (lists : List (List (Scored ℚ))) :
    fuse lists = ((keysRead lists).eraseDups.map fun key =>
      ⟨key.1, key.2, earned lists key⟩).mergeSort bestFirst := by
  simp only [fuse, occurrences_read, fusedScore_occurrences]

theorem fuse_fuses (lists : List (List (Scored ℚ))) : Fuses lists (fuse lists) := by
  let board := (keysRead lists).eraseDups.map fun key =>
    (⟨key.1, key.2, earned lists key⟩ : Scored ℚ)
  have sorted : fuse lists = board.mergeSort bestFirst := fuse_eq lists
  have keys : board.map Scored.key = (keysRead lists).eraseDups := by
    rw [List.map_map]
    exact List.map_id _
  have same : ((fuse lists).map Scored.key).Perm (keysRead lists).eraseDups := by
    rw [sorted, ← keys]
    exact (List.mergeSort_perm _ _).map _
  have placed : board.Pairwise fun a b =>
      (keysRead lists).idxOf a.key < (keysRead lists).idxOf b.key := by
    rw [← List.pairwise_map (f := Scored.key)
      (R := fun a b => (keysRead lists).idxOf a < (keysRead lists).idxOf b), keys]
    exact eraseDups_met _
  refine ⟨?_, ?_, ?_, ?_⟩
  · intro key
    rw [same.mem_iff, List.mem_eraseDups, mem_keysRead_iff]
  · exact same.nodup_iff.mpr (nodup_eraseDups _)
  · intro item member
    rw [sorted, List.mem_mergeSort] at member
    obtain ⟨key, -, rfl⟩ := List.mem_map.mp member
    rfl
  · rw [sorted]
    refine (bestFirst_ranks.pairwise_mergeSort placed).imp fun {a b} ⟨ordered, tie⟩ => ?_
    have above : b.score ≤ a.score := of_decide_eq_true ordered
    rcases lt_or_eq_of_le above with less | equal
    · exact Or.inl less
    · exact Or.inr ⟨equal, tie (decide_eq_true (le_of_eq equal.symm))⟩

theorem Fuses.mem_iff {lists : List (List (Scored ℚ))} {fused : List (Scored ℚ)}
    (fuses : Fuses lists fused) (item : Scored ℚ) :
    item ∈ fused ↔ item.key ∈ keysRead lists ∧ item.score = earned lists item.key := by
  rw [mem_keysRead_iff, ← fuses.keys]
  constructor
  · intro member
    exact ⟨List.mem_map_of_mem member, fuses.scores item member⟩
  · rintro ⟨listed, scored⟩
    obtain ⟨other, member, same⟩ := List.mem_map.mp listed
    have equal : other.score = item.score := by
      rw [fuses.scores other member, scored, same]
    obtain ⟨docType, id, score⟩ := item
    obtain ⟨otherType, otherId, otherScore⟩ := other
    cases same
    cases equal
    exact member

/-- No two items outrank each other, so there is one order for the items of a fusion. -/
theorem Fuses.unique {lists : List (List (Scored ℚ))} {first second : List (Scored ℚ)}
    (one : Fuses lists first) (two : Fuses lists second) : first = second := by
  have never : ∀ a b, Outranks (keysRead lists) a b → ¬ Outranks (keysRead lists) b a := by
    rintro a b (less | ⟨equal, before⟩) (also | ⟨same, after⟩)
    · exact absurd also (lt_asymm less)
    · exact absurd less (same ▸ lt_irrefl _)
    · exact absurd also (equal ▸ lt_irrefl _)
    · exact absurd after (Nat.lt_asymm before)
  have : Std.Antisymm (Outranks (keysRead lists)) :=
    ⟨fun a b above below => absurd below (never a b above)⟩
  have : Std.Irrefl (Outranks (keysRead lists)) :=
    ⟨fun a itself => never a a itself itself⟩
  refine one.ordered.eq_of_mem_iff two.ordered fun item => ?_
  rw [one.mem_iff, two.mem_iff]

/-- The fusion is the one list that its definition allows. It is found by one reading of the
lists, and the scores in them are of no concern. -/
theorem fuse_defined (lists : List (List (Scored ℚ))) :
    (∀ fused, Fuses lists fused ↔ fused = fuse lists) ∧
    fuse lists = ((occurrences lists).foldl credit []).mergeSort bestFirst ∧
    ∀ others : List (List (Scored ℚ)),
      others.map (·.map Scored.key) = lists.map (·.map Scored.key) →
        fuse others = fuse lists := by
  refine ⟨?_, fuse_eq_credited lists, fun others same => fuse_keys same⟩
  intro fused
  constructor
  · intro fuses
    exact fuses.unique (fuse_fuses lists)
  · rintro rfl
    exact fuse_fuses lists

def shared : List (List (Scored ℚ)) :=
  [[⟨"observation", 7, 1 / 2⟩, ⟨"prompt", 7, 1 / 3⟩], [⟨"prompt", 2, 1⟩, ⟨"observation", 7, 0⟩],
    [⟨"prompt", 2, 9⟩]]

theorem shared_defined :
    let unscored := shared.map (·.map fun item => { item with score := 0 })
    Fuses shared (fuse shared) ∧
    unscored.map (·.map Scored.key) = shared.map (·.map Scored.key) ∧
    fuse unscored = fuse shared := by
  intro unscored
  obtain ⟨defined, -, unmoved⟩ := fuse_defined shared
  exact ⟨(defined _).mpr rfl, rfl, unmoved unscored rfl⟩

end Recall.Ranking
