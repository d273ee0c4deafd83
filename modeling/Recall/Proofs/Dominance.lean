import Mathlib.Algebra.Order.BigOperators.Group.Finset
import Mathlib.Order.Monotone.Basic
import Mathlib.Tactic.Linarith
import Mathlib.Tactic.Positivity
import Recall.Proofs.FusedScores

/-!
Fusion and the order of the lists. The points of a list fall strictly from rank to rank, so a
key that stands above another one wherever that one stands earns more, and comes before it.
Lists that agree are fused into the list that they all are.
-/

namespace Recall.Ranking

theorem bonus_antitone : Antitone bonus := by
  apply antitone_nat_of_succ_le
  intro rank
  match rank with
  | 0 | 1 | 2 => norm_num [bonus]
  | _ + 3 => exact le_refl _

theorem bonus_nonneg (rank : Nat) : 0 ≤ bonus rank := by
  match rank with
  | 0 | 1 | 2 => norm_num [bonus]
  | _ + 3 => exact le_refl _

/-- The reciprocal falls strictly, and the bonus does not rise. -/
theorem award_strictAnti (list : Nat) : StrictAnti (award list) := by
  intro better rank above
  have raised : bonus rank ≤ bonus better := bonus_antitone (Nat.le_of_lt above)
  have weighs : (0 : ℚ) < if list < 2 then 2 else 1 := by
    split <;> norm_num
  have nearer : (60 + better + 1 : ℚ) < 60 + rank + 1 := by
    have : (better : ℚ) < rank := by exact_mod_cast above
    linarith
  have falls := div_lt_div_of_pos_left weighs (by positivity) nearer
  rw [award, award]
  linarith

theorem award_nonneg (list rank : Nat) : 0 ≤ award list rank := by
  have raised := bonus_nonneg rank
  have weighs : (0 : ℚ) ≤ if list < 2 then 2 else 1 := by
    split <;> norm_num
  rw [award]
  positivity

def StandsAt (list : List (Scored S)) (key : String × Int) (rank : Nat) : Prop :=
  list[rank]?.map Scored.key = some key

instance (list : List (Scored S)) (key : String × Int) (rank : Nat) :
    Decidable (StandsAt list key rank) :=
  inferInstanceAs (Decidable (_ = _))

theorem standsAt_iff {list : List (Scored S)} {key : String × Int} {rank : Nat} :
    StandsAt list key rank ↔ ∃ inside : rank < list.length, list[rank].key = key := by
  rw [StandsAt, Option.map_eq_some_iff]
  constructor
  · rintro ⟨item, found, same⟩
    obtain ⟨inside, rfl⟩ := List.getElem?_eq_some_iff.mp found
    exact ⟨inside, same⟩
  · rintro ⟨inside, same⟩
    exact ⟨_, List.getElem?_eq_getElem inside, same⟩

theorem StandsAt.unique {list : List (Scored S)} (once : (list.map Scored.key).Nodup)
    {key : String × Int} {first second : Nat} (one : StandsAt list key first)
    (two : StandsAt list key second) : first = second := by
  have inside : first < (list.map Scored.key).length := by
    rw [List.length_map]
    exact (standsAt_iff.mp one).1
  apply (List.getElem?_inj inside once).mp
  rw [List.getElem?_map, List.getElem?_map]
  exact Eq.trans one (Eq.symm two)

def earnedIn (list : List (Scored ℚ)) (number : Nat) (key : String × Int) : ℚ :=
  ∑ r : Fin list.length, if list[r].key = key then award number r else 0

section

variable {list : List (Scored ℚ)} {number : Nat} {key : String × Int} {rank : Nat}

theorem earnedIn_nonneg : 0 ≤ earnedIn list number key :=
  Finset.sum_nonneg fun r _ => by
    split
    · exact award_nonneg number r
    · exact le_refl _

theorem earnedIn_absent (absent : ∀ rank, ¬ StandsAt list key rank) :
    earnedIn list number key = 0 :=
  Finset.sum_eq_zero fun r _ =>
    if_neg fun own => absent r (standsAt_iff.mpr ⟨r.isLt, own⟩)

theorem award_le_earnedIn (stands : StandsAt list key rank) :
    award number rank ≤ earnedIn list number key := by
  obtain ⟨inside, own⟩ := standsAt_iff.mp stands
  calc
    award number rank = if list[rank].key = key then award number rank else 0 := (if_pos own).symm
    _ ≤ earnedIn list number key :=
      Finset.single_le_sum (f := fun r : Fin list.length =>
        if list[r].key = key then award number r else 0) (fun r _ => by
          split
          · exact award_nonneg number r
          · exact le_refl _) (Finset.mem_univ (⟨rank, inside⟩ : Fin list.length))

theorem earnedIn_once (once : (list.map Scored.key).Nodup) (stands : StandsAt list key rank) :
    earnedIn list number key = award number rank := by
  obtain ⟨inside, own⟩ := standsAt_iff.mp stands
  rw [earnedIn, Finset.sum_eq_single (⟨rank, inside⟩ : Fin list.length)]
  · exact if_pos own
  · intro r _ other
    refine if_neg fun same => other (Fin.ext ?_)
    exact StandsAt.unique once (standsAt_iff.mpr ⟨r.isLt, same⟩) stands
  · intro out
    exact absurd (Finset.mem_univ _) out

end

/-- Wherever the second key stands, the first one stands above it. -/
def Dominates (lists : List (List (Scored S))) (a b : String × Int) : Prop :=
  ∀ list ∈ lists, ∀ rank, StandsAt list b rank → ∃ better < rank, StandsAt list a better

/-- Only the ranks within a list need to be looked at. -/
theorem dominates_iff {lists : List (List (Scored S))} {a b : String × Int} :
    Dominates lists a b ↔ ∀ list ∈ lists, ∀ rank < list.length, StandsAt list b rank →
      ∃ better < rank, StandsAt list a better := by
  constructor
  · intro dominates list listed rank _
    exact dominates list listed rank
  · intro within list listed rank stands
    exact within list listed rank (standsAt_iff.mp stands).1 stands

instance (lists : List (List (Scored S))) (a b : String × Int) : Decidable (Dominates lists a b) :=
  decidable_of_iff _ dominates_iff.symm

section

variable {lists : List (List (Scored ℚ))} {a b : String × Int}

theorem earnedIn_lt {list : List (Scored ℚ)} (once : (list.map Scored.key).Nodup) {rank : Nat}
    (stands : StandsAt list b rank) {better : Nat} (above : better < rank)
    (leads : StandsAt list a better) (number : Nat) :
    earnedIn list number b < earnedIn list number a :=
  calc
    earnedIn list number b = award number rank := earnedIn_once once stands
    _ < award number better := award_strictAnti number above
    _ ≤ earnedIn list number a := award_le_earnedIn leads

theorem earned_lt_of_dominates (once : ∀ list ∈ lists, (list.map Scored.key).Nodup)
    (dominates : Dominates lists a b) (occurs : ∃ list ∈ lists, ∃ rank, StandsAt list b rank) :
    earned lists b < earned lists a := by
  have strict (l : Fin lists.length) (present : ∃ rank, StandsAt lists[l] b rank) :
      earnedIn lists[l] l b < earnedIn lists[l] l a := by
    have listed : lists[l] ∈ lists := List.getElem_mem l.isLt
    obtain ⟨rank, stands⟩ := present
    obtain ⟨better, above, leads⟩ := dominates lists[l] listed rank stands
    exact earnedIn_lt (once _ listed) stands above leads l
  apply Finset.sum_lt_sum
  · intro l _
    by_cases present : ∃ rank, StandsAt lists[l] b rank
    · exact le_of_lt (strict l present)
    · have unearned : earnedIn lists[l] l b = 0 := earnedIn_absent (not_exists.mp present)
      change earnedIn lists[l] l b ≤ earnedIn lists[l] l a
      rw [unearned]
      exact earnedIn_nonneg
  · obtain ⟨list, listed, present⟩ := occurs
    obtain ⟨l, inside, rfl⟩ := List.mem_iff_getElem.mp listed
    exact ⟨⟨l, inside⟩, Finset.mem_univ _, strict ⟨l, inside⟩ present⟩

theorem standsAt_mem {list : List (Scored ℚ)} {key : String × Int} {rank : Nat}
    (stands : StandsAt list key rank) : ∃ item ∈ list, item.key = key := by
  obtain ⟨inside, own⟩ := standsAt_iff.mp stands
  exact ⟨_, List.getElem_mem inside, own⟩

theorem Fuses.mem_entry {fused : List (Scored ℚ)} (fuses : Fuses lists fused)
    {key : String × Int} (occurs : ∃ list ∈ lists, ∃ rank, StandsAt list key rank) :
    (⟨key.1, key.2, earned lists key⟩ : Scored ℚ) ∈ fused := by
  obtain ⟨list, listed, rank, stands⟩ := occurs
  exact (fuses.mem_iff _).mpr ⟨mem_keysRead_iff.mpr ⟨list, listed, standsAt_mem stands⟩, rfl⟩

theorem Fuses.before {fused : List (Scored ℚ)} (fuses : Fuses lists fused) {x y : Scored ℚ}
    (one : x ∈ fused) (two : y ∈ fused) (more : y.score < x.score) : Before fused x y := by
  have distinct : x ≠ y := fun same => absurd more (same ▸ lt_irrefl _)
  refine (before_or_before one two distinct).resolve_right fun reversed => ?_
  have ordered := List.pairwise_iff_forall_sublist.mp fuses.ordered reversed
  rcases ordered with less | ⟨equal, -⟩
  · exact absurd less (lt_asymm more)
  · exact absurd more (equal ▸ lt_irrefl _)

theorem Dominates.occurs (dominates : Dominates lists a b)
    (occurs : ∃ list ∈ lists, ∃ rank, StandsAt list b rank) :
    ∃ list ∈ lists, ∃ rank, StandsAt list a rank := by
  obtain ⟨list, listed, rank, stands⟩ := occurs
  obtain ⟨better, -, leads⟩ := dominates list listed rank stands
  exact ⟨list, listed, better, leads⟩

theorem fuse_before_of_dominates (once : ∀ list ∈ lists, (list.map Scored.key).Nodup)
    (dominates : Dominates lists a b) (occurs : ∃ list ∈ lists, ∃ rank, StandsAt list b rank) :
    ∃ x y, x.key = a ∧ y.key = b ∧ y.score < x.score ∧ Before (fuse lists) x y := by
  have fuses := fuse_fuses lists
  have more := earned_lt_of_dominates once dominates occurs
  exact ⟨⟨a.1, a.2, earned lists a⟩, ⟨b.1, b.2, earned lists b⟩, rfl, rfl, more,
    fuses.before (fuses.mem_entry (dominates.occurs occurs)) (fuses.mem_entry occurs) more⟩

theorem dominates_of_before {list : List (Scored ℚ)} (once : (list.map Scored.key).Nodup)
    (copies : ∀ other ∈ lists, other = list) {q r : Nat} (above : q < r)
    (leads : StandsAt list a q) (stands : StandsAt list b r) : Dominates lists a b := by
  intro other listed rank also
  rw [copies other listed] at also ⊢
  have equal : r = rank := stands.unique once also
  exact ⟨q, equal ▸ above, leads⟩

theorem standsAt_of_mem {list : List (Scored ℚ)} {key : String × Int}
    (member : key ∈ list.map Scored.key) :
    StandsAt list key ((list.map Scored.key).idxOf key) := by
  have inside := List.idxOf_lt_length_of_mem member
  rw [List.length_map] at inside
  refine standsAt_iff.mpr ⟨inside, ?_⟩
  have found := List.getElem_idxOf (List.idxOf_lt_length_of_mem member)
  rwa [List.getElem_map] at found

theorem nodup_met [BEq α] [LawfulBEq α] {items : List α} (once : items.Nodup) :
    items.Pairwise fun a b => items.idxOf a < items.idxOf b := by
  rw [List.pairwise_iff_getElem]
  intro i j first second before
  rwa [once.idxOf_getElem, once.idxOf_getElem]

theorem fuse_copies {list : List (Scored ℚ)} (listed : list ∈ lists)
    (once : (list.map Scored.key).Nodup) (copies : ∀ other ∈ lists, other = list) :
    (fuse lists).map Scored.key = list.map Scored.key := by
  let place (key : String × Int) : Nat := (list.map Scored.key).idxOf key
  have fuses := fuse_fuses lists
  have keys (key : String × Int) :
      key ∈ (fuse lists).map Scored.key ↔ key ∈ list.map Scored.key := by
    rw [fuses.keys, List.mem_map]
    constructor
    · rintro ⟨other, also, item, present, same⟩
      exact ⟨item, copies other also ▸ present, same⟩
    · rintro ⟨item, present, same⟩
      exact ⟨list, listed, item, present, same⟩
  have all : ∀ other ∈ lists, (other.map Scored.key).Nodup := by
    intro other also
    rw [copies other also]
    exact once
  have ordered : ((fuse lists).map Scored.key).Pairwise fun a b => place a < place b := by
    refine List.pairwise_iff_forall_sublist.mpr fun {a b} before => ?_
    by_contra late
    have first := (keys a).mp (before.subset List.mem_cons_self)
    have second := (keys b).mp (before.subset (List.mem_cons_of_mem _ (List.mem_singleton_self b)))
    -- Otherwise the second key dominates the first, and stands before it as well.
    have distinct : place b ≠ place a := by
      intro same
      have equal : b = a := (List.idxOf_inj second).mp same
      exact (List.nodup_iff_sublist.mp fuses.once) a (equal ▸ before)
    have above : place b < place a := by omega
    obtain ⟨x, y, rfl, rfl, -, reversed⟩ := fuse_before_of_dominates all
      (dominates_of_before once copies above (standsAt_of_mem second) (standsAt_of_mem first))
      ⟨list, listed, _, standsAt_of_mem first⟩
    have twice := Before.trans fuses.once before (reversed.map Scored.key)
    exact (List.nodup_iff_sublist.mp fuses.once) _ twice
  have : Std.Antisymm fun a b : String × Int => place a < place b :=
    ⟨fun a b above below => absurd above (Nat.lt_asymm below)⟩
  have : Std.Irrefl fun a b : String × Int => place a < place b :=
    ⟨fun a => Nat.lt_irrefl _⟩
  exact ordered.eq_of_mem_iff (nodup_met once) keys

end

/-- A key that is above another one wherever that one occurs has the greater score, and comes
first. Lists that are all the same keep their order. -/
theorem fuse_respects_dominance (lists : List (List (Scored ℚ)))
    (once : ∀ list ∈ lists, (list.map Scored.key).Nodup) :
    (∀ a b, (∃ list ∈ lists, ∃ rank, StandsAt list b rank) → Dominates lists a b →
      ∃ x y, x.key = a ∧ y.key = b ∧ y.score < x.score ∧ Before (fuse lists) x y) ∧
    ∀ list ∈ lists, (∀ other ∈ lists, other = list) →
      (fuse lists).map Scored.key = list.map Scored.key := by
  constructor
  · intro a b occurs dominates
    exact fuse_before_of_dominates once dominates occurs
  · intro list listed copies
    exact fuse_copies listed (once list listed) copies

def agreeing : List (List (Scored ℚ)) :=
  [[⟨"observation", 1, 0⟩, ⟨"observation", 2, 0⟩, ⟨"prompt", 1, 0⟩],
    [⟨"prompt", 1, 0⟩, ⟨"observation", 1, 0⟩, ⟨"observation", 2, 0⟩],
    [⟨"prompt", 1, 0⟩, ⟨"summary", 1, 0⟩, ⟨"observation", 1, 0⟩]]

def thrice : List (List (Scored ℚ)) :=
  List.replicate 3 [⟨"prompt", 5, 0⟩, ⟨"observation", 5, 1⟩, ⟨"prompt", 4, 2⟩]

theorem agreeing_respects_dominance :
    ((∀ list ∈ agreeing, (list.map Scored.key).Nodup) ∧
      (∃ list ∈ agreeing, ∃ rank, StandsAt list ("observation", 2) rank) ∧
      Dominates agreeing ("observation", 1) ("observation", 2) ∧
      ∃ x y, x.key = ("observation", 1) ∧ y.key = ("observation", 2) ∧ y.score < x.score ∧
        Before (fuse agreeing) x y) ∧
    (∀ list ∈ thrice, (list.map Scored.key).Nodup) ∧
    (fuse thrice).map Scored.key = [("prompt", 5), ("observation", 5), ("prompt", 4)] := by
  have once : ∀ list ∈ agreeing, (list.map Scored.key).Nodup := by decide
  have occurs : ∃ list ∈ agreeing, ∃ rank, StandsAt list ("observation", 2) rank :=
    ⟨_, List.mem_cons_self, 1, rfl⟩
  have dominates : Dominates agreeing ("observation", 1) ("observation", 2) := by decide
  have distinct : ∀ list ∈ thrice, (list.map Scored.key).Nodup := by decide
  refine ⟨⟨once, occurs, dominates, ?_⟩, distinct, ?_⟩
  · exact (fuse_respects_dominance agreeing once).1 _ _ occurs dominates
  · exact (fuse_respects_dominance thrice distinct).2 _ List.mem_cons_self fun other listed =>
      List.eq_of_mem_replicate listed

end Recall.Ranking
