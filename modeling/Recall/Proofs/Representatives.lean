import Mathlib.Data.List.Sort
import Recall.Proofs.Clusters

/-!
Representatives by position. They are the only ascending positions of records without similar
ones among them such that each other record has a similar one of them before it. A single
sweep over the list, which marks what it has dealt with, finds them.
-/

namespace Recall.Similarity

def similarAt (contents : List ObservationContent) (threshold : Float) (i j : Nat) : Bool :=
  contents[i]?.any fun a => contents[j]?.any fun b => similar threshold (terms a) (terms b)

/-- The chosen positions stand for all of the first ones. -/
structure Represents (similar : Nat → Nat → Bool) (count : Nat) (chosen : List Nat) : Prop where
  ascending : chosen.Pairwise (· < ·)
  within : ∀ i ∈ chosen, i < count
  apart : ∀ i ∈ chosen, ∀ j ∈ chosen, i ≠ j → similar i j = false
  covered : ∀ j < count, j ∉ chosen → ∃ i ∈ chosen, i < j ∧ similar i j = true

/-- A position is marked once it is chosen, or absorbed by a chosen one. -/
structure Sweep where
  marked : List Bool
  chosen : List Nat := []

def Sweep.visit (similar : Nat → Nat → Bool) (sweep : Sweep) (i : Nat) : Sweep :=
  if sweep.marked[i]?.getD false then sweep
  else {
    marked := sweep.marked.mapIdx fun j mark => mark || i = j || (i < j && similar i j)
    chosen := sweep.chosen ++ [i] }

def sweep (similar : Nat → Nat → Bool) (count : Nat) : Sweep :=
  (List.range count).foldl (Sweep.visit similar) { marked := List.replicate count false }

namespace Represents

variable {similar : Nat → Nat → Bool} {count : Nat} {first second : List Nat}

theorem mem_of_mem (one : Represents similar count first) (two : Represents similar count second)
    {i : Nat} (below : ∀ j < i, j ∈ second → j ∈ first) (member : i ∈ first) : i ∈ second := by
  by_contra absent
  obtain ⟨j, chosen, before, absorbs⟩ := two.covered i (one.within i member) absent
  have free := one.apart j (below j before chosen) i member (Nat.ne_of_lt before)
  rw [absorbs] at free
  cases free

/-- What is chosen at a position depends on what is chosen before it, and on nothing else. -/
theorem mem_iff (one : Represents similar count first) (two : Represents similar count second)
    (i : Nat) : i ∈ first ↔ i ∈ second := by
  induction i using Nat.strong_induction_on with
  | _ i ih =>
      constructor
      · exact one.mem_of_mem two fun j before => (ih j before).mpr
      · exact two.mem_of_mem one fun j before => (ih j before).mp

theorem unique (one : Represents similar count first) (two : Represents similar count second) :
    first = second :=
  one.ascending.eq_of_mem_iff two.ascending (one.mem_iff two)

theorem range (apart : ∀ i < count, ∀ j < count, i ≠ j → similar i j = false) :
    Represents similar count (List.range count) where
  ascending := List.pairwise_lt_range
  within _ member := List.mem_range.mp member
  apart i one j two := apart i (List.mem_range.mp one) j (List.mem_range.mp two)
  covered _ before absent := absurd (List.mem_range.mpr before) absent

theorem keep (represents : Represents similar count first) {i : Nat} (chosen : i ∈ first)
    (absorbs : similar i count = true) : Represents similar (count + 1) first where
  ascending := represents.ascending
  within j member := Nat.lt_succ_of_lt (represents.within j member)
  apart := represents.apart
  covered j before absent := by
    rcases Nat.lt_succ_iff_lt_or_eq.mp before with earlier | rfl
    · exact represents.covered j earlier absent
    · exact ⟨i, chosen, represents.within i chosen, absorbs⟩

theorem choose (represents : Represents similar count first)
    (symmetric : ∀ i j, similar i j = similar j i)
    (free : ∀ i ∈ first, similar i count = false) :
    Represents similar (count + 1) (first ++ [count]) where
  ascending := by
    refine List.pairwise_append.mpr
      ⟨represents.ascending, List.pairwise_singleton _ _, fun i member j last => ?_⟩
    rw [List.mem_singleton.mp last]
    exact represents.within i member
  within j member := by
    rcases List.mem_append.mp member with earlier | last
    · exact Nat.lt_succ_of_lt (represents.within j earlier)
    · rw [List.mem_singleton.mp last]
      exact Nat.lt_succ_self count
  apart i one j two distinct := by
    rcases List.mem_append.mp one with one | one <;>
      rcases List.mem_append.mp two with two | two
    · exact represents.apart i one j two distinct
    · rw [List.mem_singleton.mp two]
      exact free i one
    · rw [List.mem_singleton.mp one, symmetric]
      exact free j two
    · exact absurd ((List.mem_singleton.mp one).trans (List.mem_singleton.mp two).symm) distinct
  covered j before absent := by
    obtain ⟨out, other⟩ := not_or.mp (List.mem_append.not.mp absent)
    have earlier : j < count := by
      have := List.mem_singleton.not.mp other
      omega
    obtain ⟨i, chosen, below, absorbs⟩ := represents.covered j earlier out
    exact ⟨i, List.mem_append_left _ chosen, below, absorbs⟩

end Represents

namespace Sweep

variable {similar : Nat → Nat → Bool} {count i : Nat}

/-- A sweep that has come to a position: the marks tell what the chosen ones stand for. -/
structure Reaches (similar : Nat → Nat → Bool) (count i : Nat) (sweep : Sweep) : Prop where
  size : sweep.marked.length = count
  marks : ∀ j < count, sweep.marked[j]?.getD false = true ↔
    ∃ c ∈ sweep.chosen, c = j ∨ (c < j ∧ similar c j = true)
  represents : Represents similar i sweep.chosen

theorem reaches_start (similar : Nat → Nat → Bool) (count : Nat) :
    Reaches similar count 0 { marked := List.replicate count false } where
  size := List.length_replicate
  marks j below := by simp [below]
  represents := Represents.range fun _ below => absurd below (Nat.not_lt_zero _)

theorem Reaches.visit {sweep : Sweep} (reaches : Reaches similar count i sweep)
    (symmetric : ∀ i j, similar i j = similar j i) (below : i < count) :
    Reaches similar count (i + 1) (sweep.visit similar i) := by
  have known := reaches.marks i below
  simp only [Sweep.visit]
  split
  · rename_i mark
    obtain ⟨c, chosen, rfl | ⟨-, absorbs⟩⟩ := known.mp mark
    · exact absurd (reaches.represents.within c chosen) (Nat.lt_irrefl c)
    · exact ⟨reaches.size, reaches.marks, reaches.represents.keep chosen absorbs⟩
  · rename_i blank
    have free : ∀ c ∈ sweep.chosen, similar c i = false := by
      intro c chosen
      have earlier := reaches.represents.within c chosen
      by_contra absorbs
      exact blank (known.mpr ⟨c, chosen, Or.inr ⟨earlier, by simpa using absorbs⟩⟩)
    refine ⟨?_, ?_, reaches.represents.choose symmetric free⟩
    · rw [List.length_mapIdx, reaches.size]
    · intro j inside
      have before := reaches.marks j inside
      have there : j < sweep.marked.length := by rw [reaches.size]; exact inside
      rw [List.getElem?_eq_getElem there, Option.getD_some] at before
      simp only [List.getElem?_mapIdx, List.getElem?_eq_getElem there, Option.map_some,
        Option.getD_some, Bool.or_eq_true, Bool.and_eq_true, decide_eq_true_eq, before,
        List.mem_append, List.mem_singleton]
      constructor
      · rintro ((⟨c, chosen, stands⟩ | own) | absorbed)
        · exact ⟨c, Or.inl chosen, stands⟩
        · exact ⟨i, Or.inr rfl, Or.inl own⟩
        · exact ⟨i, Or.inr rfl, Or.inr absorbed⟩
      · rintro ⟨c, chosen | rfl, stands⟩
        · exact Or.inl (Or.inl ⟨c, chosen, stands⟩)
        · rcases stands with own | absorbed
          · exact Or.inl (Or.inr own)
          · exact Or.inr absorbed

theorem reaches_foldl (symmetric : ∀ i j, similar i j = similar j i) (below : i ≤ count) :
    Reaches similar count i
      ((List.range i).foldl (visit similar) { marked := List.replicate count false }) := by
  induction i with
  | zero => exact reaches_start similar count
  | succ i ih =>
      rw [List.range_succ, List.foldl_append]
      exact (ih (Nat.le_of_succ_le below)).visit symmetric below

end Sweep

theorem sweep_represents {similar : Nat → Nat → Bool}
    (symmetric : ∀ i j, similar i j = similar j i) (count : Nat) :
    Represents similar count (sweep similar count).chosen :=
  (Sweep.reaches_foldl symmetric (Nat.le_refl count)).represents

-- The one in the middle is absorbed, and does not absorb the last one.
example : (sweep (fun i j => i + 1 = j || j + 1 = i) 3).chosen = [0, 2] := by decide

section

variable {contents : List ObservationContent} {threshold : Float}

theorem similarAt_comm (i j : Nat) :
    similarAt contents threshold i j = similarAt contents threshold j i := by
  simp only [similarAt]
  cases contents[i]? <;> cases contents[j]? <;> simp [similar_comm]

theorem similar_numbered {a b : List String × Nat} (one : a ∈ (contents.map terms).zipIdx)
    (two : b ∈ (contents.map terms).zipIdx) :
    similarAt contents threshold a.2 b.2 = similar threshold a.1 b.1 := by
  have first := List.mem_zipIdx_iff_getElem?.mp one
  have second := List.mem_zipIdx_iff_getElem?.mp two
  rw [List.getElem?_map, Option.map_eq_some_iff] at first second
  obtain ⟨_, placed, own⟩ := first
  obtain ⟨_, also, other⟩ := second
  simp only [similarAt, placed, also, Option.any_some, own, other]

theorem numbered_ascending (contents : List ObservationContent) :
    (((contents.map terms).zipIdx).map (·.2)).Pairwise (· < ·) := by
  rw [List.zipIdx_map_snd]
  exact List.pairwise_lt_range'

theorem clusterIndices_represents (contents : List ObservationContent) (threshold : Float) :
    Represents (similarAt contents threshold) contents.length
      (clusterIndices contents threshold) where
  ascending := (numbered_ascending contents).sublist ((representatives_sublist _).map _)
  within i member := by
    obtain ⟨entry, chosen, rfl⟩ := List.mem_map.mp member
    have present := List.snd_lt_of_mem_zipIdx ((representatives_sublist _).subset chosen)
    simpa using present
  apart := by
    have distinct : (clusterIndices contents threshold).Pairwise
        fun i j => similarAt contents threshold i j = false := by
      rw [clusterIndices, List.pairwise_map]
      refine (representatives_apart _).imp_of_mem fun {a b} one two free => ?_
      rw [similar_numbered ((representatives_sublist _).subset one)
        ((representatives_sublist _).subset two)]
      exact free
    have symmetric : Std.Symm fun i j => similarAt contents threshold i j = false :=
      ⟨fun i j free => by rw [similarAt_comm]; exact free⟩
    intro i one j two
    exact distinct.forall one two
  covered j below absent := by
    have numbered : (terms contents[j], j) ∈ (contents.map terms).zipIdx := by
      rw [List.mem_zipIdx_iff_getElem?, List.getElem?_map, List.getElem?_eq_getElem below]
      rfl
    rcases @represented _ (fun a b => similar threshold a.1 b.1) _ _ numbered with
      chosen | ⟨better, chosen, absorbs, before⟩
    · exact absurd (List.mem_map_of_mem chosen) absent
    · refine ⟨better.2, List.mem_map_of_mem chosen, ?_, ?_⟩
      · have ordered := (numbered_ascending contents).sublist (before.map (·.2))
        simpa using ordered
      · rw [similar_numbered before.mem_left numbered]
        exact absorbs

theorem getElem?_filterMap_get {positions : List Nat} {records : List α}
    (within : ∀ i ∈ positions, i < records.length) (k : Nat) :
    (positions.filterMap (records[·]?))[k]? = positions[k]?.bind (records[·]?) := by
  induction positions generalizing k with
  | nil => rfl
  | cons i rest ih =>
      obtain ⟨inside, others⟩ := List.forall_mem_cons.mp within
      rw [List.filterMap_cons_some (List.getElem?_eq_getElem inside)]
      cases k with
      | zero => exact (List.getElem?_eq_getElem inside).symm
      | succ k => exact ih others k

theorem length_filterMap_get {positions : List Nat} {records : List α}
    (within : ∀ i ∈ positions, i < records.length) :
    (positions.filterMap (records[·]?)).length = positions.length := by
  rw [List.length_filterMap_eq_countP, List.countP_eq_length]
  intro i member
  rw [List.getElem?_eq_getElem (within i member)]
  rfl

theorem clusterIndices_chosen {chosen : List Nat}
    (represents : Represents (similarAt contents threshold) contents.length chosen) :
    clusterIndices (chosen.filterMap (contents[·]?)) threshold = List.range chosen.length := by
  have size := length_filterMap_get represents.within
  refine (clusterIndices_represents _ threshold).unique ?_
  rw [size]
  refine Represents.range fun i first j second distinct => ?_
  have moved : similarAt (chosen.filterMap (contents[·]?)) threshold i j =
      similarAt contents threshold chosen[i] chosen[j] := by
    simp only [similarAt, getElem?_filterMap_get represents.within,
      List.getElem?_eq_getElem first, List.getElem?_eq_getElem second, Option.bind_some]
  rw [moved]
  refine represents.apart _ (List.getElem_mem first) _ (List.getElem_mem second) fun same => ?_
  exact distinct ((represents.ascending.nodup.getElem_inj_iff).mp same)

end

/-- With at most one record there is nothing to sweep. -/
theorem clusterIndices_characterized (contents : List ObservationContent) (threshold : Float) :
    let similar := similarAt contents threshold
    let chosen := clusterIndices contents threshold
    (∀ indices, Represents similar contents.length indices ↔ indices = chosen) ∧
    chosen = (sweep similar contents.length).chosen ∧
    chosen = (if contents.length ≤ 1 then List.range contents.length
      else (sweep similar contents.length).chosen) ∧
    clusterIndices (chosen.filterMap (contents[·]?)) threshold = List.range chosen.length := by
  intro similar chosen
  have represents : Represents similar contents.length chosen :=
    clusterIndices_represents contents threshold
  have swept : chosen = (sweep similar contents.length).chosen :=
    represents.unique (sweep_represents similarAt_comm contents.length)
  refine ⟨?_, swept, ?_, clusterIndices_chosen represents⟩
  · intro indices
    constructor
    · intro also
      exact also.unique represents
    · rintro rfl
      exact represents
  · split
    · rename_i few
      refine represents.unique (Represents.range fun i first j second distinct => ?_)
      omega
    · exact swept

end Recall.Similarity
