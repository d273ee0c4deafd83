import Mathlib.Algebra.Field.Rat
import Mathlib.Algebra.Order.Field.Basic
import Mathlib.Algebra.Order.Ring.Rat
import Mathlib.Data.Finset.Card
import Recall.Proofs.Columns
import Recall.Proofs.Documents
import Recall.Proofs.SharedTerms

namespace Recall

namespace Similarity

section

variable {a b : List String}

theorem countP_contains (left : a.Nodup) (b : List String) :
    a.countP (b.contains ·) = (a.toFinset ∩ b.toFinset).card := by
  have common : (a.filter (b.contains ·)).toFinset = a.toFinset ∩ b.toFinset := by
    ext term
    simp
  rw [List.countP_eq_length_filter, ← List.toFinset_card_of_nodup (left.filter _), common]

theorem overlap_counts (left : a.Nodup) (right : b.Nodup) (inhabited : a.toFinset ∪ b.toFinset ≠ ∅) :
    let o := overlap a b
    o.shared = (a.toFinset ∩ b.toFinset).card ∧ o.shared ≤ a.length + b.length ∧
    o.union = a.length + b.length - o.shared ∧ o.union = (a.toFinset ∪ b.toFinset).card ∧
    0 < o.union := by
  let both := (a.toFinset ∩ b.toFinset).card
  have filled : ¬ (a.isEmpty && b.isEmpty) = true := by
    intro bare
    apply inhabited
    simpa using bare
  have counted : overlap a b = ⟨both, a.length + b.length - both⟩ := by
    rw [overlap, if_neg filled, countP_contains left]
  have account : (a.toFinset ∪ b.toFinset).card + both = a.length + b.length := by
    rw [← List.toFinset_card_of_nodup left, ← List.toFinset_card_of_nodup right]
    exact Finset.card_union_add_card_inter a.toFinset b.toFinset
  have positive : 0 < (a.toFinset ∪ b.toFinset).card :=
    Finset.card_pos.mpr (Finset.nonempty_iff_ne_empty.mpr inhabited)
  simp only [counted]
  exact ⟨rfl, by omega, trivial, by omega, by omega⟩

theorem overlap_none (bare : a.toFinset ∪ b.toFinset = ∅) : overlap a b = ⟨1, 1⟩ := by
  rw [Finset.union_eq_empty, List.toFinset_eq_empty_iff, List.toFinset_eq_empty_iff] at bare
  obtain ⟨rfl, rfl⟩ := bare
  rfl

theorem card_inter_eq_card_union_iff {A B : Finset String} :
    (A ∩ B).card = (A ∪ B).card ↔ A = B := by
  constructor
  · intro same
    have within : A ∩ B ⊆ A ∪ B := Finset.inter_subset_left.trans Finset.subset_union_left
    have whole : A ∩ B = A ∪ B := Finset.eq_of_subset_of_card_le within same.ge
    exact inf_eq_sup.mp whole
  · rintro rfl
    rw [Finset.inter_self, Finset.union_self]

/-- As a number an overlap is a share of the whole, and the two extremes mean what they say. -/
theorem overlap_toRat (left : a.Nodup) (right : b.Nodup) :
    let A := a.toFinset
    let B := b.toFinset
    let ratio := (overlap a b).toRat
    0 ≤ ratio ∧ ratio ≤ 1 ∧ (ratio = 1 ↔ A = B) ∧ (ratio = 0 ↔ Disjoint A B ∧ A ∪ B ≠ ∅) := by
  intro A B ratio
  by_cases bare : a.toFinset ∪ b.toFinset = ∅
  · have one : ratio = 1 := by
      simp only [ratio, overlap_none bare, Overlap.toRat]
      norm_num
    obtain ⟨first, second⟩ := Finset.union_eq_empty.mp bare
    simp [one, A, B, first, second]
  · obtain ⟨shared, -, -, union, positive⟩ := overlap_counts left right bare
    have part : (overlap a b).shared ≤ (overlap a b).union := by
      rw [shared, union]
      exact Finset.card_le_card (Finset.inter_subset_left.trans Finset.subset_union_left)
    have whole : (0 : ℚ) < ((overlap a b).union : ℚ) := Nat.cast_pos.mpr positive
    refine ⟨?_, ?_, ?_, ?_⟩
    · exact div_nonneg (Nat.cast_nonneg _) whole.le
    · exact (div_le_one whole).mpr (Nat.cast_le.mpr part)
    · rw [← card_inter_eq_card_union_iff, ← shared, ← union]
      exact (div_eq_one_iff_eq whole.ne').trans Nat.cast_inj
    · have nothing : ratio = 0 ↔ (overlap a b).shared = 0 := by
        rw [← Nat.cast_eq_zero (R := ℚ)]
        exact div_eq_zero_iff.trans (or_iff_left whole.ne')
      rw [nothing, shared, Finset.card_eq_zero, ← Finset.disjoint_iff_inter_eq_empty]
      exact (and_iff_left bare).symm

theorem asSet_ordered (texts : List String) : (asSet texts).Pairwise (· ≤ ·) := by
  have trans (a b c : String) : decide (a ≤ b) = true → decide (b ≤ c) = true →
      decide (a ≤ c) = true := by
    simpa using String.le_trans
  have total (a b : String) : (decide (a ≤ b) || decide (b ≤ a)) = true := by
    simpa using String.le_total a b
  simpa [asSet] using List.pairwise_mergeSort trans total texts.eraseDups

theorem asSet_eq_iff {one other : List String} :
    asSet one = asSet other ↔ ∀ text, text ∈ one ↔ text ∈ other := by
  constructor
  · intro same text
    rw [← mem_asSet, same, mem_asSet]
  · intro members
    have same : (asSet one).Perm (asSet other) := by
      rw [List.perm_ext_iff_of_nodup (asSet_nodup one) (asSet_nodup other)]
      intro text
      rw [mem_asSet, mem_asSet, members]
    exact same.eq_of_pairwise (fun _ _ _ _ => String.le_antisymm) (asSet_ordered one)
      (asSet_ordered other)

theorem terms_eq_iff {one other : ObservationContent} :
    terms one = terms other ↔ ∀ term, one.HasTerm term ↔ other.HasTerm term := by
  rw [terms, terms, asSet_eq_iff]
  simp only [← mem_terms_iff, terms, mem_asSet]

end

end Similarity

namespace ObservationContent

/-- Facts and files may be named in any order and more than once. -/
structure Alike (one other : ObservationContent) : Prop where
  title : one.title = other.title
  narrative : one.narrative = other.narrative
  facts : ∀ fact, fact ∈ one.facts ↔ fact ∈ other.facts
  files : ∀ path, (path ∈ one.filesRead ∨ path ∈ one.filesModified) ↔
    (path ∈ other.filesRead ∨ path ∈ other.filesModified)

theorem Alike.terms_eq {one other : ObservationContent} (alike : one.Alike other) :
    Similarity.terms one = Similarity.terms other := by
  rw [Similarity.terms_eq_iff]
  intro term
  simp only [HasTerm, Mentions, Touches, alike.title, alike.narrative, alike.facts, alike.files]

end ObservationContent

theorem Store.find?_stored {draft : ObservationDraft} {number : Option Int}
    {occasion : Occasion} {store after : Store} {stored : Stored} (sound : store.Sound)
    (ran : (storeObservation draft number occasion).run store = .ok (stored, after)) :
    ∃ o, after.observations.find? stored.id = some o ∧ o.content = draft.content := by
  let row := observationOf draft number occasion stored.id
  obtain ⟨id, written⟩ := storeObservation_ok ran
  have live : row ∈ after.observations.rows := by
    rw [written, Table.insert, ← id]
    exact List.mem_append_right _ (List.mem_singleton_self row)
  have writes : (Submission.observation draft number).Writes occasion store after stored :=
    Submission.transaction_writes ran
  exact ⟨row, (writes.stores.sound sound).find?_observation live, rfl⟩

theorem overlap_measures_terms :
    (∀ a b : List String, a.Nodup → b.Nodup →
      let A := a.toFinset
      let B := b.toFinset
      let o := Similarity.overlap a b
      (A ∪ B ≠ ∅ → o.shared = (A ∩ B).card ∧ o.shared ≤ a.length + b.length ∧
        o.union = a.length + b.length - o.shared ∧ o.union = (A ∪ B).card ∧ 0 < o.union) ∧
      0 ≤ o.toRat ∧ o.toRat ≤ 1 ∧ (Similarity.overlap b a).toRat = o.toRat ∧
      (o.toRat = 1 ↔ A = B) ∧ (o.toRat = 0 ↔ Disjoint A B ∧ A ∪ B ≠ ∅)) ∧
    (∀ (store after : Store) draft number occasion stored, store.Sound →
      (Store.storeObservation draft number occasion).run store = .ok (stored, after) →
      ∃ o, after.observations.find? stored.id = some o ∧
        ∀ content : ObservationContent, content.Alike draft.content →
          Similarity.terms o.content = Similarity.terms content ∧
          Similarity.terms o.content.reread = Similarity.terms content) := by
  refine ⟨?_, ?_⟩
  · intro a b left right A B o
    obtain ⟨least, most, one, zero⟩ := Similarity.overlap_toRat left right
    have swapped : (Similarity.overlap b a).toRat = o.toRat := by
      rw [Similarity.overlap_comm right left]
    exact ⟨Similarity.overlap_counts left right, least, most, swapped, one, zero⟩
  · intro store after draft number occasion stored sound ran
    obtain ⟨o, found, kept⟩ := Store.find?_stored sound ran
    refine ⟨o, found, ?_⟩
    intro content alike
    rw [ObservationContent.reread_eq, kept, alike.terms_eq]
    exact ⟨rfl, rfl⟩

def deployment : ObservationDraft :=
  { content := { type := .decision, facts := ["deploy on friday", "deploy from main"] } }

def redeployment : ObservationContent :=
  { type := .decision, facts := ["deploy from main", "deploy on friday", "deploy from main"] }

theorem deployment_measured :
    let occasion : Occasion := { sessionKey := "session", project := "project", now := 1 }
    let a := ["deploy", "friday"]
    let b := ["deploy", "main"]
    let o := Similarity.overlap a b
    (a.Nodup ∧ b.Nodup ∧ a.toFinset ∪ b.toFinset ≠ ∅ ∧ ({} : Store).Sound ∧
      redeployment.Alike deployment.content) ∧
    o.shared = 1 ∧ o.union = 3 ∧ o.toRat ≠ 0 ∧ o.toRat ≠ 1 ∧
    ∃ stored after row, (Store.storeObservation deployment none occasion).run {} =
        .ok (stored, after) ∧ after.observations.find? stored.id = some row ∧
      Similarity.terms row.content = Similarity.terms redeployment := by
  intro occasion a b o
  obtain ⟨measured, kept⟩ := overlap_measures_terms
  have inhabited : a.toFinset ∪ b.toFinset ≠ ∅ := by decide
  obtain ⟨counts, -, -, -, one, zero⟩ := measured a b (by decide) (by decide)
  obtain ⟨shared, -, -, union, -⟩ := counts inhabited
  have alike : redeployment.Alike deployment.content := by
    refine ⟨rfl, rfl, ?_, fun _ => Iff.rfl⟩
    intro fact
    simp [redeployment, deployment, or_comm]
  have ran : (Store.storeObservation deployment none occasion).run {} = .ok (_, _) := rfl
  obtain ⟨row, found, same⟩ := kept _ _ _ _ _ _ Store.sound_empty ran
  refine ⟨⟨by decide, by decide, inhabited, Store.sound_empty, alike⟩, ?_, ?_, ?_, ?_, _, _, row, ran,
    found, (same _ alike).1⟩
  · exact shared.trans (by decide)
  · exact union.trans (by decide)
  · rw [Ne, zero]
    decide
  · rw [Ne, one]
    decide

end Recall
