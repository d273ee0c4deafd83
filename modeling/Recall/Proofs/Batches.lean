import Mathlib.Data.List.Forall2
import Recall.Proofs.Reliability

namespace Recall

/-- A batch is embedded as its texts are, unless vectors are missing. -/
def Embedder.Consistent (embedder : Embedder) : Prop :=
  ∀ texts vectors, embedder.embedBatch texts = .ok vectors →
    vectors.length < texts.length ∨
      List.Forall₂ (fun text vector => embedder.embed text = .ok vector) texts vectors

theorem mapM_ok_iff {f : α → Except Failure β} {items : List α} {results : List β} :
    items.mapM f = .ok results ↔ List.Forall₂ (fun item result => f item = .ok result)
      items results := by
  induction items generalizing results with
  | nil =>
      rw [List.forall₂_nil_left_iff]
      exact ⟨fun same => (Except.ok.inj same).symm, fun same => same ▸ rfl⟩
  | cons first rest ih =>
      rw [List.mapM_cons, List.forall₂_cons_left_iff]
      constructor
      · intro ran
        cases head : f first with
        | error failure =>
            rw [head] at ran
            cases ran
        | ok result =>
            cases tail : rest.mapM f with
            | error failure =>
                rw [head, tail] at ran
                cases ran
            | ok others =>
                rw [head, tail] at ran
                cases ran
                exact ⟨result, others, rfl, ih.mp tail, rfl⟩
      · rintro ⟨result, others, head, tail, rfl⟩
        rw [head, ih.mpr tail]
        rfl

namespace Embedder

variable {embedder : Embedder}

theorem Consistent.length_le (consistent : embedder.Consistent) {texts : List String}
    {vectors : List Embedding} (made : embedder.embedBatch texts = .ok vectors) :
    vectors.length ≤ texts.length := by
  rcases consistent texts vectors made with short | own
  · exact Nat.le_of_lt short
  · exact Nat.le_of_eq own.length_eq.symm

/-- No batch makes up for what is missing in another one. -/
theorem Consistent.flatten (consistent : embedder.Consistent) {pieces : List (List String)}
    {embedded : List (List Embedding)}
    (made : List.Forall₂ (fun piece vectors => embedder.embedBatch piece = .ok vectors)
      pieces embedded) :
    embedded.flatten.length ≤ pieces.flatten.length ∧
    (embedded.flatten.length = pieces.flatten.length →
      List.Forall₂ (fun text vector => embedder.embed text = .ok vector)
        pieces.flatten embedded.flatten ∧ ∀ piece ∈ pieces, embedder.Completes piece) := by
  induction made with
  | nil => exact ⟨Nat.le_refl _, fun _ => ⟨.nil, fun piece member => nomatch member⟩⟩
  | @cons piece vectors pieces embedded made rest ih =>
      have fits := consistent.length_le made
      obtain ⟨fitting, complete⟩ := ih
      simp only [List.flatten_cons, List.length_append]
      refine ⟨Nat.add_le_add fits fitting, fun total => ?_⟩
      have counted : vectors.length = piece.length := by omega
      obtain ⟨others, completes⟩ := complete (by omega)
      refine ⟨?_, ?_⟩
      · rcases consistent piece vectors made with short | own
        · exact absurd counted (Nat.ne_of_lt short)
        · exact List.rel_append own others
      · intro other member
        rcases List.mem_cons.mp member with rfl | later
        · exact ⟨vectors, made, counted⟩
        · exact completes other later

end Embedder

namespace VectorIndex

theorem embedAll_ok {embedder : Embedder} (consistent : embedder.Consistent)
    {texts : List String} {vectors : List Embedding}
    (ran : embedAll embedder texts = .ok vectors) :
    List.Forall₂ (fun text vector => embedder.embed text = .ok vector) texts vectors ∧
      ∀ piece ∈ batches batchSize texts.length texts, embedder.Completes piece := by
  obtain ⟨counted, embedded, made, rfl⟩ := embedAll_ok_iff.mp ran
  have whole : (batches batchSize texts.length texts).flatten = texts :=
    batches_flatten (by decide) _ texts (Nat.le_refl _)
  have complete := (consistent.flatten (mapM_ok_iff.mp made)).2
  rw [whole] at complete
  exact complete counted

theorem embedAll_error_iff {embedder : Embedder} (consistent : embedder.Consistent)
    (texts : List String) : (∃ failure, embedAll embedder texts = .error failure) ↔
      ∃ piece ∈ batches batchSize texts.length texts, ¬ embedder.Completes piece := by
  constructor
  · rintro ⟨failure, refused⟩
    by_contra none
    have total : ∀ piece ∈ batches batchSize texts.length texts, embedder.Completes piece := by
      intro piece member
      by_contra fault
      exact none ⟨piece, member, fault⟩
    obtain ⟨vectors, made, -⟩ := embedAll_complete texts total
    rw [made] at refused
    cases refused
  · rintro ⟨piece, member, fault⟩
    cases ran : embedAll embedder texts with
    | error failure => exact ⟨failure, rfl⟩
    | ok vectors => exact absurd ((embedAll_ok consistent ran).2 piece member) fault

end VectorIndex

end Recall
