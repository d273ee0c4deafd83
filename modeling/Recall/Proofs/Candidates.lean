import Recall.Proofs.Crowding

/-!
How many candidates a search looks at. The limit of a request is at least one and at most the
largest. Multiplied by the candidates for each result it has to fit into 64 bits, and a search
that multiplies further crashes. Otherwise the index and the keyword search are asked for no
less than the limit, and find whatever they would find under the limit itself.
-/

namespace Recall

theorem limited_grows {less more : Nat} (le : less ≤ more) (rows : List α) :
    limited less rows <+: limited more rows := by
  simp only [limited]
  split
  · split
    · exact List.take_prefix_take_left le
    · exact List.take_prefix less rows
  · rename_i unbounded
    have also : ¬ more < Number.signedBound := fun bounded =>
      unbounded (Nat.lt_of_le_of_lt le bounded)
    exact ⟨[], (List.append_nil rows).trans (if_neg also).symm⟩

/-- A larger limit adds rows at the end. Whether the rows match by relevance or by letters alone
does not depend on it. -/
theorem Table.answers_grows [Row α] (table : Table α) (visible : α → Bool) (query : String)
    {less more : Nat} (wanted : 0 < less) (le : less ≤ more) :
    table.answers visible query less <+: table.answers visible query more := by
  have also : 0 < more := Nat.lt_of_lt_of_le wanted le
  simp only [answers, best, List.isEmpty_iff, limited_eq_nil_iff wanted, limited_eq_nil_iff also]
  split
  · exact List.prefix_rfl
  · split
    · exact (limited_grows le _).map _
    · exact (limited_grows le _).map _

theorem VectorIndex.query_grows {index : VectorIndex} {text : String} {filter : VectorFilter}
    {less more : Nat} {near : List VectorMatch} (wanted : 0 < less) (le : less ≤ more)
    (answered : index.query text less filter = .ok near) :
    ∃ found, index.query text more filter = .ok found ∧ near <+: found := by
  have also : 0 < more := Nat.lt_of_lt_of_le wanted le
  cases blank : Text.isBlank text with
  | true =>
      have online := (whenOnline_ok answered).1
      have nothing (limit : Nat) : index.query text limit filter = .ok [] := by
        simp only [query, whenOnline, online, if_true, blank, Bool.true_or]
      rw [nothing less] at answered
      cases answered
      exact ⟨[], nothing more, List.prefix_rfl⟩
  | false =>
      obtain ⟨online, vector, embedded⟩ := query_ok blank wanted answered
      rw [query_embedded online blank embedded wanted] at answered
      cases answered
      exact ⟨_, query_embedded online blank embedded also filter, (limited_grows le _).map _⟩

namespace Search

theorem clampLimit_within (settings : SearchSettings) (asked : Option Nat) :
    1 ≤ clampLimit settings asked ∧
      clampLimit settings asked ≤ max settings.largestLimit 1 := by
  simp only [clampLimit]
  omega

theorem clampLimit_largest (settings : SearchSettings) :
    clampLimit settings (some settings.largestLimit) = max settings.largestLimit 1 := by
  simp only [clampLimit, Option.getD_some]
  omega

theorem candidateCount_eq_iff (settings : SearchSettings) (limit : Nat) :
    candidateCount settings limit = .ok (limit * max settings.candidateFactor 1) ↔
      limit * max settings.candidateFactor 1 < Number.wordBound := by
  rw [candidateCount_ok_iff]
  exact and_iff_left rfl

theorem candidateCount_eq_forall_iff (settings : SearchSettings) :
    (∀ asked, let limit := clampLimit settings asked
      candidateCount settings limit = .ok (limit * max settings.candidateFactor 1)) ↔
      max settings.largestLimit 1 * max settings.candidateFactor 1 < Number.wordBound := by
  simp only [candidateCount_eq_iff]
  constructor
  · intro all
    rw [← clampLimit_largest]
    exact all _
  · intro fits asked
    calc
      clampLimit settings asked * max settings.candidateFactor 1 ≤
          max settings.largestLimit 1 * max settings.candidateFactor 1 :=
        Nat.mul_le_mul_right _ (clampLimit_within settings asked).2
      _ < Number.wordBound := fits

theorem le_candidateCount {settings : SearchSettings} {limit candidates : Nat}
    (counted : candidateCount settings limit = .ok candidates) : limit ≤ candidates := by
  rw [(candidateCount_ok_iff.mp counted).2]
  exact Nat.le_mul_of_pos_right limit (by omega)

theorem Plan.rankedItems_grows (plan : Plan) (query : String) (kind : RecordKind)
    {less more : Nat} (wanted : 0 < less) (le : less ≤ more) :
    plan.rankedItems query less kind <+: plan.rankedItems query more kind := by
  cases kind with
  | observation | summary | prompt => exact (Table.answers_grows _ _ query wanted le).map _

end Search

/-- A search counts its candidates right exactly when their number fits into 64 bits, and then it
asks for enough of them. Otherwise it crashes, if there is an index to ask. -/
theorem candidates_counted_iff (engine : Engine) (request : SearchRequest) :
    let plan := engine.plan request
    let factor := max engine.searching.candidateFactor 1
    (1 ≤ plan.limit ∧ plan.limit ≤ max engine.searching.largestLimit 1) ∧
    (Search.candidateCount engine.searching plan.limit = .ok (plan.limit * factor) ↔
      plan.limit * factor < Number.wordBound) ∧
    ((∀ asked, let limit := Search.clampLimit engine.searching asked
      Search.candidateCount engine.searching limit = .ok (limit * factor)) ↔
      max engine.searching.largestLimit 1 * factor < Number.wordBound) ∧
    (∀ now, (engine.search request now).result = .error .candidatesOverflow ↔
      engine.Overcounts request) ∧
    ∀ candidates, Search.candidateCount engine.searching plan.limit = .ok candidates →
      plan.limit ≤ candidates ∧
      (∀ index, engine.index = some index → ∀ query near,
        index.query query plan.limit plan.vectorFilter = .ok near →
        ∃ found, index.query query candidates plan.vectorFilter = .ok found ∧ near <+: found) ∧
      ∀ query kind ranked, plan.rankedKind query candidates kind = .ok ranked →
        plan.rankedItems query plan.limit kind <+: ranked := by
  intro plan factor
  have within := Search.clampLimit_within engine.searching request.limit
  have wanted : 0 < plan.limit := within.1
  refine ⟨within, Search.candidateCount_eq_iff _ _, Search.candidateCount_eq_forall_iff _,
    fun now => Engine.search_overflow_iff, ?_⟩
  intro candidates counted
  have enough : plan.limit ≤ candidates := Search.le_candidateCount counted
  refine ⟨enough, ?_, ?_⟩
  · intro index _ query near answered
    exact VectorIndex.query_grows wanted enough answered
  · intro query kind ranked ran
    rw [plan.rankedKind_eq, refusing_ok_iff] at ran
    rw [← ran.2]
    exact plan.rankedItems_grows query kind wanted enough

def plentiful : Engine :=
  { outdated with searching := { largestLimit := Number.wordBound - 1, candidateFactor := 0 } }

/-- The number of candidates is past the signed numbers, and so there is no bound on them. -/
theorem plentiful_counted :
    let plan := plentiful.plan { query := some "deploy", limit := some (Number.wordBound - 1) }
    ∃ candidates, Search.candidateCount plentiful.searching plan.limit = .ok candidates ∧
      plan.limit ≤ candidates ∧ Number.signedBound ≤ candidates := by
  intro plan
  have fits : plan.limit * max plentiful.searching.candidateFactor 1 < Number.wordBound := by
    decide +kernel
  obtain ⟨-, right, -, -, enough⟩ := candidates_counted_iff plentiful
    { query := some "deploy", limit := some (Number.wordBound - 1) }
  have counted := right.mpr fits
  have many : Number.signedBound ≤ plan.limit := by decide +kernel
  exact ⟨_, counted, (enough _ counted).1, Nat.le_trans many (enough _ counted).1⟩

def extravagant : Engine := { outdated with searching := { candidateFactor := 2 ^ 62 } }

theorem extravagant_miscounted :
    let request : SearchRequest := { query := some "deploy" }
    let plan := extravagant.plan request
    Search.candidateCount extravagant.searching plan.limit ≠
      .ok (plan.limit * max extravagant.searching.candidateFactor 1) ∧
    (∃ o ∈ extravagant.store.observations.rows,
      request.filter.admits o = true ∧ Document.ofObservation o ≠ []) ∧
    (extravagant.search request 9).result = .error .candidatesOverflow := by
  intro request plan
  have asked : request.queryText = some "deploy" := by decide +kernel
  have excess : Number.wordBound ≤
      plan.limit * max extravagant.searching.candidateFactor 1 := by decide +kernel
  refine ⟨?_, by decide +kernel, ?_⟩
  · rw [Ne, Search.candidateCount_eq_iff, Nat.not_lt]
    exact excess
  · exact Engine.search_overflow_iff.mpr
      ⟨by rw [asked]; rfl, ⟨.online, rfl, by decide⟩, excess⟩

end Recall
