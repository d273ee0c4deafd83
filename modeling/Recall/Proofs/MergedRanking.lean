import Mathlib.Algebra.Order.Field.Rat
import Mathlib.Tactic.Linarith
import Mathlib.Tactic.Positivity
import Recall.Proofs.FusedScores
import Recall.Proofs.KeywordSearch
import Recall.Search.Semantic

/-!
Keyword matches of all requested kinds in one ranking. A search lists the lowest ratings first,
and a merger sorts by scores that grow as ratings fall. In exact fractions the one order is the
other reversed, so the sort, which keeps equal scores in place, leaves each kind as it was found.
-/

namespace Recall

open FullText (Token Indexed)
open Ranking (Score Scored normalize bestFirst)

/-- No entry that has a phrase is rated above zero. -/
def FullText.Rating.NeverPositive (rating : FullText.Rating ℚ) : Prop :=
  ∀ {α : Type} (phrases : List (List Token)) (entries : List (Indexed α)),
    ∀ entry ∈ entries, entry.hasAny phrases = true → rating.of phrases entries entry ≤ 0

namespace Search.Plan

def rankedKindBy [Score S] (rating : FullText.Rating S) (plan : Plan) (query : String)
    (limit : Nat) (kind : RecordKind) : List (Scored S) :=
  match kind with
  | .observation =>
    (plan.store.observations.searchBy rating plan.request.filter.admits query limit).map
      fun (o, score) => ⟨kind.docType, o.id, score⟩
  | .summary =>
    (plan.store.summaries.searchBy rating (Store.inProject plan.request.project ·.project) query
      limit).map fun (s, score) => ⟨kind.docType, s.id, score⟩
  | .prompt =>
    (plan.store.prompts.searchBy rating (Store.inProject plan.request.project ·.project) query
      limit).map fun (p, score) => ⟨kind.docType, p.id, score⟩

def mergedBy [Score S] (rating : FullText.Rating S) (plan : Plan) (query : String)
    (limit : Nat) : List (Scored S) :=
  (plan.request.type.kinds.flatMap (plan.rankedKindBy rating query limit)).mergeSort bestFirst

variable (plan : Plan) (query : String) (limit : Nat)

def rankedOf (kind : RecordKind) : List (Scored Float) :=
  (plan.rankedKind query limit kind).toOption.getD []

theorem rankedItems_eq_rankedKindBy :
    plan.rankedItems query limit = plan.rankedKindBy .relevance query limit := by
  funext kind
  cases kind with
  | observation | summary | prompt => rfl

variable {plan query limit}

theorem rankedOf_sublist (kind : RecordKind) :
    (plan.rankedOf query limit kind).Sublist (plan.rankedKindBy .relevance query limit kind) := by
  rw [rankedOf, rankedKind_eq, ← rankedItems_eq_rankedKindBy]
  cases plan.refusal? query limit kind with
  | some failure => exact List.nil_sublist _
  | none => exact List.Sublist.refl _

theorem fullTextRanking_eq_mergedBy
    (answered : ∀ kind ∈ plan.request.type.kinds,
      ∃ ranked, plan.rankedKind query limit kind = .ok ranked) :
    plan.fullTextRanking query limit = plan.mergedBy .relevance query limit := by
  refine congrArg (List.mergeSort · bestFirst) (List.flatMap_congr fun kind asked => ?_)
  obtain ⟨ranked, found⟩ := answered kind asked
  rw [← rankedItems_eq_rankedKindBy, found]
  rw [rankedKind_eq, refusing_ok_iff] at found
  exact found.2.symm

end Search.Plan

section

variable {a b : ℚ}

theorem Ranking.normalize_eq (a : ℚ) : normalize a = |a| / (1 + |a|) := by
  have size : Score.size a = |a| := by
    simp only [Score.size]
    split
    · rename_i below
      exact (abs_of_nonpos below).symm
    · rename_i above
      exact (abs_of_pos (not_le.mp above)).symm
  rw [normalize, size, Nat.cast_one]

theorem Ranking.normalize_within (a : ℚ) : 0 ≤ normalize a ∧ normalize a < 1 := by
  have size := abs_nonneg a
  rw [normalize_eq, div_lt_one (by linarith)]
  constructor
  · positivity
  · linarith

theorem Ranking.normalize_anti (ordered : a ≤ b) (nonpos : b ≤ 0) :
    normalize b ≤ normalize a := by
  rw [normalize_eq, normalize_eq, abs_of_nonpos nonpos, abs_of_nonpos (ordered.trans nonpos),
    div_le_div_iff₀ (by linarith) (by linarith)]
  linarith

end

section

variable {rating : FullText.Rating ℚ}

theorem FullText.rankedBy_ordered (phrases : List (List Token)) (entries : List (Indexed α)) :
    (rankedBy rating phrases entries).Pairwise fun a b => a.2 ≤ b.2 := by
  have ranks := ranks_key fun scored : Indexed α × ℚ => scored.2
  have sorted := List.pairwise_mergeSort ranks.trans ranks.total
    ((entries.filter (·.hasAny phrases)).map fun entry =>
      (entry, rating.of phrases entries entry))
  exact List.pairwise_map.mpr (sorted.imp fun below => of_decide_eq_true below)

theorem FullText.Rating.NeverPositive.rankedBy_nonpos (never : rating.NeverPositive)
    {phrases : List (List Token)} {entries : List (Indexed α)} {hit : α × ℚ}
    (found : hit ∈ rankedBy rating phrases entries) : hit.2 ≤ 0 := by
  obtain ⟨scored, listed, rfl⟩ := List.mem_map.mp found
  obtain ⟨entry, chosen, rfl⟩ := List.mem_map.mp (List.mem_mergeSort.mp listed)
  obtain ⟨present, matching⟩ := List.mem_filter.mp chosen
  exact never phrases entries entry present matching

variable [Row α] (table : Table α) (visible : α → Bool) (query : String) (limit : Nat)

theorem Table.searchBy_within : ∀ hit ∈ table.searchBy rating visible query limit,
    0 ≤ hit.2 ∧ hit.2 < 1 := by
  intro hit found
  simp only [searchBy] at found
  split at found
  · cases found
  · split at found
    · obtain ⟨row, -, rfl⟩ := List.mem_map.mp found
      simp
    · obtain ⟨rated, -, rfl⟩ := List.mem_map.mp found
      exact Ranking.normalize_within rated.2

theorem Table.searchBy_ordered (never : rating.NeverPositive) :
    (table.searchBy rating visible query limit).Pairwise fun a b => b.2 ≤ a.2 := by
  simp only [searchBy]
  split
  · exact List.Pairwise.nil
  · split
    · exact List.pairwise_map.mpr (List.pairwise_of_forall fun _ _ => le_refl _)
    · refine List.pairwise_map.mpr (List.Pairwise.imp_of_mem ?_
        ((FullText.rankedBy_ordered _ _).sublist (limited_filter_sublist limit _ _)))
      intro first second _ member below
      exact Ranking.normalize_anti below
        (never.rankedBy_nonpos ((limited_filter_sublist limit _ _).subset member))

end

namespace Search.Plan

section

variable [Score S] (rating : FullText.Rating S) (plan : Plan) (query : String) (limit : Nat)
  (kind : RecordKind)

theorem rankedKindBy_eq : ∃ (α : Type) (_ : Row α) (table : Table α) (visible : α → Bool),
    plan.store.ids kind = table.rows.map Row.id ∧
      plan.rankedKindBy rating query limit kind =
        (table.searchBy rating visible query limit).map fun hit =>
          ⟨kind.docType, Row.id hit.1, hit.2⟩ := by
  cases kind with
  | observation => exact ⟨_, _, _, _, plan.store.ids_observation, rfl⟩
  | summary => exact ⟨_, _, _, _, plan.store.ids_summary, rfl⟩
  | prompt => exact ⟨_, _, _, _, plan.store.ids_prompt, rfl⟩

variable {plan query limit kind}

theorem rankedKindBy_docType {item : Scored S}
    (found : item ∈ plan.rankedKindBy rating query limit kind) : item.docType = kind.docType := by
  obtain ⟨α, row, table, visible, -, own⟩ := plan.rankedKindBy_eq rating query limit kind
  rw [own] at found
  obtain ⟨hit, -, rfl⟩ := List.mem_map.mp found
  rfl

theorem rankedKindBy_ids_nodup (once : (plan.store.ids kind).Nodup) :
    ((plan.rankedKindBy rating query limit kind).map (·.id)).Nodup := by
  obtain ⟨α, row, table, visible, ids, own⟩ := plan.rankedKindBy_eq rating query limit kind
  have found := subperm_map (table.searchBy_subperm rating visible query limit) Row.id
  rw [← ids, List.map_map] at found
  obtain ⟨same, permuted, inside⟩ := found
  rw [own, List.map_map]
  exact permuted.nodup_iff.mp (once.sublist inside)

theorem rankedKindBy_within {rating : FullText.Rating ℚ} :
    ∀ item ∈ plan.rankedKindBy rating query limit kind, 0 ≤ item.score ∧ item.score < 1 := by
  obtain ⟨α, row, table, visible, -, own⟩ := plan.rankedKindBy_eq rating query limit kind
  rw [own]
  intro item found
  obtain ⟨hit, listed, rfl⟩ := List.mem_map.mp found
  exact table.searchBy_within visible query limit hit listed

theorem rankedKindBy_ordered {rating : FullText.Rating ℚ} (never : rating.NeverPositive) :
    (plan.rankedKindBy rating query limit kind).Pairwise fun a b => b.score ≤ a.score := by
  obtain ⟨α, row, table, visible, -, own⟩ := plan.rankedKindBy_eq rating query limit kind
  rw [own]
  exact List.pairwise_map.mpr (table.searchBy_ordered visible query limit never)

end

end Search.Plan

structure Merges [Score S] (own : RecordKind → List (Scored S)) (kinds : List RecordKind)
    (merged : List (Scored S)) : Prop where
  complete : merged.Perm (kinds.flatMap own)
  once : (merged.map Scored.key).Nodup
  ordered : merged.Pairwise fun a b => Score.atMost b.score a.score = true

/-- In exact fractions, the scores are in their range and each kind keeps its order. -/
structure MergesExactly (own : RecordKind → List (Scored ℚ)) (kinds : List RecordKind)
    (merged : List (Scored ℚ)) : Prop extends Merges own kinds merged where
  within : ∀ item ∈ merged, 0 ≤ item.score ∧ item.score < 1
  kept : ∀ kind ∈ kinds, merged.filter (·.docType = kind.docType) = own kind

section

variable {own : RecordKind → List (Scored S)} {kinds : List RecordKind} {kind : RecordKind}

theorem filter_docType_other (named : ∀ kind, ∀ item ∈ own kind, item.docType = kind.docType)
    {other : RecordKind} (apart : other ≠ kind) :
    (own other).filter (·.docType = kind.docType) = [] := by
  apply List.filter_eq_nil_iff.mpr
  intro item member same
  rw [named other item member, decide_eq_true_eq] at same
  exact apart (RecordKind.docType_injective same)

theorem filter_docType_own (named : ∀ kind, ∀ item ∈ own kind, item.docType = kind.docType) :
    (own kind).filter (·.docType = kind.docType) = own kind := by
  apply List.filter_eq_self.mpr
  intro item member
  exact decide_eq_true (named kind item member)

theorem filter_docType_flatMap
    (named : ∀ kind, ∀ item ∈ own kind, item.docType = kind.docType) (distinct : kinds.Nodup)
    (asked : kind ∈ kinds) :
    (kinds.flatMap own).filter (·.docType = kind.docType) = own kind := by
  have absent {others : List RecordKind} (fresh : kind ∉ others) :
      (others.flatMap own).filter (·.docType = kind.docType) = [] := by
    rw [List.filter_flatMap, List.flatMap_eq_nil_iff]
    intro other listed
    exact filter_docType_other named (ne_of_mem_of_not_mem listed fresh)
  induction kinds with
  | nil => cases asked
  | cons first rest ih =>
      obtain ⟨fresh, others⟩ := List.nodup_cons.mp distinct
      rw [List.flatMap_cons, List.filter_append]
      rcases List.mem_cons.mp asked with rfl | later
      · rw [filter_docType_own named, absent fresh, List.append_nil]
      · rw [filter_docType_other named (ne_of_mem_of_not_mem later fresh).symm, ih others later,
          List.nil_append]

theorem keys_flatMap_nodup (named : ∀ kind, ∀ item ∈ own kind, item.docType = kind.docType)
    (distinct : kinds.Nodup) (once : ∀ kind, ((own kind).map (·.id)).Nodup) :
    ((kinds.flatMap own).map Scored.key).Nodup := by
  rw [List.map_flatMap, List.nodup_flatMap]
  constructor
  · intro kind _
    apply List.Nodup.of_map Prod.snd
    rw [List.map_map]
    exact once kind
  · refine distinct.imp fun {first second} apart => ?_
    rw [Function.onFun, List.disjoint_left]
    intro key one two
    obtain ⟨item, member, rfl⟩ := List.mem_map.mp one
    obtain ⟨other, present, same⟩ := List.mem_map.mp two
    apply apart
    apply RecordKind.docType_injective
    calc
      first.docType = item.docType := (named first item member).symm
      _ = other.docType := (congrArg Prod.fst same).symm
      _ = second.docType := named second other present

theorem merges_mergeSort [Score S] (ranks : Ranks (bestFirst (S := S)))
    (named : ∀ kind, ∀ item ∈ own kind, item.docType = kind.docType) (distinct : kinds.Nodup)
    (once : ∀ kind, ((own kind).map (·.id)).Nodup) :
    Merges own kinds ((kinds.flatMap own).mergeSort bestFirst) where
  complete := List.mergeSort_perm _ _
  once := ((List.mergeSort_perm _ _).map Scored.key).nodup_iff.mpr
    (keys_flatMap_nodup named distinct once)
  ordered := List.pairwise_mergeSort ranks.trans ranks.total _

end

theorem bestFirst_ranks_double : Ranks (bestFirst (S := Float)) :=
  (ranks_key fun item : Scored Float => Number.totalKey item.score).flip

theorem SearchType.kinds_nodup (type : SearchType) : type.kinds.Nodup := by
  cases type with
  | all | observations | sessions | prompts => decide

/-- All hits of all requested kinds are merged, each of them once, the highest score first. In
exact fractions, with ratings that are never positive, each kind keeps the order in which it was
found. -/
theorem Search.Plan.fullTextRanking_merges (plan : Plan) (query : String) (limit : Nat)
    (once : ∀ kind, (plan.store.ids kind).Nodup) :
    (Merges (plan.rankedOf query limit) plan.request.type.kinds
        (plan.fullTextRanking query limit) ∧
      ((∀ kind ∈ plan.request.type.kinds,
          ∃ ranked, plan.rankedKind query limit kind = .ok ranked) →
        plan.fullTextRanking query limit = plan.mergedBy .relevance query limit)) ∧
    ∀ rating : FullText.Rating ℚ, rating.NeverPositive →
      MergesExactly (plan.rankedKindBy rating query limit) plan.request.type.kinds
        (plan.mergedBy rating query limit) := by
  have distinct := SearchType.kinds_nodup plan.request.type
  refine ⟨⟨?_, fullTextRanking_eq_mergedBy⟩, fun rating never => ?_⟩
  · have own (kind : RecordKind) : ((plan.rankedOf query limit kind).map (·.id)).Nodup :=
      (rankedKindBy_ids_nodup _ (once kind)).sublist ((rankedOf_sublist kind).map _)
    refine merges_mergeSort bestFirst_ranks_double (fun kind item found => ?_) distinct own
    exact rankedKindBy_docType _ ((rankedOf_sublist kind).subset found)
  · have named : ∀ kind, ∀ item ∈ plan.rankedKindBy rating query limit kind,
        item.docType = kind.docType := fun _ _ => rankedKindBy_docType rating
    have merges := merges_mergeSort Ranking.bestFirst_ranks named distinct
      fun kind => rankedKindBy_ids_nodup rating (once kind)
    refine ⟨merges, ?_, ?_⟩
    · intro item member
      obtain ⟨kind, -, found⟩ := List.mem_flatMap.mp (merges.complete.mem_iff.mp member)
      exact rankedKindBy_within item found
    · intro kind asked
      have whole := filter_docType_flatMap named distinct asked
      rw [mergedBy, Ranking.bestFirst_ranks.filter_mergeSort, whole]
      rw [whole]
      exact (rankedKindBy_ordered never).imp fun below => decide_eq_true below

namespace FullText

def exactWeight (log : ℚ → ℚ) (rows having : Nat) : ℚ :=
  let odds := ((rows : ℚ) - having + 1 / 2) / (having + 1 / 2)
  if log odds ≤ 0 then 1 / 1000000 else log odds

def exactPhraseScore (weight averageSize : ℚ) (size count : Nat) : ℚ :=
  let relativeSize := 1 - 3 / 4 + 3 / 4 * size / averageSize
  weight * (count * (6 / 5 + 1) / (count + 6 / 5 * relativeSize))

def exactAverageSize (entries : List (Indexed α)) : ℚ :=
  total (entries.map (·.size)) / entries.length

def exactRelevance (log : ℚ → ℚ) : Rating ℚ where
  of phrases entries entry :=
    -(phrases.map fun phrase =>
      exactPhraseScore (exactWeight log entries.length
        (entries.countP fun other => 0 < other.phraseCount phrase)) (exactAverageSize entries)
        entry.size (entry.phraseCount phrase)).sum

theorem exactWeight_nonneg (log : ℚ → ℚ) (rows having : Nat) :
    0 ≤ exactWeight log rows having := by
  simp only [exactWeight]
  split
  · norm_num
  · rename_i above
    exact (not_le.mp above).le

theorem exactRelevance_neverPositive (log : ℚ → ℚ) : (exactRelevance log).NeverPositive := by
  intro α phrases entries entry _ _
  apply neg_nonpos_of_nonneg
  apply List.sum_nonneg
  intro score listed
  obtain ⟨phrase, -, rfl⟩ := List.mem_map.mp listed
  have averageSize : 0 ≤ exactAverageSize entries := by
    rw [exactAverageSize]
    positivity
  have room : (0 : ℚ) ≤ 1 - 3 / 4 := by norm_num
  apply mul_nonneg (exactWeight_nonneg _ _ _)
  positivity

end FullText

theorem Table.searchBy_ne_nil [Row α] [Score S] (rating : FullText.Rating S) {table : Table α}
    {visible : α → Bool} {query : String} {limit : Nat} (room : 0 < limit)
    (worded : FullText.keywords query ≠ [])
    (mentioned : ∃ row ∈ table.rows,
      FullText.mentions (FullText.keywords query) (Row.texts row) = true ∧ visible row = true) :
    table.searchBy rating visible query limit ≠ [] := by
  obtain ⟨row, present, named, seen⟩ := mentioned
  simp only [searchBy, List.isEmpty_iff, if_neg worded]
  split
  · rw [Ne, List.map_eq_nil_iff, limited_eq_nil_iff room, List.filter_eq_nil_iff]
    intro unseen
    exact unseen row (List.mem_mergeSort.mpr (List.mem_filter.mpr ⟨present, named⟩)) seen
  · rename_i filled
    rwa [Ne, List.map_eq_nil_iff]

/-- In each table that is searched by tokens, all rows have the word that is asked for. So its
weight is the small one, with any logarithm that is negative below one. -/
def released : List Operation :=
  let occasion (now : Int) : Occasion := { sessionKey := "session", project := "project", now }
  let titled (title : String) (scope : Scope) : Submission :=
    .observation { content := { type := .discovery, title := some title }, scope } none
  [.store (titled "The long way of a deploy" .everywhere) (occasion 1),
    .store (titled "Deploy, then deploy again" .project) (occasion 2),
    .store (.summary { learned := some "how to redeploy" } none) (occasion 3),
    .store (.prompt 1 "Deploy now") (occasion 4)]

def releasePlan : Search.Plan := ⟨(Engine.after {} released).store, {}, 10⟩

theorem releasePlan_finds [Score S] (rating : FullText.Rating S) (kind : RecordKind) :
    releasePlan.rankedKindBy rating "deploy" 10 kind ≠ [] := by
  have room : 0 < 10 := by decide
  have worded : FullText.keywords "deploy" ≠ [] := by decide +kernel
  cases kind with
  | observation | summary | prompt =>
      rw [Search.Plan.rankedKindBy, Ne, List.map_eq_nil_iff]
      exact Table.searchBy_ne_nil rating room worded (by decide +kernel)

theorem releasePlan_merges :
    let rating := FullText.exactRelevance (· - 1)
    let merged := releasePlan.mergedBy rating "deploy" 10
    ((∀ kind, (releasePlan.store.ids kind).Nodup) ∧ rating.NeverPositive) ∧
    (Merges (releasePlan.rankedOf "deploy" 10) [.observation, .summary, .prompt]
        (releasePlan.fullTextRanking "deploy" 10) ∧
      releasePlan.fullTextRanking "deploy" 10 = releasePlan.mergedBy .relevance "deploy" 10) ∧
    MergesExactly (releasePlan.rankedKindBy rating "deploy" 10)
      [.observation, .summary, .prompt] merged ∧
    ∀ kind : RecordKind, merged.filter (·.docType = kind.docType) ≠ [] := by
  intro rating merged
  have once : ∀ kind, (releasePlan.store.ids kind).Nodup := by
    intro kind
    cases kind with
    | observation | summary | prompt => decide +kernel
  have never : rating.NeverPositive := FullText.exactRelevance_neverPositive _
  obtain ⟨⟨doubles, whole⟩, exact⟩ := releasePlan.fullTextRanking_merges "deploy" 10 once
  have merges := exact rating never
  have answered : ∀ kind ∈ releasePlan.request.type.kinds,
      ∃ ranked, releasePlan.rankedKind "deploy" 10 kind = .ok ranked := by
    intro kind _
    have takes : releasePlan.Takes "deploy" 10 kind :=
      Search.Plan.takes_of_short (by decide +kernel) (by decide +kernel)
    rw [releasePlan.rankedKind_eq, takes.refusal?]
    exact ⟨_, rfl⟩
  refine ⟨⟨once, never⟩, ⟨doubles, whole answered⟩, merges, fun kind => ?_⟩
  have asked : kind ∈ releasePlan.request.type.kinds := by
    cases kind with
    | observation | summary | prompt => decide
  rw [merges.kept kind asked]
  exact releasePlan_finds rating kind

end Recall
