import Recall.Proofs.Clusters
import Recall.Proofs.Reliability
import Recall.Proofs.Visibility

namespace Recall

open Ranking (Scored)

theorem Ranking.fuse_nodup [Score S] (lists : List (List (Scored S))) :
    ((fuse lists).map (·.key)).Nodup := by
  have keys {score : String × Int → S} {keys : List (String × Int)} :
      (keys.map fun key => (⟨key.1, key.2, score key⟩ : Scored S)).map (·.key) = keys := by
    rw [List.map_map]
    exact List.map_id keys
  rw [fuse, ((List.mergeSort_perm _ _).map _).nodup_iff, keys]
  exact nodup_eraseDups _

namespace Search.Plan

/-- A record that the ranking names, which is in the store and passes the last look. -/
inductive Names (plan : Plan) : Scored Float → Hit → Prop
  | observation (o : Observation) (score : Float)
      (found : plan.store.observations.find? o.id = some o)
      (superseded : plan.request.excludeSuperseded = true → o.superseded = false)
      (everywhere : o.scope = .everywhere → plan.request.includeEverywhere = true) :
      Names plan ⟨RecordKind.observation.docType, o.id, score⟩ (.observation o)
  | summary (s : Summary) (score : Float) (found : plan.store.summaries.find? s.id = some s) :
      Names plan ⟨RecordKind.summary.docType, s.id, score⟩ (.summary s)
  | prompt (p : Prompt) (score : Float) (found : plan.store.prompts.find? p.id = some p) :
      Names plan ⟨RecordKind.prompt.docType, p.id, score⟩ (.prompt p)

theorem observationVisible_iff {plan : Plan} {o : Observation} :
    plan.observationVisible o = true ↔
      (plan.request.excludeSuperseded = true → o.superseded = false) ∧
        (o.scope = .everywhere → plan.request.includeEverywhere = true) := by
  simp only [observationVisible]
  cases plan.request.excludeSuperseded <;> cases o.superseded <;>
    cases plan.request.includeEverywhere <;> cases o.scope <;> simp

theorem ofDocType?_eq_some {name : String} {kind : RecordKind} :
    RecordKind.ofDocType? name = some kind ↔ name = kind.docType := by
  constructor
  · intro read
    simp only [RecordKind.ofDocType?] at read
    split at read <;> cases read <;> rfl
  · rintro rfl
    cases kind <;> rfl

theorem hit?_iff {plan : Plan} {scored : Scored Float} {hit : Hit} :
    plan.hit? scored = some hit ↔ plan.Names scored hit := by
  obtain ⟨docType, id, score⟩ := scored
  constructor
  · intro found
    simp only [hit?, Option.bind_eq_bind, Option.bind_eq_some_iff, ofDocType?_eq_some] at found
    obtain ⟨kind, rfl, found⟩ := found
    cases kind with
    | observation =>
        obtain ⟨o, present, looked⟩ := Option.bind_eq_some_iff.mp found
        obtain ⟨-, rfl⟩ := Table.find?_present present
        split at looked
        · rename_i visible
          cases looked
          obtain ⟨superseded, everywhere⟩ := observationVisible_iff.mp visible
          exact .observation o score present superseded everywhere
        · cases looked
    | summary =>
        obtain ⟨s, present, same⟩ := Option.bind_eq_some_iff.mp found
        obtain ⟨-, rfl⟩ := Table.find?_present present
        cases same
        exact .summary s score present
    | prompt =>
        obtain ⟨p, present, same⟩ := Option.bind_eq_some_iff.mp found
        obtain ⟨-, rfl⟩ := Table.find?_present present
        cases same
        exact .prompt p score present
  · intro names
    cases names with
    | observation o score found superseded everywhere =>
        have visible := observationVisible_iff.mpr ⟨superseded, everywhere⟩
        simp [hit?, RecordKind.docType, RecordKind.ofDocType?, found, visible]
    | summary s score found =>
        simp [hit?, RecordKind.docType, RecordKind.ofDocType?, found]
    | prompt p score found =>
        simp [hit?, RecordKind.docType, RecordKind.ofDocType?, found]

theorem Names.key {plan : Plan} {scored : Scored Float} {hit : Hit}
    (names : plan.Names scored hit) (format : Format) :
    ((hit.item format).kind.docType, (hit.item format).id) = scored.key := by
  cases names <;> rfl

theorem Names.observation_key {plan : Plan} {scored : Scored Float} {hit : Hit}
    (names : plan.Names scored hit) {o : Observation} (shown : hit.observation? = some o) :
    scored.key = (RecordKind.observation.docType, o.id) := by
  cases names with
  | observation => cases shown; rfl
  | summary | prompt => cases shown

def present (plan : Plan) (entry : Scored Float × Hit) : SearchItem :=
  (entry.2.item plan.request.format).withScore entry.1.score

/-- What the entries shown have to do with the ranking that they come from. -/
structure Presents (plan : Plan) (threshold : Float) (ranking : List (Scored Float))
    (shown : List (Scored Float × Hit)) : Prop where
  bounded : shown.length ≤ plan.limit
  ranked : (shown.map Prod.fst).Sublist ranking
  named : ∀ entry ∈ shown, plan.Names entry.1 entry.2
  dissimilar : ∀ entry ∈ shown, ∀ other ∈ shown, entry ≠ other → ∀ a b,
    entry.2.observation? = some a → other.2.observation? = some b →
      Similarity.similar threshold (Similarity.terms a.content) (Similarity.terms b.content) = false
  /-- What is left out is ranked below the last that the limit lets in, or repeats what is
  shown. -/
  complete : ∀ scored ∈ ranking, ∀ hit, plan.Names scored hit → (scored, hit) ∉ shown →
    (∃ last, shown[plan.limit - 1]? = some last ∧ Before ranking last.1 scored) ∨
    ∃ a, hit.observation? = some a ∧ ∃ better ∈ shown, Before ranking better.1 scored ∧
      ∃ b, better.2.observation? = some b ∧
        Similarity.similar threshold (Similarity.terms b.content)
          (Similarity.terms a.content) = true

def hits (plan : Plan) (ranking : List (Scored Float)) : List (Scored Float × Hit) :=
  ranking.filterMap fun scored => (plan.hit? scored).map (scored, ·)

section

variable {plan : Plan} {threshold : Float} {ranking : List (Scored Float)}

theorem mem_hits {scored : Scored Float} {hit : Hit} :
    (scored, hit) ∈ plan.hits ranking ↔ scored ∈ ranking ∧ plan.Names scored hit := by
  rw [← hit?_iff, hits, List.mem_filterMap]
  constructor
  · rintro ⟨found, member, same⟩
    obtain ⟨looked, present, pair⟩ := Option.map_eq_some_iff.mp same
    cases pair
    exact ⟨member, present⟩
  · rintro ⟨member, present⟩
    exact ⟨scored, member, by rw [present]; rfl⟩

theorem hits_ranked : ((plan.hits ranking).map Prod.fst).Sublist ranking := by
  induction ranking with
  | nil => exact List.Sublist.refl _
  | cons first rest ih =>
      cases found : plan.hit? first with
      | none =>
          rw [hits, List.filterMap_cons_none (by simp [found])]
          exact ih.cons first
      | some hit =>
          rw [hits, List.filterMap_cons_some (b := (first, hit)) (by simp [found])]
          exact ih.cons_cons first

theorem hits_key_injective (once : (ranking.map (·.key)).Nodup) {entry other : Scored Float × Hit}
    (one : entry ∈ plan.hits ranking) (two : other ∈ plan.hits ranking)
    (same : entry.1.key = other.1.key) : entry = other := by
  obtain ⟨scored, hit⟩ := entry
  obtain ⟨partner, found⟩ := other
  obtain ⟨ranked, names⟩ := mem_hits.mp one
  obtain ⟨alsoRanked, alsoNames⟩ := mem_hits.mp two
  have place : scored = partner := List.inj_on_of_nodup_map once ranked alsoRanked same
  subst place
  have record := (hit?_iff.mpr names).symm.trans (hit?_iff.mpr alsoNames)
  rw [Option.some.inj record]

theorem hits_observation_injective (once : (ranking.map (·.key)).Nodup)
    {entry other : Scored Float × Hit} (one : entry ∈ plan.hits ranking)
    (two : other ∈ plan.hits ranking) {a b : Observation}
    (first : entry.2.observation? = some a) (second : other.2.observation? = some b)
    (same : a.id = b.id) : entry = other := by
  refine hits_key_injective once one two ?_
  rw [(mem_hits.mp one).2.observation_key first, (mem_hits.mp two).2.observation_key second, same]

def chosen (threshold : Float) (hits : List (Scored Float × Hit)) : List Observation :=
  Similarity.representatives
    (fun a b => Similarity.similar threshold (Similarity.terms a.content)
      (Similarity.terms b.content))
    (hits.filterMap (·.2.observation?))

theorem mem_withoutRepeats {hits : List (Scored Float × Hit)} {entry : Scored Float × Hit} :
    entry ∈ withoutRepeats threshold hits ↔ entry ∈ hits ∧
      ∀ o, entry.2.observation? = some o → o.id ∈ (chosen threshold hits).map (·.id) := by
  rw [withoutRepeats, Similarity.clusterIndices_filterMap, List.mem_filter, chosen]
  refine and_congr_right fun _ => ?_
  obtain ⟨scored, hit⟩ := entry
  cases shown : hit.observation? <;> simp [shown]

theorem mem_chosen_of_kept (once : (ranking.map (·.key)).Nodup) {entry : Scored Float × Hit}
    (kept : entry ∈ withoutRepeats threshold (plan.hits ranking)) {o : Observation}
    (shown : entry.2.observation? = some o) : o ∈ chosen threshold (plan.hits ranking) := by
  obtain ⟨member, stands⟩ := mem_withoutRepeats.mp kept
  obtain ⟨other, picked, same⟩ := List.mem_map.mp (stands o shown)
  obtain ⟨source, found, also⟩ :=
    List.mem_filterMap.mp ((Similarity.representatives_sublist _).subset picked)
  have one := hits_observation_injective once found member also shown same
  rw [one, shown] at also
  rwa [Option.some.inj also]

theorem dissimilar_of_kept (once : (ranking.map (·.key)).Nodup) {entry other : Scored Float × Hit}
    (one : entry ∈ withoutRepeats threshold (plan.hits ranking))
    (two : other ∈ withoutRepeats threshold (plan.hits ranking)) (distinct : entry ≠ other)
    {a b : Observation} (first : entry.2.observation? = some a)
    (second : other.2.observation? = some b) :
    Similarity.similar threshold (Similarity.terms a.content)
      (Similarity.terms b.content) = false := by
  have symmetric : Std.Symm fun a b : Observation => Similarity.similar threshold
      (Similarity.terms a.content) (Similarity.terms b.content) = false :=
    ⟨fun a b apart => (Similarity.similar_comm threshold b.content a.content).trans apart⟩
  have apart : (chosen threshold (plan.hits ranking)).Pairwise _ :=
    Similarity.representatives_apart _
  refine apart.forall (mem_chosen_of_kept once one first) (mem_chosen_of_kept once two second) ?_
  rintro rfl
  exact distinct (hits_observation_injective once (mem_withoutRepeats.mp one).1
    (mem_withoutRepeats.mp two).1 first second rfl)

/-- What is dropped as a repeat has something kept that it repeats. -/
theorem kept_or_repeats (once : (ranking.map (·.key)).Nodup) {entry : Scored Float × Hit}
    (found : entry ∈ plan.hits ranking) :
    entry ∈ withoutRepeats threshold (plan.hits ranking) ∨
      ∃ a, entry.2.observation? = some a ∧
        ∃ better ∈ withoutRepeats threshold (plan.hits ranking),
          Before (plan.hits ranking) better entry ∧ ∃ b, better.2.observation? = some b ∧
            Similarity.similar threshold (Similarity.terms b.content)
              (Similarity.terms a.content) = true := by
  cases shown : entry.2.observation? with
  | none =>
      refine Or.inl (mem_withoutRepeats.mpr ⟨found, fun o own => ?_⟩)
      rw [shown] at own
      cases own
  | some a =>
      have listed : a ∈ (plan.hits ranking).filterMap (·.2.observation?) :=
        List.mem_filterMap.mpr ⟨entry, found, shown⟩
      have stands {o : Observation} (picked : o ∈ chosen threshold (plan.hits ranking))
          {source : Scored Float × Hit} (member : source ∈ plan.hits ranking)
          (own : source.2.observation? = some o) :
          source ∈ withoutRepeats threshold (plan.hits ranking) := by
        refine mem_withoutRepeats.mpr ⟨member, fun other also => ?_⟩
        rw [Option.some.inj (also.symm.trans own)]
        exact List.mem_map_of_mem picked
      rcases Similarity.represented listed with picked | ⟨b, picked, repeats, before⟩
      · exact Or.inl (stands picked found shown)
      · obtain ⟨better, other, own, also, before⟩ := before.of_filterMap
        have same := hits_observation_injective once before.mem_right found also shown rfl
        subst same
        exact Or.inr ⟨a, rfl, better, stands picked before.mem_left own, before, b, own, repeats⟩

theorem presents (once : (ranking.map (·.key)).Nodup) (room : 0 < plan.limit) :
    plan.Presents threshold ranking
      ((withoutRepeats threshold (plan.hits ranking)).take plan.limit) := by
  let kept := withoutRepeats threshold (plan.hits ranking)
  have within : kept.Sublist (plan.hits ranking) := List.filter_sublist
  have distinct : (plan.hits ranking).Nodup :=
    List.Nodup.of_map _ ((List.Nodup.of_map _ once).sublist hits_ranked)
  have source {entry : Scored Float × Hit} (shown : entry ∈ kept.take plan.limit) :
      entry ∈ kept := List.mem_of_mem_take shown
  have place {a b : Scored Float × Hit} (before : Before (plan.hits ranking) a b) :
      Before ranking a.1 b.1 := (before.map Prod.fst).mono hits_ranked
  refine ⟨List.length_take_le _ _, ?_, ?_, ?_, ?_⟩
  · exact ((List.take_sublist _ _).map _).trans ((within.map _).trans hits_ranked)
  · exact fun entry shown => (mem_hits.mp (within.subset (source shown))).2
  · intro entry one other two distinct a b first second
    exact dissimilar_of_kept once (source one) (source two) distinct first second
  · intro scored member hit names absent
    have found : (scored, hit) ∈ plan.hits ranking := mem_hits.mpr ⟨member, names⟩
    rcases kept_or_repeats once found with
      spared | ⟨a, own, better, spared, before, b, also, repeats⟩
    · obtain ⟨last, reached, before⟩ := before_of_cut room spared absent
      exact Or.inl ⟨last, reached, place (before.mono within)⟩
    · by_cases shown : better ∈ kept.take plan.limit
      · exact Or.inr ⟨a, own, better, shown, place before, b, also, repeats⟩
      · obtain ⟨last, reached, above⟩ := before_of_cut room spared shown
        exact Or.inl ⟨last, reached, place ((above.mono within).trans distinct before)⟩

theorem Presents.distinct (once : (ranking.map (·.key)).Nodup)
    {shown : List (Scored Float × Hit)} (presents : plan.Presents threshold ranking shown) :
    ((shown.map plan.present).map fun item => (item.kind, item.id)).Nodup := by
  have keys : (shown.map (·.1.key)).Nodup := by
    have part := once.sublist (presents.ranked.map (·.key))
    rwa [List.map_map] at part
  have named : shown.map (·.1.key) = ((shown.map plan.present).map fun item =>
      (item.kind, item.id)).map (Prod.map RecordKind.docType id) := by
    rw [List.map_map, List.map_map]
    exact List.map_congr_left fun entry member =>
      ((presents.named entry member).key plan.request.format).symm
  rw [named] at keys
  exact List.Nodup.of_map _ keys

end

theorem semantic_refused {plan : Plan} {settings : SearchSettings} {index : VectorIndex}
    {query : String} {candidates : Nat} {failure : Failure}
    (refused : index.query query candidates plan.vectorFilter = .error failure) :
    plan.semantic settings index query candidates = .error failure := by
  simp only [semantic, refused]
  rfl

theorem semantic_answered {plan : Plan} {settings : SearchSettings} {index : VectorIndex}
    {query : String} {candidates : Nat} {near : List VectorMatch}
    (answered : index.query query candidates plan.vectorFilter = .ok near) :
    let fused := Ranking.fuse [vectorRanking near, plan.fullTextRanking query candidates]
    let shown := (withoutRepeats settings.dedupThreshold (plan.hits fused)).take plan.limit
    plan.semantic settings index query candidates =
      .ok (SearchItem.sort plan.request.order (shown.map plan.present)) := by
  intro fused shown
  simp only [semantic, answered, shown, List.map_take]
  rfl

theorem respond_answered {plan : Plan} {settings : SearchSettings} {index : VectorIndex}
    {query : String} {candidates : Nat} {near : List VectorMatch}
    (asked : plan.request.queryText = some query)
    (counted : candidateCount settings plan.limit = .ok candidates)
    (answered : index.query query candidates plan.vectorFilter = .ok near) :
    let fused := Ranking.fuse [vectorRanking near, plan.fullTextRanking query candidates]
    let shown := (withoutRepeats settings.dedupThreshold (plan.hits fused)).take plan.limit
    plan.respond settings (some index) =
      .ok ⟨SearchItem.sort plan.request.order (shown.map plan.present), .vector⟩ := by
  intro fused shown
  have connected : index.isConnected = true := by
    have online := (VectorIndex.whenOnline_ok answered).1
    simp [VectorIndex.isConnected, online]
  have found := semantic?_some_iff.mpr
    ⟨query, index, candidates, asked, rfl, connected, counted, semantic_answered answered⟩
  exact respond_ok_iff.mpr (Or.inl ⟨_, found, rfl⟩)

end Search.Plan

theorem VectorIndex.query_answers {index : VectorIndex} {text : String} {vector : Embedding}
    (online : index.reach = .online) (embedded : index.embedder.embed text = .ok vector)
    (limit : Nat) (filter : VectorFilter) : ∃ near, index.query text limit filter = .ok near := by
  simp only [query, whenOnline, online, if_true]
  split
  · exact ⟨[], rfl⟩
  · exact ⟨_, by rw [embedded]; rfl⟩

def repeating : Engine :=
  let occasion (now : Int) : Occasion := { sessionKey := "session", project := "project", now }
  let draft (scope : Scope) (narrative : String) : ObservationDraft :=
    { content := { type := .discovery, narrative := some narrative }, scope := some scope }
  Engine.after {} [
    .record (.observation (draft .project "nightly tests are slow") none) (occasion 1),
    .record (.observation (draft .everywhere "slow tests, nightly") none) (occasion 2),
    .record (.summary { request := some "mend the tests" } none) (occasion 3),
    .record (.observation (draft .project "the cache is cold") none) (occasion 4)]

def indifferent : VectorIndex :=
  let documents := repeating.store.documents .observation ++ repeating.store.documents .summary
  { embedder := constantEmbedder
    documents := documents.map fun d => ⟨d, constantEmbedder.version⟩
    embeddings := documents.map fun d =>
      (d.docId, Array.replicate Embedding.dimensions 1) }

theorem indifferent_answers (text : String) (limit : Nat) (filter : VectorFilter) :
    ∃ near, indifferent.query text limit filter = .ok near :=
  VectorIndex.query_answers rfl rfl limit filter

end Recall
