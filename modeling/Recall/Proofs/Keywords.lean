import Recall.Proofs.FusedScores
import Recall.Proofs.Gaps
import Recall.Proofs.KeywordSearch
import Recall.Proofs.Tokens
import Recall.Search.Request

namespace Recall

namespace Text

def FirstBefore (text word other : String) : Prop :=
  ∃ start, WordAt text start word ∧ ∀ later, WordAt text later other → start < later

end Text

theorem first_place [BEq α] [LawfulBEq α] {placed : List (Nat × α)} {a b : α}
    (ordered : placed.Pairwise fun a b => a.1 < b.1) (one : a ∈ placed.map Prod.snd)
    (first : (placed.map Prod.snd).idxOf a < (placed.map Prod.snd).idxOf b) :
    ∃ start, (start, a) ∈ placed ∧ ∀ later, (later, b) ∈ placed → start < later := by
  induction placed with
  | nil => cases one
  | cons place placed ih =>
      obtain ⟨start, value⟩ := place
      obtain ⟨ahead, ordered⟩ := List.pairwise_cons.mp ordered
      rw [List.map_cons] at one first
      have other : value ≠ b := by
        rintro rfl
        rw [List.idxOf_cons_self] at first
        exact Nat.not_lt_zero _ first
      have behind {later : Nat} (met : (later, b) ∈ (start, value) :: placed) :
          (later, b) ∈ placed := by
        rcases List.mem_cons.mp met with same | met
        · exact absurd (congrArg Prod.snd same).symm other
        · exact met
      by_cases own : value = a
      · subst own
        exact ⟨start, List.mem_cons_self, fun later met => ahead _ (behind met)⟩
      · rw [List.idxOf_cons_ne _ own, List.idxOf_cons_ne _ other] at first
        obtain ⟨place, found, before⟩ := ih ordered
          ((List.mem_cons.mp one).resolve_left (Ne.symm own)) (Nat.lt_of_succ_lt_succ first)
        exact ⟨place, List.mem_cons_of_mem _ found, fun later met => before later (behind met)⟩

theorem eraseDups_filter [BEq α] [LawfulBEq α] (keep : α → Bool) (items : List α) :
    (items.filter keep).eraseDups = items.eraseDups.filter keep := by
  induction items using List.reverseRecOn with
  | nil => rfl
  | append_singleton items last ih =>
      rw [List.filter_append, Ranking.eraseDups_concat]
      cases kept : keep last with
      | true =>
          rw [List.filter_cons_of_pos kept, List.filter_nil, Ranking.eraseDups_concat, ih]
          by_cases known : last ∈ items
          · rw [if_pos known, if_pos (List.mem_filter.mpr ⟨known, kept⟩)]
          · rw [if_neg known, if_neg fun met => known (List.mem_filter.mp met).1,
              List.filter_append, List.filter_cons_of_pos kept, List.filter_nil]
      | false =>
          rw [List.filter_cons_of_neg (by simp [kept]), List.filter_nil, List.append_nil, ih]
          split
          · rfl
          · simp [kept]

namespace FullText

theorem keywords_nodup (query : String) : (keywords query).Nodup :=
  nodup_eraseDups _

theorem keywords_ordered (query : String) :
    (keywords query).Pairwise (Text.FirstBefore query) := by
  obtain ⟨placed, ordered, scanned, places⟩ := Text.exists_placed_words query
  have kept : (Text.words query).filter isKeyword =
      (placed.filter fun place => isKeyword place.2).map Prod.snd := by
    rw [scanned, List.filter_map]
    rfl
  refine (Ranking.eraseDups_met _).imp_of_mem fun {a b} one two first => ?_
  rw [kept] at first
  rw [keywords, List.mem_eraseDups, kept] at one
  obtain ⟨start, found, before⟩ := first_place (ordered.filter _) one first
  refine ⟨start, (places start a).mp (List.mem_filter.mp found).1, fun later met => ?_⟩
  have worth : isKeyword b = true := (mem_keywords_iff.mp two).2
  exact before later (List.mem_filter.mpr ⟨(places later b).mpr met, worth⟩)

theorem keywords_append_space (a b : String) :
    keywords (a ++ " " ++ b) = keywords a ++ (keywords b).filter (· ∉ keywords a) := by
  have fresh : (((Text.words b).filter isKeyword).removeAll
      ((Text.words a).filter isKeyword)).eraseDups = (keywords b).filter (· ∉ keywords a) := by
    rw [List.removeAll, eraseDups_filter]
    refine List.filter_congr fun word _ => ?_
    simp [keywords, List.mem_eraseDups]
  rw [keywords, Text.words_append_space, List.filter_append, List.eraseDups_append, fresh]
  rfl

/-- The last sigma of the first word is the final one although letters follow behind the space. -/
example : keywords ("ΣΟΦΟΣ" ++ " " ++ "ΣΟΦΟΣ ΣΟΦΟΙ") = ["σοφος", "σοφοι"] := by decide +kernel

section

variable {query other : String} (more : ∀ keyword ∈ keywords query, keyword ∈ keywords other)

include more

theorem MatchesByTokens.mono {texts : List (Option String)}
    (found : MatchesByTokens query texts) : MatchesByTokens other texts := by
  obtain ⟨keyword, listed, there⟩ := found
  exact ⟨keyword, more keyword listed, there⟩

theorem MatchesByLetters.mono {texts : List (Option String)}
    (found : MatchesByLetters query texts) : MatchesByLetters other texts := by
  obtain ⟨keyword, listed, there⟩ := found
  exact ⟨keyword, more keyword listed, there⟩

end

end FullText

open FullText (keywords keywords_empty keywords_trim keywords_append_space MatchesByTokens
  MatchesByLetters)

namespace SearchRequest

theorem keywords_query (request : SearchRequest) :
    keywords (request.query.getD "") = (request.queryText.map keywords).getD [] := by
  rw [queryText]
  cases request.query with
  | none => exact keywords_empty
  | some query =>
      rw [Option.getD_some, Option.map_some, ← keywords_trim query]
      by_cases blank : Text.trim query = ""
      · rw [blank, keywords_empty, Option.filter_some_neg (by simp), Option.map_none,
          Option.getD_none]
      · rw [Option.filter_some_pos (by simpa using blank), Option.map_some, Option.getD_some]

end SearchRequest

namespace Preset

variable (preset : Preset) (request : SearchRequest)

theorem keywords_words_ne_nil : keywords preset.words ≠ [] := by
  cases preset <;> decide +kernel

def allKeywords : List String :=
  keywords (request.query.getD "") ++
    (keywords preset.words).filter (· ∉ keywords (request.query.getD ""))

theorem mem_allKeywords_iff {keyword : String} : keyword ∈ preset.allKeywords request ↔
    keyword ∈ keywords (request.query.getD "") ∨ keyword ∈ keywords preset.words := by
  rw [allKeywords, List.mem_append, List.mem_filter, decide_eq_true_eq]
  tauto

theorem query_apply : ∃ text, (preset.apply request).query = some text ∧
    keywords text = preset.allKeywords request := by
  rw [allKeywords, request.keywords_query]
  cases asked : request.queryText with
  | none => exact ⟨preset.words, by rw [apply, asked], by simp⟩
  | some text =>
      exact ⟨text ++ " " ++ preset.words, by rw [apply, asked], keywords_append_space _ _⟩

theorem queryText_apply : ∃ text, (preset.apply request).queryText = some text ∧
    keywords text = preset.allKeywords request := by
  obtain ⟨text, asked, all⟩ := preset.query_apply request
  refine ⟨Text.trim text, SearchRequest.queryText_of_keywords asked ?_, ?_⟩
  · obtain ⟨word, listed⟩ := List.exists_mem_of_ne_nil _ preset.keywords_words_ne_nil
    rw [all]
    exact List.ne_nil_of_mem ((preset.mem_allKeywords_iff request).mpr (Or.inr listed))
  · rw [keywords_trim, all]

end Preset

namespace Table

variable [Row α] {table : Table α} {query : String} {row : α}

theorem mem_ranked_iff : row ∈ (table.ranked (keywords query)).map Prod.fst ↔
    row ∈ table.byTokens query := by
  rw [ranked_eq, map_fst_scored]

theorem mem_search_of_byTokens {scan : Scan α} {limit : Nat} (room : table.rows.length ≤ limit)
    (matched : row ∈ table.byTokens query) (shown : scan.visible row = true) :
    ∃ hits, table.search scan query limit = .ok hits ∧ row ∈ hits.map Prod.fst := by
  have inView : row ∈ (table.byTokens query).filter scan.visible :=
    List.mem_filter.mpr ⟨matched, shown⟩
  have few : ((table.byTokens query).filter scan.visible).length ≤ limit :=
    (List.length_filter_le _ _).trans (byTokens_length_le.trans room)
  have filled : table.best scan.visible query limit ≠ [] := by
    rw [best_eq, limited_of_length_le few, Ne, List.map_eq_nil_iff]
    exact List.ne_nil_of_mem inView
  have answered : table.search scan query limit =
      .ok (table.answers scan.visible query limit) := by
    rw [search_eq, refusing_ok_iff]
    exact ⟨by simp [refusal?, filled], rfl⟩
  refine ⟨_, answered, ?_⟩
  rw [answers_eq, limited_of_length_le few, if_neg (List.ne_nil_of_mem inView), map_fst_scored]
  exact inView

end Table

/-- The keywords of a query are its long words, a space adds those of a second query that are new,
and so a preset finds by its query whatever the query that was asked finds. -/
theorem keywords_compose :
    (∀ query, (keywords query).Nodup ∧ (keywords query).Pairwise (Text.FirstBefore query) ∧
      ∀ word, word ∈ keywords query ↔
        Text.IsWord query word ∧ 4 ≤ word.length ∧ word ∉ FullText.stopWords) ∧
    (∀ a b, keywords (a ++ " " ++ b) = keywords a ++ (keywords b).filter (· ∉ keywords a)) ∧
    ∀ (preset : Preset) (request : SearchRequest), ∃ text,
      (preset.apply request).queryText = some text ∧
      keywords (request.query.getD "") <+: keywords text ∧
      (∀ keyword ∈ keywords preset.words, keyword ∈ keywords text) ∧
      (∀ keyword ∈ keywords text,
        keyword ∈ keywords (request.query.getD "") ∨ keyword ∈ keywords preset.words) ∧
      ∀ (store : Store) (o : Observation),
        (o ∈ (store.observations.ranked (keywords (request.query.getD ""))).map Prod.fst →
          o ∈ (store.observations.ranked (keywords text)).map Prod.fst ∧
          ∀ (filter : ObservationFilter) (limit : Nat), filter.admits o = true →
            store.observations.rows.length ≤ limit →
            ∃ hits, store.searchObservations text filter limit = .ok hits ∧
              o ∈ hits.map Prod.fst) ∧
        (o ∈ store.observations.mentioning (keywords (request.query.getD "")) →
          o ∈ store.observations.mentioning (keywords text)) := by
  refine ⟨fun query => ⟨FullText.keywords_nodup query, FullText.keywords_ordered query,
    fun word => ?_⟩, keywords_append_space, fun preset request => ?_⟩
  · rw [FullText.mem_keywords_iff, FullText.isKeyword]
    simp
  · obtain ⟨text, asked, all⟩ := preset.queryText_apply request
    have listed (keyword : String) := @Preset.mem_allKeywords_iff preset request keyword
    rw [← all] at listed
    have more : ∀ keyword ∈ keywords (request.query.getD ""), keyword ∈ keywords text :=
      fun keyword own => (listed keyword).mpr (Or.inl own)
    refine ⟨text, asked, ?_, fun keyword added => (listed keyword).mpr (Or.inr added),
      fun keyword found => (listed keyword).mp found, fun store o => ⟨fun matched => ?_, fun matched => ?_⟩⟩
    · rw [all]
      exact List.prefix_append _ _
    · rw [Table.mem_ranked_iff, Table.mem_byTokens_iff] at matched
      have also : o ∈ store.observations.byTokens text :=
        Table.mem_byTokens_iff.mpr ⟨matched.1, FullText.MatchesByTokens.mono more matched.2⟩
      exact ⟨Table.mem_ranked_iff.mpr also, fun filter limit shown room =>
        Table.mem_search_of_byTokens room also shown⟩
    · rw [Table.mentioning_eq, Table.mem_byLetters_iff] at matched ⊢
      exact ⟨matched.1, FullText.MatchesByLetters.mono more matched.2⟩

theorem preset_keeps_finding :
    let request : SearchRequest := { query := some " Retry policy? " }
    let o : Observation := {
      id := 1, sessionKey := "session", project := "project", scope := .project
      content := { type := .discovery, title := some "Retry with a pause" }
      promptNumber := none, discoveryTokens := 0, importance := 0.5, retrievalCount := 0
      lastRetrievedAt := none, superseded := false, createdAt := 1 }
    let store : Store := { observations := { rows := [o], lastId := 1 } }
    ∃ text, (Preset.howItWorks.apply request).queryText = some text ∧
      keywords text = ["retry", "policy", "architecture", "design", "mechanism", "works", "flow",
        "pattern"] ∧
      (o ∈ (store.observations.ranked (keywords (request.query.getD ""))).map Prod.fst ∧
        ObservationFilter.all.admits o = true ∧ store.observations.rows.length ≤ 5) ∧
      ∃ hits, store.searchObservations text .all 5 = .ok hits ∧ o ∈ hits.map Prod.fst := by
  intro request o store
  obtain ⟨text, asked, -, -, -, finds⟩ := keywords_compose.2.2 .howItWorks request
  have same : (Preset.howItWorks.apply request).queryText =
      some "Retry policy? architecture design mechanism works flow pattern" := by decide +kernel
  have matched : o ∈ (store.observations.ranked (keywords (request.query.getD ""))).map
      Prod.fst := by
    rw [Table.mem_ranked_iff, Table.mem_byTokens_iff]
    exact ⟨List.mem_singleton_self o, by decide +kernel⟩
  have admitted : ObservationFilter.all.admits o = true := by decide +kernel
  have room : store.observations.rows.length ≤ 5 := by decide
  refine ⟨text, asked, ?_, ⟨matched, admitted, room⟩,
    ((finds store o).1 matched).2 .all 5 admitted room⟩
  obtain rfl : text = "Retry policy? architecture design mechanism works flow pattern" :=
    Option.some.inj (asked.symm.trans same)
  decide +kernel

end Recall
