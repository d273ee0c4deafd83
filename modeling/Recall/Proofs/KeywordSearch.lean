import Recall.Proofs.Listing
import Recall.Proofs.Newest
import Recall.Proofs.Retrieval
import Recall.Proofs.StableOrder

/-!
What a keyword search finds. If some row in view matches the query by tokens, it finds rows of
that kind, in the order of their relevance; else it finds rows that match by letters, the newest
first. Of either kind it finds all, as far as the limit allows, and nothing else. Where no row
matches by tokens, it is refused for keywords that are too many or too long.
-/

namespace Recall

theorem limited_of_length_le {limit : Nat} {rows : List α} (room : rows.length ≤ limit) :
    limited limit rows = rows := by
  simp only [limited]
  split
  · exact List.take_of_length_le room
  · rfl

/-- A row is left out only when the limit is used up, for rows that come before it. -/
theorem limited_omits {before : α → α → Prop} {limit : Nat} {rows : List α}
    (ordered : rows.Pairwise before) {row : α} (member : row ∈ rows)
    (omitted : row ∉ limited limit rows) :
    (limited limit rows).length = limit ∧ ∀ other ∈ limited limit rows, before other row := by
  simp only [limited] at omitted ⊢
  split at omitted
  · rename_i bounded
    rw [if_pos bounded]
    rw [← List.take_append_drop limit rows] at ordered member
    have dropped := (List.mem_append.mp member).resolve_left omitted
    have longer : limit < rows.length := by
      rw [← Nat.not_le]
      intro room
      rw [List.drop_of_length_le room] at dropped
      cases dropped
    refine ⟨List.length_take_of_le (Nat.le_of_lt longer), ?_⟩
    intro other taken
    exact (List.pairwise_append.mp ordered).2.2 other taken row dropped
  · exact absurd member omitted

structure Selects (rows : List α) (qualifies : α → Prop) [DecidablePred qualifies]
    (before : α → α → Prop) (limit : Nat) (chosen : List α) : Prop where
  qualified : ∀ row ∈ chosen, row ∈ rows ∧ qualifies row
  ordered : chosen.Pairwise before
  omitted : ∀ row ∈ rows, qualifies row → row ∉ chosen →
    chosen.length = limit ∧ ∀ other ∈ chosen, before other row
  whole : rows.countP (qualifies ·) ≤ limit → ∀ row ∈ rows, qualifies row → row ∈ chosen

section

variable {rows chosen : List α} {qualifies : α → Prop} [DecidablePred qualifies]
  {before : α → α → Prop} {limit : Nat}

theorem selects_listed {order : α → α → Bool} {visible : α → Bool}
    (ordered : ((rows.filter (qualifies ·)).mergeSort order).Pairwise before) :
    Selects rows (fun row => visible row = true ∧ qualifies row) before limit
      (limited limit (((rows.filter (qualifies ·)).mergeSort order).filter visible)) := by
  have inView := ordered.filter visible
  have same : (((rows.filter (qualifies ·)).mergeSort order).filter visible).Perm
      (rows.filter fun row => visible row = true ∧ qualifies row) := by
    refine ((List.mergeSort_perm _ _).filter visible).trans (.of_eq ?_)
    simp [List.filter_filter]
  have mem {row : α} : row ∈ ((rows.filter (qualifies ·)).mergeSort order).filter visible ↔
      row ∈ rows ∧ visible row = true ∧ qualifies row := by
    rw [same.mem_iff, List.mem_filter, decide_eq_true_eq]
  refine ⟨?_, inView.sublist (limited_sublist limit _), ?_, ?_⟩
  · intro row found
    exact mem.mp (limited_subset found)
  · intro row present good omitted
    exact limited_omits inView (mem.mpr ⟨present, good⟩) omitted
  · intro few row present good
    rw [List.countP_eq_length_filter, ← same.length_eq] at few
    rw [limited_of_length_le few]
    exact mem.mpr ⟨present, good⟩

theorem Selects.eq_nil_iff (selects : Selects rows qualifies before limit chosen)
    (room : 0 < limit) : chosen = [] ↔ ∀ row ∈ rows, ¬ qualifies row := by
  constructor
  · rintro rfl row present good
    have full := (selects.omitted row present good List.not_mem_nil).1
    exact Nat.ne_of_lt room full
  · intro unqualified
    refine List.eq_nil_iff_forall_not_mem.mpr fun row found => ?_
    obtain ⟨present, good⟩ := selects.qualified row found
    exact unqualified row present good

end

theorem map_fst_scored (score : α → Float) (rows : List α) :
    (rows.map fun row => (row, score row)).map Prod.fst = rows := by
  rw [List.map_map]
  exact List.map_id rows

namespace FullText

theorem ranked_eq (phrases : List (List Token)) (entries : List (Indexed α)) :
    ranked phrases entries = ((entries.filter (·.hasAny phrases)).mergeSort fun a b =>
      Number.totalKey (relevance phrases entries a) ≤
        Number.totalKey (relevance phrases entries b)).map fun entry =>
      (entry.row, relevance phrases entries entry) := by
  rw [ranked, relevances_eq, ← List.map_mergeSort (r := fun a b =>
    decide (Number.totalKey (relevance phrases entries a) ≤
      Number.totalKey (relevance phrases entries b))) fun a _ b _ => rfl, List.map_map]
  rfl

end FullText

namespace Table

open FullText (MatchesByTokens MatchesByLetters keywords)

variable [Row α]

def relevance (table : Table α) (query : String) (row : α) : Float :=
  FullText.relevance ((keywords query).map FullText.tokens) (table.rankedRows.map indexed)
    (indexed row)

def place (table : Table α) (query : String) (row : α) : Int :=
  Number.totalKey (table.relevance query row)

/-- Of rows of equal relevance the older id comes first. -/
def RanksBefore (table : Table α) (query : String) (a b : α) : Prop :=
  table.place query a < table.place query b ∨
    (table.place query a = table.place query b ∧ Row.id a < Row.id b)

def byTokens (table : Table α) (query : String) : List α :=
  (table.rankedRows.filter fun row => MatchesByTokens query (Row.texts row)).mergeSort
    fun a b => table.place query a ≤ table.place query b

def byLetters (table : Table α) (query : String) : List α :=
  (table.rows.filter fun row => MatchesByLetters query (Row.texts row)).mergeSort newestFirst

section

variable {table : Table α} {query : String} {row : α}

theorem mem_byTokens_iff : row ∈ table.byTokens query ↔
    row ∈ table.rankedRows ∧ MatchesByTokens query (Row.texts row) := by
  rw [byTokens, List.mem_mergeSort, List.mem_filter, decide_eq_true_eq]

theorem mem_byLetters_iff : row ∈ table.byLetters query ↔
    row ∈ table.rows ∧ MatchesByLetters query (Row.texts row) := by
  rw [byLetters, List.mem_mergeSort, List.mem_filter, decide_eq_true_eq]

theorem byTokens_length_le : (table.byTokens query).length ≤ table.rows.length := by
  rw [byTokens, List.length_mergeSort]
  exact (List.length_filter_le _ _).trans table.rankedRows_sublist.length_le

end

theorem ranked_eq (table : Table α) (query : String) :
    table.ranked (keywords query) =
      (table.byTokens query).map fun row => (row, table.relevance query row) := by
  have matching : (fun row : α => (indexed row).hasAny ((keywords query).map FullText.tokens)) =
      fun row => decide (MatchesByTokens query (Row.texts row)) := by
    funext row
    rw [Bool.eq_iff_iff, decide_eq_true_eq]
    exact FullText.hasAny_iff row
  rw [ranked, FullText.ranked_eq, List.filter_map, Function.comp_def, matching,
    ← List.map_mergeSort (r := fun a b => decide (table.place query a ≤ table.place query b))
      fun a _ b _ => rfl, List.map_map]
  rfl

theorem mentioning_eq (table : Table α) (query : String) :
    table.mentioning (keywords query) = table.byLetters query := by
  rw [mentioning, byLetters]
  refine congrArg (List.mergeSort · newestFirst) (List.filter_congr fun row _ => ?_)
  rw [Bool.eq_iff_iff, decide_eq_true_eq, FullText.mentions_iff]

theorem best_eq (table : Table α) (visible : α → Bool) (query : String) (limit : Nat) :
    table.best visible query limit =
      (limited limit ((table.byTokens query).filter visible)).map fun row =>
        (row, table.relevance query row) := by
  rw [best, ranked_eq, List.filter_map, limited_map]
  rfl

theorem answers_eq (table : Table α) (visible : α → Bool) (query : String) (limit : Nat) :
    table.answers visible query limit =
      if limited limit ((table.byTokens query).filter visible) = [] then
        (limited limit ((table.byLetters query).filter visible)).map (·, 0)
      else (limited limit ((table.byTokens query).filter visible)).map fun row =>
        (row, Ranking.normalize (table.relevance query row)) := by
  simp only [answers, best_eq, mentioning_eq, List.isEmpty_iff, List.map_eq_nil_iff,
    List.map_map]
  split
  · rename_i wordless
    have unmatched : table.byTokens query = [] ∧ table.byLetters query = [] := by
      simp [byTokens, byLetters, MatchesByTokens, MatchesByLetters, wordless]
    simp [unmatched, limited_nil]
  · rfl

structure Searchable (table : Table α) : Prop where
  start : table.rankedAfter = some 0
  ascending : (table.rows.map Row.id).Pairwise (· < ·)
  positive : ∀ row ∈ table.rows, 0 < Row.id row
  within : table.rows.length < Number.signedBound

namespace Searchable

variable {table : Table α} (searchable : table.Searchable) (visible : α → Bool) (query : String)
  (limit : Nat)

include searchable

theorem covered : table.rankedRows = table.rows := by
  simp only [rankedRows, searchable.start]
  refine List.filter_eq_self.mpr fun row present => ?_
  simpa using searchable.positive row present

theorem once : (table.rows.map Row.id).Nodup :=
  searchable.ascending.imp fun below => Int.ne_of_lt below

theorem byTokens_selects :
    Selects table.rows
      (fun row => visible row = true ∧ MatchesByTokens query (Row.texts row))
      (table.RanksBefore query) limit (limited limit ((table.byTokens query).filter visible)) := by
  rw [byTokens, searchable.covered]
  apply selects_listed
  refine ((ranks_key (table.place query)).pairwise_mergeSort
    ((List.pairwise_map.mp searchable.ascending).filter _)).imp fun {a b} both => ?_
  obtain ⟨below, equal⟩ := both
  simp only [decide_eq_true_eq] at below equal
  rcases lt_or_eq_of_le below with lower | same
  · exact Or.inl lower
  · exact Or.inr ⟨same, equal same.ge⟩

theorem byLetters_selects :
    Selects table.rows
      (fun row => visible row = true ∧ MatchesByLetters query (Row.texts row))
      (newer · · = true) limit (limited limit ((table.byLetters query).filter visible)) :=
  selects_listed (newest_ordered (ids_filter_nodup searchable.once _))

theorem answers_length_le : (table.answers visible query limit).length ≤ limit := by
  have fewer := (table.answers_subperm visible query limit).length_le
  have within := searchable.within
  rw [List.length_map] at fewer
  by_cases bounded : limit < Number.signedBound
  · rw [answers_eq]
    split
    · rw [List.length_map, limited, if_pos bounded]
      exact List.length_take_le _ _
    · rw [List.length_map, limited, if_pos bounded]
      exact List.length_take_le _ _
  -- Such a limit is none at all, but there are not that many rows.
  · omega

theorem answers_ids_nodup :
    ((table.answers visible query limit).map (Row.id ·.1)).Nodup := by
  have ids := subperm_map (table.answers_subperm visible query limit) Row.id
  rw [List.map_map] at ids
  obtain ⟨same, permuted, inside⟩ := ids
  exact permuted.nodup_iff.mp (searchable.once.sublist inside)

theorem answers_empty_iff {limit : Nat} (room : 1 ≤ limit) :
    table.answers visible query limit = [] ↔
      keywords query = [] ∨ ∀ row ∈ table.rows, visible row = true →
        ¬ MatchesByTokens query (Row.texts row) ∧ ¬ MatchesByLetters query (Row.texts row) := by
  have unranked : (table.ranked (keywords query)).filter (visible ·.1) = [] ↔
      ∀ row ∈ table.rows, visible row = true → ¬ MatchesByTokens query (Row.texts row) := by
    rw [ranked_eq, List.filter_map, List.map_eq_nil_iff, List.filter_eq_nil_iff]
    simp only [mem_byTokens_iff, searchable.covered, and_imp, Function.comp_apply]
    exact forall₂_congr fun row present => imp_not_comm
  have unlisted : (table.mentioning (keywords query)).filter visible = [] ↔
      ∀ row ∈ table.rows, visible row = true → ¬ MatchesByLetters query (Row.texts row) := by
    rw [mentioning_eq, List.filter_eq_nil_iff]
    simp only [mem_byLetters_iff, and_imp]
    exact forall₂_congr fun row present => imp_not_comm
  rw [Table.answers_eq_nil_iff room, unranked, unlisted]
  simp only [forall_and]

theorem best_eq_nil_iff {limit : Nat} (room : 1 ≤ limit) :
    table.best visible query limit = [] ↔
      ¬ ∃ row ∈ table.rows, visible row = true ∧ MatchesByTokens query (Row.texts row) := by
  rw [best_eq, List.map_eq_nil_iff,
    (searchable.byTokens_selects visible query limit).eq_nil_iff room]
  simp only [not_exists, not_and]

end Searchable

/-- What a keyword search owes to the one who asks. `texts` are the texts of a row that are
searched. -/
structure Finds (table : Table α) (texts : α → List (Option String)) (visible : α → Bool)
    (query : String) (limit : Nat) (found : List (α × Float)) : Prop where
  bounded : found.length ≤ limit
  distinct : (found.map (Row.id ·.1)).Nodup
  shown : ∀ hit ∈ found, hit.1 ∈ table.rows ∧ visible hit.1 = true
  ranked : (∃ row ∈ table.rows, visible row = true ∧ MatchesByTokens query (texts row)) →
    Selects table.rows (fun row => visible row = true ∧ MatchesByTokens query (texts row))
      (table.RanksBefore query) limit (found.map Prod.fst) ∧
    ∀ hit ∈ found, hit.2 = Ranking.normalize (table.relevance query hit.1)
  listed : (¬ ∃ row ∈ table.rows, visible row = true ∧ MatchesByTokens query (texts row)) →
    Selects table.rows (fun row => visible row = true ∧ MatchesByLetters query (texts row))
      (newer · · = true) limit (found.map Prod.fst) ∧
    ∀ hit ∈ found, hit.2 = 0
  empty_iff : found = [] ↔ keywords query = [] ∨ ∀ row ∈ table.rows, visible row = true →
    ¬ MatchesByTokens query (texts row) ∧ ¬ MatchesByLetters query (texts row)

theorem Searchable.finds {table : Table α} (searchable : table.Searchable) (visible : α → Bool)
    (query : String) {limit : Nat} (room : 1 ≤ limit) :
    table.Finds Row.texts visible query limit (table.answers visible query limit) := by
  have tokens := searchable.byTokens_selects visible query limit
  have letters := searchable.byLetters_selects visible query limit
  refine ⟨searchable.answers_length_le visible query limit,
    searchable.answers_ids_nodup visible query limit, fun hit found => answers_visible found,
    ?_, ?_, searchable.answers_empty_iff visible query room⟩
  · intro matched
    obtain ⟨row, present, good⟩ := matched
    have filled : limited limit ((table.byTokens query).filter visible) ≠ [] := by
      intro emptied
      exact (tokens.eq_nil_iff room).mp emptied row present good
    rw [answers_eq, if_neg filled]
    refine ⟨by rwa [map_fst_scored], ?_⟩
    intro hit found
    obtain ⟨row, -, rfl⟩ := List.mem_map.mp found
    rfl
  · intro unmatched
    have emptied : limited limit ((table.byTokens query).filter visible) = [] := by
      refine (tokens.eq_nil_iff room).mpr fun row present good => ?_
      exact unmatched ⟨row, present, good⟩
    rw [answers_eq, if_pos emptied]
    refine ⟨by rwa [map_fst_scored fun _ => 0], ?_⟩
    intro hit found
    obtain ⟨row, -, rfl⟩ := List.mem_map.mp found
    rfl

/-- A search keeps its promise when it has a result, and it has one unless no row in view matches
by tokens and the keywords cannot be looked for by letters. -/
structure Exact (table : Table α) (texts : α → List (Option String)) (scan : Scan α)
    (query : String) (limit : Nat) (result : Except Failure (List (α × Float))) : Prop where
  finds : ∀ hits, result = .ok hits → table.Finds texts scan.visible query limit hits
  answered_iff : (∃ hits, result = .ok hits) ↔ keywords query = [] ∨
    (∃ row ∈ table.rows, scan.visible row = true ∧ MatchesByTokens query (texts row)) ∨
      table.Takes scan (keywords query) limit

theorem Searchable.exact {table : Table α} (searchable : table.Searchable) (scan : Scan α)
    (query : String) {limit : Nat} (room : 1 ≤ limit) :
    table.Exact Row.texts scan query limit (table.search scan query limit) := by
  have refused : table.refusal? scan query limit = none ↔ keywords query = [] ∨
      (∃ row ∈ table.rows, scan.visible row = true ∧ MatchesByTokens query (Row.texts row)) ∨
        table.Takes scan (keywords query) limit := by
    have unranked := searchable.best_eq_nil_iff scan.visible query room
    simp only [refusal?, List.isEmpty_iff]
    split
    · rename_i wordless
      simp [wordless]
    · rename_i worded
      split
      · rename_i bare
        rw [containingRefusal?_none_iff, or_iff_right worded, or_iff_right (unranked.mp bare)]
      · rename_i filled
        exact iff_of_true rfl (Or.inr (Or.inl (not_not.mp (mt unranked.mpr filled))))
  refine ⟨?_, ?_⟩
  · intro hits answered
    rw [search_eq, refusing_ok_iff] at answered
    rw [← answered.2]
    exact searchable.finds scan.visible query room
  · rw [← refused, search_eq]
    simp only [refusing_ok_iff, exists_and_left, exists_eq', and_true]

end Table

namespace Store

theorem Sound.searchable {store : Store} (sound : store.Sound) [Row α] {table : Table α}
    {kind : RecordKind} (own : store.ids kind = table.rows.map Row.id)
    (start : table.rankedAfter = some 0) : table.Searchable where
  start
  ascending := by
    rw [← own]
    exact sound.ascending kind
  positive row present := by
    refine (sound.bounds kind _ ?_).1
    rw [own]
    exact List.mem_map_of_mem present
  within := by
    rw [← List.length_map (f := Row.id), ← own]
    exact sound.length_lt kind

end Store

namespace Engine

/-- One title has the word that is asked for, and the other a longer one with it inside, as the
summary has. -/
def announced : List Operation :=
  let occasion (now : Int) : Occasion := { sessionKey := "session", project := "project", now }
  let titled (title : String) (scope : Scope) : Submission :=
    .observation { content := { type := .discovery, title := some title }, scope } none
  [.store (titled "The DEPLOY has failed" .everywhere) (occasion 1),
    .store (titled "Redeployed" .project) (occasion 2),
    .store (.summary { learned := some "how to redeploy" } none) (occasion 3),
    .store (.prompt 1 "What now?") (occasion 4)]

def announcement : Store := (Engine.after {} announced).store

end Engine

end Recall
