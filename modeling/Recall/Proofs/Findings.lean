import Recall.Proofs.Answers
import Recall.Proofs.Documents

namespace Recall

theorem limited_sublist (limit : Nat) (rows : List α) : (limited limit rows).Sublist rows := by
  simp only [limited]
  split
  · exact List.take_sublist _ _
  · exact List.Sublist.refl _

theorem limited_nil (limit : Nat) : limited limit ([] : List α) = [] :=
  List.sublist_nil.mp (limited_sublist limit [])

theorem limited_subset {limit : Nat} {rows : List α} {row : α} (member : row ∈ limited limit rows) :
    row ∈ rows :=
  (limited_sublist limit rows).subset member

theorem limited_eq_nil_iff {limit : Nat} (room : 0 < limit) {rows : List α} :
    limited limit rows = [] ↔ rows = [] := by
  simp only [limited]
  split
  · rw [List.take_eq_nil_iff]
    exact or_iff_right (Nat.ne_of_gt room)
  · rfl

namespace FullText

theorem ranked_subset {phrases : List (List Token)} {entries : List (Indexed α)}
    {found : α × Float} (member : found ∈ ranked phrases entries) :
    found.1 ∈ entries.map Indexed.row := by
  obtain ⟨scored, sorted, rfl⟩ := List.mem_map.mp member
  obtain ⟨entry, chosen, rfl⟩ := List.mem_map.mp (List.mem_mergeSort.mp sorted)
  exact List.mem_map_of_mem (List.mem_filter.mp chosen).1

end FullText

namespace Table

variable [Row α]

theorem rankedRows_sublist (table : Table α) : table.rankedRows.Sublist table.rows := by
  simp only [rankedRows]
  split
  · exact List.filter_sublist
  · exact List.nil_sublist _

theorem ranked_subset {table : Table α} {keywords : List String} {found : α × Float}
    (member : found ∈ table.ranked keywords) : found.1 ∈ table.rows := by
  obtain ⟨entry, prepared, same⟩ := List.mem_map.mp (FullText.ranked_subset member)
  obtain ⟨row, present, rfl⟩ := List.mem_map.mp prepared
  rw [← same]
  exact table.rankedRows_sublist.subset present

theorem mentioning_subset {table : Table α} {keywords : List String} {row : α}
    (member : row ∈ table.mentioning keywords) : row ∈ table.rows :=
  (List.mem_filter.mp (List.mem_mergeSort.mp member)).1

theorem answers_visible {table : Table α} {visible : α → Bool} {query : String} {limit : Nat}
    {found : α × Float} (member : found ∈ table.answers visible query limit) :
    found.1 ∈ table.rows ∧ visible found.1 = true := by
  simp only [answers] at member
  split at member
  · cases member
  · split at member
    · obtain ⟨row, kept, rfl⟩ := List.mem_map.mp member
      obtain ⟨mentioned, seen⟩ := List.mem_filter.mp (limited_subset kept)
      exact ⟨mentioning_subset mentioned, seen⟩
    · obtain ⟨best, kept, rfl⟩ := List.mem_map.mp member
      obtain ⟨ranked, seen⟩ := List.mem_filter.mp (limited_subset kept)
      exact ⟨(ranked_subset ranked :), seen⟩

/-- Whether anything is found does not depend on how much of it is asked for. -/
theorem answers_eq_nil_iff {table : Table α} {visible : α → Bool} {query : String}
    {limit : Nat} (room : 0 < limit) : table.answers visible query limit = [] ↔
      FullText.keywords query = [] ∨
        ((table.ranked (FullText.keywords query)).filter (visible ·.1) = [] ∧
          (table.mentioning (FullText.keywords query)).filter visible = []) := by
  by_cases worded : FullText.keywords query = []
  · simp [answers, worded]
  have either : table.best visible query limit = [] ↔
      (table.ranked (FullText.keywords query)).filter (visible ·.1) = [] :=
    limited_eq_nil_iff room
  by_cases unranked : (table.ranked (FullText.keywords query)).filter (visible ·.1) = []
  · have bare : table.best visible query limit = [] := either.mpr unranked
    simp [answers, worded, bare, unranked, limited_eq_nil_iff room]
  · have filled : table.best visible query limit ≠ [] := mt either.mp unranked
    simp [answers, worded, filled, unranked]

end Table

theorem listed_visible {rows : List α} {visible : α → Bool} {order : α → α → Bool} {limit : Nat}
    {row : α} (member : row ∈ limited limit ((rows.filter visible).mergeSort order)) :
    row ∈ rows ∧ visible row = true :=
  List.mem_filter.mp (List.mem_mergeSort.mp (limited_subset member))

theorem mem_of_mem_eraseDupsBy {same : α → α → Bool} {item : α} {items : List α}
    (member : item ∈ items.eraseDupsBy same) : item ∈ items := by
  match items with
  | [] => cases member
  | first :: rest =>
      rw [List.eraseDupsBy_cons] at member
      rcases List.mem_cons.mp member with rfl | later
      · exact List.mem_cons_self
      · have kept := mem_of_mem_eraseDupsBy later
        exact List.mem_cons_of_mem _ (List.mem_filter.mp kept).1
termination_by items.length
decreasing_by exact Nat.lt_succ_of_le (List.length_filter_le _ _)

namespace Ranking

theorem fuse_subset [Score S] {lists : List (List (Scored S))} {item : Scored S}
    (member : item ∈ fuse lists) : ∃ list ∈ lists, ∃ entry ∈ list, entry.key = item.key := by
  obtain ⟨key, kept, rfl⟩ := List.mem_map.mp (List.mem_mergeSort.mp member)
  obtain ⟨occurrence, met, rfl⟩ := List.mem_map.mp (List.mem_eraseDups.mp kept)
  obtain ⟨⟨list, number⟩, numbered, occurs⟩ := List.mem_flatMap.mp met
  obtain ⟨⟨entry, rank⟩, ranked, rfl⟩ := List.mem_map.mp occurs
  exact ⟨list, List.fst_mem_of_mem_zipIdx numbered, entry,
    List.fst_mem_of_mem_zipIdx ranked, rfl⟩

end Ranking

theorem Search.vectorRanking_subset {near : List VectorMatch} {entry : Ranking.Scored Float}
    (member : entry ∈ Search.vectorRanking near) :
    ∃ found ∈ near, entry.docType = found.metadata.docType ∧
      entry.id = found.metadata.sourceId := by
  obtain ⟨found, present, rfl⟩ := List.mem_map.mp (mem_of_mem_eraseDupsBy member)
  exact ⟨found, present, rfl, rfl⟩

theorem VectorIndex.query_admitted {index : VectorIndex} {text : String} {limit : Nat}
    {filter : VectorFilter} {near : List VectorMatch}
    (answered : index.query text limit filter = .ok near) :
    ∀ found ∈ near, ∃ entry ∈ index.documents,
      found.metadata = entry.document.metadata ∧ filter.admits found.metadata = true := by
  intro found member
  simp only [query, whenOnline] at answered
  split at answered
  · split at answered
    · cases answered
      cases member
    · cases embedded : index.embedder.embed text with
      | error failure =>
          rw [embedded] at answered
          cases answered
      | ok vector =>
          rw [embedded] at answered
          cases answered
          obtain ⟨⟨entry, distance⟩, kept, rfl⟩ := List.mem_map.mp member
          obtain ⟨candidate, admitted, measured⟩ :=
            List.mem_filterMap.mp (List.mem_mergeSort.mp (limited_subset kept))
          obtain ⟨vector, -, same⟩ := Option.map_eq_some_iff.mp measured
          cases same
          exact ⟨entry, (List.mem_filter.mp admitted).1, rfl, (List.mem_filter.mp admitted).2⟩
  · cases answered

namespace SearchItem

theorem sort_perm (order : SortOrder) (items : List SearchItem) :
    (sort order items).Perm items := by
  cases order with
  | unspecified => exact List.Perm.refl _
  | oldestFirst | newestFirst | importance => exact List.mergeSort_perm _ _

theorem mem_sort {order : SortOrder} {items : List SearchItem} {item : SearchItem} :
    item ∈ sort order items ↔ item ∈ items :=
  (sort_perm order items).mem_iff

theorem ofObservation_unscored (format : Format) (o : Observation) :
    { ofObservation format o with score := none } = ofObservation format o := by
  simp only [ofObservation]

theorem ofSummary_unscored (format : Format) (s : Summary) :
    { ofSummary format s with score := none } = ofSummary format s := by
  simp only [ofSummary]

theorem ofPrompt_unscored (format : Format) (p : Prompt) :
    { ofPrompt format p with score := none } = ofPrompt format p := by
  simp only [ofPrompt]

end SearchItem

end Recall
