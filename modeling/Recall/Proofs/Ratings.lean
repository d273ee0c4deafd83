import Mathlib.Data.List.Perm.Subperm
import Recall.Proofs.Findings

namespace Recall

open Ranking (Score normalize)

theorem limited_filter_sublist (limit : Nat) (visible : α → Bool) (rows : List α) :
    (limited limit (rows.filter visible)).Sublist rows :=
  (limited_sublist limit _).trans List.filter_sublist

namespace FullText

def averageSize (entries : List (Indexed α)) : Float :=
  Float.ofNat (total (entries.map (·.size))) / Float.ofNat entries.length

def weight (entries : List (Indexed α)) (phrase : List Token) : Float :=
  phraseWeight entries.length (entries.countP fun entry => 0 < entry.phraseCount phrase)

def relevance (phrases : List (List Token)) (entries : List (Indexed α)) (entry : Indexed α) :
    Float :=
  -((phrases.map fun phrase => (phrase, weight entries phrase)).foldl
    (fun score (phrase, weight) =>
      score + phraseScore weight (averageSize entries) entry.size (entry.phraseCount phrase)) 0)

theorem relevances_eq (phrases : List (List Token)) (entries : List (Indexed α)) :
    relevances phrases entries = (entries.filter (·.hasAny phrases)).map fun entry =>
      (entry, relevance phrases entries entry) :=
  rfl

/-- How an entry is rated for some phrases among the entries of its table. The lowest rating is
the best. -/
structure Rating (S : Type) where
  of : {α : Type} → List (List Token) → List (Indexed α) → Indexed α → S

def Rating.relevance : Rating Float := ⟨FullText.relevance⟩

def rankedBy [Score S] (rating : Rating S) (phrases : List (List Token))
    (entries : List (Indexed α)) : List (α × S) :=
  (((entries.filter (·.hasAny phrases)).map fun entry =>
    (entry, rating.of phrases entries entry)).mergeSort
      fun a b => Score.atMost a.2 b.2).map fun (entry, score) => (entry.row, score)

theorem rankedBy_perm [Score S] (rating : Rating S) (phrases : List (List Token))
    (entries : List (Indexed α)) : ((rankedBy rating phrases entries).map Prod.fst).Perm
      ((entries.filter (·.hasAny phrases)).map Indexed.row) := by
  rw [rankedBy, List.map_map]
  refine ((List.mergeSort_perm _ _).map _).trans (.of_eq ?_)
  rw [List.map_map]
  rfl

end FullText

namespace Table

variable [Row α]

def searchBy [Score S] (rating : FullText.Rating S) (table : Table α)
    (visible : α → Bool) (query : String) (limit : Nat) : List (α × S) :=
  let keywords := FullText.keywords query
  let phrases := keywords.map FullText.tokens
  let best := limited limit
    ((FullText.rankedBy rating phrases (table.rankedRows.map indexed)).filter (visible ·.1))
  if keywords.isEmpty then []
  else if best.isEmpty then
    (limited limit ((table.mentioning keywords).filter visible)).map (·, ((0 : Nat) : S))
  else best.map fun (row, rated) => (row, normalize rated)

theorem answers_eq_searchBy (table : Table α) (visible : α → Bool) (query : String)
    (limit : Nat) :
    table.answers visible query limit = table.searchBy .relevance visible query limit :=
  rfl

theorem rankedBy_subperm [Score S] (rating : FullText.Rating S) (table : Table α)
    (phrases : List (List FullText.Token)) :
    ((FullText.rankedBy rating phrases (table.rankedRows.map indexed)).map Prod.fst).Subperm
      table.rows := by
  have same (rows : List α) : (rows.map indexed).map FullText.Indexed.row = rows := by
    rw [List.map_map]
    exact List.map_id rows
  have found := (FullText.rankedBy_perm rating phrases (table.rankedRows.map indexed)).subperm
  have chosen := (List.filter_sublist (p := fun entry : FullText.Indexed α =>
    entry.hasAny phrases) (l := table.rankedRows.map indexed)).map FullText.Indexed.row
  rw [same] at chosen
  exact found.trans (chosen.trans table.rankedRows_sublist).subperm

theorem searchBy_subperm [Score S] (rating : FullText.Rating S) (table : Table α)
    (visible : α → Bool) (query : String) (limit : Nat) :
    ((table.searchBy rating visible query limit).map Prod.fst).Subperm table.rows := by
  simp only [searchBy]
  split
  · exact List.nil_subperm
  · split
    · have same (rows : List α) : (rows.map (·, ((0 : Nat) : S))).map Prod.fst = rows := by
        rw [List.map_map]
        exact List.map_id rows
      rw [same]
      exact (limited_filter_sublist limit visible _).subperm.trans
        ((List.mergeSort_perm _ _).subperm.trans List.filter_sublist.subperm)
    · rw [List.map_map]
      exact ((limited_filter_sublist limit _ _).map Prod.fst).subperm.trans
        (table.rankedBy_subperm rating _)

end Table

end Recall
