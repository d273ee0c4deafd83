import Recall.Failure
import Recall.FullText.Expression
import Recall.FullText.Keyword
import Recall.FullText.Relevance
import Recall.Ranking.Score
import Recall.Store.Table

/-!
Keyword search in a table. Rows that have a keyword as a token come first by relevance. If
there are none, rows that contain a keyword anywhere are listed with the newest first and a
score of zero. That second search is refused for too many keywords, and when a row is to be
compared with one that is too long.
-/

namespace Recall

/-- Which rows a search may show, and how the storage layer comes to the rows that it compares
with the keywords. -/
structure Scan (α : Type) where
  visible : α → Bool
  /-- These rows are all compared. Without them rows are compared from the newest on, until
  there are enough. -/
  gathered : Option (α → Bool) := none
  /-- How many conditions stand beside that on the keywords. -/
  conditions : Nat := 1

/-- The rows up to the one with which there are enough. -/
def readUntil (found : α → Bool) : (enough : Nat) → List α → List α
  | 0, _ => []
  | _, [] => []
  | enough + 1, row :: rows =>
    row :: readUntil found (if found row then enough else enough + 1) rows

namespace Table

variable [Row α]

def indexed (row : α) : FullText.Indexed α :=
  ⟨row, (Row.texts row).map fun text => FullText.tokens (text.getD "")⟩

def rankedRows (table : Table α) : List α :=
  match table.rankedAfter with
  | some start => table.rows.filter fun row => (start : Int) < Row.id row
  | none => []

def ranked (table : Table α) (keywords : List String) : List (α × Float) :=
  FullText.ranked (keywords.map FullText.tokens) (table.rankedRows.map indexed)

def mentioning (table : Table α) (keywords : List String) : List α :=
  (table.rows.filter fun row => FullText.mentions keywords (Row.texts row)).mergeSort newestFirst

def compared (table : Table α) (scan : Scan α) (keywords : List String) (limit : Nat) :
    List α :=
  match scan.gathered with
  | some gathered => if limit = 0 then [] else table.rows.filter gathered
  | none =>
    let newest := table.rows.mergeSort newestFirst
    let found (row : α) := FullText.mentions keywords (Row.texts row) && scan.visible row
    if limit < Number.signedBound then readUntil found limit newest else newest

/-- Two parameters stand before the keywords: the project and the limit. -/
def containing (table : Table α) (scan : Scan α) (keywords : List String) (limit : Nat) :
    Except Failure (List α) :=
  let condition := FullText.likeCondition (Row.columns α) 3 keywords.length
  if FullText.largestDepth < condition.depth + scan.conditions then .error .expressionTooDeep
  else if (table.compared scan keywords limit).any fun row =>
      FullText.refuses keywords (Row.texts row) then .error .patternTooLong
  else .ok (limited limit ((table.mentioning keywords).filter scan.visible))

def search (table : Table α) (scan : Scan α) (query : String) (limit : Nat) :
    Except Failure (List (α × Float)) :=
  let keywords := FullText.keywords query
  let best := limited limit ((table.ranked keywords).filter (scan.visible ·.1))
  if keywords.isEmpty then .ok []
  else if best.isEmpty then
    (table.containing scan keywords limit).map (·.map (·, 0))
  else .ok (best.map fun (row, relevance) => (row, Ranking.normalize relevance))

end Table

end Recall
