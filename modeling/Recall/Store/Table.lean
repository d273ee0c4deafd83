import Recall.Number.Word

/-!
Tables of rows. Ids are handed out in ascending order and never again, and the rows are
kept in ascending order of their ids. Ranked search covers the rows with ids above a certain
one; a table may also be without ranked search.
-/

namespace Recall

class Row (α : Type) where
  id : α → Int
  createdAt : α → Int
  /-- The columns that full-text search looks at. -/
  columns : List String
  columns_ne_nil : columns ≠ []
  /-- Their texts. -/
  texts : α → List (Option String)

structure Table (α : Type) where
  rows : List α := []
  lastId : Nat := 0
  /-- Rows with ids above this one take part in ranked search. -/
  rankedAfter : Option Nat := some 0
  deriving Repr

/-- Ids are signed 64-bit numbers, and after the largest of them no row is added any more. -/
def noIdAfter (lastId : Nat) : Bool := Number.signedBound ≤ lastId + 1

/-- A bound above the range of signed 64-bit numbers, where it is no bound at all. -/
def limited (limit : Nat) (rows : List α) : List α :=
  if limit < Number.signedBound then rows.take limit else rows

def newestFirst [Row α] (a b : α) : Bool :=
  Row.createdAt b < Row.createdAt a ||
    (Row.createdAt a = Row.createdAt b && Row.id b ≤ Row.id a)

def oldestFirst [Row α] (a b : α) : Bool := newestFirst b a

namespace Table

variable [Row α]

def insert (table : Table α) (make : Int → α) : Table α :=
  { table with
    rows := table.rows ++ [make (table.lastId + 1 : Nat)]
    lastId := table.lastId + 1 }

def withIds (table : Table α) (ids : List Int) : List α :=
  table.rows.filter fun row => Row.id row ∈ ids

def find? (table : Table α) (id : Int) : Option α :=
  table.rows.find? fun row => Row.id row = id

def remove (table : Table α) (ids : List Int) : Table α :=
  { table with rows := table.rows.filter fun row => !(Row.id row ∈ ids) }

def update (table : Table α) (ids : List Int) (change : α → α) : Table α :=
  { table with rows := table.rows.map fun row => if Row.id row ∈ ids then change row else row }

def dropRanking (table : Table α) : Table α := { table with rankedAfter := none }

/-- Where ranked search is missing it is set up for the rows to come. -/
def openRanking (table : Table α) : Table α :=
  { table with rankedAfter := some (table.rankedAfter.getD table.lastId) }

end Table

end Recall
