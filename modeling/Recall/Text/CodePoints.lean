namespace Recall.Text

/-- How many of the ascending numbers are at most `n`. The answer lies between `low` and
`high`, and each step halves the distance. -/
def countAtMostBetween (ascending : Array Nat) (n : Nat) : (steps low high : Nat) → Nat
  | 0, low, _ => low
  | steps + 1, low, high =>
    if low < high then
      let middle := (low + high) / 2
      if ascending.getD middle 0 ≤ n then countAtMostBetween ascending n steps (middle + 1) high
      else countAtMostBetween ascending n steps low middle
    else low

def countAtMost (ascending : Array Nat) (n : Nat) : Nat :=
  countAtMostBetween ascending n (ascending.size.log2 + 1) 0 ascending.size

/-- The ascending points at which membership changes, beginning outside the set. -/
structure CodePointSet where
  turns : Array Nat

def CodePointSet.contains (set : CodePointSet) (c : Char) : Bool :=
  countAtMost set.turns c.toNat % 2 = 1

/-- Every `stride`-th code point from `first` to `last` is mapped: `first` to `target`,
each following one to a target `step` higher. -/
structure CodePointRun where
  first : Nat
  last : Nat
  stride : Nat
  target : Nat
  step : Nat

def CodePointRun.covers (run : CodePointRun) (n : Nat) : Bool :=
  run.first ≤ n && n ≤ run.last && (n - run.first) % run.stride = 0

structure CodePointMap where
  runs : List CodePointRun

def CodePointMap.apply (map : CodePointMap) (c : Char) : Char :=
  match map.runs.find? (·.covers c.toNat) with
  | some run => Char.ofNat (run.target + (c.toNat - run.first) / run.stride * run.step)
  | none => c

end Recall.Text
