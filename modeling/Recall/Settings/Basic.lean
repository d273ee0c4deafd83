namespace Recall

structure RetentionSettings where
  /-- How many observations of its own each project keeps. -/
  observationsPerProject : Nat := 100
  /-- How many observations that are visible everywhere are kept in all. -/
  observationsEverywhere : Nat := 100
  prompts : Nat := 500
  /-- How long the eviction pass after a write may take. -/
  timeoutSeconds : Nat := 10
  /-- From this similarity on a new observation counts as a repetition. -/
  dedupThreshold : Float := 0.8
  /-- How many recent observations a new one is compared with. -/
  dedupWindow : Nat := 50
  deriving DecidableEq, Repr

structure SearchSettings where
  defaultLimit : Nat := 20
  largestLimit : Nat := 100
  /-- How many candidates are considered for each result. -/
  candidateFactor : Nat := 2
  /-- From this similarity on one result stands for another. -/
  dedupThreshold : Float := 0.8
  deriving DecidableEq, Repr

end Recall
