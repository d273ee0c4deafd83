import Recall.Text.Word

namespace Recall.Text

variable {keep : Char → Bool}

def IsRun (keep : Char → Bool) (text run : List Char) : Prop :=
  run ≠ [] ∧ (∀ c ∈ run, keep c = true) ∧
    ∃ before after, text = before ++ (run ++ after) ∧
      (∀ c, before.getLast? = some c → keep c = false) ∧
      (∀ c, after.head? = some c → keep c = false)

def RunAt (keep : Char → Bool) (text : List Char) (start : Nat) (run : List Char) : Prop :=
  run ≠ [] ∧ (∀ c ∈ run, keep c = true) ∧
    ∃ before after, text = before ++ (run ++ after) ∧ before.length = start ∧
      (∀ c, before.getLast? = some c → keep c = false) ∧
      (∀ c, after.head? = some c → keep c = false)

theorem isRun_iff {text run : List Char} :
    IsRun keep text run ↔ ∃ start, RunAt keep text start run := by
  constructor
  · rintro ⟨filled, own, before, after, parts, left, right⟩
    exact ⟨before.length, filled, own, before, after, parts, rfl, left, right⟩
  · rintro ⟨start, filled, own, before, after, parts, -, left, right⟩
    exact ⟨filled, own, before, after, parts, left, right⟩

theorem before_eq_nil {before : List Char} (kept : ∀ c ∈ before, keep c = true)
    (bounded : ∀ c, before.getLast? = some c → keep c = false) : before = [] := by
  cases last : before.getLast? with
  | none => exact List.getLast?_eq_none_iff.mp last
  | some c =>
      have dropped := bounded c last
      rw [kept c (List.mem_of_getLast? last)] at dropped
      cases dropped

theorem after_eq_nil {after : List Char} (kept : ∀ c ∈ after, keep c = true)
    (bounded : ∀ c, after.head? = some c → keep c = false) : after = [] := by
  cases after with
  | nil => rfl
  | cons c rest =>
      have dropped := bounded c rfl
      rw [kept c List.mem_cons_self] at dropped
      cases dropped

theorem runAt_whole_iff {text run : List Char} {start : Nat} (kept : ∀ c ∈ text, keep c = true) :
    RunAt keep text start run ↔ (start = 0 ∧ run = text) ∧ text ≠ [] := by
  constructor
  · rintro ⟨filled, own, before, after, rfl, placed, left, right⟩
    have first : before = [] := before_eq_nil (fun c member => kept c (by simp [member])) left
    have last : after = [] := after_eq_nil (fun c member => kept c (by simp [member])) right
    subst first last
    exact ⟨⟨placed.symm, by simp⟩, by simpa using filled⟩
  · rintro ⟨⟨rfl, rfl⟩, filled⟩
    exact ⟨filled, kept, [], [], by simp, rfl, by simp, by simp⟩

/-- A character that is not kept parts a text: a run ends before it or starts after it. -/
theorem runAt_break_iff {front rest run : List Char} {start : Nat} {c : Char}
    (kept : ∀ d ∈ front, keep d = true) (broken : keep c = false) :
    RunAt keep (front ++ c :: rest) start run ↔ ((start = 0 ∧ run = front) ∧ front ≠ []) ∨
      ∃ later, RunAt keep rest later run ∧ start = later + (front.length + 1) := by
  constructor
  · rintro ⟨filled, own, before, after, parts, placed, left, right⟩
    have outside : c ∉ run := by
      intro member
      rw [own c member] at broken
      cases broken
    rcases List.append_eq_append_iff.mp parts with ⟨skipped, rfl, later⟩ | ⟨lead, whole, started⟩
    · -- The run starts after the front.
      cases skipped with
      | nil =>
          obtain ⟨d, more, rfl⟩ := List.exists_cons_of_ne_nil filled
          cases later
          exact absurd List.mem_cons_self outside
      | cons d skipped =>
          cases later
          refine Or.inr ⟨skipped.length, ⟨filled, own, skipped, after, rfl, rfl, ?_, right⟩, ?_⟩
          · intro e last
            apply left
            simp [List.getLast?_append, List.getLast?_cons, last]
          · rw [← placed, List.length_append, List.length_cons]
            omega
    · -- It starts with the front, and ends with it.
      have first : before = [] :=
        before_eq_nil (fun d member => kept d (by simp [whole, member])) left
      rw [first, List.nil_append] at whole
      subst first whole
      have same : run = front := by
        rcases List.append_eq_append_iff.mp started with ⟨more, rfl, ended⟩ | ⟨more, rfl, ended⟩
        · have last : more = [] := after_eq_nil (fun d member => kept d (by simp [member])) (by
            intro d next
            apply right
            rw [ended, List.head?_append, next]
            rfl)
          rw [last, List.append_nil]
        · cases more with
          | nil => exact List.append_nil _
          | cons d more =>
              cases ended
              exact absurd (by simp) outside
      exact Or.inl ⟨⟨placed.symm, same⟩, same ▸ filled⟩
  · rintro (⟨⟨rfl, rfl⟩, filled⟩ | ⟨later, ⟨filled, own, before, after, rfl, placed, left, right⟩, rfl⟩)
    · refine ⟨filled, kept, [], c :: rest, rfl, rfl, by simp, ?_⟩
      intro d first
      cases first
      exact broken
    · refine ⟨filled, own, front ++ c :: before, after, by simp, ?_, ?_, right⟩
      · rw [List.length_append, List.length_cons]
        omega
      · intro d last
        cases before with
        | nil =>
            rw [List.getLast?_concat] at last
            cases last
            exact broken
        | cons e more =>
            apply left
            simpa [List.getLast?_append, List.getLast?_cons] using last

structure Placed (keep : Char → Bool) (text : List Char) (runs : List (Nat × List Char)) :
    Prop where
  ordered : runs.Pairwise fun a b => a.1 < b.1
  all : ∀ start run, (start, run) ∈ runs ↔ RunAt keep text start run

theorem placed_whole {text : List Char} (kept : ∀ c ∈ text, keep c = true) :
    Placed keep text (if text = [] then [] else [(0, text)]) where
  ordered := by
    split
    · exact List.Pairwise.nil
    · exact List.pairwise_singleton _ _
  all start run := by
    rw [runAt_whole_iff kept]
    split <;> simp_all

theorem Placed.after {front rest : List Char} {runs : List (Nat × List Char)} {c : Char}
    (placed : Placed keep rest runs) (kept : ∀ d ∈ front, keep d = true)
    (broken : keep c = false) :
    Placed keep (front ++ c :: rest) ((if front = [] then [] else [(0, front)]) ++
      runs.map (Prod.map (· + (front.length + 1)) id)) where
  ordered := by
    refine List.pairwise_append.mpr ⟨(placed_whole kept).ordered, ?_, ?_⟩
    · refine List.pairwise_map.mpr (placed.ordered.imp fun {a b} earlier => ?_)
      exact Nat.add_lt_add_right earlier _
    · intro a first b later
      obtain ⟨own, -, rfl⟩ := List.mem_map.mp later
      split at first
      · cases first
      · rw [List.mem_singleton.mp first]
        exact Nat.succ_pos _
  all start run := by
    rw [runAt_break_iff kept broken, List.mem_append, (placed_whole kept).all,
      runAt_whole_iff kept]
    refine or_congr Iff.rfl ?_
    simp only [List.mem_map, Prod.exists, Prod.map_apply, id_eq, Prod.mk.injEq, placed.all]
    constructor
    · rintro ⟨later, own, found, rfl, rfl⟩
      exact ⟨later, found, rfl⟩
    · rintro ⟨later, found, rfl⟩
      exact ⟨later, run, found, rfl, rfl⟩

/-- The scan holds the open run in reverse. -/
theorem exists_placedFrom {word : List Char} (text : List Char)
    (kept : ∀ c ∈ word, keep c = true) :
    ∃ runs, Placed keep (word.reverse ++ text) runs ∧
      runsFrom keep word text = runs.map Prod.snd := by
  induction text generalizing word with
  | nil =>
      rw [List.append_nil]
      refine ⟨_, placed_whole (by simpa using kept), ?_⟩
      cases word <;> simp [runsFrom]
  | cons c rest ih =>
      cases counted : keep c with
      | true =>
          obtain ⟨runs, placed, scanned⟩ := ih (List.forall_mem_cons.mpr ⟨counted, kept⟩)
          rw [List.reverse_cons, List.append_assoc] at placed
          refine ⟨runs, placed, ?_⟩
          rw [← scanned]
          cases word <;> simp [runsFrom, counted]
      | false =>
          obtain ⟨runs, placed, scanned⟩ := @ih [] (by simp)
          refine ⟨_, Placed.after placed (by simpa using kept) counted, ?_⟩
          rw [List.map_append, List.map_map]
          cases word <;> simp [runsFrom, counted, scanned]

theorem exists_placed (keep : Char → Bool) (text : List Char) :
    ∃ placed, Placed keep text placed ∧ runs keep text = placed.map Prod.snd :=
  @exists_placedFrom keep [] text (by simp)

theorem mem_runs_iff {text run : List Char} : run ∈ runs keep text ↔ IsRun keep text run := by
  obtain ⟨placed, places, scanned⟩ := exists_placed keep text
  simp only [scanned, isRun_iff, List.mem_map, Prod.exists, exists_eq_right, places.all]

theorem runsFrom_break {c : Char} (broken : keep c = false) (word front rest : List Char) :
    runsFrom keep word (front ++ c :: rest) = runsFrom keep word front ++ runs keep rest := by
  induction front generalizing word with
  | nil => cases word <;> simp [runsFrom, runs, broken]
  | cons d front ih =>
      cases counted : keep d with
      | true => cases word <;> simp [runsFrom, counted, ih]
      | false => cases word <;> simp [runsFrom, counted, ih]

def IsWord (text word : String) : Prop :=
  IsRun isAlphanumeric (lowercase text).toList word.toList

theorem mem_words_iff {text word : String} : word ∈ words text ↔ IsWord text word := by
  rw [words, List.mem_map, IsWord, lowercase, String.toList_ofList, ← mem_runs_iff]
  constructor
  · rintro ⟨run, found, rfl⟩
    rwa [String.toList_ofList]
  · intro found
    exact ⟨word.toList, found, String.ofList_toList⟩

def WordAt (text : String) (start : Nat) (word : String) : Prop :=
  RunAt isAlphanumeric (lowercase text).toList start word.toList

theorem exists_placed_words (text : String) :
    ∃ placed : List (Nat × String), placed.Pairwise (fun a b => a.1 < b.1) ∧
      words text = placed.map Prod.snd ∧
      ∀ start word, (start, word) ∈ placed ↔ WordAt text start word := by
  obtain ⟨placed, places, scanned⟩ := exists_placed isAlphanumeric (lowercaseChars text.toList)
  refine ⟨placed.map (Prod.map id String.ofList), ?_, ?_, fun start word => ?_⟩
  · exact List.pairwise_map.mpr places.ordered
  · rw [words, scanned, List.map_map, List.map_map]
    rfl
  · rw [WordAt, lowercase, String.toList_ofList, ← places.all]
    simp only [List.mem_map, Prod.exists, Prod.map_apply, id_eq, Prod.mk.injEq]
    constructor
    · rintro ⟨_, run, found, rfl, rfl⟩
      rwa [String.toList_ofList]
    · intro found
      exact ⟨start, word.toList, found, rfl, String.ofList_toList⟩

end Recall.Text
