import Recall.Proofs.Migrations

/-!
A run of migrations step by step. A step that succeeds commits what it makes together with its
version, and a step that fails commits nothing. So wherever a run ends, the version tells what
has been added, and a further run from there has nothing to do.
-/

namespace Recall.Schema

inductive Object
  | observationIndex
  | promptIndex
  | tokenCount
  deriving DecidableEq, Repr

def has (schema : Schema) : Object → Bool
  | .observationIndex => schema.observationIndex
  | .promptIndex => schema.promptIndex
  | .tokenCount => schema.tokenCount

def make (schema : Schema) : Object → Schema
  | .observationIndex => { schema with observationIndex := true }
  | .promptIndex => { schema with promptIndex := true }
  | .tokenCount => { schema with tokenCount := true }

/-- A statement makes one object. If the object is there already, it is left as it is, or the
statement fails. -/
structure Statement where
  object : Object
  onlyIfMissing : Bool

def Statement.run (schema : Schema) (statement : Statement) : Option Schema :=
  if schema.has statement.object then if statement.onlyIfMissing then some schema else none
  else some (schema.make statement.object)

def script : (target : Nat) → Option (List Statement)
  | 2 => some [⟨.observationIndex, true⟩, ⟨.promptIndex, true⟩]
  | 3 => some [⟨.tokenCount, false⟩]
  | _ => none

def madeBy (target : Nat) : List Object := ((script target).getD []).map Statement.object

/-- How a run goes on from a version: as long as the version is below the current one, the next
migration is made, and its version is stored with it. -/
inductive Runs : (version : Nat) → (schema after : Schema) → (succeeded : Bool) → Prop
  | reached {version : Nat} {schema : Schema} (current : currentVersion ≤ version) :
      Runs version schema schema true
  | unknown {version : Nat} {schema : Schema} (below : version < currentVersion)
      (unlisted : migration? (version + 1) schema = none) : Runs version schema schema true
  | failed {version : Nat} {schema : Schema} (below : version < currentVersion)
      (fails : migration? (version + 1) schema = some none) : Runs version schema schema false
  | committed {version : Nat} {schema changed after : Schema} {succeeded : Bool}
      (below : version < currentVersion)
      (ran : migration? (version + 1) schema = some (some changed))
      (rest : Runs (version + 1) { changed with version := toString (version + 1) } after
        succeeded) : Runs version schema after succeeded

theorem Runs.migrateFrom_eq {version : Nat} {schema after : Schema} {succeeded : Bool}
    (run : Runs version schema after succeeded) :
    migrateFrom (currentVersion - version) version schema = (after, succeeded) := by
  have next {version : Nat} (below : version < currentVersion) :
      currentVersion - version = currentVersion - (version + 1) + 1 := by omega
  induction run with
  | reached current =>
      rw [Nat.sub_eq_zero_of_le current]
      rfl
  | unknown below unlisted =>
      rw [next below, migrateFrom, unlisted]
  | failed below fails =>
      rw [next below, migrateFrom, fails]
  | committed below ran rest ih =>
      rw [next below, migrateFrom, ran]
      exact ih

theorem runs_migrateFrom {steps : Nat} (version : Nat)
    (left : currentVersion - version = steps) (schema : Schema) :
    Runs version schema (migrateFrom steps version schema).1
      (migrateFrom steps version schema).2 := by
  induction steps generalizing version schema with
  | zero => exact Runs.reached (Nat.le_of_sub_eq_zero left)
  | succ steps ih =>
      have below : version < currentVersion := by omega
      cases step : migration? (version + 1) schema with
      | none =>
          simp only [migrateFrom, step]
          exact Runs.unknown below step
      | some result =>
          cases result with
          | none =>
              simp only [migrateFrom, step]
              exact Runs.failed below step
          | some changed =>
              simp only [migrateFrom, step]
              apply Runs.committed below step
              apply ih
              omega

theorem runs_iff {schema after : Schema} {succeeded : Bool} :
    Runs schema.versionNumber schema after succeeded ↔ schema.migrate = (after, succeeded) := by
  constructor
  · intro run
    exact run.migrateFrom_eq
  · intro ended
    have run := runs_migrateFrom schema.versionNumber rfl schema
    rw [← migrate, ended] at run
    exact run

theorem has_make (schema : Schema) (made object : Object) :
    (schema.make made).has object = true ↔ schema.has object = true ∨ object = made := by
  cases made <;> cases object <;> simp [make, has]

theorem has_of_run {schema changed : Schema} {statement : Statement}
    (ran : statement.run schema = some changed) (object : Object) :
    changed.has object = true ↔ schema.has object = true ∨ object = statement.object := by
  rw [Statement.run] at ran
  split at ran
  · rename_i there
    split at ran
    · cases ran
      constructor
      · intro own
        exact Or.inl own
      · rintro (own | rfl)
        · exact own
        · exact there
    · cases ran
  · cases ran
    exact has_make schema statement.object object

theorem has_of_runs {statements : List Statement} {schema changed : Schema}
    (ran : statements.foldlM Statement.run schema = some changed) (object : Object) :
    changed.has object = true ↔
      schema.has object = true ∨ object ∈ statements.map Statement.object := by
  induction statements generalizing schema with
  | nil =>
      cases ran
      simp
  | cons statement rest ih =>
      rw [List.foldlM_cons] at ran
      obtain ⟨between, first, later⟩ := Option.bind_eq_some_iff.mp ran
      rw [ih later, has_of_run first, List.map_cons, List.mem_cons, or_assoc]

theorem migration?_eq_script (target : Nat) (schema : Schema) :
    migration? target schema =
      (script target).map fun statements => statements.foldlM Statement.run schema := by
  obtain ⟨version, observationIndex, promptIndex, tokenCount⟩ := schema
  match target with
  | 2 => cases observationIndex <;> cases promptIndex <;> rfl
  | 3 => cases tokenCount <;> rfl
  | 0 | 1 | _ + 4 => rfl

theorem has_migrated {target : Nat} {schema changed : Schema}
    (ran : migration? target schema = some (some changed)) (version : String) (object : Object) :
    has { changed with version } object = true ↔
      schema.has object = true ∨ object ∈ madeBy target := by
  rw [migration?_eq_script] at ran
  obtain ⟨statements, listed, made⟩ := Option.map_eq_some_iff.mp ran
  rw [madeBy, listed, Option.getD_some, ← has_of_runs made]
  cases object <;> rfl

theorem versionNumber_migrated {target : Nat} {schema changed : Schema}
    (ran : migration? target schema = some (some changed)) :
    versionNumber { changed with version := toString target } = target := by
  apply versionNumber_stored
  rcases migration?_cases target schema with
    ⟨second, -⟩ | ⟨third, -, -⟩ | ⟨third, -, -⟩ | ⟨-, -, unlisted⟩
  · exact Or.inl second
  · exact Or.inr third
  · exact Or.inr third
  · rw [unlisted] at ran
    cases ran

structure Advances (schema after : Schema) (succeeded : Bool) : Prop where
  forward : schema.versionNumber ≤ after.versionNumber
  objects : ∀ object, after.has object = true ↔ schema.has object = true ∨
    ∃ target, schema.versionNumber < target ∧ target ≤ after.versionNumber ∧
      object ∈ madeBy target
  again : Runs after.versionNumber after after succeeded

theorem advances_refl {schema : Schema} {succeeded : Bool}
    (again : Runs schema.versionNumber schema schema succeeded) :
    Advances schema schema succeeded where
  forward := Nat.le_refl _
  objects object := by
    constructor
    · intro there
      exact Or.inl there
    · rintro (there | ⟨target, above, within, -⟩)
      · exact there
      · omega
  again

theorem Advances.step {target : Nat} {schema changed after : Schema} {succeeded : Bool}
    (next : target = schema.versionNumber + 1)
    (ran : migration? target schema = some (some changed))
    (rest : Advances { changed with version := toString target } after succeeded) :
    Advances schema after succeeded := by
  have stored := versionNumber_migrated ran
  have forward := rest.forward
  rw [stored] at forward
  refine ⟨by omega, fun object => ?_, rest.again⟩
  rw [rest.objects object, has_migrated ran, stored, or_assoc]
  apply or_congr_right
  constructor
  · rintro (made | ⟨later, above, within, made⟩)
    · exact ⟨target, by omega, forward, made⟩
    · exact ⟨later, by omega, within, made⟩
  · rintro ⟨later, above, within, made⟩
    rcases Nat.eq_or_lt_of_le (show target ≤ later by omega) with rfl | beyond
    · exact Or.inl made
    · exact Or.inr ⟨later, beyond, within, made⟩

/-- By induction on the run: the version that is counted is always the one that is stored. -/
theorem Runs.advances {version : Nat} {schema after : Schema} {succeeded : Bool}
    (run : Runs version schema after succeeded) (own : schema.versionNumber = version) :
    Advances schema after succeeded := by
  induction run with
  | reached current =>
      apply advances_refl
      exact Runs.reached (by rwa [own])
  | unknown below unlisted =>
      apply advances_refl
      rw [own]
      exact Runs.unknown below unlisted
  | failed below fails =>
      apply advances_refl
      rw [own]
      exact Runs.failed below fails
  | committed below ran rest ih =>
      apply Advances.step (by rw [own]) ran
      exact ih (versionNumber_migrated ran)

/-- The steps of a run are made whole: it ends, the version is not lowered, and what is there
afterwards is what was there before and what the migrations up to the final version make. If
the run fails, the migration after that version is the one that does. What a run leaves, a
further run leaves as it is, and ends in the same way. -/
theorem migrate_whole_steps (schema : Schema) :
    (∀ after succeeded, Runs schema.versionNumber schema after succeeded ↔
      schema.migrate = (after, succeeded)) ∧
    schema.versionNumber ≤ schema.migrate.1.versionNumber ∧
    (∀ object, schema.migrate.1.has object = true ↔ schema.has object = true ∨
      ∃ target, schema.versionNumber < target ∧ target ≤ schema.migrate.1.versionNumber ∧
        object ∈ madeBy target) ∧
    (schema.migrate.2 = false →
      migration? (schema.migrate.1.versionNumber + 1) schema.migrate.1 = some none) ∧
    schema.migrate.1.migrate = schema.migrate := by
  have run : Runs schema.versionNumber schema schema.migrate.1 schema.migrate.2 :=
    runs_iff.mpr rfl
  have advances := run.advances rfl
  refine ⟨fun after succeeded => runs_iff, advances.forward, advances.objects, ?_,
    runs_iff.mp advances.again⟩
  intro failure
  have again := advances.again
  rw [failure] at again
  cases again with
  | failed below fails => exact fails
  | committed below ran rest =>
      -- Nothing can be committed, as the version would have gone up.
      have stored := versionNumber_migrated ran
      have forward := (rest.advances stored).forward
      omega

def halfMade : Schema := { promptIndex := true, tokenCount := true }

theorem halfMade_stops :
    halfMade.migrate.2 = false ∧ halfMade.migrate.1.versionNumber = 2 ∧
      migration? 3 halfMade.migrate.1 = some none ∧
      (∀ object, halfMade.migrate.1.has object = true ↔
        halfMade.has object = true ∨ object = .observationIndex) ∧
      halfMade.migrate.1.migrate = halfMade.migrate := by
  obtain ⟨-, -, objects, fails, again⟩ := migrate_whole_steps halfMade
  have first : halfMade.versionNumber = 1 := by decide +kernel
  have failure : halfMade.migrate.2 = false := by decide +kernel
  have second : halfMade.migrate.1.versionNumber = 2 := by decide +kernel
  have stopped := fails failure
  rw [second] at stopped
  refine ⟨failure, second, stopped, fun object => ?_, again⟩
  rw [objects object, first, second]
  constructor
  · rintro (there | ⟨target, above, within, made⟩)
    · exact Or.inl there
    · obtain rfl : target = 2 := by omega
      have listed : madeBy 2 = [.observationIndex, .promptIndex] := rfl
      rw [listed, List.mem_cons, List.mem_singleton] at made
      rcases made with rfl | rfl
      · exact Or.inr rfl
      · exact Or.inl rfl
  · rintro (there | rfl)
    · exact Or.inl there
    · exact Or.inr ⟨2, Nat.one_lt_two, Nat.le_refl 2, List.mem_cons_self⟩

end Recall.Schema
