import Recall.Schema.Migration

namespace Recall.Schema

def Provides : (target : Nat) → Schema → Prop
  | 2, schema => schema.observationIndex = true ∧ schema.promptIndex = true
  | 3, schema => schema.tokenCount = true
  | _, _ => True

/-- A run that succeeds ends at the current version or above it, and a schema that was not past
the first version then has both indexes and the token count. -/
def Migrates (schema : Schema) : Prop :=
  schema.migrate.2 = true →
    currentVersion ≤ schema.migrate.1.versionNumber ∧
      (schema.versionNumber ≤ 1 →
        schema.migrate.1.observationIndex = true ∧ schema.migrate.1.promptIndex = true ∧
          schema.migrate.1.tokenCount = true)

theorem migration?_cases (target : Nat) (schema : Schema) :
    (target = 2 ∧ migration? target schema =
      some (some { schema with observationIndex := true, promptIndex := true })) ∨
    (target = 3 ∧ schema.tokenCount = false ∧ migration? target schema =
      some (some { schema with tokenCount := true })) ∨
    (target = 3 ∧ schema.tokenCount = true ∧ migration? target schema = some none) ∨
    (target ≠ 2 ∧ target ≠ 3 ∧ migration? target schema = none) := by
  match target with
  | 2 => exact Or.inl ⟨rfl, rfl⟩
  | 3 =>
      cases counted : schema.tokenCount with
      | false => exact Or.inr (Or.inl ⟨rfl, rfl, by simp [migration?, counted]⟩)
      | true => exact Or.inr (Or.inr (Or.inl ⟨rfl, rfl, by simp [migration?, counted]⟩))
  | 0 | 1 | _ + 4 => exact Or.inr (Or.inr (Or.inr ⟨by omega, by omega, rfl⟩))

theorem versionNumber_stored {target : Nat} (known : target = 2 ∨ target = 3) (schema : Schema) :
    versionNumber { schema with version := toString target } = target := by
  have read : ∀ n < 4, (Number.naturalBelow? Number.halfWordBound (toString n)).getD 0 = n := by
    decide +kernel
  exact read target (by omega)

theorem provides_migrated {target : Nat} {schema changed : Schema}
    (ran : migration? target schema = some (some changed)) (version : String) :
    Provides target { changed with version } ∧
      ∀ other, Provides other schema → Provides other { changed with version } := by
  rcases migration?_cases target schema with
    ⟨rfl, does⟩ | ⟨rfl, -, does⟩ | ⟨rfl, -, does⟩ | ⟨-, -, does⟩
  · rw [does] at ran
    cases ran
    refine ⟨⟨rfl, rfl⟩, fun other there => ?_⟩
    match other with
    | 2 => exact ⟨rfl, rfl⟩
    | 0 | 1 | 3 | _ + 4 => exact there
  · rw [does] at ran
    cases ran
    refine ⟨rfl, fun other there => ?_⟩
    match other with
    | 3 => exact rfl
    | 0 | 1 | 2 | _ + 4 => exact there
  · rw [does] at ran
    cases ran
  · rw [does] at ran
    cases ran

theorem migrateFrom_provides {steps version : Nat} {schema after : Schema}
    (first : 1 ≤ version) (last : version + steps ≤ currentVersion)
    (own : schema.versionNumber = version)
    (ran : migrateFrom steps version schema = (after, true)) :
    after.versionNumber = version + steps ∧
      ∀ target, Provides target schema ∨ (version < target ∧ target ≤ version + steps) →
        Provides target after := by
  induction steps generalizing version schema with
  | zero =>
      cases ran
      refine ⟨own, fun target given => ?_⟩
      rcases given with there | within
      · exact there
      · omega
  | succ steps ih =>
      have known : version + 1 = 2 ∨ version + 1 = 3 := by
        rw [currentVersion] at last
        omega
      have goesOn : ∀ changed, migration? (version + 1) schema = some (some changed) →
          after.versionNumber = version + (steps + 1) ∧
            ∀ target, Provides target schema ∨
              (version < target ∧ target ≤ version + (steps + 1)) → Provides target after := by
        intro changed does
        obtain ⟨new, kept⟩ := provides_migrated does (toString (version + 1))
        rw [migrateFrom, does] at ran
        obtain ⟨ends, provided⟩ :=
          ih (Nat.le_add_left 1 version) (by omega) (versionNumber_stored known changed) ran
        refine ⟨by omega, fun target given => provided target ?_⟩
        rcases given with there | within
        · exact Or.inl (kept target there)
        · by_cases next : target = version + 1
          · rw [next]
            exact Or.inl new
          · exact Or.inr (by omega)
      rcases migration?_cases (version + 1) schema with
        ⟨-, does⟩ | ⟨-, -, does⟩ | ⟨-, -, does⟩ | ⟨other, another, -⟩
      · exact goesOn _ does
      · exact goesOn _ does
      · rw [migrateFrom, does] at ran
        cases ran
      · omega

theorem migrateFrom_fails_iff {steps version : Nat} {schema : Schema} (first : 1 ≤ version) :
    (migrateFrom steps version schema).2 = false ↔
      version ≤ 2 ∧ 3 ≤ version + steps ∧ schema.tokenCount = true := by
  induction steps generalizing version schema with
  | zero =>
      simp only [migrateFrom, Bool.true_eq_false, false_iff]
      omega
  | succ steps ih =>
      rcases migration?_cases (version + 1) schema with
        ⟨next, does⟩ | ⟨next, absent, does⟩ | ⟨next, present, does⟩ | ⟨other, another, does⟩
      · simp only [migrateFrom, does, ih (Nat.le_add_left 1 version), ← and_assoc]
        exact and_congr_left fun _ => by omega
      · simp only [migrateFrom, does, ih (Nat.le_add_left 1 version), absent]
        simp only [Bool.false_eq_true, and_false, iff_false]
        omega
      · simp only [migrateFrom, does, true_iff]
        exact ⟨by omega, by omega, present⟩
      · simp only [migrateFrom, does, Bool.true_eq_false, false_iff]
        omega

theorem migrate_of_zero {schema : Schema} (zero : schema.versionNumber = 0) :
    schema.migrate = (schema, true) := by
  rw [migrate, zero]
  rfl

theorem migrate_of_current {schema : Schema} (current : currentVersion ≤ schema.versionNumber) :
    schema.migrate = (schema, true) := by
  rw [migrate, Nat.sub_eq_zero_of_le current]
  rfl

theorem migrates_of_positive {schema : Schema} (positive : 1 ≤ schema.versionNumber) :
    schema.Migrates := by
  intro succeeded
  by_cases current : currentVersion ≤ schema.versionNumber
  · rw [migrate_of_current current]
    refine ⟨current, fun low => ?_⟩
    rw [currentVersion] at current
    omega
  · have ran : migrateFrom (currentVersion - schema.versionNumber) schema.versionNumber schema =
        (schema.migrate.1, true) := Prod.ext rfl succeeded
    obtain ⟨ends, provided⟩ := migrateFrom_provides positive (by omega) rfl ran
    have total : schema.versionNumber + (currentVersion - schema.versionNumber) = 3 := by
      rw [currentVersion] at current ⊢
      omega
    rw [total] at ends provided
    refine ⟨Nat.le_of_eq ends.symm, fun low => ?_⟩
    have indexes : Provides 2 schema.migrate.1 := provided 2 (Or.inr (by omega))
    have count : Provides 3 schema.migrate.1 := provided 3 (Or.inr (by omega))
    exact ⟨indexes.1, indexes.2, count⟩

/-- A schema is migrated unless its version reads as zero, and then nothing happens to it. A run
fails only where the token count is there before its migration. -/
theorem migrated_iff_versioned (schema : Schema) :
    (schema.Migrates ↔ schema.versionNumber ≠ 0) ∧
      (schema.versionNumber = 0 → schema.migrate = (schema, true)) ∧
      (schema.migrate.2 = false ↔
        (schema.versionNumber = 1 ∨ schema.versionNumber = 2) ∧ schema.tokenCount = true) := by
  refine ⟨⟨?_, fun versioned => migrates_of_positive (Nat.pos_of_ne_zero versioned)⟩,
    migrate_of_zero, ?_⟩
  · intro migrates zero
    rw [Migrates, migrate_of_zero zero] at migrates
    have reached := (migrates rfl).1
    rw [zero] at reached
    cases reached
  · by_cases zero : schema.versionNumber = 0
    · rw [migrate_of_zero zero, zero]
      simp
    · rw [migrate, migrateFrom_fails_iff (Nat.pos_of_ne_zero zero), currentVersion, ← and_assoc]
      exact and_congr_left fun _ => by omega

def handmade : Schema := { version := "+1", promptIndex := true }

theorem handmade_migrates :
    handmade.versionNumber ≠ 0 ∧ handmade.Migrates ∧ handmade.migrate.2 = true ∧
      handmade.migrate.1.versionNumber = currentVersion ∧
      handmade.migrate.1.tokenCount = true := by
  have first : handmade.versionNumber = 1 := by decide +kernel
  obtain ⟨migrates, -, fails⟩ := migrated_iff_versioned handmade
  have versioned : handmade.versionNumber ≠ 0 := by
    rw [first]
    exact Nat.one_ne_zero
  have succeeded : handmade.migrate.2 = true := by
    rw [← Bool.not_eq_false, fails]
    exact fun both => Bool.false_ne_true both.2
  obtain ⟨-, made⟩ := migrates.mpr versioned succeeded
  obtain ⟨-, -, counted⟩ := made (Nat.le_of_eq first)
  exact ⟨versioned, migrates.mpr versioned, succeeded, by decide +kernel, counted⟩

theorem unnumbered_not_migrated :
    let unnumbered : Schema := { version := "abc" }
    ¬ unnumbered.Migrates ∧ unnumbered.migrate.2 = true ∧
      unnumbered.migrate.1.versionNumber = 0 ∧ unnumbered.migrate.1.tokenCount = false := by
  intro unnumbered
  have ran : unnumbered.migrate = (unnumbered, true) := by decide +kernel
  have zero : unnumbered.versionNumber = 0 := by decide +kernel
  rw [Migrates, ran, zero]
  exact ⟨fun migrates => absurd (migrates rfl).1 (by decide), rfl, rfl, rfl⟩

end Recall.Schema
