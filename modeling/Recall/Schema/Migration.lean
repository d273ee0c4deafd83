import Recall.Number.Decimal
import Recall.Number.Word

/-!
Versions of the stored schema. The version is kept as text beside the data; migrations bring
an older schema up to date one version at a time, each as a whole or not at all.
-/

namespace Recall

structure Schema where
  version : String := "1"
  /-- The index for finding the newest observations of a pool. -/
  observationIndex : Bool := false
  /-- The index for finding the newest prompts. -/
  promptIndex : Bool := false
  /-- Prompts have a token count. -/
  tokenCount : Bool := false
  deriving DecidableEq, Repr

namespace Schema

def currentVersion : Nat := 3

/-- A text that is no unsigned 32-bit number counts as version zero. -/
def versionNumber (schema : Schema) : Nat :=
  (Number.naturalBelow? Number.halfWordBound schema.version).getD 0

/-- What a migration does to the schema: nothing when it is not known, and nothing inside
when it fails. -/
def migration? : (target : Nat) → Schema → Option (Option Schema)
  | 2, schema => some (some { schema with observationIndex := true, promptIndex := true })
  | 3, schema =>
    some (if schema.tokenCount then none else some { schema with tokenCount := true })
  | _, _ => none

/-- Migrates by at most so many versions. A migration that fails ends the run with an error,
one that is not known ends it without. -/
def migrateFrom : (steps version : Nat) → Schema → Schema × Bool
  | 0, _, schema => (schema, true)
  | steps + 1, version, schema =>
    match migration? (version + 1) schema with
    | none => (schema, true)
    | some none => (schema, false)
    | some (some changed) =>
      migrateFrom steps (version + 1) { changed with version := toString (version + 1) }

def migrate (schema : Schema) : Schema × Bool :=
  migrateFrom (currentVersion - schema.versionNumber) schema.versionNumber schema

end Schema

end Recall
