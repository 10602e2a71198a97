import TaskBoard.Postgres.Session

/-!
# Bringing a database up to date

A database without a version gets the whole schema, the first rows and the version, by three
statements one after the other.  A database with an older version gets one migration after
the other, each in a transaction of its own that also records it.  A database with a newer
version is left alone.

    a database at the version of the schema is left alone       (upgradeFrom_zero)
-/

namespace TaskBoard.Postgres

open Session

/-- The whole schema for a database without one. -/
def install (now : Int) : Session Unit := do
  ask .createSchema
  ask .insertSeeds
  ask (.recordVersion Schema.version now)

/-- Gives the fault of a migration its name. -/
def migrating {α : Type} (m : Migration) (s : Session α) : Session α :=
  ExceptT.mk do
    match ← s.run with
    | .error (.database f) => pure (.error (.migrationFailed m.version m.name f.message))
    | r => pure r

/-- The migration to one version. -/
def applyMigration (now version : Int) : Session Unit := do
  match Schema.migration? version with
  | none =>
    throw (.migrationFailed version "unknown"
      ("No migration defined for version " ++ Numeral.text version))
  | some m => do
    ask .beginTransaction
    let elapsed ← migrating m (ask (.migrate m))
    ask (.recordMigration m now elapsed)
    ask (.setVersion version now)
    ask .commit

/-- The migrations to the next `count` versions. -/
def upgradeFrom (now version : Int) : Nat → Session Unit
  | 0 => pure ()
  | count + 1 => do
    applyMigration now (version + 1)
    upgradeFrom now (version + 1) count

/-- Brings the database up to date. -/
def upgrade (now : Int) : Session Unit := do
  if ← one (← ask .hasVersions) then
    match ← ask .readVersion with
    | none => install now
    | some version => upgradeFrom now version (Schema.version - version).toNat
  else install now

/-! ## Lemmas -/

theorem upgradeFrom_zero (now version : Int) : upgradeFrom now version 0 = pure () := rfl

end TaskBoard.Postgres
