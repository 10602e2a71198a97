import TaskBoard.Postgres.Upgrade
import TaskBoard.Proofs.Postgres.Database
import TaskBoard.Proofs.Program

/-!
# The catalog of a database

What an upgrade reads and writes: which tables and indexes are there, which of the first rows, the
version, and the migrations that have been recorded.  Tables and indexes are known by their names;
what is there already is not created again.

An upgrade can be interrupted between any two of its statements; a transaction that is open then is
dropped.  All that it can do to the catalog are four changes.

    what is created is there                                    (has_create)
    a statement does one of the changes, or nothing             (Installer.perform_cases)
-/

namespace TaskBoard.Postgres

/-! ## Tables and indexes -/

namespace SchemaItem

def name : SchemaItem → String
  | .table name _ => name
  | .index name _ => name

/-- Whether the item is the table of this name. -/
def isTable (name : String) : SchemaItem → Bool
  | .table n _ => n == name
  | .index _ _ => false

/-- The table of an index: its target begins with it. -/
def indexed? : SchemaItem → Option String
  | .table _ _ => none
  | .index _ target => some (String.ofList (target.toList.takeWhile (· ≠ '(')))

end SchemaItem

namespace Schema

/-- The tables and indexes of the schema. -/
def items : List SchemaItem := parts.flatMap (·.items)

/-- The tables that keep the version and the migrations. -/
def versionTable : String := "schema_version"
def migrationTable : String := "schema_migrations"

end Schema

/-- What a migration creates: the items of the schema whose statement it is. -/
def Migration.items (m : Migration) : List SchemaItem := Schema.items.filter fun i => i.sql == m.sql

/-- Every migration is the statement of some item. -/
theorem items_migration_ne_nil : ∀ m ∈ Schema.migrations, m.items ≠ [] := by decide

/-! ## Catalogs -/

/-- What an upgrade reads and writes.  A version and a migration are rows of their tables. -/
structure Catalog where
  items : List SchemaItem
  /-- Those of the first rows that are there. -/
  seeds : List Seed
  version : Option Int
  /-- The versions whose migrations have been recorded. -/
  recorded : List Int
  version_in : version.isSome → items.any (SchemaItem.isTable Schema.versionTable)
  recorded_in : recorded ≠ [] → items.any (SchemaItem.isTable Schema.migrationTable)

namespace Catalog

/-- A database without anything. -/
def empty : Catalog := ⟨[], [], none, [], by simp, by simp⟩

def hasTable (c : Catalog) (name : String) : Bool := c.items.any (SchemaItem.isTable name)

/-- A table or an index of this name is there. -/
def Has (c : Catalog) (name : String) : Prop := ∃ i ∈ c.items, i.name = name

/-- Everything is there that the migration creates. -/
def Done (c : Catalog) (m : Migration) : Prop := ∀ i ∈ m.items, c.Has i.name

/-- Adds an item, unless its name is there. -/
def add (items : List SchemaItem) (i : SchemaItem) : List SchemaItem :=
  if items.any (·.name == i.name) then items else items ++ [i]

theorem subset_add (items : List SchemaItem) (i : SchemaItem) : items ⊆ add items i := by
  unfold add
  split
  · exact fun _ h => h
  · exact List.subset_append_left _ _

theorem subset_foldl_add (is items : List SchemaItem) : items ⊆ is.foldl add items := by
  induction is generalizing items with
  | nil => exact fun _ h => h
  | cons i is ih => exact fun _ h => ih _ (subset_add items i h)

theorem any_of_subset {p : SchemaItem → Bool} {items items' : List SchemaItem}
    (h : items ⊆ items') (hp : items.any p = true) : items'.any p = true := by
  obtain ⟨i, hi, hpi⟩ := List.any_eq_true.1 hp
  exact List.any_eq_true.2 ⟨i, h hi, hpi⟩

/-! ### Changes -/

/-- Creates tables and indexes. -/
def create (c : Catalog) (is : List SchemaItem) : Catalog where
  items := is.foldl add c.items
  seeds := c.seeds
  version := c.version
  recorded := c.recorded
  version_in h := any_of_subset (subset_foldl_add _ _) (c.version_in h)
  recorded_in h := any_of_subset (subset_foldl_add _ _) (c.recorded_in h)

/-- Puts the first rows in, as far as they are not there. -/
def plant (c : Catalog) (seeds : List Seed) : Catalog :=
  { c with seeds := c.seeds ++ seeds.filter (· ∉ c.seeds) }

/-- Puts the version in, or replaces it. -/
def putVersion (c : Catalog) (v : Int) (h : c.hasTable Schema.versionTable) : Catalog :=
  { c with version := some v, version_in := fun _ => h }

/-- Replaces the version, if there is one. -/
def setVersion (c : Catalog) (v : Int) : Catalog where
  items := c.items
  seeds := c.seeds
  version := c.version.map fun _ => v
  recorded := c.recorded
  version_in h := c.version_in (by simpa using h)
  recorded_in := c.recorded_in

def record (c : Catalog) (v : Int) (h : c.hasTable Schema.migrationTable) : Catalog :=
  { c with recorded := c.recorded ++ [v], recorded_in := fun _ => h }

end Catalog

/-! ## Statements -/

/-- How far a transaction of an upgrade is. -/
inductive Catalog.Transaction
  | closed
  /-- The catalog as the transaction sees it. -/
  | running (c : Catalog)
  | failed

/-- The connection of an upgrade. -/
structure Installer where
  stored : Catalog
  transaction : Catalog.Transaction
  /-- How many statements have been sent. -/
  asked : Nat

def missingTable : DatabaseFault := .refused "relation does not exist"

namespace Installer

/-- The catalog as a statement sees it. -/
def seen (i : Installer) : Catalog :=
  match i.transaction with
  | .running c => c
  | _ => i.stored

def write (i : Installer) (c : Catalog) : Installer :=
  match i.transaction with
  | .running _ => { i with transaction := .running c }
  | _ => { i with stored := c }

/-- A transaction that is running has failed. -/
def fail (i : Installer) : Installer :=
  match i.transaction with
  | .running _ => { i with transaction := .failed }
  | _ => i

def start (i : Installer) : Installer :=
  match i.transaction with
  | .closed => { i with transaction := .running i.stored }
  | _ => i

def commit (i : Installer) : Installer :=
  match i.transaction with
  | .running c => { i with stored := c, transaction := .closed }
  | _ => { i with transaction := .closed }

def counted (i : Installer) : Installer := { i with asked := i.asked + 1 }

variable (w : Surroundings)

/-- What an accepted statement does, if it is the statement with this number. -/
def accept (n : Nat) (s : Statement) (i : Installer) : Except DatabaseFault s.Reply × Installer :=
  match s with
  | .hasVersions => (.ok (some (i.seen.hasTable Schema.versionTable)), i)
  | .readVersion =>
    if i.seen.hasTable Schema.versionTable then (.ok i.seen.version, i)
    else (.error missingTable, i.fail)
  | .createSchema => (.ok (), i.write (i.seen.create Schema.items))
  | .insertSeeds =>
    if Schema.seeds.all fun s => i.seen.hasTable s.table then
      (.ok (), i.write (i.seen.plant Schema.seeds))
    else (.error missingTable, i.fail)
  | .recordVersion v _ =>
    if h : i.seen.hasTable Schema.versionTable then (.ok (), i.write (i.seen.putVersion v h))
    else (.error missingTable, i.fail)
  | .migrate m =>
    if m.items.all fun item => item.indexed?.all i.seen.hasTable then
      (.ok (w.reply (.migrate m) n), i.write (i.seen.create m.items))
    else (.error missingTable, i.fail)
  | .recordMigration m _ _ =>
    if h : i.seen.hasTable Schema.migrationTable then
      if m.version ∈ i.seen.recorded then (.error duplicateKey, i.fail)
      else (.ok (), i.write (i.seen.record m.version h))
    else (.error missingTable, i.fail)
  | .setVersion v _ =>
    if i.seen.hasTable Schema.versionTable then (.ok (), i.write (i.seen.setVersion v))
    else (.error missingTable, i.fail)
  | .beginTransaction => (.ok (), i.start)
  | .commit => (.ok (), i.commit)
  | .rollback => (.ok (), { i with transaction := .closed })
  | s => (.ok (w.reply s n), i)

/-- What a statement does. -/
def perform (s : Statement) (i : Installer) : Except DatabaseFault s.Reply × Installer :=
  match w.refusal i.asked, i.transaction with
  | some f, _ => (.error f, i.counted.fail)
  | none, .failed =>
    if Client.isEnd s then i.counted.accept w i.asked s
    else (.error inFailedTransaction, i.counted)
  | none, _ => i.counted.accept w i.asked s

end Installer

namespace Catalog

variable (w : Surroundings) (now : Int)

/-- The result of an upgrade, and the catalog after it. -/
def upgraded (c : Catalog) : Except PostgresError Unit × Catalog :=
  let (r, i) := (upgrade now).run.run (Installer.perform w) ⟨c, .closed, 0⟩
  (r, i.stored)

/-- The catalog after an upgrade that was interrupted after so many statements. -/
def interrupted (n : Nat) (c : Catalog) : Catalog :=
  ((upgrade now).run.after (Installer.perform w) n ⟨c, .closed, 0⟩).stored

/-- One catalog comes from another one by upgrades, each of them interrupted anywhere. -/
inductive Reaches (start : Catalog) : Catalog → Prop
  | start : Reaches start start
  | attempt {c : Catalog} (h : Reaches start c) (w : Surroundings) (now : Int) (n : Nat) :
    Reaches start (c.interrupted w now n)

end Catalog

/-! ## Lemmas -/

namespace Catalog

variable {c : Catalog} {name : String}

@[simp] theorem version_create (is : List SchemaItem) : (c.create is).version = c.version := rfl
@[simp] theorem recorded_create (is : List SchemaItem) : (c.create is).recorded = c.recorded := rfl
@[simp] theorem seeds_create (is : List SchemaItem) : (c.create is).seeds = c.seeds := rfl
@[simp] theorem items_plant (seeds : List Seed) : (c.plant seeds).items = c.items := rfl
@[simp] theorem version_plant (seeds : List Seed) : (c.plant seeds).version = c.version := rfl
@[simp] theorem recorded_plant (seeds : List Seed) : (c.plant seeds).recorded = c.recorded := rfl

theorem version_setVersion {u : Int} (hv : c.version = some u) (v : Int) :
    (c.setVersion v).version = some v := by
  show c.version.map _ = _
  rw [hv]
  rfl

theorem items_subset_create (c : Catalog) (is : List SchemaItem) : c.items ⊆ (c.create is).items :=
  subset_foldl_add is c.items

theorem seeds_subset_plant (c : Catalog) (seeds : List Seed) : c.seeds ⊆ (c.plant seeds).seeds :=
  List.subset_append_left _ _

theorem mem_seeds_plant {seeds : List Seed} {s : Seed} (h : s ∈ seeds) :
    s ∈ (c.plant seeds).seeds := by
  by_cases hs : s ∈ c.seeds
  · exact List.mem_append_left _ hs
  · exact List.mem_append_right _ (List.mem_filter.2 ⟨h, decide_eq_true hs⟩)

theorem Has.mono {c' : Catalog} (h : c.Has name) (hsub : c.items ⊆ c'.items) : c'.Has name := by
  obtain ⟨i, hi, hname⟩ := h
  exact ⟨i, hsub hi, hname⟩

theorem hasTable_mono {c' : Catalog} (h : c.hasTable name = true) (hsub : c.items ⊆ c'.items) :
    c'.hasTable name = true :=
  any_of_subset hsub h

/-- An item that is added has been there, or is there now. -/
theorem exists_mem_add (items : List SchemaItem) (i : SchemaItem) :
    ∃ j ∈ add items i, j.name = i.name := by
  unfold add
  split
  · next h =>
    obtain ⟨j, hj, hname⟩ := List.any_eq_true.1 h
    exact ⟨j, hj, beq_iff_eq.1 hname⟩
  · exact ⟨i, List.mem_append_right _ (List.mem_singleton_self i), rfl⟩

/-- What is created is there. -/
theorem has_create {is : List SchemaItem} {i : SchemaItem} (h : i ∈ is) :
    (c.create is).Has i.name := by
  show ∃ j ∈ is.foldl add c.items, j.name = i.name
  generalize c.items = items
  induction is generalizing items with
  | nil => cases h
  | cons k is ih =>
    rcases List.mem_cons.1 h with rfl | h
    · obtain ⟨j, hj, hname⟩ := exists_mem_add items i
      exact ⟨j, subset_foldl_add is (add items i) hj, hname⟩
    · exact ih h (add items k)

/-- Nothing else is there than what was there and what is created. -/
theorem items_create_subset {is items : List SchemaItem} (h : c.items ⊆ items) (his : is ⊆ items) :
    (c.create is).items ⊆ items := by
  show is.foldl add c.items ⊆ items
  generalize hc : c.items = cs at h
  clear hc
  induction is generalizing cs with
  | nil => exact h
  | cons i is ih =>
    obtain ⟨hi, his⟩ := List.cons_subset.1 his
    refine ih his (add cs i) ?_
    unfold add
    split
    · exact h
    · exact List.append_subset.2 ⟨h, List.cons_subset.2 ⟨hi, List.nil_subset _⟩⟩

end Catalog

end TaskBoard.Postgres
