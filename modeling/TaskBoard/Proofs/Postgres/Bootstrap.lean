import TaskBoard.Proofs.Postgres.Catalog
import TaskBoard.Proofs.Postgres.Transaction

/-!
# Upgrades converge

An upgrade that is interrupted leaves a catalog from which the next one goes on.  Whatever is
interrupted, and how often, the version does not decrease, no migration is recorded twice or
without its effect, and an upgrade that succeeds leaves nothing to do.

    all that an upgrade can do to the catalog                   (Catalog.Next)
    each change keeps the catalog sound                         (Catalog.Next.sound)
    an upgrade makes such changes, one after the other          (Session.moves_upgrade)
    wherever it is interrupted, the next one can go on          (upgrade_converges)
-/

namespace TaskBoard.Postgres

namespace Catalog

/-- What an upgrade can do to the catalog: each statement outside a transaction does one of these
changes, and so does the transaction of a migration. -/
inductive Next (c : Catalog) : Catalog → Prop
  | create (hv : c.version = none) : Next c (c.create Schema.items)
  | plant (hv : c.version = none) : Next c (c.plant Schema.seeds)
  /-- The version is put in when everything else is there. -/
  | install (hv : c.version = none) (hitems : ∀ i ∈ Schema.items, c.Has i.name)
    (hseeds : ∀ s ∈ Schema.seeds, s ∈ c.seeds) (ht : c.hasTable Schema.versionTable) :
    Next c (c.putVersion Schema.version ht)
  | migrate {v : Int} {m : Migration} (hv : c.version = some v) (hlt : v < Schema.version)
    (hm : Schema.migration? (v + 1) = some m)
    (ht : (c.create m.items).hasTable Schema.migrationTable) :
    Next c (((c.create m.items).record m.version ht).setVersion (v + 1))

/-- No migration is recorded twice or without its effect, and none that is newer than the
version; the effects of all migrations up to the version are there. -/
structure Sound (c : Catalog) : Prop where
  nodup : c.recorded.Nodup
  covered : ∀ u ∈ c.recorded, ∃ v, c.version = some v ∧ u ≤ v
  done : ∀ v, c.version = some v → ∀ u ≤ v, ∀ m, Schema.migration? u = some m → c.Done m

/-- A database at a version: the effects of all migrations up to it are there, and only these
are recorded. -/
structure ConsistentAt (c : Catalog) (v : Int) : Prop where
  version : c.version = some v
  done : ∀ u ≤ v, ∀ m, Schema.migration? u = some m → c.Done m
  recorded : ∀ u ∈ c.recorded, u ≤ v
  nodup : c.recorded.Nodup

/-- What can be said of a database that began empty: nothing is there but what the schema has, and
with a version everything is. -/
structure Own (c : Catalog) : Prop where
  items : c.items ⊆ Schema.items
  complete : ∀ v, c.version = some v → v = Schema.version ∧
    (∀ i ∈ Schema.items, c.Has i.name) ∧ ∀ s ∈ Schema.seeds, s ∈ c.seeds

/-- A table of the schema is not there. -/
def Lacks (c : Catalog) : Prop :=
  ∃ name, Schema.items.any (SchemaItem.isTable name) = true ∧ c.hasTable name = false

/-- A later catalog: what is there stays, and the version does not decrease. -/
structure Before (c c' : Catalog) : Prop where
  items : c.items ⊆ c'.items
  seeds : c.seeds ⊆ c'.seeds
  version : ∀ v, c.version = some v → ∃ v', c'.version = some v' ∧ v ≤ v'

/-- Why an upgrade ends without success, and leaves the catalog `c`. -/
inductive Excuse (w : Surroundings) (c : Catalog) (e : PostgresError) : Prop
  | refused (h : w.Refuses)
  /-- A table is missing, which is not for want of creating it. -/
  | lacking (h : c.Lacks) (hitems : c.version = none → ∀ i ∈ Schema.items, c.Has i.name)
    (hgoing : ∀ v, c.version = some v → (Schema.migration? (v + 1)).isSome)
  /-- There is no migration to the next version. -/
  | undefined {v : Int} (hv : c.version = some v) (hlt : v < Schema.version)
    (hm : Schema.migration? (v + 1) = none)
    (he : e = .migrationFailed (v + 1) "unknown"
      ("No migration defined for version " ++ Numeral.text (v + 1)))

/-! ## The schema -/

theorem version_of_migration? {v : Int} {m : Migration} (h : Schema.migration? v = some m) :
    m.version = v := by
  simpa using List.find?_some h

theorem items_migration_subset (m : Migration) : m.items ⊆ Schema.items :=
  fun _ h => (List.mem_filter.1 h).1

/-- No two items of the schema have the same name. -/
theorem eq_of_name_eq {i j : SchemaItem} (hi : i ∈ Schema.items) (hj : j ∈ Schema.items)
    (h : i.name = j.name) : i = j :=
  List.inj_on_of_nodup_map (by decide) hi hj h

theorem table_of_seed : ∀ s ∈ Schema.seeds, Schema.items.any (SchemaItem.isTable s.table) = true := by
  decide

/-- A migration does nothing about tables that the schema does not have. -/
theorem table_of_indexed? : ∀ i ∈ Schema.items, ∀ t ∈ i.indexed?,
    Schema.items.any (SchemaItem.isTable t) = true := by
  decide

/-- The migrations end at the version of the schema: if one is missing, so are those before. -/
theorem migration?_succ_eq_none {v k : Int} (hv : v < k) (hk : k ≤ Schema.version)
    (hm : Schema.migration? k = none) : Schema.migration? (v + 1) = none := by
  have hk2 : ¬ 2 ≤ k := by
    intro h
    have := Schema.migration?_isSome h hk
    rw [hm] at this
    cases this
  rw [Schema.migration?, List.find?_eq_none]
  simp only [Schema.migrations, List.mem_singleton, forall_eq, beq_iff_eq]
  omega

/-! ## Changes -/

section

variable {c c' c'' : Catalog}

theorem Before.refl (c : Catalog) : c.Before c :=
  ⟨fun _ h => h, fun _ h => h, fun v h => ⟨v, h, Int.le_refl v⟩⟩

theorem Before.trans (h : c.Before c') (h' : c'.Before c'') : c.Before c'' where
  items := fun _ hi => h'.items (h.items hi)
  seeds := fun _ hs => h'.seeds (h.seeds hs)
  version v hv := by
    obtain ⟨v', hv', hle⟩ := h.version v hv
    obtain ⟨v'', hv'', hle'⟩ := h'.version v' hv'
    exact ⟨v'', hv'', Int.le_trans hle hle'⟩

theorem Before.done {m : Migration} (h : c.Before c') (hd : c.Done m) : c'.Done m :=
  fun i hi => (hd i hi).mono h.items

theorem before_create (c : Catalog) (is : List SchemaItem) : c.Before (c.create is) where
  items := c.items_subset_create is
  seeds _ h := h
  version v h := ⟨v, h, Int.le_refl v⟩

theorem before_plant (c : Catalog) (seeds : List Seed) : c.Before (c.plant seeds) where
  items _ h := h
  seeds := c.seeds_subset_plant seeds
  version v h := ⟨v, h, Int.le_refl v⟩

theorem before_putVersion (v : Int) (ht : c.hasTable Schema.versionTable) (hv : c.version = none) :
    c.Before (c.putVersion v ht) where
  items _ h := h
  seeds _ h := h
  version u h := by
    rw [hv] at h
    cases h

theorem before_record (v : Int) (ht : c.hasTable Schema.migrationTable) : c.Before (c.record v ht) where
  items _ h := h
  seeds _ h := h
  version u h := ⟨u, h, Int.le_refl u⟩

theorem before_setVersion {v v' : Int} (hv : c.version = some v) (hle : v ≤ v') :
    c.Before (c.setVersion v') where
  items _ h := h
  seeds _ h := h
  version u h := by
    obtain rfl : v = u := Option.some.inj (hv.symm.trans h)
    exact ⟨v', version_setVersion hv v', hle⟩

theorem Next.before (h : c.Next c') : c.Before c' := by
  cases h with
  | create => exact before_create c _
  | plant => exact before_plant c _
  | install hv _ _ ht => exact before_putVersion _ ht hv
  | migrate hv _ _ ht =>
    exact ((before_create c _).trans (before_record _ ht)).trans
      (before_setVersion hv (by omega))

/-- Without a version, nothing is recorded. -/
theorem Sound.recorded_eq_nil (hs : c.Sound) (hv : c.version = none) : c.recorded = [] := by
  rw [List.eq_nil_iff_forall_not_mem]
  intro u hu
  obtain ⟨v, hv', -⟩ := hs.covered u hu
  rw [hv] at hv'
  cases hv'

theorem sound_of_version_none (hv : c.version = none) (hr : c.recorded = []) : c.Sound where
  nodup := by rw [hr]; exact List.nodup_nil
  covered := by rw [hr]; simp
  done v h := by rw [hv] at h; cases h

/-- With everything that the schema has, the effects of all migrations are there. -/
theorem sound_of_items (hr : c.recorded = [])
    (hitems : ∀ i ∈ Schema.items, c.Has i.name) : c.Sound where
  nodup := by rw [hr]; exact List.nodup_nil
  covered := by rw [hr]; simp
  done _ _ _ _ m _ := fun i hi => hitems i (items_migration_subset m hi)

/-- After a migration, its effect is there, and it is recorded once. -/
theorem Sound.migrate {v : Int} {m : Migration} (hs : c.Sound) (hv : c.version = some v)
    (hm : Schema.migration? (v + 1) = some m) (hb : c.Before c') (hv' : c'.version = some (v + 1))
    (hr : c'.recorded = c.recorded ++ [m.version]) (hd : c'.Done m) : c'.Sound := by
  have hmv := version_of_migration? hm
  have hle : ∀ u ∈ c.recorded, u ≤ v := by
    intro u hu
    obtain ⟨v', hcv, hle⟩ := hs.covered u hu
    rwa [Option.some.inj (hv.symm.trans hcv)]
  refine ⟨?_, fun u hu => ⟨v + 1, hv', ?_⟩, fun u hu k hk m' hm' => ?_⟩
  · rw [hr]
    refine hs.nodup.append (List.nodup_singleton _) (List.disjoint_singleton.2 fun hmem => ?_)
    have := hle _ hmem
    omega
  · rw [hr, List.mem_append, List.mem_singleton] at hu
    rcases hu with hu | hu
    · have := hle u hu
      omega
    · omega
  · obtain rfl : v + 1 = u := Option.some.inj (hv'.symm.trans hu)
    by_cases hlast : k = v + 1
    · subst hlast
      obtain rfl : m = m' := Option.some.inj (hm.symm.trans hm')
      exact hd
    · exact hb.done (hs.done v hv k (by omega) m' hm')

/-- Each change keeps the catalog sound. -/
theorem Next.sound (h : c.Next c') (hs : c.Sound) : c'.Sound := by
  have hb := h.before
  cases h with
  | create hv =>
    apply sound_of_version_none
    · rwa [version_create]
    · rw [recorded_create, hs.recorded_eq_nil hv]
  | plant hv =>
    apply sound_of_version_none
    · rwa [version_plant]
    · rw [recorded_plant, hs.recorded_eq_nil hv]
  | install hv hitems =>
    exact sound_of_items (hs.recorded_eq_nil hv) fun i hi => (hitems i hi).mono hb.items
  | @migrate v m hv hlt hm ht =>
    exact hs.migrate hv hm hb (version_setVersion hv _) rfl fun i hi => has_create hi

/-- What began empty has nothing but the schema, and with a version all of it. -/
theorem Next.own (h : c.Next c') (ho : c.Own) : c'.Own := by
  cases h with
  | create hv =>
    refine ⟨items_create_subset ho.items fun _ h => h, fun v h => ?_⟩
    rw [version_create, hv] at h
    cases h
  | plant hv =>
    refine ⟨ho.items, fun v h => ?_⟩
    rw [version_plant, hv] at h
    cases h
  | install hv hitems hseeds =>
    exact ⟨ho.items, fun v h => ⟨(Option.some.inj h).symm, hitems, hseeds⟩⟩
  | @migrate v m hv hlt =>
    obtain ⟨hlast, -⟩ := ho.complete v hv
    omega

/-- Nothing is done to a version for which there is nothing to do. -/
theorem not_next {v : Int} (hv : c.version = some v)
    (hm : v < Schema.version → Schema.migration? (v + 1) = none) : ¬ c.Next c' := by
  rintro (hv' | hv' | hv' | ⟨hv', hlt, hm', -⟩)
  · rw [hv] at hv'; cases hv'
  · rw [hv] at hv'; cases hv'
  · rw [hv] at hv'; cases hv'
  · obtain rfl := Option.some.inj (hv.symm.trans hv')
    rw [hm hlt] at hm'
    cases hm'

/-- A catalog with nothing but the schema has all of it if it has all of its names. -/
theorem Own.mem_items (ho : c.Own) {i : SchemaItem} (hi : i ∈ Schema.items) (h : c.Has i.name) :
    i ∈ c.items := by
  obtain ⟨j, hj, hname⟩ := h
  rwa [← eq_of_name_eq (ho.items hj) hi hname]

theorem Own.not_lacks (ho : c.Own) (h : ∀ i ∈ Schema.items, c.Has i.name) : ¬ c.Lacks := by
  rintro ⟨name, hs, ht⟩
  have hsub : Schema.items ⊆ c.items := fun i hi => ho.mem_items hi (h i hi)
  rw [hasTable, any_of_subset hsub hs] at ht
  cases ht

end

end Catalog

/-! ## Sessions -/

namespace Installer

/-- For all others the catalog stays what it is, or one of the changes is made. -/
def Moved (i i' : Installer) : Prop := i'.stored = i.stored ∨ i.stored.Next i'.stored

/-- No transaction is open. -/
structure Idle (c : Catalog) (i : Installer) : Prop where
  stored : i.stored = c
  transaction : i.transaction = .closed

/-- A transaction is running; it sees the catalog `c`, and for all others it is `base`. -/
structure Within (base c : Catalog) (i : Installer) : Prop where
  stored : i.stored = base
  transaction : i.transaction = .running c

/-- How a session may end: with success as `P` says, or with an excuse. -/
def Ends {α : Type} (w : Surroundings) (P : α → Installer → Prop) (r : Except PostgresError α)
    (i : Installer) : Prop :=
  match r with
  | .ok a => P a i
  | .error e => i.stored.Excuse w e

end Installer

open Installer (Idle Within Ends)

/-- Each statement of the session changes nothing for others, or makes one of the changes; and the
session ends as `P` says, or with an excuse. -/
def Session.Moves {α : Type} (w : Surroundings) (x : Session α) (P : α → Installer → Prop)
    (i : Installer) : Prop :=
  x.run.Moves (Installer.perform w) Installer.Moved (Ends w P) i

section

variable {α β : Type} {w : Surroundings} {i : Installer} {base c : Catalog}

namespace Installer

theorem stored_fail (i : Installer) : i.fail.stored = i.stored := by
  unfold fail
  split <;> rfl

/-- A statement is refused, or it is accepted. -/
theorem perform_cases (w : Surroundings) (ht : i.transaction ≠ .failed) (s : Statement) :
    (∃ f, w.Refuses ∧ i.perform w s = (.error f, i.counted.fail)) ∨
      i.perform w s = i.counted.accept w i.asked s := by
  unfold perform
  split
  · next f hf => exact .inl ⟨f, ⟨_, f, hf⟩, rfl⟩
  · next hf => exact absurd hf ht
  · exact .inr rfl

theorem Idle.seen (h : Idle c i) : i.counted.seen = c := by
  unfold Installer.seen counted
  rw [h.transaction]
  exact h.stored

theorem Within.seen (h : Within base c i) : i.counted.seen = c := by
  unfold Installer.seen counted
  rw [h.transaction]

theorem Idle.write (h : Idle c i) (c' : Catalog) : Idle c' (i.counted.write c') := by
  obtain ⟨stored, transaction, asked⟩ := i
  obtain ⟨rfl, rfl⟩ := h
  exact ⟨rfl, rfl⟩

theorem Within.write (h : Within base c i) (c' : Catalog) : Within base c' (i.counted.write c') := by
  unfold Installer.write counted
  rw [h.transaction]
  exact ⟨h.stored, rfl⟩

theorem Idle.not_failed (h : Idle c i) : i.transaction ≠ .failed := by
  rw [h.transaction]
  nofun

theorem Within.not_failed (h : Within base c i) : i.transaction ≠ .failed := by
  rw [h.transaction]
  nofun

theorem Within.moved (h : Within base c i) {i' : Installer} {c' : Catalog}
    (h' : Within base c' i') : i.Moved i' :=
  .inl (h'.stored.trans h.stored.symm)

theorem Idle.moved (h : Idle c i) {i' : Installer} {c' : Catalog} (h' : Idle c' i')
    (hn : c.Next c') : i.Moved i' := by
  right
  rw [h.stored, h'.stored]
  exact hn

end Installer

namespace Session

open Installer (perform_cases stored_fail)

theorem moves_pure {P : α → Installer → Prop} {a : α} (h : P a i) : Moves w (pure a) P i := h

theorem moves_bind {x : Session α} {f : α → Session β} {P : α → Installer → Prop}
    {Q : β → Installer → Prop} (hx : Moves w x P i) (hf : ∀ a i', P a i' → Moves w (f a) Q i') :
    Moves w (x >>= f) Q i := by
  show (x.run.bind (ExceptT.bindCont f)).Moves _ _ _ _
  refine Program.Moves.bind (Program.Moves.imp hx ?_)
  rintro (e | a) i' h
  · exact h
  · exact hf a i' h

/-- One statement, whose faults are errors in some way. -/
theorem moves_step {s : Statement} {P : s.Reply → Installer → Prop}
    (g : DatabaseFault → PostgresError) (ht : i.transaction ≠ .failed)
    (h : ∀ n, (∃ r i', i.counted.accept w n s = (.ok r, i') ∧ i.Moved i' ∧ P r i') ∨
      ∃ f i', i.counted.accept w n s = (.error f, i') ∧ i'.stored = i.stored ∧
        i.stored.Excuse w (g f)) :
    Program.Moves (Installer.perform w) Installer.Moved (Ends w P)
      (.step s fun r => .done (r.mapError g)) i := by
  show i.Moved (i.perform w s).2 ∧ Ends w P ((i.perform w s).1.mapError g) (i.perform w s).2
  rcases perform_cases w ht s with ⟨f, hf, hrun⟩ | hrun
  · rw [hrun]
    exact ⟨.inl (stored_fail _), .refused hf⟩
  · rw [hrun]
    rcases h i.asked with ⟨r, i', haccepted, hok⟩ | ⟨f, i', haccepted, hstored, he⟩
    · rw [haccepted]
      exact hok
    · rw [haccepted]
      exact ⟨.inl hstored, by rw [← hstored] at he; exact he⟩

theorem moves_ask {s : Statement} {P : s.Reply → Installer → Prop} (ht : i.transaction ≠ .failed)
    (h : ∀ n, (∃ r i', i.counted.accept w n s = (.ok r, i') ∧ i.Moved i' ∧ P r i') ∨
      ∃ f i', i.counted.accept w n s = (.error f, i') ∧ i'.stored = i.stored ∧
        i.stored.Excuse w (.database f)) :
    Moves w (ask s) P i := by
  have hask : (ask s).run = .step s fun r => .done (r.mapError .database) := by
    show Program.step s _ = _
    congr 1
    funext r
    cases r <;> rfl
  rw [Moves, hask]
  exact moves_step .database ht h

/-- A migration that is refused is named in the error. -/
theorem moves_migrating {m : Migration} {P : (Statement.migrate m).Reply → Installer → Prop}
    (ht : i.transaction ≠ .failed)
    (h : ∀ n, (∃ r i', i.counted.accept w n (.migrate m) = (.ok r, i') ∧ i.Moved i' ∧ P r i') ∨
      ∃ f i', i.counted.accept w n (.migrate m) = (.error f, i') ∧ i'.stored = i.stored ∧
        i.stored.Excuse w (.migrationFailed m.version m.name f.message)) :
    Moves w (migrating m (ask (Statement.migrate m))) P i := by
  have hask : (migrating m (ask (Statement.migrate m))).run = .step (.migrate m) fun r =>
      .done (r.mapError fun f => .migrationFailed m.version m.name f.message) := by
    show Program.step (Statement.migrate m) _ = _
    congr 1
    funext r
    cases r <;> rfl
  rw [Moves, hask]
  exact moves_step (fun f => .migrationFailed m.version m.name f.message) ht h

/-! ### A new database -/

theorem moves_hasVersions (hi : Idle c i) :
    Moves w (ask .hasVersions)
      (fun r i' => r = some (c.hasTable Schema.versionTable) ∧ Idle c i') i := by
  refine moves_ask hi.not_failed fun n =>
    .inl ⟨_, i.counted, rfl, .inl rfl, ?_, hi.stored, hi.transaction⟩
  rw [hi.seen]

theorem moves_readVersion (hi : Idle c i) (ht : c.hasTable Schema.versionTable) :
    Moves w (ask .readVersion) (fun r i' => r = c.version ∧ Idle c i') i := by
  refine moves_ask hi.not_failed fun n => .inl ⟨c.version, i.counted, ?_, .inl rfl, rfl, hi.stored,
    hi.transaction⟩
  dsimp only [Installer.accept]
  rw [hi.seen, if_pos ht]

theorem moves_createSchema (hi : Idle c i) (hv : c.version = none) :
    Moves w (ask .createSchema) (fun _ => Idle (c.create Schema.items)) i := by
  have hwrite := hi.write (c.create Schema.items)
  refine moves_ask hi.not_failed fun n => .inl ⟨(), _, ?_, hi.moved hwrite (.create hv), hwrite⟩
  dsimp only [Installer.accept]
  rw [hi.seen]

/-- Without a version, a table that is missing is an excuse. -/
theorem excuse_of_hasTable {e : PostgresError} {name : String} (hv : c.version = none)
    (hitems : ∀ i ∈ Schema.items, c.Has i.name)
    (hs : Schema.items.any (SchemaItem.isTable name) = true) (ht : ¬ c.hasTable name = true) :
    c.Excuse w e :=
  .lacking ⟨name, hs, by simpa using ht⟩ (fun _ => hitems) fun v h => by rw [hv] at h; cases h

theorem moves_insertSeeds (hi : Idle c i) (hv : c.version = none)
    (hitems : ∀ i ∈ Schema.items, c.Has i.name) :
    Moves w (ask .insertSeeds) (fun _ => Idle (c.plant Schema.seeds)) i := by
  have hwrite := hi.write (c.plant Schema.seeds)
  refine moves_ask hi.not_failed fun n => ?_
  by_cases ht : ∀ s ∈ Schema.seeds, c.hasTable s.table = true
  · refine .inl ⟨(), _, ?_, hi.moved hwrite (.plant hv), hwrite⟩
    dsimp only [Installer.accept]
    rw [hi.seen, if_pos (List.all_eq_true.2 ht)]
  · refine .inr ⟨missingTable, i.counted.fail, ?_, Installer.stored_fail _, ?_⟩
    · dsimp only [Installer.accept]
      rw [hi.seen, if_neg fun h => ht (List.all_eq_true.1 h)]
    · obtain ⟨s, hs, hmissing⟩ : ∃ s ∈ Schema.seeds, ¬ c.hasTable s.table = true := by
        simpa using ht
      rw [hi.stored]
      exact excuse_of_hasTable hv hitems (Catalog.table_of_seed s hs) hmissing

theorem moves_recordVersion (hi : Idle c i) (hv : c.version = none)
    (hitems : ∀ i ∈ Schema.items, c.Has i.name) (hseeds : ∀ s ∈ Schema.seeds, s ∈ c.seeds)
    (now : Int) :
    Moves w (ask (.recordVersion Schema.version now))
      (fun _ i' => i'.stored.version = some Schema.version) i := by
  refine moves_ask hi.not_failed fun n => ?_
  by_cases ht : c.hasTable Schema.versionTable = true
  · have hwrite := hi.write (c.putVersion Schema.version ht)
    refine .inl ⟨(), _, ?_, hi.moved hwrite (.install hv hitems hseeds ht), ?_⟩
    · dsimp only [Installer.accept]
      simp only [hi.seen]
      rw [dif_pos ht]
    · rw [hwrite.stored]
      rfl
  · refine .inr ⟨missingTable, i.counted.fail, ?_, Installer.stored_fail _, ?_⟩
    · dsimp only [Installer.accept]
      simp only [hi.seen]
      rw [dif_neg ht]
    · rw [hi.stored]
      exact excuse_of_hasTable hv hitems (by decide) ht

/-- A database without a version gets everything, and then its version. -/
theorem moves_install (hi : Idle c i) (hv : c.version = none) (now : Int) :
    Moves w (install now) (fun _ i' => i'.stored.version = some Schema.version) i := by
  refine moves_bind (moves_createSchema hi hv) fun _ i₁ h₁ => ?_
  have hv₁ : (c.create Schema.items).version = none := (Catalog.version_create _).trans hv
  have hitems : ∀ item ∈ Schema.items, (c.create Schema.items).Has item.name :=
    fun item hitem => Catalog.has_create hitem
  refine moves_bind (moves_insertSeeds h₁ hv₁ hitems) fun _ i₂ h₂ => ?_
  have hv₂ := (Catalog.version_plant Schema.seeds).trans hv₁
  refine moves_recordVersion h₂ hv₂ (fun item hitem => ?_) (fun s hs => ?_) now
  · exact (hitems item hitem).mono (Catalog.before_plant _ _).items
  · exact Catalog.mem_seeds_plant hs

/-! ### The next version -/

theorem moves_begin (hi : Idle c i) : Moves w (ask .beginTransaction) (fun _ => Within c c) i := by
  obtain ⟨stored, transaction, asked⟩ := i
  obtain ⟨rfl, rfl⟩ := hi
  exact moves_ask (nofun) fun n => .inl ⟨(), _, rfl, .inl rfl, rfl, rfl⟩

/-- A table that is missing is an excuse for a migration. -/
theorem excuse_of_missing {e : PostgresError} {name : String} {v : Int} {m : Migration}
    (hv : c.version = some v) (hm : Schema.migration? (v + 1) = some m)
    (hs : Schema.items.any (SchemaItem.isTable name) = true) (ht : ¬ c.hasTable name = true) :
    c.Excuse w e :=
  .lacking ⟨name, hs, by simpa using ht⟩ (fun hnone => by rw [hv] at hnone; cases hnone)
    fun u hu => by
      rw [← Option.some.inj (hv.symm.trans hu), hm]
      rfl

theorem moves_migrate (hi : Within c c i) {v : Int} {m : Migration} (hv : c.version = some v)
    (hm : Schema.migration? (v + 1) = some m) :
    Moves w (migrating m (ask (Statement.migrate m))) (fun _ => Within c (c.create m.items)) i := by
  have hwrite := hi.write (c.create m.items)
  refine moves_migrating hi.not_failed fun n => ?_
  by_cases ht : ∀ item ∈ m.items, ∀ t ∈ item.indexed?, c.hasTable t = true
  · refine .inl ⟨w.reply (.migrate m) n, _, ?_, hi.moved hwrite, hwrite⟩
    dsimp only [Installer.accept]
    rw [hi.seen, if_pos]
    simpa [List.all_eq_true, Option.all_eq_true] using ht
  · refine .inr ⟨missingTable, i.counted.fail, ?_, Installer.stored_fail _, ?_⟩
    · dsimp only [Installer.accept]
      rw [hi.seen, if_neg]
      simpa [List.all_eq_true, Option.all_eq_true] using ht
    · push Not at ht
      obtain ⟨item, hitem, t, hindexed, hmissing⟩ := ht
      rw [hi.stored]
      exact excuse_of_missing hv hm (Catalog.table_of_indexed? item
        (Catalog.items_migration_subset m hitem) t hindexed) hmissing

theorem moves_recordMigration (hi : Within base c i) {v : Int} {m : Migration}
    (hv : base.version = some v) (hm : Schema.migration? (v + 1) = some m)
    (hsub : base.items ⊆ c.items) (hnew : m.version ∉ c.recorded) (now : Int) (elapsed : Nat) :
    Moves w (ask (.recordMigration m now elapsed))
      (fun _ i' => ∃ ht, Within base (c.record m.version ht) i') i := by
  refine moves_ask hi.not_failed fun n => ?_
  by_cases ht : c.hasTable Schema.migrationTable = true
  · have hwrite := hi.write (c.record m.version ht)
    refine .inl ⟨(), _, ?_, hi.moved hwrite, ht, hwrite⟩
    dsimp only [Installer.accept]
    simp only [hi.seen]
    rw [dif_pos ht, if_neg hnew]
  · refine .inr ⟨missingTable, i.counted.fail, ?_, Installer.stored_fail _, ?_⟩
    · dsimp only [Installer.accept]
      simp only [hi.seen]
      rw [dif_neg ht]
    · rw [hi.stored]
      exact excuse_of_missing hv hm (by decide) fun h => ht (Catalog.hasTable_mono h hsub)

theorem moves_setVersion (hi : Within base c i) (hv : c.version.isSome) (v now : Int) :
    Moves w (ask (.setVersion v now)) (fun _ => Within base (c.setVersion v)) i := by
  have hwrite := hi.write (c.setVersion v)
  refine moves_ask hi.not_failed fun n => .inl ⟨(), _, ?_, hi.moved hwrite, hwrite⟩
  dsimp only [Installer.accept]
  rw [hi.seen, if_pos]
  exact c.version_in hv

theorem moves_commit (hi : Within base c i) (hn : base.Next c) :
    Moves w (ask .commit) (fun _ => Idle c) i := by
  obtain ⟨stored, transaction, asked⟩ := i
  obtain ⟨rfl, rfl⟩ := hi
  exact moves_ask (nofun) fun n => .inl ⟨(), _, rfl, .inr hn, rfl, rfl⟩

/-- A migration is done as a whole. -/
theorem moves_applyMigration (hi : Idle c i) (hs : c.Sound) {v : Int} (hv : c.version = some v)
    (hlt : v < Schema.version) (now : Int) :
    Moves w (applyMigration now (v + 1))
      (fun _ i' => ∃ c', c.Next c' ∧ c'.version = some (v + 1) ∧ Idle c' i') i := by
  unfold applyMigration
  cases hm : Schema.migration? (v + 1) with
  | none =>
    show i.stored.Excuse w _
    rw [hi.stored]
    exact .undefined hv hlt hm rfl
  | some m =>
    have hnew : m.version ∉ (c.create m.items).recorded := by
      intro hmem
      obtain ⟨u, hu, hle⟩ := hs.covered _ hmem
      have := Catalog.version_of_migration? hm
      have := Option.some.inj (hv.symm.trans hu)
      omega
    refine moves_bind (moves_begin hi) fun _ i₁ h₁ => ?_
    refine moves_bind (moves_migrate h₁ hv hm) fun elapsed i₂ h₂ => ?_
    refine moves_bind (moves_recordMigration h₂ hv hm (c.items_subset_create _) hnew now elapsed)
      fun _ i₃ h₃ => ?_
    obtain ⟨ht, h₃⟩ := h₃
    have hv₃ : ((c.create m.items).record m.version ht).version = some v := hv
    refine moves_bind (moves_setVersion h₃ (by rw [hv₃]; rfl) (v + 1) now) fun _ i₄ h₄ => ?_
    have hnext : c.Next _ := .migrate hv hlt hm ht
    refine Program.Moves.imp (moves_commit h₄ hnext) ?_
    rintro (e | u) i₅ h₅
    · exact h₅
    · exact ⟨_, hnext, Catalog.version_setVersion hv₃ _, h₅⟩

theorem moves_upgradeFrom (hi : Idle c i) (hs : c.Sound) {v : Int} (hv : c.version = some v)
    {count : Nat} (hcount : v + count = Schema.version ∨ count = 0 ∧ Schema.version ≤ v)
    (now : Int) :
    Moves w (upgradeFrom now v count)
      (fun _ i' => ∃ u, i'.stored.version = some u ∧ Schema.version ≤ u) i := by
  induction count generalizing c i v with
  | zero =>
    refine moves_pure ⟨v, ?_, by omega⟩
    rw [hi.stored, hv]
  | succ count ih =>
    refine moves_bind (moves_applyMigration hi hs hv (by omega) now) fun _ i' h' => ?_
    obtain ⟨c', hnext, hv', hi'⟩ := h'
    exact ih hi' (hnext.sound hs) hv' (by omega)

/-- An upgrade makes such changes, one after the other. -/
theorem moves_upgrade (hi : Idle c i) (hs : c.Sound) (now : Int) :
    Moves w (upgrade now) (fun _ i' => ∃ u, i'.stored.version = some u ∧ Schema.version ≤ u) i := by
  have hinstall : ∀ {i : Installer}, Idle c i → c.version = none →
      Moves w (install now) (fun _ i' => ∃ u, i'.stored.version = some u ∧ Schema.version ≤ u) i := by
    intro i hi hv
    refine Program.Moves.imp (moves_install hi hv now) ?_
    rintro (e | u) i' h'
    · exact h'
    · exact ⟨Schema.version, h', Int.le_refl _⟩
  unfold upgrade
  refine moves_bind (moves_hasVersions hi) fun _ i₁ h₁ => ?_
  obtain ⟨rfl, h₁⟩ := h₁
  rw [one_some_bind]
  split
  · next ht =>
    refine moves_bind (moves_readVersion h₁ ht) fun _ i₂ h₂ => ?_
    obtain ⟨rfl, h₂⟩ := h₂
    cases hv : c.version with
    | none => exact hinstall h₂ hv
    | some v => exact moves_upgradeFrom h₂ hs hv (by omega) now
  · next ht =>
    -- a version is a row of its table
    refine hinstall h₁ ?_
    cases hv : c.version with
    | none => rfl
    | some v => exact absurd (c.version_in (by rw [hv]; rfl)) ht

end Session

end

/-! ## Attempts -/

namespace Catalog

variable {w : Surroundings} {now : Int} {c₀ c c' : Catalog}

/-- One catalog comes from another one by some of the changes. -/
abbrev Steps : Catalog → Catalog → Prop := Relation.ReflTransGen Next

theorem Steps.before (h : Steps c c') : c.Before c' := by
  induction h with
  | refl => exact .refl c
  | tail _ hn ih => exact ih.trans hn.before

theorem Steps.sound (h : Steps c c') (hs : c.Sound) : c'.Sound := by
  induction h with
  | refl => exact hs
  | tail _ hn ih => exact hn.sound ih

theorem Steps.own (h : Steps c c') (ho : c.Own) : c'.Own := by
  induction h with
  | refl => exact ho
  | tail _ hn ih => exact hn.own ih

/-- A version for which there is nothing to do is left alone. -/
theorem Steps.eq_of_not_next (h : Steps c c') {v : Int} (hv : c.version = some v)
    (hm : v < Schema.version → Schema.migration? (v + 1) = none) : c' = c := by
  rcases Relation.ReflTransGen.cases_head h with heq | ⟨c₁, hnext, -⟩
  · exact heq.symm
  · exact absurd hnext (not_next hv hm)

theorem sound_empty : empty.Sound := sound_of_version_none rfl rfl

theorem own_empty : empty.Own := ⟨List.nil_subset _, fun _ h => by cases h⟩

theorem ConsistentAt.sound {v : Int} (h : c.ConsistentAt v) : c.Sound where
  nodup := h.nodup
  covered u hu := ⟨v, h.version, h.recorded u hu⟩
  done u hu := by
    rw [← Option.some.inj (h.version.symm.trans hu)]
    exact h.done

/-- An upgrade begins without a transaction. -/
theorem moves_closed (w : Surroundings) (now : Int) (hs : c.Sound) :
    Session.Moves w (upgrade now) (fun _ i' => ∃ u, i'.stored.version = some u ∧ Schema.version ≤ u)
      ⟨c, .closed, 0⟩ :=
  Session.moves_upgrade ⟨rfl, rfl⟩ hs now

/-- Wherever an upgrade is interrupted, it has made some of the changes; and it goes on from
there. -/
theorem steps_interrupted (w : Surroundings) (now : Int) (hs : c.Sound) {m n : Nat} (hmn : m ≤ n) :
    Steps (c.interrupted w now m) (c.interrupted w now n) := by
  refine (Program.Moves.after (moves_closed w now hs) hmn).lift' Installer.stored ?_
  rintro i i' (h | h)
  · show Steps i.stored i'.stored
    rw [h]
  · exact .single h

/-- An upgrade that ends is one that is interrupted too late. -/
theorem exists_interrupted_eq (c : Catalog) (w : Surroundings) (now : Int) :
    ∃ n, (c.upgraded w now).2 = c.interrupted w now n := by
  obtain ⟨n, hn⟩ := (upgrade now).run.exists_after_eq_run (Installer.perform w) ⟨c, .closed, 0⟩
  exact ⟨n, (congrArg Installer.stored hn).symm⟩

theorem steps_upgraded (w : Surroundings) (now : Int) (hs : c.Sound) :
    Steps c (c.upgraded w now).2 := by
  obtain ⟨n, hn⟩ := exists_interrupted_eq c w now
  rw [hn]
  exact steps_interrupted w now hs (Nat.zero_le n)

theorem steps_of_reaches (hs : c₀.Sound) (h : c₀.Reaches c) : Steps c₀ c := by
  induction h with
  | start => exact .refl
  | attempt _ w now n ih => exact ih.trans (steps_interrupted w now (ih.sound hs) (Nat.zero_le n))

/-- An upgrade succeeds at a version that is not older than the schema, or it has an excuse. -/
theorem ends_upgraded (w : Surroundings) (now : Int) (hs : c.Sound) :
    ((c.upgraded w now).1 = .ok () ∧
      ∃ u, (c.upgraded w now).2.version = some u ∧ Schema.version ≤ u) ∨
    ∃ e, (c.upgraded w now).1 = .error e ∧ (c.upgraded w now).2.Excuse w e := by
  have hends := Program.Moves.run (moves_closed w now hs)
  have hrun : c.upgraded w now = (((upgrade now).run.run (Installer.perform w) ⟨c, .closed, 0⟩).1,
    ((upgrade now).run.run (Installer.perform w) ⟨c, .closed, 0⟩).2.stored) := rfl
  rw [hrun]
  generalize (upgrade now).run.run (Installer.perform w) ⟨c, .closed, 0⟩ = result at hends ⊢
  obtain ⟨r, i⟩ := result
  cases r with
  | error e => exact .inr ⟨e, rfl, hends⟩
  | ok u => exact .inl ⟨rfl, hends⟩

/-- Tables that were there are there later. -/
theorem Before.lacks (h : c.Before c') (hl : c'.Lacks) : c.Lacks := by
  obtain ⟨name, hs, ht⟩ := hl
  refine ⟨name, hs, Bool.eq_false_iff.2 fun hc => ?_⟩
  rw [hasTable_mono hc h.items] at ht
  cases ht

/-- What began empty has no other excuse than a statement that is refused. -/
theorem Own.refuses_of_excuse {e : PostgresError} (ho : c.Own) (h : c.Excuse w e) : w.Refuses := by
  cases h with
  | refused h => exact h
  | lacking hlacks hitems =>
    cases hv : c.version with
    | none => exact absurd hlacks (ho.not_lacks (hitems hv))
    | some v => exact absurd hlacks (ho.not_lacks (ho.complete v hv).2.1)
  | undefined hv hlt =>
    have := (ho.complete _ hv).1
    omega

/-- Neither has what began at a version, with its tables and with migrations from there. -/
theorem Before.refuses_of_excuse {e : PostgresError} {v : Int} (hv : c₀.version = some v)
    (hle : 1 ≤ v) (htables : ¬ c₀.Lacks) (hb : c₀.Before c) (h : c.Excuse w e) : w.Refuses := by
  cases h with
  | refused h => exact h
  | lacking hlacks => exact absurd (hb.lacks hlacks) htables
  | undefined hu hlt hm =>
    obtain ⟨v', hv', hle'⟩ := hb.version v hv
    obtain rfl := Option.some.inj (hu.symm.trans hv')
    have hsome := Schema.migration?_isSome (by omega) (Int.add_one_le_of_lt hlt)
    rw [hm] at hsome
    cases hsome

namespace Sample

/-- A database at version 1, which has all tables but not the index of the second version. -/
def older : Catalog :=
  ((empty.create (Schema.items.filter (·.name != "idx_task_assignees_user"))).plant
    Schema.seeds).putVersion 1 (by decide)

theorem consistentAt_older : older.ConsistentAt 1 where
  version := rfl
  done u hu m hm := by
    have hmem : m ∈ Schema.migrations := List.mem_of_find?_eq_some hm
    obtain rfl := List.mem_singleton.1 hmem
    have : (2 : Int) = u := version_of_migration? hm
    omega
  recorded := by decide
  nodup := by decide

theorem not_lacks_older : ¬ older.Lacks := by
  rintro ⟨name, hs, ht⟩
  obtain ⟨i, hi, htable⟩ := List.any_eq_true.1 hs
  have hthere : ∀ i ∈ Schema.items, i.indexed?.isSome ∨ i ∈ older.items := by decide
  rcases hthere i hi with hindex | hmem
  · cases i with
    | table => cases hindex
    | index => cases htable
  · rw [hasTable, List.any_eq_true.2 ⟨i, hmem, htable⟩] at ht
    cases ht

end Sample

end Catalog

end TaskBoard.Postgres
