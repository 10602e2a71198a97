import TaskBoard.Proofs.Postgres.Database

/-!
# Saving as a whole

A filter is created or replaced in a transaction.  Each of its statements either does what it
means on the tables that the transaction sees, or is refused; then the session ends, and the
tables are what they were.  Only at the end the new tables are there for all.

    a session does all of it, or leaves the tables               (Session.Attempts)
    what follows a session that attempts, attempts the rest       (Session.Attempts.bind)
    creating and replacing save all of a filter, or nothing       (Database.saving_atomic)
-/

namespace TaskBoard.Postgres

/-- A transaction is running; it sees the tables `t`, and for all others they are `base`. -/
structure Client.Within (base t : Tables) (c : Client) : Prop where
  tables : c.database.tables = base
  transaction : c.transaction = .running t

/-- From every client in `P`, the session ends in `Q`, or something disturbs it, and it leaves
the tables `base` behind. -/
def Session.Attempts {α : Type} (w : Surroundings) (base : Tables) (P : Client → Prop)
    (x : Session α) (Q : α → Client → Prop) : Prop :=
  ∀ c, P c → (∃ a c', x.exec w c = (.ok a, c') ∧ Q a c') ∨
    ∃ e c', x.exec w c = (.error e, c') ∧ c'.database.tables = base ∧ ¬ Undisturbed w c

/-! ## Sessions -/

namespace Client.Within

variable {base t : Tables} {c : Client}

theorem seen (h : c.Within base t) : c.seen = t := by
  unfold Client.seen
  rw [h.transaction]

theorem counted (h : c.Within base t) : c.counted.Within base t := ⟨h.tables, h.transaction⟩

theorem takeFilter (h : c.Within base t) : c.takeFilter.Within base t := ⟨h.tables, h.transaction⟩

theorem takeCondition (h : c.Within base t) : c.takeCondition.Within base t :=
  ⟨h.tables, h.transaction⟩

theorem write (h : c.Within base t) (t' : Tables) : (c.write t').Within base t' := by
  unfold Client.write
  rw [h.transaction]
  exact ⟨h.tables, rfl⟩

theorem tables_fail (h : c.Within base t) : c.fail.database.tables = base := by
  rw [Client.database_fail]
  exact h.tables

end Client.Within

/-- A row that is there is read. -/
theorem Session.one_some_bind {α β : Type} (a : α) (f : α → Session β) :
    (one (some a) >>= f) = f a := rfl

namespace Session.Attempts

open Client (Within)

variable {α β : Type} {w : Surroundings} {base t : Tables} {P : Client → Prop}
  {x : Session α} {f : α → Session β} {Q : α → Client → Prop} {R : β → Client → Prop}

theorem bind (hx : Attempts w base P x Q) (hf : ∀ a, Attempts w base (Q a) (f a) R) :
    Attempts w base P (x >>= f) R := by
  intro c hc
  rw [exec_bind]
  rcases hx c hc with ⟨a, c₁, hrun, hq⟩ | ⟨e, c₁, hrun, hbase, hdisturbed⟩
  · rw [hrun]
    rcases hf a c₁ hq with hdone | ⟨e, c₂, hrest, hbase, hdisturbed⟩
    · exact .inl hdone
    · refine .inr ⟨e, c₂, hrest, hbase, fun hc => hdisturbed ?_⟩
      have := hc.exec x
      rwa [hrun] at this
  · rw [hrun]
    exact .inr ⟨e, c₁, rfl, hbase, hdisturbed⟩

theorem pure (a : α) (h : ∀ c, P c → Q a c) : Attempts w base P (pure a) Q :=
  fun c hc => .inl ⟨a, c, rfl, h c hc⟩

/-- In a running transaction, a statement is attempted if it does what it means wherever it is
accepted. -/
theorem ask {s : Statement} {Q : s.Reply → Client → Prop}
    (h : ∀ n c, Within base t c → (∃ r c', c.accept w n s = (.ok r, c') ∧ Q r c') ∨
      ∃ f c', c.accept w n s = (.error f, c') ∧ c'.database.tables = base ∧
        ¬ c.database.Ahead t) :
    Attempts w base (Within base t) (ask s) Q := by
  intro c hc
  rw [exec_ask]
  unfold Client.perform
  rw [hc.transaction]
  cases hrefused : w.refusal c.database.asked with
  | some f =>
    refine .inr ⟨.database f, c.counted.fail, rfl, hc.counted.tables_fail, fun hcalm => ?_⟩
    rw [hcalm.accepted _ (Nat.le_refl _)] at hrefused
    cases hrefused
  | none =>
    rcases h c.database.asked c.counted hc.counted with ⟨r, c', hrun, hq⟩ | ⟨f, c', hrun, hbase, ha⟩
    · exact .inl ⟨r, c', by rw [hrun]; rfl, hq⟩
    · refine .inr ⟨.database f, c', by rw [hrun]; rfl, hbase, fun hcalm => ha ?_⟩
      rw [← hc.seen]
      exact hcalm.aheadSeen

/-- A transaction starts with the tables as they are for all. -/
theorem start : Attempts w base (fun c => c.database.tables = base ∧ c.transaction = .closed)
    (Session.ask .beginTransaction) fun _ => Within base base := by
  rintro ⟨d, transaction⟩ ⟨hbase, hclosed⟩
  obtain rfl : d.tables = base := hbase
  obtain rfl : transaction = .closed := hclosed
  rw [exec_ask]
  unfold Client.perform
  cases hrefused : w.refusal d.asked with
  | some f =>
    refine .inr ⟨.database f, ⟨{ d with asked := d.asked + 1 }, .closed⟩, rfl, rfl, fun hcalm => ?_⟩
    rw [hcalm.accepted _ (Nat.le_refl _)] at hrefused
    cases hrefused
  | none => exact .inl ⟨(), ⟨{ d with asked := d.asked + 1 }, .running d.tables⟩, rfl, rfl, rfl⟩

theorem clearDefault (workspace user : String) (keep : Option Int) :
    Attempts w base (Within base t) (Session.ask (.clearDefault workspace user keep))
      fun _ => Within base (t.clearDefault workspace user keep) := by
  refine ask fun n c hc => .inl ⟨(), _, rfl, ?_⟩
  rw [hc.seen]
  exact hc.write _

theorem makeRoom (workspace user : String) (keep : Option Int) (input : FilterInput) :
    Attempts w base (Within base t) (makeRoom workspace user keep input)
      fun _ => Within base (t.withRoom workspace user keep input) := by
  unfold Postgres.makeRoom Tables.withRoom
  cases input.isDefault with
  | true => exact clearDefault workspace user keep
  | false => exact pure () fun c hc => hc

theorem insertFilter (workspace user : String) (input : FilterInput) :
    Attempts w base (Within base t) (Session.ask (.insertFilter workspace user input))
      fun reply c => ∃ id createdAt, ∃ hnew : (input.head id user workspace createdAt).id ∉ t.ids,
        reply = some (id, createdAt) ∧
          Within base (t.insertFilter (input.head id user workspace createdAt) hnew) c := by
  refine ask fun n c hc => ?_
  obtain rfl := hc.seen
  by_cases hnew : c.database.nextFilter ∈ c.seen.ids
  · refine .inr ⟨duplicateKey, c.takeFilter.fail, dif_neg (not_not_intro hnew),
      hc.takeFilter.tables_fail, fun ha => ?_⟩
    exact absurd (ha.1 _ hnew) (Int.lt_irrefl _)
  · exact .inl ⟨_, _, dif_pos hnew, _, _, hnew, rfl, hc.takeFilter.write _⟩

theorem updateFilter (workspace user : String) (id : Int) (input : FilterInput) :
    Attempts w base (Within base t) (Session.ask (.updateFilter workspace user id input))
      fun reply c => reply = (t.filterAt workspace user id).map (·.createdAt) ∧
        Within base (t.replace workspace user id input) c := by
  refine ask fun n c hc => .inl ⟨_, _, rfl, ?_, ?_⟩
  · rw [hc.seen]
  · rw [hc.seen]
    exact hc.write _

theorem deleteConditions (id : Int) :
    Attempts w base (Within base t) (Session.ask (.deleteConditions id))
      fun _ => Within base (t.deleteConditions id) := by
  refine ask fun n c hc => .inl ⟨(), _, rfl, ?_⟩
  rw [hc.seen]
  exact hc.write _

theorem insertCondition {filter : Int} (hfilter : filter ∈ t.ids) (position : Nat)
    (input : ConditionInput) :
    Attempts w base (Within base t) (Session.ask (.insertCondition filter position input))
      fun reply c => ∃ id t', reply = some id ∧ t'.filters = t.filters ∧
        t'.conditions = t.conditions ++ [⟨id, filter, position, input⟩] ∧ Within base t' c := by
  refine ask fun n c hc => ?_
  obtain rfl := hc.seen
  by_cases hnew : c.database.nextCondition ∈ c.seen.conditions.map ConditionRow.id
  · refine .inr ⟨duplicateKey, c.takeCondition.fail, dif_neg (not_not_intro hnew),
      hc.takeCondition.tables_fail, fun ha => ?_⟩
    obtain ⟨row, hrow, hid⟩ := List.mem_map.1 hnew
    have hlt := ha.2 row hrow
    rw [hid] at hlt
    exact absurd hlt (Int.lt_irrefl _)
  · let row : ConditionRow := ⟨c.database.nextCondition, filter, position, input⟩
    refine .inl ⟨some row.id, _, (dif_pos hnew).trans (dif_pos hfilter), row.id,
      c.seen.insertCondition row hnew hfilter, rfl, rfl, rfl, hc.takeCondition.write _⟩

/-- All conditions of a filter are added, in order. -/
theorem insertConditions {filter : Int} (hfilter : filter ∈ t.ids) (position : Nat)
    (cs : List ConditionInput) :
    Attempts w base (Within base t) (insertConditions filter position cs)
      fun saved c => ∃ t', saved.map SavedCondition.input = cs ∧ t'.filters = t.filters ∧
        t'.conditions = t.conditions ++ Tables.conditionRows filter position saved ∧
        Within base t' c := by
  induction cs generalizing t position with
  | nil => exact pure [] fun c hc => ⟨t, rfl, rfl, (List.append_nil _).symm, hc⟩
  | cons input cs ih =>
    refine bind (insertCondition hfilter position input) fun reply => ?_
    rintro c ⟨id, t₁, rfl, hfilters, hconditions, hc⟩
    rw [one_some_bind]
    have hmem : filter ∈ t₁.ids := by
      rw [Tables.ids, hfilters]
      exact hfilter
    refine bind (ih hmem (position + 1)) (fun rest => pure _ fun c => ?_) c hc
    rintro ⟨t₂, hinputs, hfilters', hconditions', hc⟩
    refine ⟨t₂, ?_, hfilters'.trans hfilters, ?_, hc⟩
    · rw [List.map_cons, hinputs]
    · rw [hconditions', hconditions, List.append_assoc]
      rfl

/-- Only a commit that is accepted shows the changes to all. -/
theorem commit : Attempts w base (Within base t) (Session.ask .commit)
    fun _ c => c.database.tables = t := by
  refine ask fun n c hc => .inl ⟨(), c.commit, rfl, ?_⟩
  rw [Client.database_commit]
  exact hc.seen

theorem rollback : Attempts w base (Within base t) (Session.ask .rollback)
    fun _ c => c.database.tables = base :=
  ask fun _ _ hc => .inl ⟨(), _, rfl, hc.tables⟩

/-! ## Filters -/

theorem creates (workspace user : String) (input : FilterInput) :
    Attempts w base (fun c => c.database.tables = base ∧ c.transaction = .closed)
      (createFilter workspace user input)
      fun saved c => base.Saves c.database.tables workspace user input saved ∧
        saved.id ∉ base.ids := by
  refine bind start fun _ => ?_
  refine bind (makeRoom workspace user none input) fun _ => ?_
  refine bind (insertFilter workspace user input) fun reply => ?_
  rintro c ⟨id, createdAt, hnew, rfl, hc⟩
  rw [one_some_bind]
  dsimp only
  have hmem : id ∈ (Tables.insertFilter _ _ hnew).ids :=
    List.mem_map_of_mem (List.mem_append_right _ (List.mem_singleton_self _))
  refine bind (insertConditions hmem 0 input.conditions) (fun saved => ?_) c hc
  rintro c ⟨t', hinputs, hfilters, hconditions, hc⟩
  rw [Tables.ids_withRoom] at hnew
  refine bind commit (fun _ => pure _ ?_) c hc
  rintro c rfl
  refine ⟨Tables.saves (.inl rfl) hinputs ?_ (fun h hid => ?_) ?_, hnew⟩
  · rw [hfilters]
    exact List.mem_append_right _ (List.mem_singleton_self _)
  · rw [hfilters]
    show h ∈ _ ++ [_] ↔ _
    rw [List.mem_append, List.mem_singleton, or_iff_left]
    rintro rfl
    exact hid rfl
  · -- a filter that is new has no conditions yet
    have hnone : ∀ row ∈ base.conditions, (row.filter != id) = true := by
      intro row hrow
      rw [bne_iff_ne]
      rintro rfl
      exact hnew (base.belongs row hrow)
    rw [hconditions, List.filter_eq_self.2 hnone]
    show Tables.conditions (base.withRoom workspace user none input) ++ _ = _
    rw [Tables.conditions_withRoom]

theorem replaces (workspace user : String) (id : Int) (input : FilterInput) :
    Attempts w base (fun c => c.database.tables = base ∧ c.transaction = .closed)
      (Postgres.updateFilter workspace user id input)
      fun reply c => match reply with
        | none => c.database.tables = base ∧ base.filterAt workspace user id = none
        | some saved => base.Saves c.database.tables workspace user input saved ∧ saved.id = id ∧
          ∃ g ∈ base.filters, g.isAt workspace user id = true ∧ g.createdAt = saved.createdAt := by
  refine bind start fun _ => ?_
  refine bind (makeRoom workspace user (some id) input) fun _ => ?_
  refine bind (updateFilter workspace user id input) fun reply => ?_
  rintro c ⟨rfl, hc⟩
  cases hat : (base.withRoom workspace user (some id) input).filterAt workspace user id with
  | none =>
    refine bind rollback (fun _ => pure _ fun c hbase => ⟨hbase, ?_⟩) c hc
    refine List.find?_eq_none.2 fun g hg hgat => ?_
    exact List.find?_eq_none.1 hat g ((Tables.mem_withRoom_keep (Tables.isAt_iff.1 hgat).1).2 hg) hgat
  | some g =>
    have hgat : g.isAt workspace user id = true := List.find?_some hat
    have hg := List.mem_of_find?_eq_some hat
    refine bind (deleteConditions id) (fun _ => ?_) c hc
    have hhead := Tables.head_mem_replace input hg hgat
    have hmem : id ∈ (((base.withRoom workspace user (some id) input).replace workspace user id
        input).deleteConditions id).ids := List.mem_map_of_mem hhead
    refine bind (insertConditions hmem 0 input.conditions) (fun saved => ?_)
    rintro c ⟨t', hinputs, hfilters, hconditions, hc⟩
    refine bind commit (fun _ => pure _ ?_) c hc
    rintro c rfl
    refine ⟨Tables.saves (.inr rfl) hinputs ?_ (fun h hid => ?_) ?_, rfl, g, ?_, hgat, rfl⟩
    · rw [hfilters]
      exact hhead
    · rw [hfilters]
      exact Tables.mem_replace_of_ne hid
    · rw [hconditions]
      show (base.withRoom workspace user (some id) input).conditions.filter _ ++ _ = _
      rw [Tables.conditions_withRoom]
    · exact (Tables.mem_withRoom_keep (Tables.isAt_iff.1 hgat).1).1 hg

end Session.Attempts

/-! ## Calls -/

namespace Database

variable {w : Surroundings} {d : Database}

/-- A call is a session of a new client. -/
theorem call_eq (w : Surroundings) (c : StoreCall) (d : Database) :
    d.call w c = (((session c).exec w ⟨d, .closed⟩).1.mapError .ofPostgres,
      ((session c).exec w ⟨d, .closed⟩).2.database) := rfl

/-- What a session attempts, a call does, or it fails and leaves the tables. -/
theorem call_of_attempts {c : StoreCall} {Q : c.Reply → Client → Prop}
    (h : Session.Attempts w d.tables (fun b => b.database.tables = d.tables ∧ b.transaction = .closed)
      (session c) Q) :
    (∃ r b, d.call w c = (.ok r, b.database) ∧ Q r b) ∨
      ∃ e d', d.call w c = (.error e, d') ∧ d'.tables = d.tables ∧ ¬ Undisturbed w ⟨d, .closed⟩ := by
  rw [call_eq]
  rcases h ⟨d, .closed⟩ ⟨rfl, rfl⟩ with ⟨r, b, hrun, hq⟩ | ⟨e, b, hrun, hbase, hdisturbed⟩
  · exact .inl ⟨r, b, by rw [hrun]; rfl, hq⟩
  · exact .inr ⟨.ofPostgres e, b.database, by rw [hrun]; rfl, hbase, hdisturbed⟩

/-- A filter is created, or the call fails and leaves the tables. -/
theorem call_createFilter (w : Surroundings) (d : Database) (workspace user : String)
    (input : FilterInput) :
    (∃ saved d', d.call w (.createFilter workspace user input) = (.ok saved, d') ∧
      d.tables.Saves d'.tables workspace user input saved ∧ saved.id ∉ d.tables.ids) ∨
    ∃ e d', d.call w (.createFilter workspace user input) = (.error e, d') ∧
      d'.tables = d.tables ∧ ¬ Undisturbed w ⟨d, .closed⟩ := by
  rcases call_of_attempts (c := .createFilter workspace user input)
    (@Session.Attempts.creates w d.tables workspace user input) with
    ⟨saved, b, hcall, hsaves⟩ | hfailed
  · exact .inl ⟨saved, b.database, hcall, hsaves⟩
  · exact .inr hfailed

/-- A filter of the owner is replaced, or there is none, or the call fails.  The tables change in
the first case only. -/
theorem call_updateFilter (w : Surroundings) (d : Database) (workspace user : String) (id : Int)
    (input : FilterInput) :
    (∃ saved d', d.call w (.updateFilter workspace user id input) = (.ok (some saved), d') ∧
      d.tables.Saves d'.tables workspace user input saved ∧ saved.id = id ∧
        ∃ g ∈ d.tables.filters, g.isAt workspace user id = true ∧ g.createdAt = saved.createdAt) ∨
    (∃ d', d.call w (.updateFilter workspace user id input) = (.ok none, d') ∧
      d'.tables = d.tables ∧ d.tables.filterAt workspace user id = none) ∨
    ∃ e d', d.call w (.updateFilter workspace user id input) = (.error e, d') ∧
      d'.tables = d.tables ∧ ¬ Undisturbed w ⟨d, .closed⟩ := by
  rcases call_of_attempts (c := .updateFilter workspace user id input)
    (@Session.Attempts.replaces w d.tables workspace user id input) with
    ⟨none | saved, b, hcall, hdone⟩ | hfailed
  · exact .inr (.inl ⟨b.database, hcall, hdone⟩)
  · exact .inl ⟨saved, b.database, hcall, hdone⟩
  · exact .inr (.inr hfailed)

/-- Creating and replacing a filter are all or nothing, whichever statement is refused.  Where no
statement is, they succeed; only a filter that is not the owner's is not replaced. -/
theorem saving_atomic (w : Surroundings) (d : Database) (workspace user : String) (id : Int)
    (input : FilterInput) :
    let created : Except StorageError SavedFilter × Database :=
      d.call w (.createFilter workspace user input)
    let replaced : Except StorageError (Option SavedFilter) × Database :=
      d.call w (.updateFilter workspace user id input)
    let owned := ∃ g ∈ d.tables.filters, g.isAt workspace user id = true
    ((∀ e, created.1 = .error e → created.2.tables = d.tables) ∧
      (∀ saved, created.1 = .ok saved →
        d.tables.Saves created.2.tables workspace user input saved ∧ saved.id ∉ d.tables.ids) ∧
      (Undisturbed w ⟨d, .closed⟩ → ∃ saved, created.1 = .ok saved)) ∧
    (∀ e, replaced.1 = .error e → replaced.2.tables = d.tables) ∧
    (∀ saved, replaced.1 = .ok (some saved) →
      d.tables.Saves replaced.2.tables workspace user input saved ∧ saved.id = id ∧
        ∃ g ∈ d.tables.filters, g.isAt workspace user id = true ∧ g.createdAt = saved.createdAt) ∧
    (replaced.1 = .ok none → ¬ owned) ∧
    (¬ owned → replaced.2.tables = d.tables ∧
      (replaced.1 = .ok none ∨ ∃ e, replaced.1 = .error e)) ∧
    (Undisturbed w ⟨d, .closed⟩ →
      (owned → ∃ saved, replaced.1 = .ok (some saved)) ∧ (¬ owned → replaced.1 = .ok none)) := by
  intro created replaced owned
  have hcreated : (∃ saved d', created = (.ok saved, d') ∧ _) ∨ ∃ e d', created = (.error e, d') ∧ _ :=
    call_createFilter w d workspace user input
  have hreplaced : (∃ saved d', replaced = (.ok (some saved), d') ∧ _) ∨
      (∃ d', replaced = (.ok none, d') ∧ _) ∨ ∃ e d', replaced = (.error e, d') ∧ _ :=
    call_updateFilter w d workspace user id input
  clear_value created replaced
  constructor
  · rcases hcreated with ⟨saved, d', rfl, hsaves⟩ | ⟨e, d', rfl, hsame, hdisturbed⟩
    · refine ⟨nofun, ?_, fun _ => ⟨saved, rfl⟩⟩
      rintro _ ⟨⟩
      exact hsaves
    · exact ⟨fun _ _ => hsame, nofun, fun hcalm => absurd hcalm hdisturbed⟩
  · rcases hreplaced with ⟨saved, d', rfl, hsaves, hid, g, hg, hat, htime⟩ | ⟨d', rfl, hsame, hnone⟩ |
      ⟨e, d', rfl, hsame, hdisturbed⟩
    · have hown : owned := ⟨g, hg, hat⟩
      refine ⟨nofun, ?_, nofun, fun hno => absurd hown hno, fun _ =>
        ⟨fun _ => ⟨saved, rfl⟩, fun hno => absurd hown hno⟩⟩
      rintro _ ⟨⟩
      exact ⟨hsaves, hid, g, hg, hat, htime⟩
    · have hno : ¬ owned := fun ⟨g, hg, hat⟩ => List.find?_eq_none.1 hnone g hg hat
      exact ⟨nofun, nofun, fun _ => hno, fun _ => ⟨hsame, .inl rfl⟩, fun _ =>
        ⟨fun hown => absurd hown hno, fun _ => rfl⟩⟩
    · exact ⟨fun _ _ => hsame, nofun, nofun, fun _ => ⟨hsame, .inr ⟨e, rfl⟩⟩,
        fun hcalm => absurd hcalm hdisturbed⟩

end Database

/-- What comes of replacing a filter of the sample database. -/
def Sample.replaced (w : Surroundings) (id : Int) :
    Except StorageError (Option SavedFilter) × Database :=
  database.call w (.updateFilter "w" "local" id input)

/-- The second filter becomes the default.  Nothing happens if the statement that adds its second
condition is refused, and nothing happens to a filter of someone else. -/
theorem Database.saving_atomic_sample :
    (∃ saved, (Sample.replaced .calm 8).1 = .ok (some saved) ∧
      Sample.tables.Saves (Sample.replaced .calm 8).2.tables "w" "local" Sample.input saved) ∧
    (Sample.replaced (.refusing 5) 8).1 = .error (.database .workerCrashed) ∧
    (Sample.replaced (.refusing 5) 8).2.tables = Sample.tables ∧
    (Sample.replaced .calm 9).1 = .ok none ∧
    (Sample.replaced .calm 9).2.tables = Sample.tables := by
  obtain ⟨-, -, hsaves, -, -, hdone⟩ :=
    saving_atomic .calm Sample.database "w" "local" 8 Sample.input
  obtain ⟨-, hfailed, -⟩ := saving_atomic (.refusing 5) Sample.database "w" "local" 8 Sample.input
  obtain ⟨-, -, -, -, hnotOwned, hother⟩ :=
    saving_atomic .calm Sample.database "w" "local" 9 Sample.input
  have hown : ∃ g ∈ Sample.tables.filters, g.isAt "w" "local" 8 = true :=
    ⟨_, .tail _ (.head _), rfl⟩
  have hno : ¬ ∃ g ∈ Sample.tables.filters, g.isAt "w" "local" 9 = true := by
    rintro ⟨g, hg, hat⟩
    have hall : ∀ g ∈ Sample.tables.filters, g.isAt "w" "local" 9 = false := by decide
    rw [hall g hg] at hat
    cases hat
  obtain ⟨saved, hok⟩ := (hdone Sample.undisturbed).1 hown
  have hrefused : (Sample.replaced (.refusing 5) 8).1 = .error (.database .workerCrashed) := rfl
  exact ⟨⟨saved, hok, (hsaves saved hok).1⟩, hrefused, hfailed _ hrefused,
    (hother Sample.undisturbed).2 hno, (hnotOwned hno).1⟩

end TaskBoard.Postgres
