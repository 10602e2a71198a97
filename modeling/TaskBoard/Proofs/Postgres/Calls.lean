import TaskBoard.Proofs.Api.Orderly
import TaskBoard.Proofs.Postgres.Transaction

/-!
# What the calls of the store do

A call that reads replies with what the tables hold, and leaves them.  A call that changes filters
changes those of one owner, with their conditions; and if it does not reply that it changed
something, it did not.

    the conditions of a filter are those of its number          (conditionsAt_conditionsAmong)
    what a call reads is in the tables, or a statement fails    (Database.call_listFilters)
    no change is left without a reply that says so              (Database.tables_call)
    a change concerns the filters of the caller alone           (Database.confined_call)
-/

namespace TaskBoard

/-- The workspace and the user that a call about filters is for. -/
def StoreCall.owner? : StoreCall → Option (String × String)
  | .listFilters workspace user => some (workspace, user)
  | .getFilter workspace user _ => some (workspace, user)
  | .createFilter workspace user _ => some (workspace, user)
  | .updateFilter workspace user _ _ => some (workspace, user)
  | .deleteFilter workspace user _ => some (workspace, user)
  | _ => none

end TaskBoard

namespace TaskBoard.Postgres

namespace Tables

/-- A filter with its conditions. -/
def saved (t : Tables) (h : FilterHead) : SavedFilter :=
  h.withConditions ((t.conditionsOf h.id).map ConditionRow.saved)

/-- The filters of an owner with their conditions, in order. -/
def savedOf (t : Tables) (workspace user : String) : List SavedFilter :=
  (t.filtersOf workspace user).map t.saved

/-- All that is different belongs to the filters of one owner. -/
structure ConfinedTo (old new : Tables) (workspace user : String) : Prop where
  filters : ∀ h : FilterHead, ¬ (h ∈ old.filters ↔ h ∈ new.filters) →
    h.isOwned workspace user = true
  removed : ∀ c ∈ old.conditions, c ∉ new.conditions →
    ∃ h ∈ old.filters, h.id = c.filter ∧ h.isOwned workspace user = true
  added : ∀ c ∈ new.conditions, c ∉ old.conditions →
    ∃ h ∈ new.filters, h.id = c.filter ∧ h.isOwned workspace user = true

variable {t old new : Tables} {workspace user : String} {id : Int} {ids : List Int}

/-! ## Reading -/

theorem nodup_filtersOf : ((t.filtersOf workspace user).map FilterHead.id).Nodup := by
  unfold filtersOf
  rw [((List.mergeSort_perm _ _).map FilterHead.id).nodup_iff]
  exact t.nodup_filters.sublist (List.filter_sublist.map _)

/-- The order of the conditions of one filter. -/
theorem isBefore_order :
    (∀ a b c : ConditionRow, a.isBefore b = true → b.isBefore c = true → a.isBefore c = true) ∧
      (∀ a b : ConditionRow, (a.isBefore b || b.isBefore a) = true) ∧
      ∀ a b : ConditionRow, a.isBefore b = true → b.isBefore a = true → a.id = b.id := by
  simp only [ConditionRow.isBefore, Bool.or_eq_true, Bool.and_eq_true, decide_eq_true_eq,
    beq_iff_eq]
  refine ⟨fun a b c hab hbc => ?_, fun a b => ?_, fun a b hab hba => ?_⟩ <;> omega

/-- Among the conditions of several filters, those of one filter are found in order. -/
theorem conditionsAt_conditionsAmong (h : id ∈ ids) :
    conditionsAt (t.conditionsAmong ids) id = (t.conditionsOf id).map ConditionRow.saved := by
  let le : ConditionRow → ConditionRow → Bool := fun a b =>
    decide (a.filter < b.filter) || a.filter == b.filter && a.isBefore b
  have hle : (∀ a b c, le a b = true → le b c = true → le a c = true) ∧
      ∀ a b, (le a b || le b a) = true := by
    simp only [le, ConditionRow.isBefore, Bool.or_eq_true, Bool.and_eq_true, decide_eq_true_eq,
      beq_iff_eq]
    constructor <;> intros <;> omega
  have hrows : ((t.conditions.filter fun c => ids.contains c.filter).mergeSort le).filter
      (fun c => c.filter == id) = t.conditionsOf id := by
    obtain ⟨htrans, htotal, hantisymm⟩ := isBefore_order
    refine List.Perm.eq_of_pairwise (fun a b ha hb hab hba => ?_) ?_
      (List.pairwise_mergeSort htrans htotal _) ?_
    · have ha : a ∈ t.conditions :=
        (List.mem_filter.1 (List.mem_mergeSort.1 (List.mem_filter.1 ha).1)).1
      have hb : b ∈ t.conditions := (List.mem_filter.1 (List.mem_mergeSort.1 hb)).1
      exact List.inj_on_of_nodup_map t.nodup_conditions ha hb (hantisymm a b hab hba)
    · refine ((List.pairwise_mergeSort hle.1 hle.2 _).filter _).imp_of_mem fun ha hb hab => ?_
      -- both belong to the filter, so their places decide
      have ha := beq_iff_eq.1 (List.mem_filter.1 ha).2
      have hb := beq_iff_eq.1 (List.mem_filter.1 hb).2
      simpa [le, ha, hb] using hab
    · unfold conditionsOf
      refine ((List.mergeSort_perm _ _).filter _).trans (.trans ?_ (List.mergeSort_perm _ _).symm)
      rw [List.filter_filter]
      refine .of_eq (List.filter_congr fun c _ => ?_)
      by_cases hc : c.filter = id
      · simp [hc, h]
      · simp [hc]
  unfold conditionsAt conditionsAmong
  rw [List.filter_map, List.map_map, ← hrows]
  rfl

theorem attach_eq {conditions : List (Int × SavedCondition)} {heads : List FilterHead}
    (h : (heads.map FilterHead.id).Nodup) : attach conditions heads =
      heads.map fun head => head.withConditions (conditionsAt conditions head.id) := by
  induction heads generalizing conditions with
  | nil => rfl
  | cons head heads ih =>
    rw [List.map_cons, List.nodup_cons] at h
    rw [attach, ih h.2, List.map_cons]
    congr 1
    refine List.map_congr_left fun other hother => ?_
    have hne : other.id ≠ head.id := by
      intro heq
      exact h.1 (heq ▸ List.mem_map_of_mem hother)
    rw [conditionsAt_filter_ne conditions hne]

theorem attach_conditionsAmong :
    attach (t.conditionsAmong ((t.filtersOf workspace user).map FilterHead.id))
      (t.filtersOf workspace user) = t.savedOf workspace user := by
  rw [attach_eq nodup_filtersOf]
  refine List.map_congr_left fun h hh => ?_
  rw [conditionsAt_conditionsAmong (List.mem_map_of_mem hh)]
  rfl

/-! ## Changes -/

/-- Where a filter is saved that was new or the owner's, nothing of anybody else is changed. -/
theorem Saves.confinedTo {input : FilterInput} {saved : SavedFilter}
    (h : old.Saves new workspace user input saved)
    (hown : ∀ g ∈ old.filters, g.id = saved.id → g.isOwned workspace user = true) :
    old.ConfinedTo new workspace user := by
  have hhead : (input.head saved.id user workspace saved.createdAt).isOwned workspace user = true := by
    simp [FilterInput.head, FilterHead.isOwned]
  have hother : ∀ c : ConditionRow, c.filter ≠ saved.id →
      (c ∈ new.conditions ↔ c ∈ old.conditions) := by
    intro c hc
    have hmem := congrArg (c ∈ ·) h.otherConditions
    simpa [hc] using hmem
  refine ⟨fun g hg => ?_, fun c hc hgone => ?_, fun c hc hnew => ?_⟩
  · by_cases hid : g.id = saved.id
    · by_cases hold : g ∈ old.filters
      · exact hown g hold hid
      · have hnew : g ∈ new.filters := by
          by_contra hnew
          exact hg (iff_of_false hold hnew)
        rw [eq_of_id_eq hnew h.head hid]
        exact hhead
    · by_contra hnot
      have hkept : ∀ k : FilterHead, (if input.isDefault = true ∧ k.isOwned workspace user = true
          then { k with isDefault := false } else k).isOwned workspace user =
            k.isOwned workspace user := by
        intro k
        split <;> rfl
      refine hg ⟨fun hold => (h.others g hid).2 ⟨g, hold, ?_⟩, fun hnew => ?_⟩
      · rw [if_neg fun hd => hnot hd.2]
      · obtain ⟨k, hk, hgk⟩ := (h.others g hid).1 hnew
        have hk' : ¬ k.isOwned workspace user = true := by
          rw [← hkept k, ← hgk]
          exact hnot
        rw [if_neg fun hd => hk' hd.2] at hgk
        rwa [hgk]
  · have hid : c.filter = saved.id := by
      by_contra hid
      exact hgone ((hother c hid).2 hc)
    obtain ⟨g, hg, hgid⟩ := List.mem_map.1 (old.belongs c hc)
    exact ⟨g, hg, hgid, hown g hg (hgid.trans hid)⟩
  · have hid : c.filter = saved.id := by
      by_contra hid
      exact hnew ((hother c hid).1 hc)
    exact ⟨_, h.head, hid.symm, hhead⟩

theorem ConfinedTo.refl (t : Tables) : t.ConfinedTo t workspace user :=
  ⟨fun _ h => absurd Iff.rfl h, fun _ hc hgone => absurd hc hgone, fun _ hc hnew => absurd hc hnew⟩

theorem confinedTo_deleteFilter (t : Tables) (workspace user : String) (id : Int) :
    t.ConfinedTo (t.deleteFilter workspace user id) workspace user := by
  refine ⟨fun h hh => ?_, fun c hc hgone => ?_, fun c hc hnew => ?_⟩
  · by_contra hnot
    refine hh ⟨fun hold => List.mem_filter.2 ⟨hold, ?_⟩, fun hnew => (List.mem_filter.1 hnew).1⟩
    rw [Bool.not_eq_true] at hnot
    simp [FilterHead.isAt, hnot]
  · have hgone : t.filters.any (fun h => h.isAt workspace user id && h.id == c.filter) = true := by
      by_contra hkept
      exact hgone (List.mem_filter.2 ⟨hc, by simpa using hkept⟩)
    obtain ⟨h, hh, hat⟩ := List.any_eq_true.1 hgone
    rw [Bool.and_eq_true, beq_iff_eq] at hat
    rw [FilterHead.isAt, Bool.and_eq_true] at hat
    exact ⟨h, hh, hat.2, hat.1.2⟩
  · exact absurd (List.mem_filter.1 hc).1 hnew

/-- Nothing is deleted where no filter of the owner has the number. -/
theorem deleteFilter_of_none
    (h : t.filters.any (FilterHead.isAt workspace user id) = false) :
    t.deleteFilter workspace user id = t := by
  have hnone : ∀ g ∈ t.filters, g.isAt workspace user id = false := by
    simpa [List.any_eq_false] using h
  ext1
  · exact List.filter_eq_self.2 fun g hg => by rw [hnone g hg]; rfl
  · refine List.filter_eq_self.2 fun c _ => ?_
    rw [Bool.not_eq_true', List.any_eq_false]
    intro g hg
    rw [hnone g hg]
    exact Bool.false_ne_true

end Tables

/-! ## Sessions that read -/

/-- A client without a transaction. -/
structure Client.Idle (members : List (String × String)) (t : Tables) (c : Client) :
    Prop where
  members : c.database.members = members
  tables : c.database.tables = t
  transaction : c.transaction = .closed

/-- The session leaves the tables.  Its result is in `Q`, or `E` is the reason that it has none. -/
def Session.Looks {α : Type} (w : Surroundings) (members : List (String × String)) (t : Tables)
    (x : Session α) (E : Prop) (Q : α → Prop) : Prop :=
  ∀ c : Client, c.Idle members t → (x.exec w c).2.Idle members t ∧
    match (x.exec w c).1 with
    | .ok a => Q a
    | .error _ => E

namespace Session.Looks

variable {α β : Type} {w : Surroundings} {members : List (String × String)} {t : Tables}
  {x : Session α} {f : α → Session β} {E : Prop} {Q : α → Prop} {R : β → Prop}

theorem bind (hx : Looks w members t x E Q) (hf : ∀ a, Q a → Looks w members t (f a) E R) :
    Looks w members t (x >>= f) E R := by
  intro c hc
  rw [exec_bind]
  obtain ⟨hidle, hresult⟩ := hx c hc
  rcases hrun : x.exec w c with ⟨e | a, c'⟩
  · rw [hrun] at hidle hresult
    exact ⟨hidle, hresult⟩
  · rw [hrun] at hidle hresult
    exact hf a hresult c' hidle

theorem pure {a : α} (h : Q a) : Looks w members t (pure a) E Q := fun _ hc => ⟨hc, h⟩

theorem error {e : PostgresError} (h : E) : Looks w members t (throw e) E Q := fun _ hc => ⟨hc, h⟩

/-- A statement that only reads. -/
theorem ask {s : Statement} {Q : s.Reply → Prop} (hE : w.Refuses → E)
    (h : ∀ n c, Client.Idle members t c → ∃ r, c.accept w n s = (.ok r, c) ∧ Q r) :
    Looks w members t (ask s) E Q := by
  intro c hc
  have hcounted : c.counted.Idle members t := ⟨hc.members, hc.tables, hc.transaction⟩
  rw [exec_ask]
  unfold Client.perform
  rw [hc.transaction]
  cases hrefused : w.refusal c.database.asked with
  | some f =>
    refine ⟨?_, hE ⟨_, f, hrefused⟩⟩
    show c.counted.fail.Idle members t
    unfold Client.fail
    rw [hcounted.transaction]
    exact hcounted
  | none =>
    obtain ⟨r, hrun, hq⟩ := h c.database.asked c.counted hcounted
    dsimp only
    rw [hrun]
    exact ⟨hcounted, hq⟩

end Session.Looks

theorem Client.Idle.seen {members : List (String × String)} {t : Tables} {c : Client}
    (h : c.Idle members t) : c.seen = t := by
  unfold Client.seen
  rw [h.transaction]
  exact h.tables

section Looking

open Session.Looks (bind pure ask error)

variable {w : Surroundings} {members : List (String × String)} {t : Tables}

theorem looks_isMember (workspace user : String) :
    Session.Looks w members t (session (.isMember workspace user)) w.Refuses
      (· = members.contains (workspace, user)) := by
  have hask : Session.Looks w members t (Session.ask (.isMember workspace user)) w.Refuses
      (· = some (members.contains (workspace, user))) :=
    ask id fun n c hc => ⟨_, rfl, by rw [hc.members]⟩
  refine bind hask fun r hr => ?_
  subst hr
  exact pure rfl

/-- Nothing is asked about no filters. -/
theorem looks_unless_empty {β : Type} {ids : List Int} {x : Session (List β)} {v : List β}
    (hnil : ids = [] → v = []) (hx : Session.Looks w members t x w.Refuses (· = v)) :
    Session.Looks w members t (if ids.isEmpty then Pure.pure [] else x) w.Refuses (· = v) := by
  by_cases h : ids.isEmpty = true
  · rw [if_pos h]
    exact pure (hnil (List.isEmpty_iff.1 h)).symm
  · rw [if_neg h]
    exact hx

theorem looks_loadConditions (ids : List Int) :
    Session.Looks w members t (loadConditions ids) w.Refuses (· = t.conditionsAmong ids) := by
  refine looks_unless_empty ?_ (ask id fun n c hc => ⟨_, rfl, by rw [hc.seen]⟩)
  rintro rfl
  simp [Tables.conditionsAmong]

theorem looks_listFilters (workspace user : String) :
    Session.Looks w members t (listFilters workspace user) w.Refuses
      (· = t.savedOf workspace user) := by
  have hask : Session.Looks w members t (Session.ask (.filtersOf workspace user)) w.Refuses
      (· = t.filtersOf workspace user) :=
    ask id fun n c hc => ⟨_, rfl, by rw [hc.seen]⟩
  refine bind hask fun heads hheads => ?_
  subst hheads
  refine bind (looks_loadConditions _) fun conditions hconditions => ?_
  subst hconditions
  exact pure Tables.attach_conditionsAmong

theorem looks_getFilter (workspace user : String) (id : Int) :
    Session.Looks w members t (getFilter workspace user id) w.Refuses
      (· = (t.filterAt workspace user id).map t.saved) := by
  have hask : Session.Looks w members t (Session.ask (.filterAt workspace user id)) w.Refuses
      (· = t.filterAt workspace user id) :=
    ask (fun h => h) fun n c hc => ⟨_, rfl, by rw [hc.seen]⟩
  refine bind hask fun found hfound => ?_
  subst hfound
  cases hat : t.filterAt workspace user id with
  | none => exact pure rfl
  | some head =>
    have hid : head.id = id := (Tables.isAt_iff.1 (List.find?_some hat)).1
    refine bind (looks_loadConditions [id]) fun conditions hconditions => pure ?_
    subst hconditions
    rw [Tables.conditionsAt_conditionsAmong (List.mem_singleton_self id), ← hid]
    rfl

theorem looks_ownedIds (workspace user : String) (ids : List Int) :
    Session.Looks w members t (ownedIds workspace user ids) w.Refuses
      (· = t.ownedAmong workspace user ids) := by
  refine looks_unless_empty ?_ (ask id fun n c hc => ⟨_, rfl, by rw [hc.seen]⟩)
  rintro rfl
  simp [Tables.ownedAmong]

theorem looks_fetchRows (ids : List Int) :
    Session.Looks w members t (fetchRows ids) w.Refuses (· = t.rowsOf ids) := by
  refine looks_unless_empty ?_ (ask id fun n c hc => ⟨_, rfl, by rw [hc.seen]⟩)
  rintro rfl
  simp [Tables.rowsOf]

theorem looks_listTasks (workspace : String) (page : Page) (filter : CompiledFilter) :
    Session.Looks w members t (listTasks workspace page filter) True fun _ => True := by
  unfold listTasks
  split
  · exact error trivial
  · refine bind (Q := fun _ => True) (ask (fun _ => trivial) fun n c hc => ⟨_, rfl, trivial⟩) ?_
    intro tasks _
    refine bind (Q := fun _ => True) (ask (fun _ => trivial) fun n c hc => ⟨_, rfl, trivial⟩) ?_
    rintro (_ | total) -
    · exact error trivial
    · exact pure trivial

end Looking

/-! ## Calls -/

namespace Database

variable {w : Surroundings} {d : Database}

theorem members_call (c : StoreCall) : (d.call w c).2.members = d.members := by
  rw [call_eq]
  exact Session.members_exec (session c)

/-- What a session reads, a call replies. -/
theorem call_of_looks {c : StoreCall} {E : Prop} {Q : c.Reply → Prop}
    (h : Session.Looks w d.members d.tables (session c) E Q) :
    (d.call w c).2.tables = d.tables ∧ ((∃ r, (d.call w c).1 = .ok r ∧ Q r) ∨
      ∃ e, (d.call w c).1 = .error e ∧ E) := by
  obtain ⟨hidle, hresult⟩ := h ⟨d, .closed⟩ ⟨rfl, rfl, rfl⟩
  rw [call_eq]
  refine ⟨hidle.tables, ?_⟩
  cases hr : ((session c).exec w ⟨d, .closed⟩).1 with
  | ok r =>
    rw [hr] at hresult
    exact .inl ⟨r, rfl, hresult⟩
  | error e =>
    rw [hr] at hresult
    exact .inr ⟨.ofPostgres e, rfl, hresult⟩

/-- A call that reads replies with what is there, or a statement has been refused. -/
theorem call_of_looks_eq {c : StoreCall} {r : c.Reply}
    (h : Session.Looks w d.members d.tables (session c) w.Refuses (· = r)) :
    (d.call w c).1 = .ok r ∨ ∃ e, (d.call w c).1 = .error e ∧ w.Refuses := by
  rcases (call_of_looks h).2 with ⟨found, hok, rfl⟩ | herror
  · exact .inl hok
  · exact .inr herror

variable (w d)

theorem call_isMember (workspace user : String) :
    (d.call w (.isMember workspace user)).1 = .ok (d.members.contains (workspace, user)) ∨
      ∃ e, (d.call w (.isMember workspace user)).1 = .error e ∧ w.Refuses :=
  call_of_looks_eq (looks_isMember workspace user)

theorem call_listFilters (workspace user : String) :
    (d.call w (.listFilters workspace user)).1 = .ok (d.tables.savedOf workspace user) ∨
      ∃ e, (d.call w (.listFilters workspace user)).1 = .error e ∧ w.Refuses :=
  call_of_looks_eq (looks_listFilters workspace user)

theorem call_getFilter (workspace user : String) (id : Int) :
    (d.call w (.getFilter workspace user id)).1 =
        .ok ((d.tables.filterAt workspace user id).map d.tables.saved) ∨
      ∃ e, (d.call w (.getFilter workspace user id)).1 = .error e ∧ w.Refuses :=
  call_of_looks_eq (looks_getFilter workspace user id)

theorem call_ownedIds (workspace user : String) (ids : List Int) :
    (d.call w (.ownedIds workspace user ids)).1 =
        .ok (d.tables.ownedAmong workspace user ids) ∨
      ∃ e, (d.call w (.ownedIds workspace user ids)).1 = .error e ∧ w.Refuses :=
  call_of_looks_eq (looks_ownedIds workspace user ids)

theorem call_fetchRows (ids : List Int) :
    (d.call w (.fetchRows ids)).1 = .ok (d.tables.rowsOf ids) ∨
      ∃ e, (d.call w (.fetchRows ids)).1 = .error e ∧ w.Refuses :=
  call_of_looks_eq (looks_fetchRows ids)

variable {w d}

/-- A filter of the owner is deleted, if there is one with the number. -/
theorem call_deleteFilter (w : Surroundings) (d : Database) (workspace user : String) (id : Int) :
    (∃ d', d.call w (.deleteFilter workspace user id) =
        (.ok (d.tables.filters.any (FilterHead.isAt workspace user id)), d') ∧
      d'.tables = d.tables.deleteFilter workspace user id) ∨
    ∃ e d', d.call w (.deleteFilter workspace user id) = (.error e, d') ∧ d'.tables = d.tables := by
  have hcount : decide (0 < d.tables.filters.countP (FilterHead.isAt workspace user id)) =
      d.tables.filters.any (FilterHead.isAt workspace user id) := by
    rw [Bool.eq_iff_iff, decide_eq_true_eq, List.countP_pos_iff, List.any_eq_true]
  have hrun : (session (.deleteFilter workspace user id)).exec w ⟨d, .closed⟩ =
      match Client.perform w (.deleteFilter workspace user id) ⟨d, .closed⟩ with
      | (.ok (gone : Nat), c) => (.ok (decide (0 < gone)), c)
      | (.error f, c) => (.error (.database f), c) := by
    refine (Session.exec_ask_bind (.deleteFilter workspace user id) _).trans ?_
    rcases Client.perform w (.deleteFilter workspace user id) ⟨d, .closed⟩ with ⟨f | gone, c⟩ <;>
      rfl
  rw [call_eq, hrun, Client.perform]
  cases hrefused : w.refusal d.asked with
  | some f => exact .inr ⟨_, _, rfl, rfl⟩
  | none => exact .inl ⟨_, Prod.ext (congrArg Except.ok hcount) rfl, rfl⟩

/-- A call that does not reply with a change has changed nothing. -/
theorem tables_call {c : StoreCall} (h : c.changed (d.call w c).1 = false) :
    (d.call w c).2.tables = d.tables := by
  cases c with
  | createFilter workspace user input =>
    rcases call_createFilter w d workspace user input with ⟨saved, d', hcall, -⟩ |
      ⟨e, d', hcall, hsame, -⟩
    · rw [hcall] at h
      cases h
    · rw [hcall]
      exact hsame
  | updateFilter workspace user id input =>
    rcases call_updateFilter w d workspace user id input with ⟨saved, d', hcall, -⟩ |
      ⟨d', hcall, hsame, -⟩ | ⟨e, d', hcall, hsame, -⟩
    · rw [hcall] at h
      cases h
    · rw [hcall]
      exact hsame
    · rw [hcall]
      exact hsame
  | deleteFilter workspace user id =>
    rcases call_deleteFilter w d workspace user id with ⟨d', hcall, hgone⟩ | ⟨e, d', hcall, hsame⟩
    · rw [hcall] at h ⊢
      cases hany : d.tables.filters.any (FilterHead.isAt workspace user id) with
      | true =>
        rw [hany] at h
        cases h
      | false => exact hgone.trans (Tables.deleteFilter_of_none hany)
    · rw [hcall]
      exact hsame
  | ping =>
    have hping : Session.Looks w d.members d.tables (session .ping) w.Refuses fun _ => True :=
      .ask id fun n c hc => ⟨_, rfl, trivial⟩
    exact (call_of_looks hping).1
  | isMember workspace user => exact (call_of_looks (looks_isMember workspace user)).1
  | listTasks workspace page f => exact (call_of_looks (looks_listTasks workspace page f)).1
  | listFilters workspace user => exact (call_of_looks (looks_listFilters workspace user)).1
  | ownedIds workspace user ids => exact (call_of_looks (looks_ownedIds workspace user ids)).1
  | getFilter workspace user id => exact (call_of_looks (looks_getFilter workspace user id)).1
  | fetchRows ids => exact (call_of_looks (looks_fetchRows ids)).1

/-- A call about filters changes those of its owner only. -/
theorem confined_call {c : StoreCall} {workspace user : String}
    (hc : c.owner? = some (workspace, user)) :
    d.tables.ConfinedTo (d.call w c).2.tables workspace user := by
  have unchanged : (d.call w c).2.tables = d.tables →
      d.tables.ConfinedTo (d.call w c).2.tables workspace user := by
    intro h
    rw [h]
    exact .refl _
  cases c with
  | createFilter workspace' user' input =>
    cases hc
    rcases call_createFilter w d workspace user input with ⟨saved, d', hcall, hsaves, hnew⟩ |
      ⟨e, d', hcall, hsame, -⟩
    · rw [hcall]
      refine hsaves.confinedTo fun g hg hid => absurd ?_ hnew
      exact hid ▸ List.mem_map_of_mem hg
    · exact unchanged (by rw [hcall]; exact hsame)
  | updateFilter workspace' user' id input =>
    cases hc
    rcases call_updateFilter w d workspace user id input with
      ⟨saved, d', hcall, hsaves, hid, g, hg, hat, -⟩ | ⟨d', hcall, hsame, -⟩ |
      ⟨e, d', hcall, hsame, -⟩
    · rw [hcall]
      obtain ⟨hgid, hworkspace, huser⟩ := Tables.isAt_iff.1 hat
      refine hsaves.confinedTo fun k hk hkid => ?_
      rw [Tables.eq_of_id_eq hk hg (by rw [hkid, hid, hgid]), FilterHead.isOwned, hworkspace, huser,
        beq_self_eq_true, beq_self_eq_true]
      rfl
    · exact unchanged (by rw [hcall]; exact hsame)
    · exact unchanged (by rw [hcall]; exact hsame)
  | deleteFilter workspace' user' id =>
    cases hc
    rcases call_deleteFilter w d workspace user id with ⟨d', hcall, hgone⟩ | ⟨e, d', hcall, hsame⟩
    · rw [hcall]
      show d.tables.ConfinedTo d'.tables workspace user
      rw [hgone]
      exact Tables.confinedTo_deleteFilter ..
    · exact unchanged (by rw [hcall]; exact hsame)
  | listFilters => exact unchanged (tables_call rfl)
  | getFilter => exact unchanged (tables_call rfl)
  | _ => cases hc

end Database

end TaskBoard.Postgres
