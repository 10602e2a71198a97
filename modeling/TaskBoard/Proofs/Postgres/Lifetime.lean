import TaskBoard.Proofs.Postgres.Calls

/-!
# How long a filter is there

A filter is there until its owner deletes it.  No other call takes it away, and its number is never
given again.

    a call leaves a filter where it is, or deletes it           (Database.has_call)
    a number that is gone does not come back                    (lasting_gone)
    a filter that is there has a row                            (Tables.exists_row)
-/

namespace TaskBoard.Postgres

namespace Tables

/-- The owner has a filter with this number. -/
def Has (t : Tables) (workspace user : String) (id : Int) : Prop :=
  ∃ h ∈ t.filters, h.isAt workspace user id = true

variable {t : Tables} {workspace user : String} {id : Int} {ids : List Int}

theorem Has.mem_ids (h : t.Has workspace user id) : id ∈ t.ids := by
  obtain ⟨head, hhead, hat⟩ := h
  exact List.mem_map.2 ⟨head, hhead, (isAt_iff.1 hat).1⟩

theorem has_of_mem_ownedAmong (h : id ∈ t.ownedAmong workspace user ids) :
    t.Has workspace user id := by
  obtain ⟨head, hhead, hid⟩ := List.mem_map.1 h
  obtain ⟨hmem, hown⟩ := List.mem_filter.1 hhead
  rw [Bool.and_eq_true] at hown
  refine ⟨head, hmem, ?_⟩
  rw [FilterHead.isAt, hown.2, hid, beq_self_eq_true]
  rfl

/-- A filter that is there has a row, with or without conditions. -/
theorem exists_row (h : id ∈ t.ids) (hid : id ∈ ids) :
    ∃ row ∈ t.rowsOf ids, row.filterId = id := by
  obtain ⟨head, hhead, rfl⟩ := List.mem_map.1 h
  have hrow : ∃ row ∈ t.joinedRows head, row.filterId = head.id := by
    unfold joinedRows
    cases t.conditionsOf head.id with
    | nil => exact ⟨_, List.mem_singleton_self _, rfl⟩
    | cons c cs => exact ⟨_, List.mem_map_of_mem List.mem_cons_self, rfl⟩
  obtain ⟨row, hrow, hrowid⟩ := hrow
  refine ⟨row, List.mem_flatMap.2 ⟨head, ?_, hrow⟩, hrowid⟩
  rw [List.mem_mergeSort]
  exact List.mem_filter.2 ⟨hhead, List.contains_iff_mem.2 hid⟩

end Tables

/-- The number has been given, and no filter has it any more. -/
def Database.Gone (d : Database) (t : Tables) (id : Int) : Prop := id < d.nextFilter ∧ id ∉ t.ids

theorem lasting_gone (id : Int) : Lasting fun d t => d.Gone t id where
  fewer h hfilters _ := ⟨h.1, fun hmem => h.2 (hfilters hmem)⟩
  given h hfilter _ := ⟨Int.lt_of_lt_of_le h.1 hfilter, h.2⟩
  newFilter head hnew h hid := by
    refine ⟨Int.lt_add_one_of_le (Int.le_of_lt h.1), fun hmem => ?_⟩
    rw [Tables.ids, Tables.insertFilter, List.map_append, List.mem_append] at hmem
    rcases hmem with hmem | hmem
    · exact h.2 hmem
    · have hlast := List.mem_singleton.1 hmem
      have := h.1
      omega
  newCondition _ _ _ h _ := h

theorem lasting_given (id : Int) : Lasting fun d _ => id < d.nextFilter where
  fewer h _ _ := h
  given h hfilter _ := Int.lt_of_lt_of_le h hfilter
  newFilter _ _ h _ := Int.lt_add_one_of_le (Int.le_of_lt h)
  newCondition _ _ _ h _ := h

namespace Database

variable {w : Surroundings} {d : Database}

/-- What lasts, a call keeps. -/
theorem keeps_call {P : Database → Tables → Prop} (hP : Lasting P) (c : StoreCall)
    (h : P d d.tables) : P (d.call w c).2 (d.call w c).2.tables := by
  have hkeeps : ∀ s (b : Client), P b.database b.database.tables ∧ P b.database b.seen →
      P (b.perform w s).2.database (b.perform w s).2.database.tables ∧
        P (b.perform w s).2.database (b.perform w s).2.seen := by
    rintro s b ⟨ht, hs⟩
    exact Client.effect_perform.keeps hP (hP.given ht (Int.le_refl _) (Int.le_refl _))
      (hP.given hs (Int.le_refl _) (Int.le_refl _))
  rw [call_eq]
  exact (Program.run_keeps hkeeps (session c).run (s := ⟨d, .closed⟩) ⟨h, h⟩).1

/-- Only its owner can delete a filter. -/
theorem has_call {workspace user : String} {id : Int} (c : StoreCall)
    (h : d.tables.Has workspace user id) :
    (d.call w c).2.tables.Has workspace user id ∨
      Exchange.store c (d.call w c).1 = .store (.deleteFilter workspace user id) (.ok true) := by
  obtain ⟨head, hhead, hat⟩ := h
  obtain ⟨hid, hworkspace, huser⟩ := Tables.isAt_iff.1 hat
  have same : (d.call w c).2.tables = d.tables → (d.call w c).2.tables.Has workspace user id :=
    fun hsame => hsame ▸ ⟨head, hhead, hat⟩
  -- another filter of a set that is saved keeps its number and its owner
  have other : ∀ {new : Tables} {workspace' user' : String} {input : FilterInput}
      {saved : SavedFilter}, d.tables.Saves new workspace' user' input saved → id ≠ saved.id →
      new.Has workspace user id := by
    intro new workspace' user' input saved hsaves hne
    refine ⟨_, (hsaves.others _ ?_).2 ⟨head, hhead, rfl⟩, ?_⟩
    · split
      · exact hid ▸ hne
      · exact hid ▸ hne
    · split
      · exact hat
      · exact hat
  cases c with
  | createFilter workspace' user' input =>
    rcases call_createFilter w d workspace' user' input with ⟨saved, d', hcall, hsaves, hnew⟩ |
      ⟨e, d', hcall, hsame, -⟩
    · rw [hcall]
      refine .inl (other hsaves ?_)
      rintro rfl
      exact hnew (hid ▸ List.mem_map_of_mem hhead)
    · exact .inl (same (by rw [hcall]; exact hsame))
  | updateFilter workspace' user' id' input =>
    rcases call_updateFilter w d workspace' user' id' input with
      ⟨saved, d', hcall, hsaves, hsaved, g, hg, hgat, -⟩ | ⟨d', hcall, hsame, -⟩ |
      ⟨e, d', hcall, hsame, -⟩
    · rw [hcall]
      by_cases heq : id = saved.id
      · obtain ⟨hgid, rfl, rfl⟩ := Tables.isAt_iff.1 hgat
        obtain rfl : head = g := Tables.eq_of_id_eq hhead hg (by rw [hid, heq, hsaved, hgid])
        refine .inl ⟨_, hsaves.head, Tables.isAt_iff.2 ⟨heq.symm, ?_, ?_⟩⟩
        · exact hworkspace
        · exact huser
      · exact .inl (other hsaves heq)
    · exact .inl (same (by rw [hcall]; exact hsame))
    · exact .inl (same (by rw [hcall]; exact hsame))
  | deleteFilter workspace' user' id' =>
    rcases call_deleteFilter w d workspace' user' id' with ⟨d', hcall, hgone⟩ |
      ⟨e, d', hcall, hsame⟩
    · rw [hcall]
      by_cases hdeleted : head.isAt workspace' user' id' = true
      · obtain ⟨rfl, rfl, rfl⟩ := Tables.isAt_iff.1 hdeleted
        subst hid hworkspace huser
        rw [List.any_eq_true.2 ⟨head, hhead, hat⟩]
        exact .inr rfl
      · refine .inl ⟨head, ?_, hat⟩
        show head ∈ d'.tables.filters
        rw [hgone]
        exact List.mem_filter.2 ⟨hhead, by simpa using hdeleted⟩
    · exact .inl (same (by rw [hcall]; exact hsame))
  | _ => exact .inl (same (tables_call rfl))

end Database

end TaskBoard.Postgres
