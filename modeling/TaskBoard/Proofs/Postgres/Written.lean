import TaskBoard.Proofs.Filter.Saving
import TaskBoard.Proofs.Postgres.Calls

/-!
# What is read is what was written

What was last written to each filter can be told from the replies of the calls alone: it is what
the last call that saved the filter returned, without the mark of the default filter if another
filter of its owner became the default since.  There are three ways to read filters: one at a
time, as a list, and as rows that are put together again.  All of them give just this.

    rows of several filters are put together again              (Definition.ofRows_flatMap_rows)
    the tables have what was last written                       (Database.written_run)
    all ways of reading agree                                   (Database.reads_written)
-/

namespace TaskBoard

/-- The filter without the mark of its owner's default filter. -/
def SavedFilter.unmarked (f : SavedFilter) : SavedFilter := { f with isDefault := false }

/-- Whether the filter belongs to the user in the workspace. -/
def SavedFilter.isOwned (workspace user : String) (f : SavedFilter) : Bool :=
  f.workspace == workspace && f.user == user

/-- What was last written to each filter that is there. -/
abbrev Written := Int → Option SavedFilter

/-- A filter has been saved.  If it is the default, no other filter of its owner is. -/
def Written.save (last : Written) (f : SavedFilter) : Written := fun id =>
  if id = f.id then some f
  else (last id).map fun g =>
    if f.isDefault && g.isOwned f.workspace f.user then g.unmarked else g

def Written.delete (last : Written) (id : Int) : Written := fun i => if i = id then none else last i

/-- What was last written after a call with this reply. -/
def StoreCall.writes (c : StoreCall) (r : Except StorageError c.Reply) (last : Written) : Written :=
  match c, r with
  | .createFilter _ _ _, .ok f => last.save f
  | .updateFilter _ _ _ _, .ok (some f) => last.save f
  | .deleteFilter _ _ id, .ok true => last.delete id
  | _, _ => last

/-! ## The rows of several filters -/

namespace Definition

variable {fs : List SavedFilter} {f : SavedFilter}

/-- Among the rows of filters with different numbers, those with the number of a filter are the
rows of this filter. -/
theorem filter_flatMap_rows (h : (fs.map SavedFilter.id).Nodup) (hf : f ∈ fs) :
    (fs.flatMap Board.rows).filter (·.filterId = f.id) = Board.rows f := by
  have hnone : ∀ g : SavedFilter, g.id ≠ f.id → (Board.rows g).filter (·.filterId = f.id) = [] := by
    intro g hg
    refine List.filter_eq_nil_iff.2 fun x hx hid => hg ?_
    rw [← filterId_of_mem_rows hx]
    exact of_decide_eq_true hid
  have hall : (Board.rows f).filter (·.filterId = f.id) = Board.rows f :=
    List.filter_eq_self.2 fun x hx => decide_eq_true (filterId_of_mem_rows hx)
  induction fs with
  | nil => cases hf
  | cons g fs ih =>
    rw [List.map_cons, List.nodup_cons] at h
    rw [List.flatMap_cons, List.filter_append]
    rcases List.mem_cons.1 hf with rfl | hf
    · have hrest : (fs.flatMap Board.rows).filter (·.filterId = f.id) = [] := by
        rw [List.filter_flatMap, List.flatMap_eq_nil_iff]
        exact fun k hk => hnone k fun hid => h.1 (hid ▸ List.mem_map_of_mem hk)
      rw [hall, hrest, List.append_nil]
    · rw [hnone g fun hid => h.1 (hid ▸ List.mem_map_of_mem hf), ih h.2 hf, List.nil_append]

/-- Each number counts once. -/
theorem eraseDups_flatMap_rows (h : (fs.map SavedFilter.id).Nodup) :
    ((fs.flatMap Board.rows).map (·.filterId)).eraseDups = fs.map SavedFilter.id := by
  induction fs with
  | nil => rfl
  | cons g fs ih =>
    rw [List.map_cons, List.nodup_cons] at h
    obtain ⟨c, rest, hrows⟩ := rows_eq_cons g
    have hrest : ∀ x ∈ rest, x.filterId = g.id := fun x hx =>
      filterId_of_mem_rows (hrows ▸ List.mem_cons_of_mem _ hx)
    have hothers : ∀ x ∈ fs.flatMap Board.rows, x.filterId ≠ g.id := by
      intro x hx hid
      obtain ⟨k, hk, hx⟩ := List.mem_flatMap.1 hx
      exact h.1 (by rw [← hid, filterId_of_mem_rows hx]; exact List.mem_map_of_mem hk)
    have hgone : (rest.map (·.filterId)).filter (!· == g.id) = [] := by
      rw [List.filter_eq_nil_iff, List.forall_mem_map]
      exact fun x hx => by simp [hrest x hx]
    have hkept : ((fs.flatMap Board.rows).map (·.filterId)).filter (!· == g.id) =
        (fs.flatMap Board.rows).map (·.filterId) := by
      rw [List.filter_eq_self, List.forall_mem_map]
      exact fun x hx => by simpa using hothers x hx
    rw [List.flatMap_cons, hrows, List.cons_append, List.map_cons, List.eraseDups_cons,
      List.map_append, List.filter_append, List.map_cons]
    show g.id :: ((rest.map (·.filterId)).filter (!· == g.id) ++ _).eraseDups = _
    rw [hgone, List.nil_append]
    show g.id :: (((fs.flatMap Board.rows).map (·.filterId)).filter (!· == g.id)).eraseDups = _
    rw [hkept, ih h.2]

/-- Putting the rows together gives the filters, each once and in order. -/
theorem ofRows_flatMap_rows (h : (fs.map SavedFilter.id).Nodup) :
    ofRows (fs.flatMap Board.rows) = fs.map SavedFilter.definition := by
  rw [ofRows_eq, heads_eq, eraseDups_flatMap_rows h, List.filterMap_map, List.map_filterMap,
    ← List.filterMap_eq_map']
  refine List.filterMap_congr fun f hf => ?_
  obtain ⟨c, rest, hrows⟩ := rows_eq_cons f
  have hfind : (fs.flatMap Board.rows).find? (·.filterId = f.id) = some (Board.row f c) := by
    rw [← List.head?_filter, filter_flatMap_rows h hf, hrows]
    rfl
  have hconditions : conditionsOf (fs.flatMap Board.rows) f.id =
      f.conditions.map (·.input.condition) := by
    rw [conditionsOf, filter_flatMap_rows h hf, filterMap_rows]
  rw [Function.comp_apply, hfind, Option.map_some]
  show some (Definition.mk f.id f.name _ (conditionsOf _ f.id)) = _
  rw [hconditions]
  rfl

end Definition

namespace Postgres

namespace Database

/-- A call on a database, of which it is known what was last written. -/
def writing (w : Surroundings) (s : Database × Written) (c : StoreCall) : Database × Written :=
  ((s.1.call w c).2, c.writes (s.1.call w c).1 s.2)

/-- The same for several calls, the first one on a database in which nothing was written. -/
def written (w : Surroundings) (d : Database) (calls : List StoreCall) : Database × Written :=
  calls.foldl (writing w) (d, fun _ => none)

end Database

namespace Tables

/-- The filter of this number, whoever owns it. -/
def savedAt (t : Tables) : Written := fun id =>
  (t.filters.find? fun h => h.id == id).map t.saved

/-- The filters among these numbers, in the order of the numbers. -/
def savedAmong (t : Tables) (ids : List Int) : List SavedFilter :=
  ((t.filters.filter fun h => ids.contains h.id).mergeSort fun a b => decide (a.id ≤ b.id)).map t.saved

variable {t old new : Tables} {workspace user : String} {id : Int} {ids : List Int}

/-! ## Filters by number -/

/-- Each number has one filter. -/
theorem savedAt_eq_some {f : SavedFilter} :
    t.savedAt id = some f ↔ ∃ h ∈ t.filters, h.id = id ∧ t.saved h = f := by
  constructor
  · intro h
    obtain ⟨g, hg, hf⟩ := Option.map_eq_some_iff.1 h
    exact ⟨g, List.mem_of_find?_eq_some hg, by simpa using List.find?_some hg, hf⟩
  · rintro ⟨h, hh, rfl, rfl⟩
    have hsome : (t.filters.find? fun g => g.id == h.id).isSome := by
      rw [List.find?_isSome]
      exact ⟨h, hh, beq_self_eq_true _⟩
    obtain ⟨g, hg⟩ := Option.isSome_iff_exists.1 hsome
    have hid : g.id = h.id := by simpa using List.find?_some hg
    rw [savedAt, hg, eq_of_id_eq (List.mem_of_find?_eq_some hg) hh hid]
    rfl

theorem savedAt_eq_none : t.savedAt id = none ↔ ∀ h ∈ t.filters, h.id ≠ id := by
  rw [savedAt, Option.map_eq_none_iff, List.find?_eq_none]
  simp

/-- The conditions of other filters are not touched where a filter is saved or deleted. -/
theorem conditionsOf_congr {P : ConditionRow → Bool} (hP : ∀ c ∈ old.conditions, c.filter = id → P c)
    (h : new.conditions.filter P = old.conditions.filter P)
    (hnew : ∀ c ∈ new.conditions, c.filter = id → P c) :
    new.conditionsOf id = old.conditionsOf id := by
  have hall : ∀ cs : List ConditionRow, (∀ c ∈ cs, c.filter = id → P c) →
      (cs.filter fun c => c.filter == id) = (cs.filter P).filter fun c => c.filter == id := by
    intro cs hcs
    rw [List.filter_filter]
    refine List.filter_congr fun c hc => ?_
    by_cases hid : c.filter = id
    · rw [hcs c hc hid, Bool.and_true]
    · simp [hid]
  rw [conditionsOf, hall _ hnew, h, ← hall _ hP, conditionsOf]

/-- The rows of a filter's conditions are in order. -/
theorem pairwise_conditionRows (filter : Int) (position : Nat) (cs : List SavedCondition) :
    (conditionRows filter position cs).Pairwise fun a b => a.isBefore b = true := by
  induction cs generalizing position with
  | nil => exact .nil
  | cons c cs ih =>
    refine .cons (fun row hrow => ?_) (ih (position + 1))
    obtain ⟨⟨d, k⟩, hd, rfl⟩ := List.mem_map.1 hrow
    have hk : position + 1 ≤ k := List.le_snd_of_mem_zipIdx hd
    simp only [ConditionRow.isBefore, Bool.or_eq_true, decide_eq_true_eq]
    omega

theorem saved_conditionRows (filter : Int) (position : Nat) (cs : List SavedCondition) :
    (conditionRows filter position cs).map ConditionRow.saved = cs := by
  induction cs generalizing position with
  | nil => rfl
  | cons c cs ih => exact congrArg (c :: ·) (ih (position + 1))

/-! ## Writing -/

section

variable {input : FilterInput} {saved : SavedFilter}

/-- What was saved is there, with its conditions in order. -/
theorem Saves.savedAt_self (h : old.Saves new workspace user input saved) :
    new.savedAt saved.id = some saved := by
  refine savedAt_eq_some.2 ⟨_, h.head, rfl, ?_⟩
  show FilterHead.withConditions _ ((new.conditionsOf saved.id).map ConditionRow.saved) = saved
  rw [conditionsOf, h.conditions, List.mergeSort_of_pairwise (pairwise_conditionRows ..),
    saved_conditionRows, ← h.fields]

/-- Any other filter is what it was, but for the mark of the default filter. -/
theorem Saves.savedAt_of_ne (h : old.Saves new workspace user input saved) (hid : id ≠ saved.id) :
    new.savedAt id = (old.savedAt id).map fun g =>
      if input.isDefault && g.isOwned workspace user then g.unmarked else g := by
  have hconditions : new.conditionsOf id = old.conditionsOf id :=
    conditionsOf_congr (P := fun c => c.filter != saved.id) (fun c _ hc => by simpa [hc] using hid)
      h.otherConditions fun c _ hc => by simpa [hc] using hid
  cases hold : old.savedAt id with
  | none =>
    refine savedAt_eq_none.2 fun g hg hgid => ?_
    obtain ⟨k, hk, hgk⟩ := (h.others g (hgid ▸ hid)).1 hg
    refine savedAt_eq_none.1 hold k hk ?_
    rw [← hgid, hgk]
    split <;> rfl
  | some f =>
    obtain ⟨g, hg, rfl, rfl⟩ := savedAt_eq_some.1 hold
    have hmem := (h.others (if input.isDefault = true ∧ g.isOwned workspace user = true then
      { g with isDefault := false } else g) (by split <;> exact hid)).2 ⟨g, hg, rfl⟩
    refine savedAt_eq_some.2 ⟨_, hmem, by split <;> rfl, ?_⟩
    have hsaved : ∀ m, new.saved { g with isDefault := m } = { old.saved g with isDefault := m } := by
      intro m
      rw [Tables.saved, Tables.saved, hconditions]
      rfl
    show _ = if (input.isDefault && g.isOwned workspace user) = true then _ else _
    simp only [← Bool.and_eq_true]
    split
    · exact hsaved false
    · exact hsaved g.isDefault

theorem Saves.savedAt (h : old.Saves new workspace user input saved) :
    new.savedAt = old.savedAt.save saved := by
  have hdefault : saved.isDefault = input.isDefault := by rw [h.fields]; rfl
  have howner : saved.workspace = workspace ∧ saved.user = user := by rw [h.fields]; exact ⟨rfl, rfl⟩
  funext id
  unfold Written.save
  split
  · next hid => rw [hid, h.savedAt_self]
  · next hid => rw [h.savedAt_of_ne hid, hdefault, howner.1, howner.2]

end

/-- A filter that is deleted is gone, with its conditions; the others are what they were. -/
theorem savedAt_deleteFilter (h : t.filters.any (FilterHead.isAt workspace user id) = true) :
    (t.deleteFilter workspace user id).savedAt = t.savedAt.delete id := by
  obtain ⟨g, hg, hat⟩ := List.any_eq_true.1 h
  have hgid := (isAt_iff.1 hat).1
  funext i
  unfold Written.delete
  split
  · next hi =>
    subst hi
    refine savedAt_eq_none.2 fun k hk hkid => ?_
    obtain ⟨hk, hkept⟩ := List.mem_filter.1 hk
    rw [eq_of_id_eq hk hg (hkid.trans hgid.symm), hat] at hkept
    cases hkept
  · next hi =>
    have hkept : ∀ k : FilterHead, k.id = i → (!k.isAt workspace user id) = true := by
      intro k hk
      rw [Bool.not_eq_true', Bool.eq_false_iff]
      exact fun hat => hi (hk.symm.trans (isAt_iff.1 hat).1)
    have hconditions : (t.deleteFilter workspace user id).conditionsOf i = t.conditionsOf i := by
      let P : ConditionRow → Bool := fun c =>
        !(t.filters.any fun h => h.isAt workspace user id && h.id == c.filter)
      have hP : ∀ c : ConditionRow, c.filter = i → P c = true := by
        intro c hc
        rw [Bool.not_eq_true', List.any_eq_false]
        intro k _ hk
        rw [Bool.and_eq_true, beq_iff_eq] at hk
        exact hi (hc.symm.trans (hk.2.symm.trans (isAt_iff.1 hk.1).1))
      refine conditionsOf_congr (P := P) (fun c _ => hP c) ?_ fun c _ => hP c
      show (t.conditions.filter P).filter P = t.conditions.filter P
      rw [List.filter_filter]
      exact List.filter_congr fun c _ => Bool.and_self _
    refine Option.ext fun f => ?_
    rw [savedAt_eq_some, savedAt_eq_some]
    constructor
    · rintro ⟨k, hk, rfl, hf⟩
      exact ⟨k, (List.mem_filter.1 hk).1, rfl, by rwa [saved, hconditions] at hf⟩
    · rintro ⟨k, hk, rfl, hf⟩
      exact ⟨k, List.mem_filter.2 ⟨hk, hkept k rfl⟩, rfl, by rwa [saved, hconditions]⟩

end Tables

namespace Database

variable {w : Surroundings} {d : Database} {s : Database × Written}

/-- The tables change as the reply to a call tells. -/
theorem savedAt_call (c : StoreCall) :
    (d.call w c).2.tables.savedAt = c.writes (d.call w c).1 d.tables.savedAt := by
  cases c with
  | createFilter workspace user input =>
    rcases call_createFilter w d workspace user input with ⟨saved, d', hcall, hsaves, -⟩ |
      ⟨e, d', hcall, hsame, -⟩
    · rw [hcall]
      exact hsaves.savedAt
    · rw [hcall]
      exact congrArg Tables.savedAt hsame
  | updateFilter workspace user id input =>
    rcases call_updateFilter w d workspace user id input with ⟨saved, d', hcall, hsaves, -⟩ |
      ⟨d', hcall, hsame, -⟩ | ⟨e, d', hcall, hsame, -⟩
    · rw [hcall]
      exact hsaves.savedAt
    · rw [hcall]
      exact congrArg Tables.savedAt hsame
    · rw [hcall]
      exact congrArg Tables.savedAt hsame
  | deleteFilter workspace user id =>
    rcases call_deleteFilter w d workspace user id with ⟨d', hcall, hgone⟩ | ⟨e, d', hcall, hsame⟩
    · rw [hcall]
      show d'.tables.savedAt = _
      rw [hgone]
      cases hany : d.tables.filters.any (FilterHead.isAt workspace user id) with
      | true => exact Tables.savedAt_deleteFilter hany
      | false => rw [Tables.deleteFilter_of_none hany]; rfl
    · rw [hcall]
      exact congrArg Tables.savedAt hsame
  | _ => exact congrArg Tables.savedAt (tables_call rfl)

theorem writing_savedAt (c : StoreCall) (h : s.1.tables.savedAt = s.2) :
    (writing w s c).1.tables.savedAt = (writing w s c).2 := by
  show (s.1.call w c).2.tables.savedAt = c.writes (s.1.call w c).1 s.2
  rw [savedAt_call, h]

/-- The tables have what was last written, after all calls. -/
theorem written_run (h : d.tables.filters = []) (calls : List StoreCall) :
    (d.written w calls).1.tables.savedAt = (d.written w calls).2 := by
  refine List.foldlRecOn (motive := fun s : Database × Written => s.1.tables.savedAt = s.2)
    calls _ ?_ fun s hs c _ => writing_savedAt c hs
  funext id
  rw [Tables.savedAt, h]
  rfl

end Database

/-! ## Reading -/

namespace Tables

variable {t : Tables} {workspace user : String} {id : Int} {ids : List Int} {f : SavedFilter}

/-- One filter is read by its number and its owner. -/
theorem map_filterAt : (t.filterAt workspace user id).map t.saved =
    (t.savedAt id).filter (SavedFilter.isOwned workspace user) := by
  refine Option.ext fun f => ?_
  rw [Option.map_eq_some_iff, Option.filter_eq_some_iff, savedAt_eq_some]
  constructor
  · rintro ⟨h, hat, rfl⟩
    have hisAt : h.isAt workspace user id = true := List.find?_some hat
    obtain ⟨hid, hown⟩ := Bool.and_eq_true_iff.1 hisAt
    exact ⟨⟨h, List.mem_of_find?_eq_some hat, beq_iff_eq.1 hid, rfl⟩, hown⟩
  · rintro ⟨⟨h, hh, rfl, rfl⟩, hown⟩
    have hat : h.isAt workspace user h.id = true :=
      Bool.and_eq_true_iff.2 ⟨beq_self_eq_true _, hown⟩
    have hsome : (t.filterAt workspace user h.id).isSome := by
      rw [filterAt, List.find?_isSome]
      exact ⟨h, hh, hat⟩
    obtain ⟨g, hg⟩ := Option.isSome_iff_exists.1 hsome
    refine ⟨g, hg, congrArg t.saved ?_⟩
    exact eq_of_id_eq (List.mem_of_find?_eq_some hg) hh (isAt_iff.1 (List.find?_some hg)).1

/-- The filters of an owner. -/
theorem mem_savedOf : f ∈ t.savedOf workspace user ↔
    t.savedAt f.id = some f ∧ f.isOwned workspace user = true := by
  rw [savedOf, filtersOf, List.mem_map, savedAt_eq_some]
  constructor
  · rintro ⟨h, hh, rfl⟩
    obtain ⟨hh, hown⟩ := List.mem_filter.1 (List.mem_mergeSort.1 hh)
    exact ⟨⟨h, hh, rfl, rfl⟩, hown⟩
  · rintro ⟨⟨h, hh, -, rfl⟩, hown⟩
    exact ⟨h, List.mem_mergeSort.2 (List.mem_filter.2 ⟨hh, hown⟩), rfl⟩

theorem mem_savedAmong : f ∈ t.savedAmong ids ↔ f.id ∈ ids ∧ t.savedAt f.id = some f := by
  rw [savedAmong, List.mem_map, savedAt_eq_some]
  constructor
  · rintro ⟨h, hh, rfl⟩
    obtain ⟨hh, hid⟩ := List.mem_filter.1 (List.mem_mergeSort.1 hh)
    exact ⟨List.contains_iff_mem.1 hid, h, hh, rfl, rfl⟩
  · rintro ⟨hid, h, hh, -, rfl⟩
    exact ⟨h, List.mem_mergeSort.2 (List.mem_filter.2 ⟨hh, List.contains_iff_mem.2 hid⟩), rfl⟩

theorem nodup_savedOf : ((t.savedOf workspace user).map SavedFilter.id).Nodup := by
  rw [savedOf, List.map_map]
  exact nodup_filtersOf

theorem nodup_savedAmong : ((t.savedAmong ids).map SavedFilter.id).Nodup := by
  rw [savedAmong, List.map_map]
  show (List.map FilterHead.id _).Nodup
  rw [((List.mergeSort_perm _ _).map FilterHead.id).nodup_iff]
  exact t.nodup_filters.sublist (List.filter_sublist.map _)

theorem joinedRows_eq (h : FilterHead) : t.joinedRows h = Board.rows (t.saved h) := by
  unfold joinedRows Board.rows
  rw [saved]
  cases t.conditionsOf h.id with
  | nil => rfl
  | cons c cs =>
    rw [if_neg (by simp [FilterHead.withConditions])]
    show _ = List.map _ (List.map ConditionRow.saved (c :: cs))
    rw [List.map_map]
    rfl

theorem rowsOf_eq : t.rowsOf ids = (t.savedAmong ids).flatMap Board.rows := by
  rw [rowsOf, savedAmong, List.flatMap_map]
  exact List.flatMap_congr fun h _ => joinedRows_eq h

/-- No condition is in two rows. -/
theorem nodup_conditionIds : ((t.rowsOf ids).filterMap (·.conditionId)).Nodup := by
  have hrows : ∀ h : FilterHead, (t.joinedRows h).filterMap (·.conditionId) =
      (t.conditionsOf h.id).map ConditionRow.id := by
    intro h
    unfold joinedRows
    cases t.conditionsOf h.id with
    | nil => rfl
    | cons c cs => simp [List.filterMap_map, joined]
  have hmem : ∀ {h : FilterHead} {c : ConditionRow}, c ∈ t.conditionsOf h.id →
      c ∈ t.conditions ∧ c.filter = h.id := by
    intro h c hc
    simpa using List.mem_filter.1 (List.mem_mergeSort.1 hc)
  rw [rowsOf, List.filterMap_flatMap, List.nodup_flatMap]
  constructor
  · intro h _
    rw [hrows, conditionsOf, ((List.mergeSort_perm _ _).map ConditionRow.id).nodup_iff]
    exact t.nodup_conditions.sublist (List.filter_sublist.map _)
  · -- a condition of two filters would have both their numbers
    have hids : ((t.savedAmong ids).map SavedFilter.id).Pairwise (· ≠ ·) := nodup_savedAmong
    refine (List.pairwise_map.1 (List.pairwise_map.1 hids)).imp fun hne => ?_
    intro i hi hi'
    dsimp only at hi hi'
    rw [hrows] at hi hi'
    obtain ⟨c, hc, rfl⟩ := List.mem_map.1 hi
    obtain ⟨c', hc', hid⟩ := List.mem_map.1 hi'
    have hc := hmem hc
    have hc' := hmem hc'
    have heq := List.inj_on_of_nodup_map t.nodup_conditions hc'.1 hc.1 hid
    exact hne (hc.2.symm.trans ((congrArg ConditionRow.filter heq).symm.trans hc'.2))

end Tables

/-- **All ways of reading agree.**  After any calls, whatever was refused to them, each filter is
read as what was last written to it: alone and in the list of its owner, and by anyone as rows
that are put together again.  A filter that was not written, or was deleted, is in none of them,
and no condition is in two rows. -/
theorem Database.reads_written (w w' : Surroundings) (d : Database) (calls : List StoreCall)
    (hempty : d.tables.filters = []) (hw : ¬ w'.Refuses) :
    let now := (d.written w calls).1
    let last := (d.written w calls).2
    (∀ workspace user id, (now.call w' (.getFilter workspace user id)).1 =
      .ok ((last id).filter (SavedFilter.isOwned workspace user))) ∧
    (∀ workspace user, ∃ fs : List SavedFilter,
      (now.call w' (.listFilters workspace user)).1 = .ok fs ∧ (fs.map SavedFilter.id).Nodup ∧
      ∀ f, f ∈ fs ↔ last f.id = some f ∧ f.isOwned workspace user = true) ∧
    ∀ ids, ∃ fs : List SavedFilter,
      (now.call w' (.fetchRows ids)).1 = .ok (fs.flatMap Board.rows) ∧
      (fs.map SavedFilter.id).Nodup ∧ (∀ f, f ∈ fs ↔ f.id ∈ ids ∧ last f.id = some f) ∧
      Definition.ofRows (fs.flatMap Board.rows) = fs.map SavedFilter.definition ∧
      ((fs.flatMap Board.rows).filterMap (·.conditionId)).Nodup := by
  intro now last
  have hlast : now.tables.savedAt = last := written_run hempty calls
  clear_value now last
  subst hlast
  refine ⟨fun workspace user id => ?_, fun workspace user => ?_, fun ids => ?_⟩
  · rw [← Tables.map_filterAt]
    exact (call_getFilter w' now workspace user id).resolve_right fun ⟨_, _, h⟩ => hw h
  · exact ⟨_, (call_listFilters w' now workspace user).resolve_right fun ⟨_, _, h⟩ => hw h,
      Tables.nodup_savedOf, fun f => Tables.mem_savedOf⟩
  · have hrows : (now.call w' (.fetchRows ids)).1 = .ok (now.tables.rowsOf ids) :=
      (call_fetchRows w' now ids).resolve_right fun ⟨_, _, h⟩ => hw h
    have hconditions : ((now.tables.rowsOf ids).filterMap (·.conditionId)).Nodup :=
      Tables.nodup_conditionIds
    rw [Tables.rowsOf_eq] at hrows hconditions
    exact ⟨_, hrows, Tables.nodup_savedAmong, fun f => Tables.mem_savedAmong,
      Definition.ofRows_flatMap_rows Tables.nodup_savedAmong, hconditions⟩

namespace Sample

/-- A database without filters. -/
def blank : Database := ⟨[("w", "local")], ⟨[], [], .nil, .nil, nofun⟩, 1, 1, 0⟩

/-- Two filters are saved as defaults, and a third one is deleted. -/
def calls : List StoreCall :=
  [.createFilter "w" "local" input, .createFilter "w" "local" input,
   .createFilter "w" "other" input, .deleteFilter "w" "other" 3]

/-- The first filter, as it is read after the calls. -/
def first : SavedFilter :=
  ⟨1, "local", "w", "n", none, "AND", false, ⟨2, 0⟩, [⟨1, condition⟩, ⟨2, condition⟩]⟩

end Sample

/-- The first filter is read without its mark, and the deleted one is not read. -/
theorem Database.reads_written_calls :
    let now := (Sample.blank.written .calm Sample.calls).1
    Sample.blank.tables.filters = [] ∧ ¬ Surroundings.calm.Refuses ∧
    (now.call .calm (.getFilter "w" "local" 1)).1 = .ok (some Sample.first) ∧
    (∃ fs : List SavedFilter, (now.call .calm (.listFilters "w" "local")).1 = .ok fs ∧
      Sample.first ∈ fs) ∧
    ∃ fs : List SavedFilter, (now.call .calm (.fetchRows [1, 3])).1 = .ok (fs.flatMap Board.rows) ∧
      Sample.first ∈ fs ∧ ∀ f ∈ fs, f.id ≠ 3 := by
  intro now
  have hcalm : ¬ Surroundings.calm.Refuses := nofun
  obtain ⟨hget, hlist, hfetch⟩ :=
    reads_written .calm .calm Sample.blank Sample.calls rfl hcalm
  have hfirst : (Sample.blank.written .calm Sample.calls).2 1 = some Sample.first := rfl
  have hthird : (Sample.blank.written .calm Sample.calls).2 3 = none := rfl
  refine ⟨rfl, hcalm, ?_, ?_, ?_⟩
  · rw [hget, hfirst]
    rfl
  · obtain ⟨fs, hfs, -, hmem⟩ := hlist "w" "local"
    exact ⟨fs, hfs, (hmem _).2 ⟨hfirst, rfl⟩⟩
  · obtain ⟨fs, hfs, -, hmem, -⟩ := hfetch [1, 3]
    refine ⟨fs, hfs, (hmem _).2 ⟨.head _, hfirst⟩, fun f hf hid => ?_⟩
    have hf := ((hmem f).1 hf).2
    rw [hid, hthird] at hf
    cases hf

/-- A filter that becomes the default takes the mark of another one, which is then not read as
it was returned. -/
theorem Database.not_reads_returned :
    ¬ ∀ (w : Surroundings) (d : Database) (workspace user : String) (input other : FilterInput)
      (f : SavedFilter), d.tables.filters = [] → ¬ w.Refuses →
      (d.call w (.createFilter workspace user input)).1 = .ok f →
      (((d.call w (.createFilter workspace user input)).2.call w
        (.createFilter workspace user other)).2.call w (.getFilter workspace user f.id)).1 =
          .ok (some f) := by
  intro h
  have hread := h .calm Sample.blank "w" "local" Sample.input Sample.input
    { Sample.first with isDefault := true } rfl nofun rfl
  rcases call_getFilter .calm _ "w" "local" 1 with hfound | ⟨_, _, hrefused⟩
  · have hmark := congrArg (Option.map SavedFilter.isDefault)
      (Except.ok.inj (hfound.symm.trans hread))
    rw [Option.map_map] at hmark
    have hfalse : some false = some true := hmark
    cases hfalse
  · exact absurd hrefused nofun

end Postgres

end TaskBoard
