import Mathlib.Data.List.Nodup
import TaskBoard.Postgres.Store

/-!
# Tables

The table of filters and the table of their conditions, with what the statements mean on them.
Each row has a number of its own, and a condition names the filter that it belongs to; a filter
that is deleted takes its conditions with it.

Rows are found by what they hold.  A statement that changes rows keeps their numbers, and it
leaves alone the rows that it does not name.

    a number belongs to one filter                              (eq_of_id_eq)
    room is made among the other filters of the owner            (mem_withRoom)
    a row, its conditions and the room for it save a filter      (saves)
-/

namespace TaskBoard

namespace FilterHead

/-- Whether the filter belongs to the user in the workspace. -/
def isOwned (workspace user : String) (h : FilterHead) : Bool :=
  h.workspace == workspace && h.user == user

/-- Whether the filter has this number and this owner. -/
def isAt (workspace user : String) (id : Int) (h : FilterHead) : Bool :=
  h.id == id && h.isOwned workspace user

/-- The filter without the mark of the owner's default filter, unless it is the one to keep. -/
def unmarked (workspace user : String) (keep : Option Int) (h : FilterHead) : FilterHead :=
  if h.isOwned workspace user && h.isDefault && keep != some h.id then { h with isDefault := false }
  else h

theorem unmarked_id (workspace user : String) (keep : Option Int) (h : FilterHead) :
    (h.unmarked workspace user keep).id = h.id := by
  unfold unmarked
  split <;> rfl

/-- Whether the filter comes before another one in a list of filters. -/
def isBefore (a b : FilterHead) : Bool :=
  decide (a.createdAt.seconds < b.createdAt.seconds) ||
    a.createdAt.seconds == b.createdAt.seconds &&
      (decide (a.createdAt.nanos < b.createdAt.nanos) ||
        a.createdAt.nanos == b.createdAt.nanos && decide (a.id ≤ b.id))

end FilterHead

namespace Postgres

/-- A row of the table of conditions. -/
structure ConditionRow where
  id : Int
  filter : Int
  position : Nat
  input : ConditionInput

/-- The condition without its place. -/
def ConditionRow.saved (c : ConditionRow) : SavedCondition := ⟨c.id, c.input⟩

/-- Whether the condition comes before another one of the same filter. -/
def ConditionRow.isBefore (a b : ConditionRow) : Bool :=
  decide (a.position < b.position) || a.position == b.position && decide (a.id ≤ b.id)

/-- Filters and conditions.  The numbers of the rows are keys, and every condition belongs to a
filter that is there. -/
@[ext] structure Tables where
  filters : List FilterHead
  conditions : List ConditionRow
  nodup_filters : (filters.map FilterHead.id).Nodup
  nodup_conditions : (conditions.map ConditionRow.id).Nodup
  belongs : ∀ c ∈ conditions, c.filter ∈ filters.map FilterHead.id

namespace Tables

/-- The numbers of the filters. -/
def ids (t : Tables) : List Int := t.filters.map FilterHead.id

/-! ## Reading -/

/-- The conditions of a filter, in order. -/
def conditionsOf (t : Tables) (id : Int) : List ConditionRow :=
  (t.conditions.filter fun c => c.filter == id).mergeSort ConditionRow.isBefore

/-- The filters of an owner, in order. -/
def filtersOf (t : Tables) (workspace user : String) : List FilterHead :=
  (t.filters.filter (FilterHead.isOwned workspace user)).mergeSort FilterHead.isBefore

def filterAt (t : Tables) (workspace user : String) (id : Int) : Option FilterHead :=
  t.filters.find? (FilterHead.isAt workspace user id)

def ownedAmong (t : Tables) (workspace user : String) (ids : List Int) : List Int :=
  (t.filters.filter fun h => ids.contains h.id && h.isOwned workspace user).map FilterHead.id

/-- The row of a filter with one of its conditions, or with none. -/
def joined (h : FilterHead) (c : Option ConditionRow) : FilterRow where
  filterId := h.id
  name := h.name
  logic := h.logic
  conditionId := c.map (·.id)
  kind := c.map (·.input.kind)
  field := c.bind (·.input.field)
  dateFrom := c.bind (·.input.dateFrom)
  dateTo := c.bind (·.input.dateTo)
  operator := c.map (·.input.operator)
  values := c.map (·.input.values)
  unit := c.bind (·.input.unit)

/-- The rows of a filter: one for each condition, or a single one without. -/
def joinedRows (t : Tables) (h : FilterHead) : List FilterRow :=
  match t.conditionsOf h.id with
  | [] => [joined h none]
  | cs => cs.map fun c => joined h (some c)

/-- The rows of all filters among these numbers. -/
def rowsOf (t : Tables) (ids : List Int) : List FilterRow :=
  ((t.filters.filter fun h => ids.contains h.id).mergeSort fun a b => decide (a.id ≤ b.id)).flatMap
    t.joinedRows

/-- The conditions of all filters among these numbers, each with the number of its filter. -/
def conditionsAmong (t : Tables) (ids : List Int) : List (Int × SavedCondition) :=
  ((t.conditions.filter fun c => ids.contains c.filter).mergeSort fun a b =>
      decide (a.filter < b.filter) || a.filter == b.filter && a.isBefore b).map
    fun c => (c.filter, c.saved)

/-! ## Writing -/

/-- Changes filters, but not their numbers. -/
def mapFilters (t : Tables) (f : FilterHead → FilterHead) (hf : ∀ h, (f h).id = h.id) : Tables where
  filters := t.filters.map f
  conditions := t.conditions
  nodup_filters := by
    have hids : FilterHead.id ∘ f = FilterHead.id := funext hf
    rw [List.map_map, hids]
    exact t.nodup_filters
  nodup_conditions := t.nodup_conditions
  belongs := by
    have hids : FilterHead.id ∘ f = FilterHead.id := funext hf
    rw [List.map_map, hids]
    exact t.belongs

/-- The fields of an input, put into a filter. -/
def overwrite (input : FilterInput) (h : FilterHead) : FilterHead :=
  input.head h.id h.user h.workspace h.createdAt

/-- The owner's default filter is no default any more, unless it is the one to keep. -/
def clearDefault (t : Tables) (workspace user : String) (keep : Option Int) : Tables :=
  t.mapFilters (FilterHead.unmarked workspace user keep) (FilterHead.unmarked_id _ _ _)

/-- The fields of an input, put into a filter of an owner. -/
def replace (t : Tables) (workspace user : String) (id : Int) (input : FilterInput) : Tables :=
  t.mapFilters (fun h => if h.isAt workspace user id then overwrite input h else h) fun h => by
    split <;> rfl

def insertFilter (t : Tables) (h : FilterHead) (hnew : h.id ∉ t.ids) : Tables where
  filters := t.filters ++ [h]
  conditions := t.conditions
  nodup_filters := by
    rw [List.map_append, List.map_singleton]
    exact t.nodup_filters.append (List.nodup_singleton _) (List.disjoint_singleton.2 hnew)
  nodup_conditions := t.nodup_conditions
  belongs c hc := by
    rw [List.map_append]
    exact List.mem_append_left _ (t.belongs c hc)

def insertCondition (t : Tables) (c : ConditionRow) (hnew : c.id ∉ t.conditions.map ConditionRow.id)
    (hfilter : c.filter ∈ t.ids) : Tables where
  filters := t.filters
  conditions := t.conditions ++ [c]
  nodup_filters := t.nodup_filters
  nodup_conditions := by
    rw [List.map_append, List.map_singleton]
    exact t.nodup_conditions.append (List.nodup_singleton _) (List.disjoint_singleton.2 hnew)
  belongs d hd := by
    rcases List.mem_append.1 hd with hd | hd
    · exact t.belongs d hd
    · rw [List.mem_singleton.1 hd]
      exact hfilter

def deleteConditions (t : Tables) (filter : Int) : Tables where
  filters := t.filters
  conditions := t.conditions.filter fun c => c.filter != filter
  nodup_filters := t.nodup_filters
  nodup_conditions := t.nodup_conditions.sublist (List.filter_sublist.map _)
  belongs c hc := t.belongs c (List.mem_filter.1 hc).1

/-- The filter of an owner goes, and its conditions with it. -/
def deleteFilter (t : Tables) (workspace user : String) (id : Int) : Tables where
  filters := t.filters.filter fun h => !h.isAt workspace user id
  conditions := t.conditions.filter fun c =>
    !(t.filters.any fun h => h.isAt workspace user id && h.id == c.filter)
  nodup_filters := t.nodup_filters.sublist (List.filter_sublist.map _)
  nodup_conditions := t.nodup_conditions.sublist (List.filter_sublist.map _)
  belongs c hc := by
    obtain ⟨hc, hkept⟩ := List.mem_filter.1 hc
    obtain ⟨h, hh, hid⟩ := List.mem_map.1 (t.belongs c hc)
    refine List.mem_map.2 ⟨h, List.mem_filter.2 ⟨hh, ?_⟩, hid⟩
    rw [Bool.not_eq_true', List.any_eq_false] at hkept
    have hkept := hkept h hh
    rw [hid, beq_self_eq_true, Bool.and_true] at hkept
    rw [Bool.not_eq_true', Bool.eq_false_iff]
    exact hkept

/-! ## Saving -/

/-- The tables after the mark of the owner's default filter was taken, if it had to be. -/
def withRoom (t : Tables) (workspace user : String) (keep : Option Int)
    (input : FilterInput) : Tables :=
  if input.isDefault then t.clearDefault workspace user keep else t

/-- The conditions of a filter as rows, the first one at `position`. -/
def conditionRows (filter : Int) (position : Nat) (cs : List SavedCondition) : List ConditionRow :=
  (cs.zipIdx position).map fun (c, i) => ⟨c.id, filter, i, c.input⟩

/-- Tables after a filter has been saved: it has the fields of the input and its conditions, each
once and at its place.  Other rows are what they were, but for the mark of the owner's default
filter if the new one is the default. -/
structure Saves (old new : Tables) (workspace user : String) (input : FilterInput)
    (saved : SavedFilter) : Prop where
  fields : saved =
    (input.head saved.id user workspace saved.createdAt).withConditions saved.conditions
  inputs : saved.conditions.map SavedCondition.input = input.conditions
  head : input.head saved.id user workspace saved.createdAt ∈ new.filters
  others : ∀ h : FilterHead, h.id ≠ saved.id → (h ∈ new.filters ↔ ∃ g ∈ old.filters,
    h = if input.isDefault = true ∧ g.isOwned workspace user = true then { g with isDefault := false }
      else g)
  onlyDefault : input.isDefault = true → ∀ h ∈ new.filters, h.isOwned workspace user = true →
    h.isDefault = true → h.id = saved.id
  conditions : (new.conditions.filter fun c => c.filter == saved.id) =
    conditionRows saved.id 0 saved.conditions
  otherConditions : (new.conditions.filter fun c => c.filter != saved.id) =
    old.conditions.filter fun c => c.filter != saved.id

/-! ## Lemmas -/

variable {t old new : Tables} {workspace user : String} {id : Int}

theorem eq_of_id_eq {a b : FilterHead} (ha : a ∈ t.filters) (hb : b ∈ t.filters)
    (h : a.id = b.id) : a = b :=
  List.inj_on_of_nodup_map t.nodup_filters ha hb h

theorem ids_mapFilters (f : FilterHead → FilterHead) (hf : ∀ h, (f h).id = h.id) :
    (t.mapFilters f hf).ids = t.ids := by
  have hids : FilterHead.id ∘ f = FilterHead.id := funext hf
  show (t.filters.map f).map FilterHead.id = _
  rw [List.map_map, hids]
  rfl

theorem ids_deleteFilter_subset (workspace user : String) (id : Int) :
    (t.deleteFilter workspace user id).ids ⊆ t.ids :=
  (List.filter_sublist.map _).subset

/-- Without the mark, a filter is the same but for the mark. -/
theorem unmarked_eq {g : FilterHead} {keep : Option Int} (h : keep ≠ some g.id) :
    g.unmarked workspace user keep =
      if g.isOwned workspace user = true then { g with isDefault := false } else g := by
  unfold FilterHead.unmarked
  cases hm : g.isDefault with
  | true =>
    have hk : (keep != some g.id) = true := by simpa using h
    rw [hk, Bool.and_true, Bool.and_true]
  | false =>
    have hg : { g with isDefault := false } = g := by rw [← hm]
    rw [hg, ite_self, ite_self]

@[simp] theorem conditions_withRoom (keep : Option Int) (input : FilterInput) :
    (t.withRoom workspace user keep input).conditions = t.conditions := by
  unfold withRoom
  split <;> rfl

@[simp] theorem ids_withRoom (keep : Option Int) (input : FilterInput) :
    (t.withRoom workspace user keep input).ids = t.ids := by
  unfold withRoom
  split
  · exact ids_mapFilters ..
  · rfl

/-- Room for a default filter is made among the others of its owner. -/
theorem mem_withRoom {keep : Option Int} {input : FilterInput} {h : FilterHead}
    (hk : keep ≠ some h.id) :
    h ∈ (t.withRoom workspace user keep input).filters ↔ ∃ g ∈ t.filters,
      h = if input.isDefault = true ∧ g.isOwned workspace user = true then
        { g with isDefault := false } else g := by
  unfold withRoom
  cases input.isDefault with
  | true =>
    simp only [if_true, true_and]
    constructor
    · intro hmem
      obtain ⟨g, hg, rfl⟩ := List.mem_map.1 hmem
      rw [FilterHead.unmarked_id] at hk
      exact ⟨g, hg, unmarked_eq hk⟩
    · rintro ⟨g, hg, rfl⟩
      have hid : keep ≠ some g.id := by
        split at hk <;> exact hk
      exact List.mem_map.2 ⟨g, hg, unmarked_eq hid⟩
  | false => simp

/-- The filter that is kept is left as it is. -/
theorem mem_withRoom_keep {input : FilterInput} {h : FilterHead} (hid : h.id = id) :
    h ∈ (t.withRoom workspace user (some id) input).filters ↔ h ∈ t.filters := by
  have hkept : ∀ g : FilterHead, g.id = id → g.unmarked workspace user (some id) = g := by
    intro g hg
    unfold FilterHead.unmarked
    rw [hg, bne_self_eq_false, Bool.and_false]
    rfl
  unfold withRoom
  split
  · constructor
    · intro hmem
      obtain ⟨g, hg, rfl⟩ := List.mem_map.1 hmem
      rw [FilterHead.unmarked_id] at hid
      rwa [hkept g hid]
    · exact fun hmem => List.mem_map.2 ⟨h, hmem, hkept h hid⟩
  · exact Iff.rfl

theorem isAt_iff {h : FilterHead} : h.isAt workspace user id = true ↔
    h.id = id ∧ h.workspace = workspace ∧ h.user = user := by
  simp [FilterHead.isAt, FilterHead.isOwned]

theorem mem_replace_of_ne {input : FilterInput} {h : FilterHead} (hid : h.id ≠ id) :
    h ∈ (t.replace workspace user id input).filters ↔ h ∈ t.filters := by
  constructor
  · intro hmem
    obtain ⟨g, hg, rfl⟩ := List.mem_map.1 hmem
    split at hid
    · next hat => exact absurd (isAt_iff.1 hat).1 hid
    · next hat => rwa [if_neg hat]
  · intro hmem
    exact List.mem_map.2 ⟨h, hmem, if_neg fun hat => hid (isAt_iff.1 hat).1⟩

theorem head_mem_replace (input : FilterInput) {g : FilterHead} (hg : g ∈ t.filters)
    (hat : g.isAt workspace user id = true) :
    input.head id user workspace g.createdAt ∈ (t.replace workspace user id input).filters := by
  obtain ⟨rfl, rfl, rfl⟩ := isAt_iff.1 hat
  exact List.mem_map.2 ⟨g, hg, if_pos hat⟩

/-- Only the one that is kept may be the default afterwards. -/
theorem isDefault_withRoom {keep : Option Int} {input : FilterInput} {h : FilterHead}
    (hd : input.isDefault = true) (hmem : h ∈ (t.withRoom workspace user keep input).filters)
    (hown : h.isOwned workspace user = true) (hmark : h.isDefault = true) : keep = some h.id := by
  by_contra hk
  obtain ⟨g, -, hg⟩ := (mem_withRoom hk).1 hmem
  split at hg
  · rw [hg] at hmark
    cases hmark
  · next hno => exact hno ⟨hd, hg ▸ hown⟩

theorem filter_of_mem_conditionRows {filter : Int} {position : Nat} {cs : List SavedCondition}
    {c : ConditionRow} (hc : c ∈ conditionRows filter position cs) : c.filter = filter := by
  obtain ⟨p, -, rfl⟩ := List.mem_map.1 hc
  rfl

/-- A filter is saved by its row, by its conditions, and by making room for it. -/
theorem saves {keep : Option Int} {input : FilterInput} {saved : List SavedCondition}
    {createdAt : Timestamp} (hkeep : keep = none ∨ keep = some id)
    (hinputs : saved.map SavedCondition.input = input.conditions)
    (hhead : input.head id user workspace createdAt ∈ new.filters)
    (hothers : ∀ h : FilterHead, h.id ≠ id →
      (h ∈ new.filters ↔ h ∈ (old.withRoom workspace user keep input).filters))
    (hconditions : new.conditions =
      (old.conditions.filter fun c => c.filter != id) ++ conditionRows id 0 saved) :
    old.Saves new workspace user input
      ((input.head id user workspace createdAt).withConditions saved) where
  fields := rfl
  inputs := hinputs
  head := hhead
  others h hid := by
    refine (hothers h hid).trans (mem_withRoom fun hk => ?_)
    rcases hkeep with hnone | hsome
    · rw [hnone] at hk
      cases hk
    · rw [hsome] at hk
      exact hid (Option.some.inj hk).symm
  onlyDefault hd h hmem hown hmark := by
    by_contra hid
    have hk := isDefault_withRoom hd ((hothers h hid).1 hmem) hown hmark
    rcases hkeep with hnone | hsome
    · rw [hnone] at hk
      cases hk
    · rw [hsome] at hk
      exact hid (Option.some.inj hk).symm
  conditions := by
    show new.conditions.filter (fun c => c.filter == id) = conditionRows id 0 saved
    have hnew : ∀ c ∈ conditionRows id 0 saved, (c.filter == id) = true :=
      fun c hc => beq_iff_eq.2 (filter_of_mem_conditionRows hc)
    have hold : (old.conditions.filter fun c => c.filter == id && c.filter != id) = [] :=
      List.filter_eq_nil_iff.2 fun c _ hc => by simp at hc
    rw [hconditions, List.filter_append, List.filter_filter, hold, List.filter_eq_self.2 hnew]
    rfl
  otherConditions := by
    show new.conditions.filter (fun c => c.filter != id) = old.conditions.filter fun c => c.filter != id
    have hnew : ∀ c ∈ conditionRows id 0 saved, ¬ (c.filter != id) = true :=
      fun c hc => by simp [filter_of_mem_conditionRows hc]
    rw [hconditions, List.filter_append, List.filter_filter, List.filter_eq_nil_iff.2 hnew,
      List.append_nil]
    exact List.filter_congr fun c _ => Bool.and_self _

end Tables

end Postgres

end TaskBoard
