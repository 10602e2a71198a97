import TaskBoard.Proofs.Filter.Sizes
import TaskBoard.Proofs.Postgres.Written

/-!
# How large saved filters get

If no call saves a filter with too many conditions, no filter that is there has too many of them.
Then the rows of a set hold at most one filter for each number, and none that is too large.

    a small filter stays small as it is saved                   (Database.small_call)
    the rows of small filters are within limits                 (Tables.Small.rowsWithin)
-/

namespace TaskBoard

/-- The call does not save a filter with too many conditions. -/
def StoreCall.Small : StoreCall → Prop
  | .createFilter _ _ input => input.conditions.length ≤ maxConditions
  | .updateFilter _ _ _ input => input.conditions.length ≤ maxConditions
  | _ => True

/-- No filter has too many conditions. -/
def Written.Small (last : Written) : Prop :=
  ∀ id f, last id = some f → f.conditions.length ≤ maxConditions

/-- Saving a small filter leaves the others small, with or without their marks. -/
theorem Written.Small.save {last : Written} (h : last.Small) {f : SavedFilter}
    (hf : f.conditions.length ≤ maxConditions) : (last.save f).Small := by
  intro id g hg
  unfold Written.save at hg
  split at hg
  · cases hg
    exact hf
  · obtain ⟨g', hg', rfl⟩ := Option.map_eq_some_iff.1 hg
    split
    · exact h id g' hg'
    · exact h id g' hg'

theorem Written.Small.delete {last : Written} (h : last.Small) (id : Int) :
    (last.delete id).Small := by
  intro i g hg
  unfold Written.delete at hg
  split at hg
  · cases hg
  · exact h i g hg

namespace Postgres

/-- No filter in the tables has too many conditions. -/
def Tables.Small (t : Tables) : Prop := t.savedAt.Small

/-! ## Lemmas -/

namespace Tables

variable {t old new : Tables}

/-- Few conditions altogether make small filters. -/
theorem small_of_few (h : t.conditions.length ≤ maxConditions) : t.Small := by
  intro id f hf
  obtain ⟨g, -, -, rfl⟩ := savedAt_eq_some.1 hf
  show ((t.conditionsOf g.id).map ConditionRow.saved).length ≤ maxConditions
  rw [List.length_map, conditionsOf, List.length_mergeSort]
  exact (List.length_filter_le _ _).trans h

/-- A filter is saved with the conditions of the input. -/
theorem Saves.length_conditions {workspace user : String} {input : FilterInput}
    {saved : SavedFilter} (h : old.Saves new workspace user input saved) :
    saved.conditions.length = input.conditions.length := by
  rw [← h.inputs, List.length_map]

end Tables

namespace Database

variable {w : Surroundings} {d : Database}

/-- Small calls leave the filters small. -/
theorem small_call {c : StoreCall} (hc : c.Small) (hd : d.tables.Small) :
    (d.call w c).2.tables.Small := by
  show (d.call w c).2.tables.savedAt.Small
  rw [savedAt_call]
  cases c with
  | createFilter workspace user input =>
    rcases call_createFilter w d workspace user input with ⟨saved, d', hcall, hsaves, -⟩ |
      ⟨e, d', hcall, -⟩
    · rw [hcall]
      exact hd.save (hsaves.length_conditions.trans_le hc)
    · rw [hcall]
      exact hd
  | updateFilter workspace user id input =>
    rcases call_updateFilter w d workspace user id input with ⟨saved, d', hcall, hsaves, -⟩ |
      ⟨d', hcall, -⟩ | ⟨e, d', hcall, -⟩
    · rw [hcall]
      exact hd.save (hsaves.length_conditions.trans_le hc)
    · rw [hcall]
      exact hd
    · rw [hcall]
      exact hd
  | deleteFilter workspace user id =>
    rcases call_deleteFilter w d workspace user id with ⟨d', hcall, -⟩ | ⟨e, d', hcall, -⟩
    · rw [hcall]
      cases d.tables.filters.any (FilterHead.isAt workspace user id) with
      | false => exact hd
      | true => exact hd.delete id
    · rw [hcall]
      exact hd
  | _ => exact hd

end Database

namespace Tables

variable {t : Tables} {ids : List Int}

/-- A set has no more filters than numbers. -/
theorem length_savedAmong_le : (t.savedAmong ids).length ≤ ids.length := by
  rw [← List.length_map SavedFilter.id]
  refine (nodup_savedAmong.subperm fun id hid => ?_).length_le
  obtain ⟨f, hf, rfl⟩ := List.mem_map.1 hid
  exact (mem_savedAmong.1 hf).1

theorem Small.rowsWithin (h : t.Small) (ids : List Int) :
    RowsWithin ids.length maxConditions (t.rowsOf ids) where
  filters := by
    rw [rowsOf_eq, Definition.ofRows_flatMap_rows nodup_savedAmong, List.length_map]
    exact length_savedAmong_le
  conditions := by
    rw [rowsOf_eq, Definition.ofRows_flatMap_rows nodup_savedAmong, List.forall_mem_map]
    intro f hf
    show (f.conditions.map _).length ≤ maxConditions
    rw [List.length_map]
    exact h f.id f (mem_savedAmong.1 hf).2

end Tables

end Postgres

end TaskBoard
