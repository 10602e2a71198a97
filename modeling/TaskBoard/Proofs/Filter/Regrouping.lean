import Mathlib
import TaskBoard.Filter.Definition

/-!
# Putting rows together

The rows of several filters, mixed in any way, are put together filter by filter.  The filters
are those whose numbers appear, each once, in the order in which the numbers first appear; the
first row of a filter names it, and all its rows together hold its conditions in their order.
So no condition is lost and none gets into another filter.

    adding a row changes the filter of its number alone         (Grouping.groups_add, groups_add_of_new)
    the filters, one for each first row                         (ofRows_eq)
    the conditions of all filters are those of all rows         (conditions_perm)
    filters, names and conditions together                      (ofRows_regroups)
-/

namespace TaskBoard

namespace Grouping

variable {g : Grouping} {r : FilterRow}

/-- A row whose number has appeared adds its condition to the filter that it finds. -/
theorem groups_add {i : Nat} (h : g.places.lookup r.filterId = some i) :
    (g.add r).groups = g.groups.modify i fun d =>
      { d with conditions := d.conditions ++ (Condition.ofRow? r).toList } := by
  have hplace : g.place r = (i, g) := by
    unfold place
    split
    · next j hj => rw [h] at hj; rw [Option.some.inj hj]
    · next hn => rw [h] at hn; cases hn
  unfold add
  rw [hplace]
  cases Condition.ofRow? r with
  | none =>
    simp only [Option.toList_none, List.append_nil]
    exact (List.modify_id i g.groups).symm
  | some c => rfl

/-- A new number adds a filter with the condition of its row. -/
theorem groups_add_of_new (h : g.places.lookup r.filterId = none) :
    (g.add r).groups = g.groups ++
      [⟨r.filterId, r.name, .ofText r.logic, (Condition.ofRow? r).toList⟩] := by
  have hplace : g.place r = (g.groups.length, g.append r h) := by
    unfold place
    split
    · next j hj => rw [h] at hj; cases hj
    · rfl
  unfold add
  rw [hplace]
  cases Condition.ofRow? r with
  | none => rfl
  | some c =>
    show (g.groups ++ [_]).modify g.groups.length _ = _
    rw [List.modify_eq_take_cons_drop (by simp)]
    simp

/-- One number has one place, so it has one filter. -/
theorem nodup_ids (g : Grouping) : (g.groups.map (·.id)).Nodup := by
  rw [List.nodup_iff_getElem?_ne_getElem?]
  intro i j hij hj heq
  have hsome : (g.groups.map (·.id))[j]? = some (g.groups.map (·.id))[j] :=
    List.getElem?_eq_getElem hj
  have hi := (g.places_iff _ i).2 (by rw [← List.getElem?_map, heq, hsome])
  have hj := (g.places_iff _ j).2 (by rw [← List.getElem?_map, hsome])
  have : i = j := Option.some.inj (hi.symm.trans hj)
  omega

end Grouping

namespace Definition

/-! ## First rows -/

/-- The first row of each filter, in order. -/
def heads (rows : List FilterRow) : List FilterRow :=
  rows.foldl (fun hs r => if hs.any (·.filterId = r.filterId) then hs else hs ++ [r]) []

/-- The conditions of one filter, in the order of the rows. -/
def conditionsOf (rows : List FilterRow) (id : Int) : List Condition :=
  (rows.filter (·.filterId = id)).filterMap Condition.ofRow?

/-- The filter of a first row, with the conditions of all its rows. -/
def ofHead (rows : List FilterRow) (r : FilterRow) : Definition :=
  ⟨r.filterId, r.name, .ofText r.logic, conditionsOf rows r.filterId⟩

theorem heads_concat (rows : List FilterRow) (r : FilterRow) :
    heads (rows ++ [r]) =
      if (heads rows).any (·.filterId = r.filterId) then heads rows else heads rows ++ [r] := by
  simp [heads]

/-- The heads are the first rows of the distinct numbers. -/
theorem heads_eq (rows : List FilterRow) :
    heads rows = (rows.map (·.filterId)).eraseDups.filterMap fun id =>
      rows.find? (·.filterId = id) := by
  induction rows using List.reverseRecOn with
  | nil => rfl
  | append_singleton rows r ih =>
    -- the numbers that were there before keep their first rows
    have hold : ∀ id ∈ (rows.map (·.filterId)).eraseDups,
        (rows ++ [r]).find? (·.filterId = id) = rows.find? (·.filterId = id) := by
      intro id hid
      obtain ⟨x, hx, rfl⟩ := List.mem_map.1 (List.mem_eraseDups.1 hid)
      have hs : (rows.find? (·.filterId = x.filterId)).isSome := by
        rw [List.find?_isSome]
        exact ⟨x, hx, by simp⟩
      obtain ⟨y, hy⟩ := Option.isSome_iff_exists.1 hs
      rw [List.find?_append, hy, Option.some_or]
    have hany : (heads rows).any (·.filterId = r.filterId) =
        decide (r.filterId ∈ rows.map (·.filterId)) := by
      rw [ih, Bool.eq_iff_iff, List.any_eq_true, decide_eq_true_iff]
      constructor
      · rintro ⟨x, hx, he⟩
        obtain ⟨id, -, hf⟩ := List.mem_filterMap.1 hx
        exact List.mem_map.2 ⟨x, List.mem_of_find?_eq_some hf, by simpa using he⟩
      · intro hr
        obtain ⟨x, hx, he⟩ := List.mem_map.1 hr
        have hs : (rows.find? (·.filterId = r.filterId)).isSome := by
          rw [List.find?_isSome]
          exact ⟨x, hx, by simpa using he⟩
        obtain ⟨y, hy⟩ := Option.isSome_iff_exists.1 hs
        exact ⟨y, List.mem_filterMap.2 ⟨_, List.mem_eraseDups.2 hr, hy⟩, by
          simpa using List.find?_some hy⟩
    rw [heads_concat, hany, List.map_append, List.eraseDups_append, List.filterMap_append,
      List.filterMap_congr hold, ← ih]
    by_cases hr : r.filterId ∈ rows.map (·.filterId)
    · have hrem : [r.filterId].removeAll (rows.map (·.filterId)) = [] := by
        simpa [List.removeAll] using hr
      rw [decide_eq_true hr, if_pos rfl, List.map_singleton, hrem]
      simp
    · have hrem : [r.filterId].removeAll (rows.map (·.filterId)) = [r.filterId] := by
        simpa [List.removeAll] using hr
      have hn : rows.find? (·.filterId = r.filterId) = none := by
        rw [List.find?_eq_none]
        intro x hx he
        exact hr (List.mem_map.2 ⟨x, hx, by simpa using he⟩)
      rw [decide_eq_false hr, if_neg (by simp), List.map_singleton, hrem]
      simp [List.find?_append, hn, List.eraseDups_cons]

theorem ids_heads (rows : List FilterRow) :
    (heads rows).map (·.filterId) = (rows.map (·.filterId)).eraseDups := by
  rw [heads_eq, List.map_filterMap]
  refine (List.filterMap_congr fun id hid => ?_).trans List.filterMap_some
  obtain ⟨x, hx, rfl⟩ := List.mem_map.1 (List.mem_eraseDups.1 hid)
  cases hf : rows.find? (·.filterId = x.filterId) with
  | none => exact absurd (List.find?_eq_none.1 hf x hx) (by simp)
  | some y => simpa using List.find?_some hf

theorem conditionsOf_concat (rows : List FilterRow) (r : FilterRow) (id : Int) :
    conditionsOf (rows ++ [r]) id =
      conditionsOf rows id ++ if r.filterId = id then (Condition.ofRow? r).toList else [] := by
  rw [conditionsOf, conditionsOf, List.filter_append, List.filterMap_append]
  by_cases h : r.filterId = id
  · cases hc : Condition.ofRow? r <;> simp [h, hc]
  · simp [h]

/-- A new number has no conditions yet. -/
theorem conditionsOf_eq_nil {rows : List FilterRow} {id : Int}
    (h : id ∉ rows.map (·.filterId)) : conditionsOf rows id = [] := by
  have hrows : rows.filter (·.filterId = id) = [] := by
    rw [List.filter_eq_nil_iff]
    exact fun r hr => by simpa using fun he => h (List.mem_map.2 ⟨r, hr, he⟩)
  rw [conditionsOf, hrows, List.filterMap_nil]

/-- Putting the rows together gives the filter of each first row. -/
theorem ofRows_eq (rows : List FilterRow) : ofRows rows = (heads rows).map (ofHead rows) := by
  induction rows using List.reverseRecOn with
  | nil => rfl
  | append_singleton rows r ih =>
    unfold ofRows at ih ⊢
    rw [Grouping.ofRows_concat, heads_concat]
    generalize Grouping.ofRows rows = g at ih ⊢
    have hids : g.groups.map (·.id) = (heads rows).map (·.filterId) := by
      rw [ih, List.map_map]
      rfl
    have hany : (heads rows).any (·.filterId = r.filterId) =
        (g.places.lookup r.filterId).isSome := by
      rw [Bool.eq_iff_iff, g.isSome_lookup_iff, hids, List.any_eq_true, List.mem_map]
      simp only [decide_eq_true_eq]
    rw [hany]
    cases h : g.places.lookup r.filterId with
    | some i =>
      -- the filter at the place found is the only one of the row's number
      rw [Option.isSome_some, if_pos rfl, Grouping.groups_add h]
      refine List.ext_getElem? fun j => ?_
      have hj : g.groups[j]? = (heads rows)[j]?.map (ofHead rows) := by rw [ih, List.getElem?_map]
      rw [List.getElem?_modify, List.getElem?_map, hj]
      cases hx : (heads rows)[j]? with
      | none => rfl
      | some x =>
        have hg : g.groups[j]? = some (ofHead rows x) := by rw [hj, hx, Option.map_some]
        have hiff : i = j ↔ r.filterId = x.filterId := by
          constructor
          · intro hij
            have hid := (g.places_iff _ _).1 h
            rw [hij, hg] at hid
            exact (Option.some.inj hid).symm
          · intro hid
            have hplace := g.lookup_places hg
            exact Option.some.inj (h.symm.trans (hid ▸ hplace))
        by_cases hij : i = j
        · simp [hij, ofHead, conditionsOf_concat, if_pos (hiff.1 hij)]
        · simp [hij, ofHead, conditionsOf_concat, if_neg (mt hiff.2 hij)]
    | none =>
      rw [Option.isSome_none, if_neg (by simp), Grouping.groups_add_of_new h, ih, List.map_append]
      have hnew : r.filterId ∉ (heads rows).map (·.filterId) := by
        rw [← hids, ← g.isSome_lookup_iff, h]
        simp
      congr 1
      · refine List.map_congr_left fun x hx => ?_
        have hne : r.filterId ≠ x.filterId := fun he => hnew (List.mem_map.2 ⟨x, hx, he.symm⟩)
        simp [ofHead, conditionsOf_concat, hne]
      · rw [ids_heads, List.mem_eraseDups] at hnew
        simp [ofHead, conditionsOf_concat, conditionsOf_eq_nil hnew]

/-! ## Numbers -/

theorem ids_ofRows (rows : List FilterRow) :
    (ofRows rows).map (·.id) = (rows.map (·.filterId)).eraseDups := by
  rw [ofRows_eq, List.map_map, ← ids_heads]
  rfl

theorem nodup_ids_ofRows (rows : List FilterRow) : ((ofRows rows).map (·.id)).Nodup :=
  (Grouping.ofRows rows).nodup_ids

theorem find?_of_mem_heads {rows : List FilterRow} {r : FilterRow} (h : r ∈ heads rows) :
    rows.find? (·.filterId = r.filterId) = some r := by
  rw [heads_eq] at h
  obtain ⟨id, -, hf⟩ := List.mem_filterMap.1 h
  have hid : r.filterId = id := by simpa using List.find?_some hf
  rwa [hid]

theorem mem_ids_ofRows {rows : List FilterRow} {id : Int} :
    id ∈ (ofRows rows).map (·.id) ↔ id ∈ rows.map (·.filterId) := by
  rw [ids_ofRows, List.mem_eraseDups]

/-! ## Conditions -/

/-- The rows of a filter that hold a condition, each read, are its conditions. -/
theorem map_some_conditionsOf (rows : List FilterRow) (id : Int) :
    (conditionsOf rows id).map some =
      (rows.filter fun r => r.filterId = id ∧ r.conditionId.isSome).map Condition.ofRow? := by
  induction rows with
  | nil => rfl
  | cons r rows ih =>
    unfold conditionsOf at ih ⊢
    have hsome := Condition.ofRow?_isSome r
    by_cases hid : r.filterId = id
    · cases hc : Condition.ofRow? r <;> simp_all
    · simpa [hid] using ih

/-- Adding a row adds its condition, if it has one, and no other. -/
theorem conditions_add (g : Grouping) (r : FilterRow) :
    ((g.add r).groups.flatMap (·.conditions)).Perm
      (g.groups.flatMap (·.conditions) ++ (Condition.ofRow? r).toList) := by
  cases h : g.places.lookup r.filterId with
  | none => simp [Grouping.groups_add_of_new h]
  | some i =>
    obtain ⟨before, d, behind, heq, -, hmodify⟩ := List.exists_of_modify _ (g.lt_of_lookup h)
    rw [Grouping.groups_add h, hmodify, heq]
    simp only [List.flatMap_append, List.flatMap_cons, List.append_assoc]
    refine .append_left _ (.append_left _ ?_)
    exact List.perm_append_comm

/-- The conditions of all filters are those of all rows. -/
theorem conditions_perm (rows : List FilterRow) :
    ((ofRows rows).flatMap (·.conditions)).Perm (rows.filterMap Condition.ofRow?) := by
  induction rows using List.reverseRecOn with
  | nil => exact .nil
  | append_singleton rows r ih =>
    unfold ofRows at ih ⊢
    rw [Grouping.ofRows_concat, List.filterMap_append]
    refine (conditions_add _ r).trans (.append ih (.of_eq ?_))
    cases h : Condition.ofRow? r <;> simp [h]

/-- As many conditions as rows that hold one. -/
theorem length_conditions (rows : List FilterRow) :
    ((ofRows rows).map (·.conditions.length)).sum = rows.countP (·.conditionId.isSome) := by
  rw [← List.length_flatMap, (conditions_perm rows).length_eq, List.length_filterMap_eq_countP]
  simp only [Condition.ofRow?_isSome]

end Definition

end TaskBoard
