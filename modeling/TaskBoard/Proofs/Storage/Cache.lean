import Mathlib.Data.List.Sort
import TaskBoard.Proofs.Numeral
import TaskBoard.Proofs.Text.Pieces
import TaskBoard.Storage.Cache

/-!
# What a cache holds

An entry of the cache is found by the text of its set.  Two sets with one text have the same
numbers in the same order, since no number has a comma in it and each has a digit.  So the rows
that a cache holds for a set are those that were set for it, and a sweep or a clearing only
takes rows away.

    sortedIds (sortedIds ids) = sortedIds ids                   (sortedIds_sortedIds)
    sets with one text have one list of numbers                 (key_inj)
    lists have one text iff they have the same numbers          (key_identifies)
    a look-up finds only what the cache holds                   (holds_of_get?)
-/

namespace TaskBoard

/-- Whether some entry of the cache has these rows for the set, old or not. -/
def FilterCache.Holds (c : FilterCache) (ids : List Int) (rows : List FilterRow) : Prop :=
  ∃ e ∈ c.entries, e.1 = key ids ∧ e.2.rows = rows

/-! ## The numbers of a set -/

theorem eraseReps_cons (a b : Int) (ids : List Int) :
    (a :: b :: ids).eraseReps =
      if a = b then (b :: ids).eraseReps else a :: (b :: ids).eraseReps := by
  -- what has been kept so far stands in front of the rest
  have kept : ∀ (ids acc : List Int) (a : Int),
      List.eraseRepsBy.loop (· == ·) a ids acc =
        acc.reverse ++ List.eraseRepsBy.loop (· == ·) a ids [] := by
    intro ids
    induction ids with
    | nil => simp [List.eraseRepsBy.loop]
    | cons b ids ih =>
      intro acc a
      unfold List.eraseRepsBy.loop
      cases a == b with
      | true => exact ih acc a
      | false =>
        show List.eraseRepsBy.loop _ b ids (a :: acc) = _ ++ List.eraseRepsBy.loop _ b ids [a]
        rw [ih (a :: acc), ih [a]]
        simp
  show List.eraseRepsBy.loop (· == ·) a (b :: ids) [] = _
  unfold List.eraseRepsBy.loop
  split
  · next h =>
    obtain rfl : a = b := by simpa using h
    rw [if_pos rfl]
    rfl
  · next h =>
    rw [if_neg (by simpa using h), kept]
    rfl

theorem mem_eraseReps {x : Int} {ids : List Int} : x ∈ ids.eraseReps ↔ x ∈ ids := by
  induction ids with
  | nil => rfl
  | cons a ids ih =>
    cases ids with
    | nil => rfl
    | cons b ids =>
      rw [eraseReps_cons]
      split
      · next h =>
        rw [ih, h]
        simp
      · rw [List.mem_cons, ih, ← List.mem_cons]

/-- Without repetitions, numbers in order ascend strictly. -/
theorem pairwise_eraseReps {ids : List Int} (h : ids.Pairwise (· ≤ ·)) :
    ids.eraseReps.Pairwise (· < ·) := by
  induction ids with
  | nil => exact .nil
  | cons a ids ih =>
    cases ids with
    | nil => exact List.pairwise_singleton _ _
    | cons b ids =>
      have hrest := (List.pairwise_cons.1 h).2
      rw [eraseReps_cons]
      split
      · exact ih hrest
      · next hab =>
        refine List.pairwise_cons.2 ⟨fun x hx => ?_, ih hrest⟩
        have hle : a ≤ b := (List.pairwise_cons.1 h).1 b (List.mem_cons_self ..)
        have hbx : b ≤ x := by
          rcases List.mem_cons.1 (mem_eraseReps.1 hx) with rfl | hx
          · exact Int.le_refl _
          · exact (List.pairwise_cons.1 hrest).1 x hx
        omega

theorem eraseReps_eq_self {ids : List Int} (h : ids.Pairwise (· < ·)) : ids.eraseReps = ids := by
  induction ids with
  | nil => rfl
  | cons a ids ih =>
    cases ids with
    | nil => rfl
    | cons b ids =>
      have hab : a < b := (List.pairwise_cons.1 h).1 b (List.mem_cons_self ..)
      rw [eraseReps_cons, if_neg (by omega), ih (List.pairwise_cons.1 h).2]

theorem mem_sortedIds {ids : List Int} {id : Int} : id ∈ sortedIds ids ↔ id ∈ ids := by
  unfold sortedIds
  rw [mem_eraseReps, List.mem_mergeSort]

theorem pairwise_sortedIds (ids : List Int) : (sortedIds ids).Pairwise (· < ·) := by
  apply pairwise_eraseReps
  exact List.pairwise_mergeSort' (· ≤ ·) ids

theorem sortedIds_eq_self {ids : List Int} (h : ids.Pairwise (· < ·)) : sortedIds ids = ids := by
  have hle : ids.Pairwise fun a b => decide (a ≤ b) = true :=
    h.imp fun hab => decide_eq_true (Int.le_of_lt hab)
  rw [sortedIds, List.mergeSort_of_pairwise hle, eraseReps_eq_self h]

@[simp] theorem sortedIds_sortedIds (ids : List Int) : sortedIds (sortedIds ids) = sortedIds ids :=
  sortedIds_eq_self (pairwise_sortedIds ids)

/-- Lists of one set have the same numbers in order. -/
theorem sortedIds_congr {ids other : List Int} (h : ∀ id, id ∈ ids ↔ id ∈ other) :
    sortedIds ids = sortedIds other := by
  refine (pairwise_sortedIds ids).eq_of_mem_iff (pairwise_sortedIds other) fun id => ?_
  rw [mem_sortedIds, mem_sortedIds, h]

theorem sortedIds_eq_iff {ids other : List Int} :
    sortedIds ids = sortedIds other ↔ ∀ id, id ∈ ids ↔ id ∈ other := by
  refine ⟨fun h id => ?_, sortedIds_congr⟩
  rw [← mem_sortedIds, h, mem_sortedIds]

/-! ## The text of a set -/

theorem Numeral.comma_not_mem_ofInt (n : Int) : ',' ∉ ofInt n := by
  have hdigits : ',' ∉ digits n.natAbs := not_mem_digits (by decide) _
  unfold ofInt
  split
  · simpa using hdigits
  · exact hdigits

namespace FilterCache

theorem key_sortedIds (ids : List Int) : key (sortedIds ids) = key ids := by
  unfold key
  rw [sortedIds_sortedIds]

/-- **Sets with one text have one list of numbers.** -/
theorem key_inj {ids other : List Int} (h : key ids = key other) :
    sortedIds ids = sortedIds other := by
  have hpieces : ∀ ns : List Int, ∀ w ∈ ns.map Numeral.ofInt, w ≠ [] ∧ ',' ∉ w := by
    intro ns w hw
    obtain ⟨n, -, rfl⟩ := List.mem_map.1 hw
    exact ⟨Numeral.ofInt_ne_nil n, Numeral.comma_not_mem_ofInt n⟩
  have hmap := Text.joinWith_inj (hpieces _) (hpieces _) (String.ofList_injective h)
  exact List.map_injective_iff.2 (fun _ _ => Numeral.ofInt_inj) hmap

theorem key_eq_iff_sortedIds {ids other : List Int} :
    key ids = key other ↔ sortedIds ids = sortedIds other :=
  ⟨key_inj, fun h => by rw [key, key, h]⟩

theorem key_eq_intercalate (ids : List Int) :
    key ids = ",".intercalate ((sortedIds ids).map Numeral.text) := by
  rw [← String.toList_inj, key, String.toList_ofList, Text.joinWith_eq_intercalate]
  exact (Numeral.toList_intercalate_text "," (sortedIds ids)).symm

/-- **A text for each set.**  Two lists have one text exactly if they have the same numbers.  It is
that of these numbers in ascending order, each of them once, with commas between. -/
theorem key_identifies (ids other : List Int) :
    (key ids = key other ↔ ∀ id, id ∈ ids ↔ id ∈ other) ∧
      ∃ ns : List Int, ns.Pairwise (· < ·) ∧ (∀ id, id ∈ ns ↔ id ∈ ids) ∧
        key ids = ",".intercalate (ns.map Numeral.text) := by
  constructor
  · rw [key_eq_iff_sortedIds, sortedIds_eq_iff]
  · exact ⟨sortedIds ids, pairwise_sortedIds ids, fun _ => mem_sortedIds, key_eq_intercalate ids⟩

variable {c : FilterCache} {now : Int} {ids other : List Int} {rows rows' : List FilterRow}

theorem not_holds_empty (ttl : Nat) : ¬ (empty ttl).Holds ids rows := by
  rintro ⟨e, he, -⟩
  cases he

theorem not_holds_clear : ¬ c.clear.Holds ids rows := by
  rintro ⟨e, he, -⟩
  cases he

/-- What a sweep leaves was there before. -/
theorem Holds.of_sweep (h : (c.sweep now).Holds ids rows) : c.Holds ids rows := by
  obtain ⟨e, he, hkey, hrows⟩ := h
  exact ⟨e, (List.mem_filter.1 he).1, hkey, hrows⟩

/-- After setting, a cache holds what it held, and the new rows for their set. -/
theorem Holds.of_set (h : (c.set now ids rows).Holds other rows') :
    sortedIds other = sortedIds ids ∧ rows' = rows ∨ c.Holds other rows' := by
  obtain ⟨e, he, hkey, hrows⟩ := h
  rcases List.mem_cons.1 he with rfl | he
  · exact .inl ⟨(key_inj hkey).symm, hrows.symm⟩
  · exact .inr ⟨e, (List.mem_filter.1 he).1, hkey, hrows⟩

theorem holds_of_get? (h : c.get? now ids = some rows) : c.Holds ids rows := by
  unfold get? at h
  split at h
  · cases h
  · next e he =>
    split at h
    · cases h
    · cases h
      obtain ⟨before, after, hentries, -⟩ := List.lookup_eq_some_iff.1 he
      refine ⟨(key ids, e), ?_, rfl, rfl⟩
      rw [hentries]
      simp

theorem get?_sortedIds : c.get? now (sortedIds ids) = c.get? now ids := by
  unfold get?
  rw [key_sortedIds]

theorem get?_congr (h : sortedIds ids = sortedIds other) : c.get? now ids = c.get? now other := by
  rw [← get?_sortedIds, h, get?_sortedIds]

/-- Rows that may live for no time are never found. -/
theorem get?_of_ttl_eq_zero (h : c.ttl = 0) : c.get? now ids = none := by
  unfold get? isExpired
  rw [h]
  split
  · rfl
  · exact if_pos (decide_eq_true (Nat.zero_le _))

end FilterCache

end TaskBoard
