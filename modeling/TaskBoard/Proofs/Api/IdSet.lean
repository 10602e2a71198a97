import Mathlib
import TaskBoard.Proofs.Api.Fetching

/-!
# Saved filters as a set

A query lists the numbers of its saved filters, in some order and perhaps some of them more than
once.  What it looks for in the cache, what it asks of the store and what it leaves in the cache
depend on their set alone.  Whatever rows come back, they are put together by the numbers of their
filters, so each saved filter has at most one part of the predicate, in parentheses of its own.

    a set is loaded in one way, however it is written down      (run_loadRows_congr)
    the predicate has one part for each filter with a test      (exists_fragments)
    lists of one set are compiled alike                         (compile_of_same_ids)
-/

namespace TaskBoard

open Sql (IsReading)

/-! ## Parts of a predicate -/

/-- The texts of successive clauses, each with what it goes by; the first placeholder is `$i`. -/
def Clause.texts {α : Type} (i : Nat) : List (α × Clause) → List (α × String)
  | [] => []
  | (a, c) :: cs => (a, c.template.sql i) :: texts (i + c.template.values.length) cs

namespace Query

/-- The clauses that have a test; those of saved filters go by the numbers of their filters. -/
def labelled (q : Query) (rows : List FilterRow) : List (Option Int × Clause) :=
  let saved (d : Definition) := (some d.id, q.clauseOf d.name d.logic d.conditions)
  let custom (f : CustomFilter) := (none, q.clauseOf (f.name.getD "") f.logic f.conditions)
  ((Definition.ofRows rows).map saved ++ q.customFilters.map custom).filter fun c =>
    !c.2.tests.isEmpty

/-- A predicate that consists of parts, each from a saved filter with its number or from a custom
filter. -/
structure Fragments (q : Query) (rows : List FilterRow) (predicate : Option String)
    (parts : List (Option Int × String)) : Prop where
  /-- No saved filter has a second part. -/
  distinct : (parts.filterMap (·.1)).Nodup
  /-- Nor has a custom filter. -/
  custom : parts.countP (·.1.isNone) ≤ q.customFilters.length
  /-- A part stands in parentheses, of which the first is closed by the last. -/
  paren : ∀ x ∈ parts, ∃ e, IsReading x.2 (.paren e)
  /-- The part with the number of a saved filter is the text of its conditions. -/
  saved : ∀ id s, (some id, s) ∈ parts → ∃ d ∈ Definition.ofRows rows, d.id = id ∧
    ∃ i, s = (q.clauseOf d.name d.logic d.conditions).template.sql i
  joined : predicate = if parts = [] then none else some (" AND ".intercalate (parts.map (·.2)))

end Query

/-! ## Lemmas -/

namespace Clause

variable {α : Type}

theorem map_fst_texts (i : Nat) (cs : List (α × Clause)) :
    (texts i cs).map (·.1) = cs.map (·.1) := by
  induction cs generalizing i with
  | nil => rfl
  | cons c cs ih => exact congrArg (c.1 :: ·) (ih _)

theorem mem_texts {i : Nat} {cs : List (α × Clause)} {a : α} {s : String}
    (h : (a, s) ∈ texts i cs) : ∃ c n, (a, c) ∈ cs ∧ s = c.template.sql n := by
  induction cs generalizing i with
  | nil => cases h
  | cons c cs ih =>
    rcases List.mem_cons.1 h with h | h
    · cases h
      exact ⟨c.2, i, List.mem_cons_self, rfl⟩
    · obtain ⟨d, n, hd, rfl⟩ := ih h
      exact ⟨d, n, List.mem_cons_of_mem _ hd, rfl⟩

/-- The text of joined clauses is that of the clauses, joined. -/
theorem sql_joined (i : Nat) (cs : List (α × Clause)) :
    Sql.Template.sql i (.joined " AND " (cs.map (·.2.template))) =
      " AND ".intercalate ((texts i cs).map (·.2)) := by
  induction cs generalizing i with
  | nil => rfl
  | cons c cs ih =>
    cases cs with
    | nil => exact (String.intercalate_singleton).symm
    | cons d ds =>
      have hrest := ih (i + c.2.template.values.length)
      rw [List.map_cons] at hrest
      rw [List.map_cons, List.map_cons, Sql.Template.joined_cons, Sql.Template.sql_append,
        Sql.Template.sql_lit, hrest]
      simp only [texts, List.map_cons, String.intercalate_cons_cons, String.append_assoc]

/-- A clause with a test reads as one expression in parentheses. -/
theorem isReading_paren {c : Clause} (h : c.tests ≠ []) (i : Nat) :
    ∃ e, IsReading (c.template.sql i) (.paren e) := by
  obtain ⟨l, _ | ⟨t, ts⟩⟩ := c
  · exact absurd rfl h
  · rw [← template_fragment]
    exact ⟨_, (reads_fragment h).isReading (stands_fragment h i).2⟩

end Clause

namespace Query

variable (q : Query) (rows : List FilterRow)

theorem map_snd_labelled : (q.labelled rows).map (·.2) = q.clauses rows := by
  rw [labelled, clauses, allClauses, List.filter_append, List.map_append, List.filter_append,
    List.filter_map, List.filter_map, List.filter_map, List.filter_map, List.map_map, List.map_map]
  rfl

theorem distinct_labelled : ((q.labelled rows).filterMap (·.1)).Nodup := by
  refine (List.filter_sublist.filterMap Prod.fst).nodup ?_
  rw [List.filterMap_append, List.filterMap_map, List.filterMap_map]
  simpa [Function.comp_def] using Definition.nodup_ids_ofRows rows

/-- Custom filters have no number. -/
theorem countP_labelled :
    (q.labelled rows).countP (·.1.isNone) ≤ q.customFilters.length := by
  refine (List.filter_sublist.countP_le).trans ?_
  rw [List.countP_append, List.countP_map, List.countP_map]
  simp [Function.comp_def]

theorem tests_of_mem_labelled {c : Option Int × Clause} (h : c ∈ q.labelled rows) :
    c.2.tests ≠ [] := by
  simpa using (List.mem_filter.1 h).2

theorem exists_of_mem_labelled {id : Int} {c : Clause} (h : (some id, c) ∈ q.labelled rows) :
    ∃ d ∈ Definition.ofRows rows, d.id = id ∧ c = q.clauseOf d.name d.logic d.conditions := by
  rcases List.mem_append.1 (List.mem_filter.1 h).1 with h | h
  · obtain ⟨d, hd, heq⟩ := List.mem_map.1 h
    cases heq
    exact ⟨d, hd, rfl, rfl⟩
  · obtain ⟨f, -, heq⟩ := List.mem_map.1 h
    cases heq

/-- The predicate of a query has one part for each filter that has a test. -/
theorem exists_fragments : ∃ parts, q.Fragments rows (q.compile rows).predicate parts := by
  refine ⟨Clause.texts q.first (q.labelled rows), ?_⟩
  have hlabels := Clause.map_fst_texts q.first (q.labelled rows)
  constructor
  case distinct =>
    show ((Clause.texts _ _).filterMap (id ∘ Prod.fst)).Nodup
    rw [← List.filterMap_map, hlabels, List.filterMap_map]
    exact q.distinct_labelled rows
  case custom =>
    show (Clause.texts _ _).countP (Option.isNone ∘ Prod.fst) ≤ _
    rw [← List.countP_map, hlabels, List.countP_map]
    exact q.countP_labelled rows
  case paren =>
    rintro ⟨a, s⟩ hx
    obtain ⟨c, n, hc, rfl⟩ := Clause.mem_texts hx
    exact Clause.isReading_paren (q.tests_of_mem_labelled rows hc) n
  case saved =>
    intro id s hs
    obtain ⟨c, n, hc, rfl⟩ := Clause.mem_texts hs
    obtain ⟨d, hd, hid, rfl⟩ := q.exists_of_mem_labelled rows hc
    exact ⟨d, hd, hid, n, rfl⟩
  case joined =>
    have hclauses := q.map_snd_labelled rows
    have hempty : Clause.texts q.first (q.labelled rows) = [] ↔ q.clauses rows = [] := by
      rw [← hclauses, List.map_eq_nil_iff, ← List.map_eq_nil_iff (f := Prod.fst), hlabels,
        List.map_eq_nil_iff]
    simp only [compile, template, hempty, List.isEmpty_iff]
    rw [← hclauses, List.map_map]
    split
    · rfl
    · exact congrArg some (Clause.sql_joined _ _)

end Query

/-! ## Lists of one set -/

theorem eq_nil_congr {ids other : List Int} (h : ∀ id, id ∈ ids ↔ id ∈ other) :
    ids = [] ↔ other = [] := by
  rw [List.eq_nil_iff_forall_not_mem, List.eq_nil_iff_forall_not_mem]
  exact forall_congr' fun id => not_congr (h id)

namespace Service

/-- Past the cache, only the set counts. -/
theorem fetchRows_congr {ids other : List Int} (h : sortedIds ids = sortedIds other) :
    fetchRows ids = fetchRows other := by
  have hkeep : keepRows ids = keepRows other := by
    funext rows
    rw [keepRows, keepRows, h]
  have hafter : afterFetch ids = afterFetch other := by
    funext fetched
    cases fetched with
    | error e => rfl
    | ok rows => exact congrFun hkeep rows
  rw [fetchRows, fetchRows, h, hafter]

end Service

namespace SlowStore

variable {σ : Type} (t : SlowStore σ) (b : Backend σ)

/-- A set is loaded in one way, however it is written down. -/
theorem run_loadRows_congr {ids other : List Int} (h : ∀ id, id ∈ ids ↔ id ∈ other) :
    (Service.loadRows ids).run t.perform b = (Service.loadRows other).run t.perform b := by
  have hsorted := sortedIds_congr h
  by_cases hids : ids = []
  · rw [hids, (eq_nil_congr h).1 hids]
  · have hget : b.cache.get? b.now ids = b.cache.get? b.now other := FilterCache.get?_congr hsorted
    have hlook (ids : List Int) :
        t.perform (.cache (.get ids)) b = (b.cache.get? b.now ids, b) := rfl
    rw [Service.loadRows_of_ne_nil hids, Service.loadRows_of_ne_nil (mt (eq_nil_congr h).2 hids),
      Program.run, Program.run, hlook, hlook, hget, Service.fetchRows_congr hsorted]
    cases b.cache.get? b.now other <;> rfl

/-- **Saved filters are a set.**  A query whose saved filters are listed in another order, or with
other repetitions, has the same result, and leaves the same store, cache and time behind; the same
sets are fetched.  Its predicate has at most one part for each saved filter, in parentheses. -/
theorem compile_of_same_ids (q : Query) {ids : List Int} (h : ∀ id, id ∈ ids ↔ id ∈ q.filterIds) :
    let p : Query := { q with filterIds := ids }
    (Service.compile p).run t.perform b = (Service.compile q).run t.perform b ∧
    (t.compileLog p b).fetches = (t.compileLog q b).fetches ∧
    ∀ f, ((Service.compile p).run t.perform b).1 = .ok f →
      ∃ rows parts, ((Service.loadRows ids).run t.perform b).1 = .ok rows ∧
        q.Fragments rows f.predicate parts := by
  intro p
  have hload := t.run_loadRows_congr b h
  have hrun : (Service.compile p).run t.perform b = (Service.compile q).run t.perform b := by
    rw [Service.run_compile, Service.run_compile, hload]
    rfl
  refine ⟨hrun, ?_, fun f hf => ?_⟩
  · obtain ⟨_, hp, -⟩ := t.compile_loadsAt b p
    obtain ⟨_, hq, -⟩ := t.compile_loadsAt b q
    have hget : b.cache.get? b.now ids = b.cache.get? b.now q.filterIds :=
      FilterCache.get?_congr (sortedIds_congr h)
    rw [hp.fetches_eq, hq.fetches_eq, hget, show sortedIds p.filterIds = _ from sortedIds_congr h]
    exact if_congr (and_congr_left' (eq_nil_congr h).not) rfl rfl
  · rw [Service.run_compile] at hf
    cases hrows : ((Service.loadRows ids).run t.perform b).1 with
    | error e =>
      rw [hrows] at hf
      cases hf
    | ok rows =>
      rw [hrows] at hf
      cases hf
      obtain ⟨parts, hparts⟩ := q.exists_fragments rows
      exact ⟨rows, parts, rfl, hparts⟩

/-- A store that is closed, and a cache that has been set for the filters in another order. -/
theorem compile_of_same_ids_kept :
    let row (id : Int) : FilterRow := ⟨id, "Mine", "or", some 1, some "list", some "status", none,
      none, some "is_null", none, none⟩
    let t : SlowStore Unit := ⟨fun _ _ => (.error (.database .poolClosed), ()), fun _ _ => 1⟩
    let q (ids : List Int) : Query := ⟨ids, [], "u", .empty, 2⟩
    let b : Backend Unit := ⟨(), (FilterCache.empty 5).set 0 [7, 3] [row 3, row 7], 4⟩
    (∀ id : Int, id ∈ [7, 3, 7] ↔ id ∈ [3, 7]) ∧
      (t.compileLog (q [7, 3, 7]) b).fetches = [] ∧
      ∃ f parts, ((Service.compile (q [7, 3, 7])).run t.perform b).1 = .ok f ∧
        (q [3, 7]).Fragments [row 3, row 7] f.predicate parts := by
  intro row t q b
  have hsame : ∀ id : Int, id ∈ [7, 3, 7] ↔ id ∈ [3, 7] := by
    intro id
    simp only [List.mem_cons, List.not_mem_nil, or_false]
    omega
  have hload : ((Service.loadRows [7, 3, 7]).run t.perform b).1 = .ok [row 3, row 7] := by cbv
  have hcompile : ((Service.compile (q [7, 3, 7])).run t.perform b).1 =
      .ok ((q [7, 3, 7]).compile [row 3, row 7]) := by
    rw [Service.run_compile, hload]
    rfl
  have hlog : t.compileLog (q [3, 7]) b = (Service.loadRows [3, 7]).log t.perform b :=
    Program.log_bind_done t.perform _ _ b
  obtain ⟨-, hfetches, hparts⟩ := t.compile_of_same_ids b (q [3, 7]) hsame
  obtain ⟨rows, parts, hrows, hfragments⟩ := hparts _ hcompile
  obtain rfl : [row 3, row 7] = rows := Except.ok.inj (hload.symm.trans hrows)
  refine ⟨hsame, hfetches.trans ?_, _, parts, hcompile, hfragments⟩
  rw [hlog]
  cbv

end SlowStore

end TaskBoard
