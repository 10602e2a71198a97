import TaskBoard.Proofs.Filter.Evaluation
import TaskBoard.Proofs.Filter.WhereClause
import TaskBoard.Storage.Call

/-!
# Placeholders of a predicate

The conditions of a request take placeholders one after the other.  A condition that makes
sense binds its values to the next free ones; any other leaves them as they are, whatever of
its values could have been read.  So the placeholders of a predicate count up without a gap,
each stands for a value of the condition in whose text it occurs, and lists stand in `= ANY`
alone.

    a filter is compiled part by part                           (compile_eq_foldl_write)
    every compiled filter has such placeholders                 (compile_binds)
-/

namespace TaskBoard

open Sql (Expr Fragment IsReading Slots Token Value tokens?)

/-! ## Places -/

/-- Whether a list is bound as one. -/
def Sql.Value.isSeries : Value → Bool
  | .scalar _ => false
  | .series _ => true

/-- The number of a placeholder. -/
def Sql.Token.slot? : Token → Option Nat
  | .slot n => some n
  | _ => none

/-- The placeholders of an expression from left to right, and whether each stands in `= ANY`. -/
def Sql.Expr.places : Expr → List (Nat × Bool)
  | column _ _ => []
  | currentDate => []
  | slot n => [(n, false)]
  | paren a => a.places
  | existence _ _ a => a.places
  | cast a _ => a.places
  | castArray a _ => a.places
  | minus a b => a.places ++ b.places
  | compare _ a b => a.places ++ b.places
  | compareAny c a b => a.places ++ b.places.map fun p => (p.1, decide (c = .eq))
  | between a lo hi => a.places ++ lo.places ++ hi.places
  | nullTest a _ => a.places
  | not a => a.places
  | and a b => a.places ++ b.places
  | or a b => a.places ++ b.places

/-- The places of values that are bound to `$n` and the placeholders after it. -/
def Sql.placesFrom (n : Nat) (vs : List Value) : List (Nat × Bool) :=
  (List.range' n vs.length).zip (vs.map Value.isSeries)

/-- Conditions bind their values one after the other: from the placeholders `b` on, those of
`cs` lead to the placeholders `b'`, and `es` are the expressions of those that bind any. -/
inductive Binds : Slots → List (Scope × Condition) → List Expr → Slots → Prop
  | nil (b : Slots) : Binds b [] [] b
  /-- A condition that makes no sense has no expression, and binds nothing. -/
  | dropped {b b' : Slots} {s : Scope} {c : Condition} {cs : List (Scope × Condition)}
    {es : List Expr} (h : ¬ ∃ vs m, c.Means s vs m) (rest : Binds b cs es b') :
    Binds b ((s, c) :: cs) es b'
  /-- A condition that makes sense binds its values to the placeholders in its expression. -/
  | bound {b b' : Slots} {s : Scope} {c : Condition} {cs : List (Scope × Condition)}
    {e : Expr} {es : List Expr} {vs : List Value} {m : World → Task → Sql.Truth}
    (h : c.Means s vs m) (hp : e.places = Sql.placesFrom b.next vs)
    (rest : Binds (vs.foldl Slots.bind b) cs es b') : Binds b ((s, c) :: cs) (e :: es) b'

/-- The conditions of a request in order, each with its surroundings. -/
def Query.conditions (q : Query) (rows : List FilterRow) : List (Scope × Condition) :=
  (q.parts rows).flatMap fun p => p.conditions.map fun c => (p.scope, c)

/-- A closed store, behind a cache that answers every look-up with the same rows. -/
def ServiceStep.cached (rows : List FilterRow) (e : ServiceStep) (_ : Unit) : e.Reply × Unit :=
  match e with
  | .store _ => (.error (.database .poolClosed), ())
  | .cache (.get _) => (some rows, ())
  | .cache (.set _ _) => ((), ())
  | .cache .clear => ((), ())

/-! ## Lemmas -/

namespace Sql

theorem Expr.slots_spell (e : Expr) : e.spell.filterMap Token.slot? = e.places.map (·.1) := by
  induction e with
  | nullTest a yes ih =>
    cases yes <;> simp [places, Token.slot?, List.filterMap_cons, ih]
  | compareAny c a b iha ihb =>
    simp [places, Token.slot?, List.filterMap_cons, iha, ihb, Function.comp_def]
  | _ => simp_all [places, Token.slot?, List.filterMap_cons]

/-- The places of a combination are those of its tests. -/
theorem Expr.places_eq (e : Expr) : e.places = e.tests.flatMap places := by
  induction e with
  | and a b iha ihb => simp [places, tests, ← iha, ← ihb]
  | or a b iha ihb => simp [places, tests, ← iha, ← ihb]
  | paren a ih => exact ih
  | _ => simp [tests]

theorem placesFrom_append (n : Nat) (vs ws : List Value) :
    placesFrom n (vs ++ ws) = placesFrom n vs ++ placesFrom (n + vs.length) ws := by
  rw [placesFrom, List.map_append, List.length_append, ← List.range'_append_1, List.zip_append]
  · rfl
  · simp

theorem map_fst_placesFrom (n : Nat) (vs : List Value) :
    (placesFrom n vs).map (·.1) = List.range' n vs.length :=
  List.map_fst_zip (by simp)

end Sql

theorem places_placeTree (dated : Bool) (i : Nat) : (placeTree dated i).places = [(i, false)] := by
  cases dated <;> rfl

theorem places_placeManyTree (dated : Bool) (i : Nat) :
    (placeManyTree dated i).places = [(i, false)] := by
  cases dated <;> rfl

theorem DateSource.places_tree (d : DateSource) : d.tree.places = [] := by
  cases d <;> rfl

/-- Only the values of a match have places in it, a list in `= ANY`. -/
theorem Match.places_tree {α : Type} (b : Binding α) (dated : Bool) {subject : Expr}
    (h : subject.places = []) (i : Nat) (m : Match α) :
    (m.tree dated subject i).places = Sql.placesFrom i (m.bound b) := by
  cases m <;> simp [tree, Expr.places, h, places_placeTree, places_placeManyTree, bound,
    Sql.placesFrom, Value.isSeries, List.range'_succ]

/-- The places of a test are those of its values. -/
theorem Test.places_tree (i : Nat) (t : Test) :
    (t.tree i).places = Sql.placesFrom i t.template.values := by
  cases t with
  | null c yes => rfl
  | text c m =>
    rw [template, Match.values_template]
    exact m.places_tree _ false rfl i
  | id c m =>
    rw [template, Match.values_template]
    exact m.places_tree _ false rfl i
  | date d m =>
    rw [template, Match.values_template]
    exact m.places_tree _ true d.places_tree i
  | dayDiff earlier later m =>
    rw [template, Match.values_template]
    refine m.places_tree _ false ?_ i
    simp [dayDiffTree, Expr.places, DateSource.places_tree]
  | assigned yes who => cases yes <;> cases who <;> rfl

/-- The places of successive tests are those of all their values. -/
theorem Test.places_numbered (i : Nat) (ts : List Test) :
    (Fragment.numbered i (ts.map fragment)).flatMap Expr.places =
      Sql.placesFrom i (ts.flatMap (·.template.values)) := by
  induction ts generalizing i with
  | nil => rfl
  | cons t ts ih =>
    show (t.tree i).places ++ _ = _
    rw [t.places_tree, List.flatMap_cons, Sql.placesFrom_append]
    exact congrArg _ (ih _)

/-- The places of all expressions together are those of what has been bound. -/
theorem Binds.places {b b' : Slots} {cs : List (Scope × Condition)} {es : List Expr}
    (h : Binds b cs es b') :
    b'.first = b.first ∧ ∃ vs, b'.values = b.values ++ vs ∧
      es.flatMap Expr.places = Sql.placesFrom b.next vs := by
  induction h with
  | nil b => exact ⟨rfl, [], by simp, rfl⟩
  | dropped _ _ ih => exact ih
  | @bound b b' s c cs e es vs m h hp rest ih =>
    rw [Slots.foldl_bind] at ih
    obtain ⟨hf, ws, hv, hw⟩ := ih
    refine ⟨hf, vs ++ ws, by rw [hv, List.append_assoc], ?_⟩
    rw [List.flatMap_cons, hp, hw, Sql.placesFrom_append]
    simp [Slots.next, Nat.add_assoc]

/-! ## Part by part -/

namespace Sql.Slots

/-- One more part of a text: it is written as it is, or its value is bound, and the placeholder
stands in its place. -/
def write (w : Slots × String) : Sql.Part → Slots × String
  | .lit s => (w.1, w.2 ++ s)
  | .hole v => (w.1.bind v, w.2 ++ Sql.token w.1.next)

/-- Written part by part, a template is numbered from the next free placeholder on. -/
theorem foldl_write (b : Slots) (s : String) (t : Sql.Template) :
    t.foldl write (b, s) = (t.values.foldl bind b, s ++ t.sql b.next) := by
  induction t generalizing b s with
  | nil => simp [Sql.Template.values, Sql.Template.sql_nil]
  | cons p t ih =>
    cases p with
    | lit l =>
      rw [List.foldl_cons, write, ih, Sql.Template.sql_lit, String.append_assoc]
      rfl
    | hole v =>
      rw [List.foldl_cons, write, ih, next_bind, Sql.Template.sql_hole, String.append_assoc]
      rfl

end Sql.Slots

/-- A filter is compiled by writing its template part by part, from the first placeholder on. -/
theorem Query.compile_eq_foldl_write (q : Query) (rows : List FilterRow) :
    let w := (q.template rows).foldl Slots.write (.startingAt q.start, "")
    q.compile rows =
      ⟨if (q.clauses rows).isEmpty then none else some w.2, w.1.values, w.1.next⟩ := by
  intro w
  have hw : w = ((q.template rows).values.foldl Slots.bind (.startingAt q.start),
      (q.template rows).sql q.first) := by
    show (q.template rows).foldl Slots.write (.startingAt q.start, "") = _
    rw [Slots.foldl_write, String.empty_append]
    rfl
  rw [hw, Slots.foldl_bind]
  rfl

/-! ## Compiling -/

/-- The test of a condition in its surroundings. -/
def Test.ofScoped? (p : Scope × Condition) : Option Test := ofCondition? p.1 p.2

/-- Step by step, the conditions bind what their tests bind, and no more. -/
theorem binds_tests (b : Slots) (cs : List (Scope × Condition)) :
    Binds b cs
      (Fragment.numbered b.next
        ((cs.filterMap Test.ofScoped?).map Test.fragment))
      (((cs.filterMap Test.ofScoped?).flatMap
        (·.template.values)).foldl Slots.bind b) := by
  induction cs generalizing b with
  | nil => exact .nil b
  | cons p cs ih =>
    obtain ⟨s, c⟩ := p
    cases ht : Test.ofScoped? (s, c) with
    | none =>
      rw [List.filterMap_cons_none ht]
      refine .dropped ?_ (ih b)
      rintro ⟨vs, m, h⟩
      obtain ⟨t, ht', -⟩ := Condition.means_iff.1 h
      cases ht.symm.trans ht'
    | some t =>
      have hnext : b.next + t.template.values.length =
          (t.template.values.foldl Slots.bind b).next := by
        simp [Slots.foldl_bind, Slots.next, Nat.add_assoc]
      rw [List.filterMap_cons_some ht, List.map_cons, Fragment.numbered, List.flatMap_cons,
        List.foldl_append]
      refine .bound (Condition.means_of_ofCondition? ht) (t.places_tree b.next) ?_
      show Binds _ cs (Fragment.numbered (b.next + t.template.values.length) _) _
      rw [hnext]
      exact ih _

/-- Compiling loads the rows and does no more with the store. -/
theorem Service.run_compile {σ : Type} (perform : (e : ServiceStep) → σ → e.Reply × σ) (q : Query)
    (s : σ) :
    (Service.compile q).run perform s =
      (((Service.loadRows q.filterIds).run perform s).1.map q.compile,
        ((Service.loadRows q.filterIds).run perform s).2) :=
  Program.run_bind perform (Service.loadRows q.filterIds) (fun rows => .done (rows.map q.compile)) s

namespace Query

variable (q : Query) (rows : List FilterRow)

/-- The tests of the groups are those of all conditions. -/
theorem tests_groups :
    (q.groups rows).flatMap (·.tests) =
      (q.conditions rows).filterMap Test.ofScoped? := by
  have skip : ∀ gs : List Clause,
      (gs.filter fun g => !g.tests.isEmpty).flatMap (·.tests) = gs.flatMap (·.tests) := by
    intro gs
    induction gs with
    | nil => rfl
    | cons g gs ih =>
      cases hg : g.tests with
      | nil => simp [hg, ih]
      | cons t ts => simp [hg, ih]
  rw [groups, skip, conditions, List.flatMap_map, List.filterMap_flatMap]
  refine List.flatMap_congr fun p _ => ?_
  rw [List.filterMap_map]
  rfl

theorem values_compile :
    (q.compile rows).values =
      ((q.groups rows).flatMap (·.tests)).flatMap (·.template.values) := by
  show (q.template rows).values = _
  rw [template, clauses_eq, Sql.Template.values_joined, List.flatMap_map, List.flatMap_assoc]
  refine List.flatMap_congr fun c _ => ?_
  rw [Clause.values_template, List.flatMap_map]
  rfl

/-- There is a predicate as soon as there is a test. -/
theorem predicate_eq_none_iff :
    (q.compile rows).predicate = none ↔ (q.groups rows).flatMap (·.tests) = [] := by
  have hp : (q.compile rows).predicate = none ↔ q.groups rows = [] := by
    simp [compile, clauses_eq]
  rw [hp, List.flatMap_eq_nil_iff]
  constructor
  · intro h g hg
    rw [h] at hg
    cases hg
  · intro h
    refine List.eq_nil_iff_forall_not_mem.2 fun g hg => ?_
    exact tests_ne_nil hg (h g hg)

/-- The predicate has one reading, and its tests are those of the groups. -/
theorem exists_reading {p : String} (h : (q.compile rows).predicate = some p) :
    ∃ e, IsReading p e ∧
      e.tests = Fragment.numbered q.first
        (((q.groups rows).flatMap (·.tests)).map Test.fragment) := by
  cases hg : q.groups rows with
  | nil => simp [compile, clauses_eq, hg] at h
  | cons c cs =>
    have hne : ∀ d ∈ c :: cs, d.tests ≠ [] := fun d hd => tests_ne_nil (hg ▸ hd)
    have hp : p = (Clause.conjunction c cs).template.sql q.first := by
      simpa [compile, template, clauses_eq, hg, Clause.template_conjunction] using h.symm
    rw [hp]
    exact ⟨_, (Clause.reads_conjunction hne).isReading (Clause.graded_conjunction hne q.first),
      Clause.tests_conjunction hne q.first⟩

/-- The tokens of the predicate have the placeholders of its values, in order. -/
theorem slots_predicate {p : String} (h : (q.compile rows).predicate = some p) :
    ∃ ts, tokens? p.toList = some ts ∧
      ts.filterMap Token.slot? = List.range' q.first (q.compile rows).values.length := by
  obtain ⟨e, he, htests⟩ := q.exists_reading rows h
  refine ⟨e.spell, he.1, ?_⟩
  rw [Expr.slots_spell, Expr.places_eq, htests, Test.places_numbered, ← values_compile,
    Sql.map_fst_placesFrom]

/-- Without a predicate there are no values. -/
theorem values_of_no_predicate (h : (q.compile rows).predicate = none) :
    (q.compile rows).values = [] := by
  rw [values_compile, (q.predicate_eq_none_iff rows).1 h]
  rfl

/-- **The placeholders of a compiled filter.**  Starting at the first placeholder, the
conditions of the loaded filters bind their values one after the other.  These are the values of
the compiled filter; the placeholders in its predicate count up from the first one to the last
before the next free one, and are those of lists exactly where they stand in `= ANY`. -/
theorem compile_binds {σ : Type} (perform : (e : ServiceStep) → σ → e.Reply × σ) (q : Query)
    {s s' : σ} {f : CompiledFilter} (h : (Service.compile q).run perform s = (.ok f, s')) :
    ∃ rows, ((Service.loadRows q.filterIds).run perform s).1 = .ok rows ∧
      ∃ b es, Binds (Slots.startingAt q.start) (q.conditions rows) es b ∧
        f.values = b.values ∧ f.next = b.next ∧ f.next = max q.start 1 + f.values.length ∧
        (f.predicate = none ↔ es = []) ∧
        ∀ p, f.predicate = some p →
          (∃ ts, tokens? p.toList = some ts ∧
            ts.filterMap Token.slot? = List.range' (max q.start 1) f.values.length) ∧
          ∃ e, (∀ e', IsReading p e' ↔ e' = e) ∧ e.tests = es ∧
            e.places = Sql.placesFrom (max q.start 1) f.values := by
  rw [Service.run_compile] at h
  cases hrows : ((Service.loadRows q.filterIds).run perform s).1 with
  | error e =>
    rw [hrows] at h
    cases (Prod.mk.inj h).1
  | ok rows =>
    rw [hrows] at h
    have hf : q.compile rows = f := Except.ok.inj (Prod.mk.inj h).1
    subst hf
    refine ⟨rows, rfl, _, _, binds_tests _ _, ?_, ?_, next_compile q rows, ?_, fun p hp => ?_⟩
    · rw [Slots.foldl_bind, values_compile, tests_groups]
      rfl
    · rw [Slots.foldl_bind, next_compile, values_compile, tests_groups]
      rfl
    · rw [predicate_eq_none_iff, tests_groups, ← List.length_eq_zero_iff, ← List.length_eq_zero_iff,
        Fragment.length_numbered, List.length_map]
    · obtain ⟨e, he, htests⟩ := q.exists_reading rows hp
      rw [tests_groups] at htests
      have hplaces : e.places = Sql.placesFrom (max q.start 1) (q.compile rows).values := by
        obtain ⟨-, vs, hv, hvs⟩ := (binds_tests (.startingAt q.start) (q.conditions rows)).places
        have hvalues : (q.compile rows).values = vs := by
          rw [values_compile, tests_groups]
          simpa [Slots.foldl_bind, Slots.startingAt] using hv
        rw [Expr.places_eq, htests, hvalues]
        exact hvs
      refine ⟨⟨e.spell, he.1, ?_⟩, e, fun e' => Sql.isReading_iff_eq he, htests, hplaces⟩
      rw [Expr.slots_spell, hplaces, Sql.map_fst_placesFrom]

/-- Rows from the cache: a range whose second end is no date is dropped, a list and a custom
range take three placeholders. -/
theorem compile_binds_cached_rows :
    let rows : List FilterRow :=
      [⟨7, "Due", "and", some 1, some "list", some "due_date", none, none, some "between",
        some [.string "2026-01-01", .string "soon"], none⟩,
       ⟨7, "Due", "and", some 2, some "list", some "status", none, none, some "in",
        some [.string "todo", .string "done"], none⟩]
    let q : Query := ⟨[7], [⟨none, .or, [⟨.list, .column (.id .tag), .between,
      [.string "1", .string "9"], none, none, none⟩]⟩], "u", .empty, 5⟩
    ∃ f p ts, (Service.compile q).run (ServiceStep.cached rows) () = (.ok f, ()) ∧ f.next = 8 ∧
      f.predicate = some p ∧ tokens? p.toList = some ts ∧
      ts.filterMap Token.slot? = [5, 6, 7] := by
  intro rows q
  have hrun : (Service.compile q).run (ServiceStep.cached rows) () = (.ok (q.compile rows), ()) :=
    rfl
  obtain ⟨_, _, _, _, _, _, _, hnext, _, hpred⟩ := compile_binds _ q hrun
  have hlen : (q.compile rows).values.length = 3 := by decide
  have hsome : (q.compile rows).predicate.isSome = true := by decide
  obtain ⟨p, hp⟩ := Option.isSome_iff_exists.1 hsome
  obtain ⟨⟨ts, hts, hslots⟩, -⟩ := hpred p hp
  rw [hlen] at hnext hslots
  exact ⟨_, p, ts, hrun, hnext, hp, hts, hslots⟩

end Query

end TaskBoard
