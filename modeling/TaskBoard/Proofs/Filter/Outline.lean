import Mathlib.Data.List.Forall2
import TaskBoard.Proofs.Filter.Placeholders

/-!
# What the text of a predicate depends on

The outline of a template is its fixed text with the places left open.  The SQL of a template
is a matter of its outline alone, and so is the number of its values.  The outline of a test in
turn is fixed by the words of its condition: what it is about and how it tests that.  Which
values it has, how many there are in a list, who asks and what the filter is called, all that
goes into the values that are bound.

    templates of one outline have one text                      (sql_congr)
    conditions of the same words have tests of one outline      (outline_ofCondition?)
    filters of the same words compile to one predicate          (compile_of_alike)
-/

namespace TaskBoard

/-! ## Outlines -/

/-- The fixed text of a part; a place has none. -/
def Sql.Part.outline : Part → Option String
  | .lit s => some s
  | .hole _ => none

/-- The fixed texts of a template, with its places left open. -/
def Sql.Template.outline (t : Template) : List (Option String) := t.map Part.outline

/-- The operator that a match was read from. -/
def Match.operator {α : Type} : Match α → Operator
  | .compare c _ => .compare c
  | .oneOf _ => .oneOf
  | .between _ _ => .between

/-- What a test looks at: one field, or the days from one day to another. -/
inductive Subject
  | field (f : Field)
  | days (earlier later : DateSource)
  deriving Repr, DecidableEq

namespace Test

def subject : Test → Subject
  | .null c _ => .field (.column c)
  | .text c _ => .field (.column (.text c))
  | .id c _ => .field (.column (.id c))
  | .date (.column c) _ => .field (.column (.date c))
  | .date .today _ => .field .today
  | .dayDiff earlier later _ => .days earlier later
  | .assigned _ _ => .field .assignee

/-- The operator that a test was read from. -/
def operator : Test → Operator
  | .null _ yes => if yes then .null else .notNull
  | .text _ m => m.operator
  | .id _ m => m.operator
  | .date _ m => m.operator
  | .dayDiff _ _ m => m.operator
  | .assigned yes .anyone => if yes then .notNull else .null
  | .assigned yes (.user _) => .compare (if yes then .eq else .ne)
  | .assigned yes (.oneOf _) => if yes then .oneOf else .unknown

end Test

namespace Condition

/-- What the words of a condition ask for: a subject and an operator. -/
def target? (c : Condition) : Option (Subject × Operator) :=
  match c.kind with
  | .list => some (.field c.field, c.operator)
  | .dateDiff => do
    let earlier ← c.dateFrom.bind Field.date?
    let later ← c.dateTo.bind Field.date?
    some (.days earlier later, c.operator)
  | .dateRange => some (.field c.field, .between)
  | .unknown => none

/-- The two conditions have the same words; their values and units may differ. -/
structure Alike (c d : Condition) : Prop where
  kind : c.kind = d.kind
  field : c.field = d.field
  operator : c.operator = d.operator
  dateFrom : c.dateFrom = d.dateFrom
  dateTo : c.dateTo = d.dateTo

theorem Alike.target?_eq {c d : Condition} (h : c.Alike d) : c.target? = d.target? := by
  unfold target?
  rw [h.kind, h.field, h.operator, h.dateFrom, h.dateTo]

/-- Whether the condition is dropped where it stands. -/
def Dropped (s : Scope) (c : Condition) : Prop := Test.ofCondition? s c = none

end Condition

/-- The two filters have the same logic, and their conditions correspond: they have the same
words, and both of them are dropped or neither. -/
structure FilterPart.Alike (p q : FilterPart) : Prop where
  logic : p.logic = q.logic
  conditions : List.Forall₂ (fun c d => c.Alike d ∧ (c.Dropped p.scope ↔ d.Dropped q.scope))
    p.conditions q.conditions

/-! ## Templates -/

namespace Sql.Template

theorem length_values (t : Template) : t.values.length = t.outline.countP (·.isNone) := by
  induction t with
  | nil => rfl
  | cons p t ih =>
    cases p with
    | lit s => simpa [values, outline, Part.outline] using ih
    | hole v => simpa [values, outline, Part.outline] using ih

theorem length_values_congr {t u : Template} (h : t.outline = u.outline) :
    t.values.length = u.values.length := by
  rw [length_values, length_values, h]

/-- Where the outlines agree, the numbered texts do. -/
theorem sql_congr {t u : Template} (h : t.outline = u.outline) (i : Nat) : t.sql i = u.sql i := by
  induction t generalizing u i with
  | nil =>
    cases u with
    | nil => rfl
    | cons q u => cases h
  | cons p t ih =>
    cases u with
    | nil => cases h
    | cons q u =>
      obtain ⟨hpq, htu⟩ := List.cons.inj h
      cases p with
      | lit s =>
        cases q with
        | lit s' =>
          obtain rfl : s = s' := Option.some.inj hpq
          rw [sql_lit, sql_lit, ih htu]
        | hole v => cases hpq
      | hole v =>
        cases q with
        | lit s' => cases hpq
        | hole w => rw [sql_hole, sql_hole, ih htu]

theorem outline_append (t u : Template) : (t ++ u).outline = t.outline ++ u.outline :=
  List.map_append

theorem outline_lit (s : String) (t : Template) :
    outline (.lit s :: t) = some s :: t.outline := rfl

theorem outline_inParens (t : Template) :
    (inParens t).outline = some "(" :: (t.outline ++ [some ")"]) := by
  rw [inParens, List.cons_append, outline_lit, outline_append]
  rfl

theorem outline_joined (sep : String) {ts us : List Template}
    (h : ts.map outline = us.map outline) : (joined sep ts).outline = (joined sep us).outline := by
  induction ts generalizing us with
  | nil =>
    obtain rfl : us = [] := by simpa using h.symm
    rfl
  | cons t ts ih =>
    obtain ⟨u, us, rfl, htu, hrest⟩ := List.map_eq_cons_iff.1 h.symm
    have hlen : us.length = ts.length := by simpa using congrArg List.length hrest
    cases ts with
    | nil =>
      obtain rfl : us = [] := List.length_eq_zero_iff.1 hlen
      exact htu.symm
    | cons t' ts =>
      obtain ⟨u', us, rfl, -, -⟩ := List.map_eq_cons_iff.1 hrest
      rw [joined_cons, joined_cons, outline_append, outline_append, outline_lit, outline_lit, htu,
        ih hrest.symm]

end Sql.Template

/-! ## Tests -/

namespace Match

variable {α : Type}

/-- A match has the operator that it is read from. -/
theorem operator_ofValues? {read : Json → Option α} {op : Operator} {values : List Json}
    {m : Match α} (h : ofValues? read op values = some m) : m.operator = op := by
  unfold ofValues? at h
  split at h
  · obtain ⟨a, -, rfl⟩ := Option.map_eq_some_iff.1 h
    rfl
  · obtain ⟨as, -, rfl⟩ := Option.map_eq_some_iff.1 h
    rfl
  · obtain ⟨lo, -, h⟩ := Option.bind_eq_some_iff.1 h
    obtain ⟨hi, -, h⟩ := Option.bind_eq_some_iff.1 h
    cases h
    rfl
  · cases h

/-- The outline of a match is a matter of its operator. -/
theorem outline_template (b : Binding α) (e : String) {m n : Match α}
    (h : m.operator = n.operator) : (m.template b e).outline = (n.template b e).outline := by
  cases m <;> cases n <;> cases h <;> rfl

theorem operator_ne_nullTest (m : Match α) (yes : Bool) :
    m.operator ≠ if yes then .null else .notNull := by
  cases yes <;> cases m <;> nofun

end Match

namespace Test

theorem operator_of_nullTest? {op : Operator} {values : List Json} {yes : Bool}
    (h : nullTest? op values = some yes) : op = if yes then .null else .notNull := by
  unfold nullTest? at h
  split at h <;> cases h <;> rfl

variable {s : Scope} {t : Test}

theorem target_ofColumn? {c : Column} {op : Operator} {values : List Json}
    (h : ofColumn? c op values = some t) : t.subject = .field (.column c) ∧ t.operator = op := by
  unfold ofColumn? at h
  split at h
  · next yes hn =>
    cases h
    exact ⟨rfl, (operator_of_nullTest? hn).symm⟩
  · cases c <;> obtain ⟨m, hm, rfl⟩ := Option.map_eq_some_iff.1 h <;>
      exact ⟨rfl, Match.operator_ofValues? hm⟩

theorem target_ofAssignee? {asking : String} {op : Operator} {values : List Json}
    (h : ofAssignee? asking op values = some t) :
    t.subject = .field .assignee ∧ t.operator = op := by
  unfold ofAssignee? at h
  split at h
  · cases h
    exact ⟨rfl, rfl⟩
  · cases h
    exact ⟨rfl, rfl⟩
  · obtain ⟨u, -, rfl⟩ := Option.map_eq_some_iff.1 h
    exact ⟨rfl, rfl⟩
  · obtain ⟨u, -, rfl⟩ := Option.map_eq_some_iff.1 h
    exact ⟨rfl, rfl⟩
  · obtain ⟨us, -, rfl⟩ := Option.map_eq_some_iff.1 h
    exact ⟨rfl, rfl⟩
  · cases h

theorem target_ofList? {c : Condition} (h : ofList? s c = some t) :
    t.subject = .field c.field ∧ t.operator = c.operator := by
  unfold ofList? at h
  split at h
  · next col hf =>
    rw [hf]
    exact target_ofColumn? h
  · next hf =>
    rw [hf]
    obtain ⟨m, hm, rfl⟩ := Option.map_eq_some_iff.1 h
    exact ⟨rfl, Match.operator_ofValues? hm⟩
  · next hf =>
    rw [hf]
    exact target_ofAssignee? h
  · cases h

/-- A comparison keeps its operator, overridden or not. -/
theorem operator_ofDays? {o : Option Int} {u : DayUnit} {op : Operator} {values : List Json}
    {m : Match Int} (h : ofDays? o u op values = some m) : m.operator = op := by
  unfold ofDays? at h
  split at h
  · cases h
    rfl
  · exact Match.operator_ofValues? h
  · exact Match.operator_ofValues? h
  · cases h

theorem subject_date {f : Field} {d : DateSource} (h : f.date? = some d) (m : Match Date) :
    (Test.date d m).subject = .field f := by
  unfold Field.date? at h
  split at h <;> cases h <;> rfl

/-- A test looks at what the words of its condition ask for. -/
theorem target?_of_ofCondition? {c : Condition} (h : ofCondition? s c = some t) :
    c.target? = some (t.subject, t.operator) := by
  unfold ofCondition? at h
  split at h
  · next hk =>
    obtain ⟨hs, ho⟩ := target_ofList? h
    unfold Condition.target?
    rw [hk, hs, ho]
  · next hk =>
    obtain ⟨earlier, he, h⟩ := Option.bind_eq_some_iff.1 h
    obtain ⟨later, hl, h⟩ := Option.bind_eq_some_iff.1 h
    obtain ⟨u, -, h⟩ := Option.bind_eq_some_iff.1 h
    obtain ⟨m, hm, h⟩ := Option.bind_eq_some_iff.1 h
    cases h
    unfold Condition.target?
    rw [hk, he, hl]
    exact congrArg (fun op => some (Subject.days earlier later, op)) (operator_ofDays? hm).symm
  · next hk =>
    rw [Condition.ofDateRange?_eq] at h
    split at h
    · obtain ⟨d, hd, h⟩ := Option.bind_eq_some_iff.1 h
      obtain ⟨m, hm, rfl⟩ := Option.map_eq_some_iff.1 h
      unfold Condition.target?
      rw [hk, subject_date hd]
      exact congrArg (fun op => some (Subject.field c.field, op)) (Match.operator_ofValues? hm).symm
    · cases h
  · cases h

/-- The outline of a test is a matter of its subject and its operator. -/
theorem outline_template {t u : Test} (hs : t.subject = u.subject) (ho : t.operator = u.operator) :
    t.template.outline = u.template.outline := by
  cases t with
  | null c yes =>
    cases u with
    | null c' yes' =>
      cases hs
      cases yes <;> cases yes' <;> first | rfl | cases ho
    | text c' m => exact absurd ho.symm (m.operator_ne_nullTest yes)
    | id c' m => exact absurd ho.symm (m.operator_ne_nullTest yes)
    | date d m => exact absurd ho.symm (m.operator_ne_nullTest yes)
    | dayDiff earlier later m => cases hs
    | assigned yes' who => cases hs
  | text c m =>
    cases u with
    | null c' yes => exact absurd ho (m.operator_ne_nullTest yes)
    | text c' n =>
      cases hs
      exact Match.outline_template _ _ ho
    | date d n => cases d <;> cases hs
    | _ => cases hs
  | id c m =>
    cases u with
    | null c' yes => exact absurd ho (m.operator_ne_nullTest yes)
    | id c' n =>
      cases hs
      exact Match.outline_template _ _ ho
    | date d n => cases d <;> cases hs
    | _ => cases hs
  | date d m =>
    cases u with
    | null c yes => exact absurd ho (m.operator_ne_nullTest yes)
    | date d' n =>
      obtain rfl : d = d' := by
        cases d <;> cases d' <;> cases hs <;> rfl
      exact Match.outline_template _ _ ho
    | _ => cases d <;> cases hs
  | dayDiff earlier later m =>
    cases u with
    | dayDiff earlier' later' n =>
      cases hs
      exact Match.outline_template _ _ ho
    | date d n => cases d <;> cases hs
    | _ => cases hs
  | assigned yes who =>
    cases u with
    | assigned yes' who' =>
      cases who <;> cases who' <;> cases yes <;> cases yes' <;> first | rfl | cases ho
    | date d n => cases d <;> cases hs
    | _ => cases hs

/-- **Conditions of the same words have tests of one outline.** -/
theorem outline_ofCondition? {s' : Scope} {c d : Condition} {u : Test} (h : c.Alike d)
    (ht : ofCondition? s c = some t) (hu : ofCondition? s' d = some u) :
    t.template.outline = u.template.outline := by
  have htarget : some (t.subject, t.operator) = some (u.subject, u.operator) := by
    rw [← target?_of_ofCondition? ht, ← target?_of_ofCondition? hu, h.target?_eq]
  obtain ⟨hs, ho⟩ := Prod.mk.inj (Option.some.inj htarget)
  exact outline_template hs ho

end Test

/-! ## Compiling -/

/-- The two clauses have the same logic, and their tests have the same outlines. -/
structure Clause.Alike (c d : Clause) : Prop where
  logic : c.logic = d.logic
  outlines : c.tests.map (·.template.outline) = d.tests.map (·.template.outline)

namespace Clause

variable {c d : Clause}

theorem Alike.isEmpty_tests (h : c.Alike d) : c.tests.isEmpty = d.tests.isEmpty := by
  have hlen := congrArg List.length h.outlines
  rw [List.length_map, List.length_map] at hlen
  rw [Bool.eq_iff_iff, List.isEmpty_iff_length_eq_zero, List.isEmpty_iff_length_eq_zero, hlen]

theorem Alike.outline_template (h : c.Alike d) : c.template.outline = d.template.outline := by
  have hjoined : (Sql.Template.joined c.logic.joiner (c.tests.map Test.template)).outline =
      (Sql.Template.joined d.logic.joiner (d.tests.map Test.template)).outline := by
    rw [h.logic]
    apply Sql.Template.outline_joined
    rw [List.map_map, List.map_map]
    exact h.outlines
  unfold template
  rw [Sql.Template.outline_inParens, Sql.Template.outline_inParens, hjoined]

end Clause

/-- Where both conditions are dropped or neither is, their tests are a pair or missing. -/
theorem rel_ofCondition? {s s' : Scope} {c d : Condition} (h : c.Alike d)
    (hd : c.Dropped s ↔ d.Dropped s') :
    Option.Rel (fun t u => t.template.outline = u.template.outline)
      (Test.ofCondition? s c) (Test.ofCondition? s' d) := by
  unfold Condition.Dropped at hd
  cases ht : Test.ofCondition? s c with
  | none =>
    rw [hd.1 ht]
    exact .none
  | some t =>
    cases hu : Test.ofCondition? s' d with
    | none => cases ht.symm.trans (hd.2 hu)
    | some u => exact .some (Test.outline_ofCondition? h ht hu)

/-- Filters of the same words have clauses of the same outlines. -/
theorem FilterPart.Alike.clause {p q : FilterPart} (h : p.Alike q) : p.clause.Alike q.clause := by
  have htests : List.Forall₂ (fun t u => t.template.outline = u.template.outline)
      p.clause.tests q.clause.tests :=
    List.rel_filterMap (fun _ _ hc => rel_ofCondition? hc.1 hc.2) h.conditions
  refine ⟨h.logic, List.forall₂_eq_eq_eq ▸ ?_⟩
  rw [List.forall₂_map_left_iff, List.forall₂_map_right_iff]
  exact htests

namespace Query

variable {q q' : Query} {rows rows' : List FilterRow}

/-- What remains of filters of the same words corresponds, too. -/
theorem groups_alike (h : List.Forall₂ FilterPart.Alike (q.parts rows) (q'.parts rows')) :
    List.Forall₂ Clause.Alike (q.groups rows) (q'.groups rows') := by
  unfold groups
  apply List.rel_filter
  · intro c d hcd
    show (!c.tests.isEmpty) = true ↔ (!d.tests.isEmpty) = true
    rw [hcd.isEmpty_tests]
  · exact List.rel_map (fun _ _ hp => hp.clause) h

theorem outline_template (h : List.Forall₂ FilterPart.Alike (q.parts rows) (q'.parts rows')) :
    (q.template rows).outline = (q'.template rows').outline := by
  unfold template
  rw [clauses_eq, clauses_eq]
  apply Sql.Template.outline_joined
  rw [List.map_map, List.map_map, ← List.forall₂_eq_eq_eq, List.forall₂_map_left_iff,
    List.forall₂_map_right_iff]
  exact (groups_alike h).imp fun _ _ hcd => hcd.outline_template

/-- **No value of a request reaches the SQL.**  Two requests start at the same placeholder, and
their loaded filters correspond: the same logic, conditions of the same words, and dropped
conditions in the same places.  Then both compile, to the same predicate and with the same next
placeholder, whatever the values are, how many a list has, who asks, what the filters are called
and which days override others. -/
theorem compile_of_alike {σ σ' : Type} (perform : (e : ServiceStep) → σ → e.Reply × σ)
    (perform' : (e : ServiceStep) → σ' → e.Reply × σ') (s : σ) (s' : σ')
    (hrows : ((Service.loadRows q.filterIds).run perform s).1 = .ok rows)
    (hrows' : ((Service.loadRows q'.filterIds).run perform' s').1 = .ok rows')
    (hstart : q.start = q'.start)
    (h : List.Forall₂ FilterPart.Alike (q.parts rows) (q'.parts rows')) :
    ∃ f f', ((Service.compile q).run perform s).1 = .ok f ∧
      ((Service.compile q').run perform' s').1 = .ok f' ∧
      f.predicate = f'.predicate ∧ f.next = f'.next := by
  have hfirst : q.first = q'.first := congrArg (max · 1) hstart
  have houtline := outline_template h
  have hnone : (q.clauses rows).isEmpty = (q'.clauses rows').isEmpty := by
    rw [clauses_eq, clauses_eq, Bool.eq_iff_iff, List.isEmpty_iff_length_eq_zero,
      List.isEmpty_iff_length_eq_zero, (groups_alike h).length_eq]
  refine ⟨q.compile rows, q'.compile rows', ?_, ?_, ?_, ?_⟩
  · rw [Service.run_compile, hrows]
    rfl
  · rw [Service.run_compile, hrows']
    rfl
  · unfold compile
    dsimp only
    rw [hnone, hfirst, Sql.Template.sql_congr houtline]
  · show q.first + (q.template rows).values.length = q'.first + (q'.template rows').values.length
    rw [hfirst, Sql.Template.length_values_congr houtline]

/-- Two users ask for saved filters of the same words that differ in name, unit and list, and for
differences of which the second one is overridden. -/
theorem compile_of_alike_two_users :
    let rows : List FilterRow :=
      [⟨7, "Due", "or", some 1, some "list", some "status", none, none, some "in",
        some [.string "todo"], none⟩]
    let rows' : List FilterRow :=
      [⟨9, "'; --", "or", some 4, some "list", some "status", none, none, some "in",
        some [.string "done", .string "$1"], some "weeks"⟩]
    let late (unit : String) (days : Int) : Condition :=
      ⟨.dateDiff, .unknown, .compare .gt, [.number (.int days)], some .today,
        some (.column (.date .due)), some unit⟩
    let q : Query := ⟨[7], [⟨some "Late", .and, [late "days" 3]⟩], "ann", .empty, 2⟩
    let q' : Query :=
      ⟨[9], [⟨some "Slow", .and, [late "weeks" 1]⟩], "bob", Overrides.empty.insert "Slow" 40, 2⟩
    ∃ f f', ((Service.compile q).run (ServiceStep.cached rows) ()).1 = .ok f ∧
      ((Service.compile q').run (ServiceStep.cached rows') ()).1 = .ok f' ∧
      f.predicate = f'.predicate ∧ f.next = f'.next := by
  intro rows rows' late q q'
  have hparts : List.Forall₂ FilterPart.Alike (q.parts rows) (q'.parts rows') := by
    refine .cons ⟨rfl, .cons ⟨⟨rfl, rfl, rfl, rfl, rfl⟩, iff_of_false ?_ ?_⟩ .nil⟩
      (.cons ⟨rfl, .cons ⟨⟨rfl, rfl, rfl, rfl, rfl⟩, iff_of_false ?_ ?_⟩ .nil⟩ .nil)
    all_goals
      unfold Condition.Dropped
      decide
  exact compile_of_alike (ServiceStep.cached rows) (ServiceStep.cached rows') () () rfl rfl rfl
    hparts

end Query

end TaskBoard
