import TaskBoard.Filter.Definition
import TaskBoard.Filter.Test

/-!
# Compiled filters

The saved and custom filters of one request become one predicate over the task table with
its bound values.  The tests of a filter are joined by its own logic and stand in
parentheses; a filter without a test takes no part; the filters that remain are joined by
`AND`.  With no filter left there is no predicate at all.

    the slots of a predicate count from its first index on      (slots_phrase)
-/

namespace TaskBoard

/-- What a request asks to be compiled. -/
structure Query where
  filterIds : List Int
  customFilters : List CustomFilter
  /-- The user who asks. -/
  user : String
  overrides : Overrides
  /-- The first placeholder to be used. -/
  start : Nat

/-- The tests of one filter. -/
structure Clause where
  logic : Logic
  tests : List Test

/-- A predicate, the values of its placeholders and the next free placeholder. -/
structure CompiledFilter where
  predicate : Option String
  values : List Sql.Value
  next : Nat
  deriving Repr, DecidableEq

/-- Whether nothing is filtered out. -/
def CompiledFilter.isEmpty (f : CompiledFilter) : Bool := f.predicate.isNone

/-- The tests of a filter in parentheses. -/
def Clause.template (c : Clause) : Sql.Template :=
  Sql.Template.inParens (.joined c.logic.joiner (c.tests.map Test.template))

namespace Query

/-- The surroundings of the conditions of the filter with this name. -/
def scope (q : Query) (filterName : String) : Scope := ⟨q.user, filterName, q.overrides⟩

def clauseOf (q : Query) (name : String) (logic : Logic) (conditions : List Condition) : Clause :=
  ⟨logic, conditions.filterMap (Test.ofCondition? (q.scope name))⟩

/-- The clauses of the saved filters that `rows` hold and of the custom filters. -/
def allClauses (q : Query) (rows : List FilterRow) : List Clause :=
  (Definition.ofRows rows).map (fun d => q.clauseOf d.name d.logic d.conditions) ++
    q.customFilters.map fun f => q.clauseOf (f.name.getD "") f.logic f.conditions

/-- The clauses that have a test. -/
def clauses (q : Query) (rows : List FilterRow) : List Clause :=
  (q.allClauses rows).filter fun c => !c.tests.isEmpty

/-- The clauses joined into one predicate. -/
def template (q : Query) (rows : List FilterRow) : Sql.Template :=
  .joined " AND " ((q.clauses rows).map Clause.template)

/-- Placeholders count from one. -/
def first (q : Query) : Nat := max q.start 1

/-- The predicate of a request whose saved filters are held by `rows`. -/
def compile (q : Query) (rows : List FilterRow) : CompiledFilter :=
  let t := q.template rows
  { predicate := if (q.clauses rows).isEmpty then none else some (t.sql q.first)
    values := t.values
    next := q.first + t.values.length }

/-! ## Lemmas -/

theorem slots_phrase (q : Query) (rows : List FilterRow) :
    ((q.template rows).number q.first).slots = List.range' q.first (q.compile rows).values.length :=
  Sql.Template.slots_number _ _

theorem compile_of_no_clause {q : Query} {rows : List FilterRow} (h : q.clauses rows = []) :
    q.compile rows = ⟨none, [], q.first⟩ := by
  simp [compile, template, h, Sql.Template.joined, Sql.Template.values]

theorem next_compile (q : Query) (rows : List FilterRow) :
    (q.compile rows).next = q.first + (q.compile rows).values.length := rfl

end Query

end TaskBoard
