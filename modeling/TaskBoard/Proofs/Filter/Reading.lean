import TaskBoard.Filter.Query
import TaskBoard.Proofs.Sql.Fragment

/-!
# Tests as SQL

The text of a test, read as SQL.  Each piece of it, an expression, the place of a value, a
match, has its tree; the tree of a test is a single test, never a combination.

    t.fragment.Reads                                            (reads_fragment)
    IsReading (t.template.sql i) (t.tree i)                     (isReading_test)
-/

namespace TaskBoard

open Sql (Expr Token tokens? Opens Delimits)

/-! ## Trees -/

def Column.tree (c : Column) : Expr := .column taskAlias c.columnName

def DateSource.tree : DateSource → Expr
  | .column c => .cast (Column.date c).tree "date"
  | .today => .currentDate

/-- The place of one value; dates are cast. -/
def placeTree (dated : Bool) (i : Nat) : Expr := if dated then .cast (.slot i) "date" else .slot i

/-- The place of a list. -/
def placeManyTree (dated : Bool) (i : Nat) : Expr :=
  if dated then .castArray (.slot i) "date" else .slot i

def Match.tree {α : Type} (dated : Bool) (subject : Expr) (i : Nat) : Match α → Expr
  | .compare c _ => .compare c subject (placeTree dated i)
  | .oneOf _ => .compareAny .eq subject (placeManyTree dated i)
  | .between _ _ => .between subject (placeTree dated i) (placeTree dated (i + 1))

/-- The rows of the relation that belong to the task. -/
def assignmentTree : Expr := .compare .eq (.column "ta" "task_id") (.column taskAlias "id")

def Assignee.tree (i : Nat) : Assignee → Expr
  | .anyone => assignmentTree
  | .user _ => .and assignmentTree (.compare .eq (.column "ta" "user_id") (.slot i))
  | .oneOf _ => .and assignmentTree (.compareAny .eq (.column "ta" "user_id") (.slot i))

/-- The difference of two days. -/
def dayDiffTree (earlier later : DateSource) : Expr := .paren (.minus later.tree earlier.tree)

namespace Test

def tree (i : Nat) : Test → Expr
  | .null c yes => .nullTest c.tree yes
  | .text c m => m.tree false (Column.text c).tree i
  | .id c m => m.tree false (Column.id c).tree i
  | .date d m => m.tree true d.tree i
  | .dayDiff earlier later m => m.tree false (dayDiffTree earlier later) i
  | .assigned true who => .existence "task_assignees" "ta" (who.tree i)
  | .assigned false who => .not (.existence "task_assignees" "ta" (who.tree i))

end Test

/-! ## Levels -/

theorem DateSource.le_level_tree (d : DateSource) : 5 ≤ d.tree.level := by
  cases d <;> simp [tree, Expr.level]

theorem DateSource.graded_tree (d : DateSource) : d.tree.Graded := by
  cases d <;> simp [tree, Column.tree, Expr.Graded, Expr.level]

theorem le_level_placeTree (dated : Bool) (i : Nat) : 5 ≤ (placeTree dated i).level := by
  cases dated <;> simp [placeTree, Expr.level]

theorem graded_placeTree (dated : Bool) (i : Nat) : (placeTree dated i).Graded := by
  cases dated <;> simp [placeTree, Expr.Graded, Expr.level]

theorem graded_placeManyTree (dated : Bool) (i : Nat) : (placeManyTree dated i).Graded := by
  cases dated <;> simp [placeManyTree, Expr.Graded, Expr.level]

namespace Match

variable {α : Type}

theorem level_tree (dated : Bool) (s : Expr) (i : Nat) (m : Match α) :
    (m.tree dated s i).level = 3 := by
  cases m <;> rfl

theorem graded_tree (dated : Bool) {s : Expr} (hl : 4 ≤ s.level) (hs : s.Graded) (i : Nat)
    (m : Match α) : (m.tree dated s i).Graded := by
  have hp : ∀ i, 4 ≤ (placeTree dated i).level := fun i =>
    Nat.le_of_succ_le (le_level_placeTree dated i)
  cases m with
  | compare c a => exact ⟨⟨hl, hs⟩, hp i, graded_placeTree dated i⟩
  | oneOf as => exact ⟨⟨hl, hs⟩, graded_placeManyTree dated i⟩
  | between lo hi =>
    exact ⟨⟨hl, hs⟩, ⟨hp i, graded_placeTree dated i⟩, hp (i + 1), graded_placeTree dated (i + 1)⟩

end Match

theorem Column.le_level_tree (c : Column) : 4 ≤ c.tree.level := by
  simp [tree, Expr.level]

theorem Assignee.graded_tree (i : Nat) (who : Assignee) : (who.tree i).Graded := by
  cases who <;> simp [tree, assignmentTree, Expr.Graded, Expr.level]

theorem graded_dayDiffTree (earlier later : DateSource) : (dayDiffTree earlier later).Graded :=
  ⟨⟨Nat.le_of_succ_le later.le_level_tree, later.graded_tree⟩, earlier.le_level_tree,
    earlier.graded_tree⟩

namespace Test

theorem le_level_tree (i : Nat) (t : Test) : 2 ≤ (t.tree i).level := by
  cases t with
  | null c yes => simp [tree, Expr.level]
  | assigned yes who => cases yes <;> simp [tree, Expr.level]
  | _ => simp [tree, Match.level_tree]

theorem graded_tree (i : Nat) (t : Test) : (t.tree i).Graded := by
  cases t with
  | null c yes => exact ⟨c.le_level_tree, trivial⟩
  | text c m => exact m.graded_tree false (Column.text c).le_level_tree trivial i
  | id c m => exact m.graded_tree false (Column.id c).le_level_tree trivial i
  | date d m => exact m.graded_tree true (Nat.le_of_succ_le d.le_level_tree) d.graded_tree i
  | dayDiff earlier later m =>
    exact m.graded_tree false (by simp [dayDiffTree, Expr.level])
      (graded_dayDiffTree earlier later) i
  | assigned yes who =>
    cases yes with
    | true => exact who.graded_tree i
    | false => exact ⟨by simp [Expr.level], who.graded_tree i⟩

end Test

/-! ## Texts -/

theorem tokens?_column (c : Column) : tokens? c.expression.toList = some c.tree.spell := by
  rcases c with c | c | c <;> cases c <;> decide

theorem tokens?_dateSource (d : DateSource) : tokens? d.expression.toList = some d.tree.spell := by
  cases d with
  | column c => cases c <;> decide
  | today => decide

theorem delimits_symbol (c : Comparison) :
    Delimits (" " ++ c.symbol ++ " ").toList [.compare c] := by
  cases c <;> decide

theorem tokens?_dayDiff (earlier later : DateSource) :
    tokens? (Test.dayDiffExpression earlier later).toList =
      some (dayDiffTree earlier later).spell := by
  have hm : Delimits " - ".toList [.minus] := by decide
  -- from the right: the earlier day, the sign, the later day
  have h₁ := Sql.delimits_closing.between (tokens?_dateSource earlier) Sql.tokens?_nil
  have h₂ := hm.between (tokens?_dateSource later) h₁
  have h₃ := Sql.delimits_opening.before h₂
  simpa [Test.dayDiffExpression, dayDiffTree, String.toList_append, List.append_assoc] using h₃

/-! ### Matches -/

namespace Match

variable {α : Type}

/-- The casts behind the places are those of dates, or there are none. -/
structure Binding.Casts (b : Binding α) (dated : Bool) : Prop where
  cast : b.cast = if dated then "::date" else ""
  castMany : b.castMany = if dated then "::date[]" else ""

theorem casts_textBinding : textBinding.Casts false := ⟨rfl, rfl⟩

theorem casts_idBinding : idBinding.Casts false := ⟨rfl, rfl⟩

theorem casts_dateBinding : dateBinding.Casts true := ⟨rfl, rfl⟩

variable {b : Binding α} {dated : Bool} {i : Nat} {rest : List Char} {ts : List Token}

theorem tokens?_place (h : b.Casts dated) (a : α) (ho : Opens rest) (hr : tokens? rest = some ts) :
    tokens? (((b.place a).sql i).toList ++ rest) = some ((placeTree dated i).spell ++ ts) := by
  rw [Binding.place, Sql.Template.sql_hole, Sql.Template.sql_lit, Sql.Template.sql_nil, h.cast]
  cases dated with
  | false => simpa [placeTree] using Sql.tokens?_token_open ho hr
  | true =>
    have hc : tokens? "::date".toList = some [.cast, .name "date"] := by decide
    have hd : tokens? ("::date".toList ++ rest) = some ([.cast, .name "date"] ++ ts) :=
      Sql.tokens?_open ho hc hr
    simpa [placeTree] using
      Sql.tokens?_token_append (n := i) (b := "::date".toList ++ rest) (by simp; decide) hd

theorem tokens?_placeMany (h : b.Casts dated) (as : List α) (ho : Opens rest)
    (hr : tokens? rest = some ts) :
    tokens? (((b.placeMany as).sql i).toList ++ rest) =
      some ((placeManyTree dated i).spell ++ ts) := by
  rw [Binding.placeMany, Sql.Template.sql_hole, Sql.Template.sql_lit, Sql.Template.sql_nil,
    h.castMany]
  cases dated with
  | false => simpa [placeManyTree] using Sql.tokens?_token_open ho hr
  | true =>
    have hc : tokens? "::date[]".toList =
        some [.cast, .name "date", .openBracket, .closeBracket] := by decide
    have hd := Sql.tokens?_open ho hc hr
    simpa [placeManyTree] using
      Sql.tokens?_token_append (n := i) (b := "::date[]".toList ++ rest) (by simp; decide) hd

theorem length_values_place (b : Binding α) (a : α) : (b.place a).values.length = 1 := rfl

theorem tokens?_match (h : b.Casts dated) {e : String} {subject : Expr}
    (he : tokens? e.toList = some subject.spell) (m : Match α) (ho : Opens rest)
    (hr : tokens? rest = some ts) :
    tokens? (((m.template b e).sql i).toList ++ rest) =
      some ((m.tree dated subject i).spell ++ ts) := by
  cases m with
  | compare c a =>
    have := (delimits_symbol c).between he (tokens?_place (i := i) h a ho hr)
    simpa [template, tree, Sql.Template.sql_lit, String.toList_append, List.append_assoc] using this
  | oneOf as =>
    have ha : Delimits " = ANY(".toList [.compare .eq, .key .any, .opening] := by decide
    have hp := tokens?_placeMany (i := i) h as (Sql.delimits_closing.opens_append rest)
      (Sql.delimits_closing.before hr)
    have := ha.between he hp
    simpa [template, tree, Sql.Template.sql_lit, Sql.Template.sql_append, Sql.Template.sql_nil,
      String.toList_append, List.append_assoc] using this
  | between lo hi =>
    have ha : Delimits " AND ".toList [.key .and] := by decide
    have hb : Delimits " BETWEEN ".toList [.key .between] := by decide
    have hh := ha.before (tokens?_place (i := i + 1) h hi ho hr)
    have hl := tokens?_place (i := i) h lo (ha.opens_append _) hh
    have := hb.between he hl
    simpa [template, tree, Sql.Template.sql_lit, Sql.Template.sql_append, length_values_place,
      String.toList_append, List.append_assoc] using this

end Match

/-! ### Tests -/

variable {i : Nat} {rest : List Char} {ts : List Token}

/-- The beginning of the search through the relation. -/
def searchTokens : List Token :=
  [.key .select, .number 1, .key .source, .name "task_assignees", .name "ta", .key .restriction]

theorem tokens?_assignments :
    tokens? Test.assignments.toList = some (searchTokens ++ assignmentTree.spell) := by
  decide

theorem tokens?_assignee (who : Assignee) (hr : tokens? rest = some ts) :
    tokens? (Test.assignments.toList ++ (((Test.assigneeTemplate who).sql i).toList ++
        (")".toList ++ rest))) =
      some (searchTokens ++ ((who.tree i).spell ++ .closing :: ts)) := by
  have hr : tokens? (")".toList ++ rest) = some (.closing :: ts) := Sql.delimits_closing.before hr
  have ho : Opens (")".toList ++ rest) := Sql.delimits_closing.opens_append rest
  cases who with
  | anyone =>
    have := Sql.tokens?_open ho tokens?_assignments hr
    simpa [Test.assigneeTemplate, Sql.Template.sql_nil, Assignee.tree, searchTokens] using this
  | user u =>
    have ha : Delimits " AND ta.user_id = ".toList
        [.key .and, .name "ta", .dot, .name "user_id", .compare .eq] := by decide
    have := ha.between tokens?_assignments (Sql.tokens?_token_open (i := i) ho hr)
    simpa [Test.assigneeTemplate, Sql.Template.sql_lit, Sql.Template.sql_hole,
      Sql.Template.sql_nil, Assignee.tree, searchTokens, String.toList_append,
      List.append_assoc] using this
  | oneOf us =>
    have ha : Delimits " AND ta.user_id = ANY(".toList
        [.key .and, .name "ta", .dot, .name "user_id", .compare .eq, .key .any, .opening] := by
      decide
    have hs := Sql.tokens?_token_open (i := i) (Sql.delimits_closing.opens_append _)
      (Sql.delimits_closing.before hr)
    have := ha.between tokens?_assignments hs
    simpa [Test.assigneeTemplate, Sql.Template.sql_lit, Sql.Template.sql_hole,
      Sql.Template.sql_nil, Assignee.tree, searchTokens, String.toList_append,
      List.append_assoc] using this

namespace Test

theorem tokens?_null (c : Column) (yes : Bool) (ho : Opens rest) (hr : tokens? rest = some ts) :
    tokens? (c.expression.toList ++ ((if yes then " IS NULL" else " IS NOT NULL").toList ++ rest)) =
      some ((Expr.nullTest c.tree yes).spell ++ ts) := by
  have ht : tokens? (if yes then " IS NULL" else " IS NOT NULL").toList =
      some (if yes then [.key .is, .key .null] else [.key .is, .key .not, .key .null]) := by
    cases yes <;> decide
  have := Sql.tokens?_open (Sql.Opens.append (by cases yes <;> decide) (by cases yes <;> decide))
    (tokens?_column c) (Sql.tokens?_open ho ht hr)
  simpa [List.append_assoc] using this

/-- The test as a fragment. -/
def fragment (t : Test) : Sql.Fragment := ⟨t.template, fun i => t.tree i⟩

theorem reads_fragment (t : Test) : t.fragment.Reads := by
  intro i rest ts ho hr
  cases t with
  | null c yes =>
    have := tokens?_null c yes ho hr
    simpa [fragment, template, tree, Sql.Template.sql_lit, Sql.Template.sql_nil,
      String.toList_append, List.append_assoc] using this
  | text c m => exact Match.tokens?_match Match.casts_textBinding (tokens?_column (.text c)) m ho hr
  | id c m => exact Match.tokens?_match Match.casts_idBinding (tokens?_column (.id c)) m ho hr
  | date d m => exact Match.tokens?_match Match.casts_dateBinding (tokens?_dateSource d) m ho hr
  | dayDiff earlier later m =>
    exact Match.tokens?_match Match.casts_idBinding (tokens?_dayDiff earlier later) m ho hr
  | assigned yes who =>
    have hw := tokens?_assignee (i := i) who hr
    cases yes with
    | true =>
      have he : tokens? "EXISTS (".toList = some [.key .existence, .opening] := by decide
      have := Sql.tokens?_closed (by decide) he hw
      simpa [fragment, template, tree, Sql.Template.sql_lit, Sql.Template.sql_append,
        Sql.Template.sql_nil, searchTokens, String.toList_append,
        List.append_assoc] using this
    | false =>
      have he : tokens? "NOT EXISTS (".toList = some [.key .not, .key .existence, .opening] := by
        decide
      have := Sql.tokens?_closed (by decide) he hw
      simpa [fragment, template, tree, Sql.Template.sql_lit, Sql.Template.sql_append,
        Sql.Template.sql_nil, searchTokens, String.toList_append,
        List.append_assoc] using this

theorem stands_fragment (t : Test) : t.fragment.Stands :=
  fun i => ⟨t.le_level_tree i, t.graded_tree i⟩

/-- The text of a test is read as its tree. -/
theorem isReading_test (i : Nat) (t : Test) : Sql.IsReading (t.template.sql i) (t.tree i) :=
  t.reads_fragment.isReading (t.graded_tree i)

/-- A test is not a combination of others. -/
theorem isTest_tree (i : Nat) (t : Test) : (t.tree i).isTest := by
  have matched : ∀ {α : Type} (dated : Bool) (s : Expr) (m : Match α),
      (m.tree dated s i).isTest := by
    intro α dated s m
    cases m <;> rfl
  cases t with
  | null c yes => rfl
  | assigned yes who => cases yes <;> rfl
  | _ => exact matched _ _ _

end Test

end TaskBoard
