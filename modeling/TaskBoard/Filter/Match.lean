import TaskBoard.Filter.Field
import TaskBoard.Filter.Operator
import TaskBoard.Filter.Literal
import TaskBoard.Sql.Template

/-!
# Matches

What a value may be compared with: one value, a list of which it must be one, or two ends
between which it must lie.  A match is read from an operator and the JSON values that go
with it; the operator fixes how many there must be.

    a range binds its two ends, the lower one first             (values_template_between)
-/

namespace TaskBoard

/-- A condition on one value. -/
inductive Match (α : Type)
  | compare (op : Comparison) (a : α)
  | oneOf (as : List α)
  | between (lo hi : α)
  deriving Repr, DecidableEq

namespace Match

/-- The values of a match, in the order of its text. -/
def values {α : Type} : Match α → List α
  | .compare _ a => [a]
  | .oneOf as => as
  | .between lo hi => [lo, hi]

/-- The match that an operator and its values stand for, each value read by `read`. -/
def ofValues? {α : Type} (read : Json → Option α) : Operator → List Json → Option (Match α)
  | .compare op, [v] => (read v).map (.compare op)
  | .oneOf, v :: vs => ((v :: vs).mapM read).map .oneOf
  | .between, [lo, hi] => do
    let lo ← read lo
    let hi ← read hi
    some (.between lo hi)
  | _, _ => none

/-! ## SQL -/

/-- How the values of one type are bound: alone and as a list, and the cast written behind
the placeholder of each. -/
structure Binding (α : Type) where
  one : α → Sql.Scalar
  many : List α → Sql.Series
  cast : String
  castMany : String

/-- The place of one value. -/
def Binding.place {α : Type} (b : Binding α) (a : α) : Sql.Template :=
  [.hole (.scalar (b.one a)), .lit b.cast]

/-- The place of a list. -/
def Binding.placeMany {α : Type} (b : Binding α) (as : List α) : Sql.Template :=
  [.hole (.series (b.many as)), .lit b.castMany]

def textBinding : Binding String := ⟨.text, .texts, "", ""⟩

def idBinding : Binding Int := ⟨.bigint, .bigints, "", ""⟩

/-- Dates are bound as text. -/
def dateBinding : Binding Date :=
  ⟨fun d => .text d.text, fun ds => .texts (ds.map Date.text), "::date", "::date[]"⟩

/-- The match of an expression in SQL. -/
def template {α : Type} (b : Binding α) (expression : String) : Match α → Sql.Template
  | .compare op a => .lit (expression ++ " " ++ op.symbol ++ " ") :: b.place a
  | .oneOf as => .lit (expression ++ " = ANY(") :: b.placeMany as ++ [.lit ")"]
  | .between lo hi =>
    .lit (expression ++ " BETWEEN ") :: b.place lo ++ .lit " AND " :: b.place hi

/-! ## Lemmas -/

theorem values_template_between {α : Type} (b : Binding α) (e : String) (lo hi : α) :
    (template b e (.between lo hi)).values = [.scalar (b.one lo), .scalar (b.one hi)] := rfl

end Match

end TaskBoard
