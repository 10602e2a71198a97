import TaskBoard.Proofs.Sql.Token

/-!
# Conditions of SQL

The part of SQL's expressions that a search condition over tasks is made of, as trees.  A
tree is spelled as tokens; parentheses are nodes of their own.  What may stand beside an
operator is a matter of levels: an operand has to bind at least as tightly as its place asks
for, and everything else needs parentheses.

    OR  <  AND  <  NOT  <  comparisons, BETWEEN, IS NULL  <  minus  <  casts  <  the rest

A text is read as a tree if the tree spells it and keeps to the levels.
-/

namespace TaskBoard.Sql

/-- An expression. -/
inductive Expr
  /-- A column of the table that goes by a name. -/
  | column (table name : String)
  | currentDate
  | slot (n : Nat)
  | paren (a : Expr)
  /-- `EXISTS (SELECT 1 FROM table name WHERE a)` -/
  | existence (table name : String) (a : Expr)
  | cast (a : Expr) (type : String)
  /-- `a::type[]` -/
  | castArray (a : Expr) (type : String)
  | minus (a b : Expr)
  | compare (c : Comparison) (a b : Expr)
  /-- A comparison with some element: `a = ANY(b)`. -/
  | compareAny (c : Comparison) (a b : Expr)
  | between (a lo hi : Expr)
  /-- `a IS NULL`, or `a IS NOT NULL`. -/
  | nullTest (a : Expr) (yes : Bool)
  | not (a : Expr)
  | and (a b : Expr)
  | or (a b : Expr)
  deriving Repr, DecidableEq

namespace Expr

/-- The tokens of an expression, from left to right. -/
@[simp] def spell : Expr → List Token
  | column table name => [.name table, .dot, .name name]
  | currentDate => [.key .currentDate]
  | slot n => [.slot n]
  | paren a => .opening :: a.spell ++ [.closing]
  | existence table name a =>
    [.key .existence, .opening, .key .select, .number 1, .key .source, .name table, .name name,
      .key .restriction] ++ a.spell ++ [.closing]
  | cast a type => a.spell ++ [.cast, .name type]
  | castArray a type => a.spell ++ [.cast, .name type, .openBracket, .closeBracket]
  | minus a b => a.spell ++ .minus :: b.spell
  | compare c a b => a.spell ++ .compare c :: b.spell
  | compareAny c a b => a.spell ++ [.compare c, .key .any, .opening] ++ b.spell ++ [.closing]
  | between a lo hi => a.spell ++ .key .between :: lo.spell ++ .key .and :: hi.spell
  | nullTest a yes =>
    a.spell ++ if yes then [.key .is, .key .null] else [.key .is, .key .not, .key .null]
  | not a => .key .not :: a.spell
  | and a b => a.spell ++ .key .and :: b.spell
  | or a b => a.spell ++ .key .or :: b.spell

/-- How tightly an expression binds. -/
def level : Expr → Nat
  | or _ _ => 0
  | and _ _ => 1
  | not _ => 2
  | compare _ _ _ => 3
  | compareAny _ _ _ => 3
  | between _ _ _ => 3
  | nullTest _ _ => 3
  | minus _ _ => 4
  | cast _ _ => 5
  | castArray _ _ => 5
  | _ => 6

/-- Every operand binds tightly enough for its place.  `OR`, `AND` and minus group to the
left. -/
def Graded : Expr → Prop
  | column _ _ => True
  | currentDate => True
  | slot _ => True
  | paren a => a.Graded
  | existence _ _ a => a.Graded
  | cast a _ => 5 ≤ a.level ∧ a.Graded
  | castArray a _ => 5 ≤ a.level ∧ a.Graded
  | minus a b => (4 ≤ a.level ∧ a.Graded) ∧ 5 ≤ b.level ∧ b.Graded
  | compare _ a b => (4 ≤ a.level ∧ a.Graded) ∧ 4 ≤ b.level ∧ b.Graded
  | compareAny _ a b => (4 ≤ a.level ∧ a.Graded) ∧ b.Graded
  | between a lo hi =>
    (4 ≤ a.level ∧ a.Graded) ∧ (4 ≤ lo.level ∧ lo.Graded) ∧ 4 ≤ hi.level ∧ hi.Graded
  | nullTest a _ => 4 ≤ a.level ∧ a.Graded
  | not a => 2 ≤ a.level ∧ a.Graded
  | and a b => (1 ≤ a.level ∧ a.Graded) ∧ 2 ≤ b.level ∧ b.Graded
  | or a b => a.Graded ∧ 1 ≤ b.level ∧ b.Graded

end Expr

/-- The expression `e` is a reading of the text. -/
def IsReading (s : String) (e : Expr) : Prop := tokens? s.toList = some e.spell ∧ e.Graded

end TaskBoard.Sql
