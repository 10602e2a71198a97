import TaskBoard.Numeral

/-!
# SQL text with values in their places

A statement is written with its values in the places where they belong.  Numbering it turns
each value into a placeholder `$n`, counted from a first index, and lists the values in the
order of their placeholders.  The text of a value never becomes part of the SQL.

    the slots of (number i t) are i, i + 1, …, one for each value   (slots_number)
-/

namespace TaskBoard.Sql

/-- A value bound to one placeholder that stands for a single value. -/
inductive Scalar
  | text (s : String)
  | bigint (n : Int)
  deriving Repr, DecidableEq

/-- A list bound to one placeholder as an array. -/
inductive Series
  | texts (ss : List String)
  | bigints (ns : List Int)
  deriving Repr, DecidableEq

/-- A value bound to one placeholder. -/
inductive Value
  | scalar (v : Scalar)
  | series (vs : Series)
  deriving Repr, DecidableEq

/-- A part of SQL text: fixed text of this library, or a place with its value. -/
inductive Part
  | lit (s : String)
  | hole (v : Value)
  deriving Repr, DecidableEq

abbrev Template := List Part

/-- A part of numbered SQL text: fixed text, or the placeholder `$n`. -/
inductive Piece
  | lit (s : String)
  | slot (n : Nat)
  deriving Repr, DecidableEq

abbrev Phrase := List Piece

/-- The text of a placeholder. -/
def token (n : Nat) : String := "$" ++ Numeral.natText n

def Piece.text : Piece → String
  | .lit s => s
  | .slot n => token n

/-- The text of a phrase. -/
def Phrase.text (p : Phrase) : String := String.join (p.map Piece.text)

/-- The placeholder numbers of a phrase, from left to right. -/
def Phrase.slots (p : Phrase) : List Nat :=
  p.filterMap fun
    | .slot n => some n
    | .lit _ => none

namespace Template

/-- The values of a template, from left to right. -/
def values (t : Template) : List Value :=
  t.filterMap fun
    | .hole v => some v
    | .lit _ => none

/-- The template with its places numbered from `i` on. -/
def number (i : Nat) : Template → Phrase
  | [] => []
  | .lit s :: ps => .lit s :: number i ps
  | .hole _ :: ps => .slot i :: number (i + 1) ps

/-- The SQL text of a template whose first placeholder is `$i`. -/
def sql (i : Nat) (t : Template) : String := (t.number i).text

/-- The templates with `sep` between each two. -/
def joined (sep : String) : List Template → Template
  | [] => []
  | [t] => t
  | t :: ts => t ++ .lit sep :: joined sep ts

/-- The template in parentheses. -/
def inParens (t : Template) : Template := .lit "(" :: t ++ [.lit ")"]

end Template

/-! ## Placeholders one by one -/

/-- A run of placeholders: the index of the first one, and the values bound so far. -/
structure Slots where
  first : Nat
  values : List Value
  deriving Repr, DecidableEq

namespace Slots

/-- Placeholders count from one, so a start of zero is one. -/
def startingAt (start : Nat) : Slots := ⟨max start 1, []⟩

/-- The index that the next value gets. -/
def next (s : Slots) : Nat := s.first + s.values.length

/-- Binds a value to the next placeholder. -/
def bind (s : Slots) (v : Value) : Slots := { s with values := s.values ++ [v] }

end Slots

/-! ## Lemmas -/

theorem Template.slots_number (i : Nat) (t : Template) :
    (t.number i).slots = List.range' i t.values.length := by
  induction t generalizing i with
  | nil => rfl
  | cons p ps ih =>
    cases p with
    | lit s => simpa [Template.number, Phrase.slots, Template.values] using ih i
    | hole v =>
      have := ih (i + 1)
      simp only [Phrase.slots, Template.values] at this
      simp [Template.number, Phrase.slots, Template.values, this, List.range'_succ]

theorem Slots.next_bind (s : Slots) (v : Value) : (s.bind v).next = s.next + 1 := by
  simp [bind, next]; omega

end TaskBoard.Sql
