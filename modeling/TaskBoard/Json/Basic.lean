import TaskBoard.Number.Shortest

/-!
# JSON values

A number is an integer of at most 64 bits or a finite double, and the two never mix: `1` is
an integer and `1.0` a double.  The members of an object have distinct names and keep the
order in which the names first came; a later value replaces an earlier one.

    (put ms name v).map Prod.fst keeps the names it had                      (names_put)
-/

namespace TaskBoard

/-- A JSON number. -/
inductive Json.Number
  | int (n : Int)
  | double (x : Double)
  deriving Repr, DecidableEq

/-- A JSON value. -/
inductive Json
  | null
  | bool (b : Bool)
  | number (n : Json.Number)
  | string (s : String)
  | array (items : List Json)
  | object (members : List (String × Json))
  deriving Inhabited

namespace Json

/-- The integer value of a number that is written as one and fits 64 signed bits. -/
def Number.int64? : Number → Option Int
  | .int n => Numeral.int64? n
  | .double _ => none

/-- A number as text: an integer in decimal, a double in its shortest form. -/
def Number.text : Number → String
  | .int n => Numeral.text n
  | .double x => x.text

/-- An integer as a value. -/
def ofInt (n : Int) : Json := .number (.int n)

/-- A natural number as a value. -/
def ofNat (n : Nat) : Json := .number (.int n)

/-- A value that may be missing; `null` stands for that. -/
def ofOption {α : Type} (f : α → Json) : Option α → Json
  | none => .null
  | some a => f a

/-- A string that may be missing. -/
def ofString? (s : Option String) : Json := ofOption .string s

/-- A list of strings. -/
def ofStrings (ss : List String) : Json := .array (ss.map .string)

/-- Sets one member, in its old place if the name is there and at the end otherwise. -/
def put : List (String × Json) → String → Json → List (String × Json)
  | [], name, v => [(name, v)]
  | (n, w) :: ms, name, v => if n = name then (n, v) :: ms else (n, w) :: put ms name v

/-- The members that the assignments `ms` leave behind. -/
def assign (ms : List (String × Json)) : List (String × Json) :=
  ms.foldl (fun acc m => put acc m.1 m.2) []

/-- The member of a value with this name. -/
def member? : Json → String → Option Json
  | .object ms, name => ms.lookup name
  | _, _ => none

/-! ## Lemmas -/

theorem names_put (ms : List (String × Json)) (name : String) (v : Json) :
    (put ms name v).map Prod.fst =
      if name ∈ ms.map Prod.fst then ms.map Prod.fst else ms.map Prod.fst ++ [name] := by
  induction ms with
  | nil => simp [put]
  | cons m ms ih =>
    obtain ⟨n, w⟩ := m
    by_cases h : n = name
    · simp [put, h]
    · have h' : ¬ name = n := fun e => h e.symm
      simp only [put, if_neg h, List.map_cons, ih, List.mem_cons, h', false_or]
      split <;> simp

end Json

end TaskBoard
