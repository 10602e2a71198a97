import TaskBoard.Json.Basic

/-!
# JSON documents

What a reader finds in a text, before anybody asks for a value.  A document may be sound only
in part: where the text stops being JSON stands `broken`, and a number too large for a
double, or a string with half of a surrogate pair, is well formed but `valueless`.

So a value is judged where it is asked for.  A member nobody asks for need only be well
formed; a value that is asked for must have all its parts, and nests at most as deep as
`room` allows.

    (ofJson v).value? gives v back                              (value?_ofJson_string)
    a document has a value or a flaw, and not both              (flaw?_eq_none_iff)
-/

namespace TaskBoard.Json

/-- The deepest nesting of arrays and objects that is read. -/
def maxDepth : Nat := 127

/-- Where the reader notices that a document has no value: once the document lies behind it,
or with a part of it still ahead. -/
inductive Flaw
  | behind
  | within
  deriving Repr, DecidableEq

/-- A JSON text as read. -/
inductive Doc
  | null
  | bool (b : Bool)
  | number (n : Number)
  | string (s : String)
  | array (items : List Doc)
  | object (members : List (Option String × Doc))
  /-- A number or a string without a value. -/
  | valueless (flaw : Flaw)
  | broken
  deriving Inhabited

namespace Doc

mutual

/-- Whether the text is JSON throughout. -/
def wellFormed : Doc → Bool
  | .broken => false
  | .array items => allWellFormed items
  | .object members => membersWellFormed members
  | _ => true

def allWellFormed : List Doc → Bool
  | [] => true
  | d :: ds => wellFormed d && allWellFormed ds

def membersWellFormed : List (Option String × Doc) → Bool
  | [] => true
  | (_, d) :: ds => wellFormed d && membersWellFormed ds

end

mutual

/-- The value of a document that may nest `room` levels deep. -/
def value? (room : Nat) : Doc → Option Json
  | .null => some .null
  | .bool b => some (.bool b)
  | .number n => some (.number n)
  | .string s => some (.string s)
  | .array items => match room with
    | 0 => none
    | room + 1 => (values? room items).map .array
  | .object members => match room with
    | 0 => none
    | room + 1 => (memberValues? room members).map fun ms => .object (assign ms)
  | .valueless _ => none
  | .broken => none

def values? (room : Nat) : List Doc → Option (List Json)
  | [] => some []
  | d :: ds => do
    let v ← value? room d
    let vs ← values? room ds
    some (v :: vs)

def memberValues? (room : Nat) : List (Option String × Doc) → Option (List (String × Json))
  | [] => some []
  | (name, d) :: ds => do
    let n ← name
    let v ← value? room d
    let vs ← memberValues? room ds
    some ((n, v) :: vs)

end

mutual

/-- The flaw of a document that may nest `room` levels deep; none if it has a value.  The flaw
of an item is behind the whole array only if the item is the last one. -/
def flaw? (room : Nat) : Doc → Option Flaw
  | .valueless flaw => some flaw
  | .broken => some .within
  | .array items => match room with
    | 0 => some .within
    | room + 1 => itemsFlaw? room items
  | .object members => match room with
    | 0 => some .within
    | room + 1 => membersFlaw? room members
  | _ => none

def itemsFlaw? (room : Nat) : List Doc → Option Flaw
  | [] => none
  | d :: ds => match flaw? room d with
    | none => itemsFlaw? room ds
    | some flaw => if ds.isEmpty then some flaw else some .within

def membersFlaw? (room : Nat) : List (Option String × Doc) → Option Flaw
  | [] => none
  | (none, _) :: _ => some .within
  | (some _, d) :: ds => match flaw? room d with
    | none => membersFlaw? room ds
    | some flaw => if ds.isEmpty then some flaw else some .within

end

mutual

/-- The document of a value. -/
def ofJson : Json → Doc
  | .null => .null
  | .bool b => .bool b
  | .number n => .number n
  | .string s => .string s
  | .array items => .array (ofJsons items)
  | .object members => .object (ofMembers members)

def ofJsons : List Json → List Doc
  | [] => []
  | v :: vs => ofJson v :: ofJsons vs

def ofMembers : List (String × Json) → List (Option String × Doc)
  | [] => []
  | (n, v) :: vs => (some n, ofJson v) :: ofMembers vs

end

/-! ## Lemmas -/

theorem value?_ofJson_string (room : Nat) (s : String) :
    (ofJson (.string s)).value? room = some (.string s) := by
  simp [ofJson, value?]

theorem ofJsons_eq_map (vs : List Json) : ofJsons vs = vs.map ofJson := by
  induction vs with
  | nil => rfl
  | cons v vs ih => simp [ofJsons, ih]

mutual

theorem flaw?_eq_none_iff (room : Nat) (d : Doc) :
    flaw? room d = none ↔ (value? room d).isSome := by
  cases d with
  | array items =>
    cases room with
    | zero => simp [flaw?, value?]
    | succ room => simpa [flaw?, value?] using itemsFlaw?_eq_none_iff room items
  | object members =>
    cases room with
    | zero => simp [flaw?, value?]
    | succ room => simpa [flaw?, value?] using membersFlaw?_eq_none_iff room members
  | _ => simp [flaw?, value?]

theorem itemsFlaw?_eq_none_iff (room : Nat) (ds : List Doc) :
    itemsFlaw? room ds = none ↔ (values? room ds).isSome := by
  cases ds with
  | nil => simp [itemsFlaw?, values?]
  | cons d ds =>
    have hd := flaw?_eq_none_iff room d
    have hds := itemsFlaw?_eq_none_iff room ds
    cases hf : flaw? room d with
    | none =>
      obtain ⟨v, hv⟩ := Option.isSome_iff_exists.1 (hd.1 hf)
      cases hs : values? room ds <;> simp_all [itemsFlaw?, values?]
    | some flaw =>
      have hv : value? room d = none := by simp_all
      simp only [itemsFlaw?, values?, hf, hv]
      split <;> simp

theorem membersFlaw?_eq_none_iff (room : Nat) (ds : List (Option String × Doc)) :
    membersFlaw? room ds = none ↔ (memberValues? room ds).isSome := by
  cases ds with
  | nil => simp [membersFlaw?, memberValues?]
  | cons m ds =>
    obtain ⟨name, d⟩ := m
    have hd := flaw?_eq_none_iff room d
    have hds := membersFlaw?_eq_none_iff room ds
    cases name with
    | none => simp [membersFlaw?, memberValues?]
    | some name =>
      cases hf : flaw? room d with
      | none =>
        obtain ⟨v, hv⟩ := Option.isSome_iff_exists.1 (hd.1 hf)
        cases hs : memberValues? room ds <;> simp_all [membersFlaw?, memberValues?]
      | some flaw =>
        have hv : value? room d = none := by simp_all
        simp only [membersFlaw?, memberValues?, hf, hv]
        split <;> simp

end

end Doc

end TaskBoard.Json
