import TaskBoard.Calendar.Timestamp
import TaskBoard.Proofs.Calendar.Date
import TaskBoard.Proofs.Sql.Truth
import TaskBoard.Sql.Template

/-!
# Values of SQL expressions

An expression has a value in an environment: the rows in scope, the tables, the values of the
placeholders and the day of the query.  A value has a type, and may be `NULL`.  An expression
that puts values of the wrong types together is refused and has no value, and so is one that
casts a text to a date which is none.

Comparing with `NULL` is unknown.  The days of the calendar are counted, so that the
difference of two days is a number.  Which texts are dates is for the database to say: it takes
`YYYY-MM-DD` from the year 1 on, but no year with a sign.

    the value of a AND b is that of a and that of b             (eval_and)
    a day is cast from its text iff its year is 1 to 9999       (day?_text)
-/

namespace TaskBoard

/-! ## Comparing -/

namespace Comparison

/-- Whether two values compare so, in an order given by `lt`. -/
def holds {α : Type} [DecidableEq α] (lt : α → α → Bool) : Comparison → α → α → Bool
  | .eq, a, b => a = b
  | .ne, a, b => a ≠ b
  | .lt, a, b => lt a b
  | .le, a, b => !lt b a
  | .gt, a, b => lt b a
  | .ge, a, b => !lt a b

/-- The same in SQL, where either value may be missing. -/
def truth {α : Type} [DecidableEq α] (lt : α → α → Bool) (c : Comparison) :
    Option α → Option α → Sql.Truth
  | some a, some b => .ofBool (c.holds lt a b)
  | _, _ => .unknown

end Comparison

/-- The difference of two numbers, if neither is missing. -/
def difference (a b : Option Int) : Option Int := do
  let x ← a
  let y ← b
  some (x - y)

/-- The order of numbers. -/
def intBefore (a b : Int) : Bool := a < b

/-- The years of which a database takes `YYYY-MM-DD` for a day. -/
def Date.IsCastable (d : Date) : Prop := 1 ≤ d.year ∧ d.year ≤ 9999

instance (d : Date) : Decidable d.IsCastable := by unfold Date.IsCastable; infer_instance

namespace Sql

/-! ## Dates -/

/-- How a database takes dates.  The rules are those of PostgreSQL, as far as texts are concerned
that are `YYYY-MM-DD`, or have digits and dashes alone behind a sign. -/
structure Dates where
  /-- The number of a day. -/
  number : Date → Int
  /-- The number of the day of a text; none if the text is refused. -/
  day? : String → Option Int
  /-- The days are counted one by one. -/
  next {d : Date} (h : d.IsValid) : number d.next = number d + 1
  /-- `YYYY-MM-DD` is the day that it spells, but there is no year zero. -/
  plain {s : String} {d : Date} (hform : Date.IsPlain s.toList) (hs : Date.Spells s.toList d) :
    day? s = if 1 ≤ d.year then some (number d) else none
  /-- Digits and dashes behind a sign may be the offset of a time, but are no date. -/
  signed {s : String} {c : Char} {cs : List Char} (hs : s.toList = c :: cs)
    (hc : c = '+' ∨ c = '-') (h : ∀ e ∈ cs, Numeral.isDigit e = true ∨ e = '-') : day? s = none

namespace Dates

/-- A text with all its digits made zeros. -/
def shape (cs : List Char) : List Char := cs.map fun c => if Numeral.isDigit c then '0' else c

theorem shape_of_isPlain {cs : List Char} (h : Date.IsPlain cs) :
    shape cs = "0000-00-00".toList := by
  obtain @⟨y, m, n, hy, hm, hn, hdigits⟩ := h
  have hzeros (part : List Char) (hsub : part ⊆ y ++ m ++ n) :
      shape part = List.replicate part.length '0' := by
    refine List.eq_replicate_iff.2 ⟨List.length_map _, fun c hc => ?_⟩
    obtain ⟨e, he, rfl⟩ := List.mem_map.1 hc
    exact if_pos (hdigits e (hsub he))
  have hparts : shape (y ++ '-' :: (m ++ '-' :: n)) =
      shape y ++ '-' :: (shape m ++ '-' :: shape n) := by
    simp [shape, show Numeral.isDigit '-' = false from rfl]
  rw [hparts, hzeros y (by simp), hzeros m (by simp), hzeros n (by simp), hy, hm, hn]
  rfl

/-- Days are counted from 1970-01-01, and texts of no other form are taken. -/
def iso : Dates where
  number := Date.toDayNumber
  day? s :=
    if shape s.toList = "0000-00-00".toList then
      (Date.read? s.toList).bind fun d => if 1 ≤ d.year then some d.toDayNumber else none
    else none
  next := Date.toDayNumber_next
  plain hform hs := by
    rw [if_pos (shape_of_isPlain hform), Date.read?_of_spells hs]
    rfl
  signed {s c cs} hs hc _ := by
    rw [hs]
    refine if_neg fun h => ?_
    have hfirst := (List.cons.inj h).1
    rcases hc with rfl | rfl <;> revert hfirst <;> decide

/-- A day is cast from its text exactly if its year is one from 1 to 9999. -/
theorem day?_text (dates : Dates) {d : Date} (h : d.IsValid) :
    dates.day? d.text = if d.IsCastable then some (dates.number d) else none := by
  have hspells : Date.Spells d.text.toList d := by
    rw [Date.text, String.toList_ofList]
    exact Date.spells_render h
  by_cases hyear : 0 ≤ d.year ∧ d.year ≤ 9999
  · have hform : Date.IsPlain d.text.toList := by
      rw [Date.text, String.toList_ofList]
      exact (Date.isPlain_render_iff h).2 hyear
    rw [dates.plain hform hspells]
    exact if_congr (by simp only [Date.IsCastable]; omega) rfl rfl
  · rw [if_neg (by simp only [Date.IsCastable]; omega)]
    have hrender : d.text.toList = (if d.year < 0 then '-' else '+') ::
        (Numeral.padded 4 d.year.natAbs ++ '-' :: Numeral.padded 2 d.month ++ '-' ::
          Numeral.padded 2 d.day) := by
      rw [Date.text, String.toList_ofList, Date.render, Date.yearText, if_neg hyear]
      simp
    refine dates.signed hrender (by split <;> simp) fun e he => ?_
    simp only [List.mem_append, List.mem_cons] at he
    rcases he with (he | rfl | he) | rfl | he
    · exact .inl (Numeral.isDigit_of_mem_padded he)
    · exact .inr rfl
    · exact .inl (Numeral.isDigit_of_mem_padded he)
    · exact .inr rfl
    · exact .inl (Numeral.isDigit_of_mem_padded he)

end Dates

/-! ## Values -/

/-- A value of some type; nothing is `NULL`. -/
inductive Datum
  | truth (v : Truth)
  | text (s : Option String)
  | int (n : Option Int)
  /-- A day, by its number. -/
  | day (n : Option Int)
  | instant (t : Option Timestamp)
  | texts (ss : List String)
  | ints (ns : List Int)
  | days (ns : List Int)
  deriving Repr, DecidableEq

namespace Datum

def ofValue : Value → Datum
  | .scalar (.text s) => .text (some s)
  | .scalar (.bigint n) => .int (some n)
  | .series (.texts ss) => .texts ss
  | .series (.bigints ns) => .ints ns

def isNull : Datum → Bool
  | .truth v => v = .unknown
  | .text s => s.isNone
  | .int n => n.isNone
  | .day n => n.isNone
  | .instant t => t.isNone
  | _ => false

/-- The truth of a condition; a value of another type has none. -/
def truth? : Datum → Option Truth
  | .truth v => some v
  | _ => none

/-- `a c b`; texts are ordered by `before`. -/
def compare? (before : String → String → Bool) (c : Comparison) : Datum → Datum → Option Truth
  | .text a, .text b => some (c.truth before a b)
  | .int a, .int b => some (c.truth intBefore a b)
  | .day a, .day b => some (c.truth intBefore a b)
  | _, _ => none

/-- `a c ANY(bs)` -/
def compareAny? (before : String → String → Bool) (c : Comparison) : Datum → Datum → Option Truth
  | .text a, .texts bs => some (.any (bs.map fun b => c.truth before a (some b)))
  | .int a, .ints bs => some (.any (bs.map fun b => c.truth intBefore a (some b)))
  | .day a, .days bs => some (.any (bs.map fun b => c.truth intBefore a (some b)))
  | _, _ => none

def minus? : Datum → Datum → Option Datum
  | .int a, .int b => some (.int (difference a b))
  | .day a, .day b => some (.int (difference a b))
  | _, _ => none

/-- `a::date`; the day of a point in time is given by `dayOf`. -/
def toDay? (dates : Dates) (dayOf : Timestamp → Int) : Datum → Option Datum
  | .text none => some (.day none)
  | .text (some s) => (dates.day? s).map fun n => .day (some n)
  | .instant t => some (.day (t.map dayOf))
  | .day n => some (.day n)
  | _ => none

/-- `a::date[]` -/
def toDays? (dates : Dates) : Datum → Option Datum
  | .texts ss => (ss.mapM dates.day?).map .days
  | .days ns => some (.days ns)
  | _ => none

end Datum

/-! ## Evaluation -/

/-- A row, by the names of its columns. -/
abbrev Row := String → Option Datum

structure Env where
  /-- The day of the query, by its number. -/
  today : Int
  dayOf : Timestamp → Int
  dates : Dates
  /-- The order of texts. -/
  before : String → String → Bool
  table : String → Option (List Row)
  /-- The rows in scope, by the names that the query gives them. -/
  row : String → Option Row
  /-- The values of the placeholders. -/
  param : Nat → Option Value

/-- The environment with one more row in scope. -/
def Env.withRow (env : Env) (name : String) (r : Row) : Env :=
  { env with row := fun n => if n = name then some r else env.row n }

namespace Expr

/-- The value of an expression, unless it is refused. -/
def eval (env : Env) : Expr → Option Datum
  | column table name => (env.row table).bind fun r => r name
  | currentDate => some (.day (some env.today))
  | slot n => (env.param n).map Datum.ofValue
  | paren a => a.eval env
  | existence table name a => do
    let rows ← env.table table
    let vs ← rows.mapM fun r => (a.eval (env.withRow name r)).bind Datum.truth?
    some (.truth (.ofBool (vs.any (· = .yes))))
  | cast a type =>
    if type = "date" then (a.eval env).bind (Datum.toDay? env.dates env.dayOf) else none
  | castArray a type =>
    if type = "date" then (a.eval env).bind (Datum.toDays? env.dates) else none
  | minus a b => do
    let x ← a.eval env
    let y ← b.eval env
    x.minus? y
  | compare c a b => do
    let x ← a.eval env
    let y ← b.eval env
    (Datum.compare? env.before c x y).map .truth
  | compareAny c a b => do
    let x ← a.eval env
    let y ← b.eval env
    (Datum.compareAny? env.before c x y).map .truth
  | between a lo hi => do
    let x ← a.eval env
    let l ← lo.eval env
    let h ← hi.eval env
    let above ← Datum.compare? env.before .ge x l
    let below ← Datum.compare? env.before .le x h
    some (.truth (above.and below))
  | nullTest a yes => (a.eval env).map fun x => .truth (.ofBool (x.isNull == yes))
  | not a => do
    let x ← (← a.eval env).truth?
    some (.truth x.not)
  | and a b => do
    let x ← (← a.eval env).truth?
    let y ← (← b.eval env).truth?
    some (.truth (x.and y))
  | or a b => do
    let x ← (← a.eval env).truth?
    let y ← (← b.eval env).truth?
    some (.truth (x.or y))

theorem eval_and {env : Env} {a b : Expr} {x y : Truth} (ha : a.eval env = some (.truth x))
    (hb : b.eval env = some (.truth y)) : (and a b).eval env = some (.truth (x.and y)) := by
  simp [eval, ha, hb, Datum.truth?]

end Expr

end Sql

end TaskBoard
