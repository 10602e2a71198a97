import TaskBoard.Number.Double
import TaskBoard.Numeral

/-!
# The shortest decimal of a double

Of all decimals that round to a given double, those with the fewest digits are wanted, and
among them the one nearest to it.  For each number of digits it is enough to try the two
neighbours of the double on that decimal grid: if any point of the grid rounds to the
double, one of these two does.

Written out, a decimal is positional when its leading digit stands between `10^-5` and
`10^15`, and always has a point then; otherwise it has an exponent.
-/

namespace TaskBoard.Double

open Numeral (twoTo tenTo)

/-- A double's magnitude and the ends of the interval of reals that round to it, over one
denominator. -/
structure Interval where
  low : Nat
  value : Nat
  high : Nat
  den : Nat
  closed : Bool

/-- The interval of the reals that round to `x`.  Below a power of two the next double is only
half as far away.  The ends belong to it when the mantissa is even. -/
def interval (x : Double) : Interval :=
  let below := if x.mantissa = twoTo 52 ∧ minExponent < x.exponent then 1 else 2
  let up := twoTo x.exponent.toNat
  let down := twoTo (-x.exponent).toNat
  { low := (4 * x.mantissa - below) * up
    value := 4 * x.mantissa * up
    high := (4 * x.mantissa + 2) * up
    den := 4 * down
    closed := x.mantissa % 2 = 0 }

/-- Whether the number `a · 10^k` rounds to the double of the interval. -/
def Interval.holds (i : Interval) (a : Nat) (k : Int) : Bool :=
  let point := a * tenTo k.toNat * i.den
  let scale := tenTo (-k).toNat
  if i.closed then i.low * scale ≤ point && point ≤ i.high * scale
  else i.low * scale < point && point < i.high * scale

/-- The greatest `p` with `10^p` at most the value, which must not be zero. -/
def Interval.magnitude (i : Interval) : Int :=
  if i.den ≤ i.value then ((Numeral.digits (i.value / i.den)).length : Int) - 1
  else
    -- the reciprocal, rounded up, has as many digits as the value has zeros in front
    -((Numeral.digits ((i.den + i.value - 1) / i.value - 1)).length : Int)

/-- The nearest grid point of `n` digits that rounds to the double, if one does, as a number
and a power of ten. -/
def Interval.withDigits? (i : Interval) (n : Nat) : Option (Nat × Int) :=
  let k : Int := i.magnitude - (n : Int) + 1
  let num := i.value * tenTo (-k).toNat
  let den := i.den * tenTo k.toNat
  let a := num / den
  let twice := 2 * (num % den)
  match i.holds a k, i.holds (a + 1) k with
  | true, true =>
    if twice < den ∨ (twice = den ∧ a % 2 = 0) then some (a, k) else some (a + 1, k)
  | true, false => some (a, k)
  | false, true => some (a + 1, k)
  | false, false => none

/-- Searches the grids of `n`, `n + 1`, … digits, `fuel` of them. -/
def Interval.search (i : Interval) (n : Nat) : Nat → Nat × Int
  | 0 => (i.value / i.den, 0)
  | fuel + 1 => match i.withDigits? n with
    | some r => r
    | none => i.search (n + 1) fuel

/-- Drops the zeros a number ends with, counting them. -/
def stripZeros (a : Nat) (k : Int) : Nat → Nat × Int
  | 0 => (a, k)
  | fuel + 1 => if a ≠ 0 ∧ a % 10 = 0 then stripZeros (a / 10) (k + 1) fuel else (a, k)

/-- The digits of the shortest decimal of a double's magnitude, and the power of ten of its
last digit.  Seventeen digits always suffice. -/
def shortest (x : Double) : List Char × Int :=
  if x.mantissa = 0 then (['0'], 0)
  else
    let (a, k) := x.interval.search 1 17
    let (a, k) := stripZeros a k 20
    (Numeral.digits a, k)

/-- Digits whose last one stands at `10^k`, in positional notation with a point. -/
def positional (ds : List Char) (k : Int) : List Char :=
  if 0 ≤ k then ds ++ List.replicate k.toNat '0' ++ ['.', '0']
  else
    let places := (-k).toNat
    if places < ds.length then
      ds.take (ds.length - places) ++ '.' :: ds.drop (ds.length - places)
    else '0' :: '.' :: (List.replicate (places - ds.length) '0' ++ ds)

/-- Digits whose first one stands at `10^p`, with an exponent. -/
def scientific (ds : List Char) (p : Int) : List Char :=
  let fraction := match ds.drop 1 with
    | [] => []
    | more => '.' :: more
  ds.take 1 ++ fraction ++ 'e' :: (if p < 0 then '-' else '+') :: Numeral.digits p.natAbs

/-- A double in the shortest decimal that reads back as it. -/
def text (x : Double) : String :=
  let (ds, k) := x.shortest
  let p := k + (ds.length : Int) - 1
  let body := if -5 ≤ p ∧ p ≤ 15 then positional ds k else scientific ds p
  String.ofList (if x.negative then '-' :: body else body)

end TaskBoard.Double
