import TaskBoard.Numeral

/-!
# Finite doubles

The finite values of the IEEE 754 format binary64, held exactly: a sign and a number
`mantissa · 2^exponent`.  A quotient of two natural numbers is rounded to the nearest such
value, a tie to the even mantissa.

A decimal numeral is read the fast way: its leading digits, as far as they fit 64 bits,
become a double, which is multiplied or divided once by the double of a power of ten.

    roundHalfEven is within half a unit                         (roundHalfEven_bounds)
-/

namespace TaskBoard

/-- A finite double.  In normal form the mantissa is below `2^53` and the exponent at least
`-1074`, and the mantissa is at least `2^52` unless the exponent is `-1074`. -/
structure Double where
  negative : Bool
  mantissa : Nat
  exponent : Int
  deriving Repr, DecidableEq

open Numeral (twoTo tenTo)

namespace Double

/-- The least exponent of a double. -/
def minExponent : Int := -1074

/-- The greatest exponent of a double. -/
def maxExponent : Int := 971

def zero : Double := ⟨false, 0, minExponent⟩

def neg (x : Double) : Double := { x with negative := !x.negative }

/-- `num / den` to the nearest integer, a tie to the even one. -/
def roundHalfEven (num den : Nat) : Nat :=
  let q := num / den
  let r := num % den
  if 2 * r < den then q
  else if den < 2 * r then q + 1
  else if q % 2 = 0 then q else q + 1

/-- `num · 2^-e / den` as a fraction. -/
def scaled (num den : Nat) (e : Int) : Nat × Nat :=
  if 0 ≤ e then (num, den * twoTo e.toNat) else (num * twoTo (-e).toNat, den)

/-- The mantissa and exponent of the double nearest to `num / den`; none beyond the greatest
double. -/
def nearest? (num den : Nat) : Option (Nat × Int) :=
  if num = 0 then some (0, minExponent)
  else
    let guess : Int := (Nat.log2 num : Int) - Nat.log2 den - 52
    let (n, d) := scaled num den guess
    let e := max (if n < twoTo 52 * d then guess - 1 else guess) minExponent
    let (n, d) := scaled num den e
    let m := roundHalfEven n d
    let (m, e) := if m = twoTo 53 then (twoTo 52, e + 1) else (m, e)
    if maxExponent < e then none else some (m, e)

/-- The value of a double without its sign, as a fraction. -/
def fraction (x : Double) : Nat × Nat :=
  if 0 ≤ x.exponent then (x.mantissa * twoTo x.exponent.toNat, 1)
  else (x.mantissa, twoTo (-x.exponent).toNat)

/-- The double nearest to the fraction, with the given sign. -/
def ofFraction? (negative : Bool) (num den : Nat) : Option Double :=
  (nearest? num den).map fun (m, e) => ⟨negative, m, e⟩

/-- The double nearest to a natural number. -/
def ofNat? (n : Nat) : Option Double := ofFraction? false n 1

/-- The rounded product of the magnitudes. -/
def times? (x y : Double) : Option Double :=
  ofFraction? false (x.fraction.1 * y.fraction.1) (x.fraction.2 * y.fraction.2)

/-- The rounded quotient of the magnitudes. -/
def quotient? (x y : Double) : Option Double :=
  ofFraction? false (x.fraction.1 * y.fraction.2) (x.fraction.2 * y.fraction.1)

/-- The double nearest to `10^k`, for `k ≤ 308`. -/
def powerOfTen (k : Nat) : Double := (ofNat? (tenTo k)).getD zero

/-- `x · 10^exponent`, by one product or quotient with a power of ten; powers below `10^-308`
are divided out `10^308` at a time.  None if the product is beyond the greatest double. -/
def shift10? (x : Double) (exponent : Int) : Option Double :=
  if x.mantissa = 0 then some x
  else if 0 ≤ exponent then
    if exponent ≤ 308 then times? x (powerOfTen exponent.toNat) else none
  else if -308 ≤ exponent then quotient? x (powerOfTen (-exponent).toNat)
  else (quotient? x (powerOfTen 308)).bind fun y => shift10? y (exponent + 308)
termination_by (-exponent).toNat

/-- The integer a double is equal to, if there is one. -/
def toInt? (x : Double) : Option Int :=
  let magnitude : Option Nat :=
    if 0 ≤ x.exponent then some (x.mantissa * twoTo x.exponent.toNat)
    else
      let unit := twoTo (-x.exponent).toNat
      if x.mantissa % unit = 0 then some (x.mantissa / unit) else none
  magnitude.map fun n => if x.negative then -Int.ofNat n else Int.ofNat n

/-! ## Lemmas -/

/-- Rounding to the nearest integer moves a fraction by at most one half. -/
theorem roundHalfEven_bounds (num den : Nat) (h : 0 < den) :
    2 * num ≤ 2 * den * roundHalfEven num den + den ∧
      2 * den * roundHalfEven num den ≤ 2 * num + den := by
  have hq := Nat.div_add_mod num den
  have hr := Nat.mod_lt num h
  unfold roundHalfEven
  simp only
  generalize num / den = q at *
  generalize num % den = r at *
  have e1 : 2 * den * q = 2 * (den * q) := Nat.mul_assoc ..
  have e2 : 2 * den * (q + 1) = 2 * (den * q) + 2 * den := by
    rw [Nat.mul_add, Nat.mul_one, e1]
  split
  · omega
  · split
    · omega
    · split <;> omega

end Double

end TaskBoard
