/-!
# Decimal numerals

Numbers written in decimal, read back with an optional sign, and the bounds of the
fixed-width integers they are read into.

    readNat? (digits n) = some n                                (readNat?_digits)
-/

namespace TaskBoard.Numeral

/-! ## Bounds -/

/-- The least and the greatest signed 64-bit integer. -/
def minInt64 : Int := -9223372036854775808
def maxInt64 : Int := 9223372036854775807

/-- The greatest unsigned integers of 16, 32 and 64 bits. -/
def maxUInt16 : Nat := 65535
def maxUInt32 : Nat := 4294967295
def maxUInt64 : Nat := 18446744073709551615

/-- `n`, if it is a signed 64-bit integer. -/
def int64? (n : Int) : Option Int := if minInt64 ≤ n ∧ n ≤ maxInt64 then some n else none

/-! ## Powers -/

/-- A power of two. -/
def twoTo (k : Nat) : Nat := Nat.pow 2 k

/-- A power of ten. -/
def tenTo (k : Nat) : Nat := Nat.pow 10 k

/-! ## Writing -/

/-- The character of a decimal digit. -/
def digitChar (d : Nat) : Char := Char.ofNat (48 + d)

/-- The decimal digits of `n`, most significant first. -/
def digits (n : Nat) : List Char :=
  if n < 10 then [digitChar n] else digits (n / 10) ++ [digitChar (n % 10)]
termination_by n

/-- An integer in decimal, with a minus sign when it is negative. -/
def ofInt (n : Int) : List Char :=
  if n < 0 then '-' :: digits n.natAbs else digits n.natAbs

/-- `digits`, filled up with zeros to at least `width` characters. -/
def padded (width n : Nat) : List Char :=
  List.replicate (width - (digits n).length) '0' ++ digits n

/-- `ofInt` as a string. -/
def text (n : Int) : String := String.ofList (ofInt n)

/-- `digits` as a string. -/
def natText (n : Nat) : String := String.ofList (digits n)

/-- The hexadecimal digits of `n` in small letters, most significant first. -/
def hexDigits (n : Nat) : List Char :=
  if n < 16 then [Nat.digitChar n] else hexDigits (n / 16) ++ [Nat.digitChar (n % 16)]
termination_by n

/-! ## Reading -/

/-- The value of an ASCII digit. -/
def digitValue? (c : Char) : Option Nat :=
  if '0' ≤ c ∧ c ≤ '9' then some (c.toNat - 48) else none

/-- Whether a character is an ASCII digit. -/
def isDigit (c : Char) : Bool := (digitValue? c).isSome

/-- Reads digits onto the number `acc` already read. -/
def readOnto (acc : Nat) : List Char → Option Nat
  | [] => some acc
  | c :: cs => (digitValue? c).bind fun d => readOnto (10 * acc + d) cs

/-- One or more ASCII digits, and nothing else. -/
def readNat? : List Char → Option Nat
  | [] => none
  | cs => readOnto 0 cs

/-- Digits with an optional plus sign, up to `max`. -/
def readUnsigned? (max : Nat) (cs : List Char) : Option Nat :=
  let body := match cs with
    | '+' :: rest => rest
    | _ => cs
  (readNat? body).filter (· ≤ max)

/-- Digits with an optional sign. -/
def readInt? : List Char → Option Int
  | '+' :: cs => (readNat? cs).map Int.ofNat
  | '-' :: cs => (readNat? cs).map fun n => -Int.ofNat n
  | cs => (readNat? cs).map Int.ofNat

/-- Digits with an optional sign, within the signed 64-bit integers. -/
def readInt64? (cs : List Char) : Option Int := (readInt? cs).bind int64?

/-- Digits with an optional plus sign whose value is from 1 to the greatest 64-bit integer. -/
def readPositive? (cs : List Char) : Option Int := (readInt64? cs).filter (0 < ·)

/-! ## Lemmas -/

theorem digitValue?_digitChar {d : Nat} (h : d < 10) : digitValue? (digitChar d) = some d := by
  have : ∀ d : Fin 10, digitValue? (digitChar d.val) = some d.val := by decide
  exact this ⟨d, h⟩

theorem readOnto_append (acc : Nat) (cs ds : List Char) :
    readOnto acc (cs ++ ds) = (readOnto acc cs).bind fun n => readOnto n ds := by
  induction cs generalizing acc with
  | nil => rfl
  | cons c cs ih =>
    simp only [List.cons_append, readOnto]
    cases digitValue? c with
    | none => rfl
    | some d => simpa using ih _

theorem readOnto_zero_digits (n : Nat) : readOnto 0 (digits n) = some n := by
  induction n using Nat.strongRecOn with
  | ind n ih =>
    rw [digits]
    split
    · next h => simp [readOnto, digitValue?_digitChar h]
    · next h =>
      rw [readOnto_append, ih (n / 10) (by omega)]
      have hd := digitValue?_digitChar (Nat.mod_lt n (by decide : 0 < 10))
      simp only [Option.bind_some, readOnto, hd]
      congr 1
      omega

theorem digits_ne_nil (n : Nat) : digits n ≠ [] := by
  rw [digits]
  split <;> simp

theorem readNat?_digits (n : Nat) : readNat? (digits n) = some n := by
  have h := readOnto_zero_digits n
  cases hd : digits n with
  | nil => exact absurd hd (digits_ne_nil n)
  | cons c cs =>
    rw [hd] at h
    exact h

end TaskBoard.Numeral
