import TaskBoard.Numeral

/-!
# SipHash-1-3

The short keyed hash SipHash with one round per word and three at the end, under the key
zero.  It serves as a checksum here.

    with nothing left, only the length is taken in              (absorbAll_short)
-/

namespace TaskBoard.SipHash

/-- The four words of the running hash. -/
structure State where
  v0 : UInt64
  v1 : UInt64
  v2 : UInt64
  v3 : UInt64
  deriving Repr, DecidableEq

/-- The state for the key zero. -/
def State.initial : State :=
  ⟨0x736f6d6570736575, 0x646f72616e646f6d, 0x6c7967656e657261, 0x7465646279746573⟩

def rotateLeft (x n : UInt64) : UInt64 := (x <<< n) ||| (x >>> (64 - n))

def State.round (s : State) : State :=
  let v0 := s.v0 + s.v1
  let v1 := rotateLeft s.v1 13 ^^^ v0
  let v0 := rotateLeft v0 32
  let v2 := s.v2 + s.v3
  let v3 := rotateLeft s.v3 16 ^^^ v2
  let v0 := v0 + v3
  let v3 := rotateLeft v3 21 ^^^ v0
  let v2 := v2 + v1
  let v1 := rotateLeft v1 17 ^^^ v2
  let v2 := rotateLeft v2 32
  ⟨v0, v1, v2, v3⟩

/-- Takes in one word. -/
def State.absorb (s : State) (m : UInt64) : State :=
  let t := State.round { s with v3 := s.v3 ^^^ m }
  { t with v0 := t.v0 ^^^ m }

/-- The little-endian word of at most eight bytes. -/
def wordOf (bs : List UInt8) : UInt64 := bs.foldr (fun b w => (w <<< 8) ||| b.toUInt64) 0

/-- Takes in whole words, and then the rest with the length of all in the top byte. -/
def absorbAll (length : Nat) (s : State) : List UInt8 → State
  | a :: b :: c :: d :: e :: f :: g :: h :: rest =>
    absorbAll length (s.absorb (wordOf [a, b, c, d, e, f, g, h])) rest
  | rest => s.absorb (wordOf rest ||| (UInt64.ofNat length <<< 56))

/-- The hash of a byte sequence. -/
def hash (bs : List UInt8) : UInt64 :=
  let s := absorbAll bs.length .initial bs
  let t := State.round (State.round (State.round { s with v2 := s.v2 ^^^ 0xff }))
  t.v0 ^^^ t.v1 ^^^ t.v2 ^^^ t.v3

/-- The hash in hexadecimal, without leading zeros. -/
def text (bs : List UInt8) : String := String.ofList (Numeral.hexDigits (hash bs).toNat)

/-! ## Lemmas -/

theorem absorbAll_short (length : Nat) (s : State) :
    absorbAll length s [] = s.absorb (UInt64.ofNat length <<< 56) := by
  simp [absorbAll, wordOf]

end TaskBoard.SipHash
