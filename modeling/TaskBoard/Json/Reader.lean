import TaskBoard.Json.Document
import TaskBoard.Text.Utf8

/-!
# Reading JSON

Turns bytes into a document and the bytes behind it.  Nothing is refused: where the text
stops being JSON the document holds `broken` and reading ends.

A decimal numeral without point and exponent is an integer as long as it fits 64 bits, with
one exception: `-0` is a double.

    readDoc on no bytes is broken                               (ofBytes_nil)
-/

namespace TaskBoard.Json

/-- The blanks between the tokens of a JSON text. -/
def isSpace (b : UInt8) : Bool := b == 0x20 || b == 0x0a || b == 0x0d || b == 0x09

def skipSpace (bs : List UInt8) : List UInt8 := bs.dropWhile isSpace

/-! ## Strings -/

/-- The value of four hexadecimal digits. -/
def codeUnit? (a b c d : UInt8) : Option Nat := do
  let digit (x : UInt8) : Option Nat :=
    if 0x30 ≤ x ∧ x ≤ 0x39 then some (x.toNat - 0x30)
    else if 0x41 ≤ x ∧ x ≤ 0x46 then some (x.toNat - 0x37)
    else if 0x61 ≤ x ∧ x ≤ 0x66 then some (x.toNat - 0x57)
    else none
  let w ← digit a
  let x ← digit b
  let y ← digit c
  let z ← digit d
  some (((w * 16 + x) * 16 + y) * 16 + z)

/-- The character after a backslash, other than `u`. -/
def escaped? (b : UInt8) : Option UInt8 :=
  if b == 0x22 || b == 0x5c || b == 0x2f then some b
  else if b == 0x62 then some 0x08
  else if b == 0x66 then some 0x0c
  else if b == 0x6e then some 0x0a
  else if b == 0x72 then some 0x0d
  else if b == 0x74 then some 0x09
  else none

/-- A byte of a string, or a UTF-16 unit written as an escape. -/
inductive Piece
  | byte (b : UInt8)
  | unit (n : Nat)
  deriving Repr, DecidableEq

/-- The pieces up to the closing quote, and the bytes behind it. -/
def readPieces : List UInt8 → Option (List Piece × List UInt8)
  | [] => none
  | 0x22 :: rest => some ([], rest)
  | 0x5c :: 0x75 :: a :: b :: c :: d :: rest => do
    let n ← codeUnit? a b c d
    let (ps, rest) ← readPieces rest
    some (.unit n :: ps, rest)
  | 0x5c :: e :: rest => do
    let b ← escaped? e
    let (ps, rest) ← readPieces rest
    some (.byte b :: ps, rest)
  | b :: rest =>
    if b < 0x20 then none
    else (readPieces rest).map fun (ps, rest) => (.byte b :: ps, rest)

def isLead (n : Nat) : Bool := 0xd800 ≤ n && n ≤ 0xdbff
def isTrail (n : Nat) : Bool := 0xdc00 ≤ n && n ≤ 0xdfff

/-- The code point of a surrogate pair. -/
def pairCode (hi lo : Nat) : Nat := 0x10000 + (hi - 0xd800) * 0x400 + (lo - 0xdc00)

/-- The bytes of a string, in which no half of a surrogate pair may stand alone.  What follows
a first half is read before that shows, be it the closing quote. -/
def assemble : List Piece → Except Flaw (List UInt8)
  | [] => .ok []
  | .byte b :: ps => (assemble ps).map (b :: ·)
  | .unit hi :: .unit lo :: ps =>
    if isLead hi && isTrail lo then
      (assemble ps).map (String.utf8EncodeChar (Char.ofNat (pairCode hi lo)) ++ ·)
    else if isLead hi || isTrail hi then .error .within
    else (assemble (.unit lo :: ps)).map (String.utf8EncodeChar (Char.ofNat hi) ++ ·)
  | .unit n :: ps =>
    if isTrail n then .error .within
    else if isLead n then .error (if ps.isEmpty then .behind else .within)
    else (assemble ps).map (String.utf8EncodeChar (Char.ofNat n) ++ ·)

/-- The string of the pieces between two quotes.  Whether it is UTF-8 is asked at the end. -/
def stringOf (ps : List Piece) : Except Flaw String := do
  match Utf8.decode? (← assemble ps) with
  | some cs => .ok (String.ofList cs)
  | none => .error .behind

/-- The document of a string. -/
def Doc.ofPieces (ps : List Piece) : Doc :=
  match stringOf ps with
  | .ok s => .string s
  | .error flaw => .valueless flaw

/-- The name of a member; none if it has no value. -/
def nameOf (ps : List Piece) : Option String := (stringOf ps).toOption

/-! ## Numbers -/

/-- The parts of a decimal numeral. -/
structure Lexeme where
  negative : Bool
  whole : List Nat
  fraction : List Nat
  /-- Whether the exponent is negative, and its digits. -/
  exponent : Option (Bool × List Nat)

def isDigitByte (b : UInt8) : Bool := 0x30 ≤ b && b ≤ 0x39

/-- The digits a byte sequence starts with, and the rest. -/
def spanDigits (bs : List UInt8) : List Nat × List UInt8 :=
  ((bs.takeWhile isDigitByte).map fun b => b.toNat - 0x30, bs.dropWhile isDigitByte)

/-- The digits behind a point, if there is one; a point without digits is no numeral. -/
def readFraction : List UInt8 → Option (List Nat × List UInt8)
  | 0x2e :: rest =>
    let (ds, rest) := spanDigits rest
    if ds.isEmpty then none else some (ds, rest)
  | bs => some ([], bs)

/-- The sign of an exponent, whether it is a minus, and what follows it. -/
def readSign : List UInt8 → Bool × List UInt8
  | 0x2b :: rest => (false, rest)
  | 0x2d :: rest => (true, rest)
  | bs => (false, bs)

/-- The exponent behind an `e`, if there is one. -/
def readExponent (bs : List UInt8) : Option (Option (Bool × List Nat) × List UInt8) :=
  match bs with
  | e :: rest =>
    if e == 0x65 || e == 0x45 then
      let (negative, rest) := readSign rest
      let (ds, rest) := spanDigits rest
      if ds.isEmpty then none else some (some (negative, ds), rest)
    else some (none, bs)
  | [] => some (none, [])

/-- Whether a numeral starts with a minus, and what follows it. -/
def readMinus : List UInt8 → Bool × List UInt8
  | 0x2d :: rest => (true, rest)
  | bs => (false, bs)

/-- Whether these digits can stand in front of the point: no zero leads others. -/
def isWhole : List Nat → Bool
  | [] => false
  | [_] => true
  | d :: _ => d ≠ 0

/-- Reads a numeral. -/
def readLexeme (bs : List UInt8) : Option (Lexeme × List UInt8) :=
  let (negative, bs) := readMinus bs
  let (whole, bs) := spanDigits bs
  if isWhole whole then do
    let (fraction, bs) ← readFraction bs
    let (exponent, bs) ← readExponent bs
    some (⟨negative, whole, fraction, exponent⟩, bs)
  else none

/-- Appends digits to a number as long as it fits 64 bits; the number of digits left over. -/
def appendDigits (n : Nat) : List Nat → Nat × Nat
  | [] => (n, 0)
  | d :: ds =>
    if 10 * n + d ≤ Numeral.maxUInt64 then appendDigits (10 * n + d) ds else (n, ds.length + 1)

/-- The greatest exponent that is looked at. -/
def maxExponent : Nat := 2147483647

/-- The number that decimal digits stand for. -/
def ofDigits (ds : List Nat) : Nat := ds.foldl (fun n d => 10 * n + d) 0

/-- The number a numeral stands for, unless it is beyond the greatest double. -/
def Lexeme.number? (l : Lexeme) : Option Number :=
  let sign (x : Double) : Number := .double (if l.negative then x.neg else x)
  let (n, beyond) := appendDigits 0 l.whole
  let double (n : Nat) (e : Int) : Option Number :=
    (Double.ofNat? n).bind fun x => (x.shift10? e).map sign
  if l.fraction.isEmpty ∧ l.exponent.isNone then
    if 0 < beyond then double n beyond
    else if !l.negative then some (.int n)
    else if 1 ≤ n ∧ n ≤ 9223372036854775808 then some (.int (-(n : Int)))
    else double n 0
  else
    let (n, left) := appendDigits n l.fraction
    let shift : Int := (beyond : Int) - ((l.fraction.length : Int) - left)
    match l.exponent with
    | none => double n shift
    | some (negative, ds) =>
      let e := ofDigits ds
      if maxExponent < e then
        if n ≠ 0 ∧ !negative then none else some (sign Double.zero)
      else double n (if negative then shift - e else shift + e)

/-- The flaw of a numeral beyond the greatest double.  An exponent is read no further than the
digit with which it passes the greatest one. -/
def Lexeme.flaw (l : Lexeme) : Flaw :=
  match l.exponent with
  | none => .behind
  | some (_, ds) => if maxExponent < ofDigits ds.dropLast then .within else .behind

/-- The document of a number. -/
def Doc.ofLexeme (l : Lexeme) : Doc :=
  match l.number? with
  | some n => .number n
  | none => .valueless l.flaw

/-! ## Documents -/

mutual

/-- Reads one document; `fuel` bounds the number of steps. -/
def readDoc : Nat → List UInt8 → Doc × List UInt8
  | 0, _ => (.broken, [])
  | fuel + 1, bs => match skipSpace bs with
    | 0x6e :: 0x75 :: 0x6c :: 0x6c :: rest => (.null, rest)
    | 0x74 :: 0x72 :: 0x75 :: 0x65 :: rest => (.bool true, rest)
    | 0x66 :: 0x61 :: 0x6c :: 0x73 :: 0x65 :: rest => (.bool false, rest)
    | 0x22 :: rest => match readPieces rest with
      | none => (.broken, [])
      | some (ps, rest) => (.ofPieces ps, rest)
    | 0x5b :: rest => match skipSpace rest with
      | 0x5d :: rest => (.array [], rest)
      | rest =>
        let (items, rest) := readItems fuel rest
        (.array items, rest)
    | 0x7b :: rest => match skipSpace rest with
      | 0x7d :: rest => (.object [], rest)
      | rest =>
        let (members, rest) := readMembers fuel rest
        (.object members, rest)
    | bs => match readLexeme bs with
      | none => (.broken, [])
      | some (l, rest) => (.ofLexeme l, rest)

/-- Reads the items of an array up to its closing bracket. -/
def readItems : Nat → List UInt8 → List Doc × List UInt8
  | 0, _ => ([.broken], [])
  | fuel + 1, bs =>
    let (d, rest) := readDoc fuel bs
    match skipSpace rest with
    | 0x2c :: rest =>
      let (ds, rest) := readItems fuel rest
      (d :: ds, rest)
    | 0x5d :: rest => ([d], rest)
    | _ => ([d, .broken], [])

/-- Reads the members of an object up to its closing brace. -/
def readMembers : Nat → List UInt8 → List (Option String × Doc) × List UInt8
  | 0, _ => ([(none, .broken)], [])
  | fuel + 1, bs => match skipSpace bs with
    | 0x22 :: rest => match readPieces rest with
      | none => ([(none, .broken)], [])
      | some (ps, rest) => match skipSpace rest with
        | 0x3a :: rest =>
          let (d, rest) := readDoc fuel rest
          match skipSpace rest with
          | 0x2c :: rest =>
            let (ms, rest) := readMembers fuel rest
            ((nameOf ps, d) :: ms, rest)
          | 0x7d :: rest => ([(nameOf ps, d)], rest)
          | _ => ([(nameOf ps, d), (none, .broken)], [])
        | _ => ([(nameOf ps, .broken)], [])
    | _ => ([(none, .broken)], [])

end

namespace Doc

/-- The document a byte sequence starts with, and the bytes behind it. -/
def ofBytes (bs : List UInt8) : Doc × List UInt8 := readDoc (2 * bs.length + 2) bs

/-- Whether nothing but blanks is left. -/
def isEnd (rest : List UInt8) : Bool := rest.all isSpace

/-! ## Lemmas -/

theorem ofBytes_nil : (ofBytes []).1.wellFormed = false := by
  decide +kernel

end Doc

/-- The value of a text that is JSON and nothing else. -/
def ofText? (s : String) : Option Json :=
  let (d, rest) := Doc.ofBytes (Utf8.bytes s)
  if Doc.isEnd rest then d.value? maxDepth else none

end TaskBoard.Json
