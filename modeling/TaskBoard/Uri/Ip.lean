import TaskBoard.Numeral
import TaskBoard.Text.Blank

/-!
# Addresses as text

An IPv4 address is four decimal numbers up to 255 with points between.  An IPv6 address is
eight groups of up to four hexadecimal digits with colons between; the last two groups may
be written as an IPv4 address, and one run of zero groups may be left out as `::`.

    the loopback addresses are addresses                        (isV4_loopback, isV6_loopback)
-/

namespace TaskBoard.Uri

/-- A number up to 255 without leading zeros. -/
def isOctet (cs : List Char) : Bool :=
  match Numeral.readNat? cs with
  | some n => decide (n ≤ 255) && decide (Numeral.digits n = cs)
  | none => false

def isV4 (cs : List Char) : Bool :=
  let parts := Text.split (· == '.') cs
  parts.length == 4 && parts.all isOctet

/-- One to four hexadecimal digits. -/
def isHexGroup (cs : List Char) : Bool :=
  decide (1 ≤ cs.length ∧ cs.length ≤ 4) &&
    cs.all fun c => ('0' ≤ c && c ≤ '9') || ('a' ≤ c && c ≤ 'f') || ('A' ≤ c && c ≤ 'F')

/-- How many groups a sequence of parts holds; an IPv4 address at the end counts as two. -/
def groups? : List (List Char) → Option Nat
  | [] => some 0
  | [p] => if isHexGroup p then some 1 else if isV4 p then some 2 else none
  | p :: ps => if isHexGroup p then (groups? ps).map (· + 1) else none

/-- The groups of one side of `::`, or of an address without it; nothing is no group. -/
def side? (cs : List Char) : Option Nat :=
  if cs.isEmpty then some 0 else groups? (Text.split (· == ':') cs)

/-- The parts of a text before and after the first `::`. -/
def splitGap : List Char → Option (List Char × List Char)
  | ':' :: ':' :: rest => some ([], rest)
  | c :: rest => (splitGap rest).map fun (a, b) => (c :: a, b)
  | [] => none

def isV6 (cs : List Char) : Bool :=
  match splitGap cs with
  | none => groups? (Text.split (· == ':') cs) == some 8
  | some (front, back) =>
    match side? front, side? back with
    | some m, some n => decide (m + n ≤ 7) && !front.contains '.'
    | _, _ => false

/-! ## Lemmas -/

theorem isV4_loopback : isV4 ['1', '2', '7', '.', '0', '.', '0', '.', '1'] = true := by
  decide +kernel

theorem isV6_loopback : isV6 [':', ':', '1'] = true := by
  decide +kernel

end TaskBoard.Uri
