import TaskBoard.Text.Utf8
import TaskBoard.Uri.Basic

/-!
# Request targets

What the line of a request asks for.  It has one of four forms: a path with a query, a whole
address (`http://host/path?query`), a host alone, or `*`.  Only the path and the query count;
what follows a `#` is dropped.

    a path without a query is its own target                    (ofText?_root)
-/

namespace TaskBoard.Http

/-- Path and query as they are written, with their escapes. -/
structure Target where
  path : String
  query : String
  deriving Repr, DecidableEq

namespace Target

/-! ## Path and query -/

/-- A byte that may stand in a path. -/
def isPathByte (b : UInt8) : Bool :=
  b == 0x21 || b == 0x22 || (0x24 ≤ b && b ≤ 0x3b) || b == 0x3d || (0x40 ≤ b && b ≤ 0x5f) ||
    (0x61 ≤ b && b ≠ 0x60)

/-- A byte that may stand in a query. -/
def isQueryByte (b : UInt8) : Bool :=
  b == 0x21 || (0x24 ≤ b && b ≤ 0x3b) || b == 0x3d || 0x3f ≤ b

/-- Path and query of a text without a host.  An empty path is the root. -/
def ofPath? (cs : List Char) : Option Target :=
  let (path, query) := Uri.pathAndQuery cs
  if (Utf8.encode path).all isPathByte ∧ (Utf8.encode query).all isQueryByte then
    some ⟨if path.isEmpty then "/" else String.ofList path, String.ofList query⟩
  else none

/-! ## User, host and socket -/

/-- A character without a meaning of its own in the part with user and host. -/
def isPlain (c : Char) : Bool :=
  c.isAlphanum || "!$&'()*+,-.;=_~".toList.contains c

/-- What counts of the part with user and host read so far. -/
structure Scan where
  /-- The colons since the last `@` or `]`. -/
  colons : Nat
  opened : Bool
  closed : Bool
  /-- Whether there is an escape since the last `@` or `]`. -/
  escaped : Bool
  /-- Whether `@` came last. -/
  afterUser : Bool

def Scan.start : Scan := ⟨0, false, false, false, false⟩

/-- The most colons in a row of fields. -/
def maxColons : Nat := 8

/-- Reads one more character. -/
def Scan.step? (s : Scan) (c : Char) : Option Scan :=
  let s := { s with afterUser := false }
  if c = ':' then
    if s.colons < maxColons then some { s with colons := s.colons + 1 } else none
  else if c = '[' then
    if s.opened || s.escaped then none else some { s with opened := true }
  else if c = ']' then
    if !s.opened || s.closed then none
    else some { s with closed := true, colons := 0, escaped := false }
  else if c = '@' then some { s with colons := 0, escaped := false, afterUser := true }
  else if c = '%' then some { s with escaped := true }
  else if isPlain c then some s
  else none

/-- Whether the part may end here: brackets are closed, a host follows the user, has no
escapes and at most one socket. -/
def Scan.fits (s : Scan) : Bool :=
  s.opened == s.closed && s.colons ≤ 1 && !s.afterUser && !s.escaped

/-- Whether a text is a host, perhaps with a user before it and a socket behind it. -/
def isAuthority (cs : List Char) : Bool :=
  !cs.isEmpty && ((cs.foldlM Scan.step? .start).map Scan.fits).getD false

/-! ## All forms -/

/-- The longest scheme. -/
def maxScheme : Nat := 64

def isSchemeChar (c : Char) : Bool := Uri.isSchemeChar c || c == '~'

/-- The target of an address without its scheme. -/
def ofAuthority? (cs : List Char) : Option Target :=
  if isAuthority (cs.takeWhile (!Uri.endsAuthority ·)) then
    ofPath? (cs.dropWhile (!Uri.endsAuthority ·))
  else none

/-- The target in a text that does not start with a slash. -/
def ofAddress? (cs : List Char) : Option Target :=
  match cs.dropWhile isSchemeChar with
  | ':' :: '/' :: '/' :: rest =>
    if (cs.takeWhile isSchemeChar).length ≤ maxScheme then ofAuthority? rest else none
  | _ => if isAuthority cs then some ⟨"", ""⟩ else none

/-- The longest target in bytes. -/
def maxLength : Nat := 65534

/-- The target that a text is. -/
def ofText? (s : String) : Option Target :=
  if maxLength < s.utf8ByteSize then none
  else
    match s.toList with
    | ['*'] => some ⟨"*", ""⟩
    | '/' :: rest => ofPath? ('/' :: rest)
    | cs => ofAddress? cs

/-! ## Lemmas -/

theorem ofText?_root : ofText? "/" = some ⟨"/", ""⟩ := by
  decide +kernel

end Target

end TaskBoard.Http
