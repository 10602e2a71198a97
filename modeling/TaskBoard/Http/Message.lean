import TaskBoard.Http.Target
import TaskBoard.Json.Basic
import TaskBoard.Text.Percent

/-!
# Requests and responses

A request as it arrives: its target cut into path and query, its header values as bytes, its
body as bytes.  A response has a status, headers and a JSON body or none.

    a header that is taken keeps its value                      (header?_name_of_some)
-/

namespace TaskBoard.Http

/-- A request. -/
structure Request where
  method : String
  /-- The path as it is written, with its escapes. -/
  path : String
  query : String
  /-- Names in small letters, in the order of the request. -/
  headers : List (String × List UInt8)
  body : List UInt8

/-- A response. -/
structure Response where
  status : Nat
  headers : List (String × String)
  body : Option Json

/-- A response with a JSON body. -/
def Response.json (status : Nat) (body : Json) : Response := ⟨status, [], some body⟩

/-- A response without a body. -/
def Response.bare (status : Nat) : Response := ⟨status, [], none⟩

/-! ## Characters of the head -/

/-- A character of a method or of a header's name. -/
def isTokenChar (c : Char) : Bool :=
  c.isAlphanum ||
    [0x21, 0x23, 0x24, 0x25, 0x26, 0x27, 0x2a, 0x2b, 0x2d, 0x2e, 0x5e, 0x5f, 0x60, 0x7c, 0x7e].contains
      c.toNat

def isToken (s : String) : Bool := !s.isEmpty && s.toList.all isTokenChar

/-- A byte of a header's value. -/
def isValueByte (b : UInt8) : Bool := (0x20 ≤ b && b != 0x7f) || b == 0x09

/-! ## Building -/

/-- A header with a proper name and value. -/
def header? (h : String × String) : Option (String × List UInt8) :=
  let value := Utf8.bytes h.2
  if isToken h.1 ∧ value.all isValueByte then
    some (String.ofList (h.1.toList.map Char.toLower), value)
  else none

/-- The request of these parts, if each of them can stand in one. -/
def Request.build? (method target : String) (headers : List (String × String)) (body : List UInt8) :
    Option Request := do
  let ⟨path, query⟩ ← Target.ofText? target
  let headers ← headers.mapM header?
  if isToken method then some ⟨method, path, query, headers, body⟩ else none

/-! ## Reading the head -/

/-- The first header of this name. -/
def Request.header? (r : Request) (name : String) : Option (List UInt8) := r.headers.lookup name

/-- All values of the headers of this name. -/
def Request.allHeaders (r : Request) (name : String) : List (List UInt8) :=
  r.headers.filterMap fun h => if h.1 = name then some h.2 else none

/-- The text of a value that holds visible ASCII, blanks and tabs only. -/
def visibleText? (bs : List UInt8) : Option (List Char) :=
  if bs.all fun b => (0x20 ≤ b && b < 0x7f) || b == 0x09 then
    some (bs.map fun b => Char.ofNat b.toNat)
  else none

/-! ## Lemmas -/

theorem header?_name_of_some {h : String × String} {g : String × List UInt8}
    (hg : header? h = some g) : isToken h.1 = true ∧ g.2 = Utf8.bytes h.2 := by
  unfold header? at hg
  dsimp only at hg
  split at hg
  · next hc => cases hg; exact ⟨hc.1, rfl⟩
  · cases hg

end TaskBoard.Http
