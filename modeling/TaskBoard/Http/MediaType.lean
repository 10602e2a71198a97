import TaskBoard.Http.Message
import TaskBoard.Text.Blank

/-!
# Media types

Whether a `content-type` says that the body is JSON: the type is `application`, and the
subtype is `json` or ends in `+json`.  Parameters may follow, but must be well formed.

    a text without a slash is not JSON                          (isJson_of_no_slash)
-/

namespace TaskBoard.Http.MediaType

/-- The token that a text starts with, and the rest. -/
def spanToken (cs : List Char) : List Char × List Char :=
  (cs.takeWhile isTokenChar, cs.dropWhile isTokenChar)

/-! ## Parameters -/

/-- A character that stands for itself in quotes. -/
def isQuotable (c : Char) : Bool := 0x20 ≤ c.toNat && c.toNat ≠ 0x7f

/-- The rest behind the closing quote. -/
def closeQuote? : List Char → Option (List Char)
  | [] => none
  | '"' :: rest => some rest
  | c :: rest => if isQuotable c then closeQuote? rest else none

/-- The rest behind a quoted value.  Its first character never closes it. -/
def quoted? : List Char → Option (List Char)
  | [] => none
  | c :: rest => if isQuotable c then closeQuote? rest else none

/-- The rest behind the value of a parameter and the semicolon after it; nothing is left
behind the last one. -/
def afterValue? : List Char → Option (List Char)
  | '"' :: cs => (quoted? cs).bind fun rest =>
    match rest.dropWhile (· = ' ') with
    | [] => some []
    | ';' :: more => some more
    | _ => none
  | cs =>
    match spanToken cs with
    | (_, []) => some []
    | (_ :: _, ';' :: more) => some more
    | _ => none

/-- The rest behind one parameter. -/
def afterParameter? (cs : List Char) : Option (List Char) :=
  match spanToken cs with
  | (_ :: _, '=' :: value) => afterValue? value
  | _ => none

/-- Whether the parameters are well formed; `fuel` bounds their number. -/
def parametersFit : Nat → List Char → Bool
  | 0, _ => false
  | fuel + 1, cs =>
    let cs := cs.dropWhile (· = ' ')
    cs.isEmpty || match afterParameter? cs with
      | some rest => parametersFit fuel rest
      | none => false

/-! ## JSON -/

/-- The part of a subtype before its last plus sign, and the part behind it; a plus sign at
the start cuts nothing. -/
def cutSuffix (cs : List Char) : List Char × Option (List Char) :=
  let suffix := (cs.reverse.takeWhile (· ≠ '+')).reverse
  let before := cs.take (cs.length - suffix.length - 1)
  if before.isEmpty ∨ suffix.length = cs.length then (cs, none) else (before, some suffix)

/-- Whether a subtype, in small letters, stands for JSON. -/
def isJsonSubtype (cs : List Char) : Bool :=
  let (before, suffix) := cutSuffix (Text.asciiLower cs)
  before == "json".toList || suffix == some "json".toList

/-- Whether a media type stands for JSON. -/
def isJson (cs : List Char) : Bool :=
  match spanToken cs with
  | (kind, '/' :: rest) =>
    Text.asciiLower kind == "application".toList &&
      match spanToken rest with
      | ([], _) => false
      | (subtype, []) => isJsonSubtype subtype
      | (subtype, c :: more) =>
        c = ';' && isJsonSubtype subtype && parametersFit (more.length + 1) more
  | _ => false

/-! ## Lemmas -/

theorem isJson_of_no_slash {cs : List Char} (h : '/' ∉ cs) : isJson cs = false := by
  unfold isJson spanToken
  split
  · next kind rest hk =>
    simp only [Prod.mk.injEq] at hk
    have : '/' ∈ cs.dropWhile isTokenChar := by rw [hk.2]; exact List.mem_cons_self
    exact absurd ((List.dropWhile_sublist _).subset this) h
  · rfl

end TaskBoard.Http.MediaType
