import TaskBoard.Json.Basic

/-!
# Printing JSON

The compact form: no blanks between the tokens, and in a string only the quote, the
backslash and the control characters are escaped.

    render of a string starts and ends with a quote             (renderString_head)
-/

namespace TaskBoard.Json

/-- A character inside a string. -/
def escape (c : Char) : List Char :=
  if c = '"' then ['\\', '"']
  else if c = '\\' then ['\\', '\\']
  else if c = '\n' then ['\\', 'n']
  else if c = '\r' then ['\\', 'r']
  else if c = '\t' then ['\\', 't']
  else if c = '\x08' then ['\\', 'b']
  else if c = '\x0c' then ['\\', 'f']
  else if c.toNat < 0x20 then
    ['\\', 'u', '0', '0', Nat.digitChar (c.toNat / 16), Nat.digitChar (c.toNat % 16)]
  else [c]

def renderString (s : String) : List Char := '"' :: s.toList.flatMap escape ++ ['"']

mutual

/-- A value in compact form. -/
def render : Json → List Char
  | .null => ['n', 'u', 'l', 'l']
  | .bool true => ['t', 'r', 'u', 'e']
  | .bool false => ['f', 'a', 'l', 's', 'e']
  | .number n => n.text.toList
  | .string s => renderString s
  | .array items => '[' :: renderItems items ++ [']']
  | .object members => '{' :: renderMembers members ++ ['}']

def renderItems : List Json → List Char
  | [] => []
  | [v] => render v
  | v :: vs => render v ++ ',' :: renderItems vs

def renderMembers : List (String × Json) → List Char
  | [] => []
  | [(n, v)] => renderString n ++ ':' :: render v
  | (n, v) :: vs => renderString n ++ ':' :: render v ++ ',' :: renderMembers vs

end

/-- A value as a string. -/
def text (v : Json) : String := String.ofList (render v)

/-! ## Lemmas -/

theorem renderString_head (s : String) :
    (renderString s).head? = some '"' ∧ (renderString s).getLast? = some '"' :=
  ⟨rfl, List.getLast?_concat⟩

end TaskBoard.Json
