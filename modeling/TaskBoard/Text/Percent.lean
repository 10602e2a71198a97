import TaskBoard.Text.Utf8

/-!
# Percent escapes and form fields

In a URL a byte may be written `%XY` with two hexadecimal digits.  A percent sign that
starts no such escape stands for itself.  A query string is a list of `name=value` fields
joined by `&`, in which a plus sign is a blank.

    unescape bs = bs when bs holds no percent sign              (unescape_of_no_percent)
-/

namespace TaskBoard.Percent

/-- The value of a hexadecimal digit. -/
def hexValue? (b : UInt8) : Option UInt8 :=
  if 0x30 ≤ b ∧ b ≤ 0x39 then some (b - 0x30)
  else if 0x41 ≤ b ∧ b ≤ 0x46 then some (b - 0x37)
  else if 0x61 ≤ b ∧ b ≤ 0x66 then some (b - 0x57)
  else none

/-- Replaces every escape by its byte. -/
def unescape : List UInt8 → List UInt8
  | [] => []
  | 0x25 :: h :: l :: rest =>
    match hexValue? h, hexValue? l with
    | some x, some y => (x * 16 + y) :: unescape rest
    | _, _ => 0x25 :: unescape (h :: l :: rest)
  | b :: rest => b :: unescape rest

/-- The text a path segment stands for, if its bytes are UTF-8. -/
def segment? (s : String) : Option String :=
  (Utf8.decode? (unescape (Utf8.bytes s))).map String.ofList

/-- The pieces of a byte sequence between the bytes `sep`. -/
def splitAtByte (sep : UInt8) : List UInt8 → List (List UInt8)
  | [] => [[]]
  | b :: bs =>
    if b = sep then [] :: splitAtByte sep bs
    else match splitAtByte sep bs with
      | [] => [[b]]
      | w :: ws => (b :: w) :: ws

/-- The text of one side of a form field. -/
def fieldText (bs : List UInt8) : String :=
  let blanks := bs.map fun b => if b = 0x2b then 0x20 else b
  String.ofList (Utf8.decodeLossy (unescape blanks))

/-- A form field: its name up to the first equals sign, and its value behind it. -/
def field (bs : List UInt8) : String × String :=
  (fieldText (bs.takeWhile (· ≠ 0x3d)), fieldText ((bs.dropWhile (· ≠ 0x3d)).drop 1))

/-- The fields of a query string, in order; empty ones are skipped. -/
def fields (query : String) : List (String × String) :=
  ((splitAtByte 0x26 (Utf8.bytes query)).filter fun w => !w.isEmpty).map field

/-! ## Lemmas -/

theorem unescape_of_no_percent {bs : List UInt8} (h : 0x25 ∉ bs) : unescape bs = bs := by
  fun_induction unescape bs with
  | case1 => rfl
  | case2 => simp at h
  | case3 => simp at h
  | case4 b rest _ ih => rw [ih (fun hm => h (List.mem_cons_of_mem _ hm))]

end TaskBoard.Percent
