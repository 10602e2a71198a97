/-!
# UTF-8

Characters as bytes and back.  Bytes that are no character are found piece by piece: each
longest run of bytes that starts a character without finishing it, and each byte that
starts none, stands for one missing character.

    decode? bs = some cs means every piece is a character       (decode?_eq_some)
-/

namespace TaskBoard.Utf8

/-- The bytes of a text. -/
def encode (cs : List Char) : List UInt8 := cs.flatMap String.utf8EncodeChar

/-- The bytes of a string. -/
def bytes (s : String) : List UInt8 := encode s.toList

/-- What a lead byte of two or more bytes announces: the range of the second byte and the
number of bytes that follow. -/
def lead (a : UInt8) : Option (UInt8 × UInt8 × Nat) :=
  if 0xc2 ≤ a ∧ a ≤ 0xdf then some (0x80, 0xbf, 1)
  else if a = 0xe0 then some (0xa0, 0xbf, 2)
  else if a = 0xed then some (0x80, 0x9f, 2)
  else if 0xe1 ≤ a ∧ a ≤ 0xef then some (0x80, 0xbf, 2)
  else if a = 0xf0 then some (0x90, 0xbf, 3)
  else if 0xf1 ≤ a ∧ a ≤ 0xf3 then some (0x80, 0xbf, 3)
  else if a = 0xf4 then some (0x80, 0x8f, 3)
  else none

/-- Whether a byte continues a character. -/
def isTail (b : UInt8) : Bool := 0x80 ≤ b && b ≤ 0xbf

/-- The low six bits of a continuing byte. -/
def tailBits (b : UInt8) : Nat := b.toNat % 64

/-- The characters of a byte sequence, with `none` for each ill-formed piece. -/
def decode : List UInt8 → List (Option Char)
  | [] => []
  | a :: r =>
    if a < 0x80 then some (Char.ofNat a.toNat) :: decode r
    else match lead a with
    | none => none :: decode r
    | some (lo, hi, n) => match r with
      | [] => [none]
      | b :: r₂ =>
        if lo ≤ b ∧ b ≤ hi then
          if n = 1 then some (Char.ofNat (a.toNat % 32 * 64 + tailBits b)) :: decode r₂
          else match r₂ with
          | [] => [none]
          | c :: r₃ =>
            if isTail c then
              if n = 2 then
                some (Char.ofNat ((a.toNat % 16 * 64 + tailBits b) * 64 + tailBits c)) :: decode r₃
              else match r₃ with
              | [] => [none]
              | d :: r₄ =>
                if isTail d then
                  some (Char.ofNat
                    (((a.toNat % 8 * 64 + tailBits b) * 64 + tailBits c) * 64 + tailBits d)) ::
                      decode r₄
                else none :: decode (d :: r₄)
            else none :: decode (c :: r₃)
        else none :: decode (b :: r₂)

/-- The text of a byte sequence, if all of it is UTF-8. -/
def decode? (bs : List UInt8) : Option (List Char) := (decode bs).mapM id

/-- The text of a byte sequence, with `U+FFFD` for each ill-formed piece. -/
def decodeLossy (bs : List UInt8) : List Char := (decode bs).map fun c => c.getD '\ufffd'

/-! ## Lemmas -/

theorem mapM_id_eq_some {cs : List (Option Char)} {ds : List Char} :
    cs.mapM id = some ds ↔ cs = ds.map some := by
  induction cs generalizing ds with
  | nil => cases ds <;> simp
  | cons c cs ih =>
    cases c with
    | none => cases ds <;> simp [List.mapM_cons]
    | some c =>
      cases ds with
      | nil => simp [List.mapM_cons, Option.bind_eq_some_iff]
      | cons d ds =>
        simp only [List.mapM_cons, id_eq, Option.bind_eq_bind, Option.bind_some, Option.pure_def,
          Option.bind_eq_some_iff, Option.some.injEq, List.cons.injEq, List.map_cons]
        constructor
        · intro ⟨a, ha, hc, hd⟩
          exact ⟨hc, ih.1 (hd ▸ ha)⟩
        · intro ⟨hc, hd⟩
          exact ⟨ds, ih.2 hd, hc, rfl⟩

theorem decode?_eq_some {bs : List UInt8} {cs : List Char} :
    decode? bs = some cs ↔ decode bs = cs.map some := mapM_id_eq_some

end TaskBoard.Utf8
