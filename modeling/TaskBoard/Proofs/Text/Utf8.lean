import TaskBoard.Text.Utf8

/-!
# UTF-8 there and back

The bytes of a character are of one of four forms, by its number.  In each form the first byte
announces how many follow, and their low bits make up the number again.

    decode (encode cs) = cs.map some                            (decode_encode)
    decode? (encode cs) = some cs                               (decode?_encode)
    bytes s = bytes t only if s = t                             (bytes_inj)
    an ASCII text has one byte for each character               (encode_of_ascii)
-/

namespace TaskBoard.Utf8

/-! ## Forms -/

section

variable {a b c d lo hi : UInt8} (r : List UInt8)

theorem decode_one (ha : a < 0x80) : decode (a :: r) = some (Char.ofNat a.toNat) :: decode r := by
  rw [decode, if_pos ha]

theorem decode_two (ha : ¬ a < 0x80) (hlead : lead a = some (lo, hi, 1)) (hb : lo ≤ b ∧ b ≤ hi) :
    decode (a :: b :: r) = some (Char.ofNat (a.toNat % 32 * 64 + tailBits b)) :: decode r := by
  rw [decode, if_neg ha, hlead]
  simp only [if_pos hb, if_true]

theorem decode_three (ha : ¬ a < 0x80) (hlead : lead a = some (lo, hi, 2)) (hb : lo ≤ b ∧ b ≤ hi)
    (hc : isTail c = true) :
    decode (a :: b :: c :: r) =
      some (Char.ofNat ((a.toNat % 16 * 64 + tailBits b) * 64 + tailBits c)) :: decode r := by
  rw [decode, if_neg ha, hlead]
  simp only [if_pos hb, hc, if_true]
  rfl

theorem decode_four (ha : ¬ a < 0x80) (hlead : lead a = some (lo, hi, 3)) (hb : lo ≤ b ∧ b ≤ hi)
    (hc : isTail c = true) (hd : isTail d = true) :
    decode (a :: b :: c :: d :: r) =
      some (Char.ofNat (((a.toNat % 8 * 64 + tailBits b) * 64 + tailBits c) * 64 + tailBits d)) ::
        decode r := by
  rw [decode, if_neg ha, hlead]
  simp only [if_pos hb, hc, hd, if_true]
  rfl

end

/-! ## Bytes -/

theorem toNat_ofNat_of_lt {n : Nat} (h : n < 256) : (UInt8.ofNat n).toNat = n := by
  rw [UInt8.toNat_ofNat', Nat.mod_eq_of_lt h]

/-- A byte that continues a character, with the low six bits of a number. -/
theorem isTail_ofNat (n : Nat) : isTail (UInt8.ofNat (n % 64 + 128)) = true := by
  have h : n % 64 + 128 < 256 := by omega
  simp only [isTail, UInt8.le_iff_toNat_le, toNat_ofNat_of_lt h, Bool.and_eq_true,
    decide_eq_true_eq]
  exact ⟨by simp, by simp; omega⟩

theorem tailBits_ofNat (n : Nat) : tailBits (UInt8.ofNat (n % 64 + 128)) = n % 64 := by
  have h : n % 64 + 128 < 256 := by omega
  rw [tailBits, toNat_ofNat_of_lt h]
  omega

theorem between_of_isTail {b : UInt8} (h : isTail b = true) : 0x80 ≤ b ∧ b ≤ 0xbf := by
  simpa [isTail] using h

/-- What a byte announces, by its number. -/
theorem lead_ofNat {x : Nat} (h : x < 256) :
    lead (UInt8.ofNat x) =
      if 0xc2 ≤ x ∧ x ≤ 0xdf then some (0x80, 0xbf, 1)
      else if x = 0xe0 then some (0xa0, 0xbf, 2)
      else if x = 0xed then some (0x80, 0x9f, 2)
      else if 0xe1 ≤ x ∧ x ≤ 0xef then some (0x80, 0xbf, 2)
      else if x = 0xf0 then some (0x90, 0xbf, 3)
      else if 0xf1 ≤ x ∧ x ≤ 0xf3 then some (0x80, 0xbf, 3)
      else if x = 0xf4 then some (0x80, 0x8f, 3)
      else none := by
  unfold lead
  simp only [UInt8.le_iff_toNat_le, ← UInt8.toNat_inj, toNat_ofNat_of_lt h]
  rfl

theorem not_lt_ofNat {x : Nat} (h : x < 256) (hx : 0x80 ≤ x) : ¬ UInt8.ofNat x < 0x80 := by
  rw [UInt8.lt_iff_toNat_lt, toNat_ofNat_of_lt h, Nat.not_lt]
  exact hx

theorem between_ofNat {lo hi x : Nat} (hlo : lo ≤ x) (hhi : x ≤ hi) (h : hi < 256) :
    UInt8.ofNat lo ≤ UInt8.ofNat x ∧ UInt8.ofNat x ≤ UInt8.ofNat hi := by
  have hx := Nat.lt_of_le_of_lt hhi h
  rw [UInt8.le_iff_toNat_le, UInt8.le_iff_toNat_le, toNat_ofNat_of_lt h, toNat_ofNat_of_lt hx,
    toNat_ofNat_of_lt (Nat.lt_of_le_of_lt hlo hx)]
  exact ⟨hlo, hhi⟩

/-- The second byte of three.  Behind `0xe0` and `0xed` it may not be any. -/
theorem lead_three {x y : Nat} (hx : 0xe0 ≤ x ∧ x ≤ 0xef) (hy : 0x80 ≤ y ∧ y ≤ 0xbf)
    (hfirst : x = 0xe0 → 0xa0 ≤ y) (hlast : x = 0xed → y ≤ 0x9f) :
    ∃ lo hi, lead (UInt8.ofNat x) = some (lo, hi, 2) ∧
      lo ≤ UInt8.ofNat y ∧ UInt8.ofNat y ≤ hi := by
  rw [lead_ofNat (by omega), if_neg (by omega)]
  split
  · next h => exact ⟨_, _, rfl, between_ofNat (hfirst h) hy.2 (by decide)⟩
  split
  · next h => exact ⟨_, _, rfl, between_ofNat hy.1 (hlast h) (by decide)⟩
  · rw [if_pos (by omega)]
    exact ⟨_, _, rfl, between_ofNat hy.1 hy.2 (by decide)⟩

/-- The second byte of four.  Behind `0xf0` and `0xf4` it may not be any. -/
theorem lead_four {x y : Nat} (hx : 0xf0 ≤ x ∧ x ≤ 0xf4) (hy : 0x80 ≤ y ∧ y ≤ 0xbf)
    (hfirst : x = 0xf0 → 0x90 ≤ y) (hlast : x = 0xf4 → y ≤ 0x8f) :
    ∃ lo hi, lead (UInt8.ofNat x) = some (lo, hi, 3) ∧
      lo ≤ UInt8.ofNat y ∧ UInt8.ofNat y ≤ hi := by
  rw [lead_ofNat (by omega), if_neg (by omega), if_neg (by omega), if_neg (by omega),
    if_neg (by omega)]
  split
  · next h => exact ⟨_, _, rfl, between_ofNat (hfirst h) hy.2 (by decide)⟩
  split
  · exact ⟨_, _, rfl, between_ofNat hy.1 hy.2 (by decide)⟩
  · rw [if_pos (by omega)]
    exact ⟨_, _, rfl, between_ofNat hy.1 (hlast (by omega)) (by decide)⟩

/-! ## Characters -/

/-- The number of a character is none of a surrogate. -/
theorem valid_toNat (c : Char) :
    c.toNat < 0xd800 ∨ (0xdfff < c.toNat ∧ c.toNat < 0x110000) := c.valid

/-- A character is read off its bytes, whatever follows them. -/
theorem decode_utf8EncodeChar (c : Char) (r : List UInt8) :
    decode (String.utf8EncodeChar c ++ r) = some c :: decode r := by
  have hvalid := valid_toNat c
  have hc : ∀ n, n = c.toNat → some (Char.ofNat n) = some c := by
    rintro n rfl
    rw [Char.ofNat_toNat]
  rw [String.utf8EncodeChar, show c.val.toNat = c.toNat from rfl]
  generalize c.toNat = n at hvalid hc ⊢
  split
  · next h1 =>
    have hn := toNat_ofNat_of_lt (show n < 256 by omega)
    have hsmall : UInt8.ofNat n < 0x80 := by
      rw [UInt8.lt_iff_toNat_lt, hn]
      exact Nat.lt_succ_of_le h1
    rw [List.singleton_append, decode_one r hsmall, hc _ hn]
  split
  · next h1 h2 =>
    have hx : n / 64 % 32 + 192 < 256 := by omega
    have hlead := (lead_ofNat hx).trans (if_pos (by omega))
    rw [List.cons_append, List.singleton_append, decode_two r (not_lt_ofNat hx (by omega)) hlead
      (between_of_isTail (isTail_ofNat n)), hc]
    rw [toNat_ofNat_of_lt hx, tailBits_ofNat]
    omega
  split
  · next h1 h2 h3 =>
    have hx : n / 4096 % 16 + 224 < 256 := by omega
    obtain ⟨lo, hi, hlead, hb⟩ := lead_three (x := n / 4096 % 16 + 224) (y := n / 64 % 64 + 128)
      (by omega) (by omega) (by omega) (by omega)
    rw [List.cons_append, List.cons_append, List.singleton_append,
      decode_three r (not_lt_ofNat hx (by omega)) hlead hb (isTail_ofNat n), hc]
    rw [toNat_ofNat_of_lt hx, tailBits_ofNat, tailBits_ofNat]
    omega
  · next h1 h2 h3 =>
    have hx : n / 262144 % 8 + 240 < 256 := by omega
    obtain ⟨lo, hi, hlead, hb⟩ := lead_four (x := n / 262144 % 8 + 240) (y := n / 4096 % 64 + 128)
      (by omega) (by omega) (by omega) (by omega)
    rw [List.cons_append, List.cons_append, List.cons_append, List.singleton_append,
      decode_four r (not_lt_ofNat hx (by omega)) hlead hb (isTail_ofNat _) (isTail_ofNat n), hc]
    rw [toNat_ofNat_of_lt hx, tailBits_ofNat, tailBits_ofNat, tailBits_ofNat]
    omega

/-! ## Texts -/

theorem decode_encode (cs : List Char) : decode (encode cs) = cs.map some := by
  induction cs with
  | nil => rfl
  | cons c cs ih =>
    rw [encode, List.flatMap_cons, decode_utf8EncodeChar]
    exact congrArg _ ih

/-- The bytes of a text are read as the text. -/
theorem decode?_encode (cs : List Char) : decode? (encode cs) = some cs :=
  decode?_eq_some.2 (decode_encode cs)

theorem bytes_inj {s t : String} : bytes s = bytes t ↔ s = t := by
  constructor
  · intro h
    have htext := congrArg decode? h
    rw [bytes, bytes, decode?_encode, decode?_encode, Option.some.injEq] at htext
    exact String.toList_inj.1 htext
  · rintro rfl
    rfl

theorem encode_append (cs ds : List Char) : encode (cs ++ ds) = encode cs ++ encode ds :=
  List.flatMap_append

theorem length_le_encode (cs : List Char) : cs.length ≤ (encode cs).length := by
  induction cs with
  | nil => exact Nat.le_refl 0
  | cons c cs ih =>
    have hc := c.utf8Size_pos
    rw [encode, List.flatMap_cons, List.length_append, String.length_utf8EncodeChar]
    rw [encode] at ih
    rw [List.length_cons]
    omega

theorem length_encode_le (cs : List Char) : (encode cs).length ≤ 4 * cs.length := by
  induction cs with
  | nil => exact Nat.le_refl 0
  | cons c cs ih =>
    have hc := c.utf8Size_le_four
    rw [encode, List.flatMap_cons, List.length_append, String.length_utf8EncodeChar]
    rw [encode] at ih
    rw [List.length_cons]
    omega

theorem length_bytes (s : String) : (bytes s).length = s.utf8ByteSize := by
  conv => rhs; rw [← String.ofList_toList (s := s)]
  show _ = (List.utf8Encode s.toList).size
  rw [List.utf8Encode, List.size_toByteArray]
  rfl

/-! ## ASCII -/

/-- The bytes of ASCII text. -/
def asciiBytes (cs : List Char) : List UInt8 := cs.map fun c => UInt8.ofNat c.toNat

theorem toNat_ofNat_of_ascii {c : Char} (h : c.toNat < 0x80) :
    (UInt8.ofNat c.toNat).toNat = c.toNat :=
  toNat_ofNat_of_lt (by omega)

theorem encode_of_ascii {cs : List Char} (h : ∀ c ∈ cs, c.toNat < 0x80) :
    encode cs = asciiBytes cs := by
  induction cs with
  | nil => rfl
  | cons c cs ih =>
    have hc : c.val.toNat ≤ 127 := Nat.le_of_lt_succ (h c List.mem_cons_self)
    have hone : String.utf8EncodeChar c = [UInt8.ofNat c.toNat] := if_pos hc
    rw [encode, List.flatMap_cons, hone]
    exact congrArg _ (ih fun d hd => h d (List.mem_cons_of_mem _ hd))

theorem length_bytes_of_ascii {s : String} (h : ∀ c ∈ s.toList, c.toNat < 0x80) :
    (bytes s).length = s.length := by
  rw [bytes, encode_of_ascii h, asciiBytes, List.length_map, String.length_toList]

theorem decode?_of_ascii {cs : List Char} (h : ∀ c ∈ cs, c.toNat < 0x80) :
    decode? (asciiBytes cs) = some cs := by
  rw [← encode_of_ascii h, decode?_encode]

end TaskBoard.Utf8
