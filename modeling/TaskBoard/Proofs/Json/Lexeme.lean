import TaskBoard.Json.Reader
import TaskBoard.Proofs.Numeral
import TaskBoard.Proofs.Text.Utf8

/-!
# Numbers there and back

A numeral is read up to the first byte that cannot belong to it, so it is read in front of a
comma or a bracket just as it is read alone.  An integer that fits 64 bits is read as what was
written.  A double need not be: its shortest numeral may have more digits than the fast way of
reading can use.

    a numeral in front of something else                        (readLexeme_append)
    an integer that is read fits 64 bits                        (fits_of_number?)
    an integer that fits 64 bits reads back                     (readsBack_int)
-/

namespace TaskBoard.Json

/-! ## Ends -/

/-- A byte that can belong to a numeral behind its first byte, signs apart. -/
def isNumeralByte (b : UInt8) : Bool :=
  isDigitByte b || b == 0x2e || b == 0x65 || b == 0x45

/-- What may follow a numeral. -/
def Ends (rest : List UInt8) : Prop := ∀ b ∈ rest.head?, isNumeralByte b = false

theorem ends_nil : Ends [] := nofun

theorem ends_cons {b : UInt8} (h : isNumeralByte b = false) (rest : List UInt8) :
    Ends (b :: rest) := by
  rintro _ ⟨⟩
  exact h

section

variable {bs left rest : List UInt8}

/-- Digits end where anything ends. -/
theorem Ends.not_digit (h : Ends rest) : ∀ b ∈ rest.head?, isDigitByte b = false := by
  intro b hb
  have := h b hb
  simp only [isNumeralByte, Bool.or_eq_false_iff] at this
  exact this.1.1.1

theorem dropWhile_append_of_head {α : Type} {p : α → Bool} (as : List α) {bs : List α}
    (h : ∀ b ∈ bs.head?, p b = false) :
    (as ++ bs).dropWhile p = as.dropWhile p ++ bs ∧ (as ++ bs).takeWhile p = as.takeWhile p := by
  induction as with
  | nil =>
    cases bs with
    | nil => exact ⟨rfl, rfl⟩
    | cons b bs =>
      have hb : p b = false := h b rfl
      simp [hb]
  | cons a as ih =>
    by_cases ha : p a = true
    · simp [ha, ih]
    · simp [ha]

theorem spanDigits_append (h : Ends rest) :
    spanDigits (bs ++ rest) = ((spanDigits bs).1, (spanDigits bs).2 ++ rest) := by
  obtain ⟨hdrop, htake⟩ := dropWhile_append_of_head bs h.not_digit
  rw [spanDigits, hdrop, htake]
  rfl

/-- Without a point there is no fraction. -/
theorem readFraction_of_head (h : ∀ b ∈ bs.head?, b ≠ 0x2e) : readFraction bs = some ([], bs) := by
  unfold readFraction
  split
  · exact absurd rfl (h _ rfl)
  · rfl

theorem readFraction_append {ds : List Nat} (hread : readFraction bs = some (ds, left))
    (h : Ends rest) : readFraction (bs ++ rest) = some (ds, left ++ rest) := by
  cases bs with
  | nil =>
    cases hread
    refine readFraction_of_head fun b hb hdot => ?_
    have := h b hb
    rw [hdot] at this
    exact absurd this (by decide)
  | cons b bs =>
    by_cases hdot : b = 0x2e
    · subst hdot
      rw [readFraction] at hread
      rw [List.cons_append, readFraction, spanDigits_append h]
      dsimp only at hread ⊢
      split at hread
      · cases hread
      · next hne =>
        cases hread
        rw [if_neg hne]
    · have hhead : ∀ c ∈ (b :: bs).head?, c ≠ 0x2e := by
        rintro _ ⟨⟩
        exact hdot
      rw [readFraction_of_head hhead] at hread
      cases hread
      rw [readFraction_of_head]
      · exact hhead

theorem readSign_append (hne : bs ≠ []) :
    readSign (bs ++ rest) = ((readSign bs).1, (readSign bs).2 ++ rest) := by
  cases bs with
  | nil => exact absurd rfl hne
  | cons b bs =>
    by_cases hplus : b = 0x2b
    · subst hplus
      rfl
    by_cases hminus : b = 0x2d
    · subst hminus
      rfl
    · rw [List.cons_append, readSign, readSign]
      · rfl
      all_goals simp [hplus, hminus]

theorem readExponent_append {e : Option (Bool × List Nat)}
    (hread : readExponent bs = some (e, left)) (h : Ends rest) :
    readExponent (bs ++ rest) = some (e, left ++ rest) := by
  cases bs with
  | nil =>
    cases hread
    cases rest with
    | nil => rfl
    | cons b rest =>
      have hb := h b rfl
      simp only [isNumeralByte, Bool.or_eq_false_iff] at hb
      rw [List.nil_append, readExponent, hb.1.2, hb.2]
      rfl
  | cons b bs =>
    rw [readExponent] at hread
    rw [List.cons_append, readExponent]
    split at hread
    · next he =>
      dsimp only at hread
      split at hread
      · cases hread
      · next hne =>
        cases hread
        have hbs : bs ≠ [] := by
          rintro rfl
          exact hne rfl
        rw [if_pos he, readSign_append hbs]
        dsimp only
        rw [spanDigits_append h, if_neg hne]
    · next he =>
      cases hread
      rw [if_neg he]
      rfl

theorem readMinus_append (hne : bs ≠ []) :
    readMinus (bs ++ rest) = ((readMinus bs).1, (readMinus bs).2 ++ rest) := by
  cases bs with
  | nil => exact absurd rfl hne
  | cons b bs =>
    by_cases hminus : b = 0x2d
    · subst hminus
      rfl
    · rw [List.cons_append, readMinus, readMinus]
      · rfl
      all_goals simp [hminus]

/-- A numeral in front of something else is read as it is alone. -/
theorem readLexeme_append {l : Lexeme} (hread : readLexeme bs = some (l, left)) (h : Ends rest) :
    readLexeme (bs ++ rest) = some (l, left ++ rest) := by
  have hbs : bs ≠ [] := by
    rintro rfl
    cases hread
  unfold readLexeme at hread ⊢
  rw [readMinus_append hbs]
  dsimp only at hread ⊢
  rw [spanDigits_append h]
  split at hread
  · next hwhole =>
    obtain ⟨⟨fraction, bs'⟩, hfraction, hread⟩ := Option.bind_eq_some_iff.1 hread
    obtain ⟨⟨exponent, bs''⟩, hexponent, hread⟩ := Option.bind_eq_some_iff.1 hread
    cases hread
    rw [if_pos hwhole, readFraction_append hfraction h, Option.bind_eq_bind, Option.bind_some,
      readExponent_append hexponent h]
    rfl
  · cases hread

/-- A numeral starts with a minus or with a digit. -/
theorem head_of_readLexeme {l : Lexeme} (hread : readLexeme bs = some (l, left)) :
    ∃ b ∈ bs.head?, b = 0x2d ∨ isDigitByte b = true := by
  cases bs with
  | nil => cases hread
  | cons b bs =>
    refine ⟨b, rfl, ?_⟩
    by_cases hminus : b = 0x2d
    · exact .inl hminus
    cases hdigit : isDigitByte b with
    | true => exact .inr rfl
    | false =>
      -- there would be no digits at all
      have hspan : (spanDigits (readMinus (b :: bs)).2).1 = [] := by
        rw [readMinus]
        · simp [spanDigits, hdigit]
        · simp [hminus]
      unfold readLexeme at hread
      dsimp only at hread
      rw [hspan] at hread
      cases hread

end

/-! ## Integers -/

/-- A number that fits the format in which it is read. -/
def Number.Fits : Number → Prop
  | .int n => Numeral.minInt64 ≤ n ∧ n ≤ Numeral.maxUInt64
  | .double _ => True

theorem appendDigits_le {n : Nat} (h : n ≤ Numeral.maxUInt64) (ds : List Nat) :
    (appendDigits n ds).1 ≤ Numeral.maxUInt64 := by
  induction ds generalizing n with
  | nil => exact h
  | cons d ds ih =>
    rw [appendDigits]
    split
    · next hd => exact ih hd
    · exact h

/-- An integer that is read fits 64 bits. -/
theorem fits_of_number? {l : Lexeme} {n : Number} (h : l.number? = some n) : n.Fits := by
  have hle := appendDigits_le (Nat.zero_le _) l.whole
  have hdouble : ∀ {x : Option Double} {k : Int},
      (x.bind fun y => (y.shift10? k).map fun z =>
        Number.double (if l.negative then z.neg else z)) = some n → n.Fits := by
    intro x k hx
    obtain ⟨y, -, hy⟩ := Option.bind_eq_some_iff.1 hx
    obtain ⟨z, -, rfl⟩ := Option.map_eq_some_iff.1 hy
    trivial
  unfold Lexeme.number? at h
  dsimp only at h
  split at h
  · split at h
    · exact hdouble h
    · split at h
      · cases h
        exact ⟨by simp only [Numeral.minInt64]; omega, Int.ofNat_le.2 hle⟩
      · split at h
        · next hn =>
          cases h
          simp only [Number.Fits, Numeral.minInt64, Numeral.maxUInt64]
          omega
        · exact hdouble h
  · split at h
    · exact hdouble h
    · split at h
      · split at h
        · cases h
        · cases h
          trivial
      · exact hdouble h

/-- The number is read as it is when its numeral is read, and no more and no less is read. -/
def Number.ReadsBack (n : Number) : Prop :=
  ∃ l, readLexeme (Utf8.bytes n.text) = some (l, []) ∧ l.number? = some n

/-- The value of a digit. -/
def digitOf (c : Char) : Nat := c.toNat - 0x30

theorem digitOf_digitChar {d : Nat} (h : d < 10) : digitOf (Numeral.digitChar d) = d := by
  have : ∀ d : Fin 10, digitOf (Numeral.digitChar d.val) = d.val := by decide
  exact this ⟨d, h⟩

theorem foldl_digits (n : Nat) :
    ((Numeral.digits n).map digitOf).foldl (fun n d => 10 * n + d) 0 = n := by
  induction n using Nat.strongRecOn with
  | ind n ih =>
    rw [Numeral.digits]
    split
    · next hn => simp [digitOf_digitChar hn]
    · next hn =>
      rw [List.map_append, List.foldl_append, ih (n / 10) (by omega)]
      simp only [List.map_cons, List.map_nil, List.foldl_cons, List.foldl_nil,
        digitOf_digitChar (Nat.mod_lt n (by decide : 0 < 10))]
      omega

theorem le_foldl (n : Nat) (ds : List Nat) : n ≤ ds.foldl (fun n d => 10 * n + d) n := by
  induction ds generalizing n with
  | nil => exact Nat.le_refl n
  | cons d ds ih => exact Nat.le_trans (by omega) (ih (10 * n + d))

/-- Digits of a number that fits are all read. -/
theorem appendDigits_of_le {n : Nat} {ds : List Nat}
    (h : ds.foldl (fun n d => 10 * n + d) n ≤ Numeral.maxUInt64) :
    appendDigits n ds = (ds.foldl (fun n d => 10 * n + d) n, 0) := by
  induction ds generalizing n with
  | nil => rfl
  | cons d ds ih =>
    have hle : 10 * n + d ≤ Numeral.maxUInt64 := Nat.le_trans (le_foldl _ ds) h
    rw [appendDigits, if_pos hle]
    exact ih h

theorem appendDigits_digits {n : Nat} (h : n ≤ Numeral.maxUInt64) :
    appendDigits 0 ((Numeral.digits n).map digitOf) = (n, 0) := by
  have hfold := foldl_digits n
  rw [appendDigits_of_le (by rwa [hfold]), hfold]

/-- The first digit of a number with more than one is not zero. -/
theorem head_digits {n : Nat} (h : 0 < n) :
    ∃ d ds, (Numeral.digits n).map digitOf = d :: ds ∧ d ≠ 0 := by
  induction n using Nat.strongRecOn with
  | ind n ih =>
    rw [Numeral.digits]
    split
    · next hn => exact ⟨n, [], by simp [digitOf_digitChar hn], by omega⟩
    · next hn =>
      obtain ⟨d, ds, hds, hd⟩ := ih (n / 10) (by omega) (by omega)
      exact ⟨d, _, by rw [List.map_append, hds]; rfl, hd⟩

theorem isWhole_digits (n : Nat) : isWhole ((Numeral.digits n).map digitOf) = true := by
  rcases Nat.eq_zero_or_pos n with rfl | h
  · rw [Numeral.digits]
    rfl
  · obtain ⟨d, ds, hds, hd⟩ := head_digits h
    rw [hds]
    cases ds with
    | nil => rfl
    | cons e ds => simp [isWhole, hd]

/-! ### Bytes -/

theorem ascii_of_mem_digits {n : Nat} {c : Char} (h : c ∈ Numeral.digits n) :
    c.toNat < 0x80 := by
  obtain ⟨d, rfl⟩ := Numeral.exists_of_mem_digits h
  have hall : ∀ d : Fin 10, (Numeral.digitChar d).toNat < 0x80 := by decide
  exact hall d

theorem isDigitByte_of_mem_digits {n : Nat} {b : UInt8}
    (h : b ∈ Utf8.asciiBytes (Numeral.digits n)) : isDigitByte b = true := by
  obtain ⟨c, hc, rfl⟩ := List.mem_map.1 h
  obtain ⟨d, rfl⟩ := Numeral.exists_of_mem_digits hc
  have hall : ∀ d : Fin 10, isDigitByte (UInt8.ofNat (Numeral.digitChar d).toNat) = true := by
    decide
  exact hall d

theorem spanDigits_digits (n : Nat) :
    spanDigits (Utf8.encode (Numeral.digits n)) = ((Numeral.digits n).map digitOf, []) := by
  have hall : ∀ b ∈ Utf8.asciiBytes (Numeral.digits n), isDigitByte b = true :=
    fun b => isDigitByte_of_mem_digits
  have hbytes : (Utf8.asciiBytes (Numeral.digits n)).map (fun b => b.toNat - 0x30) =
      (Numeral.digits n).map digitOf := by
    rw [Utf8.asciiBytes, List.map_map]
    refine List.map_congr_left fun c hc => ?_
    show (UInt8.ofNat c.toNat).toNat - 0x30 = digitOf c
    rw [Utf8.toNat_ofNat_of_ascii (ascii_of_mem_digits hc)]
    rfl
  rw [Utf8.encode_of_ascii fun c hc => ascii_of_mem_digits hc, spanDigits, ← hbytes]
  rw [← List.append_nil (Utf8.asciiBytes (Numeral.digits n)), List.takeWhile_append_of_pos hall,
    List.dropWhile_append_of_pos hall]
  simp

theorem readMinus_digits (n : Nat) :
    readMinus (Utf8.encode (Numeral.digits n)) = (false, Utf8.encode (Numeral.digits n)) := by
  have hhead : ∀ b ∈ Utf8.encode (Numeral.digits n), b ≠ 0x2d := by
    rintro b hb rfl
    rw [Utf8.encode_of_ascii fun c hc => ascii_of_mem_digits hc] at hb
    exact absurd (isDigitByte_of_mem_digits hb) (by decide)
  unfold readMinus
  split
  · next hbytes => exact absurd rfl (hhead _ (hbytes ▸ List.mem_cons_self))
  · rfl

/-- The digits of a number are a numeral without a sign, a point or an exponent. -/
theorem readLexeme_digits (n : Nat) :
    readLexeme (Utf8.encode (Numeral.digits n)) =
      some (⟨false, (Numeral.digits n).map digitOf, [], none⟩, []) := by
  rw [readLexeme, readMinus_digits]
  dsimp only
  rw [spanDigits_digits, if_pos (isWhole_digits n)]
  rfl

theorem readLexeme_minus_digits (n : Nat) :
    readLexeme (0x2d :: Utf8.encode (Numeral.digits n)) =
      some (⟨true, (Numeral.digits n).map digitOf, [], none⟩, []) := by
  rw [readLexeme, readMinus]
  dsimp only
  rw [spanDigits_digits, if_pos (isWhole_digits n)]
  rfl

theorem number?_digits {n : Nat} (h : n ≤ Numeral.maxUInt64) :
    Lexeme.number? ⟨false, (Numeral.digits n).map digitOf, [], none⟩ = some (.int n) := by
  unfold Lexeme.number?
  dsimp only
  rw [appendDigits_digits h]
  rfl

theorem number?_minus_digits {n : Nat} (h : 1 ≤ n ∧ n ≤ 9223372036854775808) :
    Lexeme.number? ⟨true, (Numeral.digits n).map digitOf, [], none⟩ = some (.int (-n)) := by
  unfold Lexeme.number?
  dsimp only
  rw [appendDigits_digits (Nat.le_trans h.2 (by decide))]
  exact if_pos h

/-- An integer that fits 64 bits reads back. -/
theorem readsBack_int {n : Int} (h : (Number.int n).Fits) : (Number.int n).ReadsBack := by
  obtain ⟨hmin, hmax⟩ := h
  simp only [Numeral.minInt64, Numeral.maxUInt64] at hmin hmax
  unfold Number.ReadsBack
  rw [Number.text, Numeral.text, Utf8.bytes, String.toList_ofList, Numeral.ofInt]
  split
  · next hneg =>
    have hn : -(n.natAbs : Int) = n := by omega
    refine ⟨_, readLexeme_minus_digits n.natAbs, ?_⟩
    rw [number?_minus_digits (by omega), hn]
  · next hpos =>
    have hn : (n.natAbs : Int) = n := by omega
    refine ⟨_, readLexeme_digits n.natAbs, ?_⟩
    rw [number?_digits (by rw [Numeral.maxUInt64]; omega), hn]

end TaskBoard.Json
