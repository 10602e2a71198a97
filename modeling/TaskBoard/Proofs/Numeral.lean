import Mathlib.Data.Nat.Digits.Defs
import TaskBoard.Numeral

/-!
# Digits

What the digits of a number are, how many there are, and that zeros in front of them do not
change the number.  No two numbers have the same digits.

    ofInt m = ofInt n only if m = n                             (ofInt_inj)
    readNat? (padded w n) = some n                              (readNat?_padded)
    (padded w n).length = w if n < 10 ^ w                       (length_padded)
    readNat? cs = some n only if n < 10 ^ cs.length             (lt_of_readNat?)
    readNat? ds = some n iff n is the value of the digits       (readNat?_eq_some_iff)
    readInt? cs = some n iff cs spells n                        (readInt?_eq_some_iff)
-/

namespace TaskBoard.Numeral

/-- The number that decimal digits stand for, the most significant one first. -/
def value (ds : List Char) : Nat := Nat.ofDigits 10 (ds.reverse.map fun c => c.toNat - '0'.toNat)

theorem exists_of_mem_digits {n : Nat} {c : Char} (h : c ∈ digits n) :
    ∃ d : Fin 10, c = digitChar d := by
  induction n using Nat.strongRecOn with
  | ind n ih =>
    rw [digits] at h
    split at h
    · next hn => exact ⟨⟨n, hn⟩, by simpa using h⟩
    · next hn =>
      rcases List.mem_append.1 h with h | h
      · exact ih (n / 10) (by omega) h
      · exact ⟨⟨n % 10, by omega⟩, by simpa using h⟩

theorem isDigit_of_mem_digits {n : Nat} {c : Char} (h : c ∈ digits n) : isDigit c = true := by
  obtain ⟨d, rfl⟩ := exists_of_mem_digits h
  simp [isDigit, digitValue?_digitChar d.isLt]

theorem not_mem_digits {c : Char} (h : isDigit c = false) (n : Nat) : c ∉ digits n := by
  intro hc
  rw [isDigit_of_mem_digits hc] at h
  cases h

theorem digits_inj {m n : Nat} (h : digits m = digits n) : m = n := by
  have hread := readNat?_digits m
  rw [h, readNat?_digits] at hread
  exact (Option.some.inj hread).symm

theorem ofInt_ne_nil (n : Int) : ofInt n ≠ [] := by
  unfold ofInt
  split
  · exact List.cons_ne_nil _ _
  · exact digits_ne_nil _

theorem ofInt_inj {m n : Int} (h : ofInt m = ofInt n) : m = n := by
  have hminus : ∀ k, '-' ∉ digits k := not_mem_digits (by decide)
  unfold ofInt at h
  split at h
  · split at h
    · have := digits_inj (List.cons.inj h).2
      omega
    · exact absurd (h ▸ List.mem_cons_self) (hminus n.natAbs)
  · split at h
    · exact absurd (h ▸ List.mem_cons_self) (hminus m.natAbs)
    · have := digits_inj h
      omega

theorem toList_intercalate_text (sep : String) (ns : List Int) :
    (sep.intercalate (ns.map text)).toList = sep.toList.intercalate (ns.map ofInt) := by
  rw [String.toList_intercalate, List.map_map]
  exact congrArg _ (List.map_congr_left fun n _ => String.toList_ofList)

theorem exists_of_mem_padded {w n : Nat} {c : Char} (h : c ∈ padded w n) :
    ∃ d : Fin 10, c = digitChar d := by
  rcases List.mem_append.1 h with h | h
  · rw [(List.mem_replicate.1 h).2]
    exact ⟨0, rfl⟩
  · exact exists_of_mem_digits h

theorem isDigit_of_mem_padded {w n : Nat} {c : Char} (h : c ∈ padded w n) : isDigit c = true := by
  obtain ⟨d, rfl⟩ := exists_of_mem_padded h
  simp [isDigit, digitValue?_digitChar d.isLt]

theorem length_digits_le {n k : Nat} (hk : 0 < k) (h : n < 10 ^ k) : (digits n).length ≤ k := by
  induction k generalizing n with
  | zero => omega
  | succ k ih =>
    rw [digits]
    split
    · simp
    · next hn =>
      have hk : 0 < k := by
        rcases Nat.eq_zero_or_pos k with rfl | hk
        · simp at h
          omega
        · exact hk
      have := ih hk (n := n / 10) (by rw [Nat.pow_succ] at h; omega)
      simpa using this

theorem le_length_padded (w n : Nat) : w ≤ (padded w n).length := by
  simp only [padded, List.length_append, List.length_replicate]
  omega

theorem length_padded {w n : Nat} (hw : 0 < w) (h : n < 10 ^ w) : (padded w n).length = w := by
  have := length_digits_le hw h
  simp only [padded, List.length_append, List.length_replicate]
  omega

theorem readOnto_zeros (k : Nat) (cs : List Char) :
    readOnto 0 (List.replicate k '0' ++ cs) = readOnto 0 cs := by
  induction k with
  | zero => rfl
  | succ k ih =>
    have h0 : digitValue? '0' = some 0 := by decide
    rw [List.replicate_succ, List.cons_append, readOnto, h0, Option.bind_some]
    exact ih

theorem readNat?_padded (w n : Nat) : readNat? (padded w n) = some n := by
  have hne : padded w n ≠ [] := by simp [padded, digits_ne_nil]
  have hr : readOnto 0 (padded w n) = some n := by
    rw [padded, readOnto_zeros, readOnto_zero_digits]
  cases hp : padded w n with
  | nil => exact absurd hp hne
  | cons c cs =>
    rw [hp] at hr
    exact hr

/-! ## What is read -/

theorem lt_of_digitValue? {c : Char} {d : Nat} (h : digitValue? c = some d) : d < 10 := by
  unfold digitValue? at h
  split at h
  · next hc =>
    cases h
    have hle : c.toNat ≤ '9'.toNat := hc.2
    have hnine : '9'.toNat = 57 := rfl
    omega
  · cases h

theorem readOnto_eq_some {acc n : Nat} {cs : List Char} (h : readOnto acc cs = some n) :
    (∀ c ∈ cs, isDigit c = true) ∧ n < (acc + 1) * 10 ^ cs.length := by
  induction cs generalizing acc with
  | nil =>
    cases h
    simp
  | cons c cs ih =>
    obtain ⟨d, hd, h⟩ := Option.bind_eq_some_iff.1 h
    obtain ⟨hdigits, hlt⟩ := ih h
    have hd10 := lt_of_digitValue? hd
    refine ⟨List.forall_mem_cons.2 ⟨Option.isSome_of_eq_some hd, hdigits⟩, ?_⟩
    calc n < (10 * acc + d + 1) * 10 ^ cs.length := hlt
      _ ≤ ((acc + 1) * 10) * 10 ^ cs.length := Nat.mul_le_mul_right _ (by omega)
      _ = (acc + 1) * 10 ^ (cs.length + 1) := by rw [Nat.pow_succ, Nat.mul_assoc, Nat.mul_comm 10]

theorem readOnto_of_readNat? {n : Nat} {cs : List Char} (h : readNat? cs = some n) :
    readOnto 0 cs = some n := by
  cases cs with
  | nil => cases h
  | cons c cs => exact h

theorem isDigit_of_readNat? {n : Nat} {cs : List Char} (h : readNat? cs = some n) :
    ∀ c ∈ cs, isDigit c = true :=
  (readOnto_eq_some (readOnto_of_readNat? h)).1

theorem lt_of_readNat? {n : Nat} {cs : List Char} (h : readNat? cs = some n) :
    n < 10 ^ cs.length := by
  simpa using (readOnto_eq_some (readOnto_of_readNat? h)).2

/-! ## The value of digits -/

theorem isDigit_iff {c : Char} : isDigit c = true ↔ '0' ≤ c ∧ c ≤ '9' := by
  unfold isDigit digitValue?
  split <;> simp_all

theorem value_cons (c : Char) (ds : List Char) :
    value (c :: ds) = (c.toNat - '0'.toNat) * 10 ^ ds.length + value ds := by
  rw [value, List.reverse_cons, List.map_append, Nat.ofDigits_append, List.length_map,
    List.length_reverse, List.map_singleton, Nat.ofDigits_singleton, value]
  ring

theorem readOnto_of_isDigit {ds : List Char} (h : ∀ c ∈ ds, isDigit c = true) (acc : Nat) :
    readOnto acc ds = some (acc * 10 ^ ds.length + value ds) := by
  induction ds generalizing acc with
  | nil => simp [readOnto, value]
  | cons c ds ih =>
    obtain ⟨hc, hds⟩ := List.forall_mem_cons.1 h
    have hd : digitValue? c = some (c.toNat - '0'.toNat) := if_pos (isDigit_iff.1 hc)
    rw [readOnto, hd, Option.bind_some, ih hds, value_cons, List.length_cons]
    congr 1
    ring

theorem readNat?_eq_some_iff {ds : List Char} {n : Nat} :
    readNat? ds = some n ↔ ds ≠ [] ∧ (∀ c ∈ ds, isDigit c = true) ∧ n = value ds := by
  have hread (hne : ds ≠ []) (h : ∀ c ∈ ds, isDigit c = true) : readNat? ds = some (value ds) := by
    obtain ⟨c, cs, rfl⟩ := List.exists_cons_of_ne_nil hne
    show readOnto 0 (c :: cs) = _
    rw [readOnto_of_isDigit h 0, Nat.zero_mul, Nat.zero_add]
  constructor
  · intro h
    have hne : ds ≠ [] := by
      rintro rfl
      cases h
    have hdigits := isDigit_of_readNat? h
    exact ⟨hne, hdigits, Option.some.inj (h.symm.trans (hread hne hdigits))⟩
  · rintro ⟨hne, hdigits, rfl⟩
    exact hread hne hdigits

/-- Digits have a value. -/
theorem exists_readNat? {cs : List Char} (hne : cs ≠ []) (h : ∀ c ∈ cs, isDigit c = true) :
    ∃ n, readNat? cs = some n :=
  ⟨value cs, readNat?_eq_some_iff.2 ⟨hne, h, rfl⟩⟩

/-! ## Signed integers -/

/-- The integers that have 64 bits and a sign. -/
def IsInt64 (n : Int) : Prop := -2 ^ 63 ≤ n ∧ n < 2 ^ 63

/-- Decimal digits, zeros in front included, perhaps behind a sign. -/
inductive SpellsInt : List Char → Int → Prop
  | plain {ds : List Char} (hne : ds ≠ []) (h : ∀ c ∈ ds, '0' ≤ c ∧ c ≤ '9') :
    SpellsInt ds (value ds)
  | plus {ds : List Char} (hne : ds ≠ []) (h : ∀ c ∈ ds, '0' ≤ c ∧ c ≤ '9') :
    SpellsInt ('+' :: ds) (value ds)
  | minus {ds : List Char} (hne : ds ≠ []) (h : ∀ c ∈ ds, '0' ≤ c ∧ c ≤ '9') :
    SpellsInt ('-' :: ds) (-value ds)

theorem int64?_eq_some_iff {m n : Int} : int64? m = some n ↔ m = n ∧ IsInt64 n := by
  have hbounds : minInt64 ≤ m ∧ m ≤ maxInt64 ↔ IsInt64 m := by
    simp only [minInt64, maxInt64, IsInt64]
    omega
  rw [int64?, Option.ite_none_right_eq_some, hbounds, Option.some_inj]
  constructor
  · rintro ⟨h, rfl⟩
    exact ⟨rfl, h⟩
  · rintro ⟨rfl, h⟩
    exact ⟨h, rfl⟩

theorem exists_of_readNat? {ds : List Char} {n : Nat} (h : readNat? ds = some n) :
    ds ≠ [] ∧ (∀ c ∈ ds, '0' ≤ c ∧ c ≤ '9') ∧ n = value ds := by
  obtain ⟨hne, hdigits, hvalue⟩ := readNat?_eq_some_iff.1 h
  exact ⟨hne, fun c hc => isDigit_iff.1 (hdigits c hc), hvalue⟩

theorem readInt?_eq_some_iff {cs : List Char} {n : Int} :
    readInt? cs = some n ↔ SpellsInt cs n := by
  constructor
  · intro h
    unfold readInt? at h
    split at h
    · obtain ⟨m, hm, rfl⟩ := Option.map_eq_some_iff.1 h
      obtain ⟨hne, hdigits, rfl⟩ := exists_of_readNat? hm
      exact .plus hne hdigits
    · obtain ⟨m, hm, rfl⟩ := Option.map_eq_some_iff.1 h
      obtain ⟨hne, hdigits, rfl⟩ := exists_of_readNat? hm
      exact .minus hne hdigits
    · obtain ⟨m, hm, rfl⟩ := Option.map_eq_some_iff.1 h
      obtain ⟨hne, hdigits, rfl⟩ := exists_of_readNat? hm
      exact .plain hne hdigits
  · have hread {ds : List Char} (hne : ds ≠ []) (h : ∀ c ∈ ds, '0' ≤ c ∧ c ≤ '9') :
        readNat? ds = some (value ds) :=
      readNat?_eq_some_iff.2 ⟨hne, fun c hc => isDigit_iff.2 (h c hc), rfl⟩
    rintro (⟨hne, h⟩ | ⟨hne, h⟩ | ⟨hne, h⟩)
    · -- no sign is a digit
      unfold readInt?
      split
      · exact absurd (h '+' List.mem_cons_self) (by decide)
      · exact absurd (h '-' List.mem_cons_self) (by decide)
      · rw [hread hne h]
        rfl
    · show (readNat? _).map _ = _
      rw [hread hne h]
      rfl
    · show (readNat? _).map _ = _
      rw [hread hne h]
      rfl

theorem readInt64?_eq_some_iff {cs : List Char} {n : Int} :
    readInt64? cs = some n ↔ SpellsInt cs n ∧ IsInt64 n := by
  simp only [readInt64?, Option.bind_eq_some_iff, readInt?_eq_some_iff, int64?_eq_some_iff]
  constructor
  · rintro ⟨m, h, rfl, hbounds⟩
    exact ⟨h, hbounds⟩
  · rintro ⟨h, hbounds⟩
    exact ⟨n, h, rfl, hbounds⟩

end TaskBoard.Numeral
