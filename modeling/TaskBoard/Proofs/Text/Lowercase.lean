import Mathlib.Data.Nat.Bitwise
import TaskBoard.Text.Lowercase

/-!
# Small letters stay small

No small letter of the table is a capital of it, nor is `i` or the dot above, so a word in small
letters is its own lower-casing: where it had a capital sigma it has one of the two small ones, and
these are not told apart again.  Nor is a small letter a blank, so lower-casing puts no blank into a
word.

    lowerCode (lowerCode n) = lowerCode n                       (lowerCode_lowerCode)
    lower (lower cs) = lower cs                                 (lower_lower)
    lower leaves a word without a blank                         (not_isBlank_of_mem_lower)
-/

namespace TaskBoard.Text

/-! ## Tables as sets -/

/-- A set of code points, as the bits of a number.  Two sets are compared in one step. -/
def bits (codes : List Nat) : Nat := codes.foldr (fun n m => 2 ^ n ||| m) 0

theorem testBit_bits {codes : List Nat} {n : Nat} :
    (bits codes).testBit n = true ↔ n ∈ codes := by
  induction codes with
  | nil => simp [bits]
  | cons k codes ih =>
    show (2 ^ k ||| bits codes).testBit n = true ↔ _
    rw [Nat.testBit_or, Bool.or_eq_true, ih, Nat.testBit_two_pow, decide_eq_true_iff, List.mem_cons,
      eq_comm]

theorem not_mem_of_bits {codes others : List Nat} (h : bits codes &&& bits others = 0) {n : Nat}
    (hn : n ∈ codes) : n ∉ others := by
  intro hother
  have hbit : (bits codes &&& bits others).testBit n = true := by
    rw [Nat.testBit_and, testBit_bits.2 hn, testBit_bits.2 hother]
    rfl
  rw [h, Nat.zero_testBit] at hbit
  cases hbit

/-! ## The letters of a run -/

namespace CapitalRun

variable {r : CapitalRun} {n : Nat}

def count (r : CapitalRun) : Nat := (r.last - r.first) / r.step + 1

def capitals (r : CapitalRun) : List Nat := List.range' r.first r.count r.step

def smalls (r : CapitalRun) : List Nat := List.range' (r.first + r.shift).toNat r.count r.step

theorem exists_of_holds (h : r.holds n = true) : ∃ i < r.count, n = r.first + r.step * i := by
  simp only [holds, Bool.and_eq_true, decide_eq_true_iff, beq_iff_eq] at h
  obtain ⟨⟨hfirst, hlast⟩, hstep⟩ := h
  refine ⟨(n - r.first) / r.step, ?_, ?_⟩
  · exact Nat.lt_succ_of_le (Nat.div_le_div_right (Nat.sub_le_sub_right hlast _))
  · rw [Nat.mul_div_cancel' (Nat.dvd_of_mod_eq_zero hstep)]
    omega

theorem mem_capitals (h : r.holds n = true) : n ∈ r.capitals :=
  List.mem_range'.2 (exists_of_holds h)

theorem mem_smalls (hr : 0 ≤ r.first + r.shift) (h : r.holds n = true) :
    (n + r.shift).toNat ∈ r.smalls := by
  obtain ⟨i, hi, rfl⟩ := exists_of_holds h
  refine List.mem_range'.2 ⟨i, hi, ?_⟩
  push_cast
  omega

end CapitalRun

/-- The capitals of the table. -/
def capitals : List Nat := capitalRuns.flatMap CapitalRun.capitals

/-- Their small letters. -/
def smalls : List Nat := capitalRuns.flatMap CapitalRun.smalls

def blanks : List Nat := blankRanges.flatMap fun r => List.range' r.1 (r.2 + 1 - r.1)

theorem mem_blanks {n : Nat} (h : inRanges blankRanges n = true) : n ∈ blanks := by
  obtain ⟨r, hr, hn⟩ := List.any_eq_true.1 h
  simp only [Bool.and_eq_true, decide_eq_true_iff] at hn
  refine List.mem_flatMap.2 ⟨r, hr, List.mem_range'.2 ⟨n - r.1, by omega, by omega⟩⟩

/-- No small letter is a capital or a blank. -/
theorem bits_smalls : bits smalls &&& bits ('İ'.toNat :: (capitals ++ blanks)) = 0 := by
  decide +kernel

theorem isValidChar_of_mem_smalls : ∀ n ∈ smalls, n.isValidChar := by decide +kernel

theorem nonneg_of_mem_runs : ∀ r ∈ capitalRuns, 0 ≤ r.first + r.shift := by decide +kernel

section

variable {n : Nat} (h : n ∈ smalls)

include h

theorem ne_of_mem_smalls : n ≠ 'İ'.toNat ∧ n ∉ capitals ∧ n ∉ blanks := by
  have hnot := not_mem_of_bits bits_smalls h
  rwa [List.mem_cons, List.mem_append, not_or, not_or] at hnot

theorem lowerCode_of_mem_smalls : lowerCode n = n := by
  refine lowerCode_of_no_run fun r hr => ?_
  rw [← Bool.not_eq_true]
  intro hholds
  exact (ne_of_mem_smalls h).2.1 (List.mem_flatMap.2 ⟨r, hr, CapitalRun.mem_capitals hholds⟩)

end

theorem lowerCode_eq_or_mem (n : Nat) : lowerCode n = n ∨ lowerCode n ∈ smalls := by
  unfold lowerCode
  split
  · next r hr =>
    have hmem := List.mem_of_find?_eq_some hr
    have hholds : r.holds n = true := by
      simpa only using List.find?_some hr
    have hsmall := CapitalRun.mem_smalls (nonneg_of_mem_runs r hmem) hholds
    exact .inr (List.mem_flatMap.2 ⟨r, hmem, hsmall⟩)
  · exact .inl rfl

theorem lowerCode_lowerCode (n : Nat) : lowerCode (lowerCode n) = lowerCode n := by
  rcases lowerCode_eq_or_mem n with h | h
  · rw [h, h]
  · exact lowerCode_of_mem_smalls h

/-! ## Small characters -/

/-- A character that lower-casing leaves as it is, wherever it stands. -/
structure IsLower (c : Char) : Prop where
  ne_sigma : c ≠ 'Σ'
  lowerChar : lowerChar c = [c]

instance (c : Char) : Decidable (IsLower c) :=
  decidable_of_iff (c ≠ 'Σ' ∧ Text.lowerChar c = [c]) ⟨fun h => ⟨h.1, h.2⟩, fun h => ⟨h.1, h.2⟩⟩

theorem lowerChar_of_ne {c : Char} (h : c ≠ 'İ') : lowerChar c = [Char.ofNat (lowerCode c.toNat)] :=
  if_neg h

/-- A character goes to small ones, and to blanks only if it is one. -/
theorem isLower_of_mem_lowerChar {c d : Char} (hc : c ≠ 'Σ') (hd : d ∈ lowerChar c) :
    IsLower d ∧ (isBlank c = false → isBlank d = false) := by
  by_cases hi : c = 'İ'
  · subst hi
    have hpair : d = 'i' ∨ d = '\u0307' := by simpa [lowerChar] using hd
    rcases hpair with rfl | rfl
    · exact ⟨by decide +kernel, fun _ => by decide⟩
    · exact ⟨by decide +kernel, fun _ => by decide⟩
  · rw [lowerChar_of_ne hi, List.mem_singleton] at hd
    rcases lowerCode_eq_or_mem c.toNat with hsame | hsmall
    · rw [hsame, Char.ofNat_toNat] at hd
      subst hd
      refine ⟨⟨hc, ?_⟩, id⟩
      rw [lowerChar_of_ne hi, hsame, Char.ofNat_toNat]
    · have htoNat : d.toNat = lowerCode c.toNat := by
        rw [hd, Char.ofNat, dif_pos (isValidChar_of_mem_smalls _ hsmall)]
        rfl
      rw [← htoNat] at hsmall
      obtain ⟨hdot, hcapital, hblank⟩ := ne_of_mem_smalls hsmall
      refine ⟨⟨?_, ?_⟩, fun _ => ?_⟩
      · rintro rfl
        exact hcapital (by decide +kernel)
      · rw [lowerChar_of_ne fun h => hdot (congrArg Char.toNat h), lowerCode_of_mem_smalls hsmall,
          Char.ofNat_toNat]
      · rw [← Bool.not_eq_true]
        exact fun h => hblank (mem_blanks h)

/-! ## Words in small letters -/

theorem isLower_of_mem_lowerAfter {before cs : List Char} {d : Char}
    (hd : d ∈ lowerAfter before cs) :
    IsLower d ∧ ((∀ c ∈ cs, isBlank c = false) → isBlank d = false) := by
  induction cs generalizing before with
  | nil => cases hd
  | cons c cs ih =>
    rw [lowerAfter, List.mem_append] at hd
    rcases hd with hd | hd
    · by_cases hc : c = 'Σ'
      · have hsigma : d = 'ς' ∨ d = 'σ' := by
          rw [if_pos hc] at hd
          split at hd
          · exact .inl (List.mem_singleton.1 hd)
          · exact .inr (List.mem_singleton.1 hd)
        rcases hsigma with rfl | rfl
        · exact ⟨by decide +kernel, fun _ => by decide⟩
        · exact ⟨by decide +kernel, fun _ => by decide⟩
      · rw [if_neg hc] at hd
        have hsmall := isLower_of_mem_lowerChar hc hd
        exact ⟨hsmall.1, fun h => hsmall.2 (h c List.mem_cons_self)⟩
    · have hsmall := ih hd
      exact ⟨hsmall.1, fun h => hsmall.2 fun e he => h e (List.mem_cons_of_mem c he)⟩

theorem isLower_of_mem_lower {cs : List Char} {d : Char} (hd : d ∈ lower cs) : IsLower d :=
  (isLower_of_mem_lowerAfter hd).1

theorem not_isBlank_of_mem_lower {cs : List Char} (h : ∀ c ∈ cs, isBlank c = false) {d : Char}
    (hd : d ∈ lower cs) : isBlank d = false :=
  (isLower_of_mem_lowerAfter hd).2 h

theorem lower_eq_self {cs : List Char} (h : ∀ c ∈ cs, IsLower c) : lower cs = cs := by
  suffices hafter : ∀ before, lowerAfter before cs = cs from hafter []
  induction cs with
  | nil => exact fun _ => rfl
  | cons c cs ih =>
    intro before
    have hc : IsLower c := h c List.mem_cons_self
    rw [lowerAfter, if_neg hc.ne_sigma, hc.lowerChar,
      ih (fun d hd => h d (List.mem_cons_of_mem c hd)), List.singleton_append]

theorem lower_lower (cs : List Char) : lower (lower cs) = lower cs :=
  lower_eq_self fun _ => isLower_of_mem_lower

end TaskBoard.Text
