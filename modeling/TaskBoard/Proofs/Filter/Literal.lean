import Mathlib.Algebra.Order.Field.Power
import Mathlib.Data.Rat.Cast.Order
import Mathlib.Tactic.Positivity
import TaskBoard.Filter.Literal
import TaskBoard.Proofs.Calendar.Timestamp

/-!
# What values say

The values of a condition are JSON, and what one of them says depends on what it is compared with.
It may write a text, number a record, count days, spell a date or name a user, each by rules of its
own, apart from how values are read.  A value is read as something exactly if it says it, and it
says one thing at most.

    text? v = some s ↔ Writes v s                               (text?_eq_some_iff)
    id? v = some n ↔ Numbers v n                                (id?_eq_some_iff)
    days? v = some n ↔ Counts v n                               (days?_eq_some_iff)
    date? v = some d ↔ Spells v d                               (date?_eq_some_iff)
    user? asking v = some u ↔ Names asking v u                  (user?_eq_some_iff)
-/

namespace TaskBoard

/-! ## Doubles -/

namespace Double

/-- A double without its sign. -/
def size (x : Double) : ℚ := x.mantissa * 2 ^ x.exponent

/-- The number that a double is. -/
def value (x : Double) : ℚ := if x.negative then -x.size else x.size

theorem size_nonneg (x : Double) : 0 ≤ x.size := by
  unfold size
  positivity

/-- The size is whole if the exponent is not negative, or if the mantissa makes up for it. -/
theorem size_eq_natCast_iff {x : Double} {q : Nat} :
    x.size = q ↔
      (if 0 ≤ x.exponent then some (x.mantissa * Numeral.twoTo x.exponent.toNat)
        else if x.mantissa % Numeral.twoTo (-x.exponent).toNat = 0 then
          some (x.mantissa / Numeral.twoTo (-x.exponent).toNat)
        else none) = some q := by
  rw [size]
  by_cases hexp : 0 ≤ x.exponent
  · obtain ⟨k, hk⟩ := Int.eq_ofNat_of_zero_le hexp
    rw [if_pos hexp, hk, zpow_natCast, Int.toNat_natCast, Option.some_inj]
    exact_mod_cast Iff.rfl
  · obtain ⟨k, hk⟩ : ∃ k : Nat, x.exponent = -(k : Int) := ⟨(-x.exponent).toNat, by omega⟩
    have hpos : 0 < 2 ^ k := Nat.two_pow_pos k
    rw [if_neg hexp, hk, neg_neg, Int.toNat_natCast, zpow_neg, zpow_natCast, ← div_eq_mul_inv,
      div_eq_iff (by positivity), show Numeral.twoTo k = 2 ^ k from rfl]
    norm_cast
    constructor
    · intro h
      rw [h, if_pos (Nat.mul_mod_left q _), Nat.mul_div_cancel q hpos]
    · intro h
      split at h
      · next hmod =>
        rw [← Option.some.inj h, Nat.div_mul_cancel (Nat.dvd_of_mod_eq_zero hmod)]
      · cases h

/-- The integer of a double is the number that it is. -/
theorem toInt?_eq_some_iff {x : Double} {n : Int} : x.toInt? = some n ↔ x.value = n := by
  unfold toInt? value
  dsimp only
  rw [Option.map_eq_some_iff]
  simp only [← size_eq_natCast_iff]
  constructor
  · rintro ⟨q, hq, rfl⟩
    rw [hq]
    split <;> simp
  · intro h
    have hq : x.size = n.natAbs := by
      rw [Nat.cast_natAbs, Int.cast_abs, ← h]
      split
      · rw [abs_neg, abs_of_nonneg x.size_nonneg]
      · rw [abs_of_nonneg x.size_nonneg]
    refine ⟨_, hq, ?_⟩
    rw [hq] at h
    split at h
    · next hneg =>
      have hcast : ((-Int.ofNat n.natAbs : Int) : ℚ) = n := by
        rw [Int.cast_neg, Int.ofNat_eq_natCast, Int.cast_natCast, h]
      rw [if_pos hneg]
      exact Int.cast_inj.1 hcast
    · next hneg =>
      have hcast : ((Int.ofNat n.natAbs : Int) : ℚ) = n := by
        rw [Int.ofNat_eq_natCast, Int.cast_natCast, h]
      rw [if_neg hneg]
      exact Int.cast_inj.1 hcast

end Double

namespace Literal

/-! ## Rules -/

/-- The value is a text, or it is a number or a truth value as it is written in JSON. -/
inductive Writes : Json → String → Prop
  | string (s : String) : Writes (.string s) s
  | number (n : Json.Number) : Writes (.number n) n.text
  | yes : Writes (.bool true) "true"
  | no : Writes (.bool false) "false"

/-- The value is an integer of 64 bits, or a text that spells one; blanks around the text do not
matter. -/
inductive Numbers : Json → Int → Prop
  | integer {n : Int} (h : Numeral.IsInt64 n) : Numbers (.number (.int n)) n
  | string {s : String} {n : Int} (hs : Numeral.SpellsInt (Text.trim s.toList) n)
    (h : Numeral.IsInt64 n) : Numbers (.string s) n

/-- The value numbers something, or it is a double that is an integer, of less than `2 ^ 63`
either way. -/
inductive Counts : Json → Int → Prop
  | number {v : Json} {n : Int} (h : Numbers v n) : Counts v n
  | double {x : Double} {n : Int} (hx : x.value = n) (hmin : -2 ^ 63 < n) (hmax : n < 2 ^ 63) :
    Counts (.number (.double x)) n

/-- The value is a text that spells the day, or a timestamp that begins with it; blanks around the
text do not matter. -/
inductive Spells : Json → Date → Prop
  | date {s : String} {d : Date} (h : Date.Spells (Text.trim s.toList) d) : Spells (.string s) d
  | timestamp {s : String} {d : Date} (h : Timestamp.Spells (Text.trim s.toList) d) :
    Spells (.string s) d

/-- The value is a word for the user who asks, or it is another text that is not blank, or a number,
and the user goes by that. -/
inductive Names (asking : String) : Json → String → Prop
  | asking : Names asking (.string "current_user_id") asking
  | string {s : String} (hs : s ≠ "current_user_id")
    (hb : ∃ c ∈ s.toList, Text.isBlank c = false) : Names asking (.string s) s
  | number (n : Json.Number) : Names asking (.number n) n.text

/-! ## Reading -/

variable {v : Json}

theorem text?_eq_some_iff {s : String} : text? v = some s ↔ Writes v s := by
  constructor
  · intro h
    unfold text? at h
    split at h
    · cases h
      exact .string _
    · cases h
      exact .number _
    · next b =>
      cases h
      cases b with
      | true => exact .yes
      | false => exact .no
    · cases h
  · rintro (_ | _ | _ | _) <;> rfl

theorem id?_eq_some_iff {n : Int} : id? v = some n ↔ Numbers v n := by
  constructor
  · intro h
    unfold id? at h
    split at h
    · next x =>
      cases x with
      | int m =>
        obtain ⟨rfl, hbounds⟩ := Numeral.int64?_eq_some_iff.1 h
        exact .integer hbounds
      | double x => cases h
    · obtain ⟨hs, hbounds⟩ := Numeral.readInt64?_eq_some_iff.1 h
      exact .string hs hbounds
    · cases h
  · rintro (h | ⟨hs, h⟩)
    · exact Numeral.int64?_eq_some_iff.2 ⟨rfl, h⟩
    · exact Numeral.readInt64?_eq_some_iff.2 ⟨hs, h⟩

theorem wholeDays?_eq_some_iff {x : Double} {n : Int} :
    wholeDays? x = some n ↔ x.value = n ∧ -2 ^ 63 < n ∧ n < 2 ^ 63 := by
  rw [wholeDays?, Option.filter_eq_some_iff, Double.toInt?_eq_some_iff, Bool.and_eq_true,
    decide_eq_true_iff, decide_eq_true_iff]
  rfl

theorem days?_eq_some_iff {n : Int} : days? v = some n ↔ Counts v n := by
  constructor
  · intro h
    unfold days? at h
    split at h
    · exact .number (id?_eq_some_iff.1 h)
    · obtain ⟨hx, hmin, hmax⟩ := wholeDays?_eq_some_iff.1 h
      exact .double hx hmin hmax
    · exact .number (id?_eq_some_iff.1 h)
    · cases h
  · rintro (h | ⟨hx, hmin, hmax⟩)
    · have hread := id?_eq_some_iff.2 h
      cases h <;> exact hread
    · exact wholeDays?_eq_some_iff.2 ⟨hx, hmin, hmax⟩

theorem spells_of_date? {d : Date} (h : date? v = some d) : Spells v d := by
  unfold date? at h
  split at h
  · rcases Option.or_eq_some_iff.1 (Option.orElse_eq_or.symm.trans h) with h | ⟨-, h⟩
    · exact .date (Date.spells_of_read? h)
    · obtain ⟨l, hl, rfl⟩ := Option.map_eq_some_iff.1 h
      exact .timestamp (Timestamp.spells_of_readLocal? hl)
  · cases h

/-- The dates among the values are those that spell a day. -/
theorem date?_eq_some_iff {d : Date} : date? v = some d ↔ Spells v d := by
  refine ⟨spells_of_date?, fun h => ?_⟩
  cases h with
  | date h =>
    show (Date.read? _ <|> _) = _
    rw [Date.read?_of_spells h]
    rfl
  | timestamp h =>
    obtain ⟨l, hl, rfl⟩ := Timestamp.readLocal?_of_spells h
    show (Date.read? _ <|> _) = _
    rw [h.read?_eq_none, hl]
    rfl

/-- The text of a day is read as the day. -/
theorem date?_of_text {d : Date} (h : d.IsValid) : date? (.string d.text) = some d := by
  refine date?_eq_some_iff.2 (.date ?_)
  rw [Date.text, String.toList_ofList, Date.trim_render]
  exact Date.spells_render h

theorem Spells.isValid {d : Date} (h : Spells v d) : d.IsValid := by
  cases h with
  | date h => exact h.isValid
  | timestamp h =>
    obtain ⟨l, hl, rfl⟩ := Timestamp.readLocal?_of_spells h
    exact Timestamp.isValid_of_readLocal? hl

/-- A value spells one day at most. -/
theorem Spells.unique {d e : Date} (hd : Spells v d) (he : Spells v e) : d = e :=
  Option.some.inj ((date?_eq_some_iff.2 hd).symm.trans (date?_eq_some_iff.2 he))

theorem user?_eq_some_iff {asking u : String} : user? asking v = some u ↔ Names asking v u := by
  have hblank (s : String) : Text.allBlank s = false ↔ ∃ c ∈ s.toList, Text.isBlank c = false := by
    simp [Text.allBlank]
  constructor
  · intro h
    unfold user? at h
    split at h
    · next s =>
      split at h
      · next hs =>
        cases h
        exact hs ▸ .asking
      · next hs =>
        split at h
        · cases h
        · next hb =>
          cases h
          exact .string hs ((hblank _).1 (Bool.eq_false_iff.2 hb))
    · cases h
      exact .number _
    · cases h
  · intro h
    cases h with
    | asking => exact user?_currentUser asking
    | string hs hb =>
      show (if u = currentUser then _ else if Text.allBlank u then _ else _) = some u
      rw [if_neg (show u ≠ currentUser from hs), (hblank u).2 hb]
      rfl
    | number n => rfl

end Literal

end TaskBoard
