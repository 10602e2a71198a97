import TaskBoard.Calendar.Date
import TaskBoard.Proofs.Numeral
import TaskBoard.Proofs.Text.Blank

/-!
# Writing and reading dates

A text spells a date if it has the numbers of year, month and day with a dash between each two,
and nothing else but blanks before a number.  The texts that are read are those that spell a day
of the calendar.  The text of a day spells it again, but it is `YYYY-MM-DD` only from the year 0
to the year 9999.

Days are numbered one after the other, through all months and years.

    d.next.toDayNumber = d.toDayNumber + 1                      (toDayNumber_next)
    read? cs = some d ↔ Spells cs d                             (read?_eq_some_iff)
    d.IsValid → read? d.render = some d                         (read?_render)
    d.render is YYYY-MM-DD ↔ 0 ≤ d.year ≤ 9999                  (isPlain_render_iff)
-/

namespace TaskBoard

/-! ## Forms -/

/-- Digits, so many of them, and their value. -/
structure Numeral.Spells (least most : Nat) (ds : List Char) (n : Nat) : Prop where
  value : readNat? ds = some n
  least : least ≤ ds.length
  most : ds.length ≤ most

namespace Date

/-- A year has at most four digits, unless it has a sign. -/
inductive SpellsYear : List Char → Int → Prop
  | unsigned {ds : List Char} {n : Nat} (h : Numeral.Spells 1 4 ds n) : SpellsYear ds n
  | plus {ds : List Char} {n : Nat} (h : Numeral.readNat? ds = some n) : SpellsYear ('+' :: ds) n
  | minus {ds : List Char} {n : Nat} (h : Numeral.readNat? ds = some n) :
    SpellsYear ('-' :: ds) (-n)

/-- Year, month and day with a dash between each two; blanks may stand before each. -/
inductive Spells : List Char → Date → Prop
  | intro {b y b' m b'' n : List Char} {d : Date} (hb : ∀ c ∈ b, Text.isBlank c = true)
    (hb' : ∀ c ∈ b', Text.isBlank c = true) (hb'' : ∀ c ∈ b'', Text.isBlank c = true)
    (hy : SpellsYear y d.year) (hm : Numeral.Spells 1 2 m d.month)
    (hn : Numeral.Spells 1 2 n d.day) (hd : d.IsValid) :
    Spells (b ++ (y ++ '-' :: (b' ++ (m ++ '-' :: (b'' ++ n))))) d

/-- `YYYY-MM-DD` -/
inductive IsPlain : List Char → Prop
  | intro {y m n : List Char} (hy : y.length = 4) (hm : m.length = 2) (hn : n.length = 2)
    (h : ∀ c ∈ y ++ m ++ n, Numeral.isDigit c = true) : IsPlain (y ++ '-' :: (m ++ '-' :: n))

end Date

/-! ## Numbers of days -/

namespace Date

/-- The day after a day. -/
def next (d : Date) : Date :=
  if d.day < daysInMonth d.year d.month then ⟨d.year, d.month, d.day + 1⟩
  else if d.month < 12 then ⟨d.year, d.month + 1, 1⟩
  else ⟨d.year + 1, 1, 1⟩

theorem toDayNumber_eq_add (y : Int) (m k : Nat) :
    toDayNumber ⟨y, m, k⟩ = toDayNumber ⟨y, m, 1⟩ + k - 1 := by
  simp only [toDayNumber]
  omega

/-- A month of which the next one is in the same year has its days. -/
theorem toDayNumber_nextMonth (y : Int) {m : Nat} (hm : 1 ≤ m) (hlast : m < 12) :
    toDayNumber ⟨y, m + 1, 1⟩ = toDayNumber ⟨y, m, 1⟩ + daysInMonth y m := by
  by_cases hfebruary : m = 2
  · subst hfebruary
    have hleap : isLeapYear y = true ↔ y % 4 = 0 ∧ (y % 100 ≠ 0 ∨ y % 400 = 0) := by
      simp [isLeapYear]
    simp only [toDayNumber, daysInMonth, hleap, reduceIte, Nat.reduceAdd, Nat.reduceLeDiff]
    split <;> omega
  · have hcases : m = 1 ∨ m = 3 ∨ m = 4 ∨ m = 5 ∨ m = 6 ∨ m = 7 ∨ m = 8 ∨ m = 9 ∨ m = 10 ∨
        m = 11 := by omega
    rcases hcases with rfl | rfl | rfl | rfl | rfl | rfl | rfl | rfl | rfl | rfl <;>
      simp [toDayNumber, daysInMonth] <;> omega

theorem toDayNumber_nextYear (y : Int) :
    toDayNumber ⟨y + 1, 1, 1⟩ = toDayNumber ⟨y, 12, 1⟩ + daysInMonth y 12 := by
  simp [toDayNumber, daysInMonth]
  omega

/-- The days are counted one by one. -/
theorem toDayNumber_next {d : Date} (h : d.IsValid) : d.next.toDayNumber = d.toDayNumber + 1 := by
  obtain ⟨y, m, k⟩ := d
  obtain ⟨-, -, hm, hm', hk, hk'⟩ := h
  dsimp only at hm hm' hk hk'
  rw [next, toDayNumber_eq_add y m k]
  dsimp only
  split
  · rw [toDayNumber_eq_add y m (k + 1)]
    omega
  · next hlast =>
    split
    · next hmonth =>
      rw [toDayNumber_nextMonth y hm hmonth]
      omega
    · next hmonth =>
      obtain rfl : m = 12 := by omega
      rw [toDayNumber_nextYear]
      omega

/-- The count begins with the year 1970. -/
example : toDayNumber ⟨1970, 1, 1⟩ = 0 := by decide

end Date

/-! ## Numbers in texts -/

namespace Numeral.Spells

variable {least most n : Nat} {ds : List Char}

theorem isDigit (h : Spells least most ds n) : ∀ c ∈ ds, isDigit c = true :=
  isDigit_of_readNat? h.value

theorem ne_nil (h : Spells least most ds n) : ds ≠ [] := by
  rintro rfl
  cases h.value

/-- A number as it is written, if it is not too long. -/
theorem padded {w n : Nat} (hl : least ≤ w) (hw : 0 < w) (hm : w ≤ most) (hn : n < 10 ^ w) :
    Spells least most (padded w n) n :=
  ⟨readNat?_padded w n, hl.trans (le_length_padded w n), (length_padded hw hn).le.trans hm⟩

end Numeral.Spells

/-- No blank stands before a number. -/
theorem Numeral.Spells.ne_blank {least most n : Nat} {ds rest : List Char}
    (h : Numeral.Spells least most ds n) : ∀ c ∈ (ds ++ rest).head?, Text.isBlank c = false := by
  intro c hc
  cases ds with
  | nil => exact absurd rfl h.ne_nil
  | cons e ds =>
    cases hc
    exact Text.isBlank_of_isDigit (h.isDigit _ List.mem_cons_self)

namespace Date

variable {least most n : Nat} {cs rest : List Char}

/-- No digit can be read on. -/
def Ends (rest : List Char) : Prop := ∀ c ∈ rest.head?, Numeral.isDigit c = false

theorem ends_nil : Ends [] := by simp [Ends]

theorem ends_cons {c : Char} (h : Numeral.isDigit c = false) : Ends (c :: rest) := by
  rintro _ ⟨⟩
  exact h

/-- Digits are read up to where they end, or to as many as there may be. -/
theorem number?_append {ds : List Char} (h : Numeral.Spells least most ds n)
    (hr : ds.length = most ∨ Ends rest) : number? least most (ds ++ rest) = some (n, rest) := by
  have hrest : (rest.take (most - ds.length)).takeWhile Numeral.isDigit = [] := by
    rcases hr with hr | hr
    · simp [hr]
    · cases rest with
      | nil => simp
      | cons c cs =>
        have hc : Numeral.isDigit c = false := hr c rfl
        cases most - ds.length with
        | zero => rfl
        | succ k => simp [hc]
  have htake : ((ds ++ rest).take most).takeWhile Numeral.isDigit = ds := by
    rw [List.take_append, List.take_of_length_le h.most, List.takeWhile_append_of_pos h.isDigit,
      hrest, List.append_nil]
  rw [number?, htake, if_neg (Nat.not_lt.2 h.least), h.value]
  simp

theorem exists_of_number? (h : number? least most cs = some (n, rest)) :
    ∃ ds, cs = ds ++ rest ∧ Numeral.Spells least most ds n := by
  unfold number? at h
  dsimp only at h
  split at h
  · cases h
  · next hl =>
    obtain ⟨k, hk, h⟩ := Option.map_eq_some_iff.1 h
    cases h
    have hpre : (cs.take most).takeWhile Numeral.isDigit <+: cs :=
      (List.takeWhile_prefix _).trans (List.take_prefix _ _)
    refine ⟨_, (List.prefix_iff_eq_append.1 hpre).symm, hk, Nat.not_lt.1 hl, ?_⟩
    exact (List.takeWhile_prefix _).length_le.trans (List.length_take_le _ _)

/-! ## Years -/

theorem year?_append {ys : List Char} {y : Int} (h : SpellsYear ys y) (hr : Ends rest) :
    year? (ys ++ rest) = some (y, rest) := by
  -- behind a sign, any number of digits is read
  have signed : ∀ {ds : List Char} {n : Nat}, Numeral.readNat? ds = some n →
      number? 1 (ds ++ rest).length (ds ++ rest) = some (n, rest) := by
    intro ds n h
    refine number?_append ⟨h, ?_, by simp⟩ (.inr hr)
    rw [Nat.one_le_iff_ne_zero, Ne, List.length_eq_zero_iff]
    rintro rfl
    cases h
  cases h with
  | unsigned h =>
    have hn := number?_append h (.inr hr)
    cases hds : ys with
    | nil => exact absurd hds h.ne_nil
    | cons c ds =>
      have hc : Numeral.isDigit c = true := h.isDigit c (hds ▸ List.mem_cons_self)
      rw [hds, List.cons_append] at hn
      rw [List.cons_append]
      unfold year?
      split
      · next heq =>
        rw [(List.cons.inj heq).1] at hc
        exact absurd hc (by decide)
      · next heq =>
        rw [(List.cons.inj heq).1] at hc
        exact absurd hc (by decide)
      · rw [hn]
        rfl
  | @plus ds n h =>
    show (number? 1 (ds ++ rest).length (ds ++ rest)).map _ = _
    rw [signed h]
    rfl
  | @minus ds n h =>
    show (number? 1 (ds ++ rest).length (ds ++ rest)).map _ = _
    rw [signed h]
    rfl

theorem exists_of_year? {y : Int} (h : year? cs = some (y, rest)) :
    ∃ ys, cs = ys ++ rest ∧ SpellsYear ys y := by
  unfold year? at h
  split at h
  · obtain ⟨⟨k, r⟩, hk, h⟩ := Option.map_eq_some_iff.1 h
    cases h
    obtain ⟨ds, rfl, hds⟩ := exists_of_number? hk
    exact ⟨'-' :: ds, rfl, .minus hds.value⟩
  · obtain ⟨⟨k, r⟩, hk, h⟩ := Option.map_eq_some_iff.1 h
    cases h
    obtain ⟨ds, rfl, hds⟩ := exists_of_number? hk
    exact ⟨'+' :: ds, rfl, .plus hds.value⟩
  · obtain ⟨⟨k, r⟩, hk, h⟩ := Option.map_eq_some_iff.1 h
    cases h
    obtain ⟨ds, rfl, hds⟩ := exists_of_number? hk
    exact ⟨ds, rfl, .unsigned hds⟩

theorem SpellsYear.ne_blank {ys : List Char} {y : Int} (h : SpellsYear ys y) :
    ∀ c ∈ (ys ++ rest).head?, Text.isBlank c = false := by
  cases h with
  | unsigned h => exact h.ne_blank
  | plus =>
    rintro _ ⟨⟩
    decide
  | minus =>
    rintro _ ⟨⟩
    decide

/-! ## Dates -/

theorem expect?_eq_some_iff {c : Char} : expect? c cs = some rest ↔ cs = c :: rest := by
  cases cs with
  | nil => simp [expect?]
  | cons d cs =>
    simp only [expect?, List.cons.injEq]
    split <;> simp_all

theorem ofCivil?_eq_some_iff {y : Int} {m k : Nat} {d : Date} :
    ofCivil? y m k = some d ↔ d = ⟨y, m, k⟩ ∧ d.IsValid := by
  unfold ofCivil?
  split
  · next h =>
    simp only [Option.some.injEq]
    exact ⟨fun he => ⟨he.symm, he ▸ h⟩, fun he => he.1.symm⟩
  · next h => exact ⟨nofun, fun ⟨he, hv⟩ => absurd (he ▸ hv) h⟩

theorem spells_of_read? {d : Date} (h : read? cs = some d) : Spells cs d := by
  unfold read? at h
  obtain ⟨⟨y, c₁⟩, hy, h⟩ := Option.bind_eq_some_iff.1 h
  obtain ⟨c₂, hc, h⟩ := Option.bind_eq_some_iff.1 h
  obtain ⟨⟨m, c₃⟩, hm, h⟩ := Option.bind_eq_some_iff.1 h
  obtain ⟨c₄, hc', h⟩ := Option.bind_eq_some_iff.1 h
  obtain ⟨⟨k, c₅⟩, hk, h⟩ := Option.bind_eq_some_iff.1 h
  dsimp only at hc hc' h
  split at h
  · next hempty =>
    obtain rfl := List.isEmpty_iff.1 hempty
    obtain ⟨rfl, hvalid⟩ := ofCivil?_eq_some_iff.1 h
    obtain ⟨ys, hys, hyear⟩ := exists_of_year? hy
    obtain ⟨ms, hms, hmonth⟩ := exists_of_number? hm
    obtain ⟨ks, hks, hday⟩ := exists_of_number? hk
    obtain ⟨b, hb, hcs⟩ := Text.exists_trimLeft cs
    obtain ⟨b', hb', hc₂⟩ := Text.exists_trimLeft c₂
    obtain ⟨b'', hb'', hc₄⟩ := Text.exists_trimLeft c₄
    rw [List.append_nil] at hks
    rw [hcs, hys, expect?_eq_some_iff.1 hc, hc₂, hms, expect?_eq_some_iff.1 hc', hc₄, hks]
    exact .intro hb hb' hb'' hyear hmonth hday hvalid
  · cases h

theorem read?_of_spells {d : Date} (h : Spells cs d) : read? cs = some d := by
  obtain @⟨b, ys, b', ms, b'', ks, d, hb, hb', hb'', hy, hm, hk, hd⟩ := h
  have dash : ∀ {rest : List Char}, Ends ('-' :: rest) := ends_cons (by decide)
  have hlast : number? 1 2 (Text.trimLeft (b'' ++ ks)) = some (d.day, []) := by
    rw [← List.append_nil ks, Text.trimLeft_append hb'' hk.ne_blank]
    exact number?_append hk (.inr ends_nil)
  have hcivil : ofCivil? d.year d.month d.day = some d := if_pos hd
  simp only [read?, Text.trimLeft_append hb hy.ne_blank, year?_append hy dash,
    Text.trimLeft_append hb' hm.ne_blank, number?_append hm (.inr dash), hlast, expect?, if_true,
    Option.bind_eq_bind, Option.bind_some, List.isEmpty_nil, hcivil]

/-- The texts that are read are those that spell a date. -/
theorem read?_eq_some_iff {d : Date} : read? cs = some d ↔ Spells cs d :=
  ⟨spells_of_read?, read?_of_spells⟩

theorem Spells.isValid {d : Date} (h : Spells cs d) : d.IsValid := by
  obtain ⟨-, -, -, -, -, -, hd⟩ := h
  exact hd

/-! ## The text of a date -/

theorem daysInMonth_le (y : Int) (m : Nat) : daysInMonth y m ≤ 31 := by
  unfold daysInMonth
  split
  · split <;> omega
  · split <;> omega

theorem IsValid.month_day_lt {d : Date} (h : d.IsValid) : d.month < 10 ^ 2 ∧ d.day < 10 ^ 2 := by
  obtain ⟨-, -, -, hm, -, hd⟩ := h
  have := daysInMonth_le d.year d.month
  omega

theorem spellsYear_yearText (y : Int) : SpellsYear (yearText y) y := by
  unfold yearText
  split
  · next h =>
    have hy : ((y.toNat : Nat) : Int) = y := Int.toNat_of_nonneg h.1
    have hyear : Numeral.Spells 1 4 (Numeral.padded 4 y.toNat) y.toNat :=
      .padded (by omega) (by omega) (Nat.le_refl 4) (by omega)
    have := SpellsYear.unsigned hyear
    rwa [hy] at this
  · split
    · next hneg =>
      have := SpellsYear.minus (Numeral.readNat?_padded 4 y.natAbs)
      rwa [show -((y.natAbs : Nat) : Int) = y by omega] at this
    · next hpos =>
      have := SpellsYear.plus (Numeral.readNat?_padded 4 y.natAbs)
      rwa [show ((y.natAbs : Nat) : Int) = y by omega] at this

theorem spells_render {d : Date} (h : d.IsValid) : Spells d.render d := by
  obtain ⟨hm, hd⟩ := h.month_day_lt
  have none : ∀ c ∈ ([] : List Char), Text.isBlank c = true := by simp
  have := Spells.intro none none none
    (spellsYear_yearText d.year) (.padded (by omega) (by omega) (Nat.le_refl 2) hm)
    (.padded (by omega) (by omega) (Nat.le_refl 2) hd) h
  simpa [render, List.append_assoc] using this

/-- A day of the calendar is read back from its text. -/
theorem read?_render {d : Date} (h : d.IsValid) : read? d.render = some d :=
  read?_of_spells (spells_render h)

/-- Outside of the years of four digits a sign is written. -/
theorem isPlain_render_iff {d : Date} (h : d.IsValid) :
    IsPlain d.render ↔ 0 ≤ d.year ∧ d.year ≤ 9999 := by
  constructor
  · intro hplain
    by_contra hyear
    have hrender : ∃ c cs, d.render = c :: cs ∧ Numeral.isDigit c = false := by
      rw [render, yearText, if_neg hyear]
      refine ⟨_, _, rfl, ?_⟩
      split <;> decide
    obtain ⟨c, cs, hcs, hc⟩ := hrender
    generalize d.render = text at hplain hcs
    obtain @⟨y, m, n, hy, -, -, hdigits⟩ := hplain
    cases y with
    | nil => cases hy
    | cons e y =>
      cases (List.cons.inj hcs).1
      rw [hdigits c (by simp)] at hc
      cases hc
  · intro hyear
    obtain ⟨hm, hd⟩ := h.month_day_lt
    have hy : d.year.toNat < 10 ^ 4 := by omega
    have := IsPlain.intro (Numeral.length_padded (w := 4) (by omega) hy)
      (Numeral.length_padded (w := 2) (by omega) hm) (Numeral.length_padded (w := 2) (by omega) hd)
      fun c hc => by
        rcases List.mem_append.1 hc with hc | hc
        · rcases List.mem_append.1 hc with hc | hc <;> exact Numeral.isDigit_of_mem_padded hc
        · exact Numeral.isDigit_of_mem_padded hc
    simpa [render, yearText, hyear, List.append_assoc] using this

/-- There is no blank at the ends of the text of a day. -/
theorem trim_render {d : Date} : Text.trim d.render = d.render := by
  refine Text.trim_eq_self ?_ ?_
  · rw [render, List.append_assoc]
    exact (spellsYear_yearText d.year).ne_blank
  · intro c hc
    have hne : Numeral.padded 2 d.day ≠ [] := by
      intro hnil
      have := Numeral.le_length_padded 2 d.day
      rw [hnil, List.length_nil] at this
      omega
    have hrender : d.render =
        (yearText d.year ++ '-' :: Numeral.padded 2 d.month ++ ['-']) ++ Numeral.padded 2 d.day := by
      simp [render]
    rw [hrender, List.getLast?_append_of_ne_nil _ hne] at hc
    exact Text.isBlank_of_isDigit (Numeral.isDigit_of_mem_padded (List.mem_of_getLast? hc))

end Date

end TaskBoard
