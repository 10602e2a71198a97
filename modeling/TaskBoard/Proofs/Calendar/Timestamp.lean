import TaskBoard.Calendar.Timestamp
import TaskBoard.Proofs.Calendar.Date

/-!
# Reading timestamps

An RFC 3339 text spells the day that it begins with, which is the day where its offset holds.
The texts that are read are those of this form; none of them spells a date.

    readLocal? cs = some l for an l with the day d ↔ Spells cs d     (readLocal?_iff)
-/

namespace TaskBoard

namespace Timestamp

open Date (Ends ends_cons ends_nil exists_of_number? expect?_eq_some_iff number?_append)

/-! ## Forms -/

/-- Nothing, or a point with digits behind it. -/
inductive SpellsFraction : List Char → Prop
  | none : SpellsFraction []
  | some {ds : List Char} (hne : ds ≠ []) (h : ∀ c ∈ ds, Numeral.isDigit c = true) :
    SpellsFraction ('.' :: ds)

/-- `Z`, or a sign with hours and minutes; the minus sign may be the proper one. -/
inductive SpellsOffset : List Char → Prop
  | utc {c : Char} (hc : c = 'Z' ∨ c = 'z') : SpellsOffset [c]
  | shift {c : Char} {h m : List Char} {hours minutes : Nat}
    (hc : c = '+' ∨ c = '-' ∨ c = '\u2212') (hh : Numeral.Spells 2 2 h hours)
    (hm : Numeral.Spells 2 2 m minutes) (hlt : hours < 24 ∧ minutes < 60) :
    SpellsOffset (c :: (h ++ ':' :: m))

/-- Hours, minutes and seconds with the offset; the second 60 is a leap second. -/
inductive SpellsTime : List Char → Prop
  | intro {h m s f o : List Char} {hour minute second : Nat} (hh : Numeral.Spells 2 2 h hour)
    (hm : Numeral.Spells 2 2 m minute) (hs : Numeral.Spells 2 2 s second) (hf : SpellsFraction f)
    (ho : SpellsOffset o) (hlt : hour < 24 ∧ minute < 60 ∧ second ≤ 60) :
    SpellsTime (h ++ ':' :: (m ++ ':' :: (s ++ (f ++ o))))

/-- A day as `YYYY-MM-DD`, and the time behind a `T` or a blank. -/
inductive Spells : List Char → Date → Prop
  | intro {y mo d time : List Char} {c : Char} {year month day : Nat}
    (hy : Numeral.Spells 4 4 y year) (hmo : Numeral.Spells 2 2 mo month)
    (hd : Numeral.Spells 2 2 d day) (hc : c = 'T' ∨ c = 't' ∨ c = ' ') (ht : SpellsTime time)
    (hvalid : Date.IsValid ⟨year, month, day⟩) :
    Spells (y ++ '-' :: (mo ++ '-' :: (d ++ c :: time))) ⟨year, month, day⟩

/-! ## Parts -/

variable {cs rest : List Char}

theorem exists_of_fraction? {k : Nat} (h : fraction? cs = some (k, rest)) :
    ∃ ds, cs = ds ++ rest ∧ SpellsFraction ('.' :: ds) := by
  obtain ⟨⟨n, r⟩, hn, h⟩ := Option.bind_eq_some_iff.1 h
  cases h
  obtain ⟨ds, rfl, hds⟩ := exists_of_number? hn
  refine ⟨ds ++ r.takeWhile Numeral.isDigit, ?_, .some (by simp [hds.ne_nil]) fun c hc => ?_⟩
  · rw [List.append_assoc, List.takeWhile_append_dropWhile]
  · rcases List.mem_append.1 hc with hc | hc
    · exact hds.isDigit c hc
    · exact List.mem_takeWhile_imp hc

theorem fraction?_append {ds : List Char} (h : SpellsFraction ('.' :: ds)) (hr : Ends rest) :
    ∃ k, fraction? (ds ++ rest) = some (k, rest) := by
  obtain - | ⟨hne, hds⟩ := h
  -- only nine digits are read as a number
  have hfirst : ∀ c ∈ ds.take 9, Numeral.isDigit c = true :=
    fun c hc => hds c (List.mem_of_mem_take hc)
  obtain ⟨n, hn⟩ := Numeral.exists_readNat? (by simpa using hne) hfirst
  have hlength : 1 ≤ ds.length := List.length_pos_iff.2 hne
  have hspells : Numeral.Spells 1 9 (ds.take 9) n :=
    ⟨hn, by rw [List.length_take]; omega, List.length_take_le _ _⟩
  have hends : (ds.take 9).length = 9 ∨ Ends (ds.drop 9 ++ rest) := by
    rcases Nat.le_total 9 ds.length with hl | hl
    · exact .inl (List.length_take_of_le hl)
    · exact .inr (by rwa [List.drop_eq_nil_of_le hl, List.nil_append])
  have hnumber := number?_append hspells hends
  rw [← List.append_assoc, List.take_append_drop] at hnumber
  have hskip : (ds.drop 9 ++ rest).dropWhile Numeral.isDigit = rest := by
    rw [List.dropWhile_append_of_pos fun c hc => hds c (List.mem_of_mem_drop hc)]
    cases rest with
    | nil => rfl
    | cons c cs => exact List.dropWhile_cons_of_neg (by simp [hr c rfl])
  simp [fraction?, hnumber, hskip]

/-- Behind the sign, whatever it is, stand the hours and the minutes. -/
theorem exists_of_shift {c : Char} {o : Int} (sign : Int) (hc : c = '+' ∨ c = '-' ∨ c = '\u2212')
    (h : ((Date.number? 2 2 cs).bind fun hours => (Date.expect? ':' hours.2).bind fun cs =>
      (Date.number? 2 2 cs).bind fun minutes =>
        if hours.1 < 24 ∧ minutes.1 < 60 then
          some (sign * ((hours.1 : Int) * 60 + minutes.1), minutes.2)
        else none) = some (o, rest)) :
    ∃ os, c :: cs = os ++ rest ∧ SpellsOffset os := by
  obtain ⟨⟨hours, c₁⟩, hh, h⟩ := Option.bind_eq_some_iff.1 h
  obtain ⟨c₂, hcolon, h⟩ := Option.bind_eq_some_iff.1 h
  obtain ⟨⟨minutes, c₃⟩, hm, h⟩ := Option.bind_eq_some_iff.1 h
  dsimp only at hcolon h
  split at h
  · next hlt =>
    cases h
    obtain ⟨hs, rfl, hhs⟩ := exists_of_number? hh
    obtain ⟨ms, rfl, hms⟩ := exists_of_number? hm
    obtain rfl := expect?_eq_some_iff.1 hcolon
    exact ⟨c :: (hs ++ ':' :: ms), by simp, .shift hc hhs hms hlt⟩
  · cases h

theorem exists_of_offset? {o : Int} (h : offset? cs = some (o, rest)) :
    ∃ os, cs = os ++ rest ∧ SpellsOffset os := by
  unfold offset? at h
  split at h
  · cases h
  · next c cs =>
    split at h
    · next hc =>
      cases h
      exact ⟨[c], rfl, .utc hc⟩
    · dsimp only at h
      split at h
      · next hc => exact exists_of_shift 1 (.inl hc) h
      · split at h
        · next hc => exact exists_of_shift (-1) (.inr hc) h
        · cases h

theorem offset?_append {os : List Char} (h : SpellsOffset os) (hr : Ends rest) :
    ∃ o, offset? (os ++ rest) = some (o, rest) := by
  cases h with
  | utc hc => exact ⟨0, if_pos hc⟩
  | @shift c h m hours minutes hc hh hm hlt =>
    have hcolon : Ends (':' :: (m ++ rest)) := ends_cons (by decide)
    rcases hc with rfl | rfl | rfl <;>
      simp [offset?, number?_append hh (.inr hcolon), number?_append hm (.inr hr), Date.expect?,
        hlt]

theorem SpellsOffset.ends {os : List Char} (h : SpellsOffset os) : Ends (os ++ rest) := by
  cases h with
  | utc hc => rcases hc with rfl | rfl <;> exact ends_cons (by decide)
  | shift hc => rcases hc with rfl | rfl | rfl <;> exact ends_cons (by decide)

theorem SpellsFraction.ends {fs : List Char} (h : SpellsFraction fs) (hr : Ends rest) :
    Ends (fs ++ rest) := by
  cases h with
  | none => exact hr
  | some => exact ends_cons (by decide)

/-- An offset does not begin with a point. -/
theorem SpellsOffset.ne_point {os : List Char} (h : SpellsOffset os) : os ≠ '.' :: rest := by
  rintro rfl
  cases h with
  | utc hc => rcases hc with hc | hc <;> exact absurd hc (by decide)
  | shift hc => rcases hc with hc | hc | hc <;> exact absurd hc (by decide)

/-! ## Timestamps -/

/-- The offset ends the text, and the day is one of the calendar. -/
theorem spellsOffset_of_end {y : Int} {mo d : Nat} {p : Prop} [Decidable p] {l : Local}
    {instant : Int × List Char → Date → Timestamp}
    (h : ((offset? cs).bind fun o => (Date.ofCivil? y mo d).bind fun day =>
      if o.2.isEmpty = true ∧ p then some (Local.mk day (instant o day)) else none) = some l) :
    SpellsOffset cs ∧ p ∧ l.day = ⟨y, mo, d⟩ ∧ l.day.IsValid := by
  obtain ⟨⟨o, rest⟩, ho, h⟩ := Option.bind_eq_some_iff.1 h
  obtain ⟨day, hday, h⟩ := Option.bind_eq_some_iff.1 h
  dsimp only at h
  split at h
  · next hp =>
    cases h
    obtain rfl := List.isEmpty_iff.1 hp.1
    obtain ⟨os, hos, hoffset⟩ := exists_of_offset? ho
    rw [hos, List.append_nil]
    exact ⟨hoffset, hp.2, Date.ofCivil?_eq_some_iff.1 hday⟩
  · cases h

/-- What a text gives is what is read behind its first part. -/
theorem exists_bind_of_eq {α β : Type} {x : Option α} {a : α} {f : α → Option β} {p : β → Prop}
    (h : x = some a) (hf : ∃ b, f a = some b ∧ p b) : ∃ b, x.bind f = some b ∧ p b := by
  rwa [h, Option.bind_some]

theorem end_of_spellsOffset {y : Int} {mo d : Nat} {p : Prop} [Decidable p]
    {instant : Int × List Char → Date → Timestamp} (ho : SpellsOffset cs) (hp : p)
    (hvalid : Date.IsValid ⟨y, mo, d⟩) :
    ∃ l, ((offset? cs).bind fun o => (Date.ofCivil? y mo d).bind fun day =>
      if o.2.isEmpty = true ∧ p then some (Local.mk day (instant o day)) else none) = some l ∧
      l.day = ⟨y, mo, d⟩ := by
  obtain ⟨o, hoffset⟩ := offset?_append ho ends_nil
  rw [List.append_nil] at hoffset
  refine exists_bind_of_eq hoffset ?_
  refine exists_bind_of_eq (if_pos hvalid) ?_
  exact ⟨_, if_pos ⟨rfl, hp⟩, rfl⟩

theorem spells_of_readLocal? {l : Local} (h : readLocal? cs = some l) : Spells cs l.day := by
  unfold readLocal? at h
  obtain ⟨⟨y, c₁⟩, hy, h⟩ := Option.bind_eq_some_iff.1 h
  obtain ⟨c₂, hdash, h⟩ := Option.bind_eq_some_iff.1 h
  obtain ⟨⟨mo, c₃⟩, hmo, h⟩ := Option.bind_eq_some_iff.1 h
  obtain ⟨c₄, hdash', h⟩ := Option.bind_eq_some_iff.1 h
  obtain ⟨⟨d, c₅⟩, hd, h⟩ := Option.bind_eq_some_iff.1 h
  dsimp only at hdash hdash' h
  split at h
  · next c time =>
    split at h
    · next hsep =>
      obtain ⟨c₆, htime, h⟩ := Option.bind_eq_some_iff.1 h
      obtain ⟨⟨hour, c₇⟩, hh, h⟩ := Option.bind_eq_some_iff.1 h
      obtain ⟨c₈, hcolon, h⟩ := Option.bind_eq_some_iff.1 h
      obtain ⟨⟨minute, c₉⟩, hm, h⟩ := Option.bind_eq_some_iff.1 h
      obtain ⟨c₁₀, hcolon', h⟩ := Option.bind_eq_some_iff.1 h
      obtain ⟨⟨second, c₁₁⟩, hs, h⟩ := Option.bind_eq_some_iff.1 h
      dsimp only at hcolon hcolon' h
      -- what has been read so far, with or without a fraction behind it
      have whole : ∀ {f os : List Char}, c₁₁ = f ++ os → SpellsFraction f →
          SpellsOffset os ∧ (hour < 24 ∧ minute < 60 ∧ second ≤ 60) ∧ l.day = ⟨y, mo, d⟩ ∧
            l.day.IsValid → Spells cs l.day := by
        rintro f os hfos hf ⟨ho, hlt, hday, hvalid⟩
        obtain ⟨ys, hys, hyear⟩ := exists_of_number? hy
        obtain ⟨mos, hmos, hmonth⟩ := exists_of_number? hmo
        obtain ⟨ds, hds, hdays⟩ := exists_of_number? hd
        obtain ⟨hs', hhs, hhour⟩ := exists_of_number? hh
        obtain ⟨ms, hms, hminute⟩ := exists_of_number? hm
        obtain ⟨ss, hss, hsecond⟩ := exists_of_number? hs
        rw [hday] at hvalid ⊢
        rw [hys, expect?_eq_some_iff.1 hdash, hmos, expect?_eq_some_iff.1 hdash', hds,
          Option.some.inj htime, hhs, expect?_eq_some_iff.1 hcolon, hms,
          expect?_eq_some_iff.1 hcolon', hss, hfos]
        exact .intro hyear hmonth hdays hsep (.intro hhour hminute hsecond hf ho hlt) hvalid
      split at h
      · obtain ⟨⟨nanos, os⟩, hnanos, h⟩ := Option.bind_eq_some_iff.1 h
        obtain ⟨ds, hds, hf⟩ := exists_of_fraction? hnanos
        exact whole (f := '.' :: ds) (by rw [hds]; rfl) hf (spellsOffset_of_end h)
      · obtain ⟨⟨nanos, os⟩, hnanos, h⟩ := Option.bind_eq_some_iff.1 h
        cases hnanos
        exact whole (f := []) rfl .none (spellsOffset_of_end h)
    · cases h
  · cases h

theorem readLocal?_of_spells {d : Date} (h : Spells cs d) :
    ∃ l, readLocal? cs = some l ∧ l.day = d := by
  obtain @⟨ys, mos, ds, time, c, y, mo, d, hy, hmo, hd, hc, ht, hvalid⟩ := h
  obtain @⟨hrs, ms, ss, f, os, hour, minute, second, hh, hm, hs, hf, ho, hlt⟩ := ht
  have dash : ∀ {rest : List Char}, Ends ('-' :: rest) := ends_cons (by decide)
  have colon : ∀ {rest : List Char}, Ends (':' :: rest) := ends_cons (by decide)
  have separator : Ends (c :: (hrs ++ ':' :: (ms ++ ':' :: (ss ++ (f ++ os))))) := by
    rcases hc with rfl | rfl | rfl <;> exact ends_cons (by decide)
  have hends : Ends os := List.append_nil os ▸ ho.ends
  refine exists_bind_of_eq (number?_append hy (.inr dash)) ?_
  refine exists_bind_of_eq (expect?_eq_some_iff.2 rfl) ?_
  refine exists_bind_of_eq (number?_append hmo (.inr dash)) ?_
  refine exists_bind_of_eq (expect?_eq_some_iff.2 rfl) ?_
  refine exists_bind_of_eq (number?_append hd (.inr separator)) ?_
  dsimp only
  rw [if_pos hc]
  refine exists_bind_of_eq rfl ?_
  refine exists_bind_of_eq (number?_append hh (.inr colon)) ?_
  refine exists_bind_of_eq (expect?_eq_some_iff.2 rfl) ?_
  refine exists_bind_of_eq (number?_append hm (.inr colon)) ?_
  refine exists_bind_of_eq (expect?_eq_some_iff.2 rfl) ?_
  refine exists_bind_of_eq (number?_append hs (.inr (hf.ends hends))) ?_
  cases hf with
  | none =>
    dsimp only
    split
    · next hpoint => exact absurd hpoint ho.ne_point
    · exact exists_bind_of_eq rfl (end_of_spellsOffset ho hlt hvalid)
  | some hne hdigits =>
    obtain ⟨nanos, hnanos⟩ := fraction?_append (.some hne hdigits) hends
    exact exists_bind_of_eq hnanos (end_of_spellsOffset ho hlt hvalid)

/-- The texts that are read are those that spell a timestamp, each as the day it begins with. -/
theorem readLocal?_iff {d : Date} :
    (∃ l, readLocal? cs = some l ∧ l.day = d) ↔ Spells cs d :=
  ⟨fun ⟨_, h, hd⟩ => hd ▸ spells_of_readLocal? h, readLocal?_of_spells⟩

theorem Spells.isValid {d : Date} (h : Spells cs d) : d.IsValid := by
  obtain ⟨-, -, -, -, -, hvalid⟩ := h
  exact hvalid

theorem isValid_of_readLocal? {l : Local} (h : readLocal? cs = some l) : l.day.IsValid :=
  (spells_of_readLocal? h).isValid

namespace Spells

variable {d : Date}

/-- The year has four digits. -/
theorem year_bounds (h : Spells cs d) : 0 ≤ d.year ∧ d.year ≤ 9999 := by
  obtain @⟨ys, -, -, -, -, year, -, -, hy, -⟩ := h
  have hlt := Numeral.lt_of_readNat? hy.value
  have hpow : 10 ^ ys.length ≤ 10 ^ 4 := Nat.pow_le_pow_right (by omega) hy.most
  constructor
  · exact Int.natCast_nonneg year
  · show (year : Int) ≤ 9999
    omega

/-- A timestamp is no date, since it goes on behind the day. -/
theorem read?_eq_none (h : Spells cs d) : Date.read? cs = none := by
  obtain @⟨ys, mos, ds, time, c, y, mo, d, hy, hmo, hd, hc, -, -⟩ := h
  have dash : ∀ {rest : List Char}, Ends ('-' :: rest) := ends_cons (by decide)
  have separator : Ends (c :: time) := by
    rcases hc with rfl | rfl | rfl <;> exact ends_cons (by decide)
  have short : ∀ {ds : List Char} {n : Nat}, Numeral.Spells 2 2 ds n → Numeral.Spells 1 2 ds n :=
    fun h => ⟨h.value, Nat.le_trans (by omega) h.least, h.most⟩
  have first : ∀ {least most : Nat} {ds rest : List Char} {n : Nat},
      Numeral.Spells least most ds n → Text.trimLeft (ds ++ rest) = ds ++ rest :=
    fun h => Text.trimLeft_append (b := []) (by simp) h.ne_blank
  have hyear : Date.SpellsYear ys y := .unsigned ⟨hy.value, Nat.le_trans (by omega) hy.least, hy.most⟩
  simp only [Date.read?, first hy, Date.year?_append hyear dash, Date.expect?, if_true, first hmo,
    number?_append (short hmo) (.inr dash), first hd, number?_append (short hd) (.inr separator),
    Option.bind_eq_bind, Option.bind_some]
  rfl

end Spells

end Timestamp

end TaskBoard
