import Mathlib.Data.List.Forall2
import TaskBoard.Api.TaskQuery
import TaskBoard.Proofs.Numeral
import TaskBoard.Proofs.Program
import TaskBoard.Proofs.Text.Blank
import TaskBoard.Proofs.Text.Pieces

/-!
# Numbers of saved filters

A listing names its saved filters by their numbers, with commas between.  A number may have a plus
sign in front of it, zeros behind that, and blanks around it all; where nothing stands between two
commas, no filter is meant.  What has another form, or stands for no positive number of 64 bits, is
refused, and of several such pieces the first one is named.  Only then are the numbers counted.

    readPositive? w = some id iff w spells id                   (readPositive?_eq_some_iff)
    the pieces that are read are those that count               (lists_iff)
    a text is read iff it is a list of few numbers              (ids_grammar)
-/

namespace TaskBoard

/-! ## The grammar -/

/-- A text with blanks around it, and none at its own ends. -/
structure Text.TrimsTo (cs w : List Char) : Prop where
  blanks : ∃ left right, cs = left ++ w ++ right ∧ ∀ c ∈ left ++ right, isBlank c = true
  ends : ∀ h : w ≠ [], isBlank (w.head h) = false ∧ isBlank (w.getLast h) = false

namespace TaskQuery

/-- How the number of a saved filter is written: in decimal digits, perhaps behind a plus sign. -/
structure SpellsId (w : List Char) (id : Int) : Prop where
  digits : ∃ ds, (w = ds ∨ w = '+' :: ds) ∧ ds ≠ [] ∧ (∀ c ∈ ds, '0' ≤ c ∧ c ≤ '9') ∧
    id = Numeral.value ds
  least : 1 ≤ id
  most : id ≤ 2 ^ 63 - 1

/-- The pieces of a text that count: what stands between two commas, without the blanks around it,
unless that is nothing. -/
def Lists (s : String) (ws : List (List Char)) : Prop :=
  ∃ pieces trimmed : List (List Char), pieces ≠ [] ∧ (∀ p ∈ pieces, ',' ∉ p) ∧
    s.toList = [','].intercalate pieces ∧ List.Forall₂ Text.TrimsTo pieces trimmed ∧
    ws = trimmed.filter (· ≠ [])

/-- The first of the pieces that spells no number. -/
def FirstWrong (ws : List (List Char)) (w : List Char) : Prop :=
  ∃ front back, ws = front ++ w :: back ∧ (∀ v ∈ front, ∃ id, SpellsId v id) ∧
    ∀ id, ¬ SpellsId w id

end TaskQuery

/-! ## Results of a list -/

section

variable {ε α β : Type} {f : α → Except ε β}

theorem mapM_eq_ok_iff {as : List α} {bs : List β} :
    as.mapM f = .ok bs ↔ List.Forall₂ (fun a b => f a = .ok b) as bs := by
  induction as generalizing bs with
  | nil =>
    rw [List.mapM_nil, List.forall₂_nil_left_iff]
    exact ⟨fun h => (Except.ok.inj h).symm, fun h => congrArg _ h.symm⟩
  | cons a as ih =>
    rw [List.mapM_cons, List.forall₂_cons_left_iff]
    constructor
    · intro h
      obtain ⟨b, hb, h⟩ := bind_eq_ok.1 h
      obtain ⟨bs, hbs, h⟩ := bind_eq_ok.1 h
      cases h
      exact ⟨b, bs, hb, ih.1 hbs, rfl⟩
    · rintro ⟨b, bs, hb, hbs, rfl⟩
      exact bind_eq_ok.2 ⟨b, hb, bind_eq_ok.2 ⟨bs, ih.2 hbs, rfl⟩⟩

/-- The first fault in a list is the fault of the whole. -/
theorem mapM_eq_error_iff {as : List α} {e : ε} :
    as.mapM f = .error e ↔ ∃ front a back, as = front ++ a :: back ∧
      (∀ x ∈ front, ∃ b, f x = .ok b) ∧ f a = .error e := by
  induction as with
  | nil =>
    refine iff_of_false nofun ?_
    rintro ⟨front, a, back, h, -⟩
    exact List.append_ne_nil_of_right_ne_nil front (List.cons_ne_nil a back) h.symm
  | cons a as ih =>
    rw [List.mapM_cons]
    constructor
    · intro h
      rcases bind_eq_error.1 h with ha | ⟨b, hb, h⟩
      · exact ⟨[], a, as, rfl, nofun, ha⟩
      · rcases bind_eq_error.1 h with has | ⟨bs, -, h⟩
        · obtain ⟨front, x, back, rfl, hfront, hx⟩ := ih.1 has
          exact ⟨a :: front, x, back, rfl, List.forall_mem_cons.2 ⟨⟨b, hb⟩, hfront⟩, hx⟩
        · cases h
    · rintro ⟨_ | ⟨b, front⟩, x, back, h, hfront, hx⟩
      · cases h
        exact bind_eq_error.2 (.inl hx)
      · cases h
        obtain ⟨⟨b, hb⟩, hfront⟩ := List.forall_mem_cons.1 hfront
        have has := ih.2 ⟨front, x, back, rfl, hfront, hx⟩
        exact bind_eq_error.2 (.inr ⟨b, hb, bind_eq_error.2 (.inl has)⟩)

end

theorem exists_forall₂_iff {α β : Type} {R : α → β → Prop} {as : List α} :
    (∃ bs, List.Forall₂ R as bs) ↔ ∀ a ∈ as, ∃ b, R a b := by
  constructor
  · rintro ⟨bs, h⟩
    induction h with
    | nil => exact nofun
    | cons hab _ ih => exact List.forall_mem_cons.2 ⟨⟨_, hab⟩, ih⟩
  · intro h
    induction as with
    | nil => exact ⟨[], .nil⟩
    | cons a as ih =>
      obtain ⟨⟨b, hb⟩, has⟩ := List.forall_mem_cons.1 h
      obtain ⟨bs, hbs⟩ := ih has
      exact ⟨b :: bs, .cons hb hbs⟩

/-! ## Pieces -/

theorem Text.trimsTo_iff {cs w : List Char} : TrimsTo cs w ↔ trim cs = w := by
  by_cases hw : w = []
  · subst hw
    rw [trim_eq_nil_iff]
    constructor
    · rintro ⟨⟨left, right, rfl, hblank⟩, -⟩
      simpa using hblank
    · exact fun h => ⟨⟨cs, [], by simp, by simpa using h⟩, fun hne => absurd rfl hne⟩
  · rw [trim_eq_iff hw]
    constructor
    · rintro ⟨⟨left, right, hcs, hblank⟩, hends⟩
      exact ⟨left, right, hcs, hblank, hends hw⟩
    · rintro ⟨left, right, hcs, hblank, hends⟩
      exact ⟨⟨left, right, hcs, hblank⟩, fun _ => hends⟩

namespace TaskQuery

/-- The pieces that are read are those that count. -/
theorem lists_iff {s : String} {ws : List (List Char)} : Lists s ws ↔ segments s = ws := by
  have htrims (pieces trimmed : List (List Char)) :
      List.Forall₂ Text.TrimsTo pieces trimmed ↔ pieces.map Text.trim = trimmed := by
    have htrim : Text.TrimsTo = fun cs w => Text.trim cs = w :=
      funext₂ fun _ _ => propext Text.trimsTo_iff
    rw [htrim, ← List.forall₂_map_left_iff (R := (· = ·)), List.forall₂_eq_eq_eq]
  have hkept (ws : List (List Char)) : ws.filter (· ≠ []) = ws.filter fun w => !w.isEmpty :=
    List.filter_congr fun w _ => by cases w <;> rfl
  unfold Lists segments
  constructor
  · rintro ⟨pieces, trimmed, hne, hcomma, hs, htrimmed, rfl⟩
    rw [Text.split_eq_iff.2 ⟨hne, hcomma, hs⟩, (htrims _ _).1 htrimmed, hkept]
  · rintro rfl
    obtain ⟨hne, hcomma, hs⟩ := Text.split_eq_iff.1 (Eq.refl (Text.split (· == ',') s.toList))
    exact ⟨_, _, hne, hcomma, hs, (htrims _ _).2 rfl, (hkept _).symm⟩

/-! ## Numbers -/

theorem readPositive?_eq_some_iff {w : List Char} {id : Int} :
    Numeral.readPositive? w = some id ↔ SpellsId w id := by
  rw [Numeral.readPositive?, Option.filter_eq_some_iff, Numeral.readInt64?_eq_some_iff,
    decide_eq_true_iff]
  constructor
  · rintro ⟨⟨hs, -, hmost⟩, hpos⟩
    refine ⟨?_, hpos, by omega⟩
    cases hs with
    | plain hne hdigits => exact ⟨_, .inl rfl, hne, hdigits, rfl⟩
    | plus hne hdigits => exact ⟨_, .inr rfl, hne, hdigits, rfl⟩
    | minus => omega
  · rintro ⟨⟨ds, hw, hne, hdigits, rfl⟩, hleast, hmost⟩
    refine ⟨⟨?_, by omega, by omega⟩, hleast⟩
    rcases hw with rfl | rfl
    · exact .plain hne hdigits
    · exact .plus hne hdigits

theorem readId_eq_ok_iff {w : List Char} {id : Int} : readId w = .ok id ↔ SpellsId w id := by
  rw [← readPositive?_eq_some_iff, readId]
  cases Numeral.readPositive? w <;> simp

theorem readId_eq_error_iff {w : List Char} {p : Problem} :
    readId w = .error p ↔ (∀ id, ¬ SpellsId w id) ∧
      p = .badRequest "INVALID_FILTER_IDS" ("Invalid filter id: " ++ String.ofList w) := by
  simp only [← readPositive?_eq_some_iff]
  rw [readId]
  cases Numeral.readPositive? w <;> simp [eq_comm]

/-- A number as it is written. -/
theorem spellsId_ofInt {id : Int} (hleast : 1 ≤ id) (hmost : id ≤ 2 ^ 63 - 1) :
    SpellsId (Numeral.ofInt id) id := by
  obtain ⟨hne, hdigits, hvalue⟩ :=
    Numeral.readNat?_eq_some_iff.1 (Numeral.readNat?_digits id.natAbs)
  have hplain : Numeral.ofInt id = Numeral.digits id.natAbs := if_neg (by omega)
  refine ⟨⟨_, .inl hplain, hne, fun c hc => Numeral.isDigit_iff.1 (hdigits c hc), ?_⟩, hleast,
    hmost⟩
  rw [← hvalue]
  omega

/-! ## Texts -/

variable {s : String} {ids : List Int} {p : Problem}

theorem mapM_readId_eq_ok_iff {ws : List (List Char)} :
    ws.mapM readId = .ok ids ↔ List.Forall₂ SpellsId ws ids := by
  have hread : SpellsId = fun w id => readId w = .ok id :=
    funext₂ fun _ _ => propext readId_eq_ok_iff.symm
  rw [mapM_eq_ok_iff, hread]

theorem mapM_readId_eq_error_iff {ws : List (List Char)} :
    ws.mapM readId = .error p ↔ ∃ w, FirstWrong ws w ∧
      p = .badRequest "INVALID_FILTER_IDS" ("Invalid filter id: " ++ String.ofList w) := by
  simp only [mapM_eq_error_iff, readId_eq_ok_iff, readId_eq_error_iff]
  constructor
  · rintro ⟨front, w, back, hws, hfront, hwrong, hp⟩
    exact ⟨w, ⟨front, back, hws, hfront, hwrong⟩, hp⟩
  · rintro ⟨w, ⟨front, back, hws, hfront, hwrong⟩, hp⟩
    exact ⟨front, w, back, hws, hfront, hwrong, hp⟩

/-- The refusal of a text with too many numbers. -/
def tooManyFilters : Problem :=
  .badRequest "TOO_MANY_FILTERS" "At most 50 filters may be applied at once"

/-- The numbers are read first, and then counted. -/
theorem idsOfText_eq (s : String) :
    idsOfText s = (segments s).mapM readId >>= fun ids =>
      if 50 < ids.length then .error tooManyFilters else .ok ids := by
  have htext : "At most " ++ Numeral.natText maxFilters ++ " filters may be applied at once" =
      "At most 50 filters may be applied at once" := by decide +kernel
  unfold idsOfText
  congr 1
  funext ids
  rw [htext]
  show (if 50 < ids.length then _ else _) = _
  split <;> rfl

theorem idsOfText_eq_ok_iff :
    idsOfText s = .ok ids ↔ (segments s).length ≤ 50 ∧ List.Forall₂ SpellsId (segments s) ids := by
  rw [idsOfText_eq, bind_eq_ok]
  constructor
  · rintro ⟨ids', hread, h⟩
    split at h
    · cases h
    · next hfew =>
      cases h
      have hspelled := mapM_readId_eq_ok_iff.1 hread
      exact ⟨hspelled.length_eq.trans_le (Nat.le_of_not_lt hfew), hspelled⟩
  · rintro ⟨hfew, hspelled⟩
    refine ⟨ids, mapM_readId_eq_ok_iff.2 hspelled, if_neg ?_⟩
    exact Nat.not_lt.2 (hspelled.length_eq.symm.trans_le hfew)

/-- A wrong piece is told before the pieces are counted. -/
theorem idsOfText_eq_error_iff :
    idsOfText s = .error p ↔
      (∃ w, FirstWrong (segments s) w ∧
        p = .badRequest "INVALID_FILTER_IDS" ("Invalid filter id: " ++ String.ofList w)) ∨
      (∀ w ∈ segments s, ∃ id, SpellsId w id) ∧ 50 < (segments s).length ∧ p = tooManyFilters := by
  rw [idsOfText_eq, bind_eq_error, mapM_readId_eq_error_iff]
  refine or_congr_right ?_
  constructor
  · rintro ⟨ids, hread, h⟩
    split at h
    · next hmany =>
      cases h
      have hspelled := mapM_readId_eq_ok_iff.1 hread
      exact ⟨exists_forall₂_iff.1 ⟨ids, hspelled⟩, hspelled.length_eq.symm ▸ hmany, rfl⟩
    · cases h
  · rintro ⟨hall, hmany, rfl⟩
    obtain ⟨ids, hspelled⟩ := exists_forall₂_iff.2 hall
    exact ⟨ids, mapM_readId_eq_ok_iff.2 hspelled, if_pos (hspelled.length_eq ▸ hmany)⟩

/-- What has no comma and no blank is a piece of its own. -/
theorem trimsTo_of_no_blank {w : List Char} (h : ∀ c ∈ w, Text.isBlank c = false) :
    Text.TrimsTo w w :=
  ⟨⟨[], [], by simp, nofun⟩, fun hne => ⟨h _ (List.head_mem hne), h _ (List.getLast_mem hne)⟩⟩

/-- Numbers that are written with commas between are the pieces that count. -/
theorem lists_intercalate {ids : List Int} (hleast : ∀ id ∈ ids, 1 ≤ id) :
    Lists (",".intercalate (ids.map Numeral.text)) (ids.map Numeral.ofInt) := by
  have hdigits : ∀ w ∈ ids.map Numeral.ofInt, w ≠ [] ∧ ∀ c ∈ w, Numeral.isDigit c = true := by
    intro w hw
    obtain ⟨id, hid, rfl⟩ := List.mem_map.1 hw
    have hplain : Numeral.ofInt id = Numeral.digits id.natAbs :=
      if_neg (Int.not_lt.2 (Int.le_trans Int.one_nonneg (hleast id hid)))
    rw [hplain]
    exact ⟨Numeral.digits_ne_nil _, fun c hc => Numeral.isDigit_of_mem_digits hc⟩
  have htext := Numeral.toList_intercalate_text "," ids
  have hkept (ws : List (List Char)) (hws : ∀ w ∈ ws, w ≠ []) : ws = ws.filter (· ≠ []) :=
    (List.filter_eq_self.2 fun w hw => decide_eq_true (hws w hw)).symm
  by_cases hids : ids = []
  · -- between the ends of an empty text there is one empty piece
    subst hids
    exact ⟨[[]], [[]], by simp, by simp, rfl, by simp [trimsTo_of_no_blank], rfl⟩
  · refine ⟨_, _, by simpa using hids, fun w hw hcomma => ?_, htext, ?_,
      hkept _ fun w hw => (hdigits w hw).1⟩
    · exact absurd ((hdigits w hw).2 _ hcomma) (by decide)
    · refine List.forall₂_same.2 fun w hw => trimsTo_of_no_blank fun c hc => ?_
      exact Text.isBlank_of_isDigit ((hdigits w hw).2 c hc)

/-- **The numbers of a listing.**  A text of numbers is read exactly if what counts in it are
spellings of at most 50 numbers, and gives these numbers in their order.  Otherwise the first piece
that is no number is named, or, if there is none, there are too many.  Numbers that are written with
commas between are read. -/
theorem ids_grammar (q : TaskQuery) :
    ({ q with filterIds := none } : TaskQuery).ids = .ok [] ∧
    (∀ s : String, let r : TaskQuery := { q with filterIds := some s }
      (∀ ids, r.ids = .ok ids ↔
        ∃ ws, Lists s ws ∧ ws.length ≤ 50 ∧ List.Forall₂ SpellsId ws ids) ∧
      ∀ p, r.ids = .error p ↔ ∃ ws, Lists s ws ∧
        ((∃ w, FirstWrong ws w ∧
            p = .badRequest "INVALID_FILTER_IDS" ("Invalid filter id: " ++ String.ofList w)) ∨
          (∀ w ∈ ws, ∃ id, SpellsId w id) ∧ 50 < ws.length ∧
            p = .badRequest "TOO_MANY_FILTERS" "At most 50 filters may be applied at once")) ∧
    ∀ ids : List Int, ids.length ≤ 50 → (∀ id ∈ ids, 1 ≤ id ∧ id ≤ 2 ^ 63 - 1) →
      ({ q with filterIds := some (",".intercalate (ids.map Numeral.text)) } : TaskQuery).ids =
        .ok ids := by
  have hlists (s : String) (P : List (List Char) → Prop) :
      (∃ ws, Lists s ws ∧ P ws) ↔ P (segments s) := by
    simp only [lists_iff, exists_eq_left']
  refine ⟨rfl, fun s => ⟨fun ids => ?_, fun p => ?_⟩, fun ids hfew hids => ?_⟩
  · rw [hlists]
    exact idsOfText_eq_ok_iff
  · rw [hlists]
    exact idsOfText_eq_error_iff
  · have hspelled : List.Forall₂ SpellsId (ids.map Numeral.ofInt) ids :=
      List.forall₂_map_left_iff.2
        (List.forall₂_same.2 fun id hid => spellsId_ofInt (hids id hid).1 (hids id hid).2)
    have hsegments := lists_iff.1 (lists_intercalate fun id hid => (hids id hid).1)
    refine idsOfText_eq_ok_iff.2 ?_
    rw [hsegments, List.length_map]
    exact ⟨hfew, hspelled⟩

/-- The greatest number and a repetition; and a zero between numbers that are written in another
way, in front of a piece that is worse. -/
theorem ids_grammar_zero :
    let q (s : String) : TaskQuery := ⟨.default, some s, none, none⟩
    (q "3,9223372036854775807,3").ids = .ok [3, 9223372036854775807, 3] ∧
      (q " +7,,\t0 ,x").ids =
        .error (.badRequest "INVALID_FILTER_IDS" "Invalid filter id: 0") := by
  intro q
  obtain ⟨-, hread, hwritten⟩ := ids_grammar (q "")
  constructor
  · have htext : ",".intercalate ([3, 9223372036854775807, 3].map Numeral.text) =
        "3,9223372036854775807,3" := by decide +kernel
    have h := hwritten [3, 9223372036854775807, 3] (by decide) (by decide)
    rwa [htext] at h
  · have hlists : Lists " +7,,\t0 ,x" [['+', '7'], ['0'], ['x']] := lists_iff.2 (by decide)
    have hseven : SpellsId ['+', '7'] 7 := readPositive?_eq_some_iff.1 (by decide)
    have hzero : ∀ id, ¬ SpellsId ['0'] id := by
      intro id hid
      cases readPositive?_eq_some_iff.2 hid
    refine ((hread _).2 _).2 ⟨_, hlists, .inl ⟨['0'], ⟨[['+', '7']], [['x']], rfl, ?_, hzero⟩, rfl⟩⟩
    simpa using ⟨7, hseven⟩

end TaskQuery

end TaskBoard
