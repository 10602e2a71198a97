import TaskBoard.Proofs.Filter.Literal
import TaskBoard.Proofs.Filter.Placeholders

/-!
# Dates in conditions

A value of a condition that spells a day is bound as the text of the day, which spells the same
day again.  It is meant to be `YYYY-MM-DD`, but a date may be spelled with any year that has a
sign, and then its text has one, too.

    what stands under a cast to dates are such texts            (givesDates_of_dated)
    such a text is YYYY-MM-DD iff the year has four digits      (date?_text)
-/

namespace TaskBoard

open Sql (Expr IsReading)

/-! ## Values under a cast -/

/-- The placeholders under a cast to a date, and whether the cast is one to a list of dates. -/
def Sql.Expr.dated : Expr → List (Nat × Bool)
  | column _ _ => []
  | currentDate => []
  | slot _ => []
  | paren a => a.dated
  | existence _ _ a => a.dated
  | cast a type => if type = "date" then a.places.map fun p => (p.1, false) else a.dated
  | castArray a type => if type = "date" then a.places.map fun p => (p.1, true) else a.dated
  | minus a b => a.dated ++ b.dated
  | compare _ a b => a.dated ++ b.dated
  | compareAny _ a b => a.dated ++ b.dated
  | between a lo hi => a.dated ++ lo.dated ++ hi.dated
  | nullTest a _ => a.dated
  | not a => a.dated
  | and a b => a.dated ++ b.dated
  | or a b => a.dated ++ b.dated

/-- A date that the condition gives, bound as its text, or a list of such dates. -/
inductive Condition.GivesDates (c : Condition) : Bool → Sql.Value → Prop
  | one {v : Json} {d : Date} (hv : v ∈ c.values) (h : Literal.date? v = some d) :
    GivesDates c false (.scalar (.text d.text))
  | many {ds : List Date} (h : ∀ d ∈ ds, ∃ v ∈ c.values, Literal.date? v = some d) :
    GivesDates c true (.series (.texts (ds.map Date.text)))

theorem DateSource.dated_tree (d : DateSource) : d.tree.dated = [] := by
  cases d <;> rfl

/-- Without casts at its places, a match has none under a cast. -/
theorem Match.dated_tree_false {α : Type} (m : Match α) {subject : Expr} (h : subject.dated = [])
    (i : Nat) : (m.tree false subject i).dated = [] := by
  cases m <;> simp [tree, Expr.dated, h, placeTree, placeManyTree]

/-- All values of a match with dates are under casts. -/
theorem Match.dated_tree_true (m : Match Date) {subject : Expr} (h : subject.dated = [])
    (i : Nat) : (m.tree true subject i).dated = Sql.placesFrom i (m.bound dateBinding) := by
  cases m <;> simp [tree, Expr.dated, h, placeTree, placeManyTree, Expr.places, bound,
    Sql.placesFrom, Sql.Value.isSeries, List.range'_succ]

/-- Only a test of a date has values under casts. -/
theorem Test.dated_tree {t : Test} {i : Nat} {p : Nat × Bool} (h : p ∈ (t.tree i).dated) :
    ∃ d m, t = .date d m ∧ p ∈ Sql.placesFrom i (m.bound Match.dateBinding) := by
  cases t with
  | date d m =>
    rw [tree, m.dated_tree_true d.dated_tree] at h
    exact ⟨d, m, rfl, h⟩
  | null c yes => cases h
  | text c m =>
    rw [tree, m.dated_tree_false rfl] at h
    cases h
  | id c m =>
    rw [tree, m.dated_tree_false rfl] at h
    cases h
  | dayDiff earlier later m =>
    have hsubject : (dayDiffTree earlier later).dated = [] := by
      simp [dayDiffTree, Expr.dated, DateSource.dated_tree]
    rw [tree, m.dated_tree_false hsubject] at h
    cases h
  | assigned yes who => cases yes <;> cases who <;> cases h

theorem Test.exists_of_ofAssignee? {asking : String} {op : Operator} {vs : List Json} {t : Test}
    (h : ofAssignee? asking op vs = some t) : ∃ yes who, t = .assigned yes who := by
  unfold ofAssignee? at h
  split at h
  · exact ⟨_, _, (Option.some.inj h).symm⟩
  · exact ⟨_, _, (Option.some.inj h).symm⟩
  · obtain ⟨u, -, rfl⟩ := Option.map_eq_some_iff.1 h
    exact ⟨_, _, rfl⟩
  · obtain ⟨u, -, rfl⟩ := Option.map_eq_some_iff.1 h
    exact ⟨_, _, rfl⟩
  · obtain ⟨us, -, rfl⟩ := Option.map_eq_some_iff.1 h
    exact ⟨_, _, rfl⟩
  · cases h

section

variable {s : Scope} {c : Condition} {d : DateSource} {m : Match Date}

theorem Test.given_of_ofColumn? {col : Column} {op : Operator} {vs : List Json}
    (h : ofColumn? col op vs = some (.date d m)) : Match.Given Literal.Spells op vs m := by
  unfold ofColumn? at h
  split at h
  · cases h
  · cases col with
    | date col =>
      obtain ⟨m', hm, h⟩ := Option.map_eq_some_iff.1 h
      cases h
      exact (Match.ofValues?_eq_some_iff Literal.date?_eq_some_iff).1 hm
    | text col =>
      obtain ⟨m', -, h⟩ := Option.map_eq_some_iff.1 h
      cases h
    | id col =>
      obtain ⟨m', -, h⟩ := Option.map_eq_some_iff.1 h
      cases h

/-- What a condition compares a date with, it gives among its values. -/
theorem Test.given_of_ofCondition? (h : ofCondition? s c = some (.date d m)) :
    ∃ op, Match.Given Literal.Spells op c.values m := by
  unfold ofCondition? at h
  split at h
  · unfold ofList? at h
    split at h
    · exact ⟨_, given_of_ofColumn? h⟩
    · obtain ⟨m', hm, h⟩ := Option.map_eq_some_iff.1 h
      cases h
      exact ⟨_, (Match.ofValues?_eq_some_iff Literal.date?_eq_some_iff).1 hm⟩
    · obtain ⟨yes, who, h⟩ := exists_of_ofAssignee? h
      cases h
    · cases h
  · obtain ⟨earlier, -, h⟩ := Option.bind_eq_some_iff.1 h
    obtain ⟨later, -, h⟩ := Option.bind_eq_some_iff.1 h
    obtain ⟨u, -, h⟩ := Option.bind_eq_some_iff.1 h
    obtain ⟨m', -, h⟩ := Option.bind_eq_some_iff.1 h
    cases h
  · rw [Condition.ofDateRange?_eq] at h
    split at h
    · obtain ⟨d', -, h⟩ := Option.bind_eq_some_iff.1 h
      obtain ⟨m', hm, h⟩ := Option.map_eq_some_iff.1 h
      cases h
      exact ⟨_, (Match.ofValues?_eq_some_iff Literal.date?_eq_some_iff).1 hm⟩
    · cases h
  · cases h

theorem Match.Given.givesDates {op : Operator} (h : Given Literal.Spells op c.values m)
    {value : Sql.Value} (hv : value ∈ m.bound dateBinding) : c.GivesDates value.isSeries value := by
  have given (d : Date) (hd : d ∈ m.values) : ∃ v ∈ c.values, Literal.date? v = some d := by
    obtain ⟨k, hk, rfl⟩ := List.mem_iff_getElem.1 hd
    have hlt := h.forall₂.length_eq ▸ hk
    exact ⟨_, List.getElem_mem hlt, Literal.date?_eq_some_iff.2 (h.forall₂.get hlt hk)⟩
  cases m with
  | compare op d =>
    obtain rfl := List.mem_singleton.1 hv
    obtain ⟨v, hv, hread⟩ := given d List.mem_cons_self
    exact .one hv hread
  | oneOf ds =>
    obtain rfl := List.mem_singleton.1 hv
    exact .many given
  | between lo hi =>
    rcases List.mem_pair.1 hv with rfl | rfl
    · obtain ⟨v, hv, hread⟩ := given lo List.mem_cons_self
      exact .one hv hread
    · obtain ⟨v, hv, hread⟩ := given hi (List.mem_cons_of_mem _ List.mem_cons_self)
      exact .one hv hread

end

theorem Sql.exists_of_mem_placesFrom {i : Nat} {vs : List Value} {p : Nat × Bool}
    (h : p ∈ placesFrom i vs) :
    ∃ k value, p = (i + k, value.isSeries) ∧ vs[k]? = some value := by
  obtain ⟨k, hk, rfl⟩ := List.mem_iff_getElem.1 h
  have hlt : k < vs.length := by simpa [placesFrom] using hk
  exact ⟨k, vs[k], by simp [placesFrom], List.getElem?_eq_getElem hlt⟩

/-- The values under casts are dates that the condition gives. -/
theorem Test.givesDates_of_dated {s : Scope} {c : Condition} {t : Test}
    (h : ofCondition? s c = some t) {i n : Nat} {many : Bool}
    (hp : (n, many) ∈ (t.tree i).dated) :
    ∃ k value, n = i + k ∧ t.template.values[k]? = some value ∧ c.GivesDates many value := by
  obtain ⟨d, m, rfl, hplace⟩ := dated_tree hp
  obtain ⟨op, hm⟩ := given_of_ofCondition? h
  obtain ⟨k, value, heq, hvalue⟩ := Sql.exists_of_mem_placesFrom hplace
  cases heq
  refine ⟨k, value, rfl, ?_, hm.givesDates (List.mem_of_getElem? hvalue)⟩
  rw [template, Match.values_template]
  exact hvalue

/-! ## Dates and their texts -/

/-- **Dates of conditions.**  A value is read as a date if and only if it spells that day, or a
timestamp of it.  The text of the day is read as the day again.  It is `YYYY-MM-DD` if the year is
one from 0 to 9999, as it is for a timestamp, and for no other year.  However the text of a
condition is read as SQL, its values under a cast to a date are such texts, and those under a cast
to a list of dates are lists of them, all of days among the values of the condition. -/
theorem Literal.date?_text (v : Json) (d : Date) :
    (date? v = some d ↔ Spells v d) ∧
    (date? v = some d →
      date? (.string d.text) = some d ∧
      (Date.IsPlain d.text.toList ↔ 0 ≤ d.year ∧ d.year ≤ 9999)) ∧
    (∀ s : String, v = .string s → Timestamp.Spells (Text.trim s.toList) d →
      date? v = some d ∧ Date.IsPlain d.text.toList) ∧
    ∀ (s : Scope) (c : Condition) (t : Test) (i : Nat) (e : Expr),
      Test.ofCondition? s c = some t → IsReading (t.template.sql i) e →
        ∀ (n : Nat) (many : Bool), (n, many) ∈ e.dated →
          ∃ k value, n = i + k ∧ t.template.values[k]? = some value ∧ c.GivesDates many value := by
  have plain (h : date? v = some d) :
      Date.IsPlain d.text.toList ↔ 0 ≤ d.year ∧ d.year ≤ 9999 := by
    rw [Date.text, String.toList_ofList]
    exact Date.isPlain_render_iff (date?_eq_some_iff.1 h).isValid
  refine ⟨date?_eq_some_iff, fun h => ⟨date?_of_text (date?_eq_some_iff.1 h).isValid, plain h⟩, ?_,
    fun s c t i e ht he n many hp => ?_⟩
  · rintro s rfl h
    have hread := date?_eq_some_iff.2 (.timestamp h)
    exact ⟨hread, (plain hread).2 h.year_bounds⟩
  · obtain rfl := (Sql.isReading_iff_eq (t.isReading_test i)).1 he
    exact Test.givesDates_of_dated ht hp

namespace Sample

/-- Half an hour before midnight on a leap day, three hours behind; the day in UTC is another. -/
def lateOnLeapDay : Json := .string " 2024-02-29t23:30:00.5-03:00"

def leapDay : Date := ⟨2024, 2, 29⟩

/-- A day of a year with five digits. -/
def farDay : Date := ⟨12345, 1, 1⟩

/-- Between the leap day and the far day. -/
def rangeOfDays : Condition :=
  ⟨.dateRange, .column (.date .due), .between, [lateOnLeapDay, .string "+12345-1- 1"], none, none,
    none⟩

end Sample

theorem Literal.date?_lateOnLeapDay : date? Sample.lateOnLeapDay = some Sample.leapDay := by
  decide +kernel

theorem Literal.date?_farDay : date? (.string "+12345-1- 1") = some Sample.farDay := by
  decide +kernel

/-- Both ends of the range are bound as dates; the text of only one of them is `YYYY-MM-DD`. -/
theorem Literal.date?_text_rangeOfDays :
    Spells Sample.lateOnLeapDay Sample.leapDay ∧
    Date.IsPlain Sample.leapDay.text.toList ∧
    date? (.string Sample.farDay.text) = some Sample.farDay ∧
    ¬ Date.IsPlain Sample.farDay.text.toList ∧
    ∃ t, Test.ofCondition? ⟨"u", "n", .empty⟩ Sample.rangeOfDays = some t ∧
      t.template.values = [.scalar (.text "2024-02-29"), .scalar (.text "+12345-01-01")] ∧
      Sample.rangeOfDays.GivesDates false (.scalar (.text "+12345-01-01")) := by
  obtain ⟨hspells, htext, -⟩ := date?_text Sample.lateOnLeapDay Sample.leapDay
  obtain ⟨-, hplain⟩ := htext date?_lateOnLeapDay
  obtain ⟨-, hfar, -, hbound⟩ := date?_text (.string "+12345-1- 1") Sample.farDay
  obtain ⟨hagain, hnot⟩ := hfar date?_farDay
  have htest : Test.ofCondition? ⟨"u", "n", .empty⟩ Sample.rangeOfDays =
      some (.date (.column .due) (.between Sample.leapDay Sample.farDay)) := by decide +kernel
  have hvalues : (Test.date (.column .due) (.between Sample.leapDay Sample.farDay)).template.values =
      [.scalar (.text "2024-02-29"), .scalar (.text "+12345-01-01")] := by decide +kernel
  refine ⟨hspells.1 date?_lateOnLeapDay, hplain.2 (by decide), hagain,
    hnot.not.2 (by decide), _, htest, hvalues, ?_⟩
  -- the second placeholder from `$4` on
  obtain ⟨k, value, hk, hvalue, hgives⟩ := hbound _ _ _ 4 _ htest (Test.isReading_test 4 _) 5 false
    (List.mem_cons_of_mem _ List.mem_cons_self)
  obtain rfl : k = 1 := by omega
  rw [hvalues] at hvalue
  cases hvalue
  exact hgives

/-- Not every date is bound as `YYYY-MM-DD`. -/
theorem Literal.not_date?_plain :
    ¬ ∀ (v : Json) (d : Date), date? v = some d → Date.IsPlain d.text.toList := by
  intro hall
  have hplain := hall _ _ date?_farDay
  rw [Date.text, String.toList_ofList, Date.isPlain_render_iff (by decide)] at hplain
  exact absurd hplain (by decide)

end TaskBoard
