import Mathlib
import TaskBoard.Proofs.Filter.Meaning
import TaskBoard.Proofs.Filter.Saving

/-!
# What is accepted, and what is applied

A filter is accepted for its words alone: each is known, and each is one that the kind of its
condition can use.  The values are saved as they come.  Whether they suit the words shows when
the filter is applied: a condition takes part exactly if they do, whoever asks, and a filter
takes part exactly if it has such a condition.

    what is accepted has known words                            (accepted_of_input)
    an accepted condition is tested iff its values suit it      (isSome_ofCondition?_iff)
    an accepted filter narrows iff it has such a condition      (narrows_iff)
-/

namespace TaskBoard

/-! ## Words -/

/-- A condition that is saved: its words are known, each is spelled as its name, and the kind has
a use for it. -/
inductive ConditionInput.Accepted : ConditionInput → Prop
  | list {f : Field} {op : Operator} (vs : List Json) (hf : f ≠ .unknown) (ho : op ≠ .unknown)
    (hb : op ≠ .between) :
    Accepted ⟨ConditionKind.list.name, some f.name, none, none, op.name, vs, none⟩
  | dateDiff {earlier later : Field} (op : Comparison) (vs : List Json) (u : DayUnit)
    (he : earlier.kind = .date) (hl : later.kind = .date) :
    Accepted ⟨ConditionKind.dateDiff.name, none, some earlier.name, some later.name,
      (Operator.compare op).name, vs, some u.name⟩
  | dateRange {f : Field} (vs : List Json) (hf : f.kind = .date) :
    Accepted ⟨ConditionKind.dateRange.name, some f.name, none, none, Operator.between.name, vs,
      none⟩

/-! ## Values -/

/-- The values are those that the operator needs: one for a comparison, at least one for a list,
none for a test for nothing. -/
inductive Operator.Takes (reads : Json → Prop) : Operator → List Json → Prop
  | compare (c : Comparison) {v : Json} (h : reads v) : Takes reads (.compare c) [v]
  | oneOf {vs : List Json} (hne : vs ≠ []) (h : ∀ v ∈ vs, reads v) : Takes reads .oneOf vs
  | null : Takes reads .null []
  | notNull : Takes reads .notNull []

/-- Whether a value can be compared with the field: it says something of its type.  A value that
is compared with users names one whoever asks. -/
def Field.Reads : Field → Json → Prop
  | .column (.text _), v => ∃ s, Literal.Writes v s
  | .column (.id _), v => ∃ n, Literal.Numbers v n
  | .column (.date _), v => ∃ d, Literal.Spells v d
  | .today, v => ∃ d, Literal.Spells v d
  | .assignee, v => ∀ asking, ∃ u, Literal.Names asking v u
  | .unknown, _ => False

/-- Whether the field knows such a test: the day of the query is never missing, and users have no
order. -/
def Field.Knows : Field → Operator → Prop
  | .today, op => op ≠ .null ∧ op ≠ .notNull
  | .assignee, .compare c => c = .eq ∨ c = .ne
  | _, _ => True

/-- The values of a condition suit its words, in a filter of this name and under these
overrides. -/
inductive Condition.Suits (name : String) (o : Overrides) (c : Condition) : Prop
  | list (hk : c.kind = .list) (hf : c.field.Knows c.operator)
    (hv : c.operator.Takes c.field.Reads c.values)
  /-- One number of days, in its unit. -/
  | days {length days : Int} {v : Json} (hk : c.kind = .dateDiff)
    (hu : DayUnit.Lasts c.unit length) (hv : c.values = [v]) (hd : Literal.CountsIn length v days)
  /-- The days of an override stand for whatever values there are. -/
  | override (hk : c.kind = .dateDiff) (ho : (o.find? name).isSome)
  | range {v v' : Json} {first last : Date} (hk : c.kind = .dateRange) (hv : c.values = [v, v'])
    (hfirst : Literal.Spells v first) (hlast : Literal.Spells v' last)

/-! ## Acceptance -/

namespace ConditionRequest

section

variable {position : Nat} {r : ConditionRequest} {c : ConditionInput}

theorem knownField_ne_unknown {what : String} {name : Option String} {f : Field}
    (h : knownField position what name = .ok f) : f ≠ .unknown := by
  cases name with
  | none => cases h
  | some n =>
    unfold knownField at h
    dsimp only at h
    split at h
    · cases h
    · next hn =>
      have hf := Except.ok.inj h
      exact fun hu => hn (hf.trans hu)

theorem kind_of_dateField {what : String} {name : Option String} {f : Field}
    (h : dateField position what name = .ok f) : f.kind = .date := by
  obtain ⟨g, -, h⟩ := bind_eq_ok.1 h
  split at h
  · next hk => rwa [← Except.ok.inj h]
  · cases h

theorem accepted_of_listInput (h : r.listInput position = .ok c) : c.Accepted := by
  obtain ⟨f, hf, h⟩ := bind_eq_ok.1 h
  obtain ⟨op, hop, h⟩ := bind_eq_ok.1 h
  split at h
  · cases h
  · next hb =>
    cases h
    exact .list _ (knownField_ne_unknown hf) (ofText_of_knownOperator hop).2 hb

theorem accepted_of_dateDiffInput (h : r.dateDiffInput position = .ok c) : c.Accepted := by
  obtain ⟨earlier, he, h⟩ := bind_eq_ok.1 h
  obtain ⟨later, hl, h⟩ := bind_eq_ok.1 h
  obtain ⟨op, -, h⟩ := bind_eq_ok.1 h
  split at h
  · cases h
  · next hc =>
    split at h
    · cases h
    · next u _ =>
      cases h
      cases op with
      | compare op => exact .dateDiff op _ u (kind_of_dateField he) (kind_of_dateField hl)
      | _ => exact absurd rfl hc

theorem accepted_of_dateRangeInput (h : r.dateRangeInput position = .ok c) : c.Accepted := by
  obtain ⟨f, hf, h⟩ := bind_eq_ok.1 h
  obtain ⟨op, -, h⟩ := bind_eq_ok.1 h
  split at h
  · cases h
  · next hb =>
    cases h
    rw [not_not.1 hb]
    exact .dateRange _ (kind_of_dateField hf)

/-- What is accepted has known words. -/
theorem accepted_of_input (h : r.input position = .ok c) : c.Accepted := by
  unfold input at h
  split at h
  · exact accepted_of_listInput h
  · exact accepted_of_dateDiffInput h
  · exact accepted_of_dateRangeInput h
  · cases h

end

theorem accepted_of_inputs {position : Nat} {rs : List ConditionRequest} {cs : List ConditionInput}
    (h : inputs position rs = .ok cs) : ∀ c ∈ cs, c.Accepted := by
  induction rs generalizing position cs with
  | nil =>
    cases h
    simp
  | cons r rs ih =>
    obtain ⟨c, hc, h⟩ := bind_eq_ok.1 h
    obtain ⟨cs', hcs, h⟩ := bind_eq_ok.1 h
    cases h
    exact List.forall_mem_cons.2 ⟨accepted_of_input hc, ih hcs⟩

end ConditionRequest

/-! ## Reading -/

theorem isSome_mapM {α β : Type} {f : α → Option β} {as : List α} :
    (as.mapM f).isSome ↔ ∀ a ∈ as, (f a).isSome := by
  induction as with
  | nil => simp
  | cons a as ih =>
    rw [List.forall_mem_cons, ← ih]
    cases ha : f a <;> cases has : as.mapM f <;> simp [List.mapM_cons, ha, has]

/-- A value that names a user does so whoever asks. -/
theorem Literal.Names.whoever {asking u : String} {v : Json} (h : Names asking v u)
    (other : String) : ∃ u, Names other v u := by
  cases h with
  | asking => exact ⟨_, .asking⟩
  | string hs hb => exact ⟨_, .string hs hb⟩
  | number n => exact ⟨_, .number n⟩

theorem Literal.isSome_user? (asking : String) (v : Json) :
    (user? asking v).isSome ↔ Field.assignee.Reads v := by
  simp only [Option.isSome_iff_exists, user?_eq_some_iff]
  constructor
  · rintro ⟨u, h⟩
    exact h.whoever
  · exact fun h => h asking

namespace Match

variable {α : Type} {read : Json → Option α} {tells : Json → α → Prop} {vs : List Json}

/-- A comparison is read exactly if it has one value that says something. -/
theorem isSome_ofValues?_compare (hread : ∀ {v a}, read v = some a ↔ tells v a)
    (f : Match α → Test) (c : Comparison) :
    ((ofValues? read (.compare c) vs).map f).isSome ↔
      (Operator.compare c).Takes (fun v => ∃ a, tells v a) vs := by
  rw [Option.isSome_map, Option.isSome_iff_exists]
  simp only [ofValues?_eq_some_iff hread]
  constructor
  · rintro ⟨m, hm⟩
    cases hm with
    | compare _ h => exact .compare c ⟨_, h⟩
  · rintro ⟨c, a, h⟩
    exact ⟨_, .compare c h⟩

/-- A list is read exactly if it has a value, and all of them say something. -/
theorem isSome_ofValues?_oneOf (hread : ∀ {v a}, read v = some a ↔ tells v a)
    (f : Match α → Test) :
    ((ofValues? read .oneOf vs).map f).isSome ↔
      Operator.oneOf.Takes (fun v => ∃ a, tells v a) vs := by
  rw [Option.isSome_map]
  cases vs with
  | nil =>
    refine iff_of_false Bool.false_ne_true ?_
    rintro ⟨⟩
    contradiction
  | cons v vs =>
    rw [ofValues?, Option.isSome_map, isSome_mapM]
    simp only [Option.isSome_iff_exists, hread]
    constructor
    · exact .oneOf (List.cons_ne_nil _ _)
    · rintro ⟨⟩
      assumption

/-- A range is read exactly if it has two values that say something. -/
theorem isSome_ofValues?_between (hread : ∀ {v a}, read v = some a ↔ tells v a)
    (f : Match α → Test) :
    ((ofValues? read .between vs).map f).isSome ↔
      ∃ v v' lo hi, vs = [v, v'] ∧ tells v lo ∧ tells v' hi := by
  rw [Option.isSome_map, Option.isSome_iff_exists]
  simp only [ofValues?_eq_some_iff hread]
  constructor
  · rintro ⟨m, hm⟩
    cases hm with
    | between hlo hhi => exact ⟨_, _, _, _, rfl, hlo, hhi⟩
  · rintro ⟨v, v', lo, hi, rfl, hlo, hhi⟩
    exact ⟨_, .between hlo hhi⟩

end Match

namespace Operator.Takes

variable {reads : Json → Prop} {vs : List Json}

theorem compare_iff {c : Comparison} :
    (Operator.compare c).Takes reads vs ↔ ∃ v, vs = [v] ∧ reads v := by
  constructor
  · rintro ⟨⟩
    exact ⟨_, rfl, ‹_›⟩
  · rintro ⟨v, rfl, h⟩
    exact .compare c h

/-- A test for nothing has no values, and neither has one for something. -/
theorem null_iff : Operator.null.Takes reads vs ↔ vs = [] := by
  constructor
  · rintro ⟨⟩
    rfl
  · rintro rfl
    exact .null

theorem notNull_iff : Operator.notNull.Takes reads vs ↔ vs = [] := by
  constructor
  · rintro ⟨⟩
    rfl
  · rintro rfl
    exact .notNull

end Operator.Takes

/-! ## Conditions -/

namespace Test

variable {vs : List Json}

theorem isSome_ofColumn? (col : Column) {op : Operator} (ho : op ≠ .unknown) (hb : op ≠ .between) :
    (ofColumn? col op vs).isSome ↔ op.Takes (Field.column col).Reads vs := by
  cases op with
  | compare c =>
    cases col with
    | text => exact Match.isSome_ofValues?_compare Literal.text?_eq_some_iff _ c
    | id => exact Match.isSome_ofValues?_compare Literal.id?_eq_some_iff _ c
    | date => exact Match.isSome_ofValues?_compare Literal.date?_eq_some_iff _ c
  | oneOf =>
    cases col with
    | text => exact Match.isSome_ofValues?_oneOf Literal.text?_eq_some_iff _
    | id => exact Match.isSome_ofValues?_oneOf Literal.id?_eq_some_iff _
    | date => exact Match.isSome_ofValues?_oneOf Literal.date?_eq_some_iff _
  | null =>
    rw [Operator.Takes.null_iff]
    cases vs with
    | nil => exact iff_of_true rfl rfl
    | cons v vs => cases col <;> exact iff_of_false Bool.false_ne_true (List.cons_ne_nil _ _)
  | notNull =>
    rw [Operator.Takes.notNull_iff]
    cases vs with
    | nil => exact iff_of_true rfl rfl
    | cons v vs => cases col <;> exact iff_of_false Bool.false_ne_true (List.cons_ne_nil _ _)
  | between => exact absurd rfl hb
  | unknown => exact absurd rfl ho

/-- The day of the query is never missing. -/
theorem isSome_ofToday? {op : Operator} (ho : op ≠ .unknown) (hb : op ≠ .between) :
    ((Match.ofValues? Literal.date? op vs).map (date .today)).isSome ↔
      Field.today.Knows op ∧ op.Takes Field.today.Reads vs := by
  cases op with
  | compare c =>
    exact (Match.isSome_ofValues?_compare Literal.date?_eq_some_iff _ c).trans
      (by simp [Field.Knows]; rfl)
  | oneOf =>
    exact (Match.isSome_ofValues?_oneOf Literal.date?_eq_some_iff _).trans
      (by simp [Field.Knows]; rfl)
  | null => exact iff_of_false Bool.false_ne_true fun h => h.1.1 rfl
  | notNull => exact iff_of_false Bool.false_ne_true fun h => h.1.2 rfl
  | between => exact absurd rfl hb
  | unknown => exact absurd rfl ho

theorem isSome_ofAssignee?_compare (asking : String) (c : Comparison) :
    (ofAssignee? asking (.compare c) vs).isSome ↔
      (c = .eq ∨ c = .ne) ∧ ∃ v, vs = [v] ∧ Field.assignee.Reads v := by
  rcases vs with _ | ⟨v, _ | ⟨v', vs⟩⟩
  · cases c <;> simp [ofAssignee?]
  · cases c <;> simp [ofAssignee?, Literal.isSome_user?]
  · cases c <;> simp [ofAssignee?]

theorem isSome_ofAssignee?_oneOf (asking : String) :
    (ofAssignee? asking .oneOf vs).isSome ↔ Operator.oneOf.Takes Field.assignee.Reads vs := by
  have hread : (fun v => ∃ u, Literal.user? asking v = some u) = Field.assignee.Reads :=
    funext fun v => propext (Option.isSome_iff_exists.symm.trans (Literal.isSome_user? asking v))
  rw [← hread, ← Match.isSome_ofValues?_oneOf Iff.rfl fun _ => .assigned true .anyone]
  cases vs with
  | nil => rfl
  | cons v vs => simp only [ofAssignee?, Match.ofValues?, Option.isSome_map]

/-- Users are compared, but not by an order. -/
theorem isSome_ofAssignee? (asking : String) {op : Operator} (ho : op ≠ .unknown)
    (hb : op ≠ .between) :
    (ofAssignee? asking op vs).isSome ↔
      Field.assignee.Knows op ∧ op.Takes Field.assignee.Reads vs := by
  cases op with
  | compare c => rw [isSome_ofAssignee?_compare, Operator.Takes.compare_iff]; rfl
  | oneOf => rw [isSome_ofAssignee?_oneOf]; exact (and_iff_right trivial).symm
  | null =>
    cases vs with
    | nil => exact iff_of_true rfl ⟨trivial, .null⟩
    | cons v vs => exact iff_of_false Bool.false_ne_true fun h => by cases h.2
  | notNull =>
    cases vs with
    | nil => exact iff_of_true rfl ⟨trivial, .notNull⟩
    | cons v vs => exact iff_of_false Bool.false_ne_true fun h => by cases h.2
  | between => exact absurd rfl hb
  | unknown => exact absurd rfl ho

/-- A field is tested exactly if it knows the operator and the values suit it. -/
theorem isSome_ofList? (s : Scope) {c : Condition} (hf : c.field ≠ .unknown)
    (ho : c.operator ≠ .unknown) (hb : c.operator ≠ .between) :
    (ofList? s c).isSome ↔ c.field.Knows c.operator ∧ c.operator.Takes c.field.Reads c.values := by
  unfold ofList?
  cases hc : c.field with
  | column col => exact (isSome_ofColumn? col ho hb).trans (and_iff_right trivial).symm
  | today => exact isSome_ofToday? ho hb
  | assignee => exact isSome_ofAssignee? s.user ho hb
  | unknown => exact absurd hc hf

/-- A difference of two days is tested exactly if an override gives a number of days, or its only
value does. -/
theorem isSome_ofDateDiff? (s : Scope) {c : Condition} {op : Comparison} {u : DayUnit}
    (he : (c.dateFrom.bind Field.date?).isSome) (hl : (c.dateTo.bind Field.date?).isSome)
    (ho : c.operator = .compare op) (hu : DayUnit.ofText? c.unit = some u) :
    (ofDateDiff? s c).isSome ↔ (s.overrides.find? s.filterName).isSome ∨
      ∃ v days, c.values = [v] ∧ Literal.CountsIn u.length v days := by
  obtain ⟨earlier, he⟩ := Option.isSome_iff_exists.1 he
  obtain ⟨later, hl⟩ := Option.isSome_iff_exists.1 hl
  rw [ofDateDiff?_eq s he hl hu, ho]
  cases s.overrides.find? s.filterName with
  | some days => simp [ofDays?]
  | none =>
    refine (Match.isSome_ofValues?_compare daysIn?_eq_some_iff _ op).trans ?_
    rw [Operator.Takes.compare_iff]
    simp

/-- A range is tested exactly if it has two dates. -/
theorem isSome_ofDateRange? {c : Condition} (hf : c.field.date?.isSome)
    (ho : c.operator = .between) :
    (ofDateRange? c).isSome ↔
      ∃ v v' first last, c.values = [v, v'] ∧ Literal.Spells v first ∧ Literal.Spells v' last := by
  obtain ⟨d, hd⟩ := Option.isSome_iff_exists.1 hf
  rw [Condition.ofDateRange?_eq, if_pos (.inl ho), hd]
  exact Match.isSome_ofValues?_between Literal.date?_eq_some_iff _

end Test

namespace Condition

variable {name : String} {o : Overrides} {c : Condition}

theorem suits_list (hk : c.kind = .list) :
    c.Suits name o ↔ c.field.Knows c.operator ∧ c.operator.Takes c.field.Reads c.values := by
  constructor
  · rintro (⟨-, hf, hv⟩ | ⟨hk'⟩ | ⟨hk'⟩ | ⟨hk'⟩)
    · exact ⟨hf, hv⟩
    all_goals cases hk.symm.trans hk'
  · exact fun h => .list hk h.1 h.2

theorem suits_dateDiff (hk : c.kind = .dateDiff) {u : DayUnit}
    (hu : DayUnit.ofText? c.unit = some u) :
    c.Suits name o ↔
      (o.find? name).isSome ∨ ∃ v days, c.values = [v] ∧ Literal.CountsIn u.length v days := by
  constructor
  · rintro (⟨hk'⟩ | ⟨-, hlength, hv, hd⟩ | ⟨-, ho⟩ | ⟨hk'⟩)
    · cases hk.symm.trans hk'
    · obtain ⟨u', hu', rfl⟩ := DayUnit.lasts_iff.1 hlength
      cases hu.symm.trans hu'
      exact .inr ⟨_, _, hv, hd⟩
    · exact .inl ho
    · cases hk.symm.trans hk'
  · rintro (ho | ⟨v, days, hv, hd⟩)
    · exact .override hk ho
    · exact .days hk (DayUnit.lasts_iff.2 ⟨u, hu, rfl⟩) hv hd

theorem suits_dateRange (hk : c.kind = .dateRange) :
    c.Suits name o ↔
      ∃ v v' first last, c.values = [v, v'] ∧ Literal.Spells v first ∧ Literal.Spells v' last := by
  constructor
  · rintro (⟨hk'⟩ | ⟨hk'⟩ | ⟨hk'⟩ | ⟨-, hv, hfirst, hlast⟩)
    · cases hk.symm.trans hk'
    · cases hk.symm.trans hk'
    · cases hk.symm.trans hk'
    · exact ⟨_, _, _, _, hv, hfirst, hlast⟩
  · rintro ⟨v, v', first, last, hv, hfirst, hlast⟩
    exact .range hk hv hfirst hlast

end Condition

namespace ConditionInput

variable {c : ConditionInput}

theorem kind_condition {k : ConditionKind} (h : c.kind = k.name) : c.condition.kind = k := by
  rw [condition, h, ConditionKind.ofText_name]

theorem operator_condition {op : Operator} (h : c.operator = op.name) :
    c.condition.operator = op := by
  rw [condition, h, Operator.ofText_name]

theorem field_condition {f : Field} (h : c.field = some f.name) : c.condition.field = f := by
  rw [condition, h, Option.elim_some, Field.ofText_name]

theorem dateFrom_condition {f : Field} (h : c.dateFrom = some f.name) :
    c.condition.dateFrom = some f := by
  rw [condition, h, Option.map_some, Field.ofText_name]

theorem dateTo_condition {f : Field} (h : c.dateTo = some f.name) :
    c.condition.dateTo = some f := by
  rw [condition, h, Option.map_some, Field.ofText_name]

/-- An accepted condition is tested exactly if its values suit its words, whoever asks. -/
theorem Accepted.isSome_ofCondition?_iff (h : c.Accepted) (s : Scope) :
    (Test.ofCondition? s c.condition).isSome ↔ c.condition.Suits s.filterName s.overrides := by
  unfold Test.ofCondition?
  cases h with
  | list vs hf ho hb =>
    rw [kind_condition (k := .list) rfl]
    refine Iff.trans (Test.isSome_ofList? s ?_ ?_ ?_) (Iff.symm (Condition.suits_list ?_))
    · rwa [field_condition rfl]
    · rwa [operator_condition rfl]
    · rwa [operator_condition rfl]
    · exact kind_condition rfl
  | @dateDiff earlier later op vs u he hl =>
    have hu := DayUnit.ofText?_name u
    rw [kind_condition (k := .dateDiff) rfl]
    refine Iff.trans (Test.isSome_ofDateDiff? s ?_ ?_ (operator_condition rfl) hu)
      (Iff.symm (Condition.suits_dateDiff (kind_condition rfl) hu))
    · rwa [dateFrom_condition rfl, Option.bind_some, Field.date?_isSome_iff]
    · rwa [dateTo_condition rfl, Option.bind_some, Field.date?_isSome_iff]
  | dateRange vs hf =>
    rw [kind_condition (k := .dateRange) rfl]
    refine Iff.trans (Test.isSome_ofDateRange? ?_ (operator_condition rfl))
      (Iff.symm (Condition.suits_dateRange (kind_condition rfl)))
    rwa [field_condition rfl, Field.date?_isSome_iff]

end ConditionInput

/-! ## Filters -/

/-- The clause of a saved filter in a query. -/
def Query.savedClause (q : Query) (f : SavedFilter) : Clause :=
  q.clauseOf f.name (.ofText f.logic) (f.conditions.map (·.input.condition))

theorem Query.mem_allClauses {q : Query} {f : SavedFilter} {rows : List FilterRow}
    (h : rows.filter (·.filterId = f.id) = Board.rows f) : q.savedClause f ∈ q.allClauses rows := by
  have hsaved : q.clauseOf f.definition.name f.definition.logic f.definition.conditions =
      q.savedClause f := by rw [savedClause, SavedFilter.definition]
  rw [← hsaved, allClauses]
  exact List.mem_append_left _ (List.mem_map_of_mem (Definition.definition_mem_ofRows h))

/-- A filter has a test if and only if one of its conditions has one. -/
theorem Query.tests_savedClause (q : Query) (f : SavedFilter) :
    (q.savedClause f).tests ≠ [] ↔
      ∃ c ∈ f.conditions, (Test.ofCondition? (q.scope f.name) c.input.condition).isSome := by
  constructor
  · intro h
    obtain ⟨t, ht⟩ := List.exists_mem_of_ne_nil _ h
    obtain ⟨c, hc, ht⟩ := List.mem_filterMap.1 ht
    obtain ⟨sc, hsc, rfl⟩ := List.mem_map.1 hc
    exact ⟨sc, hsc, Option.isSome_of_eq_some ht⟩
  · rintro ⟨sc, hsc, h⟩
    obtain ⟨t, ht⟩ := Option.isSome_iff_exists.1 h
    exact List.ne_nil_of_mem (List.mem_filterMap.2 ⟨_, List.mem_map.2 ⟨sc, hsc, rfl⟩, ht⟩)

/-- **What is accepted, and what is applied.**  Every condition of a filter that is accepted has
known words, each of use to its kind; it takes part in a query exactly if its values suit them,
whoever asks.  With such a condition the filter is part of every predicate for which its rows
are loaded; without one it has no test. -/
theorem FilterRequest.narrows_iff {r : FilterRequest} {input : FilterInput}
    (h : r.input = .ok input) {f : SavedFilter} (hf : f.Keeps input) (q : Query) :
    (∀ c ∈ f.conditions, c.input.Accepted ∧
      ((Test.ofCondition? (q.scope f.name) c.input.condition).isSome ↔
        c.input.condition.Suits f.name q.overrides)) ∧
    ((q.savedClause f).tests ≠ [] ↔
      ∃ c ∈ f.conditions, c.input.condition.Suits f.name q.overrides) ∧
    ∀ rows : List FilterRow, rows.filter (·.filterId = f.id) = Board.rows f →
      q.savedClause f ∈ q.allClauses rows ∧
      ((∃ c ∈ f.conditions, c.input.condition.Suits f.name q.overrides) →
        q.savedClause f ∈ q.clauses rows ∧ (q.compile rows).predicate.isSome) := by
  have haccepted : ∀ c ∈ f.conditions, c.input.Accepted := by
    intro c hc
    obtain ⟨l, -, h⟩ := bind_eq_ok.1 h
    obtain ⟨cs, hcs, h⟩ := bind_eq_ok.1 h
    cases h
    refine ConditionRequest.accepted_of_inputs hcs _ ?_
    rw [← show f.conditions.map (·.input) = cs from hf.conditions]
    exact List.mem_map_of_mem hc
  have htested : ∀ c ∈ f.conditions,
      ((Test.ofCondition? (q.scope f.name) c.input.condition).isSome ↔
        c.input.condition.Suits f.name q.overrides) :=
    fun c hc => (haccepted c hc).isSome_ofCondition?_iff (q.scope f.name)
  have htests : (q.savedClause f).tests ≠ [] ↔
      ∃ c ∈ f.conditions, c.input.condition.Suits f.name q.overrides :=
    (q.tests_savedClause f).trans (exists_congr fun c => and_congr_right (htested c))
  refine ⟨fun c hc => ⟨haccepted c hc, htested c hc⟩, htests, fun rows hrows => ?_⟩
  have hmem := q.mem_allClauses hrows
  refine ⟨hmem, fun hsuits => ?_⟩
  have hclause : q.savedClause f ∈ q.clauses rows :=
    List.mem_filter.2 ⟨hmem, by simpa using htests.2 hsuits⟩
  have hne : (q.clauses rows).isEmpty = false := by
    simpa using List.ne_nil_of_mem hclause
  refine ⟨hclause, ?_⟩
  rw [Query.compile, hne]
  rfl

namespace Sample

/-- A request with a condition that has its value, and one that is a list without values. -/
def twoLists : FilterRequest :=
  ⟨"n", none, none, false,
   [⟨"list", some "status", none, none, some "=", [.string "open"], none⟩,
    ⟨"list", some "status", none, none, some "IN", [], none⟩]⟩

/-- What is saved of it. -/
def twoListsInput : FilterInput :=
  ⟨"n", none, "AND", false,
   [⟨"list", some "status", none, none, "=", [.string "open"], none⟩,
    ⟨"list", some "status", none, none, "IN", [], none⟩]⟩

def twoListsSaved : SavedFilter := Board.saved ⟨[], [], [], 7, ⟨0, 0⟩⟩ "w" "u" 7 twoListsInput

def twoListsQuery : Query := ⟨[7], [], "u", .empty, 2⟩

end Sample

/-- Of the two conditions, the first one is tested and the second one is not; the filter takes
part. -/
theorem FilterRequest.narrows_iff_twoLists :
    Sample.twoLists.input = .ok Sample.twoListsInput ∧
    Sample.twoListsSaved.Keeps Sample.twoListsInput ∧
    (∃ c ∈ Sample.twoListsSaved.conditions,
      c.input.condition.Suits "n" Sample.twoListsQuery.overrides) ∧
    (∃ c ∈ Sample.twoListsSaved.conditions,
      ¬ c.input.condition.Suits "n" Sample.twoListsQuery.overrides) ∧
    (Sample.twoListsQuery.savedClause Sample.twoListsSaved).tests ≠ [] ∧
    (Sample.twoListsQuery.compile (Board.rows Sample.twoListsSaved)).predicate.isSome := by
  have haccepted : Sample.twoLists.input = .ok Sample.twoListsInput := by rfl
  have hkeeps : Sample.twoListsSaved.Keeps Sample.twoListsInput := Board.keeps_saved _ _ _ _ _
  obtain ⟨hconditions, htests, hrows⟩ := narrows_iff haccepted hkeeps Sample.twoListsQuery
  have hloaded : (Board.rows Sample.twoListsSaved).filter (·.filterId = Sample.twoListsSaved.id) =
      Board.rows Sample.twoListsSaved := List.filter_eq_self.2 (by decide)
  have hsuits : ∃ c ∈ Sample.twoListsSaved.conditions,
      c.input.condition.Suits "n" Sample.twoListsQuery.overrides := by
    refine ⟨_, List.mem_cons_self, ((hconditions _ List.mem_cons_self).2.1 ?_)⟩
    decide
  refine ⟨haccepted, hkeeps, hsuits, ?_, htests.2 hsuits, ((hrows _ hloaded).2 hsuits).2⟩
  refine ⟨_, List.mem_cons_of_mem _ List.mem_cons_self, fun h => ?_⟩
  have := (hconditions _ (List.mem_cons_of_mem _ List.mem_cons_self)).2.2 h
  revert this
  decide

namespace Sample

/-- A filter with one condition, a list of states without any:
`{"name":"n","conditions":[{"kind":"list","field":"status","operator":"IN","values":[]}]}`. -/
def emptyListBody : List UInt8 :=
  [123, 34, 110, 97, 109, 101, 34, 58, 34, 110, 34, 44, 34, 99, 111, 110, 100, 105, 116, 105, 111,
   110, 115, 34, 58, 91, 123, 34, 107, 105, 110, 100, 34, 58, 34, 108, 105, 115, 116, 34, 44, 34,
   102, 105, 101, 108, 100, 34, 58, 34, 115, 116, 97, 116, 117, 115, 34, 44, 34, 111, 112, 101,
   114, 97, 116, 111, 114, 34, 58, 34, 73, 78, 34, 44, 34, 118, 97, 108, 117, 101, 115, 34, 58,
   91, 93, 125, 93, 125]

end Sample

/-- Not every condition that is accepted has a test: values are not looked at before they are
used. -/
theorem FilterRequest.not_all_tested :
    ¬ ∀ (body : List UInt8) (r : FilterRequest) (input : FilterInput),
      ofBytes body = .ok r → r.input = .ok input →
        ∀ (s : Scope), ∀ c ∈ input.conditions, (Test.ofCondition? s c.condition).isSome := by
  intro hall
  have hread : ofBytes Sample.emptyListBody = .ok ⟨"n", none, none, false,
      [⟨"list", some "status", none, none, some "IN", [], none⟩]⟩ := by cbv
  have htested := hall _ _ _ hread rfl ⟨"u", "n", .empty⟩ _ List.mem_cons_self
  revert htested
  decide

end TaskBoard
