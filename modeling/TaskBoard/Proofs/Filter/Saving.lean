import TaskBoard.Api.FilterRequest
import TaskBoard.Proofs.Filter.Overrides
import TaskBoard.Proofs.Filter.Placeholders
import TaskBoard.Proofs.Program
import TaskBoard.Storage.Board

/-!
# Saved and custom filters agree

A filter can be saved, or come with the request that uses it.  What is saved is checked,
trimmed and spelled anew, and read from rows later; what comes with a request is read as it
is.  Either way it compiles to the same.

    a condition is tested alike, saved or not                   (ofCondition?_input)
    compiling the rows = compiling the request                  (compile_saved)
-/

namespace TaskBoard

/-! ## Requests as custom filters -/

/-- The condition, read as one of a custom filter. -/
def ConditionRequest.condition (r : ConditionRequest) : Condition :=
  Condition.Draft.finish ⟨some r.kind, r.field, r.operator, some r.values, some r.dateFrom,
    some r.dateTo, some r.unit⟩

/-- The request as a custom filter. -/
def FilterRequest.custom (r : FilterRequest) : CustomFilter :=
  ⟨some r.name, r.logic.elim .and Logic.ofText, r.conditions.map ConditionRequest.condition⟩

/-- The filter is kept as it was to be saved. -/
structure SavedFilter.Keeps (f : SavedFilter) (input : FilterInput) : Prop where
  name : f.name = input.name
  logic : f.logic = input.logic
  conditions : f.conditions.map (·.input) = input.conditions

/-- The query for a saved filter alone. -/
def SavedFilter.query (f : SavedFilter) (user : String) (o : Overrides) (start : Nat) : Query :=
  ⟨[f.id], [], user, o, start⟩

/-- The query for a custom filter alone. -/
def CustomFilter.query (f : CustomFilter) (user : String) (o : Overrides) (start : Nat) : Query :=
  ⟨[], [f], user, o, start⟩

theorem Board.keeps_saved (b : Board) (workspace user : String) (id : Int) (input : FilterInput) :
    (b.saved workspace user id input).Keeps input := by
  refine ⟨rfl, rfl, ?_⟩
  simp [saved, List.map_map, Function.comp_def]

/-- What is saved of a condition, read from its row. -/
def ConditionInput.condition (c : ConditionInput) : Condition where
  kind := .ofText c.kind
  field := c.field.elim .unknown Field.ofText
  operator := .ofText c.operator
  values := c.values
  dateFrom := c.dateFrom.map Field.ofText
  dateTo := c.dateTo.map Field.ofText
  unit := c.unit

/-- The filter, read from its rows. -/
def SavedFilter.definition (f : SavedFilter) : Definition :=
  ⟨f.id, f.name, .ofText f.logic, f.conditions.map (·.input.condition)⟩

theorem ofRow?_row (f : SavedFilter) (c : SavedCondition) :
    Condition.ofRow? (Board.row f (some c)) = some c.input.condition := by
  simp [Condition.ofRow?, Board.row, ConditionInput.condition]

namespace ConditionRequest

variable (r : ConditionRequest)

theorem kind_condition : r.condition.kind = .ofText r.kind := by
  simp [condition, Condition.Draft.finish]

theorem values_condition : r.condition.values = r.values := rfl

theorem dateFrom_condition : r.condition.dateFrom = r.dateFrom.map Field.ofText := rfl

theorem dateTo_condition : r.condition.dateTo = r.dateTo.map Field.ofText := rfl

theorem unit_condition : r.condition.unit = r.unit := rfl

end ConditionRequest

/-! ## Words -/

theorem inCapitals_trimmed (s : String) : inCapitals (Text.trimmed s) = inCapitals s := by
  simp [inCapitals, Text.trimmed, Text.trim_trim]

theorem Operator.ofText_trimmed (s : String) : ofText (Text.trimmed s) = ofText s := by
  rw [ofText, inCapitals_trimmed, ofText]

theorem Logic.ofText_trimmed (s : String) : ofText (Text.trimmed s) = ofText s := by
  rw [ofText, inCapitals_trimmed, ofText]

namespace ConditionRequest

theorem ofText_of_knownField {position : Nat} {what : String} {name : Option String}
    {f : Field} (h : knownField position what name = .ok f) : name.map Field.ofText = some f := by
  cases name with
  | none => cases h
  | some n =>
    unfold knownField at h
    dsimp only at h
    split at h
    · cases h
    · rw [Option.map_some, Except.ok.inj h]

theorem knownField_of_dateField {position : Nat} {what : String} {name : Option String}
    {f : Field} (h : dateField position what name = .ok f) :
    knownField position what name = .ok f := by
  obtain ⟨g, hg, h⟩ := bind_eq_ok.1 h
  split at h
  · rw [hg, Except.ok.inj h]
  · cases h

/-- An operator that is known has been spelled out. -/
theorem ofText_of_knownOperator {position : Nat} {spelling : String} {op : Operator}
    (h : knownOperator position spelling = .ok op) :
    Operator.ofText spelling = op ∧ op ≠ .unknown := by
  unfold knownOperator at h
  split at h
  · cases h
  · next hn => exact ⟨Except.ok.inj h, fun hop => hn (by rw [Except.ok.inj h, hop])⟩

theorem field_condition {position : Nat} {what : String} {r : ConditionRequest} {f : Field}
    (h : knownField position what r.field = .ok f) : r.condition.field = f := by
  have hf := ofText_of_knownField h
  show r.field.elim .unknown Field.ofText = f
  cases hr : r.field with
  | none =>
    rw [hr] at hf
    cases hf
  | some n =>
    rw [hr] at hf
    exact Option.some.inj hf

theorem operator_condition {position : Nat} {r : ConditionRequest} {op : Operator}
    (h : knownOperator position (r.operator.getD "") = .ok op) : r.condition.operator = op := by
  obtain ⟨hop, hne⟩ := ofText_of_knownOperator h
  show r.operator.elim .unknown Operator.ofText = op
  cases hr : r.operator with
  | none =>
    rw [hr] at hop
    exact absurd (hop.symm.trans (by decide)) hne
  | some s => simpa [hr] using hop

/-- A range without an operator is one for which no operator is known. -/
theorem operator_condition_range {position : Nat} {r : ConditionRequest}
    (h : rangeOperator position r.operator = .ok .between) :
    r.condition.operator = .between ∨ r.condition.operator = .unknown := by
  show r.operator.elim .unknown Operator.ofText = .between ∨
    r.operator.elim .unknown Operator.ofText = .unknown
  cases hr : r.operator with
  | none => exact .inr rfl
  | some s =>
    rw [hr] at h
    unfold rangeOperator at h
    simp only [Option.map_some, Option.getD_some] at h
    split at h
    · next he =>
      have hblank : Text.trimmed s = "" := by simpa using he
      right
      rw [Option.elim_some, ← Operator.ofText_trimmed, hblank]
      decide
    · left
      rw [Option.elim_some, ← Operator.ofText_trimmed]
      exact (ofText_of_knownOperator h).1

/-! ## Conditions -/

section

variable {position : Nat} {r : ConditionRequest} {c : ConditionInput} (s : Scope)

theorem ofCondition?_listInput (hk : ConditionKind.ofText r.kind = .list)
    (h : r.listInput position = .ok c) :
    Test.ofCondition? s c.condition = Test.ofCondition? s r.condition := by
  obtain ⟨f, hf, h⟩ := bind_eq_ok.1 h
  obtain ⟨op, hop, h⟩ := bind_eq_ok.1 h
  split at h
  · cases h
  · cases h
    simp only [Test.ofCondition?, kind_condition, hk, ConditionInput.condition,
      ConditionKind.ofText_name, Test.ofList?, Option.elim_some, Field.ofText_name,
      Operator.ofText_name, field_condition hf, operator_condition hop, values_condition]

theorem ofCondition?_dateDiffInput (hk : ConditionKind.ofText r.kind = .dateDiff)
    (h : r.dateDiffInput position = .ok c) :
    Test.ofCondition? s c.condition = Test.ofCondition? s r.condition := by
  obtain ⟨earlier, he, h⟩ := bind_eq_ok.1 h
  obtain ⟨later, hl, h⟩ := bind_eq_ok.1 h
  obtain ⟨op, hop, h⟩ := bind_eq_ok.1 h
  split at h
  · cases h
  · split at h
    · cases h
    · next u hu =>
      cases h
      have he := ofText_of_knownField (knownField_of_dateField he)
      have hl := ofText_of_knownField (knownField_of_dateField hl)
      simp only [Test.ofCondition?, kind_condition, hk, ConditionInput.condition,
        ConditionKind.ofText_name, Test.ofDateDiff?, Option.map_some, Field.ofText_name,
        Operator.ofText_name, dateFrom_condition, he, dateTo_condition, hl, DayUnit.ofText?_name,
        unit_condition, hu, operator_condition hop, values_condition]

theorem ofCondition?_dateRangeInput (hk : ConditionKind.ofText r.kind = .dateRange)
    (h : r.dateRangeInput position = .ok c) :
    Test.ofCondition? s c.condition = Test.ofCondition? s r.condition := by
  obtain ⟨f, hf, h⟩ := bind_eq_ok.1 h
  obtain ⟨op, hop, h⟩ := bind_eq_ok.1 h
  split at h
  · cases h
  · next hb =>
    have hb : op = .between := not_not.1 hb
    cases h
    subst hb
    have hf := field_condition (knownField_of_dateField hf)
    simp only [Test.ofCondition?, kind_condition, hk, ConditionInput.condition,
      ConditionKind.ofText_name, Condition.ofDateRange?_eq, Option.elim_some, Field.ofText_name,
      Operator.ofText_name, hf, operator_condition_range hop, values_condition, true_or]

/-- What is saved of a condition is tested as the condition itself. -/
theorem ofCondition?_input (h : r.input position = .ok c) :
    Test.ofCondition? s c.condition = Test.ofCondition? s r.condition := by
  unfold input at h
  split at h
  · next hk => exact ofCondition?_listInput s hk h
  · next hk => exact ofCondition?_dateDiffInput s hk h
  · next hk => exact ofCondition?_dateRangeInput s hk h
  · cases h

end

/-- The same for all conditions of a request. -/
theorem filterMap_inputs (s : Scope) {position : Nat} {rs : List ConditionRequest}
    {cs : List ConditionInput} (h : inputs position rs = .ok cs) :
    (cs.map ConditionInput.condition).filterMap (Test.ofCondition? s) =
      (rs.map condition).filterMap (Test.ofCondition? s) := by
  induction rs generalizing position cs with
  | nil =>
    cases h
    rfl
  | cons r rs ih =>
    obtain ⟨c, hc, h⟩ := bind_eq_ok.1 h
    obtain ⟨cs', hcs, h⟩ := bind_eq_ok.1 h
    cases h
    rw [List.map_cons, List.map_cons, List.filterMap_cons, List.filterMap_cons,
      ofCondition?_input s hc, ih hcs]

end ConditionRequest

/-! ## Filters -/

/-- The surroundings of a test may name the filter with blanks around its name. -/
theorem Test.ofCondition?_trimmed (user name : String) (o : Overrides) (c : Condition) :
    ofCondition? ⟨user, Text.trimmed name, o⟩ c = ofCondition? ⟨user, name, o⟩ c := by
  simp only [ofCondition?, ofList?, ofDateDiff?, Overrides.find?_trimmed]

/-- The logic that is known is that of the spelling; a blank one is `AND`. -/
theorem Logic.ofText_of_knownLogic {spelling : Option String} {l : Logic}
    (h : FilterRequest.knownLogic spelling = .ok l) : spelling.elim .and ofText = l := by
  cases spelling with
  | none => exact Except.ok.inj h
  | some s =>
    rw [Option.elim_some, ← ofText_trimmed]
    unfold FilterRequest.knownLogic at h
    simp only [Option.map_some, Option.getD_some] at h
    split at h
    · next he =>
      have hblank : Text.trimmed s = "" := by simpa using he
      rw [hblank, ← Except.ok.inj h]
      decide
    · split at h
      · next l' hl =>
        have hname : l'.name = inCapitals (Text.trimmed s) := by simpa using List.find?_some hl
        rw [← Except.ok.inj h, ofText, ← hname]
        cases l' <;> decide
      · cases h

namespace Definition

/-- Rows of one number are the rows of one filter. -/
theorem heads_of_one {r : FilterRow} {rows : List FilterRow}
    (h : ∀ x ∈ rows, x.filterId = r.filterId) : heads (r :: rows) = [r] := by
  show rows.foldl _ [r] = [r]
  induction rows with
  | nil => rfl
  | cons x rows ih =>
    obtain ⟨hx, hrows⟩ := List.forall_mem_cons.1 h
    rw [List.foldl_cons, if_pos (by simp [hx])]
    exact ih hrows

theorem conditionsOf_of_one {id : Int} {rows : List FilterRow} (h : ∀ x ∈ rows, x.filterId = id) :
    conditionsOf rows id = rows.filterMap Condition.ofRow? := by
  rw [conditionsOf, List.filter_eq_self.2 (by simpa using h)]

/-- The rows of a number, wherever they are, hold its filter. -/
theorem mem_ofRows {r : FilterRow} {rs rows : List FilterRow} {id : Int}
    (h : rows.filter (·.filterId = id) = r :: rs) :
    ⟨id, r.name, .ofText r.logic, (r :: rs).filterMap Condition.ofRow?⟩ ∈ ofRows rows := by
  have hmem : r ∈ rows ∧ r.filterId = id := by
    simpa using List.mem_filter.1 (h ▸ List.mem_cons_self : r ∈ rows.filter (·.filterId = id))
  have hfind : rows.find? (·.filterId = id) = some r := by
    rw [← List.head?_filter, h]
    rfl
  rw [ofRows_eq, heads_eq]
  refine List.mem_map.2 ⟨r, List.mem_filterMap.2 ⟨id, ?_, hfind⟩, ?_⟩
  · exact List.mem_eraseDups.2 (List.mem_map.2 ⟨r, hmem⟩)
  · rw [ofHead, conditionsOf, hmem.2, h]

theorem filterId_of_mem_rows {f : SavedFilter} {x : FilterRow} (hx : x ∈ Board.rows f) :
    x.filterId = f.id := by
  unfold Board.rows at hx
  split at hx
  · rw [List.mem_singleton.1 hx]
    rfl
  · obtain ⟨c, -, rfl⟩ := List.mem_map.1 hx
    rfl

theorem filterMap_rows (f : SavedFilter) :
    (Board.rows f).filterMap Condition.ofRow? = f.conditions.map (·.input.condition) := by
  unfold Board.rows
  cases f.conditions with
  | nil => rfl
  | cons c cs =>
    rw [if_neg (by simp), List.filterMap_map]
    simp only [Function.comp_def, ofRow?_row, List.filterMap_eq_map']

/-- A filter has a row, with or without a condition. -/
theorem rows_eq_cons (f : SavedFilter) : ∃ c rest, Board.rows f = Board.row f c :: rest := by
  unfold Board.rows
  cases f.conditions with
  | nil => exact ⟨none, [], rfl⟩
  | cons c cs => exact ⟨some c, cs.map fun c => Board.row f (some c), rfl⟩

theorem ofRows_rows (f : SavedFilter) : ofRows (Board.rows f) = [f.definition] := by
  have hid : ∀ x ∈ Board.rows f, x.filterId = f.id := fun x hx => filterId_of_mem_rows hx
  obtain ⟨c, rest, hrows⟩ := rows_eq_cons f
  have hheads : heads (Board.rows f) = [Board.row f c] := by
    rw [hrows] at hid ⊢
    exact heads_of_one (List.forall_mem_cons.1 hid).2
  rw [ofRows_eq, hheads, List.map_singleton, SavedFilter.definition, ← filterMap_rows,
    ← conditionsOf_of_one hid]
  rfl

/-- Among other rows, too, those of a filter hold it. -/
theorem definition_mem_ofRows {f : SavedFilter} {rows : List FilterRow}
    (h : rows.filter (·.filterId = f.id) = Board.rows f) : f.definition ∈ ofRows rows := by
  obtain ⟨c, rest, hrows⟩ := rows_eq_cons f
  have hmem := mem_ofRows (h.trans hrows)
  rwa [← hrows, filterMap_rows] at hmem

end Definition

/-- Only the clauses and the first placeholder matter. -/
theorem Query.compile_congr {q q' : Query} {rows rows' : List FilterRow}
    (h : q.allClauses rows = q'.allClauses rows') (hs : q.start = q'.start) :
    q.compile rows = q'.compile rows' := by
  have hc : q.clauses rows = q'.clauses rows' := by rw [clauses, clauses, h]
  have hf : q.first = q'.first := by rw [first, first, hs]
  rw [compile, compile, template, template, hc, hf]

/-- Both have the same clause. -/
theorem allClauses_saved {r : FilterRequest} {input : FilterInput} (h : r.input = .ok input)
    {f : SavedFilter} (hf : f.Keeps input) (user : String) (o : Overrides) (start : Nat) :
    (f.query user o start).allClauses (Board.rows f) =
      (r.custom.query user o start).allClauses [] := by
  obtain ⟨l, hl, h⟩ := bind_eq_ok.1 h
  obtain ⟨cs, hcs, h⟩ := bind_eq_ok.1 h
  cases h
  have hname : f.name = Text.trimmed r.name := hf.name
  have hlogic : Logic.ofText f.logic = r.logic.elim .and Logic.ofText := by
    rw [hf.logic, Logic.ofText_name, Logic.ofText_of_knownLogic hl]
  have hconds : f.conditions.map (·.input.condition) = cs.map ConditionInput.condition := by
    rw [← show f.conditions.map (·.input) = cs from hf.conditions, List.map_map]
    rfl
  have hscope : Test.ofCondition? ⟨user, Text.trimmed r.name, o⟩ =
      Test.ofCondition? ⟨user, r.name, o⟩ :=
    funext fun c => Test.ofCondition?_trimmed user r.name o c
  have htests := ConditionRequest.filterMap_inputs ⟨user, r.name, o⟩ hcs
  simp only [SavedFilter.query, Query.allClauses, Query.clauseOf, Query.scope,
    Definition.ofRows_rows, SavedFilter.definition, hname, hlogic, hconds, hscope, htests,
    List.map_cons, List.map_nil, List.append_nil]
  rfl

/-- **Saving a filter keeps its meaning.**  Whatever request is accepted, the rows of the filter
that keeps it compile to what the request itself, as a custom filter, compiles to; and so do
the two queries, wherever these rows are loaded. -/
theorem compile_saved (r : FilterRequest) {input : FilterInput} (h : r.input = .ok input)
    {f : SavedFilter} (hf : f.Keeps input) (user : String) (o : Overrides) (start : Nat) :
    (f.query user o start).compile (Board.rows f) = (r.custom.query user o start).compile [] ∧
    ∀ {σ : Type} (perform : (e : ServiceStep) → σ → e.Reply × σ) (s : σ),
      ((Service.loadRows [f.id]).run perform s).1 = .ok (Board.rows f) →
        ∃ g, ((Service.compile (f.query user o start)).run perform s).1 = .ok g ∧
          ((Service.compile (r.custom.query user o start)).run perform s).1 = .ok g := by
  have heq := Query.compile_congr (allClauses_saved h hf user o start) rfl
  refine ⟨heq, fun perform s hrows => ⟨_, ?_, rfl⟩⟩
  rw [Service.run_compile]
  show ((Service.loadRows [f.id]).run perform s).1.map (f.query user o start).compile = _
  rw [hrows, ← heq]
  rfl

/-- A request with blanks, small letters, another name for the unit and a range without an
operator, for which there is an override. -/
theorem compile_saved_respelled :
    let r : FilterRequest := ⟨" Stale  tasks ", none, some " or ", false,
      [⟨"date_diff", none, some " created_date", some "today", some " >= ", [.string "2"],
        some "WEEKS"⟩,
       ⟨" date_range ", some "due_date", none, none, some "  ",
        [.string "2026-01-01", .string "2026-01-31"], none⟩]⟩
    let b : Board := ⟨[], [], [], 7, ⟨0, 0⟩⟩
    let o := Overrides.empty.insert "Stale Tasks" 30
    ∃ input, r.input = .ok input ∧
      let f := b.saved "w" "u" 7 input
      f.Keeps input ∧
      (f.query "u" o 2).compile (Board.rows f) = (r.custom.query "u" o 2).compile [] ∧
      ∃ g, ((Service.compile (f.query "u" o 2)).run
          (ServiceStep.cached (Board.rows f)) ()).1 = .ok g ∧
        ((Service.compile (r.custom.query "u" o 2)).run
          (ServiceStep.cached (Board.rows f)) ()).1 = .ok g := by
  intro r b o
  have hok : r.input.isOk = true := by decide
  cases hi : r.input with
  | error e =>
    rw [hi] at hok
    cases hok
  | ok input =>
    have hk := b.keeps_saved "w" "u" 7 input
    obtain ⟨heq, hrun⟩ := compile_saved r hi hk "u" o 2
    exact ⟨input, rfl, hk, heq, hrun (ServiceStep.cached _) () rfl⟩

end TaskBoard
