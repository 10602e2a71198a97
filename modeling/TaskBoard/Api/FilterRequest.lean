import TaskBoard.Api.Limits
import TaskBoard.Filter.Condition
import TaskBoard.Storage.SavedFilter

/-!
# Requests to save a filter

The body of a request that creates or replaces a filter.  Its lengths are checked first,
then its words: each must be known, and be one that the kind of its condition can use.  What
is saved is the canonical spelling of each word, without the fields that the kind does not
use.

    a condition that is accepted has a known kind               (input_of_unknown_kind)
-/

namespace TaskBoard

/-- A condition of a request, as given. -/
structure ConditionRequest where
  kind : String
  field : Option String
  dateFrom : Option String
  dateTo : Option String
  operator : Option String
  values : List Json
  unit : Option String

/-- A request to save a filter, as given. -/
structure FilterRequest where
  name : String
  viewMode : Option String
  logic : Option String
  isDefault : Bool
  conditions : List ConditionRequest

/-! ## Reading -/

namespace ConditionRequest

/-- The fields of a condition read so far; an inner `none` is a `null`. -/
structure Draft where
  kind : Option String
  field : Option (Option String)
  dateFrom : Option (Option String)
  dateTo : Option (Option String)
  operator : Option (Option String)
  values : Option (List Json)
  unit : Option (Option String)

def Draft.blank : Draft := ⟨none, none, none, none, none, none, none⟩

/-- The condition of a draft that has a kind. -/
def Draft.finish? (d : Draft) : Option ConditionRequest := do
  let kind ← d.kind
  some ⟨kind, d.field.join, d.dateFrom.join, d.dateTo.join, d.operator.join, d.values.getD [],
    d.unit.join⟩

def slots : List (Json.Decoder.Slot Draft) :=
  [.reading ["kind"] false .string (·.kind) fun d v => { d with kind := some v },
   .reading ["field"] false (.optional .string) (·.field) fun d v => { d with field := some v },
   .reading ["date_from"] false (.optional .string) (·.dateFrom)
     fun d v => { d with dateFrom := some v },
   .reading ["date_to"] false (.optional .string) (·.dateTo) fun d v => { d with dateTo := some v },
   .reading ["operator"] true (.optional .string) (·.operator)
     fun d v => { d with operator := some v },
   .reading ["values"] true (.list .value) (·.values) fun d v => { d with values := some v },
   .reading ["unit"] false (.optional .string) (·.unit) fun d v => { d with unit := some v }]

def decoder : Json.Decoder ConditionRequest := .record slots .blank Draft.finish?

end ConditionRequest

namespace FilterRequest

/-- The fields of a request read so far; an inner `none` is a `null`. -/
structure Draft where
  name : Option String
  viewMode : Option (Option String)
  logic : Option (Option String)
  isDefault : Option Bool
  conditions : Option (List ConditionRequest)

def Draft.blank : Draft := ⟨none, none, none, none, none⟩

/-- The request of a draft that has a name. -/
def Draft.finish? (d : Draft) : Option FilterRequest := do
  let name ← d.name
  some ⟨name, d.viewMode.join, d.logic.join, d.isDefault.getD false, d.conditions.getD []⟩

def slots : List (Json.Decoder.Slot Draft) :=
  [.reading ["name"] false .string (·.name) fun d v => { d with name := some v },
   .reading ["view_mode"] false (.optional .string) (·.viewMode)
     fun d v => { d with viewMode := some v },
   .reading ["operator"] false (.optional .string) (·.logic) fun d v => { d with logic := some v },
   .reading ["is_default"] true .bool (·.isDefault) fun d v => { d with isDefault := some v },
   .reading ["conditions"] true (.list ConditionRequest.decoder) (·.conditions)
     fun d v => { d with conditions := some v }]

def decoder : Json.Decoder FilterRequest := .record slots .blank Draft.finish?

end FilterRequest

/-! ## Lengths -/

namespace FilterRequest

/-- The most characters of a name, and of a view mode. -/
def maxNameLength : Nat := 100
def maxViewModeLength : Nat := 50

def nameFits (r : FilterRequest) : Bool := 1 ≤ r.name.length && r.name.length ≤ maxNameLength

def viewModeFits (r : FilterRequest) : Bool := r.viewMode.all (·.length ≤ maxViewModeLength)

def conditionsFit (r : FilterRequest) : Bool := r.conditions.length ≤ maxConditions

/-- The messages for the lengths that are out of bounds. -/
def faults (r : FilterRequest) : List String :=
  (if r.nameFits then [] else ["Name must be 1-100 characters"]) ++
    (if r.viewModeFits then [] else ["View mode must be at most 50 characters"]) ++
    if r.conditionsFit then [] else [tooManyConditionsText]

/-- Reads the body of a request, and checks its lengths. -/
def ofBytes (body : List UInt8) : Except Problem FilterRequest :=
  match Json.decodeBytes decoder body with
  | .error .malformed =>
    .error (.badRequest "JSON_PARSE_ERROR" "Failed to parse the request body as JSON")
  | .error .unfit =>
    .error (.badRequest "JSON_PARSE_ERROR"
      "Failed to deserialize the JSON body into the target type")
  | .ok r =>
    match Problem.ofFaults? r.faults with
    | some p => .error p
    | none => .ok r

end FilterRequest

/-! ## Words -/

/-- A filter that makes no sense. -/
def Problem.invalidFilter (message : String) : Problem := .badRequest "INVALID_FILTER" message

namespace ConditionRequest

/-- A fault of the condition at a position, counted from one. -/
def fault {α : Type} (position : Nat) (message : String) : Except Problem α :=
  .error (.invalidFilter ("Condition " ++ Numeral.natText position ++ ": " ++ message))

/-- The field of a name; `what` is the place where the name stands. -/
def knownField (position : Nat) (what : String) : Option String → Except Problem Field
  | none => fault position (what ++ " is required")
  | some name =>
    match Field.ofText name with
    | .unknown => fault position ("unknown " ++ what ++ " '" ++ name ++ "'")
    | f => .ok f

/-- The field of a name, which must have a day. -/
def dateField (position : Nat) (what : String) (name : Option String) : Except Problem Field := do
  let f ← knownField position what name
  if f.kind = .date then pure f
  else fault position (what ++ " '" ++ f.name ++ "' is not a date field")

/-- The operator of a spelling. -/
def knownOperator (position : Nat) (spelling : String) : Except Problem Operator :=
  match Operator.ofText spelling with
  | .unknown => fault position ("unknown operator '" ++ spelling ++ "'")
  | op => .ok op

def listInput (position : Nat) (r : ConditionRequest) : Except Problem ConditionInput := do
  let f ← knownField position "field" r.field
  let op ← knownOperator position (r.operator.getD "")
  if op = .between then fault position "BETWEEN is only valid for date_range"
  else pure ⟨ConditionKind.list.name, some f.name, none, none, op.name, r.values, none⟩

def dateDiffInput (position : Nat) (r : ConditionRequest) : Except Problem ConditionInput := do
  let earlier ← dateField position "date_from" r.dateFrom
  let later ← dateField position "date_to" r.dateTo
  let op ← knownOperator position (r.operator.getD "")
  if op.comparison?.isNone then fault position "date_diff needs a comparison operator"
  else match DayUnit.ofText? r.unit with
    | none => fault position "unit must be days or weeks"
    | some u =>
      pure ⟨ConditionKind.dateDiff.name, none, some earlier.name, some later.name, op.name,
        r.values, some u.name⟩

/-- The operator of a range, which may be left out. -/
def rangeOperator (position : Nat) (spelling : Option String) : Except Problem Operator :=
  let trimmed := (spelling.map Text.trimmed).getD ""
  if trimmed.isEmpty then .ok .between else knownOperator position trimmed

def dateRangeInput (position : Nat) (r : ConditionRequest) : Except Problem ConditionInput := do
  let f ← dateField position "field" r.field
  let op ← rangeOperator position r.operator
  if op ≠ .between then fault position "date_range only supports BETWEEN"
  else pure ⟨ConditionKind.dateRange.name, some f.name, none, none, op.name, r.values, none⟩

/-- What is saved of a condition. -/
def input (position : Nat) (r : ConditionRequest) : Except Problem ConditionInput :=
  match ConditionKind.ofText r.kind with
  | .list => r.listInput position
  | .dateDiff => r.dateDiffInput position
  | .dateRange => r.dateRangeInput position
  | .unknown => fault position ("unknown kind '" ++ r.kind ++ "'")

/-- What is saved of the conditions from the given position on. -/
def inputs (position : Nat) : List ConditionRequest → Except Problem (List ConditionInput)
  | [] => .ok []
  | r :: rs => do
    let c ← r.input position
    let cs ← inputs (position + 1) rs
    pure (c :: cs)

end ConditionRequest

namespace FilterRequest

/-- The logic of a request; none means `AND`, and no other word than the two is taken. -/
def knownLogic (spelling : Option String) : Except Problem Logic :=
  let trimmed := (spelling.map Text.trimmed).getD ""
  if trimmed.isEmpty then .ok .and
  else match [Logic.and, .or].find? fun l => l.name == inCapitals trimmed with
    | some l => .ok l
    | none =>
      .error (.invalidFilter ("Unknown filter operator '" ++ trimmed ++ "': expected AND or OR"))

/-- What is saved of a request. -/
def input (r : FilterRequest) : Except Problem FilterInput := do
  let logic ← knownLogic r.logic
  let conditions ← ConditionRequest.inputs 1 r.conditions
  pure ⟨Text.trimmed r.name, r.viewMode, logic.name, r.isDefault, conditions⟩

end FilterRequest

/-! ## Lemmas -/

theorem ConditionRequest.input_of_unknown_kind (position : Nat) {r : ConditionRequest}
    (h : ConditionKind.ofText r.kind = .unknown) :
    r.input position = fault position ("unknown kind '" ++ r.kind ++ "'") := by
  simp [input, h]

theorem FilterRequest.faults_eq_nil_iff (r : FilterRequest) :
    r.faults = [] ↔ r.nameFits = true ∧ r.viewModeFits = true ∧ r.conditionsFit = true := by
  unfold faults
  cases r.nameFits <;> cases r.viewModeFits <;> cases r.conditionsFit <;> simp

end TaskBoard
