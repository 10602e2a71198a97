import TaskBoard.Filter.Field
import TaskBoard.Filter.Operator
import TaskBoard.Json.Decoder

/-!
# Conditions

One test of a filter as a request or a row gives it: its words are known or unknown, its
values are any JSON.  Whether it makes sense is decided where the test is read off it.

A condition is read from a JSON object or from an array of its fields in order.  Nothing is
required, but only the unit and the two fields of a difference may be `null`.
-/

namespace TaskBoard

/-- One test of a filter, as given. -/
structure Condition where
  kind : ConditionKind
  field : Field
  operator : Operator
  values : List Json
  dateFrom : Option Field
  dateTo : Option Field
  unit : Option String

namespace Condition

/-- A condition of which nothing is known. -/
def blank : Condition := ⟨.unknown, .unknown, .unknown, [], none, none, none⟩

/-- The fields of a condition read so far; an inner `none` is a `null`. -/
structure Draft where
  kind : Option String
  field : Option String
  operator : Option String
  values : Option (List Json)
  dateFrom : Option (Option String)
  dateTo : Option (Option String)
  unit : Option (Option String)

def Draft.blank : Draft := ⟨none, none, none, none, none, none, none⟩

/-- The condition of a draft; what is left out is unknown or empty. -/
def Draft.finish (d : Draft) : Condition where
  kind := d.kind.elim .unknown ConditionKind.ofText
  field := d.field.elim .unknown Field.ofText
  operator := d.operator.elim .unknown Operator.ofText
  values := d.values.getD []
  dateFrom := d.dateFrom.join.map Field.ofText
  dateTo := d.dateTo.join.map Field.ofText
  unit := d.unit.join

def slots : List (Json.Decoder.Slot Draft) :=
  [.reading ["type", "kind"] true .string (·.kind) fun d v => { d with kind := some v },
   .reading ["field"] true .string (·.field) fun d v => { d with field := some v },
   .reading ["operator"] true .string (·.operator) fun d v => { d with operator := some v },
   .reading ["values"] true (.list .value) (·.values) fun d v => { d with values := some v },
   .reading ["date_from"] true (.optional .string) (·.dateFrom)
     fun d v => { d with dateFrom := some v },
   .reading ["date_to"] true (.optional .string) (·.dateTo) fun d v => { d with dateTo := some v },
   .reading ["unit"] true (.optional .string) (·.unit) fun d v => { d with unit := some v }]

def decoder : Json.Decoder Condition := .record slots .blank fun d => some d.finish

end Condition

/-- A filter that comes with a request and is not kept. -/
structure CustomFilter where
  name : Option String
  logic : Logic
  conditions : List Condition

namespace CustomFilter

/-- The fields of a filter read so far. -/
structure Draft where
  name : Option (Option String)
  logic : Option String
  conditions : Option (List Condition)

def slots : List (Json.Decoder.Slot Draft) :=
  [.reading ["name"] true (.optional .string) (·.name) fun d v => { d with name := some v },
   .reading ["logic"] true .string (·.logic) fun d v => { d with logic := some v },
   .reading ["conditions"] true (.list Condition.decoder) (·.conditions)
     fun d v => { d with conditions := some v }]

def decoder : Json.Decoder CustomFilter := .record slots ⟨none, none, none⟩ fun d =>
  some ⟨d.name.join, d.logic.elim .and Logic.ofText, d.conditions.getD []⟩

end CustomFilter

end TaskBoard
