import TaskBoard.Filter.Condition

/-!
# Saved filters

A saved filter is kept as flat rows, one for each of its conditions; a filter without
conditions has a single row without one.  The rows of several filters may be mixed: they are
put together again by the number of their filter, in the order in which the numbers first
appear.  A row finds its filter by the place that was noted when the number first appeared.

    the place of a number is that of its filter                 (Grouping.lookup_places)
-/

namespace TaskBoard

/-- One row of the saved filters: a filter joined with one of its conditions or with none. -/
structure FilterRow where
  filterId : Int
  name : String
  logic : String
  conditionId : Option Int
  kind : Option String
  field : Option String
  dateFrom : Option String
  dateTo : Option String
  operator : Option String
  values : Option (List Json)
  unit : Option String

/-- A saved filter. -/
structure Definition where
  id : Int
  name : String
  logic : Logic
  conditions : List Condition

/-- The condition of a row, if it has one. -/
def Condition.ofRow? (r : FilterRow) : Option Condition :=
  r.conditionId.map fun _ =>
    { kind := r.kind.elim .unknown ConditionKind.ofText
      field := r.field.elim .unknown Field.ofText
      operator := r.operator.elim .unknown Operator.ofText
      values := r.values.getD []
      dateFrom := r.dateFrom.map Field.ofText
      dateTo := r.dateTo.map Field.ofText
      unit := r.unit }

/-- Filters that are being put together from rows, in order, and the place of each number among
them. -/
structure Grouping where
  groups : List Definition
  places : List (Int × Nat)
  /-- A number leads to the place of its filter. -/
  places_iff : ∀ id i, places.lookup id = some i ↔ groups[i]?.map (·.id) = some id

namespace Grouping

/-- No filter yet. -/
def empty : Grouping := ⟨[], [], by simp⟩

/-- A filter with this first row comes behind the others. -/
def append (g : Grouping) (r : FilterRow) (h : g.places.lookup r.filterId = none) : Grouping where
  groups := g.groups ++ [⟨r.filterId, r.name, .ofText r.logic, []⟩]
  places := (r.filterId, g.groups.length) :: g.places
  places_iff := fun id i => by
    have hnew := g.places_iff r.filterId i
    have hold := g.places_iff id i
    rw [List.lookup_cons, List.getElem?_append, List.getElem?_cons]
    by_cases hid : id = r.filterId
    · subst hid
      grind
    · have hb : (id == r.filterId) = false := by simpa using hid
      grind

/-- The place of a row's filter, which may be new. -/
def place (g : Grouping) (r : FilterRow) : Nat × Grouping :=
  match h : g.places.lookup r.filterId with
  | some i => (i, g)
  | none => (g.groups.length, g.append r h)

/-- Adds a condition to the filter at a place. -/
def addCondition (g : Grouping) (i : Nat) (c : Condition) : Grouping where
  groups := g.groups.modify i fun d => { d with conditions := d.conditions ++ [c] }
  places := g.places
  places_iff := fun id j => by
    rw [g.places_iff, List.getElem?_modify]
    cases g.groups[j]? with
    | none => rfl
    | some d => by_cases h : i = j <;> simp [h]

/-- Adds a row: its filter, if the number is new, and its condition, if it has one. -/
def add (g : Grouping) (r : FilterRow) : Grouping :=
  let (i, g) := g.place r
  match Condition.ofRow? r with
  | none => g
  | some c => g.addCondition i c

/-- The filters of all the rows. -/
def ofRows (rows : List FilterRow) : Grouping := rows.foldl add empty

end Grouping

/-- The filters that the rows hold. -/
def Definition.ofRows (rows : List FilterRow) : List Definition := (Grouping.ofRows rows).groups

namespace FilterRow

/-- The fields of a row read so far; an inner `none` is a `null`. -/
structure Draft where
  filterId : Option Int
  name : Option String
  logic : Option String
  conditionId : Option (Option Int)
  kind : Option (Option String)
  field : Option (Option String)
  dateFrom : Option (Option String)
  dateTo : Option (Option String)
  operator : Option (Option String)
  values : Option (Option (List Json))
  unit : Option (Option String)

def Draft.blank : Draft := ⟨none, none, none, none, none, none, none, none, none, none, none⟩

/-- The row of a draft that has a number, a name and an operator. -/
def Draft.finish? (d : Draft) : Option FilterRow := do
  let filterId ← d.filterId
  let name ← d.name
  let logic ← d.logic
  some ⟨filterId, name, logic, d.conditionId.join, d.kind.join, d.field.join, d.dateFrom.join,
    d.dateTo.join, d.operator.join, d.values.join, d.unit.join⟩

def slots : List (Json.Decoder.Slot Draft) :=
  [.reading ["filter_id"] false .int64 (·.filterId) fun d v => { d with filterId := some v },
   .reading ["name"] false .string (·.name) fun d v => { d with name := some v },
   .reading ["operator"] false .string (·.logic) fun d v => { d with logic := some v },
   .reading ["condition_id"] false (.optional .int64) (·.conditionId)
     fun d v => { d with conditionId := some v },
   .reading ["kind"] false (.optional .string) (·.kind) fun d v => { d with kind := some v },
   .reading ["field"] false (.optional .string) (·.field) fun d v => { d with field := some v },
   .reading ["date_from"] false (.optional .string) (·.dateFrom)
     fun d v => { d with dateFrom := some v },
   .reading ["date_to"] false (.optional .string) (·.dateTo) fun d v => { d with dateTo := some v },
   .reading ["condition_operator"] false (.optional .string) (·.operator)
     fun d v => { d with operator := some v },
   .reading ["values"] false (.optional (.list .value)) (·.values)
     fun d v => { d with values := some v },
   .reading ["unit"] false (.optional .string) (·.unit) fun d v => { d with unit := some v }]

def decoder : Json.Decoder FilterRow := .record slots .blank Draft.finish?

/-- A row as a JSON object. -/
def toJson (r : FilterRow) : Json :=
  .object
    [("filter_id", .ofInt r.filterId), ("name", .string r.name), ("operator", .string r.logic),
     ("condition_id", .ofOption .ofInt r.conditionId), ("kind", .ofString? r.kind),
     ("field", .ofString? r.field), ("date_from", .ofString? r.dateFrom),
     ("date_to", .ofString? r.dateTo), ("condition_operator", .ofString? r.operator),
     ("values", .ofOption .array r.values), ("unit", .ofString? r.unit)]

end FilterRow

/-! ## Lemmas -/

theorem Condition.ofRow?_isSome (r : FilterRow) :
    (Condition.ofRow? r).isSome = r.conditionId.isSome := by
  simp [Condition.ofRow?]

namespace Grouping

variable (g : Grouping)

theorem lookup_places {i : Nat} {d : Definition} (h : g.groups[i]? = some d) :
    g.places.lookup d.id = some i := by
  rw [g.places_iff, h]
  rfl

theorem isSome_lookup_iff {id : Int} :
    (g.places.lookup id).isSome ↔ id ∈ g.groups.map (·.id) := by
  rw [Option.isSome_iff_exists, List.mem_iff_getElem?]
  simp only [g.places_iff, List.getElem?_map]

/-- A place leads to a filter. -/
theorem lt_of_lookup {id : Int} {i : Nat} (h : g.places.lookup id = some i) :
    i < g.groups.length := by
  rw [g.places_iff] at h
  obtain ⟨d, hd, -⟩ := Option.map_eq_some_iff.1 h
  exact (List.getElem?_eq_some_iff.1 hd).1

theorem ofRows_concat (rows : List FilterRow) (r : FilterRow) :
    ofRows (rows ++ [r]) = (ofRows rows).add r := by
  simp [ofRows]

end Grouping

end TaskBoard
