import TaskBoard.Api.Limits
import TaskBoard.Api.Page
import TaskBoard.Filter.Query
import TaskBoard.Text.Percent

/-!
# Queries for tasks

The parameters of a listing, as they stand behind the question mark.  The numbers of the
saved filters are separated by commas, the custom filters are a JSON array, the thresholds a
JSON object from names of filters to numbers of days.  A blank parameter is as good as none.

    a query is valid when its page and limit are                (isValid_iff)
-/

namespace TaskBoard

/-- The parameters of a listing. -/
structure TaskQuery where
  page : Page
  filterIds : Option String
  customFilters : Option String
  thresholds : Option String

namespace TaskQuery

/-! ## Parameters -/

/-- The parameters read so far. -/
structure Draft where
  page : Option Nat
  limit : Option Nat
  filterIds : Option String
  customFilters : Option String
  thresholds : Option String

def Draft.blank : Draft := ⟨none, none, none, none, none⟩

/-- Sets what has not been set. -/
def once {α : Type} (old : Option α) (new : Option α) : Option (Option α) :=
  match old, new with
  | none, some a => some (some a)
  | _, _ => none

/-- Adds one parameter.  No known one may come twice, and the page and its size are numbers
of 32 bits; unknown ones are skipped. -/
def Draft.add? (d : Draft) (field : String × String) : Option Draft :=
  let number := Numeral.readUnsigned? Numeral.maxUInt32 field.2.toList
  match field.1 with
  | "page" => (once d.page number).map fun v => { d with page := v }
  | "limit" => (once d.limit number).map fun v => { d with limit := v }
  | "filter_ids" => (once d.filterIds (some field.2)).map fun v => { d with filterIds := v }
  | "custom_filters" =>
    (once d.customFilters (some field.2)).map fun v => { d with customFilters := v }
  | "thresholds" => (once d.thresholds (some field.2)).map fun v => { d with thresholds := v }
  | _ => some d

/-- The query of a draft; the first page is the default. -/
def Draft.finish (d : Draft) : TaskQuery where
  page := ⟨d.page.getD Page.default.number, d.limit.getD Page.default.limit⟩
  filterIds := d.filterIds
  customFilters := d.customFilters
  thresholds := d.thresholds

/-- Reads the parameters of a listing. -/
def ofFields? (fields : List (String × String)) : Option TaskQuery :=
  (fields.foldlM Draft.add? Draft.blank).map Draft.finish

/-- What is wrong with the page. -/
def faults (q : TaskQuery) : List PageFault :=
  (Page.checkNumber q.page.number).toList ++ (Page.checkLimit q.page.limit).toList

def isValid (q : TaskQuery) : Bool := q.faults.isEmpty

/-- Reads the text behind the question mark, and checks the page. -/
def ofText (s : String) : Except Problem TaskQuery :=
  match ofFields? (Percent.fields s) with
  | none => .error (.badRequest "QUERY_PARSE_ERROR" "Failed to deserialize query string")
  | some q =>
    match Problem.ofFaults? (q.faults.map PageFault.message) with
    | some p => .error p
    | none => .ok q

/-! ## Saved filters -/

/-- The texts between the commas, without the blanks around them and without empty ones. -/
def segments (s : String) : List (List Char) :=
  ((Text.split (· == ',') s.toList).map Text.trim).filter fun w => !w.isEmpty

/-- The number of a saved filter. -/
def readId (w : List Char) : Except Problem Int :=
  match Numeral.readPositive? w with
  | some n => .ok n
  | none => .error (.badRequest "INVALID_FILTER_IDS" ("Invalid filter id: " ++ String.ofList w))

/-- The numbers in a text. -/
def idsOfText (s : String) : Except Problem (List Int) := do
  let ids ← (segments s).mapM readId
  if maxFilters < ids.length then
    throw (.badRequest "TOO_MANY_FILTERS"
      ("At most " ++ Numeral.natText maxFilters ++ " filters may be applied at once"))
  pure ids

/-- The numbers of the saved filters that are wanted. -/
def ids (q : TaskQuery) : Except Problem (List Int) :=
  match q.filterIds with
  | none => .ok []
  | some s => idsOfText s

/-! ## Custom filters and thresholds -/

/-- A parameter that is not blank. -/
def present? (s : Option String) : Option String := s.filter fun s => !Text.allBlank s

/-- The custom filters of a JSON text. -/
def filtersOfText (s : String) : Except Problem (List CustomFilter) := do
  let filters ← match Json.decodeText (.list CustomFilter.decoder) s with
    | .ok filters => pure filters
    | .error _ =>
      throw (.badRequest "INVALID_CUSTOM_FILTERS" "custom_filters must be a JSON array of filters")
  if maxFilters < filters.length then
    throw (.badRequest "TOO_MANY_FILTERS"
      ("At most " ++ Numeral.natText maxFilters ++ " custom filters may be applied at once"))
  if filters.any fun f => maxConditions < f.conditions.length then
    throw (.badRequest "TOO_MANY_CONDITIONS" tooManyConditionsText)
  pure filters

/-- The custom filters that are wanted. -/
def filters (q : TaskQuery) : Except Problem (List CustomFilter) :=
  match present? q.customFilters with
  | none => .ok []
  | some s => filtersOfText s

/-- Entries with distinct names; the last entry of a name counts. -/
def distinctEntries (entries : List (String × Int)) : List (String × Int) :=
  entries.foldl (fun es e => es.filter (fun d => d.1 != e.1) ++ [e]) []

/-- The numbers of days of a JSON text; none may be negative. -/
def overridesOfText (s : String) : Except Problem Overrides := do
  let entries ← match Json.decodeText (.dictionary .int64) s with
    | .ok entries => pure (distinctEntries entries)
    | .error _ =>
      throw (.badRequest "INVALID_THRESHOLDS" "thresholds must be a JSON object of day counts")
  match entries.find? fun e => decide (e.2 < 0) with
  | some e =>
    throw (.badRequest "INVALID_THRESHOLDS" ("Threshold for '" ++ e.1 ++ "' must not be negative"))
  | none => pure (.ofEntries entries)

/-- The overrides that are wanted. -/
def overrides (q : TaskQuery) : Except Problem Overrides :=
  match present? q.thresholds with
  | none => .ok .empty
  | some s => overridesOfText s

/-! ## Lemmas -/

theorem isValid_iff (q : TaskQuery) :
    q.isValid = true ↔
      Page.checkNumber q.page.number = none ∧ Page.checkLimit q.page.limit = none := by
  simp only [isValid, faults, List.isEmpty_iff, List.append_eq_nil_iff]
  cases Page.checkNumber q.page.number <;> cases Page.checkLimit q.page.limit <;> simp

end TaskQuery

end TaskBoard
