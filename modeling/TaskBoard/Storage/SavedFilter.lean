import TaskBoard.Calendar.Timestamp
import TaskBoard.Json.Basic

/-!
# Saved filters and tasks as they are kept

What the store takes and gives: the words of a condition are plain texts here, in the
spelling in which they were saved.
-/

namespace TaskBoard

/-- A condition to be saved. -/
structure ConditionInput where
  kind : String
  field : Option String
  dateFrom : Option String
  dateTo : Option String
  operator : String
  values : List Json
  unit : Option String

/-- A filter to be saved. -/
structure FilterInput where
  name : String
  viewMode : Option String
  logic : String
  isDefault : Bool
  conditions : List ConditionInput

/-- A condition that has been saved. -/
structure SavedCondition where
  id : Int
  input : ConditionInput

/-- A filter that has been saved, with its owner. -/
structure SavedFilter where
  id : Int
  user : String
  workspace : String
  name : String
  viewMode : Option String
  logic : String
  isDefault : Bool
  createdAt : Timestamp
  conditions : List SavedCondition

/-- A filter as it is kept, without its conditions. -/
structure FilterHead where
  id : Int
  user : String
  workspace : String
  name : String
  viewMode : Option String
  logic : String
  isDefault : Bool
  createdAt : Timestamp

/-- The filter with its conditions. -/
def FilterHead.withConditions (h : FilterHead) (conditions : List SavedCondition) : SavedFilter :=
  ⟨h.id, h.user, h.workspace, h.name, h.viewMode, h.logic, h.isDefault, h.createdAt, conditions⟩

/-- The filter that an input makes under a number. -/
def FilterInput.head (input : FilterInput) (id : Int) (user workspace : String)
    (createdAt : Timestamp) : FilterHead :=
  ⟨id, user, workspace, input.name, input.viewMode, input.logic, input.isDefault, createdAt⟩

/-- A task. -/
structure Task where
  id : Int
  workspace : String
  title : String
  description : Option String
  status : String
  priority : Option String
  view : Option String
  category : Option Int
  tag : Option Int
  startDate : Option Date
  dueDate : Option Date
  completedAt : Option Timestamp
  createdAt : Timestamp
  updatedAt : Timestamp
  assignees : List String

/-! ## JSON -/

/-- The members that tell what a condition tests. -/
def ConditionInput.members (c : ConditionInput) : List (String × Json) :=
  [("kind", .string c.kind), ("field", .ofString? c.field), ("date_from", .ofString? c.dateFrom),
   ("date_to", .ofString? c.dateTo), ("operator", .string c.operator),
   ("values", .array c.values), ("unit", .ofString? c.unit)]

def SavedCondition.toJson (c : SavedCondition) : Json :=
  .object (("id", .ofInt c.id) :: c.input.members)

/-- A saved filter as its owner sees it. -/
def SavedFilter.toJson (f : SavedFilter) : Json :=
  .object
    [("id", .ofInt f.id), ("workspace_id", .string f.workspace), ("name", .string f.name),
     ("view_mode", .ofString? f.viewMode), ("operator", .string f.logic),
     ("is_default", .bool f.isDefault), ("created_at", .string f.createdAt.text),
     ("conditions", .array (f.conditions.map SavedCondition.toJson))]

def Task.toJson (t : Task) : Json :=
  .object
    [("id", .ofInt t.id), ("workspace_id", .string t.workspace), ("title", .string t.title),
     ("description", .ofString? t.description), ("status", .string t.status),
     ("priority", .ofString? t.priority), ("view", .ofString? t.view),
     ("category_id", .ofOption .ofInt t.category), ("tag_id", .ofOption .ofInt t.tag),
     ("start_date", .ofOption (fun d => .string d.text) t.startDate),
     ("due_date", .ofOption (fun d => .string d.text) t.dueDate),
     ("completed_at", .ofOption (fun i => .string i.text) t.completedAt),
     ("created_at", .string t.createdAt.text), ("updated_at", .string t.updatedAt.text),
     ("assignees", .ofStrings t.assignees)]

end TaskBoard
