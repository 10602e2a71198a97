import TaskBoard.Storage.Call

/-!
# A board in memory

Members, tasks and saved filters as lists, with what the calls of the store mean on them.
Filters are numbered in the order in which they are created, and so are the conditions of
each.  A listing of tasks is paged but not filtered.

    a filter that was created is there                          (mem_filters_create)
-/

namespace TaskBoard

/-- The contents of a board. -/
structure Board where
  /-- Workspaces and their users. -/
  members : List (String × String)
  tasks : List Task
  filters : List SavedFilter
  nextId : Nat
  /-- The time at which filters are created. -/
  createdAt : Timestamp

namespace Board

/-- The filter that is kept under a number. -/
def saved (b : Board) (workspace user : String) (id : Int) (input : FilterInput) : SavedFilter where
  id := id
  user := user
  workspace := workspace
  name := input.name
  viewMode := input.viewMode
  logic := input.logic
  isDefault := input.isDefault
  createdAt := b.createdAt
  conditions := input.conditions.zipIdx.map fun (c, i) => ⟨id * 100 + i, c⟩

/-- Whether the filter has this number and this owner. -/
def isAt (workspace user : String) (id : Int) (f : SavedFilter) : Bool :=
  f.id == id && f.workspace == workspace && f.user == user

/-- The row of a filter with one of its conditions, or with none. -/
def row (f : SavedFilter) (c : Option SavedCondition) : FilterRow where
  filterId := f.id
  name := f.name
  logic := f.logic
  conditionId := c.map (·.id)
  kind := c.map (·.input.kind)
  field := c.bind (·.input.field)
  dateFrom := c.bind (·.input.dateFrom)
  dateTo := c.bind (·.input.dateTo)
  operator := c.map (·.input.operator)
  values := c.map (·.input.values)
  unit := c.bind (·.input.unit)

/-- The rows of a filter: one for each condition, or a single one without. -/
def rows (f : SavedFilter) : List FilterRow :=
  if f.conditions.isEmpty then [row f none] else f.conditions.map fun c => row f (some c)

/-- The tasks of a page, and the number of all tasks of the workspace. -/
def listTasks (b : Board) (workspace : String) (page : Page) : List Task × Nat :=
  let tasks := b.tasks.filter (·.workspace == workspace)
  ((tasks.drop page.offset).take page.limit, tasks.length)

def create (b : Board) (workspace user : String) (input : FilterInput) : SavedFilter × Board :=
  let f := b.saved workspace user b.nextId input
  (f, { b with filters := b.filters ++ [f], nextId := b.nextId + 1 })

/-- Puts the first element that satisfies `p` out and `a` in its place. -/
def replaceFirst {α : Type} (p : α → Bool) (a : α) : List α → List α
  | [] => []
  | b :: bs => if p b then a :: bs else b :: replaceFirst p a bs

def update (b : Board) (workspace user : String) (id : Int) (input : FilterInput) :
    Option SavedFilter × Board :=
  if b.filters.any (isAt workspace user id) then
    let f := b.saved workspace user id input
    (some f, { b with filters := replaceFirst (isAt workspace user id) f b.filters })
  else (none, b)

def delete (b : Board) (workspace user : String) (id : Int) : Bool × Board :=
  (b.filters.any (isAt workspace user id),
    { b with filters := b.filters.filter fun f => !isAt workspace user id f })

/-- What a call means on a board. -/
def perform (b : Board) (c : StoreCall) : c.Reply × Board :=
  match c with
  | .ping => ((), b)
  | .isMember workspace user => (b.members.contains (workspace, user), b)
  | .listTasks workspace page _ => (b.listTasks workspace page, b)
  | .listFilters workspace user =>
    (b.filters.filter fun f => f.workspace == workspace && f.user == user, b)
  | .ownedIds workspace user ids =>
    ((b.filters.filter fun f => ids.contains f.id && f.workspace == workspace && f.user == user).map
      (·.id), b)
  | .getFilter workspace user id => (b.filters.find? (isAt workspace user id), b)
  | .createFilter workspace user input => b.create workspace user input
  | .updateFilter workspace user id input => b.update workspace user id input
  | .deleteFilter workspace user id => b.delete workspace user id
  | .fetchRows ids => ((b.filters.filter fun f => ids.contains f.id).flatMap rows, b)

/-! ## Lemmas -/

theorem mem_filters_create (b : Board) (workspace user : String) (input : FilterInput) :
    (b.create workspace user input).1 ∈ (b.create workspace user input).2.filters := by
  simp [create]

end Board

end TaskBoard
