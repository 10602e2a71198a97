import TaskBoard.Postgres.Session

/-!
# The store in the database

The calls of the store as statements.  Creating and replacing a filter are transactions: the
filter, its conditions, and the mark of the owner's default filter change together.  The
conditions of several filters are fetched by one statement and handed out by the number of
their filter.

    no statement is needed for the rows of no filters           (rowsOf_nil)
-/

namespace TaskBoard.Postgres

open Session

/-- The first placeholder of a listing that is free for a filter. -/
def firstFilterSlot : Nat := 2

/-- What is wrong with a filter whose placeholders do not fit a listing. -/
def misaligned? (filter : CompiledFilter) : Option PostgresError :=
  if filter.next = firstFilterSlot + filter.values.length then none
  else some (.config
    ("Filter compiled for placeholder " ++ Sql.token (filter.next - filter.values.length) ++
      " but task listing binds from " ++ Sql.token firstFilterSlot))

def listTasks (workspace : String) (page : Page) (filter : CompiledFilter) :
    Session (List Task × Nat) := do
  match misaligned? filter with
  | some e => throw e
  | none => do
    let tasks ← ask (.tasks workspace filter page)
    let total ← one (← ask (.countTasks workspace filter))
    pure (tasks, Int.toNat total)

/-! ## Reading filters -/

def fetchRows (ids : List Int) : Session (List FilterRow) :=
  if ids.isEmpty then pure [] else ask (.rowsOf ids)

def ownedIds (workspace user : String) (ids : List Int) : Session (List Int) :=
  if ids.isEmpty then pure [] else ask (.ownedAmong workspace user ids)

/-- The conditions of the filters, each with the number of its filter. -/
def loadConditions (ids : List Int) : Session (List (Int × SavedCondition)) :=
  if ids.isEmpty then pure [] else ask (.conditionsOf ids)

/-- The conditions of one filter. -/
def conditionsAt (conditions : List (Int × SavedCondition)) (id : Int) : List SavedCondition :=
  (conditions.filter (·.1 == id)).map (·.2)

/-- Hands the conditions out; those of one number go to the first filter that has it. -/
def attach (conditions : List (Int × SavedCondition)) : List FilterHead → List SavedFilter
  | [] => []
  | h :: hs =>
    h.withConditions (conditionsAt conditions h.id) ::
      attach (conditions.filter (·.1 != h.id)) hs

def listFilters (workspace user : String) : Session (List SavedFilter) := do
  let heads ← ask (.filtersOf workspace user)
  let conditions ← loadConditions (List.map FilterHead.id heads)
  pure (attach conditions heads)

def getFilter (workspace user : String) (id : Int) : Session (Option SavedFilter) := do
  match ← ask (.filterAt workspace user id) with
  | none => pure none
  | some head => do
    let conditions ← loadConditions [id]
    pure (some (FilterHead.withConditions head (conditionsAt conditions id)))

/-! ## Writing filters -/

/-- Takes the mark off the owner's default filter, if the input is to be the default. -/
def makeRoom (workspace user : String) (keep : Option Int) (input : FilterInput) : Session Unit :=
  if input.isDefault then ask (.clearDefault workspace user keep) else pure ()

/-- Adds conditions to a filter, the first one at `position`. -/
def insertConditions (filter : Int) (position : Nat) :
    List ConditionInput → Session (List SavedCondition)
  | [] => pure []
  | c :: cs => do
    let id ← one (← ask (.insertCondition filter position c))
    let rest ← insertConditions filter (position + 1) cs
    pure (⟨id, c⟩ :: rest)

def createFilter (workspace user : String) (input : FilterInput) : Session SavedFilter := do
  ask .beginTransaction
  makeRoom workspace user none input
  let (id, createdAt) ← one (← ask (.insertFilter workspace user input))
  let conditions ← insertConditions id 0 input.conditions
  ask .commit
  pure ((input.head id user workspace createdAt).withConditions conditions)

def updateFilter (workspace user : String) (id : Int) (input : FilterInput) :
    Session (Option SavedFilter) := do
  ask .beginTransaction
  makeRoom workspace user (some id) input
  match ← ask (.updateFilter workspace user id input) with
  | none => do
    ask .rollback
    pure none
  | some createdAt => do
    ask (.deleteConditions id)
    let conditions ← insertConditions id 0 input.conditions
    ask .commit
    pure (some ((input.head id user workspace createdAt).withConditions conditions))

def deleteFilter (workspace user : String) (id : Int) : Session Bool := do
  let gone : Nat ← ask (.deleteFilter workspace user id)
  pure (decide (0 < gone))

/-! ## Calls -/

/-- A call of the store as statements. -/
def session (c : StoreCall) : Session c.Reply :=
  match c with
  | .ping => ask .ping
  | .isMember workspace user => do one (← ask (.isMember workspace user))
  | .listTasks workspace page filter => listTasks workspace page filter
  | .listFilters workspace user => listFilters workspace user
  | .ownedIds workspace user ids => ownedIds workspace user ids
  | .getFilter workspace user id => getFilter workspace user id
  | .createFilter workspace user input => createFilter workspace user input
  | .updateFilter workspace user id input => updateFilter workspace user id input
  | .deleteFilter workspace user id => deleteFilter workspace user id
  | .fetchRows ids => fetchRows ids

/-- What the store replies to a call, when its statements are done by `perform`. -/
def reply {σ : Type} (perform : (s : Statement) → σ → Except DatabaseFault s.Reply × σ)
    (c : StoreCall) (s : σ) : Except StorageError c.Reply × σ :=
  let (r, s) := (session c).run.run perform s
  (r.mapError .ofPostgres, s)

/-- One check of the health of the database: whatever comes of it, the next one follows. -/
def checkHealth : Session Unit :=
  tryCatch (ask .ping) fun _ => pure ()

/-! ## Lemmas -/

theorem rowsOf_nil : fetchRows [] = pure [] := rfl

theorem conditionsAt_filter_ne (conditions : List (Int × SavedCondition)) {id other : Int}
    (h : other ≠ id) :
    conditionsAt (conditions.filter (·.1 != id)) other = conditionsAt conditions other := by
  unfold conditionsAt
  rw [List.filter_filter]
  congr 1
  apply List.filter_congr
  intro c _
  by_cases hc : c.1 = other
  · simp [hc, h]
  · simp [hc]

end TaskBoard.Postgres
