import TaskBoard.Proofs.Postgres.Tables
import TaskBoard.Proofs.Program

/-!
# The database

What the statements mean.  A database has its tables, the members of the workspaces, and the
numbers that it gives to new rows.  Statements are sent by a client.  Outside a transaction a
statement changes the tables at once; within one, changes are seen by the same client only,
until they are committed.  A statement that is refused changes nothing, and within a transaction
nothing but its end is accepted after that.

Any statement may be refused, and what other tables reply is up to the surroundings.  A call of
the store is a client of its own; a transaction that is open when the call ends is dropped.
-/

namespace TaskBoard.Postgres

/-- What happens around a database.  Statements are counted, so that each can be told from the
others. -/
structure Surroundings where
  /-- The statements that are refused, whatever the reason. -/
  refusal : Nat → Option DatabaseFault
  time : Nat → Timestamp
  /-- The replies to statements about anything else than filters. -/
  reply : (s : Statement) → Nat → s.Reply

/-- Some statement is refused. -/
def Surroundings.Refuses (w : Surroundings) : Prop := ∃ n f, w.refusal n = some f

/-- The contents of a database. -/
structure Database where
  /-- Workspaces and their users. -/
  members : List (String × String)
  tables : Tables
  /-- The numbers of the next rows. -/
  nextFilter : Int
  nextCondition : Int
  /-- How many statements have been sent. -/
  asked : Nat

/-- How far a transaction is. -/
inductive Transaction
  | closed
  /-- The tables as the transaction sees them. -/
  | running (t : Tables)
  | failed

structure Client where
  database : Database
  transaction : Transaction

/-- A number that is in use cannot be given to a new row. -/
def duplicateKey : DatabaseFault := .refused "duplicate key value violates unique constraint"

/-- A condition needs a filter that is there. -/
def missingKey : DatabaseFault := .refused "insert or update violates foreign key constraint"

def inFailedTransaction : DatabaseFault :=
  .refused "current transaction is aborted, commands ignored until end of transaction block"

namespace Client

/-- The tables as a statement sees them. -/
def seen (c : Client) : Tables :=
  match c.transaction with
  | .running t => t
  | _ => c.database.tables

/-- Changes the tables, in a transaction for this client only. -/
def write (c : Client) (t : Tables) : Client :=
  match c.transaction with
  | .running _ => { c with transaction := .running t }
  | _ => { c with database := { c.database with tables := t } }

/-- A transaction that is running has failed. -/
def fail (c : Client) : Client :=
  match c.transaction with
  | .running _ => { c with transaction := .failed }
  | _ => c

def start (c : Client) : Client :=
  match c.transaction with
  | .closed => { c with transaction := .running c.database.tables }
  | _ => c

/-- The changes of a running transaction are there for all; a failed one has none. -/
def commit (c : Client) : Client :=
  match c.transaction with
  | .running t => ⟨{ c.database with tables := t }, .closed⟩
  | _ => { c with transaction := .closed }

/-- Takes the number of the next filter. -/
def takeFilter (c : Client) : Client :=
  { c with database := { c.database with nextFilter := c.database.nextFilter + 1 } }

/-- Takes the number of the next condition. -/
def takeCondition (c : Client) : Client :=
  { c with database := { c.database with nextCondition := c.database.nextCondition + 1 } }

/-- One more statement has been sent. -/
def counted (c : Client) : Client :=
  { c with database := { c.database with asked := c.database.asked + 1 } }

variable (w : Surroundings)

/-- What an accepted statement does, if it is the statement with this number. -/
def accept (n : Nat) (s : Statement) (c : Client) : Except DatabaseFault s.Reply × Client :=
  match s with
  | .isMember workspace user => (.ok (some (c.database.members.contains (workspace, user))), c)
  | .rowsOf ids => (.ok (c.seen.rowsOf ids), c)
  | .filtersOf workspace user => (.ok (c.seen.filtersOf workspace user), c)
  | .ownedAmong workspace user ids => (.ok (c.seen.ownedAmong workspace user ids), c)
  | .filterAt workspace user id => (.ok (c.seen.filterAt workspace user id), c)
  | .conditionsOf ids => (.ok (c.seen.conditionsAmong ids), c)
  | .clearDefault workspace user keep => (.ok (), c.write (c.seen.clearDefault workspace user keep))
  | .insertFilter workspace user input =>
    let head := input.head c.database.nextFilter user workspace (w.time n)
    if h : head.id ∉ c.seen.ids then
      (.ok (some (head.id, head.createdAt)), c.takeFilter.write (c.seen.insertFilter head h))
    else (.error duplicateKey, c.takeFilter.fail)
  | .updateFilter workspace user id input =>
    (.ok ((c.seen.filterAt workspace user id).map (·.createdAt)),
      c.write (c.seen.replace workspace user id input))
  | .deleteConditions id => (.ok (), c.write (c.seen.deleteConditions id))
  | .insertCondition filter position input =>
    let row : ConditionRow := ⟨c.database.nextCondition, filter, position, input⟩
    if h : row.id ∉ c.seen.conditions.map ConditionRow.id then
      if hf : row.filter ∈ c.seen.ids then
        (.ok (some row.id), c.takeCondition.write (c.seen.insertCondition row h hf))
      else (.error missingKey, c.takeCondition.fail)
    else (.error duplicateKey, c.takeCondition.fail)
  | .deleteFilter workspace user id =>
    (.ok (c.seen.filters.countP (FilterHead.isAt workspace user id)),
      c.write (c.seen.deleteFilter workspace user id))
  | .beginTransaction => (.ok (), c.start)
  | .commit => (.ok (), c.commit)
  | .rollback => (.ok (), { c with transaction := .closed })
  | s => (.ok (w.reply s n), c)

/-- Whether a statement ends a transaction. -/
def isEnd : Statement → Bool
  | .commit => true
  | .rollback => true
  | _ => false

/-- What a statement does. -/
def perform (s : Statement) (c : Client) : Except DatabaseFault s.Reply × Client :=
  match w.refusal c.database.asked, c.transaction with
  | some f, _ => (.error f, c.counted.fail)
  | none, .failed =>
    if isEnd s then c.counted.accept w c.database.asked s else (.error inFailedTransaction, c.counted)
  | none, _ => c.counted.accept w c.database.asked s

end Client

/-- The ways in which an accepted statement changes a client. -/
inductive Client.Effect (c : Client) : Client → Prop
  | nothing : Effect c c
  /-- Rows are changed or deleted. -/
  | change (t : Tables) (hfilters : t.ids ⊆ c.seen.ids)
    (hconditions : t.conditions ⊆ c.seen.conditions) : Effect c (c.write t)
  | newFilter (h : FilterHead) (hid : h.id = c.database.nextFilter) (hnew : h.id ∉ c.seen.ids) :
    Effect c (c.takeFilter.write (c.seen.insertFilter h hnew))
  | newCondition (row : ConditionRow) (hid : row.id = c.database.nextCondition)
    (hnew : row.id ∉ c.seen.conditions.map ConditionRow.id) (hfilter : row.filter ∈ c.seen.ids) :
    Effect c (c.takeCondition.write (c.seen.insertCondition row hnew hfilter))
  | fail : Effect c c.fail
  | noFilter : Effect c c.takeFilter.fail
  | noCondition : Effect c c.takeCondition.fail
  | start : Effect c c.start
  | commit : Effect c c.commit
  | rollback : Effect c { c with transaction := .closed }

namespace Database

/-- What a call of the store does, by a client of its own. -/
def call (w : Surroundings) (c : StoreCall) (d : Database) : Except StorageError c.Reply × Database :=
  let (r, end_) := reply (Client.perform w) c ⟨d, .closed⟩
  (r, end_.database)

/-- The numbers to come are greater than those that are given. -/
def Ahead (d : Database) (t : Tables) : Prop :=
  (∀ id ∈ t.ids, id < d.nextFilter) ∧ ∀ row ∈ t.conditions, row.id < d.nextCondition

end Database

/-- A property of tables that lasts: rows may go, a new row may come with the next number, and
numbers may be given. -/
structure Lasting (P : Database → Tables → Prop) : Prop where
  fewer : ∀ {d : Database} {t t' : Tables}, P d t → t'.ids ⊆ t.ids →
    t'.conditions ⊆ t.conditions → P d t'
  given : ∀ {d d' : Database} {t : Tables}, P d t → d.nextFilter ≤ d'.nextFilter →
    d.nextCondition ≤ d'.nextCondition → P d' t
  newFilter : ∀ {d : Database} {t : Tables} (h : FilterHead) (hnew : h.id ∉ t.ids), P d t →
    h.id = d.nextFilter → P { d with nextFilter := d.nextFilter + 1 } (t.insertFilter h hnew)
  newCondition : ∀ {d : Database} {t : Tables} (row : ConditionRow)
    (hnew : row.id ∉ t.conditions.map ConditionRow.id) (hfilter : row.filter ∈ t.ids), P d t →
    row.id = d.nextCondition →
    P { d with nextCondition := d.nextCondition + 1 } (t.insertCondition row hnew hfilter)

/-- No statement from here on is refused by the surroundings, and no number is given twice. -/
structure Undisturbed (w : Surroundings) (c : Client) : Prop where
  accepted : ∀ n, c.database.asked ≤ n → w.refusal n = none
  ahead : c.database.Ahead c.database.tables
  aheadSeen : c.database.Ahead c.seen

/-- What a session gives, and the client after it. -/
def Session.exec {α : Type} (w : Surroundings) (x : Session α) (c : Client) :
    Except PostgresError α × Client :=
  x.run.run (Client.perform w) c

/-! ## Lemmas -/

namespace Client

variable {w : Surroundings} {c c' : Client} {s : Statement} {n : Nat} {t : Tables}

@[simp] theorem database_fail : c.fail.database = c.database := by
  unfold fail
  split <;> rfl

@[simp] theorem database_start : c.start.database = c.database := by
  unfold start
  split <;> rfl

@[simp] theorem seen_takeFilter : c.takeFilter.seen = c.seen := rfl
@[simp] theorem seen_takeCondition : c.takeCondition.seen = c.seen := rfl
@[simp] theorem seen_counted : c.counted.seen = c.seen := rfl

@[simp] theorem seen_write : (c.write t).seen = t := by
  obtain ⟨d, tr⟩ := c
  cases tr <;> rfl

@[simp] theorem seen_start : c.start.seen = c.seen := by
  obtain ⟨d, tr⟩ := c
  cases tr <;> rfl

/-- A change is there for all, or for this client only. -/
theorem database_write : (c.write t).database = { c.database with tables := t } ∨
    (c.write t).database = c.database := by
  obtain ⟨d, tr⟩ := c
  cases tr with
  | running => exact .inr rfl
  | _ => exact .inl rfl

/-- Afterwards a client sees the tables as it did, or as they are for all. -/
theorem seen_fail : c.fail.seen = c.seen ∨ c.fail.seen = c.database.tables := by
  obtain ⟨d, tr⟩ := c
  cases tr with
  | running => exact .inr rfl
  | _ => exact .inl rfl

theorem database_commit : c.commit.database = { c.database with tables := c.seen } := by
  obtain ⟨d, tr⟩ := c
  cases tr <;> rfl

@[simp] theorem seen_commit : c.commit.seen = c.seen := by
  obtain ⟨d, tr⟩ := c
  cases tr <;> rfl

theorem effect_accept : c.Effect (c.accept w n s).2 := by
  cases s with
  | insertFilter workspace user input =>
    dsimp only [accept]
    split
    · exact .newFilter _ rfl _
    · exact .noFilter
  | insertCondition filter position input =>
    dsimp only [accept]
    split
    · split
      · exact .newCondition _ rfl _ _
      · exact .noCondition
    · exact .noCondition
  | clearDefault workspace user keep =>
    exact .change _ (by rw [Tables.clearDefault, Tables.ids_mapFilters]; exact fun _ h => h)
      fun _ h => h
  | updateFilter workspace user id input =>
    exact .change _ (by rw [Tables.replace, Tables.ids_mapFilters]; exact fun _ h => h) fun _ h => h
  | deleteConditions filter => exact .change _ (fun _ h => h) fun _ h => (List.mem_filter.1 h).1
  | deleteFilter workspace user id =>
    exact .change _ (Tables.ids_deleteFilter_subset ..) fun _ h => (List.mem_filter.1 h).1
  | beginTransaction => exact .start
  | commit => exact .commit
  | rollback => exact .rollback
  | _ => exact .nothing

/-- What lasts is true of the tables for all and of those that the client sees. -/
theorem Effect.keeps {P : Database → Tables → Prop} (hP : Lasting P) (h : c.Effect c')
    (ht : P c.database c.database.tables) (hs : P c.database c.seen) :
    P c'.database c'.database.tables ∧ P c'.database c'.seen := by
  -- after a change, both views are among the two before and the new one
  have written : ∀ (b : Client) (t : Tables), P b.database b.database.tables →
      P b.database t → P (b.write t).database (b.write t).database.tables ∧
        P (b.write t).database (b.write t).seen := by
    intro b t hb ht
    rw [seen_write]
    rcases b.database_write (t := t) with hd | hd <;> rw [hd]
    · exact ⟨hP.given ht (Int.le_refl _) (Int.le_refl _), hP.given ht (Int.le_refl _) (Int.le_refl _)⟩
    · exact ⟨hb, ht⟩
  have failed : ∀ b : Client, P b.database b.database.tables → P b.database b.seen →
      P b.fail.database b.fail.database.tables ∧ P b.fail.database b.fail.seen := by
    intro b hb hs
    rw [database_fail]
    rcases b.seen_fail with hf | hf <;> rw [hf]
    · exact ⟨hb, hs⟩
    · exact ⟨hb, hb⟩
  have takenFilter : ∀ {t}, P c.database t → P c.takeFilter.database t :=
    fun h => hP.given h (Int.le_add_one (Int.le_refl _)) (Int.le_refl _)
  have takenCondition : ∀ {t}, P c.database t → P c.takeCondition.database t :=
    fun h => hP.given h (Int.le_refl _) (Int.le_add_one (Int.le_refl _))
  cases h with
  | nothing => exact ⟨ht, hs⟩
  | change t hfilters hconditions => exact written c t ht (hP.fewer hs hfilters hconditions)
  | newFilter head hid hnew =>
    exact written c.takeFilter _ (takenFilter ht) (hP.newFilter head hnew hs hid)
  | newCondition row hid hnew hfilter =>
    exact written c.takeCondition _ (takenCondition ht) (hP.newCondition row hnew hfilter hs hid)
  | fail => exact failed c ht hs
  | noFilter => exact failed c.takeFilter (takenFilter ht) (takenFilter hs)
  | noCondition => exact failed c.takeCondition (takenCondition ht) (takenCondition hs)
  | start =>
    rw [database_start, seen_start]
    exact ⟨ht, hs⟩
  | commit =>
    rw [database_commit, seen_commit]
    exact ⟨hP.given hs (Int.le_refl _) (Int.le_refl _), hP.given hs (Int.le_refl _) (Int.le_refl _)⟩
  | rollback => exact ⟨ht, ht⟩

/-- The members stay, and the count of statements. -/
theorem Effect.members_asked (h : c.Effect c') :
    c'.database.members = c.database.members ∧ c'.database.asked = c.database.asked := by
  have written : ∀ (b : Client) (t : Tables),
      (b.write t).database.members = b.database.members ∧
        (b.write t).database.asked = b.database.asked := by
    intro b t
    rcases b.database_write (t := t) with hd | hd <;> rw [hd] <;> exact ⟨rfl, rfl⟩
  cases h with
  | change t => exact written c t
  | newFilter => exact written c.takeFilter _
  | newCondition => exact written c.takeCondition _
  | fail => rw [database_fail]; exact ⟨rfl, rfl⟩
  | noFilter => rw [database_fail]; exact ⟨rfl, rfl⟩
  | noCondition => rw [database_fail]; exact ⟨rfl, rfl⟩
  | start => rw [database_start]; exact ⟨rfl, rfl⟩
  | commit => rw [database_commit]; exact ⟨rfl, rfl⟩
  | nothing => exact ⟨rfl, rfl⟩
  | rollback => exact ⟨rfl, rfl⟩

theorem effect_perform : c.counted.Effect (c.perform w s).2 := by
  unfold perform
  split
  · exact .fail
  · split
    · exact effect_accept
    · exact .nothing
  · exact effect_accept

theorem members_perform : (c.perform w s).2.database.members = c.database.members :=
  effect_perform.members_asked.1

theorem asked_perform : (c.perform w s).2.database.asked = c.database.asked + 1 :=
  effect_perform.members_asked.2

end Client

/-- The numbers to come stay ahead. -/
theorem lasting_ahead : Lasting Database.Ahead where
  fewer h hfilters hconditions :=
    ⟨fun id hid => h.1 id (hfilters hid), fun row hrow => h.2 row (hconditions hrow)⟩
  given h hfilter hcondition :=
    ⟨fun id hid => Int.lt_of_lt_of_le (h.1 id hid) hfilter,
      fun row hrow => Int.lt_of_lt_of_le (h.2 row hrow) hcondition⟩
  newFilter head hnew h hid := by
    refine ⟨fun id hmem => ?_, h.2⟩
    rw [Tables.ids, Tables.insertFilter, List.map_append, List.mem_append] at hmem
    rcases hmem with hmem | hmem
    · exact Int.lt_add_one_of_le (Int.le_of_lt (h.1 id hmem))
    · rw [List.mem_singleton.1 hmem, hid]
      exact Int.lt_succ _
  newCondition row hnew hfilter h hid := by
    refine ⟨h.1, fun other hmem => ?_⟩
    rcases List.mem_append.1 hmem with hmem | hmem
    · exact Int.lt_add_one_of_le (Int.le_of_lt (h.2 other hmem))
    · rw [List.mem_singleton.1 hmem, hid]
      exact Int.lt_succ _

theorem Undisturbed.perform {w : Surroundings} {c : Client} (h : Undisturbed w c)
    (s : Statement) : Undisturbed w (c.perform w s).2 := by
  obtain ⟨hahead, hseen⟩ := (c.effect_perform (w := w) (s := s)).keeps lasting_ahead h.ahead h.aheadSeen
  refine ⟨fun n hn => h.accepted n ?_, hahead, hseen⟩
  rw [Client.asked_perform] at hn
  omega

/-! ## Sessions -/

namespace Session

variable {α β : Type} {w : Surroundings} {c : Client}

/-- What follows on a session starts with its result, where it ended. -/
theorem run_bind {σ : Type} (perform : (s : Statement) → σ → Except DatabaseFault s.Reply × σ)
    (x : Session α) (f : α → Session β) (s : σ) :
    (x >>= f).run.run perform s = match x.run.run perform s with
      | (.ok a, s') => (f a).run.run perform s'
      | (.error e, s') => (.error e, s') := by
  show Program.run _ (Program.bind x.run (ExceptT.bindCont f)) s = _
  rw [Program.run_bind]
  rcases x.run.run perform s with ⟨e | a, s'⟩ <;> rfl

theorem exec_bind (x : Session α) (f : α → Session β) :
    (x >>= f).exec w c = match x.exec w c with
      | (.ok a, c') => (f a).exec w c'
      | (.error e, c') => (.error e, c') := by
  unfold exec
  rw [run_bind]
  rcases x.run.run (Client.perform w) c with ⟨e | a, c'⟩ <;> rfl

theorem exec_ask (s : Statement) :
    (ask s).exec w c = ((c.perform w s).1.mapError .database, (c.perform w s).2) := by
  show (_, _) = _
  rcases c.perform w s with ⟨f | r, c'⟩ <;> rfl

theorem exec_ask_bind (s : Statement) (f : s.Reply → Session β) :
    (ask s >>= f).exec w c = match c.perform w s with
      | (.ok r, c') => (f r).exec w c'
      | (.error e, c') => (.error (.database e), c') := by
  rw [exec_bind, exec_ask]
  rcases c.perform w s with ⟨e | r, c'⟩ <;> rfl

theorem members_exec (x : Session α) : (x.exec w c).2.database.members = c.database.members := by
  have hkeeps : ∀ s (b : Client), b.database.members = c.database.members →
      (b.perform w s).2.database.members = c.database.members :=
    fun s b hb => Client.members_perform.trans hb
  exact Program.run_keeps hkeeps x.run rfl

end Session

theorem Undisturbed.exec {α : Type} {w : Surroundings} {c : Client} (h : Undisturbed w c)
    (x : Session α) : Undisturbed w (x.exec w c).2 :=
  Program.run_keeps (fun s _ hc => hc.perform s) x.run h

/-! ## A database with three filters -/

instance (s : Statement) : Inhabited s.Reply := by
  cases s <;> first | exact ⟨()⟩ | exact ⟨none⟩ | exact ⟨[]⟩ | exact ⟨(0 : Nat)⟩

namespace Surroundings

/-- Nothing is refused, and there are no tasks. -/
def calm : Surroundings where
  refusal _ := none
  time n := ⟨n, 0⟩
  reply
    | .countTasks _ _, _ => some (0 : Int)
    | _, _ => default

/-- One statement is refused. -/
def refusing (k : Nat) : Surroundings :=
  { calm with refusal := fun n => if n = k then some .workerCrashed else none }

end Surroundings

namespace Sample

def condition : ConditionInput := ⟨"list", some "status", none, none, "IN", [.string "todo"], none⟩

def tables : Tables where
  filters :=
    [⟨7, "local", "w", "first", none, "AND", true, ⟨0, 0⟩⟩,
     ⟨8, "local", "w", "second", none, "OR", false, ⟨1, 0⟩⟩,
     ⟨9, "other", "w", "third", none, "AND", true, ⟨2, 0⟩⟩]
  conditions := [⟨1, 7, 0, condition⟩, ⟨2, 8, 0, condition⟩, ⟨3, 9, 0, condition⟩]
  nodup_filters := by decide
  nodup_conditions := by decide
  belongs := by simp

def database : Database := ⟨[("w", "local")], tables, 10, 4, 0⟩

/-- An input that is to be the default. -/
def input : FilterInput := ⟨"n", none, "AND", true, [condition, condition]⟩

theorem ahead_database : database.Ahead database.tables := by
  constructor <;> simp [database, tables, Tables.ids]

theorem undisturbed : Undisturbed .calm ⟨database, .closed⟩ :=
  ⟨fun _ _ => rfl, ahead_database, ahead_database⟩

end Sample

end TaskBoard.Postgres
