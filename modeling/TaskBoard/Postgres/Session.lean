import TaskBoard.Postgres.Statement

/-!
# Sessions

Statements sent one after the other over a connection.  A statement that is refused ends the
session with its fault; a transaction that is still open then is dropped.

    a refused statement ends the session                        (run_ask_refused)
-/

namespace TaskBoard.Postgres

/-- What is asked of the database, each question after the answer to the last. -/
abbrev Session (α : Type) :=
  ExceptT PostgresError (Program Statement fun s => Except DatabaseFault s.Reply) α

namespace Session

/-- One statement. -/
def ask (s : Statement) : Session s.Reply :=
  ExceptT.mk (.step s fun reply => .done (match reply with
    | .ok r => .ok r
    | .error f => .error (.database f)))

/-- The row that has to be there. -/
def one {α : Type} : Option α → Session α
  | some a => pure a
  | none => throw (.database .rowNotFound)

/-! ## Lemmas -/

theorem run_ask_refused {σ : Type}
    (perform : (s : Statement) → σ → Except DatabaseFault s.Reply × σ) (s : Statement)
    (start : σ) {f : DatabaseFault} (h : (perform s start).1 = .error f) :
    ((ask s).run.run perform start).1 = .error (.database f) := by
  show (match (perform s start).1 with
    | .ok r => Except.ok r
    | .error f => .error (PostgresError.database f)) = _
  rw [h]

end Session

end TaskBoard.Postgres
