/-!
# Programs with steps

A program does steps one after the other and goes on with the reply to each.  It is a tree:
at each step one branch for every reply.  What a step does, and what it answers, is left to
whoever runs the program, so one program can be run against a database, against a list in
memory or against any answers at all.

    running `p` and then `f` is running (p >>= f)               (run_bind)
-/

namespace TaskBoard

/-- A program with steps `E`, replies `R` and result `α`. -/
inductive Program (E : Type) (R : E → Type) (α : Type) : Type
  | done (a : α)
  | step (e : E) (next : R e → Program E R α)

namespace Program

variable {E : Type} {R : E → Type} {α β σ : Type}

/-- The program that goes on with `f`. -/
def bind (p : Program E R α) (f : α → Program E R β) : Program E R β :=
  match p with
  | .done a => f a
  | .step e next => .step e fun r => (next r).bind f

instance : Monad (Program E R) where
  pure := .done
  bind := .bind

/-- The program of one step. -/
def call (e : E) : Program E R (R e) := .step e .done

/-- The result and the last state of a program whose steps are done by `perform`. -/
def run (perform : (e : E) → σ → R e × σ) : Program E R α → σ → α × σ
  | .done a, s => (a, s)
  | .step e next, s => (next (perform e s).1).run perform (perform e s).2

/-- The steps of a run, in order. -/
def trace (perform : (e : E) → σ → R e × σ) : Program E R α → σ → List E
  | .done _, _ => []
  | .step e next, s => e :: (next (perform e s).1).trace perform (perform e s).2

/-! ## Lemmas -/

theorem run_bind (perform : (e : E) → σ → R e × σ) (p : Program E R α)
    (f : α → Program E R β) (s : σ) :
    (p.bind f).run perform s = (f (p.run perform s).1).run perform (p.run perform s).2 := by
  induction p generalizing s with
  | done a => rfl
  | step e next ih => exact ih _ _

theorem trace_bind (perform : (e : E) → σ → R e × σ) (p : Program E R α)
    (f : α → Program E R β) (s : σ) :
    (p.bind f).trace perform s =
      p.trace perform s ++ (f (p.run perform s).1).trace perform (p.run perform s).2 := by
  induction p generalizing s with
  | done a => rfl
  | step e next ih => simp [bind, trace, run, ih]

end Program

end TaskBoard
