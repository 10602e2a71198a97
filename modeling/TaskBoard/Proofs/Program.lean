import Mathlib.Logic.Relation
import TaskBoard.Program

/-!
# What a program exchanges

The log of a run has its steps together with the replies, in order.  What one step leaves as it
is, a whole run leaves as it is.

A program can be interrupted between any two of its steps.  What is known of every step leads
from each state of the run to the later ones.

    the log of p.bind f is that of p, and then that of f        (log_bind)
    every exchange of a log happened in some state of the run   (exists_of_mem_log)
    a run ends in what holds whatever the replies               (Ends.run)
    the steps lead from an interruption to a later one          (Moves.after)
-/

namespace TaskBoard

/-- A step and the reply to it. -/
structure Exchange {E : Type} (R : E → Type) where
  step : E
  reply : R step

namespace Program

variable {E : Type} {R : E → Type} {α β σ : Type}

/-- The exchanges of a run, in order. -/
def log (perform : (e : E) → σ → R e × σ) : Program E R α → σ → List (Exchange R)
  | .done _, _ => []
  | .step e next, s =>
    ⟨e, (perform e s).1⟩ :: (next (perform e s).1).log perform (perform e s).2

/-- The state of a run that is interrupted after so many steps. -/
def after (perform : (e : E) → σ → R e × σ) : Nat → Program E R α → σ → σ
  | 0, _, s => s
  | _ + 1, .done _, s => s
  | n + 1, .step e next, s => after perform n (next (perform e s).1) (perform e s).2

/-- Every step of the run goes from a state to another one as `T` says, and the run ends in
`Q`. -/
def Moves (perform : (e : E) → σ → R e × σ) (T : σ → σ → Prop) (Q : α → σ → Prop) :
    Program E R α → σ → Prop
  | .done a, s => Q a s
  | .step e next, s =>
    T s (perform e s).2 ∧ (next (perform e s).1).Moves perform T Q (perform e s).2

/-- The program ends in `Q`, whatever the replies. -/
def Ends (Q : α → Prop) : Program E R α → Prop
  | .done a => Q a
  | .step _ next => ∀ reply, (next reply).Ends Q

/-! ## Lemmas -/

theorem bind_done (p : Program E R α) : p.bind .done = p := by
  induction p with
  | done a => rfl
  | step e next ih => exact congrArg (step e) (funext ih)

theorem bind_assoc {γ : Type} (p : Program E R α) (f : α → Program E R β)
    (g : β → Program E R γ) : (p.bind f).bind g = p.bind fun a => (f a).bind g := by
  induction p with
  | done a => rfl
  | step e next ih => exact congrArg (step e) (funext ih)

instance : LawfulMonad (Program E R) :=
  .mk' _ bind_done (fun _ _ => rfl) bind_assoc

theorem log_bind (perform : (e : E) → σ → R e × σ) (p : Program E R α) (f : α → Program E R β)
    (s : σ) :
    (p.bind f).log perform s =
      p.log perform s ++ (f (p.run perform s).1).log perform (p.run perform s).2 := by
  induction p generalizing s with
  | done a => rfl
  | step e next ih =>
    show _ :: ((next _).bind f).log perform _ = _ :: ((next _).log perform _ ++ _)
    rw [ih]
    rfl

/-- What is done with a result afterwards is not in the log. -/
theorem log_bind_done (perform : (e : E) → σ → R e × σ) (p : Program E R α) (f : α → β) (s : σ) :
    (p.bind fun a => .done (f a)).log perform s = p.log perform s := by
  rw [log_bind]
  exact List.append_nil _

/-- What every step keeps, a run keeps. -/
theorem run_keeps {perform : (e : E) → σ → R e × σ} {I : σ → Prop}
    (hI : ∀ e s, I s → I (perform e s).2) (p : Program E R α) {s : σ} (h : I s) :
    I (p.run perform s).2 := by
  induction p generalizing s with
  | done a => exact h
  | step e next ih => exact ih _ (hI e s h)

/-- Every exchange of a log happened in some state of the run.  What the exchanges of the log
keep is true of that state. -/
theorem exists_of_mem_log {perform : (e : E) → σ → R e × σ} {I : σ → Prop}
    {Q : Exchange R → Prop} (hI : ∀ e s, I s → Q ⟨e, (perform e s).1⟩ → I (perform e s).2)
    (p : Program E R α) {s : σ} (h : I s) (hQ : ∀ x ∈ p.log perform s, Q x) {x : Exchange R}
    (hx : x ∈ p.log perform s) : ∃ e s', I s' ∧ x = ⟨e, (perform e s').1⟩ := by
  induction p generalizing s with
  | done a => cases hx
  | step e next ih =>
    obtain ⟨hfirst, hrest⟩ := List.forall_mem_cons.1 hQ
    rcases List.mem_cons.1 hx with rfl | hx
    · exact ⟨e, s, h, rfl⟩
    · exact ih _ (hI e s h hfirst) hrest hx

/-! ### Ends -/

section

variable {Q : β → Prop} {p : Program E R α} {f : α → Program E R β}

theorem ends_true (p : Program E R α) : p.Ends fun _ => True := by
  induction p with
  | done a => exact trivial
  | step e next ih => exact ih

theorem Ends.imp {P Q : α → Prop} (h : p.Ends P) (hq : ∀ a, P a → Q a) : p.Ends Q := by
  induction p with
  | done a => exact hq a h
  | step e next ih => exact fun reply => ih reply (h reply)

theorem Ends.bind (h : p.Ends fun a => (f a).Ends Q) : (p.bind f).Ends Q := by
  induction p with
  | done a => exact h
  | step e next ih => exact fun reply => ih reply (h reply)

theorem Ends.run {Q : α → Prop} (h : p.Ends Q) (perform : (e : E) → σ → R e × σ) (s : σ) :
    Q (p.run perform s).1 := by
  induction p generalizing s with
  | done a => exact h
  | step e next ih => exact ih _ (h _) _

end

/-! ### Interruptions -/

section

variable {perform : (e : E) → σ → R e × σ} {T : σ → σ → Prop} {Q : α → σ → Prop}

theorem after_done (n : Nat) (a : α) (s : σ) : (done a : Program E R α).after perform n s = s := by
  cases n <;> rfl

/-- A run that is interrupted late enough has ended. -/
theorem exists_after_eq_run (p : Program E R α) (perform : (e : E) → σ → R e × σ) (s : σ) :
    ∃ n, p.after perform n s = (p.run perform s).2 := by
  induction p generalizing s with
  | done a => exact ⟨0, rfl⟩
  | step e next ih =>
    obtain ⟨n, hn⟩ := ih (perform e s).1 (perform e s).2
    exact ⟨n + 1, hn⟩

theorem Moves.bind {p : Program E R α} {f : α → Program E R β} {Q : β → σ → Prop} {s : σ}
    (h : p.Moves perform T (fun a s => (f a).Moves perform T Q s) s) :
    (p.bind f).Moves perform T Q s := by
  induction p generalizing s with
  | done a => exact h
  | step e next ih => exact ⟨h.1, ih _ h.2⟩

theorem Moves.imp {p : Program E R α} {Q' : α → σ → Prop} {s : σ} (h : p.Moves perform T Q s)
    (hq : ∀ a s, Q a s → Q' a s) : p.Moves perform T Q' s := by
  induction p generalizing s with
  | done a => exact hq a s h
  | step e next ih => exact ⟨h.1, ih _ h.2⟩

theorem Moves.run {p : Program E R α} {s : σ} (h : p.Moves perform T Q s) :
    Q (p.run perform s).1 (p.run perform s).2 := by
  induction p generalizing s with
  | done a => exact h
  | step e next ih => exact ih _ h.2

/-- The steps lead from an interruption to a later one. -/
theorem Moves.after {p : Program E R α} {s : σ} (h : p.Moves perform T Q s) {m n : Nat}
    (hmn : m ≤ n) : Relation.ReflTransGen T (p.after perform m s) (p.after perform n s) := by
  induction p generalizing s m n with
  | done a =>
    rw [after_done, after_done]
  | step e next ih =>
    cases n with
    | zero =>
      obtain rfl : m = 0 := by omega
      exact .refl
    | succ n =>
      cases m with
      | zero => exact .head h.1 (ih _ h.2 (Nat.zero_le n))
      | succ m => exact ih _ h.2 (by omega)

end

end Program

/-! ## Results -/

theorem bind_eq_ok {ε α β : Type} {x : Except ε α} {f : α → Except ε β} {b : β} :
    x >>= f = .ok b ↔ ∃ a, x = .ok a ∧ f a = .ok b := by
  cases x with
  | error e => exact ⟨nofun, fun ⟨_, h, _⟩ => nomatch h⟩
  | ok a => exact ⟨fun h => ⟨a, rfl, h⟩, fun ⟨_, ha, h⟩ => Except.ok.inj ha ▸ h⟩

theorem bind_eq_error {ε α β : Type} {x : Except ε α} {f : α → Except ε β} {e : ε} :
    x >>= f = .error e ↔ x = .error e ∨ ∃ a, x = .ok a ∧ f a = .error e := by
  cases x with
  | error e' => exact ⟨fun h => .inl (congrArg _ (Except.error.inj h)), fun
      | .inl h => congrArg _ (Except.error.inj h)
      | .inr ⟨_, h, _⟩ => nomatch h⟩
  | ok a => exact ⟨fun h => .inr ⟨a, rfl, h⟩, fun
      | .inl h => nomatch h
      | .inr ⟨_, ha, h⟩ => Except.ok.inj ha ▸ h⟩

theorem ok_of_toOption {ε α : Type} {x : Except ε α} {a : α} (h : x.toOption = some a) :
    x = .ok a := by
  cases x with
  | error e => cases h
  | ok b => exact congrArg _ (Option.some.inj h)

end TaskBoard
