import TaskBoard.Proofs.Api.Overlap

/-!
# One request among others

Of a history, the exchanges of one request are those that it would have had alone, with these
replies.  So what is known about a request from its program holds of its part of the history, in
whatever way requests overlap.

    a log that has been exchanged can be replayed               (Program.After.run_replay)
    a request is as far as its own exchanges say                (Overlap.after_run)
    every exchange happened on a turn of its request            (Overlap.exists_turn)
-/

namespace TaskBoard

namespace Program

variable {E : Type} {R : E → Type} {α : Type}

/-- What is left of a program after it has exchanged a log. -/
inductive After (p : Program E R α) : List (Exchange R) → Program E R α → Prop
  | start : After p [] p
  | step {log : List (Exchange R)} {e : E} {next : R e → Program E R α}
    (h : After p log (.step e next)) (reply : R e) : After p (log ++ [⟨e, reply⟩]) (next reply)

open Classical in
/-- The replies of a log, one after the other; `other` stands in where the log does not go on. -/
noncomputable def replay (other : (e : E) → R e) (e : E) : List (Exchange R) → R e × List (Exchange R)
  | [] => (other e, [])
  | x :: rest => (if h : x.step = e then h ▸ x.reply else other e, rest)

variable {p q : Program E R α} {log : List (Exchange R)}

theorem replay_cons (other : (e : E) → R e) (e : E) (reply : R e) (rest : List (Exchange R)) :
    replay other e (⟨e, reply⟩ :: rest) = (reply, rest) :=
  Prod.ext (dif_pos rfl) rfl

/-- What has been exchanged is the first part of a run with the same replies. -/
theorem After.run_replay (h : p.After log q) (other : (e : E) → R e) (rest : List (Exchange R)) :
    p.log (replay other) (log ++ rest) = log ++ q.log (replay other) rest ∧
      p.run (replay other) (log ++ rest) = q.run (replay other) rest := by
  induction h generalizing rest with
  | start => exact ⟨rfl, rfl⟩
  | @step log e next h reply ih =>
    obtain ⟨hlog, hrun⟩ := ih (⟨e, reply⟩ :: rest)
    rw [Program.log, replay_cons] at hlog
    rw [Program.run, replay_cons] at hrun
    rw [List.append_assoc, List.singleton_append, hlog, hrun, List.append_assoc]
    exact ⟨rfl, rfl⟩

/-- A program that is done exchanges nothing. -/
theorem After.of_done {a : α} (h : After (.done a) log q) : log = [] ∧ q = .done a := by
  induction h with
  | start => exact ⟨rfl, rfl⟩
  | step h reply ih => exact nomatch ih.2

/-- The first exchange is that of the first step. -/
theorem After.of_step {e : E} {next : R e → Program E R α} (h : After (.step e next) log q) :
    (log = [] ∧ q = .step e next) ∨
      ∃ reply rest, log = ⟨e, reply⟩ :: rest ∧ After (next reply) rest q := by
  induction h with
  | start => exact .inl ⟨rfl, rfl⟩
  | @step log e' next' h reply ih =>
    rcases ih with ⟨rfl, heq⟩ | ⟨first, rest, rfl, hrest⟩
    · cases heq
      exact .inr ⟨reply, [], rfl, .start⟩
    · exact .inr ⟨first, rest ++ [⟨e', reply⟩], rfl, hrest.step reply⟩

end Program

namespace History

/-- The exchanges of one request. -/
def of (h : History) (i : Nat) : List (Exchange ServiceStep.Reply) :=
  h.filterMap fun x => if x.1 = i then some x.2 else none

variable {h : History} {i j : Nat} {x : Exchange ServiceStep.Reply}

theorem of_add_self : (h.add i x).of i = h.of i ++ [x] := by
  simp [of, add, List.filterMap_append]

theorem of_add_of_ne (hij : j ≠ i) : (h.add j x).of i = h.of i := by
  simp [of, add, List.filterMap_append, hij]

/-- What has been written down stays. -/
theorem keep_prefix {h' : History} {k : Nat} {y : Nat × Exchange ServiceStep.Reply}
    (hp : h <+: h') (hk : h[k]? = some y) : h'[k]? = some y := by
  obtain ⟨rest, rfl⟩ := hp
  exact (List.getElem?_append_left (lt_length hk)).trans hk

theorem mem_of : x ∈ h.of i ↔ (i, x) ∈ h := by
  simp only [of, List.mem_filterMap]
  constructor
  · rintro ⟨⟨j, y⟩, hy, hx⟩
    split at hx
    · next hj =>
      cases hx
      exact hj ▸ hy
    · cases hx
  · exact fun hx => ⟨_, hx, if_pos rfl⟩

end History

namespace Overlap

variable {σ α : Type} {call : (c : StoreCall) → σ → Except StorageError c.Reply × σ}
  {o : Overlap σ α} {i : Nat}

/-! ## One turn -/

theorem turn_of_step {e : ServiceStep} {next : e.Reply → Service α}
    (h : o.running[i]? = some (.step e next)) : o.turn call (.step i) =
      { backend := (o.backend.perform call e).2
        running := o.running.set i (next (o.backend.perform call e).1)
        history := o.history.add i ⟨e, (o.backend.perform call e).1⟩ } := by
  unfold turn
  dsimp only
  rw [h]

theorem turn_of_done {a : α} (h : o.running[i]? = some (.done a)) : o.turn call (.step i) = o := by
  unfold turn
  dsimp only
  rw [h]

/-- A turn is a step of a request, or it leaves the store, the requests and the history. -/
theorem turn_cases (o : Overlap σ α) (t : Turn) :
    (∃ i e next, t = .step i ∧ o.running[i]? = some (.step e next)) ∨
      (o.turn call t).backend.store = o.backend.store ∧ (o.turn call t).running = o.running ∧
        (o.turn call t).history = o.history := by
  cases t with
  | sweep => exact .inr ⟨rfl, rfl, rfl⟩
  | clock now => exact .inr ⟨rfl, rfl, rfl⟩
  | step i =>
    by_cases hstep : ∃ e next, o.running[i]? = some (.step e next)
    · obtain ⟨e, next, hi⟩ := hstep
      exact .inl ⟨i, e, next, rfl, hi⟩
    · have hsame : o.turn call (.step i) = o := by
        unfold turn
        dsimp only
        split
        · next e next hi => exact absurd ⟨e, next, hi⟩ hstep
        · rfl
      rw [hsame]
      exact .inr ⟨rfl, rfl, rfl⟩

theorem run_concat (o : Overlap σ α) (turns : List Turn) (t : Turn) :
    o.run call (turns ++ [t]) = (o.run call turns).turn call t := by
  rw [run_append]
  rfl

/-- What every call keeps, a run keeps. -/
theorem store_run {I : σ → Prop} (hI : ∀ c s, I s → I (call c s).2) (turns : List Turn)
    (h : I o.backend.store) : I (o.run call turns).backend.store := by
  induction turns using List.reverseRecOn with
  | nil => exact h
  | append_singleton turns t ih =>
    rw [run_concat]
    rcases (o.run call turns).turn_cases t with ⟨j, e, next, rfl, hj⟩ | ⟨hstore, -⟩
    · rw [turn_of_step hj]
      cases e with
      | store c => exact hI c _ ih
      | cache c => exact ih
    · rw [hstore]
      exact ih

/-! ## A request in a run -/

/-- The next turn of the request is this exchange, at the position `k` of the history. -/
structure Does (call : (c : StoreCall) → σ → Except StorageError c.Reply × σ) (o : Overlap σ α)
    (i k : Nat) (x : Exchange ServiceStep.Reply) : Prop where
  position : o.history.length = k
  running : ∃ next, o.running[i]? = some (.step x.step next)
  exchange : x = ⟨x.step, (o.backend.perform call x.step).1⟩

/-- **A request among others**: its own exchanges tell what is left of it. -/
theorem after_run {b : Backend σ} {requests : List (Service α)} {p : Service α}
    (hp : requests[i]? = some p) (turns : List Turn) :
    ∃ q, ((start b requests).run call turns).running[i]? = some q ∧
      p.After (((start b requests).run call turns).history.of i) q := by
  induction turns using List.reverseRecOn with
  | nil => exact ⟨p, hp, .start⟩
  | append_singleton turns t ih =>
    obtain ⟨q, hq, hafter⟩ := ih
    rw [run_concat]
    rcases ((start b requests).run call turns).turn_cases t with
      ⟨j, e, next, rfl, hj⟩ | ⟨-, hrunning, hhistory⟩
    · rw [turn_of_step hj]
      dsimp only
      by_cases hij : j = i
      · subst hij
        obtain rfl := Option.some.inj (hj.symm.trans hq)
        refine ⟨_, List.getElem?_set_self (List.getElem?_eq_some_iff.1 hj).1, ?_⟩
        rw [History.of_add_self]
        exact hafter.step _
      · refine ⟨q, (List.getElem?_set_ne hij).trans hq, ?_⟩
        rwa [History.of_add_of_ne hij]
    · rw [hrunning, hhistory]
      exact ⟨q, hq, hafter⟩

/-- The exchanges up to a turn stay, and more may follow. -/
theorem history_prefix_run (o : Overlap σ α) (turns : List Turn) :
    o.history <+: (o.run call turns).history := by
  induction turns using List.reverseRecOn with
  | nil => exact List.prefix_refl _
  | append_singleton turns t ih =>
    rw [run_concat]
    rcases (o.run call turns).turn_cases t with ⟨j, e, next, rfl, hj⟩ | ⟨-, -, hhistory⟩
    · rw [turn_of_step hj]
      exact ih.trans (List.prefix_append _ _)
    · rwa [hhistory]

/-- Of two points of a run, the one with the longer history comes later. -/
theorem later_of_lt {o : Overlap σ α} {turns before before' later later' : List Turn}
    (h : turns = before ++ later) (h' : turns = before' ++ later')
    (hlt : (o.run call before).history.length < (o.run call before').history.length) :
    ∃ middle, before' = before ++ middle := by
  rcases List.append_eq_append_iff.1 (h.symm.trans h') with ⟨middle, hbefore, -⟩ |
    ⟨middle, rfl, -⟩
  · exact ⟨middle, hbefore⟩
  · rw [run_append] at hlt
    exact absurd (history_prefix_run _ middle).length_le (Nat.not_le_of_lt hlt)

theorem length_running_run (o : Overlap σ α) (turns : List Turn) :
    (o.run call turns).running.length = o.running.length := by
  induction turns using List.reverseRecOn with
  | nil => rfl
  | append_singleton turns t ih =>
    rw [run_concat]
    rcases (o.run call turns).turn_cases t with ⟨j, e, next, rfl, hj⟩ | ⟨-, hrunning, -⟩
    · rw [turn_of_step hj]
      exact List.length_set.trans ih
    · rw [hrunning, ih]

theorem Does.call_eq {k : Nat} {c : StoreCall} {reply : Except StorageError c.Reply}
    (h : o.Does call i k (.store c reply)) : (call c o.backend.store).1 = reply :=
  (Exchange.store_inj.1 h.exchange).symm

/-- Every exchange happened on a turn of its request. -/
theorem exists_turn {b : Backend σ} {requests : List (Service α)} {turns : List Turn} {k : Nat}
    {x : Exchange ServiceStep.Reply}
    (h : ((start b requests).run call turns).history[k]? = some (i, x)) :
    ∃ before later, turns = before ++ .step i :: later ∧
      ((start b requests).run call before).Does call i k x := by
  induction turns using List.reverseRecOn with
  | nil => cases h
  | append_singleton turns t ih =>
    rw [run_concat] at h
    have earlier (h : ((start b requests).run call turns).history[k]? = some (i, x)) :
        ∃ before later, turns ++ [t] = before ++ .step i :: later ∧
          ((start b requests).run call before).Does call i k x := by
      obtain ⟨before, later, rfl, hdoes⟩ := ih h
      exact ⟨before, later ++ [t], List.append_assoc _ _ _, hdoes⟩
    rcases ((start b requests).run call turns).turn_cases t with
      ⟨j, e, next, rfl, hj⟩ | ⟨-, -, hhistory⟩
    · rw [turn_of_step hj] at h
      rcases History.getElem?_add.1 h with h | ⟨hk, heq⟩
      · exact earlier h
      · obtain ⟨rfl, rfl⟩ := Prod.mk.inj heq
        exact ⟨turns, [], rfl, hk.symm, ⟨next, hj⟩, rfl⟩
    · rw [hhistory] at h
      exact earlier h

end Overlap

end TaskBoard
