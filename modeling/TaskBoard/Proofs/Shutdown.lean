import Mathlib.Data.List.DropRight
import Mathlib.Data.List.Induction
import TaskBoard.Shutdown

/-!
# What a shutdown reports

The signal is given by the first call that gives it, stays, and reaches everyone who subscribed
or waited, before or after.  A shutdown answers for the tasks that have been registered since
the one before it.  So a task that does not end is reported once, by the first shutdown after its
registration, and it is only all the answers of a run together that speak of all its tasks.

    the signal in every run                                     (spread_run)
    the list has what was registered since the last shutdown    (tasks_run)
    the answers of a run                                        (answers_all_iff)
    what a shutdown reports                                     (shutdown_reports)
-/

namespace TaskBoard

namespace ShutdownCall

/-- Whether a call gives the signal. -/
def givesSignal : ShutdownCall → Bool
  | .register _ => false
  | .subscribe => false
  | .trigger => true
  | .wait => false
  | .shutdown => true

/-- The task that a call registers. -/
def task? : ShutdownCall → Option BackgroundTask
  | .register t => some t
  | _ => none

/-- The tasks that are registered by calls, in order. -/
def registered (calls : List ShutdownCall) : List BackgroundTask := calls.filterMap task?

/-- The calls since the last shutdown. -/
def sinceShutdown (calls : List ShutdownCall) : List ShutdownCall :=
  calls.rtakeWhile fun c => c != .shutdown

theorem sinceShutdown_concat (calls : List ShutdownCall) {c : ShutdownCall} (h : c ≠ .shutdown) :
    sinceShutdown (calls ++ [c]) = sinceShutdown calls ++ [c] :=
  List.rtakeWhile_concat_pos _ _ _ (by simpa using h)

theorem sinceShutdown_concat_shutdown (calls : List ShutdownCall) :
    sinceShutdown (calls ++ [.shutdown]) = [] :=
  List.rtakeWhile_concat_neg _ _ _ (by simp)

theorem registered_concat (calls : List ShutdownCall) (c : ShutdownCall) :
    registered (calls ++ [c]) = registered calls ++ c.task?.toList := by
  cases c <;> simp [registered, task?]

end ShutdownCall

open ShutdownCall (registered sinceShutdown registered_concat)

namespace Shutdown

/-- The answers of the shutdowns among the calls, in order. -/
def answers (s : Shutdown) : List ShutdownCall → List Bool
  | [] => []
  | .shutdown :: calls => s.shutdown.1 :: s.shutdown.2.answers calls
  | c :: calls => (s.step c).answers calls

theorem run_concat (s : Shutdown) (calls : List ShutdownCall) (c : ShutdownCall) :
    s.run (calls ++ [c]) = (s.run calls).step c := by
  simp [run]

theorem answers_append (s : Shutdown) (calls more : List ShutdownCall) :
    s.answers (calls ++ more) = s.answers calls ++ (s.run calls).answers more := by
  induction calls generalizing s with
  | nil => rfl
  | cons c calls ih => cases c <;> simp [answers, run, ih, step]

/-! ## The signal -/

/-- The signal has reached everyone, or nobody. -/
structure Spread (s : Shutdown) (subscribed waited : Nat) (given : Bool) : Prop where
  reader : s.reader.stop = given
  subscribers : s.subscribers.map (·.stop) = List.replicate subscribed given
  waiters : s.waiters = List.replicate waited given

theorem spread_initial : initial.Spread 0 0 false := ⟨rfl, rfl, rfl⟩

namespace Spread

variable {s : Shutdown} {n m : Nat} {given : Bool}

theorem subscribe (h : s.Spread n m given) : s.subscribe.Spread (n + 1) m given where
  reader := h.reader
  subscribers := by
    simp [Shutdown.subscribe, h.subscribers, h.reader, List.replicate_succ']
  waiters := h.waiters

theorem wait (h : s.Spread n m given) : s.wait.Spread n (m + 1) given where
  reader := h.reader
  subscribers := h.subscribers
  waiters := by
    simp [Shutdown.wait, isTriggered, h.waiters, h.reader, List.replicate_succ']

/-- Whoever has subscribed or waited so far has the signal now. -/
theorem trigger (h : s.Spread n m given) : s.trigger.Spread n m true where
  reader := rfl
  subscribers := by
    have hlen : s.subscribers.length = n := by simpa using congrArg List.length h.subscribers
    simp [Shutdown.trigger, StopSignal.sent, hlen]
  waiters := by simp [Shutdown.trigger, h.waiters]

theorem step (h : s.Spread n m given) (c : ShutdownCall) :
    (s.step c).Spread (n + [c].count .subscribe) (m + [c].count .wait)
      (given || c.givesSignal) := by
  cases c with
  | register t =>
    rw [ShutdownCall.givesSignal, Bool.or_false]
    exact ⟨h.reader, h.subscribers, h.waiters⟩
  | subscribe =>
    rw [ShutdownCall.givesSignal, Bool.or_false]
    exact h.subscribe
  | trigger =>
    rw [ShutdownCall.givesSignal, Bool.or_true]
    exact h.trigger
  | wait =>
    rw [ShutdownCall.givesSignal, Bool.or_false]
    exact h.wait
  | shutdown =>
    rw [ShutdownCall.givesSignal, Bool.or_true]
    exact ⟨h.trigger.reader, h.trigger.subscribers, h.trigger.waiters⟩

end Spread

/-- Every subscriber and everyone who waits has the signal as soon as it is given. -/
theorem spread_run (calls : List ShutdownCall) :
    (initial.run calls).Spread (calls.count .subscribe) (calls.count .wait)
      (calls.any (·.givesSignal)) := by
  induction calls using List.reverseRecOn with
  | nil => exact spread_initial
  | append_singleton calls c ih =>
    rw [run_concat, List.count_append, List.count_append, List.any_append, List.any_cons,
      List.any_nil, Bool.or_false]
    exact ih.step c

/-! ## The answers -/

/-- The list has the tasks that were registered since the last shutdown. -/
theorem tasks_run (calls : List ShutdownCall) :
    (initial.run calls).tasks = registered (sinceShutdown calls) := by
  induction calls using List.reverseRecOn with
  | nil => rfl
  | append_singleton calls c ih =>
    rw [run_concat]
    by_cases hc : c = .shutdown
    · rw [hc, ShutdownCall.sinceShutdown_concat_shutdown]
      rfl
    · rw [ShutdownCall.sinceShutdown_concat calls hc, registered_concat, ← ih]
      cases c with
      | register t => rfl
      | shutdown => exact absurd rfl hc
      | subscribe => exact (List.append_nil _).symm
      | trigger => exact (List.append_nil _).symm
      | wait => exact (List.append_nil _).symm

/-- A task is in the list, or it has been answered for. -/
theorem answers_all_iff (calls : List ShutdownCall) :
    ((initial.answers calls).all id ∧ (initial.run calls).tasks.all (·.hasEnded true)) ↔
      (registered calls).all (·.hasEnded true) := by
  induction calls using List.reverseRecOn with
  | nil => simp [answers, run, initial, registered]
  | append_singleton calls c ih =>
    rw [answers_append, run_concat, registered_concat, List.all_append, List.all_append,
      Bool.and_eq_true, Bool.and_eq_true, ← ih]
    cases c with
    | register t => simp [answers, step, register, ShutdownCall.task?, and_assoc]
    | subscribe => simp [answers, step, subscribe, ShutdownCall.task?]
    | trigger => simp [answers, step, trigger, ShutdownCall.task?]
    | wait => simp [answers, step, wait, ShutdownCall.task?]
    | shutdown => simp [answers, step, tasks_shutdown, answer_shutdown, ShutdownCall.task?]

/-- **What a shutdown reports.**  After any calls: the signal is given if and only if one of them
gave it, and then everyone who subscribed sees it and every wait is over, while otherwise nobody
sees it and no wait is over.  If a shutdown follows, its answer is that every task registered
since the shutdown before it has ended.  That every task registered in the whole run has ended
is what its answer and all the answers before it say together. -/
theorem shutdown_reports (calls : List ShutdownCall) :
    let s := initial.run calls
    let given := calls.any (·.givesSignal)
    s.isTriggered = given ∧
    s.subscribers.map (·.stop) = List.replicate (calls.count .subscribe) given ∧
    s.waiters = List.replicate (calls.count .wait) given ∧
    (s.shutdown.1 = true ↔ ∀ t ∈ registered (sinceShutdown calls), t.hasEnded true = true) ∧
    ((∀ a ∈ initial.answers (calls ++ [.shutdown]), a = true) ↔
      ∀ t ∈ registered calls, t.hasEnded true = true) := by
  obtain ⟨hreader, hsubscribers, hwaiters⟩ := spread_run calls
  refine ⟨hreader, hsubscribers, hwaiters, ?_, ?_⟩
  · rw [answer_shutdown, tasks_run, List.all_eq_true]
  · have h := answers_all_iff (calls ++ [.shutdown])
    rw [run_concat, step, tasks_shutdown, registered_concat] at h
    simpa [ShutdownCall.task?] using h

/-- A second shutdown answers that all tasks have ended, and one that the first shutdown waited
for in vain goes on. -/
theorem not_shutdown_tells_all :
    ¬ ∀ calls, ((initial.run calls).shutdown.1 = true →
      ∀ t ∈ registered calls, t.hasEnded true = true) := by
  intro h
  exact absurd (h [.register .never, .shutdown] rfl .never (by decide)) (by decide)

end Shutdown

end TaskBoard
