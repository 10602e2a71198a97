import TaskBoard.Shutdown
import TaskBoard.Storage.Cache

/-!
# The sweeper

A task in the background that sweeps a cache at every multiple of a period since it was
started, until it is told to stop.  In each turn it takes one thing that has happened, a signal
before a tick of its timer, and it goes on until there is nothing to take.  Ticks that have
passed in the meantime are taken one after the other.  A signal to go on is taken, too, and
changes nothing.

    a sweeper that has stopped takes nothing                    (settle_of_stopped)
    one turn after the other leads to where no turn is left     (turn?_settle)
-/

namespace TaskBoard

/-- A timer that ticks at every multiple of its period.  Times are in milliseconds. -/
structure Ticker where
  period : Nat
  /-- The first tick that has not been taken. -/
  next : Nat
  period_pos : 0 < period

namespace Ticker

/-- A timer at its start, when it ticks for the first time. -/
def start (period : Nat) (h : 0 < period) : Ticker := ⟨period, 0, h⟩

/-- The first tick is taken, however late. -/
def take (t : Ticker) : Ticker := { t with next := t.next + t.period }

end Ticker

/-- A cache with its sweeper. -/
structure Sweeper where
  cache : FilterCache
  /-- The time of the cache's clock. -/
  now : Int
  /-- The time since the sweeper was started. -/
  elapsed : Nat
  ticker : Ticker
  signal : StopSignal
  stopped : Bool

/-- What happens to a cache and its sweeper. -/
inductive SweeperEvent
  | set (ids : List Int) (rows : List FilterRow)
  | wait (ms : Nat)
  /-- Whether to stop. -/
  | signal (stop : Bool)

namespace Sweeper

/-- An empty cache, whose sweeper has been started.  The tick at the start is taken at once, and
nothing is swept. -/
def start (ttl period : Nat) (h : 0 < period) : Sweeper :=
  ⟨.empty ttl, 0, 0, (Ticker.start period h).take, .initial, false⟩

/-- One turn of the sweeper, if there is something to take. -/
def turn? (s : Sweeper) : Option Sweeper :=
  if s.stopped then none
  else if s.signal.isNew then
    some { s with signal := { s.signal with isNew := false }, stopped := s.signal.stop }
  else if s.ticker.next ≤ s.elapsed then
    some { s with ticker := s.ticker.take, cache := s.cache.sweep s.now }
  else none

/-- How many turns there may be at most. -/
def work (s : Sweeper) : Nat :=
  (if s.signal.isNew then 1 else 0) + (s.elapsed + 1 - s.ticker.next)

theorem work_turn? {s t : Sweeper} (h : s.turn? = some t) : t.work < s.work := by
  unfold turn? at h
  split at h
  · cases h
  · split at h
    · next hnew =>
      cases h
      simp [work, hnew]
    · next hnew =>
      split at h
      · cases h
        have := s.ticker.period_pos
        simp only [work, Ticker.take, hnew]
        omega
      · cases h

/-- The sweeper takes its turns until there is none left. -/
def settle (s : Sweeper) : Sweeper :=
  match _h : s.turn? with
  | some t => t.settle
  | none => s
termination_by s.work
decreasing_by exact work_turn? _h

/-- Sends a signal; nobody takes it from a sweeper that has stopped. -/
def send (s : Sweeper) (stop : Bool) : Sweeper :=
  if s.stopped then s else { s with signal := .sent stop }

/-- Something happens, and the sweeper takes it. -/
def step (s : Sweeper) : SweeperEvent → Sweeper
  | .set ids rows => settle { s with cache := s.cache.set s.now ids rows }
  | .wait ms => settle { s with now := s.now + ms, elapsed := s.elapsed + ms }
  | .signal stop => settle (s.send stop)

/-- The sweeper after all the events. -/
def run (s : Sweeper) (events : List SweeperEvent) : Sweeper := events.foldl step s

/-! ## Lemmas -/

theorem settle_of_turn? {s t : Sweeper} (h : s.turn? = some t) : s.settle = t.settle := by
  rw [settle]
  split
  · next u hu => rw [Option.some.inj (hu.symm.trans h)]
  · next hn => cases hn.symm.trans h

theorem settle_of_turn?_eq_none {s : Sweeper} (h : s.turn? = none) : s.settle = s := by
  rw [settle]
  split
  · next u hu => cases hu.symm.trans h
  · rfl

theorem turn?_settle (s : Sweeper) : s.settle.turn? = none := by
  fun_induction settle s with
  | case1 s t h ih => exact ih
  | case2 s h => exact h

theorem settle_of_stopped {s : Sweeper} (h : s.stopped = true) : s.settle = s :=
  settle_of_turn?_eq_none (by simp [turn?, h])

end Sweeper

end TaskBoard
