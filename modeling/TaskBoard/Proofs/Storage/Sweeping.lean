import Mathlib.Data.List.Induction
import TaskBoard.Proofs.Storage.TimedMap
import TaskBoard.Storage.Sweeper

/-!
# What a sweeper drops, and when

A sweeper waits for two things at once, the signal to stop and the next tick, and starts waiting
anew whenever one of them comes.  Whatever comes in whatever order, its next tick is the first
multiple of the period that has not passed; so it sweeps once a multiple has passed, and at no
other time, until a signal to stop comes.

    a sweeper that waits catches up with its ticks              (settle_ticks)
    what each event does to a sweeper that is idle              (step_set, step_wait, step_signal)
    where a run leads                                           (keeps_run)
    what is dropped, and when                                   (sweeps_at_ticks)
-/

namespace TaskBoard

/-! ## Time -/

namespace SweeperEvent

/-- The time that passes. -/
def duration : SweeperEvent → Nat
  | .wait ms => ms
  | _ => 0

/-- A signal that does not stop the sweeper. -/
def isGoOn : SweeperEvent → Bool
  | .signal stop => !stop
  | _ => false

/-- The time that passes in a run. -/
def waited (events : List SweeperEvent) : Nat := (events.map duration).sum

theorem waited_concat (events : List SweeperEvent) (e : SweeperEvent) :
    waited (events ++ [e]) = waited events + e.duration := by
  simp [waited]

/-- A multiple of the period passes with the last event of a run. -/
def PassesTick (period : Nat) (events : List SweeperEvent) (e : SweeperEvent) : Prop :=
  ∃ k, waited events < k * period ∧ k * period ≤ waited (events ++ [e])

end SweeperEvent

open SweeperEvent (waited waited_concat PassesTick)

namespace Ticker

/-- The first multiple of a period after a time. -/
def after (period time : Nat) : Nat := (time / period + 1) * period

theorem lt_after {period : Nat} (h : 0 < period) (time : Nat) : time < after period time := by
  rw [after, Nat.mul_comm]
  exact Nat.lt_mul_div_succ time h

theorem after_le_add (period time : Nat) : after period time ≤ time + period := by
  rw [after, Nat.succ_mul]
  exact Nat.add_le_add_right (Nat.div_mul_le_self time period) period

theorem after_le_iff {period time : Nat} (h : 0 < period) {later : Nat} :
    after period time ≤ later ↔ ∃ k, time < k * period ∧ k * period ≤ later := by
  constructor
  · exact fun hle => ⟨_, lt_after h time, hle⟩
  · rintro ⟨k, hk, hle⟩
    have : time / period + 1 ≤ k := Nat.div_lt_of_lt_mul (by rwa [Nat.mul_comm] at hk)
    exact (Nat.mul_le_mul_right period this).trans hle

/-- The multiple that is neither passed nor more than a period ahead. -/
theorem eq_after {period time k : Nat} (hlt : time < k * period)
    (hle : k * period ≤ time + period) (hk : 0 < k) : k * period = after period time := by
  obtain ⟨j, rfl⟩ : ∃ j, k = j + 1 := ⟨k - 1, by omega⟩
  have hdiv : time / period = j := by
    rw [Nat.succ_mul] at hlt hle
    refine Nat.div_eq_of_lt_le (by omega) ?_
    rw [Nat.succ_mul]
    exact hlt
  rw [after, hdiv]

end Ticker

namespace FilterCache

theorem sweep_sweep (c : FilterCache) (now : Int) : (c.sweep now).sweep now = c.sweep now := by
  have hentries : (c.entries.filter fun e => !c.isExpired now e.2).filter
      (fun e => !c.isExpired now e.2) = c.entries.filter fun e => !c.isExpired now e.2 := by
    rw [List.filter_filter]
    simp only [Bool.and_self]
  exact congrArg (FilterCache.mk c.ttl) hentries

/-- What a sweep leaves is younger than it may get. -/
theorem entries_sweep {c : FilterCache} {now : Int}
    (h : ∀ x ∈ c.entries, x.2.insertedAt ≤ now) :
    (c.sweep now).entries = c.entries.filter fun x => now - x.2.insertedAt < c.ttl := by
  refine List.filter_congr fun x hx => ?_
  rw [Bool.eq_iff_iff, Bool.not_eq_true', isExpired_eq_false_iff (h x hx), decide_eq_true_iff]

end FilterCache

namespace Sweeper

/-! ## Turns -/

/-- A sweeper that waits takes the ticks that have passed, and sweeps if there are any. -/
theorem settle_ticks (s : Sweeper) (hrun : s.stopped = false) (hseen : s.signal.isNew = false) :
    ∃ n, s.settle =
        { s with
          ticker := { s.ticker with next := s.ticker.next + n * s.ticker.period }
          cache := if s.ticker.next ≤ s.elapsed then s.cache.sweep s.now else s.cache } ∧
      s.elapsed < s.ticker.next + n * s.ticker.period ∧
      (n = 0 ∨ s.ticker.next + n * s.ticker.period ≤ s.elapsed + s.ticker.period) := by
  fun_induction settle s with
  | case1 s t h ih =>
    have hle : s.ticker.next ≤ s.elapsed := by
      by_contra hn
      simp [turn?, hrun, hseen, hn] at h
    have ht : t = { s with ticker := s.ticker.take, cache := s.cache.sweep s.now } := by
      simpa [turn?, hrun, hseen, hle] using h.symm
    subst ht
    obtain ⟨n, heq, hlt, hn⟩ := ih hrun hseen
    refine ⟨n + 1, ?_, ?_, .inr ?_⟩
    · rw [heq, if_pos hle]
      simp only [Ticker.take, FilterCache.sweep_sweep, ite_self]
      congr 2
      rw [Nat.succ_mul]
      omega
    · simp only [Ticker.take] at hlt
      rw [Nat.succ_mul]
      omega
    · simp only [Ticker.take] at hn
      rw [Nat.succ_mul]
      rcases hn with rfl | hn <;> omega
  | case2 s h =>
    have hgt : s.elapsed < s.ticker.next := by
      by_contra hn
      simp [turn?, hrun, hseen, Nat.not_lt.1 hn] at h
    exact ⟨0, by simp [Nat.not_le.2 hgt], by simpa using hgt, .inl rfl⟩

/-- There is nothing to take: the sweeper has stopped, or it has seen the last signal and its
next tick is the first one ahead. -/
def IsIdle (s : Sweeper) : Prop :=
  s.stopped = true ∨
    (s.stopped = false ∧ s.signal = .initial ∧
      s.ticker.next = Ticker.after s.ticker.period s.elapsed)

section

variable {s : Sweeper}

theorem settle_of_isIdle (h : s.IsIdle) : s.settle = s := by
  refine settle_of_turn?_eq_none ?_
  rcases h with hstop | ⟨hrun, hsignal, hnext⟩
  · simp [turn?, hstop]
  · have := Ticker.lt_after s.ticker.period_pos s.elapsed
    simp [turn?, hrun, hsignal, hnext, this, StopSignal.initial]

theorem step_set (h : s.IsIdle) (ids : List Int) (rows : List FilterRow) :
    s.step (.set ids rows) = { s with cache := s.cache.set s.now ids rows } :=
  settle_of_isIdle h

/-- A sweeper that has stopped takes no signal. -/
theorem step_signal_of_stopped (hstop : s.stopped = true) (stop : Bool) :
    s.step (.signal stop) = s := by
  simp only [step, send, if_pos hstop]
  exact settle_of_stopped hstop

/-- A signal to go on leaves the sweeper as it was. -/
theorem step_goOn (h : s.IsIdle) : s.step (.signal false) = s := by
  rcases id h with hstop | ⟨hrun, hsignal, -⟩
  · exact step_signal_of_stopped hstop false
  · have hturn : (s.send false).turn? = some s := by
      obtain ⟨cache, now, elapsed, ticker, signal, stopped⟩ := s
      cases hrun
      cases hsignal
      simp [send, turn?, StopSignal.sent]
    rw [step, settle_of_turn? hturn, settle_of_isIdle h]

/-- A signal to stop is taken at once. -/
theorem step_stop (hrun : s.stopped = false) :
    s.step (.signal true) = { s with signal := ⟨true, false⟩, stopped := true } := by
  have hturn : (s.send true).turn? = some { s with signal := ⟨true, false⟩, stopped := true } := by
    simp [send, turn?, hrun, StopSignal.sent]
  rw [step, settle_of_turn? hturn, settle_of_stopped rfl]

theorem step_wait_of_stopped (hstop : s.stopped = true) (ms : Nat) :
    s.step (.wait ms) = { s with now := s.now + ms, elapsed := s.elapsed + ms } :=
  settle_of_stopped hstop

/-- Time passes for a sweeper that runs.  It sweeps if its next tick has passed. -/
theorem step_wait (h : s.IsIdle) (hrun : s.stopped = false) (ms : Nat) :
    s.step (.wait ms) =
      { s with
        now := s.now + ms
        elapsed := s.elapsed + ms
        ticker := { s.ticker with next := Ticker.after s.ticker.period (s.elapsed + ms) }
        cache := if Ticker.after s.ticker.period s.elapsed ≤ s.elapsed + ms
          then s.cache.sweep (s.now + ms) else s.cache } := by
  obtain ⟨hsignal, hnext⟩ := (h.resolve_left (by simp [hrun])).2
  obtain ⟨n, heq, hlt, hn⟩ := settle_ticks
    { s with now := s.now + ms, elapsed := s.elapsed + ms } hrun (by rw [hsignal]; rfl)
  have hle := Ticker.after_le_add s.ticker.period s.elapsed
  simp only [hnext] at heq hlt hn
  have hafter : Ticker.after s.ticker.period s.elapsed + n * s.ticker.period =
      Ticker.after s.ticker.period (s.elapsed + ms) := by
    rw [Ticker.after, ← Nat.add_mul] at hlt hn ⊢
    refine Ticker.eq_after hlt ?_ (Nat.add_pos_left (Nat.succ_pos _) n)
    rcases hn with rfl | hn
    · rw [Ticker.after] at hle
      rw [Nat.add_zero]
      omega
    · exact hn
  rw [step, heq, hafter]

end

/-! ## Runs -/

/-- Where a run leads from the start. -/
structure Keeps (ttl period : Nat) (events : List SweeperEvent) (s : Sweeper) : Prop where
  ttl : s.cache.ttl = ttl
  period : s.ticker.period = period
  now : s.now = waited events
  elapsed : s.elapsed = waited events
  stopped : s.stopped = true ↔ .signal true ∈ events
  idle : s.IsIdle
  past : ∀ x ∈ s.cache.entries, x.2.insertedAt ≤ s.now

theorem keeps_start (ttl : Nat) {period : Nat} (h : 0 < period) :
    (start ttl period h).Keeps ttl period [] where
  ttl := rfl
  period := rfl
  now := rfl
  elapsed := rfl
  stopped := by simp [start]
  idle := .inr ⟨rfl, rfl, by simp [start, Ticker.start, Ticker.take, Ticker.after]⟩
  past := nofun

namespace Keeps

variable {ttl period : Nat} {events : List SweeperEvent} {s : Sweeper}

theorem set (k : s.Keeps ttl period events) (ids : List Int) (rows : List FilterRow) :
    (s.step (.set ids rows)).Keeps ttl period (events ++ [.set ids rows]) := by
  rw [step_set k.idle]
  refine ⟨k.ttl, k.period, ?_, ?_, ?_, k.idle, ?_⟩
  · rw [waited_concat]
    exact k.now
  · rw [waited_concat]
    exact k.elapsed
  · simpa using k.stopped
  · intro x hx
    rcases List.mem_cons.1 hx with rfl | hx
    · exact Int.le_refl s.now
    · exact k.past x (List.mem_filter.1 hx).1

theorem signal (k : s.Keeps ttl period events) (stop : Bool) :
    (s.step (.signal stop)).Keeps ttl period (events ++ [.signal stop]) := by
  have hnow : s.now = waited (events ++ [.signal stop]) := by
    rw [waited_concat]
    exact k.now
  have helapsed : s.elapsed = waited (events ++ [.signal stop]) := by
    rw [waited_concat]
    exact k.elapsed
  cases stop with
  | false =>
    rw [step_goOn k.idle]
    exact ⟨k.ttl, k.period, hnow, helapsed, by simpa using k.stopped, k.idle, k.past⟩
  | true =>
    cases hs : s.stopped with
    | true =>
      rw [step_signal_of_stopped hs]
      exact ⟨k.ttl, k.period, hnow, helapsed, by simp [hs], k.idle, k.past⟩
    | false =>
      rw [step_stop hs]
      exact ⟨k.ttl, k.period, hnow, helapsed, by simp, .inl rfl, k.past⟩

theorem wait (k : s.Keeps ttl period events) (ms : Nat) :
    (s.step (.wait ms)).Keeps ttl period (events ++ [.wait ms]) := by
  have hnow : s.now + ms = waited (events ++ [.wait ms]) := by
    rw [waited_concat, k.now]
    rfl
  have helapsed : s.elapsed + ms = waited (events ++ [.wait ms]) := by
    rw [waited_concat, k.elapsed]
    rfl
  have hpast : ∀ x ∈ s.cache.entries, x.2.insertedAt ≤ s.now + ms := by
    intro x hx
    have := k.past x hx
    omega
  cases hs : s.stopped with
  | true =>
    rw [step_wait_of_stopped hs]
    exact ⟨k.ttl, k.period, hnow, helapsed, by simpa using k.stopped, .inl hs, hpast⟩
  | false =>
    obtain ⟨hsignal, -⟩ := (k.idle.resolve_left (by simp [hs])).2
    rw [step_wait k.idle hs]
    refine ⟨?_, k.period, hnow, helapsed, by simpa using k.stopped, .inr ⟨hs, hsignal, rfl⟩, ?_⟩
    · dsimp only
      split
      · exact k.ttl
      · exact k.ttl
    · dsimp only
      split
      · exact fun x hx => hpast x (List.mem_filter.1 hx).1
      · exact hpast

/-- Every event leads on. -/
theorem step (k : s.Keeps ttl period events) (e : SweeperEvent) :
    (s.step e).Keeps ttl period (events ++ [e]) := by
  cases e with
  | set ids rows => exact k.set ids rows
  | wait ms => exact k.wait ms
  | signal stop => exact k.signal stop

end Keeps

theorem run_concat (s : Sweeper) (events : List SweeperEvent) (e : SweeperEvent) :
    s.run (events ++ [e]) = (s.run events).step e := by
  simp [run]

theorem keeps_run (ttl : Nat) {period : Nat} (h : 0 < period) (events : List SweeperEvent) :
    ((start ttl period h).run events).Keeps ttl period events := by
  induction events using List.reverseRecOn with
  | nil => exact keeps_start ttl h
  | append_singleton events e ih =>
    rw [run_concat]
    exact ih.step e

/-- Signals to go on do not show. -/
theorem run_filter_goOn (ttl : Nat) {period : Nat} (h : 0 < period) (events : List SweeperEvent) :
    (start ttl period h).run (events.filter fun e => !e.isGoOn) =
      (start ttl period h).run events := by
  induction events using List.reverseRecOn with
  | nil => rfl
  | append_singleton events e ih =>
    rw [List.filter_append, run_concat]
    cases he : e.isGoOn with
    | true =>
      obtain rfl : e = .signal false := by
        cases e <;> simp_all [SweeperEvent.isGoOn]
      rw [step_goOn (keeps_run ttl h events).idle]
      simpa [SweeperEvent.isGoOn] using ih
    | false =>
      have hkeep : [e].filter (fun e => !e.isGoOn) = [e] := by simp [he]
      rw [hkeep, run_concat, ih]

/-! ## Sweeping -/

/-- What an event alone makes of the cache. -/
def changed (s : Sweeper) : SweeperEvent → FilterCache
  | .set ids rows => s.cache.set s.now ids rows
  | _ => s.cache

section

variable {ttl period : Nat} {events : List SweeperEvent} {s : Sweeper}

theorem Keeps.passesTick_iff (k : s.Keeps ttl period events) (e : SweeperEvent) :
    PassesTick period events e ↔
      Ticker.after s.ticker.period s.elapsed ≤ s.elapsed + e.duration := by
  rw [PassesTick, waited_concat, ← k.period, ← k.elapsed]
  exact (Ticker.after_le_iff s.ticker.period_pos).symm

/-- Only time passes ticks. -/
theorem Keeps.eq_wait (k : s.Keeps ttl period events) {e : SweeperEvent}
    (h : PassesTick period events e) : ∃ ms, e = .wait ms := by
  have hlt := Ticker.lt_after s.ticker.period_pos s.elapsed
  rw [k.passesTick_iff] at h
  cases e with
  | wait ms => exact ⟨ms, rfl⟩
  | set ids rows => exact absurd (hlt.trans_le h) (Nat.lt_irrefl _)
  | signal stop => exact absurd (hlt.trans_le h) (Nat.lt_irrefl _)

/-- With a tick, what is old is dropped. -/
theorem Keeps.entries_of_passesTick (k : s.Keeps ttl period events) {e : SweeperEvent}
    (hrun : (s.step e).stopped = false) (h : PassesTick period events e) :
    (s.step e).cache.entries =
      s.cache.entries.filter fun x => (s.step e).now - x.2.insertedAt < ttl := by
  obtain ⟨ms, rfl⟩ := k.eq_wait h
  rw [k.passesTick_iff] at h
  cases hs : s.stopped with
  | true =>
    rw [step_wait_of_stopped hs] at hrun
    exact absurd (hs.symm.trans hrun) (by decide)
  | false =>
    have hpass : Ticker.after s.ticker.period s.elapsed ≤ s.elapsed + ms := h
    rw [step_wait k.idle hs, ← k.ttl]
    dsimp only
    rw [if_pos hpass]
    refine FilterCache.entries_sweep fun x hx => ?_
    have := k.past x hx
    omega

/-- Without a tick, and after its end, a sweeper does not touch the cache. -/
theorem Keeps.cache_eq_changed (k : s.Keeps ttl period events) {e : SweeperEvent}
    (h : (s.step e).stopped = true ∨ ¬ PassesTick period events e) :
    (s.step e).cache = s.changed e := by
  cases e with
  | set ids rows =>
    rw [step_set k.idle]
    rfl
  | signal stop =>
    cases hs : s.stopped with
    | true =>
      rw [step_signal_of_stopped hs]
      rfl
    | false =>
      cases stop with
      | true =>
        rw [step_stop hs]
        rfl
      | false =>
        rw [step_goOn k.idle]
        rfl
  | wait ms =>
    cases hs : s.stopped with
    | true =>
      rw [step_wait_of_stopped hs]
      rfl
    | false =>
      rw [step_wait k.idle hs] at h ⊢
      rw [k.passesTick_iff] at h
      exact if_neg (h.resolve_left (by simp [hs]))

/-- What may still be found stays. -/
theorem Keeps.mem_entries (k : s.Keeps ttl period events) {e : SweeperEvent}
    {x : String × CacheEntry} (hx : x ∈ s.cache.entries)
    (hyoung : (s.step e).now - x.2.insertedAt < ttl)
    (hset : ∀ ids rows, e = .set ids rows → x.1 ≠ FilterCache.key ids) :
    x ∈ (s.step e).cache.entries := by
  by_cases h : (s.step e).stopped = true ∨ ¬ PassesTick period events e
  · rw [k.cache_eq_changed h]
    cases e with
    | set ids rows =>
      exact List.mem_cons_of_mem _ (List.mem_filter.2 ⟨hx, by simpa using hset ids rows rfl⟩)
    | wait ms => exact hx
    | signal stop => exact hx
  · obtain ⟨hrun, hpass⟩ := not_or.1 h
    rw [k.entries_of_passesTick (by simpa using hrun) (not_not.1 hpass)]
    exact List.mem_filter.2 ⟨hx, by simpa using hyoung⟩

theorem Keeps.next_eq (k : s.Keeps ttl period events) (hrun : s.stopped = false) :
    s.ticker.next = Ticker.after period (waited events) := by
  obtain ⟨-, hnext⟩ := (k.idle.resolve_left (by simp [hrun])).2
  rw [hnext, k.period, k.elapsed]

end

/-- **A sweeper drops what is old, at the ticks, until it is told to stop.**  In every run, with
any events in any order: it has stopped if and only if some signal so far said so.  While it
runs, an event with which a multiple of the period passes leaves exactly the entries that are
younger than they may get; no other event makes the sweeper drop anything, and neither does any
event once it has stopped.  Signals to go on could as well be left out, however many they are,
and the next tick is always the first multiple of the period ahead.  An entry that may still be
found is never dropped, unless other rows are set for its set. -/
theorem sweeps_at_ticks (ttl : Nat) {period : Nat} (h : 0 < period) (events : List SweeperEvent)
    (e : SweeperEvent) :
    let s := (start ttl period h).run events
    let t := s.step e
    (t.stopped = true ↔ .signal true ∈ events ++ [e]) ∧
    t.now = waited (events ++ [e]) ∧
    (t.stopped = false → PassesTick period events e →
      t.cache.entries = s.cache.entries.filter fun x => t.now - x.2.insertedAt < ttl) ∧
    (t.stopped = true ∨ ¬ PassesTick period events e → t.cache = s.changed e) ∧
    (t.stopped = false → t.ticker.next = Ticker.after period (waited (events ++ [e]))) ∧
    (start ttl period h).run (events.filter fun e => !e.isGoOn) = s ∧
    ∀ x ∈ s.cache.entries, t.now - x.2.insertedAt < ttl →
      (∀ ids rows, e = .set ids rows → x.1 ≠ FilterCache.key ids) → x ∈ t.cache.entries := by
  have k := keeps_run ttl h events
  have k' := k.step e
  exact ⟨k'.stopped, k'.now, k.entries_of_passesTick, k.cache_eq_changed, k'.next_eq,
    run_filter_goOn ttl h events, fun x hx => k.mem_entries hx⟩

/-- At the tick the first of two entries has lived its second; the signal to go on has not put
off the tick. -/
theorem sweeps_at_ticks_goOn :
    let s := (start 1000 1500 (by decide)).run
      [.set [1] [], .wait 700, .signal false, .set [2] []]
    let t := s.step (.wait 900)
    0 < 1500 ∧ t.stopped = false ∧ t.cache.entries = [(FilterCache.key [2], ⟨[], 700⟩)] := by
  intro s t
  obtain ⟨hstop, hnow, hdrop, -⟩ := sweeps_at_ticks 1000 (by decide : 0 < 1500)
    [.set [1] [], .wait 700, .signal false, .set [2] []] (.wait 900)
  have hrun : t.stopped = false := by
    rw [← Bool.not_eq_true]
    exact fun h => absurd (hstop.1 h) (by simp)
  have hpass : PassesTick 1500 [.set [1] [], .wait 700, .signal false, .set [2] []] (.wait 900) :=
    ⟨1, by decide, by decide⟩
  refine ⟨by decide, hrun, (hdrop hrun hpass).trans ?_⟩
  have hne : FilterCache.key [1] ≠ FilterCache.key [2] := by
    rw [Ne, FilterCache.key_eq_iff]
    decide
  have hs : s.cache.entries =
      [(FilterCache.key [2], ⟨[], 700⟩), (FilterCache.key [1], ⟨[], 0⟩)] := by
    simp [s, run, step, settle, turn?, send, start, StopSignal.initial, StopSignal.sent,
      Ticker.start, Ticker.take, FilterCache.set, FilterCache.empty, hne]
  change List.filter _ s.cache.entries = _
  rw [hs, hnow]
  rfl

end Sweeper

end TaskBoard
