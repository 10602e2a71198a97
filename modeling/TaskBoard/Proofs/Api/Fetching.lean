import TaskBoard.Proofs.Api.Orderly
import TaskBoard.Proofs.Filter.Placeholders
import TaskBoard.Proofs.Storage.TimedMap

/-!
# When rows are fetched

The filters of a query are compiled from their rows, and those come from the cache or from the
store.  Between two compilations the cache may be dropped or swept, and time passes; it passes as
well while the store is at work.

What the cache holds was fetched, and it holds what was fetched last.  So the store is asked for
the rows of a set unless they were fetched since the cache was last dropped, and less than their
time ago.  Finding them does not make them younger, and a failure of the store leaves no trace.

    the ways to load rows, with what is there afterwards        (loadRows_loadsAt)
    the cache knows the fetches of a run                        (recalls_after)
    a compilation fetches, unless it was fetched lately         (fetch_discipline)
-/

namespace TaskBoard

/-- A store whose calls take time, in milliseconds. -/
structure SlowStore (σ : Type) where
  call : (c : StoreCall) → σ → Except StorageError c.Reply × σ
  takes : StoreCall → σ → Nat

/-- What happens to a compiler and its cache. -/
inductive CompilerEvent
  | compile (q : Query)
  | clear
  | sweep
  /-- Nothing happens for a while. -/
  | wait (ms : Nat)

namespace ServiceLog

/-- The sets whose rows were fetched, in order. -/
def fetches (log : ServiceLog) : List (List Int) :=
  log.filterMap fun x =>
    match x.step with
    | .store (.fetchRows ids) => some ids
    | _ => none

/-- Whether some rows were fetched, and the store did not fail. -/
def Fetched (log : ServiceLog) : Prop :=
  ∃ ids rows, Exchange.store (.fetchRows ids) (.ok rows) ∈ log

end ServiceLog

namespace SlowStore

variable {σ : Type} (t : SlowStore σ)

/-- What a step of a request does. -/
def perform (e : ServiceStep) (b : Backend σ) : e.Reply × Backend σ :=
  match e with
  | .store c =>
    ((t.call c b.store).1,
      { b with store := (t.call c b.store).2, now := b.now + t.takes c b.store })
  | .cache c => ((b.cache.perform b.now c).1, { b with cache := (b.cache.perform b.now c).2 })

/-- What is there once the store has looked for the rows of a set. -/
def fetch (ids : List Int) (b : Backend σ) : Backend σ :=
  (t.perform (.store (.fetchRows (sortedIds ids))) b).2

/-- What is exchanged while a query is compiled. -/
def compileLog (q : Query) (b : Backend σ) : ServiceLog := (Service.compile q).log t.perform b

def step (b : Backend σ) : CompilerEvent → Backend σ
  | .compile q => ((Service.compile q).run t.perform b).2
  | .clear => { b with cache := b.cache.clear }
  | .sweep => { b with cache := b.cache.sweep b.now }
  | .wait ms => { b with now := b.now + ms }

/-- What is there after a run. -/
def after (b : Backend σ) (events : List CompilerEvent) : Backend σ := events.foldl t.step b

/-- In the course of a run, a compilation that was over at this time fetched the rows of the set,
and the cache has not been dropped since. -/
def FetchedAt (b : Backend σ) (events : List CompilerEvent) (s : Finset Int) (time : Int) : Prop :=
  ∃ earlier q later, events = earlier ++ .compile q :: later ∧ q.filterIds.toFinset = s ∧
    (t.compileLog q (t.after b earlier)).Fetched ∧
    (t.after b (earlier ++ [.compile q])).now = time ∧ .clear ∉ later

/-- The ways in which the rows of a set are loaded, and what is there afterwards. -/
inductive LoadsAt (ids : List Int) (b : Backend σ) :
    ServiceLog → Except StorageError (List FilterRow) → Backend σ → Prop
  | nothing (h : ids = []) : LoadsAt ids b [] (.ok []) b
  | kept {rows : List FilterRow} (h : ids ≠ []) (hget : b.cache.get? b.now ids = some rows) :
    LoadsAt ids b [.cache (.get ids) (some rows)] (.ok rows) b
  | fetched {rows : List FilterRow} (h : ids ≠ []) (hget : b.cache.get? b.now ids = none) :
    LoadsAt ids b [.cache (.get ids) none, .store (.fetchRows (sortedIds ids)) (.ok rows),
      .cache (.set (sortedIds ids) rows) ()] (.ok rows)
      { t.fetch ids b with
        cache := b.cache.set (t.fetch ids b).now (sortedIds ids) rows }
  | failed {e : StorageError} (h : ids ≠ []) (hget : b.cache.get? b.now ids = none) :
    LoadsAt ids b [.cache (.get ids) none, .store (.fetchRows (sortedIds ids)) (.error e)]
      (.error e) (t.fetch ids b)

end SlowStore

/-! ## Lemmas -/

namespace SlowStore

variable {σ : Type} {t : SlowStore σ} {b : Backend σ}

/-! ### Loading -/

theorem loadRows_loadsAt (ids : List Int) :
    t.LoadsAt ids b ((Service.loadRows ids).log t.perform b)
      ((Service.loadRows ids).run t.perform b).1 ((Service.loadRows ids).run t.perform b).2 := by
  by_cases hids : ids = []
  · subst hids
    exact .nothing rfl
  have hget : t.perform (.cache (.get ids)) b = (b.cache.get? b.now ids, b) := rfl
  rw [Service.loadRows_of_ne_nil hids, Program.run, Program.log, hget]
  cases hkept : b.cache.get? b.now ids with
  | some rows => exact .kept hids hkept
  | none =>
    show t.LoadsAt ids b (_ :: _ :: (Service.afterFetch ids _).log t.perform _)
      ((Service.afterFetch ids _).run t.perform _).1 ((Service.afterFetch ids _).run t.perform _).2
    cases hreply : (t.perform (.store (.fetchRows (sortedIds ids))) b).1 with
    | error e => exact .failed hids hkept
    | ok rows => exact .fetched hids hkept

/-- Compiling loads the rows of the saved filters, and does no more. -/
theorem compile_loadsAt (b : Backend σ) (q : Query) :
    ∃ loaded, t.LoadsAt q.filterIds b (t.compileLog q b) loaded (t.step b (.compile q)) ∧
      ((Service.compile q).run t.perform b).1 = loaded.map q.compile := by
  have hlog : t.compileLog q b = (Service.loadRows q.filterIds).log t.perform b :=
    Program.log_bind_done t.perform _ _ b
  have hrun := Service.run_compile t.perform q b
  refine ⟨_, ?_, congrArg Prod.fst hrun⟩
  rw [hlog, step, hrun]
  exact t.loadRows_loadsAt q.filterIds

namespace LoadsAt

variable {ids : List Int} {log : ServiceLog} {loaded : Except StorageError (List FilterRow)}
  {b' : Backend σ}

theorem loads (h : t.LoadsAt ids b log loaded b') : Loads ids log loaded := by
  cases h with
  | nothing hids => exact .nothing hids
  | kept hids _ => exact .kept hids _
  | fetched hids _ => exact .fetched hids _
  | failed hids _ => exact .failed hids _

theorem fetches_eq (h : t.LoadsAt ids b log loaded b') :
    log.fetches =
      if ids ≠ [] ∧ b.cache.get? b.now ids = none then [sortedIds ids] else [] := by
  cases h with
  | nothing hids => simp [hids, ServiceLog.fetches]
  | kept hids hget =>
    rw [if_neg (by simp [hget])]
    rfl
  | fetched hids hget =>
    rw [if_pos ⟨hids, hget⟩]
    rfl
  | failed hids hget =>
    rw [if_pos ⟨hids, hget⟩]
    rfl

/-- Loading takes as long as the store does, and only rows that were fetched go into the
cache. -/
theorem effect (h : t.LoadsAt ids b log loaded b') :
    ∃ ms : Nat, b'.now = b.now + ms ∧
      (¬ log.Fetched ∧ b'.cache = b.cache ∨
        log.Fetched ∧ ∃ rows, b'.cache = b.cache.set b'.now (sortedIds ids) rows) := by
  have hloads := h.loads
  cases h with
  | nothing _ =>
    refine ⟨0, (Int.add_zero _).symm, .inl ⟨?_, rfl⟩⟩
    rintro ⟨set, rows, hmem⟩
    cases hmem
  | kept _ _ =>
    refine ⟨0, (Int.add_zero _).symm, .inl ⟨?_, rfl⟩⟩
    rintro ⟨set, rows, hmem⟩
    cases congrArg Exchange.step (List.mem_singleton.1 hmem)
  | fetched _ _ =>
    exact ⟨_, rfl, .inr ⟨⟨_, _, List.mem_cons_of_mem _ List.mem_cons_self⟩, _, rfl⟩⟩
  | failed _ _ =>
    refine ⟨_, rfl, .inl ⟨?_, rfl⟩⟩
    rintro ⟨set, rows, hmem⟩
    cases (hloads.of_fetch_mem hmem).1

/-- A failure of the store is all that comes of it. -/
theorem of_failed (h : t.LoadsAt ids b log loaded b') {set : List Int} {e : StorageError}
    (hmem : Exchange.store (.fetchRows set) (.error e) ∈ log) :
    loaded = .error e ∧ b'.cache = b.cache ∧ ¬ log.Fetched := by
  obtain ⟨hloaded, -, -⟩ := h.loads.of_fetch_mem hmem
  have hnot : ¬ log.Fetched := by
    rintro ⟨other, rows, hrows⟩
    cases hloaded.symm.trans (h.loads.of_fetch_mem hrows).1
  obtain ⟨ms, -, ⟨-, hcache⟩ | ⟨hfetched, -⟩⟩ := h.effect
  · exact ⟨hloaded, hcache, hnot⟩
  · exact absurd hfetched hnot

end LoadsAt

/-! ### Runs -/

theorem after_concat (events : List CompilerEvent) (e : CompilerEvent) :
    t.after b (events ++ [e]) = t.step (t.after b events) e :=
  List.foldl_concat ..

theorem after_append (events later : List CompilerEvent) :
    t.after b (events ++ later) = t.after (t.after b events) later :=
  List.foldl_append ..

theorem ttl_step (e : CompilerEvent) : (t.step b e).cache.ttl = b.cache.ttl := by
  cases e with
  | compile q =>
    obtain ⟨loaded, hloads, -⟩ := t.compile_loadsAt b q
    obtain ⟨ms, -, ⟨-, hcache⟩ | ⟨-, rows, hcache⟩⟩ := hloads.effect <;> rw [hcache]
    rfl
  | _ => rfl

theorem ttl_after (events : List CompilerEvent) :
    (t.after b events).cache.ttl = b.cache.ttl := by
  induction events generalizing b with
  | nil => rfl
  | cons e events ih => exact ih.trans (t.ttl_step e)

theorem now_le_step (e : CompilerEvent) : b.now ≤ (t.step b e).now := by
  cases e with
  | compile q =>
    obtain ⟨loaded, hloads, -⟩ := t.compile_loadsAt b q
    obtain ⟨ms, hnow, -⟩ := hloads.effect
    omega
  | clear => exact Int.le_refl _
  | sweep => exact Int.le_refl _
  | wait ms =>
    show b.now ≤ b.now + ms
    omega

theorem now_le_after (events : List CompilerEvent) : b.now ≤ (t.after b events).now := by
  induction events generalizing b with
  | nil => exact Int.le_refl _
  | cons e events ih => exact Int.le_trans (t.now_le_step e) ih

/-! ### Fetches of a run -/

variable {events : List CompilerEvent} {s : Finset Int} {time : Int} {m : TimedMap}

/-- A fetch of a run is the one of its last step, or was one before and is not forgotten. -/
theorem fetchedAt_concat {e : CompilerEvent} :
    t.FetchedAt b (events ++ [e]) s time ↔
      (e ≠ .clear ∧ t.FetchedAt b events s time) ∨
        ∃ q, e = .compile q ∧ q.filterIds.toFinset = s ∧
          (t.compileLog q (t.after b events)).Fetched ∧
          (t.after b (events ++ [e])).now = time := by
  constructor
  · rintro ⟨earlier, q, later, heq, hset, hfetched, htime, hclear⟩
    rcases concat_eq_append_cons_iff.1 heq with ⟨-, rfl, rfl⟩ | ⟨rest, rfl, hevents⟩
    · exact .inr ⟨q, rfl, hset, hfetched, htime⟩
    · rw [List.mem_append, not_or, List.mem_singleton] at hclear
      exact .inl ⟨fun he => hclear.2 he.symm,
        earlier, q, rest, hevents, hset, hfetched, htime, hclear.1⟩
  · rintro (⟨he, earlier, q, later, rfl, hset, hfetched, htime, hclear⟩ |
      ⟨q, rfl, hset, hfetched, htime⟩)
    · refine ⟨earlier, q, later ++ [e], by simp, hset, hfetched, htime, ?_⟩
      rw [List.mem_append, not_or, List.mem_singleton]
      exact ⟨hclear, fun h => he h.symm⟩
    · exact ⟨events, q, [], rfl, hset, hfetched, htime, by simp⟩

/-- Compilations of other sets add no fetch of this one. -/
theorem fetchedAt_of_append {later : List CompilerEvent}
    (hlater : ∀ q, .compile q ∈ later → q.filterIds.toFinset ≠ s)
    (h : t.FetchedAt b (events ++ later) s time) : t.FetchedAt b events s time := by
  induction later using List.reverseRecOn with
  | nil => rwa [List.append_nil] at h
  | append_singleton later e ih =>
    rw [← List.append_assoc, fetchedAt_concat] at h
    rcases h with ⟨-, h⟩ | ⟨q, rfl, hset, -⟩
    · exact ih (fun q hq => hlater q (List.mem_append_left _ hq)) h
    · exact absurd hset (hlater q (by simp))

/-- The map has the last fetch of each set, and the cache stands for it. -/
structure Recalls (t : SlowStore σ) (b : Backend σ) (events : List CompilerEvent) (m : TimedMap) :
    Prop where
  now : m.now = (t.after b events).now
  shows : (t.after b events).cache.Shows m
  fetched : ∀ s e, m.held s = some e → t.FetchedAt b events s e.insertedAt
  last : ∀ s time, t.FetchedAt b events s time → ∃ e, m.held s = some e ∧ time ≤ e.insertedAt

namespace Recalls

/-- What drops no row and fetches none leaves the map as it is; time may pass. -/
theorem keep (h : t.Recalls b events m) {e : CompilerEvent} {ms : Nat}
    (hnow : (t.step (t.after b events) e).now = m.now + ms)
    (hshows : (t.step (t.after b events) e).cache.Shows (m.wait ms))
    (hfetched : ∀ s time, t.FetchedAt b (events ++ [e]) s time ↔ t.FetchedAt b events s time) :
    t.Recalls b (events ++ [e]) (m.wait ms) where
  now := by
    rw [after_concat, hnow]
    rfl
  shows := by rwa [after_concat]
  fetched s entry hheld := (hfetched s _).2 (h.fetched s entry hheld)
  last s time hat := h.last s time ((hfetched s time).1 hat)

theorem clear (h : t.Recalls b events m) : t.Recalls b (events ++ [.clear]) m.clear where
  now := by
    rw [after_concat]
    exact h.now
  shows := by
    rw [after_concat]
    exact .clear m
  fetched s e hheld := nomatch hheld
  last s time hat := by
    rcases fetchedAt_concat.1 hat with ⟨hne, -⟩ | ⟨q, hq, -⟩
    · exact absurd rfl hne
    · cases hq

/-- A fetch is the last one of its set; it is no older than those before it. -/
theorem add (h : t.Recalls b events m) {q : Query} (ms : Nat) (rows : List FilterRow)
    (hfetched : (t.compileLog q (t.after b events)).Fetched)
    (hnow : (t.after b (events ++ [.compile q])).now = m.now + ms)
    (hcache : (t.after b (events ++ [.compile q])).cache =
      (t.after b events).cache.set (m.now + ms) (sortedIds q.filterIds) rows) :
    t.Recalls b (events ++ [.compile q]) ((m.wait ms).set q.filterIds.toFinset rows) where
  now := hnow.symm
  shows := by
    rw [hcache, ← FilterCache.toFinset_sortedIds]
    exact (h.shows.wait ms).set _ rows
  fetched s e hheld := by
    by_cases hs : s = q.filterIds.toFinset
    · subst hs
      rw [TimedMap.held_set_self] at hheld
      cases hheld
      exact fetchedAt_concat.2 (.inr ⟨q, rfl, rfl, hfetched, hnow⟩)
    · rw [TimedMap.held_set_of_ne _ rows hs] at hheld
      exact fetchedAt_concat.2 (.inl ⟨nofun, h.fetched s e hheld⟩)
  last s time hat := by
    by_cases hs : s = q.filterIds.toFinset
    · subst hs
      refine ⟨_, TimedMap.held_set_self _ _ rows, ?_⟩
      show time ≤ m.now + ms
      rcases fetchedAt_concat.1 hat with ⟨-, hat⟩ | ⟨q', -, -, -, htime⟩
      · obtain ⟨e, hheld, hle⟩ := h.last _ time hat
        have := h.shows.past _ e hheld
        omega
      · omega
    · rw [TimedMap.held_set_of_ne _ rows hs]
      rcases fetchedAt_concat.1 hat with ⟨-, hat⟩ | ⟨q', hq, hset, -⟩
      · exact h.last s time hat
      · cases hq
        exact absurd hset.symm hs

theorem compile (h : t.Recalls b events m) (q : Query) :
    ∃ m', t.Recalls b (events ++ [.compile q]) m' := by
  obtain ⟨loaded, hloads, -⟩ := t.compile_loadsAt (t.after b events) q
  obtain ⟨ms, hnow, ⟨hnot, hcache⟩ | ⟨hfetched, rows, hcache⟩⟩ := hloads.effect
  · refine ⟨m.wait ms, h.keep (by rw [hnow, h.now]) ?_ fun s time => ?_⟩
    · rw [hcache]
      exact h.shows.wait ms
    · rw [fetchedAt_concat]
      constructor
      · rintro (⟨-, hat⟩ | ⟨q', hq, -, hfetched, -⟩)
        · exact hat
        · cases hq
          exact absurd hfetched hnot
      · intro hat
        exact .inl ⟨nofun, hat⟩
  · rw [hnow] at hcache
    refine ⟨_, h.add ms rows hfetched ?_ ?_⟩
    · rw [after_concat, hnow, h.now]
    · rw [after_concat, hcache, h.now]

theorem step (h : t.Recalls b events m) (e : CompilerEvent) :
    ∃ m', t.Recalls b (events ++ [e]) m' := by
  cases e with
  | compile q => exact h.compile q
  | clear => exact ⟨m.clear, h.clear⟩
  | sweep =>
    refine ⟨m.wait 0, h.keep (by simp [SlowStore.step, h.now]) ?_ ?_⟩
    · have hsweep := h.shows.sweep
      rw [h.now] at hsweep
      exact hsweep.wait 0
    · simp [fetchedAt_concat]
  | wait ms =>
    refine ⟨m.wait ms, h.keep (by simp [SlowStore.step, h.now]) (h.shows.wait ms) ?_⟩
    simp [fetchedAt_concat]

/-- The cache finds the rows of a set exactly if a young fetch of it is known. -/
theorem get?_eq_none_iff (h : t.Recalls b events m) (ids : List Int) :
    (t.after b events).cache.get? (t.after b events).now ids = none ↔
      ¬ ∃ time, t.FetchedAt b events ids.toFinset time ∧
        (t.after b events).now - time < b.cache.ttl := by
  rw [← h.now, h.shows.get?_eq, ttl_after, ← Option.not_isSome_iff_eq_none,
    TimedMap.isSome_get?_iff]
  refine not_congr ⟨?_, ?_⟩
  · rintro ⟨e, hheld, hyoung⟩
    exact ⟨_, h.fetched _ e hheld, hyoung⟩
  · rintro ⟨time, hat, hyoung⟩
    obtain ⟨e, hheld, hle⟩ := h.last _ time hat
    exact ⟨e, hheld, by omega⟩

end Recalls

/-- From an empty cache on, the cache knows the fetches of the run. -/
theorem recalls_after (s : σ) (ttl : Nat) (now : Int) (events : List CompilerEvent) :
    ∃ m, t.Recalls ⟨s, .empty ttl, now⟩ events m := by
  induction events using List.reverseRecOn with
  | nil =>
    refine ⟨.empty now, rfl, FilterCache.shows_empty ttl now, nofun, ?_⟩
    rintro s time ⟨earlier, q, later, heq, -⟩
    simp at heq
  | append_singleton events e ih =>
    obtain ⟨m, h⟩ := ih
    exact h.step e

/-! ### Compilations of a run -/

section

variable (t) (s : σ) (ttl : Nat) (now : Int) (events : List CompilerEvent) (q : Query)

/-- Whether the rows of the query were fetched less than their time ago, and are not dropped. -/
def FetchedLately : Prop :=
  ∃ time, t.FetchedAt ⟨s, .empty ttl, now⟩ events q.filterIds.toFinset time ∧
    (t.after ⟨s, .empty ttl, now⟩ events).now - time < ttl

variable {t s ttl now events q}

theorem fetches_of_stale (hids : q.filterIds ≠ []) (h : ¬ t.FetchedLately s ttl now events q) :
    (t.compileLog q (t.after ⟨s, .empty ttl, now⟩ events)).fetches = [sortedIds q.filterIds] := by
  obtain ⟨m, hm⟩ := t.recalls_after s ttl now events
  obtain ⟨loaded, hloads, -⟩ := t.compile_loadsAt (t.after ⟨s, .empty ttl, now⟩ events) q
  rw [hloads.fetches_eq, if_pos ⟨hids, (hm.get?_eq_none_iff _).2 h⟩]

theorem fetches_of_lately (h : t.FetchedLately s ttl now events q) :
    (t.compileLog q (t.after ⟨s, .empty ttl, now⟩ events)).fetches = [] := by
  obtain ⟨m, hm⟩ := t.recalls_after s ttl now events
  obtain ⟨loaded, hloads, -⟩ := t.compile_loadsAt (t.after ⟨s, .empty ttl, now⟩ events) q
  rw [hloads.fetches_eq, if_neg fun hmiss => (hm.get?_eq_none_iff _).1 hmiss.2 h]

/-- After a failure the rows are as stale as before, until their set is compiled again. -/
theorem stale_of_failed {later : List CompilerEvent} {p : Query}
    (hlater : ∀ q', .compile q' ∈ later → q'.filterIds.toFinset ≠ q.filterIds.toFinset)
    (hset : p.filterIds.toFinset = q.filterIds.toFinset)
    (hfailed : ¬ (t.compileLog q (t.after ⟨s, .empty ttl, now⟩ events)).Fetched)
    (h : ¬ t.FetchedLately s ttl now events q) :
    ¬ t.FetchedLately s ttl now (events ++ .compile q :: later) p := by
  rintro ⟨time, hat, hyoung⟩
  rw [hset, List.append_cons] at hat
  have hnow : (t.after ⟨s, .empty ttl, now⟩ events).now ≤
      (t.after ⟨s, .empty ttl, now⟩ (events ++ .compile q :: later)).now := by
    rw [after_append]
    exact t.now_le_after _
  rcases fetchedAt_concat.1 (fetchedAt_of_append hlater hat) with ⟨-, hat⟩ | hlast
  · exact h ⟨time, hat, by omega⟩
  · obtain ⟨q', hq, -, hfetched, -⟩ := hlast
    cases hq
    exact hfailed hfetched

end

/-- **When rows are fetched.**  In every run from an empty cache on, a compilation asks the store
once, for its set in ascending order, if the set is not empty and was not fetched since the cache
was last dropped and less than `ttl` ago; otherwise it does not ask.  If the store fails, so does
the compilation, the cache stays as it is, and the next compilation of the set asks again. -/
theorem fetch_discipline (t : SlowStore σ) (s : σ) (ttl : Nat) (start : Int)
    (events : List CompilerEvent) (q : Query) :
    let empty : Backend σ := ⟨s, .empty ttl, start⟩
    let b := t.after empty events
    let log := t.compileLog q b
    let lately := ∃ time, t.FetchedAt empty events q.filterIds.toFinset time ∧ b.now - time < ttl
    (q.filterIds ≠ [] → ¬ lately → log.fetches = [sortedIds q.filterIds]) ∧
    (q.filterIds ≠ [] → lately → log.fetches = []) ∧
    (q.filterIds = [] → log.fetches = []) ∧
    (∀ ids ∈ log.fetches, ids.Pairwise (· < ·) ∧ ids.toFinset = q.filterIds.toFinset) ∧
    ∀ ids e, .store (.fetchRows ids) (.error e) ∈ log →
      ((Service.compile q).run t.perform b).1 = .error e ∧
      (t.step b (.compile q)).cache = b.cache ∧
      ∀ later p, (∀ q', .compile q' ∈ later → q'.filterIds.toFinset ≠ q.filterIds.toFinset) →
        p.filterIds.toFinset = q.filterIds.toFinset →
        (t.compileLog p (t.after empty (events ++ .compile q :: later))).fetches =
          [sortedIds p.filterIds] := by
  intro empty b log lately
  obtain ⟨loaded, hloads, hresult⟩ := t.compile_loadsAt b q
  refine ⟨fetches_of_stale, fun _ => fetches_of_lately, fun hids => ?_, fun ids hids => ?_,
    fun ids e hmem => ?_⟩
  · exact hloads.fetches_eq.trans (if_neg fun h => h.1 hids)
  · rw [show log.fetches = _ from hloads.fetches_eq] at hids
    split at hids
    · rw [List.mem_singleton.1 hids]
      exact ⟨pairwise_sortedIds _, FilterCache.toFinset_sortedIds _⟩
    · cases hids
  · obtain ⟨hfailure, hcache, hnot⟩ := hloads.of_failed hmem
    obtain ⟨-, rfl, hne⟩ := hloads.loads.of_fetch_mem hmem
    refine ⟨by rw [hresult, hfailure]; rfl, hcache, fun later p hlater hset => ?_⟩
    have hstale : ¬ t.FetchedLately s ttl start events q := by
      intro hlately
      have hnone : log.fetches = [] := fetches_of_lately hlately
      have hmem' : sortedIds q.filterIds ∈ log.fetches := List.mem_filterMap.2 ⟨_, hmem, rfl⟩
      rw [hnone] at hmem'
      cases hmem'
    have hids : p.filterIds ≠ [] := by
      intro hnil
      rw [hnil, List.toFinset_nil, eq_comm, List.toFinset_eq_empty_iff] at hset
      exact hne hset
    exact fetches_of_stale hids (stale_of_failed hlater hset hnot hstale)

/-- A store that fails at first: the set is fetched again, kept for four milliseconds, and fetched
once it is five milliseconds old. -/
example :
    let t : SlowStore Bool :=
      ⟨fun c ready => match c with
        | .fetchRows _ => (if ready then .ok [] else .error (.database .poolClosed), true)
        | _ => (.error (.database .poolClosed), ready), fun _ _ => 0⟩
    let q (ids : List Int) : Query := ⟨ids, [], "u", .empty, 2⟩
    let fetches (events : List CompilerEvent) :=
      (t.compileLog (q [2, 1, 2]) (t.after ⟨false, .empty 5, 0⟩ events)).fetches
    fetches [.compile (q [1, 2])] = [[1, 2]] ∧
      fetches [.compile (q [1, 2]), .compile (q [2, 1]), .wait 4] = [] ∧
      fetches [.compile (q [1, 2]), .compile (q [2, 1]), .wait 5] = [[1, 2]] := by
  cbv

end SlowStore

end TaskBoard
