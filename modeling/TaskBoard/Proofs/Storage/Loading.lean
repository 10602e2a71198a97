import TaskBoard.Proofs.Program
import TaskBoard.Storage.Call

/-!
# How rows are loaded

Loading asks the cache first.  If the cache has nothing, the store is asked for the same set, and
what it finds goes into the cache.  A failure of the store leaves the cache alone.  So the log of
a loading shows whether it succeeded and with which rows.

    every run of loadRows is one of these ways                  (loadRows_loads)
    the rows in the log are the rows that were loaded           (hasRows_iff)
-/

namespace TaskBoard

/-- What a request and its store and cache have told each other. -/
abbrev ServiceLog := List (Exchange ServiceStep.Reply)

namespace Exchange

/-- A call of the store and the reply. -/
def store (c : StoreCall) (reply : Except StorageError c.Reply) : Exchange ServiceStep.Reply :=
  ⟨.store c, reply⟩

/-- A call of the cache and the reply. -/
def cache (c : CacheCall) (reply : c.Reply) : Exchange ServiceStep.Reply := ⟨.cache c, reply⟩

end Exchange

/-- The ways in which the rows of a set are loaded, or are not. -/
inductive Loads (ids : List Int) : ServiceLog → Except StorageError (List FilterRow) → Prop
  /-- No filters have no rows. -/
  | nothing (h : ids = []) : Loads ids [] (.ok [])
  | kept (h : ids ≠ []) (rows : List FilterRow) :
    Loads ids [.cache (.get ids) (some rows)] (.ok rows)
  | fetched (h : ids ≠ []) (rows : List FilterRow) :
    Loads ids [.cache (.get ids) none, .store (.fetchRows (sortedIds ids)) (.ok rows),
      .cache (.set (sortedIds ids) rows) ()] (.ok rows)
  | failed (h : ids ≠ []) (e : StorageError) :
    Loads ids [.cache (.get ids) none, .store (.fetchRows (sortedIds ids)) (.error e)] (.error e)

/-- The log shows the rows of a set, from the cache or else from the store. -/
def ServiceLog.HasRows (log : ServiceLog) (ids : List Int) (rows : List FilterRow) : Prop :=
  ids = [] ∧ rows = [] ∨ .cache (.get ids) (some rows) ∈ log ∨
    .store (.fetchRows (sortedIds ids)) (.ok rows) ∈ log

namespace Service

/-- Keeps the rows that were fetched for a set. -/
def keepRows (ids : List Int) (rows : List FilterRow) :
    Service (Except StorageError (List FilterRow)) :=
  .step (.cache (.set (sortedIds ids) rows)) fun _ => .done (.ok rows)

/-- What is done with what was fetched for a set. -/
def afterFetch (ids : List Int) :
    Except StorageError (List FilterRow) → Service (Except StorageError (List FilterRow))
  | .error e => .done (.error e)
  | .ok rows => keepRows ids rows

/-- Loads the rows of a set past the cache. -/
def fetchRows (ids : List Int) : Service (Except StorageError (List FilterRow)) :=
  .step (.store (.fetchRows (sortedIds ids))) (afterFetch ids)

end Service

/-! ## Lemmas -/

namespace Exchange

theorem store_inj {c : StoreCall} {a b : Except StorageError c.Reply} :
    Exchange.store c a = .store c b ↔ a = b := by
  constructor
  · intro h
    exact eq_of_heq (Exchange.mk.inj h).2
  · rintro rfl
    rfl

theorem cache_inj {c : CacheCall} {a b : c.Reply} : Exchange.cache c a = .cache c b ↔ a = b := by
  constructor
  · intro h
    exact eq_of_heq (Exchange.mk.inj h).2
  · rintro rfl
    rfl

end Exchange

namespace Loads

variable {ids : List Int} {log : ServiceLog} {loaded : Except StorageError (List FilterRow)}

theorem of_get_mem (h : Loads ids log loaded) {rows : List FilterRow}
    (hx : Exchange.cache (.get ids) (some rows) ∈ log) : loaded = .ok rows := by
  cases h with
  | nothing => cases hx
  | kept =>
    cases Exchange.cache_inj.1 (List.mem_singleton.1 hx)
    rfl
  | fetched =>
    rcases List.mem_cons.1 hx with hx | hx
    · cases Exchange.cache_inj.1 hx
    · rcases List.mem_cons.1 hx with hx | hx
      · cases congrArg Exchange.step hx
      · cases congrArg Exchange.step (List.mem_singleton.1 hx)
  | failed =>
    rcases List.mem_cons.1 hx with hx | hx
    · cases Exchange.cache_inj.1 hx
    · cases congrArg Exchange.step (List.mem_singleton.1 hx)

/-- Only the rows of the wanted filters are fetched, and then they are what is loaded. -/
theorem of_fetch_mem (h : Loads ids log loaded) {set : List Int}
    {reply : Except StorageError (List FilterRow)}
    (hx : Exchange.store (.fetchRows set) reply ∈ log) :
    loaded = reply ∧ set = sortedIds ids ∧ ids ≠ [] := by
  have call : ∀ {other : List Int} {a : Except StorageError (List FilterRow)},
      Exchange.store (.fetchRows set) reply = .store (.fetchRows other) a →
        a = reply ∧ set = other := by
    intro other a heq
    cases congrArg Exchange.step heq
    exact ⟨(Exchange.store_inj.1 heq).symm, rfl⟩
  cases h with
  | nothing => cases hx
  | kept => cases congrArg Exchange.step (List.mem_singleton.1 hx)
  | fetched hne =>
    rcases List.mem_cons.1 hx with hx | hx
    · cases congrArg Exchange.step hx
    · rcases List.mem_cons.1 hx with hx | hx
      · obtain ⟨rfl, hset⟩ := call hx
        exact ⟨rfl, hset, hne⟩
      · cases congrArg Exchange.step (List.mem_singleton.1 hx)
  | failed hne =>
    rcases List.mem_cons.1 hx with hx | hx
    · cases congrArg Exchange.step hx
    · obtain ⟨rfl, hset⟩ := call (List.mem_singleton.1 hx)
      exact ⟨rfl, hset, hne⟩

/-- The rows that a log of loading shows are the rows that were loaded. -/
theorem hasRows_iff (h : Loads ids log loaded) {rows : List FilterRow} :
    log.HasRows ids rows ↔ loaded = .ok rows := by
  unfold ServiceLog.HasRows
  constructor
  · rintro (⟨hnil, rfl⟩ | hx | hx)
    · cases h with
      | nothing => rfl
      | _ => contradiction
    · exact h.of_get_mem hx
    · exact (h.of_fetch_mem hx).1
  · rintro rfl
    cases h with
    | nothing h => exact .inl ⟨h, rfl⟩
    | kept => exact .inr (.inl (List.mem_singleton_self _))
    | fetched => exact .inr (.inr (List.mem_cons_of_mem _ List.mem_cons_self))

end Loads

namespace Service

theorem loadRows_of_ne_nil {ids : List Int} (h : ids ≠ []) :
    loadRows ids = .step (.cache (.get ids)) fun
      | some rows => .done (.ok rows)
      | none => fetchRows ids := by
  unfold loadRows
  rw [if_neg (by simpa using h)]
  show Program.step _ _ = Program.step _ _
  congr 1
  funext reply
  cases reply with
  | some rows => rfl
  | none =>
    show Program.step _ _ = Program.step _ _
    congr 1
    funext reply
    cases reply <;> rfl

variable {σ : Type} (perform : (e : ServiceStep) → σ → e.Reply × σ)

theorem loadRows_loads (ids : List Int) (s : σ) :
    Loads ids ((loadRows ids).log perform s) ((loadRows ids).run perform s).1 := by
  by_cases h : ids = []
  · subst h
    exact .nothing rfl
  rw [loadRows_of_ne_nil h, Program.log, Program.run]
  generalize (perform (.cache (.get ids)) s).2 = s'
  cases (perform (.cache (.get ids)) s).1 with
  | some rows => exact .kept h rows
  | none =>
    show Loads ids (_ :: _ :: (afterFetch ids _).log perform _) ((afterFetch ids _).run perform _).1
    cases (perform (.store (.fetchRows (sortedIds ids))) s').1 with
    | error e => exact .failed h e
    | ok rows => exact .fetched h rows

end Service

end TaskBoard
