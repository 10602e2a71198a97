import TaskBoard.Proofs.Api.Freshness

/-!
# Requests that overlap

Requests take turns, one step at a time and in any order.  What they exchange with the store and
the cache is written down, with the request that did it.

A look-up that comes after a changed filter and the dropping of the cache may still find old rows:
another request can have fetched them before the change, and keep them only after the dropping.
There is no other way.

    every turn keeps requests, cache and history in step        (Overlap.Sound.turn)
    old rows that are found have overtaken the change           (Overlap.sees_changes_or_overtaken)
    they can be found                                           (Overlap.not_sees_changes)
-/

namespace TaskBoard

/-- The exchanges of all requests in the order in which they happened, each with the number of
its request. -/
abbrev History := List (Nat × Exchange ServiceStep.Reply)

/-- Writes down what a request exchanges next. -/
def History.add (h : History) (i : Nat) (x : Exchange ServiceStep.Reply) : History := h ++ [(i, x)]

/-- Requests that are being answered. -/
structure Overlap (σ α : Type) where
  backend : Backend σ
  /-- What is left of each request. -/
  running : List (Service α)
  history : History

/-- What can happen next. -/
inductive Turn
  /-- A request does its next step. -/
  | step (i : Nat)
  | sweep
  /-- The clock of the cache is set. -/
  | clock (now : Int)
  deriving Repr, DecidableEq

namespace Overlap

variable {σ α : Type}

/-- Requests of which nothing has been done. -/
def start (b : Backend σ) (requests : List (Service α)) : Overlap σ α := ⟨b, requests, []⟩

variable (call : (c : StoreCall) → σ → Except StorageError c.Reply × σ)

/-- What is there after one turn; a request that is done does nothing. -/
def turn (o : Overlap σ α) : Turn → Overlap σ α
  | .step i =>
    match o.running[i]? with
    | some (.step e next) =>
      { backend := (o.backend.perform call e).2
        running := o.running.set i (next (o.backend.perform call e).1)
        history := o.history.add i ⟨e, (o.backend.perform call e).1⟩ }
    | _ => o
  | .sweep => { o with backend := { o.backend with cache := o.backend.cache.sweep o.backend.now } }
  | .clock now => { o with backend := { o.backend with now := now } }

/-- What is there after all turns. -/
def run (o : Overlap σ α) (turns : List Turn) : Overlap σ α := turns.foldl (turn call) o

end Overlap

namespace History

/-- Rows of a set that a request fetched at the position `f` and kept at the position `p`, and that
have not been dropped from there up to the position `g`. -/
structure KeptUntil (h : History) (ids : List Int) (rows : List FilterRow) (i f p g : Nat) :
    Prop where
  fetched : h[f]? = some (i, .store (.fetchRows (sortedIds ids)) (.ok rows))
  kept : h[p]? = some (i, .cache (.set (sortedIds ids) rows) ())
  inOrder : f < p ∧ p < g
  notDropped : ∀ q j, p < q → q < g → h[q]? ≠ some (j, .cache .clear ())

/-- Right before a request asks the store for a set at the position `f`, the cache has found
nothing for it. -/
def FetchedAfterMiss (h : History) (j : Nat) (set : List Int) (f : Nat) : Prop :=
  ∃ (g : Nat) (ids : List Int), set = sortedIds ids ∧ g < f ∧
    h[g]? = some (j, .cache (.get ids) none) ∧ ∀ q x, g < q → q < f → h[q]? ≠ some (j, x)

/-- A request changed a filter at the position `w`, and dropped everything at the position `m`. -/
structure ChangedAt (h : History) (k w m : Nat) : Prop where
  changed : ∃ x, h[w]? = some (k, x) ∧ x.changed = true
  dropped : h[m]? = some (k, .cache .clear ())
  inOrder : w < m

/-- Rows that are found after a filter was changed and everything was dropped were fetched after
the change. -/
def SeesChanges (h : History) : Prop :=
  ∀ k w m, h.ChangedAt k w m → ∀ g j ids rows, m < g →
    h[g]? = some (j, .cache (.get ids) (some rows)) →
    ∃ i f, h[f]? = some (i, .store (.fetchRows (sortedIds ids)) (.ok rows)) ∧ w < f ∧ f < g

end History

/-- How far a request can be.  Unless it is ready for any orderly step, its next step is fixed by
what it has exchanged. -/
inductive Stage {α : Type} (h : History) (i : Nat) : Service α → Prop
  | ready {p : Service α} (hp : Service.Orderly p) : Stage h i p
  /-- The cache had nothing, and the request has done nothing since it asked. -/
  | fetching {ids : List Int} {next : Except StorageError (List FilterRow) → Service α} {g : Nat}
    (hg : h[g]? = some (i, .cache (.get ids) none)) (hquiet : ∀ q x, g < q → h[q]? ≠ some (i, x))
    (hnext : ∀ loaded, Service.Orderly (next loaded)) :
    Stage h i (.step (.store (.fetchRows (sortedIds ids)))
      fun reply => (Service.afterFetch ids reply).bind next)
  | keeping {ids : List Int} {rows : List FilterRow} {rest : Service α} {f : Nat}
    (hf : h[f]? = some (i, .store (.fetchRows (sortedIds ids)) (.ok rows)))
    (hrest : Service.Orderly rest) :
    Stage h i (.step (.cache (.set (sortedIds ids) rows)) fun _ => rest)
  | clearing {rest : Service α} (hrest : Service.Orderly rest) :
    Stage h i (.step (.cache .clear) fun _ => rest)

namespace Overlap

variable {σ α : Type}

/-- All that requests rely on while they overlap. -/
structure Sound (o : Overlap σ α) : Prop where
  stages : ∀ i p, o.running[i]? = some p → Stage o.history i p
  /-- What the cache holds was kept and not dropped since. -/
  held : ∀ ids rows, o.backend.cache.Holds ids rows →
    ∃ i f p, o.history.KeptUntil ids rows i f p o.history.length
  /-- What a look-up found had been kept and not dropped since. -/
  found : ∀ g j ids rows, o.history[g]? = some (j, .cache (.get ids) (some rows)) →
    ∃ i f p, o.history.KeptUntil ids rows i f p g
  /-- A fetch comes right after a look-up of the same request that found nothing. -/
  fetched : ∀ f j set reply, o.history[f]? = some (j, Exchange.store (.fetchRows set) reply) →
    o.history.FetchedAfterMiss j set f
  /-- A request that changed a filter has dropped everything, or does so next. -/
  settled : ∀ w k x, o.history[w]? = some (k, x) → x.changed = true →
    (∃ m, o.history.ChangedAt k w m) ∨
      ∃ rest : Service α, o.running[k]? = some (.step (.cache .clear) fun _ => rest)

end Overlap

/-! ## Histories that grow -/

namespace History

variable {h : History} {i : Nat} {x : Exchange ServiceStep.Reply}
  {y : Nat × Exchange ServiceStep.Reply} {q : Nat}

theorem length_add : (h.add i x).length = h.length + 1 := List.length_append

theorem getElem?_add :
    (h.add i x)[q]? = some y ↔ h[q]? = some y ∨ q = h.length ∧ y = (i, x) := by
  unfold add
  rcases Nat.lt_trichotomy q h.length with hq | rfl | hq
  · rw [List.getElem?_append_left hq]
    exact ⟨.inl, fun hy => hy.resolve_right fun hlast => absurd hlast.1 (by omega)⟩
  · rw [List.getElem?_concat_length, List.getElem?_eq_none (Nat.le_refl _), Option.some.injEq]
    exact ⟨fun hy => .inr ⟨rfl, hy.symm⟩, fun hy => hy.elim nofun fun hlast => hlast.2.symm⟩
  · rw [List.getElem?_eq_none (by simp; omega), List.getElem?_eq_none (by omega)]
    exact ⟨nofun, fun hy => hy.elim nofun fun hlast => absurd hlast.1 (by omega)⟩

theorem getElem?_length_add : (h.add i x)[h.length]? = some (i, x) :=
  getElem?_add.2 (.inr ⟨rfl, rfl⟩)

theorem lt_length (hq : h[q]? = some y) : q < h.length := by
  by_contra hn
  rw [List.getElem?_eq_none (by omega)] at hq
  cases hq

/-- What has been written down stays. -/
theorem keep (hq : h[q]? = some y) : (h.add i x)[q]? = some y := getElem?_add.2 (.inl hq)

theorem KeptUntil.keep {ids : List Int} {rows : List FilterRow} {j f p g : Nat}
    (hk : h.KeptUntil ids rows j f p g) (hg : g ≤ h.length) :
    (h.add i x).KeptUntil ids rows j f p g where
  fetched := History.keep hk.fetched
  kept := History.keep hk.kept
  inOrder := hk.inOrder
  notDropped q j hp hq hy := by
    rcases getElem?_add.1 hy with hy | ⟨hlast, -⟩
    · exact hk.notDropped q j hp hq hy
    · omega

/-- Rows stay kept if the cache is not dropped. -/
theorem KeptUntil.extend {ids : List Int} {rows : List FilterRow} {j f p : Nat}
    (hk : h.KeptUntil ids rows j f p h.length) (hx : x.step ≠ .cache .clear) :
    (h.add i x).KeptUntil ids rows j f p (h.add i x).length where
  fetched := History.keep hk.fetched
  kept := History.keep hk.kept
  inOrder := by
    have := hk.inOrder
    rw [length_add]
    omega
  notDropped q j hp hq hy := by
    rcases getElem?_add.1 hy with hy | ⟨-, heq⟩
    · exact hk.notDropped q j hp (lt_length hy) hy
    · cases heq
      exact hx rfl

theorem FetchedAfterMiss.keep {j f : Nat} {set : List Int} (hm : h.FetchedAfterMiss j set f)
    (hf : f ≤ h.length) : (h.add i x).FetchedAfterMiss j set f := by
  obtain ⟨g, ids, hset, hgf, hg, hquiet⟩ := hm
  refine ⟨g, ids, hset, hgf, History.keep hg, fun q y hgq hqf hy => ?_⟩
  rcases getElem?_add.1 hy with hy | ⟨hlast, -⟩
  · exact hquiet q y hgq hqf hy
  · omega

theorem ChangedAt.keep {k w m : Nat} (hc : h.ChangedAt k w m) : (h.add i x).ChangedAt k w m where
  changed := hc.changed.imp fun _ hx => hx.imp_left History.keep
  dropped := History.keep hc.dropped
  inOrder := hc.inOrder

end History

/-! ## Stages -/

namespace Service

variable {α : Type}

/-- The first step of an orderly request. -/
inductive Front : Service α → Prop
  | done (a : α) : Front (.done a)
  | look {ids : List Int} {next : Except StorageError (List FilterRow) → Service α}
    (hnext : ∀ loaded, Orderly (next loaded)) :
    Front (.step (.cache (.get ids)) fun
      | some rows => next (.ok rows)
      | none => (fetchRows ids).bind next)
  | call {c : StoreCall} {next rest : Except StorageError c.Reply → Service α}
    (hc : ∀ ids, c ≠ .fetchRows ids) (hnext : ∀ reply, next reply = settle c reply (rest reply))
    (h : ∀ reply, Orderly (rest reply)) : Front (.step (.store c) next)

theorem loadRows_bind {ids : List Int} (h : ids ≠ [])
    (next : Except StorageError (List FilterRow) → Service α) :
    (loadRows ids).bind next = .step (.cache (.get ids)) fun
      | some rows => next (.ok rows)
      | none => (fetchRows ids).bind next := by
  rw [loadRows_of_ne_nil h]
  show Program.step _ _ = Program.step _ _
  congr 1
  funext reply
  cases reply <;> rfl

theorem Orderly.front {p : Service α} (hp : Orderly p) : Front p := by
  induction hp with
  | done a => exact .done a
  | @load ids next h ih =>
    by_cases hids : ids = []
    · subst hids
      exact ih (.ok [])
    · rw [loadRows_bind hids]
      exact .look h
  | call hc hnext h ih => exact .call hc hnext h

end Service

namespace Stage

variable {α : Type} {h : History} {i j : Nat} {e : ServiceStep} {next : e.Reply → Service α}

/-- The steps of other requests leave a request where it is. -/
theorem keep {p : Service α} (hs : Stage h i p) {x : Exchange ServiceStep.Reply} (hj : j ≠ i) :
    Stage (h.add j x) i p := by
  cases hs with
  | ready hp => exact .ready hp
  | fetching hg hquiet hnext =>
    refine .fetching (History.keep hg) (fun q y hq hy => ?_) hnext
    rcases History.getElem?_add.1 hy with hy | ⟨-, heq⟩
    · exact hquiet q y hq hy
    · exact hj (congrArg Prod.fst heq).symm
  | keeping hf hrest => exact .keeping (History.keep hf) hrest
  | clearing hrest => exact .clearing hrest

/-- A step leads to the next stage. -/
theorem advance (hs : Stage h i (.step e next)) (reply : e.Reply) :
    Stage (h.add i ⟨e, reply⟩) i (next reply) := by
  cases hs with
  | ready hp =>
    cases hp.front with
    | look hnext =>
      cases reply with
      | some rows => exact .ready (hnext _)
      | none =>
        refine .fetching History.getElem?_length_add (fun q x hq hx => ?_) hnext
        have := History.lt_length hx
        rw [History.length_add] at this
        omega
    | call hc hnext hrest =>
      refine Eq.mpr (congrArg (Stage _ i) (hnext reply)) ?_
      unfold Service.settle
      split
      · exact .clearing (hrest _)
      · exact .ready (hrest _)
  | @fetching ids next g hg hquiet hnext =>
    cases reply with
    | error e => exact .ready (hnext (.error e))
    | ok rows => exact .keeping History.getElem?_length_add (hnext (.ok rows))
  | keeping hf hrest => exact .ready hrest
  | clearing hrest => exact .ready hrest

/-- Only what was fetched is kept. -/
theorem fetched_of_set {set : List Int} {rows : List FilterRow} {next : Unit → Service α}
    (hs : Stage h i (.step (.cache (.set set rows)) next)) :
    ∃ (ids : List Int) (f : Nat), set = sortedIds ids ∧
      h[f]? = some (i, Exchange.store (.fetchRows (sortedIds ids)) (.ok rows)) := by
  cases hs with
  | ready hp => cases hp.front
  | keeping hf hrest => exact ⟨_, _, rfl, hf⟩

/-- Only what was looked up in vain is fetched. -/
theorem missed_of_fetch {set : List Int} {next : Except StorageError (List FilterRow) → Service α}
    (hs : Stage h i (.step (.store (.fetchRows set)) next)) :
    ∃ (ids : List Int) (g : Nat), set = sortedIds ids ∧
      h[g]? = some (i, Exchange.cache (.get ids) none) ∧
      ∀ q x, g < q → h[q]? ≠ some (i, x) := by
  cases hs with
  | ready hp =>
    cases hp.front with
    | call hc => exact absurd rfl (hc set)
  | fetching hg hquiet hnext => exact ⟨_, _, rfl, hg, hquiet⟩

/-- After a change, everything is dropped next. -/
theorem clears_of_changed (hs : Stage h i (.step e next)) {reply : e.Reply}
    (hc : Exchange.changed ⟨e, reply⟩ = true) :
    ∃ rest : Service α, next reply = .step (.cache .clear) fun _ => rest := by
  cases hs with
  | ready hp =>
    cases hp.front with
    | look => cases hc
    | @call c next rest _ hnext =>
      have hsettle : Service.settle c reply (rest reply) =
          .step (.cache .clear) fun _ => rest reply := if_pos hc
      exact ⟨rest reply, (hnext reply).trans hsettle⟩
  | fetching => cases hc
  | keeping => cases hc
  | clearing => cases hc

end Stage

/-! ## Turns -/

namespace Overlap

variable {σ α : Type} {call : (c : StoreCall) → σ → Except StorageError c.Reply × σ}
  {o : Overlap σ α}

theorem run_append (o : Overlap σ α) (turns later : List Turn) :
    o.run call (turns ++ later) = (o.run call turns).run call later := List.foldl_append

theorem sound_start (b : Backend σ) (hb : ∀ ids rows, ¬ b.cache.Holds ids rows)
    {requests : List (Service α)} (hr : ∀ p ∈ requests, Service.Orderly p) :
    Sound (start b requests) where
  stages _ p hp := .ready (hr p (List.mem_of_getElem? hp))
  held ids rows h := absurd h (hb ids rows)
  found g j ids rows hg := by cases hg
  fetched f j set reply hf := by cases hf
  settled w k x hw := by cases hw

namespace Sound

variable {i : Nat} {e : ServiceStep} {next : e.Reply → Service α}

/-- A step keeps what was fetched, or drops everything, or leaves the cache. -/
theorem held_step (hs : Sound o) (hi : o.running[i]? = some (.step e next)) {ids : List Int}
    {rows : List FilterRow} (hheld : (o.backend.perform call e).2.cache.Holds ids rows) :
    ∃ j f p, (o.history.add i ⟨e, (o.backend.perform call e).1⟩).KeptUntil ids rows j f p
      (o.history.length + 1) := by
  have old : o.backend.cache.Holds ids rows → e ≠ .cache .clear →
      ∃ j f p, (o.history.add i ⟨e, (o.backend.perform call e).1⟩).KeptUntil ids rows j f p
        (o.history.length + 1) := by
    intro h hne
    obtain ⟨j, f, p, hk⟩ := hs.held ids rows h
    exact ⟨j, f, p, History.length_add ▸ hk.extend hne⟩
  cases e with
  | store c => exact old hheld nofun
  | cache c =>
    cases c with
    | get other => exact old hheld nofun
    | clear => exact absurd hheld FilterCache.not_holds_clear
    | set set rows' =>
      rcases FilterCache.Holds.of_set hheld with ⟨hsame, rfl⟩ | hheld
      · obtain ⟨ids', f, rfl, hf⟩ := (hs.stages i _ hi).fetched_of_set
        rw [sortedIds_sortedIds] at hsame
        have := History.lt_length hf
        refine ⟨i, f, o.history.length, ?_, ?_, by omega, fun q j hp hq => by omega⟩
        · rw [hsame]
          exact History.keep hf
        · rw [hsame]
          exact History.getElem?_length_add
      · exact old hheld nofun

theorem stages_step (hs : Sound o) (hi : o.running[i]? = some (.step e next)) (reply : e.Reply)
    {j : Nat} {p : Service α} (hp : (o.running.set i (next reply))[j]? = some p) :
    Stage (o.history.add i ⟨e, reply⟩) j p := by
  rw [List.getElem?_set] at hp
  split at hp
  · next hij =>
    subst hij
    split at hp
    · cases hp
      exact (hs.stages i _ hi).advance reply
    · cases hp
  · next hij => exact (hs.stages j p hp).keep hij

/-- A look-up finds what the cache holds. -/
theorem found_step (hs : Sound o) {g j : Nat} {ids : List Int} {rows : List FilterRow}
    (hg : (o.history.add i ⟨e, (o.backend.perform call e).1⟩)[g]? =
      some (j, .cache (.get ids) (some rows))) :
    ∃ i' f p, (o.history.add i ⟨e, (o.backend.perform call e).1⟩).KeptUntil ids rows i' f p g := by
  rcases History.getElem?_add.1 hg with hg | ⟨rfl, heq⟩
  · obtain ⟨i', f, p, hk⟩ := hs.found g j ids rows hg
    exact ⟨i', f, p, hk.keep (Nat.le_of_lt (History.lt_length hg))⟩
  · obtain ⟨rfl, hx⟩ := Prod.mk.inj heq
    cases congrArg Exchange.step hx
    have hget : some rows = o.backend.cache.get? o.backend.now ids := Exchange.cache_inj.1 hx
    obtain ⟨i', f, p, hk⟩ := hs.held ids rows (FilterCache.holds_of_get? hget.symm)
    exact ⟨i', f, p, hk.keep (Nat.le_refl _)⟩

theorem fetched_step (hs : Sound o) (hi : o.running[i]? = some (.step e next)) (reply : e.Reply)
    {f j : Nat} {set : List Int} {found : Except StorageError (List FilterRow)}
    (hf : (o.history.add i ⟨e, reply⟩)[f]? = some (j, Exchange.store (.fetchRows set) found)) :
    (o.history.add i ⟨e, reply⟩).FetchedAfterMiss j set f := by
  rcases History.getElem?_add.1 hf with hf | ⟨rfl, heq⟩
  · exact (hs.fetched f j set found hf).keep (Nat.le_of_lt (History.lt_length hf))
  · obtain ⟨rfl, hx⟩ := Prod.mk.inj heq
    cases congrArg Exchange.step hx
    obtain ⟨ids, g, hset, hg, hquiet⟩ := (hs.stages j _ hi).missed_of_fetch
    have hmiss : o.history.FetchedAfterMiss j set o.history.length :=
      ⟨g, ids, hset, History.lt_length hg, hg, fun q x hgq _ => hquiet q x hgq⟩
    exact hmiss.keep (Nat.le_refl _)

theorem settled_step (hs : Sound o) (hi : o.running[i]? = some (.step e next)) (reply : e.Reply)
    {w k : Nat} {x : Exchange ServiceStep.Reply}
    (hadd : (o.history.add i ⟨e, reply⟩)[w]? = some (k, x)) (hc : x.changed = true) :
    (∃ m, (o.history.add i ⟨e, reply⟩).ChangedAt k w m) ∨
      ∃ rest : Service α,
        (o.running.set i (next reply))[k]? = some (.step (.cache .clear) fun _ => rest) := by
  rw [List.getElem?_set]
  rcases History.getElem?_add.1 hadd with hw | ⟨rfl, heq⟩
  · rcases hs.settled w k x hw hc with ⟨m, hm⟩ | ⟨rest, hk⟩
    · exact .inl ⟨m, hm.keep⟩
    · split
      · next hik =>
        -- the request's own step is the one that drops everything
        subst hik
        cases hi.symm.trans hk
        exact .inl ⟨_, ⟨x, History.keep hw, hc⟩, History.getElem?_length_add,
          History.lt_length hw⟩
      · exact .inr ⟨rest, hk⟩
  · obtain ⟨rfl, rfl⟩ := Prod.mk.inj heq
    obtain ⟨rest, hrest⟩ := (hs.stages k _ hi).clears_of_changed hc
    have hlt : k < o.running.length := (List.getElem?_eq_some_iff.1 hi).1
    exact .inr ⟨rest, by rw [if_pos rfl, if_pos hlt, hrest]⟩

/-- Every turn keeps it sound. -/
theorem turn (hs : Sound o) (t : Turn) : Sound (o.turn call t) := by
  cases t with
  | sweep => exact { hs with held := fun ids rows h => hs.held ids rows h.of_sweep }
  | clock now => exact { hs with }
  | step i =>
    unfold Overlap.turn
    dsimp only
    split
    · next e next hi =>
      constructor
      · exact fun j p => hs.stages_step hi _
      · intro ids rows hheld
        show ∃ j f p, History.KeptUntil _ ids rows j f p (History.add _ _ _).length
        rw [History.length_add]
        exact hs.held_step hi hheld
      · exact fun g j ids rows => hs.found_step
      · exact fun f j set reply => hs.fetched_step hi _
      · exact fun w k x => hs.settled_step hi _
    · exact hs

/-- All turns keep it sound. -/
theorem run (hs : Sound o) (turns : List Turn) : Sound (o.run call turns) := by
  induction turns generalizing o with
  | nil => exact hs
  | cons t turns ih => exact ih (hs.turn t)

/-- What is found after a change was fetched after it, or has overtaken it. -/
theorem overtaken_of_found (hs : Sound o) {k w m g j : Nat} {ids : List Int}
    {rows : List FilterRow} (hc : o.history.ChangedAt k w m) (hmg : m < g)
    (hg : o.history[g]? = some (j, .cache (.get ids) (some rows))) :
    ∃ i f p, o.history.KeptUntil ids rows i f p g ∧ (w < f ∨ f < w ∧ m < p) := by
  obtain ⟨i, f, p, hk⟩ := hs.found g j ids rows hg
  refine ⟨i, f, p, hk, ?_⟩
  have hmp : m ≤ p := by
    by_contra hpm
    exact hk.notDropped m k (by omega) hmg hc.dropped
  have hne : m ≠ p := by
    rintro rfl
    cases congrArg Exchange.step (Prod.mk.inj (Option.some.inj (hc.dropped.symm.trans hk.kept))).2
  have hfw : f ≠ w := by
    rintro rfl
    obtain ⟨x, hx, hchanged⟩ := hc.changed
    obtain ⟨-, rfl⟩ := Prod.mk.inj (Option.some.inj (hx.symm.trans hk.fetched))
    cases hchanged
  omega

end Sound

/-- The requests of a site that are answered at these times, before any step was done. -/
def ofRequests (site : Site) (b : Backend σ) (requests : List (Int × Http.Request)) :
    Overlap σ Http.Response :=
  start b (requests.map fun r => site.answer r.1 r.2)

/-- **Old rows can only overtake a change.**  Requests of a site overlap in any way, on any store
and with an empty cache to begin with.  A request that changed a filter and is answered has
dropped all rows after the change.  Rows that are found after that were fetched after the change,
or a request fetched them before it and kept them after the dropping.  And a request only fetches
rows right after a look-up of its own that found nothing. -/
theorem sees_changes_or_overtaken (site : Site)
    (call : (c : StoreCall) → σ → Except StorageError c.Reply × σ) (s : σ) (ttl : Nat) (now : Int)
    (requests : List (Int × Http.Request)) (turns : List Turn) :
    let o := (ofRequests site ⟨s, .empty ttl, now⟩ requests).run call turns
    (∀ w k x response, o.history[w]? = some (k, x) → x.changed = true →
      o.running[k]? = some (.done response) → ∃ m, o.history.ChangedAt k w m) ∧
    (∀ k w m, o.history.ChangedAt k w m → ∀ g j ids rows, m < g →
      o.history[g]? = some (j, .cache (.get ids) (some rows)) →
      ∃ i f p, o.history.KeptUntil ids rows i f p g ∧ (w < f ∨ f < w ∧ m < p)) ∧
    ∀ f j set reply, o.history[f]? = some (j, Exchange.store (.fetchRows set) reply) →
      o.history.FetchedAfterMiss j set f := by
  intro o
  have hs : Sound o := by
    refine (sound_start _ (fun _ _ => FilterCache.not_holds_empty ttl) fun p hp => ?_).run turns
    obtain ⟨r, -, rfl⟩ := List.mem_map.1 hp
    exact site.orderly_answer r.1 r.2
  refine ⟨fun w k x response hw hc hdone => ?_, fun k w m hc g j ids rows hmg hg => ?_, hs.fetched⟩
  · rcases hs.settled w k x hw hc with hm | ⟨rest, hk⟩
    · exact hm
    · cases hdone.symm.trans hk
  · exact hs.overtaken_of_found hc hmg hg

end Overlap

/-! ## A change that is overtaken -/

namespace Sample

open Overlap

variable (f : Except Problem (List Task × Nat) → Service Http.Response)
  (g : Http.Response → Service Http.Response) (p q : Service Http.Response)

/-- What happens up to the fetch of the first listing. -/
def fetchedFirst : History :=
  [(0, .store (.isMember "w" Gate.localUser) (.ok true)),
    (0, .store (.ownedIds "w" Gate.localUser [7]) (.ok [7])),
    (0, .cache (.get [7]) none), (0, .store (.fetchRows (sortedIds [7])) (.ok oldRows))]

/-- What happens in the update. -/
def updatedNext : History :=
  [(1, .store (.isMember "w" Gate.localUser) (.ok true)),
    (1, .store (.updateFilter "w" Gate.localUser 7 input) (.ok (some updated))),
    (1, .cache .clear ())]

/-- What happens from the end of the first loading up to the look-up of the second listing. -/
def keptAfterwards : History :=
  [(0, .cache (.set (sortedIds [7]) oldRows) ()),
    (2, .store (.isMember "w" Gate.localUser) (.ok true)),
    (2, .store (.ownedIds "w" Gate.localUser [7]) (.ok [7])),
    (2, .cache (.get [7]) (some oldRows))]

theorem run_fetchedFirst :
    ∃ rest, (start ⟨board, .empty 300000, 0⟩ [listing.serve.run.bind f, p, q]).run
      Board.steadyStore.call [.step 0, .step 0, .step 0, .step 0] =
        ⟨⟨board, .empty 300000, 0⟩,
          [.step (.cache (.set (sortedIds [7]) oldRows)) fun _ => rest, p, q], fetchedFirst⟩ :=
  ⟨_, rfl⟩

theorem run_updatedNext :
    ∃ rest, (Overlap.mk ⟨board, .empty 300000, 0⟩
        [p, (Handler.updateFilter "w" Gate.localUser 7 update).answer.bind g, q] fetchedFirst).run
      Board.steadyStore.call [.step 1, .step 1, .step 1] =
        ⟨⟨newBoard, .empty 300000, 0⟩, [p, rest, q], fetchedFirst ++ updatedNext⟩ :=
  ⟨_, rfl⟩

theorem history_keptAfterwards :
    ((Overlap.mk ⟨newBoard, .empty 300000, 0⟩
        [.step (.cache (.set (sortedIds [7]) oldRows)) fun _ => p, q, listing.serve.run.bind f]
        (fetchedFirst ++ updatedNext)).run
      Board.steadyStore.call [.step 0, .step 2, .step 2, .step 2]).history =
        fetchedFirst ++ updatedNext ++ keptAfterwards := by
  have hget : ((FilterCache.empty 300000).set 0 (sortedIds [7]) oldRows).get? 0 [7] =
      some oldRows := by
    rw [← FilterCache.get?_sortedIds]
    exact FilterCache.get?_set_self _ _ _ _ (by decide)
  unfold keptAfterwards
  rw [← hget]
  rfl

/-- The second listing comes after the update, which comes between the fetch of the first listing
and its end. -/
def turns : List Turn :=
  [.step 0, .step 0, .step 0, .step 0] ++
    ([.step 1, .step 1, .step 1] ++ [.step 0, .step 2, .step 2, .step 2])

theorem history_turns :
    ((ofRequests site ⟨board, .empty 300000, 0⟩
        [(0, listRequest), (0, updateRequest), (0, listRequest)]).run
      Board.steadyStore.call turns).history = fetchedFirst ++ updatedNext ++ keptAfterwards := by
  obtain ⟨f, hlist⟩ := answer_listRequest
  obtain ⟨g, hupdate⟩ := answer_updateRequest
  unfold ofRequests turns
  rw [List.map_cons, List.map_cons, List.map_cons, List.map_nil, hlist, hupdate, run_append,
    run_append]
  obtain ⟨rest, hfirst⟩ := run_fetchedFirst _ _ _
  rw [hfirst]
  obtain ⟨rest', hnext⟩ := run_updatedNext _ _ _
  rw [hnext, history_keptAfterwards]

end Sample

namespace Overlap

/-- **Old rows can overtake a change**: not in every history, what is found after a change was
fetched after it. -/
theorem not_sees_changes :
    ¬ ∀ (site : Site) (b : Board) (ttl : Nat) (now : Int) (requests : List (Int × Http.Request))
        (turns : List Turn),
      ((ofRequests site ⟨b, .empty ttl, now⟩ requests).run Board.steadyStore.call
        turns).history.SeesChanges := by
  intro h
  have hsees := h Sample.site Sample.board 300000 0
    [(0, Sample.listRequest), (0, Sample.updateRequest), (0, Sample.listRequest)] Sample.turns
  rw [Sample.history_turns] at hsees
  obtain ⟨i, f, hf, hwf, hfg⟩ := hsees 1 5 6 ⟨⟨_, rfl, rfl⟩, rfl, by decide⟩ 10 2 [7]
    Sample.oldRows (by decide) rfl
  -- from the change up to the look-up, nothing was fetched
  obtain rfl | rfl | rfl | rfl : f = 6 ∨ f = 7 ∨ f = 8 ∨ f = 9 := by omega
  all_goals cases congrArg Exchange.step (Prod.mk.inj (Option.some.inj hf)).2

end Overlap

end TaskBoard
