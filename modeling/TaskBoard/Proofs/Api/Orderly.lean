import TaskBoard.Api.Route
import TaskBoard.Proofs.Storage.Loading

/-!
# Orderly requests

Requests share the cache, and rely on each other to keep it right.  A request is orderly if it
fetches rows only where it loads them, and if it drops all cached rows as its next step whenever
the store replies that it changed a filter.

    every request is orderly                                    (Site.orderly_answer)
-/

namespace TaskBoard

/-- Whether the store replies that it changed a filter. -/
def StoreCall.changed (c : StoreCall) (reply : Except StorageError c.Reply) : Bool :=
  match c, reply with
  | .createFilter _ _ _, .ok _ => true
  | .updateFilter _ _ _ _, .ok (some _) => true
  | .deleteFilter _ _ _, .ok true => true
  | _, _ => false

theorem StoreCall.changed_error (c : StoreCall) (e : StorageError) :
    c.changed (.error e) = false := by
  cases c <;> rfl

/-- A store with its cache, and the time of the cache's clock. -/
structure Backend (σ : Type) where
  store : σ
  cache : FilterCache
  now : Int

/-- What a step of a request does to them, when the calls of the store are done by `call`. -/
def Backend.perform {σ : Type} (call : (c : StoreCall) → σ → Except StorageError c.Reply × σ)
    (e : ServiceStep) (b : Backend σ) : e.Reply × Backend σ :=
  match e with
  | .store c => ((call c b.store).1, { b with store := (call c b.store).2 })
  | .cache c => ((b.cache.perform b.now c).1, { b with cache := (b.cache.perform b.now c).2 })

namespace Service

variable {α β : Type}

/-- Drops all cached rows if the reply says that a filter was changed. -/
def settle (c : StoreCall) (reply : Except StorageError c.Reply) (rest : Service α) : Service α :=
  if c.changed reply then .step (.cache .clear) fun _ => rest else rest

/-- A request that loads rows only by way of the cache, and keeps the cache right. -/
inductive Orderly : Service α → Prop
  | done (a : α) : Orderly (.done a)
  | load {ids : List Int} {next : Except StorageError (List FilterRow) → Service α}
    (h : ∀ loaded, Orderly (next loaded)) : Orderly ((loadRows ids).bind next)
  | call {c : StoreCall} {next rest : Except StorageError c.Reply → Service α}
    (hc : ∀ ids, c ≠ .fetchRows ids) (hnext : ∀ reply, next reply = settle c reply (rest reply))
    (h : ∀ reply, Orderly (rest reply)) : Orderly (.step (.store c) next)

/-! ## Lemmas -/

theorem bind_settle (c : StoreCall) (reply : Except StorageError c.Reply) (rest : Service α)
    (f : α → Service β) : (settle c reply rest).bind f = settle c reply (rest.bind f) := by
  unfold settle
  split <;> rfl

theorem Orderly.bind {p : Service α} {f : α → Service β} (hp : Orderly p)
    (hf : ∀ a, Orderly (f a)) : Orderly (p.bind f) := by
  induction hp with
  | done a => exact hf a
  | load h ih =>
    rw [Program.bind_assoc]
    exact .load ih
  | call hc hnext h ih =>
    refine .call hc (fun reply => ?_) ih
    rw [hnext, bind_settle]

end Service

namespace Handler

variable {α β : Type}

/-- A handler whose program is orderly. -/
def Orderly (h : Handler α) : Prop := Service.Orderly h.run

theorem orderly_pure (a : α) : Orderly (pure a : Handler α) := .done _

theorem orderly_refuse (p : Problem) : Orderly (refuse p : Handler α) := .done _

theorem orderly_ofExcept (x : Except Problem α) : Orderly (ofExcept x) := .done x

theorem Orderly.bind {h : Handler α} {f : α → Handler β} (hh : h.Orderly)
    (hf : ∀ a, (f a).Orderly) : (h >>= f).Orderly := by
  refine Service.Orderly.bind hh fun verdict => ?_
  cases verdict with
  | error p => exact .done _
  | ok a => exact hf a

/-- A call is orderly if all cached rows are dropped right after a change. -/
theorem orderly_change {c : StoreCall} {f : c.Reply → Handler β} (rest : c.Reply → Handler β)
    (hc : ∀ ids, c ≠ .fetchRows ids)
    (hf : ∀ a, f a = if c.changed (.ok a) then clearCache >>= fun _ => rest a else rest a)
    (hrest : ∀ a, (rest a).Orderly) : (store c >>= f).Orderly := by
  let rest' : Except StorageError c.Reply → Service (Except Problem β)
    | .error e => .done (.error (.ofStorage e))
    | .ok a => (rest a).run
  refine @Service.Orderly.call _ c _ rest' hc (fun reply => ?_) fun reply => ?_
  · cases reply with
    | error e =>
      unfold Service.settle
      rw [c.changed_error]
      rfl
    | ok a =>
      show (f a).run = Service.settle c (.ok a) (rest a).run
      unfold Service.settle
      rw [hf]
      split <;> rfl
  · cases reply with
    | error e => exact .done _
    | ok a => exact hrest a

/-- A call that changes nothing needs nothing to be dropped. -/
theorem orderly_ask {c : StoreCall} {f : c.Reply → Handler β} (hc : ∀ ids, c ≠ .fetchRows ids)
    (hkept : ∀ a, c.changed (.ok a) = false) (hf : ∀ a, (f a).Orderly) : (store c >>= f).Orderly :=
  orderly_change f hc (fun a => by rw [hkept]; rfl) hf

theorem orderly_requireMember (workspace user : String) :
    (requireMember workspace user).Orderly := by
  refine orderly_ask nofun (fun _ => rfl) fun isMember : Bool => ?_
  cases isMember with
  | false => exact orderly_refuse _
  | true => exact orderly_pure _

theorem orderly_requireOwned (workspace user : String) (ids : List Int) :
    (requireOwned workspace user ids).Orderly := by
  unfold requireOwned
  split
  · exact orderly_pure _
  · refine orderly_ask nofun (fun _ => rfl) fun owned : List Int => ?_
    dsimp only
    split
    · exact orderly_pure _
    · exact orderly_refuse _

theorem orderly_compile (q : Query) : (compile q).Orderly :=
  Service.Orderly.bind (.load fun _ => .done _) fun _ => .done _

theorem orderly_listTasks (workspace user : String) (q : TaskQuery) :
    (listTasks workspace user q).Orderly := by
  refine (orderly_ofExcept _).bind fun ids => ?_
  refine (orderly_ofExcept _).bind fun filters => ?_
  refine (orderly_ofExcept _).bind fun overrides => ?_
  refine (orderly_requireMember _ _).bind fun _ => ?_
  refine (orderly_requireOwned _ _ _).bind fun _ => ?_
  refine (orderly_compile _).bind fun compiled => ?_
  exact orderly_ask nofun (fun _ => rfl) fun _ => orderly_pure _

theorem orderly_listFilters (workspace user : String) : (listFilters workspace user).Orderly := by
  refine (orderly_requireMember _ _).bind fun _ => ?_
  exact orderly_ask nofun (fun _ => rfl) fun _ => orderly_pure _

theorem orderly_getFilter (workspace user : String) (id : Int) :
    (getFilter workspace user id).Orderly := by
  refine (orderly_requireMember _ _).bind fun _ => ?_
  refine orderly_ask nofun (fun _ => rfl) fun filter : Option SavedFilter => ?_
  cases filter with
  | none => exact orderly_refuse _
  | some f => exact orderly_pure _

theorem orderly_createFilter (workspace user : String) (request : FilterRequest) :
    (createFilter workspace user request).Orderly := by
  refine (orderly_ofExcept _).bind fun input => ?_
  refine (orderly_requireMember _ _).bind fun _ => ?_
  exact orderly_change _ nofun (fun _ => rfl) fun _ => orderly_pure _

theorem orderly_updateFilter (workspace user : String) (id : Int) (request : FilterRequest) :
    (updateFilter workspace user id request).Orderly := by
  refine (orderly_ofExcept _).bind fun input => ?_
  refine (orderly_requireMember _ _).bind fun _ => ?_
  let rest (filter : Option SavedFilter) : Handler Http.Response :=
    filter.elim (refuse (filterNotFound id)) fun f => pure (.json 200 f.toJson)
  refine orderly_change rest nofun (fun filter => ?_) fun filter => ?_
  · cases (filter : Option SavedFilter) <;> rfl
  · cases (filter : Option SavedFilter) with
    | none => exact orderly_refuse _
    | some f => exact orderly_pure _

theorem orderly_deleteFilter (workspace user : String) (id : Int) :
    (deleteFilter workspace user id).Orderly := by
  refine (orderly_requireMember _ _).bind fun _ => ?_
  let rest (deleted : Bool) : Handler Http.Response :=
    if deleted then pure (.bare 204) else refuse (filterNotFound id)
  refine orderly_change rest nofun (fun deleted => ?_) fun deleted => ?_
  · cases (deleted : Bool) <;> rfl
  · cases (deleted : Bool) with
    | false => exact orderly_refuse _
    | true => exact orderly_pure _

theorem orderly_health : Service.Orderly health := by
  refine Service.Orderly.bind (p := Service.store .ping) ?_ fun _ => .done _
  exact .call nofun (fun reply => by cases reply <;> rfl) .done

theorem Orderly.answer {h : Handler Http.Response} (hh : h.Orderly) : Service.Orderly h.answer := by
  refine Service.Orderly.bind hh fun verdict => ?_
  cases verdict <;> exact .done _

end Handler

open Handler in
theorem Route.orderly_handler? {user : Except Problem String} {r : Http.Request}
    {resource : Resource} {h : Handler Http.Response} (hh : handler? user r resource = some h) :
    h.Orderly := by
  unfold handler? at hh
  split at hh
  · cases hh
  · split at hh <;> cases hh
    all_goals
      refine (orderly_ofExcept _).bind fun user => ?_
      refine (orderly_ofExcept _).bind fun workspace => ?_
      exact (orderly_ofExcept _).bind fun query => orderly_listTasks _ _ _
  · split at hh <;> cases hh
    all_goals
      refine (orderly_ofExcept _).bind fun user => ?_
      refine (orderly_ofExcept _).bind fun workspace => ?_
    · exact orderly_listFilters _ _
    · exact orderly_listFilters _ _
    · exact (orderly_ofExcept _).bind fun request => orderly_createFilter _ _ _
  · split at hh <;> cases hh
    all_goals
      refine (orderly_ofExcept _).bind fun user => ?_
      refine (orderly_ofExcept _).bind fun ⟨workspace, id⟩ => ?_
    · exact orderly_getFilter _ _ _
    · exact orderly_getFilter _ _ _
    · exact (orderly_ofExcept _).bind fun request => orderly_updateFilter _ _ _ _
    · exact orderly_deleteFilter _ _ _

namespace Site

/-- **Every request is orderly.** -/
theorem orderly_answer (site : Site) (now : Int) (r : Http.Request) :
    Service.Orderly (site.answer now r) := by
  unfold answer
  split
  · exact .done _
  refine Service.Orderly.bind ?_ fun _ => .done _
  unfold inner
  split
  · exact .done _
  · split
    · exact Handler.orderly_health
    · exact .done _
  · split
    · exact .done _
    · split
      · next h hh => exact (Route.orderly_handler? hh).answer
      · exact .done _

end Site

end TaskBoard
