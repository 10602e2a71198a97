import TaskBoard.Proofs.Api.Thread
import TaskBoard.Proofs.Filter.Resaving
import TaskBoard.Proofs.Postgres.Sizes

/-!
# No request saves a large filter

The conditions of a filter are counted when it is read from the body of a request, before the store
is called.  So whatever the store and the cache reply, no request calls the store to save a filter
with too many conditions; and what all calls of this kind keep is kept by requests that overlap.

    a filter with too many conditions is not read               (FilterRequest.length_conditions_le)
    what is saved has the conditions of the request             (length_conditions_input)
    all calls of a request are small                            (Site.calls_answer)
    what small calls keep, a run keeps                          (Overlap.run_of_calls)
-/

namespace TaskBoard

/-! ## Calls of a request -/

/-- A request whose calls of the store are all such calls, whatever the replies. -/
inductive Service.Calls {α : Type} (P : StoreCall → Prop) : Service α → Prop
  | done (a : α) : Calls P (.done a)
  | store {c : StoreCall} {next : Except StorageError c.Reply → Service α} (hc : P c)
    (h : ∀ reply, Calls P (next reply)) : Calls P (.step (.store c) next)
  | cache {c : CacheCall} {next : c.Reply → Service α} (h : ∀ reply, Calls P (next reply)) :
    Calls P (.step (.cache c) next)

namespace Service.Calls

variable {α β : Type} {P : StoreCall → Prop}

theorem bind {p : Service α} {f : α → Service β} (hp : p.Calls P) (hf : ∀ a, (f a).Calls P) :
    Service.Calls P (p.bind f) := by
  induction hp with
  | done a => exact hf a
  | store hc h ih => exact .store hc ih
  | cache h ih => exact .cache ih

theorem next {e : ServiceStep} {next : e.Reply → Service α} (h : Service.Calls P (.step e next))
    (reply : e.Reply) : (next reply).Calls P := by
  cases h with
  | store hc h => exact h reply
  | cache h => exact h reply

theorem loadRows (hP : ∀ ids, P (.fetchRows ids)) (ids : List Int) :
    (Service.loadRows ids).Calls P := by
  unfold Service.loadRows
  split
  · exact .done _
  · refine .cache fun found => ?_
    cases found with
    | some rows => exact .done _
    | none =>
      refine .store (hP _) fun reply => ?_
      cases reply with
      | error e => exact .done _
      | ok rows => exact .cache fun _ => .done _

end Service.Calls

namespace Overlap

variable {σ α : Type} {call : (c : StoreCall) → σ → Except StorageError c.Reply × σ}
  {P : StoreCall → Prop} {I : σ → Prop} {o : Overlap σ α}

/-- What such calls keep, a turn of such requests keeps. -/
theorem turn_of_calls (hI : ∀ c s, P c → I s → I (call c s).2)
    (hr : ∀ p ∈ o.running, Service.Calls P p) (h : I o.backend.store) (t : Turn) :
    (∀ p ∈ (o.turn call t).running, Service.Calls P p) ∧ I (o.turn call t).backend.store := by
  rcases o.turn_cases t with ⟨j, e, next, rfl, hj⟩ | ⟨hstore, hrunning, -⟩
  · have hstep := hr _ (List.mem_of_getElem? hj)
    rw [turn_of_step hj]
    constructor
    · intro p hp
      rcases List.mem_or_eq_of_mem_set hp with hp | rfl
      · exact hr p hp
      · exact hstep.next _
    · cases hstep with
      | store hc _ => exact hI _ _ hc h
      | cache _ => exact h
  · rw [hstore, hrunning]
    exact ⟨hr, h⟩

theorem run_of_calls (hI : ∀ c s, P c → I s → I (call c s).2)
    (hr : ∀ p ∈ o.running, Service.Calls P p) (h : I o.backend.store) (turns : List Turn) :
    (∀ p ∈ (o.run call turns).running, Service.Calls P p) ∧
      I (o.run call turns).backend.store := by
  induction turns using List.reverseRecOn with
  | nil => exact ⟨hr, h⟩
  | append_singleton turns t ih =>
    rw [run_concat]
    exact turn_of_calls hI ih.1 ih.2 t

end Overlap

/-! ## Small calls -/

namespace FilterRequest

/-- A filter with too many conditions is not read. -/
theorem length_conditions_le {body : List UInt8} {r : FilterRequest} (h : ofBytes body = .ok r) :
    r.conditions.length ≤ maxConditions := by
  unfold ofBytes at h
  split at h
  · cases h
  · cases h
  · split at h
    · cases h
    · next hfaults =>
      cases h
      rw [Problem.ofFaults?_eq_none_iff, faults_eq_nil_iff] at hfaults
      exact of_decide_eq_true hfaults.2.2

theorem length_conditions_input {r : FilterRequest} {input : FilterInput}
    (h : r.input = .ok input) : input.conditions.length = r.conditions.length := by
  obtain ⟨logic, -, h⟩ := bind_eq_ok.1 h
  obtain ⟨conditions, hconditions, h⟩ := bind_eq_ok.1 h
  cases h
  simpa using congrArg List.length (ConditionRequest.map_values_of_inputs hconditions)

end FilterRequest

theorem Route.length_filterBody_le {r : Http.Request} {request : FilterRequest}
    (h : filterBody r = .ok request) : request.conditions.length ≤ maxConditions := by
  unfold filterBody at h
  split at h
  · cases h
  · split at h
    · cases h
    · exact FilterRequest.length_conditions_le h

namespace Handler

variable {α β : Type} {P : StoreCall → Prop}

/-- A handler whose calls of the store are all such calls. -/
def Calls (P : StoreCall → Prop) (h : Handler α) : Prop := Service.Calls P h.run

theorem calls_pure (a : α) : (pure a : Handler α).Calls P := .done _

theorem calls_refuse (p : Problem) : (refuse p : Handler α).Calls P := .done _

theorem calls_ofExcept_bind {x : Except Problem α} {f : α → Handler β}
    (h : ∀ a, x = .ok a → (f a).Calls P) : (ofExcept x >>= f).Calls P := by
  cases x with
  | error p => exact .done _
  | ok a => exact h a rfl

theorem calls_store_bind {c : StoreCall} {f : c.Reply → Handler β} (hc : P c)
    (h : ∀ a, (f a).Calls P) : (store c >>= f).Calls P := by
  refine .store hc fun reply => ?_
  cases reply with
  | error e => exact .done _
  | ok a => exact h a

theorem calls_clearCache_bind {f : Unit → Handler β} (h : (f ()).Calls P) :
    (clearCache >>= f).Calls P :=
  .cache fun _ => h

theorem Calls.bind {h : Handler α} {f : α → Handler β} (hh : h.Calls P)
    (hf : ∀ a, (f a).Calls P) : (h >>= f).Calls P := by
  refine Service.Calls.bind hh fun verdict => ?_
  cases verdict with
  | error p => exact .done _
  | ok a => exact hf a

theorem Calls.answer {h : Handler Http.Response} (hh : h.Calls P) : Service.Calls P h.answer := by
  refine Service.Calls.bind hh fun verdict => ?_
  cases verdict <;> exact .done _

variable (workspace user : String)

theorem calls_requireMember : (requireMember workspace user).Calls StoreCall.Small := by
  refine calls_store_bind trivial fun isMember : Bool => ?_
  cases isMember with
  | false => exact calls_refuse _
  | true => exact calls_pure _

theorem calls_requireOwned (ids : List Int) :
    (requireOwned workspace user ids).Calls StoreCall.Small := by
  unfold requireOwned
  split
  · exact calls_pure _
  · refine calls_store_bind trivial fun owned : List Int => ?_
    dsimp only
    split
    · exact calls_pure _
    · exact calls_refuse _

theorem calls_compile (q : Query) : (compile q).Calls StoreCall.Small :=
  Service.Calls.bind (Service.Calls.bind (.loadRows (fun _ => trivial) _) fun _ => .done _)
    fun _ => .done _

theorem calls_listTasks (q : TaskQuery) :
    (listTasks workspace user q).Calls StoreCall.Small := by
  refine calls_ofExcept_bind fun ids _ => ?_
  refine calls_ofExcept_bind fun filters _ => ?_
  refine calls_ofExcept_bind fun overrides _ => ?_
  refine (calls_requireMember _ _).bind fun _ => ?_
  refine (calls_requireOwned _ _ _).bind fun _ => ?_
  refine (calls_compile _).bind fun compiled => ?_
  exact calls_store_bind trivial fun _ => calls_pure _

theorem calls_listFilters : (listFilters workspace user).Calls StoreCall.Small := by
  refine (calls_requireMember _ _).bind fun _ => ?_
  exact calls_store_bind trivial fun _ => calls_pure _

theorem calls_getFilter (id : Int) : (getFilter workspace user id).Calls StoreCall.Small := by
  refine (calls_requireMember _ _).bind fun _ => ?_
  refine calls_store_bind trivial fun filter : Option SavedFilter => ?_
  cases filter with
  | none => exact calls_refuse _
  | some f => exact calls_pure _

theorem calls_deleteFilter (id : Int) : (deleteFilter workspace user id).Calls StoreCall.Small := by
  refine (calls_requireMember _ _).bind fun _ => ?_
  refine calls_store_bind trivial fun deleted : Bool => ?_
  cases deleted with
  | false => exact calls_refuse _
  | true => exact calls_clearCache_bind (calls_pure _)

section

variable {request : FilterRequest} (h : request.conditions.length ≤ maxConditions)

include h

theorem calls_createFilter : (createFilter workspace user request).Calls StoreCall.Small := by
  refine calls_ofExcept_bind fun input hinput => ?_
  refine (calls_requireMember _ _).bind fun _ => ?_
  refine calls_store_bind ((FilterRequest.length_conditions_input hinput).trans_le h) fun _ => ?_
  exact calls_clearCache_bind (calls_pure _)

theorem calls_updateFilter (id : Int) :
    (updateFilter workspace user id request).Calls StoreCall.Small := by
  refine calls_ofExcept_bind fun input hinput => ?_
  refine (calls_requireMember _ _).bind fun _ => ?_
  refine calls_store_bind ((FilterRequest.length_conditions_input hinput).trans_le h)
    fun filter : Option SavedFilter => ?_
  cases filter with
  | none => exact calls_refuse _
  | some f => exact calls_clearCache_bind (calls_pure _)

end

theorem calls_health : Service.Calls StoreCall.Small health :=
  Service.Calls.bind (p := Service.store .ping) (.store trivial .done) fun _ => .done _

end Handler

open Handler in
theorem Route.calls_handler? {user : Except Problem String} {r : Http.Request}
    {resource : Resource} {h : Handler Http.Response} (hh : handler? user r resource = some h) :
    h.Calls StoreCall.Small := by
  unfold handler? at hh
  split at hh
  · cases hh
  · split at hh <;> cases hh
    all_goals
      refine calls_ofExcept_bind fun user _ => ?_
      refine calls_ofExcept_bind fun workspace _ => ?_
      exact calls_ofExcept_bind fun query _ => calls_listTasks _ _ _
  · split at hh <;> cases hh
    all_goals
      refine calls_ofExcept_bind fun user _ => ?_
      refine calls_ofExcept_bind fun workspace _ => ?_
    · exact calls_listFilters _ _
    · exact calls_listFilters _ _
    · exact calls_ofExcept_bind fun request hbody =>
        calls_createFilter _ _ (length_filterBody_le hbody)
  · split at hh <;> cases hh
    all_goals
      refine calls_ofExcept_bind fun user _ => ?_
      refine calls_ofExcept_bind fun ⟨workspace, id⟩ _ => ?_
    · exact calls_getFilter _ _ _
    · exact calls_getFilter _ _ _
    · exact calls_ofExcept_bind fun request hbody =>
        calls_updateFilter _ _ (length_filterBody_le hbody) _
    · exact calls_deleteFilter _ _ _

namespace Site

/-- **No request saves a large filter.** -/
theorem calls_answer (site : Site) (now : Int) (r : Http.Request) :
    (site.answer now r).Calls StoreCall.Small := by
  unfold answer
  split
  · exact .done _
  refine Service.Calls.bind ?_ fun _ => .done _
  unfold inner
  split
  · exact .done _
  · split
    · exact Handler.calls_health
    · exact .done _
  · split
    · exact .done _
    · split
      · next h hh => exact (Route.calls_handler? hh).answer
      · exact .done _

end Site

end TaskBoard
