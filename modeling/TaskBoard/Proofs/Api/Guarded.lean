import TaskBoard.Proofs.Api.Listing
import TaskBoard.Proofs.Api.Thread
import TaskBoard.Proofs.Auth.Identity
import TaskBoard.Proofs.Postgres.Calls

/-!
# Requests about filters

A request about filters is answered at once, or it is one call of the store behind the question
whether its user is a member of its workspace.  The call is about the filters of this user in this
workspace.  If it changes one of them, all cached rows are dropped, and the request succeeds.

    a request about filters is one guarded call                 (Site.answer_guarded)
    a guarded call goes one of these ways                       (Service.guarded_goes)
-/

namespace TaskBoard

/-- The request has been done. -/
def Http.Response.IsSuccess (response : Http.Response) : Prop :=
  200 ≤ response.status ∧ response.status < 300

/-- The request is about filters. -/
def Http.Request.IsAboutFilters (r : Http.Request) : Prop :=
  ∃ name, Resource.ofPath? r.path = some (.filters name) ∨
    ∃ id, Resource.ofPath? r.path = some (.filter name id)

/-- The request is about filters of the workspace. -/
def Http.Request.Names (r : Http.Request) (workspace : String) : Prop :=
  ∃ name, Route.workspaceOf name = .ok workspace ∧
    (Resource.ofPath? r.path = some (.filters name) ∨
      ∃ id, Resource.ofPath? r.path = some (.filter name id))

namespace Service

variable {α β : Type}

/-- One call of the store, if the user is a member of the workspace.  Cached rows are dropped if
the call changes a filter. -/
def guarded (workspace user : String) (c : StoreCall) (answer : Except Problem c.Reply → α) :
    Service α :=
  .step (.store (.isMember workspace user)) fun
    | .error e => .done (answer (.error (.ofStorage e)))
    | .ok false => .done (answer (.error Handler.accessDenied))
    | .ok true => .step (.store c) fun reply =>
      settle c reply (.done (answer (reply.mapError .ofStorage)))

/-- How far a guarded call can be, by what has been exchanged. -/
inductive GuardedGoes (workspace user : String) (c : StoreCall)
    (answer : Except Problem c.Reply → α) : ServiceLog → Service α → Prop
  | asking : GuardedGoes workspace user c answer [] (guarded workspace user c answer)
  | unknown (e : StorageError) : GuardedGoes workspace user c answer
    [.store (.isMember workspace user) (.error e)] (.done (answer (.error (.ofStorage e))))
  | stranger : GuardedGoes workspace user c answer
    [.store (.isMember workspace user) (.ok false)] (.done (answer (.error Handler.accessDenied)))
  | member : GuardedGoes workspace user c answer [.store (.isMember workspace user) (.ok true)]
    (.step (.store c) fun reply => settle c reply (.done (answer (reply.mapError .ofStorage))))
  | replied (reply : Except StorageError c.Reply) (hc : c.changed reply = false) :
    GuardedGoes workspace user c answer
      [.store (.isMember workspace user) (.ok true), .store c reply]
      (.done (answer (reply.mapError .ofStorage)))
  | clearing (reply : Except StorageError c.Reply) (hc : c.changed reply = true) :
    GuardedGoes workspace user c answer
      [.store (.isMember workspace user) (.ok true), .store c reply]
      (.step (.cache .clear) fun _ => .done (answer (reply.mapError .ofStorage)))
  | cleared (reply : Except StorageError c.Reply) (hc : c.changed reply = true) :
    GuardedGoes workspace user c answer
      [.store (.isMember workspace user) (.ok true), .store c reply, .cache .clear ()]
      (.done (answer (reply.mapError .ofStorage)))

variable {workspace user : String} {c : StoreCall} {answer : Except Problem c.Reply → α}
  {log : ServiceLog} {q : Service α}

theorem guarded_goes (h : (guarded workspace user c answer).After log q) :
    GuardedGoes workspace user c answer log q := by
  rcases h.of_step with ⟨rfl, rfl⟩ | ⟨reply, rest, rfl, hrest⟩
  · exact .asking
  rcases reply with e | _ | _
  · obtain ⟨rfl, rfl⟩ := Program.After.of_done hrest
    exact .unknown e
  · obtain ⟨rfl, rfl⟩ := Program.After.of_done hrest
    exact .stranger
  · rcases Program.After.of_step hrest with ⟨rfl, rfl⟩ | ⟨reply, rest, rfl, hlast⟩
    · exact .member
    cases hc : c.changed reply with
    | false =>
      have hsettle : settle c reply (.done (answer (reply.mapError .ofStorage))) =
          .done (answer (reply.mapError .ofStorage)) := if_neg (by rw [hc]; decide)
      rw [hsettle] at hlast
      obtain ⟨rfl, rfl⟩ := hlast.of_done
      exact .replied reply hc
    | true =>
      have hsettle : settle c reply (.done (answer (reply.mapError .ofStorage))) =
          .step (.cache .clear) fun _ => .done (answer (reply.mapError .ofStorage)) := if_pos hc
      rw [hsettle] at hlast
      rcases hlast.of_step with ⟨rfl, rfl⟩ | ⟨⟨⟩, rest, rfl, hdone⟩
      · exact .clearing reply hc
      · obtain ⟨rfl, rfl⟩ := hdone.of_done
        exact .cleared reply hc

/-- What a guarded call is answered with. -/
theorem GuardedGoes.of_done {a : α} (h : GuardedGoes workspace user c answer log (.done a)) :
    (∃ e, .store (.isMember workspace user) (.error e) ∈ log ∧
      a = answer (.error (.ofStorage e))) ∨
    (.store (.isMember workspace user) (.ok false) ∈ log ∧
      a = answer (.error Handler.accessDenied)) ∨
    ∃ reply, .store (.isMember workspace user) (.ok true) ∈ log ∧ .store c reply ∈ log ∧
      a = answer (reply.mapError .ofStorage) := by
  cases h with
  | unknown e => exact .inl ⟨e, List.mem_singleton_self _, rfl⟩
  | stranger => exact .inr (.inl ⟨List.mem_singleton_self _, rfl⟩)
  | replied reply hc =>
    exact .inr (.inr ⟨reply, List.mem_cons_self, .tail _ List.mem_cons_self, rfl⟩)
  | cleared reply hc =>
    exact .inr (.inr ⟨reply, List.mem_cons_self, .tail _ List.mem_cons_self, rfl⟩)

theorem bind_guarded (f : α → β) : (guarded workspace user c answer).bind (fun a => .done (f a)) =
    guarded workspace user c fun found => f (answer found) := by
  show Program.step _ _ = Program.step _ _
  congr 1
  funext reply
  rcases reply with e | _ | _
  · rfl
  · rfl
  · show Program.step _ _ = Program.step _ _
    congr 1
    funext reply
    exact bind_settle c reply _ _

end Service

/-! ## Handlers -/

namespace Handler

theorem answer_ofExcept_bind {α : Type} (x : Except Problem α) (f : α → Handler Http.Response) :
    (ofExcept x >>= f).answer = match x with
      | .ok a => (f a).answer
      | .error p => .done (Site.ofProblem p) := by
  cases x <;> rfl

/-- A refusal is an answer, too. -/
def orProblem {α : Type} (good : α → Http.Response) : Except Problem α → Http.Response
  | .ok a => good a
  | .error p => Site.ofProblem p

theorem answer_guarded {workspace user : String} {c : StoreCall}
    {f : c.Reply → Handler Http.Response} {good : c.Reply → Http.Response}
    (hf : ∀ a, (f a).answer = Service.settle c (.ok a) (.done (good a))) :
    (requireMember workspace user >>= fun _ => store c >>= f).answer =
      Service.guarded workspace user c (orProblem good) := by
  show Program.step _ _ = Program.step _ _
  congr 1
  funext reply
  rcases reply with e | _ | _
  · rfl
  · rfl
  · show Program.step _ _ = Program.step _ _
    congr 1
    funext reply
    cases reply with
    | error e =>
      unfold Service.settle
      rw [c.changed_error]
      rfl
    | ok a => exact hf a

def filterList (filters : List SavedFilter) : Http.Response :=
  .json 200 (.object [("data", .array (filters.map SavedFilter.toJson))])

def filterFound (id : Int) : Option SavedFilter → Http.Response
  | some f => .json 200 f.toJson
  | none => Site.ofProblem (filterNotFound id)

def filterCreated (f : SavedFilter) : Http.Response := .json 201 f.toJson

def filterDeleted (id : Int) : Bool → Http.Response
  | true => .bare 204
  | false => Site.ofProblem (filterNotFound id)

variable (workspace user : String) (id : Int)

theorem answer_listFilters : (listFilters workspace user).answer =
    Service.guarded workspace user (.listFilters workspace user) (orProblem filterList) :=
  answer_guarded fun _ => rfl

theorem answer_getFilter : (getFilter workspace user id).answer =
    Service.guarded workspace user (.getFilter workspace user id) (orProblem (filterFound id)) :=
  answer_guarded fun
    | some _ => rfl
    | none => rfl

theorem answer_deleteFilter : (deleteFilter workspace user id).answer =
    Service.guarded workspace user (.deleteFilter workspace user id)
      (orProblem (filterDeleted id)) :=
  answer_guarded fun
    | true => rfl
    | false => rfl

theorem answer_createFilter (request : FilterRequest) :
    (createFilter workspace user request).answer = match request.input with
      | .ok input => Service.guarded workspace user (.createFilter workspace user input)
        (orProblem filterCreated)
      | .error p => .done (Site.ofProblem p) := by
  unfold createFilter
  rw [answer_ofExcept_bind]
  cases request.input with
  | error p => rfl
  | ok input => exact answer_guarded fun _ => rfl

theorem answer_updateFilter (request : FilterRequest) :
    (updateFilter workspace user id request).answer = match request.input with
      | .ok input => Service.guarded workspace user (.updateFilter workspace user id input)
        (orProblem (filterFound id))
      | .error p => .done (Site.ofProblem p) := by
  unfold updateFilter
  rw [answer_ofExcept_bind]
  cases request.input with
  | error p => rfl
  | ok input =>
    exact answer_guarded fun
      | some _ => rfl
      | none => rfl

end Handler

/-! ## Requests -/

namespace Service

/-- The request is answered at once, or it is a call about the filters of this user in this
workspace, and succeeds if the call changes one of them. -/
def IsFor (p : Service Http.Response) (workspace user : String) : Prop :=
  (∃ response, p = .done response) ∨ ∃ c answer, c.owner? = some (workspace, user) ∧
    (∀ reply, c.changed reply = true →
      Http.Response.IsSuccess (answer (reply.mapError .ofStorage))) ∧
    p = guarded workspace user c answer

variable {workspace user : String} {p : Service Http.Response}

theorem IsFor.bind {f : Http.Response → Http.Response} (hp : p.IsFor workspace user)
    (hf : ∀ response, (f response).status = response.status) :
    IsFor (p.bind fun response => .done (f response)) workspace user := by
  rcases hp with ⟨response, rfl⟩ | ⟨c, answer, hc, hgood, rfl⟩
  · exact .inl ⟨f response, rfl⟩
  · refine .inr ⟨c, _, hc, fun reply hreply => ?_, bind_guarded f⟩
    unfold Http.Response.IsSuccess
    rw [hf]
    exact hgood reply hreply

theorem isFor_ofExcept_bind {α : Type} {x : Except Problem α} {f : α → Handler Http.Response}
    (hf : ∀ a, (f a).answer.IsFor workspace user) :
    (Handler.ofExcept x >>= f).answer.IsFor workspace user := by
  rw [Handler.answer_ofExcept_bind]
  cases x with
  | error p => exact .inl ⟨_, rfl⟩
  | ok a => exact hf a

theorem isFor_listFilters : (Handler.listFilters workspace user).answer.IsFor workspace user :=
  .inr ⟨.listFilters workspace user, _, rfl, nofun, Handler.answer_listFilters workspace user⟩

theorem isFor_getFilter (id : Int) :
    (Handler.getFilter workspace user id).answer.IsFor workspace user :=
  .inr ⟨.getFilter workspace user id, _, rfl, nofun, Handler.answer_getFilter workspace user id⟩

theorem isFor_deleteFilter (id : Int) :
    (Handler.deleteFilter workspace user id).answer.IsFor workspace user := by
  refine .inr ⟨_, _, rfl, fun reply hreply => ?_, Handler.answer_deleteFilter workspace user id⟩
  rcases reply with e | _ | _
  · cases hreply
  · cases hreply
  · exact (by decide : 200 ≤ 204 ∧ 204 < 300)

theorem isFor_createFilter (request : FilterRequest) :
    (Handler.createFilter workspace user request).answer.IsFor workspace user := by
  have h := Handler.answer_createFilter workspace user request
  cases hinput : request.input with
  | error p =>
    rw [hinput] at h
    exact .inl ⟨_, h⟩
  | ok input =>
    rw [hinput] at h
    refine .inr ⟨_, _, rfl, fun reply hreply => ?_, h⟩
    cases reply with
    | error e => cases hreply
    | ok f => exact (by decide : 200 ≤ 201 ∧ 201 < 300)

theorem isFor_updateFilter (id : Int) (request : FilterRequest) :
    (Handler.updateFilter workspace user id request).answer.IsFor workspace user := by
  have h := Handler.answer_updateFilter workspace user id request
  cases hinput : request.input with
  | error p =>
    rw [hinput] at h
    exact .inl ⟨_, h⟩
  | ok input =>
    rw [hinput] at h
    refine .inr ⟨_, _, rfl, fun reply hreply => ?_, h⟩
    rcases reply with e | _ | f
    · cases hreply
    · cases hreply
    · exact (by decide : 200 ≤ 200 ∧ 200 < 300)

end Service

namespace Route

/-- The names of a filter hold that of its workspace. -/
theorem workspaceOf_of_filterOf {s id workspace : String} {n : Int}
    (h : filterOf s id = .ok (workspace, n)) : workspaceOf s = .ok workspace := by
  unfold filterOf at h
  obtain ⟨name, hname, h⟩ := bind_eq_ok.1 h
  obtain ⟨text, htext, h⟩ := bind_eq_ok.1 h
  unfold workspaceOf
  rw [hname]
  show (if isWorkspaceId name then pure name else throw invalidWorkspaceId) = _
  split at h
  · next hid =>
    split at h
    · cases h
      rw [if_pos hid]
      rfl
    · cases h
  · cases h

end Route

namespace Site

variable {site : Site} {now : Int} {r : Http.Request} {name : String}

/-- The answer comes at once, or it is about the caller's own filters in the workspace of the
request. -/
def ServesOwn (site : Site) (now : Int) (r : Http.Request) (p : Service Http.Response) : Prop :=
  (∃ response, p = .done response) ∨ ∃ workspace user, r.Names workspace ∧
    site.caller now r = .ok user ∧ p.IsFor workspace user

theorem servesOwn_filters (hpath : Resource.ofPath? r.path = some (.filters name))
    {f : String → String → Handler Http.Response}
    (hf : ∀ workspace user, (f workspace user).answer.IsFor workspace user) :
    site.ServesOwn now r (Handler.answer (do
      let user ← Handler.ofExcept (site.caller now r)
      let workspace ← Handler.ofExcept (Route.workspaceOf name)
      f workspace user)) := by
  rw [Handler.answer_ofExcept_bind]
  cases hcaller : site.caller now r with
  | error p => exact .inl ⟨_, rfl⟩
  | ok user =>
    dsimp only
    rw [Handler.answer_ofExcept_bind]
    cases hname : Route.workspaceOf name with
    | error p => exact .inl ⟨_, rfl⟩
    | ok workspace =>
      exact .inr ⟨workspace, user, ⟨name, hname, .inl hpath⟩, hcaller, hf workspace user⟩

theorem servesOwn_filter {id : String} (hpath : Resource.ofPath? r.path = some (.filter name id))
    {f : String → String → Int → Handler Http.Response}
    (hf : ∀ workspace user n, (f workspace user n).answer.IsFor workspace user) :
    site.ServesOwn now r (Handler.answer (do
      let user ← Handler.ofExcept (site.caller now r)
      let (workspace, n) ← Handler.ofExcept (Route.filterOf name id)
      f workspace user n)) := by
  rw [Handler.answer_ofExcept_bind]
  cases hcaller : site.caller now r with
  | error p => exact .inl ⟨_, rfl⟩
  | ok user =>
    dsimp only
    rw [Handler.answer_ofExcept_bind]
    cases hname : Route.filterOf name id with
    | error p => exact .inl ⟨_, rfl⟩
    | ok names =>
      obtain ⟨workspace, n⟩ := names
      exact .inr ⟨workspace, user, ⟨name, Route.workspaceOf_of_filterOf hname, .inr ⟨id, hpath⟩⟩,
        hcaller, hf workspace user n⟩

/-- What a method does with filters is done for the caller. -/
theorem servesOwn_handler {resource : Resource} (hpath : Resource.ofPath? r.path = some resource)
    (hfilters : resource = .filters name ∨ ∃ id, resource = .filter name id)
    {h : Handler Http.Response} (hh : Route.handler? (site.caller now r) r resource = some h) :
    site.ServesOwn now r h.answer := by
  rcases hfilters with rfl | ⟨id, rfl⟩
  · unfold Route.handler? at hh
    dsimp only at hh
    split at hh
    · cases hh
      exact servesOwn_filters hpath fun _ _ => Service.isFor_listFilters
    · cases hh
      exact servesOwn_filters hpath fun _ _ => Service.isFor_listFilters
    · cases hh
      exact servesOwn_filters hpath fun _ _ =>
        Service.isFor_ofExcept_bind fun request => Service.isFor_createFilter request
    · cases hh
  · unfold Route.handler? at hh
    dsimp only at hh
    split at hh
    · cases hh
      exact servesOwn_filter hpath fun _ _ n => Service.isFor_getFilter n
    · cases hh
      exact servesOwn_filter hpath fun _ _ n => Service.isFor_getFilter n
    · cases hh
      have hf : ∀ workspace user n, Service.IsFor (Handler.answer (Handler.ofExcept
          (Route.filterBody r) >>= fun request => Handler.updateFilter workspace user n request))
          workspace user :=
        fun _ _ n => Service.isFor_ofExcept_bind fun request => Service.isFor_updateFilter n request
      have hserves := @servesOwn_filter site now r name id hpath _ hf
      exact hserves
    · cases hh
      exact servesOwn_filter hpath fun _ _ n => Service.isFor_deleteFilter n
    · cases hh

/-- A request about filters is answered at once, or it is about the caller's own filters. -/
theorem servesOwn_answer (hr : r.IsAboutFilters) : site.ServesOwn now r (site.answer now r) := by
  by_cases hmethod : r.method = "OPTIONS"
  · have hp : Http.Origins.isPreflight r = true := beq_iff_eq.2 hmethod
    refine .inl ⟨site.origins.preflight r, ?_⟩
    unfold answer
    rw [hp]
    rfl
  · obtain ⟨name, hname⟩ := hr
    obtain ⟨resource, hpath, hfilters⟩ : ∃ resource, Resource.ofPath? r.path = some resource ∧
        (resource = .filters name ∨ ∃ id, resource = .filter name id) := by
      rcases hname with hpath | ⟨id, hpath⟩
      · exact ⟨_, hpath, .inl rfl⟩
      · exact ⟨_, hpath, .inr ⟨id, rfl⟩⟩
    have hguarded : resource ≠ .health := by
      rcases hfilters with rfl | ⟨id, rfl⟩ <;> exact nofun
    rw [answer_eq_of_path hpath hguarded hmethod]
    cases site.turnsAway? now r with
    | some p => exact .inl ⟨_, rfl⟩
    | none =>
      cases hh : Route.handler? (site.caller now r) r resource with
      | none => exact .inl ⟨_, rfl⟩
      | some h =>
        have hstatus : ∀ response : Http.Response,
            (site.origins.annotate r (forMethod r response)).status = response.status := by
          intro response
          show (forMethod r response).status = _
          unfold forMethod
          split <;> rfl
        rcases servesOwn_handler hpath hfilters hh with ⟨response, hdone⟩ |
          ⟨workspace, user, hnames, hcaller, hfor⟩
        · dsimp only
          rw [hdone]
          exact .inl ⟨_, rfl⟩
        · exact .inr ⟨workspace, user, hnames, hcaller, hfor.bind hstatus⟩

/-- A request that reads is turned away, or handled. -/
theorem answer_of_get {resource : Resource} (hget : r.method = "GET")
    (hpath : Resource.ofPath? r.path = some resource) (hguarded : resource ≠ .health)
    {h : Handler Http.Response} (hh : Route.handler? (site.caller now r) r resource = some h) :
    (∃ p, site.caller now r = .error p ∧
      site.answer now r = .done (site.origins.annotate r (ofProblem p))) ∨
    site.answer now r = h.answer.bind fun response => .done (site.origins.annotate r response) := by
  have hmethod : r.method ≠ "OPTIONS" := by
    rw [hget]
    decide
  have hwhole : ∀ response, forMethod r response = response := by
    intro response
    unfold forMethod
    rw [hget]
    rfl
  rw [answer_eq_of_path hpath hguarded hmethod, hh]
  simp only [hwhole]
  cases haway : site.turnsAway? now r with
  | some p => exact .inl ⟨p, caller_of_turnsAway? haway, rfl⟩
  | none => exact .inr rfl

/-- How a request for the filters of a workspace is answered. -/
theorem answer_filters (hget : r.method = "GET")
    (hpath : Resource.ofPath? r.path = some (.filters name)) :
    (∃ workspace user, site.caller now r = .ok user ∧ Route.workspaceOf name = .ok workspace ∧
      site.answer now r = Service.guarded workspace user (.listFilters workspace user) fun found =>
        site.origins.annotate r (Handler.orProblem Handler.filterList found)) ∨
    (∃ p, site.answer now r = .done (site.origins.annotate r (ofProblem p))) ∧
      ∀ workspace user, site.caller now r = .ok user → Route.workspaceOf name ≠ .ok workspace := by
  have hh : Route.handler? (site.caller now r) r (.filters name) = some (do
      let user ← Handler.ofExcept (site.caller now r)
      let workspace ← Handler.ofExcept (Route.workspaceOf name)
      Handler.listFilters workspace user) := by
    unfold Route.handler?
    simp only [hget]
  rcases answer_of_get hget hpath nofun hh with ⟨p, hcaller, hanswer⟩ | hanswer
  · refine .inr ⟨⟨p, hanswer⟩, fun workspace user hok => ?_⟩
    rw [hcaller] at hok
    cases hok
  · rw [hanswer, Handler.answer_ofExcept_bind]
    cases hcaller : site.caller now r with
    | error p => exact .inr ⟨⟨p, rfl⟩, fun _ _ hok => nomatch hok⟩
    | ok user =>
      dsimp only
      rw [Handler.answer_ofExcept_bind]
      cases hname : Route.workspaceOf name with
      | error p => exact .inr ⟨⟨p, rfl⟩, fun _ _ _ hok => nomatch hok⟩
      | ok workspace =>
        refine .inl ⟨workspace, user, rfl, rfl, ?_⟩
        dsimp only
        rw [Handler.answer_listFilters, Service.bind_guarded]
        rfl

/-- How a request for one filter is answered. -/
theorem answer_filter {id : String} (hget : r.method = "GET")
    (hpath : Resource.ofPath? r.path = some (.filter name id)) :
    (∃ workspace user n, site.caller now r = .ok user ∧
      Route.filterOf name id = .ok (workspace, n) ∧
      site.answer now r = Service.guarded workspace user (.getFilter workspace user n) fun found =>
        site.origins.annotate r (Handler.orProblem (Handler.filterFound n) found)) ∨
    (∃ p, site.answer now r = .done (site.origins.annotate r (ofProblem p))) ∧
      ∀ workspace user n, site.caller now r = .ok user →
        Route.filterOf name id ≠ .ok (workspace, n) := by
  have hh : Route.handler? (site.caller now r) r (.filter name id) = some (do
      let user ← Handler.ofExcept (site.caller now r)
      let (workspace, n) ← Handler.ofExcept (Route.filterOf name id)
      Handler.getFilter workspace user n) := by
    unfold Route.handler?
    simp only [hget]
  rcases answer_of_get hget hpath nofun hh with ⟨p, hcaller, hanswer⟩ | hanswer
  · refine .inr ⟨⟨p, hanswer⟩, fun workspace user n hok => ?_⟩
    rw [hcaller] at hok
    cases hok
  · rw [hanswer, Handler.answer_ofExcept_bind]
    cases hcaller : site.caller now r with
    | error p => exact .inr ⟨⟨p, rfl⟩, fun _ _ _ hok => nomatch hok⟩
    | ok user =>
      dsimp only
      rw [Handler.answer_ofExcept_bind]
      cases hname : Route.filterOf name id with
      | error p => exact .inr ⟨⟨p, rfl⟩, fun _ _ _ _ hok => nomatch hok⟩
      | ok names =>
        obtain ⟨workspace, n⟩ := names
        refine .inl ⟨workspace, user, n, rfl, rfl, ?_⟩
        dsimp only
        rw [Handler.answer_getFilter, Service.bind_guarded]
        rfl

end Site

end TaskBoard
