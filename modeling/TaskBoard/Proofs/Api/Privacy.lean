import TaskBoard.Proofs.Api.Guarded

/-!
# Whose filters they are

Requests overlap in any way, over a database that may refuse any statement.  A request about
filters changes those of its own user in the workspace that it names, and only for a member; where
it does not succeed, it has changed nothing at all.  What it shows is what the tables hold for this
user at the turn of its call.

    what a turn changes is the caller's own                     (Site.confined_of_changed)
    without success, no turn has changed anything               (Site.unchanged_of_not_success)
    what is shown is in the tables                              (Site.shows_of_done)
    all of it holds of every run                                (Site.filters_private)
-/

namespace TaskBoard

open Postgres (Database Surroundings Tables)

namespace Site

/-- Requests that are answered over a database, each at its time, after these turns. -/
def serveAll (site : Site) (w : Surroundings) (b : Backend Database)
    (requests : List (Int × Http.Request)) (turns : List Turn) : Overlap Database Http.Response :=
  (Overlap.ofRequests site b requests).run (Database.call w) turns

variable {site : Site} {w : Surroundings} {b : Backend Database}
  {requests : List (Int × Http.Request)} {turns before later : List Turn} {i : Nat} {time : Int}
  {r : Http.Request}

theorem members_serveAll :
    (site.serveAll w b requests turns).backend.store.members = b.store.members :=
  Overlap.store_run (I := fun d : Database => d.members = b.store.members)
    (fun c _ hd => (Database.members_call c).trans hd) turns rfl

theorem serveAll_concat (t : Turn) : site.serveAll w b requests (turns ++ [t]) =
    (site.serveAll w b requests turns).turn (Database.call w) t :=
  Overlap.run_concat _ turns t

theorem serveAll_append : site.serveAll w b requests (turns ++ later) =
    (site.serveAll w b requests turns).run (Database.call w) later :=
  Overlap.run_append _ turns later

theorem history_prefix_serveAll (turns later : List Turn) :
    (site.serveAll w b requests turns).history <+:
      (site.serveAll w b requests (turns ++ later)).history := by
  rw [serveAll_append]
  exact Overlap.history_prefix_run _ later

/-- What is left of a request, and what it has exchanged. -/
theorem after_serveAll (hi : requests[i]? = some (time, r)) (turns : List Turn) :
    ∃ q, (site.serveAll w b requests turns).running[i]? = some q ∧
      (site.answer time r).After ((site.serveAll w b requests turns).history.of i) q := by
  refine Overlap.after_run ?_ turns
  rw [List.getElem?_map, hi]
  rfl

theorem after_of_running (hi : requests[i]? = some (time, r)) {q : Service Http.Response}
    (h : (site.serveAll w b requests turns).running[i]? = some q) :
    (site.answer time r).After ((site.serveAll w b requests turns).history.of i) q := by
  obtain ⟨q', hq, hafter⟩ := after_serveAll hi turns
  obtain rfl := Option.some.inj (h.symm.trans hq)
  exact hafter

/-- A reply of the store is that of the turn on which it was asked. -/
theorem call_of_exchange {c : StoreCall} {reply : Except StorageError c.Reply}
    (h : .store c reply ∈ (site.serveAll w b requests turns).history.of i) :
    ∃ before later, turns = before ++ .step i :: later ∧
      ((site.serveAll w b requests before).backend.store.call w c).1 = reply := by
  obtain ⟨k, hk⟩ := List.getElem?_of_mem (History.mem_of.1 h)
  obtain ⟨before, later, hturns, hdoes⟩ := Overlap.exists_turn hk
  exact ⟨before, later, hturns, hdoes.call_eq⟩

/-- What a request is told about a membership is true. -/
theorem member_of_exchange {workspace user : String} {reply : Except StorageError Bool}
    (h : .store (.isMember workspace user) reply ∈ (site.serveAll w b requests turns).history.of i) :
    reply = .ok (b.store.members.contains (workspace, user)) ∨ ∃ e, reply = .error e ∧ w.Refuses := by
  obtain ⟨before, later, -, hcall⟩ := call_of_exchange h
  rw [← hcall, ← @members_serveAll site w b requests before]
  exact Database.call_isMember ..

/-! ## Changes -/

/-- The program of a request about filters that is not done yet. -/
theorem guarded_of_step (hi : requests[i]? = some (time, r)) (hr : r.IsAboutFilters)
    {e : ServiceStep} {next : e.Reply → Service Http.Response}
    (hstep : (site.serveAll w b requests turns).running[i]? = some (.step e next)) :
    ∃ workspace user c answer, r.Names workspace ∧ site.caller time r = .ok user ∧
      c.owner? = some (workspace, user) ∧ Service.GuardedGoes workspace user c answer
        ((site.serveAll w b requests turns).history.of i) (.step e next) := by
  have hafter := after_of_running hi hstep
  rcases @servesOwn_answer site time r hr with ⟨response, hdone⟩ |
    ⟨workspace, user, hnames, hcaller, hfor⟩
  · rw [hdone] at hafter
    cases hafter.of_done.2
  rcases hfor with ⟨response, hdone⟩ | ⟨c, answer, howner, -, hguarded⟩
  · rw [hdone] at hafter
    cases hafter.of_done.2
  · rw [hguarded] at hafter
    exact ⟨workspace, user, c, answer, hnames, hcaller, howner, Service.guarded_goes hafter⟩

/-- What a turn changes is the caller's own, and the caller is a member. -/
theorem confined_of_changed (hi : requests[i]? = some (time, r)) (hr : r.IsAboutFilters)
    (hchanged : (site.serveAll w b requests (turns ++ [Turn.step i])).backend.store.tables ≠
      (site.serveAll w b requests turns).backend.store.tables) :
    ∃ workspace user, r.Names workspace ∧ site.caller time r = .ok user ∧
      (workspace, user) ∈ b.store.members ∧
      (site.serveAll w b requests turns).backend.store.tables.ConfinedTo
        (site.serveAll w b requests (turns ++ [Turn.step i])).backend.store.tables workspace user := by
  rw [serveAll_concat] at hchanged ⊢
  rcases (site.serveAll w b requests turns).turn_cases (.step i) with
    ⟨j, e, next, heq, hstep⟩ | ⟨hstore, -⟩
  · cases heq
    rw [Overlap.turn_of_step hstep] at hchanged ⊢
    obtain ⟨workspace, user, c, answer, hnames, hcaller, howner, hgoes⟩ :=
      guarded_of_step hi hr hstep
    generalize hlog : (site.serveAll w b requests turns).history.of i = log at hgoes
    cases hgoes with
    | asking =>
      have hsame : ((site.serveAll w b requests turns).backend.store.call w
          (.isMember workspace user)).2.tables = _ := Database.tables_call rfl
      exact absurd hsame hchanged
    | member =>
      have hasked : .store (.isMember workspace user) (.ok true) ∈
          (site.serveAll w b requests turns).history.of i := by
        rw [hlog]
        exact List.mem_singleton_self _
      refine ⟨workspace, user, hnames, hcaller, ?_, Database.confined_call howner⟩
      rcases member_of_exchange hasked with hmember | ⟨e, herror, -⟩
      · exact List.contains_iff_mem.1 (Except.ok.inj hmember).symm
      · cases herror
    | clearing => exact absurd rfl hchanged
  · rw [hstore] at hchanged
    exact absurd rfl hchanged

/-- A request that is done without success has changed nothing. -/
theorem quiet_of_not_success (hi : requests[i]? = some (time, r)) (hr : r.IsAboutFilters)
    {response : Http.Response}
    (hdone : (site.serveAll w b requests turns).running[i]? = some (.done response))
    (hfail : ¬ response.IsSuccess) :
    ∀ x ∈ (site.serveAll w b requests turns).history.of i,
      ∃ c reply, x = .store c reply ∧ c.changed reply = false := by
  have hafter := after_of_running hi hdone
  have early : ∀ a, site.answer time r = .done a →
      (site.serveAll w b requests turns).history.of i = [] := by
    intro a ha
    rw [ha] at hafter
    exact hafter.of_done.1
  rcases @servesOwn_answer site time r hr with ⟨a, ha⟩ |
    ⟨workspace, user, -, -, ⟨a, ha⟩ | ⟨c, answer, -, hgood, hguarded⟩⟩
  · rw [early a ha]
    exact List.forall_mem_nil _
  · rw [early a ha]
    exact List.forall_mem_nil _
  · rw [hguarded] at hafter
    have hgoes := Service.guarded_goes hafter
    generalize (site.serveAll w b requests turns).history.of i = log at hgoes
    intro x hx
    cases hgoes with
    | unknown e => exact ⟨_, _, List.mem_singleton.1 hx, rfl⟩
    | stranger => exact ⟨_, _, List.mem_singleton.1 hx, rfl⟩
    | replied reply hc =>
      rcases List.mem_cons.1 hx with rfl | hx
      · exact ⟨_, _, rfl, rfl⟩
      · exact ⟨c, reply, List.mem_singleton.1 hx, hc⟩
    | cleared reply hc => exact absurd (hgood reply hc) hfail

/-- Without success, no turn of a request changes the tables or the cache. -/
theorem unchanged_of_not_success (hi : requests[i]? = some (time, r)) (hr : r.IsAboutFilters)
    {response : Http.Response}
    (hdone : (site.serveAll w b requests (turns ++ .step i :: later)).running[i]? =
      some (.done response)) (hfail : ¬ response.IsSuccess) :
    (site.serveAll w b requests (turns ++ [Turn.step i])).backend.store.tables =
        (site.serveAll w b requests turns).backend.store.tables ∧
      (site.serveAll w b requests (turns ++ [Turn.step i])).backend.cache =
        (site.serveAll w b requests turns).backend.cache := by
  obtain ⟨q, hq, -⟩ := after_serveAll hi turns
  rw [serveAll_concat]
  cases q with
  | done a =>
    rw [Overlap.turn_of_done hq]
    exact ⟨rfl, rfl⟩
  | step e next =>
    have hturn := @Overlap.turn_of_step _ _ (Database.call w) _ _ _ _ hq
    have hmem : ⟨e, ((site.serveAll w b requests turns).backend.perform (Database.call w) e).1⟩ ∈
        (site.serveAll w b requests (turns ++ .step i :: later)).history.of i := by
      rw [List.append_cons]
      refine History.mem_of.2 ((history_prefix_serveAll _ later).subset ?_)
      rw [serveAll_concat, hturn]
      exact List.mem_append_right _ (List.mem_singleton_self _)
    obtain ⟨c, reply, hx, hc⟩ := quiet_of_not_success hi hr hdone hfail _ hmem
    cases congrArg Exchange.step hx
    rw [hturn]
    refine ⟨Database.tables_call ?_, rfl⟩
    rw [← hc]
    exact congrArg _ (Exchange.store_inj.1 hx)

/-! ## What is shown -/

/-- The response shows a member what the tables held at a turn of the request.  A stranger gets a
problem instead, and so does anybody if a statement is refused. -/
def Shows (site : Site) (w : Surroundings) (b : Backend Database)
    (requests : List (Int × Http.Request)) (turns : List Turn) (i : Nat) (r : Http.Request)
    (workspace user : String) (shown : Tables → Http.Response) (response : Http.Response) : Prop :=
  ((workspace, user) ∈ b.store.members ∧ ∃ before later, turns = before ++ .step i :: later ∧
    response = site.origins.annotate r
      (shown (site.serveAll w b requests before).backend.store.tables)) ∨
  (∃ p, response = site.origins.annotate r (ofProblem p)) ∧
    (w.Refuses ∨ (workspace, user) ∉ b.store.members)

theorem shows_of_done (hi : requests[i]? = some (time, r)) {workspace user : String}
    {c : StoreCall} {good : c.Reply → Http.Response}
    (hanswer : site.answer time r = Service.guarded workspace user c fun found =>
      site.origins.annotate r (Handler.orProblem good found))
    {value : Tables → c.Reply} (hvalue : ∀ d : Database, (d.call w c).1 = .ok (value d.tables) ∨
      ∃ e, (d.call w c).1 = .error e ∧ w.Refuses)
    {response : Http.Response}
    (hdone : (site.serveAll w b requests turns).running[i]? = some (.done response)) :
    site.Shows w b requests turns i r workspace user (fun t => good (value t)) response := by
  have hafter := after_of_running hi hdone
  rw [hanswer] at hafter
  rcases (Service.guarded_goes hafter).of_done with ⟨e, hmember, rfl⟩ | ⟨hmember, rfl⟩ |
    ⟨reply, hmember, hreply, rfl⟩
  · rcases member_of_exchange hmember with herror | ⟨-, -, hrefuses⟩
    · cases herror
    · exact .inr ⟨⟨_, rfl⟩, .inl hrefuses⟩
  · rcases member_of_exchange hmember with hno | ⟨e, herror, -⟩
    · refine .inr ⟨⟨_, rfl⟩, .inr fun hmem => ?_⟩
      rw [List.contains_iff_mem.2 hmem] at hno
      cases hno
    · cases herror
  · have hmem : (workspace, user) ∈ b.store.members := by
      rcases member_of_exchange hmember with hyes | ⟨e, herror, -⟩
      · exact List.contains_iff_mem.1 (Except.ok.inj hyes).symm
      · cases herror
    obtain ⟨before, later, hturns, rfl⟩ := call_of_exchange hreply
    rcases hvalue (site.serveAll w b requests before).backend.store with hok | ⟨e, herror, hrefuses⟩
    · exact .inl ⟨hmem, before, later, hturns, by rw [hok]; rfl⟩
    · exact .inr ⟨⟨.ofStorage e, by rw [herror]; rfl⟩, .inl hrefuses⟩

/-- A request for the filters of a workspace. -/
theorem shows_filters {name : String} (hi : requests[i]? = some (time, r)) (hget : r.method = "GET")
    (hpath : Resource.ofPath? r.path = some (.filters name)) {response : Http.Response}
    (hdone : (site.serveAll w b requests turns).running[i]? = some (.done response)) :
    (∃ workspace user, site.caller time r = .ok user ∧ Route.workspaceOf name = .ok workspace ∧
      site.Shows w b requests turns i r workspace user
        (fun t => Handler.filterList (t.savedOf workspace user)) response) ∨
    (∃ p, response = site.origins.annotate r (ofProblem p)) ∧
      ∀ workspace user, site.caller time r = .ok user → Route.workspaceOf name ≠ .ok workspace := by
  rcases @answer_filters site time r name hget hpath with
    ⟨workspace, user, hcaller, hname, hanswer⟩ | ⟨⟨p, hanswer⟩, hnone⟩
  · refine .inl ⟨workspace, user, hcaller, hname, ?_⟩
    exact shows_of_done hi hanswer (fun d => d.call_listFilters w workspace user) hdone
  · have hafter := after_of_running hi hdone
    rw [hanswer] at hafter
    exact .inr ⟨⟨p, Program.done.inj hafter.of_done.2⟩, hnone⟩

/-- A request for one filter. -/
theorem shows_filter {name id : String} (hi : requests[i]? = some (time, r))
    (hget : r.method = "GET") (hpath : Resource.ofPath? r.path = some (.filter name id))
    {response : Http.Response}
    (hdone : (site.serveAll w b requests turns).running[i]? = some (.done response)) :
    (∃ workspace user n, site.caller time r = .ok user ∧
      Route.filterOf name id = .ok (workspace, n) ∧
      site.Shows w b requests turns i r workspace user
        (fun t => Handler.filterFound n ((t.filterAt workspace user n).map t.saved)) response) ∨
    (∃ p, response = site.origins.annotate r (ofProblem p)) ∧
      ∀ workspace user n, site.caller time r = .ok user →
        Route.filterOf name id ≠ .ok (workspace, n) := by
  rcases @answer_filter site time r name id hget hpath with
    ⟨workspace, user, n, hcaller, hname, hanswer⟩ | ⟨⟨p, hanswer⟩, hnone⟩
  · refine .inl ⟨workspace, user, n, hcaller, hname, ?_⟩
    exact shows_of_done hi hanswer (fun d => d.call_getFilter w workspace user n) hdone
  · have hafter := after_of_running hi hdone
    rw [hanswer] at hafter
    exact .inr ⟨⟨p, Program.done.inj hafter.of_done.2⟩, hnone⟩

/-- **Filters are private.**  In any run, a turn of a request about filters changes the tables only
for a member of a workspace that the request names, and all that it changes is the caller's own
there.  A request that is done without success has left the tables and the cache at each of its
turns.  A list shows what the tables hold for the caller, and a request for one filter shows the
one with this number among them; if there is none, the status is 404. -/
theorem filters_private (site : Site) (w : Surroundings) (b : Backend Database)
    (requests : List (Int × Http.Request)) (i : Nat) (time : Int) (r : Http.Request)
    (hi : requests[i]? = some (time, r)) (hr : r.IsAboutFilters) :
    let backend := fun turns => (site.serveAll w b requests turns).backend
    (∀ before, (backend (before ++ [Turn.step i])).store.tables ≠ (backend before).store.tables →
      ∃ workspace user, r.Names workspace ∧ site.caller time r = .ok user ∧
        (workspace, user) ∈ b.store.members ∧ (backend before).store.tables.ConfinedTo
          (backend (before ++ [Turn.step i])).store.tables workspace user) ∧
    ∀ turns response,
      (site.serveAll w b requests turns).running[i]? = some (.done response) →
      (¬ response.IsSuccess → ∀ before later, turns = before ++ .step i :: later →
        (backend (before ++ [Turn.step i])).store.tables = (backend before).store.tables ∧
          (backend (before ++ [Turn.step i])).cache = (backend before).cache) ∧
      (r.method = "GET" → ∀ name, Resource.ofPath? r.path = some (.filters name) →
        (∃ workspace user, site.caller time r = .ok user ∧ Route.workspaceOf name = .ok workspace ∧
          site.Shows w b requests turns i r workspace user
            (fun t => Handler.filterList (t.savedOf workspace user)) response) ∨
        (∃ p, response = site.origins.annotate r (ofProblem p)) ∧
          ∀ workspace user, site.caller time r = .ok user →
            Route.workspaceOf name ≠ .ok workspace) ∧
      (r.method = "GET" → ∀ name id, Resource.ofPath? r.path = some (.filter name id) →
        (∃ workspace user n, site.caller time r = .ok user ∧
          Route.filterOf name id = .ok (workspace, n) ∧
          site.Shows w b requests turns i r workspace user
            (fun t => Handler.filterFound n ((t.filterAt workspace user n).map t.saved)) response ∧
          (Handler.filterFound n none).status = 404) ∨
        (∃ p, response = site.origins.annotate r (ofProblem p)) ∧
          ∀ workspace user n, site.caller time r = .ok user →
            Route.filterOf name id ≠ .ok (workspace, n)) := by
  intro backend
  refine ⟨fun before => confined_of_changed hi hr, fun turns response hdone => ⟨?_, ?_, ?_⟩⟩
  · rintro hfail before later rfl
    exact unchanged_of_not_success hi hr hdone hfail
  · exact fun hget name hpath => shows_filters hi hget hpath hdone
  · intro hget name id hpath
    rcases shows_filter hi hget hpath hdone with ⟨workspace, user, n, hcaller, hname, hshows⟩ | haway
    · exact .inl ⟨workspace, user, n, hcaller, hname, hshows, rfl⟩
    · exact .inr haway

end Site

/-! ## A filter is deleted -/

namespace Sample

def deleteRequest : Http.Request := ⟨"DELETE", "/api/v1/workspaces/w/filters/7", "", [], []⟩

def backend : Backend Database := ⟨Postgres.Sample.database, .empty 300000, 0⟩

theorem ofPath?_deleteRequest :
    Resource.ofPath? deleteRequest.path = some (.filter "w" "7") := by decide

theorem answer_deleteRequest : site.answer 0 deleteRequest =
    Service.guarded "w" Gate.localUser (.deleteFilter "w" Gate.localUser 7) fun found =>
      site.origins.annotate deleteRequest (Handler.orProblem (Handler.filterDeleted 7) found) := by
  have hids : Route.filterOf "w" "7" = .ok ("w", 7) := rfl
  rw [Site.answer_eq_of_path ofPath?_deleteRequest nofun (by decide)]
  show (Handler.answer (do
    let user ← Handler.ofExcept (site.caller 0 deleteRequest)
    let names ← Handler.ofExcept (Route.filterOf "w" "7")
    Handler.deleteFilter names.1 user names.2)).bind
      (fun response => .done (site.origins.annotate deleteRequest response)) = _
  rw [hids]
  show (Handler.deleteFilter "w" Gate.localUser 7).answer.bind _ = _
  rw [Handler.answer_deleteFilter, Service.bind_guarded]
  rfl

/-- The second turn of the request deletes the filter. -/
theorem filters_deleteRequest :
    let tables := fun turns =>
      (site.serveAll .calm backend [(0, deleteRequest)] turns).backend.store.tables
    (tables [.step 0]).filters.map FilterHead.id = [7, 8, 9] ∧
      (tables [.step 0, .step 0]).filters.map FilterHead.id = [8, 9] := by
  unfold Site.serveAll Overlap.ofRequests
  rw [List.map_cons, List.map_nil, answer_deleteRequest]
  exact ⟨rfl, rfl⟩

end Sample

namespace Site

/-- The deleting request concerns the caller's own filters. -/
theorem filters_private_delete :
    let tables := fun turns => (Sample.site.serveAll .calm Sample.backend
      [(0, Sample.deleteRequest)] turns).backend.store.tables
    Sample.deleteRequest.IsAboutFilters ∧ tables [.step 0, .step 0] ≠ tables [.step 0] ∧
      ("w", Gate.localUser) ∈ Sample.backend.store.members ∧
      (tables [.step 0]).ConfinedTo (tables [.step 0, .step 0]) "w" Gate.localUser := by
  dsimp only
  have hr : Sample.deleteRequest.IsAboutFilters :=
    ⟨"w", .inr ⟨"7", Sample.ofPath?_deleteRequest⟩⟩
  have h := (filters_private Sample.site .calm Sample.backend [(0, Sample.deleteRequest)] 0 0
    Sample.deleteRequest rfl hr).1 [.step 0]
  have hfilters := Sample.filters_deleteRequest
  dsimp only [List.singleton_append] at h hfilters
  obtain ⟨hbefore, hafter⟩ := hfilters
  have hchanged : (Sample.site.serveAll .calm Sample.backend [(0, Sample.deleteRequest)]
      [.step 0, .step 0]).backend.store.tables ≠ (Sample.site.serveAll .calm Sample.backend
      [(0, Sample.deleteRequest)] [.step 0]).backend.store.tables := by
    intro heq
    rw [heq, hbefore] at hafter
    cases hafter
  obtain ⟨workspace, user, ⟨name, hname, hpath⟩, hcaller, hmember, hconfined⟩ := h hchanged
  obtain rfl : Gate.localUser = user := Except.ok.inj hcaller
  obtain rfl : "w" = name := by
    rw [Sample.ofPath?_deleteRequest] at hpath
    rcases hpath with hpath | ⟨id, hpath⟩
    · cases hpath
    · exact (Resource.filter.inj (Option.some.inj hpath)).1
  obtain rfl : "w" = workspace := Except.ok.inj hname
  exact ⟨hr, hchanged, hmember, hconfined⟩

end Site

end TaskBoard
