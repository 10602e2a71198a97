import Mathlib
import TaskBoard.Api.Route
import TaskBoard.Proofs.Api.Stages

/-!
# How a listing goes

A listing of tasks is read from its request, and then goes through the same stages each time:
the user has to be a member, the wanted filters have to be the user's own, their rows have to be
loaded.  Only then are tasks listed, once, and with the filter that these rows compile to.  What
stops a listing on its way is its answer.

    every run of a listing is one of its ways                   (Listing.serve_goes)
    a request for tasks is answered as its log shows            (Site.answer_listing)
-/

namespace TaskBoard

/-- A listing that a user asks for. -/
structure Listing where
  user : String
  workspace : String
  page : Page
  ids : List Int
  filters : List CustomFilter
  overrides : Overrides

/-- The listing that a user asks for with these parameters, or what is wrong with them first. -/
def TaskQuery.listing (q : TaskQuery) (user workspace : String) : Except Problem Listing := do
  let ids ← q.ids
  let filters ← q.filters
  let overrides ← q.overrides
  pure ⟨user, workspace, q.page, ids, filters, overrides⟩

/-- The listing that a request for tasks asks for, or what is wrong with it first. -/
def Site.listing (site : Site) (now : Int) (r : Http.Request) (name : String) :
    Except Problem Listing := do
  let user ← site.caller now r
  let workspace ← Route.workspaceOf name
  let q ← TaskQuery.ofText r.query
  q.listing user workspace

/-- The call for tasks in an exchange. -/
def Exchange.listing? (x : Exchange ServiceStep.Reply) : Option (String × Page × CompiledFilter) :=
  match x.step with
  | .store (.listTasks workspace page f) => some (workspace, page, f)
  | _ => none

namespace Listing

/-- Every part of the listing has been read from the request, and its page may be asked for. -/
structure ReadFrom (l : Listing) (site : Site) (now : Int) (r : Http.Request) (name : String) :
    Prop where
  caller : site.caller now r = .ok l.user
  workspace : Route.workspaceOf name = .ok l.workspace
  number : Page.checkNumber l.page.number = none
  limit : Page.checkLimit l.page.limit = none
  parameters : ∃ q, TaskQuery.ofText r.query = .ok q ∧ q.page = l.page ∧ q.ids = .ok l.ids ∧
    q.filters = .ok l.filters ∧ q.overrides = .ok l.overrides

/-- What is compiled for the listing: for its own user, with the placeholders from the second
one on. -/
def query (l : Listing) : Query := ⟨l.ids, l.filters, l.user, l.overrides, 2⟩

/-- The ways in which a listing goes: it is stopped by one of its stages, or it asks for the
tasks. -/
inductive Goes (l : Listing) : ServiceLog → Except Problem (List Task × Nat) → Prop
  | notAdmitted {m : ServiceLog} {p : Problem} (hm : Admits l.workspace l.user m (.error p)) :
    Goes l m (.error p)
  | notOwned {m o : ServiceLog} {p : Problem} (hm : Admits l.workspace l.user m (.ok ()))
    (ho : Owns l.workspace l.user l.ids o (.error p)) : Goes l (m ++ o) (.error p)
  | notLoaded {m o c : ServiceLog} {e : StorageError} (hm : Admits l.workspace l.user m (.ok ()))
    (ho : Owns l.workspace l.user l.ids o (.ok ())) (hc : Loads l.ids c (.error e)) :
    Goes l (m ++ (o ++ c)) (.error .filtersNotLoaded)
  | listed {m o c : ServiceLog} {rows : List FilterRow}
    (hm : Admits l.workspace l.user m (.ok ())) (ho : Owns l.workspace l.user l.ids o (.ok ()))
    (hc : Loads l.ids c (.ok rows)) (reply : Except StorageError (List Task × Nat)) :
    Goes l (m ++ (o ++ (c ++
        [.store (.listTasks l.workspace l.page (l.query.compile rows)) reply])))
      (reply.mapError .ofStorage)

/-- The tasks of the listing that satisfy a filter. -/
def tasks (l : Listing) (f : CompiledFilter) : Handler (List Task × Nat) :=
  Handler.store (.listTasks l.workspace l.page f)

/-- The calls behind a listing, and the tasks they find. -/
def serve (l : Listing) : Handler (List Task × Nat) := do
  Handler.requireMember l.workspace l.user
  Handler.requireOwned l.workspace l.user l.ids
  let compiled ← Handler.compile l.query
  l.tasks compiled

/-- The answer of a listing that found these tasks, or was stopped. -/
def answer (l : Listing) : Except Problem (List Task × Nat) → Http.Response
  | .ok found => .json 200 (Handler.taskPage l.page found.1 found.2)
  | .error p => Site.ofProblem p

end Listing

/-- A store in which everybody is a member and owns every filter, but nothing else can be found. -/
def ServiceStep.lost (e : ServiceStep) (_ : Unit) : e.Reply × Unit :=
  match e with
  | .store (.isMember _ _) => (.ok true, ())
  | .store (.ownedIds _ _ ids) => (.ok ids, ())
  | .store _ => (.error (.database .rowNotFound), ())
  | .cache (.get _) => (none, ())
  | .cache (.set _ _) => ((), ())
  | .cache .clear => ((), ())

/-! ## What a log shows -/

/-- What is not in the first part of a list comes behind it. -/
theorem exists_append_of_not_mem {α : Type} {first rest log later : List α} {x : α}
    (h : first ++ rest = log ++ x :: later) (hx : x ∉ first) :
    ∃ middle, log = first ++ middle ∧ rest = middle ++ x :: later := by
  rcases List.append_eq_append_iff.1 h with ⟨middle, hlog, hrest⟩ | ⟨middle, hfirst, hrest⟩
  · exact ⟨middle, hlog, hrest⟩
  · cases middle with
    | nil =>
      refine ⟨[], ?_, ?_⟩
      · rw [List.append_nil] at hfirst ⊢
        exact hfirst.symm
      · exact hrest.symm
    | cons y middle =>
      obtain ⟨rfl, -⟩ := List.cons.inj hrest
      exact absurd (hfirst ▸ List.mem_append_right _ List.mem_cons_self) hx

theorem Admits.filterMap_listing? {workspace user : String} {log : ServiceLog}
    {verdict : Except Problem Unit} (h : Admits workspace user log verdict) :
    log.filterMap Exchange.listing? = [] := by
  cases h <;> rfl

theorem Owns.filterMap_listing? {workspace user : String} {ids : List Int} {log : ServiceLog}
    {verdict : Except Problem Unit} (h : Owns workspace user ids log verdict) :
    log.filterMap Exchange.listing? = [] := by
  cases h <;> rfl

theorem Loads.filterMap_listing? {ids : List Int} {log : ServiceLog}
    {loaded : Except StorageError (List FilterRow)} (h : Loads ids log loaded) :
    log.filterMap Exchange.listing? = [] := by
  cases h <;> rfl

namespace Listing.Goes

variable {l : Listing} {log : ServiceLog} {result : Except Problem (List Task × Nat)}

/-- A listing that is cleared lists the tasks, once. -/
theorem listings_of_cleared (h : l.Goes log result) {rows : List FilterRow}
    (hmember : log.HasMember l.workspace l.user) (howner : log.HasOwner l.workspace l.user l.ids)
    (hrows : log.HasRows l.ids rows) :
    log.filterMap Exchange.listing? = [(l.workspace, l.page, l.query.compile rows)] := by
  cases h with
  | notAdmitted hm => cases hm.hasMember_iff.1 hmember
  | @notOwned m o p hm ho =>
    have hown : o.HasOwner l.workspace l.user l.ids :=
      howner.imp_right fun ⟨owned, hx, hall⟩ => ⟨owned, hm.drop hx nofun, hall⟩
    cases ho.hasOwner_iff.1 hown
  | @notLoaded m o c e hm ho hc =>
    have hload : c.HasRows l.ids rows :=
      hrows.imp_right (Or.imp (fun hx => ho.drop (hm.drop hx nofun) nofun)
        fun hx => ho.drop (hm.drop hx nofun) nofun)
    cases hc.hasRows_iff.1 hload
  | @listed m o c loaded hm ho hc reply =>
    -- the call for tasks itself shows no rows
    have earlier :
        ∀ x ∈ c ++ [.store (.listTasks l.workspace l.page (l.query.compile loaded)) reply],
        x.step ≠ .store (.listTasks l.workspace l.page (l.query.compile loaded)) → x ∈ c := by
      intro x hx hne
      refine (List.mem_append.1 hx).resolve_right fun hlast => hne ?_
      rw [List.mem_singleton.1 hlast]
      rfl
    have hload : c.HasRows l.ids rows :=
      hrows.imp_right (Or.imp (fun hx => earlier _ (ho.drop (hm.drop hx nofun) nofun) nofun)
        fun hx => earlier _ (ho.drop (hm.drop hx nofun) nofun) nofun)
    cases hc.hasRows_iff.1 hload
    rw [List.filterMap_append, List.filterMap_append, List.filterMap_append, hm.filterMap_listing?,
      ho.filterMap_listing?, hc.filterMap_listing?]
    rfl

/-- A log that goes on after these stages shows that they were passed. -/
theorem passed {m o : ServiceLog} (hm : Admits l.workspace l.user m (.ok ()))
    (ho : Owns l.workspace l.user l.ids o (.ok ())) (rest : ServiceLog) :
    ServiceLog.HasMember (m ++ (o ++ rest)) l.workspace l.user ∧
      ServiceLog.HasOwner (m ++ (o ++ rest)) l.workspace l.user l.ids := by
  constructor
  · exact List.mem_append_left _ (hm.hasMember_iff.2 rfl)
  · refine (ho.hasOwner_iff.2 rfl).imp_right fun ⟨owned, hx, hall⟩ => ⟨owned, ?_, hall⟩
    exact List.mem_append_right _ (List.mem_append_left _ hx)

/-- Nothing is fetched before the user is admitted and owns the filters. -/
theorem passed_of_fetch (h : l.Goes log result) {ids : List Int}
    {reply : Except StorageError (List FilterRow)}
    (hx : Exchange.store (.fetchRows ids) reply ∈ log) :
    log.HasMember l.workspace l.user ∧ log.HasOwner l.workspace l.user l.ids := by
  cases h with
  | notAdmitted hm => cases hm.step_eq hx
  | notOwned hm ho => cases ho.step_eq (hm.drop hx nofun)
  | notLoaded hm ho hc => exact passed hm ho _
  | listed hm ho hc reply => exact passed hm ho _

/-- No tasks are listed before the listing is cleared. -/
theorem cleared_of_listings (h : l.Goes log result) (hne : log.filterMap Exchange.listing? ≠ []) :
    log.HasMember l.workspace l.user ∧ log.HasOwner l.workspace l.user l.ids ∧
      ∃ rows, log.HasRows l.ids rows := by
  cases h with
  | notAdmitted hm => exact absurd hm.filterMap_listing? hne
  | notOwned hm ho =>
    rw [List.filterMap_append, hm.filterMap_listing?, ho.filterMap_listing?] at hne
    exact absurd rfl hne
  | notLoaded hm ho hc =>
    rw [List.filterMap_append, List.filterMap_append, hm.filterMap_listing?,
      ho.filterMap_listing?, hc.filterMap_listing?] at hne
    exact absurd rfl hne
  | @listed m o c rows hm ho hc reply =>
    obtain ⟨hmember, howner⟩ := passed hm ho (c ++ _)
    have shown : ∀ x ∈ c, x ∈ m ++ (o ++ (c ++
        [.store (.listTasks l.workspace l.page (l.query.compile rows)) reply])) :=
      fun x hx => List.mem_append_right _ (List.mem_append_right _ (List.mem_append_left _ hx))
    exact ⟨hmember, howner, rows,
      (hc.hasRows_iff.2 rfl).imp_right (Or.imp (shown _) (shown _))⟩

/-- Before rows are fetched, the user was found to own the filters. -/
theorem owner_before_fetch {rest : ServiceLog} {set : List Int}
    {reply : Except StorageError (List FilterRow)}
    (h : l.Goes (log ++ .store (.fetchRows set) reply :: rest) result) :
    set = sortedIds l.ids ∧ l.ids ≠ [] ∧ log.HasOwner l.workspace l.user l.ids := by
  -- the stages before the loading fetch nothing, so they are done
  have stages : ∀ {m o later : ServiceLog}, Admits l.workspace l.user m (.ok ()) →
      Owns l.workspace l.user l.ids o (.ok ()) →
      m ++ (o ++ later) = log ++ .store (.fetchRows set) reply :: rest →
      log.HasOwner l.workspace l.user l.ids ∧ Exchange.store (.fetchRows set) reply ∈ later := by
    intro m o later hm ho heq
    have hmnot : Exchange.store (.fetchRows set) reply ∉ m := fun hx => by cases hm.step_eq hx
    have honot : Exchange.store (.fetchRows set) reply ∉ o := fun hx => by cases ho.step_eq hx
    obtain ⟨middle, rfl, hmiddle⟩ := exists_append_of_not_mem heq hmnot
    obtain ⟨final, rfl, rfl⟩ := exists_append_of_not_mem hmiddle honot
    exact ⟨(passed hm ho final).2, List.mem_append_right _ List.mem_cons_self⟩
  have hmem : Exchange.store (.fetchRows set) reply ∈
      log ++ .store (.fetchRows set) reply :: rest :=
    List.mem_append_right _ List.mem_cons_self
  generalize hfull : log ++ .store (.fetchRows set) reply :: rest = full at h hmem
  cases h with
  | notAdmitted hm => cases hm.step_eq hmem
  | notOwned hm ho => cases ho.step_eq (hm.drop hmem nofun)
  | notLoaded hm ho hc =>
    obtain ⟨howner, hx⟩ := stages hm ho hfull.symm
    obtain ⟨-, hset, hne⟩ := hc.of_fetch_mem hx
    exact ⟨hset, hne, howner⟩
  | listed hm ho hc =>
    obtain ⟨howner, hx⟩ := stages hm ho hfull.symm
    rcases List.mem_append.1 hx with hx | hx
    · obtain ⟨-, hset, hne⟩ := hc.of_fetch_mem hx
      exact ⟨hset, hne, howner⟩
    · cases congrArg Exchange.step (List.mem_singleton.1 hx)

/-- The first exchange that stops a listing is its result. -/
theorem findSome?_refusal? (h : l.Goes log result) :
    log.findSome? Exchange.refusal? = refusalOf result := by
  cases h with
  | notAdmitted hm => exact hm.findSome?_refusal?
  | notOwned hm ho =>
    rw [List.findSome?_append, hm.findSome?_refusal?, ho.findSome?_refusal?]
    rfl
  | notLoaded hm ho hc =>
    rw [List.findSome?_append, List.findSome?_append, hm.findSome?_refusal?,
      ho.findSome?_refusal?, hc.findSome?_refusal?]
    rfl
  | listed hm ho hc reply =>
    rw [List.findSome?_append, List.findSome?_append, List.findSome?_append,
      hm.findSome?_refusal?, ho.findSome?_refusal?, hc.findSome?_refusal?]
    cases reply <;> rfl

/-- Whatever the failure of a fetch, it is told in the same general words. -/
theorem eq_error_of_fetch (h : l.Goes log result) {ids : List Int} {e : StorageError}
    (hx : Exchange.store (.fetchRows ids) (.error e) ∈ log) :
    result = .error .filtersNotLoaded := by
  cases h with
  | notAdmitted hm => cases hm.step_eq hx
  | notOwned hm ho => cases ho.step_eq (hm.drop hx nofun)
  | notLoaded hm ho hc => rfl
  | listed hm ho hc reply =>
    rcases List.mem_append.1 (ho.drop (hm.drop hx nofun) nofun) with hx | hx
    · cases (hc.of_fetch_mem hx).1
    · cases congrArg Exchange.step (List.mem_singleton.1 hx)

/-- Tasks that are found have been listed. -/
theorem mem_of_eq_ok (h : l.Goes log result) {found : List Task × Nat} (hr : result = .ok found) :
    ∃ f, Exchange.store (.listTasks l.workspace l.page f) (.ok found) ∈ log := by
  cases h with
  | @listed m o c rows hm ho hc reply =>
    cases reply with
    | error e => cases hr
    | ok found' =>
      cases hr
      refine ⟨l.query.compile rows, ?_⟩
      apply List.mem_append_right
      apply List.mem_append_right
      exact List.mem_append_right _ (List.mem_singleton_self _)
  | _ => cases hr

/-- Tasks are listed with the filter of the rows that were loaded. -/
theorem listed_of_ok {found : List Task × Nat} (h : l.Goes log (.ok found)) :
    log.HasOwner l.workspace l.user l.ids ∧ ∃ rows, log.HasRows l.ids rows ∧
      .store (.listTasks l.workspace l.page (l.query.compile rows)) (.ok found) ∈ log := by
  obtain ⟨f, hf⟩ := h.mem_of_eq_ok rfl
  have hlisting : (l.workspace, l.page, f) ∈ log.filterMap Exchange.listing? :=
    List.mem_filterMap.2 ⟨_, hf, rfl⟩
  obtain ⟨hmember, howner, rows, hrows⟩ := h.cleared_of_listings (List.ne_nil_of_mem hlisting)
  rw [h.listings_of_cleared hmember howner hrows, List.mem_singleton] at hlisting
  obtain rfl : f = l.query.compile rows := (Prod.mk.inj (Prod.mk.inj hlisting).2).2
  exact ⟨howner, rows, hrows, hf⟩

end Listing.Goes

namespace Listing

variable {σ : Type} (perform : (e : ServiceStep) → σ → e.Reply × σ) (s : σ)

/-- Every run of a listing is one of its ways. -/
theorem serve_goes (l : Listing) :
    Goes l (l.serve.run.log perform s) (l.serve.run.run perform s).1 := by
  unfold serve
  have hm := Handler.requireMember_admits perform s l.workspace l.user
  rcases Handler.bind_cases perform s (Handler.requireMember l.workspace l.user) _ with
    ⟨p, hp, hlog, hres⟩ | ⟨⟨⟩, s₁, hok, hlog, hres⟩
  · rw [hlog, hres]
    rw [hp] at hm
    exact .notAdmitted hm
  rw [hlog, hres]
  rw [hok] at hm
  have ho := Handler.requireOwned_owns perform s₁ l.workspace l.user l.ids
  rcases Handler.bind_cases perform s₁ (Handler.requireOwned l.workspace l.user l.ids) _ with
    ⟨p, hp, hlog, hres⟩ | ⟨⟨⟩, s₂, hok, hlog, hres⟩
  · rw [hlog, hres]
    rw [hp] at ho
    exact .notOwned hm ho
  rw [hlog, hres]
  rw [hok] at ho
  obtain ⟨loaded, hc, hresult⟩ := Handler.compile_loads perform s₂ l.query
  rcases Handler.bind_cases perform s₂ (Handler.compile l.query) l.tasks with
    ⟨p, hp, hlog, hres⟩ | ⟨f, s₃, hok, hlog, hres⟩
  · rw [hlog, hres]
    rw [hp] at hresult
    cases loaded with
    | error e =>
      cases hresult
      exact .notLoaded hm ho hc
    | ok rows => cases hresult
  · rw [hlog, hres]
    rw [hok] at hresult
    cases loaded with
    | error e => cases hresult
    | ok rows =>
      cases hresult
      exact .listed hm ho hc _

end Listing

/-! ## Requests -/

/-- A listing whose parameters have been read is served. -/
theorem Handler.listTasks_eq {q : TaskQuery} {l : Listing} (hids : q.ids = .ok l.ids)
    (hfilters : q.filters = .ok l.filters) (hoverrides : q.overrides = .ok l.overrides)
    (hpage : q.page = l.page) :
    Handler.listTasks l.workspace l.user q =
      l.serve >>= fun found => pure (.json 200 (taskPage l.page found.1 found.2)) := by
  unfold Handler.listTasks Listing.serve
  rw [hids, hfilters, hoverrides, hpage]
  simp only [bind_assoc]
  rfl

/-- What stops a listing with bad parameters is its answer; all others are served. -/
theorem Handler.answer_listTasks (q : TaskQuery) (user workspace : String) :
    (Handler.listTasks workspace user q).answer = match q.listing user workspace with
      | .error p => .done (Site.ofProblem p)
      | .ok l => l.serve.run.bind fun found => .done (l.answer found) := by
  cases hids : q.ids with
  | error p =>
    simp only [Handler.listTasks, TaskQuery.listing, hids]
    rfl
  | ok ids =>
    cases hfilters : q.filters with
    | error p =>
      simp only [Handler.listTasks, TaskQuery.listing, hids, hfilters]
      rfl
    | ok filters =>
      cases hoverrides : q.overrides with
      | error p =>
        simp only [Handler.listTasks, TaskQuery.listing, hids, hfilters, hoverrides]
        rfl
      | ok overrides =>
        let l : Listing := ⟨user, workspace, q.page, ids, filters, overrides⟩
        have hl : q.listing user workspace = .ok l := by
          simp only [TaskQuery.listing, hids, hfilters, hoverrides]
          rfl
        have heq : Handler.listTasks workspace user q = _ :=
          Handler.listTasks_eq (l := l) hids hfilters hoverrides rfl
        rw [hl, heq]
        show Program.bind (Program.bind _ _) _ = Program.bind _ _
        rw [Program.bind_assoc]
        congr 1
        funext found
        cases found <;> rfl

/-- Parameters that have been read have a page that may be asked for. -/
theorem TaskQuery.checks_of_ofText {text : String} {q : TaskQuery} (h : ofText text = .ok q) :
    Page.checkNumber q.page.number = none ∧ Page.checkLimit q.page.limit = none := by
  unfold ofText at h
  split at h
  · cases h
  · next q' hq' =>
    split at h
    · cases h
    · next hfaults =>
      cases h
      rw [Problem.ofFaults?_eq_none_iff, List.map_eq_nil_iff] at hfaults
      exact (isValid_iff _).1 (List.isEmpty_iff.2 hfaults)

namespace Site

variable {site : Site} {now : Int} {r : Http.Request} {name : String}

theorem caller_of_turnsAway? {p : Problem} (h : site.turnsAway? now r = some p) :
    site.caller now r = .error p := by
  unfold turnsAway? at h
  unfold caller
  split at h
  · cases h
  · next g hg =>
    rw [hg]
    split at h
    · cases h
    · next p' hp =>
      cases h
      exact hp

/-- A request for tasks is a listing, if one can be read from it. -/
theorem inner_listing (hm : r.method = "GET" ∨ r.method = "HEAD")
    (hp : Resource.ofPath? r.path = some (.tasks name)) :
    site.inner now r = match site.listing now r name with
      | .error p => .done (ofProblem p)
      | .ok l => l.serve.run.bind fun found => .done (l.answer found) := by
  unfold inner
  rw [hp]
  simp only
  cases ht : site.turnsAway? now r with
  | some p =>
    rw [listing, caller_of_turnsAway? ht]
    rfl
  | none =>
    have hlist : Route.handler? (site.caller now r) r (.tasks name) = some (do
        let user ← Handler.ofExcept (site.caller now r)
        let workspace ← Handler.ofExcept (Route.workspaceOf name)
        let query ← Handler.ofExcept (TaskQuery.ofText r.query)
        Handler.listTasks workspace user query) := by
      unfold Route.handler?
      rcases hm with hm | hm <;> simp only [hm]
    rw [hlist]
    unfold listing
    cases site.caller now r with
    | error p => rfl
    | ok user =>
      cases Route.workspaceOf name with
      | error p => rfl
      | ok workspace =>
        cases TaskQuery.ofText r.query with
        | error p => rfl
        | ok q => exact Handler.answer_listTasks q user workspace

theorem readFrom_of_listing {l : Listing} (h : site.listing now r name = .ok l) :
    l.ReadFrom site now r name := by
  unfold listing at h
  obtain ⟨user, huser, h⟩ := bind_eq_ok.1 h
  obtain ⟨workspace, hworkspace, h⟩ := bind_eq_ok.1 h
  obtain ⟨q, hq, h⟩ := bind_eq_ok.1 h
  unfold TaskQuery.listing at h
  obtain ⟨ids, hids, h⟩ := bind_eq_ok.1 h
  obtain ⟨filters, hfilters, h⟩ := bind_eq_ok.1 h
  obtain ⟨overrides, hoverrides, h⟩ := bind_eq_ok.1 h
  cases h
  obtain ⟨hnumber, hlimit⟩ := TaskQuery.checks_of_ofText hq
  exact ⟨huser, hworkspace, hnumber, hlimit, q, hq, rfl, hids, hfilters, hoverrides⟩

theorem answer_eq (hm : r.method = "GET" ∨ r.method = "HEAD") :
    site.answer now r =
      (site.inner now r).bind fun answer =>
        .done (site.origins.annotate r (forMethod r answer)) := by
  have hp : Http.Origins.isPreflight r = false := by
    unfold Http.Origins.isPreflight
    rcases hm with hm | hm <;> rw [hm] <;> decide
  unfold answer
  rw [hp]
  rfl

/-- What a request for tasks exchanges. -/
theorem log_answer (hm : r.method = "GET" ∨ r.method = "HEAD")
    (hp : Resource.ofPath? r.path = some (.tasks name)) {l : Listing}
    (hl : site.listing now r name = .ok l) {σ : Type}
    (perform : (e : ServiceStep) → σ → e.Reply × σ) (s : σ) :
    (site.answer now r).log perform s = l.serve.run.log perform s := by
  rw [answer_eq hm, inner_listing hm hp, hl]
  dsimp only
  rw [Program.log_bind_done, Program.log_bind_done]

/-- How a request for tasks is answered. -/
theorem run_answer (hget : r.method = "GET") (hp : Resource.ofPath? r.path = some (.tasks name))
    {l : Listing} (hl : site.listing now r name = .ok l) {σ : Type}
    (perform : (e : ServiceStep) → σ → e.Reply × σ) (s : σ) :
    ((site.answer now r).run perform s).1 =
      site.origins.annotate r (l.answer (l.serve.run.run perform s).1) := by
  rw [answer_eq (.inl hget), inner_listing (.inl hget) hp, hl]
  dsimp only
  rw [Program.run_bind, Program.run_bind]
  unfold forMethod
  rw [hget]
  rfl

end Site

/-! ## A listing of one filter -/

namespace Sample

/-- A site without sign-in. -/
def site : Site := ⟨some ⟨false, [], ⟨[]⟩⟩, ⟨[]⟩⟩

def listRequest : Http.Request := ⟨"GET", "/api/v1/workspaces/w/tasks", "filter_ids=7", [], []⟩

def listing : Listing := ⟨Gate.localUser, "w", ⟨1, 50⟩, [7], [], .empty⟩

theorem ofPath?_listRequest : Resource.ofPath? listRequest.path = some (.tasks "w") := by decide

theorem listing_listRequest : site.listing 0 listRequest "w" = .ok listing := by
  have hcaller : site.caller 0 listRequest = .ok Gate.localUser := rfl
  have hname : Route.workspaceOf "w" = .ok "w" := rfl
  have hq : TaskQuery.ofText listRequest.query = .ok ⟨⟨1, 50⟩, some "7", none, none⟩ := by cbv
  rw [Site.listing, hcaller, hname, hq]
  rfl

end Sample

namespace Site

variable {site : Site} {now : Int} {r : Http.Request} {name : String}

/-- **A request for tasks never falls back.**  A request of which no listing can be read touches
neither the store nor the cache.  Any other one asks for the tasks once, with the filter of the
rows that were found for its own user, if the user was found to be a member and to own every
wanted filter and the rows were found; and it does not ask for them if anything of this was not
found.  Nothing is fetched from the store before membership and ownership were found.  The answer
is the problem of the first exchange that stops the listing, and the page of the tasks otherwise;
a fetch that fails in whatever way is an internal problem. -/
theorem answer_listing (hget : r.method = "GET")
    (hpath : Resource.ofPath? r.path = some (.tasks name)) {σ : Type}
    (perform : (e : ServiceStep) → σ → e.Reply × σ) (s : σ) :
    let log : ServiceLog := (site.answer now r).log perform s
    let response := ((site.answer now r).run perform s).1
    (∀ p, site.listing now r name = .error p →
      log = [] ∧ response = site.origins.annotate r (ofProblem p)) ∧
    ∀ l, site.listing now r name = .ok l →
      l.ReadFrom site now r name ∧
      (∀ rows, log.HasMember l.workspace l.user → log.HasOwner l.workspace l.user l.ids →
        log.HasRows l.ids rows →
        log.filterMap Exchange.listing? = [(l.workspace, l.page, l.query.compile rows)]) ∧
      (log.filterMap Exchange.listing? ≠ [] → log.HasMember l.workspace l.user ∧
        log.HasOwner l.workspace l.user l.ids ∧ ∃ rows, log.HasRows l.ids rows) ∧
      (∀ ids reply, Exchange.store (.fetchRows ids) reply ∈ log →
        log.HasMember l.workspace l.user ∧ log.HasOwner l.workspace l.user l.ids) ∧
      (∀ p, log.findSome? Exchange.refusal? = some p →
        response = site.origins.annotate r (ofProblem p)) ∧
      (∀ ids e, Exchange.store (.fetchRows ids) (.error e) ∈ log → response.status = 500 ∧
        ∃ message, response = site.origins.annotate r (ofProblem (.internal message))) ∧
      (log.findSome? Exchange.refusal? = none → ∃ f found,
        Exchange.store (.listTasks l.workspace l.page f) (.ok found) ∈ log ∧
          response = site.origins.annotate r
            (.json 200 (Handler.taskPage l.page found.1 found.2))) := by
  constructor
  · intro p hp
    rw [answer_eq (.inl hget), inner_listing (.inl hget) hpath, hp]
    unfold forMethod
    rw [hget]
    exact ⟨rfl, rfl⟩
  · intro l hl
    have hgoes := l.serve_goes perform s
    rw [log_answer (.inl hget) hpath hl, run_answer hget hpath hl]
    generalize l.serve.run.log perform s = log at hgoes ⊢
    generalize (l.serve.run.run perform s).1 = result at hgoes ⊢
    refine ⟨readFrom_of_listing hl, fun rows => hgoes.listings_of_cleared,
      hgoes.cleared_of_listings, fun ids reply => hgoes.passed_of_fetch, ?_, ?_, ?_⟩
    · intro p hp
      rw [hgoes.findSome?_refusal?] at hp
      cases result with
      | ok found => cases hp
      | error p' =>
        cases hp
        rfl
    · intro ids e hx
      rw [hgoes.eq_error_of_fetch hx]
      exact ⟨rfl, _, rfl⟩
    · intro hnone
      rw [hgoes.findSome?_refusal?] at hnone
      cases result with
      | ok found =>
        obtain ⟨f, hf⟩ := hgoes.mem_of_eq_ok rfl
        exact ⟨f, found, hf, rfl⟩
      | error p => cases hnone

/-- A member asks for the tasks of an own filter whose definition is lost. -/
theorem answer_listing_lost_rows :
    let response := ((Sample.site.answer 0 Sample.listRequest).run ServiceStep.lost ()).1
    Sample.listRequest.method = "GET" ∧
      Resource.ofPath? Sample.listRequest.path = some (.tasks "w") ∧ response.status = 500 ∧
      ∃ message, response =
        Sample.site.origins.annotate Sample.listRequest (ofProblem (.internal message)) := by
  intro response
  have hfetch : Exchange.store (.fetchRows (sortedIds [7])) (.error (.database .rowNotFound)) ∈
      (Sample.site.answer 0 Sample.listRequest).log ServiceStep.lost () := by
    rw [log_answer (.inl rfl) Sample.ofPath?_listRequest Sample.listing_listRequest]
    exact List.mem_of_getElem? (i := 3) rfl
  have h := (@answer_listing Sample.site 0 Sample.listRequest "w" rfl Sample.ofPath?_listRequest
    Unit ServiceStep.lost ()).2 Sample.listing Sample.listing_listRequest
  obtain ⟨-, -, -, -, -, hinternal, -⟩ := h
  obtain ⟨hstatus, hmessage⟩ := hinternal _ _ hfetch
  exact ⟨rfl, Sample.ofPath?_listRequest, hstatus, hmessage⟩

end Site

end TaskBoard
