import TaskBoard.Proofs.Api.Listing
import TaskBoard.Proofs.Api.Orderly
import TaskBoard.Proofs.Storage.Cache
import TaskBoard.Storage.Board

/-!
# The cache does not show

While requests come one after the other, everything that the cache holds is what the store
would find now: loading puts in what was just found, and after each change everything is dropped.
So the answers are those of a service whose cache never finds anything, however long rows may
live, whenever the cache is swept and whatever the clock does.

    what is kept is what the store would find                   (Fresh)
    orderly requests agree on fresh caches                      (Orderly.agrees)
    a run does not depend on the cache                          (Site.run_fresh)
-/

namespace TaskBoard

/-- A store that always finds rows, and whose rows change only where a reply says so. -/
structure SteadyStore (σ : Type) where
  call : (c : StoreCall) → σ → Except StorageError c.Reply × σ
  /-- The rows that are found for some numbers. -/
  rows : σ → List Int → List FilterRow
  fetch : ∀ ids s, call (.fetchRows ids) s = (.ok (rows s ids), s)
  steady : ∀ c s, c.changed (call c s).1 = false → rows (call c s).2 = rows s

namespace SteadyStore

variable {σ : Type} (t : SteadyStore σ)

/-- What a step of a request does. -/
def perform : (e : ServiceStep) → Backend σ → e.Reply × Backend σ := Backend.perform t.call

/-- The rows of a set of filters that the store finds. -/
def found (s : σ) (ids : List Int) : List FilterRow :=
  if ids = [] then [] else t.rows s (sortedIds ids)

/-- Whatever the cache holds, the store would find now. -/
def Fresh (b : Backend σ) : Prop :=
  ∀ ids rows, b.cache.Holds ids rows → rows = t.rows b.store (sortedIds ids)

/-- What is there after a call, and after the cache was dropped if the call changed a filter. -/
def settled (c : StoreCall) (b : Backend σ) : Backend σ where
  store := (t.call c b.store).2
  cache := if c.changed (t.call c b.store).1 then b.cache.clear else b.cache
  now := b.now

end SteadyStore

/-- Whether an exchange shows outside: fetches and the cache do not. -/
def Exchange.isOpen (x : Exchange ServiceStep.Reply) : Bool :=
  match x.step with
  | .store (.fetchRows _) => false
  | .store _ => true
  | .cache _ => false

/-- Whether an exchange changed a filter. -/
def Exchange.changed : Exchange ServiceStep.Reply → Bool
  | ⟨.store c, reply⟩ => c.changed reply
  | ⟨.cache _, _⟩ => false

/-- What happens to a service. -/
inductive SiteEvent
  /-- A request arrives at a time, in seconds. -/
  | request (time : Int) (r : Http.Request)
  | sweep
  /-- The clock of the cache is set. -/
  | clock (now : Int)

/-- A request that was answered: its answer, and the calls of the store for it. -/
structure Served where
  answer : Http.Response
  calls : ServiceLog

namespace Site

variable {σ : Type} (site : Site) (t : SteadyStore σ)

/-- Answers a request. -/
def serve (time : Int) (r : Http.Request) (b : Backend σ) : Served × Backend σ :=
  let p := site.answer time r
  (⟨(p.run t.perform b).1, (p.log t.perform b).filter Exchange.isOpen⟩, (p.run t.perform b).2)

/-- All requests that were answered, and what is there afterwards. -/
def run : List SiteEvent → Backend σ → List Served × Backend σ
  | [], b => ([], b)
  | .request time r :: events, b =>
    let (served, b') := site.serve t time r b
    let (rest, last) := run events b'
    (served :: rest, last)
  | .sweep :: events, b => run events { b with cache := b.cache.sweep b.now }
  | .clock now :: events, b => run events { b with now := now }

end Site

/-! ## Lemmas -/

namespace SteadyStore

variable {σ : Type} {t : SteadyStore σ} {b : Backend σ}

variable (t) in
theorem fresh_empty (s : σ) (ttl : Nat) (now : Int) : t.Fresh ⟨s, .empty ttl, now⟩ :=
  fun _ _ h => absurd h (FilterCache.not_holds_empty ttl)

theorem Fresh.sweep (h : t.Fresh b) : t.Fresh { b with cache := b.cache.sweep b.now } :=
  fun ids rows hheld => h ids rows hheld.of_sweep

theorem Fresh.set (h : t.Fresh b) (ids : List Int) :
    t.Fresh { b with
      cache := b.cache.set b.now (sortedIds ids) (t.rows b.store (sortedIds ids)) } := by
  intro other rows hheld
  rcases hheld.of_set with ⟨hsame, rfl⟩ | hheld
  · rw [hsame, sortedIds_sortedIds]
  · exact h other rows hheld

/-- A settled call leaves a fresh cache. -/
theorem Fresh.settled (h : t.Fresh b) (c : StoreCall) : t.Fresh (t.settled c b) := by
  intro ids rows hheld
  cases hc : c.changed (t.call c b.store).1 with
  | true =>
    have hcache : (t.settled c b).cache = b.cache.clear := if_pos hc
    rw [hcache] at hheld
    exact absurd hheld FilterCache.not_holds_clear
  | false =>
    have hcache : (t.settled c b).cache = b.cache := if_neg (by simp [hc])
    rw [hcache] at hheld
    show rows = t.rows (t.call c b.store).2 (sortedIds ids)
    rw [t.steady c b.store hc]
    exact h ids rows hheld

/-- From a fresh cache, the rows are loaded that the store finds. -/
theorem Fresh.loadRows (h : t.Fresh b) (ids : List Int) :
    ∃ b', (Service.loadRows ids).run t.perform b = (.ok (t.found b.store ids), b') ∧
      b'.store = b.store ∧ t.Fresh b' ∧
      ((Service.loadRows ids).log t.perform b).filter Exchange.isOpen = [] := by
  unfold found
  by_cases hids : ids = []
  · subst hids
    exact ⟨b, rfl, rfl, h, rfl⟩
  have hget : t.perform (.cache (.get ids)) b = (b.cache.get? b.now ids, b) := rfl
  rw [Service.loadRows_of_ne_nil hids, if_neg hids, Program.run, Program.log, hget]
  cases hkept : b.cache.get? b.now ids with
  | some rows =>
    obtain rfl := h ids rows (FilterCache.holds_of_get? hkept)
    exact ⟨b, rfl, rfl, h, rfl⟩
  | none =>
    let fetch : ServiceStep := .store (.fetchRows (sortedIds ids))
    have hfetch : t.perform fetch b = (.ok (t.rows b.store (sortedIds ids)), b) := by
      show (_, { b with store := _ }) = _
      rw [t.fetch]
    refine ⟨_, ?_, ?_, h.set ids, ?_⟩
    · show (Service.afterFetch ids (t.perform fetch b).1).run t.perform (t.perform fetch b).2 = _
      rw [hfetch]
      rfl
    · rfl
    · show List.filter _ (_ :: _ ::
        (Service.afterFetch ids (t.perform fetch b).1).log t.perform (t.perform fetch b).2) = []
      rw [hfetch]
      rfl

end SteadyStore

namespace Service

variable {σ α : Type} {t : SteadyStore σ} {c : StoreCall}
  {next rest : Except StorageError c.Reply → Service α}

theorem run_call (hnext : ∀ reply, next reply = settle c reply (rest reply)) (b : Backend σ) :
    Program.run t.perform (.step (.store c) next) b =
      (rest (t.call c b.store).1).run t.perform (t.settled c b) := by
  show (next (t.call c b.store).1).run t.perform _ = _
  rw [hnext]
  unfold settle SteadyStore.settled
  split <;> rfl

theorem log_call (hnext : ∀ reply, next reply = settle c reply (rest reply)) (b : Backend σ) :
    (Program.log t.perform (.step (.store c) next) b).filter Exchange.isOpen =
      List.filter Exchange.isOpen [.store c (t.call c b.store).1] ++
        ((rest (t.call c b.store).1).log t.perform (t.settled c b)).filter Exchange.isOpen := by
  show List.filter _ ([.store c _] ++ (next (t.call c b.store).1).log t.perform _) = _
  rw [hnext, List.filter_append]
  unfold settle SteadyStore.settled
  split <;> rfl

/-- On fresh caches, an orderly request does not show what they hold. -/
theorem Orderly.agrees {p : Service α} (hp : Orderly p) {b b' : Backend σ} (hb : t.Fresh b)
    (hb' : t.Fresh b') (hs : b.store = b'.store) :
    (p.run t.perform b).1 = (p.run t.perform b').1 ∧
      (p.log t.perform b).filter Exchange.isOpen = (p.log t.perform b').filter Exchange.isOpen ∧
      t.Fresh (p.run t.perform b).2 ∧ t.Fresh (p.run t.perform b').2 ∧
      (p.run t.perform b).2.store = (p.run t.perform b').2.store := by
  induction hp generalizing b b' with
  | done a => exact ⟨rfl, rfl, hb, hb', hs⟩
  | @load ids next h ih =>
    obtain ⟨c, hrun, hstore, hc, hlog⟩ := hb.loadRows ids
    obtain ⟨c', hrun', hstore', hc', hlog'⟩ := hb'.loadRows ids
    rw [Program.run_bind, Program.run_bind, Program.log_bind, Program.log_bind, hrun, hrun',
      List.filter_append, List.filter_append, hlog, hlog', hs]
    exact ih _ hc hc' (hstore.trans (hs.trans hstore'.symm))
  | @call c next rest hc hnext h ih =>
    rw [run_call hnext, run_call hnext, log_call hnext, log_call hnext, hs]
    have hstore : (t.settled c b).store = (t.settled c b').store := by
      show (t.call c b.store).2 = (t.call c b'.store).2
      rw [hs]
    obtain ⟨hrun, hlog, hrest⟩ := ih _ (hb.settled c) (hb'.settled c) hstore
    exact ⟨hrun, congrArg _ hlog, hrest⟩

end Service

/-! ## Listings -/

theorem Admits.any_changed {workspace user : String} {log : ServiceLog}
    {verdict : Except Problem Unit} (h : Admits workspace user log verdict) :
    log.any Exchange.changed = false := by
  cases h <;> rfl

theorem Owns.any_changed {workspace user : String} {ids : List Int} {log : ServiceLog}
    {verdict : Except Problem Unit} (h : Owns workspace user ids log verdict) :
    log.any Exchange.changed = false := by
  cases h <;> rfl

theorem Loads.any_changed {ids : List Int} {log : ServiceLog}
    {loaded : Except StorageError (List FilterRow)} (h : Loads ids log loaded) :
    log.any Exchange.changed = false := by
  cases h <;> rfl

/-- A listing changes no filter. -/
theorem Listing.Goes.any_changed {l : Listing} {log : ServiceLog}
    {result : Except Problem (List Task × Nat)} (h : l.Goes log result) :
    log.any Exchange.changed = false := by
  cases h with
  | notAdmitted hm => exact hm.any_changed
  | notOwned hm ho => rw [List.any_append, hm.any_changed, ho.any_changed, Bool.or_false]
  | notLoaded hm ho hc =>
    rw [List.any_append, List.any_append, hm.any_changed, ho.any_changed, hc.any_changed]
    rfl
  | listed hm ho hc reply =>
    rw [List.any_append, List.any_append, List.any_append, hm.any_changed, ho.any_changed,
      hc.any_changed]
    cases reply <;> rfl

/-- The calls for tasks show outside. -/
theorem filterMap_listing?_filter (log : ServiceLog) :
    (log.filter Exchange.isOpen).filterMap Exchange.listing? =
      log.filterMap Exchange.listing? := by
  rw [List.filterMap_filter]
  apply List.filterMap_congr
  intro x _
  split
  · rfl
  · next hx =>
    obtain ⟨step, reply⟩ := x
    cases step with
    | cache d => rfl
    | store c => cases c <;> first | rfl | exact absurd rfl hx

namespace Site

variable {σ : Type} {site : Site} {t : SteadyStore σ}

theorem run_request (time : Int) (r : Http.Request) (events : List SiteEvent) (b : Backend σ) :
    site.run t (.request time r :: events) b =
      ((site.serve t time r b).1 :: (site.run t events (site.serve t time r b).2).1,
        (site.run t events (site.serve t time r b).2).2) := rfl

/-- Runs that start with fresh caches in front of the same store go on so. -/
theorem run_agrees (events : List SiteEvent) {b b' : Backend σ} (hb : t.Fresh b)
    (hb' : t.Fresh b') (hs : b.store = b'.store) :
    (site.run t events b).1 = (site.run t events b').1 ∧ t.Fresh (site.run t events b).2 := by
  induction events generalizing b b' with
  | nil => exact ⟨rfl, hb⟩
  | cons event events ih =>
    cases event with
    | request time r =>
      obtain ⟨hrun, hlog, hnext, hnext', hstore⟩ := (site.orderly_answer time r).agrees hb hb' hs
      obtain ⟨hrest, hlast⟩ := ih hnext hnext' hstore
      refine ⟨?_, hlast⟩
      show Served.mk _ _ :: _ = Served.mk _ _ :: _
      rw [hrun, hlog]
      exact congrArg _ hrest
    | sweep => exact ih hb.sweep hb'.sweep hs
    | clock now => exact ih hb hb' hs

/-- A cache whose rows may live for no time stays one. -/
theorem ttl_perform {b : Backend σ} (h : b.cache.ttl = 0) (e : ServiceStep) :
    (t.perform e b).2.cache.ttl = 0 := by
  cases e with
  | store c => exact h
  | cache c => cases c <;> exact h

theorem ttl_run (events : List SiteEvent) {b : Backend σ} (h : b.cache.ttl = 0) :
    (site.run t events b).2.cache.ttl = 0 := by
  induction events generalizing b with
  | nil => exact h
  | cons event events ih =>
    cases event with
    | request time r =>
      have hkeeps : ∀ e (b : Backend σ), b.cache.ttl = 0 → (t.perform e b).2.cache.ttl = 0 :=
        fun e b hb => ttl_perform hb e
      exact ih (Program.run_keeps hkeeps (site.answer time r) h)
    | sweep => exact ih h
    | clock now => exact ih h

/-- Nothing is ever found in such a cache. -/
theorem not_kept {α : Type} (p : Service α) {b : Backend σ} (h : b.cache.ttl = 0) (ids : List Int)
    (rows : List FilterRow) : Exchange.cache (.get ids) (some rows) ∉ p.log t.perform b := by
  intro hx
  obtain ⟨e, b', hb', heq⟩ := Program.exists_of_mem_log (I := fun b : Backend σ => b.cache.ttl = 0)
    (Q := fun _ => True) (fun e b hb _ => ttl_perform hb e) p h (fun _ _ => trivial) hx
  cases congrArg Exchange.step heq
  have hget : some rows = b'.cache.get? b'.now ids := Exchange.cache_inj.1 heq
  rw [FilterCache.get?_of_ttl_eq_zero hb'] at hget
  cases hget

/-- Where no filter is changed, all fetches find the same rows. -/
theorem eq_rows_of_fetch {α : Type} (p : Service α) {b : Backend σ}
    (hp : (p.log t.perform b).any Exchange.changed = false) {ids : List Int}
    {rows : List FilterRow}
    (hx : Exchange.store (.fetchRows ids) (.ok rows) ∈ p.log t.perform b) :
    rows = t.rows b.store ids := by
  have hkeeps : ∀ e (b' : Backend σ), t.rows b'.store = t.rows b.store →
      Exchange.changed ⟨e, (t.perform e b').1⟩ = false →
      t.rows (t.perform e b').2.store = t.rows b.store := by
    intro e b' hb' hkept
    cases e with
    | store c => exact (t.steady c b'.store hkept).trans hb'
    | cache c => exact hb'
  obtain ⟨e, b', hb', heq⟩ := Program.exists_of_mem_log
    (I := fun b' : Backend σ => t.rows b'.store = t.rows b.store)
    (Q := fun x => x.changed = false) hkeeps p rfl (by simpa using hp) hx
  cases congrArg Exchange.step heq
  have hreply : .ok rows = (t.call (.fetchRows ids) b'.store).1 := Exchange.store_inj.1 heq
  rw [t.fetch, hb'] at hreply
  exact Except.ok.inj hreply

/-- From a fresh cache, tasks are listed with the filter of the rows that the store finds. -/
theorem listings_of_fresh {b : Backend σ} (hb : t.Fresh b) {now : Int} {r : Http.Request}
    {name : String} {l : Listing} (hm : r.method = "GET" ∨ r.method = "HEAD")
    (hp : Resource.ofPath? r.path = some (.tasks name)) (hl : site.listing now r name = .ok l)
    {x : String × Page × CompiledFilter}
    (hx : x ∈ ((site.answer now r).log t.perform b).filterMap Exchange.listing?) :
    x = (l.workspace, l.page, l.query.compile (t.found b.store l.ids)) := by
  -- the run with an empty cache that never finds anything lists the same tasks
  let b₀ : Backend σ := ⟨b.store, .empty 0, b.now⟩
  obtain ⟨-, hopen, -⟩ := (site.orderly_answer now r).agrees hb (t.fresh_empty b.store 0 b.now) rfl
  rw [← filterMap_listing?_filter, hopen, filterMap_listing?_filter, log_answer hm hp hl] at hx
  have hgoes := l.serve_goes t.perform b₀
  obtain ⟨hmember, howner, rows, hrows⟩ := hgoes.cleared_of_listings (List.ne_nil_of_mem hx)
  have hfound :
      ServiceLog.HasRows (l.serve.run.log t.perform b₀) l.ids (t.found b.store l.ids) := by
    unfold SteadyStore.found
    by_cases hnil : l.ids = []
    · exact .inl ⟨hnil, if_pos hnil⟩
    rcases hrows with ⟨h, -⟩ | hget | hfetch
    · exact absurd h hnil
    · exact absurd hget (not_kept _ rfl _ _)
    · rw [if_neg hnil, ← eq_rows_of_fetch l.serve.run hgoes.any_changed hfetch]
      exact .inr (.inr hfetch)
  rw [hgoes.listings_of_cleared hmember howner hfound] at hx
  exact List.mem_singleton.1 hx

end Site

/-! ## Boards -/

namespace Board

/-- The rows of the filters with these numbers. -/
def rowsOf (b : Board) (ids : List Int) : List FilterRow :=
  (b.filters.filter fun f => ids.contains f.id).flatMap rows

/-- A filter that is not there is neither replaced nor deleted. -/
theorem filters_perform_of_not_changed (b : Board) (c : StoreCall)
    (h : c.changed (.ok (b.perform c).1) = false) : (b.perform c).2.filters = b.filters := by
  cases c with
  | createFilter => cases h
  | updateFilter workspace user id input =>
    cases hany : b.filters.any (isAt workspace user id) with
    | false =>
      have hperform : b.perform (.updateFilter workspace user id input) = (none, b) :=
        if_neg (by simp [hany])
      rw [hperform]
    | true =>
      have hreply : (b.perform (.updateFilter workspace user id input)).1 =
          some (b.saved workspace user id input) := congrArg Prod.fst (if_pos hany)
      rw [hreply] at h
      cases h
  | deleteFilter workspace user id =>
    cases hany : b.filters.any (isAt workspace user id) with
    | false =>
      refine List.filter_eq_self.2 fun f hf => ?_
      have hne : isAt workspace user id f = false := by simpa using List.any_eq_false.1 hany f hf
      rw [hne]
      rfl
    | true =>
      have hreply : (b.perform (.deleteFilter workspace user id)).1 = true := hany
      rw [hreply] at h
      cases h
  | _ => rfl

/-- A board whose calls never fail. -/
def steadyStore : SteadyStore Board where
  call c b := (.ok (b.perform c).1, (b.perform c).2)
  rows := rowsOf
  fetch _ _ := rfl
  steady c b h := by
    funext ids
    unfold rowsOf
    rw [b.filters_perform_of_not_changed c h]

end Board

/-! ## A board with one filter -/

namespace Sample

def board : Board where
  members := [("w", Gate.localUser)]
  tasks := []
  filters := [⟨7, Gate.localUser, "w", "old", none, "AND", false, ⟨0, 0⟩, []⟩]
  nextId := 8
  createdAt := ⟨0, 0⟩

/-- The filter gets another name. -/
def updateRequest : Http.Request where
  method := "PUT"
  path := "/api/v1/workspaces/w/filters/7"
  query := ""
  -- application/json
  headers := [("content-type",
    [97, 112, 112, 108, 105, 99, 97, 116, 105, 111, 110, 47, 106, 115, 111, 110])]
  -- an object whose name is "n"
  body := [123, 34, 110, 97, 109, 101, 34, 58, 34, 110, 34, 125]

def update : FilterRequest := ⟨"n", none, none, false, []⟩

theorem filterBody_updateRequest : Route.filterBody updateRequest = .ok update := by
  have hjson : Route.saysJson updateRequest = true := by cbv
  have hlength : ¬ Route.maxBody < updateRequest.body.length := by decide
  have hread : FilterRequest.ofBytes updateRequest.body = .ok update := by cbv
  rw [Route.filterBody, hjson, if_neg (by decide), if_neg hlength, hread]

theorem inner_updateRequest : site.inner 0 updateRequest =
    (Handler.updateFilter "w" Gate.localUser 7 update).answer := by
  have hpath : Resource.ofPath? updateRequest.path = some (.filter "w" "7") := by decide
  have hids : Route.filterOf "w" "7" = .ok ("w", 7) := rfl
  rw [Site.inner, hpath]
  show Handler.answer (do
    let user ← Handler.ofExcept (site.caller 0 updateRequest)
    let names ← Handler.ofExcept (Route.filterOf "w" "7")
    let request ← Handler.ofExcept (Route.filterBody updateRequest)
    Handler.updateFilter names.1 user names.2 request) = _
  rw [hids, filterBody_updateRequest]
  rfl

def input : FilterInput := ⟨"n", none, "AND", false, []⟩

def updated : SavedFilter := board.saved "w" Gate.localUser 7 input

def newBoard : Board := { board with filters := [updated] }

/-- The rows of the filter before the update. -/
def oldRows : List FilterRow := board.rowsOf (sortedIds [7])

theorem answer_listRequest :
    ∃ f : Except Problem (List Task × Nat) → Http.Response,
      site.answer 0 listRequest = listing.serve.run.bind fun found => .done (f found) := by
  refine ⟨fun found => site.origins.annotate listRequest
    (Site.forMethod listRequest (listing.answer found)), ?_⟩
  rw [Site.answer_eq (.inl rfl), Site.inner_listing (.inl rfl) ofPath?_listRequest,
    listing_listRequest]
  exact Program.bind_assoc _ _ _

theorem answer_updateRequest :
    ∃ f : Http.Response → Http.Response,
      site.answer 0 updateRequest =
        (Handler.updateFilter "w" Gate.localUser 7 update).answer.bind fun answer =>
          .done (f answer) := by
  refine ⟨fun answer =>
    site.origins.annotate updateRequest (Site.forMethod updateRequest answer), ?_⟩
  rw [← inner_updateRequest]
  rfl

theorem serve_listRequest (ttl : Nat) :
    (site.serve Board.steadyStore 0 listRequest ⟨board, .empty ttl, 0⟩).2 =
      ⟨board, (FilterCache.empty ttl).set 0 (sortedIds [7]) oldRows, 0⟩ := by
  obtain ⟨f, hf⟩ := answer_listRequest
  unfold Site.serve
  rw [hf]
  rfl

theorem serve_updateRequest (c : FilterCache) :
    (site.serve Board.steadyStore 0 updateRequest ⟨board, c, 0⟩).2 = ⟨newBoard, c.clear, 0⟩ := by
  obtain ⟨f, hf⟩ := answer_updateRequest
  unfold Site.serve
  rw [hf]
  rfl

theorem listings_listRequest (ttl : Nat) (now : Int) :
    ∃ x, ((site.answer 0 listRequest).log Board.steadyStore.perform
      ⟨newBoard, .empty ttl, now⟩).filterMap Exchange.listing? = [x] := by
  obtain ⟨f, hf⟩ := answer_listRequest
  rw [hf]
  exact ⟨_, rfl⟩

end Sample

namespace Site

variable {σ : Type}

/-- **The cache does not show.**  Requests, sweeps and settings of the clock come one after the
other, and the store is steady.  Then all answers and calls of the store, but for fetches, are
those of the same run whose cache never finds anything; and at each listing, tasks are listed with
the filter that compiles from the rows which the store finds at that time. -/
theorem run_fresh (site : Site) (t : SteadyStore σ) (ttl : Nat) (events : List SiteEvent) (s : σ)
    (now : Int) :
    let kept := site.run t events ⟨s, .empty ttl, now⟩
    let missed := site.run t events ⟨s, .empty 0, now⟩
    kept.1 = missed.1 ∧
    (∀ time r ids rows,
      Exchange.cache (.get ids) (some rows) ∉ (site.answer time r).log t.perform missed.2) ∧
    ∀ time r name l, (r.method = "GET" ∨ r.method = "HEAD") →
      Resource.ofPath? r.path = some (.tasks name) → site.listing time r name = .ok l →
      ∀ x ∈ ((site.answer time r).log t.perform kept.2).filterMap Exchange.listing?,
        x = (l.workspace, l.page, l.query.compile (t.found kept.2.store l.ids)) := by
  intro kept missed
  obtain ⟨hserved, hfresh⟩ : kept.1 = missed.1 ∧ t.Fresh kept.2 :=
    run_agrees events (t.fresh_empty s ttl now) (t.fresh_empty s 0 now) rfl
  refine ⟨hserved, fun time r => not_kept _ (ttl_run events rfl), ?_⟩
  intro time r name l hm hp hl x hx
  exact listings_of_fresh hfresh hm hp hl hx

/-- The filter of a board is used, replaced and used again. -/
theorem run_fresh_after_update :
    let events : List SiteEvent :=
      [.request 0 Sample.listRequest, .request 0 Sample.updateRequest, .clock 5, .sweep]
    let kept := Sample.site.run Board.steadyStore events ⟨Sample.board, .empty 300000, 0⟩
    let missed := Sample.site.run Board.steadyStore events ⟨Sample.board, .empty 0, 0⟩
    kept.1 = missed.1 ∧ kept.2.store = Sample.newBoard ∧
    ((Sample.site.answer 0 Sample.listRequest).log Board.steadyStore.perform kept.2).filterMap
        Exchange.listing? =
      [("w", ⟨1, 50⟩, Sample.listing.query.compile
        (Board.steadyStore.found Sample.newBoard [7]))] := by
  intro events kept missed
  obtain ⟨hserved, -, hlisted⟩ :=
    run_fresh Sample.site Board.steadyStore 300000 events Sample.board 0
  have hkept : kept.2 = ⟨Sample.newBoard, .empty 300000, 5⟩ := by
    show (Sample.site.run _ events _).2 = _
    rw [run_request, Sample.serve_listRequest, run_request, Sample.serve_updateRequest]
    rfl
  have hall : ∀ x ∈ ((Sample.site.answer 0 Sample.listRequest).log Board.steadyStore.perform
      kept.2).filterMap Exchange.listing?, x = ("w", ⟨1, 50⟩, Sample.listing.query.compile
        (Board.steadyStore.found kept.2.store [7])) :=
    hlisted 0 Sample.listRequest "w" Sample.listing (.inl rfl) Sample.ofPath?_listRequest
      Sample.listing_listRequest
  rw [hkept] at hall ⊢
  obtain ⟨x, hx⟩ := Sample.listings_listRequest 300000 5
  rw [hx] at hall ⊢
  exact ⟨hserved, rfl, congrArg (fun x => [x]) (hall x (List.mem_singleton_self x))⟩

end Site

end TaskBoard
