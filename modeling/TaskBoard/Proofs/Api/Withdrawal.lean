import TaskBoard.Proofs.Api.Privacy
import TaskBoard.Proofs.Postgres.Lifetime

/-!
# A filter that is deleted while tasks are listed

A listing asks who owns its filters, and fetches their rows in another call.  A filter may be
deleted in between: then there are no rows of it, and tasks are listed as if it had not been
wanted.  Nothing else can take a wanted filter out of a listing.  Rows that another request has
kept in the cache are no exception, because it had asked for the owner, too, and because the number
of a filter that is gone is not given again.

    a filter that was owned and is missing was deleted          (Site.deleted_between)
    a listing misses no other filter                            (Site.deleted_of_missing)
    it can miss one                                             (Site.not_lists_all)
-/

namespace TaskBoard

open Postgres (Database Surroundings Tables)

/-! ## Requests -/

namespace Site

variable {site : Site} {time : Int} {r : Http.Request}

/-- A request for tasks of which a listing can be read. -/
structure Lists (site : Site) (time : Int) (r : Http.Request) (l : Listing) : Prop where
  method : r.method = "GET" ∨ r.method = "HEAD"
  listing : ∃ name, Resource.ofPath? r.path = some (.tasks name) ∧ site.listing time r name = .ok l

theorem Lists.answer_eq {l : Listing} (h : site.Lists time r l) :
    site.answer time r = l.serve.run.bind fun found =>
      .done (site.origins.annotate r (forMethod r (l.answer found))) := by
  obtain ⟨name, hpath, hl⟩ := h.listing
  rw [Site.answer_eq h.method, inner_listing h.method hpath, hl]
  exact Program.bind_assoc _ _ _

/-- A request is answered at once, asks whether the store is there, makes one guarded call about
filters, or is a listing. -/
theorem answer_cases (site : Site) (time : Int) (r : Http.Request) :
    (∃ a, site.answer time r = .done a) ∨
    (∃ f : Except StorageError (StoreCall.Reply .ping) → Http.Response,
      site.answer time r = .step (.store .ping) fun reply => .done (f reply)) ∨
    (∃ workspace user c answer, StoreCall.owner? c = some (workspace, user) ∧
      site.answer time r = Service.guarded workspace user c answer) ∨
    ∃ l, site.Lists time r l := by
  by_cases hmethod : r.method = "OPTIONS"
  · have hp : Http.Origins.isPreflight r = true := beq_iff_eq.2 hmethod
    refine .inl ⟨site.origins.preflight r, ?_⟩
    unfold answer
    rw [hp]
    rfl
  have hp : Http.Origins.isPreflight r = false := beq_eq_false_iff_ne.2 hmethod
  cases hpath : Resource.ofPath? r.path with
  | none =>
    refine .inl ⟨site.origins.annotate r (forMethod r (ofProblem (notFound r))), ?_⟩
    unfold answer inner
    rw [hp, hpath]
    rfl
  | some resource =>
    cases resource with
    | health =>
      unfold answer inner
      rw [hp, hpath]
      by_cases hm : (r.method == "GET" || r.method == "HEAD") = true
      · dsimp only
        rw [if_pos hm]
        exact .inr (.inl ⟨_, rfl⟩)
      · dsimp only
        rw [if_neg hm]
        exact .inl ⟨_, rfl⟩
    | tasks name =>
      by_cases hm : r.method = "GET" ∨ r.method = "HEAD"
      · cases hl : site.listing time r name with
        | ok l => exact .inr (.inr (.inr ⟨l, hm, name, hpath, hl⟩))
        | error p =>
          rw [Site.answer_eq hm, inner_listing hm hpath, hl]
          exact .inl ⟨_, rfl⟩
      · have hnone : Route.handler? (site.caller time r) r (.tasks name) = none := by
          unfold Route.handler?
          dsimp only
          split
          · next h => exact absurd (.inl h) hm
          · next h => exact absurd (.inr h) hm
          · rfl
        rw [answer_eq_of_path hpath nofun hmethod, hnone]
        cases site.turnsAway? time r with
        | some p => exact .inl ⟨_, rfl⟩
        | none => exact .inl ⟨_, rfl⟩
    | filters name =>
      rcases @servesOwn_answer site time r ⟨name, .inl hpath⟩ with hdone |
        ⟨workspace, user, -, -, hdone | ⟨c, answer, howner, -, hguarded⟩⟩
      · exact .inl hdone
      · exact .inl hdone
      · exact .inr (.inr (.inl ⟨workspace, user, c, answer, howner, hguarded⟩))
    | filter name id =>
      rcases @servesOwn_answer site time r ⟨name, .inr ⟨id, hpath⟩⟩ with hdone |
        ⟨workspace, user, -, -, hdone | ⟨c, answer, howner, -, hguarded⟩⟩
      · exact .inl hdone
      · exact .inl hdone
      · exact .inr (.inr (.inl ⟨workspace, user, c, answer, howner, hguarded⟩))

/-- A listing that has got so far goes one of its ways, whatever it is told next. -/
theorem Lists.goes {l : Listing} (hl : site.Lists time r l) {log : ServiceLog}
    {q : Service Http.Response} (h : (site.answer time r).After log q)
    (other : (e : ServiceStep) → e.Reply) :
    ∃ result, l.Goes (log ++ q.log (Program.replay other) []) result ∧
      (q.run (Program.replay other) []).1 =
        site.origins.annotate r (forMethod r (l.answer result)) := by
  rw [hl.answer_eq] at h
  obtain ⟨hlog, hrun⟩ := h.run_replay other []
  rw [Program.log_bind_done] at hlog
  rw [Program.run_bind] at hrun
  have hgoes := l.serve_goes (Program.replay other) (log ++ [])
  rw [hlog] at hgoes
  exact ⟨_, hgoes, congrArg Prod.fst hrun.symm⟩

/-- Rows are fetched by listings, of filters that the user was found to own. -/
theorem owner_of_fetch {log : ServiceLog} {set : List Int}
    {next : Except StorageError (List FilterRow) → Service Http.Response}
    (h : (site.answer time r).After log (.step (.store (.fetchRows set)) next)) :
    ∃ l : Listing, set = sortedIds l.ids ∧ l.ids ≠ [] ∧
      log.HasOwner l.workspace l.user l.ids := by
  rcases answer_cases site time r with ⟨a, ha⟩ | ⟨f, hf⟩ |
    ⟨workspace, user, c, answer, howner, hguarded⟩ | ⟨l, hl⟩
  · rw [ha] at h
    cases h.of_done.2
  · rw [hf] at h
    rcases h.of_step with ⟨-, hstep⟩ | ⟨reply, rest, -, hrest⟩
    · cases hstep
    · cases hrest.of_done.2
  · rw [hguarded] at h
    cases Service.guarded_goes h with
    | member => cases howner
  · obtain ⟨result, hgoes, -⟩ := hl.goes h fun e => (e.lost ()).1
    exact ⟨l, hgoes.owner_before_fetch⟩

/-- A listing that is answered with status 200 has listed tasks. -/
theorem listed_of_done {l : Listing} (hl : site.Lists time r l) {log : ServiceLog}
    {response : Http.Response} (h : (site.answer time r).After log (.done response))
    (hstatus : response.status = 200) :
    log.HasOwner l.workspace l.user l.ids ∧ ∃ rows found, log.HasRows l.ids rows ∧
      .store (.listTasks l.workspace l.page (l.query.compile rows)) (.ok found) ∈ log := by
  obtain ⟨result, hgoes, hresponse⟩ := hl.goes h fun e => (e.lost ()).1
  change l.Goes (log ++ []) result at hgoes
  change response = _ at hresponse
  rw [List.append_nil] at hgoes
  cases result with
  | ok found =>
    obtain ⟨howner, rows, hrows, hlisted⟩ := hgoes.listed_of_ok
    exact ⟨howner, rows, found, hrows, hlisted⟩
  | error p =>
    rw [hresponse] at hstatus
    have hp : (forMethod r (ofProblem p)).status = 200 := hstatus
    unfold forMethod at hp
    split at hp
    · cases p <;> cases hp
    · cases p <;> cases hp

/-! ## Runs -/

variable {w : Surroundings} {b : Backend Database} {requests : List (Int × Http.Request)}
  {turns later : List Turn} {i : Nat} {workspace user : String} {id : Int}

/-- A step that can be done is one of a request. -/
theorem exists_request {q : Service Http.Response}
    (h : (site.serveAll w b requests turns).running[i]? = some q) :
    ∃ time r, requests[i]? = some (time, r) ∧
      (site.answer time r).After ((site.serveAll w b requests turns).history.of i) q := by
  have hlt : i < requests.length := by
    have hlength := (List.getElem?_eq_some_iff.1 h).1
    rw [serveAll, Overlap.length_running_run] at hlength
    exact hlength.trans_eq (List.length_map _)
  have hi : requests[i]? = some (requests[i].1, requests[i].2) := List.getElem?_eq_getElem hlt
  exact ⟨_, _, hi, after_of_running hi h⟩

/-- What lasts, a run keeps. -/
theorem keeps_serveAll {P : Database → Tables → Prop} (hP : Postgres.Lasting P)
    (later : List Turn)
    (h : P (site.serveAll w b requests turns).backend.store
      (site.serveAll w b requests turns).backend.store.tables) :
    P (site.serveAll w b requests (turns ++ later)).backend.store
      (site.serveAll w b requests (turns ++ later)).backend.store.tables := by
  rw [serveAll_append]
  exact Overlap.store_run (I := fun d : Database => P d d.tables)
    (fun c _ hd => Database.keeps_call hP c hd) later h

/-- A filter that is not there any more has been deleted in between. -/
theorem deleted_of_lost (hhas : (site.serveAll w b requests turns).backend.store.tables.Has
      workspace user id)
    (hlost : ¬ (site.serveAll w b requests (turns ++ later)).backend.store.tables.Has
      workspace user id) :
    ∃ k j, (site.serveAll w b requests turns).history.length ≤ k ∧
      (site.serveAll w b requests (turns ++ later)).history[k]? =
        some (j, .store (.deleteFilter workspace user id) (.ok true)) := by
  induction later using List.reverseRecOn with
  | nil =>
    rw [List.append_nil] at hlost
    exact absurd hhas hlost
  | append_singleton later t ih =>
    rw [← List.append_assoc, serveAll_concat] at hlost ⊢
    by_cases hthere : (site.serveAll w b requests (turns ++ later)).backend.store.tables.Has
        workspace user id
    · -- it was there up to this turn, which is the one that deletes it
      rcases (site.serveAll w b requests (turns ++ later)).turn_cases t with
        ⟨j, e, next, rfl, hj⟩ | ⟨hstore, -⟩
      · rw [Overlap.turn_of_step hj] at hlost ⊢
        cases e with
        | cache c => exact absurd hthere hlost
        | store c =>
          have hdeleted := (Database.has_call c hthere).resolve_left hlost
          refine ⟨_, j, (history_prefix_serveAll turns later).length_le, ?_⟩
          exact History.getElem?_length_add.trans (congrArg (fun x => some (j, x)) hdeleted)
      · rw [hstore] at hlost
        exact absurd hthere hlost
    · obtain ⟨k, j, hk, hdeleted⟩ := ih hthere
      rw [← serveAll_concat]
      exact ⟨k, j, hk, History.keep_prefix (history_prefix_serveAll _ [t]) hdeleted⟩

/-- What a user was told to own was there. -/
theorem has_of_owned {ids owned : List Int} {k : Nat}
    (h : (site.serveAll w b requests turns).history[k]? =
      some (i, .store (.ownedIds workspace user ids) (.ok owned))) (hid : id ∈ owned) :
    ∃ before later, turns = before ++ later ∧
      (site.serveAll w b requests before).history.length = k ∧
      (site.serveAll w b requests before).backend.store.tables.Has workspace user id := by
  obtain ⟨before, later, hturns, hdoes⟩ := Overlap.exists_turn h
  refine ⟨before, .step i :: later, hturns, hdoes.position, ?_⟩
  have hcall := hdoes.call_eq
  rcases Database.call_ownedIds w (site.serveAll w b requests before).backend.store workspace user
    ids with hok | ⟨e, herror, -⟩
  · obtain rfl := Except.ok.inj (hok.symm.trans hcall)
    exact Tables.has_of_mem_ownedAmong hid
  · cases herror.symm.trans hcall

/-- Where a filter is missing among the rows that were fetched, it had been there and is gone. -/
theorem gone_of_fetched (hahead : b.store.Ahead b.store.tables) {ids : List Int}
    {rows : List FilterRow} {f : Nat} (h : (site.serveAll w b requests turns).history[f]? =
      some (i, .store (.fetchRows (sortedIds ids)) (.ok rows)))
    (hid : id ∈ ids) (hrows : ∀ row ∈ rows, row.filterId ≠ id) :
    ∃ before later, turns = before ++ later ∧
      (site.serveAll w b requests before).history.length = f ∧
      (site.serveAll w b requests before).backend.store.Gone
        (site.serveAll w b requests before).backend.store.tables id := by
  obtain ⟨before, later, hturns, hdoes⟩ := Overlap.exists_turn h
  refine ⟨before, .step i :: later, hturns, hdoes.position, ?_, ?_⟩
  · -- the request that fetched was itself told that the user owns the filter
    obtain ⟨next, hnext⟩ := hdoes.running
    obtain ⟨time, r, -, hafter⟩ := exists_request hnext
    obtain ⟨l, hset, hne, howner⟩ := owner_of_fetch hafter
    obtain ⟨owned, hmem, hall⟩ := howner.resolve_left hne
    obtain ⟨k, hk⟩ := List.getElem?_of_mem (History.mem_of.1 hmem)
    have hown : id ∈ owned := hall id (mem_sortedIds.1 (hset ▸ mem_sortedIds.2 hid))
    obtain ⟨first, middle, rfl, -, hhas⟩ := has_of_owned hk hown
    have hfirst : (site.serveAll w b requests first).backend.store.Ahead
        (site.serveAll w b requests first).backend.store.tables :=
      @keeps_serveAll site w b requests [] _ Postgres.lasting_ahead first hahead
    exact keeps_serveAll (Postgres.lasting_given id) middle (hfirst.1 id hhas.mem_ids)
  · intro hthere
    have hcall := hdoes.call_eq
    rcases Database.call_fetchRows w (site.serveAll w b requests before).backend.store
      (sortedIds ids) with hok | ⟨e, herror, -⟩
    · obtain rfl := Except.ok.inj (hok.symm.trans hcall)
      obtain ⟨row, hrow, hrowid⟩ := Tables.exists_row hthere (mem_sortedIds.2 hid)
      exact hrows row hrow hrowid
    · cases herror.symm.trans hcall

/-- A filter that a user was told to own, and that is missing among rows that were fetched, was
deleted after the one and before the other. -/
theorem deleted_between (hahead : b.store.Ahead b.store.tables) {ids owned set : List Int}
    {rows : List FilterRow} {a f i' : Nat} (ha : (site.serveAll w b requests turns).history[a]? =
      some (i, .store (.ownedIds workspace user ids) (.ok owned))) (hown : id ∈ owned)
    (hf : (site.serveAll w b requests turns).history[f]? =
      some (i', .store (.fetchRows (sortedIds set)) (.ok rows)))
    (hid : id ∈ set) (hrows : ∀ row ∈ rows, row.filterId ≠ id) :
    ∃ k j, a < k ∧ k < f ∧ (site.serveAll w b requests turns).history[k]? =
      some (j, .store (.deleteFilter workspace user id) (.ok true)) := by
  obtain ⟨before, later, hturns, hlength, hhas⟩ := has_of_owned ha hown
  obtain ⟨before', later', hturns', hlength', hgone⟩ := gone_of_fetched hahead hf hid hrows
  rcases Nat.lt_trichotomy a f with haf | rfl | hfa
  · obtain ⟨middle, rfl⟩ : ∃ middle, before' = before ++ middle :=
      Overlap.later_of_lt hturns hturns' (hlength.trans_lt (haf.trans_eq hlength'.symm))
    obtain ⟨k, j, hk, hdeleted⟩ := deleted_of_lost hhas fun h => hgone.2 h.mem_ids
    have hdeleted' : (site.serveAll w b requests turns).history[k]? =
        some (j, .store (.deleteFilter workspace user id) (.ok true)) := by
      rw [hturns']
      exact History.keep_prefix (history_prefix_serveAll _ later') hdeleted
    refine ⟨k, j, Nat.lt_of_le_of_ne (hlength.symm.trans_le hk) ?_, ?_, hdeleted'⟩
    · rintro rfl
      cases congrArg (fun x => x.2.step) (Option.some.inj (ha.symm.trans hdeleted'))
    · exact (History.lt_length hdeleted).trans_eq hlength'
  · cases congrArg (fun x => x.2.step) (Option.some.inj (ha.symm.trans hf))
  · -- what is gone at the fetch would be gone at the later question
    obtain ⟨middle, rfl⟩ : ∃ middle, before = before' ++ middle :=
      Overlap.later_of_lt hturns' hturns (hlength'.trans_lt (hfa.trans_eq hlength.symm))
    have hstill := keeps_serveAll (Postgres.lasting_gone id) middle hgone
    exact absurd hhas.mem_ids hstill.2

theorem sound_serveAll (d : Database) (ttl : Nat) (now : Int) :
    Overlap.Sound (site.serveAll w ⟨d, .empty ttl, now⟩ requests turns) := by
  refine (Overlap.sound_start _ (fun _ _ => FilterCache.not_holds_empty ttl) ?_).run turns
  intro p hp
  obtain ⟨r, -, rfl⟩ := List.mem_map.1 hp
  exact site.orderly_answer r.1 r.2

/-- **A wanted filter that is missing was deleted meanwhile.**  Requests overlap in any way over a
database, with an empty cache to begin with.  A listing that is answered with status 200 has listed
tasks with the filter that compiles from rows that were found for it.  If there is no row of a
wanted filter among them, then this filter was deleted after the listing had found it to be the
user's own, and before the rows were fetched. -/
theorem deleted_of_missing (site : Site) (w : Surroundings) (d : Database) (ttl : Nat) (now : Int)
    (requests : List (Int × Http.Request)) (turns : List Turn) (i : Nat) (time : Int)
    (r : Http.Request) (l : Listing) (response : Http.Response) (hahead : d.Ahead d.tables)
    (hi : requests[i]? = some (time, r)) (hl : site.Lists time r l)
    (hdone : (site.serveAll w ⟨d, .empty ttl, now⟩ requests turns).running[i]? =
      some (.done response)) (hstatus : response.status = 200) :
    let history : History := (site.serveAll w ⟨d, .empty ttl, now⟩ requests turns).history
    ∃ rows found, ServiceLog.HasRows (history.of i) l.ids rows ∧
      (i, .store (.listTasks l.workspace l.page (l.query.compile rows)) (.ok found)) ∈ history ∧
      ∀ id ∈ l.ids, (∃ row ∈ rows, row.filterId = id) ∨
        ∃ (a k f i' j : Nat) (owned : List Int), a < k ∧ k < f ∧
        history[a]? = some (i, .store (.ownedIds l.workspace l.user l.ids) (.ok owned)) ∧
        id ∈ owned ∧
        history[k]? = some (j, .store (.deleteFilter l.workspace l.user id) (.ok true)) ∧
        history[f]? = some (i', .store (.fetchRows (sortedIds l.ids)) (.ok rows)) := by
  intro history
  obtain ⟨howner, rows, found, hrows, hlisted⟩ :=
    listed_of_done hl (after_of_running hi hdone) hstatus
  refine ⟨rows, found, hrows, History.mem_of.1 hlisted, fun id hid => ?_⟩
  by_cases hrow : ∃ row ∈ rows, row.filterId = id
  · exact .inl hrow
  have hmissing : ∀ row ∈ rows, row.filterId ≠ id := fun row hmem heq => hrow ⟨row, hmem, heq⟩
  have hne := List.ne_nil_of_mem hid
  obtain ⟨owned, howned, hall⟩ := howner.resolve_left hne
  obtain ⟨a, ha⟩ := List.getElem?_of_mem (History.mem_of.1 howned)
  -- the rows were fetched by this request, or by one that kept them for it
  obtain ⟨f, i', hf⟩ : ∃ f i' : Nat, history[f]? =
      some (i', .store (.fetchRows (sortedIds l.ids)) (.ok rows)) := by
    rcases hrows with ⟨hnil, -⟩ | hget | hfetch
    · exact absurd hnil hne
    · obtain ⟨g, hg⟩ := List.getElem?_of_mem (History.mem_of.1 hget)
      obtain ⟨i', f, p, hkept⟩ := (sound_serveAll d ttl now).found g i l.ids rows hg
      exact ⟨f, i', hkept.fetched⟩
    · obtain ⟨f, hf⟩ := List.getElem?_of_mem (History.mem_of.1 hfetch)
      exact ⟨f, i, hf⟩
  obtain ⟨k, j, hak, hkf, hdeleted⟩ := deleted_between hahead ha (hall id hid) hf hid hmissing
  exact .inr ⟨a, k, f, i', j, owned, hak, hkf, ha, hall id hid, hdeleted, hf⟩

end Site

/-! ## A filter that is deleted while tasks are listed -/

namespace Sample

variable (f : Except Problem (List Task × Nat) → Http.Response)
  (g : Except Problem (StoreCall.Reply (.deleteFilter "w" Gate.localUser 7)) → Http.Response)

/-- What is done with the rows of the listing. -/
def withRows (loaded : Except StorageError (List FilterRow)) : Service Http.Response :=
  Program.bind (ExceptT.bindCont listing.tasks
    ((loaded.map listing.query.compile).mapError fun _ => .filtersNotLoaded))
    fun found => .done (f found)

theorem compile_bind :
    ((Handler.compile listing.query >>= listing.tasks).run.bind fun found => .done (f found)) =
      (Service.loadRows [7]).bind (withRows f) := by
  show Program.bind (Program.bind (Program.bind (Program.bind _ _) _) _) _ = _
  rw [Program.bind_assoc, Program.bind_assoc, Program.bind_assoc]
  rfl

/-- The listing does two steps. -/
def listTwice : List Turn := [.step 0, .step 0]

/-- The deletion does all of its steps. -/
def deleteAll : List Turn := [.step 1, .step 1, .step 1]

/-- The deletion comes between the question who owns the filter and the fetch of its rows. -/
def deletingTurns : List Turn := (listTwice ++ deleteAll) ++ (listTwice ++ listTwice)

/-- What happens up to the end of the deletion. -/
def deletedMeanwhile : History :=
  [(0, .store (.isMember "w" Gate.localUser) (.ok true)),
    (0, .store (.ownedIds "w" Gate.localUser [7]) (.ok [7])),
    (1, .store (.isMember "w" Gate.localUser) (.ok true)),
    (1, .store (.deleteFilter "w" Gate.localUser 7) (.ok true)),
    (1, .cache .clear ())]

theorem run_deletedMeanwhile :
    ∃ d q, d.tables = Postgres.Sample.tables.deleteFilter "w" Gate.localUser 7 ∧
      (Overlap.start backend [listing.serve.run.bind fun found => .done (f found),
          Service.guarded "w" Gate.localUser (.deleteFilter "w" Gate.localUser 7) g]).run
        (Database.call .calm) (listTwice ++ deleteAll) =
        ⟨⟨d, .empty 300000, 0⟩,
          [(Handler.compile listing.query >>= listing.tasks).run.bind fun found => .done (f found),
            q], deletedMeanwhile⟩ :=
  ⟨_, _, rfl, rfl⟩

/-- What happens after it in the listing. -/
def listedWithout (found : List Task × Nat) : History :=
  [(0, .cache (.get [7]) none), (0, .store (.fetchRows (sortedIds [7])) (.ok [])),
    (0, .cache (.set (sortedIds [7]) []) ()),
    (0, .store (.listTasks "w" ⟨1, 50⟩ (listing.query.compile [])) (.ok found))]

theorem run_listedWithout (d : Database) (q : Service Http.Response) (h : History)
    (hrows : (d.call .calm (.fetchRows (sortedIds [7]))).1 = .ok []) :
    let o := (Overlap.mk ⟨d, .empty 300000, 0⟩ [(Service.loadRows [7]).bind (withRows f), q] h).run
      (Database.call .calm) (listTwice ++ listTwice)
    ∃ found, o.running[0]? = some (.done (f (.ok found))) ∧ o.history = h ++ listedWithout found := by
  have hfetch : (Overlap.mk ⟨d, .empty 300000, 0⟩
      [(Service.loadRows [7]).bind (withRows f), q] h).run (Database.call .calm) listTwice =
        ⟨⟨(d.call .calm (.fetchRows (sortedIds [7]))).2, .empty 300000, 0⟩,
          [(Service.afterFetch [7] (d.call .calm (.fetchRows (sortedIds [7]))).1).bind (withRows f),
            q],
          (h.add 0 (.cache (.get [7]) none)).add 0
            (.store (.fetchRows (sortedIds [7])) (d.call .calm (.fetchRows (sortedIds [7]))).1)⟩ := by
    rw [Service.loadRows_bind (List.cons_ne_nil _ _)]
    rfl
  rw [Overlap.run_append, hfetch, hrows]
  refine ⟨([], 0), rfl, ?_⟩
  show (((History.add h 0 _).add 0 _).add 0 _).add 0 _ = _
  simp only [History.add, List.append_assoc, List.cons_append, List.nil_append]
  rfl

theorem lists_listRequest : site.Lists 0 listRequest listing :=
  ⟨.inl rfl, "w", ofPath?_listRequest, listing_listRequest⟩

/-- The listing is answered, without the filter. -/
theorem run_deletingTurns :
    let o := site.serveAll .calm backend [(0, listRequest), (0, deleteRequest)] deletingTurns
    ∃ response found, o.running[0]? = some (.done response) ∧ response.status = 200 ∧
      o.history = deletedMeanwhile ++ listedWithout found := by
  unfold Site.serveAll Overlap.ofRequests deletingTurns
  rw [List.map_cons, List.map_cons, List.map_nil, lists_listRequest.answer_eq,
    answer_deleteRequest, Overlap.run_append]
  obtain ⟨d, q, htables, hrun⟩ := run_deletedMeanwhile
    (fun found => site.origins.annotate listRequest
      (Site.forMethod listRequest (listing.answer found)))
    (fun found => site.origins.annotate deleteRequest
      (Handler.orProblem (Handler.filterDeleted 7) found))
  have hrows : (d.call .calm (.fetchRows (sortedIds [7]))).1 = .ok [] := by
    rcases d.call_fetchRows .calm (sortedIds [7]) with hok | ⟨e, -, n, fault, hrefused⟩
    · have hset : sortedIds [7] = [7] := sortedIds_eq_self (List.pairwise_singleton _ _)
      rw [hok, htables, hset, Tables.rowsOf]
      have hnone : (Tables.filters (Postgres.Sample.tables.deleteFilter "w" Gate.localUser 7)).filter
          (fun h => [7].contains h.id) = [] := rfl
      rw [hnone, List.mergeSort_nil]
      rfl
    · cases hrefused
  rw [hrun, compile_bind]
  obtain ⟨found, hdone, hhistory⟩ := run_listedWithout _ d q deletedMeanwhile hrows
  exact ⟨_, found, hdone, rfl, hhistory⟩

/-- The listing has found no rows. -/
theorem eq_nil_of_hasRows {found : List Task × Nat} {rows : List FilterRow}
    (h : ServiceLog.HasRows (History.of (deletedMeanwhile ++ listedWithout found) 0) [7] rows) :
    rows = [] := by
  have hlog : History.of (deletedMeanwhile ++ listedWithout found) 0 =
      [.store (.isMember "w" Gate.localUser) (.ok true),
        .store (.ownedIds "w" Gate.localUser [7]) (.ok [7]), .cache (.get [7]) none,
        .store (.fetchRows (sortedIds [7])) (.ok []), .cache (.set (sortedIds [7]) []) (),
        .store (.listTasks "w" ⟨1, 50⟩ (listing.query.compile [])) (.ok found)] := rfl
  rw [hlog] at h
  simp only [ServiceLog.HasRows, List.mem_cons, List.not_mem_nil, or_false] at h
  rcases h with ⟨hnil, -⟩ | hx | hx
  · cases hnil
  · rcases hx with hx | hx | hx | hx | hx | hx <;> cases congrArg Exchange.step hx
    cases Exchange.cache_inj.1 hx
  · rcases hx with hx | hx | hx | hx | hx | hx <;> cases congrArg Exchange.step hx
    exact Except.ok.inj (Exchange.store_inj.1 hx)

end Sample

namespace Site

/-- The wanted filter is missing, and it was deleted meanwhile. -/
theorem deleted_of_missing_sample :
    let o := Sample.site.serveAll .calm Sample.backend
      [(0, Sample.listRequest), (0, Sample.deleteRequest)] Sample.deletingTurns
    Postgres.Sample.database.Ahead Postgres.Sample.tables ∧
      Sample.site.Lists 0 Sample.listRequest Sample.listing ∧
      (∃ response, o.running[0]? = some (.done response) ∧ response.status = 200) ∧
      ∃ (a k f i' j : Nat) (owned : List Int), a < k ∧ k < f ∧
        o.history[a]? = some (0, .store (.ownedIds "w" Gate.localUser [7]) (.ok owned)) ∧
        o.history[k]? = some (j, .store (.deleteFilter "w" Gate.localUser 7) (.ok true)) ∧
        o.history[f]? = some (i', .store (.fetchRows (sortedIds [7])) (.ok [])) := by
  intro o
  obtain ⟨response, found, hdone, hstatus, hhistory⟩ := Sample.run_deletingTurns
  obtain ⟨rows, -, hrows, -, hwanted⟩ := deleted_of_missing Sample.site .calm
    Postgres.Sample.database 300000 0 [(0, Sample.listRequest), (0, Sample.deleteRequest)]
    Sample.deletingTurns 0 0 Sample.listRequest Sample.listing response
    Postgres.Sample.ahead_database rfl Sample.lists_listRequest hdone hstatus
  have hhistory' : (Sample.site.serveAll .calm ⟨Postgres.Sample.database, .empty 300000, 0⟩
      [(0, Sample.listRequest), (0, Sample.deleteRequest)] Sample.deletingTurns).history =
        Sample.deletedMeanwhile ++ Sample.listedWithout found := hhistory
  rw [hhistory'] at hrows
  obtain rfl := Sample.eq_nil_of_hasRows hrows
  refine ⟨Postgres.Sample.ahead_database, Sample.lists_listRequest, ⟨response, hdone, hstatus⟩, ?_⟩
  rcases hwanted 7 (List.mem_singleton_self 7) with ⟨row, hrow, -⟩ |
    ⟨a, k, f, i', j, owned, hak, hkf, ha, -, hk, hf⟩
  · cases hrow
  · exact ⟨a, k, f, i', j, owned, hak, hkf, ha, hk, hf⟩

/-- **A listing can miss a filter.**  It is not so that a listing with status 200 has rows of every
wanted filter. -/
theorem not_lists_all : ¬ ∀ (site : Site) (w : Surroundings) (d : Database) (ttl : Nat) (now : Int)
    (requests : List (Int × Http.Request)) (turns : List Turn) (i : Nat) (time : Int)
    (r : Http.Request) (l : Listing) (response : Http.Response), d.Ahead d.tables →
    requests[i]? = some (time, r) → site.Lists time r l →
    (site.serveAll w ⟨d, .empty ttl, now⟩ requests turns).running[i]? = some (.done response) →
    response.status = 200 → ∀ rows, ServiceLog.HasRows
      ((site.serveAll w ⟨d, .empty ttl, now⟩ requests turns).history.of i) l.ids rows →
    ∀ id ∈ l.ids, ∃ row ∈ rows, row.filterId = id := by
  intro h
  obtain ⟨response, found, hdone, hstatus, hhistory⟩ := Sample.run_deletingTurns
  have hfetched : (0, .store (.fetchRows (sortedIds [7])) (.ok [])) ∈
      (Sample.site.serveAll .calm Sample.backend
        [(0, Sample.listRequest), (0, Sample.deleteRequest)] Sample.deletingTurns).history := by
    rw [hhistory]
    exact List.mem_append_right _ (.tail _ List.mem_cons_self)
  obtain ⟨row, hrow, -⟩ := h Sample.site .calm Postgres.Sample.database 300000 0
    [(0, Sample.listRequest), (0, Sample.deleteRequest)] Sample.deletingTurns 0 0
    Sample.listRequest Sample.listing response Postgres.Sample.ahead_database rfl
    Sample.lists_listRequest hdone hstatus [] (.inr (.inr (History.mem_of.2 hfetched))) 7
    (List.mem_singleton_self 7)
  cases hrow

end Site

end TaskBoard
