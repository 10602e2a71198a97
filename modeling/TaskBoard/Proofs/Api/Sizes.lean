import TaskBoard.Proofs.Api.FilterIds
import TaskBoard.Proofs.Api.SmallCalls
import TaskBoard.Proofs.Api.Withdrawal
import TaskBoard.Proofs.Postgres.Arguments

/-!
# How large a listing gets

A request may want so many saved filters and bring so many custom ones.  How large the saved ones
are was decided when they were saved, by another request and maybe long before; and their rows may
come out of the cache.  So what a listing binds is limited by all that was ever asked for, and not
by its own request alone.

    no filter that is there is large                            (Site.small_serveAll)
    a listing has the rows that were found for it               (Site.Lists.rows_of_listing)
    these rows are within limits                                (Site.rowsWithin_of_hasRows)
    a listing stays below the limit of the database             (Site.listing_within_limits)
-/

namespace TaskBoard

open Postgres (Database Surroundings Tables firstFilterSlot misaligned? selectTasks)

/-! ## Wanted filters -/

namespace TaskQuery

theorem length_idsOfText_le {s : String} {ids : List Int} (h : idsOfText s = .ok ids) :
    ids.length ≤ maxFilters := by
  obtain ⟨hfew, hspelled⟩ := idsOfText_eq_ok_iff.1 h
  exact hspelled.length_eq.symm.trans_le hfew

theorem length_ids_le {q : TaskQuery} {ids : List Int} (h : q.ids = .ok ids) :
    ids.length ≤ maxFilters := by
  unfold TaskQuery.ids at h
  split at h
  · cases h
    exact Nat.zero_le _
  · exact length_idsOfText_le h

theorem filtersOfText_within {s : String} {filters : List CustomFilter}
    (h : filtersOfText s = .ok filters) :
    filters.length ≤ maxFilters ∧ ∀ f ∈ filters, f.conditions.length ≤ maxConditions := by
  unfold filtersOfText at h
  dsimp only at h
  split at h
  · next filters' _ =>
    change (if maxFilters < filters'.length then _ else _) = _ at h
    split at h
    · cases h
    · split at h
      · cases h
      · next hcount hany =>
        cases h
        rw [List.any_eq_true, not_exists] at hany
        refine ⟨Nat.le_of_not_lt hcount, fun f hf => Nat.le_of_not_lt fun hlt => ?_⟩
        exact hany f ⟨hf, decide_eq_true hlt⟩
  · cases h

theorem filters_within {q : TaskQuery} {filters : List CustomFilter} (h : q.filters = .ok filters) :
    filters.length ≤ maxFilters ∧ ∀ f ∈ filters, f.conditions.length ≤ maxConditions := by
  unfold TaskQuery.filters at h
  split at h
  · cases h
    exact ⟨Nat.zero_le _, nofun⟩
  · exact filtersOfText_within h

end TaskQuery

/-! ## Rows of a listing -/

theorem RowsWithin.mono {n n' m : Nat} {rows : List FilterRow} (h : RowsWithin n m rows)
    (hn : n ≤ n') : RowsWithin n' m rows :=
  ⟨h.filters.trans hn, h.conditions⟩

theorem rowsWithin_nil (n m : Nat) : RowsWithin n m [] := ⟨Nat.zero_le n, nofun⟩

theorem length_sortedIds_le (ids : List Int) : (sortedIds ids).length ≤ ids.length := by
  have hnodup : (sortedIds ids).Nodup := (pairwise_sortedIds ids).imp fun h => h.ne
  exact (hnodup.subperm fun id hid => mem_sortedIds.1 hid).length_le

/-- A guarded call about filters lists no tasks. -/
theorem Service.GuardedGoes.filterMap_listing? {α : Type} {workspace user : String} {c : StoreCall}
    {answer : Except Problem c.Reply → α} {log : ServiceLog} {q : Service α}
    (h : Service.GuardedGoes workspace user c answer log q)
    (howner : c.owner? = some (workspace, user)) : log.filterMap Exchange.listing? = [] := by
  have hc : ∀ reply, (Exchange.store c reply).listing? = none := by
    intro reply
    cases c <;> first | rfl | cases howner
  cases h with
  | replied reply _ => exact List.filterMap_cons_none (hc reply)
  | clearing reply _ => exact List.filterMap_cons_none (hc reply)
  | cleared reply _ => exact List.filterMap_cons_none (hc reply)
  | _ => rfl

namespace Site

variable {site : Site} {w : Surroundings} {d : Database} {ttl : Nat} {now time : Int}
  {requests : List (Int × Http.Request)} {turns : List Turn} {i : Nat} {r : Http.Request}
  {l : Listing}

/-- Whatever was asked for, no filter is large. -/
theorem small_serveAll {b : Backend Database} (hd : b.store.tables.Small) (turns : List Turn) :
    (site.serveAll w b requests turns).backend.store.tables.Small := by
  refine (Overlap.run_of_calls (P := StoreCall.Small) (I := fun d : Database => d.tables.Small)
    (fun c d hc hd => Database.small_call hc hd) ?_ hd turns).2
  intro p hp
  obtain ⟨r, -, rfl⟩ := List.mem_map.1 hp
  exact site.calls_answer r.1 r.2

/-- A request that lists tasks is a listing. -/
theorem exists_lists {log : ServiceLog} {q : Service Http.Response}
    (h : (site.answer time r).After log q) (hne : log.filterMap Exchange.listing? ≠ []) :
    ∃ l, site.Lists time r l := by
  rcases answer_cases site time r with ⟨a, ha⟩ | ⟨f, hf⟩ |
    ⟨workspace, user, c, answer, howner, hguarded⟩ | hl
  · rw [ha] at h
    obtain ⟨rfl, -⟩ := h.of_done
    exact absurd rfl hne
  · rw [hf] at h
    rcases h.of_step with ⟨rfl, -⟩ | ⟨reply, rest, rfl, hrest⟩
    · exact absurd rfl hne
    · obtain ⟨rfl, -⟩ := hrest.of_done
      exact absurd rfl hne
  · rw [hguarded] at h
    exact absurd ((Service.guarded_goes h).filterMap_listing? howner) hne
  · exact hl

/-- A listing lists tasks with the filter of rows that were found for it. -/
theorem Lists.rows_of_listing (hl : site.Lists time r l) {log : ServiceLog}
    {q : Service Http.Response} (h : (site.answer time r).After log q) {workspace : String}
    {page : Page} {f : CompiledFilter}
    (hf : (workspace, page, f) ∈ log.filterMap Exchange.listing?) :
    ∃ rows, f = l.query.compile rows ∧ log.HasRows l.ids rows := by
  -- what may follow, with a store in which nothing can be found
  let other (e : ServiceStep) : e.Reply := (e.lost ()).1
  obtain ⟨result, hgoes, -⟩ := hl.goes h other
  have hlater : ∀ x ∈ q.log (Program.replay other) [], x.reply = other x.step := by
    intro x hx
    obtain ⟨e, s, rfl, rfl⟩ := Program.exists_of_mem_log (I := (· = [])) (Q := fun _ => True)
      (by rintro e s rfl -; rfl) q rfl (fun _ _ => trivial) hx
    rfl
  have hmem : (workspace, page, f) ∈
      (log ++ q.log (Program.replay other) []).filterMap Exchange.listing? := by
    rw [List.filterMap_append]
    exact List.mem_append_left _ hf
  obtain ⟨hmember, howner, rows, hrows⟩ := hgoes.cleared_of_listings (List.ne_nil_of_mem hmem)
  rw [hgoes.listings_of_cleared hmember howner hrows, List.mem_singleton] at hmem
  refine ⟨rows, (Prod.mk.inj (Prod.mk.inj hmem).2).2, hrows.imp_right (Or.imp ?_ ?_)⟩
  · exact fun hx => (List.mem_append.1 hx).resolve_right fun hx => nomatch hlater _ hx
  · exact fun hx => (List.mem_append.1 hx).resolve_right fun hx => nomatch hlater _ hx

/-- Rows that were found were fetched, maybe by another request. -/
theorem fetched_of_hasRows {ids : List Int} {rows : List FilterRow}
    (h : ServiceLog.HasRows
      ((site.serveAll w ⟨d, .empty ttl, now⟩ requests turns).history.of i) ids rows) :
    ids = [] ∧ rows = [] ∨ ∃ i', .store (.fetchRows (sortedIds ids)) (.ok rows) ∈
      (site.serveAll w ⟨d, .empty ttl, now⟩ requests turns).history.of i' := by
  rcases h with hnil | hget | hfetch
  · exact .inl hnil
  · obtain ⟨g, hg⟩ := List.getElem?_of_mem (History.mem_of.1 hget)
    obtain ⟨i', f, p, hkept⟩ := (sound_serveAll d ttl now).found g i ids rows hg
    exact .inr ⟨i', History.mem_of.2 (List.mem_of_getElem? hkept.fetched)⟩
  · exact .inr ⟨i, hfetch⟩

theorem rowsWithin_of_hasRows (hd : d.tables.Small) {ids : List Int} {rows : List FilterRow}
    (h : ServiceLog.HasRows
      ((site.serveAll w ⟨d, .empty ttl, now⟩ requests turns).history.of i) ids rows) :
    RowsWithin ids.length maxConditions rows := by
  rcases fetched_of_hasRows h with ⟨-, rfl⟩ | ⟨i', hfetch⟩
  · exact rowsWithin_nil _ _
  · obtain ⟨before, later, -, hcall⟩ := call_of_exchange hfetch
    have hsmall := @small_serveAll site w requests ⟨d, .empty ttl, now⟩ hd before
    rcases Database.call_fetchRows w
      (site.serveAll w ⟨d, .empty ttl, now⟩ requests before).backend.store (sortedIds ids) with
      hok | ⟨e, herror, -⟩
    · obtain rfl := Except.ok.inj (hok.symm.trans hcall)
      exact (hsmall.rowsWithin _).mono (length_sortedIds_le ids)
    · cases herror.symm.trans hcall

/-- A listing that was read from a request wants no more filters than a request may. -/
theorem Lists.within (hl : site.Lists time r l) :
    l.ids.length ≤ maxFilters ∧ l.filters.length ≤ maxFilters ∧
      ∀ f ∈ l.filters, f.conditions.length ≤ maxConditions := by
  obtain ⟨name, -, hlisting⟩ := hl.listing
  obtain ⟨q, -, -, hids, hfilters, -⟩ := (readFrom_of_listing hlisting).parameters
  exact ⟨TaskQuery.length_ids_le hids, TaskQuery.filters_within hfilters⟩

/-- What has been listed, by which request and with which rows. -/
theorem exists_listing {workspace : String} {page : Page} {f : CompiledFilter}
    {reply : Except StorageError (List Task × Nat)}
    (h : (i, .store (.listTasks workspace page f) reply) ∈
      (site.serveAll w ⟨d, .empty ttl, now⟩ requests turns).history) :
    ∃ time r l rows, requests[i]? = some (time, r) ∧ site.Lists time r l ∧
      f = l.query.compile rows ∧ ServiceLog.HasRows
        ((site.serveAll w ⟨d, .empty ttl, now⟩ requests turns).history.of i) l.ids rows := by
  obtain ⟨k, hk⟩ := List.getElem?_of_mem h
  obtain ⟨before, later, -, hdoes⟩ := Overlap.exists_turn hk
  obtain ⟨next, hnext⟩ := hdoes.running
  obtain ⟨time, r, hi, -⟩ := exists_request hnext
  obtain ⟨q, -, hafter⟩ :=
    @after_serveAll site w ⟨d, .empty ttl, now⟩ requests i time r hi turns
  have hlisted : (workspace, page, f) ∈ List.filterMap Exchange.listing?
      ((site.serveAll w ⟨d, .empty ttl, now⟩ requests turns).history.of i) :=
    List.mem_filterMap.2 ⟨_, History.mem_of.2 h, rfl⟩
  obtain ⟨l, hl⟩ := exists_lists hafter (List.ne_nil_of_mem hlisted)
  obtain ⟨rows, hf, hrows⟩ := hl.rows_of_listing hafter hlisted
  exact ⟨time, r, l, rows, hi, hl, hf, hrows⟩

/-- **A listing stays below the limit of the database.**  Requests overlap in any way over a
database in which no filter is large to begin with, and nothing else saves filters.  Whenever tasks
are listed, it is for a request for tasks, and its filter binds at most two values for each of
fifty conditions of each of fifty saved filters, and as many for the custom ones.  So the statement
has a value for each of its placeholders and none beyond `$10003`, while the database takes 65535;
and no index gets larger on the way, neither as the values are bound one after the other nor for
the two placeholders of the page. -/
theorem listing_within_limits (site : Site) (w : Surroundings) (d : Database) (ttl : Nat)
    (now : Int) (requests : List (Int × Http.Request)) (turns : List Turn)
    (hsmall : d.tables.Small) (i : Nat) (workspace : String) (page : Page) (f : CompiledFilter)
    (reply : Except StorageError (List Task × Nat))
    (h : (i, .store (.listTasks workspace page f) reply) ∈
      (site.serveAll w ⟨d, .empty ttl, now⟩ requests turns).history) :
    (∃ time r l rows, requests[i]? = some (time, r) ∧ site.Lists time r l ∧
      f = l.query.compile rows ∧
      f.values = (l.query.savedOnly.compile rows).values ++ (l.query.customOnly.compile []).values ∧
      (l.query.savedOnly.compile rows).values.length ≤ 2 * 50 * 50 ∧
      (l.query.customOnly.compile []).values.length ≤ 2 * 50 * 50) ∧
    misaligned? f = none ∧
    (selectTasks workspace f page).LinesUp ∧
    (selectTasks workspace f page).values.length ≤ 10003 ∧ 10003 < Numeral.maxUInt16 ∧
    (∀ n ∈ Sql.mentioned (selectTasks workspace f page).text, 1 ≤ n ∧ n ≤ 10003) ∧
    (∀ k, ((f.values.take k).foldl Sql.Slots.bind (.startingAt firstFilterSlot)).next ≤ 10002) ∧
    firstFilterSlot + f.values.length ≤ 10002 ∧ f.next + 1 ≤ 10003 := by
  obtain ⟨time, r, l, rows, hi, hl, rfl, hrows⟩ := exists_listing h
  obtain ⟨hids, hfilters, hconditions⟩ := hl.within
  have hsaved : (l.query.savedOnly.compile rows).values.length ≤ 2 * 50 * 50 :=
    Query.length_values_savedOnly ((rowsWithin_of_hasRows hsmall hrows).mono hids)
  have hcustom : (l.query.customOnly.compile []).values.length ≤ 2 * 50 * 50 :=
    Query.length_values_customOnly hfilters hconditions
  have hvalues := l.query.values_eq_append rows
  have hlength : (l.query.compile rows).values.length ≤ 10000 := by
    rw [hvalues, List.length_append]
    omega
  have hcount : (selectTasks workspace (l.query.compile rows) page).values.length ≤ 10003 := by
    rw [Postgres.length_selectTasks]
    omega
  have hlines : (selectTasks workspace (l.query.compile rows) page).LinesUp :=
    Postgres.selectTasks_linesUp rfl
  have hfirst : firstFilterSlot + (l.query.compile rows).values.length ≤ 10002 := by
    rw [firstFilterSlot]
    omega
  refine ⟨⟨time, r, l, rows, hi, hl, rfl, hvalues, hsaved, hcustom⟩,
    (Postgres.misaligned?_compile l.query rows).2 rfl, hlines, hcount, by decide, fun n hn => ?_,
    fun k => ?_, hfirst, Nat.succ_le_succ hfirst⟩
  · rw [hlines, List.mem_range'_1] at hn
    omega
  · rw [Sql.Slots.foldl_bind]
    show firstFilterSlot + (List.take k _).length ≤ 10002
    exact (Nat.add_le_add_left (List.length_take_le' k _) _).trans hfirst

end Site

/-! ## A listing with one filter -/

namespace Sample

/-- All steps of the listing. -/
def listingTurns : List Turn := listTwice ++ (listTwice ++ listTwice)

theorem small_tables : Postgres.Sample.tables.Small := Tables.small_of_few (by decide)

variable (f : Except Problem (List Task × Nat) → Http.Response)

theorem run_lookup :
    ∃ d, d.tables = Postgres.Sample.tables ∧ (Overlap.start backend
        [listing.serve.run.bind fun found => .done (f found)]).run (Database.call .calm) listTwice =
      ⟨⟨d, .empty 300000, 0⟩,
        [(Handler.compile listing.query >>= listing.tasks).run.bind fun found => .done (f found)],
        deletedMeanwhile.take 2⟩ :=
  ⟨_, rfl, rfl⟩

/-- What is fetched is compiled. -/
theorem run_fetch (d : Database) (h : History) {rows : List FilterRow}
    (hrows : (d.call .calm (.fetchRows (sortedIds [7]))).1 = .ok rows) :
    ∃ reply, (0, .store (.listTasks "w" ⟨1, 50⟩ (listing.query.compile rows)) reply) ∈
      ((Overlap.mk ⟨d, .empty 300000, 0⟩ [(Service.loadRows [7]).bind (withRows f)] h).run
        (Database.call .calm) (listTwice ++ listTwice)).history := by
  have hfetch : (Overlap.mk ⟨d, .empty 300000, 0⟩
      [(Service.loadRows [7]).bind (withRows f)] h).run (Database.call .calm) listTwice =
        ⟨⟨(d.call .calm (.fetchRows (sortedIds [7]))).2, .empty 300000, 0⟩,
          [(Service.afterFetch [7] (d.call .calm (.fetchRows (sortedIds [7]))).1).bind
            (withRows f)],
          (h.add 0 (.cache (.get [7]) none)).add 0
            (.store (.fetchRows (sortedIds [7])) (d.call .calm (.fetchRows (sortedIds [7]))).1)⟩ := by
    rw [Service.loadRows_bind (List.cons_ne_nil _ _)]
    rfl
  rw [Overlap.run_append, hfetch, hrows]
  exact ⟨_, List.mem_append_right _ (List.mem_singleton_self _)⟩

theorem listed_listingTurns :
    ∃ reply, (0, .store (.listTasks "w" ⟨1, 50⟩
        (listing.query.compile (Postgres.Sample.tables.rowsOf [7]))) reply) ∈
      (site.serveAll .calm backend [(0, listRequest)] listingTurns).history := by
  unfold Site.serveAll Overlap.ofRequests listingTurns
  rw [List.map_cons, List.map_nil, lists_listRequest.answer_eq, Overlap.run_append]
  obtain ⟨d, htables, hrun⟩ := run_lookup fun found =>
    site.origins.annotate listRequest (Site.forMethod listRequest (listing.answer found))
  rw [hrun, compile_bind]
  refine run_fetch _ d _ ?_
  have hset : sortedIds [7] = [7] := sortedIds_eq_self (List.pairwise_singleton _ _)
  rcases d.call_fetchRows .calm (sortedIds [7]) with hok | ⟨e, -, n, fault, hrefused⟩
  · rw [hok, htables, hset]
  · cases hrefused

end Sample

namespace Site

/-- A listing that fetches the rows of one filter. -/
theorem listing_within_limits_one_filter :
    let filter := Sample.listing.query.compile (Postgres.Sample.tables.rowsOf [7])
    Postgres.Sample.database.tables.Small ∧
      (∃ reply, (0, .store (.listTasks "w" ⟨1, 50⟩ filter) reply) ∈ (Sample.site.serveAll .calm
        Sample.backend [(0, Sample.listRequest)] Sample.listingTurns).history) ∧
      misaligned? filter = none ∧ (selectTasks "w" filter ⟨1, 50⟩).values.length ≤ 10003 := by
  obtain ⟨reply, hlisted⟩ := Sample.listed_listingTurns
  obtain ⟨-, hfits, -, hcount, -⟩ := listing_within_limits Sample.site .calm
    Postgres.Sample.database 300000 0 [(0, Sample.listRequest)] Sample.listingTurns
    Sample.small_tables 0 "w" ⟨1, 50⟩ _ reply hlisted
  exact ⟨Sample.small_tables, ⟨reply, hlisted⟩, hfits, hcount⟩

end Site

end TaskBoard
