import TaskBoard.Postgres.Store
import TaskBoard.Proofs.Filter.Placeholders
import TaskBoard.Proofs.Program

/-!
# Placeholders and their values

The text of a statement mentions placeholders, and a list of values goes with it.  The two are
made apart from each other: in a listing the text has the placeholder of the workspace, those of
a compiled filter, and two more for the page, while the values are put together a second time for
the number of all tasks.

    the places of a listing are counted up                      (mentioned_tasks)
    a listing sends at most two statements                      (run_listTasks)
    each has a value for every placeholder                      (listTasks_lines_up)
-/

namespace TaskBoard

open Sql (Detached Token lexemes token tokens?)

/-! ## Placeholders of a text -/

namespace Sql

/-- The number of a word that is a placeholder. -/
def slotOf? : List Char → Option Nat
  | '$' :: cs => Numeral.readNat? cs
  | _ => none

/-- The placeholders that a text mentions, from left to right. -/
def mentioned (s : String) : List Nat := (lexemes s.toList).filterMap slotOf?

theorem slotOf?_of_not_mem {l : List Char} (h : '$' ∉ l) : slotOf? l = none := by
  unfold slotOf?
  split
  · exact absurd List.mem_cons_self h
  · rfl

theorem mentioned_of_not_mem {s : String} (h : '$' ∉ s.toList) : mentioned s = [] := by
  rw [mentioned, List.filterMap_eq_nil_iff]
  intro l hl
  refine slotOf?_of_not_mem fun hmem => h ?_
  rw [← List.flatten_splitBy joins s.toList]
  exact List.mem_flatten.2 ⟨l, hl, hmem⟩

theorem mentioned_append {s t : String} (h : Detached s.toList t.toList) :
    mentioned (s ++ t) = mentioned s ++ mentioned t := by
  rw [mentioned, String.toList_append, lexemes_append h, List.filterMap_append]
  rfl

theorem mentioned_token (n : Nat) : mentioned (token n) = [n] := by
  rw [mentioned, lexemes_token, toList_token]
  simp [slotOf?, Numeral.readNat?_digits]

theorem closes_append {s t : String} (ht : Closes t.toList) (hne : t.toList ≠ []) :
    Closes (s ++ t).toList := by
  rwa [Closes, String.toList_append, List.getLast?_append_of_ne_nil _ hne]

/-- A placeholder after a text without one that stands apart from its neighbours. -/
theorem mentioned_append_token {s t : String} {n : Nat} (ho : Opens t.toList)
    (hc : Closes t.toList) (hne : t.toList ≠ []) (h : '$' ∉ t.toList) :
    mentioned (s ++ t ++ token n) = mentioned s ++ [n] := by
  rw [mentioned_append (closes_append hc hne).detached, mentioned_append ho.detached,
    mentioned_of_not_mem h, mentioned_token, List.append_nil]

theorem slot?_of_ofLexeme? {l : List Char} {t : Token} (h : Token.ofLexeme? l = some t) :
    t.slot? = slotOf? l := by
  unfold Token.ofLexeme? at h
  split at h
  · next cs =>
    obtain ⟨n, hn, rfl⟩ := Option.map_eq_some_iff.1 h
    exact hn.symm
  · next hword =>
    have hnone : slotOf? l = none := by
      unfold slotOf?
      split
      · exact absurd rfl (hword _)
      · rfl
    rw [hnone]
    rcases Option.or_eq_some_iff.1 h with h | ⟨-, h⟩
    · -- no spelling of its own belongs to a placeholder
      have hfixed : ∀ p ∈ Token.fixed, p.2.slot? = none := by decide
      obtain ⟨before, after, heq, -⟩ := List.lookup_eq_some_iff.1 h
      exact hfixed _ (heq ▸ List.mem_append_right _ List.mem_cons_self)
    · unfold Token.ofWord? at h
      split at h
      · cases h
      · split at h
        · obtain ⟨n, -, rfl⟩ := Option.map_eq_some_iff.1 h
          rfl
        · split at h
          · cases h
            rfl
          · cases h

/-- The placeholders of a text are those among its tokens. -/
theorem mentioned_of_tokens? {s : String} {ts : List Token} (h : tokens? s.toList = some ts) :
    mentioned s = ts.filterMap Token.slot? := by
  unfold mentioned
  unfold tokens? at h
  revert h
  induction lexemes s.toList generalizing ts with
  | nil =>
    rintro ⟨⟩
    rfl
  | cons l ls ih =>
    intro h
    cases hblank : l.all Char.isWhitespace with
    | true =>
      have hnone : slotOf? l = none := slotOf?_of_not_mem fun hmem =>
        absurd (List.all_eq_true.1 hblank _ hmem) (by decide)
      rw [List.filter_cons_of_neg (by simp [hblank])] at h
      rw [List.filterMap_cons_none hnone]
      exact ih h
    | false =>
      rw [List.filter_cons_of_pos (by simp [hblank]), List.mapM_cons] at h
      obtain ⟨t, ht, h⟩ := Option.bind_eq_some_iff.1 h
      obtain ⟨us, hus, h⟩ := Option.bind_eq_some_iff.1 h
      cases h
      rw [List.filterMap_cons, List.filterMap_cons, slot?_of_ofLexeme? ht, ih hus]

end Sql

/-! ## Statements -/

namespace Postgres

open Sql (closes_append mentioned mentioned_append mentioned_append_token mentioned_of_not_mem
  mentioned_of_tokens?)

/-- What is sent for a statement with placeholders: its text, and a list of values. -/
structure Prepared where
  text : String
  values : List Argument

/-- What is sent for a statement, unless it is text alone. -/
def Statement.prepared? (s : Statement) : Option Prepared := s.arguments.map fun vs => ⟨s.sql, vs⟩

/-- The text mentions `$1`, `$2` and so on, each once and in order, and there is a value for each
of them. -/
def Prepared.LinesUp (p : Prepared) : Prop := mentioned p.text = List.range' 1 p.values.length

/-- What is sent says the same as a value of a filter: a text or a number says so as it is, and a
list does so as an array. -/
inductive Argument.Carries : Argument → Sql.Value → Prop
  | text (s : String) : Carries (.text s) (.scalar (.text s))
  | bigint (n : Int) : Carries (.int n) (.scalar (.bigint n))
  | texts (ss : List String) : Carries (.texts ss) (.series (.texts ss))
  | bigints (ns : List Int) : Carries (.ints ns) (.series (.bigints ns))

/-- All that a session sends, in order. -/
def Session.sent {σ α : Type} (perform : (s : Statement) → σ → Except DatabaseFault s.Reply × σ)
    (x : Session α) (s : σ) : List (Option Prepared) :=
  (x.run.log perform s).map fun exchange => exchange.step.prepared?

/-- What is sent for one page of the tasks of a workspace that pass a filter. -/
def selectTasks (workspace : String) (filter : CompiledFilter) (page : Page) : Prepared where
  text := (Statement.tasks workspace filter page).sql
  values := filterArguments workspace filter ++ [.int page.limit, .int page.offset]

/-- What is sent for the number of these tasks. -/
def selectCount (workspace : String) (filter : CompiledFilter) : Prepared where
  text := (Statement.countTasks workspace filter).sql
  values := filterArguments workspace filter

variable {filter : CompiledFilter} {workspace : String} {page : Page}

/-! ### Texts -/

theorem not_mem_taskColumns : '$' ∉ taskColumns.toList := by
  unfold taskColumns
  rw [String.toList_append, String.toList_append, String.toList_append]
  simp only [List.mem_append, not_or]
  -- piece by piece, for the time it takes grows with the square of the length
  refine ⟨⟨⟨?_, ?_⟩, ?_⟩, ?_⟩ <;> decide +kernel

theorem mentioned_predicate {q : Query} {rows : List FilterRow} {p : String}
    (hp : (q.compile rows).predicate = some p) :
    mentioned p = List.range' q.first (q.compile rows).values.length := by
  obtain ⟨ts, hts, hslots⟩ := q.slots_predicate rows hp
  rw [mentioned_of_tokens? hts, hslots]

/-- The workspace comes first, and then what the filter binds. -/
theorem mentioned_whereText (q : Query) (rows : List FilterRow) :
    mentioned (whereText (q.compile rows)) =
      1 :: List.range' q.first (q.compile rows).values.length := by
  unfold whereText
  cases hp : (q.compile rows).predicate with
  | none =>
    rw [q.values_of_no_predicate rows hp]
    show mentioned "t.workspace_id = $1" = [1]
    decide
  | some p =>
    have hopening : Sql.Closes "t.workspace_id = $1 AND (".toList := by decide
    have hclosing : Sql.Opens ")".toList := by decide
    have hworkspace : mentioned "t.workspace_id = $1 AND (" = [1] := by decide
    have hend : mentioned ")" = [] := by decide
    dsimp only
    rw [mentioned_append hclosing.detached, mentioned_append hopening.detached, hworkspace, hend,
      mentioned_predicate hp, List.append_nil, List.singleton_append]

theorem mentioned_countTasks :
    mentioned (Statement.countTasks workspace filter).sql = mentioned (whereText filter) := by
  have hhead : Sql.Closes "SELECT COUNT(*) FROM tasks t WHERE ".toList := by decide +kernel
  have hnone : mentioned "SELECT COUNT(*) FROM tasks t WHERE " = [] :=
    mentioned_of_not_mem (by decide +kernel)
  show mentioned ("SELECT COUNT(*) FROM tasks t WHERE " ++ whereText filter) = _
  rw [mentioned_append hhead.detached, hnone]
  rfl

/-- The page comes last, with the next two placeholders. -/
theorem mentioned_tasks :
    mentioned (Statement.tasks workspace filter page).sql =
      mentioned (whereText filter) ++ [filter.next, filter.next + 1] := by
  have hselect : '$' ∉ "SELECT ".toList := by decide
  have hsource : '$' ∉ " FROM tasks t WHERE ".toList := by decide
  have hhead : mentioned ("SELECT " ++ taskColumns ++ " FROM tasks t WHERE ") = [] := by
    refine mentioned_of_not_mem ?_
    rw [String.toList_append, String.toList_append]
    simp only [List.mem_append, not_or]
    exact ⟨⟨hselect, not_mem_taskColumns⟩, hsource⟩
  show mentioned ("SELECT " ++ taskColumns ++ " FROM tasks t WHERE " ++ whereText filter ++
    " ORDER BY t.created_at DESC, t.id DESC LIMIT " ++ token filter.next ++ " OFFSET " ++
    token (filter.next + 1)) = _
  rw [mentioned_append_token (by decide) (by decide) (by decide) (by decide),
    mentioned_append_token (by decide +kernel) (by decide +kernel) (by decide) (by decide +kernel),
    mentioned_append (closes_append (by decide) (by decide)).detached, hhead]
  simp

/-! ### Sessions -/

theorem misaligned?_eq_none_iff :
    misaligned? filter = none ↔ filter.next = firstFilterSlot + filter.values.length := by
  unfold misaligned?
  split <;> simp_all

theorem misaligned?_compile (q : Query) (rows : List FilterRow) :
    misaligned? (q.compile rows) = none ↔ q.first = firstFilterSlot := by
  rw [misaligned?_eq_none_iff, q.next_compile, Nat.add_right_cancel_iff]

theorem exists_misaligned {q : Query} (rows : List FilterRow) (h : q.first ≠ firstFilterSlot) :
    ∃ reason, misaligned? (q.compile rows) = some (.config reason) := by
  have hne := mt (misaligned?_compile q rows).1 h
  unfold misaligned? at hne ⊢
  split
  · next hfit => exact absurd (if_pos hfit) hne
  · exact ⟨_, rfl⟩

theorem run_listTasks_of_misaligned {e : PostgresError} (h : misaligned? filter = some e) :
    (listTasks workspace page filter).run = .done (.error e) := by
  unfold listTasks
  rw [h]
  rfl

/-- The number of all tasks is asked for once the page is there. -/
theorem run_listTasks (h : misaligned? filter = none) :
    (listTasks workspace page filter).run =
      .step (.tasks workspace filter page) fun
        | .error fault => .done (.error (.database fault))
        | .ok tasks => .step (.countTasks workspace filter) fun
          | .error fault => .done (.error (.database fault))
          | .ok total => .done ((total : Option Int).elim (.error (.database .rowNotFound)) fun n =>
              .ok (tasks, n.toNat)) := by
  unfold listTasks
  rw [h]
  show Program.step _ _ = Program.step _ _
  congr 1
  funext reply
  cases reply with
  | error fault => rfl
  | ok tasks =>
    show Program.step _ _ = Program.step _ _
    congr 1
    funext reply
    cases reply with
    | error fault => rfl
    | ok total => cases total <;> rfl

section

variable {τ : Type} {db : (s : Statement) → τ → Except DatabaseFault s.Reply × τ} {d : τ}

theorem sent_listTasks_of_misaligned {e : PostgresError} (h : misaligned? filter = some e) :
    (listTasks workspace page filter).sent db d = [] := by
  rw [Session.sent, run_listTasks_of_misaligned h]
  rfl

theorem sent_listTasks (h : misaligned? filter = none) :
    (listTasks workspace page filter).sent db d =
      some (selectTasks workspace filter page) ::
        (db (.tasks workspace filter page) d).1.toOption.elim [] fun _ =>
          [some (selectCount workspace filter)] := by
  rw [Session.sent, run_listTasks h]
  refine congrArg (some (selectTasks workspace filter page) :: ·) ?_
  cases (db (.tasks workspace filter page) d).1 with
  | error fault => rfl
  | ok tasks =>
    refine congrArg (some (selectCount workspace filter) :: ·) ?_
    cases (db (.countTasks workspace filter) (db (.tasks workspace filter page) d).2).1 <;> rfl

end

/-! ### Values -/

theorem Argument.carries_ofValue (v : Sql.Value) : (ofValue v).Carries v := by
  rcases v with (s | n) | (ss | ns)
  · exact .text s
  · exact .bigint n
  · exact .texts ss
  · exact .bigints ns

variable {q : Query} {rows : List FilterRow}

theorem length_selectTasks :
    (selectTasks workspace filter page).values.length = filter.values.length + 3 := by
  simp [selectTasks, filterArguments]

theorem length_selectCount :
    (selectCount workspace filter).values.length = filter.values.length + 1 := by
  simp [selectCount, filterArguments]

theorem mentioned_whereText_listing (h : q.first = firstFilterSlot) :
    mentioned (whereText (q.compile rows)) =
      List.range' 1 ((q.compile rows).values.length + 1) := by
  rw [mentioned_whereText, h, List.range'_succ]
  rfl

theorem selectCount_linesUp (h : q.first = firstFilterSlot) :
    (selectCount workspace (q.compile rows)).LinesUp := by
  show mentioned (Statement.countTasks workspace (q.compile rows)).sql = _
  rw [mentioned_countTasks, mentioned_whereText_listing h, length_selectCount]

/-- The page goes with the two placeholders after those of the number of all tasks. -/
theorem selectTasks_linesUp (h : q.first = firstFilterSlot) :
    (selectTasks workspace (q.compile rows) page).LinesUp := by
  have hnext : (q.compile rows).next = 1 + ((q.compile rows).values.length + 1) := by
    rw [q.next_compile, h, firstFilterSlot]
    omega
  show mentioned (Statement.tasks workspace (q.compile rows) page).sql = _
  rw [mentioned_tasks, mentioned_whereText_listing h, length_selectTasks, hnext]
  exact List.range'_append_1 (n := 2)

/-- **The statements of a listing.**  When the filter is compiled for a listing, the text of the
page mentions the placeholders up to `$k`, where `k` is the number of values: `$1` is the
workspace, those in the predicate are the values of the filter, each sent as what it is, and the
last two are the size and the offset of the page.  The number of all tasks is asked for with the
same condition and the same values, less these two.  A filter that is compiled for another first
placeholder is refused, and nothing is sent. -/
theorem listTasks_lines_up {σ τ : Type} (perform : (e : ServiceStep) → σ → e.Reply × σ)
    (db : (s : Statement) → τ → Except DatabaseFault s.Reply × τ) (q : Query) {s s' : σ}
    {f : CompiledFilter} (h : (Service.compile q).run perform s = (.ok f, s')) (workspace : String)
    (page : Page) (d : τ) :
    (q.start = 2 → ∃ (k : Nat) (bound : List Argument) (select count : Prepared),
      ((listTasks workspace page f).sent db d = some select ::
        (db (.tasks workspace f page) d).1.toOption.elim [] fun _ => [some count]) ∧
      select.LinesUp ∧ count.LinesUp ∧
      select.values.length = k ∧ count.values = select.values.take (k - 2) ∧
      List.Forall₂ Argument.Carries bound f.values ∧
      select.values = .text workspace :: bound ++ [.int page.limit, .int page.offset] ∧
      select.text = "SELECT " ++ taskColumns ++ " FROM tasks t WHERE " ++ whereText f ++
        " ORDER BY t.created_at DESC, t.id DESC LIMIT " ++ token (k - 1) ++ " OFFSET " ++ token k ∧
      count.text = "SELECT COUNT(*) FROM tasks t WHERE " ++ whereText f ∧
      (f.predicate = none → whereText f = "t.workspace_id = $1") ∧
      ∀ p, f.predicate = some p → whereText f = "t.workspace_id = $1 AND (" ++ p ++ ")" ∧
        mentioned p = List.range' 2 (k - 3)) ∧
    (max q.start 1 ≠ 2 →
      (listTasks workspace page f).sent db d = [] ∧
      ∃ reason, (listTasks workspace page f).run.run db d = (.error (.config reason), d)) := by
  rw [Service.run_compile] at h
  cases hrows : ((Service.loadRows q.filterIds).run perform s).1 with
  | error e =>
    rw [hrows] at h
    cases (Prod.mk.inj h).1
  | ok rows =>
    rw [hrows] at h
    obtain rfl : q.compile rows = f := Except.ok.inj (Prod.mk.inj h).1
    constructor
    · intro hstart
      have hfirst : q.first = firstFilterSlot := by rw [Query.first, hstart]; rfl
      have hlen : (q.compile rows).values.length + 3 = (q.compile rows).next + 1 := by
        rw [q.next_compile, hfirst, firstFilterSlot]
        omega
      refine ⟨(q.compile rows).next + 1, (q.compile rows).values.map .ofValue,
        selectTasks workspace _ page, selectCount workspace _,
        sent_listTasks ((misaligned?_compile q rows).2 hfirst), selectTasks_linesUp hfirst,
        selectCount_linesUp hfirst, length_selectTasks.trans hlen, ?_, ?_, rfl, rfl, rfl,
        fun hp => ?_, fun p hp => ⟨?_, ?_⟩⟩
      · rw [← hlen]
        exact (List.take_left' length_selectCount).symm
      · rw [List.forall₂_map_left_iff, List.forall₂_same]
        exact fun v _ => Argument.carries_ofValue v
      · rw [whereText, hp]
      · rw [whereText, hp]
      · rw [mentioned_predicate hp, hfirst, ← hlen]
        rfl
    · intro hstart
      obtain ⟨reason, hreason⟩ := exists_misaligned rows hstart
      exact ⟨sent_listTasks_of_misaligned hreason, reason,
        congrArg (Program.run db · d) (run_listTasks_of_misaligned hreason)⟩

/-- Rows from the cache: the filter of a listing has three values, and with them the third page
of twenty tasks is asked for; from the fifth placeholder on it is refused. -/
theorem listTasks_lines_up_cached_rows :
    let rows : List FilterRow :=
      [⟨7, "Due", "and", some 1, some "list", some "due_date", none, none, some "between",
        some [.string "2026-01-01", .string "2026-02-01"], none⟩,
       ⟨7, "Due", "and", some 2, some "list", some "status", none, none, some "in",
        some [.string "todo", .string "done"], none⟩]
    let q : Query := ⟨[7], [], "u", .empty, 2⟩
    let db (s : Statement) (d : Unit) : Except DatabaseFault s.Reply × Unit :=
      match s with
      | .tasks _ _ _ => (.ok [], d)
      | _ => (.error .poolClosed, d)
    (∃ f select count, (Service.compile q).run (ServiceStep.cached rows) () = (.ok f, ()) ∧
      (listTasks "w" ⟨3, 20⟩ f).sent db () = [some select, some count] ∧
      mentioned select.text = [1, 2, 3, 4, 5, 6] ∧ mentioned count.text = [1, 2, 3, 4] ∧
      select.values = [.text "w", .text "2026-01-01", .text "2026-02-01",
        .texts ["todo", "done"], .int 20, .int 40] ∧
      count.values = [.text "w", .text "2026-01-01", .text "2026-02-01",
        .texts ["todo", "done"]]) ∧
    ∃ f, (Service.compile { q with start := 5 }).run (ServiceStep.cached rows) () = (.ok f, ()) ∧
      (listTasks "w" ⟨3, 20⟩ f).sent db () = [] := by
  intro rows q db
  have hrun (start : Nat) : (Service.compile { q with start }).run (ServiceStep.cached rows) () =
      (.ok (Query.compile { q with start } rows), ()) := rfl
  have hfilter : (Query.compile { q with start := 2 } rows).values =
      [.scalar (.text "2026-01-01"), .scalar (.text "2026-02-01"),
        .series (.texts ["todo", "done"])] := by decide +kernel
  constructor
  · obtain ⟨k, bound, select, count, hsent, hselect, hcount, hk, hvalues, hbound, hselected, -⟩ :=
      (listTasks_lines_up _ db q (hrun 2) "w" ⟨3, 20⟩ ()).1 rfl
    rw [hfilter] at hbound
    simp only [List.forall₂_cons_right_iff, List.forall₂_nil_right_iff] at hbound
    obtain ⟨_, _, ⟨⟩, ⟨_, _, ⟨⟩, ⟨_, _, ⟨⟩, rfl, rfl⟩, rfl⟩, rfl⟩ := hbound
    obtain rfl : 6 = k := by rw [← hk, hselected]; rfl
    refine ⟨_, select, count, hrun 2, hsent, ?_, ?_, hselected, ?_⟩
    · rw [hselect, hk]
      rfl
    · rw [hcount, hvalues, List.length_take, hk]
      rfl
    · rw [hvalues, hselected]
      rfl
  · exact ⟨_, hrun 5,
      ((listTasks_lines_up _ db { q with start := 5 } (hrun 5) "w" ⟨3, 20⟩ ()).2 (by decide)).1⟩

end Postgres

end TaskBoard
