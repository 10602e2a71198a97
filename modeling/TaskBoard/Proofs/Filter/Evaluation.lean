import TaskBoard.Proofs.Filter.Meaning
import TaskBoard.Proofs.Filter.Reading

/-!
# Tests in SQL say what they mean

The tree of a test is evaluated for a task, with the values of the test bound to its
placeholders.  Its value is the truth that the test has by its meaning.  Only a day of which the
database does not take the text is in the way: the test is refused then.

    (t.tree i).eval env = the truth of t                        (eval_tree)
    c.Means s vs m → the text of c has the value m              (condition_means)
-/

namespace TaskBoard

open Sql (Datum Env Expr Row Truth)

/-! ## A task in SQL -/

/-- A task as a row of its table, where days are numbered so. -/
def Task.row (number : Date → Int) (t : Task) : Row
  | "id" => some (.int (some t.id))
  | "workspace_id" => some (.text (some t.workspace))
  | "title" => some (.text (some t.title))
  | "description" => some (.text t.description)
  | "status" => some (.text (some t.status))
  | "priority" => some (.text t.priority)
  | "view" => some (.text t.view)
  | "category_id" => some (.int t.category)
  | "tag_id" => some (.int t.tag)
  | "start_date" => some (.day (t.startDate.map number))
  | "due_date" => some (.day (t.dueDate.map number))
  | "completed_at" => some (.instant t.completedAt)
  | "created_at" => some (.instant (some t.createdAt))
  | "updated_at" => some (.instant (some t.updatedAt))
  | _ => none

/-- A row of the relation between tasks and users. -/
def assignmentRow (a : Int × String) : Row
  | "task_id" => some (.int (some a.1))
  | "user_id" => some (.text (some a.2))
  | _ => none

/-- The environment in which a condition on a task is evaluated. -/
def World.env (w : World) (t : Task) (param : Nat → Option Sql.Value) : Env where
  today := w.dates.number w.today
  dayOf i := w.dates.number (w.dayOf i)
  dates := w.dates
  before := w.before
  table
    | "task_assignees" => some (w.assignments.map assignmentRow)
    | _ => none
  row name := if name = taskAlias then some (t.row w.dates.number) else none
  param := param

/-- The value behind a placeholder. -/
def Sql.Slots.value? (b : Sql.Slots) (n : Nat) : Option Sql.Value :=
  if b.first ≤ n then b.values[n - b.first]? else none

/-! ## Matches -/

namespace Sql.Truth

theorem any_unknown {α : Type} {as : List α} (h : as ≠ []) :
    any (as.map fun _ => unknown) = unknown := by
  induction as with
  | nil => exact absurd rfl h
  | cons a as ih =>
    cases as with
    | nil => rfl
    | cons b as => rw [List.map_cons, any, List.foldr_cons, ← any, ih (List.cons_ne_nil b as)]; rfl

theorem any_ofBool {α : Type} (f : α → Bool) (as : List α) :
    any (as.map fun a => ofBool (f a)) = ofBool (as.any f) := by
  induction as with
  | nil => rfl
  | cons a as ih =>
    rw [List.map_cons, any, List.foldr_cons, ← any, ih, List.any_cons]
    cases f a <;> cases as.any f <;> rfl

theorem ofBool_and (a b : Bool) : (ofBool a).and (ofBool b) = ofBool (a && b) := by
  cases a <;> cases b <;> rfl

theorem ofBool_eq_yes (a : Bool) : ofBool a = yes ↔ a = true := by
  cases a <;> simp [ofBool]

end Sql.Truth

namespace Match

section

variable {α : Type} [DecidableEq α] (lt : α → α → Bool)

theorem truth_oneOf {as : List α} (h : as ≠ []) (x : Option α) :
    Truth.any (as.map fun a => Comparison.eq.truth lt x (some a)) = (oneOf as).truth lt x := by
  cases x with
  | none => exact Truth.any_unknown h
  | some x =>
    have := Truth.any_ofBool (fun a => decide (x = a)) as
    rw [truth, holds, List.contains_eq_any_beq]
    simpa [Comparison.truth, Comparison.holds, beq_eq_decide] using this

theorem truth_between (lo hi : α) (x : Option α) :
    (Comparison.ge.truth lt x (some lo)).and (Comparison.le.truth lt x (some hi)) =
      (between lo hi).truth lt x := by
  cases x with
  | none => rfl
  | some x =>
    simp only [Comparison.truth, Comparison.holds, truth, holds]
    cases lt x lo <;> cases lt hi x <;> rfl

end

/-- The match of what the values stand for, if each of them stands for something. -/
def mapM {α β : Type} (f : α → Option β) : Match α → Option (Match β)
  | .compare c a => (f a).map (.compare c)
  | .oneOf as => (as.mapM f).map .oneOf
  | .between lo hi => do
    let lo ← f lo
    let hi ← f hi
    some (.between lo hi)

theorem mapM_eq_some {α β : Type} {f : α → Option β} {g : α → β} {m : Match α}
    (h : ∀ a ∈ m.values, f a = some (g a)) : m.mapM f = some (m.map g) := by
  cases m with
  | compare c a => rw [mapM, h a (by simp [values])]; rfl
  | oneOf as =>
    have hmap : as.mapM f = some (as.map g) := by
      rw [mapM_eq_some_iff, List.forall₂_map_right_iff, List.forall₂_same]
      exact h
    rw [mapM, hmap]
    rfl
  | between lo hi =>
    rw [mapM, h lo (by simp [values]), h hi (by simp [values])]
    rfl

theorem mapM_eq_none {α β : Type} {f : α → Option β} {m : Match α}
    (h : ∃ a ∈ m.values, f a = none) : m.mapM f = none := by
  obtain ⟨a, ha, hnone⟩ := h
  cases m with
  | compare c b =>
    obtain rfl : a = b := by simpa [values] using ha
    rw [mapM, hnone]
    rfl
  | oneOf as =>
    have ha : a ∈ as := ha
    rw [mapM, mapM_eq_none_of_mem ha hnone]
    rfl
  | between lo hi =>
    obtain rfl | rfl : a = lo ∨ a = hi := by simpa [values] using ha
    · simp [mapM, hnone]
    · simp [mapM, hnone]

theorem mapM_some {α : Type} (m : Match α) : m.mapM some = some m := by
  rw [mapM_eq_some fun a _ => (rfl : some a = some (id a))]
  cases m <;> simp [map]

end Match

/-! ## Places -/

/-- The placeholders from `$i` on stand for these values. -/
def Sql.Env.Binds (env : Env) (i : Nat) (vs : List Sql.Value) : Prop :=
  ∀ (k : Nat) (v : Sql.Value), vs[k]? = some v → env.param (i + k) = some v

/-- Values of one type, alone or in a list, are compared by an order. -/
structure Sql.Scale {α : Type} [DecidableEq α] (before : String → String → Bool)
    (one : Option α → Datum) (many : List α → Datum) (lt : α → α → Bool) : Prop where
  compare (c : Comparison) (a b : Option α) :
    Datum.compare? before c (one a) (one b) = some (c.truth lt a b)
  compareAny (c : Comparison) (a : Option α) (bs : List α) :
    Datum.compareAny? before c (one a) (many bs) =
      some (.any (bs.map fun b => c.truth lt a (some b)))

theorem Sql.scale_text (before : String → String → Bool) : Scale before .text .texts before :=
  ⟨fun _ _ _ => rfl, fun _ _ _ => rfl⟩

theorem Sql.scale_int (before : String → String → Bool) : Scale before .int .ints intBefore :=
  ⟨fun _ _ _ => rfl, fun _ _ _ => rfl⟩

theorem Sql.scale_day (before : String → String → Bool) : Scale before .day .days intBefore :=
  ⟨fun _ _ _ => rfl, fun _ _ _ => rfl⟩

namespace Match

variable {α β : Type}

/-- What is bound for values has the points for which they stand as values in SQL, and is refused
for a value that stands for none. -/
structure Binding.Points (b : Binding α) (env : Env) (dated : Bool) (point? : α → Option β)
    (one : Option β → Datum) (many : List β → Datum) : Prop where
  place {i : Nat} {a : α} (hp : env.param i = some (.scalar (b.one a))) :
    (placeTree dated i).eval env = (point? a).map fun x => one (some x)
  placeMany {i : Nat} {as : List α} (hp : env.param i = some (.series (b.many as))) :
    (placeManyTree dated i).eval env = (as.mapM point?).map many

theorem points_textBinding (env : Env) : textBinding.Points env false some .text .texts where
  place hp := by simp [placeTree, Expr.eval, hp, textBinding, Datum.ofValue]
  placeMany hp := by
    simp [placeManyTree, Expr.eval, hp, textBinding, Datum.ofValue, TaskBoard.mapM_some]

theorem points_idBinding (env : Env) : idBinding.Points env false some .int .ints where
  place hp := by simp [placeTree, Expr.eval, hp, idBinding, Datum.ofValue]
  placeMany hp := by
    simp [placeManyTree, Expr.eval, hp, idBinding, Datum.ofValue, TaskBoard.mapM_some]

theorem points_dateBinding (env : Env) :
    dateBinding.Points env true (fun d => env.dates.day? d.text) .day .days where
  place hp := by simp [placeTree, Expr.eval, hp, dateBinding, Datum.ofValue, Datum.toDay?]
  placeMany hp := by
    simp [placeManyTree, Expr.eval, hp, dateBinding, Datum.ofValue, Datum.toDays?, List.mapM_map,
      Function.comp_def]

/-- A match is evaluated to the truth of what its values stand for. -/
theorem eval_tree [DecidableEq β] {env : Env} {b : Binding α} {dated : Bool}
    {point? : α → Option β} {one : Option β → Datum} {many : List β → Datum} {lt : β → β → Bool}
    (hs : Sql.Scale env.before one many lt) (hb : b.Points env dated point? one many)
    {subject : Expr} {x : Option β} (hx : subject.eval env = some (one x)) {m : Match α}
    (hm : m.values ≠ []) {i : Nat} (hp : env.Binds i (m.bound b)) :
    (m.tree dated subject i).eval env = (m.mapM point?).map fun m => .truth (m.truth lt x) := by
  cases m with
  | compare c a =>
    have ha := hb.place (hp 0 _ rfl)
    rw [Nat.add_zero] at ha
    cases hpoint : point? a with
    | none => simp [tree, Expr.eval, hx, ha, hpoint, mapM]
    | some y => simp [tree, Expr.eval, hx, ha, hpoint, hs.compare, mapM, truth_compare]
  | oneOf as =>
    have ha := hb.placeMany (hp 0 _ rfl)
    rw [Nat.add_zero] at ha
    cases hpoints : as.mapM point? with
    | none => simp [tree, Expr.eval, hx, ha, hpoints, mapM]
    | some ys =>
      have hne : ys ≠ [] := by
        rintro rfl
        exact hm (List.forall₂_nil_right_iff.1 (mapM_eq_some_iff.1 hpoints))
      simp [tree, Expr.eval, hx, ha, hpoints, hs.compareAny, mapM, truth_oneOf lt hne]
  | between lo hi =>
    have hl := hb.place (hp 0 _ rfl)
    have hh := hb.place (hp 1 _ rfl)
    rw [Nat.add_zero] at hl
    cases hlo : point? lo with
    | none => simp [tree, Expr.eval, hx, hl, hlo, mapM]
    | some y =>
      cases hhi : point? hi with
      | none => simp [tree, Expr.eval, hx, hl, hh, hlo, hhi, mapM]
      | some z => simp [tree, Expr.eval, hx, hl, hh, hlo, hhi, hs.compare, mapM, truth_between]

end Match

/-- A task is assigned so if one of its users makes it so. -/
theorem Assignee.holds_eq_any (who : Assignee) (assigned : List String) :
    who.holds assigned = assigned.any fun u => who.holds [u] := by
  cases who with
  | anyone => cases assigned <;> simp [holds]
  | user u =>
    rw [holds, List.contains_eq_any_beq]
    simp [holds, beq_eq_decide]
  | oneOf us =>
    rw [Bool.eq_iff_iff]
    simp only [holds, List.any_eq_true, List.contains_iff_mem, List.mem_singleton]
    constructor
    · rintro ⟨u, hu, ha⟩
      exact ⟨u, ha, u, hu, rfl⟩
    · rintro ⟨u, hu, v, hv, rfl⟩
      exact ⟨v, hv, hu⟩

/-! ## Expressions -/

section

variable (w : World) (t : Task) (p : Nat → Option Sql.Value)

theorem eval_textColumn (c : TextColumn) :
    (Column.text c).tree.eval (w.env t p) = some (.text (t.text? c)) := by
  cases c <;> rfl

theorem eval_idColumn (c : IdColumn) :
    (Column.id c).tree.eval (w.env t p) = some (.int (t.number? c)) := by
  cases c <;> rfl

theorem eval_dateSource (d : DateSource) :
    d.tree.eval (w.env t p) = some (.day (w.day? t d)) := by
  cases d with
  | column c => cases c <;> rfl
  | today => rfl

theorem eval_dayDiff (earlier later : DateSource) :
    (dayDiffTree earlier later).eval (w.env t p) = some (.int (w.daysFrom t earlier later)) := by
  simp [dayDiffTree, Expr.eval, eval_dateSource, Datum.minus?, World.daysFrom]

/-- A column is `NULL` where the task lacks it. -/
theorem eval_nullTest (c : Column) (yes : Bool) :
    (Expr.nullTest c.tree yes).eval (w.env t p) =
      some (.truth (.ofBool (w.lacks t c == yes))) := by
  rcases c with c | c | c
  · simp [Expr.eval, eval_textColumn, Datum.isNull, World.lacks]
  · cases c <;> simp [Expr.eval, World.env, Column.tree, Column.columnName, DateColumn.columnName,
      Task.row, Datum.isNull, World.lacks, World.day?]
  · simp [Expr.eval, eval_idColumn, Datum.isNull, World.lacks]

/-! ### The relation -/

/-- The condition of a search through the relation, for one of its rows. -/
theorem eval_assigneeTree (a : Int × String) {who : Assignee} {i : Nat}
    (hp : (w.env t p).Binds i (Test.assigneeTemplate who).values) :
    ((who.tree i).eval ((w.env t p).withRow "ta" (assignmentRow a))).bind Datum.truth? =
      some (.ofBool (decide (a.1 = t.id) && who.holds [a.2])) := by
  have htree : assignmentTree.eval ((w.env t p).withRow "ta" (assignmentRow a)) =
      some (.truth (.ofBool (decide (a.1 = t.id)))) := rfl
  have huser : (Expr.column "ta" "user_id").eval ((w.env t p).withRow "ta" (assignmentRow a)) =
      some (.text (some a.2)) := rfl
  cases who with
  | anyone => simp [Assignee.tree, htree, Datum.truth?, Assignee.holds]
  | user u =>
    have hu : p i = some (.scalar (.text u)) := hp 0 _ rfl
    have hslot : (Expr.slot i).eval ((w.env t p).withRow "ta" (assignmentRow a)) =
        some (.text (some u)) := by
      simp [Expr.eval, Env.withRow, World.env, hu, Datum.ofValue]
    have hc : (Expr.compare .eq (.column "ta" "user_id") (.slot i)).eval
        ((w.env t p).withRow "ta" (assignmentRow a)) =
      some (.truth (.ofBool ((Assignee.user u).holds [a.2]))) := by
      rw [Expr.eval, huser, hslot]
      simp [Datum.compare?, Comparison.truth, Comparison.holds, Assignee.holds, eq_comm]
    rw [Assignee.tree, Expr.eval_and htree hc, Truth.ofBool_and]
    rfl
  | oneOf us =>
    have hu : p i = some (.series (.texts us)) := hp 0 _ rfl
    have hslot : (Expr.slot i).eval ((w.env t p).withRow "ta" (assignmentRow a)) =
        some (.texts us) := by
      simp [Expr.eval, Env.withRow, World.env, hu, Datum.ofValue]
    have hc : (Expr.compareAny .eq (.column "ta" "user_id") (.slot i)).eval
        ((w.env t p).withRow "ta" (assignmentRow a)) =
          some (.truth (.ofBool ((Assignee.oneOf us).holds [a.2]))) := by
      have hone : ∀ u, [a.2].contains u = decide (a.2 = u) := by simp [eq_comm]
      rw [Expr.eval, huser, hslot, Assignee.holds, ← Truth.any_ofBool]
      simp only [hone]
      rfl
    rw [Assignee.tree, Expr.eval_and htree hc, Truth.ofBool_and]
    rfl

theorem eval_existence {who : Assignee} {i : Nat}
    (hp : (w.env t p).Binds i (Test.assigneeTemplate who).values) :
    (Expr.existence "task_assignees" "ta" (who.tree i)).eval (w.env t p) =
      some (.truth (.ofBool (who.holds (w.assignees t)))) := by
  have hrows : (w.assignments.map assignmentRow).mapM (fun r =>
      ((who.tree i).eval ((w.env t p).withRow "ta" r)).bind Datum.truth?) =
        some (w.assignments.map fun a => .ofBool (decide (a.1 = t.id) && who.holds [a.2])) := by
    rw [mapM_eq_some_iff, List.forall₂_map_left_iff, List.forall₂_map_right_iff, List.forall₂_same]
    exact fun a _ => eval_assigneeTree w t p a hp
  have hany : (w.assignments.map fun a =>
      Truth.ofBool (decide (a.1 = t.id) && who.holds [a.2])).any (· = .yes) =
        who.holds (w.assignees t) := by
    rw [Assignee.holds_eq_any, World.assignees, List.any_map, List.any_map, List.any_filter]
    refine List.any_congr rfl fun a => ?_
    simp [Truth.ofBool_eq_yes]
  simp only [Expr.eval, show (w.env t p).table "task_assignees" =
    some (w.assignments.map assignmentRow) from rfl, Option.bind_eq_bind, Option.bind_some, hrows,
    hany]

end

/-! ## Tests -/

namespace Test

theorem truth_null (w : World) (t : Task) (c : Column) (yes : Bool) :
    truth w t (.null c yes) = .ofBool (w.lacks t c == yes) := by
  cases yes <;> simp [truth]

/-- The value of a test is the truth that it means, unless there is a day of which the database
does not take the text. -/
theorem eval_tree (w : World) (task : Task) (p : Nat → Option Sql.Value) {t : Test} (h : t.Proper)
    {i : Nat} (hp : (w.env task p).Binds i t.template.values) :
    (t.IsCastable → (t.tree i).eval (w.env task p) = some (.truth (t.truth w task))) ∧
    (¬ t.IsCastable → (t.tree i).eval (w.env task p) = none) := by
  cases t with
  | null c yes =>
    refine ⟨fun _ => ?_, fun hc => absurd trivial hc⟩
    rw [tree, eval_nullTest, truth_null]
  | text c m =>
    refine ⟨fun _ => ?_, fun hc => absurd trivial hc⟩
    rw [template, Match.values_template] at hp
    have := Match.eval_tree (Sql.scale_text w.before) (Match.points_textBinding _)
      (eval_textColumn w task p c) h hp
    rwa [Match.mapM_some] at this
  | id c m =>
    refine ⟨fun _ => ?_, fun hc => absurd trivial hc⟩
    rw [template, Match.values_template] at hp
    have := Match.eval_tree (Sql.scale_int w.before) (Match.points_idBinding _)
      (eval_idColumn w task p c) h hp
    rwa [Match.mapM_some] at this
  | date d m =>
    rw [template, Match.values_template] at hp
    have heval := Match.eval_tree (Sql.scale_day w.before) (Match.points_dateBinding _)
      (eval_dateSource w task p d) h.1 hp
    have hday (d : Date) (hd : d ∈ m.values) := (w.env task p).dates.day?_text (h.2 d hd)
    constructor
    · intro hc
      rw [Match.mapM_eq_some fun d hd => (hday d hd).trans (if_pos (hc d hd))] at heval
      exact heval
    · intro hc
      simp only [IsCastable, not_forall] at hc
      obtain ⟨d, hd, hcast⟩ := hc
      rw [Match.mapM_eq_none ⟨d, hd, (hday d hd).trans (if_neg hcast)⟩] at heval
      exact heval
  | dayDiff earlier later m =>
    refine ⟨fun _ => ?_, fun hc => absurd trivial hc⟩
    rw [template, Match.values_template] at hp
    have := Match.eval_tree (Sql.scale_int w.before) (Match.points_idBinding _)
      (eval_dayDiff w task p earlier later) h hp
    rwa [Match.mapM_some] at this
  | assigned yes who =>
    refine ⟨fun _ => ?_, fun hc => absurd trivial hc⟩
    have hv : (template (.assigned yes who)).values = (assigneeTemplate who).values := by
      cases who <;> rfl
    rw [hv] at hp
    have he := eval_existence w task p hp
    cases yes with
    | true => exact he
    | false =>
      rw [tree, Expr.eval, he]
      cases ha : who.holds (w.assignees task) <;> simp [truth, ha, Datum.truth?] <;> rfl

end Test

/-! ## Conditions -/

namespace Sql.Slots

theorem foldl_bind (b : Slots) (vs : List Value) :
    vs.foldl bind b = ⟨b.first, b.values ++ vs⟩ := by
  induction vs generalizing b with
  | nil => simp
  | cons v vs ih => simp [ih, bind]

/-- Values are found behind the placeholders to which they have been bound, also after others
have been bound. -/
theorem value?_foldl_bind (b : Slots) (vs later : List Value) {k : Nat} {v : Value}
    (h : vs[k]? = some v) : ((vs ++ later).foldl bind b).value? (b.next + k) = some v := by
  have hk : k < vs.length := (List.getElem?_eq_some_iff.1 h).1
  rw [foldl_bind, value?, if_pos (by simp only [next]; omega)]
  have hsub : b.next + k - b.first = b.values.length + k := by
    simp only [next]
    omega
  simp only [hsub]
  rw [List.getElem?_append_right (by omega), Nat.add_sub_cancel_left,
    List.getElem?_append_left hk, h]

end Sql.Slots

/-- A condition that is compiled is evaluated to what it means, unless it compares with a date of
which the database does not take the text. -/
theorem Test.eval_ofCondition? {s : Scope} {c : Condition} {t : Test}
    (h : Test.ofCondition? s c = some t) (b : Sql.Slots) (w : World) (task : Task)
    (later : List Sql.Value) :
    let value := (t.tree b.next).eval
      (w.env task ((t.template.values ++ later).foldl Sql.Slots.bind b).value?)
    (c.IsCastable → value = some (.truth (t.truth w task))) ∧ (¬ c.IsCastable → value = none) := by
  obtain ⟨hproper, hcast⟩ := Condition.proper_of_ofCondition? h
  rw [hcast]
  exact Test.eval_tree w task _ hproper fun k v hk => b.value?_foldl_bind _ later hk

/-- **What a compiled condition means.**  A condition is compiled exactly if it makes sense.
Then its values are bound to the next free placeholders, and its text has one reading.  For
every task the value of that reading is what the condition means if the database takes the texts
of all dates that the condition compares with, and otherwise it is refused. -/
theorem condition_means (s : Scope) (c : Condition) (b : Sql.Slots) :
    ((Test.ofCondition? s c).isSome ↔ ∃ vs m, c.Means s vs m) ∧
    ∀ t, Test.ofCondition? s c = some t → ∀ vs m, c.Means s vs m →
      t.template.values = vs ∧
      ∃ e : Expr, (∀ e', Sql.IsReading (t.template.sql b.next) e' ↔ e' = e) ∧
        ∀ (w : World) (task : Task) (later : List Sql.Value),
          let value := e.eval (w.env task ((vs ++ later).foldl Sql.Slots.bind b).value?)
          (c.IsCastable → value = some (.truth (m w task))) ∧
          (¬ c.IsCastable → value = none) := by
  constructor
  · constructor
    · intro h
      obtain ⟨t, ht⟩ := Option.isSome_iff_exists.1 h
      exact ⟨_, _, Condition.means_of_ofCondition? ht⟩
    · rintro ⟨vs, m, h⟩
      obtain ⟨t, ht, -⟩ := Condition.means_iff.1 h
      rw [ht]
      rfl
  · intro t ht vs m h
    obtain ⟨t', ht', rfl, rfl⟩ := Condition.means_iff.1 h
    obtain rfl : t' = t := Option.some.inj (ht'.symm.trans ht)
    exact ⟨rfl, t'.tree b.next, fun e' => Sql.isReading_iff_eq (t'.isReading_test b.next),
      Test.eval_ofCondition? ht b⟩

namespace Sample

/-- Between a leap day and the end of the week after it, in loose spellings. -/
def leapWeek : Condition :=
  ⟨.dateRange, .column (.date .due), .unknown,
    [.string " 2024-2-29", .string "2024-03-06T23:59:59-08:00"], none, none, none⟩

/-- Between a day and another one, more than ten thousand years later. -/
def longWait : Condition :=
  ⟨.dateRange, .column (.date .created), .between,
    [.string "2024-01-01", .string "+12345-01-01"], none, none, none⟩

/-- The first day of 1970, and nobody to do the tasks. -/
def world : World :=
  ⟨⟨1970, 1, 1⟩, fun _ => ⟨1970, 1, 1⟩, .iso, fun a b => decide (a < b), []⟩

def task : Task :=
  { id := 1, workspace := "w", title := "Sow", description := none, status := "todo"
    priority := none, view := none, category := none, tag := none, startDate := none
    dueDate := some ⟨2024, 3, 6⟩, completedAt := none, createdAt := ⟨0, 0⟩, updatedAt := ⟨0, 0⟩
    assignees := [] }

end Sample

/-- Due on the last day of the week, with one value bound before. -/
theorem condition_means_leap_week :
    ∃ t, Test.ofCondition? ⟨"u", "Soon", .empty⟩ Sample.leapWeek = some t ∧
      t.template.values = [.scalar (.text "2024-02-29"), .scalar (.text "2024-03-06")] ∧
      ∃ e : Expr, Sql.IsReading (t.template.sql 3) e ∧
        e.eval (Sample.world.env Sample.task (Sql.Slots.value? ⟨2, [.scalar (.text "open"),
          .scalar (.text "2024-02-29"), .scalar (.text "2024-03-06")]⟩)) =
            some (.truth .yes) := by
  have hfirst : Literal.Spells (.string " 2024-2-29") ⟨2024, 2, 29⟩ :=
    Literal.date?_eq_some_iff.1 (by decide +kernel)
  have hlast : Literal.Spells (.string "2024-03-06T23:59:59-08:00") ⟨2024, 3, 6⟩ :=
    Literal.date?_eq_some_iff.1 (by decide +kernel)
  have ht : Test.ofCondition? ⟨"u", "Soon", .empty⟩ Sample.leapWeek =
      some (.date (.column .due) (.between ⟨2024, 2, 29⟩ ⟨2024, 3, 6⟩)) := by decide +kernel
  obtain ⟨hvalues, e, he, heval⟩ :=
    (condition_means ⟨"u", "Soon", .empty⟩ Sample.leapWeek ⟨2, [.scalar (.text "open")]⟩).2 _ ht _ _
      (.window rfl (.inr rfl) (.column .due) rfl hfirst hlast)
  have hcast : Sample.leapWeek.IsCastable :=
    (Condition.isCastable_iff (by decide) (.column .due)
      (.cons hfirst (.cons hlast .nil))).2 (by decide)
  have hvalue := (heval Sample.world Sample.task []).1 hcast
  rw [show Date.text ⟨2024, 2, 29⟩ = "2024-02-29" by decide +kernel,
    show Date.text ⟨2024, 3, 6⟩ = "2024-03-06" by decide +kernel] at hvalues hvalue
  exact ⟨_, ht, hvalues, e, (he e).2 rfl, hvalue⟩

/-- Not every condition that is compiled has a value: some dates are refused by the database. -/
theorem not_condition_means :
    ¬ ∀ (s : Scope) (c : Condition) (b : Sql.Slots) (t : Test) (vs : List Sql.Value)
      (m : World → Task → Truth), Test.ofCondition? s c = some t → c.Means s vs m →
      ∃ e : Expr, Sql.IsReading (t.template.sql b.next) e ∧ ∀ (w : World) (task : Task),
        e.eval (w.env task (vs.foldl Sql.Slots.bind b).value?) = some (.truth (m w task)) := by
  intro hall
  have hfirst : Literal.Spells (.string "2024-01-01") ⟨2024, 1, 1⟩ :=
    Literal.date?_eq_some_iff.1 (by decide +kernel)
  have hlast : Literal.Spells (.string "+12345-01-01") ⟨12345, 1, 1⟩ :=
    Literal.date?_eq_some_iff.1 (by decide +kernel)
  have ht : Test.ofCondition? ⟨"u", "Long", .empty⟩ Sample.longWait =
      some (.date (.column .created) (.between ⟨2024, 1, 1⟩ ⟨12345, 1, 1⟩)) := by decide +kernel
  have hcast : ¬ Sample.longWait.IsCastable :=
    (Condition.isCastable_iff (by decide) (.column .created)
      (.cons hfirst (.cons hlast .nil))).not.2 (by decide)
  obtain ⟨e, he, heval⟩ := hall _ _ ⟨1, []⟩ _ _ _ ht
    (.window rfl (.inl rfl) (.column .created) rfl hfirst hlast)
  obtain rfl := (Sql.isReading_iff_eq (Test.isReading_test _ _)).1 he
  have hnone := (Test.eval_ofCondition? ht ⟨1, []⟩ Sample.world Sample.task []).2 hcast
  cases (heval Sample.world Sample.task).symm.trans hnone

end TaskBoard
