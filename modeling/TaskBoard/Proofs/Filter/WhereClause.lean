import TaskBoard.Postgres.Store
import TaskBoard.Proofs.Filter.Reading
import TaskBoard.Proofs.Filter.Regrouping

/-!
# The search condition of a listing

The workspace of a listing and the filters of a request are put into one condition by joining
texts.  Read as SQL, it has one meaning: the task is in the workspace, and for each filter
that has a test, its tests hold together or one of them does, as the filter's own operator
says.

    whereText (q.compile rows) has one reading                  (where_combines)
      its tests are the workspace and the tests of the groups
      its truth is w.and (the conjunction of the groups)
-/

namespace TaskBoard

open Sql (Expr Truth Fragment IsReading)

/-! ## Groups -/

/-- One filter of a request, saved or custom. -/
structure FilterPart where
  logic : Logic
  scope : Scope
  conditions : List Condition

/-- The tests of the filter: those of its conditions that have one. -/
def FilterPart.clause (p : FilterPart) : Clause :=
  ⟨p.logic, p.conditions.filterMap (Test.ofCondition? p.scope)⟩

namespace Query

/-- The saved filter of this number.  The first row of the number names it; every row of the
number may hold a condition. -/
def savedPart? (q : Query) (rows : List FilterRow) (id : Int) : Option FilterPart :=
  (rows.find? (·.filterId = id)).map fun r =>
    { logic := .ofText r.logic
      scope := ⟨q.user, r.name, q.overrides⟩
      conditions := (rows.filter (·.filterId = id)).filterMap Condition.ofRow? }

def customPart (q : Query) (f : CustomFilter) : FilterPart :=
  ⟨f.logic, ⟨q.user, f.name.getD "", q.overrides⟩, f.conditions⟩

/-- The filters of a request: the saved ones in the order in which their numbers first appear,
and then the custom ones. -/
def parts (q : Query) (rows : List FilterRow) : List FilterPart :=
  (rows.map (·.filterId)).eraseDups.filterMap (q.savedPart? rows) ++
    q.customFilters.map q.customPart

/-- The filters that have a test. -/
def groups (q : Query) (rows : List FilterRow) : List Clause :=
  ((q.parts rows).map FilterPart.clause).filter fun g => !g.tests.isEmpty

end Query

/-- The texts of successive tests, the first placeholder being `$i`. -/
def Test.texts (i : Nat) : List Test → List String
  | [] => []
  | t :: ts => t.template.sql i :: texts (i + t.template.values.length) ts

/-- The condition for the workspace of a listing. -/
def workspaceText : String := "t.workspace_id = $1"

def workspaceTree : Expr := .compare .eq (.column taskAlias "workspace_id") (.slot 1)

/-! ## Clauses -/

/-- Compiling goes over the groups. -/
theorem Query.clauses_eq (q : Query) (rows : List FilterRow) : q.clauses rows = q.groups rows := by
  have saved : (Definition.ofRows rows).map (fun d => q.clauseOf d.name d.logic d.conditions) =
      ((rows.map (·.filterId)).eraseDups.filterMap (q.savedPart? rows)).map FilterPart.clause := by
    rw [Definition.ofRows_eq, Definition.heads_eq, List.map_map, List.map_filterMap,
      List.map_filterMap]
    refine List.filterMap_congr fun id _ => ?_
    rw [savedPart?]
    cases hr : rows.find? (·.filterId = id) with
    | none => rfl
    | some r =>
      have hid : r.filterId = id := by simpa using List.find?_some hr
      subst hid
      rfl
  rw [clauses, allClauses, groups, parts, List.map_append, saved, List.map_map]
  rfl

/-! ## Tests in a row -/

namespace Test

theorem forall₂_texts (i : Nat) (ts : List Test) :
    List.Forall₂ IsReading (texts i ts) (Fragment.numbered i (ts.map fragment)) := by
  induction ts generalizing i with
  | nil => exact .nil
  | cons t ts ih => exact .cons (isReading_test i t) (ih _)

theorem isTest_numbered (i : Nat) (ts : List Test) :
    ∀ a ∈ Fragment.numbered i (ts.map fragment), a.isTest := by
  intro a h
  obtain ⟨f, hf, n, rfl⟩ := Fragment.mem_numbered h
  obtain ⟨t, -, rfl⟩ := List.mem_map.1 hf
  exact isTest_tree n t

end Test

/-! ## Clauses -/

namespace Clause

/-- The clause as a fragment; without a test it has no expression. -/
def fragment (c : Clause) : Fragment :=
  match c.tests with
  | [] => ⟨c.template, .slot⟩
  | t :: ts => (Fragment.joined c.logic t.fragment (ts.map Test.fragment)).paren

theorem template_fragment (c : Clause) : c.fragment.template = c.template := by
  rcases c with ⟨l, _ | ⟨t, ts⟩⟩
  · rfl
  · simp [fragment, template, Fragment.paren, Fragment.joined, Test.fragment, Function.comp_def]

theorem values_template (c : Clause) :
    c.template.values = (c.tests.map Test.fragment).flatMap (·.template.values) := by
  rw [template, Sql.Template.values_inParens, Sql.Template.values_joined, List.flatMap_map,
    List.flatMap_map]
  rfl

section

variable {c : Clause} (h : c.tests ≠ [])

include h

theorem reads_fragment : c.fragment.Reads := by
  obtain ⟨l, _ | ⟨t, ts⟩⟩ := c
  · exact absurd rfl h
  · refine Fragment.reads_paren (Fragment.reads_joined l fun g hg => ?_)
    rw [← List.map_cons] at hg
    obtain ⟨u, -, rfl⟩ := List.mem_map.1 hg
    exact u.reads_fragment

theorem stands_fragment : c.fragment.Stands := by
  obtain ⟨l, _ | ⟨t, ts⟩⟩ := c
  · exact absurd rfl h
  · refine Fragment.stands_paren (Fragment.graded_joined l fun g hg => ?_)
    rw [← List.map_cons] at hg
    obtain ⟨u, -, rfl⟩ := List.mem_map.1 hg
    exact u.stands_fragment

theorem tests_tree (i : Nat) :
    (c.fragment.tree i).tests = Fragment.numbered i (c.tests.map Test.fragment) := by
  obtain ⟨l, _ | ⟨t, ts⟩⟩ := c
  · exact absurd rfl h
  · have := Sql.Expr.flatMap_tests (Test.isTest_numbered i (t :: ts))
    simpa [fragment, Fragment.paren, Fragment.joined, Sql.Expr.tests, Sql.Expr.tests_foldl_join,
      Fragment.numbered] using this

theorem truth_tree (i : Nat) {vs : List Truth} (hv : vs.length = c.tests.length) :
    (c.fragment.tree i).truth vs = c.logic.combine vs := by
  obtain ⟨l, _ | ⟨t, ts⟩⟩ := c
  · exact absurd rfl h
  · refine Sql.Expr.truth_chain l (Test.isTest_numbered i (t :: ts)) ?_
    simpa [Fragment.length_numbered] using hv

end

/-! ### Clauses in a row -/

section

variable {cs : List Clause} (h : ∀ c ∈ cs, c.tests ≠ [])

include h

theorem tests_numbered (i : Nat) :
    (Fragment.numbered i (cs.map fragment)).flatMap Expr.tests =
      Fragment.numbered i ((cs.flatMap tests).map Test.fragment) := by
  induction cs generalizing i with
  | nil => rfl
  | cons c cs ih =>
    obtain ⟨hc, hcs⟩ := List.forall_mem_cons.1 h
    rw [List.map_cons, Fragment.numbered, List.flatMap_cons, List.flatMap_cons, List.map_append,
      Fragment.numbered_append, tests_tree hc, ih hcs, template_fragment, values_template]

theorem length_tests_numbered (i : Nat) :
    ((Fragment.numbered i (cs.map fragment)).map fun e => e.tests.length) =
      cs.map fun c => c.tests.length := by
  induction cs generalizing i with
  | nil => rfl
  | cons c cs ih =>
    obtain ⟨hc, hcs⟩ := List.forall_mem_cons.1 h
    rw [List.map_cons, Fragment.numbered, List.map_cons, List.map_cons, tests_tree hc, ih hcs,
      Fragment.length_numbered, List.length_map]

theorem truth_numbered (i : Nat) {vss : List (List Truth)}
    (hv : vss.map List.length = cs.map fun c => c.tests.length) :
    List.zipWith Expr.truth (Fragment.numbered i (cs.map fragment)) vss =
      List.zipWith (fun c vs => c.logic.combine vs) cs vss := by
  induction cs generalizing i vss with
  | nil => rfl
  | cons c cs ih =>
    obtain ⟨hc, hcs⟩ := List.forall_mem_cons.1 h
    cases vss with
    | nil => rfl
    | cons vs vss =>
      obtain ⟨hv, hvs⟩ := List.cons.inj hv
      rw [List.map_cons, Fragment.numbered, List.zipWith_cons_cons, List.zipWith_cons_cons,
        truth_tree hc i hv, ih hcs _ hvs]

end

/-- Clauses joined by `AND`. -/
def conjunction (c : Clause) (cs : List Clause) : Fragment :=
  .joined .and c.fragment (cs.map fragment)

theorem template_conjunction (c : Clause) (cs : List Clause) :
    (conjunction c cs).template = .joined " AND " ((c :: cs).map template) := by
  have : ((c :: cs).map fragment).map (·.template) = (c :: cs).map template := by
    rw [List.map_map]
    exact List.map_congr_left fun c _ => template_fragment c
  rw [← this]
  rfl

section

variable {c : Clause} {cs : List Clause} (h : ∀ d ∈ c :: cs, d.tests ≠ [])

include h

theorem reads_conjunction : (conjunction c cs).Reads := by
  refine Fragment.reads_joined .and fun g hg => ?_
  rw [← List.map_cons] at hg
  obtain ⟨d, hd, rfl⟩ := List.mem_map.1 hg
  exact reads_fragment (h d hd)

theorem graded_conjunction (i : Nat) : ((conjunction c cs).tree i).Graded := by
  refine Fragment.graded_joined .and (fun g hg => ?_) i
  rw [← List.map_cons] at hg
  obtain ⟨d, hd, rfl⟩ := List.mem_map.1 hg
  exact stands_fragment (h d hd)

theorem tests_conjunction (i : Nat) :
    ((conjunction c cs).tree i).tests =
      Fragment.numbered i (((c :: cs).flatMap tests).map Test.fragment) := by
  rw [← tests_numbered h i, conjunction, Fragment.joined, Expr.tests_foldl_join]
  rfl

theorem truth_conjunction (i : Nat) {vss : List (List Truth)}
    (hv : vss.map List.length = (c :: cs).map fun c => c.tests.length) :
    ((conjunction c cs).tree i).truth vss.flatten =
      Truth.all (List.zipWith (fun c vs => c.logic.combine vs) (c :: cs) vss) := by
  cases vss with
  | nil => cases hv
  | cons vs vss =>
    obtain ⟨hvs, hvss⟩ := List.cons.inj hv
    obtain ⟨hc, hcs⟩ := List.forall_mem_cons.1 h
    have hlen : vs.length = (c.fragment.tree i).tests.length := by
      rw [tests_tree hc, Fragment.length_numbered, List.length_map, hvs]
    rw [← length_tests_numbered hcs (i + c.fragment.template.values.length)] at hvss
    rw [List.flatten_cons, conjunction, Fragment.joined, Expr.truth_foldl_join .and _ _ hlen _ hvss,
      Logic.foldl_join, truth_tree hc i hvs]
    rw [length_tests_numbered hcs] at hvss
    rw [truth_numbered hcs _ hvss]
    rfl

end

end Clause

/-! ## The whole condition -/

namespace Query

theorem tests_ne_nil {q : Query} {rows : List FilterRow} {g : Clause} (h : g ∈ q.groups rows) :
    g.tests ≠ [] := by
  have := (List.mem_filter.1 h).2
  simpa using this

theorem isReading_workspace : IsReading workspaceText workspaceTree := by
  refine ⟨by decide, ?_⟩
  simp [workspaceTree, Expr.Graded, Expr.level]

/-- A condition in parentheses can stand behind the one for the workspace. -/
theorem isReading_scoped {f : Fragment} (h : f.Reads) {i : Nat} (hg : (f.tree i).Graded) :
    IsReading ("t.workspace_id = $1 AND (" ++ f.template.sql i ++ ")")
      (.and workspaceTree (.paren (f.tree i))) := by
  have ho : Sql.tokens? "t.workspace_id = $1 AND (".toList =
      some (workspaceTree.spell ++ [.key .and, .opening]) := by decide
  have hf := h i Sql.delimits_closing.opens Sql.delimits_closing.tokens
  have := Sql.tokens?_closed (by decide) ho hf
  constructor
  · simpa [String.toList_append, List.append_assoc] using this
  · refine ⟨⟨?_, isReading_workspace.2⟩, ?_, hg⟩ <;> simp [workspaceTree, Expr.level]

/-- Behind the workspace, the truths of a condition follow that of the workspace. -/
theorem truth_scoped (e : Expr) (w : Truth) (vs : List Truth) :
    (Expr.and workspaceTree (.paren e)).truth (w :: vs) = w.and (e.truth vs) := rfl

/-- **One condition for the whole request.**  The text of a listing has one reading.  Its tests
are the workspace and the tests of the groups, each once and in order; and whatever the truth
of each, the condition is as true as the workspace and every group together, a group being
joined by its own logic. -/
theorem where_combines (q : Query) (rows : List FilterRow) (h : q.start = 2) :
    Postgres.misaligned? (q.compile rows) = none ∧
    ((q.compile rows).predicate = none ↔ q.groups rows = []) ∧
    (q.groups rows = [] → Postgres.whereText (q.compile rows) = workspaceText) ∧
    ∃ e : Expr, (∀ e', IsReading (Postgres.whereText (q.compile rows)) e' ↔ e' = e) ∧
      List.Forall₂ IsReading
        (workspaceText :: Test.texts 2 ((q.groups rows).flatMap (·.tests))) e.tests ∧
      ∀ (w : Truth) (vss : List (List Truth)),
        vss.map List.length = (q.groups rows).map (fun g => g.tests.length) →
          e.truth (w :: vss.flatten) =
            w.and (Truth.all
              (List.zipWith (fun g vs => g.logic.combine vs) (q.groups rows) vss)) := by
  have hfirst : q.first = 2 := by simp [first, h]
  refine ⟨?_, ?_, ?_, ?_⟩
  · simp [Postgres.misaligned?, Postgres.firstFilterSlot, next_compile, hfirst]
  · simp [compile, clauses_eq]
  · intro hg
    simp [compile, clauses_eq, hg, Postgres.whereText, workspaceText]
  · cases hg : q.groups rows with
    | nil =>
      have ht : Postgres.whereText (q.compile rows) = workspaceText := by
        simp [compile, clauses_eq, hg, Postgres.whereText, workspaceText]
      rw [ht]
      refine ⟨workspaceTree, fun e' => Sql.isReading_iff_eq isReading_workspace,
        .cons isReading_workspace .nil, fun w vss hv => ?_⟩
      have hnil : vss = [] := by simpa using hv
      rw [hnil]
      exact (Truth.and_yes w).symm
    | cons c cs =>
      have hne : ∀ d ∈ c :: cs, d.tests ≠ [] := fun d hd => tests_ne_nil (hg ▸ hd)
      have ht : Postgres.whereText (q.compile rows) =
          "t.workspace_id = $1 AND (" ++ (Clause.conjunction c cs).template.sql 2 ++ ")" := by
        simp [compile, template, clauses_eq, hg, hfirst, Postgres.whereText,
          Clause.template_conjunction]
      have hread := isReading_scoped (Clause.reads_conjunction hne)
        (Clause.graded_conjunction hne 2)
      rw [ht]
      refine ⟨_, fun e' => Sql.isReading_iff_eq hread, ?_, fun w vss hv => ?_⟩
      · have := Test.forall₂_texts 2 ((c :: cs).flatMap (·.tests))
        rw [← Clause.tests_conjunction hne] at this
        exact .cons isReading_workspace this
      · rw [truth_scoped, Clause.truth_conjunction hne 2 hv]

/-- A saved filter that joins by `OR`, a custom one without a test, and one with a range. -/
theorem where_combines_three_filters :
    let rows : List FilterRow :=
      [⟨7, "Open", "or", some 1, some "list", some "assignee", none, none, some "is null", none,
        none⟩,
       ⟨7, "Open", "or", some 2, some "list", some "status", none, none, some "=",
        some [.string "done"], none⟩]
    let q : Query :=
      ⟨[7], [⟨none, .and, [⟨.list, .unknown, .null, [], none, none, none⟩]⟩,
        ⟨none, .and, [⟨.list, .column (.id .tag), .between, [.string "1", .string "9"], none, none,
          none⟩]⟩], "u", .empty, 2⟩
    q.start = 2 ∧
      ∃ e, (∀ e', IsReading (Postgres.whereText (q.compile rows)) e' ↔ e' = e) ∧
        e.truth [.yes, .no, .unknown, .yes] = .unknown := by
  intro rows q
  obtain ⟨-, -, -, e, he, -, ht⟩ := where_combines q rows rfl
  refine ⟨rfl, e, he, ?_⟩
  exact (ht .yes [[.no, .unknown], [.yes]] (by decide)).trans (by decide)

end Query

end TaskBoard
