import TaskBoard.Proofs.Sql.Expression

/-!
# Three-valued truth

A condition of SQL is true, false or unknown.  A conjunction is as true as the least true of
its parts, a disjunction as the most true one; a search keeps what is true.

A condition is a combination of tests: its parts that are joined by `AND`, `OR` and
parentheses alone.  Given the truth of each test, in the order in which they stand, the
condition has a truth.

    (foldl joins e es).truth = foldl of the truths              (truth_foldl_join)
-/

namespace TaskBoard

namespace Sql

inductive Truth
  | yes | no | unknown
  deriving Repr, DecidableEq

namespace Truth

def ofBool (b : Bool) : Truth := if b then yes else no

def and : Truth → Truth → Truth
  | no, _ => no
  | yes, b => b
  | unknown, no => no
  | unknown, _ => unknown

def or : Truth → Truth → Truth
  | yes, _ => yes
  | no, b => b
  | unknown, yes => yes
  | unknown, _ => unknown

def not : Truth → Truth
  | yes => no
  | no => yes
  | unknown => unknown

/-- The conjunction of a list. -/
def all (vs : List Truth) : Truth := vs.foldr and yes

/-- The disjunction of a list. -/
def any (vs : List Truth) : Truth := vs.foldr or no

theorem and_assoc (a b c : Truth) : (a.and b).and c = a.and (b.and c) := by
  cases a <;> cases b <;> cases c <;> rfl

theorem or_assoc (a b c : Truth) : (a.or b).or c = a.or (b.or c) := by
  cases a <;> cases b <;> cases c <;> rfl

theorem and_yes (a : Truth) : a.and yes = a := by cases a <;> rfl

theorem or_no (a : Truth) : a.or no = a := by cases a <;> rfl

theorem foldl_and (a : Truth) (vs : List Truth) : vs.foldl and a = a.and (all vs) := by
  induction vs generalizing a with
  | nil => exact (and_yes a).symm
  | cons v vs ih =>
    rw [List.foldl_cons, ih, and_assoc]
    rfl

theorem foldl_or (a : Truth) (vs : List Truth) : vs.foldl or a = a.or (any vs) := by
  induction vs generalizing a with
  | nil => exact (or_no a).symm
  | cons v vs ih =>
    rw [List.foldl_cons, ih, or_assoc]
    rfl

end Truth

end Sql

/-! ## Joining by logic -/

namespace Logic

def expr : Logic → Sql.Expr → Sql.Expr → Sql.Expr
  | .and => .and
  | .or => .or

def join : Logic → Sql.Truth → Sql.Truth → Sql.Truth
  | .and => .and
  | .or => .or

/-- The truth of tests that are joined by a logic. -/
def combine : Logic → List Sql.Truth → Sql.Truth
  | .and => .all
  | .or => .any

theorem foldl_join (l : Logic) (a : Sql.Truth) (vs : List Sql.Truth) :
    vs.foldl l.join a = l.combine (a :: vs) := by
  cases l with
  | and => exact Sql.Truth.foldl_and a vs
  | or => exact Sql.Truth.foldl_or a vs

end Logic

/-! ## Combinations of tests -/

namespace Sql.Expr

/-- The parts of a condition that are joined by `AND`, `OR` and parentheses alone. -/
def tests : Expr → List Expr
  | and a b => a.tests ++ b.tests
  | or a b => a.tests ++ b.tests
  | paren a => a.tests
  | e => [e]

/-- The truth of a condition whose tests have these truths, in order. -/
def truth : Expr → List Truth → Truth
  | and a b, vs => (a.truth (vs.take a.tests.length)).and (b.truth (vs.drop a.tests.length))
  | or a b, vs => (a.truth (vs.take a.tests.length)).or (b.truth (vs.drop a.tests.length))
  | paren a, vs => a.truth vs
  | _, vs => vs.headD .unknown

/-- Whether an expression is one test. -/
def isTest : Expr → Bool
  | and _ _ => false
  | or _ _ => false
  | paren _ => false
  | _ => true

theorem tests_of_isTest {e : Expr} (h : e.isTest) : e.tests = [e] := by
  cases e <;> first | rfl | cases h

theorem truth_of_isTest {e : Expr} (h : e.isTest) (v : Truth) : e.truth [v] = v := by
  cases e <;> first | rfl | cases h

theorem tests_join (l : Logic) (a b : Expr) : (l.expr a b).tests = a.tests ++ b.tests := by
  cases l <;> rfl

theorem truth_join (l : Logic) (a b : Expr) {vs : List Truth} (h : vs.length = a.tests.length)
    (ws : List Truth) : (l.expr a b).truth (vs ++ ws) = l.join (a.truth vs) (b.truth ws) := by
  cases l <;> simp [Logic.expr, Logic.join, truth, ← h]

theorem tests_foldl_join (l : Logic) (e : Expr) (es : List Expr) :
    (es.foldl l.expr e).tests = e.tests ++ es.flatMap tests := by
  induction es generalizing e with
  | nil => simp
  | cons b es ih => simp [ih, tests_join]

/-- Each part of a chain takes its own share of the truths. -/
theorem truth_foldl_join (l : Logic) (e : Expr) (es : List Expr) {vs : List Truth}
    (hv : vs.length = e.tests.length) (wss : List (List Truth))
    (hw : wss.map List.length = es.map fun e => e.tests.length) :
    (es.foldl l.expr e).truth (vs ++ wss.flatten) =
      (List.zipWith truth es wss).foldl l.join (e.truth vs) := by
  induction es generalizing e vs wss with
  | nil =>
    have : wss = [] := by simpa using hw
    subst this
    simp
  | cons b es ih =>
    cases wss with
    | nil => simp at hw
    | cons ws wss =>
      simp only [List.map_cons, List.cons.injEq] at hw
      have hvw : (vs ++ ws).length = (l.expr e b).tests.length := by
        simp [tests_join, hv, hw.1]
      have h := ih (l.expr e b) hvw wss hw.2
      rw [truth_join l e b hv] at h
      simpa [List.append_assoc] using h

theorem flatMap_tests {es : List Expr} (h : ∀ a ∈ es, a.isTest) : es.flatMap tests = es := by
  induction es with
  | nil => rfl
  | cons a es ih =>
    obtain ⟨ha, hes⟩ := List.forall_mem_cons.1 h
    rw [List.flatMap_cons, tests_of_isTest ha, ih hes]
    rfl

/-- Single tests take one truth each. -/
theorem zipWith_truth_singletons {es : List Expr} (h : ∀ a ∈ es, a.isTest) {vs : List Truth}
    (hv : vs.length = es.length) :
    ((vs.map fun v => [v]).map List.length = es.map fun a => a.tests.length) ∧
      List.zipWith truth es (vs.map fun v => [v]) = vs := by
  induction es generalizing vs with
  | nil =>
    have : vs = [] := by simpa using hv
    subst this
    exact ⟨rfl, rfl⟩
  | cons a es ih =>
    obtain ⟨v, vs, rfl⟩ := List.exists_cons_of_length_eq_add_one hv
    obtain ⟨ha, hes⟩ := List.forall_mem_cons.1 h
    obtain ⟨hlen, hzip⟩ := ih hes (by simpa using hv)
    constructor
    · rw [List.map_cons, List.map_cons, List.map_cons, hlen, tests_of_isTest ha]
      rfl
    · rw [List.map_cons, List.zipWith_cons_cons, hzip, truth_of_isTest ha]

/-- A chain of single tests has the truth that its logic gives theirs. -/
theorem truth_chain (l : Logic) {e : Expr} {es : List Expr} (h : ∀ a ∈ e :: es, a.isTest)
    {vs : List Truth} (hv : vs.length = (e :: es).length) :
    (es.foldl l.expr e).truth vs = l.combine vs := by
  obtain ⟨he, hes⟩ := List.forall_mem_cons.1 h
  obtain ⟨v, vs, rfl⟩ := List.exists_cons_of_length_eq_add_one hv
  obtain ⟨hlen, hzip⟩ := zipWith_truth_singletons hes
    (show vs.length = es.length by simpa using hv)
  have hone : [v].length = e.tests.length := by rw [tests_of_isTest he]; rfl
  have := truth_foldl_join l e es hone _ hlen
  rw [hzip, truth_of_isTest he, ← List.flatMap_def, List.flatMap_singleton', l.foldl_join] at this
  exact this

end Sql.Expr

end TaskBoard
