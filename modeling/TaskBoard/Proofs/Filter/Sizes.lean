import TaskBoard.Proofs.Filter.Placeholders

/-!
# How much a filter binds

A test of a task binds one value or two, or none at all, so the number of all values follows from
the number of conditions.  Saved and custom filters are compiled side by side, and the values of the
saved ones come first.

    a test binds at most two values                             (Test.length_values_le)
    saved and custom filters bind their own values              (values_eq_append)
    limits of the filters are limits of the values              (length_values_savedOnly)
-/

namespace TaskBoard

/-- The rows hold at most so many filters, none with more than so many conditions. -/
structure RowsWithin (filters conditions : Nat) (rows : List FilterRow) : Prop where
  filters : (Definition.ofRows rows).length ≤ filters
  conditions : ∀ d ∈ Definition.ofRows rows, d.conditions.length ≤ conditions

/-- The request without its custom filters. -/
def Query.savedOnly (q : Query) : Query := { q with customFilters := [] }

/-- The request without its saved filters. -/
def Query.customOnly (q : Query) : Query := { q with filterIds := [] }

/-! ## Lemmas -/

theorem length_flatMap_le {α β : Type} {f : α → List β} {n : Nat} {l : List α}
    (h : ∀ a ∈ l, (f a).length ≤ n) : (l.flatMap f).length ≤ n * l.length := by
  induction l with
  | nil => simp
  | cons a l ih =>
    have hhead := h a List.mem_cons_self
    have htail := ih fun b hb => h b (List.mem_cons_of_mem a hb)
    rw [List.flatMap_cons, List.length_append, List.length_cons, Nat.mul_succ]
    omega

theorem Match.length_bound_le {α : Type} (b : Binding α) (m : Match α) :
    (m.bound b).length ≤ 2 := by
  cases m <;> simp [bound]

theorem Test.length_values_le (t : Test) : t.template.values.length ≤ 2 := by
  cases t with
  | null c yes => exact Nat.zero_le 2
  | assigned yes who =>
    cases who with
    | anyone => exact Nat.zero_le 2
    | user u => exact Nat.le_succ 1
    | oneOf us => exact Nat.le_succ 1
  | _ =>
    rw [template, Match.values_template]
    exact Match.length_bound_le _ _

theorem Clause.length_values_le (c : Clause) :
    c.template.values.length ≤ 2 * c.tests.length := by
  rw [c.values_template, List.flatMap_map]
  exact length_flatMap_le fun t _ => t.length_values_le

namespace Query

variable (q : Query) (rows : List FilterRow)

theorem values_compile_eq :
    (q.compile rows).values = (q.clauses rows).flatMap (·.template.values) := by
  show (q.template rows).values = _
  rw [template, Sql.Template.values_joined, List.flatMap_map]

/-- The clauses of the saved filters come before those of the custom ones. -/
theorem clauses_eq_append :
    q.clauses rows = q.savedOnly.clauses rows ++ q.customOnly.clauses [] := by
  have hsplit : q.allClauses rows = q.savedOnly.allClauses rows ++ q.customOnly.allClauses [] := by
    show _ ++ _ = (_ ++ []) ++ ([] ++ _)
    rw [List.append_nil, List.nil_append]
    rfl
  rw [clauses, hsplit, List.filter_append]
  rfl

theorem values_eq_append :
    (q.compile rows).values =
      (q.savedOnly.compile rows).values ++ (q.customOnly.compile []).values := by
  rw [values_compile_eq, values_compile_eq, values_compile_eq, clauses_eq_append,
    List.flatMap_append]

/-- A clause has no more tests than its filter has conditions. -/
theorem length_clauseOf_le (name : String) (logic : Logic) (conditions : List Condition) :
    (q.clauseOf name logic conditions).template.values.length ≤ 2 * conditions.length :=
  (Clause.length_values_le _).trans
    (Nat.mul_le_mul_left 2 (List.length_filterMap_le _ conditions))

variable {q rows} {filters conditions : Nat}

/-- Clauses that bind little, and are few, bind few values. -/
theorem length_values_le (hcount : (q.allClauses rows).length ≤ filters)
    (hsize : ∀ c ∈ q.allClauses rows, c.template.values.length ≤ 2 * conditions) :
    (q.compile rows).values.length ≤ 2 * filters * conditions := by
  have hsub : (q.clauses rows).Sublist (q.allClauses rows) := List.filter_sublist
  rw [values_compile_eq]
  calc ((q.clauses rows).flatMap (·.template.values)).length
      ≤ 2 * conditions * (q.clauses rows).length :=
        length_flatMap_le fun c hc => hsize c (hsub.subset hc)
    _ ≤ 2 * conditions * filters := Nat.mul_le_mul_left _ (hsub.length_le.trans hcount)
    _ = 2 * filters * conditions := Nat.mul_right_comm 2 conditions filters

theorem length_values_savedOnly (h : RowsWithin filters conditions rows) :
    (q.savedOnly.compile rows).values.length ≤ 2 * filters * conditions := by
  have hall : q.savedOnly.allClauses rows = (Definition.ofRows rows).map fun d =>
      q.clauseOf d.name d.logic d.conditions := List.append_nil _
  refine length_values_le ?_ fun c hc => ?_
  · rw [hall, List.length_map]
    exact h.filters
  · rw [hall] at hc
    obtain ⟨d, hd, rfl⟩ := List.mem_map.1 hc
    exact (q.length_clauseOf_le _ _ _).trans (Nat.mul_le_mul_left 2 (h.conditions d hd))

theorem length_values_customOnly (hfilters : q.customFilters.length ≤ filters)
    (hconditions : ∀ f ∈ q.customFilters, f.conditions.length ≤ conditions) :
    (q.customOnly.compile []).values.length ≤ 2 * filters * conditions := by
  have hall : q.customOnly.allClauses [] = q.customFilters.map fun f =>
      q.clauseOf (f.name.getD "") f.logic f.conditions := List.nil_append _
  refine length_values_le ?_ fun c hc => ?_
  · rw [hall, List.length_map]
    exact hfilters
  · rw [hall] at hc
    obtain ⟨f, hf, rfl⟩ := List.mem_map.1 hc
    exact (q.length_clauseOf_le _ _ _).trans (Nat.mul_le_mul_left 2 (hconditions f hf))

end Query

end TaskBoard
