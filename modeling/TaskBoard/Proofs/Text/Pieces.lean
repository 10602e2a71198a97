import TaskBoard.Text.Blank

/-!
# Pieces of a text

To cut a text is to split it as a list, and to join pieces is to intercalate them.  So pieces
without a separator are got back from the joined text, and a text from the pieces that it is cut
into.

    split at sep gives ws iff ws joined give the text           (split_eq_iff)
    pieces are told by their joined text                        (joinWith_inj)
-/

namespace TaskBoard.Text

theorem split_eq_splitOnP (p : Char → Bool) (cs : List Char) : split p cs = cs.splitOnP p := by
  induction cs with
  | nil => rfl
  | cons c cs ih =>
    rw [List.splitOnP_cons_eq_if_modifyHead, split, ih]
    cases h : cs.splitOnP p with
    | nil => exact absurd h (List.splitOnP_ne_nil _ _)
    | cons w ws => rfl

theorem joinWith_eq_intercalate (sep : List Char) (ws : List (List Char)) :
    joinWith sep ws = sep.intercalate ws := by
  induction ws with
  | nil => rfl
  | cons w ws ih =>
    cases ws with
    | nil => exact List.intercalate_singleton.symm
    | cons v ws =>
      show w ++ sep ++ joinWith sep (v :: ws) = _
      rw [ih, List.intercalate_cons_cons]

theorem mem_of_mem_joinWith {sep : List Char} {ws : List (List Char)} {c : Char}
    (h : c ∈ joinWith sep ws) : c ∈ sep ∨ ∃ w ∈ ws, c ∈ w := by
  induction ws with
  | nil => cases h
  | cons w ws ih =>
    cases ws with
    | nil => exact .inr ⟨w, List.mem_cons_self, h⟩
    | cons v ws =>
      change c ∈ w ++ sep ++ joinWith sep (v :: ws) at h
      rw [List.mem_append, List.mem_append] at h
      rcases h with (hw | hsep) | hrest
      · exact .inr ⟨w, List.mem_cons_self, hw⟩
      · exact .inl hsep
      · exact (ih hrest).imp_right fun ⟨u, hu, hc⟩ => ⟨u, List.mem_cons_of_mem w hu, hc⟩

/-- A text is cut behind a piece without a separator. -/
theorem split_append {p : Char → Bool} {sep : Char} (hsep : p sep = true) {w : List Char}
    (h : ∀ c ∈ w, p c = false) (rest : List Char) :
    split p (w ++ sep :: rest) = w :: split p rest := by
  rw [split_eq_splitOnP, split_eq_splitOnP,
    List.splitOnP_append_cons_of_forall_mem h sep hsep]

theorem split_eq_self {p : Char → Bool} {w : List Char} (h : ∀ c ∈ w, p c = false) :
    split p w = [w] := by
  rw [split_eq_splitOnP, List.splitOnP_eq_singleton h]

/-- The pieces of a text are those without a separator that give the text when they are joined. -/
theorem split_eq_iff {sep : Char} {cs : List Char} {ws : List (List Char)} :
    split (· == sep) cs = ws ↔
      ws ≠ [] ∧ (∀ w ∈ ws, sep ∉ w) ∧ cs = [sep].intercalate ws := by
  constructor
  · rintro rfl
    refine ⟨split_ne_nil _ cs, fun w hw hsep => ?_, ?_⟩
    · simpa using not_sep_of_mem_split hw hsep
    · rw [split_eq_splitOnP]
      exact (List.intercalate_splitOn sep).symm
  · rintro ⟨hne, hws, rfl⟩
    rw [split_eq_splitOnP]
    exact List.splitOn_intercalate sep hws hne

theorem joinWith_ne_nil {sep w : List Char} (h : w ≠ []) (ws : List (List Char)) :
    joinWith sep (w :: ws) ≠ [] := by
  cases ws with
  | nil => exact h
  | cons v ws =>
    show w ++ sep ++ joinWith sep (v :: ws) ≠ []
    simp [h]

/-- Pieces that are not empty are told by their joined text. -/
theorem joinWith_inj {sep : Char} {ws vs : List (List Char)} (hws : ∀ w ∈ ws, w ≠ [] ∧ sep ∉ w)
    (hvs : ∀ v ∈ vs, v ≠ [] ∧ sep ∉ v) (h : joinWith [sep] ws = joinWith [sep] vs) : ws = vs := by
  have hsplit : ∀ us : List (List Char), us ≠ [] → (∀ u ∈ us, u ≠ [] ∧ sep ∉ u) →
      split (· == sep) (joinWith [sep] us) = us := fun us hne hus =>
    split_eq_iff.2 ⟨hne, fun u hu => (hus u hu).2, joinWith_eq_intercalate _ _⟩
  cases ws with
  | nil =>
    cases vs with
    | nil => rfl
    | cons v vs => exact absurd h.symm (joinWith_ne_nil (hvs v List.mem_cons_self).1 vs)
  | cons w ws =>
    cases vs with
    | nil => exact absurd h (joinWith_ne_nil (hws w List.mem_cons_self).1 ws)
    | cons v vs =>
      rw [← hsplit _ (List.cons_ne_nil w ws) hws, h, hsplit _ (List.cons_ne_nil v vs) hvs]

end TaskBoard.Text
