import Mathlib.Data.List.DropRight
import TaskBoard.Numeral
import TaskBoard.Proofs.Text.Pieces

/-!
# Blanks around a text

Trimming a text twice is trimming it once, and the words of a text are those of the trimmed text:
how many blanks stand around the words and between them makes no difference to the words.

    trim (trim cs) = trim cs                                    (trim_trim)
    trim cs is empty iff cs has nothing but blanks              (trim_eq_nil_iff)
    words (trim cs) = words cs                                  (words_trim)
    the words of a text are those that it spaces                (spaced_iff)
-/

namespace TaskBoard.Text

theorem isBlank_of_isDigit {c : Char} (h : Numeral.isDigit c = true) : isBlank c = false := by
  -- the blanks below the digits and above them are ranges
  have hc : '0'.toNat ≤ c.toNat ∧ c.toNat ≤ '9'.toNat := by
    simp only [Numeral.isDigit, Numeral.digitValue?] at h
    split at h
    · next hc => exact hc
    · cases h
  have h0 : '0'.toNat = 48 := rfl
  have h9 : '9'.toNat = 57 := rfl
  simp only [isBlank, inRanges, blankRanges, List.any_cons, List.any_nil, Bool.or_false,
    Bool.or_eq_false_iff, Bool.and_eq_false_iff, decide_eq_false_iff_not]
  omega

/-! ## Trimming twice -/

theorem trimRight_eq (cs : List Char) : trimRight cs = cs.rdropWhile isBlank := rfl

theorem trimLeft_trim (cs : List Char) : trimLeft (trim cs) = trim cs := by
  cases ht : trim cs with
  | nil => rfl
  | cons c ds =>
    -- the first character is that of the text without the blanks it starts with
    have hpre : trim cs <+: trimLeft cs := List.rdropWhile_prefix _ _
    rw [ht] at hpre
    obtain ⟨rest, hrest⟩ := hpre
    have hc : isBlank c = false := isBlank_head_trimLeft (by rw [← hrest]; rfl)
    rw [trimLeft, List.dropWhile_cons_of_neg]
    simp [hc]

theorem trim_trim (cs : List Char) : trim (trim cs) = trim cs := by
  have hr : trimRight (trim cs) = trim cs := List.rdropWhile_idempotent _ _
  show trimRight (trimLeft (trim cs)) = trim cs
  rw [trimLeft_trim, hr]

/-! ## What is left -/

theorem trimLeft_append {b cs : List Char} (hb : ∀ c ∈ b, isBlank c = true)
    (hcs : ∀ c ∈ cs.head?, isBlank c = false) : trimLeft (b ++ cs) = cs := by
  rw [trimLeft, List.dropWhile_append_of_pos hb]
  cases cs with
  | nil => rfl
  | cons c cs =>
    have hc : isBlank c = false := hcs c rfl
    exact List.dropWhile_cons_of_neg (by simp [hc])

/-- The blanks that a text starts with, and the rest. -/
theorem exists_trimLeft (cs : List Char) :
    ∃ b, (∀ c ∈ b, isBlank c = true) ∧ cs = b ++ trimLeft cs :=
  ⟨cs.takeWhile isBlank, fun _ hc => List.mem_takeWhile_imp hc, List.takeWhile_append_dropWhile.symm⟩

/-- A text with no blank at its ends stays as it is. -/
theorem trim_eq_self {cs : List Char} (hfirst : ∀ c ∈ cs.head?, isBlank c = false)
    (hlast : ∀ c ∈ cs.getLast?, isBlank c = false) : trim cs = cs := by
  have hleft : trimLeft cs = cs := trimLeft_append (b := []) (by simp) hfirst
  rw [trim, hleft, trimRight_eq, List.rdropWhile_eq_self_iff]
  intro hne
  rw [hlast _ (List.getLast?_eq_some_getLast hne)]
  exact Bool.false_ne_true

theorem trim_eq_nil_iff {cs : List Char} : trim cs = [] ↔ ∀ c ∈ cs, isBlank c = true := by
  rw [trim, trimRight_eq, List.rdropWhile_eq_nil_iff]
  constructor
  · intro h
    cases hl : trimLeft cs with
    | nil => exact List.dropWhile_eq_nil_iff.1 hl
    | cons c ds =>
      -- what is left on the left side does not start with a blank
      have hc : isBlank c = false := isBlank_head_trimLeft (by rw [hl]; rfl)
      rw [h c (hl ▸ List.mem_cons_self)] at hc
      cases hc
  · exact fun h c hc => h c ((List.dropWhile_sublist _).subset hc)

/-- Trimming leaves a text that is not empty if there are blanks around it, and none at its own
ends. -/
theorem trim_eq_iff {cs t : List Char} (ht : t ≠ []) : trim cs = t ↔ ∃ left right,
    cs = left ++ t ++ right ∧ (∀ c ∈ left ++ right, isBlank c = true) ∧
      isBlank (t.head ht) = false ∧ isBlank (t.getLast ht) = false := by
  constructor
  · rintro rfl
    refine ⟨cs.takeWhile isBlank, (trimLeft cs).rtakeWhile isBlank, ?_, fun c hc => ?_, ?_, ?_⟩
    · rw [List.append_assoc]
      show cs = _ ++ (List.rdropWhile isBlank (trimLeft cs) ++ _)
      rw [List.rdropWhile_append_rtakeWhile]
      exact List.takeWhile_append_dropWhile.symm
    · rcases List.mem_append.1 hc with hc | hc
      · exact List.mem_takeWhile_imp hc
      · exact List.mem_rtakeWhile_imp hc
    · have hfirst : (trimLeft (trim cs)).head? = some ((trim cs).head ht) := by
        rw [trimLeft_trim]
        exact List.head?_eq_some_head ht
      exact isBlank_head_trimLeft hfirst
    · rw [← Bool.not_eq_true]
      exact List.rdropWhile_last_not isBlank (trimLeft cs) ht
  · rintro ⟨left, right, rfl, hblank, hhead, hlast⟩
    have hleft : trimLeft (left ++ t ++ right) = t ++ right := by
      obtain ⟨c, t, rfl⟩ := List.exists_cons_of_ne_nil ht
      rw [trimLeft, List.append_assoc, List.dropWhile_append_of_pos fun c hc =>
        hblank c (List.mem_append_left _ hc)]
      exact List.dropWhile_cons_of_neg (by rw [← Bool.not_eq_true] at hhead; exact hhead)
    have hlast' : t.rdropWhile isBlank = t :=
      List.rdropWhile_eq_self_iff.2 fun _ => by rw [hlast]; decide
    rw [trim, hleft, trimRight_eq, List.rdropWhile, List.reverse_append,
      List.dropWhile_append_of_pos fun c hc =>
        hblank c (List.mem_append_right _ (List.mem_reverse.1 hc))]
    exact hlast'

theorem length_trim_le (cs : List Char) : (trim cs).length ≤ cs.length :=
  ((List.rdropWhile_prefix _ _).sublist.trans (List.dropWhile_sublist _)).length_le

theorem length_trimmed_le (s : String) : (trimmed s).length ≤ s.length := by
  rw [trimmed, String.length_ofList, ← String.length_toList]
  exact length_trim_le s.toList

theorem length_trimmed_pos_iff {s : String} : 1 ≤ (trimmed s).length ↔ allBlank s = false := by
  rw [trimmed, String.length_ofList, Nat.one_le_iff_ne_zero, Ne, List.length_eq_zero_iff,
    trim_eq_nil_iff, ← Bool.not_eq_true, allBlank, List.all_eq_true]

/-! ## Words -/

theorem split_concat {p : Char → Bool} {c : Char} (h : p c = true) (cs : List Char) :
    split p (cs ++ [c]) = split p cs ++ [[]] := by
  induction cs with
  | nil => simp [split, h]
  | cons d cs ih =>
    rw [List.cons_append, split, split, ih]
    by_cases hd : p d = true
    · simp [hd]
    · cases hs : split p cs with
      | nil => exact absurd hs (split_ne_nil p cs)
      | cons w ws => simp [hd]

theorem words_cons {c : Char} (h : isBlank c = true) (cs : List Char) :
    words (c :: cs) = words cs := by
  simp [words, split, h]

theorem words_concat {c : Char} (h : isBlank c = true) (cs : List Char) :
    words (cs ++ [c]) = words cs := by
  simp [words, split_concat h]

theorem words_trimLeft (cs : List Char) : words (trimLeft cs) = words cs := by
  induction cs with
  | nil => rfl
  | cons c cs ih =>
    by_cases h : isBlank c = true
    · rw [words_cons h, ← ih, trimLeft, List.dropWhile_cons_of_pos h]
      rfl
    · rw [trimLeft, List.dropWhile_cons_of_neg h]

theorem words_trimRight (cs : List Char) : words (trimRight cs) = words cs := by
  induction cs using List.reverseRecOn with
  | nil => rfl
  | append_singleton cs c ih =>
    rw [trimRight_eq]
    by_cases h : isBlank c = true
    · rw [List.rdropWhile_concat_pos _ _ _ h, words_concat h, ← ih]
      rfl
    · rw [List.rdropWhile_concat_neg _ _ _ h]

theorem words_trim (cs : List Char) : words (trim cs) = words cs := by
  rw [trim, words_trimRight, words_trimLeft]

/-- A text that is these words, in order, with blanks around them and at least one between two. -/
inductive Spaced : List (List Char) → List Char → Prop
  | nil {gap : List Char} (hgap : ∀ c ∈ gap, isBlank c = true) : Spaced [] gap
  | cons (gap : List Char) {w cs : List Char} {ws : List (List Char)}
      (hgap : ∀ c ∈ gap, isBlank c = true) (hne : w ≠ []) (hw : ∀ c ∈ w, isBlank c = false)
      (hsep : ∀ c ∈ cs.head?, isBlank c = true) (hcs : Spaced ws cs) :
      Spaced (w :: ws) (gap ++ w ++ cs)

@[simp] theorem words_nil : words [] = [] := rfl

theorem words_append {gap : List Char} (h : ∀ c ∈ gap, isBlank c = true) (cs : List Char) :
    words (gap ++ cs) = words cs := by
  induction gap with
  | nil => rfl
  | cons c gap ih =>
    rw [List.cons_append, words_cons (h c List.mem_cons_self),
      ih fun d hd => h d (List.mem_cons_of_mem c hd)]

/-- The first word ends where a blank follows, or the text. -/
theorem words_append_of_word {w cs : List Char} (hne : w ≠ []) (hw : ∀ c ∈ w, isBlank c = false)
    (hsep : ∀ c ∈ cs.head?, isBlank c = true) : words (w ++ cs) = w :: words cs := by
  cases cs with
  | nil =>
    rw [List.append_nil, words_nil]
    simp [words, split_eq_self hw, hne]
  | cons c cs =>
    have hc : isBlank c = true := hsep c rfl
    rw [words_cons hc]
    simp [words, split_append hc hw, hne]

theorem words_eq_self {w : List Char} (hne : w ≠ []) (hw : ∀ c ∈ w, isBlank c = false) :
    words w = [w] := by
  have h : words (w ++ []) = w :: words [] := words_append_of_word hne hw nofun
  simpa using h

namespace Spaced

variable {ws : List (List Char)} {w cs : List Char} {c : Char}

theorem words_eq (h : Spaced ws cs) : words cs = ws := by
  induction h with
  | nil hgap => simpa using words_append hgap []
  | cons gap hgap hne hw hsep hcs ih =>
    rw [List.append_assoc, words_append hgap, words_append_of_word hne hw hsep, ih]

theorem cons_blank (hc : isBlank c = true) (h : Spaced ws cs) : Spaced ws (c :: cs) := by
  cases h with
  | nil hgap => exact .nil (List.forall_mem_cons.2 ⟨hc, hgap⟩)
  | cons gap hgap hne hw hsep hcs =>
    exact .cons (c :: gap) (List.forall_mem_cons.2 ⟨hc, hgap⟩) hne hw hsep hcs

/-- A word that stands alone in front of the others. -/
theorem cons_word (hc : isBlank c = false) (hsep : ∀ d ∈ cs.head?, isBlank d = true)
    (h : Spaced ws cs) : Spaced ([c] :: ws) (c :: cs) :=
  .cons [] nofun (List.cons_ne_nil c []) (by simpa using hc) hsep h

/-- A letter that goes on with the first word. -/
theorem exists_cons_letter {d : Char} (hc : isBlank c = false) (hd : isBlank d = false)
    (h : Spaced ws (d :: cs)) : ∃ vs, Spaced vs (c :: d :: cs) := by
  generalize ht : d :: cs = t at h
  cases h with
  | nil hgap =>
    subst ht
    rw [hgap d List.mem_cons_self] at hd
    cases hd
  | @cons gap w rest vs hgap hne hw hsep hcs =>
    -- the first word stands at the start
    cases gap with
    | nil =>
      have h' : Spaced ((c :: w) :: vs) ([] ++ (c :: w) ++ rest) :=
        .cons [] nofun (List.cons_ne_nil c w) (List.forall_mem_cons.2 ⟨hc, hw⟩) hsep hcs
      exact ⟨_, h'⟩
    | cons b gap =>
      obtain rfl : d = b := (List.cons.inj ht).1
      rw [hgap d List.mem_cons_self] at hd
      cases hd

end Spaced

/-- Every text spaces some words. -/
theorem exists_spaced (cs : List Char) : ∃ ws, Spaced ws cs := by
  induction cs with
  | nil => exact ⟨[], .nil nofun⟩
  | cons c cs ih =>
    obtain ⟨ws, h⟩ := ih
    cases hc : isBlank c with
    | true => exact ⟨ws, h.cons_blank hc⟩
    | false =>
      cases cs with
      | nil => exact ⟨_, h.cons_word hc nofun⟩
      | cons d cs =>
        cases hd : isBlank d with
        | true => exact ⟨_, h.cons_word hc (by simpa using hd)⟩
        | false => exact h.exists_cons_letter hc hd

theorem spaced_iff {ws : List (List Char)} {cs : List Char} : Spaced ws cs ↔ words cs = ws := by
  refine ⟨Spaced.words_eq, ?_⟩
  rintro rfl
  obtain ⟨ws, h⟩ := exists_spaced cs
  rwa [h.words_eq]

end TaskBoard.Text
