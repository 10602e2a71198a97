import TaskBoard.Proofs.Sql.Expression

/-!
# Reading conditions

A condition is read token by token, with the operators that still wait for their right
operand on a stack.  An operator that comes later ends all waiting ones that bind at least as
tightly as it pulls.

The reader finds the tree of every text that has one, so no text has two.

    e.Graded → read e.spell = some e                            (read_spell)
    IsReading s e → (IsReading s e' ↔ e' = e)                   (isReading_iff_eq)
-/

namespace TaskBoard.Sql

/-- An operator, or a bracket, that waits for what follows. -/
inductive Frame
  | paren
  | existence (table name : String)
  | compareAny (c : Comparison) (a : Expr)
  /-- `a BETWEEN` -/
  | low (a : Expr)
  /-- `a BETWEEN lo AND` -/
  | high (a lo : Expr)
  | or (a : Expr)
  | and (a : Expr)
  | not
  | compare (c : Comparison) (a : Expr)
  | minus (a : Expr)

namespace Frame

/-- What an operator makes of its last operand, and how tightly it binds. -/
def finish? : Frame → Expr → Option (Nat × Expr)
  | or a, e => some (0, .or a e)
  | and a, e => some (1, .and a e)
  | not, e => some (2, .not e)
  | compare c a, e => some (3, .compare c a e)
  | high a lo, e => some (3, .between a lo e)
  | minus a, e => some (4, .minus a e)
  | _, _ => none

/-- What a bracket makes of what it holds. -/
def close? : Frame → Expr → Option Expr
  | paren, e => some (.paren e)
  | existence table name, e => some (.existence table name e)
  | compareAny c a, e => some (.compareAny c a e)
  | _, _ => none

/-- How tightly the operand that a frame waits for has to bind. -/
def demand : Frame → Nat
  | or _ => 1
  | and _ => 2
  | not => 2
  | low _ => 4
  | high _ _ => 4
  | compare _ _ => 4
  | minus _ => 5
  | _ => 0

end Frame

/-- Ends the waiting operators that bind at least as tightly as `p`. -/
def collapse (p : Nat) (e : Expr) : List Frame → Expr × List Frame
  | [] => (e, [])
  | f :: fs =>
    match f.finish? e with
    | some (l, e') => if p ≤ l then collapse p e' fs else (e, f :: fs)
    | none => (e, f :: fs)

/-- How tightly the operator at the head of the rest pulls at what stands before it. -/
def pull : List Token → Nat
  | [] => 0
  | .closing :: _ => 0
  | .key .or :: _ => 0
  | .key .and :: _ => 1
  | .cast :: _ => 5
  | .openBracket :: _ => 5
  | _ => 4

mutual

/-- Goes on where an operand is expected. -/
def operand : List Token → List Frame → Option Expr
  | .name table :: .dot :: .name name :: ts, fs =>
    operator ts (collapse (pull ts) (.column table name) fs)
  | .key .currentDate :: ts, fs => operator ts (collapse (pull ts) .currentDate fs)
  | .slot n :: ts, fs => operator ts (collapse (pull ts) (.slot n) fs)
  | .opening :: ts, fs => operand ts (.paren :: fs)
  | .key .existence :: .opening :: .key .select :: .number 1 :: .key .source :: .name table ::
      .name name :: .key .restriction :: ts, fs => operand ts (.existence table name :: fs)
  | .key .any :: .opening :: ts, .compare c a :: fs => operand ts (.compareAny c a :: fs)
  | .key .not :: ts, fs => operand ts (.not :: fs)
  | _, _ => none

/-- Goes on behind an operand. -/
def operator : List Token → Expr × List Frame → Option Expr
  | [], (e, []) => some e
  | .closing :: ts, (e, f :: fs) =>
    match f.close? e with
    | some e' => operator ts (collapse (pull ts) e' fs)
    | none => none
  | .key .or :: ts, (e, fs) => operand ts (.or e :: fs)
  | .key .and :: ts, (e, .low a :: fs) => operand ts (.high a e :: fs)
  | .key .and :: ts, (e, fs) => operand ts (.and e :: fs)
  | .compare c :: ts, (e, fs) => operand ts (.compare c e :: fs)
  | .key .between :: ts, (e, fs) => operand ts (.low e :: fs)
  | .key .is :: .key .null :: ts, (e, fs) =>
    operator ts (collapse (pull ts) (.nullTest e true) fs)
  | .key .is :: .key .not :: .key .null :: ts, (e, fs) =>
    operator ts (collapse (pull ts) (.nullTest e false) fs)
  | .minus :: ts, (e, fs) => operand ts (.minus e :: fs)
  | .cast :: .name type :: ts, (e, fs) => operator ts (collapse (pull ts) (.cast e type) fs)
  | .openBracket :: .closeBracket :: ts, (.cast a type, fs) =>
    operator ts (collapse (pull ts) (.castArray a type) fs)
  | _, _ => none

end

/-- The tree of a list of tokens, if it has one. -/
def read (ts : List Token) : Option Expr := operand ts []

/-! ## Lemmas -/

/-- The operand that the top of the stack waits for may bind as loosely as `ℓ`. -/
def Fits (ℓ : Nat) (fs : List Frame) : Prop := ∀ f ∈ fs.head?, f.demand ≤ ℓ

theorem Fits.mono {ℓ m : Nat} {fs : List Frame} (h : Fits ℓ fs) (hm : ℓ ≤ m) : Fits m fs :=
  fun f hf => Nat.le_trans (h f hf) hm

theorem fits_cons {ℓ : Nat} {f : Frame} {fs : List Frame} (h : f.demand ≤ ℓ) :
    Fits ℓ (f :: fs) := by
  intro g hg
  cases hg
  exact h

/-- An operator binds less tightly than the operand that it waits for, except `NOT`, which
may stand behind itself. -/
theorem Frame.lt_demand {f : Frame} {e e' : Expr} {l : Nat} (h : f.finish? e = some (l, e'))
    (hl : l ≠ 2) : l < f.demand := by
  cases f <;> simp_all [Frame.finish?, Frame.demand] <;> omega

/-- No waiting operator ends where a part of its operand is read. -/
theorem collapse_of_fits {ℓ p : Nat} {e : Expr} {fs : List Frame} (h : Fits ℓ fs) (hℓ : ℓ ≠ 2)
    (hp : ℓ ≤ p) : collapse p e fs = (e, fs) := by
  cases fs with
  | nil => rfl
  | cons f fs =>
    have hd : f.demand ≤ ℓ := h f rfl
    unfold collapse
    cases hf : f.finish? e with
    | none => rfl
    | some r =>
      obtain ⟨l, e'⟩ := r
      have hl : ¬ p ≤ l := by
        by_cases h2 : l = 2
        · subst h2
          have : f = .not := by cases f <;> simp_all [Frame.finish?]
          subst this
          simp only [Frame.demand] at hd
          omega
        · have := Frame.lt_demand hf h2
          omega
      simp [hl]

/-- A waiting operator that is pulled at no harder than it binds ends. -/
theorem collapse_cons {p l : Nat} {e e' : Expr} {f : Frame} (fs : List Frame)
    (hf : f.finish? e = some (l, e')) (hp : p ≤ l) : collapse p e (f :: fs) = collapse p e' fs := by
  conv => lhs; unfold collapse
  simp [hf, hp]

theorem collapse_bracket {p : Nat} {e : Expr} {f : Frame} (fs : List Frame)
    (hf : f.finish? e = none) : collapse p e (f :: fs) = (e, f :: fs) := by
  unfold collapse
  simp [hf]

/-- Only the `AND` of a `BETWEEN` is no conjunction. -/
theorem operator_and {ts : List Token} {e : Expr} {fs : List Frame} (h : Fits 1 fs) :
    operator (.key .and :: ts) (e, fs) = operand ts (.and e :: fs) := by
  cases fs with
  | nil => rfl
  | cons f fs =>
    have hd : f.demand ≤ 1 := h f rfl
    cases f with
    | low a => simp [Frame.demand] at hd
    | _ => rfl

theorem operator_closing {ts : List Token} {e e' : Expr} {f : Frame} (fs : List Frame)
    (h : f.close? e = some e') :
    operator (.closing :: ts) (e, f :: fs) = operator ts (collapse (pull ts) e' fs) := by
  cases f <;> cases h <;> rfl

/-! ### One operand at a time -/

/-- The reader finds `e` wherever an operand of its level may stand. -/
def Found (e : Expr) : Prop :=
  ∀ (ts : List Token) (fs : List Frame), Fits e.level fs → pull ts ≤ e.level →
    operand (e.spell ++ ts) fs = operator ts (collapse (pull ts) e fs)

namespace Found

variable {a b e : Expr} {f : Frame} {fs : List Frame} {ts : List Token}

/-- An operand to the left of an operator that builds an expression of level `ℓ`. -/
theorem left (h : Found a) (ts : List Token) {ℓ : Nat} (hfs : Fits ℓ fs) (hℓ : ℓ ≠ 2)
    (hp : ℓ ≤ pull ts) (ha : pull ts ≤ a.level) : operand (a.spell ++ ts) fs = operator ts (a, fs) := by
  rw [h ts fs (hfs.mono (Nat.le_trans hp ha)) ha, collapse_of_fits hfs hℓ hp]

/-- The last operand of an operator that waits for it. -/
theorem right (h : Found b) {l : Nat} (hf : f.finish? b = some (l, e)) (hd : f.demand ≤ b.level)
    (hl : l ≤ b.level) (hp : pull ts ≤ l) :
    operand (b.spell ++ ts) (f :: fs) = operator ts (collapse (pull ts) e fs) := by
  rw [h ts (f :: fs) (fits_cons hd) (Nat.le_trans hp hl), collapse_cons fs hf hp]

/-- What stands between brackets. -/
theorem inside (h : Found a) (hf : f.close? a = some e) :
    operand (a.spell ++ .closing :: ts) (f :: fs) = operator ts (collapse (pull ts) e fs) := by
  have hd : f.demand = 0 := by cases f <;> simp_all [Frame.close?, Frame.demand]
  have hn : f.finish? a = none := by cases f <;> simp_all [Frame.close?, Frame.finish?]
  rw [h (.closing :: ts) (f :: fs) (fits_cons (by omega)) (Nat.zero_le _),
    collapse_bracket fs hn, operator_closing fs hf]

theorem paren (h : Found a) : Found (.paren a) := by
  intro ts fs _ _
  have hs : (Expr.paren a).spell ++ ts = .opening :: (a.spell ++ .closing :: ts) := by
    simp
  rw [hs]
  exact h.inside rfl

theorem existence (table name : String) (h : Found a) : Found (.existence table name a) := by
  intro ts fs _ _
  have hs : (Expr.existence table name a).spell ++ ts =
      .key .existence :: .opening :: .key .select :: .number 1 :: .key .source :: .name table ::
        .name name :: .key .restriction :: (a.spell ++ .closing :: ts) := by
    simp
  rw [hs]
  exact h.inside rfl

theorem cast (type : String) (h : Found a) (ha : 5 ≤ a.level) : Found (.cast a type) := by
  intro ts fs hfs _
  have hs : (Expr.cast a type).spell ++ ts = a.spell ++ .cast :: .name type :: ts := by
    simp
  rw [hs]
  exact h.left (.cast :: .name type :: ts) hfs (by decide : 5 ≠ 2) (Nat.le_refl _) ha

theorem castArray (type : String) (h : Found a) (ha : 5 ≤ a.level) : Found (.castArray a type) := by
  intro ts fs hfs _
  have hs : (Expr.castArray a type).spell ++ ts =
      a.spell ++ .cast :: .name type :: .openBracket :: .closeBracket :: ts := by
    simp
  have hc : collapse 5 (.cast a type) fs = (.cast a type, fs) :=
    collapse_of_fits (ℓ := 5) hfs (by decide) (Nat.le_refl _)
  rw [hs]
  refine (h.left (.cast :: .name type :: .openBracket :: .closeBracket :: ts) hfs
    (by decide : 5 ≠ 2) (Nat.le_refl _) ha).trans ?_
  show operator (.openBracket :: .closeBracket :: ts) (collapse 5 (.cast a type) fs) = _
  rw [hc]
  rfl

theorem minus (ha : Found a) (hb : Found b) (hla : 4 ≤ a.level) (hlb : 5 ≤ b.level) :
    Found (.minus a b) := by
  intro ts fs hfs hts
  have hs : (Expr.minus a b).spell ++ ts = a.spell ++ .minus :: (b.spell ++ ts) := by
    simp
  rw [hs]
  refine (ha.left (.minus :: (b.spell ++ ts)) hfs (by decide : 4 ≠ 2) (Nat.le_refl _)
    hla).trans ?_
  exact hb.right rfl hlb (Nat.le_of_succ_le hlb) hts

theorem compare (c : Comparison) (ha : Found a) (hb : Found b) (hla : 4 ≤ a.level)
    (hlb : 4 ≤ b.level) : Found (.compare c a b) := by
  intro ts fs hfs hts
  have hs : (Expr.compare c a b).spell ++ ts = a.spell ++ .compare c :: (b.spell ++ ts) := by
    simp
  rw [hs]
  refine (ha.left (.compare c :: (b.spell ++ ts)) hfs (by decide : 3 ≠ 2)
    (by decide : 3 ≤ 4) hla).trans ?_
  exact hb.right rfl hlb (Nat.le_of_succ_le hlb) hts

theorem compareAny (c : Comparison) (ha : Found a) (hb : Found b) (hla : 4 ≤ a.level) :
    Found (.compareAny c a b) := by
  intro ts fs hfs _
  have hs : (Expr.compareAny c a b).spell ++ ts =
      a.spell ++ .compare c :: .key .any :: .opening :: (b.spell ++ .closing :: ts) := by
    simp
  rw [hs]
  refine (ha.left (.compare c :: .key .any :: .opening :: (b.spell ++ .closing :: ts)) hfs
    (by decide : 3 ≠ 2) (by decide : 3 ≤ 4) hla).trans ?_
  exact hb.inside rfl

theorem between {lo hi : Expr} (ha : Found a) (hlo : Found lo) (hhi : Found hi)
    (hla : 4 ≤ a.level) (hllo : 4 ≤ lo.level) (hlhi : 4 ≤ hi.level) :
    Found (.between a lo hi) := by
  intro ts fs hfs hts
  have hs : (Expr.between a lo hi).spell ++ ts =
      a.spell ++ .key .between :: (lo.spell ++ .key .and :: (hi.spell ++ ts)) := by
    simp
  rw [hs]
  refine (ha.left (.key .between :: (lo.spell ++ .key .and :: (hi.spell ++ ts))) hfs
    (by decide : 3 ≠ 2) (by decide : 3 ≤ 4) hla).trans ?_
  -- the `AND` meets the bracket that `BETWEEN` has left, and so belongs to it
  have h := hlo (.key .and :: (hi.spell ++ ts)) (.low a :: fs) (fits_cons hllo)
    (Nat.le_trans (by decide : 1 ≤ 4) hllo)
  rw [collapse_bracket fs rfl] at h
  exact h.trans (hhi.right rfl hlhi (Nat.le_of_succ_le hlhi) hts)

theorem nullTest (yes : Bool) (h : Found a) (ha : 4 ≤ a.level) : Found (.nullTest a yes) := by
  intro ts fs hfs _
  cases yes with
  | true =>
    have hs : (Expr.nullTest a true).spell ++ ts = a.spell ++ .key .is :: .key .null :: ts := by
      simp
    rw [hs]
    exact h.left (.key .is :: .key .null :: ts) hfs (by decide : 3 ≠ 2) (by decide : 3 ≤ 4) ha
  | false =>
    have hs : (Expr.nullTest a false).spell ++ ts =
        a.spell ++ .key .is :: .key .not :: .key .null :: ts := by
      simp
    rw [hs]
    exact h.left (.key .is :: .key .not :: .key .null :: ts) hfs (by decide : 3 ≠ 2)
      (by decide : 3 ≤ 4) ha

theorem not (h : Found a) (ha : 2 ≤ a.level) : Found (.not a) := by
  intro ts fs _ hts
  exact h.right rfl ha ha hts

theorem and (ha : Found a) (hb : Found b) (hla : 1 ≤ a.level) (hlb : 2 ≤ b.level) :
    Found (.and a b) := by
  intro ts fs hfs hts
  have hs : (Expr.and a b).spell ++ ts = a.spell ++ .key .and :: (b.spell ++ ts) := by
    simp
  rw [hs, ha.left (.key .and :: (b.spell ++ ts)) hfs (by decide : 1 ≠ 2) (Nat.le_refl _) hla,
    operator_and hfs]
  exact hb.right rfl hlb (Nat.le_of_succ_le hlb) hts

theorem or (ha : Found a) (hb : Found b) (hlb : 1 ≤ b.level) : Found (.or a b) := by
  intro ts fs hfs hts
  have hs : (Expr.or a b).spell ++ ts = a.spell ++ .key .or :: (b.spell ++ ts) := by
    simp
  rw [hs]
  refine (ha.left (.key .or :: (b.spell ++ ts)) hfs (by decide : 0 ≠ 2) (Nat.zero_le _)
    (Nat.zero_le _)).trans ?_
  exact hb.right rfl hlb (Nat.zero_le _) hts

end Found

/-! ### Whole texts -/

theorem found_of_graded {e : Expr} (h : e.Graded) : Found e := by
  induction e with
  | column table name => intro ts fs _ _; rfl
  | currentDate => intro ts fs _ _; rfl
  | slot n => intro ts fs _ _; rfl
  | paren a ih => exact (ih h).paren
  | existence table name a ih => exact (ih h).existence table name
  | cast a type ih => exact (ih h.2).cast type h.1
  | castArray a type ih => exact (ih h.2).castArray type h.1
  | minus a b iha ihb =>
    obtain ⟨⟨hla, ha⟩, hlb, hb⟩ := h
    exact (iha ha).minus (ihb hb) hla hlb
  | compare c a b iha ihb =>
    obtain ⟨⟨hla, ha⟩, hlb, hb⟩ := h
    exact (iha ha).compare c (ihb hb) hla hlb
  | compareAny c a b iha ihb =>
    obtain ⟨⟨hla, ha⟩, hb⟩ := h
    exact (iha ha).compareAny c (ihb hb) hla
  | between a lo hi iha ihlo ihhi =>
    obtain ⟨⟨hla, ha⟩, ⟨hllo, hlo⟩, hlhi, hhi⟩ := h
    exact (iha ha).between (ihlo hlo) (ihhi hhi) hla hllo hlhi
  | nullTest a yes ih => exact (ih h.2).nullTest yes h.1
  | not a ih => exact (ih h.2).not h.1
  | and a b iha ihb =>
    obtain ⟨⟨hla, ha⟩, hlb, hb⟩ := h
    exact (iha ha).and (ihb hb) hla hlb
  | or a b iha ihb =>
    obtain ⟨ha, hlb, hb⟩ := h
    exact (iha ha).or (ihb hb) hlb

theorem read_spell {e : Expr} (h : e.Graded) : read e.spell = some e := by
  have hr := found_of_graded h [] [] (fun f hf => by cases hf) (Nat.zero_le _)
  rw [List.append_nil] at hr
  exact hr

/-- Two trees that keep to the levels are spelled alike only if they are the same. -/
theorem eq_of_spell_eq {a b : Expr} (ha : a.Graded) (hb : b.Graded) (h : a.spell = b.spell) :
    a = b := by
  have hr := read_spell ha
  rw [h, read_spell hb] at hr
  exact (Option.some.inj hr).symm

/-- A text has at most one reading. -/
theorem isReading_iff_eq {s : String} {e a : Expr} (h : IsReading s e) :
    IsReading s a ↔ a = e := by
  constructor
  · rintro ⟨hs, hg⟩
    exact eq_of_spell_eq hg h.2 (Option.some.inj (hs.symm.trans h.1))
  · rintro rfl
    exact h

end TaskBoard.Sql
