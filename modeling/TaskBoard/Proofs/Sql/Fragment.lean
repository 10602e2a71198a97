import TaskBoard.Proofs.Sql.Reader
import TaskBoard.Proofs.Sql.Truth

/-!
# Fragments

A fragment is a template together with the expression that it is meant to be.  Its tree has
the numbers of its placeholders as leaves, so there is one tree for each number of the first
placeholder.

Texts are put together from the right: a fragment is read in front of a rest that begins with
a character that stands alone, or is empty.  Read so, fragments can be put in parentheses,
and joined by a logic.

    f.Reads → f.paren.Reads                                     (reads_paren)
    all of f, fs read → (joined l f fs).Reads                   (reads_joined)
-/

namespace TaskBoard.Sql

/-! ## Texts of templates -/

namespace Template

theorem sql_nil (i : Nat) : sql i [] = "" := rfl

theorem sql_lit (i : Nat) (s : String) (t : Template) : sql i (.lit s :: t) = s ++ sql i t := by
  simp [sql, number, Phrase.text, Piece.text]

theorem sql_hole (i : Nat) (v : Value) (t : Template) :
    sql i (.hole v :: t) = token i ++ sql (i + 1) t := by
  simp [sql, number, Phrase.text, Piece.text]

theorem values_append (a b : Template) : values (a ++ b) = values a ++ values b :=
  List.filterMap_append

theorem sql_append (i : Nat) (a b : Template) :
    sql i (a ++ b) = sql i a ++ sql (i + (values a).length) b := by
  induction a generalizing i with
  | nil => simp [sql_nil, values]
  | cons p a ih =>
    cases p with
    | lit s => simp [sql_lit, ih, values, String.append_assoc]
    | hole v =>
      have hl : (values (.hole v :: a)).length = (values a).length + 1 := rfl
      rw [List.cons_append, sql_hole, ih, sql_hole, hl, String.append_assoc]
      congr 3
      omega

theorem values_inParens (t : Template) : values (inParens t) = values t := by
  simp [inParens, values]

theorem sql_inParens (i : Nat) (t : Template) : sql i (inParens t) = "(" ++ (sql i t ++ ")") := by
  rw [inParens, List.cons_append, sql_lit, sql_append, sql_lit, sql_nil, String.append_empty]

theorem joined_cons (sep : String) (t u : Template) (us : List Template) :
    joined sep (t :: u :: us) = t ++ .lit sep :: joined sep (u :: us) := rfl

theorem values_joined (sep : String) (ts : List Template) :
    values (joined sep ts) = ts.flatMap values := by
  induction ts with
  | nil => rfl
  | cons t ts ih =>
    cases ts with
    | nil => simp [joined]
    | cons u us =>
      rw [joined_cons, values_append, List.flatMap_cons, ← ih]
      rfl

end Template

/-! ## Tokens from the right -/

/-- A piece that ends with a character that stands alone can be read before anything. -/
theorem tokens?_closed {a b : List Char} {s t : List Token} (h : Closes a)
    (ha : tokens? a = some s) (hb : tokens? b = some t) : tokens? (a ++ b) = some (s ++ t) :=
  tokens?_append h.detached ha hb

/-- Any piece can be read before a rest that opens. -/
theorem tokens?_open {a b : List Char} {s t : List Token} (h : Opens b) (ha : tokens? a = some s)
    (hb : tokens? b = some t) : tokens? (a ++ b) = some (s ++ t) :=
  tokens?_append h.detached ha hb

theorem tokens?_token_open {i : Nat} {rest : List Char} {ts : List Token} (ho : Opens rest)
    (hr : tokens? rest = some ts) : tokens? ((token i).toList ++ rest) = some (.slot i :: ts) :=
  tokens?_token_append (fun y hy => by rw [ho y hy]; decide) hr

theorem Opens.append {a b : List Char} (ha : Opens a) (hne : a ≠ []) : Opens (a ++ b) := by
  cases a with
  | nil => exact absurd rfl hne
  | cons x a => exact ha

/-- A piece that stands apart from the words on both sides, with its tokens. -/
structure Delimits (a : List Char) (s : List Token) : Prop where
  opens : Opens a
  ne_nil : a ≠ []
  closes : Closes a
  tokens : tokens? a = some s

instance (a : List Char) (s : List Token) : Decidable (Delimits a s) :=
  decidable_of_iff (Opens a ∧ a ≠ [] ∧ Closes a ∧ tokens? a = some s)
    ⟨fun ⟨h₁, h₂, h₃, h₄⟩ => ⟨h₁, h₂, h₃, h₄⟩, fun ⟨h₁, h₂, h₃, h₄⟩ => ⟨h₁, h₂, h₃, h₄⟩⟩

namespace Delimits

variable {a b c : List Char} {s t u : List Token}

theorem opens_append (h : Delimits a s) (b : List Char) : Opens (a ++ b) := h.opens.append h.ne_nil

theorem before (h : Delimits a s) (hb : tokens? b = some t) : tokens? (a ++ b) = some (s ++ t) :=
  tokens?_closed h.closes h.tokens hb

theorem between (h : Delimits a s) (hb : tokens? b = some t) (hc : tokens? c = some u) :
    tokens? (b ++ (a ++ c)) = some (t ++ (s ++ u)) :=
  tokens?_open (h.opens_append c) hb (h.before hc)

end Delimits

theorem delimits_opening : Delimits "(".toList [.opening] := by decide

theorem delimits_closing : Delimits ")".toList [.closing] := by decide

/-! ## Fragments -/

structure Fragment where
  template : Template
  /-- The expression, when the first placeholder has this number. -/
  tree : Nat → Expr

namespace Fragment

/-- The text of the fragment is read as its tree, whatever comes after it. -/
def Reads (f : Fragment) : Prop :=
  ∀ (i : Nat) {rest : List Char} {ts : List Token}, Opens rest → tokens? rest = some ts →
    tokens? ((f.template.sql i).toList ++ rest) = some ((f.tree i).spell ++ ts)

/-- The tree keeps to the levels, and it can stand beside `AND`. -/
def Stands (f : Fragment) : Prop := ∀ i, 2 ≤ (f.tree i).level ∧ (f.tree i).Graded

def paren (f : Fragment) : Fragment := ⟨.inParens f.template, fun i => .paren (f.tree i)⟩

/-- The trees of successive fragments, the first placeholder being `$i`. -/
def numbered (i : Nat) : List Fragment → List Expr
  | [] => []
  | f :: fs => f.tree i :: numbered (i + f.template.values.length) fs

/-- Fragments with the word of a logic between each two. -/
def joined (l : Logic) (f : Fragment) (fs : List Fragment) : Fragment where
  template := .joined l.joiner ((f :: fs).map template)
  tree i := (numbered (i + f.template.values.length) fs).foldl l.expr (f.tree i)

/-! ### Parentheses -/

theorem reads_paren {f : Fragment} (h : f.Reads) : f.paren.Reads := by
  intro i rest ts _ hr
  have hf := h i (delimits_closing.opens_append rest) (delimits_closing.before hr)
  have := delimits_opening.before hf
  simpa [paren, Template.sql_inParens, String.toList_append, List.append_assoc] using this

theorem stands_paren {f : Fragment} (h : ∀ i, (f.tree i).Graded) : f.paren.Stands :=
  fun i => ⟨by simp [paren, Expr.level], h i⟩

/-! ### Chains -/

theorem numbered_append (i : Nat) (fs gs : List Fragment) :
    numbered i (fs ++ gs) =
      numbered i fs ++ numbered (i + (fs.flatMap (·.template.values)).length) gs := by
  induction fs generalizing i with
  | nil => simp [numbered]
  | cons f fs ih => simp [numbered, ih, Nat.add_assoc]

theorem length_numbered (i : Nat) (fs : List Fragment) : (numbered i fs).length = fs.length := by
  induction fs generalizing i with
  | nil => rfl
  | cons f fs ih => simp [numbered, ih]

end Fragment

/-- The word of a logic. -/
def Token.ofLogic : Logic → Token
  | .and => .key .and
  | .or => .key .or

theorem delimits_joiner (l : Logic) : Delimits l.joiner.toList [.ofLogic l] := by
  cases l <;> decide

theorem Expr.spell_foldl_join (l : Logic) (e : Expr) (es : List Expr) :
    (es.foldl l.expr e).spell = e.spell ++ es.flatMap fun a => .ofLogic l :: a.spell := by
  induction es generalizing e with
  | nil => simp
  | cons a es ih =>
    rw [List.foldl_cons, ih, List.flatMap_cons, ← List.append_assoc]
    congr 1
    cases l <;> simp [Logic.expr, Token.ofLogic]

/-- A chain is graded if its members can stand beside `AND`. -/
theorem Expr.graded_foldl_join (l : Logic) {e : Expr} {es : List Expr}
    (h : ∀ a ∈ e :: es, 2 ≤ a.level ∧ a.Graded) : (es.foldl l.expr e).Graded := by
  -- what has been joined binds as tightly as the logic itself
  have step : ∀ (es : List Expr) (e : Expr), (l = .and → 1 ≤ e.level) → e.Graded →
      (∀ a ∈ es, 2 ≤ a.level ∧ a.Graded) → (es.foldl l.expr e).Graded := by
    intro es
    induction es with
    | nil => intro e _ he _; exact he
    | cons a es ih =>
      intro e hl he h
      obtain ⟨ha, has⟩ := List.forall_mem_cons.1 h
      rw [List.foldl_cons]
      cases l with
      | and => exact ih _ (fun _ => Nat.le_refl 1) ⟨⟨hl rfl, he⟩, ha.1, ha.2⟩ has
      | or => exact ih _ nofun ⟨he, Nat.le_of_succ_le ha.1, ha.2⟩ has
  obtain ⟨he, hes⟩ := List.forall_mem_cons.1 h
  exact step es e (fun _ => Nat.le_of_succ_le he.1) he.2 hes

namespace Fragment

theorem reads_joined (l : Logic) {f : Fragment} {fs : List Fragment}
    (h : ∀ g ∈ f :: fs, g.Reads) : (joined l f fs).Reads := by
  intro i rest ts ho hr
  rw [show (joined l f fs).tree i =
    (numbered (i + f.template.values.length) fs).foldl l.expr (f.tree i) from rfl,
    Expr.spell_foldl_join]
  induction fs generalizing f i with
  | nil => simpa [joined, Template.joined, numbered] using h f (by simp) i ho hr
  | cons g fs ih =>
    obtain ⟨hf, hg⟩ := List.forall_mem_cons.1 h
    have hj := (delimits_joiner l).before (ih hg (i + f.template.values.length))
    have hf := hf i ((delimits_joiner l).opens_append _) hj
    simpa [joined, Template.joined_cons, Template.sql_append, Template.sql_lit, numbered,
      String.toList_append, List.append_assoc] using hf

theorem mem_numbered {i : Nat} {fs : List Fragment} {a : Expr} (h : a ∈ numbered i fs) :
    ∃ f ∈ fs, ∃ n, a = f.tree n := by
  induction fs generalizing i with
  | nil => cases h
  | cons f fs ih =>
    rcases List.mem_cons.1 h with rfl | h
    · exact ⟨f, List.mem_cons_self, i, rfl⟩
    · obtain ⟨g, hg, n, hn⟩ := ih h
      exact ⟨g, List.mem_cons_of_mem f hg, n, hn⟩

theorem graded_joined (l : Logic) {f : Fragment} {fs : List Fragment}
    (h : ∀ g ∈ f :: fs, g.Stands) (i : Nat) : ((joined l f fs).tree i).Graded := by
  refine Expr.graded_foldl_join l fun a ha => ?_
  obtain ⟨g, hg, n, rfl⟩ := mem_numbered (show a ∈ numbered i (f :: fs) from ha)
  exact h g hg n

/-- A fragment that reads and is graded is a reading of its text. -/
theorem Reads.isReading {f : Fragment} (h : f.Reads) {i : Nat} (hg : (f.tree i).Graded) :
    IsReading (f.template.sql i) (f.tree i) := by
  refine ⟨?_, hg⟩
  simpa using h i (show Opens [] by decide) tokens?_nil

end Fragment

end TaskBoard.Sql
