import Mathlib.Data.List.SplitBy
import TaskBoard.Filter.Operator
import TaskBoard.Proofs.Numeral
import TaskBoard.Sql.Template

/-!
# Words of SQL

An SQL text is cut into its words: runs of letters and digits, runs of operator signs, pairs
of colons, and single characters such as parentheses and blanks.  Without its blanks it is a
list of tokens.  Keywords are written in capitals.

Two texts can be cut apart where one ends and the other begins, if the two characters there
do not belong to one word.

    tokens? (a ++ b) = tokens? a and then tokens? b             (tokens?_append)
    tokens? (token n) = [.slot n]                               (tokens?_token)
-/

namespace TaskBoard.Sql

/-! ## Cutting a text -/

/-- What a character can be joined with. -/
inductive CharClass
  /-- Letters, digits, underscores, and the sign of a placeholder. -/
  | word
  /-- Signs of operators. -/
  | sign
  | colon
  /-- Characters that stand alone. -/
  | single
  deriving Repr, DecidableEq

def charClass (c : Char) : CharClass :=
  if c.isAlphanum || c == '_' || c == '$' then .word
  else if ['<', '>', '=', '!', '-', '+', '*', '/'].contains c then .sign
  else if c == ':' then .colon
  else .single

/-- Whether two neighbours belong to one word. -/
def joins (a b : Char) : Bool := charClass a == charClass b && charClass a != .single

/-- The words of a text with the blanks between them. -/
def lexemes (cs : List Char) : List (List Char) := cs.splitBy joins

/-- A list that does not hold a word across its end and the beginning of the next. -/
def Detached (a b : List Char) : Prop := ∀ x ∈ a.getLast?, ∀ y ∈ b.head?, joins x y = false

/-- A text that starts no word that could have begun before. -/
def Opens (cs : List Char) : Prop := ∀ y ∈ cs.head?, charClass y = .single

/-- A text that ends with no word that could go on. -/
def Closes (cs : List Char) : Prop := ∀ x ∈ cs.getLast?, charClass x = .single

instance (cs : List Char) : Decidable (Opens cs) :=
  decidable_of_iff (cs.head?.all fun y => charClass y = .single)
    (by simp [Opens, Option.all_eq_true])

instance (cs : List Char) : Decidable (Closes cs) :=
  decidable_of_iff (cs.getLast?.all fun x => charClass x = .single)
    (by simp [Closes, Option.all_eq_true])

/-! ## Tokens -/

inductive Keyword
  | and | or | not | is | null | between | any
  /-- `EXISTS` -/
  | existence
  | select
  /-- `FROM` -/
  | source
  /-- `WHERE` -/
  | restriction
  | currentDate
  deriving Repr, DecidableEq

inductive Token
  | key (k : Keyword)
  | name (s : String)
  | number (n : Nat)
  /-- The placeholder `$n`. -/
  | slot (n : Nat)
  | compare (c : Comparison)
  | minus
  | cast
  | dot
  | opening
  | closing
  | openBracket
  | closeBracket
  deriving Repr, DecidableEq

namespace Token

/-- Every token with a spelling of its own. -/
def fixed : List (String × Token) :=
  [("AND", .key .and), ("OR", .key .or), ("NOT", .key .not), ("IS", .key .is),
   ("NULL", .key .null), ("BETWEEN", .key .between), ("ANY", .key .any),
   ("EXISTS", .key .existence), ("SELECT", .key .select), ("FROM", .key .source),
   ("WHERE", .key .restriction), ("CURRENT_DATE", .key .currentDate), ("=", .compare .eq),
   ("!=", .compare .ne), ("<>", .compare .ne), ("<", .compare .lt), ("<=", .compare .le),
   (">", .compare .gt), (">=", .compare .ge), ("-", .minus), ("::", .cast), (".", .dot),
   ("(", .opening), (")", .closing), ("[", .openBracket), ("]", .closeBracket)]

/-- A word that is neither fixed nor a placeholder: a number or a name. -/
def ofWord? : List Char → Option Token
  | [] => none
  | c :: cs =>
    if c.isDigit then (Numeral.readNat? (c :: cs)).map .number
    else if charClass c = .word then some (.name (String.ofList (c :: cs)))
    else none

def ofLexeme? : List Char → Option Token
  | '$' :: cs => (Numeral.readNat? cs).map .slot
  | cs => (fixed.lookup (String.ofList cs)).or (ofWord? cs)

end Token

/-- The tokens of a text, if all its words are tokens. -/
def tokens? (cs : List Char) : Option (List Token) :=
  ((lexemes cs).filter fun l => !l.all Char.isWhitespace).mapM Token.ofLexeme?

/-! ## Lemmas -/

theorem joins_of_single {x y : Char} (h : charClass y = .single) : joins x y = false := by
  cases hx : charClass x <;> simp [joins, h, hx]

theorem Opens.detached {a b : List Char} (h : Opens b) : Detached a b :=
  fun _ _ y hy => joins_of_single (h y hy)

theorem Closes.detached {a b : List Char} (h : Closes a) : Detached a b :=
  fun x hx _ _ => by simp [joins, h x hx]

theorem lexemes_append {a b : List Char} (h : Detached a b) :
    lexemes (a ++ b) = lexemes a ++ lexemes b := List.splitBy_append h

theorem tokens?_nil : tokens? [] = some [] := rfl

theorem tokens?_append {a b : List Char} {s t : List Token} (h : Detached a b)
    (ha : tokens? a = some s) (hb : tokens? b = some t) : tokens? (a ++ b) = some (s ++ t) := by
  unfold tokens? at ha hb ⊢
  rw [lexemes_append h, List.filter_append, List.mapM_append, ha, hb]
  rfl

/-! ### Placeholders -/

theorem charClass_digitChar : ∀ d : Fin 10, charClass (Numeral.digitChar d) = .word := by decide

theorem charClass_of_mem_token {n : Nat} {c : Char} (h : c ∈ (token n).toList) :
    charClass c = .word := by
  simp only [token, Numeral.natText, String.toList_append, String.toList_ofList,
    List.mem_append] at h
  rcases h with h | h
  · obtain rfl : c = '$' := by simpa using h
    decide
  · obtain ⟨d, rfl⟩ := Numeral.exists_of_mem_digits h
    exact charClass_digitChar d

theorem toList_token (n : Nat) : (token n).toList = '$' :: Numeral.digits n := by
  simp [token, Numeral.natText]

theorem lexemes_token (n : Nat) : lexemes (token n).toList = [(token n).toList] := by
  refine List.splitBy_of_isChain (by simp [toList_token]) (List.Pairwise.isChain ?_)
  refine List.pairwise_of_forall_mem_list fun x hx y hy => ?_
  simp [joins, charClass_of_mem_token hx, charClass_of_mem_token hy]

theorem tokens?_token (n : Nat) : tokens? (token n).toList = some [.slot n] := by
  unfold tokens?
  rw [lexemes_token, toList_token]
  have hb : ('$' :: Numeral.digits n).all Char.isWhitespace = false := rfl
  simp [hb, Token.ofLexeme?, Numeral.readNat?_digits]

/-- A placeholder ends where no letter or digit follows. -/
theorem tokens?_token_append {n : Nat} {b : List Char} {t : List Token}
    (h : ∀ y ∈ b.head?, charClass y ≠ .word) (hb : tokens? b = some t) :
    tokens? ((token n).toList ++ b) = some (.slot n :: t) := by
  refine tokens?_append ?_ (tokens?_token n) hb
  intro x hx y hy
  have hx := charClass_of_mem_token (List.mem_of_getLast? hx)
  simp [joins, hx, (h y hy).symm]

end TaskBoard.Sql
