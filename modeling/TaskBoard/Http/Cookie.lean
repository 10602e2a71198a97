import TaskBoard.Http.Message
import TaskBoard.Text.Blank

/-!
# Cookies

The cookies of a request stand in its `cookie` headers, separated by semicolons.  A value
may hold percent escapes.  Of several cookies of one name the last one counts.

    a piece without an equals sign is no cookie                 (ofPiece?_of_no_sign)
-/

namespace TaskBoard.Http.Cookie

/-- The text that an escaped text stands for. -/
def unescaped? (cs : List Char) : Option String := Percent.segment? (String.ofList cs)

/-- The name and the value of a cookie, without the blanks around them. -/
def ofPiece? (cs : List Char) : Option (String × String) :=
  match Text.trim (cs.takeWhile (· ≠ '=')), cs.dropWhile (· ≠ '=') with
  | c :: name, _ :: value => do
    let name ← unescaped? (c :: name)
    let value ← unescaped? (Text.trim value)
    some (name, value)
  | _, _ => none

/-- The cookies of a request, in order. -/
def ofRequest (r : Request) : List (String × String) :=
  ((r.allHeaders "cookie").filterMap visibleText?).flatMap fun cs =>
    (Text.split (· == ';') cs).filterMap ofPiece?

/-- The value of a cookie. -/
def find? (r : Request) (name : String) : Option String := (ofRequest r).reverse.lookup name

/-! ## Lemmas -/

theorem dropWhile_of_forall {p : Char → Bool} {cs : List Char} (h : ∀ c ∈ cs, p c = true) :
    cs.dropWhile p = [] := by
  induction cs with
  | nil => rfl
  | cons c cs ih =>
    rw [List.dropWhile_cons, if_pos (h c List.mem_cons_self)]
    exact ih fun d hd => h d (List.mem_cons_of_mem _ hd)

theorem ofPiece?_of_no_sign {cs : List Char} (h : '=' ∉ cs) : ofPiece? cs = none := by
  have hd : cs.dropWhile (fun c => decide (c ≠ '=')) = [] :=
    dropWhile_of_forall fun c hc => by
      simp only [decide_eq_true_eq]
      rintro rfl
      exact h hc
  unfold ofPiece?
  rw [hd]
  split <;> simp_all

end TaskBoard.Http.Cookie
