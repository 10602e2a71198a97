import TaskBoard.Numeral

/-!
# Pages

A listing is answered in pages.  The pages of a listing count from one, and there are as
many as it takes to hold all items.

    n ≤ limit * totalPages limit n when 0 < limit               (le_mul_totalPages)
-/

namespace TaskBoard

/-- Which part of a listing is wanted. -/
structure Page where
  number : Nat
  limit : Nat
  deriving Repr, DecidableEq

/-- Why a page cannot be asked for. -/
inductive PageFault
  | tooSmall
  | tooLarge
  | limitOutOfRange
  deriving Repr, DecidableEq

namespace Page

/-- The last page that may be asked for. -/
def maxNumber : Nat := 1000

/-- The greatest size of a page. -/
def maxLimit : Nat := 500

/-- The page of a request that does not say which. -/
def default : Page := ⟨1, 50⟩

def checkNumber (n : Nat) : Option PageFault :=
  if n < 1 then some .tooSmall
  else if maxNumber < n then some .tooLarge
  else none

def checkLimit (n : Nat) : Option PageFault :=
  if n = 0 ∨ maxLimit < n then some .limitOutOfRange else none

/-- The number of items on the pages before this one. -/
def offset (p : Page) : Nat := (p.number - 1) * p.limit

/-- The number of pages that hold `items`; a size of zero counts as one. -/
def totalPages (limit items : Nat) : Nat := (items + max limit 1 - 1) / max limit 1

end Page

def PageFault.code : PageFault → String
  | .tooSmall => "page_min"
  | .tooLarge => "page_max"
  | .limitOutOfRange => "limit_range"

def PageFault.message : PageFault → String
  | .tooSmall => "Page must be >= 1"
  | .tooLarge =>
    "Page must be <= " ++ Numeral.natText Page.maxNumber ++ " to prevent expensive queries"
  | .limitOutOfRange => "Limit must be between 1 and " ++ Numeral.natText Page.maxLimit

/-! ## Lemmas -/

theorem Page.checkLimit_eq_none_iff (n : Nat) : checkLimit n = none ↔ 1 ≤ n ∧ n ≤ maxLimit := by
  unfold checkLimit
  split <;> simp <;> omega

theorem Page.le_mul_totalPages {limit : Nat} (items : Nat) (h : 0 < limit) :
    items ≤ limit * totalPages limit items := by
  unfold totalPages
  rw [Nat.max_eq_left h]
  have := Nat.div_add_mod (items + limit - 1) limit
  have := Nat.mod_lt (items + limit - 1) h
  omega

end TaskBoard
