import TaskBoard.Api.Problem

/-!
# Limits of a request

How much one request may ask for, and how its faults are told: all of them in one message,
in alphabetical order.
-/

namespace TaskBoard

/-- The most saved filters, and the most custom filters, of one listing. -/
def maxFilters : Nat := 50

/-- The most conditions of one filter. -/
def maxConditions : Nat := 50

def tooManyConditionsText : String :=
  "A filter may have at most " ++ Numeral.natText maxConditions ++ " conditions"

/-- Several messages as one, in alphabetical order. -/
def joinMessages (messages : List String) : String :=
  "; ".intercalate (messages.mergeSort fun a b => decide (a ≤ b))

/-- The refusal of a request with the given faults; `none` when there are none. -/
def Problem.ofFaults? : List String → Option Problem
  | [] => none
  | messages => some (.badRequest "VALIDATION_ERROR" (joinMessages messages))

/-! ## Lemmas -/

theorem Problem.ofFaults?_eq_none_iff (messages : List String) :
    Problem.ofFaults? messages = none ↔ messages = [] := by
  cases messages <;> simp [Problem.ofFaults?]

end TaskBoard
