import TaskBoard.Text.Lowercase

/-!
# Threshold overrides

A request can replace the number of days that a saved filter compares with.  It names the
filter as displayed or as a key: words in small letters, joined by underscores.  Of several
entries for one key the last one counts.

    (insert o name days).find? name = some days                 (find?_insert_self)
-/

namespace TaskBoard

namespace Text

/-- The key of a displayed name. -/
def nameKey (cs : List Char) : List Char := joinWith ['_'] ((words cs).map lower)

end Text

/-- Numbers of days by key; later entries win. -/
structure Overrides where
  entries : List (List Char × Int)
  deriving Repr, DecidableEq

namespace Overrides

def empty : Overrides := ⟨[]⟩

/-- Adds the number of days for the filter of this name. -/
def insert (o : Overrides) (name : String) (days : Int) : Overrides :=
  ⟨(Text.nameKey name.toList, days) :: o.entries⟩

/-- The overrides after all the entries, in order. -/
def ofEntries (entries : List (String × Int)) : Overrides :=
  entries.foldl (fun o e => o.insert e.1 e.2) empty

/-- The number of days for the filter of this name. -/
def find? (o : Overrides) (name : String) : Option Int :=
  if o.entries.isEmpty then none else o.entries.lookup (Text.nameKey name.toList)

def isEmpty (o : Overrides) : Bool := o.entries.isEmpty

/-! ## Lemmas -/

theorem find?_insert_self (o : Overrides) (name : String) (days : Int) :
    (o.insert name days).find? name = some days := by
  simp [insert, find?]

theorem find?_insert_of_ne (o : Overrides) {name other : String} (days : Int)
    (h : Text.nameKey other.toList ≠ Text.nameKey name.toList) :
    (o.insert name days).find? other = o.find? other := by
  simp only [insert, find?, List.isEmpty_cons, List.lookup_cons]
  rw [show (Text.nameKey other.toList == Text.nameKey name.toList) = false by simpa using h]
  cases hn : o.entries with
  | nil => simp
  | cons e es => simp

end Overrides

end TaskBoard
