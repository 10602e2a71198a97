import TaskBoard.Filter.Definition

/-!
# The cache of filter rows

The rows of a set of saved filters are kept for a while.  An entry is found by its set,
however the set is written down, and counts as missing once it is as old as the time it may
live.  It stays in place until it is swept out or replaced.

    a look-up right after setting finds the rows, if they may live at all  (get?_set_self)
-/

namespace TaskBoard

/-- The numbers of a set in ascending order, each once. -/
def sortedIds (ids : List Int) : List Int := (ids.mergeSort fun a b => decide (a ≤ b)).eraseReps

/-- The rows of one set, and when they were set. -/
structure CacheEntry where
  rows : List FilterRow
  insertedAt : Int

/-- The entries, each under the text of its set, and how long they may live.  Times are in
milliseconds. -/
structure FilterCache where
  ttl : Nat
  entries : List (String × CacheEntry)

namespace FilterCache

/-- The cache with nothing in it. -/
def empty (ttl : Nat) : FilterCache := ⟨ttl, []⟩

/-- The text of a set: its numbers in ascending order, with commas between. -/
def key (ids : List Int) : String :=
  String.ofList (Text.joinWith [','] ((sortedIds ids).map Numeral.ofInt))

/-- Whether an entry has lived its time.  An entry from the future has no age. -/
def isExpired (c : FilterCache) (now : Int) (e : CacheEntry) : Bool :=
  decide (c.ttl ≤ (now - e.insertedAt).toNat)

/-- The rows of a set, if they are there and alive. -/
def get? (c : FilterCache) (now : Int) (ids : List Int) : Option (List FilterRow) :=
  match c.entries.lookup (key ids) with
  | none => none
  | some e => if c.isExpired now e then none else some e.rows

/-- Sets the rows of a set. -/
def set (c : FilterCache) (now : Int) (ids : List Int) (rows : List FilterRow) : FilterCache :=
  { c with entries := (key ids, ⟨rows, now⟩) :: c.entries.filter fun e => e.1 != key ids }

/-- Drops every entry. -/
def clear (c : FilterCache) : FilterCache := { c with entries := [] }

/-- Drops the entries that have lived their time. -/
def sweep (c : FilterCache) (now : Int) : FilterCache :=
  { c with entries := c.entries.filter fun e => !c.isExpired now e.2 }

def size (c : FilterCache) : Nat := c.entries.length

/-- How many entries a sweep drops. -/
def sweepCount (c : FilterCache) (now : Int) : Nat := c.size - (c.sweep now).size

/-! ## Lemmas -/

theorem get?_empty (ttl : Nat) (now : Int) (ids : List Int) : (empty ttl).get? now ids = none := rfl

theorem get?_clear (c : FilterCache) (now : Int) (ids : List Int) : c.clear.get? now ids = none :=
  rfl

theorem get?_set_self (c : FilterCache) (now : Int) (ids : List Int) (rows : List FilterRow)
    (h : 0 < c.ttl) : (c.set now ids rows).get? now ids = some rows := by
  have : ¬ c.ttl ≤ 0 := by omega
  simp [get?, set, isExpired, this]

theorem lookup_filter_ne {β : Type} (es : List (String × β)) {k l : String} (h : l ≠ k) :
    (es.filter fun e => e.1 != k).lookup l = es.lookup l := by
  induction es with
  | nil => rfl
  | cons e es ih =>
    obtain ⟨n, b⟩ := e
    by_cases hn : n = k
    · subst hn
      have : (l == n) = false := by simpa using h
      simp [List.lookup_cons, ih, this]
    · by_cases hl : l = n
      · subst hl; simp [hn]
      · have : (l == n) = false := by simpa using hl
        simp [List.lookup_cons, ih, hn, this]

theorem get?_set_of_ne (c : FilterCache) {now later : Int} {ids other : List Int}
    (rows : List FilterRow) (h : key other ≠ key ids) :
    (c.set now ids rows).get? later other = c.get? later other := by
  have hb : (key other == key ids) = false := by simpa using h
  simp only [get?, set, List.lookup_cons, hb, lookup_filter_ne _ h]
  rfl

end FilterCache

end TaskBoard
