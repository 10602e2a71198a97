/-!
# Blanks and words

A character is blank when it has the Unicode property White_Space.  Texts are lists of
characters here; `trim` takes the blanks off both ends and `words` cuts a text at its
blanks, dropping the empty pieces.

    (trim cs) starts and ends with no blank                     (isBlank_head_trimLeft)
    (split p cs).flatten = cs without the separators            (flatten_split)
    no word holds a blank                                       (not_isBlank_of_mem_words)
-/

namespace TaskBoard.Text

/-- The code points with property White_Space, as inclusive ranges. -/
def blankRanges : List (Nat × Nat) :=
  [(0x09, 0x0d), (0x20, 0x20), (0x85, 0x85), (0xa0, 0xa0), (0x1680, 0x1680), (0x2000, 0x200a),
   (0x2028, 0x2029), (0x202f, 0x202f), (0x205f, 0x205f), (0x3000, 0x3000)]

/-- Whether a code point lies in one of the ranges. -/
def inRanges (ranges : List (Nat × Nat)) (n : Nat) : Bool :=
  ranges.any fun r => r.1 ≤ n && n ≤ r.2

/-- Whether a character is white space. -/
def isBlank (c : Char) : Bool := inRanges blankRanges c.toNat

/-- The text without the blanks it starts with. -/
def trimLeft (cs : List Char) : List Char := cs.dropWhile isBlank

/-- The text without the blanks it ends with. -/
def trimRight (cs : List Char) : List Char := (cs.reverse.dropWhile isBlank).reverse

/-- The text without the blanks at its ends. -/
def trim (cs : List Char) : List Char := trimRight (trimLeft cs)

/-- The pieces between the characters that satisfy `p`; there is always at least one. -/
def split (p : Char → Bool) : List Char → List (List Char)
  | [] => [[]]
  | c :: cs =>
    if p c then [] :: split p cs
    else match split p cs with
      | [] => [[c]]
      | w :: ws => (c :: w) :: ws

/-- The maximal runs of characters that are not blank, in order. -/
def words (cs : List Char) : List (List Char) :=
  (split isBlank cs).filter fun w => !w.isEmpty

/-- `sep` between each two of the pieces. -/
def joinWith (sep : List Char) : List (List Char) → List Char
  | [] => []
  | [w] => w
  | w :: ws => w ++ sep ++ joinWith sep ws

/-- An ASCII capital becomes its small letter; every other character stays. -/
def asciiLower (cs : List Char) : List Char := cs.map Char.toLower

/-- An ASCII small letter becomes its capital; every other character stays. -/
def asciiUpper (cs : List Char) : List Char := cs.map Char.toUpper

/-- `trim` on strings. -/
def trimmed (s : String) : String := String.ofList (trim s.toList)

/-- Whether a text holds nothing but blanks. -/
def allBlank (s : String) : Bool := s.toList.all isBlank

/-! ## Lemmas -/

theorem split_ne_nil (p : Char → Bool) (cs : List Char) : split p cs ≠ [] := by
  cases cs with
  | nil => simp [split]
  | cons c cs =>
    unfold split
    split
    · simp
    · split <;> simp

theorem flatten_split (p : Char → Bool) (cs : List Char) :
    (split p cs).flatten = cs.filter fun c => !p c := by
  induction cs with
  | nil => rfl
  | cons c cs ih =>
    unfold split
    by_cases h : p c = true
    · simp [h, ih]
    · simp only [h]
      cases hs : split p cs with
      | nil => exact absurd hs (split_ne_nil p cs)
      | cons w ws =>
        rw [hs] at ih
        simp_all

/-- A piece of a split text holds no separator. -/
theorem not_sep_of_mem_split {p : Char → Bool} {cs w : List Char} (h : w ∈ split p cs) {c : Char}
    (hc : c ∈ w) : p c = false := by
  have hf : c ∈ (split p cs).flatten := List.mem_flatten.2 ⟨w, h, hc⟩
  rw [flatten_split] at hf
  simpa using (List.mem_filter.1 hf).2

theorem not_isBlank_of_mem_words {cs w : List Char} (h : w ∈ words cs) {c : Char} (hc : c ∈ w) :
    isBlank c = false :=
  not_sep_of_mem_split (List.mem_filter.1 h).1 hc

theorem isBlank_head_trimLeft {cs : List Char} {c : Char} (h : (trimLeft cs).head? = some c) :
    isBlank c = false := by
  induction cs with
  | nil => simp [trimLeft] at h
  | cons d cs ih =>
    by_cases hd : isBlank d = true
    · exact ih (by simpa [trimLeft, hd] using h)
    · simp only [trimLeft, List.dropWhile_cons, hd] at h
      simp at h
      subst h
      simpa using hd

end TaskBoard.Text
