import TaskBoard.Json.Decoder
import TaskBoard.Json.Printer
import TaskBoard.Proofs.Json.Lexeme

/-!
# Reading what was printed

What is printed of a value is read as the document of that value, if its numbers read back.  It
does not matter what follows, as long as it cannot be taken for more of a number, and there is
always enough fuel: two steps for each character.

    a string reads back, whatever it holds                      (readPieces_renderString)
    a value whose numbers read back reads back                  (readDoc_render)
    the text of a value is the document of the value            (ofBytes_text)
-/

namespace TaskBoard.Json

/-! ## Strings -/

/-- What is read of a character in a string: its bytes, or its number if it is a control
character without an escape of its own. -/
def piecesOf (c : Char) : List Piece :=
  if c ∈ ['\n', '\r', '\t', '\x08', '\x0c'] ∨ 0x20 ≤ c.toNat then
    (String.utf8EncodeChar c).map .byte
  else [.unit c.toNat]

/-- Bytes that stand for themselves in a string. -/
def IsPlain (b : UInt8) : Prop := 0x20 ≤ b ∧ b ≠ 0x22 ∧ b ≠ 0x5c

/-- More pieces in front of those of a text. -/
def prepend (ps : List Piece) (r : List Piece × List UInt8) : List Piece × List UInt8 :=
  (ps ++ r.1, r.2)

theorem readPieces_plain {bs : List UInt8} (h : ∀ b ∈ bs, IsPlain b) (rest : List UInt8) :
    readPieces (bs ++ rest) = (readPieces rest).map (prepend (bs.map .byte)) := by
  induction bs with
  | nil =>
    rw [List.nil_append]
    cases readPieces rest <;> rfl
  | cons b bs ih =>
    obtain ⟨hb, hbs⟩ := List.forall_mem_cons.1 h
    rw [List.cons_append, readPieces, ih hbs]
    · rw [if_neg (UInt8.not_lt.2 hb.1)]
      cases readPieces rest <;> rfl
    · exact fun hq => hb.2.1 hq
    · intro a b c d r hq
      exact absurd hq hb.2.2
    · intro e r hq
      exact absurd hq hb.2.2

/-- The bytes of a character beyond ASCII are beyond ASCII, too. -/
theorem le_of_mem_utf8EncodeChar {c : Char} (h : 0x80 ≤ c.toNat) {b : UInt8}
    (hb : b ∈ String.utf8EncodeChar c) : 0x80 ≤ b := by
  have hofNat : ∀ x, 0x80 ≤ x → x < 256 → b = UInt8.ofNat x → 0x80 ≤ b := by
    rintro x hx hlt rfl
    exact UInt8.not_lt.1 (Utf8.not_lt_ofNat hlt hx)
  have hchar : c.val.toNat = c.toNat := rfl
  rw [String.utf8EncodeChar, hchar, if_neg (by omega)] at hb
  split at hb
  · simp only [List.mem_cons, List.not_mem_nil, or_false] at hb
    rcases hb with hb | hb <;> exact hofNat _ (by omega) (by omega) hb
  split at hb
  · simp only [List.mem_cons, List.not_mem_nil, or_false] at hb
    rcases hb with hb | hb | hb <;> exact hofNat _ (by omega) (by omega) hb
  · simp only [List.mem_cons, List.not_mem_nil, or_false] at hb
    rcases hb with hb | hb | hb | hb <;> exact hofNat _ (by omega) (by omega) hb

theorem isPlain_of_mem_utf8EncodeChar {c : Char} (hlow : 0x20 ≤ c.toNat) (hquote : c ≠ '"')
    (hback : c ≠ '\\') {b : UInt8} (hb : b ∈ String.utf8EncodeChar c) : IsPlain b := by
  by_cases h : 0x80 ≤ c.toNat
  · have hbig := UInt8.le_iff_toNat_le.1 (le_of_mem_utf8EncodeChar h hb)
    refine ⟨UInt8.le_iff_toNat_le.2 (Nat.le_trans (by decide) hbig), ?_, ?_⟩
    · rintro rfl
      exact absurd hbig (by decide)
    · rintro rfl
      exact absurd hbig (by decide)
  · have hone : String.utf8EncodeChar c = [UInt8.ofNat c.toNat] :=
      if_pos (Nat.le_of_lt_succ (Nat.lt_of_not_le h))
    have hnat := Utf8.toNat_ofNat_of_ascii (Nat.lt_of_not_le h)
    have hinj : ∀ d : Char, d.toNat = c.toNat → c = d := fun d hd =>
      Char.toNat_inj.1 hd.symm
    rw [hone, List.mem_singleton] at hb
    subst hb
    refine ⟨UInt8.le_iff_toNat_le.2 (by rw [hnat]; exact hlow), ?_, ?_⟩
    · intro hb
      exact hquote (hinj _ (by rw [← hnat, hb]; rfl))
    · intro hb
      exact hback (hinj _ (by rw [← hnat, hb]; rfl))

/-- A control character, written by its number. -/
theorem codeUnit?_control {n : Nat} (h : n < 0x20) :
    codeUnit? 0x30 0x30 (UInt8.ofNat (Nat.digitChar (n / 16)).toNat)
      (UInt8.ofNat (Nat.digitChar (n % 16)).toNat) = some n := by
  have hall : ∀ n : Fin 0x20, codeUnit? 0x30 0x30 (UInt8.ofNat (Nat.digitChar (n / 16)).toNat)
      (UInt8.ofNat (Nat.digitChar (n % 16)).toNat) = some n.val := by decide
  exact hall ⟨n, h⟩

theorem encode_control {n : Nat} (h : n < 0x20) :
    Utf8.encode ['\\', 'u', '0', '0', Nat.digitChar (n / 16), Nat.digitChar (n % 16)] =
      [0x5c, 0x75, 0x30, 0x30, UInt8.ofNat (Nat.digitChar (n / 16)).toNat,
        UInt8.ofNat (Nat.digitChar (n % 16)).toNat] := by
  have hall : ∀ n : Fin 0x20,
      Utf8.encode ['\\', 'u', '0', '0', Nat.digitChar (n / 16), Nat.digitChar (n % 16)] =
        [0x5c, 0x75, 0x30, 0x30, UInt8.ofNat (Nat.digitChar (n / 16)).toNat,
          UInt8.ofNat (Nat.digitChar (n % 16)).toNat] := by decide
  exact hall ⟨n, h⟩

/-- An escape of its own. -/
theorem readPieces_short {e b : UInt8} (he : e ≠ 0x75) (h : escaped? e = some b)
    (rest : List UInt8) :
    readPieces (0x5c :: e :: rest) = (readPieces rest).map (prepend [.byte b]) := by
  rw [readPieces, h]
  · cases readPieces rest <;> rfl
  · intro a b c d r he'
    exact absurd he' he

theorem readPieces_escape (c : Char) (rest : List UInt8) :
    readPieces (Utf8.encode (escape c) ++ rest) = (readPieces rest).map (prepend (piecesOf c)) := by
  by_cases hquote : c = '"'
  · subst hquote
    exact readPieces_short (by decide) rfl rest
  by_cases hback : c = '\\'
  · subst hback
    exact readPieces_short (by decide) rfl rest
  by_cases hn : c = '\n'
  · subst hn
    exact readPieces_short (by decide) rfl rest
  by_cases hr : c = '\r'
  · subst hr
    exact readPieces_short (by decide) rfl rest
  by_cases ht : c = '\t'
  · subst ht
    exact readPieces_short (by decide) rfl rest
  by_cases hb : c = '\x08'
  · subst hb
    exact readPieces_short (by decide) rfl rest
  by_cases hf : c = '\x0c'
  · subst hf
    exact readPieces_short (by decide) rfl rest
  rw [escape, if_neg hquote, if_neg hback, if_neg hn, if_neg hr, if_neg ht, if_neg hb, if_neg hf]
  by_cases hlow : c.toNat < 0x20
  · have hpieces : piecesOf c = [.unit c.toNat] := if_neg (by simp [hn, hr, ht, hb, hf, hlow])
    rw [if_pos hlow, encode_control hlow, hpieces]
    simp only [List.cons_append, List.nil_append]
    rw [readPieces, codeUnit?_control hlow]
    cases readPieces rest <;> rfl
  · have hpieces : piecesOf c = (String.utf8EncodeChar c).map .byte :=
      if_pos (.inr (Nat.le_of_not_lt hlow))
    have hbytes : Utf8.encode [c] = String.utf8EncodeChar c := List.append_nil _
    rw [if_neg hlow, hpieces, hbytes]
    exact readPieces_plain
      (fun b => isPlain_of_mem_utf8EncodeChar (Nat.le_of_not_lt hlow) hquote hback) rest

/-- The pieces of a text. -/
def textPieces (cs : List Char) : List Piece := cs.flatMap piecesOf

theorem readPieces_text (cs : List Char) (rest : List UInt8) :
    readPieces (Utf8.encode (cs.flatMap escape) ++ 0x22 :: rest) = some (textPieces cs, rest) := by
  induction cs with
  | nil => rfl
  | cons c cs ih =>
    rw [List.flatMap_cons, Utf8.encode_append, List.append_assoc, readPieces_escape, ih]
    rfl

theorem assemble_bytes (bs : List UInt8) (ps : List Piece) :
    assemble (bs.map .byte ++ ps) = (assemble ps).map (bs ++ ·) := by
  induction bs with
  | nil =>
    rw [List.map_nil, List.nil_append]
    cases assemble ps <;> rfl
  | cons b bs ih =>
    rw [List.map_cons, List.cons_append, assemble, ih]
    cases assemble ps <;> rfl

/-- A control character is no half of a surrogate pair. -/
theorem assemble_control {n : Nat} (h : n < 0x20) (ps : List Piece) :
    assemble (.unit n :: ps) =
      (assemble ps).map (String.utf8EncodeChar (Char.ofNat n) ++ ·) := by
  have hlead : isLead n = false := by
    simp only [isLead, Bool.and_eq_false_iff, decide_eq_false_iff_not]
    omega
  have htrail : isTrail n = false := by
    simp only [isTrail, Bool.and_eq_false_iff, decide_eq_false_iff_not]
    omega
  rcases ps with _ | ⟨_ | m, ps⟩ <;> simp [assemble, hlead, htrail]

theorem assemble_piecesOf (c : Char) (ps : List Piece) :
    assemble (piecesOf c ++ ps) = (assemble ps).map (String.utf8EncodeChar c ++ ·) := by
  unfold piecesOf
  split
  · exact assemble_bytes _ ps
  · next h =>
    rw [List.singleton_append, assemble_control (by omega), Char.ofNat_toNat]

theorem assemble_text (cs : List Char) : assemble (textPieces cs) = .ok (Utf8.encode cs) := by
  induction cs with
  | nil => rfl
  | cons c cs ih =>
    rw [textPieces, List.flatMap_cons, assemble_piecesOf]
    rw [textPieces] at ih
    rw [ih]
    rfl

theorem stringOf_text (s : String) : stringOf (textPieces s.toList) = .ok s := by
  have hdecode := Utf8.decode?_encode s.toList
  unfold stringOf
  rw [assemble_text]
  simp only [bind, Except.bind, hdecode, String.ofList_toList]

/-- The pieces of a string that was printed are those of its text. -/
theorem ofPieces_text (s : String) : Doc.ofPieces (textPieces s.toList) = .string s := by
  rw [Doc.ofPieces, stringOf_text]

theorem nameOf_text (s : String) : nameOf (textPieces s.toList) = some s := by
  rw [nameOf, stringOf_text]
  rfl

/-! ## Steps of the reader -/

section

variable {fuel : Nat} {bs rest : List UInt8}

theorem encode_renderString (s : String) (rest : List UInt8) :
    Utf8.encode (renderString s) ++ rest =
      0x22 :: (Utf8.encode (s.toList.flatMap escape) ++ 0x22 :: rest) := by
  rw [renderString, Utf8.encode_append, List.append_assoc]
  rfl

theorem skipSpace_of_head (h : ∀ b ∈ bs.head?, isSpace b = false) : skipSpace bs = bs := by
  cases bs with
  | nil => rfl
  | cons b bs =>
    have hb : isSpace b = false := h b rfl
    simp [skipSpace, hb]

theorem skipSpace_cons {b : UInt8} (h : isSpace b = false) (bs : List UInt8) :
    skipSpace (b :: bs) = b :: bs :=
  skipSpace_of_head (by rintro _ ⟨⟩; exact h)

theorem readDoc_string (s : String) :
    readDoc (fuel + 1) (Utf8.encode (renderString s) ++ rest) = (.string s, rest) := by
  rw [encode_renderString, readDoc, skipSpace_cons rfl]
  simp only [readPieces_text, ofPieces_text]

theorem isSpace_of_head {b : UInt8} (h : b = 0x2d ∨ isDigitByte b = true) :
    isSpace b = false := by
  rw [Bool.eq_false_iff]
  intro hspace
  simp only [isSpace, Bool.or_eq_true, beq_iff_eq] at hspace
  rcases hspace with ((rfl | rfl) | rfl) | rfl <;> exact absurd h (by decide)

/-- Where a numeral starts, no other document does. -/
theorem readDoc_lexeme {l : Lexeme} (h : readLexeme bs = some (l, rest)) :
    readDoc (fuel + 1) bs = (.ofLexeme l, rest) := by
  obtain ⟨b, hb, hhead⟩ := head_of_readLexeme h
  have hskip : skipSpace bs = bs := by
    refine skipSpace_of_head fun c hc => ?_
    rw [Option.mem_unique hc hb]
    exact isSpace_of_head hhead
  rw [readDoc, hskip]
  split
  case h_7 => rw [h]
  all_goals
    cases hb
    exact absurd hhead (by decide)

theorem readDoc_number {n : Number} (hn : n.ReadsBack) (hrest : Ends rest) :
    readDoc (fuel + 1) (Utf8.bytes n.text ++ rest) = (.number n, rest) := by
  obtain ⟨l, hread, hnumber⟩ := hn
  rw [readDoc_lexeme (readLexeme_append hread hrest), Doc.ofLexeme, hnumber]
  rfl

/-- What is not empty between the brackets is read as items. -/
theorem readDoc_array (h : ∀ b ∈ bs.head?, isSpace b = false ∧ b ≠ 0x5d) :
    readDoc (fuel + 1) (0x5b :: bs) = (.array (readItems fuel bs).1, (readItems fuel bs).2) := by
  rw [readDoc, skipSpace_cons rfl]
  simp only
  rw [skipSpace_of_head fun b hb => (h b hb).1]
  split
  · exact absurd rfl (h _ rfl).2
  · rfl

theorem readDoc_object (h : ∀ b ∈ bs.head?, isSpace b = false ∧ b ≠ 0x7d) :
    readDoc (fuel + 1) (0x7b :: bs) =
      (.object (readMembers fuel bs).1, (readMembers fuel bs).2) := by
  rw [readDoc, skipSpace_cons rfl]
  simp only
  rw [skipSpace_of_head fun b hb => (h b hb).1]
  split
  · exact absurd rfl (h _ rfl).2
  · rfl

/-- The last item, and one with others behind it. -/
theorem readItems_last {d : Doc} (h : readDoc fuel bs = (d, 0x5d :: rest)) :
    readItems (fuel + 1) bs = ([d], rest) := by
  rw [readItems, h]
  simp only [skipSpace_cons (b := 0x5d) rfl]

theorem readItems_more {d : Doc} (h : readDoc fuel bs = (d, 0x2c :: rest)) :
    readItems (fuel + 1) bs = (d :: (readItems fuel rest).1, (readItems fuel rest).2) := by
  rw [readItems, h]
  simp only [skipSpace_cons (b := 0x2c) rfl]

/-- The last member, and one with others behind it. -/
theorem readMembers_last {s : String} {d : Doc} (h : readDoc fuel bs = (d, 0x7d :: rest)) :
    readMembers (fuel + 1) (Utf8.encode (renderString s) ++ 0x3a :: bs) =
      ([(some s, d)], rest) := by
  rw [encode_renderString, readMembers, skipSpace_cons rfl]
  simp only [readPieces_text, nameOf_text, h, skipSpace_cons (b := 0x3a) rfl,
    skipSpace_cons (b := 0x7d) rfl]

theorem readMembers_more {s : String} {d : Doc} (h : readDoc fuel bs = (d, 0x2c :: rest)) :
    readMembers (fuel + 1) (Utf8.encode (renderString s) ++ 0x3a :: bs) =
      ((some s, d) :: (readMembers fuel rest).1, (readMembers fuel rest).2) := by
  rw [encode_renderString, readMembers, skipSpace_cons rfl]
  simp only [readPieces_text, nameOf_text, h, skipSpace_cons (b := 0x3a) rfl,
    skipSpace_cons (b := 0x2c) rfl]

end

/-! ## Values -/

mutual

/-- The numbers of a value, at any depth. -/
def numbers : Json → List Number
  | .number n => [n]
  | .array items => itemsNumbers items
  | .object members => membersNumbers members
  | _ => []

def itemsNumbers : List Json → List Number
  | [] => []
  | v :: vs => numbers v ++ itemsNumbers vs

def membersNumbers : List (String × Json) → List Number
  | [] => []
  | (_, v) :: vs => numbers v ++ membersNumbers vs

end

/-- A value starts with none of the bytes that end an array or an object, and with no blank. -/
theorem exists_head_render (v : Json) (h : ∀ n ∈ v.numbers, n.ReadsBack) :
    ∃ b bs, Utf8.encode (render v) = b :: bs ∧ isSpace b = false ∧ b ≠ 0x5d ∧ b ≠ 0x7d := by
  cases v with
  | null => exact ⟨_, _, rfl, by decide⟩
  | bool b => cases b <;> exact ⟨_, _, rfl, by decide⟩
  | string s => exact ⟨_, _, rfl, by decide⟩
  | array items => exact ⟨_, _, rfl, by decide⟩
  | object members => exact ⟨_, _, rfl, by decide⟩
  | number n =>
    obtain ⟨l, hread, -⟩ := h n (by simp [numbers])
    obtain ⟨b, hb, hhead⟩ := head_of_readLexeme hread
    obtain ⟨bs, hbs⟩ := List.head?_eq_some_iff.1 hb
    refine ⟨b, bs, hbs, isSpace_of_head hhead, ?_, ?_⟩
    · rintro rfl
      exact absurd hhead (by decide)
    · rintro rfl
      exact absurd hhead (by decide)

theorem length_render_pos (v : Json) (h : ∀ n ∈ v.numbers, n.ReadsBack) :
    0 < (render v).length := by
  obtain ⟨b, bs, hbs, -⟩ := exists_head_render v h
  refine List.length_pos_iff.2 fun hnil => ?_
  rw [hnil] at hbs
  cases hbs

theorem renderItems_cons (v w : Json) (ws : List Json) :
    renderItems (v :: w :: ws) = render v ++ ',' :: renderItems (w :: ws) := by
  rw [renderItems]
  nofun

theorem renderMembers_cons (n : String) (v : Json) (m : String × Json)
    (ms : List (String × Json)) :
    renderMembers ((n, v) :: m :: ms) =
      renderString n ++ ':' :: render v ++ ',' :: renderMembers (m :: ms) := by
  rw [renderMembers]
  nofun

/-- The items start as the first one does. -/
theorem exists_renderItems (v : Json) (vs : List Json) :
    ∃ cs, renderItems (v :: vs) = render v ++ cs := by
  cases vs with
  | nil => exact ⟨[], by rw [renderItems, List.append_nil]⟩
  | cons w ws => exact ⟨_, renderItems_cons v w ws⟩

/-- The members start with a quote. -/
theorem exists_renderMembers (n : String) (v : Json) (ms : List (String × Json)) :
    ∃ cs, renderMembers ((n, v) :: ms) = '"' :: cs := by
  cases ms with
  | nil => exact ⟨_, by rw [renderMembers, renderString]; rfl⟩
  | cons m ms => exact ⟨_, by rw [renderMembers_cons, renderString]; rfl⟩

mutual

/-- A value whose numbers read back is read as its document. -/
theorem readDoc_render (v : Json) (h : ∀ n ∈ v.numbers, n.ReadsBack) {fuel : Nat}
    (hfuel : 2 * (render v).length ≤ fuel) {rest : List UInt8} (hrest : Ends rest) :
    readDoc fuel (Utf8.encode (render v) ++ rest) = (Doc.ofJson v, rest) := by
  have hpos := length_render_pos v h
  obtain ⟨fuel, rfl⟩ : ∃ f, fuel = f + 1 := ⟨fuel - 1, by omega⟩
  match v with
  | .null => rfl
  | .bool true => rfl
  | .bool false => rfl
  | .number n => exact readDoc_number (h n (by simp [numbers])) hrest
  | .string s => exact readDoc_string s
  | .array [] => rfl
  | .object [] => rfl
  | .array (v :: vs) =>
    have hbytes : Utf8.encode (render (.array (v :: vs))) ++ rest =
        0x5b :: (Utf8.encode (renderItems (v :: vs)) ++ 0x5d :: rest) := by
      rw [render, Utf8.encode_append, List.append_assoc]
      rfl
    have hhead : ∀ b ∈ (Utf8.encode (renderItems (v :: vs)) ++ 0x5d :: rest).head?,
        isSpace b = false ∧ b ≠ 0x5d := by
      obtain ⟨cs, hcs⟩ := exists_renderItems v vs
      obtain ⟨b, bs, hbs, hspace, hclose, -⟩ := exists_head_render v fun n hn =>
        h n (by simp [numbers, itemsNumbers, hn])
      rw [hcs, Utf8.encode_append, hbs]
      rintro _ ⟨⟩
      exact ⟨hspace, hclose⟩
    rw [render] at hfuel
    simp only [List.length_cons, List.length_append, List.length_nil] at hfuel
    rw [hbytes, readDoc_array hhead,
      readItems_render (v :: vs) (List.cons_ne_nil v vs) h (by omega), Doc.ofJson]
  | .object ((n, v) :: ms) =>
    have hbytes : Utf8.encode (render (.object ((n, v) :: ms))) ++ rest =
        0x7b :: (Utf8.encode (renderMembers ((n, v) :: ms)) ++ 0x7d :: rest) := by
      rw [render, Utf8.encode_append, List.append_assoc]
      rfl
    have hhead : ∀ b ∈ (Utf8.encode (renderMembers ((n, v) :: ms)) ++ 0x7d :: rest).head?,
        isSpace b = false ∧ b ≠ 0x7d := by
      obtain ⟨cs, hcs⟩ := exists_renderMembers n v ms
      rw [hcs]
      rintro _ ⟨⟩
      decide
    rw [render] at hfuel
    simp only [List.length_cons, List.length_append, List.length_nil] at hfuel
    rw [hbytes, readDoc_object hhead,
      readMembers_render ((n, v) :: ms) (List.cons_ne_nil _ ms) h (by omega), Doc.ofJson]

theorem readItems_render (vs : List Json) (hne : vs ≠ [])
    (h : ∀ n ∈ itemsNumbers vs, n.ReadsBack) {fuel : Nat}
    (hfuel : 2 * (renderItems vs).length + 1 ≤ fuel) (rest : List UInt8) :
    readItems fuel (Utf8.encode (renderItems vs) ++ 0x5d :: rest) = (Doc.ofJsons vs, rest) := by
  obtain ⟨fuel, rfl⟩ : ∃ f, fuel = f + 1 := ⟨fuel - 1, by omega⟩
  match vs with
  | [] => exact absurd rfl hne
  | [v] =>
    have hv : ∀ n ∈ v.numbers, n.ReadsBack := fun n hn => h n (by simp [itemsNumbers, hn])
    rw [renderItems] at hfuel ⊢
    exact readItems_last (readDoc_render v hv (by omega) (ends_cons (b := 0x5d) rfl rest))
  | v :: w :: ws =>
    have hv : ∀ n ∈ v.numbers, n.ReadsBack := fun n hn => h n (by simp [itemsNumbers, hn])
    rw [renderItems_cons, List.length_append, List.length_cons] at hfuel
    have hws : ∀ n ∈ itemsNumbers (w :: ws), n.ReadsBack := fun n hn =>
      h n (by rw [itemsNumbers]; exact List.mem_append_right _ hn)
    have hbytes : Utf8.encode (renderItems (v :: w :: ws)) ++ 0x5d :: rest =
        Utf8.encode (render v) ++
          0x2c :: (Utf8.encode (renderItems (w :: ws)) ++ 0x5d :: rest) := by
      rw [renderItems_cons, Utf8.encode_append, List.append_assoc]
      rfl
    have hfirst := readDoc_render v hv (show 2 * (render v).length ≤ fuel by omega)
      (ends_cons (b := 0x2c) rfl (Utf8.encode (renderItems (w :: ws)) ++ 0x5d :: rest))
    rw [hbytes, readItems_more hfirst, readItems_render (w :: ws) (List.cons_ne_nil w ws) hws
      (by omega) rest]
    rfl

theorem readMembers_render (ms : List (String × Json)) (hne : ms ≠ [])
    (h : ∀ k ∈ membersNumbers ms, k.ReadsBack) {fuel : Nat}
    (hfuel : 2 * (renderMembers ms).length + 1 ≤ fuel) (rest : List UInt8) :
    readMembers fuel (Utf8.encode (renderMembers ms) ++ 0x7d :: rest) =
      (Doc.ofMembers ms, rest) := by
  obtain ⟨fuel, rfl⟩ : ∃ f, fuel = f + 1 := ⟨fuel - 1, by omega⟩
  match ms with
  | [] => exact absurd rfl hne
  | [(n, v)] =>
    have hv : ∀ k ∈ v.numbers, k.ReadsBack := fun k hk => h k (by simp [membersNumbers, hk])
    have hbytes : Utf8.encode (renderMembers [(n, v)]) ++ 0x7d :: rest =
        Utf8.encode (renderString n) ++ 0x3a :: (Utf8.encode (render v) ++ 0x7d :: rest) := by
      rw [renderMembers, Utf8.encode_append, List.append_assoc]
      rfl
    rw [renderMembers, List.length_append, List.length_cons] at hfuel
    have hlast := readDoc_render v hv (show 2 * (render v).length ≤ fuel by omega)
      (ends_cons (b := 0x7d) rfl rest)
    rw [hbytes, readMembers_last hlast]
    rfl
  | (n, v) :: (n', w) :: ws =>
    have hv : ∀ k ∈ v.numbers, k.ReadsBack := fun k hk => h k (by simp [membersNumbers, hk])
    rw [renderMembers_cons] at hfuel
    simp only [List.length_append, List.length_cons] at hfuel
    have hws : ∀ k ∈ membersNumbers ((n', w) :: ws), k.ReadsBack := fun k hk =>
      h k (by rw [membersNumbers]; exact List.mem_append_right _ hk)
    have hbytes : Utf8.encode (renderMembers ((n, v) :: (n', w) :: ws)) ++ 0x7d :: rest =
        Utf8.encode (renderString n) ++ 0x3a :: (Utf8.encode (render v) ++
          0x2c :: (Utf8.encode (renderMembers ((n', w) :: ws)) ++ 0x7d :: rest)) := by
      rw [renderMembers_cons, Utf8.encode_append, Utf8.encode_append, List.append_assoc,
        List.append_assoc]
      rfl
    have hfirst := readDoc_render v hv (show 2 * (render v).length ≤ fuel by omega)
      (ends_cons (b := 0x2c) rfl
        (Utf8.encode (renderMembers ((n', w) :: ws)) ++ 0x7d :: rest))
    rw [hbytes, readMembers_more hfirst, readMembers_render ((n', w) :: ws)
      (List.cons_ne_nil _ ws) hws (by omega) rest]
    rfl

end

/-! ## Texts -/

/-- The text of a value whose numbers read back is that value, and nothing is left of it. -/
theorem ofBytes_text {v : Json} (h : ∀ n ∈ v.numbers, n.ReadsBack) :
    Doc.ofBytes (Utf8.bytes v.text) = (Doc.ofJson v, []) := by
  have hlength := Utf8.length_le_encode (render v)
  have hfuel : 2 * (render v).length ≤ 2 * (Utf8.encode (render v)).length + 2 := by omega
  have hread := readDoc_render v h hfuel ends_nil
  rw [List.append_nil] at hread
  rw [Doc.ofBytes, text, Utf8.bytes, String.toList_ofList]
  exact hread

theorem decodeBytes_text {α : Type} (dec : Decoder α) {v : Json}
    (h : ∀ n ∈ v.numbers, n.ReadsBack) :
    decodeBytes dec (Utf8.bytes v.text) = decodeValue dec v := by
  unfold decodeBytes
  rw [ofBytes_text h]
  show ((dec maxDepth (Doc.ofJson v)).bind fun a =>
    if Doc.isEnd [] then pure a else throw .malformed) = dec maxDepth (Doc.ofJson v)
  cases dec maxDepth (Doc.ofJson v) <;> rfl

end TaskBoard.Json
