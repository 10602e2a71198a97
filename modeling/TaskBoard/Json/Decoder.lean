import TaskBoard.Json.Reader

/-!
# Typed reading of JSON documents

A decoder reads a value of some type off a document.  It goes through the document from left
to right, so the first fault in the text decides: either the text stops being JSON there
(`malformed`), or the value there is of the wrong kind, missing or given twice (`unfit`).

A record is read from an object, whose unknown members need only be well formed, or from an
array of its fields in order.

    decodeText d of a text whose document d refuses is that refusal   (decodeText_error)
    what every field keeps holds of the finished record               (record_keeps)
-/

namespace TaskBoard.Json

/-- Why a text does not hold a value of the wanted type. -/
inductive Fault
  | malformed
  | unfit
  deriving Repr, DecidableEq

/-- Reads a value off a document that may nest the given number of levels deep. -/
def Decoder (α : Type) := Nat → Doc → Except Fault α

/-- The fault of a document that is not of the wanted kind.  Only what has a value can be of
the wrong kind. -/
def Doc.mismatch : Doc → Fault
  | .broken => .malformed
  | .valueless _ => .malformed
  | _ => .unfit

namespace Decoder

/-- Any value. -/
def value : Decoder Json := fun room d =>
  match d.value? room with
  | some v => .ok v
  | none => .error .malformed

def string : Decoder String := fun _ d =>
  match d with
  | .string s => .ok s
  | _ => .error d.mismatch

def bool : Decoder Bool := fun _ d =>
  match d with
  | .bool b => .ok b
  | _ => .error d.mismatch

/-- An integer from `lo` to `hi`; a double is refused, whatever its value. -/
def int (lo hi : Int) : Decoder Int := fun _ d =>
  match d with
  | .number (.int n) => if lo ≤ n ∧ n ≤ hi then .ok n else .error .unfit
  | _ => .error d.mismatch

def int64 : Decoder Int := int Numeral.minInt64 Numeral.maxInt64

/-- A natural number up to `max`. -/
def natUpTo (max : Nat) : Decoder Nat := fun room d => (int 0 max room d).map Int.toNat

/-- The decoded value, changed by `f`. -/
def map {α β : Type} (f : α → β) (dec : Decoder α) : Decoder β := fun room d =>
  (dec room d).map f

/-- A value or `null`. -/
def optional {α : Type} (dec : Decoder α) : Decoder (Option α) := fun room d =>
  match d with
  | .null => .ok none
  | _ => (dec room d).map some

/-- What `dec` reads, or nothing if the value is not of that kind.  A flaw is passed over, too,
unless the reader would have to go on within the document. -/
def lenient {α : Type} (dec : Decoder α) : Decoder (Option α) := fun room d =>
  match d.flaw? room with
  | some .within => .error .malformed
  | _ => .ok (dec room d).toOption

/-- A name that is `known`.  It may also be the only member of an object, with `null` behind
it. -/
def tag (known : String → Bool) : Decoder String := fun room d =>
  match d, room with
  | .string s, _ => if known s then .ok s else .error .unfit
  | .object _, 0 => .error .malformed
  | .object [(some s, .null)], _ + 1 => if known s then .ok s else .error .unfit
  | _, _ => .error d.mismatch

/-- Decodes documents one after the other. -/
def each {α : Type} (dec : Decoder α) (room : Nat) : List Doc → Except Fault (List α)
  | [] => .ok []
  | d :: ds => do
    let a ← dec room d
    let as ← each dec room ds
    pure (a :: as)

/-- An array. -/
def list {α : Type} (dec : Decoder α) : Decoder (List α) := fun room d =>
  match d, room with
  | .array _, 0 => .error .malformed
  | .array items, room + 1 => each dec room items
  | _, _ => .error d.mismatch

/-- Decodes the members of an object, all by the same decoder. -/
def eachMember {α : Type} (dec : Decoder α) (room : Nat) :
    List (Option String × Doc) → Except Fault (List (String × α))
  | [] => .ok []
  | (none, _) :: _ => .error .malformed
  | (some name, d) :: ds => do
    let a ← dec room d
    let as ← eachMember dec room ds
    pure ((name, a) :: as)

/-- An object with arbitrary names: its members in the order of the text. -/
def dictionary {α : Type} (dec : Decoder α) : Decoder (List (String × α)) := fun room d =>
  match d, room with
  | .object _, 0 => .error .malformed
  | .object members, room + 1 => eachMember dec room members
  | _, _ => .error d.mismatch

/-! ## Records -/

/-- One field of a record whose fields read so far are held in `σ`. -/
structure Slot (σ : Type) where
  /-- The names it goes by. -/
  names : List String
  /-- Whether it may be left out at the end of an array. -/
  omittable : Bool
  /-- Reads it into the record; refuses a field that is there already. -/
  fill : σ → Decoder σ

/-- A field read by `dec`, looked up and set by `get?` and `set`. -/
def Slot.reading {σ α : Type} (names : List String) (omittable : Bool) (dec : Decoder α)
    (get? : σ → Option α) (set : σ → α → σ) : Slot σ where
  names := names
  omittable := omittable
  fill := fun r room d =>
    match get? r with
    | some _ => .error .unfit
    | none => (dec room d).map (set r)

/-- A field of which only the presence is kept, by its name. -/
def Slot.noting {α : Type} (name : String) (dec : Decoder α) : Slot (List String) :=
  .reading [name] false (dec.map fun _ => ())
    (fun noted => if noted.contains name then some () else none) fun noted _ => name :: noted

/-- The fields of an object, in the order of the text.  A member that is no field has to be
`sound`. -/
def fillNamed {σ : Type} (slots : List (Slot σ)) (sound : Doc → Bool) (room : Nat) (r : σ) :
    List (Option String × Doc) → Except Fault σ
  | [] => .ok r
  | (none, _) :: _ => .error .malformed
  | (some name, d) :: ds => do
    let r ← match slots.find? fun s => s.names.contains name with
      | some s => s.fill r room d
      | none => if sound d then pure r else throw .malformed
    fillNamed slots sound room r ds

/-- The fields of an array, in the order of the record. -/
def fillInOrder {σ : Type} (room : Nat) (r : σ) : List (Slot σ) → List Doc → Except Fault σ
  | [], [] => .ok r
  | [], _ :: _ => .error .malformed
  | s :: ss, [] => if s.omittable then fillInOrder room r ss [] else .error .unfit
  | s :: ss, d :: ds => do
    let r ← s.fill r room d
    fillInOrder room r ss ds

/-- The fields of a record, from either form. -/
def fields {σ : Type} (slots : List (Slot σ)) (start : σ) : Decoder σ := fun room d =>
  match d, room with
  | .array _, 0 => .error .malformed
  | .object _, 0 => .error .malformed
  | .array items, room + 1 => fillInOrder room start slots items
  | .object members, room + 1 => fillNamed slots Doc.wellFormed room start members
  | _, _ => .error d.mismatch

/-- A record; `finish` refuses one that lacks a field. -/
def record {σ α : Type} (slots : List (Slot σ)) (start : σ) (finish : σ → Option α) :
    Decoder α := fun room d =>
  match fields slots start room d with
  | .error e => .error e
  | .ok r => match finish r with
    | some a => .ok a
    | none => .error .unfit

/-- An object only, all of whose members have to be values, whether they are fields or not. -/
def object {σ : Type} (slots : List (Slot σ)) (start : σ) : Decoder σ := fun room d =>
  match d, room with
  | .object _, 0 => .error .malformed
  | .object members, room + 1 =>
    fillNamed slots (fun d => (d.value? room).isSome) room start members
  | _, _ => .error d.mismatch

end Decoder

/-- Reads a text that holds one value and nothing else. -/
def decodeBytes {α : Type} (dec : Decoder α) (bs : List UInt8) : Except Fault α := do
  let (d, rest) := Doc.ofBytes bs
  let a ← dec maxDepth d
  if Doc.isEnd rest then pure a else throw .malformed

def decodeText {α : Type} (dec : Decoder α) (s : String) : Except Fault α :=
  decodeBytes dec (Utf8.bytes s)

/-- Reads off a value that has been read before. -/
def decodeValue {α : Type} (dec : Decoder α) (v : Json) : Except Fault α :=
  dec maxDepth (Doc.ofJson v)

/-! ## Lemmas -/

/-- What holds of every document that stands directly in another one. -/
def Doc.Each (Q : Doc → Prop) : Doc → Prop
  | .array items => ∀ d ∈ items, Q d
  | .object members => ∀ m ∈ members, Q m.2
  | _ => True

namespace Decoder

theorem known_of_tag {known : String → Bool} {room : Nat} {d : Doc} {s : String}
    (h : tag known room d = .ok s) : known s = true := by
  unfold tag at h
  split at h <;> first | (split at h <;> simp_all) | simp_all

theorem lenient_of_value {α : Type} {dec : Decoder α} {room : Nat} {d : Doc}
    (h : (d.value? room).isSome) : lenient dec room d = .ok (dec room d).toOption := by
  simp [lenient, (Doc.flaw?_eq_none_iff room d).2 h]

variable {σ : Type} {P : σ → Prop} {Q : Doc → Prop}

theorem fillNamed_keeps {slots : List (Slot σ)} {sound : Doc → Bool} {room : Nat}
    (hs : ∀ s ∈ slots, ∀ r d r', Q d → P r → s.fill r room d = .ok r' → P r')
    {ms : List (Option String × Doc)} (hQ : ∀ m ∈ ms, Q m.2) {r r' : σ} (hr : P r)
    (h : fillNamed slots sound room r ms = .ok r') : P r' := by
  induction ms generalizing r with
  | nil => simp only [fillNamed, Except.ok.injEq] at h; exact h ▸ hr
  | cons m ms ih =>
    obtain ⟨name, d⟩ := m
    obtain ⟨hd, hms⟩ := List.forall_mem_cons.1 hQ
    cases name with
    | none => simp [fillNamed] at h
    | some name =>
      simp only [fillNamed] at h
      split at h
      · next s hf =>
        cases hfill : s.fill r room d with
        | error e => rw [hfill] at h; cases h
        | ok r1 =>
          rw [hfill] at h
          exact ih hms (hs s (List.mem_of_find?_eq_some hf) r d r1 hd hr hfill) h
      · split at h
        · exact ih hms hr h
        · cases h

theorem fillInOrder_keeps {room : Nat} {slots : List (Slot σ)}
    (hs : ∀ s ∈ slots, ∀ r d r', Q d → P r → s.fill r room d = .ok r' → P r')
    {ds : List Doc} (hQ : ∀ d ∈ ds, Q d) {r r' : σ} (hr : P r)
    (h : fillInOrder room r slots ds = .ok r') : P r' := by
  induction slots generalizing r ds with
  | nil =>
    cases ds with
    | nil => simp only [fillInOrder, Except.ok.injEq] at h; exact h ▸ hr
    | cons d ds => simp [fillInOrder] at h
  | cons s ss ih =>
    have hss : ∀ t ∈ ss, ∀ r d r', Q d → P r → t.fill r room d = .ok r' → P r' :=
      fun t ht => hs t (List.mem_cons_of_mem s ht)
    cases ds with
    | nil =>
      simp only [fillInOrder] at h
      split at h
      · exact ih hss hQ hr h
      · cases h
    | cons d ds =>
      obtain ⟨hd, hds⟩ := List.forall_mem_cons.1 hQ
      simp only [fillInOrder] at h
      cases hfill : s.fill r room d with
      | error e => rw [hfill] at h; cases h
      | ok r1 =>
        rw [hfill] at h
        exact ih hss hds (hs s List.mem_cons_self r d r1 hd hr hfill) h

/-- What every field keeps when it is read off a part of the document, if the parts are as they
should be, holds of the record that is finished. -/
theorem record_keeps_of {α : Type} {slots : List (Slot σ)} {start : σ} {finish : σ → Option α}
    {room : Nat} (hs : ∀ s ∈ slots, ∀ r d r', Q d → P r → s.fill r room d = .ok r' → P r')
    (h0 : P start) {d : Doc} (hQ : d.Each Q) {a : α}
    (h : record slots start finish (room + 1) d = .ok a) : ∃ r, P r ∧ finish r = some a := by
  unfold record at h
  split at h
  · cases h
  · next r hr =>
    split at h
    · next b hb =>
      cases h
      refine ⟨r, ?_, hb⟩
      cases d with
      | array items => exact fillInOrder_keeps hs hQ h0 hr
      | object members => exact fillNamed_keeps hs hQ h0 hr
      | _ => cases hr
    · cases h

/-- What every field keeps holds of the record that is finished. -/
theorem record_keeps {α : Type} {slots : List (Slot σ)} {start : σ} {finish : σ → Option α}
    (hs : ∀ s ∈ slots, ∀ room r d r', P r → s.fill r room d = .ok r' → P r') (h0 : P start)
    {room : Nat} {d : Doc} {a : α} (h : record slots start finish room d = .ok a) :
    ∃ r, P r ∧ finish r = some a := by
  cases room with
  | zero => cases d <;> cases h
  | succ room =>
    refine record_keeps_of (Q := fun _ => True) (fun s hm r d r' _ => hs s hm room r d r') h0 ?_ h
    cases d <;> simp [Doc.Each]

end Decoder

theorem decodeText_error {α : Type} {dec : Decoder α} {s : String} {e : Fault}
    (h : dec maxDepth (Doc.ofBytes (Utf8.bytes s)).1 = .error e) :
    decodeText dec s = .error e := by
  simp only [decodeText, decodeBytes, h]
  rfl

end TaskBoard.Json
