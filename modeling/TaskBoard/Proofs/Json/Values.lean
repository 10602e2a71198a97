import Mathlib.Data.List.Induction
import Mathlib.Data.List.Nodup
import TaskBoard.Json.Decoder
import TaskBoard.Proofs.Json.Printing

/-!
# Values that were read

A value that was read nests no deeper than it may, its objects have each name once, and its
integers fit 64 bits.  Such a value is what its document is read as, so it can be printed and read
again wherever it has been read before, if its doubles read back.

    what is read nests in the room there is                     (nests_of_value?)
    what nests in the room there is, is read                    (value?_ofJson)
    the numbers of what is read fit                             (fits_readDoc, mem_of_value?)
-/

namespace TaskBoard.Json

/-! ## Nesting -/

/-- A value that nests at most so many levels deep, and whose objects have each name once. -/
inductive Nests : Nat → Json → Prop
  | null (room : Nat) : Nests room .null
  | bool (room : Nat) (b : Bool) : Nests room (.bool b)
  | number (room : Nat) (n : Number) : Nests room (.number n)
  | string (room : Nat) (s : String) : Nests room (.string s)
  | array {room : Nat} {items : List Json} (h : ∀ v ∈ items, Nests room v) :
    Nests (room + 1) (.array items)
  | object {room : Nat} {members : List (String × Json)} (hn : (members.map (·.1)).Nodup)
    (h : ∀ m ∈ members, Nests room m.2) : Nests (room + 1) (.object members)

theorem mem_put {ms : List (String × Json)} {name : String} {v : Json} {m : String × Json}
    (h : m ∈ put ms name v) : m ∈ ms ∨ m.2 = v := by
  induction ms with
  | nil =>
    rw [put, List.mem_singleton] at h
    exact .inr (h ▸ rfl)
  | cons n ms ih =>
    obtain ⟨n, w⟩ := n
    rw [put] at h
    split at h
    · rcases List.mem_cons.1 h with rfl | h
      · exact .inr rfl
      · exact .inl (List.mem_cons_of_mem _ h)
    · rcases List.mem_cons.1 h with rfl | h
      · exact .inl List.mem_cons_self
      · rcases ih h with h | h
        · exact .inl (List.mem_cons_of_mem _ h)
        · exact .inr h

theorem nodup_put {ms : List (String × Json)} (h : (ms.map (·.1)).Nodup) (name : String)
    (v : Json) : ((put ms name v).map (·.1)).Nodup := by
  have hnames := names_put ms name v
  rw [show (put ms name v).map (·.1) = _ from hnames]
  split
  · exact h
  · next hname =>
    rw [← List.concat_eq_append]
    exact h.concat hname

/-- A new name is put at the end. -/
theorem put_of_not_mem {ms : List (String × Json)} {name : String} (h : name ∉ ms.map (·.1))
    (v : Json) : put ms name v = ms ++ [(name, v)] := by
  induction ms with
  | nil => rfl
  | cons m ms ih =>
    obtain ⟨n, w⟩ := m
    rw [List.map_cons, List.mem_cons, not_or] at h
    rw [put, if_neg (Ne.symm h.1), ih h.2]
    rfl

theorem assign_concat (ms : List (String × Json)) (m : String × Json) :
    assign (ms ++ [m]) = put (assign ms) m.1 m.2 := by
  simp [assign]

theorem nodup_assign (ms : List (String × Json)) : ((assign ms).map (·.1)).Nodup := by
  induction ms using List.reverseRecOn with
  | nil => exact List.nodup_nil
  | append_singleton ms m ih =>
    rw [assign_concat]
    exact nodup_put ih m.1 m.2

/-- What is assigned is the value of one of the members. -/
theorem exists_of_mem_assign {ms : List (String × Json)} {m : String × Json}
    (h : m ∈ assign ms) : ∃ m' ∈ ms, m.2 = m'.2 := by
  induction ms using List.reverseRecOn with
  | nil => cases h
  | append_singleton ms m' ih =>
    rw [assign_concat] at h
    rcases mem_put h with h | h
    · obtain ⟨m'', hm'', heq⟩ := ih h
      exact ⟨m'', List.mem_append_left _ hm'', heq⟩
    · exact ⟨m', List.mem_append_right _ List.mem_cons_self, h⟩

theorem assign_of_nodup {ms : List (String × Json)} (h : (ms.map (·.1)).Nodup) :
    assign ms = ms := by
  induction ms using List.reverseRecOn with
  | nil => rfl
  | append_singleton ms m ih =>
    rw [List.map_append, List.map_singleton, List.nodup_append] at h
    have hnew : m.1 ∉ ms.map (·.1) := fun hm =>
      h.2.2 _ hm _ List.mem_cons_self rfl
    rw [assign_concat, ih h.1, put_of_not_mem hnew]

namespace Doc

mutual

theorem nests_of_value? {room : Nat} {d : Doc} {v : Json} (h : d.value? room = some v) :
    v.Nests room := by
  cases d with
  | null => cases h; exact .null room
  | bool b => cases h; exact .bool room b
  | number n => cases h; exact .number room n
  | string s => cases h; exact .string room s
  | array items =>
    cases room with
    | zero => cases h
    | succ room =>
      obtain ⟨vs, hvs, rfl⟩ := Option.map_eq_some_iff.1 h
      exact .array (nests_of_values? hvs)
  | object members =>
    cases room with
    | zero => cases h
    | succ room =>
      obtain ⟨ms, hms, rfl⟩ := Option.map_eq_some_iff.1 h
      refine .object (nodup_assign ms) fun m hm => ?_
      obtain ⟨m', hm', heq⟩ := exists_of_mem_assign hm
      rw [heq]
      exact nests_of_memberValues? hms m' hm'
  | valueless => cases h
  | broken => cases h

theorem nests_of_values? {room : Nat} {ds : List Doc} {vs : List Json}
    (h : values? room ds = some vs) : ∀ v ∈ vs, v.Nests room := by
  cases ds with
  | nil =>
    cases h
    nofun
  | cons d ds =>
    obtain ⟨v, hv, h⟩ := Option.bind_eq_some_iff.1 h
    obtain ⟨vs, hvs, h⟩ := Option.bind_eq_some_iff.1 h
    cases h
    exact List.forall_mem_cons.2 ⟨nests_of_value? hv, nests_of_values? hvs⟩

theorem nests_of_memberValues? {room : Nat} {ds : List (Option String × Doc)}
    {ms : List (String × Json)} (h : memberValues? room ds = some ms) :
    ∀ m ∈ ms, m.2.Nests room := by
  cases ds with
  | nil =>
    cases h
    nofun
  | cons d ds =>
    obtain ⟨name, d⟩ := d
    obtain ⟨n, -, h⟩ := Option.bind_eq_some_iff.1 h
    obtain ⟨v, hv, h⟩ := Option.bind_eq_some_iff.1 h
    obtain ⟨vs, hvs, h⟩ := Option.bind_eq_some_iff.1 h
    cases h
    exact List.forall_mem_cons.2 ⟨nests_of_value? hv, nests_of_memberValues? hvs⟩

end

theorem values?_ofJsons {room : Nat} {vs : List Json}
    (h : ∀ v ∈ vs, (ofJson v).value? room = some v) : values? room (ofJsons vs) = some vs := by
  induction vs with
  | nil => rfl
  | cons v vs ih =>
    obtain ⟨hv, hvs⟩ := List.forall_mem_cons.1 h
    rw [ofJsons, values?, hv, ih hvs]
    rfl

theorem memberValues?_ofMembers {room : Nat} {ms : List (String × Json)}
    (h : ∀ m ∈ ms, (ofJson m.2).value? room = some m.2) :
    memberValues? room (ofMembers ms) = some ms := by
  induction ms with
  | nil => rfl
  | cons m ms ih =>
    obtain ⟨n, v⟩ := m
    obtain ⟨hv, hms⟩ := List.forall_mem_cons.1 h
    rw [ofMembers, memberValues?, hv, ih hms]
    rfl

/-- What nests in the room there is, is read as it is. -/
theorem value?_ofJson {room : Nat} {v : Json} (h : v.Nests room) :
    (ofJson v).value? room = some v := by
  induction h with
  | null => rfl
  | bool => rfl
  | number => rfl
  | string => rfl
  | array _ ih => rw [ofJson, value?, values?_ofJsons ih, Option.map_some]
  | object hn _ ih =>
    rw [ofJson, value?, memberValues?_ofMembers ih, Option.map_some, assign_of_nodup hn]

/-! ## Numbers -/

mutual

/-- The numbers of a document, at any depth. -/
def numbers : Doc → List Number
  | .number n => [n]
  | .array items => itemsNumbers items
  | .object members => membersNumbers members
  | _ => []

def itemsNumbers : List Doc → List Number
  | [] => []
  | d :: ds => numbers d ++ itemsNumbers ds

def membersNumbers : List (Option String × Doc) → List Number
  | [] => []
  | (_, d) :: ds => numbers d ++ membersNumbers ds

end

theorem itemsNumbers_eq (ds : List Doc) : itemsNumbers ds = ds.flatMap numbers := by
  induction ds with
  | nil => rfl
  | cons d ds ih => rw [itemsNumbers, ih, List.flatMap_cons]

theorem membersNumbers_eq (ds : List (Option String × Doc)) :
    membersNumbers ds = ds.flatMap fun d => d.2.numbers := by
  induction ds with
  | nil => rfl
  | cons d ds ih => rw [membersNumbers, ih, List.flatMap_cons]

/-- The document has no number but those that fit. -/
def Fits (d : Doc) : Prop := ∀ n ∈ d.numbers, n.Fits

theorem fits_array_iff {items : List Doc} :
    (Doc.array items).Fits ↔ ∀ d ∈ items, d.Fits := by
  simp only [Fits, numbers, itemsNumbers_eq, List.forall_mem_flatMap]

theorem fits_object_iff {members : List (Option String × Doc)} :
    (Doc.object members).Fits ↔ ∀ m ∈ members, m.2.Fits := by
  simp only [Fits, numbers, membersNumbers_eq, List.forall_mem_flatMap]

theorem fits_of_eq_nil {d : Doc} (h : d.numbers = []) : d.Fits := by
  rw [Fits, h]
  exact List.forall_mem_nil _

theorem fits_ofPieces (ps : List Piece) : (ofPieces ps).Fits := by
  unfold ofPieces
  split <;> exact fits_of_eq_nil rfl

theorem fits_ofLexeme (l : Lexeme) : (ofLexeme l).Fits := by
  unfold ofLexeme
  split
  · next n hn =>
    intro m hm
    rw [numbers, List.mem_singleton] at hm
    exact hm ▸ fits_of_number? hn
  · exact fits_of_eq_nil rfl

theorem fits_broken : broken.Fits := fits_of_eq_nil rfl

/-- Every number that is read fits, whatever the bytes. -/
theorem fits_readDoc (fuel : Nat) :
    (∀ bs, (readDoc fuel bs).1.Fits) ∧ (∀ bs, ∀ d ∈ (readItems fuel bs).1, d.Fits) ∧
      ∀ bs, ∀ m ∈ (readMembers fuel bs).1, m.2.Fits := by
  induction fuel with
  | zero =>
    refine ⟨fun bs => fits_broken, fun bs => ?_, fun bs => ?_⟩
    · exact List.forall_mem_singleton.2 fits_broken
    · exact List.forall_mem_singleton.2 fits_broken
  | succ fuel ih =>
    obtain ⟨hdoc, hitems, hmembers⟩ := ih
    refine ⟨fun bs => ?_, fun bs => ?_, fun bs => ?_⟩
    · rw [readDoc]
      split
      · exact fits_of_eq_nil rfl
      · exact fits_of_eq_nil rfl
      · exact fits_of_eq_nil rfl
      · split
        · exact fits_broken
        · exact fits_ofPieces _
      · split
        · exact fits_of_eq_nil rfl
        · exact fits_array_iff.2 (hitems _)
      · split
        · exact fits_of_eq_nil rfl
        · exact fits_object_iff.2 (hmembers _)
      · split
        · exact fits_broken
        · exact fits_ofLexeme _
    · rw [readItems]
      dsimp only
      split
      · exact List.forall_mem_cons.2 ⟨hdoc bs, hitems _⟩
      · exact List.forall_mem_singleton.2 (hdoc bs)
      · exact List.forall_mem_cons.2 ⟨hdoc bs, List.forall_mem_singleton.2 fits_broken⟩
    · rw [readMembers]
      split
      · split
        · exact List.forall_mem_singleton.2 fits_broken
        · split
          · next rest _ =>
            dsimp only
            split
            · exact List.forall_mem_cons.2 ⟨hdoc rest, hmembers _⟩
            · exact List.forall_mem_singleton.2 (hdoc rest)
            · exact List.forall_mem_cons.2 ⟨hdoc rest, List.forall_mem_singleton.2 fits_broken⟩
          · exact List.forall_mem_singleton.2 fits_broken
      · exact List.forall_mem_singleton.2 fits_broken

theorem fits_ofBytes (bs : List UInt8) : (ofBytes bs).1.Fits := (fits_readDoc _).1 bs

end Doc

/-! ### Numbers of values -/

theorem itemsNumbers_eq (vs : List Json) : itemsNumbers vs = vs.flatMap numbers := by
  induction vs with
  | nil => rfl
  | cons v vs ih => rw [itemsNumbers, ih, List.flatMap_cons]

theorem membersNumbers_eq (ms : List (String × Json)) :
    membersNumbers ms = ms.flatMap fun m => m.2.numbers := by
  induction ms with
  | nil => rfl
  | cons m ms ih => rw [membersNumbers, ih, List.flatMap_cons]

@[simp] theorem mem_numbers_array {n : Number} {vs : List Json} :
    n ∈ (Json.array vs).numbers ↔ ∃ v ∈ vs, n ∈ v.numbers := by
  rw [numbers, itemsNumbers_eq, List.mem_flatMap]

@[simp] theorem mem_numbers_object {n : Number} {ms : List (String × Json)} :
    n ∈ (Json.object ms).numbers ↔ ∃ m ∈ ms, n ∈ m.2.numbers := by
  rw [numbers, membersNumbers_eq, List.mem_flatMap]

@[simp] theorem numbers_ofString? (s : Option String) : (ofString? s).numbers = [] := by
  cases s <;> rfl

namespace Doc

mutual

/-- The numbers of a value are numbers of its document. -/
theorem mem_of_value? {room : Nat} {d : Doc} {v : Json} (h : d.value? room = some v)
    {n : Number} (hn : n ∈ v.numbers) : n ∈ d.numbers := by
  cases d with
  | null => cases h; cases hn
  | bool b => cases h; cases hn
  | number m => cases h; exact hn
  | string s => cases h; cases hn
  | array items =>
    cases room with
    | zero => cases h
    | succ room =>
      obtain ⟨vs, hvs, rfl⟩ := Option.map_eq_some_iff.1 h
      obtain ⟨v, hv, hn⟩ := mem_numbers_array.1 hn
      exact mem_of_values? hvs hv hn
  | object members =>
    cases room with
    | zero => cases h
    | succ room =>
      obtain ⟨ms, hms, rfl⟩ := Option.map_eq_some_iff.1 h
      obtain ⟨m, hm, hn⟩ := mem_numbers_object.1 hn
      obtain ⟨m', hm', heq⟩ := exists_of_mem_assign hm
      exact mem_of_memberValues? hms hm' (heq ▸ hn)
  | valueless => cases h
  | broken => cases h

theorem mem_of_values? {room : Nat} {ds : List Doc} {vs : List Json}
    (h : values? room ds = some vs) {v : Json} (hv : v ∈ vs) {n : Number} (hn : n ∈ v.numbers) :
    n ∈ itemsNumbers ds := by
  cases ds with
  | nil =>
    cases h
    cases hv
  | cons d ds =>
    obtain ⟨w, hw, h⟩ := Option.bind_eq_some_iff.1 h
    obtain ⟨ws, hws, h⟩ := Option.bind_eq_some_iff.1 h
    cases h
    rcases List.mem_cons.1 hv with rfl | hv
    · exact List.mem_append_left _ (mem_of_value? hw hn)
    · exact List.mem_append_right _ (mem_of_values? hws hv hn)

theorem mem_of_memberValues? {room : Nat} {ds : List (Option String × Doc)}
    {ms : List (String × Json)} (h : memberValues? room ds = some ms) {m : String × Json}
    (hm : m ∈ ms) {n : Number} (hn : n ∈ m.2.numbers) : n ∈ membersNumbers ds := by
  cases ds with
  | nil =>
    cases h
    cases hm
  | cons d ds =>
    obtain ⟨name, d⟩ := d
    obtain ⟨name', -, h⟩ := Option.bind_eq_some_iff.1 h
    obtain ⟨w, hw, h⟩ := Option.bind_eq_some_iff.1 h
    obtain ⟨ws, hws, h⟩ := Option.bind_eq_some_iff.1 h
    cases h
    rcases List.mem_cons.1 hm with rfl | hm
    · exact List.mem_append_left _ (mem_of_value? hw hn)
    · exact List.mem_append_right _ (mem_of_memberValues? hws hm hn)

end

end Doc

/-- What a value is like that has been read with so much room. -/
def WasRead (room : Nat) (v : Json) : Prop := v.Nests room ∧ ∀ n ∈ v.numbers, n.Fits

theorem Doc.wasRead_of_value? {room : Nat} {d : Doc} {v : Json} (hd : d.Fits)
    (h : d.value? room = some v) : WasRead room v :=
  ⟨nests_of_value? h, fun n hn => hd n (mem_of_value? h hn)⟩

end TaskBoard.Json
