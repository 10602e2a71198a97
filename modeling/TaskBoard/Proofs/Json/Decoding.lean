import TaskBoard.Proofs.Json.Values
import TaskBoard.Proofs.Program

/-!
# Decoding what was printed

A value that was printed is decoded part by part.  What an object has besides the fields of a
record does not matter, in whatever place it stands.

    the items of an array                                       (list_map)
    members that are no fields                                  (record_filter)
    a decoded array has items that were decoded                 (list_eq_ok)
-/

namespace TaskBoard.Json

namespace Doc

mutual

theorem wellFormed_ofJson (v : Json) : (ofJson v).wellFormed = true := by
  cases v with
  | array items => exact allWellFormed_ofJsons items
  | object members => exact membersWellFormed_ofMembers members
  | _ => rfl

theorem allWellFormed_ofJsons (vs : List Json) : allWellFormed (ofJsons vs) = true := by
  cases vs with
  | nil => rfl
  | cons v vs =>
    rw [ofJsons, allWellFormed, wellFormed_ofJson v, allWellFormed_ofJsons vs]
    rfl

theorem membersWellFormed_ofMembers (ms : List (String × Json)) :
    membersWellFormed (ofMembers ms) = true := by
  cases ms with
  | nil => rfl
  | cons m ms =>
    obtain ⟨n, v⟩ := m
    rw [ofMembers, membersWellFormed, wellFormed_ofJson v, membersWellFormed_ofMembers ms]
    rfl

end

end Doc

namespace Decoder

theorem optional_string (room : Nat) (s : Option String) :
    optional .string room (Doc.ofJson (.ofString? s)) = .ok s := by
  cases s <;> rfl

/-- Items are decoded one by one. -/
theorem list_map {α β : Type} {dec : Decoder β} {room : Nat} {f : α → Json} {g : α → β}
    (as : List α) (h : ∀ a ∈ as, dec room (Doc.ofJson (f a)) = .ok (g a)) :
    list dec (room + 1) (Doc.ofJson (.array (as.map f))) = .ok (as.map g) := by
  show each dec room (Doc.ofJsons (as.map f)) = .ok (as.map g)
  induction as with
  | nil => rfl
  | cons a as ih =>
    obtain ⟨ha, has⟩ := List.forall_mem_cons.1 h
    rw [List.map_cons, Doc.ofJsons, each, ha, ih has]
    rfl

theorem list_value {room : Nat} {vs : List Json} (h : ∀ v ∈ vs, v.Nests room) :
    list value (room + 1) (Doc.ofJson (.array vs)) = .ok vs := by
  have hvalues := list_map (f := id) (g := id) vs fun v hv => show value room _ = _ by
    rw [id, value, Doc.value?_ofJson (h v hv)]
  rwa [List.map_id] at hvalues

/-- Whether a name is that of a field. -/
def isField {σ : Type} (slots : List (Slot σ)) (name : String) : Bool :=
  (slots.find? fun s => s.names.contains name).isSome

theorem fillNamed_filter {σ : Type} (slots : List (Slot σ)) (room : Nat) (r : σ)
    (ms : List (String × Json)) :
    fillNamed slots Doc.wellFormed room r (Doc.ofMembers ms) =
      fillNamed slots Doc.wellFormed room r
        (Doc.ofMembers (ms.filter fun m => isField slots m.1)) := by
  induction ms generalizing r with
  | nil => rfl
  | cons m ms ih =>
    obtain ⟨n, v⟩ := m
    cases hn : slots.find? fun s => s.names.contains n with
    | none =>
      have hfield : isField slots n = false := by rw [isField, hn]; rfl
      rw [List.filter_cons_of_neg (by simp [hfield]), Doc.ofMembers, fillNamed, hn,
        ← ih r]
      simp only [Doc.wellFormed_ofJson, if_true]
      rfl
    | some s =>
      have hfield : isField slots n = true := by rw [isField, hn]; rfl
      rw [List.filter_cons_of_pos (by simpa using hfield), Doc.ofMembers, Doc.ofMembers, fillNamed,
        fillNamed, hn]
      exact congrArg _ (funext fun r => ih r)

/-- Members that are no fields are passed over. -/
theorem record_filter {σ α : Type} (slots : List (Slot σ)) (start : σ) (finish : σ → Option α)
    (room : Nat) (ms : List (String × Json)) :
    record slots start finish room (Doc.ofJson (.object ms)) =
      record slots start finish room
        (Doc.ofJson (.object (ms.filter fun m => isField slots m.1))) := by
  cases room with
  | zero => rfl
  | succ room =>
    unfold record
    simp only [fields, Doc.ofJson]
    rw [fillNamed_filter]

/-! ## What was decoded -/

section

variable {α σ : Type} {dec : Decoder α} {room : Nat}

theorem value_eq_ok {d : Doc} {v : Json} (h : value room d = .ok v) : d.value? room = some v := by
  unfold value at h
  split at h
  · next w hw => rwa [← Except.ok.inj h]
  · cases h

theorem each_eq_ok {ds : List Doc} {as : List α} (h : each dec room ds = .ok as) :
    ∀ a ∈ as, ∃ d ∈ ds, dec room d = .ok a := by
  induction ds generalizing as with
  | nil =>
    cases h
    nofun
  | cons d ds ih =>
    cases ha : dec room d with
    | error e =>
      rw [each, ha] at h
      cases h
    | ok a =>
      cases has : each dec room ds with
      | error e =>
        rw [each, ha, has] at h
        cases h
      | ok as' =>
        rw [each, ha, has] at h
        cases h
        refine List.forall_mem_cons.2 ⟨⟨d, List.mem_cons_self, ha⟩, fun b hb => ?_⟩
        obtain ⟨d', hd', hb⟩ := ih has b hb
        exact ⟨d', List.mem_cons_of_mem _ hd', hb⟩

/-- A list is decoded off an array, item by item. -/
theorem list_eq_ok {d : Doc} {as : List α} (h : list dec (room + 1) d = .ok as) :
    ∃ items, d = .array items ∧ ∀ a ∈ as, ∃ d ∈ items, dec room d = .ok a := by
  cases d with
  | array items => exact ⟨items, rfl, each_eq_ok h⟩
  | _ => cases h

/-- A field that is filled has been decoded. -/
theorem reading_eq_ok {names : List String} {omittable : Bool} {get? : σ → Option α}
    {set : σ → α → σ} {r r' : σ} {d : Doc}
    (h : (Slot.reading names omittable dec get? set).fill r room d = .ok r') :
    ∃ a, dec room d = .ok a ∧ r' = set r a := by
  simp only [Slot.reading] at h
  split at h
  · cases h
  · cases ha : dec room d with
    | error e =>
      rw [ha] at h
      cases h
    | ok a =>
      rw [ha] at h
      cases h
      exact ⟨a, rfl, rfl⟩

end

end Decoder

/-- What is decoded from a text is decoded from its document. -/
theorem of_decodeBytes {α : Type} {dec : Decoder α} {bs : List UInt8} {a : α}
    (h : decodeBytes dec bs = .ok a) : dec maxDepth (Doc.ofBytes bs).1 = .ok a := by
  unfold decodeBytes at h
  generalize Doc.ofBytes bs = p at h ⊢
  obtain ⟨a', ha, h⟩ := bind_eq_ok.1 h
  split at h
  · cases h
    exact ha
  · cases h

theorem Doc.Fits.each {d : Doc} (h : d.Fits) : d.Each Doc.Fits := by
  cases d with
  | array items => exact Doc.fits_array_iff.1 h
  | object members => exact Doc.fits_object_iff.1 h
  | _ => trivial

end TaskBoard.Json
