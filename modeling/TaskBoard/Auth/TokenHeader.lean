import TaskBoard.Auth.WebKey

/-!
# Token headers

The first part of a token names the algorithm of its signature.  The other fields of a
header are not used, but have to be what they are meant to be.

    a header names an algorithm that is known                   (known_of_decoder)
-/

namespace TaskBoard.TokenHeader

open Json.Decoder (Slot)

/-- The one algorithm that is accepted. -/
def algorithm : String := "HS256"

/-- Every algorithm that is known. -/
def knownAlgorithms : List String :=
  [algorithm, "HS384", "HS512", "ES256", "ES384", "RS256", "RS384", "RS512", "PS256", "PS384",
   "PS512", "EdDSA"]

/-- What has been read of a header: the algorithm, and which of the other fields. -/
structure Draft where
  algorithm : Option String
  others : List String

/-- A field other than the algorithm. -/
def other {α : Type} (name : String) (dec : Json.Decoder α) : Slot Draft :=
  .reading [name] false (dec.map fun _ => ())
    (fun h => if h.others.contains name then some () else none)
    fun h _ => { h with others := name :: h.others }

def slots : List (Slot Draft) :=
  [other "typ" (.optional .string),
   .reading ["alg"] false (.tag knownAlgorithms.contains) (·.algorithm)
     fun h a => { h with algorithm := some a },
   other "cty" (.optional .string), other "jku" (.optional .string),
   other "jwk" (.optional WebKey.decoder), other "kid" (.optional .string),
   other "x5u" (.optional .string), other "x5c" (.optional (.list .string)),
   other "x5t" (.optional .string), other "x5t#S256" (.optional .string)]

/-- Reads the algorithm of a header. -/
def decoder : Json.Decoder String := .record slots ⟨none, []⟩ (·.algorithm)

/-- The header of every token that is made. -/
def issued : Json := .object [("typ", .string "JWT"), ("alg", .string algorithm)]

/-! ## Lemmas -/

/-- The algorithm of a draft is a known one. -/
def Draft.Known (h : Draft) : Prop := ∀ a, h.algorithm = some a → a ∈ knownAlgorithms

theorem known_of_other {α : Type} {name : String} {dec : Json.Decoder α} {r r' : Draft}
    {room : Nat} {d : Json.Doc} (hr : r.Known) (h : (other name dec).fill r room d = .ok r') :
    r'.Known := by
  simp only [other, Slot.reading] at h
  split at h
  · cases h
  · cases hd : (dec.map fun _ => ()) room d with
    | error e => rw [hd] at h; cases h
    | ok u => rw [hd] at h; cases h; exact hr

theorem known_of_slot {s : Slot Draft} (hs : s ∈ slots) {r r' : Draft} {room : Nat}
    {d : Json.Doc} (hr : r.Known) (h : s.fill r room d = .ok r') : r'.Known := by
  simp only [slots, List.mem_cons, List.not_mem_nil, or_false] at hs
  rcases hs with rfl | rfl | rfl | rfl | rfl | rfl | rfl | rfl | rfl | rfl
  case inr.inl =>
    simp only [Slot.reading] at h
    split at h
    · cases h
    · cases hd : Json.Decoder.tag knownAlgorithms.contains room d with
      | error e => rw [hd] at h; cases h
      | ok s =>
        rw [hd] at h
        cases h
        intro a ha
        cases ha
        simpa using Json.Decoder.known_of_tag hd
  all_goals exact known_of_other hr h

theorem known_of_decoder {room : Nat} {d : Json.Doc} {a : String} (h : decoder room d = .ok a) :
    a ∈ knownAlgorithms := by
  obtain ⟨r, hr, ha⟩ := Json.Decoder.record_keeps (P := Draft.Known)
    (fun s hs _ _ _ _ hr hfill => known_of_slot hs hr hfill) (by simp [Draft.Known]) h
  exact hr a ha

end TaskBoard.TokenHeader
