import TaskBoard.Json.Decoder

/-!
# Web keys

The header of a token may describe a key.  The key is never used, but what is there has to
describe one: an object with a kind and the parts that a key of this kind has.  Its purpose,
its name and its certificates may be missing.

    a document that is no object describes no key               (decoder_of_no_object)
-/

namespace TaskBoard.WebKey

open Json.Decoder (Slot)

/-- The kinds of keys. -/
inductive Kind
  | curve
  | modulus
  | bytes
  | curvePoint
  deriving Repr, DecidableEq

namespace Kind

def all : List Kind := [curve, modulus, bytes, curvePoint]

def name : Kind → String
  | curve => "EC"
  | modulus => "RSA"
  | bytes => "oct"
  | curvePoint => "OKP"

/-- The parts of a key that are texts. -/
def parts : Kind → List String
  | curve => ["x", "y"]
  | modulus => ["n", "e"]
  | bytes => ["k"]
  | curvePoint => ["x"]

/-- The names of the curves. -/
def curves : List String := ["P-256", "P-384", "P-521", "Ed25519"]

/-- The members that a key of this kind must have. -/
def slots (k : Kind) : List (Slot (List String)) :=
  .noting "kty" (.tag (· == k.name)) ::
    (match k with
    | curve | curvePoint => [.noting "crv" (.tag curves.contains)]
    | _ => []) ++
    k.parts.map fun p => .noting p .string

/-- Reads a key of this kind. -/
def decoder (k : Kind) : Json.Decoder Unit :=
  .record k.slots [] fun noted => if noted.length = k.slots.length then some () else none

end Kind

/-- The members that any key may have. -/
def commonSlots : List (Slot (List String)) :=
  [.noting "use" (.optional .string), .noting "key_ops" (.optional (.list .string)),
   .noting "alg" (.optional (.tag fun _ => true)), .noting "kid" (.optional .string),
   .noting "x5u" (.optional .string), .noting "x5c" (.optional (.list .string)),
   .noting "x5t" (.optional .string), .noting "x5t#S256" (.optional .string)]

/-- Reads a key of any kind. -/
def decoder : Json.Decoder Unit := fun room d => do
  let _ ← Json.Decoder.object commonSlots [] room d
  if Kind.all.any fun k => (k.decoder room d).isOk then pure () else throw .unfit

/-! ## Lemmas -/

theorem decoder_of_no_object {room : Nat} {d : Json.Doc} (h : ∀ ms, d ≠ .object ms) :
    decoder room d = .error d.mismatch := by
  cases d with
  | object ms => exact absurd rfl (h ms)
  | _ => rfl

end TaskBoard.WebKey
