import TaskBoard.Auth.TokenHeader
import TaskBoard.Digest.Sha256
import TaskBoard.Json.Printer
import TaskBoard.Text.Base64

/-!
# Session tokens

A signed token names a user and ends at a point in time.  It has three parts with points
between them: the header, which names the algorithm, the claims, and the signature of the
first two under a secret key.

A token is read in this order: parts, header, algorithm, signature, claims, end, audience,
user.  The first that is wrong decides.

    the claims that pass have a user and have not ended         (check_ok)
-/

namespace TaskBoard

/-- What a token says: whose it is, since when, until when, and its own name. -/
structure Claims where
  sub : String
  iat : Int
  exp : Int
  jti : String
  deriving Repr, DecidableEq

/-- How a token is malformed. -/
inductive TokenFault
  | parts
  | base64
  | json
  | algorithm
  | noEnd
  | audience
  | emptyUser
  deriving Repr, DecidableEq

/-- Why a token is refused. -/
inductive TokenError
  | expired
  | badSignature
  | invalid (fault : TokenFault)
  deriving Repr, DecidableEq

def TokenFault.message : TokenFault → String
  | .parts => "InvalidToken"
  | .base64 => "Base64 error"
  | .json => "JSON error"
  | .algorithm => "InvalidAlgorithm"
  | .noEnd => "Missing required claim"
  | .audience => "InvalidAudience"
  | .emptyUser => "empty subject"

def TokenError.message : TokenError → String
  | .expired => "Session token has expired"
  | .badSignature => "Invalid session token signature"
  | .invalid fault => "Invalid session token: " ++ fault.message

namespace SessionToken

/-- How long a token lives, unless it is said otherwise: thirty days, in seconds. -/
def defaultLifetime : Int := 30 * 86400

/-- The name of a token: sixteen random bytes in the form of a random UUID. -/
def tokenName (random : List UInt8) : String :=
  let marked := random.zipIdx.map fun (b, i) =>
    if i = 6 then (b &&& 0x0f) ||| 0x40 else if i = 8 then (b &&& 0x3f) ||| 0x80 else b
  let hex := fun (bs : List UInt8) => bs.flatMap fun b =>
    [Nat.digitChar (b.toNat / 16), Nat.digitChar (b.toNat % 16)]
  String.ofList (hex (marked.take 4) ++ '-' :: hex ((marked.drop 4).take 2) ++
    '-' :: hex ((marked.drop 6).take 2) ++ '-' :: hex ((marked.drop 8).take 2) ++
    '-' :: hex (marked.drop 10))

/-- The claims of a new token. -/
def claims (user : String) (now lifetime : Int) (random : List UInt8) : Claims :=
  ⟨user, now, now + lifetime, tokenName random⟩

/-! ## Claims -/

/-- The claims read so far. -/
structure Draft where
  sub : Option String
  iat : Option Int
  exp : Option Int
  jti : Option String
  /-- Whether there is an audience. -/
  audience : Option Bool
  notBefore : Option Unit
  issuer : Option Unit

def Draft.blank : Draft := ⟨none, none, none, none, none, none, none⟩

/-- The claims of a draft that has all four, and whether there is an audience. -/
def Draft.finish? (d : Draft) : Option (Claims × Bool) := do
  let sub ← d.sub
  let iat ← d.iat
  let exp ← d.exp
  let jti ← d.jti
  some (⟨sub, iat, exp, jti⟩, d.audience.getD false)

/-- An audience: a text or a list of texts. -/
def audience : Json.Decoder Unit := fun room d =>
  match d with
  | .array _ => (Json.Decoder.list .string room d).map fun _ => ()
  | _ => (Json.Decoder.string room d).map fun _ => ()

/-- A time that is not looked at.  It may be anything that holds nothing. -/
def time : Json.Decoder Unit := fun room d =>
  match d with
  | .array (_ :: _) => .error .unfit
  | .object (_ :: _) => .error .unfit
  | d => (Json.Decoder.lenient .value room d).map fun _ => ()

def claimSlots : List (Json.Decoder.Slot Draft) :=
  [.reading ["sub"] false .string (·.sub) fun d v => { d with sub := some v },
   .reading ["iat"] false .int64 (·.iat) fun d v => { d with iat := some v },
   .reading ["exp"] false .int64 (·.exp) fun d v => { d with exp := some v },
   .reading ["jti"] false .string (·.jti) fun d v => { d with jti := some v },
   .reading ["aud"] false ((Json.Decoder.lenient audience).map Option.isSome) (·.audience)
     fun d v => { d with audience := some v },
   .reading ["nbf"] false time (·.notBefore) fun d v => { d with notBefore := some v },
   .reading ["iss"] false ((Json.Decoder.lenient .value).map fun _ => ()) (·.issuer)
     fun d v => { d with issuer := some v }]

/-- Reads claims, which must be an object. -/
def claimsDecoder : Json.Decoder (Claims × Bool) := fun room d =>
  match d with
  | .object _ => Json.Decoder.record claimSlots .blank Draft.finish? room d
  | _ => .error d.mismatch

/-! ## Signing -/

def Claims.toJson (c : Claims) : Json :=
  .object [("sub", .string c.sub), ("iat", .ofInt c.iat), ("exp", .ofInt c.exp),
    ("jti", .string c.jti)]

/-- One part of a token. -/
def part (v : Json) : List Char := Base64.encode (Utf8.bytes v.text)

/-- The signature of a text. -/
def sign (key : List UInt8) (message : List Char) : List Char :=
  Base64.encode (Sha256.hmac key (Utf8.encode message))

/-- The token with these claims. -/
def issue (key : List UInt8) (c : Claims) : String :=
  let message := part TokenHeader.issued ++ '.' :: part (Claims.toJson c)
  String.ofList (message ++ '.' :: sign key message)

/-! ## Checking -/

/-- What stands before and behind the last point. -/
def cutLast? (cs : List Char) : Option (List Char × List Char) :=
  let behind := (cs.reverse.takeWhile (· ≠ '.')).reverse
  if behind.length < cs.length then some (cs.take (cs.length - behind.length - 1), behind) else none

/-- The value in one part of a token. -/
def readPart {α : Type} (dec : Json.Decoder α) (cs : List Char) : Except TokenFault α :=
  match Base64.decode? cs with
  | none => .error .base64
  | some bs =>
    match Json.decodeBytes dec bs with
    | .ok a => .ok a
    | .error _ => .error .json

/-- Whether the claims hold at the time `now`, in seconds. -/
def check (now : Int) (c : Claims × Bool) : Except TokenError Claims :=
  if c.1.exp < 0 then .error (.invalid .noEnd)
  else if c.1.exp < now then .error .expired
  else if c.2 then .error (.invalid .audience)
  else if c.1.sub.isEmpty then .error (.invalid .emptyUser)
  else .ok c.1

/-- The claims of a token that is good under the key at the time `now`. -/
def validate (key : List UInt8) (now : Int) (token : String) : Except TokenError Claims := do
  let some (message, signature) := cutLast? token.toList | throw (.invalid .parts)
  let some (head, payload) := cutLast? message | throw (.invalid .parts)
  let alg ← (readPart TokenHeader.decoder head).mapError .invalid
  if alg ≠ TokenHeader.algorithm then throw (.invalid .algorithm)
  if signature ≠ sign key message then throw .badSignature
  let claims ← (readPart claimsDecoder payload).mapError .invalid
  check now claims

/-! ## Lemmas -/

theorem check_ok {now : Int} {c : Claims × Bool} {d : Claims} (h : check now c = .ok d) :
    d = c.1 ∧ now ≤ d.exp ∧ d.sub.isEmpty = false := by
  unfold check at h
  split at h
  · cases h
  · split at h
    · cases h
    · split at h
      · cases h
      · split at h
        · cases h
        · next h1 _ h3 =>
          cases h
          exact ⟨rfl, by omega, by simpa using h3⟩

end SessionToken

end TaskBoard
