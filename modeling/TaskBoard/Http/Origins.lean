import TaskBoard.Http.Message

/-!
# Allowed origins

The origins whose pages may call the interface: those under which the server is reached by a
browser.  A server on the local host is known by two names, and one that stands for every
address of the machine is reached under those of its networks, too.  An answer names the
origin of its request only if that is allowed, and a preflight request is answered without
asking anybody.

    a host by its own name is an allowed origin                 (allows_ofHost_self)
    networks count only for a host that stands for all of them  (ofHost_of_not_isEveryAddress)
-/

namespace TaskBoard.Http

/-- An address of the machine on one of its networks.  Of an IPv6 address nothing is asked. -/
inductive Address
  | v4 (a b c d : UInt8)
  | v6
  deriving Repr, DecidableEq

/-- The name under which others on its network reach the machine there, four numbers with points
between.  Only IPv4 addresses have one, and no loopback does. -/
def Address.name? : Address → Option String
  | v4 a b c d =>
    if a = 127 then none
    else some (".".intercalate ([a, b, c, d].map fun x => Numeral.natText x.toNat))
  | v6 => none

/-- Origins, each as a browser writes it. -/
structure Origins where
  all : List String
  deriving Repr, DecidableEq

namespace Origins

/-- Whether a host stands for every address of the machine. -/
def isEveryAddress (host : String) : Bool := ["0.0.0.0", "::", "[::]"].contains host

/-- The names under which a server on this host is called. -/
def hostNames (host : String) : List String :=
  if isEveryAddress host || host == "127.0.0.1" || host == "localhost" then
    ["localhost", "127.0.0.1"]
  else [host]

/-- The origin of a name with the number of the socket. -/
def withSocket (socket : Nat) (name : String) : String :=
  "http://" ++ name ++ ":" ++ Numeral.natText socket

/-- The origins of one name, with the number of the socket and without. -/
def ofName (socket : Nat) (name : String) : List String :=
  [withSocket socket name, "http://" ++ name]

/-- The origins of a server that listens on this host and socket.  The machine has these
addresses on its networks; none, if it cannot tell. -/
def ofHost (addresses : List Address) (host : String) (socket : Nat) : Origins :=
  let networks :=
    if isEveryAddress host then (addresses.filterMap Address.name?).map (withSocket socket) else []
  ⟨(hostNames host).flatMap (ofName socket) ++ networks⟩

def allows (o : Origins) (origin : String) : Bool := o.all.contains origin

/-! ## Answers -/

/-- The header that names the origin of the request, if it is allowed. -/
def allowedOrigin (o : Origins) (r : Request) : List (String × String) :=
  match r.header? "origin" with
  | none => []
  | some value =>
    match (o.all.filter fun s => (Utf8.bytes s).all isValueByte).find? (Utf8.bytes · == value) with
    | some s => [("access-control-allow-origin", s)]
    | none => []

def credentials : String × String := ("access-control-allow-credentials", "true")

/-- The answer to a preflight request: what any request may do. -/
def preflight (o : Origins) (r : Request) : Response where
  status := 200
  headers := o.allowedOrigin r ++
    [credentials, ("access-control-allow-methods", "GET,POST,PUT,DELETE,OPTIONS"),
      ("access-control-allow-headers", "content-type,authorization,accept,origin")]
  body := none

/-- Adds the headers for the browser. -/
def annotate (o : Origins) (r : Request) (answer : Response) : Response :=
  { answer with headers := o.allowedOrigin r ++ credentials :: answer.headers }

/-- Whether the request asks what it may do. -/
def isPreflight (r : Request) : Bool := r.method == "OPTIONS"

/-! ## Lemmas -/

theorem allows_ofHost_self (addresses : List Address) {host : String} (socket : Nat)
    (h : hostNames host = [host]) :
    (ofHost addresses host socket).allows ("http://" ++ host) = true := by
  simp [ofHost, allows, h, ofName]

theorem ofHost_of_not_isEveryAddress (addresses : List Address) {host : String} (socket : Nat)
    (h : isEveryAddress host = false) : ofHost addresses host socket = ofHost [] host socket := by
  simp [ofHost, h]

end Origins

end TaskBoard.Http
