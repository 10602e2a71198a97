import TaskBoard.Json.Decoder

/-!
# Layers of settings

Settings come from several sources, and none of them has to give all.  A layer is what one
source gives.  One layer put onto another gives what it has and lets the other one through
where it has nothing.

A settings file is a JSON object with the sections `server`, `auth`, `database` and
`filters`; a section, and a setting in it, may be missing or null.  A section may also be an
array of all its settings in order.  Members with other names are passed over.

    (a.onto b).onto c = a.onto (b.onto c)                       (onto_assoc)
    Layer.empty.onto a = a                                      (empty_onto)
-/

namespace TaskBoard

/-- The settings that one source gives. -/
structure Layer where
  host : Option String
  /-- The number of the socket that the server listens on. -/
  socket : Option Nat
  authEnabled : Option Bool
  sessionSecret : Option String
  /-- Where the database is. -/
  url : Option String
  maxConnections : Option Nat
  minConnections : Option Nat
  /-- Times are in seconds. -/
  acquireTimeout : Option Nat
  idleTimeout : Option Nat
  maxLifetime : Option Nat
  statementTimeout : Option Nat
  /-- How long the rows of filters are kept, and how often the old ones are swept out. -/
  cacheTtl : Option Nat
  sweepInterval : Option Nat
  deriving Repr, DecidableEq

namespace Layer

/-- The layer of a source that gives nothing. -/
def empty : Layer :=
  ⟨none, none, none, none, none, none, none, none, none, none, none, none, none⟩

/-- The settings of `a`, and of `b` where `a` has none. -/
def onto (a b : Layer) : Layer where
  host := a.host <|> b.host
  socket := a.socket <|> b.socket
  authEnabled := a.authEnabled <|> b.authEnabled
  sessionSecret := a.sessionSecret <|> b.sessionSecret
  url := a.url <|> b.url
  maxConnections := a.maxConnections <|> b.maxConnections
  minConnections := a.minConnections <|> b.minConnections
  acquireTimeout := a.acquireTimeout <|> b.acquireTimeout
  idleTimeout := a.idleTimeout <|> b.idleTimeout
  maxLifetime := a.maxLifetime <|> b.maxLifetime
  statementTimeout := a.statementTimeout <|> b.statementTimeout
  cacheTtl := a.cacheTtl <|> b.cacheTtl
  sweepInterval := a.sweepInterval <|> b.sweepInterval

/-! ## Files -/

/-- What has been read of an object, and the names that it has given so far. -/
structure Reading where
  given : List String
  layer : Layer

/-- A part of a file that may be null: `read` puts it into the layer.  Giving it twice is a
fault. -/
def part (name : String) (read : Layer → Json.Decoder Layer) : Json.Decoder.Slot Reading where
  names := [name]
  omittable := false
  fill := fun r room d =>
    if r.given.contains name then .error .unfit
    else (Json.Decoder.optional (read r.layer) room d).map fun l =>
      ⟨name :: r.given, l.getD r.layer⟩

/-- One setting. -/
def setting {α : Type} (name : String) (dec : Json.Decoder α) (set : Layer → α → Layer) :
    Json.Decoder.Slot Reading :=
  part name fun l => dec.map (set l)

/-- A group of settings. -/
def group (name : String) (slots : List (Json.Decoder.Slot Reading)) :
    Json.Decoder.Slot Reading :=
  part name fun l => .record slots ⟨[], l⟩ fun r => some r.layer

def seconds : Json.Decoder Nat := .natUpTo Numeral.maxUInt64

def connections : Json.Decoder Nat := .natUpTo Numeral.maxUInt32

/-- The sections of a file. -/
def sections : List (Json.Decoder.Slot Reading) :=
  [group "server"
     [setting "host" .string fun l v => { l with host := some v },
      setting "port" (.natUpTo Numeral.maxUInt16) fun l v => { l with socket := some v }],
   group "auth"
     [setting "enabled" .bool fun l v => { l with authEnabled := some v },
      setting "session_secret" .string fun l v => { l with sessionSecret := some v }],
   group "database"
     [group "postgres"
       [setting "url" .string fun l v => { l with url := some v },
        setting "max_connections" connections fun l v => { l with maxConnections := some v },
        setting "min_connections" connections fun l v => { l with minConnections := some v },
        setting "acquire_timeout_secs" seconds fun l v => { l with acquireTimeout := some v },
        setting "idle_timeout_secs" seconds fun l v => { l with idleTimeout := some v },
        setting "max_lifetime_secs" seconds fun l v => { l with maxLifetime := some v },
        setting "statement_timeout_secs" seconds fun l v =>
          { l with statementTimeout := some v }]],
   group "filters"
     [setting "cache_ttl_secs" seconds fun l v => { l with cacheTtl := some v },
      setting "sweep_interval_secs" seconds fun l v => { l with sweepInterval := some v }]]

/-- Reads a settings file. -/
def decoder : Json.Decoder Layer :=
  (Json.Decoder.object sections ⟨[], .empty⟩).map (·.layer)

/-! ## Lemmas -/

theorem orElse_assoc {α : Type} (a b c : Option α) : ((a <|> b) <|> c) = (a <|> b <|> c) := by
  cases a <;> rfl

theorem onto_assoc (a b c : Layer) : (a.onto b).onto c = a.onto (b.onto c) := by
  simp only [onto, orElse_assoc]

theorem empty_onto (a : Layer) : empty.onto a = a := rfl

theorem onto_empty (a : Layer) : a.onto empty = a := by
  obtain ⟨a1, a2, a3, a4, a5, a6, a7, a8, a9, a10, a11, a12, a13⟩ := a
  simp [onto, empty]

end Layer

end TaskBoard
