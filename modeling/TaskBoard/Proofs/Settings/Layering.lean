import TaskBoard.CommandLine.Invocation
import TaskBoard.Postgres.Connection
import TaskBoard.Proofs.Settings.Files

/-!
# From the sources of settings to a connection

Each setting is taken from the highest source that gives it, without regard to what the sources
give for the others: the command line, the second file, the profile, the default.  A file whose
section lacks the setting, or has null for it, gives nothing.  The interval of the sweep is
compared with the life of an entry after that.

A connection is opened with these very numbers.  Zero stands for the default in all of them, and
so it does for the time that a statement may take: that time cannot be left unbounded.

    one layer on another, setting by setting           (Setting.get?_onto)
    the sources as one layer                           (Sources.load_eq)
    the settings and the connection of the sources     (Sources.connection_of_sources)
    zero leaves statements bounded                     (Sources.zero_statement_timeout_bounded)
-/

namespace TaskBoard

/-- Where the settings of a server come from. -/
structure Sources where
  invocation : CommandLine.Invocation
  overlay : Overlay
  profile : Option SettingsFile

/-- A file that is a settings file. -/
def SettingsFile.Readable (f : SettingsFile) : Prop := ∃ l, Layer.ofFile f = .ok l

def Overlay.Readable : Overlay → Prop
  | .none => True
  | .file f => f.Readable
  | .missing _ => False

namespace Setting

def ofOverlay (x : Setting) : Overlay → Option x.Value
  | .file f => x.ofFile f
  | _ => none

/-- What the highest source that has the setting gives for it. -/
def layered? (x : Setting) (src : Sources) : Option x.Value :=
  x.get? src.invocation.layer <|> x.ofOverlay src.overlay <|> src.profile.bind x.ofFile

def default? : (x : Setting) → Option x.Value
  | host => some "127.0.0.1"
  | socket => some (5390 : Nat)
  | authEnabled => some true
  | sessionSecret => none
  | url => some ""
  | maxConnections => some (20 : Nat)
  | minConnections => some (2 : Nat)
  | acquireTimeout => some (30 : Nat)
  | idleTimeout => some (600 : Nat)
  | maxLifetime => some (1800 : Nat)
  | statementTimeout => some (60 : Nat)
  | cacheTtl => some (300 : Nat)
  | sweepInterval => some (600 : Nat)

/-- What a server starts with. -/
def of? : (x : Setting) → Settings → Option x.Value
  | host => fun s => some s.host
  | socket => fun s => some s.socket
  | authEnabled => fun s => some s.authEnabled
  | sessionSecret => Settings.sessionSecret
  | url => fun s => some s.postgres.url
  | maxConnections => fun s => some s.postgres.maxConnections
  | minConnections => fun s => some s.postgres.minConnections
  | acquireTimeout => fun s => some s.postgres.acquireTimeout
  | idleTimeout => fun s => some s.postgres.idleTimeout
  | maxLifetime => fun s => some s.postgres.maxLifetime
  | statementTimeout => fun s => some s.postgres.statementTimeout
  | cacheTtl => fun s => some s.cacheTtl
  | sweepInterval => fun s => some s.sweepInterval

end Setting

namespace Sources

def Readable (src : Sources) : Prop := src.overlay.Readable ∧ ∀ f ∈ src.profile, f.Readable

def load (src : Sources) : Except SettingsError Settings :=
  Settings.load src.invocation.layer src.overlay src.profile

/-- A number of the sources that is not zero. -/
def positive (given : Option Nat) (fallback : Nat) : Nat := (given.filter (0 < ·)).getD fallback

/-- How the database is reached by what the sources give.  A source that gives zero hides the
ones below it all the same. -/
def connection (src : Sources) : Except PostgresError Postgres.Connection :=
  let url : String := (Setting.url.layered? src).getD ""
  let statement := positive (Setting.statementTimeout.layered? src) 60
  if url = "" then .error (.config Postgres.noUrl)
  else match (Uri.ofText? url).bind Postgres.Target.ofUri? with
    | none => .error (.config Postgres.badUrl)
    | some t => .ok
      { target := t.setOption "statement_timeout" (Numeral.natText statement ++ "s")
        maxConnections := positive (Setting.maxConnections.layered? src) 20
        minConnections := positive (Setting.minConnections.layered? src) 2
        acquireTimeout := positive (Setting.acquireTimeout.layered? src) 30
        idleTimeout := positive (Setting.idleTimeout.layered? src) 600
        maxLifetime := positive (Setting.maxLifetime.layered? src) 1800
        statementTimeout := statement }

end Sources

/-! ## Lemmas -/

namespace Setting

/-- One layer on another is setting by setting the first of two. -/
theorem get?_onto (x : Setting) (a b : Layer) : x.get? (a.onto b) = (x.get? a <|> x.get? b) := by
  cases x <;> rfl

theorem get?_empty (x : Setting) : x.get? .empty = none := by
  cases x <;> rfl

/-- A setting does not depend on the others. -/
theorem of?_ofLayer {x : Setting} (hx : x ≠ .sweepInterval) (l : Layer) :
    x.of? (Settings.ofLayer l) = (x.get? l <|> x.default?) := by
  have hdefault {α : Type} (o : Option α) (a : α) : some (o.getD a) = (o <|> some a) := by
    rw [Option.orElse_eq_orElse, Option.orElse_eq_or, Option.or_some]
  have hnone {α : Type} (o : Option α) : (o <|> none) = o := by
    rw [Option.orElse_eq_orElse, Option.orElse_eq_or, Option.or_none]
  cases x with
  | sessionSecret => exact (hnone _).symm
  | sweepInterval => exact absurd rfl hx
  | _ => exact hdefault _ _

theorem layered?_authEnabled {src : Sources} (h : src.invocation.noAuth = true) :
    authEnabled.layered? src = some false := by
  show ((if src.invocation.noAuth then some false else none) <|> _) = some false
  rw [if_pos h]
  rfl

end Setting

namespace Sources

variable {src : Sources}

theorem load_profile {profile : Option SettingsFile} (h : ∀ f ∈ profile, f.Readable) :
    ∃ l, Layer.ofProfile profile = .ok l ∧ ∀ x : Setting, x.get? l = profile.bind x.ofFile := by
  cases profile with
  | none => exact ⟨.empty, rfl, Setting.get?_empty⟩
  | some f =>
    obtain ⟨l, hl⟩ := h f rfl
    exact ⟨l, hl, Setting.get?_ofFile hl⟩

theorem load_overlay {overlay : Overlay} (h : overlay.Readable) :
    ∃ l, Layer.ofOverlay overlay = .ok l ∧ ∀ x : Setting, x.get? l = x.ofOverlay overlay := by
  cases overlay with
  | none => exact ⟨.empty, rfl, Setting.get?_empty⟩
  | file f =>
    obtain ⟨l, hl⟩ := h
    exact ⟨l, hl, Setting.get?_ofFile hl⟩
  | missing path => exact h.elim

/-- Sources that can be read are one layer. -/
theorem load_eq (h : src.Readable) :
    ∃ l, src.load = (Settings.ofLayer l).checked ∧ ∀ x : Setting, x.get? l = x.layered? src := by
  obtain ⟨bottom, hbottom, hprofile⟩ := load_profile h.2
  obtain ⟨middle, hmiddle, hoverlay⟩ := load_overlay h.1
  refine ⟨src.invocation.layer.onto (middle.onto bottom), ?_, fun x => ?_⟩
  · rw [load, Settings.load, hbottom, hmiddle]
    rfl
  · rw [Setting.get?_onto, Setting.get?_onto, hoverlay, hprofile]
    rfl

theorem orDefault_getD (given : Option Nat) (fallback : Nat) :
    Postgres.orDefault (given.getD fallback) fallback = positive given fallback := by
  cases given with
  | none => exact ite_self _
  | some n =>
    rw [Option.getD_some, Postgres.orDefault, positive, Option.filter_some]
    split <;> simp_all

/-- A connection is that of the settings in the layer. -/
theorem connection_eq {l : Layer} (h : ∀ x : Setting, x.get? l = x.layered? src) :
    Postgres.Connection.ofSettings (Settings.ofLayer l).postgres = src.connection := by
  have hurl : l.url = Setting.url.layered? src := h .url
  have hmax : l.maxConnections = Setting.maxConnections.layered? src := h .maxConnections
  have hmin : l.minConnections = Setting.minConnections.layered? src := h .minConnections
  have hacquire : l.acquireTimeout = Setting.acquireTimeout.layered? src := h .acquireTimeout
  have hidle : l.idleTimeout = Setting.idleTimeout.layered? src := h .idleTimeout
  have hlife : l.maxLifetime = Setting.maxLifetime.layered? src := h .maxLifetime
  have hstatement : l.statementTimeout = Setting.statementTimeout.layered? src :=
    h .statementTimeout
  rw [connection, ← hurl, ← hmax, ← hmin, ← hacquire, ← hidle, ← hlife, ← hstatement]
  simp only [Postgres.Connection.ofSettings, Settings.ofLayer, orDefault_getD]
  rfl

/-- **From the sources to a connection.**  Sources that can be read give settings, each by itself
from the highest source that has it; users need not sign in if the command line says so; the
interval of the sweep is taken like the others and then raised.  With the settings goes the
connection that the sources ask for. -/
theorem connection_of_sources (src : Sources) (h : src.Readable) :
    ∃ s : Settings, src.load = s.checked ∧
      (∀ x : Setting, x ≠ .sweepInterval → x.of? s = (x.layered? src <|> x.default?)) ∧
      (src.invocation.noAuth = true → s.authEnabled = false) ∧
      (let wanted : Nat := (Setting.sweepInterval.layered? src).getD (600 : Nat)
      s.sweepInterval = if wanted ≤ s.cacheTtl then min (2 * s.cacheTtl) Numeral.maxUInt64
        else wanted) ∧
      Postgres.Connection.ofSettings s.postgres = src.connection := by
  obtain ⟨l, hload, hget⟩ := load_eq h
  refine ⟨Settings.ofLayer l, hload, fun x hx => ?_, fun hno => ?_, ?_, connection_eq hget⟩
  · rw [Setting.of?_ofLayer hx, hget]
  · have hoff : l.authEnabled = some false :=
      (hget .authEnabled).trans (Setting.layered?_authEnabled hno)
    exact congrArg (·.getD true) hoff
  · show Settings.raised (l.sweepInterval.getD 600) _ = _
    rw [show l.sweepInterval = Setting.sweepInterval.layered? src from hget .sweepInterval]
    rfl

/-! ## Two files and a command line -/

theorem readable_of_isSome {f : SettingsFile} (h : (Layer.ofFile f).toOption.isSome = true) :
    f.Readable := by
  obtain ⟨l, hl⟩ := Option.isSome_iff_exists.1 h
  exact ⟨l, ok_of_toOption hl⟩

namespace Sample

/-- The file `{"server":{"host":null,"port":1},"database":{"postgres":{"max_connections":0}},
"filters":{"sweep_interval_secs":100}}`. -/
def beside : SettingsFile where
  path := "taskdeck.json"
  contents :=
    [123, 34, 115, 101, 114, 118, 101, 114, 34, 58, 123, 34, 104, 111, 115, 116, 34, 58, 110, 117,
     108, 108, 44, 34, 112, 111, 114, 116, 34, 58, 49, 125, 44, 34, 100, 97, 116, 97, 98, 97, 115,
     101, 34, 58, 123, 34, 112, 111, 115, 116, 103, 114, 101, 115, 34, 58, 123, 34, 109, 97, 120, 95,
     99, 111, 110, 110, 101, 99, 116, 105, 111, 110, 115, 34, 58, 48, 125, 125, 44, 34, 102, 105,
     108, 116, 101, 114, 115, 34, 58, 123, 34, 115, 119, 101, 101, 112, 95, 105, 110, 116, 101, 114,
     118, 97, 108, 95, 115, 101, 99, 115, 34, 58, 49, 48, 48, 125, 125]

/-- The file `{"server":{"host":"::1"},"database":{"postgres":{"url":"postgres://td@db/taskdeck",
"max_connections":7,"statement_timeout_secs":0}}}`. -/
def profile : SettingsFile where
  path := "taskdeck.json"
  contents :=
    [123, 34, 115, 101, 114, 118, 101, 114, 34, 58, 123, 34, 104, 111, 115, 116, 34, 58, 34, 58, 58,
     49, 34, 125, 44, 34, 100, 97, 116, 97, 98, 97, 115, 101, 34, 58, 123, 34, 112, 111, 115, 116,
     103, 114, 101, 115, 34, 58, 123, 34, 117, 114, 108, 34, 58, 34, 112, 111, 115, 116, 103, 114,
     101, 115, 58, 47, 47, 116, 100, 64, 100, 98, 47, 116, 97, 115, 107, 100, 101, 99, 107, 34, 44,
     34, 109, 97, 120, 95, 99, 111, 110, 110, 101, 99, 116, 105, 111, 110, 115, 34, 58, 55, 44, 34,
     115, 116, 97, 116, 101, 109, 101, 110, 116, 95, 116, 105, 109, 101, 111, 117, 116, 95, 115, 101,
     99, 115, 34, 58, 48, 125, 125, 125]

def sources : Sources where
  invocation := ⟨none, none, some 7000, true, none, none, none, some 700⟩
  overlay := .file beside
  profile := some profile

end Sample

theorem connection_of_two_files : Sample.sources.Readable ∧
    ∃ s : Settings, Sample.sources.load = s.checked ∧ s.host = "::1" ∧ s.socket = 7000 ∧
      s.authEnabled = false ∧ s.sweepInterval = 1400 ∧
      (Postgres.Connection.ofSettings s.postgres).toOption.map
        (fun c => (c.maxConnections, c.target.options)) =
          some (20, some "-c statement_timeout=60s") := by
  have hreadable : Sample.sources.Readable :=
    ⟨readable_of_isSome (by decide +kernel), fun f hf => by
      cases hf
      exact readable_of_isSome (by decide +kernel)⟩
  obtain ⟨s, hload, hgiven, hno, hsweep, hconnection⟩ :=
    connection_of_sources Sample.sources hreadable
  have hhost : s.host = "::1" :=
    Option.some.inj ((hgiven .host (by decide)).trans (by decide +kernel))
  have hsocket : s.socket = 7000 :=
    Option.some.inj ((hgiven .socket (by decide)).trans (by decide +kernel))
  have hlife : s.cacheTtl = 700 :=
    Option.some.inj ((hgiven .cacheTtl (by decide)).trans (by decide +kernel))
  have hwanted : (Setting.sweepInterval.layered? Sample.sources).getD (600 : Nat) = 100 := by
    decide +kernel
  have hraised : s.sweepInterval = 1400 := by
    rw [hsweep, hlife, hwanted]
    decide
  have hopened : (Postgres.Connection.ofSettings s.postgres).toOption.map
      (fun c => (c.maxConnections, c.target.options)) =
        some (20, some "-c statement_timeout=60s") := by
    rw [hconnection]
    decide +kernel
  exact ⟨hreadable, s, hload, hhost, hsocket, hno rfl, hraised, hopened⟩

/-- A bound of zero does not leave statements unbounded: the session is opened with the default
bound. -/
theorem zero_statement_timeout_bounded :
    ¬ ∀ (src : Sources) (s : Settings) (t : Postgres.Target) (c : Postgres.Connection),
      src.load = .ok s → Setting.statementTimeout.layered? src = some (0 : Nat) →
      (Uri.ofText? s.postgres.url).bind Postgres.Target.ofUri? = some t →
      Postgres.Connection.ofSettings s.postgres = .ok c → c.target.options = t.options := by
  intro hall
  have hzero : Setting.statementTimeout.layered? Sample.sources = some (0 : Nat) := by
    decide +kernel
  have hstart : (Sample.sources.load.toOption.map (·.postgres)) =
      some ⟨"postgres://td@db/taskdeck", 0, 2, 30, 600, 1800, 0⟩ := by decide +kernel
  have hopen : (Postgres.Connection.ofSettings
      ⟨"postgres://td@db/taskdeck", 0, 2, 30, 600, 1800, 0⟩).toOption.map (·.target.options) =
        some (some "-c statement_timeout=60s") := by decide +kernel
  have haddress : ((Uri.ofText? "postgres://td@db/taskdeck").bind
      Postgres.Target.ofUri?).map (·.options) = some none := by decide +kernel
  obtain ⟨s, hs, hpostgres⟩ := Option.map_eq_some_iff.1 hstart
  obtain ⟨c, hc, hoptions⟩ := Option.map_eq_some_iff.1 hopen
  obtain ⟨t, ht, hnone⟩ := Option.map_eq_some_iff.1 haddress
  rw [← hpostgres] at hc
  have hsame := hall Sample.sources s t c (ok_of_toOption hs) hzero (by rw [hpostgres]; exact ht)
    (ok_of_toOption hc)
  rw [hoptions, hnone] at hsame
  cases hsame

end Sources

end TaskBoard
