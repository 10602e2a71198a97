import TaskBoard.Proofs.Json.Decoding
import TaskBoard.Settings.Resolved

/-!
# What a settings file gives

A settings file is decoded member by member into one layer.  What it gives for a setting can be
looked up in its document, without regard to anything else that it has: by the name of the section
and the name of the setting, or by their positions where they stand in an array.  A section or a
setting that is missing or null gives nothing.

    settings are put apart from each other                      (Setting.get?_put_of_ne)
    a section that is decoded has been looked up                (Setting.reads_group)
    so has every setting of a file                              (Setting.get?_ofFile)
-/

namespace TaskBoard

/-! ## Looking up -/

namespace Json.Doc

/-- A document that is not null. -/
def given? : Doc → Option Doc
  | .null => none
  | d => some d

/-- What stands under a name in an object, or at a position in an array, unless it is null. -/
def field? (d : Doc) (position : Nat) (name : String) : Option Doc :=
  match d with
  | .object members => (members.lookup (some name)).bind given?
  | .array items => items[position]?.bind given?
  | _ => none

/-- What is found by one field after the other. -/
def at? (d : Doc) : List (Nat × String) → Option Doc
  | [] => some d
  | (position, name) :: path => (d.field? position name).bind fun part => part.at? path

def text? : Doc → Option String
  | .string s => some s
  | _ => none

def truth? : Doc → Option Bool
  | .bool b => some b
  | _ => none

/-- A natural number up to `most`. -/
def count? (most : Nat) : Doc → Option Nat
  | .number (.int n) => if 0 ≤ n ∧ n ≤ most then some n.toNat else none
  | _ => none

end Json.Doc

/-- The name of a setting. -/
inductive Setting
  | host
  | socket
  | authEnabled
  | sessionSecret
  | url
  | maxConnections
  | minConnections
  | acquireTimeout
  | idleTimeout
  | maxLifetime
  | statementTimeout
  | cacheTtl
  | sweepInterval
  deriving DecidableEq

namespace Setting

/-- The type of the values of a setting. -/
abbrev Value : Setting → Type
  | host => String
  | authEnabled => Bool
  | sessionSecret => String
  | url => String
  | _ => Nat

/-- Where a file has the setting. -/
def path : Setting → List (Nat × String)
  | host => [(0, "server"), (0, "host")]
  | socket => [(0, "server"), (1, "port")]
  | authEnabled => [(1, "auth"), (0, "enabled")]
  | sessionSecret => [(1, "auth"), (1, "session_secret")]
  | url => [(2, "database"), (0, "postgres"), (0, "url")]
  | maxConnections => [(2, "database"), (0, "postgres"), (1, "max_connections")]
  | minConnections => [(2, "database"), (0, "postgres"), (2, "min_connections")]
  | acquireTimeout => [(2, "database"), (0, "postgres"), (3, "acquire_timeout_secs")]
  | idleTimeout => [(2, "database"), (0, "postgres"), (4, "idle_timeout_secs")]
  | maxLifetime => [(2, "database"), (0, "postgres"), (5, "max_lifetime_secs")]
  | statementTimeout => [(2, "database"), (0, "postgres"), (6, "statement_timeout_secs")]
  | cacheTtl => [(3, "filters"), (0, "cache_ttl_secs")]
  | sweepInterval => [(3, "filters"), (1, "sweep_interval_secs")]

/-- The value that a document has for the setting. -/
def value? : (x : Setting) → Json.Doc → Option x.Value
  | host => Json.Doc.text?
  | socket => Json.Doc.count? Numeral.maxUInt16
  | authEnabled => Json.Doc.truth?
  | sessionSecret => Json.Doc.text?
  | url => Json.Doc.text?
  | maxConnections => Json.Doc.count? Numeral.maxUInt32
  | minConnections => Json.Doc.count? Numeral.maxUInt32
  | acquireTimeout => Json.Doc.count? Numeral.maxUInt64
  | idleTimeout => Json.Doc.count? Numeral.maxUInt64
  | maxLifetime => Json.Doc.count? Numeral.maxUInt64
  | statementTimeout => Json.Doc.count? Numeral.maxUInt64
  | cacheTtl => Json.Doc.count? Numeral.maxUInt64
  | sweepInterval => Json.Doc.count? Numeral.maxUInt64

/-- What a layer has for the setting. -/
def get? : (x : Setting) → Layer → Option x.Value
  | host => Layer.host
  | socket => Layer.socket
  | authEnabled => Layer.authEnabled
  | sessionSecret => Layer.sessionSecret
  | url => Layer.url
  | maxConnections => Layer.maxConnections
  | minConnections => Layer.minConnections
  | acquireTimeout => Layer.acquireTimeout
  | idleTimeout => Layer.idleTimeout
  | maxLifetime => Layer.maxLifetime
  | statementTimeout => Layer.statementTimeout
  | cacheTtl => Layer.cacheTtl
  | sweepInterval => Layer.sweepInterval

/-- What a document gives for the setting. -/
def ofDoc (x : Setting) (d : Json.Doc) : Option x.Value := (d.at? x.path).bind x.value?

/-- What a file gives for the setting. -/
def ofFile (x : Setting) (f : SettingsFile) : Option x.Value :=
  x.ofDoc (Json.Doc.ofBytes f.contents).1

/-! ## Decoding -/

/-- Puts a value for the setting into a layer. -/
def put : (x : Setting) → Layer → x.Value → Layer
  | host => fun l v => { l with host := some v }
  | socket => fun l v => { l with socket := some v }
  | authEnabled => fun l v => { l with authEnabled := some v }
  | sessionSecret => fun l v => { l with sessionSecret := some v }
  | url => fun l v => { l with url := some v }
  | maxConnections => fun l v => { l with maxConnections := some v }
  | minConnections => fun l v => { l with minConnections := some v }
  | acquireTimeout => fun l v => { l with acquireTimeout := some v }
  | idleTimeout => fun l v => { l with idleTimeout := some v }
  | maxLifetime => fun l v => { l with maxLifetime := some v }
  | statementTimeout => fun l v => { l with statementTimeout := some v }
  | cacheTtl => fun l v => { l with cacheTtl := some v }
  | sweepInterval => fun l v => { l with sweepInterval := some v }

def decoder : (x : Setting) → Json.Decoder x.Value
  | host => .string
  | socket => .natUpTo Numeral.maxUInt16
  | authEnabled => .bool
  | sessionSecret => .string
  | url => .string
  | maxConnections => .natUpTo Numeral.maxUInt32
  | minConnections => .natUpTo Numeral.maxUInt32
  | acquireTimeout => .natUpTo Numeral.maxUInt64
  | idleTimeout => .natUpTo Numeral.maxUInt64
  | maxLifetime => .natUpTo Numeral.maxUInt64
  | statementTimeout => .natUpTo Numeral.maxUInt64
  | cacheTtl => .natUpTo Numeral.maxUInt64
  | sweepInterval => .natUpTo Numeral.maxUInt64

end Setting

/-- Reads a document into a layer. -/
abbrev LayerReader := Layer → Json.Decoder Layer

/-- A part of a file: its name, and how it is read. -/
abbrev FilePart := String × LayerReader

def FilePart.slot (p : FilePart) : Json.Decoder.Slot Layer.Reading := Layer.part p.1 p.2

/-- Reads several parts. -/
def LayerReader.group (parts : List FilePart) : LayerReader := fun l =>
  .record (parts.map FilePart.slot) ⟨[], l⟩ fun r => some r.layer

namespace Setting

/-- The position and the name of the setting in its section. -/
def place (x : Setting) : Nat × String := x.path.getLast?.getD (0, "")

/-- The position and the name of the section. -/
def sectionPlace (x : Setting) : Nat × String := x.path.head?.getD (0, "")

/-- The setting as a part of its section. -/
def part (x : Setting) : FilePart := (x.place.2, fun l => x.decoder.map (x.put l))

end Setting

/-- Reads a section with these settings. -/
def LayerReader.ofSettings (settings : List Setting) : LayerReader :=
  .group (settings.map Setting.part)

namespace Layer

def serverSettings : List Setting := [.host, .socket]
def authSettings : List Setting := [.authEnabled, .sessionSecret]
def postgresSettings : List Setting :=
  [.url, .maxConnections, .minConnections, .acquireTimeout, .idleTimeout, .maxLifetime,
   .statementTimeout]
def filterSettings : List Setting := [.cacheTtl, .sweepInterval]

def databaseParts : List FilePart := [("postgres", .ofSettings postgresSettings)]

/-- All parts of a file. -/
def parts : List FilePart :=
  [("server", .ofSettings serverSettings), ("auth", .ofSettings authSettings),
   ("database", .group databaseParts), ("filters", .ofSettings filterSettings)]

theorem sections_eq : sections = parts.map FilePart.slot := rfl

end Layer

/-! ## Lemmas -/

namespace Setting

/-- Reading leaves what the layer has for the setting. -/
def Keeps (x : Setting) (read : LayerReader) : Prop :=
  ∀ l room d l', read l room d = .ok l' → x.get? l' = x.get? l

/-- Reading takes the setting from the end of a path, and leaves what the layer has for it if
nothing is there. -/
def Reads (x : Setting) (path : List (Nat × String)) (read : LayerReader) : Prop :=
  ∀ l room d l', read l room d = .ok l' → x.get? l' = (d.at? path).elim (x.get? l) x.value?

/-! ### One setting -/

theorem get?_put_self (x : Setting) (l : Layer) (v : x.Value) : x.get? (x.put l v) = some v := by
  cases x <;> rfl

theorem get?_put_of_ne {x y : Setting} (h : x ≠ y) (l : Layer) (v : y.Value) :
    x.get? (y.put l v) = x.get? l := by
  cases y <;> cases x <;> first | rfl | exact absurd rfl h

theorem count?_of_natUpTo {most room n : Nat} {d : Json.Doc}
    (h : Json.Decoder.natUpTo most room d = .ok n) : d.count? most = some n := by
  unfold Json.Decoder.natUpTo at h
  cases hi : Json.Decoder.int 0 most room d with
  | error e =>
    rw [hi] at h
    cases h
  | ok i =>
    rw [hi] at h
    cases h
    unfold Json.Decoder.int at hi
    split at hi
    · split at hi
      · next hbounds =>
        cases hi
        exact if_pos hbounds
      · cases hi
    · cases hi

theorem text?_of_string {room : Nat} {d : Json.Doc} {s : String}
    (h : Json.Decoder.string room d = .ok s) : d.text? = some s := by
  cases d <;> cases h
  rfl

theorem truth?_of_bool {room : Nat} {d : Json.Doc} {b : Bool}
    (h : Json.Decoder.bool room d = .ok b) : d.truth? = some b := by
  cases d <;> cases h
  rfl

theorem value?_of_decoder {x : Setting} {room : Nat} {d : Json.Doc} {v : x.Value}
    (h : x.decoder room d = .ok v) : x.value? d = some v := by
  cases x with
  | host => exact @text?_of_string room d v h
  | sessionSecret => exact @text?_of_string room d v h
  | url => exact @text?_of_string room d v h
  | authEnabled => exact @truth?_of_bool room d v h
  | _ => exact @count?_of_natUpTo _ room v d h

theorem map_eq_ok {α : Type} {dec : Json.Decoder α} {f : α → Layer} {room : Nat} {d : Json.Doc}
    {l : Layer} (h : dec.map f room d = .ok l) : ∃ v, dec room d = .ok v ∧ l = f v := by
  unfold Json.Decoder.map at h
  cases hv : dec room d with
  | error e =>
    rw [hv] at h
    cases h
  | ok v =>
    rw [hv] at h
    cases h
    exact ⟨v, rfl, rfl⟩

theorem reads_part (x : Setting) : x.Reads [] x.part.2 := by
  intro l room d l' h
  obtain ⟨v, hv, rfl⟩ := map_eq_ok h
  exact (x.get?_put_self l v).trans (value?_of_decoder hv).symm

theorem keeps_part {x y : Setting} (h : x ≠ y) : x.Keeps y.part.2 := by
  intro l room d l' hl
  obtain ⟨v, -, rfl⟩ := map_eq_ok hl
  exact get?_put_of_ne h l v

/-! ### Several parts -/

theorem given?_of_ne_null {d : Json.Doc} (h : d ≠ .null) : d.given? = some d := by
  cases d <;> first | rfl | exact absurd rfl h

theorem optional_eq_ok {α : Type} {dec : Json.Decoder α} {room : Nat} {d : Json.Doc}
    {o : Option α} (h : Json.Decoder.optional dec room d = .ok o) :
    d = .null ∧ o = none ∨ d ≠ .null ∧ ∃ a, dec room d = .ok a ∧ o = some a := by
  unfold Json.Decoder.optional at h
  split at h
  · cases h
    exact .inl ⟨rfl, rfl⟩
  · next hd =>
    refine .inr ⟨hd, ?_⟩
    cases ha : dec room d with
    | error e =>
      rw [ha] at h
      cases h
    | ok a =>
      rw [ha] at h
      cases h
      exact ⟨a, rfl, rfl⟩

/-- A part is read once, and not if it is null. -/
theorem fill_eq_ok {p : FilePart} {r r' : Layer.Reading} {room : Nat} {d : Json.Doc}
    (h : p.slot.fill r room d = .ok r') :
    p.1 ∉ r.given ∧ r'.given = p.1 :: r.given ∧
      (d.given? = none ∧ r'.layer = r.layer ∨
        d.given? = some d ∧ p.2 r.layer room d = .ok r'.layer) := by
  change (if r.given.contains p.1 then _ else _) = _ at h
  split at h
  · cases h
  · next hnew =>
    refine ⟨by simpa using hnew, ?_⟩
    cases hd : Json.Decoder.optional (p.2 r.layer) room d with
    | error e =>
      rw [hd] at h
      cases h
    | ok l =>
      rw [hd] at h
      cases h
      obtain ⟨rfl, rfl⟩ | ⟨hnull, a, ha, rfl⟩ := optional_eq_ok hd
      · exact ⟨rfl, .inl ⟨rfl, rfl⟩⟩
      · exact ⟨rfl, .inr ⟨given?_of_ne_null hnull, ha⟩⟩

theorem get?_fill_of_keeps {x : Setting} {p : FilePart} (hp : x.Keeps p.2)
    {r r' : Layer.Reading} {room : Nat} {d : Json.Doc} (h : p.slot.fill r room d = .ok r') :
    x.get? r'.layer = x.get? r.layer := by
  obtain ⟨-, -, ⟨-, hlayer⟩ | ⟨-, hread⟩⟩ := fill_eq_ok h
  · rw [hlayer]
  · exact hp _ _ _ _ hread

theorem get?_fill_of_reads {x : Setting} {path : List (Nat × String)} {p : FilePart}
    (hp : x.Reads path p.2) {r r' : Layer.Reading} {room : Nat} {d : Json.Doc}
    (h : p.slot.fill r room d = .ok r') :
    x.get? r'.layer = (d.given?.bind (·.at? path)).elim (x.get? r.layer) x.value? := by
  obtain ⟨-, -, ⟨hnull, hlayer⟩ | ⟨hgiven, hread⟩⟩ := fill_eq_ok h
  · rw [hnull, hlayer]
    rfl
  · rw [hgiven]
    exact hp _ _ _ _ hread

/-- The parts of a section all leave the setting. -/
theorem keeps_group {x : Setting} {parts : List FilePart} (h : ∀ p ∈ parts, x.Keeps p.2) :
    x.Keeps (.group parts) := by
  intro l room d l' hl
  obtain ⟨r, hr, hlast⟩ := Json.Decoder.record_keeps
    (P := fun r : Layer.Reading => x.get? r.layer = x.get? l) (fun s hs room r d r' hr hfill => by
      obtain ⟨p, hp, rfl⟩ := List.mem_map.1 hs
      exact (get?_fill_of_keeps (h p hp) hfill).trans hr) rfl hl
  cases hlast
  exact hr

section

variable {x : Setting} {path : List (Nat × String)} {parts : List FilePart} {name : String}
  {read : LayerReader}

theorem find?_slot (parts : List FilePart) (name : String) :
    (parts.map FilePart.slot).find? (fun s => s.names.contains name) =
      (parts.find? fun p => p.1 == name).map FilePart.slot := by
  rw [List.find?_map]
  congr 2
  funext p
  show [p.1].contains name = (p.1 == name)
  rw [List.contains_cons, List.contains_nil, Bool.or_false, Bool.beq_comm]

/-- A member fills the part of its name, or none. -/
theorem fillNamed_cons_eq_ok {sound : Json.Doc → Bool} {room : Nat} {n : String} {d : Json.Doc}
    {ms : List (Option String × Json.Doc)} {r r' : Layer.Reading}
    (h : Json.Decoder.fillNamed (parts.map FilePart.slot) sound room r ((some n, d) :: ms) =
      .ok r') :
    ∃ r₁, Json.Decoder.fillNamed (parts.map FilePart.slot) sound room r₁ ms = .ok r' ∧
      (parts.find? (fun p => p.1 == n) = none ∧ r₁ = r ∨
        ∃ p, parts.find? (fun p => p.1 == n) = some p ∧ p.slot.fill r room d = .ok r₁) := by
  rw [Json.Decoder.fillNamed, find?_slot] at h
  cases hfind : parts.find? fun p => p.1 == n with
  | none =>
    rw [hfind] at h
    simp only [Option.map_none] at h
    split at h
    · exact ⟨r, h, .inl ⟨rfl, rfl⟩⟩
    · cases h
  | some p =>
    rw [hfind] at h
    obtain ⟨r₁, hfill, hrest⟩ := bind_eq_ok.1 h
    exact ⟨r₁, hrest, .inr ⟨p, rfl, hfill⟩⟩

/-- Of several members, the one of that name is taken. -/
theorem get?_fillNamed (hpart : parts.find? (fun p => p.1 == name) = some (name, read))
    (hreads : x.Reads path read) (hkeeps : ∀ p ∈ parts, p.1 ≠ name → x.Keeps p.2)
    {sound : Json.Doc → Bool} {room : Nat} {ms : List (Option String × Json.Doc)}
    {r r' : Layer.Reading}
    (h : Json.Decoder.fillNamed (parts.map FilePart.slot) sound room r ms = .ok r') :
    x.get? r'.layer =
      if name ∈ r.given then x.get? r.layer
      else (((ms.lookup (some name)).bind Json.Doc.given?).bind (·.at? path)).elim
        (x.get? r.layer) x.value? := by
  induction ms generalizing r with
  | nil =>
    cases h
    exact (ite_self _).symm
  | cons m ms ih =>
    obtain ⟨n, d⟩ := m
    cases n with
    | none => cases h
    | some n =>
      obtain ⟨r₁, hrest, ⟨hfind, rfl⟩ | ⟨p, hfind, hfill⟩⟩ := fillNamed_cons_eq_ok h
      · have hn : name ≠ n := by
          rintro rfl
          rw [hpart] at hfind
          cases hfind
        rw [ih hrest, List.lookup_cons, beq_false_of_ne (by simpa using hn)]
      · have hpn : p.1 = n := by simpa using List.find?_some hfind
        obtain ⟨hnew, hgiven, -⟩ := fill_eq_ok hfill
        by_cases hn : name = n
        · -- later members are not of that name: it is given by then
          subst hn
          obtain rfl : (name, read) = p := Option.some.inj (hpart.symm.trans hfind)
          rw [ih hrest, hgiven, if_pos List.mem_cons_self, if_neg hnew, List.lookup_cons,
            beq_self_eq_true]
          exact get?_fill_of_reads hreads hfill
        · have hkept := get?_fill_of_keeps
            (hkeeps p (List.mem_of_find?_eq_some hfind) (by rw [hpn]; exact Ne.symm hn)) hfill
          have hmem : name ∈ r₁.given ↔ name ∈ r.given := by
            rw [hgiven, hpn, List.mem_cons, or_iff_right hn]
          rw [ih hrest, hkept, if_congr hmem rfl rfl, List.lookup_cons,
            beq_false_of_ne (by simpa using hn)]

theorem get?_fillInOrder_of_keeps (h : ∀ p ∈ parts, x.Keeps p.2) {room : Nat}
    {ds : List Json.Doc} {r r' : Layer.Reading}
    (hfill : Json.Decoder.fillInOrder room r (parts.map FilePart.slot) ds = .ok r') :
    x.get? r'.layer = x.get? r.layer :=
  Json.Decoder.fillInOrder_keeps (P := fun s : Layer.Reading => x.get? s.layer = x.get? r.layer)
    (Q := fun _ => True) (fun s hs r₁ d r₂ _ hr hd => by
      obtain ⟨p, hp, rfl⟩ := List.mem_map.1 hs
      exact (get?_fill_of_keeps (h p hp) hd).trans hr) (fun _ _ => trivial) rfl hfill

/-- Of several items, the one in its place is taken. -/
theorem get?_fillInOrder {i : Nat} (hpart : parts[i]? = some (name, read))
    (hreads : x.Reads path read) (hnames : (parts.map Prod.fst).Nodup)
    (hkeeps : ∀ p ∈ parts, p.1 ≠ name → x.Keeps p.2) {room : Nat} {ds : List Json.Doc}
    {r r' : Layer.Reading}
    (h : Json.Decoder.fillInOrder room r (parts.map FilePart.slot) ds = .ok r') :
    x.get? r'.layer =
      ((ds[i]?.bind Json.Doc.given?).bind (·.at? path)).elim (x.get? r.layer) x.value? := by
  induction parts generalizing i ds r with
  | nil => cases hpart
  | cons p parts ih =>
    obtain ⟨hp, hparts⟩ := List.nodup_cons.1 hnames
    cases ds with
    | nil => cases h
    | cons d ds =>
      obtain ⟨r₁, hfill, hrest⟩ := bind_eq_ok.1 h
      cases i with
      | zero =>
        obtain rfl : p = (name, read) := Option.some.inj hpart
        have hothers : ∀ q ∈ parts, x.Keeps q.2 := fun q hq =>
          hkeeps q (List.mem_cons_of_mem _ hq) fun hname => hp (List.mem_map.2 ⟨q, hq, hname⟩)
        rw [get?_fillInOrder_of_keeps hothers hrest]
        exact get?_fill_of_reads hreads hfill
      | succ i =>
        have hname : p.1 ≠ name := fun hname =>
          hp (List.mem_map.2 ⟨_, List.mem_of_getElem? hpart, hname.symm⟩)
        rw [ih hpart hparts (fun q hq => hkeeps q (List.mem_cons_of_mem _ hq)) hrest,
          get?_fill_of_keeps (hkeeps p List.mem_cons_self hname) hfill]
        rfl

theorem find?_of_getElem? {i : Nat} (hpart : parts[i]? = some (name, read))
    (hnames : (parts.map Prod.fst).Nodup) :
    parts.find? (fun p => p.1 == name) = some (name, read) := by
  have hmem := List.mem_of_getElem? hpart
  cases hfind : parts.find? fun p => p.1 == name with
  | none => exact absurd (beq_self_eq_true name) (List.find?_eq_none.1 hfind _ hmem)
  | some p =>
    have hp : p.1 = name := by simpa using List.find?_some hfind
    exact congrArg some
      (List.inj_on_of_nodup_map hnames (List.mem_of_find?_eq_some hfind) hmem hp)

/-- **A part has been looked up.**  It is found by its name in an object and by its place in an
array. -/
theorem reads_group {i : Nat} (hpart : parts[i]? = some (name, read))
    (hreads : x.Reads path read) (hnames : (parts.map Prod.fst).Nodup)
    (hkeeps : ∀ p ∈ parts, p.1 ≠ name → x.Keeps p.2) :
    x.Reads ((i, name) :: path) (.group parts) := by
  intro l room d l' hl
  cases hr : Json.Decoder.fields (parts.map FilePart.slot) ⟨[], l⟩ room d with
  | error e =>
    rw [LayerReader.group, Json.Decoder.record, hr] at hl
    cases hl
  | ok r =>
    rw [LayerReader.group, Json.Decoder.record, hr] at hl
    cases hl
    cases room with
    | zero => cases d <;> cases hr
    | succ room =>
      cases d with
      | array items => exact get?_fillInOrder hpart hreads hnames hkeeps hr
      | object members =>
        exact (get?_fillNamed (find?_of_getElem? hpart hnames) hreads hkeeps hr).trans
          (if_neg List.not_mem_nil)
      | _ => cases hr

end

/-! ### The file -/

section

variable {x : Setting} {settings : List Setting}

theorem keeps_ofSettings (h : x ∉ settings) : x.Keeps (.ofSettings settings) :=
  keeps_group fun p hp => by
    obtain ⟨y, hy, rfl⟩ := List.mem_map.1 hp
    exact keeps_part (ne_of_mem_of_not_mem hy h).symm

/-- A setting is found in its place in the section. -/
theorem reads_ofSettings {i : Nat} (hx : settings[i]? = some x)
    (hnames : (settings.map (·.place.2)).Nodup) :
    x.Reads [(i, x.place.2)] (.ofSettings settings) := by
  have hpart : (settings.map part)[i]? = some (x.place.2, x.part.2) := by
    rw [List.getElem?_map, hx]
    rfl
  have hpartNames : ((settings.map part).map Prod.fst).Nodup := by rwa [List.map_map]
  refine reads_group hpart x.reads_part hpartNames fun p hp hne => ?_
  obtain ⟨y, -, rfl⟩ := List.mem_map.1 hp
  exact keeps_part fun hxy => hne (hxy ▸ rfl)

end

/-- Only its own section has something to do with a setting. -/
theorem keeps_parts (x : Setting) :
    ∀ p ∈ Layer.parts, p.1 ≠ x.sectionPlace.2 → x.Keeps p.2 := by
  have hsection : ∀ {name : String} {settings : List Setting},
      (∀ y ∈ settings, y.sectionPlace.2 = name) → name ≠ x.sectionPlace.2 → x ∉ settings :=
    fun h hne hx => hne (h x hx).symm
  simp only [Layer.parts, List.forall_mem_cons]
  refine ⟨fun h => ?_, fun h => ?_, fun h => ?_, fun h => ?_, nofun⟩
  · exact keeps_ofSettings (hsection (by decide) h)
  · exact keeps_ofSettings (hsection (by decide) h)
  · refine keeps_group (List.forall_mem_singleton.2 ?_)
    exact keeps_ofSettings (hsection (by decide) h)
  · exact keeps_ofSettings (hsection (by decide) h)

/-- A section is looked up in the file. -/
theorem get?_decoder {x : Setting} {path : List (Nat × String)} {i : Nat} {read : LayerReader}
    (hpart : Layer.parts[i]? = some (x.sectionPlace.2, read)) (hreads : x.Reads path read)
    (hpath : x.path = (i, x.sectionPlace.2) :: path) {room : Nat} {d : Json.Doc} {l : Layer}
    (h : Layer.decoder room d = .ok l) : x.get? l = x.ofDoc d := by
  obtain ⟨r, hr, rfl⟩ := map_eq_ok h
  have hempty : x.get? .empty = none := by cases x <;> rfl
  have helim : ∀ o : Option Json.Doc, o.elim (x.get? .empty) x.value? = o.bind x.value? :=
    fun o => by cases o <;> [exact hempty; rfl]
  have hnames : (Layer.parts.map Prod.fst).Nodup := by decide
  cases room with
  | zero => cases d <;> cases hr
  | succ room =>
    cases d with
    | object members =>
      rw [Json.Decoder.object, Layer.sections_eq] at hr
      have hfound := get?_fillNamed (find?_of_getElem? hpart hnames) hreads x.keeps_parts hr
      rw [if_neg List.not_mem_nil, helim] at hfound
      rw [hfound, ofDoc, hpath]
      rfl
    | _ => cases hr

theorem get?_of_section {x : Setting} {settings : List Setting} {i j : Nat}
    (hpart : Layer.parts[i]? = some (x.sectionPlace.2, .ofSettings settings))
    (hx : settings[j]? = some x) (hnames : (settings.map (·.place.2)).Nodup)
    (hpath : x.path = [(i, x.sectionPlace.2), (j, x.place.2)]) {room : Nat} {d : Json.Doc}
    {l : Layer} (h : Layer.decoder room d = .ok l) : x.get? l = x.ofDoc d :=
  get?_decoder hpart (reads_ofSettings hx hnames) hpath h

/-- The settings of the database are one level deeper. -/
theorem get?_of_postgres {x : Setting} {j : Nat} (hx : Layer.postgresSettings[j]? = some x)
    (hsection : x.sectionPlace.2 = "database")
    (hpath : x.path = [(2, x.sectionPlace.2), (0, "postgres"), (j, x.place.2)]) {room : Nat}
    {d : Json.Doc} {l : Layer} (h : Layer.decoder room d = .ok l) : x.get? l = x.ofDoc d := by
  have hreads : x.Reads [(j, x.place.2)] (.ofSettings Layer.postgresSettings) :=
    reads_ofSettings hx (by decide)
  have hgroup : x.Reads [(0, "postgres"), (j, x.place.2)] (.group Layer.databaseParts) :=
    reads_group rfl hreads (by decide)
      (List.forall_mem_singleton.2 fun hne => absurd rfl hne)
  exact get?_decoder (i := 2) (by rw [hsection]; rfl) hgroup hpath h

/-- **Each setting of a file on its own.**  What a file that can be read gives for a setting is
what its document has in the place of that setting. -/
theorem get?_ofFile {f : SettingsFile} {l : Layer} (h : Layer.ofFile f = .ok l) (x : Setting) :
    x.get? l = x.ofFile f := by
  unfold Layer.ofFile at h
  split at h
  · cases h
  · next hread =>
    cases h
    have hdoc := Json.of_decodeBytes hread
    cases x with
    | host => exact get?_of_section (i := 0) (j := 0) rfl rfl (by decide) rfl hdoc
    | socket => exact get?_of_section (i := 0) (j := 1) rfl rfl (by decide) rfl hdoc
    | authEnabled => exact get?_of_section (i := 1) (j := 0) rfl rfl (by decide) rfl hdoc
    | sessionSecret => exact get?_of_section (i := 1) (j := 1) rfl rfl (by decide) rfl hdoc
    | url => exact get?_of_postgres (j := 0) rfl rfl rfl hdoc
    | maxConnections => exact get?_of_postgres (j := 1) rfl rfl rfl hdoc
    | minConnections => exact get?_of_postgres (j := 2) rfl rfl rfl hdoc
    | acquireTimeout => exact get?_of_postgres (j := 3) rfl rfl rfl hdoc
    | idleTimeout => exact get?_of_postgres (j := 4) rfl rfl rfl hdoc
    | maxLifetime => exact get?_of_postgres (j := 5) rfl rfl rfl hdoc
    | statementTimeout => exact get?_of_postgres (j := 6) rfl rfl rfl hdoc
    | cacheTtl => exact get?_of_section (i := 3) (j := 0) rfl rfl (by decide) rfl hdoc
    | sweepInterval => exact get?_of_section (i := 3) (j := 1) rfl rfl (by decide) rfl hdoc
  · cases h

end Setting

end TaskBoard
