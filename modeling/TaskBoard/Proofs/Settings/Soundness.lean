import TaskBoard.Proofs.Settings.Layering

/-!
# Settings that a server starts with

Whatever the sources give, settings that are given out have a host, a socket that can be bound, a
cache that keeps its entries for a while, and a secret of some length if users have to sign in.
Entries are swept out less often than they grow old.  The one exception is the longest life that
there is: no longer interval can be written down, so the interval is as long as the life.

    what holds of a value, whichever source it is from    (Setting.layered?_induction)
    numbers of all sources have their sizes               (Sources.fits_layer)
    an interval that is raised                            (Settings.raised_bounds)
    whatever starts is sound                              (Sources.settings_sound)
    the longest life has no longer interval               (Sources.sweep_not_longer)
-/

namespace TaskBoard

/-- The numbers of a command line are of the size of a socket and of a count of seconds. -/
structure CommandLine.Invocation.Fits (i : Invocation) : Prop where
  socket : ∀ n ∈ i.socket, n ≤ Numeral.maxUInt16
  cacheTtl : ∀ n ∈ i.cacheTtl, n ≤ Numeral.maxUInt64

/-- The numbers of a layer are of these sizes as well. -/
structure Layer.Fits (l : Layer) : Prop where
  socket : ∀ n ∈ l.socket, n ≤ Numeral.maxUInt16
  cacheTtl : ∀ n ∈ l.cacheTtl, n ≤ Numeral.maxUInt64
  sweepInterval : ∀ n ∈ l.sweepInterval, n ≤ Numeral.maxUInt64

/-- What can be said of the settings of every server that starts. -/
structure Settings.Sound (s : Settings) : Prop where
  host : s.host ≠ ""
  socket : 0 < s.socket ∧ s.socket ≤ Numeral.maxUInt16
  life : 0 < s.cacheTtl ∧ s.cacheTtl ≤ Numeral.maxUInt64
  interval : 0 < s.sweepInterval ∧ s.sweepInterval ≤ Numeral.maxUInt64
  /-- Entries are swept out less often than they grow old, if numbers go that far. -/
  longer : s.cacheTtl < s.sweepInterval ∨
    s.cacheTtl = Numeral.maxUInt64 ∧ s.sweepInterval = Numeral.maxUInt64
  secret : s.authEnabled = true →
    ∃ secret, s.sessionSecret = some secret ∧ 32 ≤ (Utf8.bytes secret).length

/-! ## Lemmas -/

/-! ### The command line -/

namespace CommandLine

theorem readSeconds?_le {s : String} {n : Nat} (h : readSeconds? s = some n) :
    n ≤ Numeral.maxUInt64 := by
  simpa using (Option.filter_eq_some_iff.1 h).2

theorem Invocation.fits_invocation (env : Environment) (command : Option Command)
    (before after : Given) : (invocation env command before after).Fits where
  socket := fun n hn => by
    obtain ⟨s, -, hs⟩ := Option.bind_eq_some_iff.1 hn
    exact readSocket?_le hs
  cacheTtl := fun n hn => by
    obtain ⟨s, -, hs⟩ := Option.bind_eq_some_iff.1 hn
    exact readSeconds?_le hs

/-- What is read off the words of a command line fits. -/
theorem Invocation.fits_ofWords {env : Environment} {words : List String} {i : Invocation}
    (h : ofWords env words = .ok i) : i.Fits := by
  obtain ⟨⟨before, next⟩, -, h⟩ := bind_eq_ok.1 h
  cases next with
  | none =>
    obtain ⟨before', -, h⟩ := bind_eq_ok.1 h
    cases h
    exact fits_invocation env _ _ _
  | some next =>
    obtain ⟨⟨after, rest⟩, -, h⟩ := bind_eq_ok.1 h
    obtain ⟨after', -, h⟩ := bind_eq_ok.1 h
    obtain ⟨command, -, h⟩ := bind_eq_ok.1 h
    obtain ⟨before', -, h⟩ := bind_eq_ok.1 h
    cases h
    exact fits_invocation env _ _ _

end CommandLine

/-! ### The layers -/

namespace Setting

theorem le_of_count? {most n : Nat} {d : Json.Doc} (h : d.count? most = some n) : n ≤ most := by
  unfold Json.Doc.count? at h
  split at h
  · split at h
    · cases h
      omega
    · cases h
  · cases h

/-- What holds of the command line's value and of every value in a document holds of the value
that is taken. -/
theorem layered?_induction {x : Setting} {P : x.Value → Prop} {src : Sources}
    (hline : ∀ v, x.get? src.invocation.layer = some v → P v)
    (hdoc : ∀ d v, x.value? d = some v → P v) {v : x.Value} (h : x.layered? src = some v) :
    P v := by
  have hfile {f : SettingsFile} (hf : x.ofFile f = some v) : P v := by
    obtain ⟨d, -, hd⟩ := Option.bind_eq_some_iff.1 hf
    exact hdoc d v hd
  simp only [layered?, Option.orElse_eq_orElse, Option.orElse_eq_or, Option.or_eq_some_iff] at h
  obtain h | ⟨-, h | ⟨-, h⟩⟩ := h
  · exact hline v h
  · cases hoverlay : src.overlay with
    | file f =>
      rw [hoverlay] at h
      exact hfile h
    | _ =>
      rw [hoverlay] at h
      cases h
  · obtain ⟨f, -, hf⟩ := Option.bind_eq_some_iff.1 h
    exact hfile hf

end Setting

/-! ### The settings -/

namespace Settings

/-- An interval is raised as far as numbers go. -/
theorem raised_bounds {sweep ttl : Nat} (hsweep : sweep ≤ Numeral.maxUInt64) (hpos : 0 < ttl)
    (httl : ttl ≤ Numeral.maxUInt64) :
    (0 < raised sweep ttl ∧ raised sweep ttl ≤ Numeral.maxUInt64) ∧
      (ttl < raised sweep ttl ∨
        ttl = Numeral.maxUInt64 ∧ raised sweep ttl = Numeral.maxUInt64) := by
  unfold raised
  split <;> omega

theorem fault?_eq_none {s : Settings} (h : s.fault? = none) :
    s.host ≠ "" ∧ 0 < s.socket ∧ 0 < s.cacheTtl ∧
      (s.authEnabled = true →
        ∃ secret, s.sessionSecret = some secret ∧ 32 ≤ (Utf8.bytes secret).length) := by
  unfold fault? at h
  split at h
  · cases h
  · next hhost =>
    split at h
    · cases h
    · next hsocket =>
      split at h
      · cases h
      · next hlife =>
        refine ⟨hhost, Nat.pos_of_ne_zero hsocket, Nat.pos_of_ne_zero hlife, fun hauth => ?_⟩
        rw [if_pos hauth] at h
        cases hsecret : s.sessionSecret with
        | none =>
          rw [hsecret] at h
          cases h
        | some secret =>
          rw [hsecret] at h
          change (if (Utf8.bytes secret).length < minSecretLength then _ else _) = none at h
          split at h
          · cases h
          · next hlong => exact ⟨secret, rfl, Nat.le_of_not_lt hlong⟩

end Settings

namespace Sources

variable {src : Sources} {s : Settings}

/-- Only sources that can be read give settings. -/
theorem readable_of_load (h : src.load = .ok s) : src.Readable := by
  obtain ⟨bottom, hbottom, h⟩ := bind_eq_ok.1 h
  obtain ⟨middle, hmiddle, -⟩ := bind_eq_ok.1 h
  constructor
  · cases hoverlay : src.overlay with
    | none => trivial
    | file f =>
      rw [hoverlay] at hmiddle
      exact ⟨middle, hmiddle⟩
    | missing path =>
      rw [hoverlay] at hmiddle
      cases hmiddle
  · intro f hf
    rw [Option.mem_def.1 hf] at hbottom
    exact ⟨bottom, hbottom⟩

/-- Settings that are given out are those of a layer, and have no fault. -/
theorem load_eq_ok (h : src.load = .ok s) :
    ∃ l, s = Settings.ofLayer l ∧ s.fault? = none ∧ ∀ x : Setting, x.get? l = x.layered? src := by
  obtain ⟨l, hl, hget⟩ := load_eq (readable_of_load h)
  obtain ⟨rfl, hfault⟩ := Settings.fault?_checked (hl.symm.trans h)
  exact ⟨l, rfl, hfault, hget⟩

/-- Whichever source a number is from, it has its size. -/
theorem fits_layer (hfits : src.invocation.Fits) {l : Layer}
    (hget : ∀ x : Setting, x.get? l = x.layered? src) : l.Fits where
  socket := fun _ hn => Setting.layered?_induction (x := .socket) (P := (· ≤ Numeral.maxUInt16))
    hfits.socket (fun _ _ => Setting.le_of_count?) ((hget .socket).symm.trans hn)
  cacheTtl := fun _ hn => Setting.layered?_induction (x := .cacheTtl)
    (P := (· ≤ Numeral.maxUInt64)) hfits.cacheTtl (fun _ _ => Setting.le_of_count?)
    ((hget .cacheTtl).symm.trans hn)
  sweepInterval := fun _ hn => Setting.layered?_induction (x := .sweepInterval)
    (P := (· ≤ Numeral.maxUInt64)) nofun (fun _ _ => Setting.le_of_count?)
    ((hget .sweepInterval).symm.trans hn)

/-- A number is that of the layer or the default. -/
theorem getD_le {given : Option Nat} {most fallback : Nat} (h : ∀ n ∈ given, n ≤ most)
    (hfallback : fallback ≤ most) : given.getD fallback ≤ most := by
  cases given with
  | none => exact hfallback
  | some n => exact h n rfl

/-- **Whatever starts is sound.**  Whichever of its sources have settings and whatever they are,
a server starts with settings that go together. -/
theorem settings_sound (src : Sources) (hfits : src.invocation.Fits) {s : Settings}
    (h : src.load = .ok s) : s.Sound := by
  obtain ⟨l, rfl, hfault, hget⟩ := load_eq_ok h
  obtain ⟨hhost, hsocket, hlife, hsecret⟩ := Settings.fault?_eq_none hfault
  have hlayer : l.Fits := fits_layer hfits hget
  have hsocketLe : (Settings.ofLayer l).socket ≤ Numeral.maxUInt16 :=
    getD_le hlayer.socket (by decide)
  have hlifeLe : (Settings.ofLayer l).cacheTtl ≤ Numeral.maxUInt64 :=
    getD_le hlayer.cacheTtl (by decide)
  have hwantedLe : l.sweepInterval.getD Settings.defaultSweepInterval ≤ Numeral.maxUInt64 :=
    getD_le hlayer.sweepInterval (by decide)
  obtain ⟨hinterval, hlonger⟩ := Settings.raised_bounds hwantedLe hlife hlifeLe
  exact {
    host := hhost
    socket := ⟨hsocket, hsocketLe⟩
    life := ⟨hlife, hlifeLe⟩
    interval := hinterval
    longer := hlonger
    secret := hsecret }

namespace Sample

/-- A command line with a secret of 32 bytes. -/
def secured : Sources where
  invocation :=
    ⟨none, none, some 7000, false, none, some "0123456789abcdef0123456789abcdef", none, some 700⟩
  overlay := .none
  profile := none

/-- A command line with the longest life of an entry. -/
def lasting : Sources where
  invocation := ⟨none, none, none, true, none, none, none, some Numeral.maxUInt64⟩
  overlay := .none
  profile := none

end Sample

theorem settings_sound_secured : Sample.secured.invocation.Fits ∧
    ∃ s, Sample.secured.load = .ok s ∧ s.authEnabled = true ∧ s.Sound := by
  have hfits : Sample.secured.invocation.Fits := by
    constructor
    · rintro n ⟨⟩
      decide
    · rintro n ⟨⟩
      decide
  have hload : Sample.secured.load.toOption.map (·.authEnabled) = some true := by decide +kernel
  obtain ⟨s, hs, hauth⟩ := Option.map_eq_some_iff.1 hload
  exact ⟨hfits, s, ok_of_toOption hs, hauth,
    settings_sound Sample.secured hfits (ok_of_toOption hs)⟩

/-- With the longest life of an entry the sweep comes as often as entries grow old. -/
theorem sweep_not_longer :
    ¬ ∀ (src : Sources) (s : Settings), src.invocation.Fits → src.load = .ok s →
      s.cacheTtl < s.sweepInterval := by
  intro hall
  have hfits : Sample.lasting.invocation.Fits := by
    constructor
    · nofun
    · rintro n ⟨⟩
      exact Nat.le_refl _
  have hload : Sample.lasting.load.toOption.map (fun s => (s.cacheTtl, s.sweepInterval)) =
      some (Numeral.maxUInt64, Numeral.maxUInt64) := by decide +kernel
  obtain ⟨s, hs, hsame⟩ := Option.map_eq_some_iff.1 hload
  have hlonger := hall Sample.lasting s hfits (ok_of_toOption hs)
  rw [Prod.mk.inj hsame |>.1, Prod.mk.inj hsame |>.2] at hlonger
  exact Nat.lt_irrefl _ hlonger

end Sources

end TaskBoard
