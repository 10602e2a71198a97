import TaskBoard.Proofs.Auth.Identity
import TaskBoard.Proofs.Storage.Cache

/-!
# Where a cookie comes from

A browser sends cookies along with the requests of any page, and says in the `origin` header
which page it is.  Before the gate looks at the cookies, it refuses an origin that it can read
and that is not allowed.  An origin that it cannot read is not refused: then the cookie decides
alone, as if the header were missing.

    a foreign page is one with a readable origin that is not allowed  (Gate.isForeign_iff)
    cookies and origins decide who a request comes from               (Site.cookie_origin)
    an origin that cannot be read need not be an allowed one          (Site.not_all_origins_allowed)
-/

namespace TaskBoard

/-! ## Visible texts -/

namespace Http

instance (b : UInt8) : Decidable (IsVisible b) := inferInstanceAs (Decidable (_ ∨ _))

theorem IsVisible.toNat_lt {b : UInt8} (h : IsVisible b) : b.toNat < 0x7f := by
  rcases h with ⟨-, h⟩ | rfl
  · exact UInt8.lt_iff_toNat_lt.1 h
  · decide

/-- A visible text has the bytes that it was read from. -/
theorem bytes_of_visible {bs : List UInt8} (h : ∀ b ∈ bs, IsVisible b) :
    Utf8.bytes (String.ofList (bs.map fun b => Char.ofNat b.toNat)) = bs := by
  have htoNat : ∀ b ∈ bs, (Char.ofNat b.toNat).toNat = b.toNat := by
    intro b hb
    have := (h b hb).toNat_lt
    rw [Char.toNat_ofNat, if_pos (.inl (by omega))]
  have hascii : ∀ c ∈ bs.map fun b => Char.ofNat b.toNat, c.toNat < 0x80 := by
    intro c hc
    obtain ⟨b, hb, rfl⟩ := List.mem_map.1 hc
    rw [htoNat b hb]
    exact Nat.lt_succ_of_lt (h b hb).toNat_lt
  rw [Utf8.bytes, String.toList_ofList, Utf8.encode_of_ascii hascii, Utf8.asciiBytes, List.map_map]
  refine (List.map_congr_left fun b hb => ?_).trans (List.map_id _)
  show UInt8.ofNat (Char.ofNat b.toNat).toNat = b
  rw [htoNat b hb, UInt8.ofNat_toNat]

end Http

/-! ## Origins -/

namespace Gate

variable {g : Gate} {r : Http.Request}

/-- A page is foreign if its origin can be read and is not allowed. -/
theorem isForeign_iff :
    g.isForeign r = true ↔ ∃ value, r.header? "origin" = some value ∧
      (∀ b ∈ value, Http.IsVisible b) ∧ ∀ o ∈ g.origins.all, value ≠ Utf8.bytes o := by
  have hallows {value : List UInt8} (hvisible : ∀ b ∈ value, Http.IsVisible b) :
      g.origins.allows (String.ofList (value.map fun b => Char.ofNat b.toNat)) = false ↔
        ∀ o ∈ g.origins.all, value ≠ Utf8.bytes o := by
    rw [Http.Origins.allows, ← Bool.not_eq_true, List.contains_iff_mem]
    constructor
    · rintro hnot o ho rfl
      rw [Utf8.bytes_inj.1 (Http.bytes_of_visible hvisible)] at hnot
      exact hnot ho
    · intro hne hmem
      exact hne _ hmem (Http.bytes_of_visible hvisible).symm
  unfold isForeign
  cases hheader : r.header? "origin" with
  | none => simp
  | some value =>
    rw [Option.bind_some]
    by_cases hvisible : ∀ b ∈ value, Http.IsVisible b
    · rw [Http.visibleText?_eq_some.2 ⟨hvisible, rfl⟩]
      dsimp only
      rw [Bool.not_eq_true', hallows hvisible]
      constructor
      · exact fun hne => ⟨value, rfl, hvisible, hne⟩
      · rintro ⟨_, ⟨⟩, -, hne⟩
        exact hne
    · have hnone : Http.visibleText? value = none := by
        rw [Option.eq_none_iff_forall_ne_some]
        intro cs hcs
        exact hvisible (Http.visibleText?_eq_some.1 hcs).1
      rw [hnone]
      constructor
      · intro h
        cases h
      · rintro ⟨_, ⟨⟩, hvisible', -⟩
        exact absurd hvisible' hvisible

theorem isForeign_eq_false_iff :
    g.isForeign r = false ↔ ∀ value, r.header? "origin" = some value →
      (∃ o ∈ g.origins.all, value = Utf8.bytes o) ∨ ∃ b ∈ value, ¬ Http.IsVisible b := by
  rw [← Bool.not_eq_true, isForeign_iff]
  constructor
  · intro h value hheader
    by_contra hno
    push Not at hno
    exact h ⟨value, hheader, hno.2, hno.1⟩
  · rintro h ⟨value, hheader, hvisible, hne⟩
    rcases h value hheader with ⟨o, ho, heq⟩ | ⟨b, hb, hhidden⟩
    · exact hne o ho heq
    · exact hhidden (hvisible b hb)

end Gate

/-! ## Requests that differ in their cookies -/

namespace Http.Request

/-- The headers without the cookies. -/
def withoutCookies (r : Request) : List (String × List UInt8) :=
  r.headers.filter fun h => h.1 != "cookie"

theorem header?_congr {r other : Request} {name : String}
    (h : other.withoutCookies = r.withoutCookies) (hname : name ≠ "cookie") :
    other.header? name = r.header? name := by
  unfold header?
  rw [← FilterCache.lookup_filter_ne other.headers hname,
    ← FilterCache.lookup_filter_ne r.headers hname]
  exact congrArg (List.lookup name) h

end Http.Request

theorem Gate.bears_congr {r other : Http.Request} {t : String}
    (h : other.withoutCookies = r.withoutCookies) : Bears other t ↔ Bears r t := by
  rw [← bearerToken?_eq_some, ← bearerToken?_eq_some, bearerToken?, bearerToken?,
    Http.Request.header?_congr h (by decide)]

/-! ## Plain cookies -/

namespace Http.Cookie

/-- A visible character that stands for itself in the name and the value of a cookie. -/
def IsPlain (c : Char) : Prop := 0x20 < c.toNat ∧ c.toNat < 0x7f ∧ c ≠ ';' ∧ c ≠ '=' ∧ c ≠ '%'

instance (c : Char) : Decidable (IsPlain c) := inferInstanceAs (Decidable (_ ∧ _ ∧ _ ∧ _ ∧ _))

theorem IsPlain.not_isBlank {c : Char} (h : IsPlain c) : Text.isBlank c = false := by
  have hrange : ∀ k < 0x7f, 0x20 < k → Text.inRanges Text.blankRanges k = false := by decide
  exact hrange _ h.2.1 h.1

theorem IsPlain.ascii {c : Char} (h : IsPlain c) : c.toNat < 0x80 := Nat.lt_succ_of_lt h.2.1

variable {cs name value : List Char}

theorem trim_plain (h : ∀ c ∈ cs, IsPlain c) (hne : cs ≠ []) : Text.trim cs = cs :=
  (Text.trim_eq_iff hne).2 ⟨[], [], by simp, nofun, (h _ (List.head_mem hne)).not_isBlank,
    (h _ (List.getLast_mem hne)).not_isBlank⟩

theorem unescaped?_plain (h : ∀ c ∈ cs, IsPlain c) : unescaped? cs = some (String.ofList cs) := by
  have hascii : ∀ c ∈ cs, c.toNat < 0x80 := fun c hc => (h c hc).ascii
  have hpercent : 0x25 ∉ Utf8.asciiBytes cs := by
    intro hmem
    obtain ⟨c, hc, hbyte⟩ := List.mem_map.1 hmem
    have htoNat : c.toNat = 0x25 := by
      rw [← Utf8.toNat_ofNat_of_ascii (hascii c hc), hbyte]
      rfl
    have hsign : c = '%' := Char.toNat_inj.1 htoNat
    exact (h c hc).2.2.2.2 hsign
  rw [unescaped?, Percent.segment?, Utf8.bytes, String.toList_ofList, Utf8.encode_of_ascii hascii,
    Percent.unescape_of_no_percent hpercent, Utf8.decode?_of_ascii hascii]
  rfl

theorem ofPiece?_plain (hname : ∀ c ∈ name, IsPlain c) (hvalue : ∀ c ∈ value, IsPlain c)
    (hn : name ≠ []) (hv : value ≠ []) :
    ofPiece? (name ++ '=' :: value) = some (String.ofList name, String.ofList value) := by
  have hsign : ∀ c ∈ name, decide (c ≠ '=') = true := fun c hc =>
    decide_eq_true (hname c hc).2.2.2.1
  have htake : (name ++ '=' :: value).takeWhile (fun c => decide (c ≠ '=')) = name := by
    rw [List.takeWhile_append_of_pos hsign]
    simp
  have hdrop : (name ++ '=' :: value).dropWhile (fun c => decide (c ≠ '=')) = '=' :: value := by
    rw [List.dropWhile_append_of_pos hsign]
    simp
  unfold ofPiece?
  rw [htake, hdrop, trim_plain hname hn]
  cases name with
  | nil => exact absurd rfl hn
  | cons c name =>
    dsimp only
    rw [trim_plain hvalue hv, unescaped?_plain hname, unescaped?_plain hvalue]
    rfl

/-- A plain cookie that is alone in its request is found. -/
theorem find?_plain {r : Request} (hname : ∀ c ∈ name, IsPlain c)
    (hvalue : ∀ c ∈ value, IsPlain c) (hn : name ≠ []) (hv : value ≠ [])
    (h : r.allHeaders "cookie" = [Utf8.asciiBytes (name ++ '=' :: value)]) :
    find? r (String.ofList name) = some (String.ofList value) := by
  have hplain : ∀ c ∈ name ++ '=' :: value, 0x20 < c.toNat ∧ c.toNat < 0x7f ∧ c ≠ ';' := by
    intro c hc
    rcases List.mem_append.1 hc with hc | hc
    · exact ⟨(hname c hc).1, (hname c hc).2.1, (hname c hc).2.2.1⟩
    · rcases List.mem_cons.1 hc with rfl | hc
      · decide
      · exact ⟨(hvalue c hc).1, (hvalue c hc).2.1, (hvalue c hc).2.2.1⟩
  have htext := visibleText?_asciiBytes fun c hc =>
    ⟨Nat.le_of_lt (hplain c hc).1, (hplain c hc).2.1⟩
  have hsplit : Text.split (· == ';') (name ++ '=' :: value) = [name ++ '=' :: value] :=
    Text.split_eq_self fun c hc => beq_eq_false_iff_ne.2 (hplain c hc).2.2
  rw [find?, ofRequest, h, List.filterMap_cons_some htext, List.filterMap_nil,
    List.flatMap_singleton, hsplit,
    List.filterMap_cons_some (ofPiece?_plain hname hvalue hn hv)]
  simp

end Http.Cookie

namespace SessionToken

/-- An issued token can stand in a cookie as it is. -/
theorem isPlain_of_mem_issue {key : List UInt8} {claims : Claims} {c : Char}
    (h : c ∈ (issue key claims).toList) : Http.Cookie.IsPlain c := by
  have hsmall : ∀ k < 64, Http.Cookie.IsPlain (Base64.letter k) := by decide
  rcases exists_of_mem_issue h with rfl | ⟨n, rfl⟩
  · decide
  · obtain ⟨k, hk, hn⟩ := Base64.exists_letter_eq n
    rw [hn]
    exact hsmall k hk

end SessionToken

namespace Site

variable {site : Site} {r : Http.Request} {resource : Resource}

/-- **Cookies and origins.**  Without a token in the header, a request is passed on only for the
user of an accepted token in its cookie, and only if its origin is missing, allowed, or cannot be
read.  A readable origin that is not allowed is refused whatever the cookies are. -/
theorem cookie_origin {g : Gate} (hgate : site.gate = some g) (hclosed : g.closed = true)
    (hpath : Resource.ofPath? r.path = some resource) (hguarded : resource ≠ .health)
    (hmethod : r.method ≠ "OPTIONS") (hnone : ∀ t, ¬ Gate.Bears r t) (now : Int) :
    (∀ user, site.RunsAs now r resource user ↔
      (∀ value, r.header? "origin" = some value →
        (∃ o ∈ g.origins.all, value = Utf8.bytes o) ∨ ∃ b ∈ value, ¬ Http.IsVisible b) ∧
      ∃ t c, Http.Cookie.find? r Gate.cookieName = some t ∧
        SessionToken.Accepted g.key now t c ∧ c.sub = user) ∧
    ∀ value, r.header? "origin" = some value → (∀ b ∈ value, Http.IsVisible b) →
      (∀ o ∈ g.origins.all, value ≠ Utf8.bytes o) →
      ∀ other : Http.Request, other.method = r.method → other.path = r.path →
        other.withoutCookies = r.withoutCookies →
        site.Rejects now other "ORIGIN_NOT_ALLOWED" := by
  constructor
  · intro user
    rw [← Gate.isForeign_eq_false_iff]
    constructor
    · intro h
      have huser : g.user now r = .ok user := by
        have := h.caller
        unfold caller at this
        rwa [hgate] at this
      obtain ⟨t, c, hpresents, hc, rfl⟩ := Gate.accepted_of_user hclosed huser
      cases hpresents with
      | header h => exact absurd h (hnone t)
      | cookie _ horigin hfind => exact ⟨horigin, t, c, hfind, hc, rfl⟩
    · rintro ⟨horigin, t, c, hfind, hc, rfl⟩
      exact runsAs_of_user hgate hpath hguarded hmethod
        (Gate.user_of_accepted hclosed (.cookie hnone horigin hfind) hc)
  · intro value hheader hvisible hne other hsame hplace hheaders
    have horigin : g.isForeign other = true := by
      refine Gate.isForeign_iff.2 ⟨value, ?_, hvisible, hne⟩
      rw [Http.Request.header?_congr hheaders (by decide), hheader]
    have hnone' : ∀ t, ¬ Gate.Bears other t := fun t => mt (Gate.bears_congr hheaders).1 (hnone t)
    exact rejects_of_problem hgate (hplace ▸ hpath) hguarded (hsame ▸ hmethod)
      (Gate.user_of_no_token hclosed (Gate.token_of_foreign hnone' horigin))

end Site

namespace Sample

/-- A gate in front of a server on the local host. -/
def localGate : Gate := ⟨true, key, .ofHost [] "127.0.0.1" 5390⟩

def localSite : Site := ⟨some localGate, localGate.origins⟩

/-- A request with a session cookie, from a page with this origin. -/
def fromPage (origin token : String) : Http.Request :=
  asking [("cookie", Gate.cookieName.toList ++ '=' :: token.toList), ("origin", origin.toList)]

variable (origin token : String)

theorem not_bears_fromPage (t : String) : ¬ Gate.Bears (fromPage origin token) t :=
  fun h => nomatch Gate.bearerToken?_eq_some.2 h

theorem header?_fromPage :
    (fromPage origin token).header? "origin" = some (Utf8.asciiBytes origin.toList) := rfl

theorem find?_fromPage_issue (claims : Claims) :
    Http.Cookie.find? (fromPage origin (SessionToken.issue key claims)) Gate.cookieName =
      some (SessionToken.issue key claims) := by
  generalize htoken : SessionToken.issue key claims = token
  have hname : ∀ c ∈ Gate.cookieName.toList, Http.Cookie.IsPlain c := by
    simp [Gate.cookieName, Http.Cookie.IsPlain]
  have hvalue : ∀ c ∈ token.toList, Http.Cookie.IsPlain c := fun c hc =>
    SessionToken.isPlain_of_mem_issue (htoken ▸ hc)
  have hne : token.toList ≠ [] := by
    rw [← htoken, SessionToken.issue, String.toList_ofList]
    exact List.append_ne_nil_of_right_ne_nil _ (List.cons_ne_nil _ _)
  have hfound :=
    Http.Cookie.find?_plain (r := fromPage origin token) hname hvalue (by decide) hne rfl
  rwa [String.ofList_toList, String.ofList_toList] at hfound

/-- A request of the user with an accepted token in the cookie. -/
def byAlice : Http.Request := fromPage origin (SessionToken.issue key alice)

end Sample

/-- An issued token in a cookie lets its user in from a page of the server, and from one with an
origin that cannot be read; from another page it is refused. -/
theorem Site.cookie_origin_alice :
    Sample.localSite.RunsAs 9 (Sample.byAlice "http://localhost:5390") (.tasks "w") "alice" ∧
      Sample.localSite.RunsAs 9 (Sample.byAlice "é") (.tasks "w") "alice" ∧
      Sample.localSite.Rejects 9 (Sample.byAlice "http://example") "ORIGIN_NOT_ALLOWED" := by
  have hpath : Resource.ofPath? "/api/v1/workspaces/w/tasks" = some (.tasks "w") := by decide
  have hmethod : "GET" ≠ "OPTIONS" := by decide
  have behindGate := fun origin =>
    @cookie_origin Sample.localSite (Sample.byAlice origin) (.tasks "w") Sample.localGate rfl rfl
      hpath nofun hmethod (Sample.not_bears_fromPage origin _) 9
  have runs (origin : String)
      (h : (∃ o ∈ Sample.localGate.origins.all, Utf8.asciiBytes origin.toList = Utf8.bytes o) ∨
        ∃ b ∈ Utf8.asciiBytes origin.toList, ¬ Http.IsVisible b) :
      Sample.localSite.RunsAs 9 (Sample.byAlice origin) (.tasks "w") "alice" := by
    refine ((behindGate origin).1 _).2 ⟨fun value hvalue => ?_, _, Sample.alice,
      Sample.find?_fromPage_issue origin _, Sample.accepted_alice 9 (by decide), rfl⟩
    cases (Sample.header?_fromPage origin _).symm.trans hvalue
    exact h
  refine ⟨runs _ (.inl ⟨"http://localhost:5390", ?_, ?_⟩), runs _ (.inr ⟨0xe9, ?_, ?_⟩), ?_⟩
  · decide +kernel
  · exact (Utf8.encode_of_ascii (by simp)).symm
  · decide
  · decide
  · exact (behindGate _).2 _ (Sample.header?_fromPage _ _) (by decide +kernel) (by decide +kernel) _
      rfl rfl rfl

/-- **An origin that cannot be read is let through.**  It is not so that every request that is
passed on without a token in its header has an allowed origin or none. -/
theorem Site.not_all_origins_allowed :
    ¬ ∀ (addresses : List Http.Address) (host : String) (socket : Nat) (key : List UInt8)
        (site : Site) (now : Int) (r : Http.Request) (resource : Resource) (user : String)
        (value : List UInt8),
      site.gate = some ⟨true, key, .ofHost addresses host socket⟩ →
      Resource.ofPath? r.path = some resource → resource ≠ .health → r.method ≠ "OPTIONS" →
      (∀ t, ¬ Gate.Bears r t) → site.RunsAs now r resource user →
      r.header? "origin" = some value →
      ∃ o ∈ (Http.Origins.ofHost addresses host socket).all, value = Utf8.bytes o := by
  intro h
  have hpath : Resource.ofPath? "/api/v1/workspaces/w/tasks" = some (.tasks "w") := by decide
  have hmethod : "GET" ≠ "OPTIONS" := by decide
  have hnone := Sample.not_bears_fromPage "é" (SessionToken.issue Sample.key Sample.alice)
  have hheader := Sample.header?_fromPage "é" (SessionToken.issue Sample.key Sample.alice)
  have horigin : Sample.localGate.isForeign (Sample.byAlice "é") = false := by
    refine Gate.isForeign_eq_false_iff.2 fun value hvalue => .inr ?_
    cases hheader.symm.trans hvalue
    exact ⟨0xe9, by decide, by decide⟩
  have hruns : Sample.localSite.RunsAs 9 (Sample.byAlice "é") (.tasks "w") "alice" :=
    @runsAs_of_user Sample.localSite 9 (Sample.byAlice "é") _ Sample.localGate rfl hpath nofun
      hmethod _ (Gate.user_of_accepted rfl
        (.cookie hnone horigin (Sample.find?_fromPage_issue "é" _))
        (Sample.accepted_alice 9 (by decide)))
  obtain ⟨o, ho, hvalue⟩ :=
    h [] "127.0.0.1" 5390 _ _ 9 (Sample.byAlice "é") _ _ _ rfl hpath nofun hmethod hnone hruns hheader
  have hnot : ∀ o ∈ (Http.Origins.ofHost [] "127.0.0.1" 5390).all,
      Utf8.asciiBytes "é".toList ≠ Utf8.bytes o := by decide +kernel
  exact hnot o ho hvalue

end TaskBoard
