import Mathlib
import TaskBoard.Api.Route
import TaskBoard.Proofs.Auth.Token
import TaskBoard.Proofs.Text.Blank
import TaskBoard.Proofs.Text.Utf8

/-!
# Who is let in

The gate decides who a request comes from.  A token in the header is the only one that counts,
whether it is good or not; a cookie counts where no token is in the header, and only for requests
that come from no foreign page.  What is behind the gate either sees the user of an accepted
token, or is not asked at all.

    a header holds at most one token                            (Gate.bearerToken?_eq_some)
    the token that counts is the one that is presented          (Gate.token_of_presents)
    an accepted token names its user                            (Gate.user_of_accepted)
    what is behind the gate sees the user, or nothing           (Site.answer_identity)
-/

namespace TaskBoard

/-! ## Headers -/

namespace Http

/-- A byte that can stand in a text: visible ASCII, a blank or a tab. -/
def IsVisible (b : UInt8) : Prop := (0x20 ≤ b ∧ b < 0x7f) ∨ b = 0x09

theorem visibleText?_eq_some {bs : List UInt8} {cs : List Char} :
    visibleText? bs = some cs ↔ (∀ b ∈ bs, IsVisible b) ∧ cs = bs.map fun b => Char.ofNat b.toNat := by
  have hall : (bs.all fun b => (0x20 ≤ b && b < 0x7f) || b == 0x09) = true ↔ ∀ b ∈ bs, IsVisible b := by
    simp [IsVisible]
  unfold visibleText?
  by_cases h : ∀ b ∈ bs, IsVisible b
  · rw [if_pos (hall.2 h), Option.some.injEq]
    exact ⟨fun hcs => ⟨h, hcs.symm⟩, fun hcs => hcs.2.symm⟩
  · rw [if_neg fun hb => h (hall.1 hb)]
    exact ⟨nofun, fun hcs => absurd hcs.1 h⟩

theorem visibleText?_asciiBytes {cs : List Char} (h : ∀ c ∈ cs, 0x20 ≤ c.toNat ∧ c.toNat < 0x7f) :
    visibleText? (Utf8.asciiBytes cs) = some cs := by
  have htoNat : ∀ c ∈ cs, (UInt8.ofNat c.toNat).toNat = c.toNat := fun c hc =>
    Utf8.toNat_ofNat_of_ascii (Nat.lt_succ_of_lt (h c hc).2)
  refine visibleText?_eq_some.2 ⟨fun b hb => ?_, ?_⟩
  · obtain ⟨c, hc, rfl⟩ := List.mem_map.1 hb
    refine .inl ⟨?_, ?_⟩
    · rw [UInt8.le_iff_toNat_le, htoNat c hc]
      exact (h c hc).1
    · rw [UInt8.lt_iff_toNat_lt, htoNat c hc]
      exact (h c hc).2
  · rw [Utf8.asciiBytes, List.map_map]
    refine ((List.map_congr_left fun c hc => ?_).trans (List.map_id _)).symm
    show Char.ofNat (UInt8.ofNat c.toNat).toNat = c
    rw [htoNat c hc, Char.ofNat_toNat]

end Http

namespace Gate

/-- The first `authorization` header is a text, and the token stands in it after `Bearer`, with
any blanks around it. -/
structure Bears (r : Http.Request) (t : String) : Prop where
  header : ∃ before value after left right,
    r.headers = before ++ ("authorization", value) :: after ∧
    (∀ h ∈ before, h.1 ≠ "authorization") ∧ (∀ b ∈ value, Http.IsVisible b) ∧
    (value.map fun b => Char.ofNat b.toNat) = bearer ++ (left ++ t.toList ++ right) ∧
    ∀ c ∈ left ++ right, Text.isBlank c = true
  notBlank : ∃ h : t.toList ≠ [],
    Text.isBlank (t.toList.head h) = false ∧ Text.isBlank (t.toList.getLast h) = false

theorem header?_eq_some {r : Http.Request} {name : String} {value : List UInt8} :
    r.header? name = some value ↔ ∃ before after,
      r.headers = before ++ (name, value) :: after ∧ ∀ h ∈ before, h.1 ≠ name := by
  unfold Http.Request.header?
  rw [List.lookup_eq_some_iff]
  simp only [bne_iff_ne, ne_comm]

/-- The token in a text. -/
theorem cut_eq_some {text : List Char} {t : String} :
    (if bearer.isPrefixOf text then
      if (Text.trim (text.drop bearer.length)).isEmpty then none
      else some (String.ofList (Text.trim (text.drop bearer.length)))
    else none) = some t ↔
    ∃ h : t.toList ≠ [], ∃ left right, text = bearer ++ (left ++ t.toList ++ right) ∧
      (∀ c ∈ left ++ right, Text.isBlank c = true) ∧
      Text.isBlank (t.toList.head h) = false ∧ Text.isBlank (t.toList.getLast h) = false := by
  by_cases hpre : bearer.isPrefixOf text = true
  · rw [if_pos hpre]
    obtain ⟨rest, rfl⟩ := List.isPrefixOf_iff_prefix.1 hpre
    rw [List.drop_left]
    constructor
    · intro h
      split at h
      · cases h
      · next hne =>
        obtain rfl := Option.some.inj h
        have hne : Text.trim rest ≠ [] := fun hnil => hne (List.isEmpty_iff.2 hnil)
        obtain ⟨left, right, hrest, hblank, hends⟩ := (Text.trim_eq_iff hne).1 rfl
        simp only [String.toList_ofList]
        exact ⟨hne, left, right, congrArg _ hrest, hblank, hends⟩
    · rintro ⟨hne, left, right, htext, hblank, hends⟩
      have hrest := List.append_cancel_left htext
      have htrim := (Text.trim_eq_iff hne).2 ⟨left, right, hrest, hblank, hends⟩
      rw [htrim, if_neg fun hnil => hne (List.isEmpty_iff.1 hnil), String.ofList_toList]
  · rw [if_neg hpre]
    refine ⟨nofun, ?_⟩
    rintro ⟨-, left, right, rfl, -⟩
    exact absurd (List.isPrefixOf_iff_prefix.2 (List.prefix_append _ _)) hpre

theorem bearerToken?_eq_some {r : Http.Request} {t : String} :
    bearerToken? r = some t ↔ Bears r t := by
  unfold bearerToken?
  constructor
  · intro h
    obtain ⟨value, hvalue, h⟩ := Option.bind_eq_some_iff.1 h
    obtain ⟨text, htext, h⟩ := Option.bind_eq_some_iff.1 h
    obtain ⟨before, after, hheaders, hfirst⟩ := header?_eq_some.1 hvalue
    obtain ⟨hvisible, rfl⟩ := Http.visibleText?_eq_some.1 htext
    obtain ⟨hne, left, right, hline, hblank, hends⟩ := cut_eq_some.1 h
    exact ⟨⟨before, value, after, left, right, hheaders, hfirst, hvisible, hline, hblank⟩, hne, hends⟩
  · rintro ⟨⟨before, value, after, left, right, hheaders, hfirst, hvisible, hline, hblank⟩, hne, hends⟩
    refine Option.bind_eq_some_iff.2 ⟨value, header?_eq_some.2 ⟨before, after, hheaders, hfirst⟩, ?_⟩
    refine Option.bind_eq_some_iff.2 ⟨_, Http.visibleText?_eq_some.2 ⟨hvisible, rfl⟩, ?_⟩
    exact cut_eq_some.2 ⟨hne, left, right, hline, hblank, hends⟩

/-! ## Tokens -/

/-- The token that counts: the one in the header, or else the one in the session cookie of a
request that comes from no foreign page. -/
inductive Presents (g : Gate) (r : Http.Request) : String → Prop
  | header {t : String} (h : Bears r t) : Presents g r t
  | cookie {t : String} (hnone : ∀ t, ¬ Bears r t) (horigin : g.isForeign r = false)
    (hfind : Http.Cookie.find? r cookieName = some t) : Presents g r t

variable {g : Gate} {r : Http.Request} {t : String} {now : Int}

theorem bearerToken?_eq_none (h : ∀ t, ¬ Bears r t) : bearerToken? r = none := by
  cases ht : bearerToken? r with
  | none => rfl
  | some t => exact absurd (bearerToken?_eq_some.1 ht) (h t)

theorem token_of_presents (h : g.Presents r t) : g.token r = .ok t := by
  cases h with
  | header h => exact token_of_bearer g (bearerToken?_eq_some.2 h)
  | cookie hnone horigin hfind =>
    unfold token
    rw [bearerToken?_eq_none hnone, horigin, hfind]
    rfl

theorem token_of_foreign (h : ∀ t, ¬ Bears r t) (horigin : g.isForeign r = true) :
    g.token r = .error originNotAllowed := by
  unfold token
  rw [bearerToken?_eq_none h, horigin]
  rfl

theorem token_of_missing (h : ∀ t, ¬ Bears r t) (horigin : g.isForeign r = false)
    (hfind : Http.Cookie.find? r cookieName = none) : g.token r = .error authRequired := by
  unfold token
  rw [bearerToken?_eq_none h, horigin, hfind]
  rfl

theorem presents_of_token (h : g.token r = .ok t) : g.Presents r t := by
  unfold token at h
  cases hb : bearerToken? r with
  | some t' =>
    rw [hb] at h
    cases h
    exact .header (bearerToken?_eq_some.1 hb)
  | none =>
    have hnone : ∀ t, ¬ Bears r t := by
      intro t ht
      rw [bearerToken?_eq_some.2 ht] at hb
      cases hb
    rw [hb] at h
    dsimp only at h
    split at h
    · cases h
    · next horigin =>
      split at h
      · next hfind =>
        cases h
        exact .cookie hnone (Bool.not_eq_true _ ▸ horigin) hfind
      · cases h

/-! ## Users -/

/-- The token that counts is validated, and nothing else is looked at. -/
theorem user_of_token (hclosed : g.closed = true) (h : g.token r = .ok t) :
    g.user now r = match SessionToken.validate g.key now t with
      | .ok c => .ok c.sub
      | .error e => .error (refusal e) := by
  unfold user
  rw [if_pos hclosed, h]
  show ((SessionToken.validate g.key now t).mapError refusal >>= fun c => pure c.sub) = _
  cases SessionToken.validate g.key now t <;> rfl

theorem user_of_no_token (hclosed : g.closed = true) {p : Problem} (h : g.token r = .error p) :
    g.user now r = .error p := by
  unfold user
  rw [if_pos hclosed, h]
  rfl

theorem user_of_accepted (hclosed : g.closed = true) (h : g.Presents r t) {c : Claims}
    (hc : SessionToken.Accepted g.key now t c) : g.user now r = .ok c.sub := by
  rw [user_of_token hclosed (token_of_presents h), SessionToken.validate_eq_ok.2 hc]

theorem user_of_expired (hclosed : g.closed = true) (h : g.Presents r t)
    (he : SessionToken.Expired g.key now t) : g.user now r = .error tokenExpired := by
  rw [user_of_token hclosed (token_of_presents h), SessionToken.validate_eq_expired.2 he]
  rfl

theorem user_of_invalid (hclosed : g.closed = true) (h : g.Presents r t)
    (hc : ∀ c, ¬ SessionToken.Accepted g.key now t c) (he : ¬ SessionToken.Expired g.key now t) :
    g.user now r = .error tokenInvalid := by
  rw [user_of_token hclosed (token_of_presents h)]
  cases hv : SessionToken.validate g.key now t with
  | ok c => exact absurd (SessionToken.validate_eq_ok.1 hv) (hc c)
  | error e =>
    cases e with
    | expired => exact absurd (SessionToken.validate_eq_expired.1 hv) he
    | badSignature => rfl
    | invalid f => rfl

/-- A user behind a closed gate has an accepted token. -/
theorem accepted_of_user (hclosed : g.closed = true) {u : String} (h : g.user now r = .ok u) :
    ∃ t c, g.Presents r t ∧ SessionToken.Accepted g.key now t c ∧ c.sub = u := by
  cases ht : g.token r with
  | error p =>
    rw [user_of_no_token hclosed ht] at h
    cases h
  | ok t =>
    rw [user_of_token hclosed ht] at h
    cases hv : SessionToken.validate g.key now t with
    | error e =>
      rw [hv] at h
      cases h
    | ok c =>
      rw [hv] at h
      cases h
      exact ⟨t, c, presents_of_token ht, SessionToken.validate_eq_ok.1 hv, rfl⟩

end Gate

/-! ## Answers -/

namespace Site

variable {site : Site} {now : Int} {r : Http.Request} {resource : Resource}

/-- What is behind the gate does for a user. -/
def behind (user : String) (r : Http.Request) (resource : Resource) : Service Http.Response :=
  match Route.handler? (.ok user) r resource with
  | some h => h.answer
  | none => .done methodNotAllowed

/-- The request gets behind the gate, and is seen there as one of this user. -/
structure RunsAs (site : Site) (now : Int) (r : Http.Request) (resource : Resource)
    (user : String) : Prop where
  caller : site.caller now r = .ok user
  answer : site.answer now r = (behind user r resource).bind fun response =>
    .done (site.origins.annotate r (forMethod r response))

/-- The request is answered at once, with the status 401 and a code. -/
def Rejects (site : Site) (now : Int) (r : Http.Request) (code : String) : Prop :=
  ∃ response message, site.answer now r = .done response ∧ response.status = 401 ∧
    response.body = if r.method = "HEAD" then none else some (.object
      [("error", .string "unauthorized"), ("code", .string code), ("message", .string message)])

/-- Behind the gate, a request is turned away, or asks the resource. -/
theorem answer_eq_of_path (hpath : Resource.ofPath? r.path = some resource)
    (hguarded : resource ≠ .health) (hmethod : r.method ≠ "OPTIONS") :
    site.answer now r = Program.bind
      (match site.turnsAway? now r with
      | some p => .done (ofProblem p)
      | none =>
        match Route.handler? (site.caller now r) r resource with
        | some h => h.answer
        | none => .done methodNotAllowed : Service Http.Response)
      fun response => .done (site.origins.annotate r (forMethod r response)) := by
  have hp : Http.Origins.isPreflight r = false := beq_eq_false_iff_ne.2 hmethod
  unfold answer inner
  rw [hp, hpath]
  cases resource with
  | health => exact absurd rfl hguarded
  | tasks w => rfl
  | filters w => rfl
  | filter w id => rfl

theorem runsAs_of_user {g : Gate} (hgate : site.gate = some g)
    (hpath : Resource.ofPath? r.path = some resource) (hguarded : resource ≠ .health)
    (hmethod : r.method ≠ "OPTIONS") {u : String} (h : g.user now r = .ok u) :
    site.RunsAs now r resource u := by
  have hcaller : site.caller now r = .ok u := by
    unfold caller
    rw [hgate]
    exact h
  have haway : site.turnsAway? now r = none := by
    unfold turnsAway?
    rw [hgate]
    dsimp only
    rw [h]
  refine ⟨hcaller, ?_⟩
  rw [answer_eq_of_path hpath hguarded hmethod, haway, hcaller]
  rfl

theorem rejects_of_problem {g : Gate} (hgate : site.gate = some g)
    (hpath : Resource.ofPath? r.path = some resource) (hguarded : resource ≠ .health)
    (hmethod : r.method ≠ "OPTIONS") {code message : String}
    (h : g.user now r = .error (.unauthorized code message)) : site.Rejects now r code := by
  have haway : site.turnsAway? now r = some (.unauthorized code message) := by
    unfold turnsAway?
    rw [hgate]
    dsimp only
    rw [h]
  refine ⟨site.origins.annotate r (forMethod r (ofProblem (.unauthorized code message))), message,
    ?_, ?_⟩
  · rw [answer_eq_of_path hpath hguarded hmethod, haway]
    rfl
  · unfold forMethod
    by_cases hhead : r.method = "HEAD"
    · rw [if_pos (beq_iff_eq.2 hhead), if_pos hhead]
      exact ⟨rfl, rfl⟩
    · rw [if_neg fun hb => hhead (beq_iff_eq.1 hb), if_neg hhead]
      exact ⟨rfl, rfl⟩

/-- **The gate decides who asks.**  Behind a closed gate a request is seen as one of the user of
an accepted token, and any other request is answered at once.  If there is a token in the header,
neither cookies nor origins matter.  An open gate sees the local user everywhere. -/
theorem answer_identity {g : Gate} (hgate : site.gate = some g)
    (hpath : Resource.ofPath? r.path = some resource) (hguarded : resource ≠ .health)
    (hmethod : r.method ≠ "OPTIONS") (now : Int) :
    (g.closed = false → site.RunsAs now r resource Gate.localUser) ∧
    (g.closed = true →
      (∀ t, g.Presents r t →
        (∀ c, SessionToken.Accepted g.key now t c → site.RunsAs now r resource c.sub) ∧
        (SessionToken.Expired g.key now t → site.Rejects now r "TOKEN_EXPIRED") ∧
        ((∀ c, ¬ SessionToken.Accepted g.key now t c) → ¬ SessionToken.Expired g.key now t →
          site.Rejects now r "TOKEN_INVALID")) ∧
      ((∀ t, ¬ Gate.Bears r t) → g.isForeign r = true → site.Rejects now r "ORIGIN_NOT_ALLOWED") ∧
      ((∀ t, ¬ Gate.Bears r t) → g.isForeign r = false →
        Http.Cookie.find? r Gate.cookieName = none → site.Rejects now r "AUTH_REQUIRED") ∧
      (∀ u, site.caller now r = .ok u → u ≠ "" ∧
        ∃ t c, g.Presents r t ∧ SessionToken.Accepted g.key now t c ∧ c.sub = u) ∧
      ∀ t, Gate.Bears r t → ∀ other : Http.Request,
        other.header? "authorization" = r.header? "authorization" →
        site.caller now other = site.caller now r) := by
  have runs := fun u => @runsAs_of_user site now r resource g hgate hpath hguarded hmethod u
  have rejects := fun c m => @rejects_of_problem site now r resource g hgate hpath hguarded hmethod c m
  have hcaller : ∀ other, site.caller now other = g.user now other := by
    intro other
    unfold caller
    rw [hgate]
  refine ⟨fun hopen => runs _ (Gate.user_of_open hopen now r), fun hclosed => ⟨fun t ht =>
    ⟨fun c hc => ?_, fun he => ?_, fun hc he => ?_⟩, fun hnone horigin => ?_,
    fun hnone horigin hfind => ?_, fun u hu => ?_, fun t ht other hother => ?_⟩⟩
  · exact runs _ (Gate.user_of_accepted hclosed ht hc)
  · exact rejects _ _ (Gate.user_of_expired hclosed ht he)
  · exact rejects _ _ (Gate.user_of_invalid hclosed ht hc he)
  · exact rejects _ _ (Gate.user_of_no_token hclosed (Gate.token_of_foreign hnone horigin))
  · exact rejects _ _ (Gate.user_of_no_token hclosed (Gate.token_of_missing hnone horigin hfind))
  · rw [hcaller] at hu
    obtain ⟨t, c, ht, hc, rfl⟩ := Gate.accepted_of_user hclosed hu
    exact ⟨hc.user, t, c, ht, hc, rfl⟩
  · have hbearer : Gate.bearerToken? other = some t := by
      rw [← Gate.bearerToken?_eq_some.2 ht]
      unfold Gate.bearerToken?
      rw [hother]
    rw [hcaller, hcaller, Gate.user_of_token hclosed (Gate.token_of_bearer g hbearer),
      Gate.user_of_token hclosed (Gate.token_of_presents (.header ht))]

end Site

/-! ## A token that is issued -/

namespace SessionToken

/-- An issued token is made of letters and points. -/
theorem exists_of_mem_issue {key : List UInt8} {claims : Claims} {c : Char}
    (h : c ∈ (issue key claims).toList) : c = '.' ∨ ∃ n, c = Base64.letter n := by
  rw [issue, String.toList_ofList] at h
  simp only [List.mem_append, List.mem_cons] at h
  rcases h with (h | h | h) | h | h
  · exact .inr (Base64.exists_letter_of_mem_encode h)
  · exact .inl h
  · exact .inr (Base64.exists_letter_of_mem_encode h)
  · exact .inl h
  · exact .inr (Base64.exists_letter_of_mem_encode h)

/-- A character of an issued token. -/
theorem ascii_of_mem_issue {key : List UInt8} {claims : Claims} {c : Char}
    (h : c ∈ (issue key claims).toList) :
    Text.isBlank c = false ∧ 0x20 ≤ c.toNat ∧ c.toNat < 0x7f := by
  have hrange : 0x20 < c.toNat ∧ c.toNat < 0x7f := by
    rcases exists_of_mem_issue h with rfl | ⟨n, rfl⟩
    · decide
    · exact (Base64.letter_spec n).2
  have hblank : ∀ k, 0x20 < k → k < 0x7f → Text.inRanges Text.blankRanges k = false := by
    have : ∀ k < 0x7f, 0x20 < k → Text.inRanges Text.blankRanges k = false := by decide
    exact fun k hk hk' => this k hk' hk
  exact ⟨hblank _ hrange.1 hrange.2, by omega, hrange.2⟩

end SessionToken

namespace Sample

def key : List UInt8 := [107]

def alice : Claims := ⟨"alice", 0, 9, "n"⟩

def gate : Gate := ⟨true, key, ⟨[]⟩⟩

def guarded : Site := ⟨some gate, ⟨[]⟩⟩

/-- A request for tasks with these texts in its headers. -/
def asking (texts : List (String × List Char)) : Http.Request where
  method := "GET"
  path := "/api/v1/workspaces/w/tasks"
  query := ""
  headers := texts.map fun h => (h.1, h.2.map fun c => UInt8.ofNat c.toNat)
  body := []

theorem accepted_alice (now : Int) (h : now ≤ 9) :
    SessionToken.Accepted key now (SessionToken.issue key alice) alice where
  signed := .parts (Base64.point_not_mem_encode _) (by cbv) (by cbv)
  ends := by decide
  inTime := h
  user := by decide

/-- A request with an issued token in its header. -/
def signed : Http.Request :=
  asking [("authorization", Gate.bearer ++ (SessionToken.issue key alice).toList)]

theorem bears_alice : Gate.Bears signed (SessionToken.issue key alice) := by
  have hascii : ∀ c ∈ Gate.bearer ++ (SessionToken.issue key alice).toList,
      0x20 ≤ c.toNat ∧ c.toNat < 0x7f := by
    intro c hc
    rcases List.mem_append.1 hc with hc | hc
    · have hbearer : Gate.bearer = ['B', 'e', 'a', 'r', 'e', 'r', ' '] := rfl
      have hall : ∀ c ∈ Gate.bearer, 0x20 ≤ c.toNat ∧ c.toNat < 0x7f := by
        rw [hbearer]
        simp
      exact hall c hc
    · exact (SessionToken.ascii_of_mem_issue hc).2
  obtain ⟨hvisible, htext⟩ := Http.visibleText?_eq_some.1 (Http.visibleText?_asciiBytes hascii)
  have hne : (SessionToken.issue key alice).toList ≠ [] := by
    rw [SessionToken.issue, String.toList_ofList]
    exact List.append_ne_nil_of_right_ne_nil _ (List.cons_ne_nil _ _)
  refine ⟨⟨[], _, [], [], [], rfl, nofun, hvisible, ?_, nofun⟩, hne, ?_, ?_⟩
  · rw [List.nil_append, List.append_nil]
    exact htext.symm
  · exact (SessionToken.ascii_of_mem_issue (List.head_mem hne)).1
  · exact (SessionToken.ascii_of_mem_issue (List.getLast_mem hne)).1

/-- A header with something else than a token, next to a cookie with an issued one. -/
def misleading : Http.Request :=
  asking [("authorization", "Bearer x".toList),
    ("cookie", Gate.cookieName.toList ++ '=' :: (SessionToken.issue key alice).toList)]

end Sample

/-- An issued token in the header lets its user in up to its end.  A wrong one is refused, though
there is an issued token in the cookie, and a request without any is refused, too. -/
theorem Site.answer_identity_alice :
    Sample.guarded.RunsAs 9 Sample.signed (.tasks "w") "alice" ∧
      Sample.guarded.Rejects 10 Sample.signed "TOKEN_EXPIRED" ∧
      Sample.guarded.Rejects 9 Sample.misleading "TOKEN_INVALID" ∧
      Sample.guarded.Rejects 9 (Sample.asking []) "AUTH_REQUIRED" := by
  have hpath : Resource.ofPath? "/api/v1/workspaces/w/tasks" = some (.tasks "w") := by decide
  have behindGate := fun (r : Http.Request) hp hm now =>
    (@answer_identity Sample.guarded r (.tasks "w") Sample.gate rfl hp nofun hm now).2 rfl
  have hbears : Sample.gate.Presents Sample.signed _ := .header Sample.bears_alice
  refine ⟨?_, ?_, ?_, ?_⟩
  · obtain ⟨hpresents, -⟩ := behindGate Sample.signed hpath (by decide) 9
    exact (hpresents _ hbears).1 _ (Sample.accepted_alice 9 (by decide))
  · obtain ⟨hpresents, -⟩ := behindGate Sample.signed hpath (by decide) 10
    obtain ⟨hsigned, hends, -, -⟩ := Sample.accepted_alice 9 (by decide)
    exact (hpresents _ hbears).2.1 ⟨_, hsigned, hends, by decide⟩
  · obtain ⟨hpresents, -⟩ := behindGate Sample.misleading hpath (by decide) 9
    have hx : Gate.Bears Sample.misleading "x" := Gate.bearerToken?_eq_some.1 (by decide)
    have hrefused : SessionToken.validate Sample.key 9 "x" = .error (.invalid .parts) := rfl
    refine (hpresents _ (.header hx)).2.2 (fun c hc => ?_) fun he => ?_
    · cases (SessionToken.validate_eq_ok.2 hc).symm.trans hrefused
    · cases (SessionToken.validate_eq_expired.2 he).symm.trans hrefused
  · obtain ⟨-, -, hmissing, -⟩ := behindGate (Sample.asking []) hpath (by decide) 9
    exact hmissing (fun t ht => nomatch Gate.bearerToken?_eq_some.2 ht) rfl (by decide)

end TaskBoard
