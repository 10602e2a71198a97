import TaskBoard.Proofs.Api.Listing
import TaskBoard.Proofs.Api.Refusals
import TaskBoard.Proofs.Auth.Identity

/-!
# Names of workspaces

The rule for the name of a workspace counts its characters, and the check counts its bytes.  So a
name that keeps the rule fails the check exactly if it takes more than 64 bytes: never if it is in
ASCII, and never if it has at most 16 characters.

A request is refused for the name of its workspace if the name fails the check and the request gets
as far as that.  Whatever the store replies, no other answer has the code of this refusal.

    the check is the rule and a bound on the bytes              (isWorkspaceId_iff)
    with a good name, a request fails for other reasons         (Route.others_handler?)
    which requests are refused for the name of a workspace      (Site.refuses_workspace_iff)
    a name of 33 letters can fail the check                     (Site.not_isWorkspaceId_iff)
-/

namespace TaskBoard

open Problem

/-! ## The rule -/

/-- The rule for the name of a workspace, as it is told to people. -/
structure WorkspaceName (s : String) : Prop where
  pos : 1 ≤ s.length
  short : s.length ≤ 64
  chars : ∀ c ∈ s.toList, Text.isAlphanumeric c = true ∨ c = '-' ∨ c = '_'

theorem isWorkspaceIdChar_iff {c : Char} :
    isWorkspaceIdChar c = true ↔ Text.isAlphanumeric c = true ∨ c = '-' ∨ c = '_' := by
  simp [isWorkspaceIdChar, or_assoc]

/-- The check is the rule and a bound on the bytes. -/
theorem isWorkspaceId_iff {s : String} :
    isWorkspaceId s = true ↔ WorkspaceName s ∧ s.utf8ByteSize ≤ 64 := by
  have hpos : (!s.isEmpty) = true ↔ 1 ≤ s.length := by
    rw [Bool.not_eq_true', ← Bool.not_eq_true, String.isEmpty_iff, Nat.one_le_iff_ne_zero, Ne,
      String.length_eq_zero_iff]
  have hle : s.length ≤ s.utf8ByteSize := by
    rw [← Utf8.length_bytes, ← String.length_toList]
    exact Utf8.length_le_encode _
  simp only [isWorkspaceId, Bool.and_eq_true, hpos, List.all_eq_true, isWorkspaceIdChar_iff]
  constructor
  · rintro ⟨⟨h, hbytes⟩, hchars⟩
    have hbytes : s.utf8ByteSize ≤ 64 := of_decide_eq_true hbytes
    exact ⟨⟨h, hle.trans hbytes, hchars⟩, hbytes⟩
  · rintro ⟨h, hbytes⟩
    exact ⟨⟨h.pos, decide_eq_true hbytes⟩, h.chars⟩

theorem utf8ByteSize_le_of_name {s : String} (h : WorkspaceName s)
    (hs : (∀ c ∈ s.toList, c.toNat < 0x80) ∨ s.length ≤ 16) : s.utf8ByteSize ≤ 64 := by
  rw [← Utf8.length_bytes]
  rcases hs with hascii | hshort
  · rw [Utf8.length_bytes_of_ascii hascii]
    exact h.short
  · have hle := Utf8.length_encode_le s.toList
    rw [String.length_toList] at hle
    exact hle.trans (Nat.mul_le_mul_left 4 hshort)

/-! ## Requests -/

/-- The workspace that is named, if all names in the path can be read. -/
def Resource.workspace? : Resource → Option String
  | .health => none
  | .tasks workspace => Percent.segment? workspace
  | .filters workspace => Percent.segment? workspace
  | .filter workspace id => (Percent.segment? id).bind fun _ => Percent.segment? workspace

/-- The methods of a resource. -/
def Resource.methods : Resource → List String
  | .health => ["GET", "HEAD"]
  | .tasks _ => ["GET", "HEAD"]
  | .filters _ => ["GET", "HEAD", "POST"]
  | .filter _ _ => ["GET", "HEAD", "PUT", "DELETE"]

/-- The request has a user and a method that its resource has, and names this workspace. -/
def Site.Reaches (site : Site) (now : Int) (r : Http.Request) (workspace : String) : Prop :=
  ∃ resource user, Resource.ofPath? r.path = some resource ∧ r.method ∈ resource.methods ∧
    site.caller now r = .ok user ∧ resource.workspace? = some workspace

namespace Route

variable {user : Except Problem String} {r : Http.Request} {resource : Resource}
  {h : Handler Http.Response} {s id w : String}

theorem workspaceOf_eq : workspaceOf s = match Percent.segment? s with
    | none => .error invalidPath
    | some w => if isWorkspaceId w = true then .ok w else .error invalidWorkspaceId := by
  unfold workspaceOf unescaped
  cases Percent.segment? s with
  | none => rfl
  | some w => rfl

theorem workspaceOf_of_bad (hs : Percent.segment? s = some w) (hw : isWorkspaceId w = false) :
    workspaceOf s = .error invalidWorkspaceId := by
  rw [workspaceOf_eq, hs]
  exact if_neg (by rw [hw]; decide)

theorem others_workspaceOf (hgood : ∀ w, Percent.segment? s = some w → isWorkspaceId w = true) :
    Others (workspaceOf s) := by
  rw [workspaceOf_eq]
  cases hs : Percent.segment? s with
  | none => exact others_badRequest (by decide)
  | some w =>
    dsimp only
    rw [if_pos (hgood w hs)]
    exact others_ok _

theorem filterOf_of_bad (hs : (Resource.filter s id).workspace? = some w)
    (hw : isWorkspaceId w = false) : filterOf s id = .error invalidWorkspaceId := by
  obtain ⟨t, hid, hs⟩ := Option.bind_eq_some_iff.1 hs
  unfold filterOf unescaped
  rw [hid, hs]
  exact if_neg (by rw [hw]; decide)

theorem others_filterOf
    (hgood : ∀ w, (Resource.filter s id).workspace? = some w → isWorkspaceId w = true) :
    Others (filterOf s id) := by
  unfold filterOf unescaped
  cases hs : Percent.segment? s with
  | none => exact others_badRequest (by decide)
  | some w =>
    cases hid : Percent.segment? id with
    | none => exact others_badRequest (by decide)
    | some t =>
      have hw : isWorkspaceId w = true := hgood w (Option.bind_eq_some_iff.2 ⟨t, hid, hs⟩)
      show Others (if isWorkspaceId w = true then _ else _)
      rw [if_pos hw]
      split
      · exact others_ok _
      · exact others_badRequest (by decide)

theorem isSome_handler?_iff (user : Except Problem String) (hresource : resource ≠ .health) :
    (handler? user r resource).isSome ↔ r.method ∈ resource.methods := by
  cases resource with
  | health => exact absurd rfl hresource
  | _ =>
    unfold handler? Resource.methods
    dsimp only
    split <;> simp_all

open Handler in
/-- With a good name of a workspace, a request has other problems only. -/
theorem others_handler? (hh : handler? user r resource = some h) (huser : Problem.Others user)
    (hgood : ∀ u, user = .ok u → ∀ w, resource.workspace? = some w → isWorkspaceId w = true) :
    h.Others Http.Response.IsOther := by
  unfold handler? at hh
  split at hh
  · cases hh
  · split at hh <;> cases hh
    all_goals
      refine others_ofExcept_bind huser fun user hu => ?_
      refine others_ofExcept_bind (others_workspaceOf (hgood user hu)) fun workspace _ => ?_
      exact others_ofExcept_bind (TaskQuery.others_ofText _) fun query _ => others_listTasks _ _ _
  · split at hh <;> cases hh
    all_goals
      refine others_ofExcept_bind huser fun user hu => ?_
      refine others_ofExcept_bind (others_workspaceOf (hgood user hu)) fun workspace _ => ?_
    · exact others_listFilters _ _
    · exact others_listFilters _ _
    · exact others_ofExcept_bind (others_filterBody r) fun request _ => others_createFilter _ _ _
  · split at hh <;> cases hh
    all_goals
      refine others_ofExcept_bind huser fun user hu => ?_
      refine others_ofExcept_bind (others_filterOf (hgood user hu)) fun ⟨workspace, id⟩ _ => ?_
    · exact others_getFilter _ _ _
    · exact others_getFilter _ _ _
    · exact others_ofExcept_bind (others_filterBody r) fun request _ => others_updateFilter _ _ _ _
    · exact others_deleteFilter _ _ _

/-- A bad name of a workspace is refused before anything is asked of the store. -/
theorem answer_of_bad {u : String} (hh : handler? (.ok u) r resource = some h)
    (hw : resource.workspace? = some w) (hbad : isWorkspaceId w = false) :
    h.answer = .done (Site.ofProblem invalidWorkspaceId) := by
  unfold handler? at hh
  split at hh
  · cases hh
  · split at hh <;> cases hh
    all_goals
      rw [workspaceOf_of_bad hw hbad]
      rfl
  · split at hh <;> cases hh
    all_goals
      rw [workspaceOf_of_bad hw hbad]
      rfl
  · split at hh <;> cases hh
    all_goals
      rw [filterOf_of_bad hw hbad]
      rfl

end Route

namespace Site

variable {site : Site} {now : Int} {r : Http.Request} {w : String}

theorem isOther_notFound : (notFound r).IsOther := Problem.isOther_notFound (by decide)

theorem others_caller (site : Site) (now : Int) (r : Http.Request) :
    Others (site.caller now r) := by
  unfold caller
  split
  · exact Gate.others_user _ _ _
  · exact others_error (by decide : "INTERNAL" ≠ "INVALID_WORKSPACE_ID")

theorem turnsAway?_of_caller {u : String} (h : site.caller now r = .ok u) :
    site.turnsAway? now r = none := by
  cases haway : site.turnsAway? now r with
  | none => rfl
  | some p =>
    rw [caller_of_turnsAway? haway] at h
    cases h

theorem inner_of_bad (h : site.Reaches now r w) (hbad : isWorkspaceId w = false) :
    site.inner now r = .done (ofProblem Route.invalidWorkspaceId) := by
  obtain ⟨resource, user, hpath, hmethod, hcaller, hw⟩ := h
  have hresource : resource ≠ .health := by
    rintro rfl
    cases hw
  obtain ⟨h, hh⟩ := Option.isSome_iff_exists.1 <|
    (Route.isSome_handler?_iff (.ok user) hresource).2 hmethod
  unfold inner
  rw [hpath, turnsAway?_of_caller hcaller, hcaller]
  cases resource with
  | health => exact absurd rfl hresource
  | _ =>
    dsimp only
    rw [hh]
    exact Route.answer_of_bad hh hw hbad

theorem others_inner (hgood : ∀ w, site.Reaches now r w → isWorkspaceId w = true) :
    Program.Ends Http.Response.IsOther (site.inner now r) := by
  unfold inner
  split
  · exact Handler.isOther_ofProblem isOther_notFound
  · split
    · exact Handler.others_health
    · exact Handler.isOther_bare 405
  · next resource hresource hpath =>
    split
    · next p haway =>
      exact Handler.isOther_ofProblem (others_caller site now r p (caller_of_turnsAway? haway))
    · split
      · next h hh =>
        refine (Route.others_handler? hh (others_caller site now r) fun u hu w hw => ?_).answer
        have hmethod := (Route.isSome_handler?_iff _ hresource).1 (Option.isSome_of_eq_some hh)
        exact hgood w ⟨resource, u, hpath, hmethod, hu, hw⟩
      · exact Handler.isOther_bare 405

theorem not_isPreflight_of_reaches (h : site.Reaches now r w) :
    Http.Origins.isPreflight r = false := by
  obtain ⟨resource, -, -, hmethod, -, -⟩ := h
  rw [← Bool.not_eq_true]
  intro hoptions
  rw [beq_iff_eq.1 hoptions] at hmethod
  cases resource <;> exact absurd hmethod (by simp [Resource.methods])

section

variable {σ : Type} (perform : (e : ServiceStep) → σ → e.Reply × σ) (s : σ)

/-- A request for the head alone is told no code. -/
theorem code?_answer (h : Http.Origins.isPreflight r = false) :
    ((site.answer now r).run perform s).1.code? =
      if r.method = "HEAD" then none else ((site.inner now r).run perform s).1.code? := by
  have hrun := congrArg Prod.fst (Program.run_bind perform (site.inner now r)
    (fun response => .done (site.origins.annotate r (forMethod r response))) s)
  unfold answer
  rw [h]
  refine (congrArg Http.Response.code? hrun).trans ?_
  show (forMethod r _).code? = _
  unfold forMethod
  by_cases hhead : r.method = "HEAD"
  · rw [if_pos (beq_iff_eq.2 hhead), if_pos hhead]
    rfl
  · rw [if_neg fun hb => hhead (beq_iff_eq.1 hb), if_neg hhead]

/-- Which requests are refused for the name of a workspace. -/
theorem refuses_workspace_iff :
    ((site.answer now r).run perform s).1.code? = some (.string "INVALID_WORKSPACE_ID") ↔
      r.method ≠ "HEAD" ∧ ∃ w, site.Reaches now r w ∧ isWorkspaceId w = false := by
  constructor
  · intro h
    cases hpre : Http.Origins.isPreflight r with
    | true =>
      unfold answer at h
      rw [if_pos hpre] at h
      cases h
    | false =>
      rw [code?_answer perform s hpre] at h
      split at h
      · cases h
      · next hhead =>
        refine ⟨hhead, Classical.byContradiction fun hnone => ?_⟩
        refine (others_inner fun w hw => ?_).run perform s h
        rw [← Bool.not_eq_false]
        exact fun hbad => hnone ⟨w, hw, hbad⟩
  · rintro ⟨hhead, w, hw, hbad⟩
    rw [code?_answer perform s (not_isPreflight_of_reaches hw), if_neg hhead, inner_of_bad hw hbad]
    rfl

/-- **Names of workspaces.**  A name passes the check exactly if it keeps the rule and takes at most
64 bytes, so the check is the rule for names in ASCII and for names of at most 16 characters.
Whatever the store replies, the requests that are refused for the name of a workspace are those
that have a user and a method, ask for more than the head, and name a workspace that fails the
check. -/
theorem workspace_names (site : Site) (now : Int) (r : Http.Request) (name : String) :
    (isWorkspaceId name = true ↔ WorkspaceName name ∧ name.utf8ByteSize ≤ 64) ∧
    ((∀ c ∈ name.toList, c.toNat < 0x80) ∨ name.length ≤ 16 →
      (isWorkspaceId name = true ↔ WorkspaceName name)) ∧
    (((site.answer now r).run perform s).1.code? = some (.string "INVALID_WORKSPACE_ID") ↔
      r.method ≠ "HEAD" ∧
        ∃ w, site.Reaches now r w ∧ ¬ (WorkspaceName w ∧ w.utf8ByteSize ≤ 64)) := by
  refine ⟨isWorkspaceId_iff, fun hname => ?_, ?_⟩
  · rw [isWorkspaceId_iff]
    exact ⟨And.left, fun h => ⟨h, utf8ByteSize_le_of_name h hname⟩⟩
  · rw [refuses_workspace_iff]
    simp only [← isWorkspaceId_iff, Bool.not_eq_true]

end

/-- A name with accents is taken, and one with a blank is refused. -/
theorem workspace_names_accents :
    let r : Http.Request := { Sample.listRequest with path := "/api/v1/workspaces/a%20b/tasks" }
    isWorkspaceId "été-1_2" = true ∧
      ((Sample.site.answer 0 r).run ServiceStep.lost ()).1.code? =
        some (.string "INVALID_WORKSPACE_ID") := by
  intro r
  obtain ⟨-, hshort, hrefuses⟩ := workspace_names ServiceStep.lost () Sample.site 0 r "été-1_2"
  constructor
  · have hall : "été-1_2".toList.all isWorkspaceIdChar = true := by decide +kernel
    exact (hshort (.inr (by decide))).2
      ⟨by decide, by decide, fun c hc => isWorkspaceIdChar_iff.1 (List.all_eq_true.1 hall c hc)⟩
  · refine hrefuses.2 ⟨by decide, "a b", ?_, fun h => ?_⟩
    · exact ⟨.tasks "a%20b", Gate.localUser, by decide, by decide, rfl, by decide⟩
    · exact absurd (h.1.chars ' ' (by decide)) (by decide +kernel)

/-- The rule is kept by 33 letters of two bytes each. -/
theorem not_isWorkspaceId_iff : ¬ ∀ s, isWorkspaceId s = true ↔ WorkspaceName s := by
  intro h
  have hname : WorkspaceName (String.ofList (List.replicate 33 'é')) := by
    refine ⟨by decide, by decide, fun c hc => ?_⟩
    rw [String.toList_ofList] at hc
    obtain rfl := List.eq_of_mem_replicate hc
    exact .inl (by decide +kernel)
  have hbytes := (isWorkspaceId_iff.1 ((h _).2 hname)).2
  exact absurd hbytes (by decide)

end Site

end TaskBoard
