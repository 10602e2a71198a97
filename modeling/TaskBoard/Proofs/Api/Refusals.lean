import TaskBoard.Api.Route
import TaskBoard.Proofs.Api.FilterIds
import TaskBoard.Proofs.Program

/-!
# Refusals for other reasons

A bad name of a workspace has a code of its own.  The query, the body and the user of a request
have problems with other codes, and so has the store.  An answer that is no refusal has no code.
So a handler that has got the name of its workspace is never answered with the code of a bad one,
whatever the store replies.

    a chain of readings fails for other reasons if each does    (Problem.Others.bind)
    a handler fails for other reasons if each stage does        (Handler.Others.bind)
    no store makes a handler answer with the code               (Handler.Others.answer)
-/

namespace TaskBoard

/-- The problem is not the name of a workspace. -/
def Problem.IsOther (p : Problem) : Prop := p.code ≠ "INVALID_WORKSPACE_ID"

/-- A part of a request that has other problems only. -/
def Problem.Others {α : Type} (x : Except Problem α) : Prop := ∀ p, x = .error p → p.IsOther

namespace Problem

variable {α β : Type} {code message : String}

theorem isOther_badRequest (h : code ≠ "INVALID_WORKSPACE_ID") :
    (badRequest code message).IsOther := h

theorem isOther_notFound (h : code ≠ "INVALID_WORKSPACE_ID") : (notFound code message).IsOther := h

theorem isOther_ofStorage (e : StorageError) : (ofStorage e).IsOther := by
  unfold ofStorage
  split
  · exact (by decide : "CONFLICT" ≠ "INVALID_WORKSPACE_ID")
  · split
    · exact (by decide : "SERVICE_UNAVAILABLE" ≠ "INVALID_WORKSPACE_ID")
    · exact (by decide : "INTERNAL" ≠ "INVALID_WORKSPACE_ID")

theorem isOther_ofFaults? {messages : List String} {p : Problem} (h : ofFaults? messages = some p) :
    p.IsOther := by
  cases messages with
  | nil => cases h
  | cons m ms =>
    cases h
    exact isOther_badRequest (by decide)

theorem others_ok (a : α) : Others (.ok a) := nofun

theorem others_error {p : Problem} (h : p.IsOther) : Others (.error p : Except Problem α) := by
  rintro _ ⟨⟩
  exact h

theorem others_badRequest (h : code ≠ "INVALID_WORKSPACE_ID") :
    Others (.error (.badRequest code message) : Except Problem α) :=
  others_error (isOther_badRequest h)

theorem Others.bind {x : Except Problem α} {f : α → Except Problem β} (hx : Others x)
    (hf : ∀ a, x = .ok a → Others (f a)) : Others (x >>= f) := by
  cases x with
  | error p => exact others_error (hx p rfl)
  | ok a => exact hf a rfl

end Problem

open Problem

/-! ## Queries -/

namespace TaskQuery

variable (q : TaskQuery)

theorem others_ofText (s : String) : Others (ofText s) := by
  unfold ofText
  split
  · exact others_badRequest (by decide)
  · split
    · next h => exact others_error (isOther_ofFaults? h)
    · exact others_ok _

theorem others_ids : Others q.ids := by
  intro p h
  unfold ids at h
  split at h
  · cases h
  · rcases idsOfText_eq_error_iff.1 h with ⟨w, -, rfl⟩ | ⟨-, -, rfl⟩
    · exact isOther_badRequest (by decide)
    · exact isOther_badRequest (by decide)

theorem others_filters : Others q.filters := by
  unfold filters
  split
  · exact others_ok _
  unfold filtersOfText
  dsimp only
  split
  · refine (others_ok _).bind fun filters _ => ?_
    split
    · exact others_badRequest (by decide)
    · split
      · exact others_badRequest (by decide)
      · exact others_ok _
  · exact others_badRequest (by decide)

theorem others_overrides : Others q.overrides := by
  unfold overrides
  split
  · exact others_ok _
  unfold overridesOfText
  dsimp only
  split
  · refine (others_ok _).bind fun entries _ => ?_
    split
    · exact others_badRequest (by decide)
    · exact others_ok _
  · exact others_badRequest (by decide)

end TaskQuery

/-! ## Filters -/

theorem Problem.isOther_invalidFilter (message : String) : (invalidFilter message).IsOther :=
  isOther_badRequest (by decide)

namespace ConditionRequest

variable {α : Type} (position : Nat) (r : ConditionRequest)

theorem others_fault (message : String) : Others (fault position message : Except Problem α) :=
  others_error (isOther_invalidFilter _)

theorem others_knownField (what : String) (name : Option String) :
    Others (knownField position what name) := by
  unfold knownField
  split
  · exact others_fault _ _
  · split
    · exact others_fault _ _
    · exact others_ok _

theorem others_dateField (what : String) (name : Option String) :
    Others (dateField position what name) := by
  refine (others_knownField _ _ _).bind fun f _ => ?_
  split
  · exact others_ok _
  · exact others_fault _ _

theorem others_knownOperator (spelling : String) : Others (knownOperator position spelling) := by
  unfold knownOperator
  split
  · exact others_fault _ _
  · exact others_ok _

theorem others_listInput : Others (r.listInput position) := by
  refine (others_knownField _ _ _).bind fun f _ => ?_
  refine (others_knownOperator _ _).bind fun op _ => ?_
  split
  · exact others_fault _ _
  · exact others_ok _

theorem others_dateDiffInput : Others (r.dateDiffInput position) := by
  refine (others_dateField _ _ _).bind fun earlier _ => ?_
  refine (others_dateField _ _ _).bind fun later _ => ?_
  refine (others_knownOperator _ _).bind fun op _ => ?_
  split
  · exact others_fault _ _
  · split
    · exact others_fault _ _
    · exact others_ok _

theorem others_dateRangeInput : Others (r.dateRangeInput position) := by
  refine (others_dateField _ _ _).bind fun f _ => ?_
  refine Others.bind ?_ fun op _ => ?_
  · unfold rangeOperator
    dsimp only
    split
    · exact others_ok _
    · exact others_knownOperator _ _
  · split
    · exact others_fault _ _
    · exact others_ok _

theorem others_input : Others (r.input position) := by
  unfold input
  split
  · exact others_listInput _ _
  · exact others_dateDiffInput _ _
  · exact others_dateRangeInput _ _
  · exact others_fault _ _

theorem others_inputs (rs : List ConditionRequest) : Others (inputs position rs) := by
  induction rs generalizing position with
  | nil => exact others_ok _
  | cons r rs ih =>
    refine (others_input _ _).bind fun c _ => ?_
    exact (ih _).bind fun cs _ => others_ok _

end ConditionRequest

theorem FilterRequest.others_input (r : FilterRequest) : Others r.input := by
  refine Others.bind ?_ fun logic _ => ?_
  · unfold knownLogic
    dsimp only
    split
    · exact others_ok _
    · split
      · exact others_ok _
      · exact others_error (isOther_invalidFilter _)
  · exact (ConditionRequest.others_inputs _ _).bind fun conditions _ => others_ok _

theorem FilterRequest.others_ofBytes (body : List UInt8) : Others (ofBytes body) := by
  unfold ofBytes
  split
  · exact others_badRequest (by decide)
  · exact others_badRequest (by decide)
  · split
    · next h => exact others_error (isOther_ofFaults? h)
    · exact others_ok _

theorem Route.others_filterBody (r : Http.Request) : Others (filterBody r) := by
  unfold filterBody
  split
  · exact others_badRequest (by decide)
  · split
    · exact others_badRequest (by decide)
    · exact FilterRequest.others_ofBytes _

/-! ## Users -/

namespace Gate

theorem isOther_unauthorized {code message : String} (h : code ≠ "INVALID_WORKSPACE_ID") :
    (Problem.unauthorized code message).IsOther := h

theorem others_user (g : Gate) (now : Int) (r : Http.Request) : Others (g.user now r) := by
  unfold user
  split
  · refine Others.bind ?_ fun token _ => Others.bind ?_ fun claims _ => others_ok _
    · unfold Gate.token
      split
      · exact others_ok _
      · split
        · exact others_error (isOther_unauthorized (by decide))
        · split
          · exact others_ok _
          · exact others_error (isOther_unauthorized (by decide))
    · cases SessionToken.validate g.key now token with
      | ok claims => exact others_ok _
      | error e => cases e <;> exact others_error (isOther_unauthorized (by decide))
  · exact others_ok _

end Gate

/-! ## Answers -/

/-- The code in the body of an answer. -/
def Http.Response.code? (response : Http.Response) : Option Json :=
  response.body.bind (·.member? "code")

/-- The answer does not refuse the name of a workspace. -/
def Http.Response.IsOther (response : Http.Response) : Prop :=
  response.code? ≠ some (.string "INVALID_WORKSPACE_ID")

namespace Handler

variable {α β : Type} {Q : α → Prop} {p : Problem}

/-- The handler refuses for other reasons only, and else comes to such a result, whatever the
replies. -/
def Others (Q : α → Prop) (h : Handler α) : Prop :=
  Program.Ends (fun | .ok a => Q a | .error p => p.IsOther) h.run

theorem others_pure {a : α} (h : Q a) : (pure a : Handler α).Others Q := h

theorem others_refuse (h : p.IsOther) : (refuse p : Handler α).Others Q := h

theorem others_ofExcept_bind {x : Except Problem α} {f : α → Handler β} {Q : β → Prop}
    (hx : Problem.Others x) (hf : ∀ a, x = .ok a → (f a).Others Q) :
    (ofExcept x >>= f).Others Q := by
  cases x with
  | error p => exact hx p rfl
  | ok a => exact hf a rfl

theorem others_store_bind {c : StoreCall} {f : c.Reply → Handler α}
    (h : ∀ a, (f a).Others Q) : (store c >>= f).Others Q := by
  intro reply
  cases reply with
  | error e => exact isOther_ofStorage e
  | ok a => exact h a

theorem others_clearCache_bind {f : Unit → Handler α} (h : (f ()).Others Q) :
    (clearCache >>= f).Others Q :=
  fun _ => h

theorem Others.bind {h : Handler α} {f : α → Handler β} {Q : β → Prop}
    (hh : h.Others fun _ => True) (hf : ∀ a, (f a).Others Q) : (h >>= f).Others Q := by
  refine Program.Ends.bind (Program.Ends.imp hh fun verdict hverdict => ?_)
  cases verdict with
  | error p => exact hverdict
  | ok a => exact hf a

theorem isOther_ofProblem (h : p.IsOther) : (Site.ofProblem p).IsOther :=
  fun heq => h (Json.string.inj (Option.some.inj heq))

/-- A result without a member for a code. -/
theorem isOther_json {status : Nat} {body : Json} (h : body.member? "code" = none) :
    (Http.Response.json status body).IsOther := by
  intro heq
  rw [Http.Response.code?, Http.Response.json, Option.bind_some, h] at heq
  cases heq

theorem isOther_bare (status : Nat) : (Http.Response.bare status).IsOther := nofun

theorem Others.answer {h : Handler Http.Response} (hh : h.Others Http.Response.IsOther) :
    Program.Ends Http.Response.IsOther h.answer := by
  refine Program.Ends.bind (Program.Ends.imp hh fun verdict hverdict => ?_)
  cases verdict with
  | error p => exact isOther_ofProblem hverdict
  | ok a => exact hverdict

theorem isOther_filterNotFound (id : Int) : (filterNotFound id).IsOther :=
  isOther_notFound (by decide)

variable (workspace user : String) (id : Int)

theorem others_requireMember : (requireMember workspace user).Others fun _ => True := by
  refine others_store_bind fun isMember : Bool => ?_
  cases isMember with
  | false => exact others_refuse (by decide : "ACCESS_DENIED" ≠ "INVALID_WORKSPACE_ID")
  | true => exact others_pure trivial

theorem others_requireOwned (ids : List Int) :
    (requireOwned workspace user ids).Others fun _ => True := by
  unfold requireOwned
  split
  · exact others_pure trivial
  · refine others_store_bind fun owned : List Int => ?_
    dsimp only
    split
    · exact others_pure trivial
    · exact others_refuse (isOther_notFound (by decide))

theorem others_compile (q : Query) : (compile q).Others fun _ => True := by
  have hall : Program.Ends (fun _ => True) (Service.compile q) := Program.ends_true _
  refine Program.Ends.bind (Program.Ends.imp hall fun compiled _ => ?_)
  cases compiled with
  | error e => exact (by decide : "INTERNAL" ≠ "INVALID_WORKSPACE_ID")
  | ok f => exact trivial

theorem others_listTasks (q : TaskQuery) :
    (listTasks workspace user q).Others Http.Response.IsOther := by
  refine others_ofExcept_bind q.others_ids fun ids _ => ?_
  refine others_ofExcept_bind q.others_filters fun filters _ => ?_
  refine others_ofExcept_bind q.others_overrides fun overrides _ => ?_
  refine (others_requireMember _ _).bind fun _ => ?_
  refine (others_requireOwned _ _ _).bind fun _ => ?_
  refine (others_compile _).bind fun compiled => ?_
  exact others_store_bind fun listing => others_pure (isOther_json rfl)

theorem others_listFilters : (listFilters workspace user).Others Http.Response.IsOther := by
  refine (others_requireMember _ _).bind fun _ => ?_
  exact others_store_bind fun filters => others_pure (isOther_json rfl)

theorem isOther_filter (status : Nat) (f : SavedFilter) :
    (Http.Response.json status f.toJson).IsOther :=
  isOther_json rfl

theorem others_getFilter : (getFilter workspace user id).Others Http.Response.IsOther := by
  refine (others_requireMember _ _).bind fun _ => ?_
  refine others_store_bind fun filter : Option SavedFilter => ?_
  cases filter with
  | none => exact others_refuse (isOther_filterNotFound id)
  | some f => exact others_pure (isOther_filter _ f)

theorem others_createFilter (request : FilterRequest) :
    (createFilter workspace user request).Others Http.Response.IsOther := by
  refine others_ofExcept_bind request.others_input fun input _ => ?_
  refine (others_requireMember _ _).bind fun _ => ?_
  refine others_store_bind fun f : SavedFilter => ?_
  exact others_clearCache_bind (others_pure (isOther_filter _ f))

theorem others_updateFilter (request : FilterRequest) :
    (updateFilter workspace user id request).Others Http.Response.IsOther := by
  refine others_ofExcept_bind request.others_input fun input _ => ?_
  refine (others_requireMember _ _).bind fun _ => ?_
  refine others_store_bind fun filter : Option SavedFilter => ?_
  cases filter with
  | none => exact others_refuse (isOther_filterNotFound id)
  | some f => exact others_clearCache_bind (others_pure (isOther_filter _ f))

theorem others_deleteFilter : (deleteFilter workspace user id).Others Http.Response.IsOther := by
  refine (others_requireMember _ _).bind fun _ => ?_
  refine others_store_bind fun deleted : Bool => ?_
  cases deleted with
  | false => exact others_refuse (isOther_filterNotFound id)
  | true => exact others_clearCache_bind (others_pure (isOther_bare 204))

theorem others_health : Program.Ends Http.Response.IsOther health := by
  intro reply
  exact isOther_json rfl

end Handler

end TaskBoard
