import TaskBoard.Api.Handler
import TaskBoard.Proofs.Storage.Loading

/-!
# Stages of a request

A request about a workspace goes through stages, and each of them makes at most one call of the
store: whether the user is a member, which of the filters are the user's own, and what rows they
have.  The log of a stage shows whether the request goes on, and if not, with what problem it is
refused.

    every run of requireMember is one of these ways             (requireMember_admits)
    every run of requireOwned is one of these ways              (requireOwned_owns)
    a refused request has no later exchange                     (bind_cases)
-/

namespace TaskBoard

/-- The ways in which membership is asked for. -/
inductive Admits (workspace user : String) : ServiceLog → Except Problem Unit → Prop
  | unknown (e : StorageError) :
    Admits workspace user [.store (.isMember workspace user) (.error e)] (.error (.ofStorage e))
  | stranger :
    Admits workspace user [.store (.isMember workspace user) (.ok false)]
      (.error Handler.accessDenied)
  | member : Admits workspace user [.store (.isMember workspace user) (.ok true)] (.ok ())

/-- The numbers that are not among those that the user owns. -/
def foreignIds (ids owned : List Int) : List Int := ids.filter fun id => !owned.contains id

/-- The ways in which ownership is asked for. -/
inductive Owns (workspace user : String) (ids : List Int) : ServiceLog → Except Problem Unit → Prop
  | nothing (h : ids = []) : Owns workspace user ids [] (.ok ())
  | unknown (h : ids ≠ []) (e : StorageError) :
    Owns workspace user ids [.store (.ownedIds workspace user ids) (.error e)]
      (.error (.ofStorage e))
  | foreign (owned : List Int) (h : foreignIds ids owned ≠ []) :
    Owns workspace user ids [.store (.ownedIds workspace user ids) (.ok owned)]
      (.error (Handler.filtersNotFound (foreignIds ids owned)))
  | own (h : ids ≠ []) (owned : List Int) (ho : foreignIds ids owned = []) :
    Owns workspace user ids [.store (.ownedIds workspace user ids) (.ok owned)] (.ok ())

namespace ServiceLog

/-- The log shows that the user is a member. -/
def HasMember (log : ServiceLog) (workspace user : String) : Prop :=
  .store (.isMember workspace user) (.ok true) ∈ log

/-- The log shows that every one of the filters is the user's own. -/
def HasOwner (log : ServiceLog) (workspace user : String) (ids : List Int) : Prop :=
  ids = [] ∨ ∃ owned : List Int, .store (.ownedIds workspace user ids) (.ok owned) ∈ log ∧
    ∀ id ∈ ids, id ∈ owned

end ServiceLog

/-- What a request is refused with, if it is. -/
def refusalOf {α : Type} : Except Problem α → Option Problem
  | .ok _ => none
  | .error p => some p

/-- What an exchange of a listing stops it with, if it does. -/
def Exchange.refusal? : Exchange ServiceStep.Reply → Option Problem
  | ⟨.store (.isMember _ _), .ok false⟩ => some Handler.accessDenied
  | ⟨.store (.ownedIds _ _ ids), .ok owned⟩ =>
    if foreignIds ids owned = [] then none
    else some (Handler.filtersNotFound (foreignIds ids owned))
  | ⟨.store (.fetchRows _), .error _⟩ => some .filtersNotLoaded
  | ⟨.store _, .error e⟩ => some (.ofStorage e)
  | _ => none

/-! ## Membership -/

namespace Admits

variable {workspace user : String} {log rest : ServiceLog} {verdict : Except Problem Unit}
  {x : Exchange ServiceStep.Reply}

theorem step_eq (h : Admits workspace user log verdict) (hx : x ∈ log) :
    x.step = .store (.isMember workspace user) := by
  cases h <;> cases List.mem_singleton.1 hx <;> rfl

/-- Any other exchange comes later. -/
theorem drop (h : Admits workspace user log verdict) (hx : x ∈ log ++ rest)
    (hne : x.step ≠ .store (.isMember workspace user)) : x ∈ rest :=
  (List.mem_append.1 hx).resolve_left fun hx => hne (h.step_eq hx)

theorem hasMember_iff (h : Admits workspace user log verdict) :
    log.HasMember workspace user ↔ verdict = .ok () := by
  unfold ServiceLog.HasMember
  constructor
  · intro hx
    cases h <;> cases Exchange.store_inj.1 (List.mem_singleton.1 hx)
    rfl
  · rintro rfl
    cases h
    exact List.mem_singleton_self _

theorem findSome?_refusal? (h : Admits workspace user log verdict) :
    log.findSome? Exchange.refusal? = refusalOf verdict := by
  cases h <;> rfl

end Admits

/-! ## Ownership -/

theorem foreignIds_eq_nil {ids owned : List Int} :
    foreignIds ids owned = [] ↔ ∀ id ∈ ids, id ∈ owned := by
  simp [foreignIds, List.filter_eq_nil_iff]

namespace Owns

variable {workspace user : String} {ids : List Int} {log rest : ServiceLog}
  {verdict : Except Problem Unit} {x : Exchange ServiceStep.Reply}

theorem step_eq (h : Owns workspace user ids log verdict) (hx : x ∈ log) :
    x.step = .store (.ownedIds workspace user ids) := by
  cases h with
  | nothing => cases hx
  | _ =>
    cases List.mem_singleton.1 hx
    rfl

/-- Any other exchange comes later. -/
theorem drop (h : Owns workspace user ids log verdict) (hx : x ∈ log ++ rest)
    (hne : x.step ≠ .store (.ownedIds workspace user ids)) : x ∈ rest :=
  (List.mem_append.1 hx).resolve_left fun hx => hne (h.step_eq hx)

theorem hasOwner_iff (h : Owns workspace user ids log verdict) :
    log.HasOwner workspace user ids ↔ verdict = .ok () := by
  unfold ServiceLog.HasOwner
  constructor
  · rintro (hnil | ⟨owned, hx, hall⟩)
    · cases h with
      | nothing => rfl
      | unknown hne => exact absurd hnil hne
      | foreign owned hne => exact absurd (foreignIds_eq_nil.2 (by simp [hnil])) hne
      | own => rfl
    · cases h with
      | nothing => rfl
      | unknown hne => cases Exchange.store_inj.1 (List.mem_singleton.1 hx)
      | foreign owned hne =>
        cases Exchange.store_inj.1 (List.mem_singleton.1 hx)
        exact absurd (foreignIds_eq_nil.2 hall) hne
      | own => rfl
  · rintro rfl
    cases h with
    | nothing h => exact .inl h
    | own hne owned ho =>
      exact .inr ⟨owned, List.mem_singleton_self _, foreignIds_eq_nil.1 ho⟩

theorem findSome?_refusal? (h : Owns workspace user ids log verdict) :
    log.findSome? Exchange.refusal? = refusalOf verdict := by
  have reply : ∀ owned : List Int,
      List.findSome? Exchange.refusal? [.store (.ownedIds workspace user ids) (.ok owned)] =
        if foreignIds ids owned = [] then none
        else some (Handler.filtersNotFound (foreignIds ids owned)) :=
    fun owned => List.findSome?_singleton ..
  cases h with
  | nothing => rfl
  | unknown => rfl
  | foreign owned hne =>
    rw [reply, if_neg hne]
    rfl
  | own hne owned ho =>
    rw [reply, if_pos ho]
    rfl

end Owns

/-! ## Rows -/

namespace Loads

variable {ids : List Int} {log : ServiceLog} {loaded : Except StorageError (List FilterRow)}

theorem findSome?_refusal? (h : Loads ids log loaded) :
    log.findSome? Exchange.refusal? = refusalOf (loaded.mapError fun _ => .filtersNotLoaded) := by
  cases h <;> rfl

end Loads

/-! ## Handlers -/

namespace Handler

variable {σ α β : Type} (perform : (e : ServiceStep) → σ → e.Reply × σ) (s : σ)

/-- A request goes on if its first stage does not refuse it. -/
theorem bind_cases (h : Handler α) (f : α → Handler β) :
    (∃ p, (h.run.run perform s).1 = .error p ∧
      (h >>= f).run.log perform s = h.run.log perform s ∧
      ((h >>= f).run.run perform s).1 = .error p) ∨
    ∃ a s', h.run.run perform s = (.ok a, s') ∧
      (h >>= f).run.log perform s = h.run.log perform s ++ (f a).run.log perform s' ∧
      ((h >>= f).run.run perform s).1 = ((f a).run.run perform s').1 := by
  have hlog := Program.log_bind perform h.run (ExceptT.bindCont f) s
  have hrun := Program.run_bind perform h.run (ExceptT.bindCont f) s
  rcases hh : h.run.run perform s with ⟨p | a, s'⟩
  · rw [hh] at hlog hrun
    exact .inl ⟨p, rfl, hlog.trans (List.append_nil _), congrArg Prod.fst hrun⟩
  · rw [hh] at hlog hrun
    exact .inr ⟨a, s', rfl, hlog, congrArg Prod.fst hrun⟩

theorem run_requireMember (workspace user : String) :
    (requireMember workspace user).run = .step (.store (.isMember workspace user)) fun
      | .error e => .done (.error (.ofStorage e))
      | .ok true => .done (.ok ())
      | .ok false => .done (.error accessDenied) := by
  show Program.step _ _ = Program.step _ _
  congr 1
  funext reply
  rcases reply with e | _ | _ <;> rfl

theorem run_requireOwned (workspace user : String) {ids : List Int} (h : ids ≠ []) :
    (requireOwned workspace user ids).run = .step (.store (.ownedIds workspace user ids)) fun
      | .error e => .done (.error (.ofStorage e))
      | .ok owned => .done (if foreignIds ids owned = [] then .ok ()
          else .error (filtersNotFound (foreignIds ids owned))) := by
  unfold requireOwned
  rw [if_neg (by simpa using h)]
  show Program.step _ _ = Program.step _ _
  congr 1
  funext reply
  rcases reply with e | owned
  · rfl
  · show ExceptT.run (if (foreignIds ids owned).isEmpty then _ else _) = _
    simp only [List.isEmpty_iff]
    split <;> rfl

theorem requireMember_admits (workspace user : String) :
    Admits workspace user ((requireMember workspace user).run.log perform s)
      ((requireMember workspace user).run.run perform s).1 := by
  rw [run_requireMember, Program.log, Program.run]
  rcases (perform (.store (.isMember workspace user)) s).1 with e | _ | _
  · exact .unknown e
  · exact .stranger
  · exact .member

theorem requireOwned_owns (workspace user : String) (ids : List Int) :
    Owns workspace user ids ((requireOwned workspace user ids).run.log perform s)
      ((requireOwned workspace user ids).run.run perform s).1 := by
  by_cases h : ids = []
  · subst h
    exact .nothing rfl
  rw [run_requireOwned workspace user h, Program.log, Program.run]
  rcases (perform (.store (.ownedIds workspace user ids)) s).1 with e | owned
  · exact .unknown h e
  · show Owns workspace user ids [.store (.ownedIds workspace user ids) (.ok owned)]
      (if foreignIds ids owned = [] then .ok ()
        else .error (filtersNotFound (foreignIds ids owned)))
    split
    · next ho => exact .own h owned ho
    · next ho => exact .foreign owned ho

/-- A filter is compiled from the rows that are loaded, or not at all. -/
theorem compile_loads (q : Query) :
    ∃ loaded, Loads q.filterIds ((compile q).run.log perform s) loaded ∧
      ((compile q).run.run perform s).1 =
        (loaded.map q.compile).mapError fun _ => .filtersNotLoaded := by
  have heq : (compile q).run =
      ((Service.loadRows q.filterIds).bind fun rows => .done (rows.map q.compile)).bind
        fun c => .done (c.mapError fun _ => .filtersNotLoaded) := rfl
  refine ⟨((Service.loadRows q.filterIds).run perform s).1, ?_, ?_⟩
  · rw [heq, Program.log_bind_done, Program.log_bind_done]
    exact Service.loadRows_loads perform q.filterIds s
  · rw [heq, Program.run_bind, Program.run_bind]
    rfl

end Handler

end TaskBoard
