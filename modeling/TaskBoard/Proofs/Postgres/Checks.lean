import TaskBoard.Api.Problem
import TaskBoard.Proofs.Filter.Acceptance
import TaskBoard.Proofs.Postgres.Transaction
import TaskBoard.Proofs.Text.Blank

/-!
# Checks of the tables

The tables of the filters check the texts in some of their columns, and a statement whose rows
fail a check is refused.  Requests are tested beforehand, so that none should come that far.  But
the length of a name is tested as the name was given, and what is saved has no blanks around it:
a name of nothing but blanks is accepted, and its row is refused.  No other row is.

    the checks are those of the schema                          (checks_savedFilters)
    what passes is saved as if nothing were checked             (callChecked_eq_call)
    what fails is declined, and the tables stay                 (Declines.createFilter)
    what is accepted passes, unless its name is blank           (allPass_input_iff)
-/

namespace TaskBoard

namespace Postgres

/-! ## Checks -/

/-- What a check demands of a text. -/
inductive Demand
  | length (least most : Nat)
  | oneOf (words : List String)

/-- A check of one column. -/
structure Check (α : Type) where
  column : String
  /-- The text that a row has there. -/
  cell : α → String
  demand : Demand

def Demand.IsMet (s : String) : Demand → Prop
  | .length least most => least ≤ s.length ∧ s.length ≤ most
  | .oneOf words => s ∈ words

instance (s : String) : (d : Demand) → Decidable (d.IsMet s)
  | .length least most => inferInstanceAs (Decidable (least ≤ s.length ∧ s.length ≤ most))
  | .oneOf words => inferInstanceAs (Decidable (s ∈ words))

/-- The SQL text of a check. -/
def Check.sql {α : Type} (k : Check α) : String :=
  "CHECK(" ++ (match k.demand with
    | .length least most =>
      "length(" ++ k.column ++ ") >= " ++ Numeral.natText least ++ " AND length(" ++ k.column ++
        ") <= " ++ Numeral.natText most
    | .oneOf words =>
      k.column ++ " IN (" ++ ", ".intercalate (words.map fun w => "'" ++ w ++ "'") ++ ")") ++ ")"

/-- The checks of the table of filters. -/
def filterChecks : List (Check FilterInput) :=
  [⟨"name", (·.name), .length 1 100⟩, ⟨"operator", (·.logic), .oneOf ["AND", "OR"]⟩]

/-- The checks of the table of conditions. -/
def conditionChecks : List (Check ConditionInput) :=
  [⟨"kind", (·.kind), .oneOf ["list", "date_diff", "date_range"]⟩]

/-- The row passes the checks. -/
def Passes {α : Type} (checks : List (Check α)) (row : α) : Prop :=
  ∀ k ∈ checks, k.demand.IsMet (k.cell row)

instance {α : Type} (checks : List (Check α)) (row : α) : Decidable (Passes checks row) :=
  inferInstanceAs (Decidable (∀ k ∈ checks, k.demand.IsMet (k.cell row)))

/-- The filter and its conditions pass their checks. -/
def AllPass (input : FilterInput) : Prop :=
  Passes filterChecks input ∧ ∀ c ∈ input.conditions, Passes conditionChecks c

/-! ## The schema -/

/-- The bytes of a text, which are quicker to search than its characters. -/
def bytesOf (s : String) : List UInt8 := s.toByteArray.data.toList

/-- The check of a column, if its line has one. -/
def checkOf? (line : String) : Option (List UInt8) :=
  (bytesOf line).tails.find? ((bytesOf "CHECK").isPrefixOf ·)

def SchemaItem.checks : SchemaItem → List (List UInt8)
  | .table _ lines => lines.filterMap checkOf?
  | .index _ _ => []

def Check.bytes {α : Type} (k : Check α) : List UInt8 := bytesOf k.sql

/-- The tables of the filters have these checks and no others. -/
theorem checks_savedFilters :
    Schema.savedFilters.items.map SchemaItem.checks =
      [filterChecks.map Check.bytes, [], conditionChecks.map Check.bytes, []] := by
  decide +kernel

/-! ## Statements that are refused -/

/-- A row fails a check. -/
def checkViolation : DatabaseFault := .refused "new row violates check constraint"

namespace Client

/-- Whether the statement has a row that fails a check.  Replacing a filter has no row unless it
is there. -/
def violates (c : Client) : Statement → Bool
  | .insertFilter _ _ input => !decide (Passes filterChecks input)
  | .updateFilter workspace user id input =>
    (c.seen.filterAt workspace user id).isSome && !decide (Passes filterChecks input)
  | .insertCondition _ _ input => !decide (Passes conditionChecks input)
  | _ => false

/-- A new row takes its number before it is checked. -/
def taking (c : Client) : Statement → Client
  | .insertFilter _ _ _ => c.takeFilter
  | .insertCondition _ _ _ => c.takeCondition
  | _ => c

/-- What a statement does where the checks are kept. -/
def performChecked (w : Surroundings) (s : Statement) (c : Client) :
    Except DatabaseFault s.Reply × Client :=
  match w.refusal c.database.asked, c.transaction with
  | some _, _ => c.perform w s
  | none, .failed => c.perform w s
  | none, _ =>
    if c.violates s then (.error checkViolation, (c.counted.taking s).fail) else c.perform w s

end Client

/-- What a session gives where the checks are kept. -/
def Session.checked {α : Type} (w : Surroundings) (x : Session α) (c : Client) :
    Except PostgresError α × Client :=
  x.run.run (Client.performChecked w) c

/-- What a call of the store does where the checks are kept. -/
def Database.callChecked (w : Surroundings) (c : StoreCall) (d : Database) :
    Except StorageError c.Reply × Database :=
  let (r, end_) := reply (Client.performChecked w) c ⟨d, .closed⟩
  (r, end_.database)

/-- The call succeeds where the checks are kept. -/
def Database.Grants (w : Surroundings) (c : StoreCall) (d : Database) : Prop :=
  ∃ a, (d.callChecked w c).1 = .ok a

/-- Where the checks are kept, the call is answered as an internal error and changes nothing. -/
def Database.Declines (w : Surroundings) (c : StoreCall) (d : Database) : Prop :=
  ∃ e, (d.callChecked w c).1 = .error e ∧ (Problem.ofStorage e).status = 500 ∧
    (d.callChecked w c).2.tables = d.tables

/-- The session is the same with and without the checks. -/
def Session.Unhindered {α : Type} (w : Surroundings) (x : Session α) : Prop :=
  ∀ c, x.checked w c = x.exec w c

/-! ## What passes -/

namespace Client

variable {w : Surroundings} {c : Client} {s : Statement}

theorem performChecked_of_not_violates (h : c.violates s = false) :
    c.performChecked w s = c.perform w s := by
  unfold performChecked
  split
  · rfl
  · rfl
  · exact if_neg (Bool.eq_false_iff.1 h)

/-- In a running transaction that nothing disturbs, a row that fails a check fails the
transaction. -/
theorem performChecked_of_violates {base t : Tables} (hcalm : w.refusal c.database.asked = none)
    (hc : c.Within base t) (h : c.violates s) :
    ∃ c', c.performChecked w s = (.error checkViolation, c') ∧ c'.database.tables = base := by
  refine ⟨(c.counted.taking s).fail, ?_, ?_⟩
  · unfold performChecked
    rw [hcalm, hc.transaction]
    exact if_pos h
  · rw [database_fail, ← hc.tables]
    cases s <;> rfl

end Client

namespace Session

variable {α β : Type} {w : Surroundings} {c : Client} {x : Session α} {f : α → Session β}

theorem checked_bind (x : Session α) (f : α → Session β) :
    (x >>= f).checked w c = match x.checked w c with
      | (.ok a, c') => (f a).checked w c'
      | (.error e, c') => (.error e, c') := by
  unfold checked
  rw [run_bind]
  rcases x.run.run (Client.performChecked w) c with ⟨e | a, c'⟩ <;> rfl

theorem checked_ask (s : Statement) :
    (ask s).checked w c = ((c.performChecked w s).1.mapError .database, (c.performChecked w s).2) := by
  show (_, _) = _
  rcases c.performChecked w s with ⟨f | r, c'⟩ <;> rfl

namespace Unhindered

theorem pure (a : α) : Unhindered w (pure a) := fun _ => rfl

theorem one (a : Option α) : Unhindered w (one a) := by
  cases a <;> exact fun _ => rfl

theorem bind (hx : Unhindered w x) (hf : ∀ a, Unhindered w (f a)) : Unhindered w (x >>= f) := by
  intro c
  rw [checked_bind, exec_bind, hx c]
  rcases x.exec w c with ⟨e | a, c'⟩
  · rfl
  · exact hf a c'

theorem ask {s : Statement} (hs : ∀ c : Client, c.violates s = false) : Unhindered w (ask s) := by
  intro c
  rw [checked_ask, exec_ask, Client.performChecked_of_not_violates (hs c)]

theorem makeRoom (workspace user : String) (keep : Option Int) (input : FilterInput) :
    Unhindered w (makeRoom workspace user keep input) := by
  unfold Postgres.makeRoom
  cases input.isDefault with
  | true => exact ask fun _ => rfl
  | false => exact pure ()

theorem insertConditions (filter : Int) (position : Nat) {cs : List ConditionInput}
    (h : ∀ c ∈ cs, Passes conditionChecks c) :
    Unhindered w (insertConditions filter position cs) := by
  induction cs generalizing position with
  | nil => exact pure []
  | cons input cs ih =>
    obtain ⟨hinput, hcs⟩ := List.forall_mem_cons.1 h
    refine bind (ask fun _ => by simp [Client.violates, hinput]) fun reply => bind (one reply) fun id => ?_
    exact bind (ih (position + 1) hcs) fun rest => pure _

theorem createFilter (workspace user : String) {input : FilterInput} (h : AllPass input) :
    Unhindered w (createFilter workspace user input) := by
  refine bind (ask fun _ => rfl) fun _ => bind (makeRoom _ _ _ _) fun _ => ?_
  refine bind (ask fun _ => by simp [Client.violates, h.1]) fun reply => bind (one reply) fun saved => ?_
  refine bind (insertConditions saved.1 0 h.2) fun conditions => ?_
  exact bind (ask fun _ => rfl) fun _ => pure _

theorem updateFilter (workspace user : String) (id : Int) {input : FilterInput}
    (h : AllPass input) : Unhindered w (updateFilter workspace user id input) := by
  refine bind (ask fun _ => rfl) fun _ => bind (makeRoom _ _ _ _) fun _ => ?_
  refine bind (ask fun _ => by simp [Client.violates, h.1]) fun reply => ?_
  cases reply with
  | none => exact bind (ask fun _ => rfl) fun _ => pure none
  | some createdAt =>
    refine bind (ask fun _ => rfl) fun _ => ?_
    refine bind (insertConditions id 0 h.2) fun conditions => ?_
    exact bind (ask fun _ => rfl) fun _ => pure _

end Unhindered

/-! ## What fails -/

/-- How a filter begins to be saved. -/
def opening (workspace user : String) (keep : Option Int) (input : FilterInput) : Session Unit := do
  ask .beginTransaction
  makeRoom workspace user keep input

variable {d : Database} {workspace user : String} {keep : Option Int} {input : FilterInput}

/-- In calm surroundings a transaction is running then, and there is room. -/
theorem checked_opening (input : FilterInput) (hcalm : Undisturbed w ⟨d, .closed⟩) :
    ∃ c, (opening workspace user keep input).checked w ⟨d, .closed⟩ = (.ok (), c) ∧
      c.Within d.tables (d.tables.withRoom workspace user keep input) ∧ Undisturbed w c := by
  have hfree : Unhindered w (opening workspace user keep input) :=
    .bind (.ask fun _ => rfl) fun _ => .makeRoom _ _ _ _
  have hopens : Attempts w d.tables _ (opening workspace user keep input) _ :=
    .bind .start fun _ => .makeRoom workspace user keep input
  rcases hopens ⟨d, .closed⟩ ⟨rfl, rfl⟩ with ⟨⟨⟩, c, hrun, hc⟩ | ⟨-, -, -, -, hdisturbed⟩
  · refine ⟨c, (hfree _).trans hrun, hc, ?_⟩
    have hcalm' := hcalm.exec (opening workspace user keep input)
    rwa [hrun] at hcalm'
  · exact absurd hcalm hdisturbed

/-- A row that fails a check ends what has begun, and the tables are as they were. -/
theorem checked_of_violates (hcalm : Undisturbed w ⟨d, .closed⟩) {s : Statement}
    (hs : ∀ c : Client, c.Within d.tables (d.tables.withRoom workspace user keep input) →
      c.violates s) (f : s.Reply → Session α) :
    ∃ c, (ask .beginTransaction >>= fun _ => makeRoom workspace user keep input >>= fun _ =>
        ask s >>= f).checked w ⟨d, .closed⟩ =
      (.error (.database checkViolation), c) ∧ c.database.tables = d.tables := by
  have hopens : (ask .beginTransaction >>= fun _ => makeRoom workspace user keep input >>= fun _ =>
      ask s >>= f) = opening workspace user keep input >>= fun _ => ask s >>= f :=
    (bind_assoc ..).symm
  obtain ⟨c₁, hrun, hc, hcalm₁⟩ := checked_opening input hcalm
  obtain ⟨c₂, hrefused, htables⟩ :=
    Client.performChecked_of_violates (hcalm₁.accepted _ (Nat.le_refl _)) hc (hs c₁ hc)
  refine ⟨c₂, ?_, htables⟩
  rw [hopens, checked_bind, hrun]
  show (ask s >>= f).checked w c₁ = _
  rw [checked_bind, checked_ask, hrefused]
  rfl

end Session

/-! ## Calls -/

namespace Database

variable {w : Surroundings} {d : Database} {workspace user : String} {input : FilterInput}

theorem callChecked_eq (w : Surroundings) (c : StoreCall) (d : Database) :
    d.callChecked w c = (((session c).checked w ⟨d, .closed⟩).1.mapError .ofPostgres,
      ((session c).checked w ⟨d, .closed⟩).2.database) := rfl

theorem callChecked_eq_call {c : StoreCall} (h : Session.Unhindered w (session c)) :
    d.callChecked w c = d.call w c := by
  rw [callChecked_eq, call_eq, h]

/-- A call whose session ends with a row that fails a check is declined. -/
theorem Declines.of_checked {c : StoreCall}
    (h : ∃ b, (session c).checked w ⟨d, .closed⟩ = (.error (.database checkViolation), b) ∧
      b.database.tables = d.tables) : d.Declines w c := by
  obtain ⟨b, hrun, htables⟩ := h
  rw [Declines, callChecked_eq, hrun]
  exact ⟨_, rfl, rfl, htables⟩

theorem Grants.createFilter (hcalm : Undisturbed w ⟨d, .closed⟩) (h : AllPass input) :
    d.Grants w (.createFilter workspace user input) := by
  rw [Grants, callChecked_eq_call (Session.Unhindered.createFilter workspace user h)]
  rcases call_createFilter w d workspace user input with ⟨saved, _, hcall, -⟩ | ⟨_, _, -, -, hfail⟩
  · exact ⟨saved, by rw [hcall]⟩
  · exact absurd hcalm hfail

theorem Grants.updateFilter (hcalm : Undisturbed w ⟨d, .closed⟩) (id : Int) (h : AllPass input) :
    d.Grants w (.updateFilter workspace user id input) := by
  rw [Grants, callChecked_eq_call (Session.Unhindered.updateFilter workspace user id h)]
  rcases call_updateFilter w d workspace user id input with ⟨saved, _, hcall, -⟩ |
    ⟨_, hcall, -⟩ | ⟨_, _, -, -, hfail⟩
  · exact ⟨some saved, by rw [hcall]⟩
  · exact ⟨none, by rw [hcall]⟩
  · exact absurd hcalm hfail

/-- A new filter that fails a check is refused. -/
theorem Declines.createFilter (hcalm : Undisturbed w ⟨d, .closed⟩)
    (h : ¬ Passes filterChecks input) : d.Declines w (.createFilter workspace user input) :=
  .of_checked (c := .createFilter workspace user input) <|
    Session.checked_of_violates (s := .insertFilter workspace user input) hcalm
      (fun _ _ => by simp [Client.violates, h]) _

/-- A filter of the owner is not replaced by one that fails a check. -/
theorem Declines.updateFilter (hcalm : Undisturbed w ⟨d, .closed⟩) {id : Int}
    (hown : ∃ g ∈ d.tables.filters, g.isAt workspace user id = true)
    (h : ¬ Passes filterChecks input) : d.Declines w (.updateFilter workspace user id input) := by
  refine .of_checked (c := .updateFilter workspace user id input) <|
    Session.checked_of_violates (s := .updateFilter workspace user id input) hcalm
      (fun c hc => ?_) _
  have hthere : (c.seen.filterAt workspace user id).isSome := by
    obtain ⟨g, hg, hat⟩ := hown
    rw [hc.seen, Tables.filterAt, List.find?_isSome]
    exact ⟨g, (Tables.mem_withRoom_keep (Tables.isAt_iff.1 hat).1).2 hg, hat⟩
  simp [Client.violates, hthere, h]

end Database

end Postgres

open Postgres

/-! ## Requests -/

theorem Logic.name_mem (l : Logic) : l.name ∈ ["AND", "OR"] := by
  cases l <;> decide

theorem ConditionInput.Accepted.passes {c : ConditionInput} (h : c.Accepted) :
    Passes conditionChecks c := by
  refine List.forall_mem_singleton.2 ?_
  show c.kind ∈ ["list", "date_diff", "date_range"]
  cases h with
  | list => exact List.mem_cons_self
  | dateDiff => exact List.mem_cons_of_mem _ List.mem_cons_self
  | dateRange => exact List.mem_cons_of_mem _ (List.mem_cons_of_mem _ List.mem_cons_self)

namespace FilterRequest

variable {body : List UInt8} {r : FilterRequest} {i : FilterInput}

/-- The name of a request that is read has a length within the bounds. -/
theorem length_name_le (h : ofBytes body = .ok r) : r.name.length ≤ maxNameLength := by
  unfold ofBytes at h
  split at h
  · cases h
  · cases h
  · split at h
    · cases h
    · next hnone =>
      cases h
      rw [Problem.ofFaults?_eq_none_iff, faults_eq_nil_iff] at hnone
      exact (by simpa [nameFits] using hnone.1 : 1 ≤ _ ∧ _).2

/-- **What is accepted, and what is stored.**  What is saved of an accepted request passes the
checks of the tables unless its name is nothing but blanks.  If it passes, it is saved as if
nothing were checked.  If it does not, the check of an empty name is the only one that fails; the
database declines a new filter, and one in the place of another. -/
theorem allPass_input_iff (hr : ofBytes body = .ok r) (hi : r.input = .ok i) :
    i.name = Text.trimmed r.name ∧ i.name.length ≤ maxNameLength ∧ i.logic ∈ ["AND", "OR"] ∧
    (∀ c ∈ i.conditions, Passes conditionChecks c) ∧
    (AllPass i ↔ Text.allBlank r.name = false) ∧
    ∀ (w : Surroundings) (d : Database) (workspace user : String) (id : Int),
      let creates : StoreCall := .createFilter workspace user i
      let replaces : StoreCall := .updateFilter workspace user id i
      (Text.allBlank r.name = false →
        d.callChecked w creates = d.call w creates ∧ d.callChecked w replaces = d.call w replaces ∧
        (Undisturbed w ⟨d, .closed⟩ → d.Grants w creates ∧ d.Grants w replaces)) ∧
      (Text.allBlank r.name = true → Undisturbed w ⟨d, .closed⟩ →
        d.Declines w creates ∧
        ((∃ g ∈ d.tables.filters, g.isAt workspace user id = true) → d.Declines w replaces)) := by
  obtain ⟨l, -, hi⟩ := bind_eq_ok.1 hi
  obtain ⟨cs, hcs, hi⟩ := bind_eq_ok.1 hi
  cases hi
  dsimp only
  have hlength : (Text.trimmed r.name).length ≤ maxNameLength :=
    (Text.length_trimmed_le r.name).trans (length_name_le hr)
  have hconditions : ∀ c ∈ cs, Passes conditionChecks c :=
    fun c hc => (ConditionRequest.accepted_of_inputs hcs c hc).passes
  -- of the checks of the filter, only the lower bound on its name is open
  have hfilter : Passes filterChecks
      ⟨Text.trimmed r.name, r.viewMode, l.name, r.isDefault, cs⟩ ↔ Text.allBlank r.name = false := by
    rw [← Text.length_trimmed_pos_iff]
    constructor
    · exact fun h => (h _ List.mem_cons_self).1
    · exact fun h => List.forall_mem_cons.2
        ⟨⟨h, hlength⟩, List.forall_mem_singleton.2 (Logic.name_mem l)⟩
  have hall : AllPass ⟨Text.trimmed r.name, r.viewMode, l.name, r.isDefault, cs⟩ ↔
      Text.allBlank r.name = false :=
    (and_iff_left hconditions).trans hfilter
  refine ⟨rfl, hlength, Logic.name_mem l, hconditions, hall, fun w d workspace user id =>
    ⟨fun hname => ?_, fun hname hcalm => ?_⟩⟩
  · have hpass := hall.2 hname
    exact ⟨Database.callChecked_eq_call (.createFilter workspace user hpass),
      Database.callChecked_eq_call (.updateFilter workspace user id hpass),
      fun hcalm => ⟨.createFilter hcalm hpass, .updateFilter hcalm id hpass⟩⟩
  · have hfails := hfilter.not.2 (by rw [hname]; exact Bool.noConfusion)
    exact ⟨.createFilter hcalm hfails, fun hown => .updateFilter hcalm hown hfails⟩

end FilterRequest

/-! ## A blank name -/

namespace Postgres.Sample

/-- A name of one blank: the body is an object that has nothing but `name`. -/
def blankName : List UInt8 := [123, 34, 110, 97, 109, 101, 34, 58, 34, 32, 34, 125]

/-- The same with a letter after the blank. -/
def letterName : List UInt8 := [123, 34, 110, 97, 109, 101, 34, 58, 34, 32, 97, 34, 125]

end Postgres.Sample

theorem FilterRequest.ofBytes_blankName :
    ofBytes Sample.blankName = .ok ⟨" ", none, none, false, []⟩ := by cbv

theorem FilterRequest.ofBytes_letterName :
    ofBytes Sample.letterName = .ok ⟨" a", none, none, false, []⟩ := by cbv

/-- In a calm database, a filter with a letter in its name is saved and replaces another one; a
filter with a blank for a name is declined both times. -/
theorem FilterRequest.allPass_input_letter :
    (∃ i, (⟨" a", none, none, false, []⟩ : FilterRequest).input = .ok i ∧ AllPass i ∧
      Sample.database.Grants .calm (.createFilter "w" "local" i)) ∧
    ∃ i, (⟨" ", none, none, false, []⟩ : FilterRequest).input = .ok i ∧ ¬ AllPass i ∧
      Sample.database.Declines .calm (.createFilter "w" "local" i) ∧
      Sample.database.Declines .calm (.updateFilter "w" "local" 8 i) := by
  constructor
  · obtain ⟨-, -, -, -, hall, hcalls⟩ := allPass_input_iff ofBytes_letterName rfl
    have hcall := hcalls .calm Sample.database "w" "local" 8
    exact ⟨_, rfl, hall.2 rfl, ((hcall.1 rfl).2.2 Sample.undisturbed).1⟩
  · obtain ⟨-, -, -, -, hall, hcalls⟩ := allPass_input_iff ofBytes_blankName rfl
    have hcall := hcalls .calm Sample.database "w" "local" 8
    obtain ⟨hcreate, hreplace⟩ := hcall.2 rfl Sample.undisturbed
    exact ⟨_, rfl, hall.not.2 nofun, hcreate, hreplace ⟨_, .tail _ (.head _), rfl⟩⟩

/-- Not everything that is accepted passes the checks. -/
theorem FilterRequest.not_allPass_input :
    ¬ ∀ (body : List UInt8) (r : FilterRequest) (i : FilterInput),
      ofBytes body = .ok r → r.input = .ok i → AllPass i := by
  intro hall
  have hpass := hall _ _ _ ofBytes_blankName rfl
  exact absurd (hpass.1 _ List.mem_cons_self).1 (by decide)

end TaskBoard
