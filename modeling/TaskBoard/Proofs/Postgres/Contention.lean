import TaskBoard.Proofs.Postgres.Database

/-!
# Sessions side by side

Sessions of the store run on one database at the same time, and their statements take turns.  What
a transaction has changed is seen by its own statements only, until it is committed; other
statements see what was committed before they began.

A statement that changes filters looks for them as it begins, and then comes to them one by one.
A filter that another transaction has changed has to be waited for.  After that the statement looks
again whether the filter is still meant, and changes it as it is by then.  Filters that were
committed since the statement began are not found any more.

    alone, a statement changes filters as it changes tables      (filters_accept)
    what others have changed, a session leaves                   (Place.Touched.claim_iff)
    rows stay under their numbers                                (Contention.Indexed.insert)
-/

namespace TaskBoard

/-- Whether the filter is the default of its owner, and not the one to keep. -/
def FilterHead.isCleared (workspace user : String) (keep : Option Int) (h : FilterHead) : Bool :=
  h.isOwned workspace user && h.isDefault && keep != some h.id

namespace Postgres

/-! ## Changes -/

/-- Which filters a statement changes. -/
structure Change where
  applies : FilterHead → Bool
  /-- What becomes of such a filter; nothing if it is deleted. -/
  result : FilterHead → Option FilterHead

/-- What becomes of any filter. -/
def Change.on (ch : Change) (h : FilterHead) : Option FilterHead :=
  if ch.applies h then ch.result h else some h

def Change.clear (workspace user : String) (keep : Option Int) : Change :=
  ⟨FilterHead.isCleared workspace user keep, fun h => some { h with isDefault := false }⟩

def Change.replace (workspace user : String) (id : Int) (input : FilterInput) : Change :=
  ⟨FilterHead.isAt workspace user id, fun h => some (Tables.overwrite input h)⟩

def Change.delete (workspace user : String) (id : Int) : Change :=
  ⟨FilterHead.isAt workspace user id, fun _ => none⟩

/-- How a statement changes filters that are there. -/
def Statement.change? : Statement → Option Change
  | .clearDefault workspace user keep => some (.clear workspace user keep)
  | .updateFilter workspace user id input => some (.replace workspace user id input)
  | .deleteFilter workspace user id => some (.delete workspace user id)
  | _ => none

/-- A filter that a statement changes, and what becomes of it. -/
def Statement.hit? (s : Statement) (h : Option FilterHead) :
    Option (FilterHead × Option FilterHead) := do
  let ch ← s.change?
  let h ← h
  if ch.applies h then some (h, ch.result h) else none

/-! ## Rows -/

/-- The transaction that has written a row. -/
structure Stamp where
  session : Nat
  /-- The turn in which it began to take the mark off the owner's default filter, if it did. -/
  began : Option Nat
  /-- The turn in which it was committed. -/
  ended : Nat

/-- A row as it is for all.  Those that were there at the start have no stamp. -/
structure Version where
  head : FilterHead
  stamp : Option Stamp

/-- What a transaction has made of a row; nothing if the row is deleted. -/
structure Claim where
  session : Nat
  head : Option FilterHead

/-- A row, or the place for one: as it is for all, and as a transaction has changed it. -/
structure Place where
  stored : Option Version
  claim : Option Claim

namespace Place

/-- The row as a session sees it. -/
def seen (i : Nat) (p : Place) : Option FilterHead :=
  match p.claim with
  | some c => if c.session = i then c.head else p.stored.map Version.head
  | none => p.stored.map Version.head

/-- Whether another session has changed the row. -/
def isHeld (i : Nat) (p : Place) : Bool := p.claim.any fun c => c.session != i

/-- The row after the transaction of the stamp has been committed. -/
def commit (s : Stamp) (p : Place) : Place :=
  match p.claim with
  | some c => if c.session = s.session then ⟨c.head.map (⟨·, some s⟩), none⟩ else p
  | none => p

/-- The row after the transaction of a session has been dropped. -/
def rollback (i : Nat) (p : Place) : Place :=
  match p.claim with
  | some c => if c.session = i then ⟨p.stored, none⟩ else p
  | none => p

/-- What the session of a stamp may make of a place in one turn. -/
inductive Touched (s : Stamp) (p : Place) : Place → Prop
  | same : Touched s p p
  | claim (hfree : p.isHeld s.session = false) (h : Option FilterHead) :
    Touched s p ⟨p.stored, some ⟨s.session, h⟩⟩
  | commit : Touched s p (p.commit s)
  | rollback : Touched s p (p.rollback s.session)

end Place

/-! ## Sessions -/

/-- A statement that is changing rows. -/
structure Scan where
  /-- The rows that it has still to come to. -/
  todo : List Int
  /-- The rows that it has changed, as they were before, or inserted. -/
  changed : List FilterHead

/-- Statements that are left to be done. -/
abbrev Statements := Program Statement (fun s => Except DatabaseFault s.Reply) Unit

/-- The statements of a session, without its result. -/
def Session.statements {α : Type} (x : Session α) : Statements := x.run.bind fun _ => .done ()

/-- A session that is under way. -/
structure Worker where
  rest : Statements
  /-- The statement that is done at present, if it has begun. -/
  scan : Option Scan
  inTransaction : Bool
  /-- The turn in which the session began to take the mark off the owner's default filter. -/
  cleared : Option Nat

/-- The session of a call, of which nothing has been done. -/
def Worker.start (c : StoreCall) : Worker := ⟨(session c).statements, none, false, none⟩

/-- A database with sessions side by side. -/
structure Contention where
  places : Int → Place
  /-- The numbers that were given to rows, and the next one. -/
  ids : List Int
  nextFilter : Int
  workers : List Worker
  /-- How many turns have been taken. -/
  turns : Nat

namespace Contention

/-- What can happen next. -/
inductive Turn
  /-- A session begins a statement, or ends the one that it has begun. -/
  | go (i : Nat)
  /-- The statement of a session comes to a row. -/
  | visit (i : Nat) (id : Int)
  /-- The statement of a session is refused, whatever the reason. -/
  | refuse (i : Nat) (f : DatabaseFault)
  deriving Repr, DecidableEq

/-- Sessions for calls on a database. -/
def start (d : Database) (calls : List StoreCall) : Contention where
  places id := ⟨(d.tables.filters.find? fun h => h.id == id).map (⟨·, none⟩), none⟩
  ids := d.tables.ids
  nextFilter := d.nextFilter
  workers := calls.map Worker.start
  turns := 0

/-- The filters that are there for all. -/
def filters (c : Contention) : List FilterHead :=
  c.ids.filterMap fun id => (c.places id).stored.map Version.head

section

variable (w : Surroundings) (i : Nat) (k : Worker) (c : Contention)

/-- What is known about the transaction of a session when it is committed. -/
def stamp : Stamp := ⟨i, k.cleared, c.turns⟩

def put : Contention := { c with workers := c.workers.set i k }

def commit : Contention := { c with places := fun id => (c.places id).commit (c.stamp i k) }

def rollback : Contention := { c with places := fun id => (c.places id).rollback i }

/-- What the session makes of a row. -/
def claim (id : Int) (h : Option FilterHead) : Contention :=
  { c with places := fun b => if b = id then ⟨(c.places id).stored, some ⟨i, h⟩⟩ else c.places b }

/-- A row with the next number, which no other session sees yet. -/
def insert (h : FilterHead) : Contention :=
  { c.claim i c.nextFilter (some h) with
    ids := c.nextFilter :: c.ids
    nextFilter := c.nextFilter + 1 }

/-- The rows that a change is for, as the session sees them. -/
def found (ch : Change) : List Int := c.ids.filter fun id => ((c.places id).seen i).any ch.applies

/-- What a statement gives that has changed these rows; the surroundings reply to the others. -/
def answer (n : Nat) (changed : List FilterHead) (s : Statement) : s.Reply :=
  match s with
  | .clearDefault _ _ _ => ()
  | .insertFilter _ _ _ => changed.head?.map fun h => (h.id, h.createdAt)
  | .updateFilter _ _ _ _ => changed.head?.map (·.createdAt)
  | .deleteFilter _ _ _ => changed.length
  | s => w.reply s n

/-- A statement that changes rows begins, any other is done.  A session that is done drops what it
has not committed. -/
def begin : Contention :=
  match k.rest with
  | .done _ => (c.rollback i).put i { k with inTransaction := false }
  | .step s next =>
    match s, next with
    | .beginTransaction, next => c.put i { k with rest := next (.ok ()), inTransaction := true }
    | .commit, next => (c.commit i k).put i { k with rest := next (.ok ()), inTransaction := false }
    | .rollback, next =>
      (c.rollback i).put i { k with rest := next (.ok ()), inTransaction := false }
    | .insertFilter workspace user input, _ =>
      let h := input.head c.nextFilter user workspace (w.time c.turns)
      (c.insert i h).put i { k with scan := some ⟨[], [h]⟩ }
    | .clearDefault workspace user keep, _ =>
      let scan := ⟨c.found i (.clear workspace user keep), []⟩
      c.put i { k with scan := some scan, cleared := some c.turns }
    | s, next =>
      match s.change? with
      | some ch => c.put i { k with scan := some ⟨c.found i ch, []⟩ }
      | none => c.put i { k with rest := next (.ok (w.reply s c.turns)) }

/-- A statement that has come to all its rows is done; outside a transaction it is committed. -/
def finish (scan : Scan) : Contention :=
  match k.rest with
  | .done _ => c
  | .step s next =>
    if scan.todo.isEmpty then
      (if k.inTransaction then c else c.commit i k).put i
        { k with rest := next (.ok (answer w c.turns scan.changed s)), scan := none }
    else c

/-- The statement of a session comes to a row, unless another session holds it. -/
def visit (id : Int) : Contention :=
  match k.scan, k.rest with
  | some scan, .step s _ =>
    if scan.todo.contains id && !(c.places id).isHeld i then
      let todo := scan.todo.filter (· != id)
      match s.hit? ((c.places id).seen i) with
      | some (h, r) => (c.claim i id r).put i { k with scan := some ⟨todo, scan.changed ++ [h]⟩ }
      | none => c.put i { k with scan := some ⟨todo, scan.changed⟩ }
    else c
  | _, _ => c

/-- The statement of a session is refused, and its transaction is dropped. -/
def refuse (f : DatabaseFault) : Contention :=
  match k.rest with
  | .done _ => c
  | .step _ next =>
    (c.rollback i).put i { k with rest := next (.error f), scan := none, inTransaction := false }

end

/-- What a session does in its turn. -/
def act (w : Surroundings) (t : Turn) (k : Worker) (c : Contention) : Contention :=
  match t with
  | .go i =>
    match k.scan with
    | none => c.begin w i k
    | some scan => c.finish w i k scan
  | .visit i id => c.visit i k id
  | .refuse i f => c.refuse i k f

def Turn.session : Turn → Nat
  | .go i => i
  | .visit i _ => i
  | .refuse i _ => i

/-- What is there after one turn. -/
def turn (w : Surroundings) (c : Contention) (t : Turn) : Contention :=
  match c.workers[t.session]? with
  | some k => { c.act w t k with turns := c.turns + 1 }
  | none => c

/-- What is there after all turns. -/
def run (w : Surroundings) (c : Contention) (turns : List Turn) : Contention :=
  turns.foldl (turn w) c

/-- Rows are found under their numbers, and new numbers are free. -/
structure Indexed (c : Contention) : Prop where
  stored : ∀ b v, (c.places b).stored = some v → v.head.id = b
  claimed : ∀ b i h, (c.places b).claim = some ⟨i, some h⟩ → h.id = b
  known : ∀ b, b ∉ c.ids → c.places b = ⟨none, none⟩
  ahead : ∀ b ∈ c.ids, b < c.nextFilter

end Contention

/-! ## Lemmas about changes -/

theorem hit?_eq_some {s : Statement} {h : Option FilterHead} {g : FilterHead}
    {r : Option FilterHead} : s.hit? h = some (g, r) ↔
      h = some g ∧ ∃ ch, s.change? = some ch ∧ ch.applies g = true ∧ r = ch.result g := by
  constructor
  · intro hit
    obtain ⟨ch, hch, hit⟩ := Option.bind_eq_some_iff.1 hit
    obtain ⟨f, rfl, hit⟩ := Option.bind_eq_some_iff.1 hit
    change (if ch.applies f = true then some (f, ch.result f) else none) = some (g, r) at hit
    split at hit
    · next happlies =>
      cases hit
      exact ⟨rfl, ch, hch, happlies, rfl⟩
    · cases hit
  · rintro ⟨rfl, ch, hch, happlies, rfl⟩
    simp [Statement.hit?, hch, happlies]

theorem applies_of_hit?_eq_none {s : Statement} {h : Option FilterHead} {ch : Change}
    {g : FilterHead} (hit : s.hit? h = none) (hch : s.change? = some ch) (hg : h = some g) :
    ch.applies g = false := by
  by_contra happlies
  have hsome := hit?_eq_some.2 ⟨hg, ch, hch, by simpa using happlies, rfl⟩
  rw [hit] at hsome
  cases hsome

/-- In a session that is alone, a statement makes the same of all filters that it makes of each
row. -/
theorem filters_accept {w : Surroundings} {n : Nat} {s : Statement} {ch : Change} {c : Client}
    (h : s.change? = some ch) :
    (c.accept w n s).2.seen.filters = c.seen.filters.filterMap ch.on := by
  cases s with
  | clearDefault workspace user keep =>
    cases h
    show (c.write _).seen.filters = _
    rw [Client.seen_write]
    refine (congrFun List.filterMap_eq_map _).symm.trans (List.filterMap_congr fun g _ => ?_)
    show some (g.unmarked workspace user keep) = _
    unfold FilterHead.unmarked Change.on Change.clear FilterHead.isCleared
    split <;> rfl
  | updateFilter workspace user id input =>
    cases h
    show (c.write _).seen.filters = _
    rw [Client.seen_write]
    refine (congrFun List.filterMap_eq_map _).symm.trans (List.filterMap_congr fun g _ => ?_)
    show some (if g.isAt workspace user id then Tables.overwrite input g else g) = _
    unfold Change.on Change.replace
    split <;> rfl
  | deleteFilter workspace user id =>
    cases h
    show (c.write _).seen.filters = _
    rw [Client.seen_write]
    refine (congrFun List.filterMap_eq_filter _).symm.trans (List.filterMap_congr fun g _ => ?_)
    unfold Change.on Change.delete
    cases hat : g.isAt workspace user id with
    | true => simp [hat]
    | false => simp [hat]
  | _ => cases h

/-- A filter keeps its number. -/
theorem id_of_result {s : Statement} {ch : Change} {g f : FilterHead} (hch : s.change? = some ch)
    (hf : ch.result g = some f) : f.id = g.id := by
  cases s with
  | clearDefault => cases hch; cases hf; rfl
  | updateFilter => cases hch; cases hf; rfl
  | deleteFilter => cases hch; cases hf
  | _ => cases hch

/-! ## Lemmas about places -/

namespace Place

variable {i j : Nat} {p p' : Place} {s : Stamp} {h : Option FilterHead} {v : Version}

theorem rollback_eq (i : Nat) (p : Place) :
    (∃ h, p.claim = some ⟨i, h⟩ ∧ p.rollback i = ⟨p.stored, none⟩) ∨
      (∀ h, p.claim ≠ some ⟨i, h⟩) ∧ p.rollback i = p := by
  obtain ⟨stored, _ | ⟨j, h⟩⟩ := p
  · exact .inr ⟨nofun, rfl⟩
  · by_cases hj : j = i
    · subst hj
      exact .inl ⟨h, rfl, if_pos rfl⟩
    · exact .inr ⟨fun _ heq => hj (Claim.mk.inj (Option.some.inj heq)).1, if_neg hj⟩

theorem commit_eq (s : Stamp) (p : Place) :
    (∃ h, p.claim = some ⟨s.session, h⟩ ∧ p.commit s = ⟨h.map (⟨·, some s⟩), none⟩) ∨
      (∀ h, p.claim ≠ some ⟨s.session, h⟩) ∧ p.commit s = p := by
  obtain ⟨stored, _ | ⟨j, h⟩⟩ := p
  · exact .inr ⟨nofun, rfl⟩
  · by_cases hj : j = s.session
    · subst hj
      exact .inl ⟨h, rfl, if_pos rfl⟩
    · exact .inr ⟨fun _ heq => hj (Claim.mk.inj (Option.some.inj heq)).1, if_neg hj⟩

theorem stored_rollback (i : Nat) (p : Place) : (p.rollback i).stored = p.stored := by
  rcases rollback_eq i p with ⟨h, -, heq⟩ | ⟨-, heq⟩ <;> rw [heq]

theorem claim_rollback : (p.rollback i).claim ≠ some ⟨i, h⟩ := by
  rcases rollback_eq i p with ⟨h, -, heq⟩ | ⟨hnone, heq⟩ <;> rw [heq]
  · nofun
  · exact hnone _

theorem claim_commit : (p.commit s).claim ≠ some ⟨s.session, h⟩ := by
  rcases commit_eq s p with ⟨h, -, heq⟩ | ⟨hnone, heq⟩ <;> rw [heq]
  · nofun
  · exact hnone _

/-- No claim is new after a commit, or after a rollback. -/
theorem claim_of_commit {cl : Claim} (hcl : (p.commit s).claim = some cl) : p.claim = some cl := by
  rcases commit_eq s p with ⟨h, -, heq⟩ | ⟨-, heq⟩ <;> rw [heq] at hcl
  · cases hcl
  · exact hcl

theorem claim_of_rollback {cl : Claim} (hcl : (p.rollback i).claim = some cl) :
    p.claim = some cl := by
  rcases rollback_eq i p with ⟨h, -, heq⟩ | ⟨-, heq⟩ <;> rw [heq] at hcl
  · cases hcl
  · exact hcl

/-- What is there after a commit was there before, or the session has made it. -/
theorem stored_commit (hv : (p.commit s).stored = some v) :
    (p.stored = some v ∧ ∀ h, p.claim ≠ some ⟨s.session, h⟩) ∨
      ∃ g, p.claim = some ⟨s.session, some g⟩ ∧ v = ⟨g, some s⟩ := by
  rcases commit_eq s p with ⟨h, hclaim, heq⟩ | ⟨hnone, heq⟩ <;> rw [heq] at hv
  · obtain ⟨g, rfl, rfl⟩ := Option.map_eq_some_iff.1 hv
    exact .inr ⟨g, hclaim, rfl⟩
  · exact .inl ⟨hv, hnone⟩

/-- A row that the session has not changed, it sees as all do. -/
theorem seen_of_not_claimed (hp : ∀ h, p.claim ≠ some ⟨i, h⟩) :
    p.seen i = p.stored.map Version.head := by
  obtain ⟨stored, _ | ⟨j, h⟩⟩ := p
  · rfl
  · refine if_neg fun hj => hp h ?_
    obtain rfl : j = i := hj
    rfl

theorem Touched.claim_iff (ht : Touched s p p') (hj : j ≠ s.session) :
    p'.claim = some ⟨j, h⟩ ↔ p.claim = some ⟨j, h⟩ := by
  have hother : ∀ g, p.claim = some ⟨s.session, g⟩ → p.claim ≠ some ⟨j, h⟩ := by
    intro g hg heq
    rw [hg] at heq
    exact hj (Claim.mk.inj (Option.some.inj heq)).1.symm
  cases ht with
  | same => exact Iff.rfl
  | claim hfree g =>
    refine iff_of_false (fun heq => hj (Claim.mk.inj (Option.some.inj heq)).1.symm) fun heq => ?_
    rw [isHeld, heq] at hfree
    simp [hj] at hfree
  | commit =>
    rcases commit_eq s p with ⟨g, hclaim, heq⟩ | ⟨-, heq⟩ <;> rw [heq]
    exact iff_of_false nofun (hother g hclaim)
  | rollback =>
    rcases rollback_eq s.session p with ⟨g, hclaim, heq⟩ | ⟨-, heq⟩ <;> rw [heq]
    exact iff_of_false nofun (hother g hclaim)

theorem Touched.stored (ht : Touched s p p') (hv : p'.stored = some v) :
    p.stored = some v ∨ v.stamp = some s := by
  cases ht with
  | same => exact .inl hv
  | claim => exact .inl hv
  | commit =>
    rcases stored_commit hv with ⟨hv, -⟩ | ⟨g, -, rfl⟩
    · exact .inl hv
    · exact .inr rfl
  | rollback =>
    rw [stored_rollback] at hv
    exact .inl hv

end Place

/-! ## Lemmas about rows and their numbers -/

namespace Contention

variable {c : Contention} {i : Nat} {k : Worker} {id : Int} {h : Option FilterHead}

theorem claim_eq (c : Contention) (i : Nat) (id : Int) (h : Option FilterHead) (b : Int) :
    (b = id ∧ (c.claim i id h).places b = ⟨(c.places id).stored, some ⟨i, h⟩⟩) ∨
      b ≠ id ∧ (c.claim i id h).places b = c.places b := by
  by_cases hb : b = id
  · exact .inl ⟨hb, if_pos hb⟩
  · exact .inr ⟨hb, if_neg hb⟩

theorem stored_claim (b : Int) :
    ((c.claim i id h).places b).stored = (c.places b).stored := by
  rcases c.claim_eq i id h b with ⟨rfl, heq⟩ | ⟨-, heq⟩ <;> rw [heq]

theorem touched_claim {s : Stamp} (hs : s.session = i) (hfree : (c.places id).isHeld i = false)
    (b : Int) : (c.places b).Touched s ((c.claim i id h).places b) := by
  subst hs
  rcases c.claim_eq s.session id h b with ⟨rfl, heq⟩ | ⟨-, heq⟩ <;> rw [heq]
  · exact .claim hfree h
  · exact .same

theorem exists_of_mem_found {ch : Change} {a : Int} (ha : a ∈ c.found i ch) :
    ∃ g, (c.places a).seen i = some g ∧ ch.applies g = true := by
  have hany := (List.mem_filter.1 ha).2
  cases hg : (c.places a).seen i with
  | none =>
    rw [hg] at hany
    cases hany
  | some g =>
    rw [hg] at hany
    exact ⟨g, rfl, hany⟩

namespace Indexed

theorem put (hc : c.Indexed) : (c.put i k).Indexed := ⟨hc.stored, hc.claimed, hc.known, hc.ahead⟩

theorem id_of_seen (hc : c.Indexed) {g : FilterHead} (hg : (c.places id).seen i = some g) :
    g.id = id := by
  by_cases hclaim : ∃ h, (c.places id).claim = some ⟨i, h⟩
  · obtain ⟨h, hclaim⟩ := hclaim
    have hh : h = some g := by simpa [Place.seen, hclaim] using hg
    exact hc.claimed id i g (hh ▸ hclaim)
  · rw [Place.seen_of_not_claimed fun h hh => hclaim ⟨h, hh⟩] at hg
    obtain ⟨v, hv, rfl⟩ := Option.map_eq_some_iff.1 hg
    exact hc.stored id v hv

theorem mem_of_seen (hc : c.Indexed) {g : FilterHead} (hg : (c.places id).seen i = some g) :
    id ∈ c.ids := by
  by_contra hid
  rw [hc.known id hid] at hg
  cases hg

/-- A row that is not found is not meant. -/
theorem applies_of_not_found (hc : c.Indexed) {ch : Change} (hid : id ∉ c.found i ch)
    {g : FilterHead} (hg : (c.places id).seen i = some g) : ch.applies g = false := by
  rw [Bool.eq_false_iff]
  intro happlies
  exact hid (List.mem_filter.2 ⟨hc.mem_of_seen hg, by rw [hg]; exact happlies⟩)

theorem claim (hc : c.Indexed) (hid : id ∈ c.ids) (hh : ∀ g, h = some g → g.id = id) :
    (c.claim i id h).Indexed := by
  refine ⟨fun b v hv => hc.stored b v (stored_claim b ▸ hv), fun b j g hclaim => ?_,
    fun b hb => ?_, hc.ahead⟩
  · rcases c.claim_eq i id h b with ⟨rfl, heq⟩ | ⟨-, heq⟩ <;> rw [heq] at hclaim
    · exact hh g (Claim.mk.inj (Option.some.inj hclaim)).2
    · exact hc.claimed b j g hclaim
  · rcases c.claim_eq i id h b with ⟨rfl, heq⟩ | ⟨-, heq⟩
    · exact absurd hid hb
    · exact heq.trans (hc.known b hb)

theorem commit (hc : c.Indexed) : (c.commit i k).Indexed := by
  refine ⟨fun b v hv => ?_, fun b j g hclaim => ?_, fun b hb => ?_, hc.ahead⟩
  · rcases Place.stored_commit hv with ⟨hv, -⟩ | ⟨g, hclaim, rfl⟩
    · exact hc.stored b v hv
    · exact hc.claimed b _ g hclaim
  · exact hc.claimed b j g (Place.claim_of_commit hclaim)
  · show (c.places b).commit _ = _
    rw [hc.known b hb]
    rfl

theorem rollback (hc : c.Indexed) : (c.rollback i).Indexed := by
  refine ⟨fun b v hv => hc.stored b v (Place.stored_rollback i _ ▸ hv), fun b j g hclaim => ?_,
    fun b hb => ?_, hc.ahead⟩
  · exact hc.claimed b j g (Place.claim_of_rollback hclaim)
  · show (c.places b).rollback i = _
    rw [hc.known b hb]
    rfl

theorem empty_next (hc : c.Indexed) : c.places c.nextFilter = ⟨none, none⟩ :=
  hc.known _ fun hmem => absurd (hc.ahead _ hmem) (Int.lt_irrefl _)

theorem insert (hc : c.Indexed) {g : FilterHead} (hg : g.id = c.nextFilter) :
    (c.insert i g).Indexed := by
  refine ⟨fun b v hv => hc.stored b v (stored_claim b ▸ hv), fun b j k hclaim => ?_,
    fun b hb => ?_, fun b hb => ?_⟩
  · rcases c.claim_eq i c.nextFilter (some g) b with ⟨rfl, heq⟩ | ⟨-, heq⟩
    · have hclaim := heq ▸ hclaim
      cases hclaim
      exact hg
    · exact hc.claimed b j k (heq ▸ hclaim)
  · have hb : b ∉ c.nextFilter :: c.ids := hb
    rw [List.mem_cons, not_or] at hb
    rcases c.claim_eq i c.nextFilter (some g) b with ⟨heq, -⟩ | ⟨-, heq⟩
    · exact absurd heq hb.1
    · exact heq.trans (hc.known b hb.2)
  · rcases List.mem_cons.1 hb with rfl | hb
    · exact Int.lt_succ _
    · exact Int.lt_add_one_of_le (Int.le_of_lt (hc.ahead b hb))

end Indexed

end Contention

end Postgres

end TaskBoard
