import TaskBoard.Proofs.Postgres.Contention

/-!
# Sessions that mark a filter

A session that saves a default filter takes the marks off the others of the owner first, and then
saves at most one filter.  From the end of that clearing on, whatever is marked for the owner has
either been changed by the session itself, or was committed since the clearing began.

What the session relies on, turns of other sessions leave: they cannot change a row that it has
changed, and what they commit is committed late enough.

    the statements of every call clear first and save once        (Session.prepares_or_harmless)
    what a session relies on, other sessions leave                (Stage.of_touched)
    a row that is visited is clear                                (Stage.changed, Stage.passed)
-/

namespace TaskBoard

/-- The owner for whom a call saves a default filter. -/
def StoreCall.default? : StoreCall → Option (String × String)
  | .createFilter workspace user input => if input.isDefault then some (workspace, user) else none
  | .updateFilter workspace user _ input => if input.isDefault then some (workspace, user) else none
  | _ => none

/-- Whether the filter is the default of the owner. -/
def FilterHead.isDefaultOf (workspace user : String) (h : FilterHead) : Bool :=
  h.isOwned workspace user && h.isDefault

namespace Postgres

/-! ## Statements that are left -/

/-- Whether the statement saves a filter, or makes room for one. -/
def Statement.saves : Statement → Bool
  | .clearDefault _ _ _ => true
  | .insertFilter _ _ _ => true
  | .updateFilter _ _ _ _ => true
  | _ => false

/-- No statement saves a filter. -/
def Harmless {α : Type} : Program Statement (fun s => Except DatabaseFault s.Reply) α → Prop
  | .done _ => True
  | .step s next => s.saves = false ∧ ∀ r, Harmless (next r)

/-- At most one of the statements saves a filter, and only after the marks were taken off if it is
to be the default of the owner `o`.  That may have been done, with the exception `kept`. -/
inductive Prepares (o : Option (String × String)) : Option (Option Int) → Statements → Prop
  | clear {kept workspace user keep next} (howner : o = some (workspace, user))
    (hrefused : ∀ f, Harmless (next (.error f))) (hnext : Prepares o (some keep) (next (.ok ()))) :
    Prepares o kept (.step (.clearDefault workspace user keep) next)
  | insert {kept workspace user input next}
    (hdefault : input.isDefault = true → o = some (workspace, user) ∧ kept = some none)
    (hnext : ∀ r, Harmless (next r)) :
    Prepares o kept (.step (.insertFilter workspace user input) next)
  | update {kept workspace user id input next}
    (hdefault : input.isDefault = true → o = some (workspace, user) ∧ kept = some (some id))
    (hnext : ∀ r, Harmless (next r)) :
    Prepares o kept (.step (.updateFilter workspace user id input) next)
  | begin {kept next} (hrefused : ∀ f, Harmless (next (.error f)))
    (hnext : Prepares o kept (next (.ok ()))) : Prepares o kept (.step .beginTransaction next)

/-! ## Places -/

namespace Place

/-- The session has marked nothing here. -/
def Unmarked (i : Nat) (p : Place) : Prop :=
  ∀ h, p.claim = some ⟨i, some h⟩ → h.isDefault = false

/-- What is marked here was not committed by the session. -/
def Foreign (i : Nat) (p : Place) : Prop :=
  ∀ v s, p.stored = some v → v.head.isDefault = true → v.stamp = some s → s.session ≠ i

/-- Once the session is committed, nothing is marked here for the owner that was committed up to
the turn `x`. -/
structure Clear (i x : Nat) (workspace user : String) (p : Place) : Prop where
  unmarked : p.Unmarked i
  later : ∀ v, p.stored = some v → v.head.isDefaultOf workspace user = true →
    (∃ h, p.claim = some ⟨i, h⟩) ∨ ∃ s, v.stamp = some s ∧ x < s.ended

end Place

/-! ## Sessions -/

section

variable (places : Int → Place) (i : Nat) (o : Option (String × String)) (x : Option Nat)

/-- The session has taken the marks off the filters of the owner, all but some. -/
def Cleared (but : Int → Prop) : Prop :=
  ∃ workspace user t, o = some (workspace, user) ∧ x = some t ∧
    (∀ b, (places b).Foreign i) ∧ ∀ b, ¬ but b → (places b).Clear i t workspace user

/-- What the session has marked is the only filter that will be marked for its owner. -/
def MarksOne : Prop :=
  ∀ a h, (places a).claim = some ⟨i, some h⟩ → h.isDefault = true →
    o = some (h.workspace, h.user) ∧ Cleared places i o x (· = a)

end

/-- How far a session can be. -/
inductive Stage (places : Int → Place) (i : Nat) (o : Option (String × String)) : Worker → Prop
  | preparing {k : Worker} {kept : Option (Option Int)} (hscan : k.scan = none)
    (hrest : Prepares o kept k.rest) (hunmarked : ∀ b, (places b).Unmarked i)
    (hforeign : ∀ b, (places b).Foreign i)
    (hcleared : ∀ keep, kept = some keep →
      Cleared places i o k.cleared fun b => keep = some b) : Stage places i o k
  | clearing {k : Worker} {scan : Scan} {workspace user : String} {keep : Option Int}
    {next : Except DatabaseFault Unit → Statements} (hscan : k.scan = some scan)
    (hrest : k.rest = .step (.clearDefault workspace user keep) next)
    (hrefused : ∀ f, Harmless (next (.error f))) (hnext : Prepares o (some keep) (next (.ok ())))
    (howner : o = some (workspace, user)) (hunmarked : ∀ b, (places b).Unmarked i)
    (hcleared : Cleared places i o k.cleared fun b => keep = some b ∨ b ∈ scan.todo) :
    Stage places i o k
  | replacing {k : Worker} {scan : Scan} {workspace user : String} {id : Int} {input : FilterInput}
    {next : Except DatabaseFault (Option Timestamp) → Statements} (hscan : k.scan = some scan)
    (hrest : k.rest = .step (.updateFilter workspace user id input) next)
    (hnext : ∀ r, Harmless (next r)) (hmarks : MarksOne places i o k.cleared)
    (hdefault : input.isDefault = true →
      o = some (workspace, user) ∧ Cleared places i o k.cleared (· = id))
    (htodo : ∀ a ∈ scan.todo, a = id) : Stage places i o k
  /-- A filter has been inserted, or filters are being deleted. -/
  | writing {k : Worker} {scan : Scan} {s : Statement}
    {next : Except DatabaseFault s.Reply → Statements} (hscan : k.scan = some scan)
    (hrest : k.rest = .step s next) (hgone : ∀ ch h, s.change? = some ch → ch.result h = none)
    (hnext : ∀ r, Harmless (next r)) (hmarks : MarksOne places i o k.cleared) : Stage places i o k
  | written {k : Worker} (hscan : k.scan = none) (hrest : Harmless k.rest)
    (hmarks : MarksOne places i o k.cleared) : Stage places i o k

/-! ## Lemmas about places -/

theorem isDefaultOf_iff {workspace user : String} {h : FilterHead} :
    h.isDefaultOf workspace user = true ↔
      h.workspace = workspace ∧ h.user = user ∧ h.isDefault = true := by
  simp [FilterHead.isDefaultOf, FilterHead.isOwned, and_assoc]

theorem isDefaultOf_of_isCleared {workspace user : String} {keep : Option Int} {g : FilterHead}
    (hg : g.isCleared workspace user keep = false) (hkeep : keep ≠ some g.id) :
    g.isDefaultOf workspace user = false := by
  have hne : (keep != some g.id) = true := bne_iff_ne.2 hkeep
  rw [FilterHead.isCleared, hne, Bool.and_true] at hg
  exact hg

namespace Place

variable {i j x : Nat} {workspace user : String} {p p' : Place} {s : Stamp}
  {h : Option FilterHead}

theorem Touched.unmarked (ht : Touched s p p') (hj : j ≠ s.session) (hp : p.Unmarked j) :
    p'.Unmarked j := fun h hclaim => hp h ((ht.claim_iff hj).1 hclaim)

theorem Touched.foreign (ht : Touched s p p') (hj : j ≠ s.session) (hp : p.Foreign j) :
    p'.Foreign j := by
  intro v t hv hdefault ht'
  rcases ht.stored hv with hv | hs
  · exact hp v t hv hdefault ht'
  · obtain rfl : s = t := Option.some.inj (hs.symm.trans ht')
    exact hj.symm

theorem Touched.clear (ht : Touched s p p') (hj : j ≠ s.session) (hx : x < s.ended)
    (hp : p.Clear j x workspace user) : p'.Clear j x workspace user := by
  refine ⟨ht.unmarked hj hp.unmarked, fun v hv hdefault => ?_⟩
  rcases ht.stored hv with hv | hs
  · refine (hp.later v hv hdefault).imp_left fun ⟨h, hclaim⟩ => ⟨h, (ht.claim_iff hj).2 hclaim⟩
  · exact .inr ⟨s, hs, hx⟩

theorem Foreign.commit (hp : p.Foreign s.session) (hu : p.Unmarked s.session) :
    (p.commit s).Foreign s.session := by
  intro v t hv hdefault ht
  rcases stored_commit hv with ⟨hv, -⟩ | ⟨g, hclaim, rfl⟩
  · exact hp v t hv hdefault ht
  · rw [hu g hclaim] at hdefault
    cases hdefault

theorem Clear.commit (hp : p.Clear s.session x workspace user) :
    (p.commit s).Clear s.session x workspace user := by
  refine ⟨fun h hclaim => absurd hclaim claim_commit, fun v hv hdefault => ?_⟩
  rcases stored_commit hv with ⟨hv, hnone⟩ | ⟨g, hclaim, rfl⟩
  · exact (hp.later v hv hdefault).elim (fun ⟨h, hclaim⟩ => absurd hclaim (hnone h)) .inr
  · have hmark := (isDefaultOf_iff.1 hdefault).2.2
    rw [hp.unmarked g hclaim] at hmark
    cases hmark

/-- What a session changes without marking it is clear. -/
theorem clear_claim {stored : Option Version} (hh : ∀ g, h = some g → g.isDefault = false) :
    Clear i x workspace user ⟨stored, some ⟨i, h⟩⟩ := by
  refine ⟨fun g hclaim => hh g ?_, fun v _ _ => .inl ⟨h, rfl⟩⟩
  exact (Claim.mk.inj (Option.some.inj hclaim)).2

/-- What is not marked as the session sees it is clear. -/
theorem clear_of_seen (hu : p.Unmarked i)
    (hs : ∀ g, p.seen i = some g → g.isDefaultOf workspace user = false) :
    p.Clear i x workspace user := by
  refine ⟨hu, fun v hv hdefault => ?_⟩
  by_contra hno
  have hnone : ∀ h, p.claim ≠ some ⟨i, h⟩ := fun h hclaim => hno (.inl ⟨h, hclaim⟩)
  have hseen := hs v.head (by rw [seen_of_not_claimed hnone, hv]; rfl)
  rw [hdefault] at hseen
  cases hseen

end Place

/-! ## Lemmas about sessions -/

section

variable {places places' : Int → Place} {i j : Nat} {o : Option (String × String)}
  {x : Option Nat} {but but' : Int → Prop} {s : Stamp}

theorem Cleared.foreign (h : Cleared places i o x but) (b : Int) : (places b).Foreign i := by
  obtain ⟨_, _, _, _, _, hforeign, -⟩ := h
  exact hforeign b

theorem Cleared.mono (h : Cleared places i o x but) (hbut : ∀ b, but b → but' b) :
    Cleared places i o x but' := by
  obtain ⟨workspace, user, t, ho, hx, hforeign, hclear⟩ := h
  exact ⟨workspace, user, t, ho, hx, hforeign, fun b hb => hclear b fun hold => hb (hbut b hold)⟩

/-- One more filter is clear. -/
theorem Cleared.step (h : Cleared places i o x but) {id : Int}
    (hbut : ∀ b, but b → but' b ∨ b = id)
    (hid : ¬ but' id → ∀ workspace user t, o = some (workspace, user) →
      (places id).Clear i t workspace user) : Cleared places i o x but' := by
  obtain ⟨workspace, user, t, ho, hx, hforeign, hclear⟩ := h
  refine ⟨workspace, user, t, ho, hx, hforeign, fun b hb => ?_⟩
  by_cases hold : but b
  · obtain rfl := (hbut b hold).resolve_left hb
    exact hid hb workspace user t ho
  · exact hclear b hold

/-- Where a session has marked nothing, all it will mark is one filter. -/
theorem marksOne_of_unmarked (h : ∀ b, (places b).Unmarked i) : MarksOne places i o x := by
  intro a g hclaim hdefault
  rw [h a g hclaim] at hdefault
  cases hdefault

/-! ### Turns of other sessions -/

theorem Cleared.of_touched (h : Cleared places j o x but)
    (ht : ∀ b, Place.Touched s (places b) (places' b)) (hj : j ≠ s.session)
    (hx : ∀ t, x = some t → t < s.ended) : Cleared places' j o x but := by
  obtain ⟨workspace, user, t, ho, hxt, hforeign, hclear⟩ := h
  exact ⟨workspace, user, t, ho, hxt, fun b => (ht b).foreign hj (hforeign b), fun b hb =>
    (ht b).clear hj (hx t hxt) (hclear b hb)⟩

theorem MarksOne.of_touched (h : MarksOne places j o x)
    (ht : ∀ b, Place.Touched s (places b) (places' b)) (hj : j ≠ s.session)
    (hx : ∀ t, x = some t → t < s.ended) : MarksOne places' j o x := by
  intro a g hclaim hdefault
  obtain ⟨ho, hcleared⟩ := h a g (((ht a).claim_iff hj).1 hclaim) hdefault
  exact ⟨ho, hcleared.of_touched ht hj hx⟩

/-- What a session relies on, other sessions leave. -/
theorem Stage.of_touched {k : Worker} (h : Stage places j o k)
    (ht : ∀ b, Place.Touched s (places b) (places' b)) (hj : j ≠ s.session)
    (hx : ∀ t, k.cleared = some t → t < s.ended) : Stage places' j o k := by
  cases h with
  | preparing hscan hrest hunmarked hforeign hcleared =>
    exact .preparing hscan hrest (fun b => (ht b).unmarked hj (hunmarked b))
      (fun b => (ht b).foreign hj (hforeign b)) fun keep hkeep =>
        (hcleared keep hkeep).of_touched ht hj hx
  | clearing hscan hrest hrefused hnext howner hunmarked hcleared =>
    exact .clearing hscan hrest hrefused hnext howner (fun b => (ht b).unmarked hj (hunmarked b))
      (hcleared.of_touched ht hj hx)
  | replacing hscan hrest hnext hmarks hdefault htodo =>
    exact .replacing hscan hrest hnext (hmarks.of_touched ht hj hx)
      (fun hd => ⟨(hdefault hd).1, (hdefault hd).2.of_touched ht hj hx⟩) htodo
  | writing hscan hrest hgone hnext hmarks =>
    exact .writing hscan hrest hgone hnext (hmarks.of_touched ht hj hx)
  | written hscan hrest hmarks => exact .written hscan hrest (hmarks.of_touched ht hj hx)

/-! ### Commits and rollbacks -/

theorem marksOne_rollback : MarksOne (fun b => (places b).rollback i) i o x :=
  fun _ _ hclaim => absurd hclaim Place.claim_rollback

theorem marksOne_commit : MarksOne (fun b => (places b).commit s) s.session o x :=
  fun _ _ hclaim => absurd hclaim Place.claim_commit

theorem Cleared.commit (h : Cleared places s.session o x but)
    (hu : ∀ b, (places b).Unmarked s.session) :
    Cleared (fun b => (places b).commit s) s.session o x but := by
  obtain ⟨workspace, user, t, ho, hx, hforeign, hclear⟩ := h
  exact ⟨workspace, user, t, ho, hx, fun b => (hforeign b).commit (hu b), fun b hb =>
    (hclear b hb).commit⟩

end

/-! ### Claims -/

section

variable {c : Contention} {i : Nat} {o : Option (String × String)} {x : Option Nat}
  {but : Int → Prop} {id : Int} {h : Option FilterHead}

theorem Cleared.claim (hc : Cleared c.places i o x but)
    (hh : but id ∨ ∀ g, h = some g → g.isDefault = false) :
    Cleared (c.claim i id h).places i o x but := by
  obtain ⟨workspace, user, t, ho, hx, hforeign, hclear⟩ := hc
  refine ⟨workspace, user, t, ho, hx, fun b v s hv => ?_, fun b hb => ?_⟩
  · exact hforeign b v s (Contention.stored_claim b ▸ hv)
  · rcases c.claim_eq i id h b with ⟨rfl, heq⟩ | ⟨-, heq⟩ <;> rw [heq]
    · exact Place.clear_claim (hh.resolve_left hb)
    · exact hclear b hb

/-- A row that is changed but not marked. -/
theorem MarksOne.claim (hm : MarksOne c.places i o x) (hh : ∀ g, h = some g → g.isDefault = false) :
    MarksOne (c.claim i id h).places i o x := by
  intro a g hclaim hdefault
  rcases c.claim_eq i id h a with ⟨rfl, heq⟩ | ⟨-, heq⟩ <;> rw [heq] at hclaim
  · have hg : h = some g := (Claim.mk.inj (Option.some.inj hclaim)).2
    rw [hh g hg] at hdefault
    cases hdefault
  · obtain ⟨ho, hcleared⟩ := hm a g hclaim hdefault
    exact ⟨ho, hcleared.claim (.inr hh)⟩

/-- The only row that is marked. -/
theorem marksOne_claim {workspace user : String} {g : FilterHead}
    (hc : Cleared c.places i o x (· = id)) (ho : o = some (workspace, user))
    (hg : g.workspace = workspace ∧ g.user = user) :
    MarksOne (c.claim i id (some g)).places i o x := by
  obtain ⟨rfl, rfl⟩ := hg
  intro a k hclaim hdefault
  rcases c.claim_eq i id (some g) a with ⟨rfl, heq⟩ | ⟨hne, heq⟩ <;> rw [heq] at hclaim
  · cases hclaim
    exact ⟨ho, hc.claim (.inl rfl)⟩
  · obtain ⟨_, _, _, _, _, _, hclear⟩ := hc
    rw [(hclear a hne).unmarked k hclaim] at hdefault
    cases hdefault

theorem unmarked_claim (hu : ∀ b, (c.places b).Unmarked i)
    (hh : ∀ g, h = some g → g.isDefault = false) (b : Int) :
    ((c.claim i id h).places b).Unmarked i := by
  intro g hclaim
  rcases c.claim_eq i id h b with ⟨rfl, heq⟩ | ⟨-, heq⟩ <;> rw [heq] at hclaim
  · exact hh g (Claim.mk.inj (Option.some.inj hclaim)).2
  · exact hu b g hclaim

end

/-! ### Stages -/

section

variable {c : Contention} {i : Nat} {o : Option (String × String)} {k : Worker} {scan : Scan}
  {s : Statement} {id : Int} {next : Except DatabaseFault s.Reply → Statements}

/-- What a session has marked, wherever it is. -/
theorem Stage.marksOne {places : Int → Place} {o : Option (String × String)}
    (h : Stage places i o k) : MarksOne places i o k.cleared := by
  cases h with
  | preparing _ _ hunmarked => exact marksOne_of_unmarked hunmarked
  | clearing _ _ _ _ _ hunmarked => exact marksOne_of_unmarked hunmarked
  | replacing _ _ _ hmarks => exact hmarks
  | writing _ _ _ _ hmarks => exact hmarks
  | written _ _ hmarks => exact hmarks

/-- A session that is refused a statement saves nothing. -/
theorem Stage.harmless {places : Int → Place} {o : Option (String × String)} {s : Statement}
    {next : Except DatabaseFault s.Reply → Statements} (h : Stage places i o k)
    (hrest : k.rest = .step s next) (f : DatabaseFault) : Harmless (next (.error f)) := by
  cases h with
  | preparing _ hprepares =>
    rw [hrest] at hprepares
    cases hprepares with
    | clear _ hrefused => exact hrefused f
    | insert _ hnext => exact hnext _
    | update _ hnext => exact hnext _
    | begin hrefused => exact hrefused f
  | clearing _ heq hrefused =>
    cases hrest.symm.trans heq
    exact hrefused f
  | replacing _ heq hnext =>
    cases hrest.symm.trans heq
    exact hnext _
  | writing _ heq _ hnext =>
    cases hrest.symm.trans heq
    exact hnext _
  | written _ hharmless =>
    rw [hrest] at hharmless
    exact hharmless.2 _

/-- The filters that are left to be cleared, and the one that has been visited. -/
theorem but_left {keep : Option Int} {todo : List Int} (b : Int) (hb : keep = some b ∨ b ∈ todo) :
    (keep = some b ∨ b ∈ todo.filter (· != id)) ∨ b = id := by
  by_cases heq : b = id
  · exact .inr heq
  · exact .inl (hb.imp_right fun hmem => List.mem_filter.2 ⟨hmem, bne_iff_ne.2 heq⟩)

/-- A row that is not meant is passed. -/
theorem Stage.passed (h : Stage c.places i o k) (hc : c.Indexed) (hscan : k.scan = some scan)
    (hrest : k.rest = .step s next) (hit : s.hit? ((c.places id).seen i) = none) :
    Stage c.places i o { k with scan := some ⟨scan.todo.filter (· != id), scan.changed⟩ } := by
  cases h with
  | preparing hnone => exact nomatch hnone.symm.trans hscan
  | written hnone => exact nomatch hnone.symm.trans hscan
  | clearing hscan' heq hrefused hnext howner hunmarked hcleared =>
    cases hscan.symm.trans hscan'
    cases hrest.symm.trans heq
    refine .clearing rfl hrest hrefused hnext howner hunmarked (hcleared.step but_left ?_)
    intro hkept _ _ t ho
    cases howner.symm.trans ho
    refine Place.clear_of_seen (hunmarked id) fun g hg => ?_
    refine isDefaultOf_of_isCleared (applies_of_hit?_eq_none hit rfl hg) fun hkeep => hkept (.inl ?_)
    rw [hkeep, hc.id_of_seen hg]
  | replacing hscan' heq hnext hmarks hdefault htodo =>
    cases hscan.symm.trans hscan'
    exact .replacing rfl heq hnext hmarks hdefault fun a ha => htodo a (List.mem_filter.1 ha).1
  | writing hscan' heq hgone hnext hmarks => exact .writing rfl heq hgone hnext hmarks

/-- A row that is meant is changed. -/
theorem Stage.changed (h : Stage c.places i o k) (hscan : k.scan = some scan)
    (hrest : k.rest = .step s next) (htodo : id ∈ scan.todo) {g : FilterHead}
    {r : Option FilterHead} (hit : s.hit? ((c.places id).seen i) = some (g, r)) :
    Stage (c.claim i id r).places i o
      { k with scan := some ⟨scan.todo.filter (· != id), scan.changed ++ [g]⟩ } := by
  obtain ⟨hseen, ch, hch, happlies, rfl⟩ := hit?_eq_some.1 hit
  cases h with
  | preparing hnone => exact nomatch hnone.symm.trans hscan
  | written hnone => exact nomatch hnone.symm.trans hscan
  | clearing hscan' heq hrefused hnext howner hunmarked hcleared =>
    cases hscan.symm.trans hscan'
    cases hrest.symm.trans heq
    cases hch
    have hh : ∀ f, some { g with isDefault := false } = some f → f.isDefault = false := by
      rintro f ⟨⟩
      rfl
    refine .clearing rfl hrest hrefused hnext howner (unmarked_claim hunmarked hh)
      ((hcleared.claim (.inr hh)).step but_left fun _ _ _ t ho => ?_)
    rcases c.claim_eq i id _ id with ⟨-, hplace⟩ | ⟨hne, -⟩
    · rw [hplace]
      exact Place.clear_claim hh
    · exact absurd rfl hne
  | replacing hscan' heq hnext hmarks hdefault hids =>
    cases hscan.symm.trans hscan'
    cases hrest.symm.trans heq
    cases hch
    obtain rfl := hids id htodo
    obtain ⟨-, hworkspace, huser⟩ := Tables.isAt_iff.1 happlies
    refine .replacing rfl hrest hnext ?_ (fun hd => ⟨(hdefault hd).1, (hdefault hd).2.claim (.inl rfl)⟩)
      fun a ha => hids a (List.mem_filter.1 ha).1
    cases hd : FilterInput.isDefault _ with
    | true => exact marksOne_claim (hdefault hd).2 (hdefault hd).1 ⟨hworkspace, huser⟩
    | false =>
      refine hmarks.claim ?_
      rintro f ⟨⟩
      exact hd
  | writing hscan' heq hgone hnext hmarks =>
    cases hrest.symm.trans heq
    have hnone := hgone ch g hch
    rw [hnone]
    exact .writing rfl heq hgone hnext (hmarks.claim nofun)

end

/-! ## The sessions of the calls -/

theorem harmless_bind {α β : Type} {p : Program Statement (fun s => Except DatabaseFault s.Reply) α}
    {f : α → Program Statement (fun s => Except DatabaseFault s.Reply) β} (hp : Harmless p)
    (hf : ∀ a, Harmless (f a)) : Harmless (p.bind f) := by
  induction p with
  | done a => exact hf a
  | step s next ih => exact ⟨hp.1, fun r => ih r (hp.2 r)⟩

namespace Session

variable {α β : Type} {x : Session α} {f : α → Session β} {s : Statement}

theorem harmless_bind (hx : Harmless x.run) (hf : ∀ a, Harmless (f a).run) :
    Harmless (x >>= f).run := by
  refine Postgres.harmless_bind hx fun r => ?_
  cases r with
  | ok a => exact hf a
  | error e => trivial

theorem harmless_ask (hs : s.saves = false) : Harmless (ask s).run := ⟨hs, fun _ => trivial⟩

theorem harmless_one (a : Option α) : Harmless (one a).run := by
  cases a <;> trivial

/-- Nothing is asked about no filters. -/
theorem harmless_unless_empty {γ : Type} {ids : List γ} {x : Session (List α)}
    (hx : Harmless x.run) : Harmless (if ids.isEmpty then Pure.pure [] else x : Session _).run := by
  split
  · trivial
  · exact hx

theorem harmless_statements (hx : Harmless x.run) : Harmless x.statements :=
  Postgres.harmless_bind hx fun _ => trivial

/-- A session that goes on with the reply to a statement. -/
theorem prepares_ask {o : Option (String × String)} {kept : Option (Option Int)}
    {f : s.Reply → Session β} (h : Prepares o kept (.step s fun
      | .ok r => (f r).statements
      | .error _ => .done ())) : Prepares o kept (ask s >>= f).statements := by
  have heq : (ask s >>= f).statements = .step s fun
      | .ok r => (f r).statements
      | .error _ => .done () := by
    refine congrArg (Program.step s) (funext fun r => ?_)
    cases r <;> rfl
  rwa [heq]

/-- What follows on a statement that was refused is nothing. -/
theorem harmless_reply {f : s.Reply → Session β} (hf : ∀ a, Harmless (f a).run)
    (r : Except DatabaseFault s.Reply) : Harmless (match r with
      | .ok r => (f r).statements
      | .error _ => .done ()) := by
  cases r with
  | ok a => exact harmless_statements (hf a)
  | error e => trivial

theorem harmless_insertConditions (filter : Int) (position : Nat) (cs : List ConditionInput) :
    Harmless (insertConditions filter position cs).run := by
  induction cs generalizing position with
  | nil => trivial
  | cons c cs ih =>
    refine harmless_bind (harmless_ask rfl) fun reply => harmless_bind (harmless_one reply) fun id => ?_
    exact harmless_bind (ih (position + 1)) fun rest => trivial

theorem prepares_makeRoom {o : Option (String × String)} {workspace user : String}
    {keep : Option Int} {input : FilterInput} {f : Unit → Session β}
    (ho : input.isDefault = true → o = some (workspace, user))
    (hf : Prepares o (if input.isDefault then some keep else none) (f ()).statements) :
    Prepares o none (makeRoom workspace user keep input >>= f).statements := by
  unfold makeRoom
  cases hd : input.isDefault with
  | true =>
    rw [hd] at hf
    exact prepares_ask (s := .clearDefault workspace user keep)
      (.clear (ho hd) (fun _ => trivial) hf)
  | false =>
    rw [hd] at hf
    exact hf

theorem prepares_createFilter (workspace user : String) (input : FilterInput) :
    Prepares (StoreCall.createFilter workspace user input).default? none
      (createFilter workspace user input).statements := by
  have ho : input.isDefault = true →
      (StoreCall.createFilter workspace user input).default? = some (workspace, user) :=
    fun hd => if_pos hd
  refine prepares_ask (s := .beginTransaction) (.begin (fun _ => trivial) ?_)
  refine prepares_makeRoom ho (prepares_ask (s := .insertFilter workspace user input) ?_)
  refine .insert (fun hd => ⟨ho hd, if_pos hd⟩) (harmless_reply fun reply => ?_)
  refine harmless_bind (harmless_one reply) fun saved => ?_
  refine harmless_bind (harmless_insertConditions ..) fun conditions => ?_
  exact harmless_bind (harmless_ask rfl) fun _ => trivial

theorem prepares_updateFilter (workspace user : String) (id : Int) (input : FilterInput) :
    Prepares (StoreCall.updateFilter workspace user id input).default? none
      (updateFilter workspace user id input).statements := by
  have ho : input.isDefault = true →
      (StoreCall.updateFilter workspace user id input).default? = some (workspace, user) :=
    fun hd => if_pos hd
  refine prepares_ask (s := .beginTransaction) (.begin (fun _ => trivial) ?_)
  refine prepares_makeRoom ho (prepares_ask (s := .updateFilter workspace user id input) ?_)
  refine .update (fun hd => ⟨ho hd, if_pos hd⟩) (harmless_reply fun reply => ?_)
  cases reply with
  | none => exact harmless_bind (harmless_ask rfl) fun _ => trivial
  | some createdAt =>
    refine harmless_bind (harmless_ask rfl) fun _ => ?_
    refine harmless_bind (harmless_insertConditions ..) fun conditions => ?_
    exact harmless_bind (harmless_ask rfl) fun _ => trivial

/-- Only creating and replacing save a filter. -/
theorem prepares_or_harmless (c : StoreCall) :
    Prepares c.default? none (session c).statements ∨ Harmless (session c).statements := by
  cases c with
  | createFilter workspace user input => exact .inl (prepares_createFilter workspace user input)
  | updateFilter workspace user id input => exact .inl (prepares_updateFilter workspace user id input)
  | ping => exact .inr (harmless_statements (harmless_ask rfl))
  | isMember workspace user =>
    exact .inr (harmless_statements (harmless_bind (harmless_ask rfl) harmless_one))
  | listTasks workspace page filter =>
    refine .inr (harmless_statements ?_)
    show Harmless (listTasks workspace page filter).run
    unfold listTasks
    split
    · trivial
    · refine harmless_bind (harmless_ask rfl) fun tasks => harmless_bind (harmless_ask rfl) ?_
      exact fun total => harmless_bind (harmless_one total) fun _ => trivial
  | listFilters workspace user =>
    refine .inr (harmless_statements (harmless_bind (harmless_ask rfl) fun heads => ?_))
    exact harmless_bind (harmless_unless_empty (harmless_ask rfl)) fun _ => trivial
  | ownedIds workspace user ids =>
    exact .inr (harmless_statements (harmless_unless_empty (harmless_ask rfl)))
  | getFilter workspace user id =>
    refine .inr (harmless_statements (harmless_bind (harmless_ask rfl) fun head => ?_))
    cases head with
    | none => trivial
    | some head => exact harmless_bind (harmless_unless_empty (harmless_ask rfl)) fun _ => trivial
  | deleteFilter workspace user id =>
    exact .inr (harmless_statements (harmless_bind (harmless_ask rfl) fun _ => trivial))
  | fetchRows ids => exact .inr (harmless_statements (harmless_unless_empty (harmless_ask rfl)))

end Session

end Postgres

end TaskBoard
