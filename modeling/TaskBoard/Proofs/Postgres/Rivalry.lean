import TaskBoard.Proofs.Postgres.Marks

/-!
# Two default filters

Only one default filter per user and workspace is wanted.  Sessions side by side can leave two:
each takes the marks off before the other one is committed, so neither sees the row that the other
has marked, and waiting for a row in between does not help.

There is no other way.  A session that began to take the marks off after the other was committed
has found the row of the other and changed it.

    every turn leaves all sessions in order                       (Sound.turn)
    two default filters were saved side by side                   (defaults_overlap)
    that can happen                                               (not_oneDefault)
-/

namespace TaskBoard

/-- No owner has two default filters. -/
def OneDefault (hs : List FilterHead) : Prop :=
  ∀ a ∈ hs, ∀ b ∈ hs, a.isDefault = true → b.isDefaultOf a.workspace a.user = true → a.id = b.id

instance (hs : List FilterHead) : Decidable (OneDefault hs) :=
  inferInstanceAs (Decidable (∀ a ∈ hs, ∀ b ∈ hs, a.isDefault = true →
    b.isDefaultOf a.workspace a.user = true → a.id = b.id))

namespace Postgres

/-- The owner for whom a session saves a default filter. -/
def ownerOf (calls : List StoreCall) (i : Nat) : Option (String × String) :=
  calls[i]?.bind StoreCall.default?

/-- Two sessions saved these versions as default filters of the owner, and each began to take the
marks off before the other was committed. -/
def SideBySide (calls : List StoreCall) (owner : String × String) (a b : Version) : Prop :=
  ∃ s t x y, a.stamp = some s ∧ b.stamp = some t ∧ s.session ≠ t.session ∧
    ownerOf calls s.session = some owner ∧
    ownerOf calls t.session = some owner ∧
    s.began = some x ∧ t.began = some y ∧ x < t.ended ∧ y < s.ended

/-- What has been committed. -/
structure Settled (calls : List StoreCall) (places : Int → Place) (turns : Nat) : Prop where
  /-- Stamps tell who has marked a filter. -/
  signed : ∀ b v s, (places b).stored = some v → v.stamp = some s → s.ended < turns ∧
    ∀ workspace user, v.head.isDefaultOf workspace user = true →
      ownerOf calls s.session = some (workspace, user) ∧
        ∃ x, s.began = some x ∧ x < s.ended
  apart : ∀ workspace user a b va vb, a ≠ b → (places a).stored = some va →
    (places b).stored = some vb → va.head.isDefaultOf workspace user = true →
    vb.head.isDefaultOf workspace user = true → SideBySide calls (workspace, user) va vb

/-- All that the sessions rely on. -/
structure Contention.Sound (calls : List StoreCall) (c : Contention) : Prop where
  indexed : c.Indexed
  settled : Settled calls c.places c.turns
  stages : ∀ i k, c.workers[i]? = some k →
    Stage c.places i (ownerOf calls i) k
  began : ∀ (i : Nat) (k : Worker) x, c.workers[i]? = some k → k.cleared = some x → x < c.turns

/-! ## Commits -/

section

variable {calls : List StoreCall} {places places' : Int → Place} {turns turns' : Nat} {i : Nat}
  {x : Option Nat} {a b : Int} {workspace user : String}

theorem SideBySide.symm {owner : String × String} {a b : Version} (h : SideBySide calls owner a b) :
    SideBySide calls owner b a := by
  obtain ⟨s, t, x, y, hs, ht, hne, hos, hot, hx, hy, hxt, hys⟩ := h
  exact ⟨t, s, y, x, ht, hs, hne.symm, hot, hos, hy, hx, hys, hxt⟩

/-- What is there for all is settled until something is committed. -/
theorem Settled.congr (h : Settled calls places turns)
    (hsame : ∀ b, (places' b).stored = (places b).stored) (hturns : turns ≤ turns') :
    Settled calls places' turns' := by
  refine ⟨fun b v s hv hs => ?_, fun workspace user a b va vb hab ha hb => ?_⟩
  · obtain ⟨hended, hsigned⟩ := h.signed b v s (hsame b ▸ hv) hs
    exact ⟨Nat.lt_of_lt_of_le hended hturns, hsigned⟩
  · exact h.apart workspace user a b va vb hab (hsame a ▸ ha) (hsame b ▸ hb)

/-- Whatever is marked when a session is committed was saved side by side with it. -/
theorem Settled.sideBySide (h : Settled calls places turns)
    (hm : MarksOne places i (ownerOf calls i) x) (hx : ∀ t, x = some t → t < turns)
    {g : FilterHead} {v : Version} (hab : a ≠ b) (hclaim : (places a).claim = some ⟨i, some g⟩)
    (hg : g.isDefaultOf workspace user = true) (hv : (places b).stored = some v)
    (hnone : ∀ h, (places b).claim ≠ some ⟨i, h⟩) (hmark : v.head.isDefaultOf workspace user = true) :
    SideBySide calls (workspace, user) ⟨g, some ⟨i, x, turns⟩⟩ v := by
  obtain ⟨rfl, rfl, hdefault⟩ := isDefaultOf_iff.1 hg
  obtain ⟨ho, ws, us, t, ho', rfl, hforeign, hclear⟩ := hm a g hclaim hdefault
  obtain ⟨rfl, rfl⟩ := Prod.mk.inj (Option.some.inj (ho.symm.trans ho'))
  rcases (hclear b hab.symm).later v hv hmark with ⟨h, hclaim⟩ | ⟨s, hs, hlt⟩
  · exact absurd hclaim (hnone h)
  · obtain ⟨hended, hsigned⟩ := h.signed b v s hv hs
    obtain ⟨howner, y, hy, hlt'⟩ := hsigned _ _ hmark
    have hne : i ≠ s.session := (hforeign b v s hv (isDefaultOf_iff.1 hmark).2.2 hs).symm
    exact ⟨_, s, t, y, rfl, hs, hne, ho, howner, rfl, hy, hlt, Nat.lt_trans hlt' hended⟩

theorem Settled.commit (h : Settled calls places turns)
    (hm : MarksOne places i (ownerOf calls i) x) (hx : ∀ t, x = some t → t < turns) :
    Settled calls (fun b => (places b).commit ⟨i, x, turns⟩) (turns + 1) := by
  constructor
  · intro b v s hv hs
    rcases Place.stored_commit hv with ⟨hv, -⟩ | ⟨g, hclaim, rfl⟩
    · obtain ⟨hended, hsigned⟩ := h.signed b v s hv hs
      exact ⟨Nat.lt_succ_of_lt hended, hsigned⟩
    · cases hs
      refine ⟨Nat.lt_succ_self turns, fun workspace user hg => ?_⟩
      obtain ⟨rfl, rfl, hdefault⟩ := isDefaultOf_iff.1 hg
      obtain ⟨ho, _, _, t, _, rfl, -⟩ := hm b g hclaim hdefault
      exact ⟨ho, t, rfl, hx t rfl⟩
  · intro workspace user a b va vb hab ha hb hma hmb
    rcases Place.stored_commit ha with ⟨ha, hnoa⟩ | ⟨ga, hca, rfl⟩ <;>
      rcases Place.stored_commit hb with ⟨hb, hnob⟩ | ⟨gb, hcb, rfl⟩
    · exact h.apart workspace user a b va vb hab ha hb hma hmb
    · exact (h.sideBySide hm hx hab.symm hcb hmb ha hnoa hma).symm
    · exact h.sideBySide hm hx hab hca hma hb hnob hmb
    · -- a session marks one filter only
      obtain ⟨-, _, _, _, _, _, -, hclear⟩ := hm a ga hca (isDefaultOf_iff.1 hma).2.2
      have hmark := (isDefaultOf_iff.1 hmb).2.2
      rw [(hclear b hab.symm).unmarked gb hcb] at hmark
      cases hmark

end

namespace Contention

variable {calls : List StoreCall} {w : Surroundings} {c c' : Contention} {i : Nat} {k k' : Worker}

/-! ## Turns -/

/-- The session `i` has had its turn, and all is in order. -/
structure Follows (calls : List StoreCall) (i : Nat) (k : Worker) (c c' : Contention) : Prop where
  indexed : c'.Indexed
  settled : Settled calls c'.places (c.turns + 1)
  touched : ∀ b, (c.places b).Touched (c.stamp i k) (c'.places b)
  worker : ∃ k' : Worker, c'.workers = c.workers.set i k' ∧
    (k'.cleared = k.cleared ∨ k'.cleared = some c.turns) ∧
    Stage c'.places i (ownerOf calls i) k'

theorem Sound.put (h : c.Sound calls)
    (hcleared : k'.cleared = k.cleared ∨ k'.cleared = some c.turns)
    (hstage : Stage c.places i (ownerOf calls i) k') :
    Follows calls i k c (c.put i k') :=
  ⟨h.indexed.put, h.settled.congr (fun _ => rfl) (Nat.le_succ _), fun _ => .same, k', rfl, hcleared,
    hstage⟩

theorem Sound.stay (h : c.Sound calls) (hk : c.workers[i]? = some k) : Follows calls i k c c := by
  have hput : c.put i k = c := by
    obtain ⟨hi, rfl⟩ := List.getElem?_eq_some_iff.1 hk
    show { c with workers := c.workers.set i c.workers[i] } = c
    rw [List.set_getElem_self]
  have hf := h.put (.inl rfl) (h.stages i k hk)
  rwa [hput] at hf

/-- A transaction is dropped, and nothing is saved after it. -/
theorem Sound.rollback (h : c.Sound calls) (hcleared : k'.cleared = k.cleared)
    (hscan : k'.scan = none) (hrest : Harmless k'.rest) :
    Follows calls i k c ((c.rollback i).put i k') :=
  ⟨h.indexed.rollback.put, h.settled.congr (fun _ => Place.stored_rollback ..) (Nat.le_succ _),
    fun _ => .rollback, k', rfl, .inl hcleared, .written hscan hrest marksOne_rollback⟩

theorem Sound.commit (h : c.Sound calls) (hk : c.workers[i]? = some k)
    (hm : MarksOne c.places i (ownerOf calls i) k.cleared)
    (hcleared : k'.cleared = k.cleared)
    (hstage : Stage (c.commit i k).places i (ownerOf calls i) k') :
    Follows calls i k c ((c.commit i k).put i k') :=
  ⟨h.indexed.commit.put, h.settled.commit hm fun t => h.began i k t hk, fun _ => .commit, k', rfl,
    .inl hcleared, hstage⟩

theorem Sound.claim (h : c.Sound calls) {id : Int} {g : Option FilterHead} (hid : id ∈ c.ids)
    (hg : ∀ f, g = some f → f.id = id) (hfree : (c.places id).isHeld i = false)
    (hcleared : k'.cleared = k.cleared)
    (hstage : Stage (c.claim i id g).places i (ownerOf calls i) k') :
    Follows calls i k c ((c.claim i id g).put i k') :=
  ⟨(h.indexed.claim hid hg).put, h.settled.congr stored_claim (Nat.le_succ _),
    touched_claim rfl hfree, k', rfl, .inl hcleared, hstage⟩

theorem Sound.insert (h : c.Sound calls) {g : FilterHead} (hg : g.id = c.nextFilter)
    (hcleared : k'.cleared = k.cleared)
    (hstage : Stage (c.claim i c.nextFilter (some g)).places i
      (ownerOf calls i) k') :
    Follows calls i k c ((c.insert i g).put i k') := by
  have hfree : (c.places c.nextFilter).isHeld i = false := by
    rw [h.indexed.empty_next]
    rfl
  exact ⟨(h.indexed.insert hg).put, h.settled.congr stored_claim (Nat.le_succ _),
    touched_claim rfl hfree, k', rfl, .inl hcleared, hstage⟩

/-- All stays in order. -/
theorem Follows.sound (hf : Follows calls i k c c') (h : c.Sound calls)
    (hk : c.workers[i]? = some k) : Sound calls { c' with turns := c.turns + 1 } := by
  obtain ⟨k', hworkers, hcleared, hstage⟩ := hf.worker
  have hi : i < c.workers.length := (List.getElem?_eq_some_iff.1 hk).1
  have hcases : ∀ j l, c'.workers[j]? = some l → (j = i ∧ l = k') ∨ j ≠ i ∧ c.workers[j]? = some l := by
    intro j l hl
    rw [hworkers] at hl
    by_cases hj : j = i
    · subst hj
      rw [List.getElem?_set_self hi] at hl
      exact .inl ⟨rfl, (Option.some.inj hl).symm⟩
    · rw [List.getElem?_set_ne (Ne.symm hj)] at hl
      exact .inr ⟨hj, hl⟩
  refine ⟨⟨hf.indexed.stored, hf.indexed.claimed, hf.indexed.known, hf.indexed.ahead⟩, hf.settled,
    fun j l hl => ?_, fun j l x hl hx => ?_⟩
  · rcases hcases j l hl with ⟨rfl, rfl⟩ | ⟨hj, hl⟩
    · exact hstage
    · exact (h.stages j l hl).of_touched hf.touched hj fun t => h.began j l t hl
  · show x < c.turns + 1
    rcases hcases j l hl with ⟨rfl, rfl⟩ | ⟨-, hl⟩
    · rcases hcleared with hsame | hnow
      · exact Nat.lt_succ_of_lt (h.began j k x hk (hsame.symm.trans hx))
      · obtain rfl : c.turns = x := Option.some.inj (hnow.symm.trans hx)
        exact Nat.lt_succ_self _
    · exact Nat.lt_succ_of_lt (h.began j l x hl hx)

/-! ### Statements that begin -/

/-- A session that saves begins its next statement. -/
theorem Sound.begin_preparing (h : c.Sound calls) (hk : c.workers[i]? = some k)
    {kept : Option (Option Int)} (hscan : k.scan = none)
    (hrest : Prepares (ownerOf calls i) kept k.rest)
    (hunmarked : ∀ b, (c.places b).Unmarked i) (hforeign : ∀ b, (c.places b).Foreign i)
    (hcleared : ∀ keep, kept = some keep →
      Cleared c.places i (ownerOf calls i) k.cleared fun b => keep = some b) :
    Follows calls i k c (c.begin w i k) := by
  obtain ⟨rest, scan, inTransaction, cleared⟩ := k
  obtain rfl : scan = none := hscan
  cases hrest with
  | @clear _ workspace user keep next howner hrefused hnext =>
    refine h.put (.inr rfl) (.clearing rfl rfl hrefused hnext howner hunmarked ?_)
    refine ⟨workspace, user, c.turns, howner, rfl, hforeign, fun b hb => ?_⟩
    rw [not_or] at hb
    refine Place.clear_of_seen (hunmarked b) fun g hg => ?_
    refine isDefaultOf_of_isCleared (h.indexed.applies_of_not_found hb.2 hg) fun hkeep => hb.1 ?_
    rw [hkeep, h.indexed.id_of_seen hg]
  | @insert _ workspace user input next hdefault hnext =>
    refine h.insert rfl rfl (.writing rfl rfl nofun hnext ?_)
    cases hd : input.isDefault with
    | true =>
      obtain ⟨howner, rfl⟩ := hdefault hd
      exact marksOne_claim ((hcleared _ rfl).mono nofun) howner ⟨rfl, rfl⟩
    | false =>
      refine (marksOne_of_unmarked hunmarked).claim ?_
      rintro g ⟨⟩
      exact hd
  | @update _ workspace user id input next hdefault hnext =>
    refine h.put (.inl rfl) (.replacing rfl rfl hnext (marksOne_of_unmarked hunmarked) ?_ ?_)
    · intro hd
      obtain ⟨howner, rfl⟩ := hdefault hd
      exact ⟨howner, (hcleared _ rfl).mono fun b hb => (Option.some.inj hb).symm⟩
    · intro a ha
      obtain ⟨g, hg, happlies⟩ := exists_of_mem_found ha
      rw [← h.indexed.id_of_seen hg, (Tables.isAt_iff.1 happlies).1]
  | begin hrefused hnext =>
    exact h.put (.inl rfl) (.preparing rfl hnext hunmarked hforeign hcleared)

/-- A session that saves nothing any more goes on. -/
theorem Sound.begin_written (h : c.Sound calls) (hk : c.workers[i]? = some k)
    (hscan : k.scan = none) (hrest : Harmless k.rest)
    (hmarks : MarksOne c.places i (ownerOf calls i) k.cleared) :
    Follows calls i k c (c.begin w i k) := by
  obtain ⟨rest, scan, inTransaction, cleared⟩ := k
  obtain rfl : scan = none := hscan
  cases rest with
  | done => exact h.rollback rfl rfl trivial
  | step s next =>
    obtain ⟨hsaves, hnext⟩ := hrest
    cases s with
    | clearDefault => cases hsaves
    | insertFilter => cases hsaves
    | updateFilter => cases hsaves
    | beginTransaction => exact h.put (.inl rfl) (.written rfl (hnext _) hmarks)
    | commit => exact h.commit hk hmarks rfl (.written rfl (hnext _) marksOne_commit)
    | rollback => exact h.rollback rfl rfl (hnext _)
    | deleteFilter workspace user id =>
      refine h.put (.inl rfl) (.writing rfl rfl ?_ hnext hmarks)
      rintro ch g ⟨⟩
      rfl
    | _ => exact h.put (.inl rfl) (.written rfl (hnext _) hmarks)

theorem Sound.begin (h : c.Sound calls) (hk : c.workers[i]? = some k) (hscan : k.scan = none) :
    Follows calls i k c (c.begin w i k) := by
  cases h.stages i k hk with
  | preparing hscan hrest hunmarked hforeign hcleared =>
    exact h.begin_preparing hk hscan hrest hunmarked hforeign hcleared
  | written hscan hrest hmarks => exact h.begin_written hk hscan hrest hmarks
  | clearing hsome => exact nomatch hscan.symm.trans hsome
  | replacing hsome => exact nomatch hscan.symm.trans hsome
  | writing hsome => exact nomatch hscan.symm.trans hsome

/-! ### Rows that are visited -/

theorem Sound.visit (h : c.Sound calls) (hk : c.workers[i]? = some k) (id : Int) :
    Follows calls i k c (c.visit i k id) := by
  unfold Contention.visit
  split
  · next scan s next hscan hrest =>
    split
    · next hif =>
      rw [Bool.and_eq_true, Bool.not_eq_true'] at hif
      have hstage := h.stages i k hk
      split
      · next g r hit =>
        obtain ⟨hseen, ch, hch, -, rfl⟩ := hit?_eq_some.1 hit
        have hid := h.indexed.id_of_seen hseen
        refine h.claim (h.indexed.mem_of_seen hseen) (fun f hf => ?_) hif.2 rfl
          (hstage.changed hscan hrest (List.contains_iff_mem.1 hif.1) hit)
        rw [← hid]
        exact id_of_result hch hf
      · next hit => exact h.put (.inl rfl) (hstage.passed h.indexed hscan hrest hit)
    · exact h.stay hk
  · exact h.stay hk

/-! ### Statements that end -/

theorem Sound.refuse (h : c.Sound calls) (hk : c.workers[i]? = some k) (f : DatabaseFault) :
    Follows calls i k c (c.refuse i k f) := by
  unfold Contention.refuse
  split
  · exact h.stay hk
  · next s next hrest =>
    exact h.rollback rfl rfl ((h.stages i k hk).harmless hrest f)

/-- Outside a transaction, what a statement has done is committed with it. -/
theorem Sound.settle (h : c.Sound calls) (hk : c.workers[i]? = some k)
    (hcleared : k'.cleared = k.cleared)
    (hstage : Stage c.places i (ownerOf calls i) k')
    (hcommit : Stage (c.commit i k).places i (ownerOf calls i) k') :
    Follows calls i k c ((if k.inTransaction then c else c.commit i k).put i k') := by
  split
  · exact h.put (.inl hcleared) hstage
  · exact h.commit hk ((h.stages i k hk).marksOne) hcleared hcommit

/-- Once all rows have been visited, the filters of the owner are cleared. -/
theorem Sound.finish_clearing (h : c.Sound calls) (hk : c.workers[i]? = some k) {keep : Option Int}
    {todo : List Int} {rest : Statements} (hdone : todo.isEmpty = true)
    (hrest : Prepares (ownerOf calls i) (some keep) rest) (hunmarked : ∀ b, (c.places b).Unmarked i)
    (hcleared : Cleared c.places i (ownerOf calls i) k.cleared fun b => keep = some b ∨ b ∈ todo) :
    Follows calls i k c ((if k.inTransaction then c else c.commit i k).put i
      { k with rest := rest, scan := none }) := by
  obtain rfl := List.isEmpty_iff.1 hdone
  have hall : Cleared c.places i (ownerOf calls i) k.cleared (keep = some ·) :=
    hcleared.mono fun b hb => hb.resolve_right List.not_mem_nil
  refine h.settle hk rfl (.preparing rfl hrest hunmarked hcleared.foreign ?_)
    (.preparing rfl hrest (fun b g hclaim => absurd hclaim Place.claim_commit)
      (hall.commit (s := c.stamp i k) hunmarked).foreign ?_)
  · rintro keep ⟨⟩
    exact hall
  · rintro keep ⟨⟩
    exact hall.commit (s := c.stamp i k) hunmarked

theorem Sound.finish (h : c.Sound calls) (hk : c.workers[i]? = some k) {scan : Scan}
    (hscan : k.scan = some scan) : Follows calls i k c (c.finish w i k scan) := by
  unfold Contention.finish
  split
  · exact h.stay hk
  · next s next hrest =>
    split
    · next hdone =>
      cases h.stages i k hk with
      | preparing hnone => exact nomatch hnone.symm.trans hscan
      | written hnone => exact nomatch hnone.symm.trans hscan
      | clearing hscan' heq hrefused hnext howner hunmarked hcleared =>
        cases hscan.symm.trans hscan'
        cases hrest.symm.trans heq
        exact h.finish_clearing hk hdone hnext hunmarked hcleared
      | replacing _ heq hnext hmarks =>
        cases hrest.symm.trans heq
        exact h.settle hk rfl (.written rfl (hnext _) hmarks) (.written rfl (hnext _) marksOne_commit)
      | writing _ heq _ hnext hmarks =>
        cases hrest.symm.trans heq
        exact h.settle hk rfl (.written rfl (hnext _) hmarks) (.written rfl (hnext _) marksOne_commit)
    · exact h.stay hk

/-! ## All turns -/

/-- Every turn leaves all in order. -/
theorem Sound.turn (h : c.Sound calls) (t : Turn) : Sound calls (c.turn w t) := by
  unfold Contention.turn
  split
  · next k hk =>
    refine Follows.sound ?_ h hk
    cases t with
    | go i =>
      show Follows calls i k c (c.act w (.go i) k)
      unfold Contention.act
      dsimp only
      split
      · next hscan => exact h.begin hk hscan
      · next scan hscan => exact h.finish hk hscan
    | visit i id => exact h.visit hk id
    | refuse i f => exact h.refuse hk f
  · exact h

theorem Sound.run (h : c.Sound calls) (turns : List Turn) : Sound calls (c.run w turns) :=
  List.foldlRecOn turns _ h fun _ hc t _ => hc.turn t

theorem sound_start {d : Database} (hahead : ∀ id ∈ d.tables.ids, id < d.nextFilter)
    (hone : OneDefault d.tables.filters) (calls : List StoreCall) : Sound calls (start d calls) := by
  have hstored : ∀ {b v}, ((start d calls).places b).stored = some v →
      v.stamp = none ∧ v.head ∈ d.tables.filters ∧ v.head.id = b := by
    intro b v hv
    obtain ⟨g, hg, rfl⟩ := Option.map_eq_some_iff.1 hv
    exact ⟨rfl, List.mem_of_find?_eq_some hg, beq_iff_eq.1 (List.find?_some hg :)⟩
  have hworkers : ∀ {i : Nat} {k : Worker}, (start d calls).workers[i]? = some k →
      ∃ call, calls[i]? = some call ∧ k = Worker.start call := by
    intro i k hk
    have hk : (calls.map Worker.start)[i]? = some k := hk
    rw [List.getElem?_map] at hk
    obtain ⟨call, hcall, rfl⟩ := Option.map_eq_some_iff.1 hk
    exact ⟨call, hcall, rfl⟩
  refine ⟨⟨fun b v hv => (hstored hv).2.2, nofun, fun b hb => ?_, hahead⟩, ⟨?_, ?_⟩, ?_, ?_⟩
  · have hnone : (d.tables.filters.find? fun h => h.id == b) = none := by
      refine List.find?_eq_none.2 fun h hh hid => hb ?_
      exact List.mem_map.2 ⟨h, hh, beq_iff_eq.1 hid⟩
    show Place.mk (Option.map _ _) none = _
    rw [hnone]
    rfl
  · intro b v s hv hs
    rw [(hstored hv).1] at hs
    cases hs
  · intro workspace user a b va vb hab ha hb hma hmb
    obtain ⟨-, hmema, hida⟩ := hstored ha
    obtain ⟨-, hmemb, hidb⟩ := hstored hb
    obtain ⟨rfl, rfl, hdefault⟩ := isDefaultOf_iff.1 hma
    exact absurd (hida.symm.trans ((hone _ hmema _ hmemb hdefault hmb).trans hidb)) hab
  · intro i k hk
    obtain ⟨call, hcall, rfl⟩ := hworkers hk
    have howner : ownerOf calls i = call.default? := by rw [ownerOf, hcall, Option.bind_some]
    rw [howner]
    rcases Session.prepares_or_harmless call with hprepares | hharmless
    · refine .preparing rfl hprepares (fun b => nofun) (fun b v s hv _ hs => ?_) nofun
      rw [(hstored hv).1] at hs
      cases hs
    · exact .written rfl hharmless (marksOne_of_unmarked fun b => nofun)
  · intro i k x hk hx
    obtain ⟨call, -, rfl⟩ := hworkers hk
    cases hx

/-- **Two default filters were saved side by side.**  Sessions for any calls run on a database in
which no owner has two default filters, and take turns in any order, with any statements refused.
If two filters are then the default of one owner, two of the sessions saved them for this owner,
and each of them began to take the marks off before the other was committed. -/
theorem defaults_overlap (w : Surroundings) (d : Database) (calls : List StoreCall)
    (turns : List Turn) (hahead : ∀ id ∈ d.tables.ids, id < d.nextFilter)
    (hone : OneDefault d.tables.filters) (workspace user : String) (a b : Int) (va vb : Version)
    (hab : a ≠ b) (ha : (((start d calls).run w turns).places a).stored = some va)
    (hb : (((start d calls).run w turns).places b).stored = some vb)
    (hma : va.head.isDefaultOf workspace user = true)
    (hmb : vb.head.isDefaultOf workspace user = true) :
    SideBySide calls (workspace, user) va vb :=
  ((sound_start hahead hone calls).run turns).settled.apart workspace user a b va vb hab ha hb hma hmb

end Contention

namespace Sample

/-- Two filters that are to be the default of one owner. -/
def rivals : List StoreCall :=
  [.createFilter "w" "local" { input with conditions := [] },
   .createFilter "w" "local" { input with conditions := [] }]

/-- The second session waits for the first one at the filter that was the default. -/
def turns : List Contention.Turn :=
  [.go 0, .go 0, .visit 0 7, .go 1, .go 1, .visit 1 7, .go 0, .go 0, .go 0, .go 0,
   .visit 1 7, .go 1, .go 1, .go 1, .go 1]

/-- What the two sessions make of the sample database. -/
def contention : Contention := (Contention.start database rivals).run .calm turns

end Sample

/-- The two sessions have saved the filters 10 and 11. -/
theorem Contention.defaults_overlap_waiting :
    (∀ id ∈ Sample.database.tables.ids, id < Sample.database.nextFilter) ∧
    OneDefault Sample.database.tables.filters ∧
    ∃ va vb, (Sample.contention.places 10).stored = some va ∧
      (Sample.contention.places 11).stored = some vb ∧
      va.head.isDefaultOf "w" "local" = true ∧ vb.head.isDefaultOf "w" "local" = true ∧
      SideBySide Sample.rivals ("w", "local") va vb := by
  have hone : OneDefault Sample.database.tables.filters := by decide
  refine ⟨Sample.ahead_database.1, hone, _, _, rfl, rfl, rfl, rfl, ?_⟩
  exact defaults_overlap .calm Sample.database Sample.rivals Sample.turns Sample.ahead_database.1 hone
    "w" "local" 10 11 _ _ (by decide) rfl rfl rfl rfl

/-- It does happen that an owner has two default filters: the session that waited does not see the
row of the other. -/
theorem Contention.not_oneDefault :
    ¬ ∀ (w : Surroundings) (d : Database) (calls : List StoreCall) (turns : List Turn),
      (∀ id ∈ d.tables.ids, id < d.nextFilter) → OneDefault d.tables.filters →
      OneDefault ((start d calls).run w turns).filters := by
  intro h
  have hone := h .calm Sample.database Sample.rivals Sample.turns Sample.ahead_database.1 (by decide)
  exact absurd hone (by decide)

end Postgres

end TaskBoard
