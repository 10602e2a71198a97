import Mathlib.Data.List.Lattice
import TaskBoard.Proofs.Postgres.Arguments

/-!
# Pages of a listing

The tasks of a listing come page by page, each page from statements of its own: the database
sorts all matching tasks, skips those of the pages before, and counts them.  The offset and the
number of pages are worked out in words of 32 and 64 bits.

    only one arrangement of the tasks is in order               (eq_of_perm)
    a page is there when it begins before the end               (le_totalPages_iff)
    the pages one after the other are the listing               (flatMap_slice_upTo)
    the words give the numbers themselves                       (toInt_offsetWord)
    so reading page by page leaves nothing out                  (pages_partition)
-/

namespace TaskBoard

/-- Whether a task comes before another one in a listing: the newer one does, and of two that are
equally new the one with the greater number. -/
def Task.Precedes (a b : Task) : Prop :=
  b.createdAt.seconds < a.createdAt.seconds ∨
    a.createdAt.seconds = b.createdAt.seconds ∧
      (b.createdAt.nanos < a.createdAt.nanos ∨
        a.createdAt.nanos = b.createdAt.nanos ∧ b.id < a.id)

namespace Page

/-- What is on a page. -/
def slice {α : Type} (p : Page) (xs : List α) : List α := (xs.drop p.offset).take p.limit

/-- The pages that hold `items`. -/
def upTo (limit items : Nat) : List Page :=
  (List.range' 1 (totalPages limit items)).map fun number => ⟨number, limit⟩

/-! ## Words -/

/-- The number of items on the pages before, in words: the difference stops at zero, the product
is signed and goes around. -/
def offsetWord (number limit : UInt32) : Int64 :=
  (if number = 0 then 0 else number - 1).toUInt64.toInt64 * limit.toUInt64.toInt64

/-- The size of a page as a signed word. -/
def limitWord (limit : UInt32) : Int64 := limit.toUInt64.toInt64

/-- The number of items that the database has counted, as an unsigned word. -/
def itemsWord (count : Int64) : UInt64 := (max count 0).toUInt64

/-- The number of pages in words: the quotient, and one more for a rest. -/
def totalPagesWord (limit : UInt32) (items : UInt64) : UInt64 :=
  let size := (max limit 1).toUInt64
  if items % size = 0 then items / size else items / size + 1

end Page

namespace Postgres

/-- The rows that a statement gives whose last two values are a limit and an offset, of all rows
in order. -/
def Prepared.window {α : Type} (p : Prepared) (rows : List α) : List α :=
  match p.values.reverse with
  | .int offset :: .int limit :: _ => (rows.drop offset.toNat).take limit.toNat
  | _ => rows

/-- The database has these tasks, in this order, for a filter. -/
structure Holds {σ : Type} (db : (s : Statement) → σ → Except DatabaseFault s.Reply × σ)
    (workspace : String) (filter : CompiledFilter) (tasks : List Task) : Prop where
  page : ∀ page d, db (.tasks workspace filter page) d =
    (.ok ((selectTasks workspace filter page).window tasks), d)
  count : ∀ d, db (.countTasks workspace filter) d = (.ok (some (tasks.length : Int)), d)

end Postgres

/-! ## Order -/

namespace Task.Precedes

variable {a b c : Task}

theorem trans (hab : a.Precedes b) (hbc : b.Precedes c) : a.Precedes c := by
  unfold Precedes at *
  omega

theorem asymm (h : a.Precedes b) : ¬ b.Precedes a := by
  unfold Precedes at *
  omega

theorem total (h : a.id ≠ b.id) : a.Precedes b ∨ b.Precedes a := by
  unfold Precedes
  omega

/-- The statements of two pages sort the tasks in the same way. -/
theorem eq_of_perm {tasks others : List Task} (hperm : others.Perm tasks)
    (hothers : others.Pairwise Precedes) (htasks : tasks.Pairwise Precedes) : others = tasks :=
  hperm.eq_of_pairwise (fun _ _ _ _ hab hba => absurd hba hab.asymm) hothers htasks

end Task.Precedes

/-! ## Slices -/

namespace Page

variable {α : Type} {limit number items : Nat}

theorem mem_upTo {p : Page} :
    p ∈ upTo limit items ↔
      ∃ number, 0 < number ∧ number ≤ totalPages limit items ∧ p = ⟨number, limit⟩ := by
  rw [upTo, List.mem_map]
  constructor
  · rintro ⟨number, hnumber, rfl⟩
    obtain ⟨hpos, hlt⟩ := List.mem_range'_1.1 hnumber
    exact ⟨number, hpos, by omega, rfl⟩
  · rintro ⟨number, hpos, hle, rfl⟩
    exact ⟨number, List.mem_range'_1.2 ⟨hpos, by omega⟩, rfl⟩

/-- A page is one of those that are counted when it begins before the end. -/
theorem le_totalPages_iff (hlimit : 0 < limit) (hnumber : 0 < number) :
    number ≤ totalPages limit items ↔ offset ⟨number, limit⟩ < items := by
  have hsucc : number * limit = offset ⟨number, limit⟩ + limit := by
    show _ = (number - 1) * limit + limit
    rw [← Nat.succ_mul, Nat.succ_eq_add_one, Nat.sub_add_cancel hnumber]
  rw [totalPages, Nat.max_eq_left hlimit, Nat.le_div_iff_mul_le hlimit, hsucc]
  omega

theorem slice_eq_nil_iff (hlimit : 0 < limit) (hnumber : 0 < number) (xs : List α) :
    slice ⟨number, limit⟩ xs = [] ↔ totalPages limit xs.length < number := by
  rw [slice, List.take_eq_nil_iff, List.drop_eq_nil_iff, or_iff_right hlimit.ne', ← not_lt,
    ← le_totalPages_iff hlimit hnumber, not_le]

/-- The first pages hold what is in front. -/
theorem flatMap_slice (xs : List α) (count : Nat) :
    ((List.range' 1 count).map fun number => (⟨number, limit⟩ : Page)).flatMap (·.slice xs) =
      xs.take (count * limit) := by
  induction count with
  | zero => simp
  | succ count ih =>
    have hlast : slice ⟨1 + count, limit⟩ xs = (xs.drop (count * limit)).take limit := by
      rw [slice, offset, Nat.add_sub_cancel_left]
    rw [List.range'_1_concat, List.map_append, List.flatMap_append, ih, Nat.succ_mul, List.take_add,
      List.map_singleton, List.flatMap_singleton, hlast]

theorem flatMap_slice_upTo (hlimit : 0 < limit) (xs : List α) :
    (upTo limit xs.length).flatMap (·.slice xs) = xs := by
  rw [upTo, flatMap_slice, Nat.mul_comm, List.take_of_length_le (le_mul_totalPages _ hlimit)]

/-- No item is on two pages. -/
theorem disjoint_slice {xs : List α} (hlimit : 0 < limit) (hxs : xs.Nodup) :
    (upTo limit xs.length).Pairwise fun p q => List.Disjoint (p.slice xs) (q.slice xs) := by
  rw [← flatMap_slice_upTo hlimit xs] at hxs
  exact (List.nodup_flatMap.1 hxs).2

/-! ## Words -/

theorem toInt_toInt64 {w : UInt64} (h : w.toNat < 2 ^ 63) : w.toInt64.toInt = w.toNat := by
  show w.toBitVec.toInt = w.toBitVec.toNat
  rw [BitVec.toInt_eq_toNat_of_lt]
  show 2 * w.toNat < 2 ^ 64
  omega

/-- A word of 32 bits keeps its value among the signed words of 64 bits. -/
theorem toInt_widened (w : UInt32) : w.toUInt64.toInt64.toInt = w.toNat := by
  have := w.toNat_lt
  rw [toInt_toInt64] <;> rw [UInt32.toNat_toUInt64]
  omega

theorem toNat_predecessor (w : UInt32) : (if w = 0 then 0 else w - 1).toNat = w.toNat - 1 := by
  split
  · next h =>
    rw [h]
    rfl
  · next h =>
    have hpos : 0 < w.toNat := Nat.pos_of_ne_zero fun h0 => h (UInt32.toNat_inj.1 h0)
    exact UInt32.toNat_sub_of_le _ _ (UInt32.le_iff_toNat_le.2 hpos)

theorem toInt_limitWord (limit : UInt32) : (limitWord limit).toInt = limit.toNat :=
  toInt_widened limit

theorem checkNumber_eq_none_iff (n : Nat) : checkNumber n = none ↔ 1 ≤ n ∧ n ≤ maxNumber := by
  unfold checkNumber
  split
  · simp
    omega
  · split <;> simp <;> omega

theorem offset_le (hnumber : checkNumber number = none) (hlimit : checkLimit limit = none) :
    offset ⟨number, limit⟩ ≤ maxNumber * maxLimit :=
  Nat.mul_le_mul ((Nat.sub_le _ _).trans ((checkNumber_eq_none_iff _).1 hnumber).2)
    ((checkLimit_eq_none_iff _).1 hlimit).2

/-- The product of accepted numbers does not go around. -/
theorem toInt_offsetWord {number limit : UInt32} (hnumber : checkNumber number.toNat = none)
    (hlimit : checkLimit limit.toNat = none) :
    (offsetWord number limit).toInt = offset ⟨number.toNat, limit.toNat⟩ := by
  have hfits : offset ⟨number.toNat, limit.toNat⟩ < 2 ^ 63 :=
    (offset_le hnumber hlimit).trans_lt (by decide)
  rw [offsetWord, Int64.toInt_mul, toInt_widened, toInt_widened, toNat_predecessor,
    ← Int.natCast_mul]
  show Int.bmod (offset ⟨number.toNat, limit.toNat⟩ : Nat) (2 ^ 64) = _
  generalize offset ⟨number.toNat, limit.toNat⟩ = n at hfits ⊢
  exact Int.bmod_eq_of_le (by omega) (by omega)

theorem toNat_itemsWord (count : Int64) : (itemsWord count).toNat = count.toInt.toNat := by
  show (if count ≤ 0 then 0 else count).toUInt64.toNat = _
  split
  · next h => exact (Int.toNat_of_nonpos (Int64.le_iff_toInt_le.1 h)).symm
  · next h =>
    have hpos : (0 : Int64) ≤ count := Int64.le_iff_toInt_le.2 (by
      have := mt Int64.le_iff_toInt_le.2 h
      omega)
    rw [Int64.toNat_toUInt64_of_le hpos, Int64.toNat_toInt]

theorem toNat_max_one (limit : UInt32) : (max limit 1).toNat = max limit.toNat 1 := by
  show (if limit ≤ 1 then 1 else limit).toNat = if limit.toNat ≤ 1 then 1 else limit.toNat
  rw [apply_ite UInt32.toNat]
  rfl

/-- A quotient rounded up, by the rest. -/
theorem totalPages_eq (limit items : Nat) :
    totalPages limit items =
      if items % max limit 1 = 0 then items / max limit 1 else items / max limit 1 + 1 := by
  have hsize : 0 < max limit 1 := by omega
  rw [totalPages]
  generalize max limit 1 = size at hsize ⊢
  have hitems := Nat.div_add_mod items size
  have hrest := Nat.mod_lt items hsize
  split
  · next h =>
    rw [h, Nat.add_zero] at hitems
    rw [← hitems, Nat.add_sub_assoc hsize, Nat.mul_add_div hsize,
      Nat.div_eq_of_lt (Nat.sub_lt hsize Nat.one_pos), hitems]
    rfl
  · next h =>
    have hsum : items + size - 1 = size * (items / size + 1) + (items % size - 1) := by
      rw [Nat.mul_add_one]
      omega
    have hone : (items % size - 1) / size = 0 := Nat.div_eq_of_lt (by omega)
    rw [hsum, Nat.mul_add_div hsize, hone, Nat.add_zero]

/-- One more than the quotient still is a word, for it has a rest only if the size is at least
two. -/
theorem toNat_totalPagesWord (limit : UInt32) (items : UInt64) :
    (totalPagesWord limit items).toNat = totalPages limit.toNat items.toNat := by
  have hsize : (max limit 1).toUInt64.toNat = max limit.toNat 1 := by
    rw [UInt32.toNat_toUInt64, toNat_max_one]
  have hrest : items % (max limit 1).toUInt64 = 0 ↔ items.toNat % max limit.toNat 1 = 0 := by
    rw [← UInt64.toNat_inj, UInt64.toNat_mod, hsize]
    rfl
  rw [totalPages_eq, totalPagesWord]
  by_cases h : items.toNat % max limit.toNat 1 = 0
  · rw [if_pos (hrest.2 h), if_pos h, UInt64.toNat_div, hsize]
  · have hlt : items.toNat / max limit.toNat 1 + 1 < 2 ^ 64 := by
      have htwo : 1 < max limit.toNat 1 := by
        by_contra hone
        have : max limit.toNat 1 = 1 := by omega
        exact h (by rw [this, Nat.mod_one])
      have hpos : 0 < items.toNat := Nat.pos_of_ne_zero fun h0 => h (by rw [h0, Nat.zero_mod])
      have := Nat.div_lt_self hpos htwo
      have := items.toNat_lt
      omega
    rw [if_neg (mt hrest.1 h), if_neg h, UInt64.toNat_add, UInt64.toNat_div, hsize]
    exact Nat.mod_eq_of_lt hlt

end Page

/-! ## Reading page by page -/

namespace Postgres

variable {σ : Type} {db : (s : Statement) → σ → Except DatabaseFault s.Reply × σ}
  {workspace : String} {filter : CompiledFilter} {page : Page} {tasks : List Task}

theorem window_selectTasks {α : Type} (rows : List α) :
    (selectTasks workspace filter page).window rows = page.slice rows := by
  rw [Prepared.window, selectTasks, List.reverse_append]
  rfl

/-- A listing gives its page and the number of all tasks. -/
theorem reply_listTasks (hfits : misaligned? filter = none) (hdb : Holds db workspace filter tasks)
    (d : σ) :
    reply db (.listTasks workspace page filter) d =
      (.ok (page.slice tasks, tasks.length), d) := by
  have hrun : (listTasks workspace page filter).run.run db d =
      (.ok (page.slice tasks, tasks.length), d) := by
    rw [run_listTasks hfits, Program.run, hdb.page, window_selectTasks]
    show Program.run db (.step (.countTasks workspace filter) _) d = _
    rw [Program.run, hdb.count]
    rfl
  show (((listTasks workspace page filter).run.run db d).1.mapError _,
    ((listTasks workspace page filter).run.run db d).2) = _
  rw [hrun]
  rfl

/-- **The pages of a listing.**  The order of a listing is total on tasks with numbers of their
own, so any two statements sort them alike.  Cut into pages of an accepted size, the tasks come
back whole and in order: none of the pages that are counted is empty, no task is on two of them,
and there is nothing behind the last one.  These are the pages that a database with these tasks is
asked for, and the number of tasks that it gives is the one from which the pages are counted.  The
words that hold an accepted page, its size, and any count of the database give the numbers
themselves. -/
theorem pages_partition (limit : UInt32) (hlimit : Page.checkLimit limit.toNat = none)
    (tasks : List Task) (hids : (tasks.map Task.id).Nodup)
    (horder : tasks.Pairwise Task.Precedes) :
    ((∀ a b : Task, a.id ≠ b.id → (a.Precedes b ↔ ¬ b.Precedes a)) ∧
      (∀ a : Task, ¬ a.Precedes a) ∧
      (∀ a b c : Task, a.Precedes b → b.Precedes c → a.Precedes c) ∧
      ∀ others : List Task, others.Perm tasks → others.Pairwise Task.Precedes → others = tasks) ∧
    ((Page.upTo limit.toNat tasks.length).flatMap (·.slice tasks) = tasks ∧
      (∀ p ∈ Page.upTo limit.toNat tasks.length, p.slice tasks ≠ []) ∧
      ((Page.upTo limit.toNat tasks.length).Pairwise fun p q =>
        List.Disjoint (p.slice tasks) (q.slice tasks)) ∧
      ∀ number, Page.totalPages limit.toNat tasks.length < number →
        Page.slice ⟨number, limit.toNat⟩ tasks = []) ∧
    (∀ (σ : Type) (db : (s : Statement) → σ → Except DatabaseFault s.Reply × σ)
      (workspace : String) (filter : CompiledFilter), misaligned? filter = none →
      Holds db workspace filter tasks → ∀ (number : Nat) (d : σ),
        reply db (.listTasks workspace ⟨number, limit.toNat⟩ filter) d =
          (.ok (Page.slice ⟨number, limit.toNat⟩ tasks, tasks.length), d)) ∧
    (∀ number : UInt32, Page.checkNumber number.toNat = none →
      (Page.offsetWord number limit).toInt = Page.offset ⟨number.toNat, limit.toNat⟩) ∧
    (Page.limitWord limit).toInt = limit.toNat ∧
    ∀ count : Int64, (Page.itemsWord count).toNat = count.toInt.toNat ∧
      (Page.totalPagesWord limit (Page.itemsWord count)).toNat =
        Page.totalPages limit.toNat count.toInt.toNat := by
  have hpos : 0 < limit.toNat := ((Page.checkLimit_eq_none_iff _).1 hlimit).1
  refine ⟨⟨?order, fun a h => h.asymm h, fun a b c => .trans, ?unique⟩,
    ⟨Page.flatMap_slice_upTo hpos tasks, ?nonempty, Page.disjoint_slice hpos (hids.of_map _),
      ?beyond⟩, fun _ _ _ _ hfits hdb _ => reply_listTasks hfits hdb,
    fun number hnumber => Page.toInt_offsetWord hnumber hlimit, Page.toInt_limitWord limit,
    fun count => ⟨Page.toNat_itemsWord count, ?total⟩⟩
  case order =>
    intro a b hne
    exact ⟨Task.Precedes.asymm, (Task.Precedes.total hne).resolve_right⟩
  case unique =>
    intro others hperm hothers
    exact Task.Precedes.eq_of_perm hperm hothers horder
  case nonempty =>
    intro p hp
    obtain ⟨number, hnumber, hle, rfl⟩ := Page.mem_upTo.1 hp
    exact mt (Page.slice_eq_nil_iff hpos hnumber tasks).1 (not_lt.2 hle)
  case beyond =>
    intro number hbeyond
    exact (Page.slice_eq_nil_iff hpos (by omega) tasks).2 hbeyond
  case total => rw [Page.toNat_totalPagesWord, Page.toNat_itemsWord]

/-- Five tasks, two of them made at the same time, on pages of two. -/
theorem pages_partition_of_five :
    let task (id second : Int) : Task :=
      ⟨id, "w", "", none, "todo", none, none, none, none, none, none, none, ⟨second, 0⟩,
        ⟨second, 0⟩, []⟩
    let tasks := [task 4 90, task 9 70, task 3 70, task 8 60, task 1 10]
    let filter : CompiledFilter := ⟨none, [], 2⟩
    let db (s : Statement) (d : Unit) : Except DatabaseFault s.Reply × Unit :=
      match s with
      | .tasks workspace filter page => (.ok ((selectTasks workspace filter page).window tasks), d)
      | .countTasks _ _ => (.ok (some 5), d)
      | _ => (.error .poolClosed, d)
    (Page.upTo 2 5).flatMap (·.slice tasks) = tasks ∧
      (∀ p ∈ Page.upTo 2 5, p.slice tasks ≠ []) ∧ Page.slice ⟨4, 2⟩ tasks = [] ∧
      reply db (.listTasks "w" ⟨3, 2⟩ filter) () = (.ok ([task 1 10], 5), ()) ∧
      (Page.offsetWord 3 2).toInt = 4 := by
  intro task tasks filter db
  obtain ⟨-, ⟨hwhole, hsome, -, hbeyond⟩, hreply, hoffset, -⟩ :=
    pages_partition 2 (by decide) tasks (by decide) (by
      refine List.pairwise_cons.2 ⟨?_, ?_⟩ <;> simp [task, Task.Precedes])
  exact ⟨hwhole, hsome, hbeyond 4 (by decide),
    hreply Unit db "w" filter rfl ⟨fun _ _ => rfl, fun _ => rfl⟩ 3 (), hoffset 3 (by decide)⟩

end Postgres

end TaskBoard
