import Mathlib.Data.Finset.Sort
import Mathlib.Data.Set.Card
import TaskBoard.Proofs.Storage.Cache

/-!
# The cache as a timed map

Seen from outside, a cache is a map: to each set of numbers belong the rows that were set for it
last, and they are found until they are as old as they may get.  The cache has the texts of the
sets instead of the sets, and it may have dropped what is too old to be found.  That is all there
is between the two, whatever is done to them; so it does not show when the cache is swept, or
whether it is.

    every operation leads from a cache of a map to a cache of a map  (Shows.set, Shows.sweep, …)
    a look-up in the cache is one in the map                         (Shows.get?_eq)
    the map has what was set last                                    (held_after)
    the cache of a run refines the map of the run                    (refines_timed_map)
-/

namespace TaskBoard

/-! ## Maps -/

/-- What was last set for each set of numbers, and the time. -/
structure TimedMap where
  now : Int
  held : Finset Int → Option CacheEntry

namespace TimedMap

/-- The map with nothing in it. -/
def empty (now : Int) : TimedMap := ⟨now, fun _ => none⟩

/-- The rows of a set, if they are younger than `ttl`. -/
def get? (m : TimedMap) (ttl : Nat) (s : Finset Int) : Option (List FilterRow) :=
  (m.held s).bind fun e => if m.now - e.insertedAt < ttl then some e.rows else none

def set (m : TimedMap) (s : Finset Int) (rows : List FilterRow) : TimedMap :=
  { m with held := Function.update m.held s (some ⟨rows, m.now⟩) }

def clear (m : TimedMap) : TimedMap := { m with held := fun _ => none }

/-- The clock goes on. -/
def wait (m : TimedMap) (ms : Nat) : TimedMap := { m with now := m.now + ms }

end TimedMap

/-- A cache stands for a map: its entries are entries of the map, each set has one at most, and
those of the map that may still be found are there. -/
structure FilterCache.Shows (c : FilterCache) (m : TimedMap) : Prop where
  past : ∀ s e, m.held s = some e → e.insertedAt ≤ m.now
  distinct : (c.entries.map (·.1)).Nodup
  held : ∀ e ∈ c.entries, ∃ ids, e.1 = key ids ∧ m.held ids.toFinset = some e.2
  kept : ∀ ids e, m.held ids.toFinset = some e → m.now - e.insertedAt < c.ttl →
    (key ids, e) ∈ c.entries

/-! ## Runs -/

/-- What happens to a cache. -/
inductive CacheEvent
  | get (ids : List Int)
  | set (ids : List Int) (rows : List FilterRow)
  | clear
  | sweep
  /-- Nothing happens for a while. -/
  | wait (ms : Nat)

namespace CacheEvent

def isSweep : CacheEvent → Bool
  | sweep => true
  | _ => false

/-- Whether the rows that were set for `s` before are replaced or dropped. -/
def Touches (s : Finset Int) : CacheEvent → Prop
  | get _ => False
  | set other _ => other.toFinset = s
  | clear => True
  | sweep => False
  | wait _ => False

end CacheEvent

/-- A cache and the time of its clock. -/
structure ClockedCache where
  cache : FilterCache
  now : Int

namespace ClockedCache

/-- The cache with nothing in it. -/
def empty (ttl : Nat) (now : Int) : ClockedCache := ⟨.empty ttl, now⟩

/-- The rows that are found now. -/
def get? (x : ClockedCache) (ids : List Int) : Option (List FilterRow) := x.cache.get? x.now ids

def step (x : ClockedCache) : CacheEvent → ClockedCache
  | .get _ => x
  | .set ids rows => { x with cache := x.cache.set x.now ids rows }
  | .clear => { x with cache := x.cache.clear }
  | .sweep => { x with cache := x.cache.sweep x.now }
  | .wait ms => { x with now := x.now + ms }

/-- The cache after a run. -/
def after (x : ClockedCache) (events : List CacheEvent) : ClockedCache := events.foldl step x

/-- What the look-ups of a run find, in order. -/
def answers (x : ClockedCache) : List CacheEvent → List (Option (List FilterRow))
  | [] => []
  | .get ids :: events => x.get? ids :: x.answers events
  | e :: events => (x.step e).answers events

end ClockedCache

namespace TimedMap

/-- A map needs no sweeping. -/
def step (m : TimedMap) : CacheEvent → TimedMap
  | .get _ => m
  | .set ids rows => m.set ids.toFinset rows
  | .clear => m.clear
  | .sweep => m
  | .wait ms => m.wait ms

/-- The map after a run. -/
def after (m : TimedMap) (events : List CacheEvent) : TimedMap := events.foldl step m

/-- What the look-ups of a run find, in order. -/
def answers (ttl : Nat) (m : TimedMap) : List CacheEvent → List (Option (List FilterRow))
  | [] => []
  | .get ids :: events => m.get? ttl ids.toFinset :: m.answers ttl events
  | e :: events => (m.step e).answers ttl events

end TimedMap

/-! ## Lemmas -/

namespace TimedMap

@[simp] theorem held_set_self (m : TimedMap) (s : Finset Int) (rows : List FilterRow) :
    (m.set s rows).held s = some ⟨rows, m.now⟩ := Function.update_self ..

theorem held_set_of_ne (m : TimedMap) {s t : Finset Int} (rows : List FilterRow) (h : t ≠ s) :
    (m.set s rows).held t = m.held t := Function.update_of_ne h ..

theorem get?_eq_some_iff {m : TimedMap} {ttl : Nat} {s : Finset Int} {rows : List FilterRow} :
    m.get? ttl s = some rows ↔
      ∃ e, m.held s = some e ∧ e.rows = rows ∧ m.now - e.insertedAt < ttl := by
  unfold get?
  rw [Option.bind_eq_some_iff]
  refine exists_congr fun e => and_congr_right fun _ => ?_
  split <;> simp_all

theorem isSome_get?_iff {m : TimedMap} {ttl : Nat} {s : Finset Int} :
    (m.get? ttl s).isSome ↔ ∃ e, m.held s = some e ∧ m.now - e.insertedAt < ttl := by
  simp [Option.isSome_iff_exists, get?_eq_some_iff]

end TimedMap

namespace FilterCache

/-- Texts tell sets apart, and nothing else. -/
theorem key_eq_iff {ids other : List Int} :
    key ids = key other ↔ ids.toFinset = other.toFinset := by
  rw [key_eq_iff_sortedIds, sortedIds_eq_iff, Finset.ext_iff]
  simp only [List.mem_toFinset]

@[simp] theorem toFinset_sortedIds (ids : List Int) : (sortedIds ids).toFinset = ids.toFinset :=
  key_eq_iff.1 (key_sortedIds ids)

theorem isExpired_iff {c : FilterCache} {now : Int} {e : CacheEntry} (h : e.insertedAt ≤ now) :
    c.isExpired now e = true ↔ c.ttl ≤ now - e.insertedAt := by
  unfold isExpired
  rw [decide_eq_true_iff]
  omega

theorem isExpired_eq_false_iff {c : FilterCache} {now : Int} {e : CacheEntry}
    (h : e.insertedAt ≤ now) : c.isExpired now e = false ↔ now - e.insertedAt < c.ttl := by
  rw [← Bool.not_eq_true, isExpired_iff h, Int.not_le]

/-! ### Operations -/

theorem shows_empty (ttl : Nat) (now : Int) : (empty ttl).Shows (.empty now) where
  past _ _ h := nomatch h
  distinct := .nil
  held _ h := nomatch h
  kept _ _ h := nomatch h

namespace Shows

variable {c : FilterCache} {m : TimedMap}

theorem past_of_mem (h : c.Shows m) {k : String} {e : CacheEntry} (he : (k, e) ∈ c.entries) :
    e.insertedAt ≤ m.now := by
  obtain ⟨ids, -, hheld⟩ := h.held _ he
  exact h.past _ _ hheld

/-- Whatever entry the cache finds for a set is the one of the map. -/
theorem get?_eq (h : c.Shows m) (ids : List Int) :
    c.get? m.now ids = m.get? c.ttl ids.toFinset := by
  unfold get? TimedMap.get?
  cases hlookup : c.entries.lookup (key ids) with
  | none =>
    cases hheld : m.held ids.toFinset with
    | none => rfl
    | some e =>
      refine (if_neg fun hyoung => ?_).symm
      have hmem := h.kept ids e hheld hyoung
      rw [List.lookup_eq_none_iff] at hlookup
      exact absurd (hlookup _ hmem) (by simp)
  | some e =>
    obtain ⟨before, after, hentries, -⟩ := List.lookup_eq_some_iff.1 hlookup
    have hmem : (key ids, e) ∈ c.entries := hentries ▸ by simp
    obtain ⟨other, hkey, hheld⟩ := h.held _ hmem
    rw [key_eq_iff.1 hkey, hheld]
    dsimp only [Option.bind_some]
    cases hexpired : c.isExpired m.now e with
    | true =>
      have hold := (isExpired_iff (h.past_of_mem hmem)).1 hexpired
      rw [if_pos rfl, if_neg (by omega)]
    | false =>
      have hyoung := (isExpired_eq_false_iff (h.past_of_mem hmem)).1 hexpired
      rw [if_neg (by simp), if_pos hyoung]

theorem set (h : c.Shows m) (ids : List Int) (rows : List FilterRow) :
    (c.set m.now ids rows).Shows (m.set ids.toFinset rows) where
  past s e he := by
    by_cases hs : s = ids.toFinset
    · subst hs
      rw [TimedMap.held_set_self] at he
      cases he
      exact Int.le_refl m.now
    · rw [m.held_set_of_ne rows hs] at he
      exact h.past s e he
  distinct := by
    refine List.nodup_cons.2 ⟨fun hmem => ?_, h.distinct.sublist ((List.filter_sublist).map _)⟩
    obtain ⟨e, he, hkey⟩ := List.mem_map.1 hmem
    simpa [hkey] using (List.mem_filter.1 he).2
  held e he := by
    rcases List.mem_cons.1 he with rfl | he
    · exact ⟨ids, rfl, m.held_set_self _ rows⟩
    · obtain ⟨hmem, hne⟩ := List.mem_filter.1 he
      obtain ⟨other, hkey, hheld⟩ := h.held e hmem
      refine ⟨other, hkey, (m.held_set_of_ne rows fun hs => ?_).trans hheld⟩
      rw [hkey, key_eq_iff.2 hs] at hne
      simp at hne
  kept other e he hyoung := by
    by_cases hs : other.toFinset = ids.toFinset
    · rw [hs, TimedMap.held_set_self] at he
      cases he
      rw [key_eq_iff.2 hs]
      exact List.mem_cons_self
    · rw [m.held_set_of_ne rows hs] at he
      refine List.mem_cons_of_mem _ (List.mem_filter.2 ⟨h.kept other e he hyoung, ?_⟩)
      simpa using mt key_eq_iff.1 hs

theorem clear (m : TimedMap) : c.clear.Shows m.clear where
  past _ _ h := nomatch h
  distinct := .nil
  held _ h := nomatch h
  kept _ _ h := nomatch h

/-- What a sweep leaves is what was there and is young. -/
theorem mem_sweep (h : c.Shows m) {k : String} {e : CacheEntry} :
    (k, e) ∈ (c.sweep m.now).entries ↔ (k, e) ∈ c.entries ∧ m.now - e.insertedAt < c.ttl := by
  unfold FilterCache.sweep
  rw [List.mem_filter, Bool.not_eq_true']
  exact and_congr_right fun hmem => isExpired_eq_false_iff (h.past_of_mem hmem)

/-- A sweep drops what cannot be found any more. -/
theorem sweep (h : c.Shows m) : (c.sweep m.now).Shows m where
  past := h.past
  distinct := h.distinct.sublist ((List.filter_sublist).map _)
  held e he := h.held e (List.mem_filter.1 he).1
  kept ids e he hyoung := h.mem_sweep.2 ⟨h.kept ids e he hyoung, hyoung⟩

/-- Entries only get older. -/
theorem wait (h : c.Shows m) (ms : Nat) : c.Shows (m.wait ms) where
  past s e he := by
    have := h.past s e he
    show e.insertedAt ≤ m.now + ms
    omega
  distinct := h.distinct
  held := h.held
  kept ids e he hyoung := by
    refine h.kept ids e he ?_
    have : m.now + ms - e.insertedAt < c.ttl := hyoung
    omega

/-! ### Sizes -/

theorem size_sweep (h : c.Shows m) :
    (c.sweep m.now).size =
      c.entries.countP fun e => decide (m.now - e.2.insertedAt < c.ttl) := by
  rw [size, FilterCache.sweep, ← List.countP_eq_length_filter]
  refine List.countP_congr fun e he => ?_
  rw [Bool.not_eq_true', decide_eq_true_iff]
  exact isExpired_eq_false_iff (h.past_of_mem he)

theorem sweepCount_eq (h : c.Shows m) :
    c.sweepCount m.now =
      c.entries.countP fun e => decide (c.ttl ≤ m.now - e.2.insertedAt) := by
  let isOld (e : String × CacheEntry) : Bool := decide (c.ttl ≤ m.now - e.2.insertedAt)
  have hyoung : (c.sweep m.now).size = c.entries.countP fun e => decide ¬ isOld e = true := by
    rw [h.size_sweep]
    exact List.countP_congr fun e _ => by simp [isOld]
  have hsplit : c.size = c.entries.countP isOld + (c.sweep m.now).size := by
    rw [hyoung]
    exact List.length_eq_countP_add_countP isOld
  rw [sweepCount, hsplit, Nat.add_sub_cancel]

/-- After a sweep there is an entry for each set that is found, and no other. -/
theorem size_sweep_eq_ncard (h : c.Shows m) :
    (c.sweep m.now).size = {s | (m.get? c.ttl s).isSome}.ncard := by
  let text (s : Finset Int) : String := key (s.sort (· ≤ ·))
  have htext (ids : List Int) : text ids.toFinset = key ids :=
    key_eq_iff.2 (Finset.sort_toFinset ..)
  have hinj : Function.Injective text := fun s t hst => by
    simpa using key_eq_iff.1 hst
  have himage : text '' {s | (m.get? c.ttl s).isSome} =
      ↑((c.sweep m.now).entries.map (·.1)).toFinset := by
    ext k
    rw [Set.mem_image, Finset.mem_coe, List.mem_toFinset, List.mem_map]
    constructor
    · rintro ⟨s, hs, rfl⟩
      obtain ⟨e, he, hyoung⟩ := TimedMap.isSome_get?_iff.1 hs
      rw [← s.sort_toFinset (· ≤ ·)] at he
      exact ⟨_, h.mem_sweep.2 ⟨h.kept _ e he hyoung, hyoung⟩, rfl⟩
    · rintro ⟨⟨k, e⟩, he, rfl⟩
      obtain ⟨hmem, hyoung⟩ := h.mem_sweep.1 he
      obtain ⟨ids, hkey, hheld⟩ := h.held _ hmem
      exact ⟨ids.toFinset, TimedMap.isSome_get?_iff.2 ⟨e, hheld, hyoung⟩,
        (htext ids).trans hkey.symm⟩
  rw [← Set.ncard_image_of_injective _ hinj, himage, Set.ncard_coe_finset,
    List.toFinset_card_of_nodup h.sweep.distinct, List.length_map, size]

end Shows

end FilterCache

/-! ### Runs -/

/-- An entry of a list is its last one, or stands before it. -/
theorem concat_eq_append_cons_iff {α : Type} {as before after : List α} {a b : α} :
    as ++ [a] = before ++ b :: after ↔
      after = [] ∧ before = as ∧ b = a ∨
        ∃ rest, after = rest ++ [a] ∧ as = before ++ b :: rest := by
  constructor
  · intro h
    rcases List.eq_nil_or_concat after with rfl | ⟨rest, c, rfl⟩
    · obtain ⟨rfl, hb⟩ := List.append_inj' h rfl
      cases hb
      exact .inl ⟨rfl, rfl, rfl⟩
    · rw [List.concat_eq_append, ← List.cons_append, ← List.append_assoc] at h
      obtain ⟨rfl, hc⟩ := List.append_inj' h rfl
      cases hc
      exact .inr ⟨rest, List.concat_eq_append .., rfl⟩
  · rintro (⟨rfl, rfl, rfl⟩ | ⟨rest, rfl, rfl⟩)
    · rfl
    · rw [List.append_assoc, List.cons_append]

namespace ClockedCache

variable {x : ClockedCache} {m : TimedMap}

/-- One step of a cache is one of its map. -/
theorem shows_step (h : x.cache.Shows m) (hnow : x.now = m.now) (e : CacheEvent) :
    (x.step e).cache.Shows (m.step e) ∧ (x.step e).now = (m.step e).now := by
  obtain ⟨c, now⟩ := x
  subst hnow
  cases e with
  | get ids => exact ⟨h, rfl⟩
  | set ids rows => exact ⟨h.set ids rows, rfl⟩
  | clear => exact ⟨.clear m, rfl⟩
  | sweep => exact ⟨h.sweep, rfl⟩
  | wait ms => exact ⟨h.wait ms, rfl⟩

theorem ttl_step (e : CacheEvent) : (x.step e).cache.ttl = x.cache.ttl := by
  cases e <;> rfl

theorem ttl_after (events : List CacheEvent) : (x.after events).cache.ttl = x.cache.ttl := by
  induction events generalizing x with
  | nil => rfl
  | cons e events ih => exact ih.trans (ttl_step e)

theorem shows_after (h : x.cache.Shows m) (hnow : x.now = m.now) (events : List CacheEvent) :
    (x.after events).cache.Shows (m.after events) ∧
      (x.after events).now = (m.after events).now := by
  induction events generalizing x m with
  | nil => exact ⟨h, hnow⟩
  | cons e events ih =>
    obtain ⟨h, hnow⟩ := shows_step h hnow e
    exact ih h hnow

theorem get?_eq (h : x.cache.Shows m) (hnow : x.now = m.now) (ids : List Int) :
    x.get? ids = m.get? x.cache.ttl ids.toFinset := by
  rw [get?, hnow, h.get?_eq]

/-- The look-ups of a run find what they find in the map. -/
theorem answers_eq (h : x.cache.Shows m) (hnow : x.now = m.now) (events : List CacheEvent) :
    x.answers events = m.answers x.cache.ttl events := by
  induction events generalizing x m with
  | nil => rfl
  | cons e events ih =>
    obtain ⟨h', hnow'⟩ := shows_step h hnow e
    have hrest := ih h' hnow'
    rw [ttl_step] at hrest
    cases e with
    | get ids => exact congrArg₂ List.cons (get?_eq h hnow ids) hrest
    | _ => exact hrest

end ClockedCache

namespace TimedMap

theorem after_concat (m : TimedMap) (events : List CacheEvent) (e : CacheEvent) :
    m.after (events ++ [e]) = (m.after events).step e :=
  List.foldl_concat ..

/-- A run finds the same without its sweeps. -/
theorem answers_filter (ttl : Nat) (m : TimedMap) (events : List CacheEvent) :
    m.answers ttl (events.filter (!·.isSweep)) = m.answers ttl events := by
  induction events generalizing m with
  | nil => rfl
  | cons e events ih =>
    cases e with
    | get ids => exact congrArg (m.get? ttl ids.toFinset :: ·) (ih m)
    | _ => exact ih _

/-- What is held for a set after a step is what was just set for it, or what was held before. -/
theorem held_step {m : TimedMap} {s : Finset Int} {entry : CacheEntry} (e : CacheEvent) :
    (m.step e).held s = some entry ↔
      (∃ ids, e = .set ids entry.rows ∧ ids.toFinset = s ∧ entry.insertedAt = m.now) ∨
        ¬ e.Touches s ∧ m.held s = some entry := by
  cases e with
  | set ids rows =>
    by_cases hs : ids.toFinset = s
    · subst hs
      show (m.set _ rows).held _ = _ ↔ _
      rw [held_set_self]
      constructor
      · rintro ⟨⟩
        exact .inl ⟨ids, rfl, rfl, rfl⟩
      · rintro (⟨other, hset, -, hnow⟩ | ⟨htouch, -⟩)
        · cases hset
          rw [← hnow]
        · exact absurd rfl htouch
    · have hne : s ≠ ids.toFinset := fun h => hs h.symm
      show (m.set _ rows).held _ = _ ↔ _
      rw [m.held_set_of_ne rows hne]
      constructor
      · intro hheld
        exact .inr ⟨hs, hheld⟩
      · rintro (⟨other, hset, hother, -⟩ | ⟨-, hheld⟩)
        · cases hset
          exact absurd hother hs
        · exact hheld
  | clear => simp [step, TimedMap.clear, CacheEvent.Touches]
  | _ => simp [step, TimedMap.wait, CacheEvent.Touches]

/-- **The map has what was set last.** -/
theorem held_after (now : Int) (events : List CacheEvent) {s : Finset Int} {entry : CacheEntry} :
    ((empty now).after events).held s = some entry ↔
      ∃ earlier ids later, events = earlier ++ .set ids entry.rows :: later ∧
        ids.toFinset = s ∧ (∀ e ∈ later, ¬ e.Touches s) ∧
        entry.insertedAt = ((empty now).after earlier).now := by
  induction events using List.reverseRecOn with
  | nil => simp [after, empty]
  | append_singleton events e ih =>
    rw [after_concat, held_step]
    constructor
    · rintro (⟨ids, rfl, hids, hnow⟩ | ⟨htouch, hheld⟩)
      · exact ⟨events, ids, [], rfl, hids, by simp, hnow⟩
      · obtain ⟨earlier, ids, later, rfl, hids, hlater, hnow⟩ := ih.1 hheld
        refine ⟨earlier, ids, later ++ [e], by simp, hids, fun d hd => ?_, hnow⟩
        rcases List.mem_append.1 hd with hd | hd
        · exact hlater d hd
        · rwa [List.mem_singleton.1 hd]
    · rintro ⟨earlier, ids, later, heq, hids, hlater, hnow⟩
      rcases concat_eq_append_cons_iff.1 heq with ⟨-, rfl, rfl⟩ | ⟨rest, rfl, hevents⟩
      · exact .inl ⟨ids, rfl, hids, hnow⟩
      · have hrest : ∀ d ∈ rest, ¬ d.Touches s := fun d hd => hlater d (List.mem_append_left _ hd)
        exact .inr ⟨hlater e (by simp), ih.2 ⟨earlier, ids, rest, hevents, hids, hrest, hnow⟩⟩

end TimedMap

/-- **A cache refines a timed map, and sweeps do not show.**  Whatever happens to an empty cache,
a look-up finds the rows that were set last for the same set of numbers, if they were not dropped
since and are younger than `ttl`, and nothing otherwise.  Runs that differ only in their sweeps
find the same.  A sweep drops the entries that are as old as `ttl`, and leaves the younger ones,
one for each set that is found. -/
theorem ClockedCache.refines_timed_map (ttl : Nat) (start : Int) (events : List CacheEvent) :
    let x := (empty ttl start).after events
    (∀ ids rows, x.get? ids = some rows ↔
      ∃ earlier other later, events = earlier ++ .set other rows :: later ∧
        other.toFinset = ids.toFinset ∧ (∀ e ∈ later, ¬ e.Touches ids.toFinset) ∧
        x.now - ((empty ttl start).after earlier).now < ttl) ∧
    (∀ other, other.filter (!·.isSweep) = events.filter (!·.isSweep) →
      (empty ttl start).answers other = (empty ttl start).answers events) ∧
    (x.cache.sweepCount x.now =
      x.cache.entries.countP fun e => decide (ttl ≤ x.now - e.2.insertedAt)) ∧
    ((x.cache.sweep x.now).size =
      x.cache.entries.countP fun e => decide (x.now - e.2.insertedAt < ttl)) ∧
    (x.cache.sweep x.now).size =
      {s | ∃ ids, ids.toFinset = s ∧ (x.get? ids).isSome}.ncard := by
  intro x
  have hempty : (empty ttl start).cache.Shows (.empty start) := FilterCache.shows_empty ttl start
  have hnow (events : List CacheEvent) := (shows_after hempty rfl events).2
  have hshows : x.cache.Shows ((TimedMap.empty start).after events) :=
    (shows_after hempty rfl events).1
  have httl : x.cache.ttl = ttl := ttl_after events
  have hget (ids : List Int) := get?_eq hshows (hnow events) ids
  refine ⟨fun ids rows => ?_, fun other h => ?_, ?_, ?_, ?_⟩
  · rw [hget, TimedMap.get?_eq_some_iff, httl, ← hnow events]
    constructor
    · rintro ⟨e, hheld, rfl, hyoung⟩
      obtain ⟨earlier, other, later, hevents, hother, hlater, htime⟩ :=
        (TimedMap.held_after start events).1 hheld
      refine ⟨earlier, other, later, hevents, hother, hlater, ?_⟩
      rwa [hnow earlier, ← htime]
    · rintro ⟨earlier, other, later, hevents, hother, hlater, hyoung⟩
      refine ⟨⟨rows, ((TimedMap.empty start).after earlier).now⟩, ?_, rfl, ?_⟩
      · exact (TimedMap.held_after start events).2
          ⟨earlier, other, later, hevents, hother, hlater, rfl⟩
      · rwa [hnow earlier] at hyoung
  · rw [answers_eq hempty rfl, answers_eq hempty rfl, ← TimedMap.answers_filter, h,
      TimedMap.answers_filter]
  · rw [hnow events, hshows.sweepCount_eq, httl]
  · rw [hnow events, hshows.size_sweep, httl]
  · rw [hnow events, hshows.size_sweep_eq_ncard]
    congr 1
    ext s
    rw [Set.mem_ofPred_eq, Set.mem_ofPred_eq]
    constructor
    · intro hs
      exact ⟨s.sort (· ≤ ·), s.sort_toFinset (· ≤ ·), by rwa [hget, s.sort_toFinset (· ≤ ·)]⟩
    · rintro ⟨ids, rfl, hs⟩
      rwa [hget] at hs

/-- The same set in another order is found until the entry is five milliseconds old. -/
example : (ClockedCache.empty 5 0).answers
    [.set [2, 1] [], .wait 4, .get [1, 2, 1], .wait 1, .get [1, 2]] = [some [], none] := by
  cbv

end TaskBoard
