import Mathlib
import TaskBoard.Api.TaskQuery
import TaskBoard.Proofs.Filter.Overrides

/-!
# Thresholds of a listing

The thresholds of a request are a JSON object.  Its entries go through a table by their names, each
name with the value that it was given last, and the table yields them in an order that nobody
knows.  Only then are the names made keys, and several names can have one key.

So a threshold is found among the entries whose names have the key of the filter, and each of them
is found in some order.  The order does not matter exactly where these entries agree.

    every entry for a filter is found in some order             (exists_mayRead_iff)
    what is found is certain if the entries agree               (find?_certain_iff)
    two spellings of one name can be found at random            (not_find?_certain)
-/

namespace TaskBoard

/-! ## Orders -/

namespace TaskQuery

/-- An order in which a table yields the entries that were put into it one after the other: each
name once, with the value that it was given last. -/
structure Yields (given entries : List (String × Int)) : Prop where
  distinct : (entries.map (·.1)).Nodup
  last : ∀ name days, (name, days) ∈ entries ↔ given.reverse.lookup name = some days

/-- The thresholds as they are given; a blank parameter gives none. -/
def given? (q : TaskQuery) : Option (List (String × Int)) :=
  match present? q.thresholds with
  | none => some []
  | some s => (Json.decodeText (.dictionary .int64) s).toOption

/-- The overrides that a request may have, by the order of its thresholds. -/
def MayRead (q : TaskQuery) (o : Overrides) : Prop :=
  ∃ given entries, q.given? = some given ∧ Yields given entries ∧ (∀ e ∈ entries, 0 ≤ e.2) ∧
    o = .ofEntries entries

end TaskQuery

/-! ## Lemmas -/

namespace TaskQuery

/-! ### Yielding -/

namespace Yields

variable {given entries other : List (String × Int)}

theorem nodup (h : Yields given entries) : entries.Nodup := List.Nodup.of_map _ h.distinct

/-- The entries are the same in every order. -/
theorem perm (h : Yields given entries) (h' : Yields given other) : entries.Perm other :=
  (List.perm_ext_iff_of_nodup h.nodup h'.nodup).2 fun e =>
    (h.last e.1 e.2).trans (h'.last e.1 e.2).symm

/-- Every order is possible. -/
theorem of_perm (h : Yields given entries) (hp : entries.Perm other) : Yields given other where
  distinct := (hp.map _).nodup h.distinct
  last name days := hp.mem_iff.symm.trans (h.last name days)

/-- Any entry may come last. -/
theorem exists_concat (h : Yields given entries) {e : String × Int} (he : e ∈ entries) :
    ∃ front, Yields given (front ++ [e]) :=
  ⟨entries.erase e, h.of_perm ((List.perm_cons_erase he).trans (List.perm_append_singleton _ _).symm)⟩

end Yields

theorem distinctEntries_concat (given : List (String × Int)) (e : String × Int) :
    distinctEntries (given ++ [e]) = (distinctEntries given).filter (fun d => d.1 != e.1) ++ [e] :=
  List.foldl_concat ..

/-- One of the orders is that in which the names were given last. -/
theorem yields_distinctEntries (given : List (String × Int)) :
    Yields given (distinctEntries given) := by
  induction given using List.reverseRecOn with
  | nil => exact ⟨.nil, fun name days => by simp [distinctEntries]⟩
  | append_singleton given e ih =>
    rw [distinctEntries_concat]
    constructor
    · rw [List.map_append, List.nodup_append]
      refine ⟨(List.filter_sublist.map _).nodup ih.distinct, List.nodup_singleton _, ?_⟩
      intro a ha b hb
      obtain ⟨d, hd, rfl⟩ := List.mem_map.1 ha
      obtain rfl := List.mem_singleton.1 hb
      simpa using (List.mem_filter.1 hd).2
    · intro name days
      rw [List.reverse_concat, List.lookup_cons]
      by_cases hname : name = e.1
      · subst hname
        simp [Prod.ext_iff, eq_comm]
      · simp [hname, Prod.ext_iff, ih.last, beq_eq_false_iff_ne.2 hname]

/-- An object is read if none of its numbers is negative. -/
theorem overridesOfText_of_object {s : String} {given : List (String × Int)} {o : Overrides}
    (h : Json.decodeText (.dictionary .int64) s = .ok given) :
    overridesOfText s = .ok o ↔
      (∀ e ∈ distinctEntries given, 0 ≤ e.2) ∧ o = .ofEntries (distinctEntries given) := by
  simp only [overridesOfText, h, pure_bind]
  cases hneg : (distinctEntries given).find? fun e => decide (e.2 < 0) with
  | some e =>
    have he : e.2 < 0 := by simpa using List.find?_some hneg
    refine iff_of_false nofun fun hall => ?_
    have := hall.1 e (List.mem_of_find?_eq_some hneg)
    omega
  | none =>
    have hpos : ∀ e ∈ distinctEntries given, 0 ≤ e.2 := by simpa using hneg
    show Except.ok _ = Except.ok o ↔ _
    rw [Except.ok.injEq, eq_comm, and_iff_right hpos]

theorem overrides_eq_ok_iff {q : TaskQuery} {o : Overrides} :
    q.overrides = .ok o ↔ ∃ given, q.given? = some given ∧
      (∀ e ∈ distinctEntries given, 0 ≤ e.2) ∧ o = .ofEntries (distinctEntries given) := by
  unfold overrides given?
  cases present? q.thresholds with
  | none => simp [distinctEntries, Overrides.ofEntries, eq_comm]
  | some s =>
    cases hread : Json.decodeText (.dictionary .int64) s with
    | error e =>
      have hrefused : overridesOfText s ≠ .ok o := by
        unfold overridesOfText
        rw [hread]
        exact nofun
      simp [hrefused, hread, Except.toOption]
    | ok given => simp [overridesOfText_of_object hread, hread, Except.toOption]

/-! ### Finding -/

section

variable {q : TaskQuery} {given entries : List (String × Int)} {name : String}

/-- Every entry for a filter is found in some order, and nothing else is. -/
theorem exists_mayRead_iff (hgiven : q.given? = some given) (hy : Yields given entries)
    (hpos : ∀ e ∈ entries, 0 ≤ e.2) {days : Int} :
    (∃ o, q.MayRead o ∧ o.find? name = some days) ↔
      ∃ e ∈ entries, Overrides.Names name e ∧ e.2 = days := by
  constructor
  · rintro ⟨o, ⟨given', other, hgiven', hy', -, rfl⟩, hfind⟩
    obtain rfl := Option.some.inj (hgiven.symm.trans hgiven')
    obtain ⟨e, he, hname, rfl⟩ := Overrides.exists_of_find?_ofEntries hfind
    exact ⟨e, (hy.perm hy').mem_iff.2 he, hname, rfl⟩
  · rintro ⟨e, he, hname, rfl⟩
    obtain ⟨front, hlast⟩ := hy.exists_concat he
    refine ⟨_, ⟨given, _, hgiven, hlast, fun d hd => ?_, rfl⟩,
      Overrides.find?_ofEntries_concat hname⟩
    exact hpos d ((hy.perm hlast).mem_iff.2 hd)

/-- A filter has a threshold in every order or in none. -/
theorem MayRead.find?_eq_none_iff (hgiven : q.given? = some given) (hy : Yields given entries)
    {o : Overrides} (h : q.MayRead o) :
    o.find? name = none ↔ ∀ e ∈ entries, ¬ Overrides.Names name e := by
  obtain ⟨given', other, hgiven', hy', -, rfl⟩ := h
  obtain rfl := Option.some.inj (hgiven.symm.trans hgiven')
  rw [Overrides.find?_ofEntries_eq_none_iff]
  exact forall_congr' fun e => imp_congr (hy.perm hy').mem_iff.symm Iff.rfl

/-- What is found is certain exactly if the entries for the filter agree. -/
theorem find?_certain_iff (hgiven : q.given? = some given) (hy : Yields given entries)
    (hpos : ∀ e ∈ entries, 0 ≤ e.2) :
    (∀ o o', q.MayRead o → q.MayRead o' → o.find? name = o'.find? name) ↔
      ∀ d ∈ entries, ∀ e ∈ entries, Overrides.Names name d → Overrides.Names name e →
        d.2 = e.2 := by
  constructor
  · intro h d hd e he hdname hename
    obtain ⟨o, ho, hod⟩ := (exists_mayRead_iff hgiven hy hpos).2 ⟨d, hd, hdname, rfl⟩
    obtain ⟨o', ho', hoe⟩ := (exists_mayRead_iff hgiven hy hpos).2 ⟨e, he, hename, rfl⟩
    exact Option.some.inj (hod.symm.trans ((h o o' ho ho').trans hoe))
  · intro h o o' ho ho'
    cases hfind : o.find? name with
    | none =>
      exact ((ho'.find?_eq_none_iff hgiven hy).2 ((ho.find?_eq_none_iff hgiven hy).1 hfind)).symm
    | some days =>
      obtain ⟨d, hd, hdname, rfl⟩ := (exists_mayRead_iff hgiven hy hpos).1 ⟨o, ho, hfind⟩
      cases hfind' : o'.find? name with
      | none => exact absurd hdname ((ho'.find?_eq_none_iff hgiven hy).1 hfind' d hd)
      | some days' =>
        obtain ⟨e, he, hename, rfl⟩ := (exists_mayRead_iff hgiven hy hpos).1 ⟨o', ho', hfind'⟩
        rw [h d hd e he hdname hename]

end

/-- **What threshold a filter has.**  Of the thresholds that are accepted, the ones that a filter
can be found to have are those whose names have its key.  Each of them is found if the table yields
it last, so which one is found is certain exactly if they all give the same number of days. -/
theorem find?_thresholds (q : TaskQuery) {o : Overrides} (h : q.overrides = .ok o)
    (name : String) :
    q.MayRead o ∧ ∃ given entries, q.given? = some given ∧ Yields given entries ∧
      (∀ days, (∃ o', q.MayRead o' ∧ o'.find? name = some days) ↔
        ∃ e ∈ entries, Overrides.Names name e ∧ e.2 = days) ∧
      (∀ o', q.MayRead o' →
        (o'.find? name = none ↔ ∀ e ∈ entries, ¬ Overrides.Names name e)) ∧
      ((∀ o₁ o₂, q.MayRead o₁ → q.MayRead o₂ → o₁.find? name = o₂.find? name) ↔
        ∀ d ∈ entries, ∀ e ∈ entries, Overrides.Names name d → Overrides.Names name e →
          d.2 = e.2) := by
  obtain ⟨given, hgiven, hpos, rfl⟩ := overrides_eq_ok_iff.1 h
  have hy := yields_distinctEntries given
  exact ⟨⟨given, _, hgiven, hy, hpos, rfl⟩, given, _, hgiven, hy,
    fun days => exists_mayRead_iff hgiven hy hpos, fun o' ho' => ho'.find?_eq_none_iff hgiven hy,
    find?_certain_iff hgiven hy hpos⟩

/-- Two spellings of one name that agree, and another name. -/
theorem find?_thresholds_respelled :
    let q : TaskQuery :=
      ⟨.default, none, none, some "\x7b\"Due Soon\": 3, \"stale\": 9, \"due_soon\": 3\x7d"⟩
    ∃ o, q.overrides = .ok o ∧ o.find? "due  SOON" = some 3 ∧
      ∀ o₁ o₂, q.MayRead o₁ → q.MayRead o₂ → o₁.find? "due  SOON" = o₂.find? "due  SOON" := by
  intro q
  have hgiven : q.given? = some [("Due Soon", 3), ("stale", 9), ("due_soon", 3)] := by cbv
  have hread : q.overrides =
      .ok (.ofEntries ([("Due Soon", 3), ("stale", 9)] ++ [("due_soon", 3)])) :=
    overrides_eq_ok_iff.2 ⟨_, hgiven, by decide, rfl⟩
  obtain ⟨-, given, entries, hgiven', hy, -, -, hcertain⟩ :=
    find?_thresholds q hread "due  SOON"
  obtain rfl := Option.some.inj (hgiven.symm.trans hgiven')
  have hthree : ∀ e ∈ entries, Overrides.Names "due  SOON" e → e.2 = 3 := by
    intro e he hname
    have hmem : e ∈ [("Due Soon", (3 : Int)), ("stale", 9), ("due_soon", 3)] :=
      (hy.perm (yields_distinctEntries _)).mem_iff.1 he
    simp only [List.mem_cons, List.not_mem_nil, or_false] at hmem
    rcases hmem with rfl | rfl | rfl
    · rfl
    · exact absurd hname (by decide)
    · rfl
  exact ⟨_, hread, Overrides.find?_ofEntries_concat (by decide),
    hcertain.2 fun d hd e he hdname hename =>
      (hthree d hd hdname).trans (hthree e he hename).symm⟩

/-- What is found need not be certain: of two spellings of one name, either can count. -/
theorem not_find?_certain :
    ¬ ∀ (q : TaskQuery) (o : Overrides), q.overrides = .ok o → ∀ name o₁ o₂, q.MayRead o₁ →
      q.MayRead o₂ → o₁.find? name = o₂.find? name := by
  intro h
  let q : TaskQuery := ⟨.default, none, none, some "\x7b\"Unfinished\": 1, \"unfinished\": 2\x7d"⟩
  have hgiven : q.given? = some [("Unfinished", 1), ("unfinished", 2)] := by cbv
  have hread : q.overrides = .ok (.ofEntries [("Unfinished", 1), ("unfinished", 2)]) :=
    overrides_eq_ok_iff.2 ⟨_, hgiven, by decide, rfl⟩
  have hy : Yields [("Unfinished", 1), ("unfinished", 2)] [("Unfinished", 1), ("unfinished", 2)] :=
    yields_distinctEntries _
  have hfirst : q.MayRead (.ofEntries ([("unfinished", 2)] ++ [("Unfinished", 1)])) :=
    ⟨_, _, hgiven, hy.of_perm (.swap ..), by decide, rfl⟩
  have hsecond : q.MayRead (.ofEntries ([("Unfinished", 1)] ++ [("unfinished", 2)])) :=
    ⟨_, _, hgiven, hy, by decide, rfl⟩
  have hsame := h q _ hread "Unfinished" _ _ hfirst hsecond
  rw [Overrides.find?_ofEntries_concat (by decide), Overrides.find?_ofEntries_concat (by decide)]
    at hsame
  cases hsame

end TaskQuery

end TaskBoard
