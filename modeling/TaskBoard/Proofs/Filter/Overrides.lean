import TaskBoard.Filter.Overrides
import TaskBoard.Proofs.Text.Blank
import TaskBoard.Proofs.Text.Lowercase

/-!
# Keys of overrides

The key of a name is a single word in small letters: the underscores that join its words are no
blanks.  So a key is its own key, and an override can be asked for by the name of a filter or by
its key.  Of the entries for a filter the last one counts, whichever of the two they give.

    nameKey (nameKey cs) = nameKey cs                           (nameKey_nameKey)
    how a name is spaced makes no difference to its key         (Spaced.nameKey_eq)
    what is found is the last entry with the key of the name    (find?_ofEntries_eq_some_iff)
-/

namespace TaskBoard

namespace Text

variable {cs : List Char}

/-- A key has small letters only, and no blanks. -/
theorem isLower_of_mem_nameKey {c : Char} (h : c ∈ nameKey cs) :
    IsLower c ∧ isBlank c = false := by
  rcases mem_of_mem_joinWith h with hsep | ⟨small, hsmall, hc⟩
  · obtain rfl : c = '_' := List.mem_singleton.1 hsep
    exact ⟨by decide +kernel, by decide⟩
  · obtain ⟨w, hw, rfl⟩ := List.mem_map.1 hsmall
    exact ⟨isLower_of_mem_lower hc,
      not_isBlank_of_mem_lower (fun _ => not_isBlank_of_mem_words hw) hc⟩

theorem nameKey_eq_self (h : ∀ c ∈ cs, IsLower c ∧ isBlank c = false) : nameKey cs = cs := by
  cases cs with
  | nil => rfl
  | cons c cs =>
    rw [nameKey, words_eq_self (List.cons_ne_nil c cs) fun d hd => (h d hd).2]
    exact lower_eq_self fun d hd => (h d hd).1

theorem nameKey_nameKey (cs : List Char) : nameKey (nameKey cs) = nameKey cs :=
  nameKey_eq_self fun _ => isLower_of_mem_nameKey

theorem Spaced.nameKey_eq {ws : List (List Char)} (h : Spaced ws cs) :
    nameKey cs = joinWith ['_'] (ws.map lower) := by
  rw [nameKey, h.words_eq]

theorem nameKey_trim (cs : List Char) : nameKey (trim cs) = nameKey cs := by
  rw [nameKey, words_trim, nameKey]

/-- `nameKey` on strings. -/
def keyed (s : String) : String := String.ofList (nameKey s.toList)

theorem keyed_eq_iff {s t : String} : keyed s = keyed t ↔ nameKey s.toList = nameKey t.toList :=
  String.ofList_inj

theorem keyed_keyed (s : String) : keyed (keyed s) = keyed s := by
  rw [keyed_eq_iff, keyed, String.toList_ofList, nameKey_nameKey]

end Text

namespace Overrides

/-- Whether an entry is for the filter of this name. -/
def Names (name : String) (e : String × Int) : Prop :=
  Text.nameKey e.1.toList = Text.nameKey name.toList

instance (name : String) (e : String × Int) : Decidable (Names name e) :=
  inferInstanceAs (Decidable (_ = _))

/-! ## Lemmas -/

/-- A filter is overridden under its trimmed name, too. -/
theorem find?_trimmed (o : Overrides) (name : String) :
    o.find? (Text.trimmed name) = o.find? name := by
  simp [find?, Text.trimmed, Text.nameKey_trim]

theorem find?_keyed (o : Overrides) (name : String) :
    o.find? (Text.keyed name) = o.find? name := by
  simp [find?, Text.keyed, Text.nameKey_nameKey]

variable {name : String} {entries : List (String × Int)} {e : String × Int} {days : Int}

theorem names_iff : Names name e ↔ Text.keyed e.1 = Text.keyed name := Text.keyed_eq_iff.symm

theorem ofEntries_concat (entries : List (String × Int)) (e : String × Int) :
    ofEntries (entries ++ [e]) = (ofEntries entries).insert e.1 e.2 :=
  List.foldl_concat ..

/-- The last entry for a filter is the one that is found. -/
theorem find?_ofEntries_concat (h : Names name e) :
    (ofEntries (entries ++ [e])).find? name = some e.2 := by
  have hkey : Text.nameKey e.1.toList = Text.nameKey name.toList := h
  simp [ofEntries_concat, insert, find?, hkey]

theorem find?_ofEntries_concat_of_not (h : ¬ Names name e) :
    (ofEntries (entries ++ [e])).find? name = (ofEntries entries).find? name := by
  rw [ofEntries_concat]
  exact find?_insert_of_ne _ _ fun heq => h heq.symm

theorem find?_ofEntries_eq_none_iff :
    (ofEntries entries).find? name = none ↔ ∀ e ∈ entries, ¬ Names name e := by
  induction entries using List.reverseRecOn with
  | nil => exact iff_of_true rfl nofun
  | append_singleton entries e ih =>
    by_cases h : Names name e
    · rw [find?_ofEntries_concat h]
      exact iff_of_false nofun fun hall => hall e (by simp) h
    · rw [find?_ofEntries_concat_of_not h, ih]
      simp [or_imp, forall_and, h]

/-- Entries for other filters make no difference. -/
theorem find?_ofEntries_append {back : List (String × Int)} (h : ∀ d ∈ back, ¬ Names name d) :
    (ofEntries (entries ++ back)).find? name = (ofEntries entries).find? name := by
  induction back using List.reverseRecOn with
  | nil => rw [List.append_nil]
  | append_singleton back d ih =>
    rw [← List.append_assoc, find?_ofEntries_concat_of_not (h d (by simp)),
      ih fun d hd => h d (List.mem_append_left _ hd)]

theorem find?_ofEntries_eq_some_iff :
    (ofEntries entries).find? name = some days ↔ ∃ front e back, entries = front ++ e :: back ∧
      Names name e ∧ e.2 = days ∧ ∀ d ∈ back, ¬ Names name d := by
  constructor
  · intro h
    induction entries using List.reverseRecOn with
    | nil => cases h
    | append_singleton entries d ih =>
      by_cases hd : Names name d
      · rw [find?_ofEntries_concat hd] at h
        exact ⟨entries, d, [], rfl, hd, Option.some.inj h, nofun⟩
      · rw [find?_ofEntries_concat_of_not hd] at h
        obtain ⟨front, e, back, rfl, he, hdays, hback⟩ := ih h
        refine ⟨front, e, back ++ [d], by simp, he, hdays, ?_⟩
        simpa [or_imp, forall_and, hd] using hback
  · rintro ⟨front, e, back, rfl, he, rfl, hback⟩
    rw [List.append_cons, find?_ofEntries_append hback, find?_ofEntries_concat he]

theorem exists_of_find?_ofEntries (h : (ofEntries entries).find? name = some days) :
    ∃ e ∈ entries, Names name e ∧ e.2 = days := by
  obtain ⟨front, e, back, rfl, he, hdays, -⟩ := find?_ofEntries_eq_some_iff.1 h
  exact ⟨e, by simp, he, hdays⟩

/-! ## Names and keys -/

/-- A key is its own key, and names with the same words have one key.  An override is found under
the name and under the key alike: it is the last entry whose name has that key. -/
theorem found_by_key :
    (∀ name, Text.keyed (Text.keyed name) = Text.keyed name) ∧
    (∀ ws m n, Text.Spaced ws m.toList → Text.Spaced ws n.toList →
      Text.keyed m = Text.keyed n) ∧
    ∀ entries name,
      (ofEntries entries).find? name = (ofEntries entries).find? (Text.keyed name) ∧
      (∀ days, (ofEntries entries).find? name = some days ↔
        ∃ front e back, entries = front ++ e :: back ∧ Text.keyed e.1 = Text.keyed name ∧
          e.2 = days ∧ ∀ d ∈ back, Text.keyed d.1 ≠ Text.keyed name) ∧
      ((ofEntries entries).find? name = none ↔
        ∀ e ∈ entries, Text.keyed e.1 ≠ Text.keyed name) := by
  refine ⟨Text.keyed_keyed, fun ws m n hm hn => ?_, fun entries name => ⟨?_, fun days => ?_, ?_⟩⟩
  · rw [Text.keyed_eq_iff, hm.nameKey_eq, hn.nameKey_eq]
  · exact (find?_keyed _ name).symm
  · simp only [find?_ofEntries_eq_some_iff, names_iff, Ne]
  · simp only [find?_ofEntries_eq_none_iff, names_iff, Ne]

/-- The capital sigma ends the first word in both spellings, and becomes a final one in both. -/
theorem found_by_key_sigma :
    Text.keyed "\tΟΔΟΣ  14 " = Text.keyed "ΟΔΟΣ 14" ∧
    Text.keyed (Text.keyed "ΟΔΟΣ 14") = Text.keyed "ΟΔΟΣ 14" ∧
    (ofEntries [("ΟΔΟΣ 14", 3), ("οδος_14", 5), ("οδοσ 14", 7)]).find? "ΟΔΟΣ 14" = some 5 := by
  obtain ⟨hkey, hspaced, hfind⟩ := found_by_key
  refine ⟨hspaced ["ΟΔΟΣ".toList, "14".toList] _ _ (Text.spaced_iff.2 (by decide))
    (Text.spaced_iff.2 (by decide)), hkey _, ?_⟩
  exact ((hfind _ _).2.1 5).2 ⟨[("ΟΔΟΣ 14", 3)], ("οδος_14", 5), [("οδοσ 14", 7)], rfl,
    by decide +kernel, rfl, by decide +kernel⟩

end Overrides

end TaskBoard
