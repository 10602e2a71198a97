import TaskBoard.Proofs.Filter.Acceptance
import TaskBoard.Proofs.Json.Decoding
import TaskBoard.Storage.Board

/-!
# Saving what is saved

The definition of a saved filter is a request to save that very filter: its words are spelled as
their names, by which they are known again, and its lengths are no greater than those of the
request that it came from.  The text of the definition is read as that request, but for doubles:
the shortest decimal of a double may be read as the double next to it.

    a saved definition is saved as it is                        (input_request)
    its lengths are within the bounds                           (faults_request)
    its members are read as the request                         (decoder_toJson, decoder_saved)
    saving what is saved changes nothing, if doubles read back  (ofBytes_resaved)
    a double that does not                                      (not_resaved)
-/

namespace TaskBoard

/-! ## Definitions as requests -/

/-- The definition of a condition as a request. -/
def ConditionInput.request (c : ConditionInput) : ConditionRequest :=
  ⟨c.kind, c.field, c.dateFrom, c.dateTo, some c.operator, c.values, c.unit⟩

/-- The definition of a filter as a request. -/
def FilterInput.request (i : FilterInput) : FilterRequest :=
  ⟨i.name, i.viewMode, some i.logic, i.isDefault, i.conditions.map (·.request)⟩

/-- The members that tell what a filter keeps. -/
def FilterInput.members (i : FilterInput) (conditions : Json) : List (String × Json) :=
  [("name", .string i.name), ("view_mode", .ofString? i.viewMode), ("operator", .string i.logic),
   ("is_default", .bool i.isDefault), ("conditions", conditions)]

/-- The definition of a filter as JSON. -/
def FilterInput.toJson (i : FilterInput) : Json :=
  .object (i.members (.array (i.conditions.map fun c => .object c.members)))

/-- The definition of a saved filter. -/
def SavedFilter.input (f : SavedFilter) : FilterInput :=
  ⟨f.name, f.viewMode, f.logic, f.isDefault, f.conditions.map (·.input)⟩

/-- What is saved of a request body. -/
def FilterInput.ofBytes (body : List UInt8) : Except Problem FilterInput :=
  FilterRequest.ofBytes body >>= FilterRequest.input

theorem Board.input_saved (b : Board) (workspace user : String) (id : Int) (i : FilterInput) :
    (b.saved workspace user id i).input = i := by
  simp [saved, SavedFilter.input, List.map_map, Function.comp_def]

/-! ## Words -/

namespace ConditionRequest

variable {position : Nat} {what : String}

/-- A field is known by its name. -/
theorem knownField_name {f : Field} (h : f ≠ .unknown) :
    knownField position what (some f.name) = .ok f := by
  unfold knownField
  dsimp only
  rw [Field.ofText_name]
  split
  · exact absurd rfl h
  · rfl

theorem dateField_name {f : Field} (h : f.kind = .date) :
    dateField position what (some f.name) = .ok f := by
  have hknown : f ≠ .unknown := by
    rintro rfl
    cases h
  rw [dateField, knownField_name hknown]
  exact if_pos h

theorem knownOperator_name {op : Operator} (h : op ≠ .unknown) :
    knownOperator position op.name = .ok op := by
  unfold knownOperator
  rw [Operator.ofText_name]
  split
  · exact absurd rfl h
  · rfl

theorem rangeOperator_name : rangeOperator position (some Operator.between.name) = .ok .between :=
  rfl

end ConditionRequest

namespace ConditionInput

open ConditionRequest

/-- An accepted condition is accepted again, and saved as it is. -/
theorem Accepted.input_request {c : ConditionInput} (h : c.Accepted) (position : Nat) :
    c.request.input position = .ok c := by
  unfold ConditionRequest.input
  -- The name of its kind leads an accepted condition to the branch that accepted it.
  cases h with
  | @list f op vs hf ho hb =>
    rw [request, ConditionKind.ofText_name .list]
    simp only [listInput, knownField_name hf, Option.getD_some, knownOperator_name ho]
    exact if_neg hb
  | @dateDiff earlier later op vs u he hl =>
    rw [request, ConditionKind.ofText_name .dateDiff]
    have ho : Operator.compare op ≠ .unknown := nofun
    simp only [dateDiffInput, dateField_name he, dateField_name hl, Option.getD_some,
      knownOperator_name ho, DayUnit.ofText?_name u]
    rfl
  | @dateRange f vs hf =>
    rw [request, ConditionKind.ofText_name .dateRange]
    simp only [dateRangeInput, dateField_name hf, rangeOperator_name]
    rfl

theorem inputs_request {cs : List ConditionInput} (h : ∀ c ∈ cs, c.Accepted) (position : Nat) :
    ConditionRequest.inputs position (cs.map (·.request)) = .ok cs := by
  induction cs generalizing position with
  | nil => rfl
  | cons c cs ih =>
    obtain ⟨hc, hcs⟩ := List.forall_mem_cons.1 h
    rw [List.map_cons, ConditionRequest.inputs, hc.input_request, ih hcs]
    rfl

end ConditionInput

namespace FilterRequest

variable {r : FilterRequest} {i : FilterInput}

theorem knownLogic_name (l : Logic) : knownLogic (some l.name) = .ok l := by
  cases l <;> rfl

/-- What is accepted of a request: its name is trimmed, its words are known, and everything else
stays. -/
theorem input_eq_ok (h : r.input = .ok i) :
    i.name = Text.trimmed r.name ∧ i.viewMode = r.viewMode ∧ i.isDefault = r.isDefault ∧
      (∃ l, knownLogic r.logic = .ok l ∧ i.logic = l.name) ∧
      ConditionRequest.inputs 1 r.conditions = .ok i.conditions := by
  obtain ⟨l, hl, h⟩ := bind_eq_ok.1 h
  obtain ⟨cs, hcs, h⟩ := bind_eq_ok.1 h
  cases h
  exact ⟨rfl, rfl, rfl, ⟨l, hl, rfl⟩, hcs⟩

/-- What is saved is saved as it is. -/
theorem input_request (h : r.input = .ok i) : i.request.input = .ok i := by
  obtain ⟨hname, -, -, ⟨l, -, hlogic⟩, hconditions⟩ := input_eq_ok h
  have haccepted := ConditionRequest.accepted_of_inputs hconditions
  have htrim : Text.trimmed i.name = i.name := by
    rw [hname, Text.trimmed, Text.trimmed, String.toList_ofList, Text.trim_trim]
  unfold input FilterInput.request
  simp only [hlogic, knownLogic_name, ConditionInput.inputs_request haccepted, htrim]
  show Except.ok ⟨i.name, i.viewMode, l.name, i.isDefault, i.conditions⟩ = .ok i
  rw [← hlogic]

end FilterRequest

/-! ## Lengths -/

namespace ConditionRequest

/-- Nothing of the values is changed, and no condition is left out. -/
theorem values_of_input {position : Nat} {r : ConditionRequest} {c : ConditionInput}
    (h : r.input position = .ok c) : c.values = r.values := by
  unfold input at h
  split at h
  · obtain ⟨f, -, h⟩ := bind_eq_ok.1 h
    obtain ⟨op, -, h⟩ := bind_eq_ok.1 h
    split at h
    · cases h
    · cases h
      rfl
  · obtain ⟨earlier, -, h⟩ := bind_eq_ok.1 h
    obtain ⟨later, -, h⟩ := bind_eq_ok.1 h
    obtain ⟨op, -, h⟩ := bind_eq_ok.1 h
    split at h
    · cases h
    · split at h
      · cases h
      · cases h
        rfl
  · obtain ⟨f, -, h⟩ := bind_eq_ok.1 h
    obtain ⟨op, -, h⟩ := bind_eq_ok.1 h
    split at h
    · cases h
    · cases h
      rfl
  · cases h

theorem map_values_of_inputs {position : Nat} {rs : List ConditionRequest}
    {cs : List ConditionInput} (h : inputs position rs = .ok cs) :
    cs.map (·.values) = rs.map (·.values) := by
  induction rs generalizing position cs with
  | nil =>
    cases h
    rfl
  | cons r rs ih =>
    obtain ⟨c, hc, h⟩ := bind_eq_ok.1 h
    obtain ⟨cs', hcs, h⟩ := bind_eq_ok.1 h
    cases h
    rw [List.map_cons, List.map_cons, values_of_input hc, ih hcs]

end ConditionRequest

namespace FilterRequest

variable {body : List UInt8} {r : FilterRequest} {i : FilterInput}

/-- A request that is read comes from its body, and its lengths are within the bounds. -/
theorem ofBytes_eq_ok_iff :
    ofBytes body = .ok r ↔ Json.decodeBytes decoder body = .ok r ∧ r.faults = [] := by
  unfold ofBytes
  constructor
  · intro h
    split at h
    · cases h
    · cases h
    · next r' hread =>
      split at h
      · cases h
      · next hnone =>
        cases h
        exact ⟨hread, (Problem.ofFaults?_eq_none_iff _).1 hnone⟩
  · rintro ⟨hread, hfaults⟩
    rw [hread]
    simp only [(Problem.ofFaults?_eq_none_iff _).2 hfaults]

theorem nameFits_iff (r : FilterRequest) :
    r.nameFits = true ↔ 1 ≤ r.name.length ∧ r.name.length ≤ maxNameLength := by
  simp [nameFits]

/-- The lengths of what is saved are no greater than those of the request. -/
theorem faults_request (hr : r.faults = []) (h : r.input = .ok i) (hname : i.name ≠ "") :
    i.request.faults = [] := by
  obtain ⟨htrimmed, hview, -, -, hconditions⟩ := input_eq_ok h
  have hlength := congrArg List.length (ConditionRequest.map_values_of_inputs hconditions)
  rw [List.length_map, List.length_map] at hlength
  rw [faults_eq_nil_iff] at hr ⊢
  obtain ⟨hfits, hviewFits, hconditionsFit⟩ := hr
  refine ⟨?_, ?_, ?_⟩
  · have hle := Text.length_trimmed_le r.name
    rw [← htrimmed] at hle
    have hpos : i.name.length ≠ 0 := fun h0 => hname (String.length_eq_zero_iff.1 h0)
    rw [nameFits_iff] at hfits ⊢
    exact ⟨Nat.one_le_iff_ne_zero.2 hpos, hle.trans hfits.2⟩
  · rw [viewModeFits, FilterInput.request, hview]
    exact hviewFits
  · simp only [conditionsFit, FilterInput.request, List.length_map, hlength] at hconditionsFit ⊢
    exact hconditionsFit

end FilterRequest

/-! ## Reading a definition -/

namespace ConditionRequest

open Json

/-- The members of a condition are read as the condition. -/
theorem decoder_members {room : Nat} {c : ConditionInput}
    (h : ∀ v ∈ c.values, v.Nests room) :
    decoder (room + 2) (Doc.ofJson (.object c.members)) = .ok c.request := by
  have hvalues : Decoder.list .value (room + 1) (.array (Doc.ofJsons c.values)) = .ok c.values :=
    Decoder.list_value h
  have hstring : ∀ s, Decoder.string (room + 1) (.string s) = .ok s := fun _ => rfl
  have hsome : ∀ s, Decoder.optional .string (room + 1) (.string s) = .ok (some s) := fun _ => rfl
  simp [decoder, Decoder.record, Decoder.fields, Doc.ofJson, Doc.ofMembers,
    ConditionInput.members, Decoder.fillNamed, slots, Decoder.Slot.reading, Draft.blank,
    Decoder.optional_string, hvalues, hstring, hsome, Except.map, bind, Except.bind,
    Draft.finish?, ConditionInput.request]

/-- A condition that has been saved is read as what was saved. -/
theorem decoder_saved {room : Nat} {c : SavedCondition}
    (h : ∀ v ∈ c.input.values, v.Nests room) :
    decoder (room + 2) (Doc.ofJson c.toJson) = .ok c.input.request := by
  have hfilter : (("id", .ofInt c.id) :: c.input.members).filter
      (fun m => Decoder.isField slots m.1) = c.input.members := by
    simp [slots, Decoder.Slot.reading, Decoder.isField, ConditionInput.members]
  rw [← decoder_members h, decoder, SavedCondition.toJson, Decoder.record_filter, hfilter]

end ConditionRequest

namespace FilterRequest

open Json

variable {room : Nat}

/-- The members of a filter are read as the filter, if its conditions are. -/
theorem decoder_members {i : FilterInput} {conditions : Json}
    (h : Decoder.list ConditionRequest.decoder (room + 3) (Doc.ofJson conditions) =
      .ok (i.conditions.map (·.request))) :
    decoder (room + 4) (Doc.ofJson (.object (i.members conditions))) = .ok i.request := by
  have hstring : ∀ s, Decoder.string (room + 3) (.string s) = .ok s := fun _ => rfl
  have hsome : ∀ s, Decoder.optional .string (room + 3) (.string s) = .ok (some s) := fun _ => rfl
  have hbool : ∀ b, Decoder.bool (room + 3) (.bool b) = .ok b := fun _ => rfl
  simp [decoder, Decoder.record, Decoder.fields, Doc.ofJson, Doc.ofMembers,
    FilterInput.members, Decoder.fillNamed, slots, Decoder.Slot.reading, Draft.blank,
    Decoder.optional_string, h, hstring, hsome, hbool, Except.map, bind, Except.bind,
    Draft.finish?, FilterInput.request]

theorem decoder_toJson {i : FilterInput} (h : ∀ c ∈ i.conditions, ∀ v ∈ c.values, v.Nests room) :
    decoder (room + 4) (Doc.ofJson i.toJson) = .ok i.request :=
  decoder_members (Decoder.list_map _ fun c hc => ConditionRequest.decoder_members (h c hc))

/-- A filter that has been saved is read as what was saved. -/
theorem decoder_saved {f : SavedFilter}
    (h : ∀ c ∈ f.input.conditions, ∀ v ∈ c.values, v.Nests room) :
    decoder (room + 4) (Doc.ofJson f.toJson) = .ok f.input.request := by
  have hconditions := Decoder.list_map (f := SavedCondition.toJson) (g := (·.input.request))
    f.conditions fun c hc => ConditionRequest.decoder_saved (h c.input (List.mem_map_of_mem hc))
  have hmap : f.conditions.map (·.input.request) = f.input.conditions.map (·.request) :=
    (List.map_map (f := SavedCondition.input) (g := ConditionInput.request)).symm
  rw [hmap] at hconditions
  rw [← decoder_members hconditions, decoder, SavedFilter.toJson, Decoder.record_filter]
  simp [slots, Decoder.Slot.reading, Decoder.isField, FilterInput.members,
    SavedFilter.input]

end FilterRequest

/-! ## Values that were read -/

namespace ConditionRequest

open Json

/-- The values that a condition has so far. -/
def Draft.WasRead (room : Nat) (d : Draft) : Prop :=
  ∀ vs, d.values = some vs → ∀ v ∈ vs, v.WasRead room

theorem wasRead_of_decoder {room : Nat} {d : Doc} {r : ConditionRequest} (hd : d.Fits)
    (h : decoder (room + 2) d = .ok r) : ∀ v ∈ r.values, v.WasRead room := by
  have hblank : Draft.blank.WasRead room := by rintro _ ⟨⟩
  have hslots : ∀ s ∈ slots, ∀ (r : Draft) (d : Doc) (r' : Draft), d.Fits → r.WasRead room →
      s.fill r (room + 1) d = .ok r' → r'.WasRead room := by
    intro s hs r d r' hd hr hfill
    simp only [slots, List.mem_cons, List.not_mem_nil, or_false] at hs
    -- One field alone holds values; the others leave them as they are.
    rcases hs with rfl | rfl | rfl | rfl | rfl | rfl | rfl
    case inr.inr.inr.inr.inr.inl =>
      obtain ⟨vs, hvs, rfl⟩ := Decoder.reading_eq_ok hfill
      obtain ⟨items, rfl, hitems⟩ := Decoder.list_eq_ok hvs
      rintro _ ⟨⟩ v hv
      obtain ⟨d, hd', hv⟩ := hitems v hv
      exact Doc.wasRead_of_value? (Doc.fits_array_iff.1 hd d hd') (Decoder.value_eq_ok hv)
    all_goals
      obtain ⟨a, -, rfl⟩ := Decoder.reading_eq_ok hfill
      exact hr
  obtain ⟨draft, hdraft, hfinish⟩ := Decoder.record_keeps_of hslots hblank hd.each h
  obtain ⟨kind, -, hfinish⟩ := Option.bind_eq_some_iff.1 hfinish
  cases hfinish
  cases hvalues : draft.values with
  | none => simp
  | some vs => simpa [hvalues] using hdraft vs hvalues

end ConditionRequest

namespace FilterRequest

open Json

/-- The values of the conditions that a filter has so far. -/
def Draft.WasRead (room : Nat) (d : Draft) : Prop :=
  ∀ cs, d.conditions = some cs → ∀ c ∈ cs, ∀ v ∈ c.values, v.WasRead room

theorem wasRead_of_decoder {room : Nat} {d : Doc} {r : FilterRequest} (hd : d.Fits)
    (h : decoder (room + 4) d = .ok r) : ∀ c ∈ r.conditions, ∀ v ∈ c.values, v.WasRead room := by
  have hblank : Draft.blank.WasRead room := by rintro _ ⟨⟩
  have hslots : ∀ s ∈ slots, ∀ (r : Draft) (d : Doc) (r' : Draft), d.Fits → r.WasRead room →
      s.fill r (room + 3) d = .ok r' → r'.WasRead room := by
    intro s hs r d r' hd hr hfill
    simp only [slots, List.mem_cons, List.not_mem_nil, or_false] at hs
    -- One field alone holds conditions.
    rcases hs with rfl | rfl | rfl | rfl | rfl
    case inr.inr.inr.inr =>
      obtain ⟨cs, hcs, rfl⟩ := Decoder.reading_eq_ok hfill
      obtain ⟨items, rfl, hitems⟩ := Decoder.list_eq_ok hcs
      rintro _ ⟨⟩ c hc
      obtain ⟨d, hd', hc⟩ := hitems c hc
      exact ConditionRequest.wasRead_of_decoder (Doc.fits_array_iff.1 hd d hd') hc
    all_goals
      obtain ⟨a, -, rfl⟩ := Decoder.reading_eq_ok hfill
      exact hr
  obtain ⟨draft, hdraft, hfinish⟩ := Decoder.record_keeps_of hslots hblank hd.each h
  obtain ⟨name, -, hfinish⟩ := Option.bind_eq_some_iff.1 hfinish
  cases hfinish
  cases hconditions : draft.conditions with
  | none => simp
  | some cs => simpa [hconditions] using hdraft cs hconditions

end FilterRequest

/-! ## Numbers of a definition -/

/-- The numbers of a condition are those of its values. -/
theorem ConditionInput.membersNumbers_members (c : ConditionInput) :
    Json.membersNumbers c.members = c.values.flatMap Json.numbers := by
  simp [members, Json.membersNumbers, Json.numbers, Json.itemsNumbers_eq]

/-- The numbers of a definition are those of its values. -/
theorem FilterInput.numbers_toJson (i : FilterInput) :
    i.toJson.numbers = (i.conditions.flatMap (·.values)).flatMap Json.numbers := by
  simp [toJson, members, Json.membersNumbers, Json.numbers, Json.itemsNumbers_eq,
    List.flatMap_map, List.flatMap_assoc, ConditionInput.membersNumbers_members]

theorem SavedCondition.numbers_toJson (c : SavedCondition) :
    c.toJson.numbers = .int c.id :: c.input.values.flatMap Json.numbers := by
  simp [toJson, Json.membersNumbers, Json.numbers, Json.ofInt,
    ConditionInput.membersNumbers_members]

/-- The numbers of a saved filter are those of its definition, and the numbers by which it and its
conditions are known. -/
theorem SavedFilter.mem_numbers {f : SavedFilter} {n : Json.Number} (h : n ∈ f.toJson.numbers) :
    (∃ id ∈ f.id :: f.conditions.map (·.id), n = .int id) ∨ n ∈ f.input.toJson.numbers := by
  have hf : f.toJson.numbers =
      .int f.id :: f.conditions.flatMap (fun c => c.toJson.numbers) := by
    simp [toJson, Json.membersNumbers, Json.numbers, Json.itemsNumbers_eq, Json.ofInt,
      List.flatMap_map]
  have hi : f.input.toJson.numbers =
      f.conditions.flatMap (fun c => c.input.values.flatMap Json.numbers) := by
    rw [FilterInput.numbers_toJson]
    simp [input, List.flatMap_map, List.flatMap_assoc]
  rw [hf] at h
  rw [hi]
  rcases List.mem_cons.1 h with rfl | h
  · exact .inl ⟨f.id, List.mem_cons_self, rfl⟩
  · obtain ⟨c, hc, h⟩ := List.mem_flatMap.1 h
    rw [SavedCondition.numbers_toJson] at h
    rcases List.mem_cons.1 h with rfl | h
    · exact .inl ⟨c.id, List.mem_cons_of_mem _ (List.mem_map_of_mem hc), rfl⟩
    · exact .inr (List.mem_flatMap.2 ⟨c, hc, h⟩)

/-! ## Saving again -/

namespace FilterInput

open Json

variable {body : List UInt8} {i : FilterInput}

/-- The values of what is saved are those that were read. -/
theorem wasRead_of_ofBytes (h : ofBytes body = .ok i) :
    ∀ c ∈ i.conditions, ∀ v ∈ c.values, v.WasRead 123 := by
  obtain ⟨r, hr, hi⟩ := bind_eq_ok.1 h
  have hread := of_decodeBytes (FilterRequest.ofBytes_eq_ok_iff.1 hr).1
  -- The conditions of a filter leave their values four levels of the depth fewer.
  have hwas : ∀ c ∈ r.conditions, ∀ v ∈ c.values, v.WasRead 123 :=
    FilterRequest.wasRead_of_decoder (Doc.fits_ofBytes body) hread
  have hvalues := ConditionRequest.map_values_of_inputs (FilterRequest.input_eq_ok hi).2.2.2.2
  intro c hc v hv
  have hmem : c.values ∈ r.conditions.map (·.values) := hvalues ▸ List.mem_map_of_mem hc
  obtain ⟨c', hc', hsame⟩ := List.mem_map.1 hmem
  exact hwas c' hc' v (hsame ▸ hv)

/-- Integers read back, so only the doubles matter. -/
theorem readsBack_of_ofBytes (h : ofBytes body = .ok i)
    (hdoubles : ∀ x, .double x ∈ i.toJson.numbers → (Number.double x).ReadsBack) :
    ∀ n ∈ i.toJson.numbers, n.ReadsBack := by
  intro n hn
  cases n with
  | double x => exact hdoubles x hn
  | int n =>
    rw [numbers_toJson] at hn
    obtain ⟨v, hv, hn⟩ := List.mem_flatMap.1 hn
    obtain ⟨c, hc, hv⟩ := List.mem_flatMap.1 hv
    exact readsBack_int ((wasRead_of_ofBytes h c hc v hv).2 _ hn)

/-- **Saving what is saved changes nothing.**  What is saved of a request body, if its trimmed name
is not empty and its doubles read back, is accepted as a request body, and that very definition is
saved again.  So it is with the answer that shows a filter of this definition, where its number and
those of its conditions stand besides, and its workspace and the time of its making. -/
theorem ofBytes_resaved (h : ofBytes body = .ok i) (hname : i.name ≠ "")
    (hdoubles : ∀ x, .double x ∈ i.toJson.numbers → (Number.double x).ReadsBack) :
    ofBytes (Utf8.bytes i.toJson.text) = .ok i ∧
      ∀ f : SavedFilter, f.input = i →
        (∀ id ∈ f.id :: f.conditions.map (·.id), (Number.int id).Fits) →
        ofBytes (Utf8.bytes f.toJson.text) = .ok i := by
  obtain ⟨r, hr, hi⟩ := bind_eq_ok.1 h
  have hnests := fun c hc v hv => (wasRead_of_ofBytes h c hc v hv).1
  have hnumbers := readsBack_of_ofBytes h hdoubles
  have hfaults := FilterRequest.faults_request (FilterRequest.ofBytes_eq_ok_iff.1 hr).2 hi hname
  have hsame := FilterRequest.input_request hi
  constructor
  · have hread : decodeValue FilterRequest.decoder i.toJson = .ok i.request :=
      FilterRequest.decoder_toJson hnests
    rw [← decodeBytes_text _ hnumbers] at hread
    exact bind_eq_ok.2 ⟨_, FilterRequest.ofBytes_eq_ok_iff.2 ⟨hread, hfaults⟩, hsame⟩
  · rintro f rfl hids
    have hall : ∀ n ∈ f.toJson.numbers, n.ReadsBack := by
      intro n hn
      rcases SavedFilter.mem_numbers hn with ⟨id, hid, rfl⟩ | hn
      · exact readsBack_int (hids id hid)
      · exact hnumbers n hn
    have hread : decodeValue FilterRequest.decoder f.toJson = .ok f.input.request :=
      FilterRequest.decoder_saved hnests
    rw [← decodeBytes_text _ hall] at hread
    exact bind_eq_ok.2 ⟨_, FilterRequest.ofBytes_eq_ok_iff.2 ⟨hread, hfaults⟩, hsame⟩

end FilterInput

namespace Sample

/-- A filter with one condition, a list with one double:
`{"name":"n","conditions":[{"kind":"list","field":"priority","operator":"=","values":[0.5]}]}`. -/
def doubleBody : List UInt8 :=
  [123, 34, 110, 97, 109, 101, 34, 58, 34, 110, 34, 44, 34, 99, 111, 110, 100, 105, 116, 105, 111,
   110, 115, 34, 58, 91, 123, 34, 107, 105, 110, 100, 34, 58, 34, 108, 105, 115, 116, 34, 44, 34,
   102, 105, 101, 108, 100, 34, 58, 34, 112, 114, 105, 111, 114, 105, 116, 121, 34, 44, 34, 111,
   112, 101, 114, 97, 116, 111, 114, 34, 58, 34, 61, 34, 44, 34, 118, 97, 108, 117, 101, 115, 34,
   58, 91, 48, 46, 53, 93, 125, 93, 125]

/-- The double of that list. -/
def half : Double := ⟨false, 4503599627370496, -53⟩

end Sample

/-- A filter with the value `0.5` is saved again as it is, from the text of its definition and from
the answer that shows it. -/
theorem FilterInput.ofBytes_resaved_half :
    let b : Board := ⟨[], [], [], 7, ⟨0, 0⟩⟩
    ∃ i, ofBytes Sample.doubleBody = .ok i ∧ i.name ≠ "" ∧
      i.toJson.numbers = [.double Sample.half] ∧
      ofBytes (Utf8.bytes i.toJson.text) = .ok i ∧
      ofBytes (Utf8.bytes (b.saved "w" "u" 7 i).toJson.text) = .ok i := by
  intro b
  have hread : (ofBytes Sample.doubleBody).toOption.map
      (fun i => (i.name, i.toJson.numbers, (b.saved "w" "u" 7 i).conditions.map (·.id))) =
        some ("n", [.double Sample.half], [700]) := by decide +kernel
  have hhalf : (Json.readLexeme (Utf8.bytes Sample.half.text)).map (fun p => (p.1.number?, p.2)) =
      some (some (.double Sample.half), []) := by decide +kernel
  obtain ⟨i, hi, hmembers⟩ := Option.map_eq_some_iff.1 hread
  obtain ⟨hname, hnumbers, hids⟩ : i.name = "n" ∧ i.toJson.numbers = [.double Sample.half] ∧
      (b.saved "w" "u" 7 i).conditions.map (·.id) = [700] := by simpa using hmembers
  have hok : ofBytes Sample.doubleBody = .ok i := ok_of_toOption hi
  have hdoubles : ∀ x, .double x ∈ i.toJson.numbers → (Json.Number.double x).ReadsBack := by
    intro x hx
    rw [hnumbers, List.mem_singleton] at hx
    obtain ⟨⟨l, rest⟩, hl, hparts⟩ := Option.map_eq_some_iff.1 hhalf
    obtain ⟨hvalue, rfl⟩ := Prod.mk.inj hparts
    exact hx ▸ ⟨l, hl, hvalue⟩
  have hnonempty : i.name ≠ "" := by
    rw [hname]
    decide
  obtain ⟨htext, hanswer⟩ := ofBytes_resaved hok hnonempty hdoubles
  refine ⟨i, hok, hnonempty, hnumbers, htext, hanswer _ (b.input_saved "w" "u" 7 i) ?_⟩
  rw [hids]
  intro id hid
  have : id = 7 ∨ id = 700 := by simpa [Board.saved] using hid
  rcases this with rfl | rfl <;> exact ⟨by decide, by decide⟩

namespace Sample

/-- A filter with one condition, a list with one large double:
`{"name":"n","conditions":[{"kind":"list","field":"priority","operator":"=","values":[30e22]}]}`. -/
def largeBody : List UInt8 :=
  [123, 34, 110, 97, 109, 101, 34, 58, 34, 110, 34, 44, 34, 99, 111, 110, 100, 105, 116, 105, 111,
   110, 115, 34, 58, 91, 123, 34, 107, 105, 110, 100, 34, 58, 34, 108, 105, 115, 116, 34, 44, 34,
   102, 105, 101, 108, 100, 34, 58, 34, 112, 114, 105, 111, 114, 105, 116, 121, 34, 44, 34, 111,
   112, 101, 114, 97, 116, 111, 114, 34, 58, 34, 61, 34, 44, 34, 118, 97, 108, 117, 101, 115, 34,
   58, 91, 51, 48, 101, 50, 50, 93, 125, 93, 125]

/-- The definition of that filter as JSON:
`{"name":"n","view_mode":null,"operator":"AND","is_default":false,
"conditions":[{"kind":"list","field":"priority","date_from":null,"date_to":null,
"operator":"=","values":[3e+23],"unit":null}]}`. -/
def printedBody : List UInt8 :=
  [123, 34, 110, 97, 109, 101, 34, 58, 34, 110, 34, 44, 34, 118, 105, 101, 119, 95, 109, 111, 100,
   101, 34, 58, 110, 117, 108, 108, 44, 34, 111, 112, 101, 114, 97, 116, 111, 114, 34, 58, 34, 65,
   78, 68, 34, 44, 34, 105, 115, 95, 100, 101, 102, 97, 117, 108, 116, 34, 58, 102, 97, 108, 115,
   101, 44, 34, 99, 111, 110, 100, 105, 116, 105, 111, 110, 115, 34, 58, 91, 123, 34, 107, 105,
   110, 100, 34, 58, 34, 108, 105, 115, 116, 34, 44, 34, 102, 105, 101, 108, 100, 34, 58, 34, 112,
   114, 105, 111, 114, 105, 116, 121, 34, 44, 34, 100, 97, 116, 101, 95, 102, 114, 111, 109, 34,
   58, 110, 117, 108, 108, 44, 34, 100, 97, 116, 101, 95, 116, 111, 34, 58, 110, 117, 108, 108,
   44, 34, 111, 112, 101, 114, 97, 116, 111, 114, 34, 58, 34, 61, 34, 44, 34, 118, 97, 108, 117,
   101, 115, 34, 58, 91, 51, 101, 43, 50, 51, 93, 44, 34, 117, 110, 105, 116, 34, 58, 110, 117,
   108, 108, 125, 93, 125]

end Sample

/-- Not everything that is saved is saved again as it is.  `30e22` is read as the double that is
printed as `3e+23`, for thirty and `10^22` are doubles themselves.  `10^23` is none, and `3e+23` is
read as the double below. -/
theorem FilterInput.not_resaved :
    ¬ ∀ (body : List UInt8) (i : FilterInput), ofBytes body = .ok i → i.name ≠ "" →
      ofBytes (Utf8.bytes i.toJson.text) = .ok i := by
  intro hall
  have hread : (ofBytes Sample.largeBody).toOption.map
      (fun i => (i.name, Utf8.encode i.toJson.render)) = some ("n", Sample.printedBody) := by
    decide +kernel
  have hvalue : (ofBytes Sample.largeBody).toOption.map (·.toJson.numbers) =
      some [.double ⟨false, 8940696716308594, 25⟩] := by decide +kernel
  have hnext : (ofBytes Sample.printedBody).toOption.map (·.toJson.numbers) =
      some [.double ⟨false, 8940696716308593, 25⟩] := by decide +kernel
  obtain ⟨i, hi, hprinted⟩ := Option.map_eq_some_iff.1 hread
  obtain ⟨hname, htext⟩ := Prod.mk.inj hprinted
  have hagain := hall _ i (ok_of_toOption hi) (by rw [hname]; decide)
  rw [Json.text, Utf8.bytes, String.toList_ofList, htext] at hagain
  rw [hi, Option.map_some] at hvalue
  rw [hagain] at hnext
  have hsame := hvalue.symm.trans hnext
  revert hsame
  decide

end TaskBoard
