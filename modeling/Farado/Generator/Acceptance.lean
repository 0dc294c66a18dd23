import Farado.Generator.Dtos

/-!
# What the generated fromJson accepts

`fromJson` returns whether it could read every field. Being of the types of the fields at every
depth is another matter: a nested object is read by a constructor that drops the result, and a
vector takes whatever a loop can go over.
-/

namespace Farado

open Http

namespace Generator

section
variable (A : Arithmetic) (spec : Spec)

/-- A field that JSON has and that is not null. -/
def Present (name : Bytes) (json : Json) (type : CppType) (value : Json) : Prop :=
  ∃ fieldName, .data fieldName type ∈ spec.fields name ∧
    json.find? fieldName = some value ∧ value ≠ .null

/-- The JSON types of single values: a number for every type of numbers, and anything for JSON. -/
def asksFor : ItemType → Json → Bool
  | .string, .string _ => true
  | .int64, .number _ => true
  | .int64, .real _ => true
  | .int32, .number _ => true
  | .int32, .real _ => true
  | .double, .number _ => true
  | .double, .real _ => true
  | .float, .number _ => true
  | .float, .real _ => true
  | .bool, .boolean _ => true
  | .json, _ => true
  | _, _ => false

/-- What the declaration of a type asks for, at every depth. -/
inductive WellTyped : CppType → Json → Prop where
  | item {type : ItemType} {json : Json} (h : asksFor type json = true) :
      WellTyped (.item type) json
  | timePoint {json : Json} (h : asksFor .int64 json = true) : WellTyped .timePoint json
  | vector {type : ItemType} {items : List Json}
      (h : ∀ json ∈ items, WellTyped (.item type) json) : WellTyped (.vector type) (.array items)
  | dto {name : Bytes} {members : List (Bytes × Json)}
      (h : ∀ type value, Present spec name (.object members) type value → WellTyped type value) :
      WellTyped (.item (.dto name)) (.object members)

/-! ## The two ways to miss a type -/

/-- What `get` throws at. -/
def raises : ItemType → Json → Bool
  | .dto _, _ => false
  | .int32, .boolean _ => !A.takesBooleans
  | .float, .boolean _ => !A.takesBooleans
  | type, json => !asksFor type json

/-- A value that the block of a field cannot read: `get` throws at it, or at something that the loop
of a vector comes to. -/
def Rejected : CppType → Json → Prop
  | .item type, json => raises A type json = true
  | .timePoint, json => raises A .int64 json = true
  | .vector type, json => ∃ item ∈ visited json, raises A type item = true

/-- A value of another type that nothing throws at. -/
inductive Overlooked : CppType → Json → Prop where
  | boolean {type : ItemType} {b : Bool} (htype : type = .int32 ∨ type = .float)
      (htakes : A.takesBooleans = true) : Overlooked (.item type) (.boolean b)
  | loop {type : ItemType} {json : Json} (h : ∀ items, json ≠ .array items) :
      Overlooked (.vector type) json
  | item {type : ItemType} {items : List Json} {json : Json} (hmem : json ∈ items)
      (h : Overlooked (.item type) json) : Overlooked (.vector type) (.array items)
  | notAnObject {name : Bytes} {json : Json} (h : ∀ members, json ≠ .object members) :
      Overlooked (.item (.dto name)) json
  | dropped {name : Bytes} {members : List (Bytes × Json)} {type : CppType} {value : Json}
      (hpresent : Present spec name (.object members) type value) (h : Rejected A type value) :
      Overlooked (.item (.dto name)) (.object members)
  | field {name : Bytes} {members : List (Bytes × Json)} {type : CppType} {value : Json}
      (hpresent : Present spec name (.object members) type value) (h : Overlooked type value) :
      Overlooked (.item (.dto name)) (.object members)

end

variable {A : Arithmetic} {spec : Spec}

/-! ## What is read -/

theorem getAs_eq_none_iff {type : ItemType} {json : Json} :
    getAs A spec type json = none ↔ raises A type json = true := by
  cases type <;> cases json <;> simp [getAs, raises, asksFor]

theorem convert_item_eq_none_iff {type : ItemType} {json : Json} :
    convert A spec (.item type) json = none ↔ raises A type json = true := by
  cases json with
  | object members => cases type <;> simp [convert, getAs, raises, asksFor]
  | null | boolean | number | real | string | array =>
    rw [convert_item (by simp), getAs_eq_none_iff]

theorem mapM_eq_none_iff {α β : Type} {f : α → Option β} {l : List α} :
    l.mapM f = none ↔ ∃ a ∈ l, f a = none := by
  induction l with
  | nil => simp
  | cons a l ih =>
    rw [List.mapM_cons]
    cases hf : f a with
    | none => simp [hf]
    | some b =>
      have hrest : l.mapM f = none ↔ ∃ x ∈ a :: l, f x = none := by simp [hf, ih]
      rw [← hrest]
      cases l.mapM f <;> simp

/-- **A block fails at the values that are rejected**, at no others. -/
theorem convert_eq_none_iff {type : CppType} {json : Json} :
    convert A spec type json = none ↔ Rejected A type json := by
  cases type with
  | item type => exact convert_item_eq_none_iff
  | timePoint =>
    show _ ↔ raises A .int64 json = true
    cases json <;> simp [convert, getAs, raises, asksFor]
  | vector type =>
    show _ ↔ ∃ item ∈ visited json, raises A type item = true
    rw [convert_vector, Option.map_eq_none_iff, mapM_eq_none_iff]
    simp only [convert_item_eq_none_iff]

theorem readField_snd_eq_false_iff {json : Json} {name : Bytes} {type : CppType} {old : Value} :
    (readField A spec json (.data name type) old).2 = false ↔
      ∃ value, json.find? name = some value ∧ value ≠ .null ∧ Rejected A type value := by
  dsimp only [readField]
  split
  · next h => simp [h]
  · next h => simp [h]
  · next value hnull h =>
    have hiff : convert A spec type value = none ↔ Rejected A type value := convert_eq_none_iff
    cases hconvert : convert A spec type value with
    | some new => simp [h, ← hiff, hconvert]
    | none => simpa [h, ← hiff, hconvert] using hnull

theorem readField_fails_iff {json : Json} {field : Field} {old : Value} :
    (readField A spec json field old).2 = false ↔
      ∃ name type, field = .data name type ∧
        ∃ value, json.find? name = some value ∧ value ≠ .null ∧ Rejected A type value := by
  cases field with
  | const name value => simp [readField]
  | data name type => simp [readField_snd_eq_false_iff]

/-- **`fromJson` fails at the rejected fields of its own**, at nothing below them. -/
theorem success_fromJson_iff {name : Bytes} {object : Object spec name} {json : Json} :
    (fromJson A spec object json).2 = true ↔
      ¬ ∃ type value, Present spec name json type value ∧ Rejected A type value := by
  rw [success_fromJson, ← Bool.not_eq_false, not_iff_not, List.all_eq_false]
  constructor
  · rintro ⟨field, hmem, hfails⟩
    obtain ⟨fieldName, type, rfl, value, hfind, hnull, hrejected⟩ :=
      readField_fails_iff.mp (Bool.not_eq_true _ ▸ hfails)
    exact ⟨type, value, ⟨fieldName, hmem, hfind, hnull⟩, hrejected⟩
  · rintro ⟨type, value, ⟨fieldName, hmem, hfind, hnull⟩, hrejected⟩
    refine ⟨.data fieldName type, hmem, ?_⟩
    rw [Bool.not_eq_true, readField_snd_eq_false_iff]
    exact ⟨value, hfind, hnull, hrejected⟩

/-! ## Being of the types of the fields -/

theorem sizeOf_lt_of_present {name : Bytes} {members : List (Bytes × Json)} {type : CppType}
    {value : Json} (h : Present spec name (.object members) type value) :
    sizeOf value < sizeOf (Json.object members) := by
  obtain ⟨fieldName, -, hfind, -⟩ := h
  obtain ⟨before, after, rfl, -⟩ := List.lookup_eq_some_iff.mp hfind
  have hmem : (fieldName, value) ∈ before ++ (fieldName, value) :: after :=
    List.mem_append_cons_self
  have hlt := List.sizeOf_lt_of_mem hmem
  simp only [Prod.mk.sizeOf_spec, Json.object.sizeOf_spec] at hlt ⊢
  omega

theorem raises_eq_false_of_asksFor {type : ItemType} {json : Json}
    (h : asksFor type json = true) : raises A type json = false := by
  cases type <;> cases json <;> first | rfl | cases h

theorem WellTyped.not_rejected {type : CppType} {json : Json} (h : WellTyped spec type json) :
    ¬ Rejected A type json := by
  cases h with
  | item hasks =>
    show ¬ raises A _ json = true
    simp [raises_eq_false_of_asksFor hasks]
  | timePoint hasks =>
    show ¬ raises A .int64 json = true
    simp [raises_eq_false_of_asksFor hasks]
  | @vector type items hitems =>
    rintro ⟨item, hmem, hraises⟩
    cases hitems item hmem with
    | item hasks =>
      rw [raises_eq_false_of_asksFor hasks] at hraises
      cases hraises
    | dto => cases hraises
  | dto => exact Bool.noConfusion

theorem Overlooked.not_wellTyped {type : CppType} {json : Json}
    (h : Overlooked A spec type json) : ¬ WellTyped spec type json := by
  induction h with
  | boolean htype htakes =>
    intro hwell
    cases hwell with
    | item hasks => rcases htype with rfl | rfl <;> cases hasks
  | loop hjson =>
    intro hwell
    cases hwell with
    | vector => exact hjson _ rfl
  | item hmem hitem ih =>
    intro hwell
    cases hwell with
    | vector hitems => exact ih (hitems _ hmem)
  | notAnObject hjson =>
    intro hwell
    cases hwell with
    | item hasks => cases hasks
    | dto => exact hjson _ rfl
  | dropped hpresent hrejected =>
    intro hwell
    cases hwell with
    | item hasks => cases hasks
    | dto hfields => exact (hfields _ _ hpresent).not_rejected hrejected
  | field hpresent hover ih =>
    intro hwell
    cases hwell with
    | item hasks => cases hasks
    | dto hfields => exact ih (hfields _ _ hpresent)

/-- What `get` reads is a boolean, or of the JSON type that was asked for. -/
theorem asksFor_of_not_raises {type : ItemType} {json : Json} (hdto : ∀ name, type ≠ .dto name)
    (hraises : ¬ raises A type json = true) (hover : ¬ Overlooked A spec (.item type) json) :
    asksFor type json = true := by
  cases type with
  | dto name => exact absurd rfl (hdto name)
  | int32 | float =>
    cases json with
    | boolean b =>
      have htakes : A.takesBooleans = true := by simpa [raises] using hraises
      exact absurd (.boolean (by simp) htakes) hover
    | number | real => rfl
    | null | string | array | object => simp [raises, asksFor] at hraises
  | string | int64 | double | bool | json => simpa [raises] using hraises

/-- **What is neither rejected nor overlooked is of its type**, at every depth. -/
theorem wellTyped_of_not_overlooked {type : CppType} {json : Json}
    (hrejected : ¬ Rejected A type json) (hover : ¬ Overlooked A spec type json) :
    WellTyped spec type json := by
  -- the values of an object and the items of an array are smaller
  induction hk : sizeOf json using Nat.strongRecOn generalizing type json with
  | _ k ih =>
    subst hk
    cases type with
    | timePoint =>
      apply WellTyped.timePoint
      simpa [raises, Rejected] using hrejected
    | vector type =>
      by_cases harray : ∃ items, json = .array items
      · obtain ⟨items, rfl⟩ := harray
        apply WellTyped.vector
        intro item hmem
        have hlt : sizeOf item < sizeOf (Json.array items) := by
          have := List.sizeOf_lt_of_mem hmem
          rw [Json.array.sizeOf_spec]
          omega
        apply ih _ hlt _ _ rfl
        · exact fun hitem => hrejected ⟨item, hmem, hitem⟩
        · exact fun hitem => hover (.item hmem hitem)
      · exact absurd (.loop fun items hitems => harray ⟨items, hitems⟩) hover
    | item type =>
      by_cases hdto : ∃ name, type = .dto name
      · obtain ⟨name, rfl⟩ := hdto
        by_cases hobject : ∃ members, json = .object members
        · obtain ⟨members, rfl⟩ := hobject
          apply WellTyped.dto
          intro type value hpresent
          apply ih _ (sizeOf_lt_of_present hpresent) _ _ rfl
          · exact fun hvalue => hover (.dropped hpresent hvalue)
          · exact fun hvalue => hover (.field hpresent hvalue)
        · exact absurd (.notAnObject fun members hm => hobject ⟨members, hm⟩) hover
      · apply WellTyped.item
        exact asksFor_of_not_raises (fun name hname => hdto ⟨name, hname⟩) hrejected hover

theorem wellTyped_iff {type : CppType} {json : Json} :
    WellTyped spec type json ↔ ¬ Rejected A type json ∧ ¬ Overlooked A spec type json := by
  constructor
  · intro h
    exact ⟨h.not_rejected, fun hover => hover.not_wellTyped h⟩
  · rintro ⟨hrejected, hover⟩
    exact wellTyped_of_not_overlooked hrejected hover

/-! ## Acceptance -/

/-- `fromJson` returns true if and only if every field that is there is of its type, at every
depth. -/
def ChecksTypes (A : Arithmetic) {name : Bytes} (object : Object spec name) (json : Json) : Prop :=
  (fromJson A spec object json).2 = true ↔
    ∀ type value, Present spec name json type value → WellTyped spec type value

/-- **The result says whether the fields are of their types** exactly when one of them is rejected
anyway, or none is overlooked. -/
theorem checksTypes_iff (A : Arithmetic) (spec : Spec) (name : Bytes) (object : Object spec name)
    (json : Json) :
    ChecksTypes A object json ↔
      (∃ type value, Present spec name json type value ∧ Rejected A type value) ∨
        ¬ ∃ type value, Present spec name json type value ∧ Overlooked A spec type value := by
  rw [ChecksTypes, success_fromJson_iff]
  by_cases hrejected : ∃ type value, Present spec name json type value ∧ Rejected A type value
  · have hnot : ¬ ∀ type value, Present spec name json type value → WellTyped spec type value := by
      obtain ⟨type, value, hpresent, hvalue⟩ := hrejected
      exact fun h => (h type value hpresent).not_rejected hvalue
    simp [hrejected, hnot]
  · have hnone : ∀ type value, Present spec name json type value → ¬ Rejected A type value :=
      fun type value hpresent hvalue => hrejected ⟨type, value, hpresent, hvalue⟩
    -- nothing is rejected, so what is left to miss a type is being overlooked
    have htyped : (∀ type value, Present spec name json type value → WellTyped spec type value) ↔
        ¬ ∃ type value, Present spec name json type value ∧ Overlooked A spec type value := by
      constructor
      · rintro h ⟨type, value, hpresent, hover⟩
        exact (wellTyped_iff.mp (h type value hpresent)).2 hover
      · intro h type value hpresent
        apply wellTyped_iff.mpr
        exact ⟨hnone type value hpresent, fun hover => h ⟨type, value, hpresent, hover⟩⟩
    simp [hrejected, htyped]

/-- The conversions for values that have no floating point numbers. -/
def withoutReals : Arithmetic := ⟨fun _ => 0, fun _ => 0, fun _ => 0, true⟩

/-- A page of items that are no array. -/
def textForItems : Json := .object [(bytes "items", .string (bytes "abc"))]

/-- A text in the place of the items is read as one item. -/
theorem not_checksTypes : ¬ ∀ (A : Arithmetic) (spec : Spec) (name : Bytes)
    (object : Object spec name) (json : Json), ChecksTypes A object json := by
  intro h
  have hpresent : Present openApi (bytes "PageResponse") textForItems (.vector .string)
      (.string (bytes "abc")) :=
    ⟨bytes "items", List.mem_cons_self, rfl, by simp⟩
  have hchecks := h withoutReals openApi (bytes "PageResponse") (Object.empty openApi _)
    textForItems
  cases hchecks.mp rfl _ _ hpresent

end Generator

end Farado
