import Farado.Generator.Acceptance

/-!
# Generated objects through JSON

An object that is written and read again is the one it was, less the empty vectors and the null JSON
in it: `toJson` asks for more than `has_value()` there. A nested object with nothing to write is
another matter, it becomes a null, which `fromJson` takes for a field that is not there.
-/

namespace Farado

open Http

namespace Generator

/-! ## Equality -/

section
variable (A : Arithmetic) (spec : Spec)

mutual

/-- `==` of JSON: an integer and a floating point number are compared as floating point numbers, a
signed and an unsigned one in 64 bits. -/
def equalJson : Json → Json → Bool
  | .null, .null => true
  | .boolean a, .boolean b => a == b
  | .number a, .number b => a.bmod (2 ^ 64) == b.bmod (2 ^ 64)
  | .number a, .real b => Floats.equal64 (A.doubleOfInt a) b
  | .real a, .number b => Floats.equal64 a (A.doubleOfInt b)
  | .real a, .real b => Floats.equal64 a b
  | .string a, .string b => a == b
  | .array a, .array b => equalElements a b
  | .object a, .object b => equalMembers a b
  | _, _ => false

def equalElements : List Json → List Json → Bool
  | [], [] => true
  | a :: as, b :: bs => equalJson a b && equalElements as bs
  | _, _ => false

def equalMembers : List (Bytes × Json) → List (Bytes × Json) → Bool
  | [], [] => true
  | (name, a) :: as, (name', b) :: bs => name == name' && equalJson a b && equalMembers as bs
  | _, _ => false

end

mutual

/-- `==` of two fields, which may both be empty. -/
def equalValues : CppType → Value → Value → Bool
  | .item (.dto name), .dto a, .dto b => equalFields (spec.fields name) a b
  | .vector type, .vector a, .vector b => equalItems type a b
  | _, .absent, .absent => true
  | _, .string a, .string b => a == b
  | _, .int64 a, .int64 b => a == b
  | _, .int32 a, .int32 b => a == b
  | _, .double a, .double b => Floats.equal64 a b
  | _, .float a, .float b => Floats.equal32 a b
  | _, .bool a, .bool b => a == b
  | _, .json a, .json b => equalJson A a b
  | _, .timePoint a, .timePoint b => a == b
  | _, _, _ => false

/-- Field by field, constants apart. -/
def equalFields : List Field → List Value → List Value → Bool
  | .const _ _ :: fields, _ :: as, _ :: bs => equalFields fields as bs
  | .data _ type :: fields, a :: as, b :: bs => equalValues type a b && equalFields fields as bs
  | [], [], [] => true
  | _, _, _ => false

def equalItems (type : ItemType) : List Value → List Value → Bool
  | [], [] => true
  | a :: as, b :: bs => equalValues (.item type) a b && equalItems type as bs
  | _, _ => false

end

/-- The generated `operator==`. -/
def Object.equal {name : Bytes} (a b : Object spec name) : Bool :=
  equalFields A spec (spec.fields name) a.values b.values

end

/-! ## Values that can be written -/

/-- No floating point number in it is an infinity or a NaN. -/
inductive FiniteJson : Json → Prop where
  | null : FiniteJson .null
  | boolean (b : Bool) : FiniteJson (.boolean b)
  | number (n : Int) : FiniteJson (.number n)
  | real {bits : UInt64} (h : Floats.Finite64 bits) : FiniteJson (.real bits)
  | string (s : Bytes) : FiniteJson (.string s)
  | array {items : List Json} (h : ∀ item ∈ items, FiniteJson item) : FiniteJson (.array items)
  | object {members : List (Bytes × Json)} (h : ∀ member ∈ members, FiniteJson member.2) :
      FiniteJson (.object members)

section
variable (spec : Spec)

/-- A value of a type: time points are whole seconds, floating point numbers are finite. -/
inductive HasType : CppType → Value → Prop where
  | string (s : Bytes) : HasType (.item .string) (.string s)
  | int64 {n : Int} (hge : -2 ^ 63 ≤ n) (hlt : n < 2 ^ 63) : HasType (.item .int64) (.int64 n)
  | int32 {n : Int} (hge : -2 ^ 31 ≤ n) (hlt : n < 2 ^ 31) : HasType (.item .int32) (.int32 n)
  | double {bits : UInt64} (h : Floats.Finite64 bits) : HasType (.item .double) (.double bits)
  | float {bits : UInt32} (h : Floats.Finite32 bits) : HasType (.item .float) (.float bits)
  | bool (b : Bool) : HasType (.item .bool) (.bool b)
  | json {json : Json} (h : FiniteJson json) : HasType (.item .json) (.json json)
  | timePoint {seconds : Int} (h : Dto.SecondsFit seconds) :
      HasType .timePoint (.timePoint (seconds * 1000000000))
  | vector {type : ItemType} {items : List Value}
      (h : ∀ item ∈ items, HasType (.item type) item) : HasType (.vector type) (.vector items)
  | dto {name : Bytes} {values : List Value} (hlength : values.length = (spec.fields name).length)
      (h : ∀ fieldName type value, (.data fieldName type, value) ∈ (spec.fields name).zip values →
        value ≠ .absent → HasType type value) : HasType (.item (.dto name)) (.dto values)

/-! ## What is written -/

/-- No block of `toJson` writes. -/
def writesNothing : List Field → List Value → Bool
  | .const _ _ :: _, _ :: _ => false
  | .data _ _ :: fields, value :: values => !isWritten value && writesNothing fields values
  | _, _ => true

/-- Somewhere in a value a field holds an object that has nothing to write. -/
inductive HoldsSilent : CppType → Value → Prop where
  | here {name nested : Bytes} {values nestedValues : List Value} {fieldName : Bytes}
      (hmem : (.data fieldName (.item (.dto nested)), .dto nestedValues) ∈
        (spec.fields name).zip values)
      (h : writesNothing (spec.fields nested) nestedValues = true) :
      HoldsSilent (.item (.dto name)) (.dto values)
  | field {name : Bytes} {values : List Value} {fieldName : Bytes} {type : CppType} {value : Value}
      (hmem : (.data fieldName type, value) ∈ (spec.fields name).zip values)
      (h : HoldsSilent type value) : HoldsSilent (.item (.dto name)) (.dto values)
  | item {type : ItemType} {items : List Value} {item : Value} (hmem : item ∈ items)
      (h : HoldsSilent (.item type) item) : HoldsSilent (.vector type) (.vector items)

mutual

/-- A value without the fields that are not written. -/
def tidy : CppType → Value → Value
  | .item (.dto name), .dto values => .dto (tidyFields (spec.fields name) values)
  | .vector type, .vector items => .vector (tidyItems type items)
  | _, value => value

def tidyFields : List Field → List Value → List Value
  | .const _ _ :: fields, _ :: values => .absent :: tidyFields fields values
  | .data _ type :: fields, value :: values =>
      (if isWritten value then tidy type value else .absent) :: tidyFields fields values
  | _, _ => []

def tidyItems (type : ItemType) : List Value → List Value
  | [] => []
  | item :: items => tidy (.item type) item :: tidyItems type items

end

end

variable {A : Arithmetic} {spec : Spec}

/-! ## Equality of finite values -/

theorem equalElements_self {items : List Json} (h : ∀ item ∈ items, equalJson A item item = true) :
    equalElements A items items = true := by
  induction items with
  | nil => rfl
  | cons item items ih =>
    rw [equalElements, h item List.mem_cons_self, ih fun a ha => h a (List.mem_cons_of_mem _ ha)]
    rfl

theorem equalMembers_self {members : List (Bytes × Json)}
    (h : ∀ member ∈ members, equalJson A member.2 member.2 = true) :
    equalMembers A members members = true := by
  induction members with
  | nil => rfl
  | cons member members ih =>
    rw [equalMembers, h member List.mem_cons_self, ih fun a ha => h a (List.mem_cons_of_mem _ ha)]
    simp

theorem equalJson_self {json : Json} (h : FiniteJson json) : equalJson A json json = true := by
  induction h with
  | null => rfl
  | boolean | number | string => simp [equalJson]
  | real h => exact Floats.equal64_self h
  | array _ ih => exact equalElements_self ih
  | object _ ih => exact equalMembers_self ih

theorem equalItems_self {type : ItemType} {items : List Value}
    (h : ∀ item ∈ items, equalValues A spec (.item type) item item = true) :
    equalItems A spec type items items = true := by
  induction items with
  | nil => rfl
  | cons item items ih =>
    rw [equalItems, h item List.mem_cons_self, ih fun a ha => h a (List.mem_cons_of_mem _ ha)]
    rfl

theorem equalFields_self {fields : List Field} {values : List Value}
    (hlength : values.length = fields.length)
    (h : ∀ fieldName type value, (.data fieldName type, value) ∈ fields.zip values →
      equalValues A spec type value value = true) :
    equalFields A spec fields values values = true := by
  induction fields generalizing values with
  | nil =>
    cases values with
    | nil => rfl
    | cons => cases hlength
  | cons field fields ih =>
    cases values with
    | nil => cases hlength
    | cons value values =>
      have hrest : equalFields A spec fields values values = true :=
        ih (Nat.succ.inj hlength) fun fieldName type v hv =>
          h fieldName type v (List.mem_cons_of_mem _ hv)
      cases field with
      | const name text => exact hrest
      | data name type =>
        rw [equalFields, h name type value List.mem_cons_self, hrest]
        rfl

theorem equalValues_absent (type : CppType) : equalValues A spec type .absent .absent = true := by
  cases type with
  | item type => cases type <;> rfl
  | timePoint | vector => rfl

theorem equalValues_self {type : CppType} {value : Value} (h : HasType spec type value) :
    equalValues A spec type value value = true := by
  induction h with
  | string | bool | int64 | int32 | timePoint => simp [equalValues]
  | double h => exact Floats.equal64_self h
  | float h => exact Floats.equal32_self h
  | json h => exact equalJson_self h
  | vector _ ih => exact equalItems_self ih
  | dto hlength _ ih =>
    apply equalFields_self hlength
    intro fieldName type value hmem
    by_cases habsent : value = .absent
    · rw [habsent, equalValues_absent]
    · exact ih fieldName type value hmem habsent

/-! ## Leaving out what is not written -/

/-- A field without what is not written. -/
def tidyField (spec : Spec) : Field → Value → Value
  | .const _ _, _ => .absent
  | .data _ type, value => if isWritten value then tidy spec type value else .absent

theorem tidyFields_eq (fields : List Field) (values : List Value) :
    tidyFields spec fields values = fields.zipWith (tidyField spec) values := by
  induction fields generalizing values with
  | nil => cases values <;> rfl
  | cons field fields ih =>
    cases values with
    | nil => cases field <;> rfl
    | cons value values =>
      cases field <;> rw [tidyFields, ih] <;> rfl

theorem tidyItems_eq (type : ItemType) (items : List Value) :
    tidyItems spec type items = items.map (tidy spec (.item type)) := by
  induction items with
  | nil => rfl
  | cons item items ih => rw [tidyItems, ih, List.map_cons]

theorem mem_zip_zipWith {α β γ : Type} {f : α → β → γ} {as : List α} {bs : List β} {a : α} {c : γ}
    (h : (a, c) ∈ as.zip (as.zipWith f bs)) : ∃ b, (a, b) ∈ as.zip bs ∧ c = f a b := by
  induction as generalizing bs with
  | nil => cases h
  | cons a' as ih =>
    cases bs with
    | nil => cases h
    | cons b bs =>
      rcases List.mem_cons.mp h with heq | hmem
      · cases heq
        exact ⟨b, List.mem_cons_self, rfl⟩
      · obtain ⟨b', hb', hc⟩ := ih hmem
        exact ⟨b', List.mem_cons_of_mem _ hb', hc⟩

/-- What is left is of the type. -/
theorem HasType.tidy {type : CppType} {value : Value} (h : HasType spec type value) :
    HasType spec type (tidy spec type value) := by
  induction h with
  | string s => exact .string s
  | int64 hge hlt => exact .int64 hge hlt
  | int32 hge hlt => exact .int32 hge hlt
  | double h => exact .double h
  | float h => exact .float h
  | bool b => exact .bool b
  | json h => exact .json h
  | timePoint h => exact .timePoint h
  | vector _ ih =>
    apply HasType.vector
    rw [tidyItems_eq]
    intro item hmem
    obtain ⟨item', hmem', rfl⟩ := List.mem_map.mp hmem
    exact ih item' hmem'
  | @dto name values hlength _ ih =>
    have hlength' : (tidyFields spec (spec.fields name) values).length =
        (spec.fields name).length := by
      rw [tidyFields_eq, List.length_zipWith, hlength, Nat.min_self]
    refine .dto hlength' fun fieldName type value hmem hpresent => ?_
    rw [tidyFields_eq] at hmem
    obtain ⟨value', hmem', rfl⟩ := mem_zip_zipWith hmem
    dsimp only [tidyField] at hpresent ⊢
    split at hpresent
    · next hwritten =>
      rw [if_pos hwritten]
      exact ih fieldName type value' hmem' (ne_absent_of_isWritten hwritten)
    · exact absurd rfl hpresent

/-! ## What is found -/

/-- What a block of `toJson` writes under the name of its field. -/
def written (spec : Spec) : Field → Value → Option Json
  | .const _ text, _ => some (.string text)
  | .data _ type, value => if isWritten value then some (valueToJson spec type value) else none

theorem fieldsToJson_cons (field : Field) (fields : List Field) (value : Value)
    (values : List Value) :
    fieldsToJson spec (field :: fields) (value :: values) =
      ((written spec field value).map fun json => (field.name, json)).toList ++
        fieldsToJson spec fields values := by
  cases field with
  | const name text => rfl
  | data name type =>
    rw [fieldsToJson, written]
    split <;> rfl

theorem lookup_fieldsToJson_eq_none {fields : List Field} {values : List Value} {name : Bytes}
    (h : name ∉ fields.map Field.name) : (fieldsToJson spec fields values).lookup name = none := by
  induction fields generalizing values with
  | nil => rw [fieldsToJson_nil, List.lookup_nil]
  | cons field fields ih =>
    cases values with
    | nil => cases field <;> rfl
    | cons value values =>
      rw [List.map_cons, List.mem_cons, not_or] at h
      rw [fieldsToJson_cons, List.lookup_append, ih h.2, Option.or_none, Json.lookup_toList_of_ne h.1]

theorem lookup_fieldsToJson {fields : List Field} {values : List Value}
    (hnodup : (fields.map Field.name).Nodup) {field : Field} {value : Value}
    (hmem : (field, value) ∈ fields.zip values) :
    (fieldsToJson spec fields values).lookup field.name = written spec field value := by
  induction fields generalizing values with
  | nil => cases hmem
  | cons field' fields ih =>
    cases values with
    | nil => cases hmem
    | cons value' values =>
      rw [List.map_cons, List.nodup_cons] at hnodup
      rw [fieldsToJson_cons, List.lookup_append]
      rcases List.mem_cons.mp hmem with heq | hmem
      · cases heq
        rw [lookup_fieldsToJson_eq_none hnodup.1, Option.or_none]
        cases written spec field value <;> simp
      · have hne : field.name ≠ field'.name := by
          intro heq
          apply hnodup.1
          rw [← heq]
          exact List.mem_map_of_mem (List.of_mem_zip hmem).1
        rw [ih hnodup.2 hmem, Json.lookup_toList_of_ne hne, Option.none_or]

/-- Every field is found under its name, or was not written. -/
theorem find?_toJson {name : Bytes} {values : List Value} {field : Field} {value : Value}
    (hmem : (field, value) ∈ (spec.fields name).zip values) :
    (Json.ofMembers (fieldsToJson spec (spec.fields name) values)).find? field.name =
      written spec field value := by
  rw [Json.find?_ofMembers]
  exact lookup_fieldsToJson (spec.nodup name) hmem

/-! ## Nothing is rejected -/

theorem itemsToJson_eq (type : ItemType) (items : List Value) :
    itemsToJson spec type items = items.map (valueToJson spec (.item type)) := by
  induction items with
  | nil => rfl
  | cons item items ih => rw [itemsToJson, ih, List.map_cons]

theorem HasType.not_raises {type : ItemType} {value : Value} (h : HasType spec (.item type) value) :
    raises A type (valueToJson spec (.item type) value) = false := by
  cases h <;> rfl

theorem HasType.not_rejected {type : CppType} {value : Value} (h : HasType spec type value) :
    ¬ Rejected A type (valueToJson spec type value) := by
  cases type with
  | item type => exact Bool.not_eq_true _ ▸ h.not_raises
  | timePoint =>
    cases h
    exact Bool.noConfusion
  | vector type =>
    cases h with
    | @vector _ items hitems =>
      rintro ⟨json, hmem, hraises⟩
      have hmem' : json ∈ itemsToJson spec type items := hmem
      rw [itemsToJson_eq] at hmem'
      obtain ⟨item, hitem, rfl⟩ := List.mem_map.mp hmem'
      rw [(hitems item hitem).not_raises] at hraises
      cases hraises

theorem exists_mem_zip {α β : Type} {as : List α} {bs : List β} (hlength : bs.length = as.length)
    {a : α} (h : a ∈ as) : ∃ b, (a, b) ∈ as.zip bs := by
  obtain ⟨i, hi, rfl⟩ := List.getElem_of_mem h
  have hzip : i < (as.zip bs).length := by rw [List.length_zip, hlength, Nat.min_self]; exact hi
  have hget : (as.zip bs)[i] = (as[i], bs[i]) := List.getElem_zip
  exact ⟨_, hget ▸ List.getElem_mem hzip⟩

/-- **What `toJson` writes is accepted.** -/
theorem success_toJson {name : Bytes} {object : Object spec name}
    (h : HasType spec (.item (.dto name)) (.dto object.values)) (old : Object spec name) :
    (fromJson A spec old (toJson spec object)).2 = true := by
  rw [success_fromJson_iff]
  rintro ⟨type, json, ⟨fieldName, hfield, hfind, -⟩, hrejected⟩
  cases h with
  | dto hlength hvalues =>
    obtain ⟨value, hmem⟩ := exists_mem_zip hlength hfield
    have hwritten : written spec (.data fieldName type) value = some json :=
      (find?_toJson hmem).symm.trans hfind
    dsimp only [written] at hwritten
    split at hwritten
    · next hisWritten =>
      cases hwritten
      have htype := hvalues fieldName type value hmem (ne_absent_of_isWritten hisWritten)
      exact htype.not_rejected hrejected
    · cases hwritten

/-! ## Reading back -/

theorem writesNothing_of_fieldsToJson {fields : List Field} {values : List Value}
    (h : fieldsToJson spec fields values = []) : writesNothing fields values = true := by
  induction fields generalizing values with
  | nil => cases values <;> rfl
  | cons field fields ih =>
    cases values with
    | nil => cases field <;> rfl
    | cons value values =>
      cases field with
      | const name text => cases h
      | data name type =>
        rw [fieldsToJson] at h
        split at h
        · cases h
        · next hwritten =>
          rw [writesNothing, Bool.eq_false_iff.mpr hwritten, ih h]
          rfl

/-- What a field holds is not written as null, unless it is an object with nothing to write. -/
theorem HasType.valueToJson_ne_null {type : CppType} {value : Value} (h : HasType spec type value)
    (hwritten : isWritten value = true)
    (hsilent : ∀ name values, type = .item (.dto name) → value = .dto values →
      ¬ writesNothing (spec.fields name) values = true) :
    valueToJson spec type value ≠ .null := by
  cases h with
  | @json json _ =>
    intro hnull
    have hnull' : json = .null := hnull
    rw [hnull'] at hwritten
    cases hwritten
  | @dto name values _ _ =>
    intro hnull
    have hmembers : Json.ofMembers (fieldsToJson spec (spec.fields name) values) = .null := hnull
    have hnil : fieldsToJson spec (spec.fields name) values = [] := by
      cases hcons : fieldsToJson spec (spec.fields name) values with
      | nil => rfl
      | cons member members =>
        rw [hcons] at hmembers
        cases hmembers
    exact hsilent name values rfl rfl (writesNothing_of_fieldsToJson hnil)
  | string | int64 | int32 | double | float | bool | timePoint | vector => exact Json.noConfusion

theorem zipWith_eq_zipWith {α β γ δ : Type} {f : α → β → δ} {g : α → γ → δ} {as : List α}
    {bs : List β} {cs : List γ} (hbs : bs.length = as.length) (hcs : cs.length = as.length)
    (h : ∀ a c, (a, c) ∈ as.zip cs → ∀ b, f a b = g a c) : as.zipWith f bs = as.zipWith g cs := by
  induction as generalizing bs cs with
  | nil => rw [List.zipWith_nil_left, List.zipWith_nil_left]
  | cons a as ih =>
    cases bs with
    | nil => cases hbs
    | cons b bs =>
      cases cs with
      | nil => cases hcs
      | cons c cs =>
        have hrest := ih (Nat.succ.inj hbs) (Nat.succ.inj hcs) fun a' c' hmem =>
          h a' c' (List.mem_cons_of_mem _ hmem)
        rw [List.zipWith_cons_cons, List.zipWith_cons_cons, h a c List.mem_cons_self b, hrest]

/-- An object comes back when each of its fields does. -/
theorem values_fromJson {name : Bytes} {values : List Value}
    (hlength : values.length = (spec.fields name).length)
    (hvalues : ∀ fieldName type value,
      (.data fieldName type, value) ∈ (spec.fields name).zip values → value ≠ .absent →
        HasType spec type value)
    (hsilent : ¬ HoldsSilent spec (.item (.dto name)) (.dto values))
    (hconvert : ∀ fieldName type value,
      (.data fieldName type, value) ∈ (spec.fields name).zip values → value ≠ .absent →
        ¬ HoldsSilent spec type value →
          convert A spec type (valueToJson spec type value) = some (tidy spec type value))
    (old : Object spec name) :
    (fromJson A spec old (.ofMembers (fieldsToJson spec (spec.fields name) values))).1.values =
      tidyFields spec (spec.fields name) values := by
  dsimp only [fromJson]
  rw [List.map_zipWith, tidyFields_eq]
  refine zipWith_eq_zipWith old.length_eq hlength fun field value hmem b => ?_
  have hfind := find?_toJson hmem
  cases field with
  | const fieldName text => rfl
  | data fieldName type =>
    dsimp only [written, Field.name] at hfind
    dsimp only [tidyField]
    by_cases hwritten : isWritten value = true
    · have hpresent : value ≠ .absent := ne_absent_of_isWritten hwritten
      have hnull : valueToJson spec type value ≠ .null := by
        apply (hvalues fieldName type value hmem hpresent).valueToJson_ne_null hwritten
        rintro nested nestedValues rfl rfl hnothing
        exact hsilent (.here hmem hnothing)
      have hback := hconvert fieldName type value hmem hpresent fun hv =>
        hsilent (.field hmem hv)
      rw [if_pos hwritten] at hfind
      rw [if_pos hwritten, readField_of_find? hfind hnull hback]
    · rw [if_neg hwritten] at hfind
      rw [if_neg hwritten, readField_of_find?_none hfind]

theorem mapM_map_eq_some {α β γ : Type} {f : β → Option γ} {g : α → β} {g' : α → γ} {l : List α}
    (h : ∀ a ∈ l, f (g a) = some (g' a)) : (l.map g).mapM f = some (l.map g') := by
  induction l with
  | nil => rfl
  | cons a l ih =>
    rw [List.map_cons, List.mapM_cons, h a List.mem_cons_self,
      ih fun b hb => h b (List.mem_cons_of_mem _ hb)]
    rfl

/-- **What is written is converted back**, less what is not written. -/
theorem convert_valueToJson {type : CppType} {value : Value} (h : HasType spec type value)
    (hsilent : ¬ HoldsSilent spec type value) :
    convert A spec type (valueToJson spec type value) = some (tidy spec type value) := by
  induction h with
  | string | bool | double => rfl
  | @int64 n hge hlt =>
    show some (Value.int64 (n.bmod (2 ^ 64))) = some (.int64 n)
    rw [Int.bmod_eq_of_le (by omega) (by omega)]
  | @int32 n hge hlt =>
    show some (Value.int32 (n.bmod (2 ^ 32))) = some (.int32 n)
    rw [Int.bmod_eq_of_le (by omega) (by omega)]
  | @float bits h =>
    show some (Value.float (Floats.narrow (Floats.widen bits))) = some (.float bits)
    rw [Floats.narrow_widen h]
  | @json json h => cases json <;> rfl
  | @timePoint seconds h =>
    have hseconds : Dto.timePointToSeconds (seconds * 1000000000) = seconds := by
      rw [← Dto.secondsToTimePoint_of_fit h, Dto.timePointToSeconds_secondsToTimePoint h]
    show some (Value.timePoint (Dto.secondsToTimePoint
      ((Dto.timePointToSeconds (seconds * 1000000000)).bmod (2 ^ 64)))) = some (.timePoint _)
    rw [hseconds, Int.bmod_eq_of_le (by have := h.1; omega) (by have := h.2; omega),
      Dto.secondsToTimePoint_of_fit h]
  | @vector type items hitems ih =>
    rw [valueToJson, convert_vector, visited, itemsToJson_eq, tidy, tidyItems_eq]
    rw [mapM_map_eq_some fun item hmem => ih item hmem fun hitem => hsilent (.item hmem hitem)]
    rfl
  | @dto name values hlength hvalues ih =>
    rw [valueToJson, convert_dto, tidy, values_fromJson hlength hvalues hsilent ih]

/-! ## Whole objects -/

/-- The object that a nested one in its place would be. -/
def Object.toValue {name : Bytes} (object : Object spec name) : Value := .dto object.values

/-- An object without the fields that are not written. -/
def Object.tidy {name : Bytes} (object : Object spec name) : Object spec name where
  values := tidyFields spec (spec.fields name) object.values
  length_eq := by rw [tidyFields_eq, List.length_zipWith, object.length_eq, Nat.min_self]

/-- **An object that is written and read again** is accepted, and is the one it was less what is
not written, as long as no field holds an object that has nothing to write. -/
theorem fromJson_toJson (A : Arithmetic) (spec : Spec) (name : Bytes)
    (object old : Object spec name) (h : HasType spec (.item (.dto name)) object.toValue) :
    (fromJson A spec old (toJson spec object)).2 = true ∧
      (¬ HoldsSilent spec (.item (.dto name)) object.toValue →
        object.tidy.equal A spec (fromJson A spec old (toJson spec object)).1 = true) := by
  refine ⟨success_toJson h old, fun hsilent => ?_⟩
  have hvalues : (fromJson A spec old (toJson spec object)).1.values = object.tidy.values := by
    cases h with
    | dto hlength hfields =>
      exact values_fromJson hlength hfields hsilent
        (fun fieldName type value hmem hpresent =>
          convert_valueToJson (hfields fieldName type value hmem hpresent)) old
  rw [Object.equal, hvalues]
  exact equalValues_self h.tidy

/-! ## Pages -/

theorem mem_zip_pageResponse {items totalCount page pageSize : Value} {fieldName : Bytes}
    {type : CppType} {value : Value}
    (h : (Field.data fieldName type, value) ∈ (openApi.fields (bytes "PageResponse")).zip
      [items, totalCount, page, pageSize]) :
    type = .vector .string ∧ value = items ∨
      type = .item .int64 ∧ (value = totalCount ∨ value = page ∨ value = pageSize) := by
  have hmem : (Field.data fieldName type, value) ∈
      pageResponse.zip [items, totalCount, page, pageSize] := h
  simp only [pageResponse, List.zip_cons_cons, List.zip_nil_left, List.mem_cons, Prod.mk.injEq,
    Field.data.injEq, List.not_mem_nil, or_false] at hmem
  grind

theorem HasType.page (items : List Bytes) {totalCount page pageSize : Value}
    (h : ∀ value ∈ [totalCount, page, pageSize], value ≠ .absent →
      HasType openApi (.item .int64) value) :
    HasType openApi (.item (.dto (bytes "PageResponse")))
      (.dto [.vector (items.map .string), totalCount, page, pageSize]) := by
  refine .dto rfl fun fieldName type value hmem hpresent => ?_
  rcases mem_zip_pageResponse hmem with ⟨rfl, rfl⟩ | ⟨rfl, hvalue⟩
  · apply HasType.vector
    intro item hitem
    obtain ⟨s, -, rfl⟩ := List.mem_map.mp hitem
    exact .string s
  · exact h value (by simpa using hvalue) hpresent

theorem not_holdsSilent_page {items totalCount page pageSize : Value} :
    ¬ HoldsSilent openApi (.item (.dto (bytes "PageResponse")))
      (.dto [items, totalCount, page, pageSize]) := by
  intro h
  cases h with
  | here hmem _ => rcases mem_zip_pageResponse hmem with ⟨htype, -⟩ | ⟨htype, -⟩ <;> cases htype
  | field hmem h =>
    rcases mem_zip_pageResponse hmem with ⟨rfl, -⟩ | ⟨rfl, -⟩
    · cases h with
      | item _ h => cases h
    · cases h

/-- A page whose vector of items is empty. -/
def emptyPage : Object openApi (bytes "PageResponse") where
  values := [.vector [], .absent, .absent, .absent]
  length_eq := rfl

/-- The empty vector is not written, and comes back as an empty field. -/
theorem not_fromJson_toJson : ¬ ∀ (A : Arithmetic) (spec : Spec) (name : Bytes)
    (object old : Object spec name), HasType spec (.item (.dto name)) object.toValue →
      (fromJson A spec old (toJson spec object)).2 = true ∧
        object.equal A spec (fromJson A spec old (toJson spec object)).1 = true := by
  intro h
  have htype : HasType openApi (.item (.dto (bytes "PageResponse"))) emptyPage.toValue :=
    .page [] (by simp)
  have hequal := (h withoutReals openApi _ emptyPage (Object.empty openApi _) htype).2
  exact absurd hequal (by decide)

/-- A page of two items. -/
def pageOfTwo : Object openApi (bytes "PageResponse") where
  values := [.vector [.string (bytes "item1"), .string (bytes "item2")], .int64 42, .int64 42,
    .int64 42]
  length_eq := rfl

theorem pageOfTwo_hasType :
    HasType openApi (.item (.dto (bytes "PageResponse"))) pageOfTwo.toValue := by
  refine .page [bytes "item1", bytes "item2"] fun value hmem _ => ?_
  have hvalue : value = .int64 42 := by simpa using hmem
  rw [hvalue]
  exact .int64 (by decide) (by decide)

theorem fromJson_toJson_pageOfTwo :
    (fromJson withoutReals openApi (Object.empty openApi (bytes "PageResponse"))
      (toJson openApi pageOfTwo)).2 = true ∧
        pageOfTwo.tidy.equal withoutReals openApi (fromJson withoutReals openApi
          (Object.empty openApi (bytes "PageResponse")) (toJson openApi pageOfTwo)).1 = true := by
  have h := fromJson_toJson withoutReals openApi _ pageOfTwo (Object.empty openApi _)
    pageOfTwo_hasType
  exact ⟨h.1, h.2 not_holdsSilent_page⟩

end Generator

end Farado
