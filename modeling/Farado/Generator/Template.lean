import Farado.Api.Json
import Farado.Lib.Floats

/-!
# The generated transfer objects

`dto.cpp.j2`, for any list of fields: what the generated `toJson` writes and what the generated
`fromJson` reads. A field may be another generated object or a vector of them, so both go as deep as
the value does. The names of the generated objects are known to the template here, as its branches
for nested objects have it.
-/

namespace Farado

open Http

namespace Generator

/-! ## Fields -/

/-- The types of single values. A nested object is given by its name. -/
inductive ItemType where
  | string
  | int64
  | int32
  | double
  | float
  | bool
  | json
  | dto (name : Bytes)
  deriving DecidableEq

/-- `cpp_type`. There is no vector of time points: nothing converts its items to JSON. -/
inductive CppType where
  | item (type : ItemType)
  | timePoint
  | vector (type : ItemType)
  deriving DecidableEq

/-- A field, by its name in JSON; a `const_value` is the text of a static constant. -/
inductive Field where
  | data (name : Bytes) (type : CppType)
  | const (name value : Bytes)
  deriving DecidableEq

def Field.name : Field → Bytes
  | data name _ => name
  | const name _ => name

/-- The generated objects with their fields, which the specification keeps apart by their names. -/
structure Spec where
  fields : Bytes → List Field
  nodup : ∀ name, ((fields name).map Field.name).Nodup

/-! ## Values -/

/-- What a field holds: nothing, or a value of its type. The fields of an object are in the order of
the specification, a constant takes the place of an empty one. A `float` and a `double` are bits. -/
inductive Value where
  | absent
  | string (s : Bytes)
  | int64 (n : Int)
  | int32 (n : Int)
  | double (bits : UInt64)
  | float (bits : UInt32)
  | bool (b : Bool)
  | json (json : Json)
  | timePoint (count : Int)
  | vector (items : List Value)
  | dto (fields : List Value)

/-- The numbers of C++ and of the JSON library: the conversions between integers and floating point
numbers, and whether `get` takes a boolean for a number where that is neither `int64_t` nor
`double`. -/
structure Arithmetic where
  truncate : UInt64 → Int
  doubleOfInt : Int → UInt64
  floatOfInt : Int → UInt32
  takesBooleans : Bool

/-- A generated object. -/
structure Object (spec : Spec) (name : Bytes) where
  values : List Value
  length_eq : values.length = (spec.fields name).length

/-! ## toJson -/

/-- `has_value()`, and what is asked beyond that: a vector that is not empty, and JSON that is not
null. -/
def isWritten : Value → Bool
  | .absent => false
  | .vector items => !items.isEmpty
  | .json json => !(json matches .null)
  | _ => true

theorem ne_absent_of_isWritten {value : Value} (h : isWritten value = true) : value ≠ .absent := by
  rintro rfl
  cases h

section
variable (spec : Spec)

mutual

def valueToJson : CppType → Value → Json
  | .item (.dto name), .dto values => .ofMembers (fieldsToJson (spec.fields name) values)
  | .vector type, .vector items => .array (itemsToJson type items)
  | _, .string s => .string s
  | _, .int64 n => .number n
  | _, .int32 n => .number n
  | _, .double bits => .real bits
  | _, .float bits => .real (Floats.widen bits)
  | _, .bool b => .boolean b
  | _, .json json => json
  | _, .timePoint count => .number (Dto.timePointToSeconds count)
  | _, _ => .null

/-- Block by block. -/
def fieldsToJson : List Field → List Value → List (Bytes × Json)
  | .const name value :: fields, _ :: values =>
      (name, .string value) :: fieldsToJson fields values
  | .data name type :: fields, value :: values =>
      if isWritten value then (name, valueToJson type value) :: fieldsToJson fields values
      else fieldsToJson fields values
  | _, _ => []

def itemsToJson (type : ItemType) : List Value → List Json
  | [] => []
  | item :: items => valueToJson (.item type) item :: itemsToJson type items

end

def toJson {name : Bytes} (object : Object spec name) : Json :=
  .ofMembers (fieldsToJson spec (spec.fields name) object.values)

end

theorem fieldsToJson_nil {spec : Spec} (values : List Value) : fieldsToJson spec [] values = [] := by
  cases values <;> rfl

/-! ## fromJson -/

section
variable (A : Arithmetic) (spec : Spec)

/-- `get<T>()` of a value that is not a nested object; nothing where it throws. -/
def getAs : ItemType → Json → Option Value
  | .string, .string s => some (.string s)
  | .int64, .number n => some (.int64 (n.bmod (2 ^ 64)))
  | .int64, .real bits => some (.int64 ((A.truncate bits).bmod (2 ^ 64)))
  | .int32, .number n => some (.int32 (n.bmod (2 ^ 32)))
  | .int32, .real bits => some (.int32 ((A.truncate bits).bmod (2 ^ 32)))
  | .int32, .boolean b => if A.takesBooleans then some (.int32 b.toNat) else none
  | .double, .number n => some (.double (A.doubleOfInt n))
  | .double, .real bits => some (.double bits)
  | .float, .number n => some (.float (A.floatOfInt n))
  | .float, .real bits => some (.float (Floats.narrow bits))
  | .float, .boolean b => if A.takesBooleans then some (.float (A.floatOfInt b.toNat)) else none
  | .bool, .boolean b => some (.bool b)
  | .json, json => some (.json json)
  -- an object that finds none of its fields
  | .dto name, _ => some (.dto ((spec.fields name).map fun _ => .absent))
  | _, _ => none

mutual

/-- The value of a field; nothing where an exception is caught. -/
def convert : CppType → Json → Option Value
  | .item (.dto name), .object members =>
      some (.dto ((spec.fields name).map fun field => construct field members))
  | .item type, json => getAs A spec type json
  | .timePoint, json =>
      match getAs A spec .int64 json with
      | some (.int64 n) => some (.timePoint (Dto.secondsToTimePoint n))
      | _ => none
  | .vector type, .array items => (convertItems type items).map .vector
  | .vector type, .object members => (convertMembers type members).map .vector
  | .vector _, .null => some (.vector [])
  -- a loop over a value that is neither visits it once
  | .vector type, json => (getAs A spec type json).map fun item => .vector [item]

/-- A field of a new object, and what the constructor makes of a failure. -/
def construct (field : Field) : List (Bytes × Json) → Value
  | [] => .absent
  | (name, json) :: members =>
      match field with
      | .const _ _ => .absent
      | .data fieldName type =>
          if name = fieldName then
            if json matches .null then .absent else (convert type json).getD .absent
          else construct field members

def convertItems (type : ItemType) : List Json → Option (List Value)
  | [] => some []
  | json :: items =>
      match convert (.item type) json, convertItems type items with
      | some value, some values => some (value :: values)
      | _, _ => none

/-- A loop over an object visits the values. -/
def convertMembers (type : ItemType) : List (Bytes × Json) → Option (List Value)
  | [] => some []
  | (_, json) :: members =>
      match convert (.item type) json, convertMembers type members with
      | some value, some values => some (value :: values)
      | _, _ => none

end

/-- One block of `fromJson`: what the field is after it, and whether `success` stays. -/
def readField (json : Json) (field : Field) (old : Value) : Value × Bool :=
  match field with
  | .const _ _ => (.absent, true)
  | .data name type =>
      match json.find? name with
      | none => (.absent, true)
      | some .null => (.absent, true)
      | some value =>
          match convert A spec type value with
          | some new => (new, true)
          | none => (old, false)

/-- Block by block, and the result. -/
def fromJson {name : Bytes} (object : Object spec name) (json : Json) : Object spec name × Bool :=
  let read := (spec.fields name).zipWith (readField A spec json) object.values
  ({ values := read.map Prod.fst
     length_eq := by rw [List.length_map, List.length_zipWith, object.length_eq, Nat.min_self] },
    read.all Prod.snd)

end

variable {A : Arithmetic} {spec : Spec}

/-! ## The constructor -/

/-- The default constructor: every field is empty. -/
def Object.empty (spec : Spec) (name : Bytes) : Object spec name where
  values := (spec.fields name).map fun _ => .absent
  length_eq := List.length_map _

theorem construct_eq (field : Field) (members : List (Bytes × Json)) :
    construct A spec field members = (readField A spec (.object members) field .absent).1 := by
  cases field with
  | const name value => cases members <;> rfl
  | data fieldName type =>
    induction members with
    | nil => rfl
    | cons member members ih =>
      obtain ⟨name, json⟩ := member
      unfold construct
      dsimp only
      by_cases hname : name = fieldName
      · subst hname
        have hfind : (Json.object ((name, json) :: members)).find? name = some json :=
          List.lookup_cons_self
        rw [if_pos rfl, readField, hfind]
        cases json <;> simp <;> cases convert A spec type _ <;> rfl
      · rw [if_neg hname, ih]
        have hfind : (Json.object ((name, json) :: members)).find? fieldName =
            (Json.object members).find? fieldName := by
          show List.lookup fieldName ((name, json) :: members) = _
          rw [List.lookup_cons, beq_false_of_ne (Ne.symm hname)]
          rfl
        rw [readField, readField, hfind]

theorem values_fromJson_empty (name : Bytes) (json : Json) :
    (fromJson A spec (Object.empty spec name) json).1.values =
      (spec.fields name).map fun field => (readField A spec json field .absent).1 := by
  dsimp only [fromJson, Object.empty]
  rw [List.zipWith_map_right, List.zipWith_self, List.map_map]
  rfl

/-- Whether a field can be read has nothing to do with what it was. -/
theorem readField_snd (json : Json) (field : Field) (old : Value) :
    (readField A spec json field old).2 = (readField A spec json field .absent).2 := by
  cases field with
  | const name value => rfl
  | data name type =>
    dsimp only [readField]
    split
    · rfl
    · rfl
    · split <;> rfl

/-- A field that is there, is not null and can be converted. -/
theorem readField_of_find? {json value : Json} {name : Bytes} {type : CppType} {new : Value}
    (hfind : json.find? name = some value) (hnull : value ≠ .null)
    (hconvert : convert A spec type value = some new) (old : Value) :
    readField A spec json (.data name type) old = (new, true) := by
  dsimp only [readField]
  rw [hfind]
  cases value with
  | null => exact absurd rfl hnull
  | boolean | number | real | string | array | object =>
    dsimp only
    rw [hconvert]

theorem readField_of_find?_none {json : Json} {name : Bytes} (hfind : json.find? name = none)
    (type : CppType) (old : Value) :
    readField A spec json (.data name type) old = (.absent, true) := by
  dsimp only [readField]
  rw [hfind]

theorem success_fromJson {name : Bytes} (object : Object spec name) (json : Json) :
    (fromJson A spec object json).2 =
      (spec.fields name).all fun field => (readField A spec json field .absent).2 := by
  obtain ⟨values, hlength⟩ := object
  show (List.zipWith (readField A spec json) (spec.fields name) values).all Prod.snd = _
  generalize spec.fields name = fields at hlength
  induction fields generalizing values with
  | nil => rfl
  | cons field fields ih =>
    cases values with
    | nil => cases hlength
    | cons value values =>
      rw [List.zipWith_cons_cons, List.all_cons, List.all_cons, readField_snd,
        ih values (Nat.succ.inj hlength)]

/-- **A nested object is read by its own `fromJson`**, whose result the constructor drops. -/
theorem convert_dto (name : Bytes) (json : Json) :
    convert A spec (.item (.dto name)) json =
      some (.dto (fromJson A spec (Object.empty spec name) json).1.values) := by
  rw [values_fromJson_empty]
  cases json with
  | object members =>
    unfold convert
    simp only [construct_eq]
  | null | boolean | number | real | string | array =>
    show some (Value.dto ((spec.fields name).map fun _ => .absent)) = _
    congr 2
    refine List.map_congr_left fun field _ => ?_
    cases field <;> rfl

/-! ## Vectors -/

/-- What a loop over a value visits. -/
def visited : Json → List Json
  | .array items => items
  | .object members => members.map Prod.snd
  | .null => []
  | json => [json]

/-- Outside an object no value goes deeper. -/
theorem convert_item {json : Json} (h : ∀ members, json ≠ .object members) (type : ItemType) :
    convert A spec (.item type) json = getAs A spec type json := by
  cases json with
  | object members => exact absurd rfl (h members)
  | null | boolean | number | real | string | array => cases type <;> rfl

theorem convertItems_eq (type : ItemType) (items : List Json) :
    convertItems A spec type items = items.mapM (convert A spec (.item type)) := by
  induction items with
  | nil => rfl
  | cons json items ih =>
    rw [convertItems, ih, List.mapM_cons]
    cases convert A spec (.item type) json with
    | none => rfl
    | some value => cases items.mapM (convert A spec (.item type)) <;> rfl

theorem convertMembers_eq (type : ItemType) (members : List (Bytes × Json)) :
    convertMembers A spec type members =
      (members.map Prod.snd).mapM (convert A spec (.item type)) := by
  rw [← convertItems_eq]
  induction members with
  | nil => rfl
  | cons member members ih =>
    obtain ⟨name, json⟩ := member
    rw [convertMembers, ih, List.map_cons, convertItems]

/-- A vector is what the loop collects. -/
theorem convert_vector (type : ItemType) (json : Json) :
    convert A spec (.vector type) json =
      ((visited json).mapM (convert A spec (.item type))).map .vector := by
  cases json with
  | array items =>
    rw [convert, convertItems_eq]
    rfl
  | object members =>
    rw [convert, convertMembers_eq]
    rfl
  | null => rfl
  | boolean | number | real | string =>
    show Option.map _ (getAs A spec type _) = Option.map _ (List.mapM _ [_])
    rw [List.mapM_cons, List.mapM_nil, convert_item (by simp)]
    cases getAs A spec type _ <;> rfl

end Generator

end Farado
