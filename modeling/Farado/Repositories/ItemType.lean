import Farado.Repositories.Basic
import Farado.Storage.Dto

/-!
# Item types and their fields

`SqliteItemTypeRepository` and `SqliteFieldTypeRepository`. Unlike the other repositories these ask
how often a row is used before they delete it, and `create` and `update` check an enumerated column
against the list the schema has too.
-/

namespace Farado

open Relational Steps

/-- `'%' || :text || '%'` -/
def containsPattern (text : Bytes) : Bytes := bytes "%" ++ bindString text ++ bytes "%"

/-- `usageCount`, with the sum of counts it selects. A failed count reads as no use. -/
def usageCountIn (usages : Database V1 → Int → Nat) (id : Int) : Db Int :=
  if id ≤ 0 then pure 0
  else tryCatch (select fun db => .ok (usages db id)) fun _ => pure 0

/-- `remove` behind a `usageCount`. -/
def removeUnusedIn (t : Table) (usages : Database V1 → Int → Nat) (id : Int) : Db Bool :=
  if id ≤ 0 then pure false
  else tryCatch
    (do
      let count ← usageCountIn usages id
      if 0 < count then pure false
      else do
        let affected ← deleteWhereId t id
        pure (decide (0 < affected)))
    fun _ => pure false

namespace SqliteItemTypeRepository

def mapRowToItemType (row : Row .itemType) : Except Error Dto.ItemType := do
  let id ← valueInt64 (.integer row.id)
  let workflowId ← valueInt64 (.integer row.cols.workflowId)
  let defaultStateId ← unlessNull valueInt64 (.orNull .integer row.cols.defaultStateId)
  let caption ← valueString (.text row.cols.caption)
  let kind ← valueString (.text row.cols.kind)
  let defaultContent ← unlessNull valueString (.orNull .text row.cols.defaultContent)
  return {
    id := some id, workflowId := some workflowId, defaultStateId, caption := some caption,
    kind := some kind, defaultContent }

/-- The optional WHERE clauses. -/
def filter (env : Environment) (workflowId : Option Int) (kind : Option Bytes)
    (captionSearch : Bytes) (row : Row .itemType) : Bool :=
  (workflowId.all fun w => row.cols.workflowId == w) &&
    (kind.all fun k => row.cols.kind == bindString k) &&
    (captionSearch.isEmpty || env.like (containsPattern captionSearch) row.cols.caption)

/-- `ORDER BY kind, caption` -/
def byKind (a b : Row .itemType) : Bool :=
  if a.cols.kind == b.cols.kind then textLe a.cols.caption b.cols.caption
  else textLe a.cols.kind b.cols.kind

def findAll (env : Environment) (page pageSize : Int) (workflowId : Option Int)
    (kind : Option Bytes) (captionSearch : Bytes) : Db (List Dto.ItemType × Int) :=
  findAllIn env .itemType (filter env workflowId kind captionSearch) byKind true mapRowToItemType
    page pageSize

def findById (id : Int) : Db (Option Dto.ItemType) := findByIdIn .itemType mapRowToItemType id

/-- `validKinds` -/
def validKinds : List Bytes :=
  [bytes "issue", bytes "folder", bytes "test-case", bytes "test-cycle", bytes "test-execution",
    bytes "requirement"]

/-- The values `create` binds; none when a required field is missing or the kind is not valid. -/
def values (itemType : Dto.ItemType) : Option ItemTypeRow := do
  let caption ← itemType.caption
  guard !caption.isEmpty
  let workflowId ← itemType.workflowId
  let kind ← itemType.kind
  guard (validKinds.contains kind)
  return {
    workflowId, defaultStateId := itemType.defaultStateId, caption := bindString caption,
    kind := bindString kind, defaultContent := itemType.defaultContent.map bindString }

def create (itemType : Dto.ItemType) : Db Int := createIn .itemType (values itemType)

def setClauses (itemType : Dto.ItemType) : List (ItemTypeRow → ItemTypeRow) :=
  setIfPresent itemType.workflowId (fun v c => { c with workflowId := v }) ++
    setIfPresent itemType.defaultStateId (fun v c => { c with defaultStateId := some v }) ++
    setIfPresent itemType.caption (fun v c => { c with caption := bindString v }) ++
    setIfPresent itemType.kind (fun v c => { c with kind := bindString v }) ++
    setIfPresent itemType.defaultContent (fun v c => { c with defaultContent := some (bindString v) })

def update (itemType : Dto.ItemType) : Db Bool :=
  if itemType.id.isSome && itemType.kind.any fun kind => !validKinds.contains kind then pure false
  else updateIn .itemType itemType.id (setClauses itemType)

/-- The SELECT of `usageCount`: items, field types, link types (at either end) and rules. -/
def usages (db : Database V1) (id : Int) : Nat :=
  ((db.rows .item).filter fun r => r.cols.itemTypeId == id).length +
    ((db.rows .fieldType).filter fun r => r.cols.itemTypeId == id).length +
    ((db.rows .linkType).filter fun r => r.cols.refs.get 0 == id || r.cols.refs.get 1 == id).length +
    ((db.rows .ruleItemType).filter fun r => r.cols.refs.get 1 == id).length

def usageCount (id : Int) : Db Int :=
  if id ≤ 0 then pure 0
  else tryCatch (select fun db => .ok (usages db id)) fun _ => pure 0

def remove (id : Int) : Db Bool :=
  if id ≤ 0 then pure false
  else tryCatch
    (do
      let count ← usageCount id
      if 0 < count then pure false
      else do
        let affected ← deleteWhereId .itemType id
        pure (decide (0 < affected)))
    fun _ => pure false

def «exists» (id : Int) : Db Bool := existsIn .itemType id

end SqliteItemTypeRepository

namespace SqliteFieldTypeRepository

def mapRowToFieldType (row : Row .fieldType) : Except Error Dto.FieldType := do
  let id ← valueInt64 (.integer row.id)
  let itemTypeId ← valueInt64 (.integer row.cols.itemTypeId)
  let caption ← valueString (.text row.cols.caption)
  let description ← unlessNull valueString (.orNull .text row.cols.description)
  let valueType ← valueString (.text row.cols.valueType)
  let isBoardVisible ← valueInt64 (.integer row.cols.isBoardVisible)
  return {
    id := some id, itemTypeId := some itemTypeId, caption := some caption, description,
    valueType := some valueType, isBoardVisible := some (isBoardVisible != 0) }

/-- The optional WHERE clauses. -/
def filter (env : Environment) (itemTypeId : Option Int) (valueType : Option Bytes)
    (captionSearch : Bytes) (row : Row .fieldType) : Bool :=
  (itemTypeId.all fun i => row.cols.itemTypeId == i) &&
    (valueType.all fun v => row.cols.valueType == bindString v) &&
    (captionSearch.isEmpty || env.like (containsPattern captionSearch) row.cols.caption)

/-- `ORDER BY caption` -/
def byCaption (a b : Row .fieldType) : Bool := textLe a.cols.caption b.cols.caption

def findAll (env : Environment) (page pageSize : Int) (itemTypeId : Option Int)
    (valueType : Option Bytes) (captionSearch : Bytes) : Db (List Dto.FieldType × Int) :=
  findAllIn env .fieldType (filter env itemTypeId valueType captionSearch) byCaption true
    mapRowToFieldType page pageSize

def findById (id : Int) : Db (Option Dto.FieldType) := findByIdIn .fieldType mapRowToFieldType id

/-- `validValueTypes` -/
def validValueTypes : List Bytes :=
  [bytes "String", bytes "MarkdownText", bytes "Integer", bytes "Float", bytes "Bool",
    bytes "DateTime", bytes "Date", bytes "Uri", bytes "Select", bytes "SelectMulti",
    bytes "ItemId", bytes "UserId", bytes "ProjectId", bytes "PhaseId",
    bytes "ItemsIds", bytes "UsersIds", bytes "ProjectsIds", bytes "PhasesIds"]

/-- The values `create` binds; none when a required field is missing or the value type is not
valid. -/
def values (fieldType : Dto.FieldType) : Option FieldTypeRow := do
  let caption ← fieldType.caption
  guard !caption.isEmpty
  let itemTypeId ← fieldType.itemTypeId
  let valueType ← fieldType.valueType
  guard !valueType.isEmpty
  guard (validValueTypes.contains valueType)
  return {
    itemTypeId, caption := bindString caption, description := fieldType.description.map bindString,
    valueType := bindString valueType,
    isBoardVisible := bindBool (fieldType.isBoardVisible.getD false) }

def create (fieldType : Dto.FieldType) : Db Int := createIn .fieldType (values fieldType)

def setClauses (fieldType : Dto.FieldType) : List (FieldTypeRow → FieldTypeRow) :=
  setIfPresent fieldType.itemTypeId (fun v c => { c with itemTypeId := v }) ++
    setIfPresent fieldType.caption (fun v c => { c with caption := bindString v }) ++
    setIfPresent fieldType.description (fun v c => { c with description := some (bindString v) }) ++
    setIfPresent fieldType.valueType (fun v c => { c with valueType := bindString v }) ++
    setIfPresent fieldType.isBoardVisible (fun v c => { c with isBoardVisible := bindBool v })

def update (fieldType : Dto.FieldType) : Db Bool :=
  if fieldType.id.isSome && fieldType.valueType.any fun v => !validValueTypes.contains v then
    pure false
  else updateIn .fieldType fieldType.id (setClauses fieldType)

/-- The SELECT of `usageCount`: the values items have in the field, and the values to choose from. -/
def usages (db : Database V1) (id : Int) : Nat :=
  ((db.rows .itemField).filter fun r => r.cols.refs.get 1 == id).length +
    ((db.rows .fieldTypePossibleValue).filter fun r => r.cols.refs.get 0 == id).length

def usageCount (id : Int) : Db Int := usageCountIn usages id

def remove (id : Int) : Db Bool := removeUnusedIn .fieldType usages id

def «exists» (id : Int) : Db Bool := existsIn .fieldType id

end SqliteFieldTypeRepository

end Farado
