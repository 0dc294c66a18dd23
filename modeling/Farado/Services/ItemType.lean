import Farado.Repositories.ItemType
import Farado.Services.Workflow

/-!
# The services of item types and fields

`ItemTypeService` and `FieldTypeService`.
-/

namespace Farado

open Relational Steps

namespace ItemTypeService

def itemTypes (env : Environment) (page pageSize : Int) (workflowId : Option Int)
    (kind : Option Bytes) (searchCaption : Bytes) : Db (List Dto.ItemType × Int) :=
  let (page, pageSize) := normalizedPage page pageSize
  SqliteItemTypeRepository.findAll env page pageSize workflowId kind searchCaption

def itemType (id : Int) : Db (Option Dto.ItemType) := SqliteItemTypeRepository.findById id

def createItemType (itemType : Dto.ItemType) : Db (Option Dto.ItemType) :=
  if (itemType.caption.getD []).isEmpty || itemType.workflowId.isNone || itemType.kind.isNone then
    pure none
  else createAndFind (SqliteItemTypeRepository.create itemType) SqliteItemTypeRepository.findById

def updateItemType (itemType : Dto.ItemType) : Db (Option Dto.ItemType) :=
  match itemType.id with
  | none => pure none
  | some id => do
      if !(← SqliteItemTypeRepository.exists id) then pure none
      else
        updateAndFind (SqliteItemTypeRepository.update itemType)
          (SqliteItemTypeRepository.findById id)

def deleteItemType (id : Int) : Db Bool := do
  if !(← SqliteItemTypeRepository.exists id) then pure false
  else SqliteItemTypeRepository.remove id

end ItemTypeService

namespace FieldTypeService

def fieldTypes (env : Environment) (page pageSize : Int) (itemTypeId : Option Int)
    (valueType : Option Bytes) (searchCaption : Bytes) : Db (List Dto.FieldType × Int) :=
  let (page, pageSize) := normalizedPage page pageSize
  SqliteFieldTypeRepository.findAll env page pageSize itemTypeId valueType searchCaption

def fieldType (id : Int) : Db (Option Dto.FieldType) := SqliteFieldTypeRepository.findById id

def createFieldType (fieldType : Dto.FieldType) : Db (Option Dto.FieldType) :=
  if (fieldType.caption.getD []).isEmpty || fieldType.itemTypeId.isNone ||
      (fieldType.valueType.getD []).isEmpty then
    pure none
  else createAndFind (SqliteFieldTypeRepository.create fieldType) SqliteFieldTypeRepository.findById

def updateFieldType (fieldType : Dto.FieldType) : Db (Option Dto.FieldType) :=
  match fieldType.id with
  | none => pure none
  | some id => do
      if !(← SqliteFieldTypeRepository.exists id) then pure none
      else
        updateAndFind (SqliteFieldTypeRepository.update fieldType)
          (SqliteFieldTypeRepository.findById id)

def deleteFieldType (id : Int) : Db Bool := do
  if !(← SqliteFieldTypeRepository.exists id) then pure false
  else SqliteFieldTypeRepository.remove id

end FieldTypeService

end Farado
