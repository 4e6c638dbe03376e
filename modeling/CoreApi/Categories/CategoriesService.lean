import CoreApi.Foundation.TableChanges
import CoreApi.Foundation.WriteSequence

/-!
# Categories

`CategoriesService.update` brings the descriptions of a category to the list of a request. It reads
the stored ones, removes those that the request does not name, then updates or inserts one for each
item of the list, and writes the category last: each in a statement of its own, by the ids that the
request gives.
-/

namespace CoreApi.Categories

open CoreApi.Foundation

structure CategoryEntity where
  categoryId : Nat
  tenantId : Nat
  statusId : Nat
  groupName : String
  updatedBy : Option Nat
  deriving DecidableEq, Repr

structure CategoryDescriptionEntity where
  categoryDescriptionId : Nat
  categoryId : Nat
  languageId : Nat
  name : String
  description : Option String
  deriving DecidableEq, Repr

instance : Keyed CategoryEntity where
  key := CategoryEntity.categoryId
  withKey n row := { row with categoryId := n }
  key_withKey _ _ := rfl

instance : Keyed CategoryDescriptionEntity where
  key := CategoryDescriptionEntity.categoryDescriptionId
  withKey n row := { row with categoryDescriptionId := n }
  key_withKey _ _ := rfl

structure CategoryDb where
  categories : Table CategoryEntity
  descriptions : Table CategoryDescriptionEntity

/-- `UpdateCategoryDescriptionDto`. -/
structure UpdateCategoryDescriptionDto where
  categoryDescriptionId : Option Nat := none
  categoryId : Option Nat := none
  languageId : Option Nat := none
  name : Option String := none
  description : Option String := none
  deriving DecidableEq, Repr

/-- `UpdateCategoryDto`. -/
structure UpdateCategoryDto where
  categoryId : Nat
  tenantId : Option Nat := none
  statusId : Option Nat := none
  groupName : Option String := none
  updatedBy : Option Nat := none
  descriptions : Option (List UpdateCategoryDescriptionDto) := none

namespace UpdateCategoryDescriptionDto

variable (dto : UpdateCategoryDescriptionDto)

/-- `if (description.categoryDescriptionId)`. -/
def givenId : Option Nat := dto.categoryDescriptionId.filter (· ≠ 0)

/-- The columns that an UPDATE with the item sets. -/
def overwrite (row : CategoryDescriptionEntity) : CategoryDescriptionEntity :=
  { row with
    categoryId := dto.categoryId.getD row.categoryId
    languageId := dto.languageId.getD row.languageId
    name := dto.name.getD row.name
    description := dto.description <|> row.description }

/-- The row of a new description; a column that is not given has its default. -/
def newRow (categoryId : Nat) : CategoryDescriptionEntity :=
  { categoryDescriptionId := 0
    categoryId := categoryId
    languageId := dto.languageId.getD 1
    name := dto.name.getD ""
    description := dto.description }

end UpdateCategoryDescriptionDto

/-- The columns that the UPDATE of a category sets. -/
def UpdateCategoryDto.overwrite (dto : UpdateCategoryDto) (row : CategoryEntity) : CategoryEntity :=
  { row with
    tenantId := dto.tenantId.getD row.tenantId
    statusId := dto.statusId.getD row.statusId
    groupName := dto.groupName.getD row.groupName
    updatedBy := dto.updatedBy <|> row.updatedBy }

theorem UpdateCategoryDescriptionDto.key_overwrite (item : UpdateCategoryDescriptionDto)
    (row : CategoryDescriptionEntity) : Keyed.key (item.overwrite row) = Keyed.key row := rfl

theorem UpdateCategoryDto.key_overwrite (dto : UpdateCategoryDto) (row : CategoryEntity) :
    Keyed.key (dto.overwrite row) = Keyed.key row := rfl

/-! ## Writes -/

/-- A statement that writes. -/
inductive CategoryWrite where
  | removeDescription (categoryDescriptionId : Nat)
  | updateDescription (categoryDescriptionId : Nat) (item : UpdateCategoryDescriptionDto)
  | insertDescription (categoryId : Nat) (item : UpdateCategoryDescriptionDto)
  | updateCategory (dto : UpdateCategoryDto)

/-- What a statement does to the tables. -/
def performWrite (db : CategoryDb) : CategoryWrite → CategoryDb
  | .removeDescription categoryDescriptionId =>
      { db with
        descriptions := db.descriptions.remove fun row =>
          row.categoryDescriptionId == categoryDescriptionId }
  | .updateDescription categoryDescriptionId item =>
      { db with
        descriptions := db.descriptions.updateAt categoryDescriptionId item.overwrite
          item.key_overwrite }
  | .insertDescription categoryId item =>
      { db with descriptions := db.descriptions.insert (item.newRow categoryId) }
  | .updateCategory dto =>
      { db with
        categories := db.categories.updateAt dto.categoryId dto.overwrite dto.key_overwrite }

def categoryWrites : StepSystem CategoryDb CategoryWrite where
  step := performWrite

/-- A column `name` without a value refuses the row. -/
def namesRow : CategoryWrite → Bool
  | .insertDescription _ item => item.name.isSome
  | _ => true

/-- What the database accepts: it refuses a row without a name, and whatever else it refuses is left
open. -/
def acceptsWrite (accepts : CategoryDb → CategoryWrite → Bool) (db : CategoryDb)
    (write : CategoryWrite) : Bool :=
  namesRow write && accepts db write

/-- What a call raises. -/
inductive CategoryError where
  | entityNotFound
  | database
  deriving DecidableEq, Repr

/-- The removal of the descriptions of a category that a request does not name. -/
def removals (db : CategoryDb) (categoryId : Nat) (descriptions : List UpdateCategoryDescriptionDto) :
    List CategoryWrite :=
  let existingDescriptions := db.descriptions.select fun row => row.categoryId == categoryId
  let requestDescriptionIds := descriptions.filterMap UpdateCategoryDescriptionDto.givenId
  (existingDescriptions.filter fun row =>
    !requestDescriptionIds.contains row.categoryDescriptionId).map fun row =>
      .removeDescription row.categoryDescriptionId

/-- The write for an item of a request. -/
def writeOfItem (categoryId : Nat) (item : UpdateCategoryDescriptionDto) : CategoryWrite :=
  match item.givenId with
  | some categoryDescriptionId => .updateDescription categoryDescriptionId item
  | none => .insertDescription categoryId item

/-- The writes of a request, in order. -/
def writesOf (db : CategoryDb) (dto : UpdateCategoryDto) : List CategoryWrite :=
  (match dto.descriptions with
    | some descriptions =>
        removals db dto.categoryId descriptions ++
          descriptions.map (writeOfItem dto.categoryId)
    | none => []) ++ [.updateCategory dto]

/-- `update`, which the controller calls with the id in the request. -/
def update (accepts : CategoryDb → CategoryWrite → Bool) (dto : UpdateCategoryDto) :
    Program CategoryDb CategoryError Unit := do
  let db ← Program.read id
  match db.categories.find? dto.categoryId with
  | none => Program.raise .entityNotFound
  | some _ =>
      Program.writeAll categoryWrites (acceptsWrite accepts) .database (writesOf db dto)

end CoreApi.Categories
