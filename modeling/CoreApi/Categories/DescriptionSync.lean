import CoreApi.Categories.CategoriesService
import Mathlib.Data.List.Forall2
import Mathlib.Data.List.Perm.Subperm

/-!
# Descriptions as requested

After an update a category should have the descriptions of the request, and no other category
should have changed; a call that fails should leave everything as it was. The statements of the
update address descriptions by ids alone, and no transaction holds them together.
-/

namespace CoreApi.Categories

open CoreApi.Foundation UpdateCategoryDescriptionDto

/-! ## What an update is for -/

/-- A stored description is what an item of a request asks for. -/
structure IsRequested (categoryId : Nat) (item : UpdateCategoryDescriptionDto)
    (row : CategoryDescriptionEntity) : Prop where
  category : row.categoryId = categoryId
  id : ∀ key ∈ item.givenId, row.categoryDescriptionId = key
  language : ∀ languageId ∈ item.languageId, row.languageId = languageId
  name : ∀ name ∈ item.name, row.name = name
  description : ∀ text ∈ item.description, row.description = some text

/-- The category has the requested descriptions and no others; those of other categories are as
they were. -/
structure Synchronised (before after : CategoryDb) (categoryId : Nat)
    (items : List UpdateCategoryDescriptionDto) : Prop where
  requested : ∃ rows : List CategoryDescriptionEntity,
    rows.Perm (after.descriptions.select fun row => row.categoryId == categoryId) ∧
      List.Forall₂ (IsRequested categoryId) items rows
  others : ∀ row : CategoryDescriptionEntity, row.categoryId ≠ categoryId →
    (row ∈ after.descriptions.rows ↔ row ∈ before.descriptions.rows)

/-- The rows of the tables are the same. -/
def SameRows (before after : CategoryDb) : Prop :=
  after.categories.rows = before.categories.rows ∧
    after.descriptions.rows = before.descriptions.rows

/-- A call that returns synchronises the descriptions, and one that raises changes nothing. -/
def Settled (db : CategoryDb) (categoryId : Nat) (items : List UpdateCategoryDescriptionDto) :
    Except CategoryError Unit × CategoryDb → Prop
  | (.ok _, after) => Synchronised db after categoryId items
  | (.error _, after) => SameRows db after

/-- The ids that a request gives. -/
def requestIds (items : List UpdateCategoryDescriptionDto) : List Nat := items.filterMap givenId

/-- A request gives ids of descriptions of the category, each once, and leaves them there. -/
structure Addressed (db : CategoryDb) (categoryId : Nat)
    (items : List UpdateCategoryDescriptionDto) : Prop where
  distinct : (requestIds items).Nodup
  own : ∀ key ∈ requestIds items, ∃ row ∈ db.descriptions.rows,
    row.categoryDescriptionId = key ∧ row.categoryId = categoryId
  stay : ∀ item ∈ items, item.givenId ≠ none → ∀ other ∈ item.categoryId, other = categoryId

/-! ## The table of descriptions -/

section Tables

variable {categoryId : Nat} {item : UpdateCategoryDescriptionDto}
  {items : List UpdateCategoryDescriptionDto} {table : Table CategoryDescriptionEntity}
  {row : CategoryDescriptionEntity}

/-- What the write for an item does to the table. -/
def afterItem (categoryId : Nat) (table : Table CategoryDescriptionEntity)
    (item : UpdateCategoryDescriptionDto) : Table CategoryDescriptionEntity :=
  match item.givenId with
  | some key => table.updateAt key item.overwrite item.key_overwrite
  | none => table.insert (item.newRow categoryId)

def afterItems (categoryId : Nat) (table : Table CategoryDescriptionEntity)
    (items : List UpdateCategoryDescriptionDto) : Table CategoryDescriptionEntity :=
  items.foldl (afterItem categoryId) table

/-- The row that the write for an item leaves. -/
def madeRow (categoryId : Nat) (table : Table CategoryDescriptionEntity)
    (item : UpdateCategoryDescriptionDto) : Option CategoryDescriptionEntity :=
  match item.givenId with
  | some key => (table.find? key).map item.overwrite
  | none => some (Keyed.withKey table.autoIncrement (item.newRow categoryId))

def madeRows (categoryId : Nat) :
    Table CategoryDescriptionEntity → List UpdateCategoryDescriptionDto →
      List CategoryDescriptionEntity
  | _, [] => []
  | table, item :: rest =>
      (madeRow categoryId table item).toList ++ madeRows categoryId (afterItem categoryId table item) rest

/-- Every given id is one of the table. -/
def Present (table : Table CategoryDescriptionEntity) (items : List UpdateCategoryDescriptionDto) :
    Prop :=
  ∀ key ∈ requestIds items, ∃ row ∈ table.rows, row.categoryDescriptionId = key

theorem requestIds_cons_some {key : Nat} (isGiven : item.givenId = some key) :
    requestIds (item :: items) = key :: requestIds items :=
  List.filterMap_cons_some isGiven

theorem requestIds_cons_none (isNew : item.givenId = none) :
    requestIds (item :: items) = requestIds items :=
  List.filterMap_cons_none isNew

theorem afterItem_some {key : Nat} (isGiven : item.givenId = some key) :
    afterItem categoryId table item = table.updateAt key item.overwrite item.key_overwrite := by
  unfold afterItem
  rw [isGiven]

theorem afterItem_none (isNew : item.givenId = none) :
    afterItem categoryId table item = table.insert (item.newRow categoryId) := by
  unfold afterItem
  rw [isNew]

theorem mem_afterItem (member : row ∈ (afterItem categoryId table item).rows) :
    (∃ old ∈ table.rows, Keyed.key old = Keyed.key row) ∨ Keyed.key row = table.autoIncrement := by
  rcases isGiven : item.givenId with _ | key
  · rw [afterItem_none isGiven, Table.rows_insert] at member
    rcases List.mem_append.mp member with old | isNew
    · exact .inl ⟨row, old, rfl⟩
    · rw [List.mem_singleton.mp isNew]
      exact .inr (Keyed.key_withKey _ _)
  · rw [afterItem_some isGiven] at member
    rcases Table.mem_updateAt.mp member with ⟨old, isOld, _, rfl⟩ | ⟨isOld, _⟩
    · exact .inl ⟨old, isOld, rfl⟩
    · exact .inl ⟨row, isOld, rfl⟩

/-- Rows stay under their keys. -/
theorem key_afterItem (member : row ∈ table.rows) :
    ∃ later ∈ (afterItem categoryId table item).rows, Keyed.key later = Keyed.key row := by
  rcases isGiven : item.givenId with _ | key
  · rw [afterItem_none isGiven, Table.rows_insert]
    exact ⟨row, List.mem_append_left _ member, rfl⟩
  · rw [afterItem_some isGiven]
    by_cases isRow : Keyed.key row = key
    · exact ⟨item.overwrite row, Table.mem_updateAt.mpr (.inl ⟨row, member, isRow, rfl⟩), rfl⟩
    · exact ⟨row, Table.mem_updateAt.mpr (.inr ⟨member, isRow⟩), rfl⟩

theorem autoIncrement_afterItem_le :
    table.autoIncrement ≤ (afterItem categoryId table item).autoIncrement := by
  rcases isGiven : item.givenId with _ | key
  · rw [afterItem_none isGiven]
    exact Nat.le_succ _
  · rw [afterItem_some isGiven]
    exact Nat.le_refl _

/-- The counter moves once for each item without an id. -/
theorem autoIncrement_afterItems :
    (afterItems categoryId table items).autoIncrement + (requestIds items).length =
      table.autoIncrement + items.length := by
  induction items generalizing table with
  | nil => rfl
  | cons item rest ih =>
      have later := @ih (afterItem categoryId table item)
      rcases isGiven : item.givenId with _ | key
      · rw [afterItem_none isGiven, Table.autoIncrement_insert] at later
        rw [requestIds_cons_none isGiven, afterItems, List.foldl_cons, afterItem_none isGiven,
          List.length_cons]
        unfold afterItems at later
        omega
      · rw [afterItem_some isGiven, Table.autoIncrement_updateAt] at later
        rw [requestIds_cons_some isGiven, afterItems, List.foldl_cons, afterItem_some isGiven,
          List.length_cons, List.length_cons]
        unfold afterItems at later
        omega

/-- A row under a key below the counter stands for a row that was there. -/
theorem mem_afterItems (member : row ∈ (afterItems categoryId table items).rows)
    (isOld : Keyed.key row < table.autoIncrement) :
    ∃ old ∈ table.rows, Keyed.key old = Keyed.key row := by
  induction items generalizing table with
  | nil => exact ⟨row, member, rfl⟩
  | cons item rest ih =>
      obtain ⟨between, isBetween, sameKey⟩ :=
        ih member (Nat.lt_of_lt_of_le isOld autoIncrement_afterItem_le)
      rcases mem_afterItem isBetween with ⟨old, isFirst, same⟩ | isNew
      · exact ⟨old, isFirst, same.trans sameKey⟩
      · rw [← sameKey, isNew] at isOld
        exact absurd isOld (Nat.lt_irrefl _)

theorem Present.afterItem (present : Present table (item :: items)) :
    Present (afterItem categoryId table item) items := by
  intro key member
  have given : key ∈ requestIds (item :: items) := by
    rcases isGiven : item.givenId with _ | other
    · rwa [requestIds_cons_none isGiven]
    · rw [requestIds_cons_some isGiven]
      exact List.mem_cons_of_mem other member
  obtain ⟨row, isRow, rfl⟩ := present key given
  exact key_afterItem isRow

/-! ## The rows that the items make -/

theorem madeRow_some {key : Nat} {old : CategoryDescriptionEntity}
    (isGiven : item.givenId = some key) (isOld : old ∈ table.rows)
    (hasKey : old.categoryDescriptionId = key) :
    madeRow categoryId table item = some (item.overwrite old) := by
  subst hasKey
  have found : table.find? old.categoryDescriptionId = some old := Table.find?_of_mem isOld
  simp only [madeRow, isGiven, found, Option.map_some]

theorem madeRow_none (isNew : item.givenId = none) :
    madeRow categoryId table item =
      some (Keyed.withKey table.autoIncrement (item.newRow categoryId)) := by
  unfold madeRow
  rw [isNew]

/-- The write for an item saves the row it makes. -/
theorem saves_afterItem (present : Present table (item :: items)) :
    ∃ made, madeRow categoryId table item = some made ∧
      Table.Saves table made (afterItem categoryId table item) ∧
      (item.givenId.getD table.autoIncrement = made.categoryDescriptionId) := by
  rcases isGiven : item.givenId with _ | key
  · refine ⟨_, madeRow_none isGiven, ?_, rfl⟩
    rw [afterItem_none isGiven]
    exact Table.saves_insert
  · obtain ⟨old, isOld, hasKey⟩ := present key (by
      rw [requestIds_cons_some isGiven]
      exact List.mem_cons_self)
    refine ⟨_, madeRow_some isGiven isOld hasKey, ?_, hasKey.symm⟩
    rw [afterItem_some isGiven]
    refine Table.saves_updateAt hasKey ?_ ?_
    · exact Option.isSome_iff_exists.mpr ⟨old, hasKey ▸ Table.find?_of_mem isOld⟩
    · intro other isOther hasOther
      rw [Table.eq_of_key_eq isOther isOld (Eq.trans hasOther hasKey.symm)]

/-- The ids of a request lie below the counter. -/
theorem Present.lt_autoIncrement (present : Present table items) {key : Nat}
    (member : key ∈ requestIds items) : key < table.autoIncrement := by
  obtain ⟨row, isRow, rfl⟩ := present key member
  exact (table.bounded row isRow).2

/-- The key of the row that an item makes is given by no later one, and rows that are left alone
are under other keys than those of all items. -/
theorem requestIds_cons_cases {made : CategoryDescriptionEntity}
    (distinct : (requestIds (item :: items)).Nodup) (present : Present table (item :: items))
    (hasKey : item.givenId.getD table.autoIncrement = made.categoryDescriptionId) :
    (requestIds items).Nodup ∧ made.categoryDescriptionId ∉ requestIds items ∧
      ∀ row ∈ table.rows, (Keyed.key row ≠ Keyed.key made ∧
        row.categoryDescriptionId ∉ requestIds items ↔
          row.categoryDescriptionId ∉ requestIds (item :: items)) := by
  have sameKey : Keyed.key made = made.categoryDescriptionId := rfl
  rcases isGiven : item.givenId with _ | key
  · rw [isGiven, Option.getD_none] at hasKey
    rw [requestIds_cons_none isGiven] at distinct ⊢
    refine ⟨distinct, fun member => ?_, fun row isRow => ?_⟩
    · have below : made.categoryDescriptionId < table.autoIncrement :=
        present.lt_autoIncrement (by rwa [requestIds_cons_none isGiven])
      omega
    · have below := (table.bounded row isRow).2
      exact and_iff_right (by omega)
  · rw [isGiven, Option.getD_some] at hasKey
    rw [requestIds_cons_some isGiven] at distinct ⊢
    obtain ⟨free, distinctRest⟩ := List.nodup_cons.mp distinct
    refine ⟨distinctRest, hasKey ▸ free, fun row _ => ?_⟩
    rw [List.mem_cons, not_or, sameKey, ← hasKey]
    exact Iff.rfl

/-- The items leave the rows they make, and the rows under other keys. -/
theorem mem_afterItems_iff (distinct : (requestIds items).Nodup) (present : Present table items) :
    row ∈ (afterItems categoryId table items).rows ↔
      row ∈ table.rows ∧ row.categoryDescriptionId ∉ requestIds items ∨
        row ∈ madeRows categoryId table items := by
  induction items generalizing table with
  | nil => simp [afterItems, madeRows, requestIds]
  | cons item rest ih =>
      obtain ⟨made, isMade, saves, hasKey⟩ := @saves_afterItem categoryId _ _ _ present
      obtain ⟨distinctRest, freeKey, others⟩ := requestIds_cons_cases distinct present hasKey
      have later := ih distinctRest
        (@Present.afterItem categoryId _ _ _ present)
      rw [afterItems, List.foldl_cons, ← afterItems, later, saves, madeRows, isMade,
        Option.toList_some, List.singleton_append, List.mem_cons]
      constructor
      · rintro (⟨rfl | ⟨isOld, different⟩, free⟩ | inRest)
        · exact .inr (.inl rfl)
        · exact .inl ⟨isOld, (others row isOld).mp ⟨different, free⟩⟩
        · exact .inr (.inr inRest)
      · rintro (⟨isOld, free⟩ | rfl | inRest)
        · obtain ⟨different, freeRest⟩ := (others row isOld).mpr free
          exact .inl ⟨.inr ⟨isOld, different⟩, freeRest⟩
        · exact .inl ⟨.inl rfl, freeKey⟩
        · exact .inr inRest

/-- The rows that items make have the ids that are given, or new ones. -/
theorem key_of_mem_madeRows (distinct : (requestIds items).Nodup) (present : Present table items)
    (member : row ∈ madeRows categoryId table items) :
    row.categoryDescriptionId ∈ requestIds items ∨
      table.autoIncrement ≤ row.categoryDescriptionId := by
  induction items generalizing table with
  | nil => cases member
  | cons item rest ih =>
      obtain ⟨made, isMade, _, hasKey⟩ := @saves_afterItem categoryId _ _ _ present
      obtain ⟨distinctRest, _, _⟩ := requestIds_cons_cases distinct present hasKey
      rw [madeRows, isMade, Option.toList_some, List.singleton_append, List.mem_cons] at member
      rcases member with rfl | inRest
      · rcases isGiven : item.givenId with _ | key
        · rw [isGiven, Option.getD_none] at hasKey
          exact .inr (Nat.le_of_eq hasKey)
        · rw [isGiven, Option.getD_some] at hasKey
          rw [requestIds_cons_some isGiven, ← hasKey]
          exact .inl List.mem_cons_self
      · rcases ih distinctRest (@Present.afterItem categoryId _ _ _ present)
          inRest with given | isNew
        · refine .inl ?_
          rcases isGiven : item.givenId with _ | key
          · rwa [requestIds_cons_none isGiven]
          · rw [requestIds_cons_some isGiven]
            exact List.mem_cons_of_mem key given
        · exact .inr (Nat.le_trans autoIncrement_afterItem_le isNew)

/-- The items make different rows. -/
theorem nodup_madeRows (distinct : (requestIds items).Nodup) (present : Present table items) :
    (madeRows categoryId table items).Nodup := by
  induction items generalizing table with
  | nil => exact List.nodup_nil
  | cons item rest ih =>
      obtain ⟨made, isMade, saves, hasKey⟩ := @saves_afterItem categoryId _ _ _ present
      obtain ⟨distinctRest, freeKey, _⟩ := requestIds_cons_cases distinct present hasKey
      have presentRest := @Present.afterItem categoryId _ _ _ present
      rw [madeRows, isMade, Option.toList_some, List.singleton_append, List.nodup_cons]
      refine ⟨fun inRest => ?_, ih distinctRest presentRest⟩
      rcases key_of_mem_madeRows distinctRest presentRest inRest with given | isNew
      · exact freeKey given
      · have below := ((afterItem categoryId table item).bounded made
          ((saves made).mpr (.inl rfl))).2
        exact absurd isNew (Nat.not_le_of_lt below)

/-- A row that an item makes has what the item gives, but for its category. -/
theorem isRequested_madeRow (isMade : madeRow categoryId table item = some row)
    (inCategory : row.categoryId = categoryId) : IsRequested categoryId item row := by
  rcases isGiven : item.givenId with _ | key
  · rw [madeRow_none isGiven] at isMade
    obtain rfl := Option.some.inj isMade
    refine ⟨rfl, ?_, ?_, ?_, ?_⟩
    · intro key isKey
      rw [isGiven] at isKey
      cases isKey
    · intro languageId isLanguage
      exact congrArg (Option.getD · 1) isLanguage
    · intro name isName
      exact congrArg (Option.getD · "") isName
    · intro text isText
      exact isText
  · have isMade' := isMade
    unfold madeRow at isMade'
    rw [isGiven] at isMade'
    obtain ⟨old, isOld, rfl⟩ := Option.map_eq_some_iff.mp isMade'
    refine ⟨inCategory, ?_, ?_, ?_, ?_⟩
    · intro other isOther
      rw [isGiven] at isOther
      cases isOther
      exact Table.key_of_find? isOld
    · intro languageId isLanguage
      exact congrArg (Option.getD · old.languageId) isLanguage
    · intro name isName
      exact congrArg (Option.getD · old.name) isName
    · intro text isText
      show (item.description <|> old.description) = some text
      rw [Option.mem_def.mp isText]
      rfl

/-- Where the ids are those of a category and the items leave them there, the items make what they
ask for. -/
theorem isRequested_madeRows (distinct : (requestIds items).Nodup)
    (own : ∀ key ∈ requestIds items, ∃ row ∈ table.rows,
      row.categoryDescriptionId = key ∧ row.categoryId = categoryId)
    (stay : ∀ item ∈ items, item.givenId ≠ none → ∀ other ∈ item.categoryId, other = categoryId) :
    List.Forall₂ (IsRequested categoryId) items (madeRows categoryId table items) := by
  induction items generalizing table with
  | nil => exact .nil
  | cons item rest ih =>
      have present : Present table (item :: rest) := fun key member =>
        let ⟨row, isRow, hasKey, _⟩ := own key member
        ⟨row, isRow, hasKey⟩
      obtain ⟨made, isMade, saves, hasKey⟩ := @saves_afterItem categoryId _ _ _ present
      obtain ⟨distinctRest, freeKey, _⟩ := requestIds_cons_cases distinct present hasKey
      rw [madeRows, isMade, Option.toList_some, List.singleton_append]
      refine .cons (isRequested_madeRow isMade ?_) (ih distinctRest ?_
        fun other member => stay other (List.mem_cons_of_mem item member))
      · rcases isGiven : item.givenId with _ | key
        · rw [madeRow_none isGiven] at isMade
          obtain rfl := Option.some.inj isMade
          rfl
        · obtain ⟨old, isOld, oldKey, oldCategory⟩ := own key (by
            rw [requestIds_cons_some isGiven]
            exact List.mem_cons_self)
          rw [madeRow_some isGiven isOld oldKey] at isMade
          obtain rfl := Option.some.inj isMade
          have stays := stay item List.mem_cons_self (by rw [isGiven]; exact Option.some_ne_none key)
          show item.categoryId.getD old.categoryId = categoryId
          rcases isCategory : item.categoryId with _ | other
          · exact oldCategory
          · exact stays other isCategory
      · intro key member
        have given : key ∈ requestIds (item :: rest) := by
          rcases isGiven : item.givenId with _ | other
          · rwa [requestIds_cons_none isGiven]
          · rw [requestIds_cons_some isGiven]
            exact List.mem_cons_of_mem other member
        obtain ⟨old, isOld, oldKey, oldCategory⟩ := own key given
        refine ⟨old, (saves old).mpr (.inr ⟨isOld, fun same => freeKey ?_⟩), oldKey, oldCategory⟩
        have sameId : old.categoryDescriptionId = made.categoryDescriptionId := same
        rw [← sameId, oldKey]
        exact member

theorem exists_madeRow (present : Present table items) {key : Nat} (member : item ∈ items)
    (isGiven : item.givenId = some key) :
    ∃ row ∈ madeRows categoryId table items, row.categoryDescriptionId = key ∧
      ∀ other ∈ item.categoryId, row.categoryId = other := by
  induction items generalizing table with
  | nil => cases member
  | cons first rest ih =>
      obtain ⟨made, isMade, _, hasKey⟩ := @saves_afterItem categoryId _ _ _ present
      rw [madeRows, isMade, Option.toList_some, List.singleton_append]
      rcases List.mem_cons.mp member with rfl | inRest
      · rw [isGiven, Option.getD_some] at hasKey
        refine ⟨made, List.mem_cons_self, hasKey.symm, fun other isOther => ?_⟩
        unfold madeRow at isMade
        rw [isGiven] at isMade
        obtain ⟨old, _, rfl⟩ := Option.map_eq_some_iff.mp isMade
        exact congrArg (Option.getD · old.categoryId) isOther
      · obtain ⟨row, isRow, hasKey, hasCategory⟩ :=
          ih (@Present.afterItem categoryId _ _ _ present) inRest
        exact ⟨row, List.mem_cons_of_mem made isRow, hasKey, hasCategory⟩

end Tables

/-! ## What an accepted request leaves -/

section Requests

variable {categoryId : Nat} {items : List UpdateCategoryDescriptionDto} {db after : CategoryDb}
  {row : CategoryDescriptionEntity}

theorem run_removals (rows : List CategoryDescriptionEntity) (db : CategoryDb) :
    let removed := categoryWrites.run db (rows.map fun row =>
      .removeDescription row.categoryDescriptionId)
    removed.descriptions.autoIncrement = db.descriptions.autoIncrement ∧
      ∀ row, row ∈ removed.descriptions.rows ↔ row ∈ db.descriptions.rows ∧
        ∀ other ∈ rows, other.categoryDescriptionId ≠ row.categoryDescriptionId := by
  induction rows generalizing db with
  | nil => exact ⟨rfl, fun row => by simp⟩
  | cons first rest ih =>
      obtain ⟨counter, each⟩ := ih
        (performWrite db (.removeDescription first.categoryDescriptionId))
      refine ⟨counter, fun row => ?_⟩
      rw [List.map_cons, StepSystem.run_cons]
      refine (each row).trans ?_
      rw [performWrite, Table.mem_remove, List.forall_mem_cons, and_assoc, beq_eq_false_iff_ne,
        ne_comm]

theorem run_items (items : List UpdateCategoryDescriptionDto) (db : CategoryDb) :
    (categoryWrites.run db (items.map (writeOfItem categoryId))).descriptions =
      afterItems categoryId db.descriptions items := by
  induction items generalizing db with
  | nil => rfl
  | cons item rest ih =>
      rw [List.map_cons, StepSystem.run_cons, ih, afterItems, afterItems,
        List.foldl_cons]
      have written : (categoryWrites.step db (writeOfItem categoryId item)).descriptions =
          afterItem categoryId db.descriptions item := by
        unfold writeOfItem afterItem
        rcases item.givenId with _ | key <;> rfl
      rw [written]

/-- The tables after the removals of a request. -/
def afterRemovals (db : CategoryDb) (categoryId : Nat)
    (items : List UpdateCategoryDescriptionDto) : CategoryDb :=
  categoryWrites.run db (removals db categoryId items)

/-- Of the category only the descriptions that the request names are left. -/
theorem mem_afterRemovals :
    row ∈ (afterRemovals db categoryId items).descriptions.rows ↔
      row ∈ db.descriptions.rows ∧
        (row.categoryId = categoryId → row.categoryDescriptionId ∈ requestIds items) := by
  rw [afterRemovals, removals, (run_removals _ db).2]
  refine and_congr_right fun member => ?_
  constructor
  · intro kept ofCategory
    by_contra unnamed
    refine kept row (List.mem_filter.mpr ⟨Table.mem_select.mpr ⟨member, beq_iff_eq.mpr ofCategory⟩,
      ?_⟩) rfl
    rw [Bool.not_eq_true', ← Bool.not_eq_true, List.contains_iff_mem]
    exact unnamed
  · intro named other isRemoved same
    obtain ⟨ofCategory, unnamed⟩ := List.mem_filter.mp isRemoved
    obtain ⟨isOther, ofCategory⟩ := Table.mem_select.mp ofCategory
    obtain rfl := Table.eq_of_key_eq isOther member same
    rw [Bool.not_eq_true', ← Bool.not_eq_true, List.contains_iff_mem] at unnamed
    exact unnamed (named (beq_iff_eq.mp ofCategory))

theorem descriptions_run_writesOf (db : CategoryDb) (dto : UpdateCategoryDto) :
    (categoryWrites.run db (writesOf db { dto with descriptions := some items })).descriptions =
      afterItems dto.categoryId (afterRemovals db dto.categoryId items).descriptions items := by
  rw [writesOf, StepSystem.run_append, StepSystem.run_append, ← run_items]
  rfl

theorem nodup_keys_select (table : Table CategoryDescriptionEntity) (categoryId : Nat) :
    ((table.select fun row => row.categoryId == categoryId).map Keyed.key).Nodup :=
  table.distinct.sublist (List.filter_sublist.map _)

/-- Requests that address descriptions of the category are met. -/
theorem synchronised_of_addressed (addressed : Addressed db categoryId items)
    (isAfter : after.descriptions =
      afterItems categoryId (afterRemovals db categoryId items).descriptions items) :
    Synchronised db after categoryId items := by
  have ownKept : ∀ key ∈ requestIds items,
      ∃ row ∈ (afterRemovals db categoryId items).descriptions.rows,
        row.categoryDescriptionId = key ∧ row.categoryId = categoryId := by
    intro key member
    obtain ⟨row, isRow, hasKey, ofCategory⟩ := addressed.own key member
    exact ⟨row, mem_afterRemovals.mpr ⟨isRow, fun _ => hasKey ▸ member⟩, hasKey, ofCategory⟩
  have present : Present (afterRemovals db categoryId items).descriptions items :=
    fun key member =>
      let ⟨row, isRow, hasKey, _⟩ := ownKept key member
      ⟨row, isRow, hasKey⟩
  have made := isRequested_madeRows addressed.distinct ownKept addressed.stay
  have inCategory : ∀ row ∈ madeRows categoryId (afterRemovals db categoryId items).descriptions
      items, row.categoryId = categoryId := by
    intro row member
    obtain ⟨place, isPlace, rfl⟩ := List.mem_iff_getElem.mp member
    exact (List.forall₂_iff_get.mp made).2 place (made.length_eq ▸ isPlace) isPlace |>.category
  have split : ∀ row, row ∈ after.descriptions.rows ↔ _ := fun row =>
    isAfter ▸ mem_afterItems_iff addressed.distinct present
  refine ⟨⟨_, ?_, made⟩, ?_⟩
  · refine (List.perm_ext_iff_of_nodup (nodup_madeRows addressed.distinct present)
      (nodup_keys_select after.descriptions categoryId).of_map).mpr fun row => ?_
    rw [Table.mem_select, split, beq_iff_eq]
    constructor
    · exact fun isMade => ⟨.inr isMade, inCategory row isMade⟩
    · rintro ⟨⟨isKept, unnamed⟩ | isMade, ofCategory⟩
      · exact absurd ((mem_afterRemovals.mp isKept).2 ofCategory) unnamed
      · exact isMade
  · intro row notOf
    rw [split]
    constructor
    · rintro (⟨isKept, _⟩ | isMade)
      · exact (mem_afterRemovals.mp isKept).1
      · exact absurd (inCategory row isMade) notOf
    · intro isRow
      refine .inl ⟨mem_afterRemovals.mpr ⟨isRow, fun ofCategory => absurd ofCategory notOf⟩, ?_⟩
      intro named
      obtain ⟨own, isOwn, hasKey, ofCategory⟩ := addressed.own _ named
      obtain rfl := Table.eq_of_key_eq isOwn isRow hasKey
      exact notOf ofCategory

/-- What the items ask for has the ids that they give. -/
theorem requestIds_sublist {rows : List CategoryDescriptionEntity}
    (matched : List.Forall₂ (IsRequested categoryId) items rows) :
    (requestIds items).Sublist (rows.map CategoryDescriptionEntity.categoryDescriptionId) := by
  induction matched with
  | nil => exact List.Sublist.refl _
  | @cons item row _ _ isRequested _ ih =>
      rcases isGiven : item.givenId with _ | key
      · rw [requestIds_cons_none isGiven]
        exact ih.cons _
      · rw [requestIds_cons_some isGiven, List.map_cons, isRequested.id key isGiven]
        exact ih.cons_cons _

/-- A row of the category that is no new one was one of its own, which the request names. -/
theorem named_of_old (others : ∀ row : CategoryDescriptionEntity, row.categoryId ≠ categoryId →
      (row ∈ after.descriptions.rows ↔ row ∈ db.descriptions.rows))
    (isAfter : after.descriptions =
      afterItems categoryId (afterRemovals db categoryId items).descriptions items)
    (member : row ∈ after.descriptions.rows) (ofCategory : row.categoryId = categoryId)
    (isOld : row.categoryDescriptionId < (afterRemovals db categoryId items).descriptions.autoIncrement) :
    row.categoryDescriptionId ∈ requestIds items ∧
      ∃ old ∈ (afterRemovals db categoryId items).descriptions.rows,
        old.categoryDescriptionId = row.categoryDescriptionId ∧ old.categoryId = categoryId := by
  obtain ⟨old, isKept, sameKey⟩ := mem_afterItems (isAfter ▸ member) isOld
  have sameId : old.categoryDescriptionId = row.categoryDescriptionId := sameKey
  have wasOf : old.categoryId = categoryId := by
    by_contra notOf
    have still := (others old notOf).mpr (mem_afterRemovals.mp isKept).1
    obtain rfl := Table.eq_of_key_eq still member sameKey
    exact notOf ofCategory
  exact ⟨sameId ▸ (mem_afterRemovals.mp isKept).2 wasOf, old, isKept, sameId, wasOf⟩

/-- Where the category ends with as many descriptions as are requested, every given id is one of
its own: the new ones are no more than the items without an id. -/
theorem own_of_synchronised (synchronised : Synchronised db after categoryId items)
    (isAfter : after.descriptions =
      afterItems categoryId (afterRemovals db categoryId items).descriptions items) :
    ∀ key ∈ requestIds items, ∃ old ∈ (afterRemovals db categoryId items).descriptions.rows,
      old.categoryDescriptionId = key ∧ old.categoryId = categoryId := by
  obtain ⟨⟨rows, arranged, matched⟩, others⟩ := synchronised
  let counter := (afterRemovals db categoryId items).descriptions.autoIncrement
  let isOld := fun row : CategoryDescriptionEntity => decide (row.categoryDescriptionId < counter)
  have stored : ∀ row ∈ rows, row ∈ after.descriptions.rows ∧ row.categoryId = categoryId := by
    intro row member
    obtain ⟨isRow, ofCategory⟩ := Table.mem_select.mp (arranged.subset member)
    exact ⟨isRow, beq_iff_eq.mp ofCategory⟩
  have keys : (rows.map CategoryDescriptionEntity.categoryDescriptionId).Nodup :=
    (arranged.map Keyed.key).nodup_iff.mpr (nodup_keys_select after.descriptions categoryId)
  have counted : after.descriptions.autoIncrement + (requestIds items).length =
      counter + items.length := by
    rw [isAfter]
    exact autoIncrement_afterItems
  have fewNew : (rows.filter fun row => !isOld row).length ≤
      items.length - (requestIds items).length := by
    have within : (rows.filter fun row => !isOld row).map
        CategoryDescriptionEntity.categoryDescriptionId ⊆
          List.range' counter (items.length - (requestIds items).length) := by
      intro key member
      obtain ⟨row, isNew, rfl⟩ := List.mem_map.mp member
      obtain ⟨isRow, isNew⟩ := List.mem_filter.mp isNew
      have below := (after.descriptions.bounded row (stored row isRow).1).2
      have above : counter ≤ row.categoryDescriptionId := by
        simpa [isOld] using isNew
      have sameKey : Keyed.key row = row.categoryDescriptionId := rfl
      rw [List.mem_range'_1]
      omega
    have short := (List.subperm_of_subset (keys.sublist (List.filter_sublist.map _)) within).length_le
    rwa [List.length_map, List.length_range'] at short
  have isLong : (requestIds items).length ≤ ((rows.filter isOld).map
      CategoryDescriptionEntity.categoryDescriptionId).length := by
    have parts := List.length_eq_length_filter_add (l := rows) isOld
    have whole := matched.length_eq
    have few : (requestIds items).length ≤ items.length := List.length_filterMap_le _ _
    rw [List.length_map]
    omega
  have named : (rows.filter isOld).map CategoryDescriptionEntity.categoryDescriptionId ⊆
      requestIds items := by
    intro key member
    obtain ⟨row, isFiltered, rfl⟩ := List.mem_map.mp member
    obtain ⟨isRow, isOld⟩ := List.mem_filter.mp isFiltered
    exact (named_of_old others isAfter (stored row isRow).1 (stored row isRow).2
      (of_decide_eq_true isOld)).1
  have same := (List.subperm_of_subset (keys.sublist (List.filter_sublist.map _))
    named).perm_of_length_le isLong
  intro key member
  obtain ⟨row, isFiltered, rfl⟩ := List.mem_map.mp (same.symm.subset member)
  obtain ⟨isRow, isOld⟩ := List.mem_filter.mp isFiltered
  exact (named_of_old others isAfter (stored row isRow).1 (stored row isRow).2
    (of_decide_eq_true isOld)).2

/-- A request that is met addresses descriptions of the category. -/
theorem addressed_of_synchronised (synchronised : Synchronised db after categoryId items)
    (isAfter : after.descriptions =
      afterItems categoryId (afterRemovals db categoryId items).descriptions items) :
    Addressed db categoryId items := by
  have own := own_of_synchronised synchronised isAfter
  obtain ⟨⟨rows, arranged, matched⟩, others⟩ := synchronised
  have keys : (rows.map CategoryDescriptionEntity.categoryDescriptionId).Nodup :=
    (arranged.map Keyed.key).nodup_iff.mpr (nodup_keys_select after.descriptions categoryId)
  have distinct := keys.sublist (requestIds_sublist matched)
  refine ⟨distinct, ?_, ?_⟩
  · intro key member
    obtain ⟨old, isKept, hasKey, ofCategory⟩ := own key member
    exact ⟨old, (mem_afterRemovals.mp isKept).1, hasKey, ofCategory⟩
  · intro item member gives other isOther
    obtain ⟨key, isGiven⟩ := Option.ne_none_iff_exists'.mp gives
    have present : Present (afterRemovals db categoryId items).descriptions items :=
      fun key member =>
        let ⟨row, isRow, hasKey, _⟩ := own key member
        ⟨row, isRow, hasKey⟩
    obtain ⟨made, isMade, madeKey, madeCategory⟩ :=
      @exists_madeRow categoryId _ _ _ present _ member isGiven
    have madeStored : made ∈ after.descriptions.rows :=
      isAfter ▸ (mem_afterItems_iff distinct present).mpr (.inr isMade)
    obtain ⟨place, isPlace, isItem⟩ := List.mem_iff_getElem.mp member
    have isRow : place < rows.length := matched.length_eq ▸ isPlace
    have isRequested := (List.forall₂_iff_get.mp matched).2 place isPlace isRow
    simp only [List.get_eq_getElem, isItem] at isRequested
    obtain ⟨rowStored, _⟩ := Table.mem_select.mp (arranged.subset (List.getElem_mem isRow))
    obtain rfl := Table.eq_of_key_eq madeStored rowStored
      (Eq.trans madeKey (isRequested.id key isGiven).symm)
    exact (madeCategory other isOther).symm.trans isRequested.category

/-! ## What a refused request leaves -/

/-- The description that a list of writes makes of one, where they only update. -/
def updatedBy (writes : List CategoryWrite) (row : CategoryDescriptionEntity) :
    CategoryDescriptionEntity :=
  writes.foldl (fun row write =>
    match write with
    | .updateDescription key item =>
        if row.categoryDescriptionId = key then item.overwrite row else row
    | _ => row) row

def IsUpdate (write : CategoryWrite) : Prop := ∃ key item, write = .updateDescription key item

/-- The writes remove and insert nothing, and leave every description as it is. -/
def WritesNothing (db : CategoryDb) (writes : List CategoryWrite) : Prop :=
  (∀ write ∈ writes, IsUpdate write) ∧ ∀ row ∈ db.descriptions.rows, updatedBy writes row = row

theorem run_updates {writes : List CategoryWrite} (areUpdates : ∀ write ∈ writes, IsUpdate write)
    (db : CategoryDb) :
    (categoryWrites.run db writes).categories = db.categories ∧
      (categoryWrites.run db writes).descriptions.rows =
        db.descriptions.rows.map (updatedBy writes) := by
  induction writes generalizing db with
  | nil => exact ⟨rfl, (List.map_id' _).symm⟩
  | cons write rest ih =>
      obtain ⟨⟨key, item, rfl⟩, others⟩ := List.forall_mem_cons.mp areUpdates
      obtain ⟨sameCategories, rows⟩ :=
        ih others (performWrite db (.updateDescription key item))
      refine ⟨sameCategories, rows.trans ?_⟩
      rw [performWrite, Table.rows_updateAt, List.map_map]
      rfl

theorem length_afterItems {table : Table CategoryDescriptionEntity} :
    (afterItems categoryId table items).rows.length + (requestIds items).length =
      table.rows.length + items.length := by
  induction items generalizing table with
  | nil => rfl
  | cons item rest ih =>
      have later := @ih (afterItem categoryId table item)
      unfold afterItems at later
      rcases isGiven : item.givenId with _ | key
      · rw [afterItem_none isGiven, Table.rows_insert, List.length_append, List.length_singleton]
          at later
        rw [requestIds_cons_none isGiven, afterItems, List.foldl_cons, afterItem_none isGiven,
          List.length_cons]
        omega
      · rw [afterItem_some isGiven, Table.rows_updateAt, List.length_map] at later
        rw [requestIds_cons_some isGiven, afterItems, List.foldl_cons, afterItem_some isGiven,
          List.length_cons, List.length_cons]
        omega

theorem givenId_of_length (isFull : items.length ≤ (requestIds items).length) :
    ∀ item ∈ items, item.givenId ≠ none := by
  intro item member isNew
  have shorter : (requestIds items).length < items.length := by
    exact List.length_filterMap_lt_length_iff_exists.mpr ⟨item, member, isNew⟩
  omega

/-- Removals are never made up for. -/
theorem removals_eq_nil_of_same {rows : List CategoryDescriptionEntity}
    (stored : ∀ row ∈ rows, row ∈ db.descriptions.rows)
    (same : (afterItems categoryId (categoryWrites.run db (rows.map fun row =>
      .removeDescription row.categoryDescriptionId)).descriptions items).rows =
        db.descriptions.rows) : rows = [] := by
  refine List.eq_nil_iff_forall_not_mem.mpr fun row member => ?_
  have isRow := stored row member
  have below := (db.descriptions.bounded row isRow).2
  obtain ⟨counter, kept⟩ := run_removals rows db
  obtain ⟨old, isKept, sameKey⟩ := mem_afterItems (same.symm ▸ isRow) (counter.symm ▸ below)
  exact ((kept old).mp isKept).2 row member sameKey.symm

/-- The writes before the last ones of a request leave the rows exactly when they write nothing. -/
theorem sameRows_iff {dto : UpdateCategoryDto} {first rest : List CategoryWrite}
    {write : CategoryWrite}
    (split : writesOf db { dto with descriptions := some items } = first ++ write :: rest) :
    SameRows db (categoryWrites.run db first) ↔ WritesNothing db first := by
  constructor
  · intro same
    have areUpdates : ∀ write ∈ first, IsUpdate write := by
      intro other member
      have before : first ++ (write :: rest).dropLast =
          removals db dto.categoryId items ++ items.map (writeOfItem dto.categoryId) := by
        rw [← List.dropLast_append_of_ne_nil (List.cons_ne_nil write rest), ← split, writesOf,
          List.dropLast_concat]
      rcases List.append_eq_append_iff.mp before with
        ⟨later, isRemovals, _⟩ | ⟨done, rfl, isDone⟩
      · obtain ⟨rows, _, isRows, rfl, _⟩ := List.map_eq_append_iff.mp isRemovals
        have none : rows = [] := @removals_eq_nil_of_same dto.categoryId [] db rows
          (fun row isRow => (Table.mem_select.mp (List.mem_of_mem_filter
            (isRows ▸ List.mem_append_left _ isRow))).1) same.2
        rw [none] at member
        cases member
      · obtain ⟨written, _, _, rfl, _⟩ := List.map_eq_append_iff.mp isDone
        rw [StepSystem.run_append] at same
        have sameRows := same.2
        rw [run_items] at sameRows
        have noRemovals : removals db dto.categoryId items = [] := by
          unfold removals
          exact List.map_eq_nil_iff.mpr (removals_eq_nil_of_same (fun row isRow =>
            (Table.mem_select.mp (List.mem_of_mem_filter isRow)).1) sameRows)
        rw [noRemovals] at sameRows member
        have lengths := @length_afterItems dto.categoryId written db.descriptions
        have gives := @givenId_of_length written (by
          have sameLength := congrArg List.length sameRows
          simp only [StepSystem.run_nil] at sameLength
          omega)
        obtain ⟨item, isItem, rfl⟩ := List.mem_map.mp member
        obtain ⟨key, isGiven⟩ := Option.ne_none_iff_exists'.mp (gives item isItem)
        refine ⟨key, item, ?_⟩
        unfold writeOfItem
        rw [isGiven]
    refine ⟨areUpdates, fun row member => ?_⟩
    have rows := (run_updates areUpdates db).2.symm.trans same.2
    exact List.map_inj_left.mp (rows.trans (List.map_id _).symm) row member
  · rintro ⟨areUpdates, unchanged⟩
    obtain ⟨sameCategories, rows⟩ := run_updates areUpdates db
    refine ⟨congrArg Table.rows sameCategories, rows.trans ?_⟩
    exact (List.map_congr_left unchanged).trans (List.map_id' _)

/-! ## The update -/

/-- The category is not there, or the writes hold together: where all of them are accepted, the
request addresses descriptions of the category, and where one is refused, nothing was written
before it. -/
def HoldsTogether (accepts : CategoryDb → CategoryWrite → Bool) (dto : UpdateCategoryDto)
    (items : List UpdateCategoryDescriptionDto) (db : CategoryDb) : Prop :=
  let writes := writesOf db { dto with descriptions := some items }
  db.categories.find? dto.categoryId = none ∨
    (categoryWrites.Accepted (acceptsWrite accepts) db writes →
        Addressed db dto.categoryId items) ∧
      ∀ first write rest, writes = first ++ write :: rest →
        categoryWrites.Accepted (acceptsWrite accepts) db first →
        acceptsWrite accepts (categoryWrites.run db first) write = false → WritesNothing db first

/-- An update synchronises the descriptions or changes nothing exactly when its writes hold
together. -/
theorem update_settled_iff (accepts : CategoryDb → CategoryWrite → Bool) (dto : UpdateCategoryDto)
    (items : List UpdateCategoryDescriptionDto) (db : CategoryDb) :
    Settled db dto.categoryId items (update accepts { dto with descriptions := some items } db) ↔
      HoldsTogether accepts dto items db := by
  rcases isFound : db.categories.find? dto.categoryId with _ | category
  · have ended : update accepts { dto with descriptions := some items } db =
        (.error .entityNotFound, db) := by
      simp only [update, bind, Program.andThen, Program.read, id, isFound, Program.raise]
    rw [ended]
    exact iff_of_true ⟨rfl, rfl⟩ (.inl isFound)
  · have runs : update accepts { dto with descriptions := some items } db =
        Program.writeAll categoryWrites (acceptsWrite accepts)
          CategoryError.database (writesOf db { dto with descriptions := some items }) db := by
      simp only [update, bind, Program.andThen, Program.read, id, isFound]
    have isThere : db.categories.find? dto.categoryId ≠ none := by
      rw [isFound]
      exact Option.some_ne_none category
    rw [runs, HoldsTogether, or_iff_right isThere]
    rcases StepSystem.accepted_or_refused db (writesOf db { dto with descriptions := some items })
      with accepted | ⟨first, write, rest, split, accepted, refused⟩
    · rw [Program.writeAll_of_accepted accepted]
      have isAfter := @descriptions_run_writesOf items db dto
      constructor
      · intro synchronised
        refine ⟨fun _ => addressed_of_synchronised synchronised isAfter, ?_⟩
        intro first write rest split _ refused
        rw [split] at accepted
        rw [accepted.not_refused] at refused
        cases refused
      · rintro ⟨addressed, _⟩
        exact synchronised_of_addressed (addressed accepted) isAfter
    · have ended : Program.writeAll categoryWrites (acceptsWrite accepts)
          CategoryError.database (writesOf db { dto with descriptions := some items }) db =
            (.error CategoryError.database, categoryWrites.run db first) := by
        rw [split]
        exact Program.writeAll_of_refused accepted refused
      rw [ended]
      refine (sameRows_iff split).trans ⟨fun nothing => ⟨?_, ?_⟩, fun holds =>
        holds.2 first write rest split accepted refused⟩
      · intro all
        rw [split] at all
        rw [all.not_refused] at refused
        cases refused
      · intro first' write' rest' split' accepted' refused'
        rwa [← accepted.first_eq (split.symm.trans split') refused accepted' refused']

end Requests

/-- Two categories with a description each. -/
def twoCategories : CategoryDb where
  categories := .ofRows
    [{ categoryId := 0, tenantId := 1, statusId := 1, groupName := "goods", updatedBy := none },
      { categoryId := 0, tenantId := 2, statusId := 1, groupName := "goods", updatedBy := none }]
  descriptions := .ofRows
    [{ categoryDescriptionId := 0, categoryId := 1, languageId := 1, name := "Tools",
       description := none },
      { categoryDescriptionId := 0, categoryId := 2, languageId := 1, name := "Books",
        description := none }]

/-- A request for the first category that gives the id of the other description. -/
def foreignItem : UpdateCategoryDescriptionDto :=
  { categoryDescriptionId := some 2, name := some "Magazines" }

/-- The update returns, has removed the description of the first category, and has renamed that of
the second. -/
theorem foreignItem_notSettled :
    ¬Settled twoCategories 1 [foreignItem]
      (update (fun _ _ => true) { categoryId := 1, descriptions := some [foreignItem] }
        twoCategories) := by
  intro settled
  have synchronised : Synchronised twoCategories
      (update (fun _ _ => true) { categoryId := 1, descriptions := some [foreignItem] }
        twoCategories).2 1 [foreignItem] := settled
  have kept := (synchronised.others
    { categoryDescriptionId := 2, categoryId := 2, languageId := 1, name := "Books",
      description := none } (by decide)).mpr (by decide)
  exact absurd kept (by decide)

end CoreApi.Categories
