import CoreApi.Foundation.LikePattern
import CoreApi.Foundation.Program

/-!
# Find options of an object-relational mapper

A query tests properties of an entity and of the entities it refers to. An object
of conditions asks for all of them, an array of objects for one of its objects; a
condition without a value is no condition, and a property that the entity does not
have makes the query an error. The rows come in some order, a page at a time.
-/

namespace CoreApi.FindOptions

open CoreApi.Foundation

/-- The value of a column. -/
inductive Value where
  | null
  | num (n : Int)
  | bool (b : Bool)
  | str (s : String)
deriving DecidableEq

/-- The text `LIKE` compares, `none` for NULL. -/
def Value.text : Value → Option String
  | .null => none
  | .num n => some (toString n)
  | .bool b => some (if b then "1" else "0")
  | .str s => some s

/-- A test of one property. -/
inductive Test where
  | equals (value : Value)
  | like (pattern : String)

/-- Whether a value passes; NULL passes no test. -/
def Test.holds (same : Char → Char → Bool) : Test → Value → Bool
  | _, .null => false
  | .equals expected, value => value == expected
  | .like pattern, value => value.text.any fun text =>
      LikePattern.like same pattern.toList text.toList

/-- An object of conditions: property paths and what is given for them. -/
abbrev Conditions := List (List String × Option Test)

/-- The `where` of a query. -/
inductive Where where
  | object (conditions : Conditions)
  | anyOf (alternatives : List Conditions)

/-- The properties of an entity, and of the entities it refers to. -/
structure Schema where
  name : String
  columns : List String
  relations : List (String × String × List String)

/-- `EntityPropertyNotFoundError`. -/
def propertyNotFound (property entity : String) : String :=
  "Property \"" ++ property ++ "\" was not found in \"" ++ entity ++
    "\". Make sure your query is correct."

/-- A path must lead to a column of the entity, or of one it refers to. -/
def Schema.resolve (schema : Schema) : List String → Except String Unit
  | [column] =>
      if column ∈ schema.columns then .ok () else .error (propertyNotFound column schema.name)
  | [relation, column] =>
      match schema.relations.lookup relation with
      | none => .error (propertyNotFound relation schema.name)
      | some (target, columns) =>
          if column ∈ columns then .ok () else .error (propertyNotFound column target)
  | path => .error (propertyNotFound (".".intercalate path) schema.name)

/-- The conditions that have a value. -/
def Conditions.given (conditions : Conditions) : List (List String × Test) :=
  conditions.filterMap fun condition => condition.2.map fun test => (condition.1, test)

/-- The objects of a `where`. -/
def Where.objects : Where → List Conditions
  | .object conditions => [conditions]
  | .anyOf alternatives => alternatives

/-- Every property that is tested must exist. -/
def Where.resolve (schema : Schema) (conditions : Where) : Except String Unit :=
  (conditions.objects.flatMap Conditions.given).forM fun condition => schema.resolve condition.1

/-- `findAndCount` options. -/
structure FindQuery where
  conditions : Where
  order : Option (String × String)
  take : Option Int
  skip : Option Int

/-- A row as its entity: the values of its properties. -/
structure Mapping (Row : Type) where
  schema : Schema
  read : Row → List String → Value

section Queries

variable {Row : Type} (same : Char → Char → Bool) (mapping : Mapping Row)

/-- The row meets each condition that is given. -/
def Conditions.holds (conditions : Conditions) (row : Row) : Bool :=
  conditions.given.all fun condition => condition.2.holds same (mapping.read row condition.1)

/-- An array of objects asks for one of those that have a condition, if there is one. -/
def Where.holds : Where → Row → Bool
  | .object conditions, row => conditions.holds same mapping row
  | .anyOf alternatives, row =>
      let asked := alternatives.filter fun conditions => !conditions.given.isEmpty
      asked.isEmpty || asked.any fun conditions => conditions.holds same mapping row

/-- A server: how it compares characters, and the order in which it hands out rows. -/
structure Server (Row : Type) where
  same : Char → Char → Bool
  arrange : Option (String × String) → List Row → List Row
  arrange_perm : ∀ order rows, (arrange order rows).Perm rows

/-- The rows of a page; the server refuses a negative limit or offset. -/
def page (take skip : Option Int) (rows : List Row) : Except String (List Row) :=
  if take.any (· < 0) ∨ skip.any (· < 0) then .error "You have an error in your SQL syntax"
  else
    let rest := rows.drop (skip.getD 0).toNat
    .ok (match take with
      | none => rest
      | some take => rest.take take.toNat)

/-- `repository.findAndCount(query)`. -/
def findAndCount (server : Server Row) (query : FindQuery) (rows : List Row) :
    Except String (List Row × Nat) := do
  query.conditions.resolve mapping.schema
  let found := server.arrange query.order (rows.filter (query.conditions.holds server.same mapping))
  let items ← page query.take query.skip found
  pure (items, found.length)

end Queries

section Results

variable {Row : Type} {mapping : Mapping Row} {server : Server Row} {query : FindQuery}
  {rows : List Row}

/-- A query about a property that does not exist returns nothing. -/
theorem findAndCount_unresolved {message : String}
    (unresolved : query.conditions.resolve mapping.schema = .error message) :
    findAndCount mapping server query rows = .error message := by
  unfold findAndCount
  rw [unresolved]
  rfl

theorem page_nonneg (take skip : Nat) (found : List Row) :
    page (some (take : Int)) (some (skip : Int)) found = .ok ((found.drop skip).take take) := by
  unfold page
  rw [if_neg (by simp)]
  simp

/-- A page that is handed out has a limit and an offset that are not negative. -/
theorem page_eq_ok {take skip : Int} {found items : List Row}
    (isPage : page (some take) (some skip) found = .ok items) :
    0 ≤ take ∧ 0 ≤ skip ∧ items = (found.drop skip.toNat).take take.toNat := by
  unfold page at isPage
  split at isPage
  · cases isPage
  · rename_i accepted
    cases isPage
    simpa using accepted

theorem page_negative {take : Int} (negative : take < 0) (skip : Option Int) (found : List Row) :
    page (some take) skip found = .error "You have an error in your SQL syntax" :=
  if_pos (.inl (by simpa using negative))

/-- The rows of a page are rows of the result. -/
theorem mem_of_page {take skip : Option Int} {found items : List Row}
    (isPage : page take skip found = .ok items) {row : Row} (member : row ∈ items) :
    row ∈ found := by
  unfold page at isPage
  split at isPage
  · cases isPage
  · cases isPage
    rcases take with _ | take
    · exact List.mem_of_mem_drop member
    · exact List.mem_of_mem_drop (List.mem_of_mem_take member)

theorem exists_page {place limit : Nat} (positive : 0 < limit) {found : List Row} {row : Row}
    (isRow : found[place]? = some row) :
    row ∈ (found.drop (place / limit * limit)).take limit := by
  have within : place % limit < limit := Nat.mod_lt _ positive
  rw [List.mem_iff_getElem?]
  refine ⟨place % limit, ?_⟩
  rw [List.getElem?_take, if_pos within, List.getElem?_drop, Nat.div_add_mod']
  exact isRow

variable (mapping server query rows) in
/-- The whole result of a query, in order. -/
def result : List Row :=
  server.arrange query.order (rows.filter (query.conditions.holds server.same mapping))

theorem mem_result {row : Row} :
    row ∈ result mapping server query rows ↔
      row ∈ rows ∧ query.conditions.holds server.same mapping row = true := by
  unfold result
  rw [(server.arrange_perm query.order _).mem_iff, List.mem_filter]

/-- A query about known properties returns a page of its result. -/
theorem findAndCount_resolved (resolved : query.conditions.resolve mapping.schema = .ok ()) :
    findAndCount mapping server query rows =
      (page query.take query.skip (result mapping server query rows)).map fun items =>
        (items, (result mapping server query rows).length) := by
  unfold findAndCount
  rw [resolved, ok_bind]
  dsimp only
  rw [← result]
  rcases page query.take query.skip (result mapping server query rows) with _ | _ <;> rfl

/-- What is returned was stored, and meets the conditions. -/
theorem mem_of_findAndCount {items : List Row} {total : Nat}
    (run : findAndCount mapping server query rows = .ok (items, total)) {row : Row}
    (member : row ∈ items) :
    row ∈ rows ∧ query.conditions.holds server.same mapping row = true := by
  rcases resolved : query.conditions.resolve mapping.schema with message | _
  · rw [findAndCount_unresolved resolved] at run
    cases run
  · rw [findAndCount_resolved resolved] at run
    rcases isPage : page query.take query.skip (result mapping server query rows) with _ | found
    · rw [isPage] at run
      cases run
    · rw [isPage] at run
      cases run
      exact mem_result.mp (mem_of_page isPage member)

end Results

end CoreApi.FindOptions
