import CoreApi.Foundation.FindOptions
import Mathlib.Data.Rat.Floor

/-!
# Listings with a search text

Four services list the rows of a scope (a tenant, a task, a project, an event) a
page at a time. Each puts the search conditions in the place of the scope instead
of beside it: a listing with a search text returns the matching rows of all scopes.
-/

namespace CoreApi.Listings

open CoreApi.Foundation CoreApi.FindOptions

/-! ## Filters and pages -/

/-- `FiltersDto` without the scope. -/
structure PageFilters where
  search : Option String
  page : Option Int
  limit : Option Int
  sortBy : Option String
  sortOrder : Option String

/-- The search text, `none` where it is missing or empty. -/
def PageFilters.searched (filters : PageFilters) : Option String :=
  filters.search.filter (· ≠ "")

/-- The filters with `page` and `limit` as `buildFindQuery` leaves them. -/
def PageFilters.paged (filters : PageFilters) : PageFilters :=
  match filters.limit.filter (· ≠ 0) with
  | some limit =>
      { filters with
        page := some ((filters.page.filter (· ≠ 0)).getD 1)
        limit := some (min limit 10) }
  | none => filters

/-- `buildFindQuery`: the search conditions replace those of the scope. -/
def buildFindQuery (scope : Conditions) (alternatives : String → List Conditions)
    (filters : PageFilters) : FindQuery where
  conditions :=
    match filters.searched with
    | some search => .anyOf (alternatives search)
    | none => .object scope
  order := (filters.sortBy.filter (· ≠ "")).map fun sortBy =>
    (sortBy, (filters.sortOrder.filter (· ≠ "")).getD "ASC")
  take := (filters.limit.filter (· ≠ 0)).map (min · 10)
  skip := (filters.limit.filter (· ≠ 0)).map fun limit =>
    ((filters.page.filter (· ≠ 0)).getD 1 - 1) * min limit 10

/-- `RuntimeV2ListPagination`. -/
structure Pagination where
  total : Nat
  page : Int
  limit : Int
  totalPages : Int

/-- `buildRuntimeV2ListPagination`. -/
def buildRuntimeV2ListPagination (page limit : Option Int) (total : Nat) (defaultLimit : Int) :
    Pagination :=
  let effLimit := (limit.filter (0 < ·)).getD defaultLimit
  { total := total
    page := (page.filter (1 ≤ ·)).getD 1
    limit := effLimit
    totalPages := max 1 ⌈(total : Rat) / effLimit⌉ }

/-- What a listing returns. -/
structure Listing (Row : Type) where
  items : List Row
  pagination : Pagination

/-- `NO_RECORD_FOUND_FOR_PASSED_FILTERS_MESSAGE`. -/
def noRecordFound (entityName : String) : String :=
  "No " ++ entityName ++ " record found.Please change filter params."

/-! ## Services -/

/-- What a service lists: its entity, the conditions of a scope, which rows meet them, and the
alternatives of a search. -/
structure ListingService (Scope Row : Type) where
  mapping : Mapping Row
  scope : Scope → Conditions
  alternatives : String → List Conditions
  InScope : Scope → Row → Prop
  scope_holds : ∀ same bounds row,
    (scope bounds).holds same mapping row = true ↔ InScope bounds row
  scope_resolves : ∀ bounds, (Where.object (scope bounds)).resolve mapping.schema = .ok ()

section Listings

variable {Scope Row : Type} (service : ListingService Scope Row) (server : Server Row)
  (rows : List Row) (bounds : Scope) (filters : PageFilters)

/-- `findAll` of the service. -/
def ListingService.findAll : Except String (Listing Row) := do
  let found ← findAndCount service.mapping server
    (buildFindQuery (service.scope bounds) service.alternatives filters) rows
  if found.1.isEmpty then .error (noRecordFound service.mapping.schema.name)
  else
    .ok
      { items := found.1
        pagination :=
          buildRuntimeV2ListPagination filters.paged.page filters.paged.limit found.2 10 }

/-- The row is on the page that the filters ask for. -/
def ListingService.Returned (row : Row) : Prop :=
  ∃ listing, service.findAll server rows bounds filters = .ok listing ∧ row ∈ listing.items

/-- The row meets one of the alternatives of the search. -/
def ListingService.Matches (search : String) (row : Row) : Prop :=
  (Where.anyOf (service.alternatives search)).holds server.same service.mapping row = true

/-- The pages with the search text have rows of the scope only, and only such as are on a page
without it. -/
structure Narrows : Prop where
  subset : ∀ page row,
    service.Returned server rows bounds { filters with page := page } row →
    ∃ page', service.Returned server rows bounds
      { filters with search := none, page := page' } row
  inScope : ∀ page row,
    service.Returned server rows bounds { filters with page := page } row →
    service.InScope bounds row

variable {service server rows bounds filters}

/-- What is returned was stored, and meets the conditions of the query. -/
theorem ListingService.Returned.holds {row : Row}
    (returned : service.Returned server rows bounds filters row) :
    row ∈ rows ∧ (buildFindQuery (service.scope bounds) service.alternatives
      filters).conditions.holds server.same service.mapping row = true := by
  obtain ⟨listing, run, member⟩ := returned
  unfold ListingService.findAll at run
  obtain ⟨⟨items, total⟩, isFound, run⟩ := bind_eq_ok.mp run
  dsimp only at run
  split at run
  · cases run
  · cases run
    exact mem_of_findAndCount isFound member

theorem returned_of_page {row : Row} {items : List Row}
    (resolved : (buildFindQuery (service.scope bounds) service.alternatives
      filters).conditions.resolve service.mapping.schema = .ok ())
    (isPage : page (buildFindQuery (service.scope bounds) service.alternatives filters).take
      (buildFindQuery (service.scope bounds) service.alternatives filters).skip
      (result service.mapping server
        (buildFindQuery (service.scope bounds) service.alternatives filters) rows) = .ok items)
    (member : row ∈ items) : service.Returned server rows bounds filters row := by
  have nonempty : items.isEmpty = false := by
    rw [List.isEmpty_eq_false_iff]
    exact List.ne_nil_of_mem member
  unfold ListingService.Returned ListingService.findAll
  rw [findAndCount_resolved resolved, isPage]
  simp only [Except.map, ok_bind, nonempty, Bool.false_eq_true, if_false]
  exact ⟨_, rfl, member⟩

/-- Every row that meets the conditions is on some page, unless the limit is negative. -/
theorem exists_returned {row : Row} (accepted : 0 ≤ filters.limit.getD 0)
    (resolved : (buildFindQuery (service.scope bounds) service.alternatives
      filters).conditions.resolve service.mapping.schema = .ok ())
    (stored : row ∈ rows) (holds : (buildFindQuery (service.scope bounds) service.alternatives
      filters).conditions.holds server.same service.mapping row = true) :
    ∃ page, service.Returned server rows bounds { filters with page := page } row := by
  have found := mem_result.mpr (And.intro stored holds)
  obtain ⟨place, isPlace⟩ := List.mem_iff_getElem?.mp found
  rcases isLimit : filters.limit.filter (· ≠ 0) with _ | limit
  · refine ⟨none, @returned_of_page _ _ service server rows bounds { filters with page := none }
      row _ resolved ?_ found⟩
    simp only [buildFindQuery, isLimit, Option.map_none]
    rfl
  · -- the page of the place of the row
    have positive : 0 < min limit 10 := by
      rcases given : filters.limit with _ | value
      · rw [given] at isLimit
        cases isLimit
      · rw [given] at isLimit accepted
        obtain ⟨isValue, nonzero⟩ := Option.filter_eq_some_iff.mp isLimit
        cases isValue
        have nonzero : limit ≠ 0 := by simpa using nonzero
        have accepted : 0 ≤ limit := accepted
        omega
    obtain ⟨size, isSize⟩ := Int.eq_ofNat_of_zero_le (Int.le_of_lt positive)
    have sizePositive : 0 < size := by
      rw [isSize] at positive
      exact Int.natCast_pos.mp positive
    refine ⟨some ((place / size : Nat) + 1), @returned_of_page _ _ service server rows bounds
      { filters with page := some ((place / size : Nat) + 1) } row _ resolved ?_
      (exists_page sizePositive isPlace)⟩
    have isPage : (Option.filter (fun x : Int => decide (x ≠ 0))
        (some ((place / size : Nat) + 1))) = some (((place / size : Nat) : Int) + 1) := by
      have nonzero : ∀ n : Nat, (n : Int) + 1 ≠ 0 := fun n => by omega
      rw [Option.filter_some, if_pos (decide_eq_true (nonzero _))]
    have isSkip : (((place / size : Nat) : Int) + 1 - 1) * size = ((place / size * size : Nat) : Int) := by
      rw [Int.add_sub_cancel, Int.natCast_mul]
    simp only [buildFindQuery, isLimit, Option.map_some, isPage, Option.getD_some, isSize, isSkip]
    exact page_nonneg _ _ _

theorem conditions_searched {search : String} (searched : filters.searched = some search) :
    (buildFindQuery (service.scope bounds) service.alternatives filters).conditions =
      .anyOf (service.alternatives search) := by
  unfold buildFindQuery
  simp only [searched]

theorem conditions_unsearched (unsearched : filters.searched = none) :
    (buildFindQuery (service.scope bounds) service.alternatives filters).conditions =
      .object (service.scope bounds) := by
  unfold buildFindQuery
  simp only [unsearched]

/-- A listing without a search text has the rows of its scope. -/
theorem ListingService.Returned.inScope {row : Row} (unsearched : filters.searched = none)
    (returned : service.Returned server rows bounds filters row) : service.InScope bounds row := by
  have holds := returned.holds.2
  rw [conditions_unsearched unsearched] at holds
  exact (service.scope_holds server.same bounds row).mp holds

theorem not_returned {message : String} (refused : findAndCount service.mapping server
      (buildFindQuery (service.scope bounds) service.alternatives filters) rows = .error message)
    {row : Row} : ¬ service.Returned server rows bounds filters row := by
  rintro ⟨listing, run, _⟩
  unfold ListingService.findAll at run
  rw [refused] at run
  cases run

theorem not_returned_of_negative (negative : filters.limit.getD 0 < 0) {row : Row} :
    ¬ service.Returned server rows bounds filters row := by
  rcases given : filters.limit with _ | limit
  · rw [given] at negative
    exact absurd negative (lt_irrefl 0)
  · rw [given, Option.getD_some] at negative
    have isTake : (buildFindQuery (service.scope bounds) service.alternatives filters).take =
        some (min limit 10) := by
      have nonzero : limit ≠ 0 := Int.ne_of_lt negative
      simp [buildFindQuery, given, nonzero]
    have refused : ∃ message, findAndCount service.mapping server
        (buildFindQuery (service.scope bounds) service.alternatives filters) rows =
          .error message := by
      rcases resolved : (buildFindQuery (service.scope bounds) service.alternatives
          filters).conditions.resolve service.mapping.schema with message | _
      · exact ⟨message, findAndCount_unresolved resolved⟩
      · have below : min limit 10 < 0 := lt_of_le_of_lt (min_le_left _ _) negative
        rw [findAndCount_resolved resolved, isTake, page_negative below]
        exact ⟨_, rfl⟩
    obtain ⟨message, refused⟩ := refused
    exact not_returned refused

/-- The search narrows a listing exactly where there is none, where the server refuses the
query, or where all rows that match are rows of the scope. -/
theorem narrows_iff :
    Narrows service server rows bounds filters ↔
      ∀ search, filters.searched = some search → filters.limit.getD 0 < 0 ∨
        (∃ message, (Where.anyOf (service.alternatives search)).resolve service.mapping.schema =
          .error message) ∨
        ∀ row ∈ rows, service.Matches server search row → service.InScope bounds row := by
  constructor
  · intro narrows search searched
    by_cases negative : filters.limit.getD 0 < 0
    · exact .inl negative
    right
    rcases resolved : (Where.anyOf (service.alternatives search)).resolve
        service.mapping.schema with message | _
    · exact .inl ⟨message, rfl⟩
    right
    intro row stored isMatch
    have conditions := @conditions_searched _ _ service bounds filters search searched
    obtain ⟨page, returned⟩ := @exists_returned _ _ service server rows bounds filters row
      (Int.not_lt.mp negative) (conditions ▸ resolved) stored (conditions ▸ isMatch)
    exact narrows.inScope page row returned
  · intro condition
    suffices inScope : ∀ page row, service.Returned server rows bounds
        { filters with page := page } row → service.InScope bounds row by
      refine ⟨fun page row returned => ?_, inScope⟩
      have unsearched : ({ filters with search := none } : PageFilters).searched = none := rfl
      have conditions := @conditions_unsearched _ _ service bounds
        { filters with search := none } unsearched
      refine @exists_returned _ _ service server rows bounds { filters with search := none } row
        ?_ (conditions ▸ service.scope_resolves bounds) returned.holds.1
        (conditions ▸ (service.scope_holds _ _ _).mpr (inScope page row returned))
      by_contra negative
      have refused := @not_returned_of_negative _ _ service server rows bounds
        { filters with page := page } (Int.not_le.mp negative) row
      exact refused returned
    intro page row returned
    rcases searched : filters.searched with _ | search
    · have unsearched : ({ filters with page := page } : PageFilters).searched = none := searched
      exact ListingService.Returned.inScope unsearched returned
    · have conditions := @conditions_searched _ _ service bounds { filters with page := page }
        search searched
      rcases condition search searched with negative | ⟨message, unresolved⟩ | inScope
      · have refused := @not_returned_of_negative _ _ service server rows bounds
          { filters with page := page } negative row
        exact absurd returned refused
      · exact absurd returned (not_returned (findAndCount_unresolved (conditions ▸ unresolved)))
      · obtain ⟨stored, holds⟩ := returned.holds
        rw [conditions] at holds
        exact inScope row stored holds

end Listings

/-! ## Invitations of a tenant -/

/-- The columns of a user that the search names. -/
structure InvitedUser where
  username : String
  email : String
  firstName : String
  lastName : String

/-- An invitation with its user and its tenant. -/
structure TenantUserInvitation where
  invitationId : Nat
  tenantId : Nat
  userId : Option Nat
  email : String
  token : String
  roleId : Nat
  status : String
  invitedBy : Nat
  user : Option InvitedUser
  tenantName : String

namespace TenantUserInvitationsService

/-- `TenantUserInvitationsEntity`; the users and tenants have more properties of the same
kind. -/
def mapping : Mapping TenantUserInvitation where
  schema :=
    { name := "TenantUserInvitationsEntity"
      columns := ["invitationId", "tenantId", "userId", "email", "token", "roleId", "status",
        "invitedBy"]
      relations := [("user", "UserEntity", ["userId", "email", "username", "firstName",
        "lastName", "status", "displayName"]), ("tenant", "TenantEntity", ["tenantId", "name"])] }
  read row path :=
    match path with
    | ["tenantId"] => .num row.tenantId
    | ["token"] => .str row.token
    | ["status"] => .str row.status
    | ["tenant", "name"] => .str row.tenantName
    | ["user", "username"] => (row.user.map fun user => Value.str user.username).getD .null
    | ["user", "email"] => (row.user.map fun user => Value.str user.email).getD .null
    | ["user", "firstName"] => (row.user.map fun user => Value.str user.firstName).getD .null
    | ["user", "lastName"] => (row.user.map fun user => Value.str user.lastName).getD .null
    | _ => .null

/-- The alternatives of `buildFindQuery`. -/
def alternatives (search : String) : List Conditions :=
  let like := some (Test.like ("%" ++ search ++ "%"))
  [[(["user", "first_name"], like)], [(["user", "last_name"], like)],
    [(["user", "username"], like)], [(["user", "email"], like)], [(["tenant", "name"], like)],
    [(["token"], like)], [(["status"], like)]]

/-- The listing of `findAllByFilter`; the scope is a tenant. -/
def listing : ListingService Nat TenantUserInvitation where
  mapping := mapping
  scope tenantId := [(["tenantId"], some (.equals (.num tenantId)))]
  alternatives := alternatives
  InScope tenantId row := row.tenantId = tenantId
  scope_holds same tenantId row := by
    simp [Conditions.holds, Conditions.given, Test.holds, mapping]
  scope_resolves tenantId := rfl

/-- A user has no property `first_name`: no search returns anything. -/
theorem search_unresolved (search : String) :
    (Where.anyOf (alternatives search)).resolve mapping.schema =
      .error (propertyNotFound "first_name" "UserEntity") := rfl

end TenantUserInvitationsService

/-- `text LIKE '%search%'`. -/
def Contains (same : Char → Char → Bool) (search text : String) : Prop :=
  LikePattern.like same ("%" ++ search ++ "%").toList text.toList = true

instance (same : Char → Char → Bool) (search text : String) :
    Decidable (Contains same search text) :=
  inferInstanceAs (Decidable (_ = true))

/-! ## Comments of a task -/

/-- A comment. -/
structure TaskComment where
  commentId : Nat
  taskId : Nat
  comment : String
  createdBy : Nat
  updatedBy : Nat

namespace CommentsService

/-- `TaskCommentsEntity`. -/
def mapping : Mapping TaskComment where
  schema :=
    { name := "TaskCommentsEntity"
      columns := ["commentId", "taskId", "comment", "createdBy", "updatedBy"]
      relations := [] }
  read row path :=
    match path with
    | ["commentId"] => .num row.commentId
    | ["taskId"] => .num row.taskId
    | ["comment"] => .str row.comment
    | ["createdBy"] => .num row.createdBy
    | ["updatedBy"] => .num row.updatedBy
    | _ => .null

/-- The listing of `findAll`; the scope is a task. -/
def listing : ListingService Nat TaskComment where
  mapping := mapping
  scope taskId := [(["taskId"], some (.equals (.num taskId)))]
  alternatives search := [[(["comment"], some (.like ("%" ++ search ++ "%")))]]
  InScope taskId row := row.taskId = taskId
  scope_holds same taskId row := by
    simp [Conditions.holds, Conditions.given, Test.holds, mapping]
  scope_resolves taskId := rfl

theorem matches_iff {server : Server TaskComment} {search : String} {row : TaskComment} :
    listing.Matches server search row ↔ Contains server.same search row.comment := by
  simp [ListingService.Matches, listing, Where.holds, Conditions.holds, Conditions.given,
    Test.holds, Value.text, mapping, Contains]

end CommentsService

/-! ## Task statuses of a project -/

/-- A column of a board. -/
structure ProjectTaskStatus where
  projectTaskStatusId : Nat
  tenantId : Nat
  projectId : Nat
  name : String
  statusOrder : Int

namespace ProjectTaskStatusesService

/-- `ProjectTaskStatusEntity`. -/
def mapping : Mapping ProjectTaskStatus where
  schema :=
    { name := "ProjectTaskStatusEntity"
      columns := ["projectTaskStatusId", "tenantId", "projectId", "name", "statusOrder"]
      relations := [] }
  read row path :=
    match path with
    | ["projectTaskStatusId"] => .num row.projectTaskStatusId
    | ["tenantId"] => .num row.tenantId
    | ["projectId"] => .num row.projectId
    | ["name"] => .str row.name
    | ["statusOrder"] => .num row.statusOrder
    | _ => .null

/-- The listing of `findAll`; the scope is a project. -/
def listing : ListingService Nat ProjectTaskStatus where
  mapping := mapping
  scope projectId := [(["projectId"], some (.equals (.num projectId)))]
  alternatives search := [[(["name"], some (.like ("%" ++ search ++ "%")))]]
  InScope projectId row := row.projectId = projectId
  scope_holds same projectId row := by
    simp [Conditions.holds, Conditions.given, Test.holds, mapping]
  scope_resolves projectId := rfl

theorem matches_iff {server : Server ProjectTaskStatus} {search : String}
    {row : ProjectTaskStatus} :
    listing.Matches server search row ↔ Contains server.same search row.name := by
  simp [ListingService.Matches, listing, Where.holds, Conditions.holds, Conditions.given,
    Test.holds, Value.text, mapping, Contains]

end ProjectTaskStatusesService

/-! ## Listeners of an event -/

/-- A listener with its event, its channel and its template. -/
structure EventListener where
  listenerId : Nat
  eventId : Nat
  channelId : Nat
  templateId : Nat
  isActive : Bool
  eventName : String
  channelName : String
  templateName : String

namespace EventListenersService

/-- The scope of a listing: an event, and a flag; either may be left out. -/
structure EventScope where
  eventId : Option Nat
  isActive : Option Bool

/-- `EventListenerEntity`. -/
def mapping : Mapping EventListener where
  schema :=
    { name := "EventListenerEntity"
      columns := ["listenerId", "eventId", "channelId", "templateId", "isActive"]
      relations := [("event", "EventEntity", ["eventId", "name", "description"]),
        ("channel", "NotificationChannelEntity", ["channelId", "name", "description"]),
        ("template", "NotificationTemplateEntity", ["templateId", "name", "subject", "message"])] }
  read row path :=
    match path with
    | ["listenerId"] => .num row.listenerId
    | ["eventId"] => .num row.eventId
    | ["channelId"] => .num row.channelId
    | ["templateId"] => .num row.templateId
    | ["isActive"] => .bool row.isActive
    | ["event", "name"] => .str row.eventName
    | ["channel", "name"] => .str row.channelName
    | ["template", "name"] => .str row.templateName
    | _ => .null

/-- The alternatives of `buildFindQuery`. -/
def alternatives (search : String) : List Conditions :=
  let like := some (Test.like ("%" ++ search ++ "%"))
  [[(["event", "name"], like)], [(["channel", "name"], like)], [(["template", "name"], like)]]

/-- The row has the event and the flag of the scope. -/
def InScope (bounds : EventScope) (row : EventListener) : Prop :=
  (∀ eventId, bounds.eventId = some eventId → row.eventId = eventId) ∧
    ∀ isActive, bounds.isActive = some isActive → row.isActive = isActive

/-- The listing of `findAll`. -/
def listing : ListingService EventScope EventListener where
  mapping := mapping
  scope bounds :=
    [(["eventId"], bounds.eventId.map fun eventId => .equals (.num eventId)),
      (["isActive"], bounds.isActive.map fun isActive => .equals (.bool isActive))]
  alternatives := alternatives
  InScope := InScope
  scope_holds same bounds row := by
    obtain ⟨eventId, isActive⟩ := bounds
    rcases eventId with _ | eventId <;> rcases isActive with _ | isActive <;>
      simp [Conditions.holds, Conditions.given, Test.holds, mapping, InScope]
  scope_resolves bounds := by
    obtain ⟨eventId, isActive⟩ := bounds
    rcases eventId with _ | eventId <;> rcases isActive with _ | isActive <;> rfl

theorem matches_iff {server : Server EventListener} {search : String} {row : EventListener} :
    listing.Matches server search row ↔
      Contains server.same search row.eventName ∨ Contains server.same search row.channelName ∨
        Contains server.same search row.templateName := by
  simp [ListingService.Matches, listing, alternatives, Where.holds, Conditions.holds,
    Conditions.given, Test.holds, Value.text, mapping, Contains]

end EventListenersService

/-! ## Which searches narrow -/

/-- A search of invitations returns nothing. A search of the other listings narrows them exactly
where every row that matches, of whatever scope, is one of the scope that was asked for. -/
theorem search_narrows_iff (filters : PageFilters) :
    (∀ server rows tenantId,
      Narrows TenantUserInvitationsService.listing server rows tenantId filters) ∧
    (∀ server rows taskId, Narrows CommentsService.listing server rows taskId filters ↔
      ∀ search, filters.searched = some search → filters.limit.getD 0 < 0 ∨
        ∀ row ∈ rows, Contains server.same search row.comment → row.taskId = taskId) ∧
    (∀ server rows projectId,
      Narrows ProjectTaskStatusesService.listing server rows projectId filters ↔
      ∀ search, filters.searched = some search → filters.limit.getD 0 < 0 ∨
        ∀ row ∈ rows, Contains server.same search row.name → row.projectId = projectId) ∧
    ∀ server rows bounds, Narrows EventListenersService.listing server rows bounds filters ↔
      ∀ search, filters.searched = some search → filters.limit.getD 0 < 0 ∨
        ∀ row ∈ rows, (Contains server.same search row.eventName ∨
          Contains server.same search row.channelName ∨
          Contains server.same search row.templateName) →
        EventListenersService.InScope bounds row := by
  have resolves : ∀ {Scope Row : Type} {service : ListingService Scope Row} {server : Server Row}
      {rows : List Row} {bounds : Scope} {filters : PageFilters},
      (∀ search, (Where.anyOf (service.alternatives search)).resolve service.mapping.schema =
        .ok ()) →
      (Narrows service server rows bounds filters ↔
        ∀ search, filters.searched = some search → filters.limit.getD 0 < 0 ∨
          ∀ row ∈ rows, service.Matches server search row → service.InScope bounds row) := by
    intro Scope Row service server rows bounds filters resolved
    rw [narrows_iff]
    have known : ∀ search, ¬ ∃ message, (Where.anyOf (service.alternatives search)).resolve
        service.mapping.schema = .error message := by
      rintro search ⟨message, unresolved⟩
      rw [resolved search] at unresolved
      cases unresolved
    simp only [known, false_or]
  refine ⟨?_, ?_, ?_, ?_⟩
  · intro server rows tenantId
    exact narrows_iff.mpr fun search _ =>
      .inr (.inl ⟨_, TenantUserInvitationsService.search_unresolved search⟩)
  · intro server rows taskId
    rw [resolves fun _ => rfl]
    simp only [CommentsService.matches_iff]
    rfl
  · intro server rows projectId
    rw [resolves fun _ => rfl]
    simp only [ProjectTaskStatusesService.matches_iff]
    rfl
  · intro server rows bounds
    rw [resolves fun _ => rfl]
    simp only [EventListenersService.matches_iff]
    rfl

/-- A server that compares letters as they are and hands out rows as they are stored. -/
def plainServer {Row : Type} : Server Row where
  same := (· == ·)
  arrange _ rows := rows
  arrange_perm _ rows := .refl rows

/-- A search of the comments of task 1 returns the comment of task 2. -/
theorem comment_of_other_task :
    ¬ Narrows CommentsService.listing plainServer [⟨1, 1, "done", 3, 3⟩, ⟨2, 2, "rotor", 3, 3⟩] 1
      ⟨some "rot", some 1, some 10, none, none⟩ := by
  intro narrows
  have isMatch : Contains (@plainServer TaskComment).same "rot" "rotor" := by
    decide +kernel
  rcases narrows_iff.mp narrows "rot" rfl with negative | ⟨message, unresolved⟩ | inScope
  · exact absurd negative (by decide)
  · cases unresolved
  · have sameTask : (2 : Nat) = 1 := inScope ⟨2, 2, "rotor", 3, 3⟩ (by simp)
      (CommentsService.matches_iff.mpr isMatch)
    exact absurd sameTask (by decide)

end CoreApi.Listings
