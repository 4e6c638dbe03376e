import CoreApi.Listings.SearchListings
import CoreApi.Scheduler.DependencyGates

/-!
# The listing of schedules

`findAll` asks for a page only where a limit is given, and reports a page either way. The
limit it reports where none is given bounds nothing.
-/

namespace CoreApi.Scheduler

open CoreApi.Foundation CoreApi.FindOptions CoreApi.Listings

/-! ## The envelope of a listing -/

section Envelopes

variable {Scope Row : Type} {service : ListingService Scope Row} {server : Server Row}
  {rows : List Row} {bounds : Scope} {filters : PageFilters}

/-- The envelope tells which slice of all rows the items are, and how many such slices there
are. -/
structure DescribesSlice (all : List Row) (listing : Listing Row) : Prop where
  within : (listing.items.length : Int) ≤ listing.pagination.limit
  slice : listing.items =
    (all.drop ((listing.pagination.page - 1) * listing.pagination.limit).toNat).take
      listing.pagination.limit.toNat
  covers : (all.length : Int) ≤ listing.pagination.totalPages * listing.pagination.limit

theorem buildRuntimeV2ListPagination_given {page limit : Int} (pages : 1 ≤ page)
    (positive : 0 < limit) (total : Nat) :
    buildRuntimeV2ListPagination (some page) (some limit) total 10 =
      ⟨total, page, limit, max 1 ⌈(total : Rat) / limit⌉⟩ := by
  simp only [buildRuntimeV2ListPagination, Option.filter_some, pages, positive, decide_true,
    if_true, Option.getD_some]

theorem le_pages_mul {total : Nat} {limit : Int} (positive : 0 < limit) :
    (total : Int) ≤ max 1 ⌈(total : Rat) / limit⌉ * limit := by
  have divisor : (0 : Rat) < limit := by exact_mod_cast positive
  have full : (total : Rat) ≤ ⌈(total : Rat) / limit⌉ * limit :=
    (div_le_iff₀ divisor).mp (Int.le_ceil _)
  have pages : (total : Int) ≤ ⌈(total : Rat) / limit⌉ * limit := by exact_mod_cast full
  exact pages.trans (Int.mul_le_mul_of_nonneg_right (le_max_right _ _) positive.le)

variable (service server rows bounds filters) in
/-- All rows a listing pages through, in order. -/
def listed : List Row :=
  result service.mapping server
    (buildFindQuery (service.scope bounds) service.alternatives filters) rows

/-- A listing without a search text is a page of all its rows, with their number. -/
theorem findAll_unsearched {listing : Listing Row} (unsearched : filters.searched = none)
    (run : service.findAll server rows bounds filters = .ok listing) :
    page (buildFindQuery (service.scope bounds) service.alternatives filters).take
        (buildFindQuery (service.scope bounds) service.alternatives filters).skip
        (listed service server rows bounds filters) = .ok listing.items ∧
      listing.items ≠ [] ∧
      listing.pagination = buildRuntimeV2ListPagination filters.paged.page filters.paged.limit
        (listed service server rows bounds filters).length 10 := by
  unfold ListingService.findAll at run
  rw [findAndCount_resolved
    ((conditions_unsearched unsearched).symm ▸ service.scope_resolves bounds), ← listed] at run
  obtain ⟨⟨items, total⟩, isPage, run⟩ := bind_eq_ok.mp run
  dsimp only at run
  split at run
  · cases run
  · rename_i nonempty
    cases run
    cases paged : page (buildFindQuery (service.scope bounds) service.alternatives filters).take
      (buildFindQuery (service.scope bounds) service.alternatives filters).skip
      (listed service server rows bounds filters) with
    | error message =>
        rw [paged] at isPage
        cases isPage
    | ok found =>
        rw [paged] at isPage
        cases isPage
        exact ⟨rfl, by simpa using nonempty, rfl⟩

/-- With a limit the envelope tells the slice. -/
theorem describesSlice_of_limit {listing : Listing Row} (unsearched : filters.searched = none)
    {limit : Int} (given : filters.limit = some limit) (nonzero : limit ≠ 0)
    (run : service.findAll server rows bounds filters = .ok listing) :
    DescribesSlice (listed service server rows bounds filters) listing := by
  obtain ⟨isPage, _, pagination⟩ := findAll_unsearched unsearched run
  have limited : filters.limit.filter (· ≠ 0) = some limit := by
    simp [given, Option.filter_some, nonzero]
  simp only [PageFilters.paged, limited] at pagination
  simp only [buildFindQuery, limited, Option.map_some] at isPage
  obtain ⟨notNegative, before, items⟩ := page_eq_ok isPage
  have positive : 0 < min limit 10 := by omega
  have pages : 0 ≤ (filters.page.filter (· ≠ 0)).getD 1 - 1 :=
    nonneg_of_mul_nonneg_left before positive
  rw [buildRuntimeV2ListPagination_given (by omega) positive] at pagination
  refine ⟨?_, ?_, ?_⟩
  · have short : listing.items.length ≤ (min limit 10).toNat := by
      rw [items]
      exact List.length_take_le _ _
    rw [pagination]
    dsimp only
    omega
  · rw [items, pagination]
  · rw [pagination]
    exact le_pages_mul positive

/-- Without a limit everything is returned, if there is anything. -/
theorem findAll_unlimited (unsearched : filters.searched = none)
    (unlimited : filters.limit.filter (· ≠ 0) = none)
    (nonempty : listed service server rows bounds filters ≠ []) :
    ∃ listing, service.findAll server rows bounds filters = .ok listing := by
  have isPage : page (buildFindQuery (service.scope bounds) service.alternatives filters).take
      (buildFindQuery (service.scope bounds) service.alternatives filters).skip
      (listed service server rows bounds filters) =
        .ok (listed service server rows bounds filters) := by
    simp only [buildFindQuery, unlimited, Option.map_none, page]
    simp
  unfold ListingService.findAll
  rw [findAndCount_resolved
    ((conditions_unsearched unsearched).symm ▸ service.scope_resolves bounds), ← listed, isPage]
  simp only [Except.map, ok_bind]
  rw [if_neg (by simpa using nonempty)]
  exact ⟨_, rfl⟩

/-- Without a limit all rows are items, and the limit that is reported is 10. -/
theorem findAll_unlimited_eq {listing : Listing Row} (unsearched : filters.searched = none)
    (unlimited : filters.limit.filter (· ≠ 0) = none)
    (run : service.findAll server rows bounds filters = .ok listing) :
    listing.items = listed service server rows bounds filters ∧
      listing.pagination = ⟨listing.items.length, max 1 (filters.page.getD 1), 10,
        max 1 ⌈(listing.items.length : Rat) / (10 : Int)⌉⟩ := by
  obtain ⟨isPage, _, pagination⟩ := findAll_unsearched unsearched run
  simp only [PageFilters.paged, unlimited] at pagination
  simp only [buildFindQuery, unlimited, Option.map_none] at isPage
  have items : listed service server rows bounds filters = listing.items := by
    simpa [page] using isPage
  refine ⟨items.symm, ?_⟩
  rw [pagination, items]
  unfold buildRuntimeV2ListPagination
  have noLimit : filters.limit.filter (0 < ·) = none := by
    rw [Option.filter_eq_none_iff] at unlimited ⊢
    intro limit isLimit
    have zero := unlimited limit isLimit
    simp at zero
    simp [zero]
  have pages : (filters.page.filter (1 ≤ ·)).getD 1 = max 1 (filters.page.getD 1) := by
    cases filters.page with
    | none => rfl
    | some page =>
        rw [Option.filter_some, Option.getD_some]
        split <;> simp_all <;> omega
  rw [noLimit, pages, Option.getD_none]

theorem describesSlice_unlimited_iff {listing : Listing Row} (unsearched : filters.searched = none)
    (unlimited : filters.limit.filter (· ≠ 0) = none)
    (run : service.findAll server rows bounds filters = .ok listing) :
    DescribesSlice (listed service server rows bounds filters) listing ↔
      (listed service server rows bounds filters).length ≤ 10 ∧ filters.page.getD 1 ≤ 1 := by
  obtain ⟨_, nonempty, _⟩ := findAll_unsearched unsearched run
  obtain ⟨items, reported⟩ := findAll_unlimited_eq unsearched unlimited run
  rw [← items]
  have some' := List.length_pos_of_ne_nil nonempty
  constructor
  · intro describes
    have short := describes.within
    have slice := congrArg List.length describes.slice
    rw [reported] at short slice
    rw [List.length_take, List.length_drop] at slice
    dsimp only at short slice
    omega
  · rintro ⟨short, first⟩
    have isFirst : max 1 (filters.page.getD 1) = 1 := max_eq_left first
    refine ⟨?_, ?_, ?_⟩
    · rw [reported]
      dsimp only
      omega
    · rw [reported, isFirst]
      exact (List.take_of_length_le (by simpa using short)).symm
    · rw [reported]
      exact le_pages_mul (by decide)

end Envelopes

/-! ## Schedules of a tenant -/

namespace SchedulerService

/-- The columns of `ScheduledTaskEntity` that `buildFindQuery` tests. -/
def scheduledTaskMapping : Mapping ScheduledTaskEntity where
  schema :=
    { name := "ScheduledTaskEntity"
      columns := ["tenantId", "isActive"]
      relations := [] }
  read row path :=
    match path with
    | ["tenantId"] => .num row.tenantId
    | ["isActive"] => .num (if row.isActive then 1 else 0)
    | _ => .null

/-- The active schedules of a tenant; a search is not looked at yet. -/
def schedules : ListingService Nat ScheduledTaskEntity where
  mapping := scheduledTaskMapping
  scope tenantId := [(["tenantId"], some (.equals (.num tenantId))),
    (["isActive"], some (.equals (.num 1)))]
  alternatives _ := []
  InScope tenantId row := row.tenantId = tenantId ∧ row.isActive = true
  scope_holds same tenantId row := by
    simp [Conditions.holds, Conditions.given, Test.holds, scheduledTaskMapping]
  scope_resolves tenantId := rfl

variable (server : Server ScheduledTaskEntity) (filters : PageFilters) (tenantId : Nat) (w : World)

/-- `findAll`. -/
def findAll : Except String (Listing ScheduledTaskEntity) :=
  schedules.findAll server w.scheduledTasks.rows tenantId { filters with search := none }

/-- The active schedules of the tenant, in the order the filters ask for. -/
def activeSchedules : List ScheduledTaskEntity :=
  server.arrange ((filters.sortBy.filter (· ≠ "")).map fun sortBy =>
      (sortBy, (filters.sortOrder.filter (· ≠ "")).getD "ASC"))
    (w.scheduledTasks.select fun row => row.tenantId == tenantId && row.isActive)

theorem listed_schedules :
    listed schedules server w.scheduledTasks.rows tenantId { filters with search := none } =
      activeSchedules server filters tenantId w := by
  unfold listed result activeSchedules Table.select
  congr 1
  apply List.filter_congr
  intro row _
  rw [Bool.eq_iff_iff, Bool.and_eq_true, beq_iff_eq]
  exact schedules.scope_holds server.same tenantId row

/-- **The envelope describes the slice** exactly where a limit is given, or where everything
fits the page that is reported without one. -/
theorem findAll_describesSlice_iff :
    (∀ listing, findAll server filters tenantId w = .ok listing →
      DescribesSlice (activeSchedules server filters tenantId w) listing) ↔
      filters.limit.getD 0 ≠ 0 ∨ activeSchedules server filters tenantId w = [] ∨
        (activeSchedules server filters tenantId w).length ≤ 10 ∧ filters.page.getD 1 ≤ 1 := by
  rw [← listed_schedules]
  have unsearched : ({ filters with search := none } : PageFilters).searched = none := rfl
  cases given : filters.limit.filter (· ≠ 0) with
  | some limit =>
      obtain ⟨isLimit, nonzero⟩ := Option.filter_eq_some_iff.mp given
      refine iff_of_true (fun listing run => ?_) (.inl (by simpa [isLimit] using nonzero))
      exact describesSlice_of_limit unsearched isLimit (by simpa using nonzero) run
  | none =>
      have absent : ¬filters.limit.getD 0 ≠ 0 := by
        cases isLimit : filters.limit with
        | none => simp
        | some limit => simpa [isLimit] using Option.filter_eq_none_iff.mp given limit isLimit
      rw [or_iff_right absent, or_iff_not_imp_left]
      constructor
      · intro describes nonempty
        obtain ⟨listing, run⟩ := findAll_unlimited unsearched given nonempty
        exact (describesSlice_unlimited_iff unsearched given run).mp (describes listing run)
      · intro small listing run
        obtain ⟨isPage, returned, _⟩ := findAll_unsearched unsearched run
        refine (describesSlice_unlimited_iff unsearched given run).mpr (small fun empty => ?_)
        rw [empty] at isPage
        obtain ⟨row, member⟩ := List.exists_mem_of_ne_nil _ returned
        exact absurd (mem_of_page isPage member) List.not_mem_nil

theorem listed_plain :
    listed schedules plainServer w.scheduledTasks.rows tenantId ⟨none, none, none, none, none⟩ =
      w.scheduledTasks.select fun row => row.tenantId == tenantId && row.isActive :=
  listed_schedules plainServer ⟨none, none, none, none, none⟩ tenantId w

/-- Task 1 is scheduled eleven times. -/
def elevenTimes : World :=
  (Runs.system Runs.everyDay).run Runs.unscheduled
    (List.replicate 11 (.scheduleTaskWindow (DependencyResolver.firstTenMinutes 1)))

/-- Without page and limit all eleven rows come on page 1, with a limit of 10. -/
theorem unlimited_exceeds_limit :
    ∃ listing, findAll plainServer ⟨none, none, none, none, none⟩ 1 elevenTimes = .ok listing ∧
      listing.items.length = 11 ∧ listing.pagination.page = 1 ∧ listing.pagination.limit = 10 ∧
      ¬DescribesSlice
        (activeSchedules plainServer ⟨none, none, none, none, none⟩ 1 elevenTimes) listing := by
  have eleven : (elevenTimes.scheduledTasks.select fun row =>
      row.tenantId == 1 && row.isActive).length = 11 := by decide +kernel
  have all : (listed schedules plainServer elevenTimes.scheduledTasks.rows 1
      ⟨none, none, none, none, none⟩).length = 11 := by
    rw [listed_plain]
    exact eleven
  obtain ⟨listing, run⟩ := @findAll_unlimited _ _ schedules plainServer
    elevenTimes.scheduledTasks.rows 1 ⟨none, none, none, none, none⟩ rfl rfl
    (List.ne_nil_of_length_pos (by omega))
  obtain ⟨items, reported⟩ := findAll_unlimited_eq rfl rfl run
  have count : listing.items.length = 11 := by rw [items, all]
  refine ⟨listing, run, count, by rw [reported]; rfl, by rw [reported], fun describes => ?_⟩
  have short := describes.within
  rw [reported, count] at short
  exact absurd short (by decide)

end SchedulerService

end CoreApi.Scheduler
