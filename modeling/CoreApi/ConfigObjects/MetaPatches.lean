import CoreApi.ConfigObjects.InstanceIsolation
import CoreApi.Foundation.CheckedWrites

/-!
# Patches of one instance that overlap

A patch of custom values reads the row of an instance, merges and saves it. Nothing
locks the row before it is saved: a save replaces what was committed since its
transaction read, and of two transactions that find no row one runs into the unique
key.
-/

namespace CoreApi.ConfigObjects

open CoreApi.Foundation Automation ObjectDesign

namespace MetaPatches

/-! ## The rows of custom values -/

/-- `project_meta` or `task_meta`: its unique key admits one row for each instance. -/
structure MetaTable extends Table SorMetaRow where
  unique : (rows.map SorMetaRow.coreId).Nodup

theorem key_setJson (metaJson : Option Record) (row : SorMetaRow) :
    Keyed.key { row with metaJson := metaJson } = Keyed.key row := rfl

namespace MetaTable

variable (table : MetaTable) (coreId : Nat)

/-- The row of an instance. -/
def rowOf : Option SorMetaRow := table.rows.find? fun row => row.coreId == coreId

/-- INSERT of a row, which the unique key refuses where the instance has one. -/
def insert? (metaJson : Record) : Option MetaTable :=
  if absent : table.rowOf coreId = none then
    some
      { table.toTable.insert ⟨0, coreId, some metaJson⟩ with
        unique := by
          rw [Table.rows_insert, List.map_append, List.nodup_append]
          refine ⟨table.unique, List.nodup_singleton _, ?_⟩
          intro other member new isNew
          obtain ⟨row, isRow, rfl⟩ := List.mem_map.mp member
          rw [List.mem_singleton.mp isNew]
          have different : row.coreId ≠ coreId := by
            simpa using List.find?_eq_none.mp absent row isRow
          exact different }
  else none

/-- UPDATE of the column of one row. -/
def setJson (metaId : Nat) (metaJson : Record) : MetaTable :=
  { table.toTable.updateAt metaId (fun row => { row with metaJson := some metaJson })
      (key_setJson (some metaJson)) with
    unique := by
      rw [Table.rows_updateAt, List.map_map]
      refine (List.map_congr_left fun row _ => ?_) ▸ table.unique
      simp only [Function.comp_apply]
      split <;> rfl }

end MetaTable

/-! ## Interleaved transactions -/

/-- The isolation level of the transactions. -/
inductive Isolation where
  | readCommitted | repeatableRead
deriving DecidableEq

/-- The entries of a patch whose keys are fields of the schema, in a call that has some. -/
structure MetaPatch where
  entries : Record
  nonempty : entries ≠ []
  distinct : entries.Distinct

/-- The row as the mapper reads it again before it saves what it loaded. -/
def reread (isolation : Isolation) (table : MetaTable) (coreId : Nat) (row : SorMetaRow) :
    Option SorMetaRow :=
  match isolation with
  | .readCommitted => table.rowOf coreId
  | .repeatableRead => some row

/-- `manager.save` of the merged row; the mapper sends no UPDATE where the column has the value
already. -/
def save (isolation : Isolation) (table : MetaTable) (coreId : Nat) (patch : MetaPatch)
    (metaRow : Option SorMetaRow) : Option MetaTable :=
  let metaJson := (metaJsonOf metaRow).spread patch.entries
  match metaRow with
  | none => table.insert? coreId metaJson
  | some row =>
      if (reread isolation table coreId row).bind SorMetaRow.metaJson = some metaJson then some table
      else some (table.setJson row.metaId metaJson)

/-- The committed rows, the row that each open transaction has read, and the calls that
succeeded. -/
structure State (n : Nat) where
  table : MetaTable
  loaded : Fin n → Option (Option SorMetaRow)
  committed : List (Fin n)

/-- Where the row that a transaction sees is fixed, which is its first read under REPEATABLE READ
and its read of the row under READ COMMITTED, and its save up to the commit. The row is locked
from the save on, so nothing another transaction saves comes between. A call that raises before
it saves has no `save`; calls that patch core columns too wait for each other at the core row,
which leaves fewer schedules. -/
inductive Action (n : Nat) where
  | load (call : Fin n)
  | save (call : Fin n)

section

variable {n : Nat} (isolation : Isolation) (coreId : Nat) (patches : Fin n → MetaPatch)

/-- The state after an action; a call whose save is refused is rolled back. -/
def step (state : State n) : Action n → State n
  | .load call =>
      { state with
        loaded := Function.update state.loaded call (some (state.table.rowOf coreId)) }
  | .save call =>
      match state.loaded call with
      | none => state
      | some metaRow =>
          match save isolation state.table coreId (patches call) metaRow with
          | none => { state with loaded := Function.update state.loaded call none }
          | some table =>
              { table := table
                loaded := Function.update state.loaded call none
                committed := state.committed ++ [call] }

/-- The transactions of the calls on one instance. -/
def system : StepSystem (State n) (Action n) where
  step := step isolation coreId patches

/-- No transaction is open. -/
def opened (table : MetaTable) : State n := ⟨table, fun _ => none, []⟩

/-- The record has the entries of the patch. -/
def Holds (entries : Record) (patch : MetaPatch) : Prop :=
  ∀ entry ∈ patch.entries, entries.get? entry.1 = some entry.2

instance (entries : Record) (patch : MetaPatch) : Decidable (Holds entries patch) :=
  inferInstanceAs (Decidable (∀ entry ∈ patch.entries, entries.get? entry.1 = some entry.2))

/-- The custom values of the instance. -/
def valuesOf (table : MetaTable) : Record := metaJsonOf (table.rowOf coreId)

/-- Every patch that succeeded is in the one row of the instance, and nothing else changed. -/
structure NoneLost (start : MetaTable) (final : State n) : Prop where
  oneRow : final.committed ≠ [] →
    ∃ row, final.table.select (fun row => row.coreId == coreId) = [row]
  patched : ∀ call ∈ final.committed, Holds (valuesOf coreId final.table) (patches call)
  others : ∀ name, (∀ call ∈ final.committed, name ∉ (patches call).entries.names) →
    (valuesOf coreId final.table).get? name = (valuesOf coreId start).get? name

end

/-! ## What survives of a schedule -/

/-- The JSON of a row, where there is one. -/
def jsonOf (row : Option SorMetaRow) : Option (Option Record) := row.map SorMetaRow.metaJson

/-- The entries of a JSON column. -/
def entriesOf (json : Option (Option Record)) : Record := (json.bind id).getD []

theorem entriesOf_jsonOf (row : Option SorMetaRow) : entriesOf (jsonOf row) = metaJsonOf row := by
  cases row <;> rfl

section

variable {n : Nat} (isolation : Isolation) (patches : Fin n → MetaPatch)
  (start : Option (Option Record))

/-- What a schedule does with the row. -/
def Action.access : Action n → Access (Fin n) Unit
  | .load call => .read call
  | .save call => .write call ()

/-- Which saves write: not one that inserts where there is a row by then, and under REPEATABLE
READ not one of a patch that the row which was read has already. -/
def writes : CheckedCell.Acceptance (Fin n) Unit := fun call seen current =>
  decide ((start ≠ none ∨ seen ≠ [] ∨ current = []) ∧
    ¬ (isolation = .repeatableRead ∧
      ((call, ()) ∈ seen ∨ Holds (entriesOf start) (patches call))))

/-- The saves of a schedule, and what is left of them. -/
def historyOf (schedule : List (Action n)) :
    CheckedCell (Fin n) (List (Fin n × Unit)) Unit :=
  CheckedCell.history (writes isolation patches start) (schedule.map Action.access)

/-- The JSON with a patch merged into it. -/
def mergeInto (call : Fin n) (_ : Unit) (json : Option (Option Record)) : Option (Option Record) :=
  some (some ((entriesOf json).spread (patches call).entries))

/-- The JSON with the patches of a history. -/
def merged (history : List (Fin n × Unit)) : Option (Option Record) :=
  CheckedCell.contents (mergeInto patches) start history

end

/-! ## Merged patches -/

/-- Setting a field to the value it has changes nothing. -/
theorem set_of_get? {fields : Record} {name : String} {value : Json}
    (has : fields.get? name = some value) : fields.set name value = fields := by
  induction fields with
  | nil => cases has
  | cons entry rest ih =>
      obtain ⟨other, old⟩ := entry
      by_cases same : other = name
      · subst same
        have isOld : old = value := by simpa [Record.get?, List.lookup_cons] using has
        rw [Record.set, if_pos rfl, isOld]
      · have missed : (name == other) = false := by simpa using Ne.symm same
        have inRest : Record.get? rest name = some value := by
          simpa [Record.get?, List.lookup_cons, missed] using has
        rw [Record.set, if_neg same, ih inRest]

/-- A merged patch is there. -/
theorem holds_spread (base : Record) (patch : MetaPatch) :
    Holds (base.spread patch.entries) patch := by
  intro entry member
  obtain ⟨value, isEntry, isValue⟩ := @Record.get?_spread_of_mem base _ _
    (List.mem_map_of_mem member)
  have same : (entry.1, value) = entry :=
    List.inj_on_of_nodup_map patch.distinct isEntry member rfl
  rw [isValue, ← same]

/-- A patch that is there already changes nothing, and no other patch does. -/
theorem spread_eq_self_iff {base : Record} {patch : MetaPatch} :
    base.spread patch.entries = base ↔ Holds base patch := by
  constructor
  · intro same
    exact same ▸ holds_spread base patch
  · intro held
    have kept : ∀ entries : Record, (∀ entry ∈ entries, base.get? entry.1 = some entry.2) →
        base.spread entries = base := by
      intro entries
      induction entries with
      | nil => exact fun _ => rfl
      | cons entry rest ih =>
          intro held
          obtain ⟨first, others⟩ := List.forall_mem_cons.mp held
          rw [Record.spread, List.foldl_cons, set_of_get? first]
          exact ih others
    exact kept patch.entries held

section

variable {n : Nat} {isolation : Isolation} {coreId : Nat} {patches : Fin n → MetaPatch}
  {start : Option (Option Record)}

/-- The calls patch keys of their own. -/
def OwnKeys (patches : Fin n → MetaPatch) : Prop :=
  ∀ call other, call ≠ other → ∀ name ∈ (patches call).entries.names,
    name ∉ (patches other).entries.names

theorem merged_concat (history : List (Fin n × Unit)) (call : Fin n) :
    merged patches start (history ++ [(call, ())]) =
      some (some ((entriesOf (merged patches start history)).spread (patches call).entries)) :=
  CheckedCell.contents_concat _ _ _ _

/-- There is a row exactly if there was one, or a patch was merged. -/
theorem merged_eq_none_iff {history : List (Fin n × Unit)} :
    merged patches start history = none ↔ start = none ∧ history = [] := by
  rcases List.eq_nil_or_concat history with rfl | ⟨rest, ⟨call, _⟩, rfl⟩
  · simp [merged, CheckedCell.contents]
  · rw [List.concat_eq_append, merged_concat]
    simp

/-- A key that no merged patch has keeps its value. -/
theorem get?_merged_of_not_mem {history : List (Fin n × Unit)} {name : String}
    (absent : ∀ call, (call, ()) ∈ history → name ∉ (patches call).entries.names) :
    (entriesOf (merged patches start history)).get? name = (entriesOf start).get? name := by
  induction history using List.reverseRecOn with
  | nil => rfl
  | append_singleton rest last ih =>
      obtain ⟨call, _⟩ := last
      rw [merged_concat]
      refine (Record.get?_spread_of_not_mem (absent call (by simp))).trans ?_
      exact ih fun other member => absent other (List.mem_append_left _ member)

theorem holds_merged (own : OwnKeys patches) {history : List (Fin n × Unit)} {call : Fin n}
    (member : (call, ()) ∈ history) :
    Holds (entriesOf (merged patches start history)) (patches call) := by
  induction history using List.reverseRecOn with
  | nil => cases member
  | append_singleton rest last ih =>
      obtain ⟨other, _⟩ := last
      rw [merged_concat]
      by_cases same : call = other
      · subst same
        exact holds_spread _ _
      · have earlier : (call, ()) ∈ rest := by simpa [same] using member
        intro entry isEntry
        refine (Record.get?_spread_of_not_mem
          (own call other same _ (List.mem_map_of_mem isEntry))).trans ?_
        exact ih earlier entry isEntry

theorem holds_merged_iff (own : OwnKeys patches) {history : List (Fin n × Unit)} {call : Fin n} :
    Holds (entriesOf (merged patches start history)) (patches call) ↔
      (call, ()) ∈ history ∨ Holds (entriesOf start) (patches call) := by
  by_cases member : (call, ()) ∈ history
  · exact iff_of_true (holds_merged own member) (.inl member)
  · have kept : ∀ entry ∈ (patches call).entries,
        (entriesOf (merged patches start history)).get? entry.1 =
          (entriesOf start).get? entry.1 := by
      intro entry isEntry
      refine get?_merged_of_not_mem fun other merged isKey => ?_
      have different : call ≠ other := fun same => member (same ▸ merged)
      exact own call other different _ (List.mem_map_of_mem isEntry) isKey
    simp only [member, false_or]
    exact forall₂_congr fun entry isEntry => by rw [kept entry isEntry]

/-- The row that was read has the column already exactly if the patch is in it. -/
theorem merged_eq_self_iff (own : OwnKeys patches) {history : List (Fin n × Unit)}
    {call : Fin n} :
    merged patches start history =
        some (some ((entriesOf (merged patches start history)).spread (patches call).entries)) ↔
      (call, ()) ∈ history ∨ Holds (entriesOf start) (patches call) := by
  rw [← holds_merged_iff own]
  generalize merged patches start history = json
  constructor
  · intro same
    have held := holds_spread (entriesOf json) (patches call)
    rw [same]
    exact held
  · intro held
    obtain ⟨first, rest, isPatch⟩ := List.exists_cons_of_ne_nil (patches call).nonempty
    have has := held first (isPatch ▸ List.mem_cons_self)
    rw [spread_eq_self_iff.mpr held]
    rcases json with _ | _ | entries
    · cases has
    · cases has
    · rfl

/-! ## Runs -/

/-- What an insert stores. -/
theorem MetaTable.rowOf_insert? {table after : MetaTable} {metaJson : Record}
    (inserted : table.insert? coreId metaJson = some after) :
    table.rowOf coreId = none ∧
      ∃ row, after.rowOf coreId = some row ∧ row.metaJson = some metaJson := by
  unfold MetaTable.insert? at inserted
  split at inserted
  · next absent =>
      cases inserted
      refine ⟨absent, Keyed.withKey table.autoIncrement ⟨0, coreId, some metaJson⟩, ?_, rfl⟩
      unfold MetaTable.rowOf at absent ⊢
      rw [Table.rows_insert, List.find?_append, absent, Option.none_or]
      exact List.find?_cons_of_pos (beq_self_eq_true coreId)
  · cases inserted

/-- What an update stores. -/
theorem MetaTable.rowOf_setJson {table : MetaTable} {row : SorMetaRow}
    (isRow : table.rowOf coreId = some row) (metaJson : Record) :
    (table.setJson row.metaId metaJson).rowOf coreId =
      some { row with metaJson := some metaJson } := by
  have same : ∀ other : SorMetaRow, (if Keyed.key other = row.metaId then
      { other with metaJson := some metaJson } else other).coreId = other.coreId := by
    intro other
    split <;> rfl
  unfold MetaTable.rowOf at isRow ⊢
  unfold MetaTable.setJson
  rw [Table.rows_updateAt, List.find?_map]
  simp only [Function.comp_def, same, isRow, Option.map_some]
  exact congrArg some (if_pos rfl)

/-- The state of a schedule and its history: the row holds the patches that are left, every
transaction has read what was left then, and the calls that succeeded wrote or had no need to. -/
structure Simulates (isolation : Isolation) (coreId : Nat) (patches : Fin n → MetaPatch)
    (start : Option (Option Record)) (state : State n)
    (history : CheckedCell (Fin n) (List (Fin n × Unit)) Unit) : Prop where
  tracked : history.Tracked
  value : jsonOf (state.table.rowOf coreId) = merged patches start history.value
  seen : ∀ call, (state.loaded call).map jsonOf =
    (history.seen call).map (merged patches start)
  kept : ∀ call row, state.loaded call = some (some row) →
    ∃ now, state.table.rowOf coreId = some now ∧ now.metaId = row.metaId
  written : ∀ call, (call, ()) ∈ history.written → call ∈ state.committed
  committed : ∀ call ∈ state.committed,
    (call, ()) ∈ history.written ∨ Holds (entriesOf start) (patches call)
  row : state.committed ≠ [] → state.table.rowOf coreId ≠ none

namespace Simulates

variable {state : State n} {history : CheckedCell (Fin n) (List (Fin n × Unit)) Unit}

theorem load (simulates : Simulates isolation coreId patches start state history)
    (call : Fin n) :
    Simulates isolation coreId patches start (step isolation coreId patches state (.load call))
      (history.access (CheckedCell.recording (writes isolation patches start)) (.read call)) := by
  refine ⟨simulates.tracked.access _, simulates.value, fun other => ?_, fun other row loaded => ?_,
    simulates.written, simulates.committed, simulates.row⟩
  · simp only [step, CheckedCell.access, Function.update_apply]
    split
    · rw [Option.map_some, Option.map_some, simulates.value]
    · exact simulates.seen other
  · simp only [step, Function.update_apply] at loaded
    split at loaded
    · exact ⟨row, Option.some.inj loaded, rfl⟩
    · exact simulates.kept other row loaded

/-- A transaction that ends and leaves the row: it is rolled back, or had nothing to write. -/
theorem leave (simulates : Simulates isolation coreId patches start state history) (call : Fin n)
    (refused : ∀ seen, history.seen call = some seen →
      writes isolation patches start call seen history.value = false)
    (read : history.seen call ≠ none) (done : List (Fin n))
    (unneeded : ∀ other ∈ done, (other, ()) ∈ history.written ∨
      Holds (entriesOf start) (patches other))
    (hasRow : done ≠ [] → state.table.rowOf coreId ≠ none) :
    Simulates isolation coreId patches start
      { state with
        loaded := Function.update state.loaded call none
        committed := state.committed ++ done }
      (history.access (CheckedCell.recording (writes isolation patches start))
        (.write call ())) := by
  obtain ⟨seen, hasRead⟩ := Option.ne_none_iff_exists'.mp read
  have tracked := @CheckedCell.Tracked.access _ _ _ (writes isolation patches start) _
    simulates.tracked (.write call ())
  rw [CheckedCell.access_refused hasRead (refused seen hasRead)] at tracked ⊢
  refine ⟨tracked, simulates.value, fun other => ?_, fun other row loaded => ?_, ?_, ?_, ?_⟩
  · simp only [Function.update_apply]
    split
    · rfl
    · exact simulates.seen other
  · simp only [Function.update_apply] at loaded
    split at loaded
    · cases loaded
    · exact simulates.kept other row loaded
  · exact fun other member => List.mem_append_left done (simulates.written other member)
  · intro other member
    rcases List.mem_append.mp member with earlier | new
    · exact simulates.committed other earlier
    · exact unneeded other new
  · intro some
    by_cases none : done = []
    · subst none
      exact simulates.row (by simpa using some)
    · exact hasRow none

theorem commit (simulates : Simulates isolation coreId patches start state history)
    {call : Fin n} {seen : List (Fin n × Unit)} (read : history.seen call = some seen)
    (accepted : writes isolation patches start call seen history.value = true) {table : MetaTable}
    (stored : jsonOf (table.rowOf coreId) = merged patches start (seen ++ [(call, ())]))
    (stays : ∀ row, state.table.rowOf coreId = some row →
      ∃ now, table.rowOf coreId = some now ∧ now.metaId = row.metaId) :
    Simulates isolation coreId patches start
      { table := table
        loaded := Function.update state.loaded call none
        committed := state.committed ++ [call] }
      (history.access (CheckedCell.recording (writes isolation patches start))
        (.write call ())) := by
  have tracked := @CheckedCell.Tracked.access _ _ _ (writes isolation patches start) _
    simulates.tracked (.write call ())
  rw [CheckedCell.access_accepted read accepted] at tracked ⊢
  refine ⟨tracked, stored, fun other => ?_, fun other row loaded => ?_, ?_, ?_, ?_⟩
  · simp only [Function.update_apply]
    split
    · rfl
    · exact simulates.seen other
  · simp only [Function.update_apply] at loaded
    split at loaded
    · cases loaded
    · obtain ⟨now, isNow, same⟩ := simulates.kept other row loaded
      obtain ⟨later, isLater, sameLater⟩ := stays now isNow
      exact ⟨later, isLater, sameLater.trans same⟩
  · intro other member
    rcases List.mem_append.mp member with earlier | new
    · exact List.mem_append_left _ (simulates.written other earlier)
    · rw [(Prod.mk.inj (List.mem_singleton.mp new)).1]
      exact List.mem_append_right _ List.mem_cons_self
  · intro other member
    rcases List.mem_append.mp member with earlier | new
    · exact (simulates.committed other earlier).imp_left (List.mem_append_left _)
    · rw [List.mem_singleton.mp new]
      exact .inl (List.mem_append_right _ List.mem_cons_self)
  · intro _ absent
    rw [absent] at stored
    exact absurd stored.symm fun isNone => by simpa using (merged_eq_none_iff.mp isNone).2

theorem save (own : OwnKeys patches)
    (simulates : Simulates isolation coreId patches start state history) (call : Fin n) :
    Simulates isolation coreId patches start (step isolation coreId patches state (.save call))
      (history.access (CheckedCell.recording (writes isolation patches start))
        (.write call ())) := by
  have sameSeen := simulates.seen call
  rcases loaded : state.loaded call with _ | metaRow
  · have unread : history.seen call = none := by
      rw [loaded, Option.map_none] at sameSeen
      exact Option.map_eq_none_iff.mp sameSeen.symm
    rw [CheckedCell.access_unread unread]
    simpa only [step, loaded] using simulates
  · obtain ⟨seen, read, isSeen⟩ : ∃ seen, history.seen call = some seen ∧
        merged patches start seen = jsonOf metaRow := by
      rw [loaded, Option.map_some] at sameSeen
      exact Option.map_eq_some_iff.mp sameSeen.symm
    have isBase : entriesOf (merged patches start seen) = metaJsonOf metaRow := by
      rw [isSeen, entriesOf_jsonOf]
    have stored : merged patches start (seen ++ [(call, ())]) =
        some (some ((metaJsonOf metaRow).spread (patches call).entries)) := by
      rw [merged_concat, isBase]
    have same := @merged_eq_self_iff _ _ start own seen call
    rw [isBase, isSeen] at same
    rcases metaRow with _ | row
    · -- An insert: the start had no row, and nothing was merged before the read.
      obtain ⟨noStart, rfl⟩ := merged_eq_none_iff.mp isSeen
      have unheld : ¬ Holds (entriesOf start) (patches call) := by
        intro held
        have never := same.mpr (.inr held)
        cases never
      rcases inserted : state.table.insert? coreId
          ((metaJsonOf none).spread (patches call).entries) with _ | table
      · have refused : state.table.rowOf coreId ≠ none := by
          intro absent
          rw [MetaTable.insert?, dif_pos absent] at inserted
          cases inserted
        have left := simulates.leave call (fun seen isRead => ?_) (by simp [read]) []
          nofun fun none => absurd rfl none
        · simpa only [step, loaded, MetaPatches.save, inserted, List.append_nil] using left
        · rw [read] at isRead
          cases isRead
          have current : history.value ≠ [] := by
            intro nothing
            have value := simulates.value
            rw [nothing, isSeen] at value
            exact refused (Option.map_eq_none_iff.mp value)
          simp [writes, noStart, current]
      · obtain ⟨absent, row, isRow, isJson⟩ := MetaTable.rowOf_insert? inserted
        have nothing : history.value = [] := by
          have value := simulates.value
          rw [absent] at value
          exact (merged_eq_none_iff.mp value.symm).2
        have isStored : jsonOf (table.rowOf coreId) = merged patches start ([] ++ [(call, ())]) := by
          rw [stored, isRow, jsonOf, Option.map_some, isJson]
        have committed := simulates.commit read (by simp [writes, nothing, unheld]) isStored
          fun old isOld => absurd isOld (by rw [absent]; exact nofun)
        simpa only [step, loaded, MetaPatches.save, inserted] using committed
    · -- An update: the row that was read is still there, with the JSON it has by now.
      obtain ⟨now, isNow, sameRow⟩ := simulates.kept call row loaded
      have hadRow : start ≠ none ∨ seen ≠ [] ∨ history.value = [] := by
        by_contra none
        rw [not_or, not_or, not_not, not_not] at none
        rw [merged_eq_none_iff.mpr ⟨none.1, none.2.1⟩] at isSeen
        cases isSeen
      have updates : writes isolation patches start call seen history.value = true →
          Simulates isolation coreId patches start
            { table := state.table.setJson row.metaId
                ((metaJsonOf (some row)).spread (patches call).entries)
              loaded := Function.update state.loaded call none
              committed := state.committed ++ [call] }
            (history.access (CheckedCell.recording (writes isolation patches start))
              (.write call ())) := by
        intro accepted
        have isSet := MetaTable.rowOf_setJson isNow
          ((metaJsonOf (some row)).spread (patches call).entries)
        rw [sameRow] at isSet
        refine simulates.commit read accepted (by rw [stored, isSet]; rfl) fun old isOld => ?_
        rw [isNow] at isOld
        cases isOld
        exact ⟨_, isSet, sameRow.symm⟩
      rcases isolation with _ | _
      · have accepted : writes .readCommitted patches start call seen history.value = true := by
          exact decide_eq_true ⟨hadRow, nofun⟩
        by_cases unchanged : now.metaJson =
            some ((metaJsonOf (some row)).spread (patches call).entries)
        · have isStored : jsonOf (state.table.rowOf coreId) =
              merged patches start (seen ++ [(call, ())]) := by
            rw [stored, isNow, jsonOf, Option.map_some, unchanged]
          have committed := simulates.commit read accepted isStored fun old isOld =>
            ⟨old, isOld, rfl⟩
          simpa only [step, loaded, MetaPatches.save, reread, isNow, Option.bind_some, unchanged,
            if_true] using committed
        · simpa only [step, loaded, MetaPatches.save, reread, isNow, Option.bind_some, unchanged,
            if_false] using updates accepted
      · by_cases unchanged : row.metaJson =
            some ((metaJsonOf (some row)).spread (patches call).entries)
        · have inIt := same.mp (congrArg some unchanged)
          have left := simulates.leave call (fun seen isRead => ?_) (by simp [read]) [call]
            ?_ fun _ absent => ?_
          · simpa only [step, loaded, MetaPatches.save, reread, Option.bind_some, unchanged,
              if_true] using left
          · rw [read] at isRead
            cases isRead
            simp [writes, inIt]
          · intro other isCall
            rw [List.mem_singleton.mp isCall]
            exact inIt.imp_left fun merged => simulates.tracked.seen call seen read merged
          · rw [isNow] at absent
            cases absent
        · have notIn := mt same.mpr fun isSame => unchanged (Option.some.inj isSame)
          simpa only [step, loaded, MetaPatches.save, reread, Option.bind_some, unchanged,
            if_false] using updates (decide_eq_true ⟨hadRow, fun skips => notIn skips.2⟩)

theorem run (own : OwnKeys patches)
    (simulates : Simulates isolation coreId patches start state history)
    (schedule : List (Action n)) :
    Simulates isolation coreId patches start
      ((system isolation coreId patches).run state schedule)
      ((CheckedCell.system (CheckedCell.recording (writes isolation patches start))).run history
        (schedule.map Action.access)) := by
  induction schedule generalizing state history with
  | nil => exact simulates
  | cons action rest ih =>
      rw [List.map_cons, StepSystem.run_cons, StepSystem.run_cons]
      cases action with
      | load call => exact ih (simulates.load call)
      | save call => exact ih (simulates.save own call)

theorem run_opened (own : OwnKeys patches) (table : MetaTable) (schedule : List (Action n)) :
    Simulates isolation coreId patches (jsonOf (table.rowOf coreId))
      ((system isolation coreId patches).run (opened table) schedule)
      (historyOf isolation patches (jsonOf (table.rowOf coreId)) schedule) := by
  have opens : Simulates isolation coreId patches (jsonOf (table.rowOf coreId)) (opened table)
      (.fresh []) :=
    ⟨.fresh, rfl, fun _ => rfl, nofun, nofun, nofun, fun none => absurd rfl none⟩
  exact opens.run own schedule

end Simulates

/-- A row that an instance has is the only one. -/
theorem MetaTable.select_of_rowOf {table : MetaTable} {row : SorMetaRow}
    (isRow : table.rowOf coreId = some row) :
    table.select (fun row => row.coreId == coreId) = [row] := by
  obtain ⟨isKey, before, after, rows, none⟩ := List.find?_eq_some_iff_append.mp isRow
  have unique := table.unique
  rw [rows, List.map_append, List.map_cons] at unique
  have different := (List.nodup_cons.mp (List.Nodup.of_append_right unique)).1
  have later : after.filter (fun row => row.coreId == coreId) = [] := by
    refine List.filter_eq_nil_iff.mpr fun other member isOther => different ?_
    rw [beq_iff_eq] at isKey isOther
    rw [isKey, ← isOther]
    exact List.mem_map_of_mem member
  have earlier : before.filter (fun row => row.coreId == coreId) = [] :=
    List.filter_eq_nil_iff.mpr fun other member => by simpa using none other member
  rw [Table.select, rows, List.filter_append, List.filter_cons, if_pos isKey, earlier, later,
    List.nil_append]

/-- The call saved its patch, and a later save replaced it. -/
def Overwritten (isolation : Isolation) (patches : Fin n → MetaPatch)
    (start : Option (Option Record)) (schedule : List (Action n)) (call : Fin n) : Prop :=
  (call, ()) ∈ (historyOf isolation patches start schedule).written ∧
    (call, ()) ∉ (historyOf isolation patches start schedule).value

instance (isolation : Isolation) (patches : Fin n → MetaPatch) (start : Option (Option Record))
    (schedule : List (Action n)) (call : Fin n) :
    Decidable (Overwritten isolation patches start schedule call) :=
  inferInstanceAs (Decidable ((call, ()) ∈ (historyOf isolation patches start schedule).written ∧
    (call, ()) ∉ (historyOf isolation patches start schedule).value))

/-- Under every interleaving the patches are kept exactly if none is overwritten but those that
the instance had before. -/
theorem noneLost_iff (own : OwnKeys patches) (table : MetaTable) (schedule : List (Action n)) :
    NoneLost coreId patches table
        ((system isolation coreId patches).run (opened table) schedule) ↔
      ∀ call, Overwritten isolation patches (jsonOf (table.rowOf coreId)) schedule call →
        Holds (valuesOf coreId table) (patches call) := by
  have simulates := @Simulates.run_opened n isolation coreId patches own table schedule
  generalize (system isolation coreId patches).run (opened table) schedule = final at simulates ⊢
  unfold Overwritten
  generalize historyOf isolation patches (jsonOf (table.rowOf coreId)) schedule = history
    at simulates ⊢
  have isStart : valuesOf coreId table = entriesOf (jsonOf (table.rowOf coreId)) :=
    (entriesOf_jsonOf _).symm
  have isFinal : valuesOf coreId final.table =
      entriesOf (merged patches (jsonOf (table.rowOf coreId)) history.value) := by
    rw [← simulates.value]
    exact (entriesOf_jsonOf _).symm
  rw [isStart]
  constructor
  · rintro ⟨_, patched, _⟩ call ⟨written, gone⟩
    have held := patched call (simulates.written call written)
    rw [isFinal, holds_merged_iff own] at held
    exact held.resolve_left gone
  · intro keeps
    refine ⟨fun some => ?_, fun call member => ?_, fun name absent => ?_⟩
    · obtain ⟨row, isRow⟩ := Option.ne_none_iff_exists'.mp (simulates.row some)
      exact ⟨row, MetaTable.select_of_rowOf isRow⟩
    · rw [isFinal, holds_merged_iff own]
      rcases simulates.committed call member with written | held
      · by_cases left : (call, ()) ∈ history.value
        · exact .inl left
        · exact .inr (keeps call ⟨written, left⟩)
      · exact .inr held
    · rw [isFinal, isStart]
      exact get?_merged_of_not_mem fun call merged =>
        absent call (simulates.written call (simulates.tracked.value merged))

end

/-- An instance without custom values. -/
def blank : MetaTable where
  toTable := .ofRows [⟨0, 1, some []⟩]
  unique := by decide

/-- Two patches of one key each. -/
def twoPatches : Fin 2 → MetaPatch
  | 0 => ⟨[("left", .num 1)], by decide, by decide⟩
  | 1 => ⟨[("right", .num 2)], by decide, by decide⟩

/-- One transaction after the other keeps both patches. -/
theorem noneLost_serial :
    NoneLost 1 twoPatches blank ((system .readCommitted 1 twoPatches).run (opened blank)
      [.load 0, .save 0, .load 1, .save 1]) := by
  have own : OwnKeys twoPatches := by
    unfold OwnKeys
    decide
  exact (noneLost_iff own blank [.load 0, .save 0, .load 1, .save 1]).mpr (by decide)

/-- Two transactions that read the row before either of them saves it keep only one. -/
theorem overlapping_lost :
    ¬ NoneLost 1 twoPatches blank ((system .readCommitted 1 twoPatches).run (opened blank)
        [.load 0, .load 1, .save 0, .save 1]) ∧
      ¬ NoneLost 1 twoPatches blank ((system .repeatableRead 1 twoPatches).run (opened blank)
        [.load 0, .load 1, .save 0, .save 1]) := by
  constructor
  · intro kept
    have lost := kept.patched 0 (by decide)
    revert lost
    decide
  · intro kept
    have lost := kept.patched 0 (by decide)
    revert lost
    decide

end MetaPatches

end CoreApi.ConfigObjects
