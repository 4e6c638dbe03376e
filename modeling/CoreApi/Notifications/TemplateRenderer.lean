import Mathlib
import CoreApi.Foundation.Placeholders
import CoreApi.Notifications.ExactlyOnce

/-!
# The template renderer

`NotificationTemplateRendererService` fills the placeholders of a notification's subject and
message, and names the required variables that have no value. A required variable is named
exactly when its placeholder is filled with nothing, so the job leaves no such message to be
sent.
-/

namespace CoreApi.Notifications

open CoreApi.Foundation

/-! ## Values -/

/-- What a property is read as: a JSON value, or what objects and arrays inherit. -/
inductive Value where
  | undefined
  | json (value : Json)
  | method
  | objectPrototype
  | arrayPrototype
  deriving DecidableEq

/-- The names of the methods that objects, and arrays, inherit. -/
structure Methods where
  ofObjects : String → Bool
  ofArrays : String → Bool

section Renderer

variable (methods : Methods)

/-- What an object without a property of its own is read as. -/
def inheritedByObject (name : String) : Value :=
  if name = "__proto__" then .objectPrototype
  else if methods.ofObjects name then .method
  else .undefined

def inheritedByArray (name : String) : Value :=
  if name = "__proto__" then .arrayPrototype
  else if methods.ofArrays name then .method
  else .undefined

/-- `(acc as Record<string, unknown>)[key]`, where `acc` is an object, and `undefined` elsewhere. -/
def Value.property (value : Value) (name : String) : Value :=
  match value with
  | .json (.obj fields) =>
      match fields.lookup name with
      | some value => .json value
      | none => inheritedByObject methods name
  | .json (.arr items) =>
      if name = "length" then .json (.num items.length)
      else
        match (List.range items.length).find? fun i => Nat.repr i == name with
        | some i => .json (items.getD i .null)
        | none => inheritedByArray methods name
  | .objectPrototype => if name = "__proto__" then .json .null else inheritedByObject methods name
  | .arrayPrototype =>
      if name = "length" then .json (.num 0)
      else if name = "__proto__" then .objectPrototype
      else inheritedByArray methods name
  | _ => .undefined

/-- `keyPath.split('.')`. -/
def splitPath : List Char → List (List Char)
  | [] => [[]]
  | letter :: rest =>
      if letter = '.' then [] :: splitPath rest
      else
        match splitPath rest with
        | [] => [[letter]]
        | name :: names => (letter :: name) :: names

/-- `getValueByPath`. -/
def getValueByPath (keyPath : List Char) (vars : Record) : Value :=
  (splitPath keyPath).foldl (fun value name => value.property methods (String.ofList name))
    (.json (.obj vars))

/-- A letter of a text as `JSON.stringify` writes it. -/
def escaped (letter : Char) : String :=
  let hex := Nat.toDigits 16 letter.toNat
  if letter = '"' then "\\\""
  else if letter = '\\' then "\\\\"
  else if letter.toNat = 8 then "\\b"
  else if letter.toNat = 9 then "\\t"
  else if letter.toNat = 10 then "\\n"
  else if letter.toNat = 12 then "\\f"
  else if letter.toNat = 13 then "\\r"
  else if letter.toNat < 32 then
    "\\u" ++ String.ofList (List.replicate (4 - hex.length) '0' ++ hex)
  else String.singleton letter

def quoted (text : String) : String := "\"" ++ String.join (text.toList.map escaped) ++ "\""

mutual

/-- `JSON.stringify`. -/
def stringify : Json → String
  | .null => "null"
  | .bool true => "true"
  | .bool false => "false"
  | .num value => toString value
  | .str value => quoted value
  | .arr items => "[" ++ stringifyItems items ++ "]"
  | .obj fields => "\x7b" ++ stringifyFields fields ++ "\x7d"

def stringifyItems : List Json → String
  | [] => ""
  | [item] => stringify item
  | item :: rest => stringify item ++ "," ++ stringifyItems rest

def stringifyFields : List (String × Json) → String
  | [] => ""
  | [(name, value)] => quoted name ++ ":" ++ stringify value
  | (name, value) :: rest => quoted name ++ ":" ++ stringify value ++ "," ++ stringifyFields rest

end

/-- What a value is written as in place of its placeholder; a replacement that is `undefined` is
written as such. -/
def Value.written : Value → String
  | .undefined | .json .null => ""
  | .json (.str value) => value
  | .json value => stringify value
  | .method => "undefined"
  | .objectPrototype => "\x7b\x7d"
  | .arrayPrototype => "[]"

/-! ## Templates -/

/-- The letters `[a-zA-Z0-9_.]` of a key path. -/
def isKeyLetter (letter : Char) : Bool := letter.isAlphanum || letter == '_' || letter == '.'

theorem notBlank_of_keyLetter {letter : Char} (isLetter : isKeyLetter letter = true) :
    Json.isSpace letter = false := by
  simp only [isKeyLetter, Char.isAlphanum, Char.isAlpha, Char.isUpper, Char.isLower, Char.isDigit,
    Bool.or_eq_true, Bool.and_eq_true, decide_eq_true_eq, beq_iff_eq] at isLetter
  rcases isLetter with (inRange | rfl) | rfl
  · simp only [ge_iff_le, UInt32.le_iff_toNat_le] at inRange
    have bounds : 48 ≤ letter.toNat ∧ letter.toNat ≤ 122 := by
      simp only [Char.toNat]
      rcases inRange with (inRange | inRange) | inRange <;>
        exact ⟨Nat.le_trans (by decide) inRange.1, Nat.le_trans inRange.2 (by decide)⟩
    simp only [Json.isSpace, Bool.or_eq_false_iff, Bool.and_eq_false_iff, decide_eq_false_iff_not,
      beq_eq_false_iff_ne]
    omega
  · decide
  · decide

/-- A placeholder is a key path between pairs of braces. -/
def placeholders : Marks Char where
  opening := '\x7b'
  closing := '\x7d'
  isBlank := Json.isSpace
  isLetter := isKeyLetter
  blank_of_letter := fun _ => notBlank_of_keyLetter
  closing_notBlank := by decide
  closing_notLetter := by decide

/-- The value of a key, as it is written. -/
def valueText (vars : Record) (key : List Char) : List Char :=
  (getValueByPath methods key vars).written.toList

/-- `replacePlaceholders`. -/
def replacePlaceholders (template : String) (vars : Record) : String :=
  String.ofList (Marks.fill (valueText methods vars) (placeholders.pieces template.toList))

/-- `hasValue`. -/
def hasValue (keyPath : String) (vars : Record) : Bool :=
  let value := getValueByPath methods keyPath.toList vars
  value != .undefined && value != .json .null && value != .json (.str "")

-- the `required` keys of each event in `EventVars`, none for an event that it leaves out
variable (required : String → List String)

/-- `getMissingRequiredKeys`. -/
def getMissingRequiredKeys (eventName : String) (vars : Record) : List String :=
  (required eventName).filter fun key => !hasValue methods key vars

/-- `render`. -/
def render (eventName : String) (subjectTemplate : Option String) (messageTemplate : String)
    (vars : Record) : RenderResult where
  subject :=
    match subjectTemplate with
    | some subject => if subject = "" then none else some (replacePlaceholders methods subject vars)
    | none => none
  message := replacePlaceholders methods messageTemplate vars
  missingRequired := getMissingRequiredKeys methods required eventName vars

/-! ## What is left empty -/

theorem stringify_ne_empty {value : Json} (notText : ∀ text, value ≠ .str text) :
    stringify value ≠ "" := by
  cases value with
  | null => simp [stringify]
  | bool value => cases value <;> simp [stringify]
  | num value =>
      simp only [stringify]
      cases value with
      | ofNat number => exact Nat.repr_ne_empty
      | negSucc number => simp [toString, Int.repr]
  | str text => exact absurd rfl (notText text)
  | arr items => simp [stringify, String.append_eq_empty_iff]
  | obj fields => simp [stringify, String.append_eq_empty_iff]

/-- A value is written as nothing when it is missing or is the empty text. -/
theorem written_eq_empty_iff {value : Value} :
    value.written = "" ↔ value = .undefined ∨ value = .json .null ∨ value = .json (.str "") := by
  cases value with
  | json value =>
      cases value with
      | null => simp [Value.written]
      | str text => simp [Value.written]
      | _ => simpa [Value.written] using stringify_ne_empty (by simp)
  | _ => simp [Value.written]

variable {methods required}

theorem hasValue_eq_false_iff {keyPath : String} {vars : Record} :
    hasValue methods keyPath vars = false ↔ valueText methods vars keyPath.toList = [] := by
  rw [valueText, String.toList_eq_nil_iff, written_eq_empty_iff]
  simp only [hasValue, Bool.and_eq_false_iff, bne_eq_false_iff_eq, or_assoc]

/-- A key path that a placeholder can name. -/
structure IsKeyPath (key : String) : Prop where
  letters : ∀ letter ∈ key.toList, isKeyLetter letter = true
  nonempty : key.toList ≠ []

/-- The placeholder of a key path. -/
def placeholderOf (key : String) : String :=
  String.ofList (placeholders.writeHole ⟨[], key.toList, []⟩)

theorem replacePlaceholders_placeholderOf {key : String} (isKey : IsKeyPath key) (vars : Record) :
    replacePlaceholders methods (placeholderOf key) vars =
      String.ofList (valueText methods vars key.toList) := by
  have fits : placeholders.Fits ⟨[], key.toList, []⟩ :=
    ⟨by simp, isKey.letters, isKey.nonempty, by simp⟩
  have parts := Marks.pieces_hole fits []
  rw [List.append_nil] at parts
  rw [replacePlaceholders, placeholderOf, String.toList_ofList, parts]
  simp [Marks.fill, Marks.pieces, Marks.piecesAfter]

variable (methods) in
/-- There is one way to read the template as text and placeholders, and the text is that reading
with the value of each placeholder in its place. -/
def IsRendering (vars : Record) (template text : String) : Prop :=
  ∃! parts, placeholders.IsReading parts ∧ placeholders.write parts = template.toList ∧
    text.toList = Marks.fill (valueText methods vars) parts

theorem isRendering_replacePlaceholders (template : String) (vars : Record) :
    IsRendering methods vars template (replacePlaceholders methods template vars) := by
  obtain ⟨reading, written⟩ := @Marks.reads_pieces Char placeholders _ template.toList
  refine ⟨placeholders.pieces template.toList, ⟨reading, written, ?_⟩, ?_⟩
  · rw [replacePlaceholders, String.toList_ofList]
  · rintro parts ⟨otherReading, otherWritten, _⟩
    exact Marks.isReading_iff.mp ⟨otherReading, otherWritten⟩

/-- Rendering keeps the text of a template and puts the value of each placeholder in its place,
whatever the values are, and a required variable is reported as missing exactly if its own
placeholder is rendered as nothing. -/
theorem render_exact (eventName : String) (subjectTemplate : Option String)
    (messageTemplate : String) (vars : Record) :
    let result := render methods required eventName subjectTemplate messageTemplate vars
    IsRendering methods vars messageTemplate result.message ∧
      (∀ subject, result.subject = some subject →
        ∃ template, subjectTemplate = some template ∧ IsRendering methods vars template subject) ∧
      ∀ key, IsKeyPath key →
        (key ∈ result.missingRequired ↔
          key ∈ required eventName ∧
            (render methods required eventName none (placeholderOf key) vars).message = "") := by
  refine ⟨isRendering_replacePlaceholders messageTemplate vars, ?_, ?_⟩
  · intro subject isSubject
    simp only [render] at isSubject
    split at isSubject
    · rename_i template
      split at isSubject
      · cases isSubject
      · cases isSubject
        exact ⟨template, rfl, isRendering_replacePlaceholders template vars⟩
    · cases isSubject
  · intro key isKey
    have emptyText : (render methods required eventName none (placeholderOf key) vars).message = "" ↔
        valueText methods vars key.toList = [] := by
      simp only [render, replacePlaceholders_placeholderOf isKey]
      simp
    rw [emptyText, ← hasValue_eq_false_iff]
    simp [render, getMissingRequiredKeys]

/-- The tenant and the expiry of an invitation are required. -/
def invitationVars : String → List String
  | "tenant_user_invited" => ["tenantName", "expiryDays"]
  | _ => []

theorem render_exact_invitation :
    "expiryDays" ∈ (render ⟨fun _ => false, fun _ => false⟩ invitationVars "tenant_user_invited" none
        "Join \x7b\x7b tenantName \x7d\x7d" [("tenantName", .str "\x7b\x7bexpiryDays\x7d\x7d")]).missingRequired ↔
      "expiryDays" ∈ invitationVars "tenant_user_invited" ∧
        (render ⟨fun _ => false, fun _ => false⟩ invitationVars "tenant_user_invited" none
          (placeholderOf "expiryDays")
          [("tenantName", .str "\x7b\x7bexpiryDays\x7d\x7d")]).message = "" :=
  (render_exact "tenant_user_invited" none "Join \x7b\x7b tenantName \x7d\x7d"
    [("tenantName", .str "\x7b\x7bexpiryDays\x7d\x7d")]).2.2 "expiryDays"
      ⟨List.all_eq_true.mp (by decide), by decide⟩

/-- The value of a variable is not read as a template. -/
example : replacePlaceholders ⟨fun _ => false, fun _ => false⟩ "Join \x7b\x7b tenantName \x7d\x7d."
    [("tenantName", .str "\x7b\x7bexpiryDays\x7d\x7d"), ("expiryDays", .num 7)] =
      "Join \x7b\x7bexpiryDays\x7d\x7d." := by
  decide

end Renderer

/-! ## What the job sends -/

section Job

variable {config : JobConfig} {start db : NotificationDb} {phase : JobPhase}

/-- The notification carries what was rendered for an event log and a listener. -/
structure PreparedFrom (config : JobConfig) (start : NotificationDb) (row : NotificationEntity)
    (log : EventLogEntity) (listener : EventListenerEntity) : Prop where
  logStored : log ∈ start.eventLogs.rows
  listenerStored : listener ∈ config.listeners.rows
  preparedFor : row.preparedFor = some (log.logId, listener.listenerId)
  subject : row.subject = (config.rendered log listener).subject
  message : row.message = (config.rendered log listener).message

/-- A notification that the job has prepared misses no variable, unless it is failed. -/
def Complete (config : JobConfig) (start : NotificationDb) (row : NotificationEntity) : Prop :=
  row.preparedFor ≠ none → ∃ log listener, PreparedFrom config start row log listener ∧
    (row.status ≠ .failed → (config.rendered log listener).missingRequired = [])

/-- The notification is stored, but for its status. -/
def IsStored (db : NotificationDb) (row : NotificationEntity) : Prop :=
  ∃ status, { row with status := status } ∈ db.notifications.rows

/-- A notification a run holds: it was pending when it was read. -/
structure Held (config : JobConfig) (start db : NotificationDb) (row : NotificationEntity) :
    Prop where
  pending : row.status = .pending
  complete : Complete config start row
  stored : IsStored db row

/-- What a run holds was read from the tables. -/
def IsRead (config : JobConfig) (start db : NotificationDb) : JobPhase → Prop
  | .gettingListeners log rest | .marking log rest => ∀ held ∈ log :: rest, held ∈ start.eventLogs.rows
  | .checkingChannel log listener _ todo rest | .resolving log listener _ todo rest
  | .creating log listener _ todo rest =>
      (∀ held ∈ log :: rest, held ∈ start.eventLogs.rows) ∧
        ∀ held ∈ listener :: todo, held ∈ config.listeners.rows
  | .reporting _ log todo rest =>
      (∀ held ∈ log :: rest, held ∈ start.eventLogs.rows) ∧
        ∀ held ∈ todo, held ∈ config.listeners.rows
  | .findingChannel row rest | .sending _ row rest | .logging _ _ row rest | .updating _ row rest =>
      ∀ held ∈ row :: rest, Held config start db held
  | .gettingEventLogs | .gettingPending | .ended => True

/-- The event logs to be processed are those of the start, and all notifications are complete. -/
structure AllComplete (config : JobConfig) (start db : NotificationDb) : Prop where
  logs : ∀ log ∈ db.eventLogs.rows, log.status = some 0 → log ∈ start.eventLogs.rows
  notifications : ∀ row ∈ db.notifications.rows, Complete config start row

theorem isRead_nextEventLog {rest : List EventLogEntity}
    (known : ∀ held ∈ rest, held ∈ start.eventLogs.rows) :
    IsRead config start db (JobPhase.nextEventLog rest) := by
  cases rest with
  | nil => trivial
  | cons log rest => exact known

theorem isRead_nextListener {log : EventLogEntity} {rest : List EventLogEntity}
    {todo : List EventListenerEntity} (known : ∀ held ∈ log :: rest, held ∈ start.eventLogs.rows)
    (listeners : ∀ held ∈ todo, held ∈ config.listeners.rows) :
    IsRead config start db (JobPhase.nextListener log rest todo) := by
  induction todo with
  | nil => exact known
  | cons listener todo ih =>
      unfold JobPhase.nextListener
      split
      · exact ih fun held member => listeners held (List.mem_cons_of_mem _ member)
      · exact ⟨known, listeners⟩

theorem isRead_nextPending {rest : List NotificationEntity}
    (held : ∀ row ∈ rest, Held config start db row) :
    IsRead config start db (JobPhase.nextPending rest) := by
  cases rest with
  | nil => trivial
  | cons row rest => exact held

/-- The stored notifications are still stored. -/
def KeepsStored (before after : NotificationDb) : Prop :=
  ∀ row, IsStored before row → IsStored after row

/-- What a call does: the tables keep their notifications and stay complete, and the run holds
what it has read. -/
structure Calls (config : JobConfig) (start db : NotificationDb) (outcome : NotificationDb × JobPhase) :
    Prop where
  keeps : KeepsStored db outcome.1
  complete : AllComplete config start outcome.1
  read : IsRead config start outcome.1 outcome.2

theorem Held.mono {row : NotificationEntity} {after : NotificationDb}
    (held : Held config start db row) (keeps : KeepsStored db after) : Held config start after row :=
  ⟨held.pending, held.complete, keeps row held.stored⟩

theorem IsRead.mono {after : NotificationDb} (read : IsRead config start db phase)
    (keeps : KeepsStored db after) : IsRead config start after phase := by
  cases phase with
  | findingChannel | sending | logging | updating =>
      exact fun row member => (read row member).mono keeps
  | _ => exact read

theorem keepsStored_insert (row : NotificationEntity) :
    KeepsStored db { db with notifications := db.notifications.insert row } := by
  rintro other ⟨status, member⟩
  exact ⟨status, by simp [member]⟩

theorem Complete.withStatus {row : NotificationEntity} (complete : Complete config start row)
    (pending : row.status = .pending) (status : NotificationStatus) :
    Complete config start { row with status := status } := by
  intro isPrepared
  obtain ⟨log, listener, prepared, missesNone⟩ := complete isPrepared
  exact ⟨log, listener, ⟨prepared.logStored, prepared.listenerStored, prepared.preparedFor,
    prepared.subject, prepared.message⟩, fun _ => missesNone (by simp [pending])⟩

/-- The update of a notification's status. -/
def settled (db : NotificationDb) (notificationId : Nat) (status : NotificationStatus) :
    NotificationDb :=
  { db with
    notifications := db.notifications.updateAt notificationId
      (fun row => { row with status := status }) fun _ => rfl }

theorem mem_settled {notificationId : Nat} {status : NotificationStatus} {row : NotificationEntity} :
    row ∈ (settled db notificationId status).notifications.rows ↔
      (∃ old ∈ db.notifications.rows, old.notificationId = notificationId ∧
        row = { old with status := status }) ∨
        (row ∈ db.notifications.rows ∧ row.notificationId ≠ notificationId) :=
  @Table.mem_updateAt _ _ db.notifications row notificationId
    (fun row => { row with status := status }) fun _ => rfl

theorem keepsStored_settled (notificationId : Nat) (status : NotificationStatus) :
    KeepsStored db (settled db notificationId status) := by
  rintro row ⟨old, member⟩
  by_cases same : row.notificationId = notificationId
  · exact ⟨status, mem_settled.mpr (.inl ⟨_, member, same, rfl⟩)⟩
  · exact ⟨old, mem_settled.mpr (.inr ⟨member, same⟩)⟩

/-- A notification that was pending when it was read gets another status. -/
theorem AllComplete.settled (complete : AllComplete config start db) {row : NotificationEntity}
    (held : Held config start db row) (status : NotificationStatus) :
    AllComplete config start (settled db row.notificationId status) := by
  refine ⟨complete.logs, fun other member => ?_⟩
  rcases mem_settled.mp member with ⟨old, oldMember, same, rfl⟩ | ⟨untouched, _⟩
  · obtain ⟨former, stored⟩ := held.stored
    obtain rfl : old = { row with status := former } := Table.eq_of_key_eq oldMember stored same
    exact held.complete.withStatus held.pending status
  · exact complete.notifications other untouched

theorem AllComplete.marked (complete : AllComplete config start db) (logId : Nat) :
    AllComplete config start (marked db logId) := by
  refine ⟨fun log member active => ?_, complete.notifications⟩
  rcases mem_marked.mp member with ⟨old, _, _, rfl⟩ | ⟨untouched, _⟩
  · cases active
  · exact complete.logs log untouched active

/-- A notification that misses a variable is failed from the start. -/
theorem AllComplete.created (complete : AllComplete config start db) {log : EventLogEntity}
    {listener : EventListenerEntity} (logStored : log ∈ start.eventLogs.rows)
    (listenerStored : listener ∈ config.listeners.rows) (type : NotificationType) :
    AllComplete config start { db with
      notifications := db.notifications.insert (config.notificationFor log listener type) } := by
  refine ⟨complete.logs, fun row member => ?_⟩
  rw [Table.rows_insert, List.mem_append, List.mem_singleton] at member
  rcases member with old | rfl
  · exact complete.notifications row old
  · intro _
    refine ⟨log, listener, ⟨logStored, listenerStored, rfl, rfl, rfl⟩, fun notFailed => ?_⟩
    by_contra misses
    exact notFailed (if_neg misses)

/-- The notifications that are read are pending. -/
theorem AllComplete.pending (complete : AllComplete config start db) :
    ∀ row ∈ getPendingNotifications db, Held config start db row := by
  intro row member
  obtain ⟨stored, pending⟩ := Table.mem_select.mp (List.mem_of_mem_take member)
  exact ⟨by simpa using pending, complete.notifications row stored, row.status, stored⟩

theorem AllComplete.active (complete : AllComplete config start db) :
    ∀ log ∈ getAllEventLogs db, log ∈ start.eventLogs.rows := by
  intro log member
  obtain ⟨stored, active⟩ := Table.mem_select.mp member
  exact complete.logs log stored (by simpa using active)

theorem mem_listeners {eventId : Nat} :
    ∀ listener ∈ config.getListenersByEventId eventId, listener ∈ config.listeners.rows :=
  fun _ member => (Table.mem_select.mp member).1

/-- A call that writes no notification. -/
theorem AllComplete.calls (complete : AllComplete config start db) {after : NotificationDb}
    {next : JobPhase} (same : after.notifications = db.notifications)
    (logs : ∀ log ∈ after.eventLogs.rows, log.status = some 0 → log ∈ start.eventLogs.rows)
    (read : IsRead config start db next) : Calls config start db (after, next) := by
  have keeps : KeepsStored db after := by
    rintro row ⟨status, member⟩
    exact ⟨status, same ▸ member⟩
  exact ⟨keeps, ⟨logs, fun row member => complete.notifications row (same ▸ member)⟩,
    read.mono keeps⟩

/-- Every call keeps the notifications complete. -/
theorem calls_proceed (complete : AllComplete config start db) (read : IsRead config start db phase)
    (succeeds : Bool) : Calls config start db (proceed config db succeeds phase) := by
  have idle : ∀ {next : JobPhase}, IsRead config start db next → Calls config start db (db, next) :=
    complete.calls rfl complete.logs
  cases phase with
  | gettingEventLogs =>
      cases succeeds with
      | false => exact idle trivial
      | true => exact idle (isRead_nextEventLog complete.active)
  | gettingListeners log rest =>
      cases succeeds with
      | false => exact idle (isRead_nextEventLog fun held member => read held (.tail _ member))
      | true => exact idle (isRead_nextListener read mem_listeners)
  | checkingChannel log listener type todo rest =>
      obtain ⟨logs, listeners⟩ := read
      cases succeeds with
      | false => exact idle (isRead_nextEventLog fun held member => logs held (.tail _ member))
      | true =>
          simp only [proceed, ↓reduceIte]
          split
          · exact idle ⟨logs, listeners⟩
          · exact idle (isRead_nextListener logs fun held member => listeners held (.tail _ member))
  | resolving log listener type todo rest =>
      cases succeeds with
      | false => exact idle (isRead_nextEventLog fun held member => read.1 held (.tail _ member))
      | true => exact idle read
  | creating log listener type todo rest =>
      obtain ⟨logs, listeners⟩ := read
      cases succeeds with
      | false => exact idle (isRead_nextEventLog fun held member => logs held (.tail _ member))
      | true =>
          have created := complete.created (logs log List.mem_cons_self)
            (listeners listener List.mem_cons_self) type
          have others : ∀ held ∈ todo, held ∈ config.listeners.rows :=
            fun held member => listeners held (.tail _ member)
          simp only [proceed, ↓reduceIte]
          refine ⟨keepsStored_insert _, created, ?_⟩
          split
          · exact ⟨logs, others⟩
          · exact isRead_nextListener logs others
  | reporting failure log todo rest =>
      obtain ⟨logs, listeners⟩ := read
      cases succeeds with
      | false => exact idle (isRead_nextEventLog fun held member => logs held (.tail _ member))
      | true => exact complete.calls rfl complete.logs (isRead_nextListener logs listeners)
  | marking log rest =>
      have others : ∀ held ∈ rest, held ∈ start.eventLogs.rows :=
        fun held member => read held (.tail _ member)
      cases succeeds with
      | false => exact idle (isRead_nextEventLog others)
      | true => exact complete.calls rfl (complete.marked log.logId).logs (isRead_nextEventLog others)
  | gettingPending =>
      cases succeeds with
      | false => exact idle trivial
      | true => exact idle (isRead_nextPending complete.pending)
  | findingChannel row rest =>
      have others := @isRead_nextPending config start db rest fun other member =>
        read other (.tail _ member)
      cases succeeds with
      | false => exact idle others
      | true =>
          simp only [proceed, ↓reduceIte]
          split
          · exact idle others
          · exact idle read
  | sending channelId row rest =>
      cases succeeds with
      | false => exact idle (isRead_nextPending fun other member => read other (.tail _ member))
      | true => exact idle read
  | logging result channelId row rest =>
      cases succeeds with
      | false => exact idle (isRead_nextPending fun other member => read other (.tail _ member))
      | true => exact complete.calls rfl complete.logs read
  | updating result row rest =>
      have others : ∀ other ∈ rest, Held config start db other :=
        fun other member => read other (.tail _ member)
      cases succeeds with
      | false => exact idle (isRead_nextPending others)
      | true =>
          have keeps := @keepsStored_settled db row.notificationId result.status
          exact ⟨keeps, complete.settled (read row List.mem_cons_self) result.status,
            isRead_nextPending fun other member => (others other member).mono keeps⟩
  | ended => exact idle trivial

/-- In every interleaving of runs the notifications stay complete. -/
theorem allComplete_worldAfter (complete : AllComplete config start start) (steps : List JobStep) :
    AllComplete config start (worldAfter config start steps).db ∧
      ∀ run, IsRead config start (worldAfter config start steps).db
        ((worldAfter config start steps).runs run) := by
  induction steps using List.reverseRecOn with
  | nil => exact ⟨complete, fun _ => trivial⟩
  | append_singleton steps step ih =>
      obtain ⟨complete, read⟩ := ih
      have calls := calls_proceed complete (read step.run) step.succeeds
      rw [worldAfter, List.foldl_append]
      refine ⟨calls.complete, fun run => ?_⟩
      by_cases own : run = step.run
      · subst own
        simpa [performStep, worldAfter] using calls.read
      · simpa [performStep, worldAfter, own] using (read run).mono calls.keeps

/-- The job with the renderer and the variables that are resolved for each event log. -/
def withRenderer (methods : Methods) (required : String → List String)
    (varsOf : EventLogEntity → Record) (base : JobConfig) : JobConfig :=
  { base with
    render := fun log subject message =>
      render methods required (log.eventName.getD "") subject message (varsOf log) }

/-- In every interleaving of runs, what the job has prepared or hands to a sender is the rendering
of a listener's template for an event log, and unless it is failed every required variable of the
event is written as some text. -/
theorem unfailed_complete {methods : Methods} {required : String → List String}
    {varsOf : EventLogEntity → Record} {base : JobConfig} {steps : List JobStep}
    (unprepared : ∀ row ∈ start.notifications.rows, row.preparedFor = none)
    {row : NotificationEntity} (isPrepared : row.preparedFor ≠ none)
    (known : let w := worldAfter (withRenderer methods required varsOf base) start steps
      row ∈ w.db.notifications.rows ∨ ∃ run channelId rest, w.runs run = .sending channelId row rest) :
    ∃ log ∈ start.eventLogs.rows, ∃ listener ∈ base.listeners.rows,
      row.preparedFor = some (log.logId, listener.listenerId) ∧
        IsRendering methods (varsOf log) (listener.templateMessage.getD
          ("Event " ++ log.eventName.getD (Nat.repr log.eventId) ++ " occurred.")) row.message ∧
        (row.status ≠ .failed → ∀ key ∈ required (log.eventName.getD ""),
          valueText methods (varsOf log) key.toList ≠ []) := by
  obtain ⟨complete, read⟩ := @allComplete_worldAfter
    (withRenderer methods required varsOf base) start
    ⟨fun _ member _ => member, fun row member prepared => absurd (unprepared row member) prepared⟩
    steps
  have rowComplete : Complete (withRenderer methods required varsOf base) start row := by
    rcases known with stored | ⟨run, channelId, rest, sending⟩
    · exact complete.notifications row stored
    · have held := read run
      rw [sending] at held
      exact (held row List.mem_cons_self).complete
  obtain ⟨log, listener, prepared, missesNone⟩ := rowComplete isPrepared
  refine ⟨log, prepared.logStored, listener, prepared.listenerStored, prepared.preparedFor, ?_, ?_⟩
  · rw [prepared.message]
    exact isRendering_replacePlaceholders _ _
  · intro notFailed key isRequired isEmpty
    have noneMissing := missesNone notFailed
    have missing : key ∈ getMissingRequiredKeys methods required (log.eventName.getD "")
        (varsOf log) := by
      simp [getMissingRequiredKeys, isRequired, hasValue_eq_false_iff.mpr isEmpty]
    rw [show getMissingRequiredKeys methods required (log.eventName.getD "") (varsOf log) = []
      from noneMissing] at missing
    cases missing

/-- A listener by mail that greets the recipient. -/
def greeting : JobConfig where
  listeners := .ofRows
    [{ listenerId := 0, eventId := 1, channelId := 1, isActive := true, channelName := some "Email"
       templateSubject := none, templateMessage := some "Hi \x7b\x7bname\x7d\x7d" }]
  preferences := .empty _
  channels := .ofRows [{ channelId := 0, name := "email" }]
  render _ subject message := { subject := subject, message := message, missingRequired := [] }
  send _ := { status := .sent, response := none }

/-- The greeting of a recipient that has a name is prepared and handed to the sender. -/
theorem unfailed_complete_greeting :
    ∃ row : NotificationEntity, row.message = "Hi Ada" ∧ row.status = .pending ∧
      ∃ log ∈ oneEventLog.eventLogs.rows, ∀ key ∈ ["name"],
        valueText ⟨fun _ => false, fun _ => false⟩ [("name", .str "Ada")] key.toList ≠ [] := by
  obtain ⟨row, isPrepared, stored, isMessage, pending⟩ : ∃ row : NotificationEntity,
      row.preparedFor ≠ none ∧ row ∈ (worldAfter (withRenderer ⟨fun _ => false, fun _ => false⟩
        (fun _ => ["name"]) (fun _ => [("name", .str "Ada")]) greeting) oneEventLog
          (goes 0 5)).db.notifications.rows ∧ row.message = "Hi Ada" ∧ row.status = .pending :=
    ⟨⟨1, 5, some 1, .email, none, "Hi Ada", .pending, some (1, 1)⟩, by decide +kernel⟩
  obtain ⟨log, logStored, _, _, _, _, present⟩ := unfailed_complete (by decide) isPrepared
    (.inl stored)
  exact ⟨row, isMessage, pending, log, logStored, present (by simp [pending])⟩

end Job

end CoreApi.Notifications
