import EdgeLink.ForStd.TableHistory
import EdgeLink.Native.StorageObject

/-! # A database file and its users

Over every run of any number of `StorageService` objects on one file, opened, closed,
destroyed and crashed in any order, with any answers of the file system and of SQLite.

* `expectedReply`: what a call replies, as a function of the earlier calls and replies.
* `StorageObjectInv`, `StorageInv`: the invariant; `perform_answered` is the step of one call.
* `storage_follows_history`: the result over runs. -/

namespace EdgeLink

open AutoincrementTable SessionTrace

variable {Handle : Type}

/-! ## What the callers were told -/

/-- Whether a call leaves its object open, if it decides that. -/
def StorageCall.leavesOpen : StorageCall → StorageReply → Option Bool
  | .open _, .returned true => some true
  | .close, _ => some false
  | _, _ => none

namespace StorageEntry

/-- The row that the entry has added to the history. -/
def storedRow (format : FloatFormat) : StorageEntry Handle → Option TagMessageRow
  | .replied _ (.storeMessage message _) (.returned true) =>
    some (StorageService.messageRow format message)
  | _ => none

/-- The row that the entry has added to the outbox. -/
def enqueuedRow : StorageEntry Handle → Option OutboxRow
  | .replied _ (.enqueueMqttMessage topic payload retain now _) (.returned true) =>
    some (StorageService.outboxRow topic payload retain now)
  | _ => none

/-- The row that the entry has removed from the outbox. -/
def removedId : StorageEntry Handle → Option Nat
  | .replied _ (.removePendingMqttMessage messageId _) (.returned true) => some messageId.toNat
  | _ => none

end StorageEntry

namespace StorageLog

/-- Whether the object of a handle is open. -/
def isOpen [DecidableEq Handle] (handle : Handle) : StorageLog Handle → Bool
  | [] => false
  | .gone other :: earlier => if other = handle then false else isOpen handle earlier
  | .replied other call reply :: earlier =>
    if other = handle then (call.leavesOpen reply).getD (isOpen handle earlier)
    else isOpen handle earlier

/-- The rows that were stored, oldest first. -/
def storedRows (format : FloatFormat) (log : StorageLog Handle) : List TagMessageRow :=
  log.reverse.filterMap (StorageEntry.storedRow format)

/-- The rows that were enqueued, oldest first. -/
def enqueuedRows (log : StorageLog Handle) : List OutboxRow :=
  log.reverse.filterMap StorageEntry.enqueuedRow

/-- The ids that were removed, newest first. -/
def removedIds (log : StorageLog Handle) : List Nat :=
  log.filterMap StorageEntry.removedId

/-- The messages that wait in the outbox. -/
def pendingRows (log : StorageLog Handle) : List (Nat × OutboxRow) :=
  remaining log.enqueuedRows log.removedIds

variable (format : FloatFormat) (log : StorageLog Handle)

theorem storedRows_cons (entry : StorageEntry Handle) :
    storedRows format (entry :: log) =
      storedRows format log ++ (entry.storedRow format).toList := by
  simp only [storedRows, List.reverse_cons, List.filterMap_append]
  cases hrow : entry.storedRow format with
  | none => simp [hrow]
  | some row => simp [hrow]

theorem enqueuedRows_cons (entry : StorageEntry Handle) :
    enqueuedRows (entry :: log) = enqueuedRows log ++ entry.enqueuedRow.toList := by
  simp only [enqueuedRows, List.reverse_cons, List.filterMap_append]
  cases hrow : entry.enqueuedRow with
  | none => simp [hrow]
  | some row => simp [hrow]

theorem removedIds_cons (entry : StorageEntry Handle) :
    removedIds (entry :: log) = entry.removedId.toList ++ removedIds log := by
  simp only [removedIds, List.filterMap_cons]
  cases entry.removedId with
  | none => rfl
  | some id => rfl

end StorageLog

open StorageLog

/-- The rows that a query with this limit returns. -/
def limitedTo {Row : Type} (limit : Nat) (rows : List Row) : List Row :=
  match limitOf limit with
  | none => rows
  | some n => rows.take n

/-- What `open` replies on an object that is not open. -/
def openReply (databasePath : Bytes) (answers : OpenAnswers) : StorageReply :=
  if databasePath.isEmpty then .returned false
  else
    match parentIsDirectory databasePath answers with
    | none => .threw
    | some false => .returned false
    | some true =>
      match answers.openResult with
      | .failed _ => .returned false
      | .ok _ => .returned (schemaStatements.all answers.exec)

section

variable [DecidableEq Handle] (format : FloatFormat) (databasePath : Bytes)

/-- What a call replies after the calls of the log, if SQLite does its part. -/
def expectedReply (log : StorageLog Handle) (handle : Handle) : StorageCall → StorageReply
  | .open answers =>
    if log.isOpen handle then .returned true else openReply databasePath answers
  | .close => .done
  | .storeMessage _ answer =>
    .returned (log.isOpen handle && answer = .done && (log.storedRows format).length < maxRowId)
  | .loadMessages limit answer =>
    .messages (if log.isOpen handle ∧ answer = .done then
      (limitedTo limit (numbered (log.storedRows format))).filterMap fun row =>
        (StorageService.loadRow format row.2).map fun message => ⟨row.1, message⟩
    else [])
  | .messageCount answer =>
    .count (if log.isOpen handle ∧ answer = .done then (log.storedRows format).length else 0)
  | .enqueueMqttMessage topic _ _ _ answer =>
    .returned (log.isOpen handle && !topic.isEmpty && answer = .done &&
      log.enqueuedRows.length < maxRowId)
  | .loadPendingMqttMessages limit answer =>
    .pending (if log.isOpen handle ∧ answer = .done then
      (limitedTo limit log.pendingRows).map StorageService.pendingMessage
    else [])
  | .removePendingMqttMessage messageId answer =>
    .returned (log.isOpen handle && 0 < messageId && answer = .done &&
      messageId.toNat ∈ log.pendingRows.map Prod.fst)
  | .pendingMqttMessageCount answer =>
    .count (if log.isOpen handle ∧ answer = .done then log.pendingRows.length else 0)

/-- Every reply of the log is the one that the earlier entries ask for. -/
def RepliesExplained : StorageLog Handle → Prop
  | [] => True
  | .gone _ :: earlier => RepliesExplained earlier
  | .replied handle call reply :: earlier =>
    reply = expectedReply format databasePath earlier handle call ∧ RepliesExplained earlier

end

/-! ## The invariant -/

/-- The tables are those of the replies. -/
structure DatabaseFileInv (format : FloatFormat) (file : DatabaseFile) (log : StorageLog Handle) :
    Prop where
  messages : (file.tagMessages.getD (.empty 0)).Holds (log.storedRows format) []
  outbox : (file.mqttOutbox.getD (.empty 0)).Holds log.enqueuedRows log.removedIds

/-- A living object. Both tables exist while it is open, and it holds its connection, with no
    statement, and nothing else. -/
structure StorageObjectInv (databasePath : Bytes) (file : DatabaseFile) (object : StorageObject)
    (opened : Bool) : Prop where
  path : object.databasePath = databasePath
  opened_eq : object.database.isSome = opened
  tables : opened = true → file.tagMessages.isSome ∧ file.mqttOutbox.isSome
  owns : Owns object.calls object.database false

/-- No table is dropped. -/
structure Grows (file file' : DatabaseFile) : Prop where
  tagMessages : file.tagMessages.isSome → file'.tagMessages.isSome
  mqttOutbox : file.mqttOutbox.isSome → file'.mqttOutbox.isSome

theorem Grows.refl (file : DatabaseFile) : Grows file file := ⟨id, id⟩

theorem Grows.trans {file₁ file₂ file₃ : DatabaseFile} (h : Grows file₁ file₂)
    (h' : Grows file₂ file₃) : Grows file₁ file₃ :=
  ⟨h'.tagMessages ∘ h.tagMessages, h'.mqttOutbox ∘ h.mqttOutbox⟩

section

variable {format : FloatFormat} {databasePath : Bytes} {file file' : DatabaseFile}
  {object : StorageObject} {log : StorageLog Handle} {opened : Bool}

/-- An entry that changes no row. -/
theorem DatabaseFileInv.quiet (h : DatabaseFileInv format file log) {entry : StorageEntry Handle}
    (hstored : entry.storedRow format = none) (henqueued : entry.enqueuedRow = none)
    (hremoved : entry.removedId = none) : DatabaseFileInv format file (entry :: log) := by
  refine ⟨?_, ?_⟩
  · rw [storedRows_cons, hstored, Option.toList_none, List.append_nil]
    exact h.messages
  · rw [enqueuedRows_cons, removedIds_cons, henqueued, hremoved, Option.toList_none,
      Option.toList_none, List.append_nil, List.nil_append]
    exact h.outbox

theorem StorageObjectInv.grow (h : StorageObjectInv databasePath file object opened)
    (hgrows : Grows file file') : StorageObjectInv databasePath file' object opened where
  path := h.path
  opened_eq := h.opened_eq
  tables hopen := ⟨hgrows.tagMessages (h.tables hopen).1, hgrows.mqttOutbox (h.tables hopen).2⟩
  owns := h.owns

/-! ## One function at a time -/

/-- A statement is over when the function returns. -/
theorem StorageObjectInv.runStatement (h : StorageObjectInv databasePath file object opened)
    (answer : StatementAnswer) :
    StorageObjectInv databasePath file (object.runStatement answer) opened := by
  have howns := h.owns
  have hopened := h.opened_eq
  unfold StorageObject.runStatement
  cases hdatabase : object.database with
  | none => exact h
  | some connection =>
    rw [hdatabase] at howns hopened
    cases answer with
    | prepareFailed => exact ⟨h.path, hopened, h.tables, howns.used⟩
    | stepFailed => exact ⟨h.path, hopened, h.tables, (howns.connect.exchanged ()).closed⟩
    | done => exact ⟨h.path, hopened, h.tables, (howns.connect.exchanged ()).closed⟩

theorem StorageObjectInv.close (h : StorageObjectInv databasePath file object opened) :
    StorageObjectInv databasePath file object.close false := by
  have howns := h.owns
  have hopened := h.opened_eq
  unfold StorageObject.close
  cases hdatabase : object.database with
  | none =>
    refine ⟨h.path, ?_, fun hfalse => absurd hfalse Bool.false_ne_true, h.owns⟩
    show object.database.isSome = false
    rw [hdatabase]
    rfl
  | some connection =>
    rw [hdatabase] at howns
    exact ⟨h.path, rfl, fun hfalse => absurd hfalse Bool.false_ne_true, howns.freed⟩

/-- The statements of the schema keep the rows; when all succeed, all were applied. -/
theorem initializeDatabaseLocked_spec (exec : SchemaStatement → Bool) {connection : Nat}
    (statements : List SchemaStatement) (file : DatabaseFile) (object : StorageObject)
    (hdatabase : object.database = some connection)
    (howns : Owns object.calls object.database false) :
    ∃ file' object', object.initializeDatabaseLocked exec file statements =
        (file', object', statements.all exec) ∧
      object'.databasePath = object.databasePath ∧ object'.database = some connection ∧
      Owns object'.calls object'.database false ∧ Grows file file' ∧
      file'.tagMessages.getD (.empty 0) = file.tagMessages.getD (.empty 0) ∧
      file'.mqttOutbox.getD (.empty 0) = file.mqttOutbox.getD (.empty 0) ∧
      (statements.all exec = true → file' = statements.foldl DatabaseFile.apply file) := by
  induction statements generalizing file object with
  | nil => exact ⟨file, object, rfl, rfl, hdatabase, howns, .refl file, rfl, rfl, fun _ => rfl⟩
  | cons statement rest ih =>
    rw [hdatabase] at howns
    unfold StorageObject.initializeDatabaseLocked StorageObject.executeSqlLocked
    rw [hdatabase, List.all_cons]
    cases hexec : exec statement with
    | false =>
      exact ⟨file, _, rfl, rfl, rfl, howns.used, .refl file, rfl, rfl,
        fun hfalse => absurd hfalse Bool.false_ne_true⟩
    | true =>
      have hgrows : Grows file (file.apply statement) := by
        cases statement with
        | journalMode | synchronous | timestampIndex => exact .refl file
        | tagMessages => exact ⟨fun _ => rfl, id⟩
        | mqttOutbox => exact ⟨id, fun _ => rfl⟩
      have hrows : (file.apply statement).tagMessages.getD (.empty 0) =
            file.tagMessages.getD (.empty 0) ∧
          (file.apply statement).mqttOutbox.getD (.empty 0) =
            file.mqttOutbox.getD (.empty 0) := by
        cases statement with
        | journalMode | synchronous | timestampIndex => exact ⟨rfl, rfl⟩
        | tagMessages => exact ⟨rfl, rfl⟩
        | mqttOutbox => exact ⟨rfl, rfl⟩
      obtain ⟨file', object', hrest, hpath, hdatabase', howns', hgrows', hmessages, houtbox,
        hall⟩ := ih (file.apply statement) { object with
          database := some connection
          calls := .used (some connection) :: object.calls } rfl howns.used
      exact ⟨file', object', hrest, hpath, hdatabase', howns', hgrows.trans hgrows',
        hmessages.trans hrows.1, houtbox.trans hrows.2, hall⟩

/-- A connection that is given out is kept when the schema is there, and closed otherwise. -/
theorem openConnection_spec (h : StorageObjectInv databasePath file object false)
    (answers : OpenAnswers) :
    ∃ file' object' result, object.openConnection file answers = (file', object', result) ∧
      (result = match answers.openResult with
        | .failed _ => false
        | .ok _ => schemaStatements.all answers.exec) ∧
      StorageObjectInv databasePath file' object' result ∧ Grows file file' ∧
      file'.tagMessages.getD (.empty 0) = file.tagMessages.getD (.empty 0) ∧
      file'.mqttOutbox.getD (.empty 0) = file.mqttOutbox.getD (.empty 0) := by
  have hdatabase : object.database = none := by simpa using h.opened_eq
  have howns := h.owns
  rw [hdatabase] at howns
  have hfalse : false = true → file.tagMessages.isSome ∧ file.mqttOutbox.isSome :=
    fun hfalse => absurd hfalse Bool.false_ne_true
  unfold StorageObject.openConnection
  cases answers.openResult with
  | failed connection =>
    cases connection with
    | none => exact ⟨file, object, false, rfl, rfl, h, .refl file, rfl, rfl⟩
    | some connection =>
      refine ⟨file, _, false, rfl, rfl, ⟨h.path, h.opened_eq, hfalse, ?_⟩, .refl file, rfl, rfl⟩
      show Owns _ object.database false
      rw [hdatabase]
      exact (howns.created connection).freed
  | ok connection =>
    obtain ⟨file', object', hrun, hpath, hdatabase', howns', hgrows, hmessages, houtbox, hall⟩ :=
      initializeDatabaseLocked_spec answers.exec schemaStatements file { object with
        database := some connection
        calls := .used (some connection) :: .created connection :: object.calls } rfl
        (howns.created connection).used
    simp only [hrun]
    cases hresult : schemaStatements.all answers.exec with
    | false =>
      rw [hdatabase'] at howns'
      refine ⟨file', _, false, rfl, rfl, ⟨hpath.trans h.path, rfl, ?_, ?_⟩, hgrows, hmessages,
        houtbox⟩
      · exact fun hfalse => absurd hfalse Bool.false_ne_true
      · show Owns (.freed object'.database :: object'.calls) none false
        rw [hdatabase']
        exact howns'.freed
    | true =>
      refine ⟨file', object', true, rfl, rfl, ⟨hpath.trans h.path, ?_, fun _ => ?_, howns'⟩,
        hgrows, hmessages, houtbox⟩
      · rw [hdatabase']
        rfl
      · rw [hall hresult]
        exact ⟨rfl, rfl⟩

variable [DecidableEq Handle]

/-- What a call leaves and replies, after the calls of the log. -/
structure CallAnswered (format : FloatFormat) (databasePath : Bytes) (file : DatabaseFile)
    (log : StorageLog Handle) (handle : Handle) (call : StorageCall)
    (result : DatabaseFile × StorageObject × StorageReply) : Prop where
  reply : result.2.2 = expectedReply format databasePath log handle call
  object : StorageObjectInv databasePath result.1 result.2.1
    ((call.leavesOpen result.2.2).getD (log.isOpen handle))
  rows : DatabaseFileInv format result.1 (.replied handle call result.2.2 :: log)
  grows : Grows file result.1

theorem open_answered {handle : Handle} (hfile : DatabaseFileInv format file log)
    (hobject : StorageObjectInv databasePath file object (log.isOpen handle))
    (answers : OpenAnswers) :
    CallAnswered format databasePath file log handle (.open answers)
      (object.open file answers) := by
  have hopened := hobject.opened_eq
  unfold StorageObject.open
  cases hopen : log.isOpen handle with
  | true =>
    rw [hopen] at hopened hobject
    rw [if_pos hopened]
    exact ⟨by simp [expectedReply, hopen], hobject, hfile.quiet rfl rfl rfl, .refl file⟩
  | false =>
    rw [hopen] at hopened hobject
    have hquiet : ∀ reply,
        DatabaseFileInv format file (.replied handle (.open answers) reply :: log) :=
      fun reply => hfile.quiet rfl rfl rfl
    simp only [hopened, Bool.false_eq_true, if_false, hobject.path]
    have hexpected : ∀ reply, openReply databasePath answers = reply →
        reply = expectedReply format databasePath log handle (.open answers) := by
      rintro reply rfl
      simp [expectedReply, hopen]
    by_cases hempty : databasePath.isEmpty = true
    · rw [if_pos hempty]
      refine ⟨hexpected _ (if_pos hempty), ?_, hquiet _, .refl file⟩
      rw [hopen]
      exact hobject
    · rw [if_neg hempty]
      cases hparent : parentIsDirectory databasePath answers with
      | none =>
        refine ⟨hexpected _ (by rw [openReply, if_neg hempty, hparent]), ?_, hquiet _,
          .refl file⟩
        rw [hopen]
        exact hobject
      | some found =>
        cases found with
        | false =>
          refine ⟨hexpected _ (by rw [openReply, if_neg hempty, hparent]), ?_, hquiet _,
            .refl file⟩
          rw [hopen]
          exact hobject
        | true =>
          obtain ⟨file', object', result, hrun, hresult, hobject', hgrows, hmessages, houtbox⟩ :=
            openConnection_spec hobject answers
          simp only [hrun]
          refine ⟨hexpected _ ?_, ?_, ?_, hgrows⟩
          · rw [openReply, if_neg hempty, hparent, hresult]
            cases answers.openResult with
            | failed connection => rfl
            | ok connection => rfl
          · cases result with
            | false =>
              rw [hopen]
              exact hobject'
            | true => exact hobject'
          · have hfile' : DatabaseFileInv format file' log :=
              ⟨hmessages ▸ hfile.messages, houtbox ▸ hfile.outbox⟩
            exact hfile'.quiet rfl rfl rfl

theorem remaining_nil {Row : Type} (inserted : List Row) :
    remaining inserted [] = numbered inserted := by
  simp [remaining]

theorem select_eq {Row : Type} (table : AutoincrementTable Row) (limit : Nat) :
    table.select (limitOf limit) = limitedTo limit table.rows := by
  unfold select limitedTo
  cases limitOf limit with
  | none => rfl
  | some n => rfl

/-- An open object has its tables, so it depends on SQLite only how far a statement gets. -/
theorem onTable_eq {Row : Type} {table : Option (AutoincrementTable Row)}
    (h : table.isSome = true) (answer : StatementAnswer) :
    StorageObject.onTable table answer = answer :=
  if_pos h

/-- A call that only runs a query. -/
theorem answered_query {handle : Handle} {call : StorageCall} {reply : StorageReply}
    {object' : StorageObject} (hfile : DatabaseFileInv format file log)
    (hobject : StorageObjectInv databasePath file object' (log.isOpen handle))
    (hreply : reply = expectedReply format databasePath log handle call)
    (hleaves : call.leavesOpen reply = none)
    (hstored : (StorageEntry.replied handle call reply).storedRow format = none)
    (henqueued : (StorageEntry.replied handle call reply).enqueuedRow = none)
    (hremoved : (StorageEntry.replied handle call reply).removedId = none) :
    CallAnswered format databasePath file log handle call (file, object', reply) where
  reply := hreply
  object := by
    rw [hleaves]
    exact hobject
  rows := hfile.quiet hstored henqueued hremoved
  grows := .refl file

section

variable {handle : Handle} (hfile : DatabaseFileInv format file log)
  (hobject : StorageObjectInv databasePath file object (log.isOpen handle))

include hfile hobject

theorem loadMessages_answered (limit : Nat) (answer : StatementAnswer) :
    CallAnswered format databasePath file log handle (.loadMessages limit answer)
      (object.perform format file (.loadMessages limit answer)) := by
  refine answered_query hfile (hobject.runStatement _) ?_ rfl rfl rfl rfl
  have hopened := hobject.opened_eq
  simp only [expectedReply, StorageService.loadMessages, StorageObject.view, select_eq,
    hfile.messages.rows, remaining_nil]
  cases hopen : log.isOpen handle with
  | false => simp [hopened, hopen]
  | true =>
    rw [onTable_eq (hobject.tables hopen).1]
    cases answer with
    | prepareFailed | stepFailed => simp
    | done => simp [hopened, hopen]

theorem messageCount_answered (answer : StatementAnswer) :
    CallAnswered format databasePath file log handle (.messageCount answer)
      (object.perform format file (.messageCount answer)) := by
  refine answered_query hfile (hobject.runStatement _) ?_ rfl rfl rfl rfl
  have hopened := hobject.opened_eq
  simp only [expectedReply, StorageService.messageCount, StorageObject.view,
    hfile.messages.rows, remaining_nil]
  cases hopen : log.isOpen handle with
  | false => simp [hopened, hopen]
  | true =>
    rw [onTable_eq (hobject.tables hopen).1]
    cases answer with
    | prepareFailed | stepFailed => simp
    | done => simp [hopened, hopen, numbered]

theorem loadPendingMqttMessages_answered (limit : Nat) (answer : StatementAnswer) :
    CallAnswered format databasePath file log handle (.loadPendingMqttMessages limit answer)
      (object.perform format file (.loadPendingMqttMessages limit answer)) := by
  refine answered_query hfile (hobject.runStatement _) ?_ rfl rfl rfl rfl
  have hopened := hobject.opened_eq
  simp only [expectedReply, StorageService.loadPendingMqttMessages, StorageObject.view,
    select_eq, hfile.outbox.rows, pendingRows]
  cases hopen : log.isOpen handle with
  | false => simp [hopened, hopen]
  | true =>
    rw [onTable_eq (hobject.tables hopen).2]
    cases answer with
    | prepareFailed | stepFailed => simp
    | done => simp [hopened, hopen]

theorem pendingMqttMessageCount_answered (answer : StatementAnswer) :
    CallAnswered format databasePath file log handle (.pendingMqttMessageCount answer)
      (object.perform format file (.pendingMqttMessageCount answer)) := by
  refine answered_query hfile (hobject.runStatement _) ?_ rfl rfl rfl rfl
  have hopened := hobject.opened_eq
  simp only [expectedReply, StorageService.pendingMqttMessageCount, StorageObject.view,
    hfile.outbox.rows, pendingRows]
  cases hopen : log.isOpen handle with
  | false => simp [hopened, hopen]
  | true =>
    rw [onTable_eq (hobject.tables hopen).2]
    cases answer with
    | prepareFailed | stepFailed => simp
    | done => simp [hopened, hopen]

end

/-- What `storeMessage` adds, and when. -/
theorem storeMessage_holds (format : FloatFormat) {stored : List TagMessageRow}
    (storage : StorageService) (h : storage.tagMessages.Holds stored []) (message : Message)
    (sqlite : Bool) :
    ∃ table result, storage.storeMessage format message sqlite =
        ({ storage with tagMessages := table }, result) ∧
      result = (storage.database && sqlite && decide (stored.length < maxRowId)) ∧
      table.Holds
        (stored ++ if result then [StorageService.messageRow format message] else []) [] := by
  have hinsert := h.insert (StorageService.messageRow format message)
  have hkept : storage.tagMessages.Holds (stored ++ []) [] := by rwa [List.append_nil]
  obtain ⟨database, tagMessages, mqttOutbox⟩ := storage
  unfold StorageService.storeMessage
  cases database with
  | false => exact ⟨_, false, rfl, rfl, hkept⟩
  | true =>
    cases sqlite with
    | false => exact ⟨_, false, rfl, rfl, hkept⟩
    | true =>
      by_cases hroom : stored.length < maxRowId
      · rw [if_pos hroom] at hinsert
        obtain ⟨table, hinsert, hholds⟩ := hinsert
        exact ⟨table, true, by simp [hinsert], by simp [hroom], hholds⟩
      · rw [if_neg hroom] at hinsert
        exact ⟨_, false, by simp [hinsert], by simp [hroom], hkept⟩

/-- What `enqueueMqttMessage` adds, and when. -/
theorem enqueueMqttMessage_holds {enqueued : List OutboxRow} {removed : List Nat}
    (storage : StorageService) (h : storage.mqttOutbox.Holds enqueued removed)
    (topic payload : Bytes) (retain : Bool) (now : Int64) (sqlite : Bool) :
    ∃ table result, storage.enqueueMqttMessage topic payload retain now sqlite =
        ({ storage with mqttOutbox := table }, result) ∧
      result = (storage.database && !topic.isEmpty && sqlite &&
        decide (enqueued.length < maxRowId)) ∧
      table.Holds (enqueued ++
        if result then [StorageService.outboxRow topic payload retain now] else []) removed := by
  have hinsert := h.insert (StorageService.outboxRow topic payload retain now)
  have hkept : storage.mqttOutbox.Holds (enqueued ++ []) removed := by rwa [List.append_nil]
  obtain ⟨database, tagMessages, mqttOutbox⟩ := storage
  unfold StorageService.enqueueMqttMessage
  cases database with
  | false => exact ⟨_, false, rfl, rfl, hkept⟩
  | true =>
    cases topic.isEmpty with
    | true => exact ⟨_, false, rfl, rfl, hkept⟩
    | false =>
      cases sqlite with
      | false => exact ⟨_, false, rfl, rfl, hkept⟩
      | true =>
        by_cases hroom : enqueued.length < maxRowId
        · rw [if_pos hroom] at hinsert
          obtain ⟨table, hinsert, hholds⟩ := hinsert
          exact ⟨table, true, by simp [hinsert], by simp [hroom], hholds⟩
        · rw [if_neg hroom] at hinsert
          exact ⟨_, false, by simp [hinsert], by simp [hroom], hkept⟩

/-- What `removePendingMqttMessage` removes, and when. -/
theorem removePendingMqttMessage_holds {enqueued : List OutboxRow} {removed : List Nat}
    (storage : StorageService) (h : storage.mqttOutbox.Holds enqueued removed)
    (messageId : Int) (sqlite : Bool) :
    ∃ table result, storage.removePendingMqttMessage messageId sqlite =
        ({ storage with mqttOutbox := table }, result) ∧
      result = (storage.database && decide (0 < messageId) && sqlite &&
        decide (messageId.toNat ∈ (remaining enqueued removed).map Prod.fst)) ∧
      table.Holds enqueued ((if result then [messageId.toNat] else []) ++ removed) := by
  obtain ⟨database, tagMessages, mqttOutbox⟩ := storage
  have hids : mqttOutbox.ids = (remaining enqueued removed).map Prod.fst := by
    rw [ids, h.rows]
  unfold StorageService.removePendingMqttMessage
  rw [changes_eq, ← hids]
  cases database with
  | false => exact ⟨_, false, rfl, rfl, h⟩
  | true =>
    by_cases hpositive : messageId ≤ 0
    · have hnot : ¬ 0 < messageId := by omega
      exact ⟨_, false, by simp [hpositive], by simp [hnot], h⟩
    · have hgiven : 0 < messageId := by omega
      cases sqlite with
      | false => exact ⟨_, false, by simp [hpositive], by simp, h⟩
      | true =>
        by_cases hmem : messageId.toNat ∈ mqttOutbox.ids
        · exact ⟨mqttOutbox.delete messageId.toNat, true, by simp [hpositive, hmem],
            by simp [hgiven, hmem], h.delete hmem⟩
        · exact ⟨mqttOutbox.delete messageId.toNat, false, by simp [hpositive, hmem],
            by simp [hmem], h.delete_absent hmem⟩

/-- A statement runs where the object is open and SQLite does its part. -/
theorem ready_eq {Row : Type} {table : Option (AutoincrementTable Row)}
    (hobject : StorageObjectInv databasePath file object opened)
    (htable : opened = true → table.isSome = true) (answer : StatementAnswer) :
    (object.database.isSome && decide (StorageObject.onTable table answer = .done)) =
      (opened && decide (answer = .done)) := by
  rw [hobject.opened_eq]
  cases opened with
  | false => rfl
  | true => rw [onTable_eq (htable rfl)]

/-- Writing a table back, if there is one. -/
theorem holds_written {Row : Type} {table : Option (AutoincrementTable Row)}
    {table' : AutoincrementTable Row} {inserted inserted' : List Row} {deleted deleted' : List Nat}
    (h : (table.getD (.empty 0)).Holds inserted deleted) (h' : table'.Holds inserted' deleted')
    (hnone : table = none → inserted' = inserted ∧ deleted' = deleted) :
    ((table.map fun _ => table').getD (.empty 0)).Holds inserted' deleted' := by
  cases table with
  | some _ => exact h'
  | none =>
    obtain ⟨rfl, rfl⟩ := hnone rfl
    exact h

/-- An object is not open where a table is missing. -/
theorem closed_of_none {Row : Type} {table : Option (AutoincrementTable Row)}
    (htable : opened = true → table.isSome = true) (hnone : table = none) : opened = false := by
  cases opened with
  | false => rfl
  | true =>
    have hsome := htable rfl
    rw [hnone] at hsome
    cases hsome

/-- A call that writes the outbox. Where there is none, it has changed nothing. -/
theorem answered_outbox {handle : Handle} {call : StorageCall} {reply : StorageReply}
    {object' : StorageObject} {table : AutoincrementTable OutboxRow}
    (hfile : DatabaseFileInv format file log)
    (hobject : StorageObjectInv databasePath file object' (log.isOpen handle))
    (hreply : reply = expectedReply format databasePath log handle call)
    (hleaves : call.leavesOpen reply = none)
    (hstored : (StorageEntry.replied handle call reply).storedRow format = none)
    (hholds : table.Holds (enqueuedRows (.replied handle call reply :: log))
      (removedIds (.replied handle call reply :: log)))
    (hnone : file.mqttOutbox = none →
      (StorageEntry.replied handle call reply).enqueuedRow = none ∧
        (StorageEntry.replied handle call reply).removedId = none) :
    CallAnswered format databasePath file log handle call
      ({ file with mqttOutbox := file.mqttOutbox.map fun _ => table }, object', reply) := by
  have hgrows : Grows file { file with mqttOutbox := file.mqttOutbox.map fun _ => table } :=
    ⟨id, fun h => by rwa [Option.isSome_map]⟩
  refine ⟨hreply, ?_, ⟨?_, ?_⟩, hgrows⟩
  · rw [hleaves]
    exact hobject.grow hgrows
  · rw [storedRows_cons, hstored, Option.toList_none, List.append_nil]
    exact hfile.messages
  · refine holds_written hfile.outbox hholds fun htable => ?_
    obtain ⟨henqueued, hremoved⟩ := hnone htable
    rw [enqueuedRows_cons, removedIds_cons, henqueued, hremoved]
    exact ⟨List.append_nil _, rfl⟩

section

variable {handle : Handle} (hfile : DatabaseFileInv format file log)
  (hobject : StorageObjectInv databasePath file object (log.isOpen handle))

include hfile hobject

theorem storeMessage_answered (message : Message) (answer : StatementAnswer) :
    CallAnswered format databasePath file log handle (.storeMessage message answer)
      (object.perform format file (.storeMessage message answer)) := by
  have htable := fun hopen => (hobject.tables hopen).1
  have hran := hobject.runStatement (StorageObject.onTable file.tagMessages answer)
  obtain ⟨table, result, hstore, hresult, hholds⟩ := storeMessage_holds format (object.view file)
    hfile.messages message (decide (StorageObject.onTable file.tagMessages answer = .done))
  have hreply : result =
      (log.isOpen handle && answer = .done && (log.storedRows format).length < maxRowId) := by
    rw [hresult, ← ready_eq hobject htable answer]
    rfl
  simp only [StorageObject.perform, hstore]
  have hgrows : Grows file { file with tagMessages := file.tagMessages.map fun _ => table } :=
    ⟨fun h => by rwa [Option.isSome_map], id⟩
  refine ⟨congrArg _ hreply, hran.grow hgrows, ⟨?_, ?_⟩, hgrows⟩
  · rw [storedRows_cons]
    refine holds_written hfile.messages ?_ fun hnone => ?_
    · cases result with
      | false => exact hholds
      | true => exact hholds
    · rw [closed_of_none htable hnone] at hreply
      obtain rfl : result = false := hreply
      exact ⟨List.append_nil _, rfl⟩
  · rw [enqueuedRows_cons, removedIds_cons]
    cases result with
    | false => simpa [StorageEntry.enqueuedRow, StorageEntry.removedId] using hfile.outbox
    | true => simpa [StorageEntry.enqueuedRow, StorageEntry.removedId] using hfile.outbox

theorem enqueueMqttMessage_answered (topic payload : Bytes) (retain : Bool) (now : Int64)
    (answer : StatementAnswer) :
    CallAnswered format databasePath file log handle
      (.enqueueMqttMessage topic payload retain now answer)
      (object.perform format file (.enqueueMqttMessage topic payload retain now answer)) := by
  have htable := fun hopen => (hobject.tables hopen).2
  have hran : StorageObjectInv databasePath file (if topic.isEmpty then object else
      object.runStatement (StorageObject.onTable file.mqttOutbox answer)) (log.isOpen handle) := by
    split
    · exact hobject
    · exact hobject.runStatement _
  obtain ⟨table, result, hstore, hresult, hholds⟩ := enqueueMqttMessage_holds (object.view file)
    hfile.outbox topic payload retain now
    (decide (StorageObject.onTable file.mqttOutbox answer = .done))
  have hreply : result = (log.isOpen handle && !topic.isEmpty && answer = .done &&
      log.enqueuedRows.length < maxRowId) := by
    rw [hresult, Bool.and_right_comm (object.view file).database,
      Bool.and_right_comm (log.isOpen handle), ← ready_eq hobject htable answer]
    rfl
  simp only [StorageObject.perform, hstore]
  refine answered_outbox hfile hran (congrArg _ hreply) rfl rfl ?_ fun hnone => ?_
  · rw [enqueuedRows_cons, removedIds_cons]
    cases result with
    | false => exact hholds
    | true => exact hholds
  · rw [closed_of_none htable hnone] at hreply
    obtain rfl : result = false := hreply
    exact ⟨rfl, rfl⟩

theorem removePendingMqttMessage_answered (messageId : Int) (answer : StatementAnswer) :
    CallAnswered format databasePath file log handle (.removePendingMqttMessage messageId answer)
      (object.perform format file (.removePendingMqttMessage messageId answer)) := by
  have htable := fun hopen => (hobject.tables hopen).2
  have hran : StorageObjectInv databasePath file (if messageId ≤ 0 then object else
      object.runStatement (StorageObject.onTable file.mqttOutbox answer)) (log.isOpen handle) := by
    split
    · exact hobject
    · exact hobject.runStatement _
  obtain ⟨table, result, hstore, hresult, hholds⟩ := removePendingMqttMessage_holds
    (object.view file) hfile.outbox messageId
    (decide (StorageObject.onTable file.mqttOutbox answer = .done))
  have hreply : result = (log.isOpen handle && 0 < messageId && answer = .done &&
      messageId.toNat ∈ log.pendingRows.map Prod.fst) := by
    rw [hresult, Bool.and_right_comm (object.view file).database,
      Bool.and_right_comm (log.isOpen handle), ← ready_eq hobject htable answer]
    rfl
  simp only [StorageObject.perform, hstore]
  refine answered_outbox hfile hran (congrArg _ hreply) rfl rfl ?_ fun hnone => ?_
  · rw [enqueuedRows_cons, removedIds_cons]
    cases result with
    | false => simpa [StorageEntry.enqueuedRow, StorageEntry.removedId] using hholds
    | true => simpa [StorageEntry.enqueuedRow, StorageEntry.removedId] using hholds
  · rw [closed_of_none htable hnone] at hreply
    obtain rfl : result = false := hreply
    exact ⟨rfl, rfl⟩

/-- Every call replies what the log asks for and keeps the invariant. -/
theorem perform_answered (call : StorageCall) :
    CallAnswered format databasePath file log handle call (object.perform format file call) := by
  cases call with
  | «open» answers => exact open_answered hfile hobject answers
  | close => exact ⟨rfl, hobject.close, hfile.quiet rfl rfl rfl, .refl file⟩
  | storeMessage message answer => exact storeMessage_answered hfile hobject message answer
  | loadMessages limit answer => exact loadMessages_answered hfile hobject limit answer
  | messageCount answer => exact messageCount_answered hfile hobject answer
  | enqueueMqttMessage topic payload retain now answer =>
    exact enqueueMqttMessage_answered hfile hobject topic payload retain now answer
  | loadPendingMqttMessages limit answer =>
    exact loadPendingMqttMessages_answered hfile hobject limit answer
  | removePendingMqttMessage messageId answer =>
    exact removePendingMqttMessage_answered hfile hobject messageId answer
  | pendingMqttMessageCount answer =>
    exact pendingMqttMessageCount_answered hfile hobject answer

end

end

/-! ## Runs -/

variable [DecidableEq Handle]

/-- The file with its users. -/
structure StorageInv (format : FloatFormat) (databasePath : Bytes) (s : StorageWorld Handle) :
    Prop where
  explained : RepliesExplained format databasePath s.log
  rows : DatabaseFileInv format s.file s.log
  living : ∀ handle, s.alive handle = true →
    StorageObjectInv databasePath s.file (s.objects handle) (s.log.isOpen handle)
  gone : ∀ handle, s.alive handle = false → s.log.isOpen handle = false

section

variable {format : FloatFormat} {databasePath : Bytes} {s : StorageWorld Handle}

theorem storageInv_init : StorageInv format databasePath
    (⟨⟨none, none⟩, fun _ => .create databasePath, fun _ => false, []⟩ : StorageWorld Handle)
    where
  explained := trivial
  rows := ⟨.empty, .empty⟩
  living _ halive := absurd halive Bool.false_ne_true
  gone _ _ := rfl

/-- A new object is not open. -/
theorem StorageInv.create (h : StorageInv format databasePath s) {handle : Handle}
    (hdead : s.alive handle = false) :
    StorageInv format databasePath { s with
      objects := Function.update s.objects handle (.create databasePath)
      alive := Function.update s.alive handle true } := by
  refine ⟨h.explained, h.rows, fun other halive => ?_, fun other halive => ?_⟩
  · by_cases heq : other = handle
    · subst heq
      simp only [Function.update_self, h.gone other hdead]
      exact ⟨rfl, rfl, fun hfalse => absurd hfalse Bool.false_ne_true, .nil⟩
    · simp only [Function.update_of_ne heq] at halive ⊢
      exact h.living other halive
  · by_cases heq : other = handle
    · subst heq
      exact h.gone other hdead
    · simp only [Function.update_of_ne heq] at halive
      exact h.gone other halive

theorem StorageInv.perform (h : StorageInv format databasePath s) {handle : Handle}
    (halive : s.alive handle = true) (call : StorageCall) :
    StorageInv format databasePath (s.perform format handle call) := by
  have hanswered := perform_answered h.rows (h.living handle halive) call
  unfold StorageWorld.perform
  generalize (s.objects handle).perform format s.file call = result at hanswered
  obtain ⟨file, object, reply⟩ := result
  refine ⟨⟨hanswered.reply, h.explained⟩, hanswered.rows, fun other hother => ?_,
    fun other hother => ?_⟩
  · by_cases heq : other = handle
    · subst heq
      have hobject := hanswered.object
      simp only [Function.update_self, isOpen, if_true]
      exact hobject
    · have hobject := (h.living other hother).grow hanswered.grows
      simp only [Function.update_of_ne heq, isOpen, if_neg (Ne.symm heq)]
      exact hobject
  · have hne : handle ≠ other := by
      rintro rfl
      exact absurd (halive.symm.trans hother) (by decide)
    simp only [isOpen, if_neg hne]
    exact h.gone other hother

/-- The end of an object does not touch the file or the others. -/
theorem StorageInv.finish (h : StorageInv format databasePath s) (handle : Handle)
    (object : StorageObject) : StorageInv format databasePath (s.finish handle object) := by
  refine ⟨h.explained, h.rows.quiet rfl rfl rfl, fun other halive => ?_, fun other halive => ?_⟩
  · have hne : other ≠ handle := by
      rintro rfl
      simp [StorageWorld.finish] at halive
    simp only [StorageWorld.finish, Function.update_of_ne hne] at halive ⊢
    simp only [isOpen, if_neg (Ne.symm hne)]
    exact h.living other halive
  · show isOpen other (.gone handle :: s.log) = false
    rw [isOpen]
    split
    · rfl
    · rename_i hne
      refine h.gone other ?_
      simpa [StorageWorld.finish, Function.update_of_ne (Ne.symm hne)] using halive

/-- The invariant over every run. -/
theorem storage_invariant
    (h : (storageSystem format databasePath).Reachable TransitionSystem.anyStep s) :
    StorageInv format databasePath s := by
  refine h.invariant (StorageInv format databasePath) ?_ ?_
  · rintro s rfl
    exact storageInv_init
  · intro s action s' _ hs _ hstep
    simp only [storageSystem] at hstep
    cases action with
    | create handle =>
      obtain ⟨hdead, hstep⟩ := Option.ite_none_left_eq_some.mp hstep
      obtain rfl := Option.some.inj hstep
      exact hs.create (by simpa using hdead)
    | call handle call =>
      obtain ⟨halive, hstep⟩ := Option.ite_none_right_eq_some.mp hstep
      obtain rfl := Option.some.inj hstep
      exact hs.perform halive call
    | destroy handle | crash handle =>
      obtain ⟨-, hstep⟩ := Option.ite_none_right_eq_some.mp hstep
      obtain rfl := Option.some.inj hstep
      exact hs.finish handle _

/-- Over a run, a connection was closed as often as one was given out, except for the one that
    the object still holds, and no statement is left. -/
theorem StorageObjectInv.counts {file : DatabaseFile} {object : StorageObject} {opened : Bool}
    (h : StorageObjectInv databasePath file object opened) (connection : Nat) :
    object.calls.count (.created connection) = object.calls.count (.freed (some connection)) +
        (if object.database = some connection then 1 else 0) ∧
      object.calls.count (.connected (some connection)) =
        object.calls.count (.closed (some connection)) := by
  rw [h.owns.proper.freed_eq, h.owns.objects_eq, h.owns.proper.closed_eq, h.owns.connections_eq]
  simp

end

/-- Over every run of any number of `StorageService` objects on one database file, in any
    processes, with any crashes and any answers of the file system and of SQLite: every reply
    is the one that the earlier calls and replies ask for; the history holds the rows that
    callers were told were stored, in order, and the outbox those that were enqueued and not
    removed, the `n`-th one with the id `n`; no row is removed twice. A living object is open
    exactly when its last successful `open` was not followed by `close`; all its calls of
    SQLite name a connection that is there, every statement was finalized, and every
    connection was closed once, the one it holds not yet, by its destructor. -/
theorem storage_follows_history (format : FloatFormat) (databasePath : Bytes)
    {s : StorageWorld Handle}
    (h : (storageSystem format databasePath).Reachable TransitionSystem.anyStep s) :
    RepliesExplained format databasePath s.log ∧
      (s.file.tagMessages.getD (.empty 0)).rows = numbered (s.log.storedRows format) ∧
      (s.file.mqttOutbox.getD (.empty 0)).rows = s.log.pendingRows ∧
      s.log.removedIds.Nodup ∧
      (∀ id ∈ s.log.removedIds, 1 ≤ id ∧ id ≤ s.log.enqueuedRows.length) ∧
      ∀ handle, s.alive handle = true →
        let object := s.objects handle
        object.database.isSome = s.log.isOpen handle ∧ Proper object.close.calls ∧
          ∀ connection,
            object.calls.count (.created connection) =
              object.calls.count (.freed (some connection)) +
                (if object.database = some connection then 1 else 0) ∧
            object.calls.count (.connected (some connection)) =
              object.calls.count (.closed (some connection)) ∧
            object.close.calls.count (.created connection) =
              object.close.calls.count (.freed (some connection)) := by
  have hinv := storage_invariant h
  refine ⟨hinv.explained, ?_, hinv.rows.outbox.rows, hinv.rows.outbox.nodup,
    hinv.rows.outbox.given, fun handle halive => ?_⟩
  · rw [hinv.rows.messages.rows, remaining_nil]
  · have hobject := hinv.living handle halive
    have hclosed := hobject.close
    refine ⟨hobject.opened_eq, hclosed.owns.proper, fun connection => ?_⟩
    obtain ⟨hcreated, hstatements⟩ := hobject.counts connection
    have hdatabase : (s.objects handle).close.database = none := by
      simpa using hclosed.opened_eq
    refine ⟨hcreated, hstatements, ?_⟩
    rw [(hclosed.counts connection).1, hdatabase]
    rfl

/-- Answers that let an `open` succeed. -/
def sampleAnswers : OpenAnswers where
  isDirectory := .yes
  createDirectories := true
  isDirectoryAgain := .yes
  openResult := .ok 4096
  exec _ := true

theorem storage_follows_history_sample :
    ∃ s : StorageWorld Bool,
      (s.log.enqueuedRows.map OutboxRow.topic = [ascii "a", ascii "b"] ∧
        s.log.removedIds = [1]) ∧
      (s.file.mqttOutbox.getD (.empty 0)).rows = s.log.pendingRows := by
  obtain ⟨s, -, hreach, hlog⟩ := TransitionSystem.exists_of_run
    (storageSystem ⟨fun _ _ => [], fun _ _ => [], fun _ => none, fun _ => none⟩
      (ascii "data/edgelink.db"))
    TransitionSystem.anyStep
    [.create true, .call true (.open sampleAnswers),
      .call true (.enqueueMqttMessage (ascii "a") [] false 0 .done),
      .call true (.enqueueMqttMessage (ascii "b") [] false 0 .done), .crash true,
      .create false, .call false (.open sampleAnswers),
      .call false (.removePendingMqttMessage 1 .done),
      .call false (.removePendingMqttMessage 1 .done), .destroy false]
    (fun s => s.log.enqueuedRows.map OutboxRow.topic = [ascii "a", ascii "b"] ∧
      s.log.removedIds = [1])
    rfl (by decide +kernel)
  exact ⟨s, of_decide_eq_true hlog, (storage_follows_history _ _ hreach).2.2.1⟩

end EdgeLink
