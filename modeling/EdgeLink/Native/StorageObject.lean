import Mathlib.Logic.Function.Basic
import EdgeLink.ForStd.SessionTrace
import EdgeLink.ForStd.TransitionSystem
import EdgeLink.Native.StorageService

/-! # Storage objects

The life of the `StorageService` objects that use one database file, in one process or in
several: `open`, `close`, the destructor and the statements in between.

A public function holds `mutex_` from its first line to its last, so it is one step. SQLite
runs a statement as a whole or not at all; how far it gets comes with the call.
`sqlite3_errmsg` and the bind calls, which only read what they are given, are left out. -/

namespace EdgeLink

/-- The database file: the tables that were created. -/
structure DatabaseFile where
  tagMessages : Option (AutoincrementTable TagMessageRow)
  mqttOutbox : Option (AutoincrementTable OutboxRow)

/-- The statements of `initializeDatabaseLocked`. -/
inductive SchemaStatement where
  | journalMode
  | synchronous
  | tagMessages
  | timestampIndex
  | mqttOutbox
deriving DecidableEq

/-- The statements in order. -/
def schemaStatements : List SchemaStatement :=
  [.journalMode, .synchronous, .tagMessages, .timestampIndex, .mqttOutbox]

/-- What a statement of the schema does to the file. A table that exists is kept. -/
def DatabaseFile.apply (file : DatabaseFile) : SchemaStatement → DatabaseFile
  | .journalMode => file
  | .synchronous => file
  | .tagMessages => { file with tagMessages := some (file.tagMessages.getD (.empty 0)) }
  | .timestampIndex => file
  | .mqttOutbox => { file with mqttOutbox := some (file.mqttOutbox.getD (.empty 0)) }

/-- What `is_directory` answers; where it fails it sets the error code or throws. -/
inductive DirectoryAnswer where
  | yes
  | no
  | failed
deriving DecidableEq

/-- What `sqlite3_open_v2` answers. It may give a connection also where it fails. -/
inductive OpenResult where
  | ok (connection : Nat)
  | failed (connection : Option Nat)
deriving DecidableEq

/-- The answers to one `open`. -/
structure OpenAnswers where
  isDirectory : DirectoryAnswer
  createDirectories : Bool
  isDirectoryAgain : DirectoryAnswer
  openResult : OpenResult
  exec : SchemaStatement → Bool

/-- How far a statement gets. -/
inductive StatementAnswer where
  | prepareFailed
  | stepFailed
  | done
deriving DecidableEq

/-- Calls of SQLite. The objects are connections; `connected` is the preparation of a
    statement, `exchanged` its run, `closed` its end, `freed` is `sqlite3_close_v2`, and
    `used` any other call on a connection. -/
abbrev SqliteCalls := SessionTrace Nat Unit

/-- The members of a `StorageService`; `database` is `database_`. -/
structure StorageObject where
  databasePath : Bytes
  database : Option Nat
  calls : SqliteCalls

/-- The calls of the public functions, with what they are answered. -/
inductive StorageCall where
  | open (answers : OpenAnswers)
  | close
  | storeMessage (message : Message) (answer : StatementAnswer)
  | loadMessages (limit : Nat) (answer : StatementAnswer)
  | messageCount (answer : StatementAnswer)
  | enqueueMqttMessage (topic payload : Bytes) (retain : Bool) (now : Int64)
    (answer : StatementAnswer)
  | loadPendingMqttMessages (limit : Nat) (answer : StatementAnswer)
  | removePendingMqttMessage (messageId : Int) (answer : StatementAnswer)
  | pendingMqttMessageCount (answer : StatementAnswer)

/-- What a call gives its caller. -/
inductive StorageReply where
  | done
  | threw
  | returned (result : Bool)
  | messages (messages : List StoredMessage)
  | pending (messages : List PendingMqttMessage)
  | count (count : Nat)

/-- Whether the parent of the database file is a directory in the end; `none` where the
    second query throws. -/
def parentIsDirectory (databasePath : Bytes) (answers : OpenAnswers) : Option Bool :=
  -- a path without a slash has no parent path
  if 47 ∉ databasePath then some true
  else
    let directoryError :=
      match answers.isDirectory with
      | .yes => false
      | .no => !answers.createDirectories
      | .failed => true
    if directoryError then some false
    else
      match answers.isDirectoryAgain with
      | .yes => some true
      | .no => some false
      | .failed => none

namespace StorageObject

/-- `StorageService::StorageService`. -/
def create (databasePath : Bytes) : StorageObject where
  databasePath := databasePath
  database := none
  calls := []

/-! ## Opening and closing -/

/-- `StorageService::executeSqlLocked`. -/
def executeSqlLocked (object : StorageObject) (file : DatabaseFile) (ok : Bool)
    (statement : SchemaStatement) : DatabaseFile × StorageObject × Bool :=
  let object := { object with calls := .used object.database :: object.calls }
  if ok then (file.apply statement, object, true) else (file, object, false)

/-- `StorageService::initializeDatabaseLocked`: it stops at the first statement that fails. -/
def initializeDatabaseLocked (exec : SchemaStatement → Bool) :
    StorageObject → DatabaseFile → List SchemaStatement → DatabaseFile × StorageObject × Bool
  | object, file, [] => (file, object, true)
  | object, file, statement :: rest =>
    match object.executeSqlLocked file (exec statement) statement with
    | (file, object, false) => (file, object, false)
    | (file, object, true) => initializeDatabaseLocked exec object file rest

/-- The part of `open` from `sqlite3_open_v2` on. -/
def openConnection (object : StorageObject) (file : DatabaseFile) (answers : OpenAnswers) :
    DatabaseFile × StorageObject × Bool :=
  match answers.openResult with
  | .failed none => (file, object, false)
  | .failed (some connection) =>
    (file, { object with
      calls := .freed (some connection) :: .created connection :: object.calls }, false)
  | .ok connection =>
    let object := { object with
      database := some connection
      -- the busy timeout is set
      calls := .used (some connection) :: .created connection :: object.calls }
    match initializeDatabaseLocked answers.exec object file schemaStatements with
    | (file, object, true) => (file, object, true)
    | (file, object, false) =>
      (file, { object with
        database := none
        calls := .freed object.database :: object.calls }, false)

/-- `StorageService::open`. -/
def «open» (object : StorageObject) (file : DatabaseFile) (answers : OpenAnswers) :
    DatabaseFile × StorageObject × StorageReply :=
  if object.database.isSome then (file, object, .returned true)
  else if object.databasePath.isEmpty then (file, object, .returned false)
  else
    match parentIsDirectory object.databasePath answers with
    | none => (file, object, .threw)
    | some false => (file, object, .returned false)
    | some true =>
      let (file, object, result) := object.openConnection file answers
      (file, object, .returned result)

/-- `StorageService::close`. -/
def close (object : StorageObject) : StorageObject :=
  if object.database.isSome then
    { object with
      database := none
      calls := .freed object.database :: object.calls }
  else object

/-! ## Statements -/

/-- A statement is prepared, run and finalized, or not even prepared. -/
def runStatement (object : StorageObject) (answer : StatementAnswer) : StorageObject :=
  if object.database.isSome then
    match answer with
    | .prepareFailed => { object with calls := .used object.database :: object.calls }
    | .stepFailed | .done =>
      { object with
        calls := .closed object.database :: .exchanged object.database () ::
          .connected object.database :: object.calls }
  else object

/-- The object and the file as the functions of the service see them. -/
def view (object : StorageObject) (file : DatabaseFile) : StorageService where
  database := object.database.isSome
  tagMessages := file.tagMessages.getD (.empty 0)
  mqttOutbox := file.mqttOutbox.getD (.empty 0)

/-- A statement on a table that does not exist cannot be prepared. -/
def onTable {Row : Type} (table : Option (AutoincrementTable Row)) (answer : StatementAnswer) :
    StatementAnswer :=
  if table.isSome then answer else .prepareFailed

/-- A call on an object. -/
def perform (format : FloatFormat) (object : StorageObject) (file : DatabaseFile) :
    StorageCall → DatabaseFile × StorageObject × StorageReply
  | .open answers => object.open file answers
  | .close => (file, object.close, .done)
  | .storeMessage message answer =>
    let answer := onTable file.tagMessages answer
    let (storage, result) :=
      (object.view file).storeMessage format message (decide (answer = .done))
    ({ file with tagMessages := file.tagMessages.map fun _ => storage.tagMessages },
      object.runStatement answer, .returned result)
  | .loadMessages limit answer =>
    let answer := onTable file.tagMessages answer
    (file, object.runStatement answer,
      .messages ((object.view file).loadMessages format limit (decide (answer = .done))))
  | .messageCount answer =>
    let answer := onTable file.tagMessages answer
    (file, object.runStatement answer,
      .count ((object.view file).messageCount (decide (answer = .done))))
  | .enqueueMqttMessage topic payload retain now answer =>
    let answer := onTable file.mqttOutbox answer
    let (storage, result) :=
      (object.view file).enqueueMqttMessage topic payload retain now (decide (answer = .done))
    ({ file with mqttOutbox := file.mqttOutbox.map fun _ => storage.mqttOutbox },
      if topic.isEmpty then object else object.runStatement answer, .returned result)
  | .loadPendingMqttMessages limit answer =>
    let answer := onTable file.mqttOutbox answer
    (file, object.runStatement answer,
      .pending ((object.view file).loadPendingMqttMessages limit (decide (answer = .done))))
  | .removePendingMqttMessage messageId answer =>
    let answer := onTable file.mqttOutbox answer
    let (storage, result) :=
      (object.view file).removePendingMqttMessage messageId (decide (answer = .done))
    ({ file with mqttOutbox := file.mqttOutbox.map fun _ => storage.mqttOutbox },
      if messageId ≤ 0 then object else object.runStatement answer, .returned result)
  | .pendingMqttMessageCount answer =>
    let answer := onTable file.mqttOutbox answer
    (file, object.runStatement answer,
      .count ((object.view file).pendingMqttMessageCount (decide (answer = .done))))

end StorageObject

/-! ## Runs -/

variable {Handle : Type}

/-- What is noted of a run: a call with its reply, and the end of an object. -/
inductive StorageEntry (Handle : Type) where
  | replied (handle : Handle) (call : StorageCall) (reply : StorageReply)
  | gone (handle : Handle)

/-- The entries of a run, newest first. -/
abbrev StorageLog (Handle : Type) := List (StorageEntry Handle)

/-- The file and its users. -/
structure StorageWorld (Handle : Type) where
  file : DatabaseFile
  objects : Handle → StorageObject
  alive : Handle → Bool
  log : StorageLog Handle

/-- The steps. `crash` is the end of the process of an object; SQLite gives up what its
    connection has not committed, and no step leaves anything uncommitted. -/
inductive StorageAction (Handle : Type) where
  | create (handle : Handle)
  | call (handle : Handle) (call : StorageCall)
  | destroy (handle : Handle)
  | crash (handle : Handle)

namespace StorageWorld

variable [DecidableEq Handle]

/-- A call of a living object. -/
def perform (format : FloatFormat) (s : StorageWorld Handle) (handle : Handle)
    (call : StorageCall) : StorageWorld Handle :=
  let (file, object, reply) := (s.objects handle).perform format s.file call
  { s with
    file
    objects := Function.update s.objects handle object
    log := .replied handle call reply :: s.log }

/-- The end of an object. -/
def finish (s : StorageWorld Handle) (handle : Handle) (object : StorageObject) :
    StorageWorld Handle :=
  { s with
    objects := Function.update s.objects handle object
    alive := Function.update s.alive handle false
    log := .gone handle :: s.log }

/-- One step; nothing is called on an object that does not live. -/
def step (format : FloatFormat) (databasePath : Bytes) (s : StorageWorld Handle) :
    StorageAction Handle → Option (StorageWorld Handle)
  | .create handle =>
    if s.alive handle then none
    else
      some { s with
        objects := Function.update s.objects handle (.create databasePath)
        alive := Function.update s.alive handle true }
  | .call handle call => if s.alive handle then some (s.perform format handle call) else none
  -- the destructor closes the database
  | .destroy handle =>
    if s.alive handle then some (s.finish handle (s.objects handle).close) else none
  | .crash handle =>
    if s.alive handle then some (s.finish handle (s.objects handle)) else none

end StorageWorld

/-- The runs of any number of objects with the path of one file, which does not exist at
    first. -/
def storageSystem [DecidableEq Handle] (format : FloatFormat) (databasePath : Bytes) :
    TransitionSystem (StorageWorld Handle) (StorageAction Handle) where
  init s := s = ⟨⟨none, none⟩, fun _ => .create databasePath, fun _ => false, []⟩
  step := StorageWorld.step format databasePath

end EdgeLink
