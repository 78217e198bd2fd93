import RustScriptAgent.Storage.Statements

namespace RustScriptAgent.Storage

open Relational Sequences

structure RunTransitionInput where
  runId : String
  fromStatus : String
  toStatus : String
  errorCode : String
  errorMessage : String
  recoveryReason : String
  nowMs : Int

def RunStatus.canMove : RunStatus → RunStatus → Bool
  | queued, target => [running, cancelled, failed].contains target
  | running, target => [waitingApproval, compacting, completed, failed, cancelled].contains target
  | waitingApproval, target => [running, compacting, completed, failed, cancelled].contains target
  | compacting, target => [running, completed, failed, cancelled].contains target
  | _, _ => false

def RunTransitionInput.assign (input : RunTransitionInput) (target : RunStatus) : runsSchema.Assignment where
  apply row :=
    { row with
      status := target
      errorCode := input.errorCode
      errorMessage := input.errorMessage
      recoveryReason := input.recoveryReason
      startedAtMs := if target = .running ∧ row.startedAtMs = 0 then input.nowMs else row.startedAtMs
      finishedAtMs := if target.terminal then input.nowMs else row.finishedAtMs
      updatedAtMs := input.nowMs }
  left _ _ := rfl
  right _ _ := rfl
  check _ accepted := accepted

def RunTransitionInput.matchesRow (input : RunTransitionInput) (target : RunStatus) (row : RunRow) : Bool :=
  row.id == input.runId && row.status.text == input.fromStatus && row.status.canMove target

def transitionEvent (db : Database) (input : RunTransitionInput) : EventRow where
  runId := input.runId
  seq := db.maxSeq input.runId + 1
  eventId := "run-transition:" ++ input.runId ++ ":" ++ toString input.nowMs ++ ":" ++ input.fromStatus ++
    ":" ++ input.toStatus ++ ":" ++ toString (db.maxSeq input.runId + 1)
  eventType := .runStatusChanged
  payload := .obj []
  createdAtMs := input.nowMs

/-- The second and third statement see `changes() = 1` of the statement before them. -/
def storageRunTransition (host : Host) (db : Database) (input : RunTransitionInput) :
    Database × Except StorageError Unit :=
  match RunStatus.ofText? input.toStatus with
  | none => (db, .error .assertionFailed)
  | some target =>
    if host.acceptsParameters
        [input.toStatus, input.errorCode, input.errorMessage, input.recoveryReason, input.runId,
          input.fromStatus] = false then
      (db, .error .parameterRejected)
    else if db.runs.rows.any (input.matchesRow target) = false then
      (db, .error (.transitionConflict "run status transition matched no row"))
    else
      let moved := { db with runs := db.runs.update (input.matchesRow target) (input.assign target) }
      let row := transitionEvent moved input
      match moved.runEvents.insert? row with
      | some table => (({ moved with runEvents := table }).upsertRetention input.runId input.nowMs, .ok ())
      | none => (moved, .ok ())

structure TerminalEvent where
  eventId : String
  eventType : EventType
  payload : Json

structure RunTerminalInput where
  runId : String
  toStatus : String
  errorCode : String
  errorMessage : String
  event1 : TerminalEvent
  event2 : TerminalEvent
  eventCount : Nat
  messageId : String
  messageSessionId : String
  messageRole : String
  messageContent : Json
  messageRunId : String
  messageFinishReason : String
  messageOrdinal : Int
  nowMs : Int

def TerminalEvent.row (event : TerminalEvent) (db : Database) (run : String) (now : Int) : EventRow where
  runId := run
  seq := db.maxSeq run + 1
  eventId := event.eventId
  eventType := event.eventType
  payload := event.payload
  createdAtMs := now

/-- `INSERT INTO run_events .. WHERE EXISTS (SELECT 1 FROM runs WHERE id = ? AND status = 'running')` -/
def insertTerminalEvent (db : Database) (run : String) (event : TerminalEvent) (now : Int) :
    Except StorageError Database :=
  if db.runIs run .running then db.insertEvent (event.row db run now) else .ok db

/-- An aggregate without GROUP BY yields one row even when its WHERE clause selects nothing,
so the guard on the run's status narrows the maximum and not the insert. -/
def RunTerminalInput.message (input : RunTerminalInput) (db : Database) : MessageRow where
  id := input.messageId
  sessionId := input.messageSessionId
  ordinal :=
    let guarded := db.runIs input.runId .running &&
      !db.messages.rows.any (fun row => row.id == input.messageId && row.sessionId != input.messageSessionId)
    reservedOr input.messageOrdinal ((if guarded then db.maxOrdinal input.messageSessionId else 0) + 1)
  role := input.messageRole
  content := .json input.messageContent
  runId := input.messageRunId
  finishReason := input.messageFinishReason
  createdAtMs := input.nowMs

def storeTerminalMessage (db : Database) (input : RunTerminalInput) : Except StorageError Database :=
  if input.messageId = "" then .ok db
  else do
    let stored ← db.insertMessage (input.message db)
    return stored.touchSession input.messageSessionId input.nowMs

def RunTerminalInput.assign (input : RunTerminalInput) (target : RunStatus) : runsSchema.Assignment where
  apply row :=
    { row with
      status := target
      errorCode := input.errorCode
      errorMessage := input.errorMessage
      recoveryReason := ""
      finishedAtMs := input.nowMs
      updatedAtMs := input.nowMs }
  left _ _ := rfl
  right _ _ := rfl
  check _ accepted := accepted

def RunTerminalInput.close (input : RunTerminalInput) (target : RunStatus) (db : Database) : Database :=
  let moved :=
    { db with
      runs := db.runs.update (fun row => row.id == input.runId && decide (row.status = RunStatus.running))
        (input.assign target) }
  if moved.runIs input.runId target then moved.upsertRetention input.runId input.nowMs else moved

def RunTerminalInput.events (input : RunTerminalInput) : List TerminalEvent :=
  (if 1 ≤ input.eventCount then [input.event1] else []) ++ (if 2 ≤ input.eventCount then [input.event2] else [])

def RunTerminalInput.parameters (input : RunTerminalInput) : List (List String) :=
  input.events.map (fun event => [input.runId, event.eventId, event.eventType.text, event.payload.render]) ++
    (if input.messageId = "" then [] else
      [[input.messageId, input.messageSessionId, input.messageRole, input.messageContent.render,
        input.messageRunId, input.messageFinishReason]]) ++
    [[input.toStatus, input.errorCode, input.errorMessage, input.runId]]

def insertTerminalEvents (db : Database) (run : String) (events : List TerminalEvent) (now : Int) :
    Except StorageError Database :=
  events.foldlM (fun db event => insertTerminalEvent db run event now) db

def terminalTransaction (host : Host) (db : Database) (input : RunTerminalInput) (target : RunStatus) :
    Except StorageError Database := do
  requireParameters host input.parameters
  let appended ← insertTerminalEvents db input.runId input.events input.nowMs
  let stored ← storeTerminalMessage appended input
  return input.close target stored

inductive Cell where
  | int
  | text (value : String)

def Cell.bytes : Cell → Nat
  | int => 8
  | text value => value.utf8ByteSize

def cellBytes (cells : List Cell) : Nat := (cells.map Cell.bytes).sum

def columnBytes (columns : List String) : Nat := (columns.map String.utf8ByteSize).sum

def boundedRows {Row : Type} (maxRows maxBytes : Nat) (columns : List String) (cells : Row → List Cell)
    (rows : List Row) : List Row :=
  takeWithin (fun row => cellBytes (cells row)) (maxBytes - columnBytes columns) (rows.take maxRows)

def runColumns : List String :=
  ["id", "session_id", "parent_run_id", "status", "input_json", "provider", "model", "script_hash",
    "idempotency_scope", "idempotency_key", "turn_count", "input_tokens", "output_tokens", "error_code",
    "error_message", "recovery_reason", "created_at_ms", "started_at_ms", "finished_at_ms", "updated_at_ms"]

def RunRow.cells (row : RunRow) : List Cell :=
  [.text row.id, .text row.sessionId, .text row.parentRunId, .text row.status.text, .text row.input.render,
    .text row.provider, .text row.model, .text row.scriptHash, .text row.idempotencyScope,
    .text row.idempotencyKey, .int, .int, .int, .text row.errorCode, .text row.errorMessage,
    .text row.recoveryReason, .int, .int, .int, .int]

def runResultBytes : Nat := 65536

def RunRow.fits (row : RunRow) : Bool :=
  decide (columnBytes runColumns + cellBytes row.cells ≤ runResultBytes)

def eventColumns : List String :=
  ["seq", "run_id", "event_id", "event_type", "payload_json", "created_at_ms"]

def EventRow.cells (row : EventRow) : List Cell :=
  [.int, .text row.runId, .text row.eventId, .text row.eventType.text, .text row.payload.render, .int]

def terminalResultRows : Nat := 512

def terminalResultBytes : Nat := 2097152

def Database.log (db : Database) (run : String) : List EventRow :=
  (db.eventsOf run).insertionSort (fun a b => a.seq ≤ b.seq)

def readBack (log : List EventRow) : List EventRow :=
  boundedRows terminalResultRows terminalResultBytes eventColumns EventRow.cells log

/-- Success is read off the run's status after the transaction, whoever set it. -/
def storageRunTerminal (host : Host) (db : Database) (input : RunTerminalInput) :
    Database × Except StorageError (List EventRow) :=
  match RunStatus.ofText? input.toStatus with
  | none => (db, .error .assertionFailed)
  | some target =>
    match terminalTransaction host db input target with
    | .error error => (db, .error error)
    | .ok next =>
      match (next.runs.rows.find? (fun row => row.id == input.runId)).filter RunRow.fits with
      | none => (next, .error (.runNotFound "terminal commit targets an unknown run"))
      | some row =>
        if row.status = target then (next, .ok (readBack (next.log input.runId)))
        else (next, .error (.transitionConflict "run terminal transition matched no row"))

structure RunCreateInput where
  id : String
  sessionId : String
  parentRunId : String
  input : Json
  provider : String
  model : String
  scriptHash : String
  idempotencyScope : String
  idempotencyKey : String
  nowMs : Int

def RunCreateInput.row (input : RunCreateInput) : RunRow where
  id := input.id
  sessionId := input.sessionId
  parentRunId := input.parentRunId
  status := .queued
  input := input.input
  provider := input.provider
  model := input.model
  scriptHash := input.scriptHash
  idempotencyScope := input.idempotencyScope
  idempotencyKey := input.idempotencyKey
  createdAtMs := input.nowMs
  updatedAtMs := input.nowMs

def RunCreateInput.parameters (input : RunCreateInput) : List String :=
  [input.id, input.sessionId, input.parentRunId, input.input.render, input.provider, input.model, input.scriptHash,
    input.idempotencyScope, input.idempotencyKey]

def storageRunCreate (host : Host) (db : Database) (input : RunCreateInput) (maxRows maxBytes : Nat) :
    Database × Except StorageError (List RunRow) :=
  if db.hasSession input.sessionId = false then
    (db, .error (.sessionNotFound "run create targets an unknown session"))
  else if input.parentRunId ≠ "" ∧ db.hasRun input.parentRunId = false then (db, .error .parentNotFound)
  else if host.acceptsParameters input.parameters = false then (db, .error .parameterRejected)
  else
    let elsewhere := db.runs.rows.any fun row => row.id == input.id && row.sessionId != input.sessionId
    let next := if elsewhere then db else { db with runs := db.runs.insertOrIgnore input.row }
    (next, .ok (boundedRows maxRows maxBytes runColumns RunRow.cells
      (next.runs.rows.filter fun row => row.id == input.id && row.sessionId == input.sessionId)))

structure RecoveryInput where
  nowMs : Int
  reason : String
  details : Json
  maxRows : Int
  maxEvents : Int

def recoveryLimit (requested : Int) : Nat :=
  if requested ≤ 0 then 64 else if 512 < requested then 512 else requested.toNat

def RunStatus.active : RunStatus → Bool
  | queued | running | waitingApproval | compacting => true
  | _ => false

def recoveryBatch (db : Database) (input : RecoveryInput) : List String :=
  (((db.runs.rows.filter (fun row => row.status.active)).insertionSort (fun a b =>
    a.updatedAtMs < b.updatedAtMs ∨ (a.updatedAtMs = b.updatedAtMs ∧ a.id ≤ b.id))).take
      (recoveryLimit input.maxRows)).map RunRow.id

def recoveryRow (input : RecoveryInput) (run : RunRow) : RecoveryRow where
  id := "recovery:" ++ run.id ++ ":" ++ toString input.nowMs
  runId := run.id
  fromStatus := run.status
  toStatus := .failed
  reason := input.reason
  details := input.details
  recoveredAtMs := input.nowMs

def recoveryPayload : Json :=
  .obj [("status", .str "failed"), ("error_code", .str "gateway_restart"),
    ("recovery_reason", .str "gateway_restart")]

def recoveryEvent (db : Database) (input : RecoveryInput) (run : RunRow) : EventRow where
  runId := run.id
  seq := db.maxSeq run.id + 1
  eventId := "recovery-event:" ++ run.id ++ ":" ++ toString input.nowMs
  eventType := .runFailed
  payload := recoveryPayload
  createdAtMs := input.nowMs

def RecoveryInput.assign (input : RecoveryInput) : runsSchema.Assignment where
  apply row :=
    { row with
      status := .failed
      errorCode := "gateway_restart"
      errorMessage := "run interrupted during gateway restart"
      recoveryReason := input.reason
      finishedAtMs := input.nowMs
      updatedAtMs := input.nowMs }
  left _ _ := rfl
  right _ _ := rfl
  check _ accepted := accepted

def expireApproval (now : Int) : approvalsSchema.Assignment where
  apply row := { row with state := .expired, resolvedAtMs := now }
  left _ _ := rfl
  right _ _ := rfl
  check _ accepted := accepted

def failCompaction (now : Int) : compactionsSchema.Assignment where
  apply row :=
    { row with
      state := .failed
      errorMessage := "run interrupted during gateway restart"
      completedAtMs := now }
  left _ _ := rfl
  right _ _ := rfl
  check _ accepted := accepted

def expireIdempotency (now : Int) : idempotencyRecordsSchema.Assignment where
  apply row := { row with state := .expired, completedAtMs := now }
  left _ _ := rfl
  right _ _ := rfl
  check _ accepted := accepted

/-- The runs that the later statements take for the batch: any record of this timestamp and reason. -/
def recoveredRuns (db : Database) (input : RecoveryInput) : List String :=
  (db.recoveryRecords.rows.filter (fun row =>
    decide (row.recoveredAtMs = input.nowMs) && row.reason == input.reason)).map RecoveryRow.runId

def recoverRuns (db : Database) (input : RecoveryInput) : Database :=
  let batch := recoveryBatch db input
  let chosen := db.runs.rows.filter (fun row => batch.contains row.id)
  { db with
    recoveryRecords := db.recoveryRecords.insertEachOrIgnore (chosen.map (recoveryRow input))
    runEvents := db.runEvents.insertEachOrIgnore (chosen.map (recoveryEvent db input))
    runs := db.runs.update (fun row => batch.contains row.id) input.assign }

def sweepPending (db : Database) (input : RecoveryInput) : Database :=
  let recovered := recoveredRuns db input
  let records := db.idempotencyRecords.update
    (fun row => decide (row.state = .claimed) && row.resourceType == "run" && recovered.contains row.resourceId)
    (expireIdempotency input.nowMs)
  { db with
    approvals := db.approvals.update
      (fun row => decide (row.state = .pending) && recovered.contains row.runId) (expireApproval input.nowMs)
    compactions := db.compactions.update (fun row => decide (row.state = .pending)) (failCompaction input.nowMs)
    idempotencyRecords := records
    idempotencyClaims := db.idempotencyClaims.delete fun claim =>
      records.rows.any (fun row => row.scope == claim.scope && row.key == claim.key &&
        decide (row.state = .expired)) }

def storageRunRecoverActive (db : Database) (input : RecoveryInput) : Database × Nat :=
  let failed := recoverRuns db input
  let swept := sweepPending failed input
  let recovered := recoveredRuns swept input
  let pruned :=
    { swept with
      runEvents := swept.runEvents.delete fun row => recovered.contains row.runId &&
        decide (swept.eventRank row < (swept.eventsOf row.runId).length - maxEventsLimit input.maxEvents) }
  let retained := (pruned.runs.rows.filter (fun row => recovered.contains row.id)).foldl
    (fun db row => db.upsertRetention row.id input.nowMs) pruned
  (retained, failed.recoveryRecords.rows.length - db.recoveryRecords.rows.length)

end RustScriptAgent.Storage
