import RustScriptAgent.Storage.Statements

namespace RustScriptAgent.Storage

open Relational Sequences

inductive Failpoint where
  | none
  | afterPartialWrite
  | afterCommitBeforePublish
  deriving DecidableEq

structure EventFields where
  eventId : String
  eventType : EventType
  payload : Json
  seq : Int
  deriving DecidableEq

structure EventAppendInput where
  runId : String
  event : EventFields
  nowMs : Int
  maxEvents : Int

structure EventAppendPairInput where
  runId : String
  first : EventFields
  second : EventFields
  nowMs : Int
  maxEvents : Int
  failpoint : Failpoint

structure EventPruneInput where
  runId : String
  maxEvents : Int
  nowMs : Int

structure StepCommitInput where
  runId : String
  sessionId : String
  event : EventFields
  nowMs : Int
  maxEvents : Int
  messageId : String
  role : String
  content : JsonText
  name : String
  toolCallId : String
  parentMessageId : String
  tokenEstimate : Int
  metadata : JsonText
  finishReason : String
  ordinal : Int
  failpoint : Failpoint

def maxPairPayload : Nat := 65536

def EventFields.parameters (fields : EventFields) (run : String) : List String :=
  [run, run, fields.eventId, fields.eventType.text, fields.payload.render, fields.eventId]

def EventFields.row (fields : EventFields) (db : Database) (run : String) (now : Int) : EventRow where
  runId := run
  seq := reservedOr fields.seq (db.maxSeq run + 1)
  eventId := fields.eventId
  eventType := fields.eventType
  payload := fields.payload
  createdAtMs := now

@[simp] theorem EventFields.row_runId (fields : EventFields) (db : Database) (run : String) (now : Int) :
    (fields.row db run now).runId = run := rfl

@[simp] theorem EventFields.row_eventId (fields : EventFields) (db : Database) (run : String) (now : Int) :
    (fields.row db run now).eventId = fields.eventId := rfl

/-- `INSERT INTO run_events .. WHERE NOT EXISTS (.. existing.event_id = ?)` -/
def insertNewEvent (db : Database) (run : String) (fields : EventFields) (now : Int) :
    Except StorageError Database :=
  if db.hasEventId fields.eventId then .ok db else db.insertEvent (fields.row db run now)

def storageEventAppend (host : Host) (db : Database) (input : EventAppendInput) :
    Database × Except StorageError Unit :=
  if db.hasRun input.runId = false then
    (db, .error (.runNotFound "event append targets an unknown run"))
  else
    commitTransaction db do
      requireParameters host [input.event.parameters input.runId, [input.runId]]
      let inserted ← insertNewEvent db input.runId input.event input.nowMs
      let pruned := inserted.pruneEvents input.runId (maxEventsLimit input.maxEvents)
      return (pruned.upsertRetention input.runId input.nowMs).touchRun input.runId input.nowMs

def storageEventAppendPair (host : Host) (db : Database) (input : EventAppendPairInput) :
    Database × Except StorageError Unit :=
  if maxPairPayload < host.textLength input.first.payload.render ∨
      maxPairPayload < host.textLength input.second.payload.render then
    (db, .error (.payloadTooLarge "pair event payload exceeds 65536 bytes"))
  else if db.hasRun input.runId = false then
    (db, .error (.runNotFound "event append targets an unknown run"))
  else
    let outcome := commitTransaction db do
      requireParameters host
        [input.first.parameters input.runId, input.second.parameters input.runId, [input.runId]]
      let once ← insertNewEvent db input.runId input.first input.nowMs
      let twice ← insertNewEvent once input.runId input.second input.nowMs
      let pruned := twice.pruneEvents input.runId (maxEventsLimit input.maxEvents)
      let touched := (pruned.upsertRetention input.runId input.nowMs).touchRun input.runId input.nowMs
      -- The failpoint writes a status outside the check constraint, so the run row aborts the transaction.
      if input.failpoint = .afterPartialWrite then .error .constraintFailed else .ok touched
    match outcome with
    | (next, .ok ()) =>
      if input.failpoint = .afterCommitBeforePublish then (next, .error .failpointAfterCommit)
      else (next, .ok ())
    | refused => refused

def storageEventPrune (db : Database) (input : EventPruneInput) : Database :=
  (db.pruneEvents input.runId (maxEventsLimit input.maxEvents)).upsertRetention input.runId input.nowMs

def StepCommitInput.message (input : StepCommitInput) (db : Database) : MessageRow where
  id := input.messageId
  sessionId := input.sessionId
  ordinal := reservedOr input.ordinal (db.maxOrdinal input.sessionId + 1)
  role := input.role
  content := .json (encodeContent input.content)
  name := input.name
  toolCallId := input.toolCallId
  parentMessageId := input.parentMessageId
  tokenEstimate := input.tokenEstimate
  compacted := false
  metadata := input.metadata
  runId := input.runId
  finishReason := input.finishReason
  createdAtMs := input.nowMs

@[simp] theorem StepCommitInput.message_id (input : StepCommitInput) (db : Database) :
    (input.message db).id = input.messageId := rfl

@[simp] theorem StepCommitInput.message_sessionId (input : StepCommitInput) (db : Database) :
    (input.message db).sessionId = input.sessionId := rfl

def StepCommitInput.parameters (input : StepCommitInput) : List (List String) :=
  [input.event.parameters input.runId, [input.runId],
    [input.messageId, input.sessionId, input.role, (encodeContent input.content).render, input.name,
      input.toolCallId, input.parentMessageId, input.metadata.text, input.runId, input.finishReason]]

def StepCommitInput.applyMessage (input : StepCommitInput) (db : Database) : Database :=
  if input.messageId = "" then db
  else
    let stored := { db with messages := db.messages.insertOrIgnore (input.message db) }
    stored.touchSession input.sessionId input.nowMs

def Database.hasMessageId (db : Database) (messageId : String) : Bool :=
  db.messages.rows.any (fun row => row.id == messageId)

def StepCommitInput.finish (input : StepCommitInput) (inserted : Database) : Database :=
  let pruned := inserted.pruneEvents input.runId (maxEventsLimit input.maxEvents)
  let retained := pruned.upsertRetention input.runId input.nowMs
  (input.applyMessage retained).touchRun input.runId input.nowMs

def stepTransaction (host : Host) (db : Database) (input : StepCommitInput) :
    Except StorageError Database := do
  requireParameters host input.parameters
  let inserted ← insertNewEvent db input.runId input.event input.nowMs
  let stepped := input.finish inserted
  -- `UPDATE messages SET compacted = 2` breaks the check only when it finds the message.
  if input.failpoint = .afterPartialWrite ∧ stepped.hasMessageId input.messageId = true then
    .error .constraintFailed
  else
    .ok stepped

def storageStepCommit (host : Host) (db : Database) (input : StepCommitInput) :
    Database × Except StorageError Unit :=
  if maxPairPayload < host.textLength input.event.payload.render then
    (db, .error (.payloadTooLarge "step event payload exceeds 65536 bytes"))
  else if db.hasRun input.runId = false then
    (db, .error (.runNotFound "step commit targets an unknown run"))
  else if input.messageId ≠ "" ∧ db.hasSession input.sessionId = false then
    (db, .error (.sessionNotFound "step commit targets an unknown session"))
  else
    match commitTransaction db (stepTransaction host db input) with
    | (next, .ok ()) =>
      if input.failpoint = .afterCommitBeforePublish then (next, .error .failpointAfterCommit)
      else (next, .ok ())
    | refused => refused

end RustScriptAgent.Storage
