import RustScriptAgent.Shared.Json
import RustScriptAgent.Shared.Table

namespace RustScriptAgent.Storage

open Relational

-- Sequence numbers, ordinals and times are integers without the 64-bit bound of the columns, here and in the gateway;
-- only the usage counters carry it.

inductive RunStatus where
  | queued
  | running
  | waitingApproval
  | compacting
  | completed
  | failed
  | cancelled
  deriving DecidableEq

def RunStatus.text : RunStatus → String
  | queued => "queued"
  | running => "running"
  | waitingApproval => "waiting_approval"
  | compacting => "compacting"
  | completed => "completed"
  | failed => "failed"
  | cancelled => "cancelled"

def RunStatus.all : List RunStatus :=
  [queued, running, waitingApproval, compacting, completed, failed, cancelled]

def RunStatus.ofText? (text : String) : Option RunStatus :=
  RunStatus.all.find? (fun status => status.text == text)

@[simp] theorem RunStatus.ofText?_text (status : RunStatus) : ofText? status.text = some status := by
  cases status <;> decide

def RunStatus.terminal : RunStatus → Bool
  | completed | failed | cancelled => true
  | _ => false

/-- Event types the gateway writes or compares with; any other text is kept as it is. -/
inductive EventType where
  | runStarted
  | runCompleted
  | runFailed
  | runCancelled
  | runStatusChanged
  | messageDelta
  | modelRequested
  | modelStarted
  | modelDelta
  | modelCompleted
  | modelFailed
  | toolRequested
  | toolStarted
  | toolOutput
  | toolCompleted
  | toolFailed
  | approvalRequired
  | approvalResolved
  | compactStarted
  | compactCompleted
  | subagentStarted
  | subagentCompleted
  | other (text : String)
  deriving DecidableEq

def EventType.text : EventType → String
  | runStarted => "run.started"
  | runCompleted => "run.completed"
  | runFailed => "run.failed"
  | runCancelled => "run.cancelled"
  | runStatusChanged => "run.status_changed"
  | messageDelta => "message.delta"
  | modelRequested => "model.requested"
  | modelStarted => "model.started"
  | modelDelta => "model.delta"
  | modelCompleted => "model.completed"
  | modelFailed => "model.failed"
  | toolRequested => "tool.requested"
  | toolStarted => "tool.started"
  | toolOutput => "tool.output"
  | toolCompleted => "tool.completed"
  | toolFailed => "tool.failed"
  | approvalRequired => "approval.required"
  | approvalResolved => "approval.resolved"
  | compactStarted => "compact.started"
  | compactCompleted => "compact.completed"
  | subagentStarted => "subagent.started"
  | subagentCompleted => "subagent.completed"
  | other text => text

/-- A text column that usually holds JSON: the document it parses to, or the text when it does not parse. -/
inductive JsonText where
  | json (document : Json)
  | raw (text : String)
  deriving DecidableEq

def JsonText.text : JsonText → String
  | json document => document.render
  | raw text => text

structure SessionRow where
  id : String
  profile : String
  platform : String
  accountId : String
  chatId : String
  threadId : String := ""
  generation : Int := 1
  systemPrompt : String := ""
  model : String := ""
  provider : String := ""
  metadata : Json := .obj []
  lastMessageSeq : Int := 0
  createdAtMs : Int
  updatedAtMs : Int
  deriving DecidableEq

structure MessageRow where
  id : String
  sessionId : String
  ordinal : Int
  role : String
  content : JsonText
  name : String := ""
  toolCallId : String := ""
  parentMessageId : String := ""
  tokenEstimate : Int := 0
  compacted : Bool := false
  metadata : JsonText := .json (.obj [])
  runId : String := ""
  finishReason : String := ""
  createdAtMs : Int
  deriving DecidableEq

structure RunRow where
  id : String
  sessionId : String
  parentRunId : String := ""
  status : RunStatus
  input : Json := .obj []
  provider : String := ""
  model : String := ""
  scriptHash : String := ""
  idempotencyScope : String := ""
  idempotencyKey : String := ""
  errorCode : String := ""
  errorMessage : String := ""
  recoveryReason : String := ""
  createdAtMs : Int
  startedAtMs : Int := 0
  finishedAtMs : Int := 0
  updatedAtMs : Int
  deriving DecidableEq

structure EventRow where
  runId : String
  seq : Int
  eventId : String
  eventType : EventType
  payload : Json
  createdAtMs : Int
  deriving DecidableEq

structure RetentionRow where
  runId : String
  firstSeq : Int
  highWaterSeq : Int
  updatedAtMs : Int
  deriving DecidableEq

structure RecoveryRow where
  id : String
  runId : String
  fromStatus : RunStatus
  toStatus : RunStatus
  reason : String
  details : Json := .obj []
  recoveredAtMs : Int
  deriving DecidableEq

inductive IdempotencyState where
  | claimed
  | completed
  | failed
  | expired
  deriving DecidableEq

structure IdempotencyRow where
  scope : String
  key : String
  requestHash : String
  resourceType : String
  resourceId : String
  state : IdempotencyState
  response : Json := .obj []
  createdAtMs : Int
  expiresAtMs : Int := 0
  completedAtMs : Int := 0
  deriving DecidableEq

structure IdempotencyClaimRow where
  scope : String
  key : String
  requestHash : String
  claimToken : String
  claimedAtMs : Int
  deriving DecidableEq

inductive ApprovalState where
  | pending
  | approved
  | denied
  | expired
  deriving DecidableEq

inductive RiskClass where
  | read
  | write
  | execute
  | privileged
  deriving DecidableEq

structure ApprovalRow where
  id : String
  runId : String
  sessionId : String
  toolCallId : String
  toolName : String
  argumentsJson : String
  riskClass : RiskClass
  state : ApprovalState
  decisionScope : String := ""
  oneTime : Int := 0
  requestedAtMs : Int
  expiresAtMs : Int := 0
  resolvedAtMs : Int := 0
  resolver : String := ""
  decisionReason : String := ""
  deriving DecidableEq

inductive CompactionState where
  | pending
  | committed
  | failed
  deriving DecidableEq

structure CompactionRow where
  id : String
  sessionId : String
  runId : String
  generation : Int
  sourceStartOrdinal : Int
  sourceEndOrdinal : Int
  retainedTailOrdinal : Int
  summaryJson : String
  tokenEstimate : Int
  model : String
  state : CompactionState
  errorMessage : String := ""
  createdAtMs : Int
  completedAtMs : Int := 0
  deriving DecidableEq

structure ChildLinkRow where
  parentRunId : String
  childRunId : String
  ordinal : Int
  relation : String := "subagent"
  state : String := "pending"
  createdAtMs : Int
  deriving DecidableEq

def maxTextLength : Nat := 1048576

def sessionsSchema : Schema SessionRow where
  conflict a b := a.id == b.id ||
    (a.profile == b.profile && a.platform == b.platform && a.accountId == b.accountId &&
      a.chatId == b.chatId && a.threadId == b.threadId)
  check row := decide (row.metadata.render.length ≤ maxTextLength)
  symm a b := by grind

def messagesSchema : Schema MessageRow where
  conflict a b := a.id == b.id || (a.sessionId == b.sessionId && a.ordinal == b.ordinal)
  check row := ["system", "user", "assistant", "tool"].contains row.role &&
    decide (row.content.text.length ≤ maxTextLength) && decide (row.metadata.text.length ≤ maxTextLength)
  symm a b := by grind

def runsSchema : Schema RunRow where
  conflict a b := a.id == b.id
  check row := decide (row.input.render.length ≤ maxTextLength)
  symm a b := by grind

def runEventsSchema : Schema EventRow where
  conflict a b := a.eventId == b.eventId || (a.runId == b.runId && a.seq == b.seq)
  check row := decide (row.payload.render.length ≤ maxTextLength)
  symm a b := by grind

def runRetentionSchema : Schema RetentionRow where
  conflict a b := a.runId == b.runId
  check _ := true
  symm a b := by grind

def recoveryRecordsSchema : Schema RecoveryRow where
  conflict a b := a.id == b.id || (a.runId == b.runId && a.reason == b.reason)
  check _ := true
  symm a b := by grind

def idempotencyRecordsSchema : Schema IdempotencyRow where
  conflict a b := a.scope == b.scope && a.key == b.key
  check row := decide (row.response.render.length ≤ maxTextLength)
  symm a b := by grind

def idempotencyClaimsSchema : Schema IdempotencyClaimRow where
  conflict a b := a.scope == b.scope && a.key == b.key
  check _ := true
  symm a b := by grind

def approvalsSchema : Schema ApprovalRow where
  conflict a b := a.id == b.id || (a.runId == b.runId && a.toolCallId == b.toolCallId)
  check row := decide (row.argumentsJson.length ≤ maxTextLength) && decide (row.oneTime = 0 ∨ row.oneTime = 1)
  symm a b := by grind

def compactionsSchema : Schema CompactionRow where
  conflict a b := a.id == b.id || (a.sessionId == b.sessionId && a.generation == b.generation)
  check row := decide (row.summaryJson.length ≤ maxTextLength)
  symm a b := by grind

def childRunLinksSchema : Schema ChildLinkRow where
  conflict a b := a.parentRunId == b.parentRunId && (a.childRunId == b.childRunId || a.ordinal == b.ordinal)
  check _ := true
  symm a b := by grind

@[ext] structure Database where
  sessions : Table sessionsSchema
  messages : Table messagesSchema
  runs : Table runsSchema
  runEvents : Table runEventsSchema
  runRetention : Table runRetentionSchema
  recoveryRecords : Table recoveryRecordsSchema
  idempotencyRecords : Table idempotencyRecordsSchema
  idempotencyClaims : Table idempotencyClaimsSchema
  approvals : Table approvalsSchema
  compactions : Table compactionsSchema
  childRunLinks : Table childRunLinksSchema

def Database.empty : Database where
  sessions := .empty
  messages := .empty
  runs := .empty
  runEvents := .empty
  runRetention := .empty
  recoveryRecords := .empty
  idempotencyRecords := .empty
  idempotencyClaims := .empty
  approvals := .empty
  compactions := .empty
  childRunLinks := .empty

/-- What the gateway takes from outside: the length of a script string and the host's parameter limits. -/
structure Host where
  textLength : String → Nat
  acceptsParameters : List String → Bool

def maxParameterBytes : Nat := 1048576

def Host.reference : Host where
  textLength text := text.utf8ByteSize
  acceptsParameters texts := texts.all (fun text => decide (text.utf8ByteSize ≤ maxParameterBytes))

/-- `CASE WHEN ? <= 0 THEN 128 WHEN ? > 256 THEN 256 ELSE ? END` -/
def maxEventsLimit (requested : Int) : Nat :=
  if requested ≤ 0 then 128 else if 256 < requested then 256 else requested.toNat

theorem maxEventsLimit_pos (requested : Int) : 0 < maxEventsLimit requested := by
  unfold maxEventsLimit
  split_ifs <;> omega

inductive CompactionRefusal where
  | unknownReference
  | idConflict
  | alreadyCommitted
  | pendingConflict
  | failedConflict
  | startRejected
  deriving DecidableEq

namespace CompactionRefusal

def code : CompactionRefusal → String
  | unknownReference => "run_not_found"
  | idConflict => "compaction_id_conflict"
  | alreadyCommitted => "compaction_already_committed"
  | pendingConflict => "compaction_pending_conflict"
  | failedConflict => "compaction_failed_conflict"
  | startRejected => "compaction_start_rejected"

end CompactionRefusal

inductive StorageError where
  | payloadTooLarge (message : String)
  | runNotFound (message : String)
  | sessionNotFound (message : String)
  | parentNotFound
  | workspaceConflict
  | idempotencyKeyConflict
  | idempotencyConflict
  | admissionReplayCorrupt
  | transitionConflict (message : String)
  | failpointAfterCommit
  | assertionFailed
  | constraintFailed
  | parameterRejected
  | unavailable
  | compaction (refusal : CompactionRefusal)
  deriving DecidableEq

def StorageError.code : StorageError → String
  | payloadTooLarge _ => "payload_too_large"
  | runNotFound _ => "run_not_found"
  | sessionNotFound _ => "session_not_found"
  | parentNotFound => "parent_not_found"
  | workspaceConflict => "workspace_conflict"
  | idempotencyKeyConflict => "idempotency_key_conflict"
  | idempotencyConflict => "idempotency_conflict"
  | admissionReplayCorrupt => "admission_replay_corrupt"
  | transitionConflict _ => "transition_conflict"
  | failpointAfterCommit => "failpoint_after_commit_before_publish"
  | assertionFailed => "assertion_failed"
  | constraintFailed => "sqlite_constraint"
  | parameterRejected => "sqlite_parameter"
  | unavailable => "storage_unavailable"
  | compaction refusal => refusal.code

end RustScriptAgent.Storage
