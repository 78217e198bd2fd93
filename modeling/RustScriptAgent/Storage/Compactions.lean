import RustScriptAgent.Storage.Runs

namespace RustScriptAgent.Storage

open Relational Sequences

structure CompactionStartInput where
  id : String
  sessionId : String
  runId : String
  generation : Int
  sourceStartOrdinal : Int
  sourceEndOrdinal : Int
  retainedTailOrdinal : Int
  summaryJson : String
  tokenEstimate : Int
  model : String
  nowMs : Int

structure MessageCompactInput where
  sessionId : String
  startOrdinal : Int
  endOrdinal : Int

structure CompactionCommitInput where
  id : String
  sessionId : String
  startOrdinal : Int
  endOrdinal : Int
  generation : Int
  completedAtMs : Int

structure CompactionFailInput where
  id : String
  errorMessage : String
  completedAtMs : Int

def CompactionStartInput.decode? (payload : Json) : Option CompactionStartInput := do
  return {
    id := ← payload.getStr? "id"
    sessionId := ← payload.getStr? "session_id"
    runId := ← payload.getStr? "run_id"
    generation := ← payload.getInt? "generation"
    sourceStartOrdinal := ← payload.getInt? "source_start_ordinal"
    sourceEndOrdinal := ← payload.getInt? "source_end_ordinal"
    retainedTailOrdinal := ← payload.getInt? "retained_tail_ordinal"
    summaryJson := ← payload.getStr? "summary_json"
    tokenEstimate := ← payload.getInt? "token_estimate"
    model := ← payload.getStr? "model"
    nowMs := ← payload.getInt? "now_ms" }

def MessageCompactInput.decode? (payload : Json) : Option MessageCompactInput := do
  return {
    sessionId := ← payload.getStr? "session_id"
    startOrdinal := ← payload.getInt? "start_ordinal"
    endOrdinal := ← payload.getInt? "end_ordinal" }

def CompactionCommitInput.decode? (payload : Json) : Option CompactionCommitInput := do
  return {
    id := ← payload.getStr? "id"
    sessionId := ← payload.getStr? "session_id"
    startOrdinal := ← payload.getInt? "start_ordinal"
    endOrdinal := ← payload.getInt? "end_ordinal"
    generation := ← payload.getInt? "generation"
    completedAtMs := ← payload.getInt? "completed_at_ms" }

def CompactionFailInput.decode? (payload : Json) : Option CompactionFailInput := do
  return {
    id := ← payload.getStr? "id"
    errorMessage := ← payload.getStr? "error_message"
    completedAtMs := ← payload.getInt? "completed_at_ms" }

def CompactionStartInput.row (input : CompactionStartInput) : CompactionRow where
  id := input.id
  sessionId := input.sessionId
  runId := input.runId
  generation := input.generation
  sourceStartOrdinal := input.sourceStartOrdinal
  sourceEndOrdinal := input.sourceEndOrdinal
  retainedTailOrdinal := input.retainedTailOrdinal
  summaryJson := input.summaryJson
  tokenEstimate := input.tokenEstimate
  model := input.model
  state := .pending
  createdAtMs := input.nowMs

def compactionColumns : List String :=
  ["id", "session_id", "run_id", "generation", "source_start_ordinal", "source_end_ordinal",
    "retained_tail_ordinal", "summary_json", "token_estimate", "model", "state", "error_message",
    "created_at_ms", "completed_at_ms"]

def CompactionState.text : CompactionState → String
  | pending => "pending"
  | committed => "committed"
  | failed => "failed"

def CompactionRow.cells (row : CompactionRow) : List Cell :=
  [.text row.id, .text row.sessionId, .text row.runId, .int, .int, .int, .int, .text row.summaryJson, .int,
    .text row.model, .text row.state.text, .text row.errorMessage, .int, .int]

def selectCompactions (rows : List CompactionRow) : List CompactionRow :=
  boundedRows terminalResultRows terminalResultBytes compactionColumns CompactionRow.cells rows

def Database.hasOrdinal (db : Database) (session : String) (ordinal : Int) : Bool :=
  db.messages.rows.any (fun row => row.sessionId == session && decide (row.ordinal = ordinal))

def CompactionStartInput.admissible (input : CompactionStartInput) (db : Database) : Bool :=
  db.sessions.rows.any (fun row => row.id == input.sessionId && decide (row.generation + 1 = input.generation)) &&
    db.runs.rows.any (fun row => row.id == input.runId && row.sessionId == input.sessionId &&
      decide (row.status = .compacting)) &&
    decide (0 ≤ input.sourceStartOrdinal ∧ input.sourceStartOrdinal ≤ input.sourceEndOrdinal ∧
      input.sourceStartOrdinal ≤ input.retainedTailOrdinal ∧
      input.retainedTailOrdinal ≤ input.sourceEndOrdinal) &&
    db.hasOrdinal input.sessionId input.sourceStartOrdinal &&
    db.hasOrdinal input.sessionId input.sourceEndOrdinal &&
    !db.compactions.rows.any (fun row => row.id == input.id && row.sessionId != input.sessionId)

/-- `ON CONFLICT (session_id, generation) DO UPDATE`; the identifier that it writes is the one it requires -/
def CompactionStartInput.resume (input : CompactionStartInput)
    (fits : input.summaryJson.length ≤ maxTextLength) : compactionsSchema.Assignment where
  apply row :=
    { row with
      runId := input.runId
      sourceStartOrdinal := input.sourceStartOrdinal
      sourceEndOrdinal := input.sourceEndOrdinal
      retainedTailOrdinal := input.retainedTailOrdinal
      summaryJson := input.summaryJson
      tokenEstimate := input.tokenEstimate
      model := input.model
      state := .pending
      errorMessage := ""
      createdAtMs := input.nowMs
      completedAtMs := 0 }
  left _ _ := rfl
  right _ _ := rfl
  check _ _ := decide_eq_true fits

def CompactionStartInput.upsert (input : CompactionStartInput) (db : Database) :
    Except StorageError (Table compactionsSchema) :=
  if fits : input.summaryJson.length ≤ maxTextLength then
    if db.compactions.rows.any (fun row =>
        row.sessionId == input.sessionId && decide (row.generation = input.generation)) then
      .ok (db.compactions.update (fun row => row.sessionId == input.sessionId &&
        decide (row.generation = input.generation) && decide (row.state = .failed) && row.id == input.id)
        (input.resume fits))
    else
      match db.compactions.insert? input.row with
      | some table => .ok table
      | none => .error .constraintFailed
  else .error .constraintFailed

def compactionStartInsert (host : Host) (db : Database) (input : CompactionStartInput) :
    Database × Except StorageError (List CompactionRow) :=
  if host.acceptsParameters [input.id, input.sessionId, input.runId, input.summaryJson, input.model] = false then
    (db, .error .parameterRejected)
  else
    match if input.admissible db then input.upsert db else .ok db.compactions with
    | .error error => (db, .error error)
    | .ok table =>
      let next := { db with compactions := table }
      match selectCompactions (table.rows.filter fun row =>
          row.id == input.id && row.sessionId == input.sessionId) with
      | [] => (next, .error (.compaction .startRejected))
      | rows => (next, .ok rows)

def CompactionStartInput.matchesRow (input : CompactionStartInput) (row : CompactionRow) : Bool :=
  row.id == input.id && row.runId == input.runId && decide (row.generation = input.generation) &&
    decide (row.sourceStartOrdinal = input.sourceStartOrdinal) &&
    decide (row.sourceEndOrdinal = input.sourceEndOrdinal) &&
    decide (row.retainedTailOrdinal = input.retainedTailOrdinal) && row.summaryJson == input.summaryJson &&
    decide (row.tokenEstimate = input.tokenEstimate) && row.model == input.model

def storageCompactionStart (host : Host) (db : Database) (payload : Json) :
    Database × Except StorageError (List CompactionRow) :=
  match CompactionStartInput.decode? payload with
  | none => (db, .error .unavailable)
  | some input =>
    if db.hasSession input.sessionId = false ∨ db.hasRun input.runId = false then
      (db, .error (.compaction .unknownReference))
    else if db.compactions.rows.any (fun row => row.id == input.id &&
        (row.sessionId != input.sessionId || decide (row.generation ≠ input.generation))) then
      (db, .error (.compaction .idConflict))
    else
      match selectCompactions (db.compactions.rows.filter fun row =>
          row.sessionId == input.sessionId && decide (row.generation = input.generation)) with
      | [] => compactionStartInsert host db input
      | row :: _ =>
        match row.state with
        | .committed => (db, .error (.compaction .alreadyCommitted))
        | .pending =>
          if input.matchesRow row then (db, .ok [row]) else (db, .error (.compaction .pendingConflict))
        | .failed =>
          if row.id = input.id then compactionStartInsert host db input
          else (db, .error (.compaction .failedConflict))

def markCompacted : messagesSchema.Assignment where
  apply row := { row with compacted := true }
  left _ _ := rfl
  right _ _ := rfl
  check _ accepted := accepted

def storageMessageMarkCompacted (host : Host) (db : Database) (payload : Json) :
    Database × Except StorageError Unit :=
  match MessageCompactInput.decode? payload with
  | none => (db, .error .unavailable)
  | some input =>
    if host.acceptsParameters [input.sessionId, input.sessionId] = false then (db, .error .parameterRejected)
    else if db.compactions.rows.any (fun row => row.sessionId == input.sessionId &&
        decide (row.sourceStartOrdinal = input.startOrdinal) &&
        decide (row.sourceEndOrdinal = input.endOrdinal) && decide (row.state = .committed)) then
      ({ db with
          messages := db.messages.update (fun row => row.sessionId == input.sessionId &&
            decide (input.startOrdinal ≤ row.ordinal ∧ row.ordinal ≤ input.endOrdinal)) markCompacted }, .ok ())
    else (db, .ok ())

namespace CompactionCommitInput

def setCommitted (input : CompactionCommitInput) : compactionsSchema.Assignment where
  apply row := { row with state := .committed, completedAtMs := input.completedAtMs }
  left _ _ := rfl
  right _ _ := rfl
  check _ accepted := accepted

def names (input : CompactionCommitInput) (row : CompactionRow) : Bool :=
  row.id == input.id && row.sessionId == input.sessionId && decide (row.generation = input.generation)

def commits (input : CompactionCommitInput) (db : Database) (row : CompactionRow) : Bool :=
  input.names row && decide (row.state = .pending) && decide (row.sourceStartOrdinal = input.startOrdinal) &&
    decide (row.sourceEndOrdinal = input.endOrdinal) &&
    decide (0 ≤ input.startOrdinal ∧ input.startOrdinal ≤ input.endOrdinal) &&
    db.hasOrdinal row.sessionId input.startOrdinal && db.hasOrdinal row.sessionId input.endOrdinal &&
    db.runs.rows.any (fun run => run.id == row.runId && run.sessionId == input.sessionId &&
      decide (run.status = .compacting)) &&
    db.sessions.rows.any (fun session => session.id == input.sessionId &&
      decide (session.generation = input.generation - 1))

def advance (input : CompactionCommitInput) : sessionsSchema.Assignment where
  apply row :=
    { row with
      generation := max row.generation input.generation
      updatedAtMs := input.completedAtMs }
  left _ _ := rfl
  right _ _ := rfl
  check _ accepted := accepted

end CompactionCommitInput

/-- The second statement sees `changes() = 1` of the first; the third looks the committed row up again. -/
def storageCompactionCommit (host : Host) (db : Database) (payload : Json) : Database × Except StorageError Unit :=
  match CompactionCommitInput.decode? payload with
  | none => (db, .error .unavailable)
  | some input =>
    if host.acceptsParameters [input.id, input.sessionId] = false then (db, .error .parameterRejected)
    else
      let committed := db.compactions.update (input.commits db) input.setCommitted
      let covers (row : CompactionRow) : Bool := input.names row && decide (row.state = .committed)
      let messages :=
        if db.compactions.rows.countP (input.commits db) = 1 ∧
            committed.rows.any (fun row => covers row && decide (row.sourceStartOrdinal = input.startOrdinal) &&
              decide (row.sourceEndOrdinal = input.endOrdinal)) = true then
          db.messages.update (fun row => row.sessionId == input.sessionId &&
            decide (input.startOrdinal ≤ row.ordinal ∧ row.ordinal ≤ input.endOrdinal)) markCompacted
        else db.messages
      let sessions :=
        if committed.rows.any covers then
          db.sessions.update (fun row => row.id == input.sessionId &&
            decide (row.generation < input.generation)) input.advance
        else db.sessions
      ({ db with compactions := committed, messages, sessions }, .ok ())

def CompactionFailInput.setFailed (input : CompactionFailInput) : compactionsSchema.Assignment where
  apply row :=
    { row with state := .failed, errorMessage := input.errorMessage, completedAtMs := input.completedAtMs }
  left _ _ := rfl
  right _ _ := rfl
  check _ accepted := accepted

def storageCompactionFail (host : Host) (db : Database) (payload : Json) : Database × Except StorageError Unit :=
  match CompactionFailInput.decode? payload with
  | none => (db, .error .unavailable)
  | some input =>
    if host.acceptsParameters [input.errorMessage, input.id] = false then (db, .error .parameterRejected)
    else
      ({ db with
          compactions := db.compactions.update
            (fun row => row.id == input.id && decide (row.state = .pending)) input.setFailed }, .ok ())

variable (host : Host)

variable (db : Database)

@[simp] theorem compactionStartInsert_runs (input : CompactionStartInput) :
    (compactionStartInsert host db input).1.runs = db.runs := by
  unfold compactionStartInsert
  split
  · rfl
  · split
    · rfl
    · dsimp only
      split <;> rfl

variable (payload : Json)

@[simp] theorem storageCompactionStart_runs :
    (storageCompactionStart host db payload).1.runs = db.runs := by
  unfold storageCompactionStart
  split
  · rfl
  · split
    · rfl
    · split
      · rfl
      · split
        · exact compactionStartInsert_runs host db _
        · split
          · rfl
          · split <;> rfl
          · split
            · exact compactionStartInsert_runs host db _
            · rfl

@[simp] theorem storageMessageMarkCompacted_runs :
    (storageMessageMarkCompacted host db payload).1.runs = db.runs := by
  unfold storageMessageMarkCompacted
  split
  · rfl
  · split
    · rfl
    · split <;> rfl

@[simp] theorem storageCompactionCommit_runs :
    (storageCompactionCommit host db payload).1.runs = db.runs := by
  unfold storageCompactionCommit
  split
  · rfl
  · split <;> rfl

@[simp] theorem storageCompactionFail_runs :
    (storageCompactionFail host db payload).1.runs = db.runs := by
  unfold storageCompactionFail
  split
  · rfl
  · split <;> rfl

@[simp] theorem storageCompactionFail_messages :
    (storageCompactionFail host db payload).1.messages = db.messages := by
  unfold storageCompactionFail
  split
  · rfl
  · split <;> rfl

end RustScriptAgent.Storage
