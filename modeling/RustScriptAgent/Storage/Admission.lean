import RustScriptAgent.Shared.Checks
import RustScriptAgent.Storage.Reconcile
import RustScriptAgent.Storage.Runs

namespace RustScriptAgent.Storage

open Relational Sequences

structure AdmissionCreateInput where
  sessionId : String
  sessionNew : Bool
  profile : String
  platform : String
  accountId : String
  model : String
  provider : String
  systemPrompt : String
  sessionMetadata : Json
  runId : String
  parentRunId : String
  input : Json
  messageId : String
  messageRunId : String
  scriptHash : String
  idempotencyScope : String
  idempotencyKey : String
  requestHash : String
  workspaceIdentity : Option Json
  eventId : String
  nowMs : Int
  expiresAtMs : Int

structure AdmissionReplayInput where
  idempotencyScope : String
  idempotencyKey : String
  requestHash : String
  requestSelector : Option String

structure AdmissionReply where
  replayed : Bool
  run : RunRow
  deriving DecidableEq

/-- `json_extract(metadata_json, '$.workspace.key')` -/
def workspaceField (key : String) (metadata : Json) : Option SqlValue :=
  (metadata.get? "workspace").bind (jsonExtract key)

def noMetadata : Json := .obj []

def workspaceConflicts (held given : Json) : Bool :=
  match workspaceField "selector" held with
  | none => false
  | some selector =>
    (workspaceField "selector" given).any (fun other => decide (selector ≠ other)) ||
      decide ((workspaceField "canonical_path" held).getD (.text "") ≠
        (workspaceField "canonical_path" given).getD (.text ""))

/-- `? = '{}' OR json_extract(metadata_json, ..) = json_extract(?, ..)` -/
def workspaceAgrees (held given : Json) : Bool :=
  decide (given = noMetadata) ||
    ((workspaceField "selector" held).any fun selector =>
      decide (workspaceField "selector" given = some selector))

def identityMatches (response : Json) (unnamed : Bool) (present selector : Option SqlValue) : Bool :=
  match response.get? "workspace_identity" with
  | none => unnamed
  | some (.obj fields) =>
    decide (jsonExtract "request_selector_present" (.obj fields) = present) &&
      decide (jsonExtract "request_selector" (.obj fields) = selector)
  | some _ => false

def idempotencyLookupColumns : List String := ["request_hash", "resource_id", "workspace_identity_match"]

def idempotencyLookupBytes : Nat := 8192

def IdempotencyRow.fits (row : IdempotencyRow) : Bool :=
  decide (columnBytes idempotencyLookupColumns + cellBytes [.text row.requestHash, .text row.resourceId, .int] ≤
    idempotencyLookupBytes)

def Database.idempotencyRecord (db : Database) (scope key : String) : Option IdempotencyRow :=
  (db.idempotencyRecords.rows.find? fun row => row.scope == scope && row.key == key).filter IdempotencyRow.fits

def Database.selectRun (db : Database) (run : String) : Option RunRow :=
  (db.runs.rows.find? fun row => row.id == run).filter RunRow.fits

namespace AdmissionCreateInput

variable (input : AdmissionCreateInput)

def replays (row : IdempotencyRow) : Bool :=
  row.requestHash == input.requestHash &&
    match input.workspaceIdentity with
    | none => identityMatches row.response true (some (.int 0)) (some (.text ""))
    | some identity =>
      identityMatches row.response
        (decide (jsonExtract "request_selector_present" identity = some (.int 0)))
        (jsonExtract "request_selector_present" identity) (jsonExtract "request_selector" identity)

def parentKnown (db : Database) : Bool := input.parentRunId == "" || db.hasRun input.parentRunId

def runElsewhere (db : Database) : Bool :=
  db.runs.rows.any fun row => row.id == input.runId && row.sessionId != input.sessionId

def sessionRow : SessionRow where
  id := input.sessionId
  profile := input.profile
  platform := input.platform
  accountId := input.accountId
  chatId := ""
  systemPrompt := input.systemPrompt
  model := input.model
  provider := input.provider
  metadata := input.sessionMetadata
  createdAtMs := input.nowMs
  updatedAtMs := input.nowMs

/-- `json_set(metadata_json, '$.workspace', json_extract(?, '$.workspace'))` -/
def mergedMetadata (held : Json) : Json :=
  if input.sessionMetadata = noMetadata then held
  else
    let fields := match held with
      | .obj fields => fields
      | _ => []
    let workspace := (input.sessionMetadata.get? "workspace").getD .null
    if fields.any (fun field => field.1 == "workspace") then
      .obj (fields.map fun field => if field.1 == "workspace" then ("workspace", workspace) else field)
    else .obj (fields ++ [("workspace", workspace)])

def metadataFits (row : SessionRow) : Bool :=
  decide ((input.mergedMetadata row.metadata).render.length ≤ maxTextLength)

def touch : sessionsSchema.Assignment where
  apply row :=
    { row with
      model := if input.model = "" then row.model else input.model
      provider := if input.provider = "" then row.provider else input.provider
      systemPrompt := if input.systemPrompt = "" then row.systemPrompt else input.systemPrompt
      metadata := if input.metadataFits row then input.mergedMetadata row.metadata else row.metadata
      updatedAtMs := input.nowMs }
  left _ _ := rfl
  right _ _ := rfl
  check row accepted := by
    simp only [sessionsSchema] at accepted ⊢
    split_ifs with fits
    · exact fits
    · exact accepted

def openSession (db : Database) : Except StorageError Database :=
  if input.sessionNew then
    if db.hasSession input.sessionId = false ∧ input.parentKnown db = true ∧ input.runElsewhere db = false then
      match db.sessions.insert? input.sessionRow with
      | some table => .ok { db with sessions := table }
      | none => .error .constraintFailed
    else .ok db
  else
    let chosen (row : SessionRow) : Bool :=
      row.id == input.sessionId &&
        ((workspaceField "selector" row.metadata).isNone ||
          workspaceAgrees row.metadata input.sessionMetadata) &&
        input.parentKnown db && !input.runElsewhere db
    if db.sessions.rows.any (fun row => chosen row && !input.metadataFits row) then .error .constraintFailed
    else .ok { db with sessions := db.sessions.update chosen input.touch }

def messageRow (content : JsonText) (db : Database) : MessageRow where
  id := input.messageId
  sessionId := input.sessionId
  ordinal := db.maxOrdinal input.sessionId + 1
  role := "user"
  content := content
  runId := input.messageRunId
  createdAtMs := input.nowMs

def sessionReady (db : Database) : Bool :=
  db.sessions.rows.any fun row => row.id == input.sessionId && workspaceAgrees row.metadata input.sessionMetadata

def storeMessage (content : JsonText) (db : Database) : Except StorageError Database :=
  if db.messages.rows.any (fun row => row.id == input.messageId && row.sessionId != input.sessionId) = false ∧
      input.sessionReady db = true ∧ input.parentKnown db = true ∧ input.runElsewhere db = false then
    db.insertMessage (input.messageRow content db)
  else .ok db

def runRow : RunRow where
  id := input.runId
  sessionId := input.sessionId
  parentRunId := input.parentRunId
  status := .running
  input := input.input
  provider := input.provider
  model := input.model
  scriptHash := input.scriptHash
  idempotencyScope := input.idempotencyScope
  idempotencyKey := input.idempotencyKey
  createdAtMs := input.nowMs
  startedAtMs := input.nowMs
  updatedAtMs := input.nowMs

def storeRun (db : Database) : Except StorageError Database :=
  if input.runElsewhere db = false ∧ input.parentKnown db = true ∧ input.sessionReady db = true then
    match db.runs.insert? input.runRow with
    | some table => .ok { db with runs := table }
    | none => .error .constraintFailed
  else .ok db

def admitted (db : Database) : Bool :=
  db.runs.rows.any fun row => row.id == input.runId && row.sessionId == input.sessionId

def childLinkRow (db : Database) : ChildLinkRow where
  parentRunId := input.parentRunId
  childRunId := input.runId
  ordinal :=
    match (db.childRunLinks.rows.filter fun row => row.parentRunId == input.parentRunId).map ChildLinkRow.ordinal with
    | [] => 0
    | first :: rest => rest.foldl max first + 1
  createdAtMs := input.nowMs

def linkChild (db : Database) : Except StorageError Database :=
  if input.parentRunId ≠ "" ∧ db.hasRun input.parentRunId = true ∧ input.admitted db = true then
    match db.childRunLinks.insert? (input.childLinkRow db) with
    | some table => .ok { db with childRunLinks := table }
    | none => .error .constraintFailed
  else .ok db

def response : Json :=
  .obj ([("run_id", .str input.runId), ("status", .str "running")] ++
    match input.workspaceIdentity with
    | some identity => [("workspace_identity", identity)]
    | none => [])

def idempotencyRow : IdempotencyRow where
  scope := input.idempotencyScope
  key := input.idempotencyKey
  requestHash := input.requestHash
  resourceType := "run"
  resourceId := input.runId
  state := .completed
  response := input.response
  createdAtMs := input.nowMs
  expiresAtMs := input.expiresAtMs

def recordKey (db : Database) : Database :=
  if input.idempotencyKey ≠ "" ∧ input.admitted db = true then
    { db with idempotencyRecords := db.idempotencyRecords.insertOrIgnore input.idempotencyRow }
  else db

def startedPayload : Json := .obj [("session_id", .str input.sessionId), ("status", .str "running")]

def startedRow (db : Database) : EventRow where
  runId := input.runId
  seq := db.maxSeq input.runId + 1
  eventId := input.eventId
  eventType := .runStarted
  payload := input.startedPayload
  createdAtMs := input.nowMs

def startLog (db : Database) : Except StorageError Database :=
  if db.hasRun input.runId then do
    let started ← db.insertEvent (input.startedRow db)
    return started.upsertRetention input.runId input.nowMs
  else .ok db

def parameters (content : JsonText) : List (List String) :=
  [[input.sessionId, input.profile, input.platform, input.accountId, input.systemPrompt, input.model,
      input.provider, input.sessionMetadata.render, input.parentRunId, input.runId],
    [input.messageId, input.sessionId, content.text, input.messageRunId, input.sessionMetadata.render,
      input.parentRunId, input.runId],
    [input.runId, input.sessionId, input.parentRunId, input.input.render, input.provider, input.model,
      input.scriptHash, input.idempotencyScope, input.idempotencyKey, input.sessionMetadata.render],
    [input.idempotencyScope, input.idempotencyKey, input.requestHash, input.runId,
      (input.workspaceIdentity.map Json.render).getD "", input.sessionId],
    [input.runId, input.eventId, input.sessionId]]

def transaction (host : Host) (content : JsonText) (db : Database) : Except StorageError Database := do
  requireParameters host (input.parameters content)
  let opened ← input.openSession db
  let asked ← input.storeMessage content opened
  let running ← input.storeRun asked
  let linked ← input.linkChild running
  input.startLog (input.recordKey linked)

def refusal (db : Database) : Option StorageError :=
  if input.sessionNew = false ∧ db.hasSession input.sessionId = false then
    some (.sessionNotFound "admission session does not exist")
  else if input.parentKnown db = false then some .parentNotFound
  else if input.sessionNew = false ∧ input.sessionMetadata ≠ noMetadata ∧
      db.sessions.rows.any (fun row => row.id == input.sessionId &&
        workspaceConflicts row.metadata input.sessionMetadata) = true then
    some .workspaceConflict
  else none

end AdmissionCreateInput

def storageAdmissionCreate (host : Host) (encode : Json → JsonText) (db : Database) (input : AdmissionCreateInput) :
    Database × Except StorageError AdmissionReply :=
  match input.refusal db with
  | some error => (db, .error error)
  | none =>
    match if input.idempotencyKey = "" then none
      else db.idempotencyRecord input.idempotencyScope input.idempotencyKey with
    | some record =>
      if input.replays record then
        match db.selectRun record.resourceId with
        | some run => (db, .ok { replayed := true, run })
        | none => (db, .error .idempotencyConflict)
      else (db, .error .idempotencyKeyConflict)
    | none =>
      match input.transaction host (encode input.input) db with
      | .error error => (db, .error error)
      | .ok next =>
        match next.selectRun input.runId with
        | some run => (next, .ok { replayed := false, run })
        | none => (next, .error (.sessionNotFound "admission could not create the run"))

theorem AdmissionCreateInput.transaction_stages {input : AdmissionCreateInput} {host : Host} {content : JsonText}
    {db next : Database} (ok : input.transaction host content db = .ok next) :
    ∃ opened asked running linked, input.openSession db = .ok opened ∧ input.storeMessage content opened = .ok asked ∧
      input.storeRun asked = .ok running ∧ input.linkChild running = .ok linked ∧
      input.startLog (input.recordKey linked) = .ok next := by
  unfold transaction at ok
  obtain ⟨_, _, ok⟩ := Checks.passed_bind ok
  obtain ⟨opened, session, ok⟩ := Checks.passed_bind ok
  obtain ⟨asked, message, ok⟩ := Checks.passed_bind ok
  obtain ⟨running, run, ok⟩ := Checks.passed_bind ok
  obtain ⟨linked, link, ok⟩ := Checks.passed_bind ok
  exact ⟨opened, asked, running, linked, session, message, run, link, ok⟩

theorem storageAdmissionCreate_db (host : Host) (encode : Json → JsonText) (db : Database)
    (input : AdmissionCreateInput) :
    (storageAdmissionCreate host encode db input).1 = db ∨
      input.transaction host (encode input.input) db = .ok (storageAdmissionCreate host encode db input).1 := by
  unfold storageAdmissionCreate
  split
  · exact .inl rfl
  · split
    · split_ifs
      · split <;> exact .inl rfl
      · exact .inl rfl
    · cases input.transaction host (encode input.input) db with
      | error error => exact .inl rfl
      | ok next =>
        dsimp only
        split <;> exact .inr rfl

namespace AdmissionReplayInput

def replays (input : AdmissionReplayInput) (row : IdempotencyRow) : Bool :=
  row.requestHash == input.requestHash &&
    identityMatches row.response input.requestSelector.isNone
      (some (.int (if input.requestSelector.isSome then 1 else 0)))
      (some (.text (input.requestSelector.getD "")))

end AdmissionReplayInput

def storageAdmissionReplay (db : Database) (input : AdmissionReplayInput) : Except StorageError (Option RunRow) :=
  match db.idempotencyRecord input.idempotencyScope input.idempotencyKey with
  | none => .ok none
  | some record =>
    if input.replays record then
      match db.selectRun record.resourceId with
      | some run => .ok (some run)
      | none => .error .admissionReplayCorrupt
    else .error .idempotencyKeyConflict

structure SessionCreateInput where
  id : String
  profile : String
  platform : String
  accountId : String
  chatId : String
  threadId : String
  systemPrompt : String
  model : String
  provider : String
  metadata : Json
  nowMs : Int

namespace SessionCreateInput

def row (input : SessionCreateInput) : SessionRow where
  id := input.id
  profile := input.profile
  platform := input.platform
  accountId := input.accountId
  chatId := input.chatId
  threadId := input.threadId
  systemPrompt := input.systemPrompt
  model := input.model
  provider := input.provider
  metadata := input.metadata
  createdAtMs := input.nowMs
  updatedAtMs := input.nowMs

def sameChat (input : SessionCreateInput) (row : SessionRow) : Bool :=
  row.profile == input.profile && row.platform == input.platform && row.accountId == input.accountId &&
    row.chatId == input.chatId && row.threadId == input.threadId

def touch (input : SessionCreateInput) : sessionsSchema.Assignment where
  apply row := { row with updatedAtMs := input.nowMs }
  left _ _ := rfl
  right _ _ := rfl
  check _ accepted := accepted

end SessionCreateInput

def storageSessionCreate (host : Host) (db : Database) (input : SessionCreateInput) :
    Database × Except StorageError Unit :=
  if host.acceptsParameters [input.id, input.profile, input.platform, input.accountId, input.chatId,
      input.threadId, input.systemPrompt, input.model, input.provider, input.metadata.render] = false then
    (db, .error .parameterRejected)
  else
    let taken := db.sessions.rows.any fun row => input.sameChat row && row.id != input.id
    let inserted := if taken then db.sessions else db.sessions.insertOrIgnore input.row
    ({ db with
        sessions := inserted.update (fun row => row.id == input.id && input.sameChat row) input.touch }, .ok ())

def storageSessionDelete (host : Host) (db : Database) (sessionId : String) : Database × Except StorageError Unit :=
  if host.acceptsParameters [sessionId] = false then (db, .error .parameterRejected)
  else
    let own (run : String) : Bool := db.runs.rows.any fun row => row.id == run && row.sessionId == sessionId
    let next :=
      { db with
        idempotencyRecords := db.idempotencyRecords.delete fun row => row.resourceType == "run" && own row.resourceId
        sessions := db.sessions.delete fun row => row.id == sessionId
        runRetention := db.runRetention.delete fun row => own row.runId
        runEvents := db.runEvents.delete fun row => own row.runId
        childRunLinks := db.childRunLinks.delete fun row => own row.parentRunId || own row.childRunId
        approvals := db.approvals.delete fun row => row.sessionId == sessionId || own row.runId
        compactions := db.compactions.delete fun row => row.sessionId == sessionId || own row.runId
        runs := db.runs.delete fun row => row.sessionId == sessionId
        messages := db.messages.delete fun row => row.sessionId == sessionId }
    (next, if db.hasSession sessionId then .ok () else .error (.sessionNotFound "session does not exist"))

end RustScriptAgent.Storage
