import RustScriptAgent.Gateway.Load
import RustScriptAgent.Gateway.System
import RustScriptAgent.Storage.Admission
import RustScriptAgent.Storage.RestartRecovery

namespace RustScriptAgent.Gateway

open Storage LlmContentBlock

structure WorkspaceBinding where
  selector : String
  canonicalPath : String
  selectedName : Option String
  generation : Nat
  deriving DecidableEq

def WorkspaceBinding.toValue (binding : WorkspaceBinding) : Json :=
  .obj [("canonical_path", .str binding.canonicalPath), ("generation", .int binding.generation),
    ("selected_name", (binding.selectedName.map Json.str).getD .null), ("selector", .str binding.selector)]

def workspaceIdentityJson (binding : Option WorkspaceBinding) (legacyRoot selector : Option String) : Option Json :=
  if binding.isNone ∧ legacyRoot.isNone ∧ selector.isNone then none
  else some (.obj
    (present "canonical_path" (fun held => .str (WorkspaceBinding.canonicalPath held)) binding ++
      present "generation" (fun held => .int (WorkspaceBinding.generation held)) binding ++
      present "legacy_root" Json.str legacyRoot ++
      [("request_selector", .str (selector.getD "")), ("request_selector_present", .bool selector.isSome)] ++
      present "selected_name" (fun held => ((WorkspaceBinding.selectedName held).map Json.str).getD .null) binding ++
      present "selector" (fun held => .str (WorkspaceBinding.selector held)) binding))

structure IdempotencyRecord where
  requestHash : String
  runId : String
  workspaceIdentity : Option Json
  deriving DecidableEq

def replayIdentityMatches (stored : IdempotencyRecord) (requestHash : String) (selector : Option String) : Bool :=
  stored.requestHash == requestHash &&
    match stored.workspaceIdentity with
    | none => selector.isNone
    | some (.obj fields) =>
      let identity := Json.obj fields
      match (identity.get? "request_selector_present").bind Json.asBool?, identity.getStr? "request_selector" with
      | some held, some text =>
        held == selector.isSome && text == selector.getD "" &&
          ((identity.getStr? "selector").isSome && (identity.getStr? "canonical_path").isSome &&
            (identity.getInt? "generation").isSome || (identity.getStr? "legacy_root").isSome)
      | _, _ => false
    | some _ => false

inductive AdmitError where
  | runLimitReached
  | idempotencyConflict
  | parentNotFound
  | sessionNotFound
  | sessionMaintenanceBusy
  | persistence (detail : String)
  | invalid (detail : String)
  | halting
  deriving DecidableEq

structure AdmittedRun where
  runId : String
  sessionId : String
  status : String
  replayed : Bool
  deriving DecidableEq

def admissionSessionProfile : String := "gateway"

def admissionIdempotencyScope : String := "api:chat"

structure AdmissionDraft where
  sessionId : String
  sessionNew : Bool
  platform : String
  model : String
  provider : String
  systemPrompt : String
  parentRunId : Option String
  idempotency : Option (String × String)
  binding : Option WorkspaceBinding
  legacyRoot : Option String
  selector : Option String
  input : Json
  context : Json
  scriptHash : String
  runId : String
  messageId : String
  eventId : String
  now : Int
  base : List String

namespace AdmissionDraft

variable (draft : AdmissionDraft)

def key : String := (draft.idempotency.map Prod.fst).getD ""

def requestHash : String := (draft.idempotency.map Prod.snd).getD ""

def workspaceIdentity : Option Json := workspaceIdentityJson draft.binding draft.legacyRoot draft.selector

def sessionMetadata : Json :=
  match draft.binding with
  | some binding => .obj [("workspace", binding.toValue)]
  | none => .obj []

def payload : AdmissionCreateInput where
  sessionId := draft.sessionId
  sessionNew := draft.sessionNew
  profile := admissionSessionProfile
  platform := draft.platform
  accountId := draft.sessionId
  model := draft.model
  provider := draft.provider
  systemPrompt := draft.systemPrompt
  sessionMetadata := draft.sessionMetadata
  runId := draft.runId
  parentRunId := draft.parentRunId.getD ""
  input := draft.context
  messageId := draft.messageId
  messageRunId := draft.runId
  scriptHash := draft.scriptHash
  idempotencyScope := admissionIdempotencyScope
  idempotencyKey := draft.key
  requestHash := draft.requestHash
  workspaceIdentity := draft.workspaceIdentity
  eventId := draft.eventId
  nowMs := draft.now
  expiresAtMs := 0

def runBytes : Nat := columnBytes runColumns + cellBytes draft.payload.runRow.cells

def idempotencyLookupBytes : Nat :=
  columnBytes idempotencyLookupColumns + (draft.requestHash.utf8ByteSize +
    (draft.workspaceIdentity.map fun identity => identity.render.utf8ByteSize).getD 0) +
    draft.runId.utf8ByteSize + 8

end AdmissionDraft

structure AdmissionPlan extends AdmissionDraft where
  named : ∀ pair, idempotency = some pair → pair.1 ≠ ""
  bound : selector.isSome = true → binding.isSome = true
  runFits : toAdmissionDraft.runBytes ≤ runResultBytes
  keyFits : idempotency.isSome = true →
    toAdmissionDraft.idempotencyLookupBytes ≤ Storage.idempotencyLookupBytes

def AdmissionDraft.contextMessage (draft : AdmissionDraft) : SessionMessage where
  id := draft.messageId
  sessionId := draft.sessionId
  role := "user"
  content := decodeMessageContent draft.input
  createdAt := draft.now
  runId := some draft.runId

def AdmissionDraft.startedEvent (draft : AdmissionDraft) : GatewayEvent where
  eventId := draft.eventId
  seq := 1
  event := .runStarted
  runId := draft.runId
  timestamp := draft.now
  data := draft.payload.startedPayload

def AdmissionDraft.runRecord (draft : AdmissionDraft) : RunRecord where
  runId := draft.runId
  sessionId := draft.sessionId
  status := .started
  events := [draft.startedEvent]
  sender := true

structure AdmissionFlight where
  plan : AdmissionPlan
  reply : Option (Except StorageError AdmissionReply)

structure GatewayState where
  system : System
  idempotency : String → Option IdempotencyRecord
  admission : Option AdmissionFlight

structure AdmissionView where
  halting : Bool
  cancelled : Bool
  maintenance : Bool
  revoked : Bool
  drifted : Bool
  compares : Bool
  cancelledLate : Bool

def comparisonFailed : AdmitError := .invalid "workspace replay comparison failed"

def cancelledBeforeCommit : AdmitError := .invalid "admission cancelled before commit"

namespace GatewayState

variable (gateway : GatewayState)

def storedRun (runId : String) : AdmittedRun :=
  match gateway.system.store.runs runId with
  | some run => ⟨runId, run.sessionId, run.status.text, true⟩
  | none => ⟨runId, "", "unknown", true⟩

def finishDurableReplay (row : RunRow) : AdmittedRun :=
  match gateway.system.store.runs row.id with
  | some run => ⟨row.id, run.sessionId, run.status.text, true⟩
  | none => ⟨row.id, row.sessionId, row.status.text, true⟩

def compareRecord (record : IdempotencyRecord) (requestHash : String) (selector : Option String)
    (compares : Bool) : Except AdmitError AdmittedRun :=
  if compares = false then .error comparisonFailed
  else if replayIdentityMatches record requestHash selector then .ok (gateway.storedRun record.runId)
  else .error .idempotencyConflict

def replayDurableAdmission (key requestHash : String) (selector : Option String) (answered : Bool) :
    Except AdmitError (Option AdmittedRun) :=
  if answered = false then .error (.persistence "durable admission replay failed: storage_unavailable")
  else
    match storageAdmissionReplay gateway.system.db ⟨admissionIdempotencyScope, key, requestHash, selector⟩ with
    | .ok none => .ok none
    | .ok (some row) => .ok (some (gateway.finishDurableReplay row))
    | .error .idempotencyKeyConflict => .error .idempotencyConflict
    | .error error => .error (.persistence ("durable admission replay failed: " ++ error.code))

def replayExistingAdmission (idempotency : Option (String × String)) (selector : Option String)
    (compares answered : Bool) : Except AdmitError (Option AdmittedRun) :=
  match idempotency with
  | none => .ok none
  | some (key, requestHash) =>
    match gateway.idempotency key with
    | some record => (gateway.compareRecord record requestHash selector compares).map some
    | none => gateway.replayDurableAdmission key requestHash selector answered

inductive Review where
  | answered (answer : Except AdmitError AdmittedRun)
  | again
  | ready

def drifts (plan : AdmissionPlan) : Bool :=
  !plan.sessionNew &&
    ((gateway.system.store.sessions plan.sessionId).any fun session =>
      session.messages.map SessionMessage.id != plan.base)

def knownKey (plan : AdmissionPlan) : Option IdempotencyRecord :=
  plan.idempotency.bind fun pair => gateway.idempotency pair.1

def review (plan : AdmissionPlan) (view : AdmissionView) : Review :=
  let known := (gateway.system.store.sessions plan.sessionId).isSome
  if view.halting then .answered (.error .halting)
  else if view.cancelled then .answered (.error cancelledBeforeCommit)
  else if plan.sessionNew && known then .again
  else if !plan.sessionNew && !known then .answered (.error .sessionNotFound)
  else if plan.parentRunId.any (fun parent => (gateway.system.store.runs parent).isNone) then
    .answered (.error .parentNotFound)
  else if view.maintenance then .answered (.error .sessionMaintenanceBusy)
  else if view.revoked then
    .answered (.error (.invalid "workspace authority was revoked before admission commit"))
  else if view.drifted || gateway.drifts plan then .again
  else
    match gateway.knownKey plan with
    | some record => .answered (gateway.compareRecord record plan.requestHash plan.selector view.compares)
    | none =>
      if (gateway.system.store.runs plan.runId).isSome then .answered (.ok (gateway.storedRun plan.runId))
      else if view.cancelledLate then .answered (.error cancelledBeforeCommit)
      else .ready

def insertAdmitted (plan : AdmissionPlan) : GatewayState :=
  let opened (id : String) : Option SessionRecord :=
    if plan.sessionNew ∧ id = plan.sessionId then some { messages := [] } else gateway.system.store.sessions id
  { gateway with
    system := { gateway.system with
      store := {
        sessions := fun id =>
          if id = plan.sessionId then
            (opened id).map fun session => { session with messages := session.messages ++ [plan.contextMessage] }
          else opened id
        runs := fun id => if id = plan.runId then some plan.runRecord else gateway.system.store.runs id
        keyed := fun id run found => by
          split_ifs at found with same
          · cases found
            exact same.symm
          · exact gateway.system.store.keyed id run found } }
    idempotency := fun key =>
      match plan.idempotency with
      | some (own, requestHash) =>
        if key = own then some ⟨requestHash, plan.runId, plan.workspaceIdentity⟩ else gateway.idempotency key
      | none => gateway.idempotency key }

def publish (plan : AdmissionPlan) (reply : AdmissionReply) (compares : Bool) :
    GatewayState × Except AdmitError AdmittedRun :=
  if reply.replayed then (gateway, .ok (gateway.finishDurableReplay reply.run))
  else if (gateway.system.store.runs plan.runId).isSome then (gateway, .ok (gateway.storedRun plan.runId))
  else
    match gateway.knownKey plan with
    | some record => (gateway, gateway.compareRecord record plan.requestHash plan.selector compares)
    | none =>
      if !plan.sessionNew && (gateway.system.store.sessions plan.sessionId).isNone then
        (gateway, .error .sessionNotFound)
      else if plan.parentRunId.any (fun parent => (gateway.system.store.runs parent).isNone) then
        (gateway, .error .parentNotFound)
      else (gateway.insertAdmitted plan, .ok ⟨plan.runId, plan.sessionId, MemoryStatus.started.text, false⟩)

end GatewayState

def GatewayStore.removeRuns (store : GatewayStore) (sessionId : String) : GatewayStore where
  sessions := store.sessions
  runs id := (store.runs id).filter fun run => run.sessionId != sessionId
  keyed id run found := store.keyed id run (Option.eq_some_of_filter_eq_some found)

def GatewayStore.setSession (store : GatewayStore) (sessionId : String) (session : Option SessionRecord) :
    GatewayStore :=
  { store with sessions := fun id => if id = sessionId then session else store.sessions id }

namespace GatewayState

def withStore (gateway : GatewayState) (db : Database) (store : GatewayStore) : GatewayState :=
  { gateway with system := { gateway.system with db, store } }

-- Under the store lock alone, so that it can come between the parts of an admission.
def deleteSession (service : Service) (gateway : GatewayState) (sessionId : String)
    (outcome : StorageOutcome) : GatewayState :=
  let store := gateway.system.store
  if (store.sessions sessionId).isNone then gateway
  else
    match deliverAnswer gateway.system.db (storageSessionDelete service.host gateway.system.db sessionId) outcome with
    | (next, .ok ()) => gateway.withStore next ((store.removeRuns sessionId).setSession sessionId none)
    | (next, .error _) => gateway.withStore next store

/-- Telegram's `/new`: delete, then create under the same identifier; nothing is undone on the way. -/
def renewSession (service : Service) (gateway : GatewayState) (input : SessionCreateInput)
    (deleted created : StorageOutcome) : GatewayState :=
  let store := gateway.system.store
  let create (db : Database) (store : GatewayStore) : GatewayState :=
    match deliverAnswer db (storageSessionCreate service.host db input) created with
    | (next, .ok ()) => gateway.withStore next (store.setSession input.id (some { messages := [] }))
    | (next, .error _) => gateway.withStore next store
  if (store.sessions input.id).isNone then create gateway.system.db store
  else
    let cleared := store.removeRuns input.id
    match deliverAnswer gateway.system.db
        (storageSessionDelete service.host gateway.system.db input.id) deleted with
    | (next, .ok ()) => create next (cleared.setSession input.id none)
    | (next, .error _) => gateway.withStore next cleared

end GatewayState

inductive Startup where
  | recover (now maxEvents : Int)
  | reconcile (now : Int)

def Startup.apply (db : Database) : Startup → Database
  | recover now maxEvents => (storageRunRecoverActive db (restartInput now maxEvents)).1
  | reconcile now => (storageEffectReconcile db now recoveryBatchRows).1

def loadRecord (row : IdempotencyRow) : IdempotencyRecord where
  requestHash := row.requestHash
  runId := row.resourceId
  workspaceIdentity := row.response.get? "workspace_identity"

def completedKeys (db : Database) : List IdempotencyRow :=
  db.idempotencyRecords.rows.filter fun row => decide (row.state = .completed)

def loadIdempotency (db : Database) : Except String (String → Option IdempotencyRecord) :=
  match (completedKeys db).find? fun row =>
      decide (1 < (completedKeys db).countP fun other => other.key == row.key) with
  | some row => .error ("duplicate idempotency row: " ++ row.key)
  | none => .ok fun key => ((completedKeys db).find? fun row => row.key == key).map loadRecord

def GatewayState.load (service : Service) (gateway : GatewayState) (db : Database) : Except String GatewayState := do
  let store ← GatewayStore.restart service db
  let idempotency ← loadIdempotency db
  return {
    system := { gateway.system with
      db, store, pending := fun _ => none, handedBack := [], flight := none }
    idempotency
    admission := none }

inductive Act where
  | step (label : Label)
  | review (plan : AdmissionPlan) (view : AdmissionView)
  | admitRun (outcome : StorageOutcome)
  | publish (compares : Bool)
  | delete (sessionId : String) (outcome : StorageOutcome)
  | renew (input : SessionCreateInput) (deleted created : StorageOutcome)
  /-- a crash at any point, and the starts after it up to the one that loads -/
  | restart (work : List Startup)

def Label.takesGate : Label → Bool
  | .begin _ _ | .retry _ _ _ => true
  | _ => false

namespace GatewayState

def next (service : Service) (encode : Json → JsonText) (gateway : GatewayState) : Act → Option GatewayState
  | .step label =>
    if label.takesGate ∧ gateway.admission.isSome then none
    else (gateway.system.next service label).map fun system => { gateway with system }
  | .review plan view =>
    if gateway.system.flight.isSome ∨ gateway.admission.isSome then none
    else
      match gateway.review plan view with
      | .ready => some { gateway with admission := some ⟨plan, none⟩ }
      | _ => some gateway
  | .admitRun outcome =>
    match gateway.admission with
    | some ⟨plan, none⟩ =>
      let result := deliverAnswer gateway.system.db
        (storageAdmissionCreate service.host encode gateway.system.db plan.payload) outcome
      some { gateway with
        system := { gateway.system with db := result.1 }
        admission := some ⟨plan, some result.2⟩ }
    | _ => none
  | .publish compares =>
    match gateway.admission with
    | some ⟨plan, some (.ok reply)⟩ =>
      some { (gateway.publish plan reply compares).1 with admission := none }
    | some ⟨_, some (.error _)⟩ => some { gateway with admission := none }
    | _ => none
  | .delete sessionId outcome => some (gateway.deleteSession service sessionId outcome)
  | .renew input deleted created => some (gateway.renewSession service input deleted created)
  | .restart work => (gateway.load service (work.foldl Startup.apply gateway.system.db)).toOption

def initial : GatewayState where
  system :=
    { db := Database.empty
      store := { sessions := fun _ => none, runs := fun _ => none, keyed := fun _ _ found => by cases found }
      pending := fun _ => none
      handedBack := []
      flight := none
      published := []
      acknowledged := []
      acknowledgedMessages := [] }
  idempotency _ := none
  admission := none

end GatewayState

end RustScriptAgent.Gateway
