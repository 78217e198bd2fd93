import RustScriptAgent.Shared.Json

namespace RustScriptAgent.Capabilities

structure CapabilityOwner where
  profile : String
  session : String
  run : String
  deriving DecidableEq

def CapabilityOwner.withRun (owner : CapabilityOwner) (runId : String) : String :=
  owner.profile ++ "/" ++ owner.session ++ "/" ++ runId

def CapabilityOwner.key (owner : CapabilityOwner) : String := owner.withRun owner.run

inductive CapabilityRisk where
  | read
  | write
  | execute
  deriving DecidableEq

structure PrepareMetadata where
  runId : String
  callId : String
  toolName : String
  argumentDigest : String
  registryIdentity : String
  riskClass : CapabilityRisk
  summary : String
  deriving DecidableEq

structure DurableStarted where
  runId : String
  callId : String
  toolName : String
  argumentDigest : String
  registryIdentity : String
  riskClass : CapabilityRisk
  summary : String
  generation : Nat
  deriving DecidableEq

structure LifecycleLimits where
  maxToolCalls : Nat
  maxOutputBytes : Nat
  maxSummaryBytes : Nat

inductive LifecycleError where
  | ownerMismatch (expected actual : String)
  | inactiveRun
  | missingParent
  | approvalDenied (reason : String)
  | deadlineElapsed
  | cancelled
  | duplicateClose
  | tokenUnknown
  | limitExceeded
  | startedCommitFailed (message : String)
  | resultCommitFailed (message : String)
  | resultTooLarge
  | interrupted
  | registryMismatch
  | invalidMetadata (message : String)
  | unresolvedCall
  deriving DecidableEq

structure TokenClaims where
  owner : CapabilityOwner
  callId : String
  toolName : String
  argumentDigest : String
  registryIdentity : String
  riskCeiling : CapabilityRisk
  outputBudget : Nat
  generation : Nat
  deadlineMs : Nat
  deriving DecidableEq

inductive TokenState where
  | opened (claims : TokenClaims)
  | committed (callId : String)
  | interrupted (callId : String)
  deriving DecidableEq

def TokenState.callId : TokenState → String
  | opened claims => claims.callId
  | committed callId => callId
  | interrupted callId => callId

def TokenState.isOpen : TokenState → Bool
  | opened _ => true
  | _ => false

/-- A gate with its state. `clock` is what its own clock shows during the call. -/
structure ApprovalGate (State : Type) where
  authorizeAt (state : State) (metadata : PrepareMetadata) (generation nowMs clock : Nat) :
    State × Except LifecycleError CapabilityRisk
  attest (state : State) (owner : CapabilityOwner) (metadata : PrepareMetadata)
    (generation nowMs deadlineMs clock lockedClock : Nat) : State × Except LifecycleError Unit

def allowAllApproval : ApprovalGate Unit where
  authorizeAt _ metadata _ _ _ := ((), .ok metadata.riskClass)
  attest _ _ _ _ _ _ _ _ := ((), .error (.approvalDenied "approval gate does not accept review attestations"))

structure ApprovalAttestation where
  owner : CapabilityOwner
  metadata : PrepareMetadata
  generation : Nat
  expiresAtMs : Nat
  deriving DecidableEq

abbrev GuardianApprovalState := List ApprovalAttestation

namespace GuardianApprovalState

def forCall (pending : GuardianApprovalState) (callId : String) : Option ApprovalAttestation :=
  pending.find? fun fact => fact.metadata.callId == callId

def remove (pending : GuardianApprovalState) (callId : String) : GuardianApprovalState :=
  pending.filter fun fact => fact.metadata.callId != callId

def attest (maxPending : Nat) (pending : GuardianApprovalState) (owner : CapabilityOwner)
    (metadata : PrepareMetadata) (generation nowMs deadlineMs clock lockedClock : Nat) :
    GuardianApprovalState × Except LifecycleError Unit :=
  if metadata.riskClass = .read then
    (pending, .error (.approvalDenied "read-only actions do not accept write approval"))
  else if deadlineMs ≤ nowMs ∨ deadlineMs ≤ clock then (pending, .error .deadlineElapsed)
  else
    let live := pending.filter fun fact => decide (lockedClock < fact.expiresAtMs)
    if (GuardianApprovalState.forCall live metadata.callId).isSome then
      (live, .error (.approvalDenied "approval for this call is already pending"))
    else if max maxPending 1 ≤ live.length then
      (live, .error (.approvalDenied "approval review capacity is exhausted"))
    else (live ++ [⟨owner, metadata, generation, deadlineMs⟩], .ok ())

def authorizeAt (pending : GuardianApprovalState) (metadata : PrepareMetadata) (generation nowMs clock : Nat) :
    GuardianApprovalState × Except LifecycleError CapabilityRisk :=
  match pending.forCall metadata.callId with
  | none =>
    (pending, if metadata.riskClass = .read then .ok .read
      else .error (.approvalDenied "Guardian approval is required"))
  | some fact =>
    (pending.remove metadata.callId,
      if fact.metadata ≠ metadata then
        .error (.approvalDenied "approval does not match the original action")
      else if fact.owner.run ≠ metadata.runId then
        .error (.approvalDenied "approval owner does not match the action run")
      else if fact.generation ≠ generation then .error (.approvalDenied "approval context is stale")
      else if fact.expiresAtMs ≤ nowMs ∨ fact.expiresAtMs ≤ clock then .error .deadlineElapsed
      else .ok metadata.riskClass)

end GuardianApprovalState

def guardianApprovalGate (maxPending : Nat) : ApprovalGate GuardianApprovalState where
  authorizeAt := GuardianApprovalState.authorizeAt
  attest := GuardianApprovalState.attest maxPending

def validateOptionalResultFields (object : Json) : Except LifecycleError Unit :=
  if (object.get? "truncated").any (fun value => value.asBool?.isNone) then
    .error (.invalidMetadata "`truncated` must be a boolean")
  else if (object.get? "data").any (fun value => match value with | .obj _ => false | _ => true) then
    .error (.invalidMetadata "`data` must be a map")
  else if (object.get? "artifacts").any (fun value => match value.asArr? with
      | some items => items.any fun item => item.asStr?.isNone
      | none => true) then
    .error (.invalidMetadata "`artifacts` must be an array of strings")
  else .ok ()

def validateCanonicalResult : Json → Except LifecycleError Unit
  | .obj fields =>
    let object := Json.obj fields
    match object.get? "ok" with
    | none => .error (.invalidMetadata "`ok` is required")
    | some (.bool true) =>
      if (object.getStr? "content").isSome then validateOptionalResultFields object
      else .error (.invalidMetadata "success result requires string `content`")
    | some (.bool false) =>
      let error := object.get? "error"
      if ((error.bind (Json.getStr? "code")).filter (· ≠ "")).isNone then
        .error (.invalidMetadata "failure result requires string `error.code`")
      else if (error.bind (Json.get? "message")).any (fun message => message.asStr?.isNone) then
        .error (.invalidMetadata "`error.message` must be a string")
      else if (object.get? "content").any (fun content => content.asStr?.isNone) then
        .error (.invalidMetadata "failure `content` must be a string")
      else validateOptionalResultFields object
    | some _ => .error (.invalidMetadata "`ok` must be a boolean")
  | _ => .error (.invalidMetadata "tool result must be a map")

structure LifecycleConfig where
  owner : CapabilityOwner
  registryIdentity : String
  limits : LifecycleLimits
  deadlineMs : Nat

structure CapabilityLifecycle (Gate : Type) where
  config : LifecycleConfig
  generation : Nat
  callCount : Nat
  tokens : List (String × TokenState)
  gate : Gate

inductive DurableCall where
  | commitStarted (record : DurableStarted)
  | commitResult (callId : String) (result : Json)
  | interrupt (callId : String)
  deriving DecidableEq

structure Effect (Gate Result : Type) where
  lifecycle : CapabilityLifecycle Gate
  calls : List DurableCall
  result : Except LifecycleError Result

inductive PrepareOutcome where
  | execute (executionToken : String) (deadlineMs : Nat)
  | replay (result : Json)
  deriving DecidableEq

structure DurableView where
  activeRun : Except LifecycleError Unit
  parent : Except LifecycleError Unit
  replay : Except LifecycleError (Option Json)

structure PrepareView extends DurableView where
  deadlineNow : Nat
  cancelled : Bool
  authorizeNow : Nat
  gateClock : Nat
  started : Except LifecycleError Unit
  token : String

structure AttestView extends DurableView where
  deadlineNow : Nat
  cancelled : Bool
  attestNow : Nat
  gateClock : Nat
  lockedClock : Nat

structure CommitView where
  now : Nat
  cancelled : Bool
  committed : Except LifecycleError Json

namespace CapabilityLifecycle

variable {Gate : Type} (gate : ApprovalGate Gate) (lifecycle : CapabilityLifecycle Gate)

def state (token : String) : Option TokenState := lifecycle.tokens.lookup token

def unresolved (callId : String) : Bool := lifecycle.tokens.any fun entry => entry.2.callId == callId

def replaceToken (token : String) (state : TokenState) : CapabilityLifecycle Gate :=
  { lifecycle with
    tokens := lifecycle.tokens.map fun entry => if entry.1 = token then (token, state) else entry }

def insertToken (token : String) (state : TokenState) : CapabilityLifecycle Gate :=
  if lifecycle.tokens.any (fun entry => entry.1 == token) then lifecycle.replaceToken token state
  else { lifecycle with tokens := lifecycle.tokens ++ [(token, state)] }

def nothing {Result : Type} (result : Except LifecycleError Result) : Effect Gate Result := ⟨lifecycle, [], result⟩

def ownerMismatch (actual : String) : LifecycleError := .ownerMismatch lifecycle.config.owner.key actual

def checkMetadata (metadata : PrepareMetadata) : Except LifecycleError Unit :=
  if metadata.registryIdentity ≠ lifecycle.config.registryIdentity then .error .registryMismatch
  else if metadata.callId = "" ∨ metadata.toolName = "" then
    .error (.invalidMetadata "call_id and tool name are required")
  else if lifecycle.config.limits.maxSummaryBytes < metadata.summary.utf8ByteSize then
    .error (.invalidMetadata "summary exceeds the configured bound")
  else .ok ()

def validateApprovalFacts (owner : CapabilityOwner) (metadata : PrepareMetadata) (view : AttestView) :
    Except LifecycleError Unit := do
  if owner ≠ lifecycle.config.owner ∨ metadata.runId ≠ lifecycle.config.owner.run then
    .error (lifecycle.ownerMismatch owner.key)
  view.activeRun
  view.parent
  lifecycle.checkMetadata metadata
  if lifecycle.config.deadlineMs ≤ view.deadlineNow then .error .deadlineElapsed
  if view.cancelled then .error .cancelled

def attestApproval (owner : CapabilityOwner) (metadata : PrepareMetadata) (view : AttestView) : Effect Gate Unit :=
  match lifecycle.validateApprovalFacts owner metadata view, view.replay with
  | .error error, _ => lifecycle.nothing (.error error)
  | .ok (), .error error => lifecycle.nothing (.error error)
  | .ok (), .ok (some _) =>
    lifecycle.nothing (.error (.approvalDenied "completed tool call cannot receive a new approval"))
  | .ok (), .ok none =>
    if lifecycle.unresolved metadata.callId then lifecycle.nothing (.error .unresolvedCall)
    else
      let attested := gate.attest lifecycle.gate owner metadata lifecycle.generation view.attestNow
        lifecycle.config.deadlineMs view.gateClock view.lockedClock
      ⟨{ lifecycle with gate := attested.1 }, [], attested.2⟩

def startedRecord (metadata : PrepareMetadata) : DurableStarted where
  runId := metadata.runId
  callId := metadata.callId
  toolName := metadata.toolName
  argumentDigest := metadata.argumentDigest
  registryIdentity := metadata.registryIdentity
  riskClass := metadata.riskClass
  summary := metadata.summary
  generation := lifecycle.generation

def claims (metadata : PrepareMetadata) (ceiling : CapabilityRisk) : TokenClaims where
  owner := lifecycle.config.owner
  callId := metadata.callId
  toolName := metadata.toolName
  argumentDigest := metadata.argumentDigest
  registryIdentity := metadata.registryIdentity
  riskCeiling := ceiling
  outputBudget := lifecycle.config.limits.maxOutputBytes
  generation := lifecycle.generation
  deadlineMs := lifecycle.config.deadlineMs

def prepareChecks (owner : CapabilityOwner) (metadata : PrepareMetadata) (view : PrepareView) :
    Except LifecycleError (Option Json) := do
  if owner ≠ lifecycle.config.owner then .error (lifecycle.ownerMismatch owner.key)
  if metadata.runId ≠ lifecycle.config.owner.run then
    .error (lifecycle.ownerMismatch (lifecycle.config.owner.withRun metadata.runId))
  view.activeRun
  view.parent
  match ← view.replay with
  | some result => return some result
  | none =>
    if lifecycle.unresolved metadata.callId then .error .unresolvedCall
    if lifecycle.config.deadlineMs ≤ view.deadlineNow then .error .deadlineElapsed
    if view.cancelled then .error .cancelled
    lifecycle.checkMetadata metadata
    if lifecycle.config.limits.maxToolCalls ≤ lifecycle.callCount then .error .limitExceeded
    return none

def authorizeAndStart (metadata : PrepareMetadata) (view : PrepareView) : Effect Gate PrepareOutcome :=
  let authorized := gate.authorizeAt lifecycle.gate metadata lifecycle.generation view.authorizeNow view.gateClock
  let asked := { lifecycle with gate := authorized.1 }
  match authorized.2 with
  | .error error => asked.nothing (.error error)
  | .ok ceiling =>
    let calls := [.commitStarted (lifecycle.startedRecord metadata)]
    match view.started with
    | .error error => ⟨asked, calls, .error error⟩
    | .ok () =>
      let issued := asked.insertToken view.token (.opened (lifecycle.claims metadata ceiling))
      ⟨{ issued with callCount := issued.callCount + 1 }, calls,
        .ok (.execute view.token lifecycle.config.deadlineMs)⟩

def prepare (owner : CapabilityOwner) (metadata : PrepareMetadata) (view : PrepareView) :
    Effect Gate PrepareOutcome :=
  match lifecycle.prepareChecks owner metadata view with
  | .error error => lifecycle.nothing (.error error)
  | .ok (some result) => lifecycle.nothing (.ok (.replay result))
  | .ok none => lifecycle.authorizeAndStart gate metadata view

def commitEnvelope (callId : String) (committed : Json) : Json :=
  .obj [("call_id", .str callId), ("kind", .str "committed"), ("ok", .bool true), ("result", committed)]

def commit (owner : CapabilityOwner) (token : String) (result : Json) (view : CommitView) : Effect Gate Json :=
  if owner ≠ lifecycle.config.owner then lifecycle.nothing (.error (lifecycle.ownerMismatch owner.key))
  else
    match lifecycle.state token with
    | none => lifecycle.nothing (.error .tokenUnknown)
    | some (.committed _) => lifecycle.nothing (.error .duplicateClose)
    | some (.interrupted _) => lifecycle.nothing (.error .interrupted)
    | some (.opened claims) =>
      if claims.owner ≠ owner then
        lifecycle.nothing (.error (.ownerMismatch claims.owner.key owner.key))
      else if claims.outputBudget < result.render.utf8ByteSize then lifecycle.nothing (.error .resultTooLarge)
      else if claims.deadlineMs ≤ view.now then lifecycle.nothing (.error .deadlineElapsed)
      else if view.cancelled then lifecycle.nothing (.error .cancelled)
      else
        match validateCanonicalResult result with
        | .error error => lifecycle.nothing (.error error)
        | .ok () =>
          ⟨lifecycle.replaceToken token (.committed claims.callId), [.commitResult claims.callId result],
            view.committed.map (commitEnvelope claims.callId)⟩

def interruptToken (token : String) (answer : Except LifecycleError Unit) : Effect Gate Unit :=
  match lifecycle.state token with
  | none => lifecycle.nothing (.error .tokenUnknown)
  | some (.opened claims) =>
    ⟨lifecycle.replaceToken token (.interrupted claims.callId), [.interrupt claims.callId], answer⟩
  | some _ => lifecycle.nothing (.ok ())

def dropLease (token : String) (closed : Bool) (answer : Except LifecycleError Unit) : Effect Gate Unit :=
  if closed then lifecycle.nothing (.ok ()) else lifecycle.interruptToken token answer

def openCalls : List String :=
  (lifecycle.tokens.filter fun entry => entry.2.isOpen).map fun entry => entry.2.callId

def interruptAll (answers : String → Except LifecycleError Unit) :
    List String → List DurableCall × Except LifecycleError (List String)
  | [] => ([], .ok [])
  | callId :: rest =>
    match answers callId with
    | .error error => ([.interrupt callId], .error error)
    | .ok () =>
      let others := interruptAll answers rest
      (.interrupt callId :: others.1, others.2.map fun recovered => callId :: recovered)

def interruptOpen : CapabilityLifecycle Gate :=
  { lifecycle with
    tokens := lifecycle.tokens.map fun entry =>
      if entry.2.isOpen then (entry.1, .interrupted entry.2.callId) else entry }

/-- `recover_open_tokens`, with the order in which the hash map hands out the open calls -/
def recoverOpenTokens (order : List String) (answers : String → Except LifecycleError Unit) :
    Effect Gate (List String) :=
  let told := interruptAll answers order
  match told.2 with
  | .error error => ⟨lifecycle.interruptOpen, told.1, .error error⟩
  | .ok recovered =>
    ⟨{ lifecycle.interruptOpen with generation := lifecycle.generation + 1 }, told.1, .ok recovered⟩

end CapabilityLifecycle

def LifecycleConfig.build {Gate : Type} (config : LifecycleConfig) (gate : Gate) (generation : Nat) :
    Except LifecycleError (CapabilityLifecycle Gate) :=
  if config.limits.maxToolCalls = 0 ∨ config.limits.maxOutputBytes = 0 ∨ config.limits.maxSummaryBytes = 0 then
    .error (.invalidMetadata "lifecycle limits must be positive")
  else .ok { config, generation, callCount := 0, tokens := [], gate }

namespace CapabilityRisk

def asStr : CapabilityRisk → String
  | read => "read"
  | write => "write"
  | execute => "execute"

end CapabilityRisk

-- What the durable layer, the clock, the cancellation flag and the token issuer answer comes with each operation.
inductive Operation where
  | attest (owner : CapabilityOwner) (metadata : PrepareMetadata) (view : AttestView)
  | prepare (owner : CapabilityOwner) (metadata : PrepareMetadata) (view : PrepareView)
  | commit (owner : CapabilityOwner) (token : String) (result : Json) (view : CommitView)
  | dropLease (token : String) (closed : Bool) (answer : Except LifecycleError Unit)
  | recover (order : List String) (answers : String → Except LifecycleError Unit)

namespace CapabilityLifecycle

variable {Gate : Type} (gate : ApprovalGate Gate) (lifecycle : CapabilityLifecycle Gate)

def operate : Operation → Option (CapabilityLifecycle Gate × List DurableCall)
  | .attest owner metadata view =>
    let effect := lifecycle.attestApproval gate owner metadata view
    some (effect.lifecycle, effect.calls)
  | .prepare owner metadata view =>
    let effect := lifecycle.prepare gate owner metadata view
    some (effect.lifecycle, effect.calls)
  | .commit owner token result view =>
    let effect := lifecycle.commit owner token result view
    some (effect.lifecycle, effect.calls)
  | .dropLease token closed answer =>
    let effect := lifecycle.dropLease token closed answer
    some (effect.lifecycle, effect.calls)
  | .recover order answers =>
    if order.Perm lifecycle.openCalls then
      let effect := lifecycle.recoverOpenTokens order answers
      some (effect.lifecycle, effect.calls)
    else none

end CapabilityLifecycle

end RustScriptAgent.Capabilities
