import RustScriptAgent.Gateway.Store
import RustScriptAgent.Gateway.TerminalCommit
import RustScriptAgent.Storage.Events

namespace RustScriptAgent.Gateway

open Storage Sequences Json LlmContentBlock

structure Draws where
  ids : Nat → String
  clock : Nat → Int
  named : ∀ number, ids number ≠ ""

inductive TerminalStatus where
  | completed
  | failed
  | cancelled
  deriving DecidableEq

namespace TerminalStatus

def durable : TerminalStatus → RunStatus
  | completed => .completed
  | failed => .failed
  | cancelled => .cancelled

def memory : TerminalStatus → MemoryStatus
  | completed => .completed
  | failed => .failed
  | cancelled => .cancelled

def event : TerminalStatus → EventType
  | completed => .runCompleted
  | failed => .runFailed
  | cancelled => .runCancelled

def text (status : TerminalStatus) : String := status.durable.text

end TerminalStatus

inductive CommitPayload where
  | eventAppend (input : EventAppendInput)
  | step (input : StepCommitInput)

inductive TerminalOrigin where
  | worker
  | retry
  | compaction
  deriving DecidableEq

structure PendingTerminal where
  toStatus : TerminalStatus
  sessionId : Option String
  events : List GatewayEvent
  assistantMessage : Option SessionMessage
  deriving DecidableEq

inductive Reserved where
  | commit (event : GatewayEvent) (message : Option SessionMessage) (payload : CommitPayload)
  | pair (first second : GatewayEvent) (payload : EventAppendPairInput)
  | transition (event : GatewayEvent) (payload : RunTransitionInput)
  | terminal (target : TerminalStatus) (call : TerminalCall) (origin : TerminalOrigin)

def GatewayEvent.fields (event : GatewayEvent) : EventFields where
  eventId := event.eventId
  eventType := event.event
  payload := event.data
  seq := event.seq

def appendPayload (service : Service) (runId : String) (event : GatewayEvent) (now : Int) : EventAppendInput where
  runId := runId
  event := event.fields
  nowMs := now
  maxEvents := service.maxEventsPerRun

def GatewayEvent.withId (event : GatewayEvent) (eventId : String) : GatewayEvent :=
  if eventId = "" then event else { event with eventId }

def canonicalScriptEvents : List EventType :=
  [.modelStarted, .modelDelta, .modelCompleted, .toolRequested, .approvalRequired, .approvalResolved,
    .toolStarted, .toolOutput, .toolCompleted, .toolFailed, .compactStarted, .compactCompleted,
    .subagentStarted, .subagentCompleted]

def deliver (service : Service) (store : GatewayStore) (runId : String) (event : EventType) (data : Json)
    (draws : Draws) : Option Reserved := do
  guard (event ∈ canonicalScriptEvents)
  let run ← store.runs runId
  guard (run.status.runIsTerminal = false)
  let candidate := eventCandidate service run (draws.ids 0) (draws.clock 0) event data
  return .commit candidate none (.eventAppend (appendPayload service runId candidate (draws.clock 1)))

inductive ProviderEvent where
  | requested
  | failed
  deriving DecidableEq

def ProviderEvent.type : ProviderEvent → EventType
  | requested => .modelRequested
  | failed => .modelFailed

def persistProviderEvent (service : Service) (store : GatewayStore) (runId eventId : String)
    (event : ProviderEvent) (payload : Json) (draws : Draws) : Except EventCommitError (Option Reserved) :=
  match store.runs runId with
  | none => .error .terminal
  | some run =>
    if run.hasEvent eventId then .ok none
    else if run.status = .cancelled then .error .cancelled
    else if runRefusesPendingProvider run then .error .terminal
    else
      let candidate :=
        { eventCandidate service run (draws.ids 0) (draws.clock 0) event.type payload with eventId }
      .ok (some (.commit candidate none
        (.eventAppend (appendPayload service runId candidate candidate.timestamp))))

structure Usage where
  inputTokens : Nat
  outputTokens : Nat
  totalTokens : Nat
  deriving DecidableEq

def Usage.toValue (usage : Usage) : Json :=
  .obj [("input_tokens", .int usage.inputTokens), ("output_tokens", .int usage.outputTokens),
    ("total_tokens", .int usage.totalTokens)]

structure ProviderStep where
  turn : Nat
  blocks : List LlmContentBlock
  usage : Option Usage := none
  finishReason : Option String := none
  provider : Option String := none
  model : Option String := none
  truncated : Option Bool := none
  reasoning : Option Json := none

namespace ProviderStep

def metadata (step : ProviderStep) : Json :=
  let named (value : Option String) := value.filter (fun text => text != "")
  .obj (present "model" str (named step.model) ++
    present "provider" str (named step.provider) ++
    present "reasoning" id step.reasoning ++
    present "truncated" bool step.truncated ++
    [("turn", .int step.turn)] ++ present "usage" Usage.toValue step.usage)

def eventData (step : ProviderStep) : Json :=
  .obj [("finish_reason", .str (step.finishReason.getD "")), ("model", .str (step.model.getD "")),
    ("provider", .str (step.provider.getD "")), ("turn", .int step.turn)]

def content (step : ProviderStep) : Json := encodeMessageContent step.blocks

def eventId (step : ProviderStep) (runId : String) : String :=
  durableProviderEventId runId step.turn "model.completed"

def messageId (step : ProviderStep) (runId : String) : String :=
  durableMessageId runId "turn" (toString step.turn)

end ProviderStep

def existingProviderCommit (service : Service) (store : GatewayStore) (run : RunRecord) (messageId : String) :
    Except EventCommitError Json :=
  match (store.sessions run.sessionId).bind fun session =>
      session.messages.find? (fun message => message.id == messageId) with
  | none => .error (.corrupt "durable provider step is incomplete")
  | some message =>
    if message.role ≠ "assistant" then .error (.corrupt "durable provider step is incomplete")
    else reconstructProviderEnvelope service.parse message.content message.metadata message.finishReason

inductive ProviderReservation where
  | existing (envelope : Json)
  | fresh (envelope : Json) (reserved : Reserved)

def commitProviderStep (service : Service) (store : GatewayStore) (runId : String) (step : ProviderStep)
    (draws : Draws) : Except EventCommitError ProviderReservation := do
  validateProviderBlocks service.parse step.blocks
  validateProviderBlocks service.parse (decodeMessageBlocks step.content)
  match store.runs runId with
  | none => .error .terminal
  | some run =>
    if run.hasEvent (step.eventId runId) then
      return .existing (← existingProviderCommit service store run (step.messageId runId))
    else if run.status = .cancelled then .error .cancelled
    else if runRefusesPendingProvider run then .error .terminal
    else
      let candidate :=
        { eventCandidate service run (draws.ids 0) (draws.clock 0) .modelCompleted step.eventData with
          eventId := step.eventId runId }
      let session := store.sessions run.sessionId
      let ordinal := session.map nextMessageOrdinal
      let parent := session.bind fun session => session.messages.getLast?.map SessionMessage.id
      let tokens := step.usage.map fun usage => (usage.totalTokens : Int)
      let message : SessionMessage :=
        { id := step.messageId runId
          sessionId := run.sessionId
          role := "assistant"
          content := step.content
          createdAt := candidate.timestamp
          runId := some runId
          finishReason := step.finishReason
          parentMessageId := parent
          tokenEstimate := tokens
          metadata := step.metadata
          ordinal := ordinal }
      let payload : StepCommitInput :=
        { runId := runId
          sessionId := run.sessionId
          event := candidate.fields
          nowMs := candidate.timestamp
          maxEvents := service.maxEventsPerRun
          messageId := step.messageId runId
          role := "assistant"
          content := .json step.content
          name := ""
          toolCallId := ""
          parentMessageId := parent.getD ""
          tokenEstimate := tokens.getD 0
          metadata := .json step.metadata
          finishReason := step.finishReason.getD ""
          ordinal := ordinal.getD 0
          failpoint := .none }
      let envelope ← reconstructProviderEnvelope service.parse step.content step.metadata step.finishReason
      return .fresh envelope (.commit candidate (some message) (.step payload))

structure HandleView where
  terminal : Bool
  stopRequested : Bool
  deriving DecidableEq

inductive ToolEvent where
  | requested
  | started
  | output
  | completed
  | failed
  deriving DecidableEq

def ToolEvent.type : ToolEvent → EventType
  | requested => .toolRequested
  | started => .toolStarted
  | output => .toolOutput
  | completed => .toolCompleted
  | failed => .toolFailed

def ToolEvent.closes : ToolEvent → Bool
  | output | completed | failed => true
  | requested | started => false

structure ToolStep where
  event : ToolEvent
  data : Json
  result : Option ToolResult

def GatewayEvent.namesCall (event : GatewayEvent) (toolCallId : String) : Bool :=
  event.data.getStr? "tool_call_id" == some toolCallId

namespace ToolStep

def toolCallId (step : ToolStep) : String := (step.data.getStr? "tool_call_id").getD ""

def eventId (step : ToolStep) (runId : String) : String :=
  if step.toolCallId = "" then "" else durableToolEventId runId step.toolCallId step.event.type.text

def attached (step : ToolStep) : Option ToolResult :=
  if step.toolCallId ≠ "" ∧ step.event.closes = true then step.result else none

def checkUnstarted (step : ToolStep) (store : GatewayStore) (run : RunRecord) (runId : String)
    (handle : HandleView) (parent : String × String) : Except EventCommitError Unit :=
  if (step.data.get? "validation_only").bind asBool? ≠ some true then .ok ()
  else if handle.stopRequested then .error .cancelled
  else
    match (store.sessions run.sessionId).bind fun session =>
        session.messages.find? (fun message => message.id == parent.1) with
    | none => .error .missingParent
    | some message =>
      if step.event ≠ .failed ∨ (step.result.map ToolResult.ok).getD true = true ∨
          message.runId ≠ some runId ∨
          (step.data.getStr? "name").any (fun name => name != parent.2) = true ∨
          run.events.any (fun event => event.event = .toolStarted && event.namesCall step.toolCallId) = true then
        .error (.corrupt "invalid unstarted tool failure")
      else .ok ()

end ToolStep

def commitStep (service : Service) (store : GatewayStore) (runId : String) (step : ToolStep)
    (handle : HandleView) (draws : Draws) : Except EventCommitError (Option Reserved) :=
  if handle.terminal then .error .terminal
  else
    match store.runs runId with
    | none => .error .terminal
    | some run =>
      if run.status.runIsTerminal then .error .terminal
      else if step.eventId runId ≠ "" ∧ run.hasEvent (step.eventId runId) = true then .ok none
      else do
        let candidate :=
          (eventCandidate service run (draws.ids 0) (draws.clock 0) step.event.type step.data).withId
            (step.eventId runId)
        match step.attached with
        | none =>
          step.checkUnstarted store run runId handle ("", "")
          return some (.commit candidate none
            (.eventAppend (appendPayload service runId candidate (draws.clock 1))))
        | some result =>
          match lookupToolCallParent store run.sessionId step.toolCallId with
          | none => .error .missingParent
          | some parent =>
            step.checkUnstarted store run runId handle parent
            let messageId := durableMessageId runId "result" step.toolCallId
            let content := toolResultContentJson step.toolCallId result
            let ordinal := (store.sessions run.sessionId).map nextMessageOrdinal
            let message : SessionMessage :=
              { id := messageId
                sessionId := run.sessionId
                role := "user"
                content := content
                createdAt := draws.clock 1
                runId := some runId
                name := if parent.2 = "" then none else some parent.2
                toolCallId := some step.toolCallId
                parentMessageId := if parent.1 = "" then none else some parent.1
                ordinal := ordinal }
            let payload : StepCommitInput :=
              { runId := runId
                sessionId := run.sessionId
                event := candidate.fields
                nowMs := draws.clock 2
                maxEvents := service.maxEventsPerRun
                messageId := messageId
                role := "user"
                content := .json content
                name := parent.2
                toolCallId := step.toolCallId
                parentMessageId := parent.1
                tokenEstimate := 0
                metadata := .json (.obj [])
                finishReason := ""
                ordinal := ordinal.getD 0
                failpoint := .none }
            return some (.commit candidate (some message) (.step payload))

def commitHalf (service : Service) (run : RunRecord) (runId : String) (half : ToolStep) (draws : Draws) :
    Reserved :=
  let candidate :=
    (eventCandidate service run (draws.ids 0) (draws.clock 0) half.event.type half.data).withId (half.eventId runId)
  .commit candidate none (.eventAppend (appendPayload service runId candidate (draws.clock 1)))

def commitPair (service : Service) (store : GatewayStore) (runId : String) (first second : ToolStep)
    (handle : HandleView) (draws : Draws) : Except EventCommitError (Option Reserved) :=
  if handle.terminal then .error .terminal
  else
    match store.runs runId with
    | none => .error .terminal
    | some run =>
      if run.status.runIsTerminal then .error .terminal
      else
        let present (half : ToolStep) := half.eventId runId != "" && run.hasEvent (half.eventId runId)
        match present first, present second with
        | true, true => .ok none
        | false, true => .ok (some (commitHalf service run runId first draws))
        | true, false => .ok (some (commitHalf service run runId second draws))
        | false, false =>
          let one := (eventCandidate service run (draws.ids 0) (draws.clock 0) first.event.type first.data).withId
            (first.eventId runId)
          let two := (eventCandidate service run (draws.ids 1) (draws.clock 1) second.event.type second.data).withId
            (second.eventId runId)
          let later := { two with seq := one.seq + 1 }
          .ok (some (.pair one later
            { runId := runId
              first := one.fields
              second := later.fields
              nowMs := draws.clock 2
              maxEvents := service.maxEventsPerRun
              failpoint := .none }))

def transitionCandidate (runId : String) (fromStatus toStatus : RunStatus) (now seq : Int) : GatewayEvent where
  eventId := "run-transition:" ++ runId ++ ":" ++ toString now ++ ":" ++ fromStatus.text ++ ":" ++
    toStatus.text ++ ":" ++ toString seq
  seq := seq
  event := .runStatusChanged
  runId := runId
  timestamp := now
  data := .obj []

def transitionPayload (runId : String) (fromStatus toStatus : RunStatus) (now : Int) : RunTransitionInput where
  runId := runId
  fromStatus := fromStatus.text
  toStatus := toStatus.text
  errorCode := ""
  errorMessage := ""
  recoveryReason := ""
  nowMs := now

def transitionCompactionRun (store : GatewayStore) (runId : String) (fromStatus toStatus : RunStatus)
    (draws : Draws) : Except String Reserved :=
  match store.runs runId with
  | none => .error "compaction run is unavailable"
  | some run =>
    if run.status ≠ .started then
      .error ("compaction run is no longer active: in-memory status is " ++ run.status.text)
    else
      .ok (.transition (transitionCandidate runId fromStatus toStatus (draws.clock 0) (nextSeq run.events))
        (transitionPayload runId fromStatus toStatus (draws.clock 0)))

inductive TerminalRefusal where
  | notActive
  | sessionMissing
  deriving DecidableEq

def messageValue (message : SessionMessage) : Json :=
  let metadata := if message.metadata = .null ∨ message.metadata = .obj [] then none else some message.metadata
  .obj ([("content", message.content), ("created_at", .int message.createdAt)] ++
    present "finish_reason" str message.finishReason ++ [("id", .str message.id)] ++
    present "metadata" id metadata ++ present "name" str message.name ++
    present "ordinal" int message.ordinal ++
    present "parent_message_id" str message.parentMessageId ++ [("role", .str message.role)] ++
    present "run_id" str message.runId ++ [("session_id", .str message.sessionId)] ++
    present "token_estimate" int message.tokenEstimate ++
    present "tool_call_id" str message.toolCallId)

def completedData (output : Json) : Json :=
  .obj [("output", output), ("status", .str "completed"), ("usage", Usage.toValue ⟨0, 0, 0⟩)]

def terminalCall (runId sessionId : String) (target : TerminalStatus) (events : List GatewayEvent)
    (message : Option SessionMessage) (clock : Int) : TerminalCall where
  runId := runId
  sessionId := sessionId
  toStatus := target.text
  events := events
  assistantMessage := message
  clock := clock

def completionMessage (session : SessionRecord) (runId sessionId output : String) (draws : Draws) :
    SessionMessage where
  id := draws.ids 0
  sessionId := sessionId
  role := "assistant"
  content := decodeMessageContent (.str output)
  createdAt := draws.clock 1
  runId := some runId
  finishReason := some "stop"
  ordinal := some (nextMessageOrdinal session)

def commitCompletedOnce (service : Service) (store : GatewayStore) (runId sessionId output : String)
    (draws : Draws) : Except TerminalRefusal Reserved :=
  match store.runs runId with
  | none => .error .notActive
  | some run =>
    if run.status ≠ .started then .error .notActive
    else
      match store.sessions sessionId with
      | none => .error .sessionMissing
      | some session =>
        let now := draws.clock 0
        if run.events.any (fun event => event.event = .modelCompleted) then
          let completed := eventCandidate service run (draws.ids 0) now .runCompleted
            (completedData (.obj [("text", .str output)]))
          .ok (.terminal .completed
            (terminalCall runId sessionId .completed [completed] none now) .worker)
        else
          let message := completionMessage session runId sessionId output draws
          let delta := eventCandidate service run (draws.ids 1) now .messageDelta
            (.obj [("delta", .str output), ("message_id", .str message.id), ("role", .str "assistant")])
          let completed :=
            { eventCandidate service run (draws.ids 2) now .runCompleted
                (completedData (.obj [("message", messageValue message)])) with
              seq := delta.seq + 1 }
          .ok (.terminal .completed
            (terminalCall runId sessionId .completed [delta, completed] (some message) now) .worker)

def commitEndedOnce (service : Service) (store : GatewayStore) (runId : String) (target : TerminalStatus)
    (data : Json) (draws : Draws) : Except TerminalRefusal Reserved :=
  match store.runs runId with
  | none => .error .notActive
  | some run =>
    if run.status.runIsTerminal then .error .notActive
    else
      let event := eventCandidate service run (draws.ids 0) (draws.clock 0) target.event data
      .ok (.terminal target (terminalCall runId "" target [event] none (draws.clock 1)) .worker)

def commitCancelledOnce (service : Service) (store : GatewayStore) (runId reason : String) (draws : Draws) :
    Except TerminalRefusal Reserved :=
  commitEndedOnce service store runId .cancelled
    (.obj [("reason", .str reason), ("status", .str "cancelled")]) draws

def commitFailedOnce (service : Service) (store : GatewayStore) (runId : String) (data : Json) (draws : Draws) :
    Except TerminalRefusal Reserved :=
  commitEndedOnce service store runId .failed data draws

def completeCompactionLifecycleRun (store : GatewayStore) (runId : String) (draws : Draws) :
    Except String Reserved :=
  match store.runs runId with
  | none => .error "compaction run is unavailable at completion"
  | some run =>
    let event : GatewayEvent :=
      { eventId := runId ++ ":compaction:completed"
        seq := nextSeq run.events
        event := .runCompleted
        runId := runId
        timestamp := draws.clock 0
        data := completedData (.obj [("text", .str "session compaction completed")]) }
    .ok (.terminal .completed
      (terminalCall runId run.sessionId .completed [event] none (draws.clock 0)) .compaction)

def retryPendingTerminal (runId : String) (pending : PendingTerminal) (draws : Draws) : Reserved :=
  .terminal pending.toStatus
    (terminalCall runId (pending.sessionId.getD "") pending.toStatus pending.events pending.assistantMessage
      (draws.clock 0)) .retry

end RustScriptAgent.Gateway
