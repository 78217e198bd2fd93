import RustScriptAgent.Gateway.Content
import RustScriptAgent.Gateway.Records
import RustScriptAgent.Shared.Sequence

namespace RustScriptAgent.Gateway

open Storage Sequences

inductive MemoryStatus where
  | started
  | stopping
  | terminalPending
  | completed
  | failed
  | cancelled
  deriving DecidableEq

def MemoryStatus.text : MemoryStatus → String
  | started => "started"
  | stopping => "stopping"
  | terminalPending => "terminal_pending"
  | completed => "completed"
  | failed => "failed"
  | cancelled => "cancelled"

def MemoryStatus.runIsTerminal : MemoryStatus → Bool
  | completed | failed | cancelled | terminalPending => true
  | started | stopping => false

def memoryStatus : RunStatus → MemoryStatus
  | .completed => .completed
  | .failed => .failed
  | .cancelled => .cancelled
  | _ => .started

def MemoryStatus.durable? : MemoryStatus → Option RunStatus
  | completed => some .completed
  | failed => some .failed
  | cancelled => some .cancelled
  | _ => none

structure RunRecord where
  runId : String
  sessionId : String
  status : MemoryStatus
  events : List GatewayEvent
  sender : Bool
  deriving DecidableEq

structure SessionRecord where
  messages : List SessionMessage
  deriving DecidableEq

structure GatewayStore where
  sessions : String → Option SessionRecord
  runs : String → Option RunRecord
  keyed : ∀ id run, runs id = some run → run.runId = id

structure Service where
  host : Host
  maxEventBytes : Nat
  maxEventsPerRun : Nat
  parse : String → Option Json

def maxDurableIdBytes : Nat := 128

def takeBytes : Nat → List Char → List Char
  | _, [] => []
  | room, char :: rest => if room < char.utf8Size then [] else char :: takeBytes (room - char.utf8Size) rest

def boundDurableId (id : String) : String :=
  if id.utf8ByteSize ≤ maxDurableIdBytes then id else String.ofList (takeBytes maxDurableIdBytes id.toList)

def durableToolEventId (runId toolCallId eventType : String) : String :=
  boundDurableId (runId ++ ":tool:" ++ toolCallId ++ ":" ++ eventType)

def durableProviderEventId (runId : String) (turn : Nat) (eventType : String) : String :=
  boundDurableId (runId ++ ":turn:" ++ toString turn ++ ":" ++ eventType)

def durableMessageId (runId kind key : String) : String := boundDurableId (runId ++ ":" ++ kind ++ ":" ++ key)

def overLimit : Json := .obj [("original_bytes", .str "over_limit"), ("truncated", .bool true)]

def boundEventData (maxEventBytes : Nat) (data : Json) : Json :=
  if maxEventBytes < data.render.utf8ByteSize then overLimit else data

def nextSeq (events : List GatewayEvent) : Int := (events.getLast?.map fun event => event.seq + 1).getD 1

def eventCandidate (service : Service) (run : RunRecord) (fresh : String) (now : Int) (event : EventType)
    (data : Json) : GatewayEvent where
  eventId := fresh
  seq := nextSeq run.events
  event := event
  runId := run.runId
  timestamp := now
  data := boundEventData service.maxEventBytes data

def RunRecord.hasEvent (run : RunRecord) (eventId : String) : Bool :=
  run.events.any (fun event => event.eventId == eventId)

def applyEventLocked (maxEventsPerRun : Nat) (run : RunRecord) (event : GatewayEvent) : RunRecord :=
  if run.hasEvent event.eventId then run
  else
    let events := run.events ++ [event]
    { run with events := events.drop (events.length - maxEventsPerRun) }

def nextMessageOrdinal (session : SessionRecord) : Int :=
  max (maxOrZero (session.messages.filterMap SessionMessage.ordinal)) session.messages.length + 1

namespace GatewayStore

structure Change where
  apply : RunRecord → RunRecord
  keeps : ∀ run, (apply run).runId = run.runId

def updateRun (store : GatewayStore) (runId : String) (change : Change) : GatewayStore where
  sessions := store.sessions
  runs id := if id = runId then (store.runs id).map change.apply else store.runs id
  keyed id run found := by
    by_cases same : id = runId
    · simp only [same, if_true, Option.map_eq_some_iff] at found
      obtain ⟨old, stored, rfl⟩ := found
      rw [change.keeps, same]
      exact store.keyed runId old stored
    · rw [if_neg same] at found
      exact store.keyed id run found

def pushMessage (store : GatewayStore) (message : SessionMessage) : GatewayStore :=
  { store with
    sessions := fun id =>
      if id = message.sessionId then
        (store.sessions id).map fun session =>
          if session.messages.any (fun existing => existing.id == message.id) then session
          else { session with messages := session.messages ++ [message] }
      else store.sessions id }

def pushMessage? (store : GatewayStore) : Option SessionMessage → GatewayStore
  | none => store
  | some message => store.pushMessage message

end GatewayStore

def lookupToolCallParent (store : GatewayStore) (sessionId toolCallId : String) : Option (String × String) :=
  (store.sessions sessionId).bind fun session =>
    session.messages.findSome? fun message =>
      if message.role = "assistant" then
        (decodeMessageBlocks message.content).findSome? fun block =>
          if block.blockType = "tool_call" ∧ block.toolCallId = some toolCallId then
            some (message.id, block.name.getD "")
          else none
      else none

/-- A worker's own terminal is final; a run failed by restart recovery may still finish a provider step. -/
def runRefusesPendingProvider (run : RunRecord) : Bool :=
  match run.status with
  | .completed | .cancelled | .terminalPending => true
  | .failed => !run.events.any (fun event =>
    event.event = .runFailed && event.data.getStr? "error_code" == some "gateway_restart")
  | .started | .stopping => false

section Lemmas

variable {run : RunRecord} {event other : GatewayEvent} {limit : Nat}

theorem hasEvent_iff {eventId : String} :
    run.hasEvent eventId ↔ ∃ event ∈ run.events, event.eventId = eventId := by
  simp [RunRecord.hasEvent]

theorem applyEventLocked_present (known : run.hasEvent event.eventId) :
    applyEventLocked limit run event = run := by
  simp [applyEventLocked, known]

theorem applyEventLocked_events (fresh : run.hasEvent event.eventId = false) :
    (applyEventLocked limit run event).events =
      (run.events ++ [event]).drop ((run.events ++ [event]).length - limit) := by
  simp [applyEventLocked, fresh]

theorem self_mem_applyEventLocked (fresh : run.hasEvent event.eventId = false) (room : 0 < limit) :
    event ∈ (applyEventLocked limit run event).events := by
  have cut : (run.events ++ [event]).length - limit ≤ run.events.length := by
    rw [List.length_append, List.length_singleton]
    omega
  rw [applyEventLocked_events fresh, List.drop_append_of_le_length cut]
  exact List.mem_append_right _ (List.mem_singleton_self event)

theorem mem_applyEventLocked (member : other ∈ (applyEventLocked limit run event).events) :
    other ∈ run.events ∨ other = event := by
  unfold applyEventLocked at member
  split_ifs at member
  · exact .inl member
  · simpa using List.mem_of_mem_drop member

@[simp] theorem applyEventLocked_status : (applyEventLocked limit run event).status = run.status := by
  unfold applyEventLocked
  split_ifs <;> rfl

@[simp] theorem applyEventLocked_sessionId : (applyEventLocked limit run event).sessionId = run.sessionId := by
  unfold applyEventLocked
  split_ifs <;> rfl

@[simp] theorem applyEventLocked_runId : (applyEventLocked limit run event).runId = run.runId := by
  unfold applyEventLocked
  split_ifs <;> rfl

end Lemmas

namespace GatewayStore

theorem updateRun_eq_some {store : GatewayStore} {target id : String} {change : Change} {run : RunRecord}
    (found : (store.updateRun target change).runs id = some run) :
    ∃ old, store.runs id = some old ∧ run = if id = target then change.apply old else old := by
  simp only [updateRun] at found
  split_ifs at found with same
  · obtain ⟨old, stored, rfl⟩ := Option.map_eq_some_iff.mp found
    exact ⟨old, stored, by rw [if_pos same]⟩
  · exact ⟨run, found, by rw [if_neg same]⟩

@[simp] theorem updateRun_sessions (store : GatewayStore) (target : String) (change : Change) :
    (store.updateRun target change).sessions = store.sessions := rfl

@[simp] theorem pushMessage?_runs (store : GatewayStore) (message : Option SessionMessage) :
    (store.pushMessage? message).runs = store.runs := by
  cases message <;> rfl

theorem mem_pushMessage? {store : GatewayStore} {pushed : Option SessionMessage} {id : String}
    {session : SessionRecord} (found : (store.pushMessage? pushed).sessions id = some session)
    {message : SessionMessage} (member : message ∈ session.messages) :
    (∃ old, store.sessions id = some old ∧ message ∈ old.messages) ∨ pushed = some message := by
  cases pushed with
  | none => exact .inl ⟨session, found, member⟩
  | some new =>
    simp only [pushMessage?, pushMessage] at found
    split_ifs at found with home
    · obtain ⟨old, stored, rfl⟩ := Option.map_eq_some_iff.mp found
      split_ifs at member with known
      · exact .inl ⟨old, stored, member⟩
      · rcases List.mem_append.mp member with inside | last
        · exact .inl ⟨old, stored, inside⟩
        · exact .inr (by rw [List.mem_singleton.mp last])
    · exact .inl ⟨session, found, member⟩

end GatewayStore

end RustScriptAgent.Gateway
