import RustScriptAgent.Gateway.Commits
import RustScriptAgent.Shared.Transition

namespace RustScriptAgent.Gateway

open Storage Sequences Relational

inductive CommitFailure where
  | refused (error : TerminalCommitError)
  | unavailable
  deriving DecidableEq

def CommitFailure.isConflict : CommitFailure → Bool
  | refused error => error.code == "transition_conflict"
  | unavailable => false

abbrev Reply := Except CommitFailure (List (String × Int))

def answer (outcome : Database × Except StorageError Unit) : Database × Reply :=
  match outcome with
  | (next, .ok ()) => (next, .ok [])
  | (next, .error error) => (next, .error (.refused (.storage error)))

def Reserved.execute (host : Host) (db : Database) : Reserved → Database × Reply
  | .commit _ _ (.eventAppend input) => answer (storageEventAppend host db input)
  | .commit _ _ (.step input) => answer (storageStepCommit host db input)
  | .pair _ _ input => answer (storageEventAppendPair host db input)
  | .transition _ input => answer (storageRunTransition host db input)
  | .terminal _ call _ =>
    match terminalCommit host db call with
    | (next, .ok seqs) => (next, .ok seqs)
    | (next, .error error) => (next, .error (.refused error))

@[simp] theorem answer_fst (outcome : Database × Except StorageError Unit) : (answer outcome).1 = outcome.1 := by
  rcases outcome with ⟨next, _ | _⟩ <;> rfl

theorem answer_snd_ok {outcome : Database × Except StorageError Unit} {seqs : List (String × Int)} :
    (answer outcome).2 = .ok seqs ↔ outcome.2 = .ok () ∧ seqs = [] := by
  rcases outcome with ⟨next, _ | _⟩ <;> simp [answer, eq_comm]

theorem Reserved.execute_terminal_fst (host : Host) (db : Database) (target : TerminalStatus) (call : TerminalCall)
    (origin : TerminalOrigin) :
    ((Reserved.terminal target call origin).execute host db).1 = (terminalCommit host db call).1 := by
  simp only [Reserved.execute]
  split <;> simp_all

theorem Reserved.execute_terminal_ok {host : Host} {db : Database} {target : TerminalStatus} {call : TerminalCall}
    {origin : TerminalOrigin} {seqs : List (String × Int)} :
    ((Reserved.terminal target call origin).execute host db).2 = .ok seqs ↔
      (terminalCommit host db call).2 = .ok seqs := by
  simp only [Reserved.execute]
  split <;> simp_all

inductive StorageOutcome where
  | answered
  | lost
  | unacknowledged
  deriving DecidableEq

def deliverAnswer {Data : Type} (db : Database) (result : Database × Except StorageError Data) :
    StorageOutcome → Database × Except StorageError Data
  | .answered => result
  | .lost => (db, .error .unavailable)
  | .unacknowledged => (result.1, .error .unavailable)

def Reserved.persist (host : Host) (db : Database) (reserved : Reserved) : StorageOutcome → Database × Reply
  | .answered => reserved.execute host db
  | .lost => (db, .error .unavailable)
  | .unacknowledged => ((reserved.execute host db).1, .error .unavailable)

def renumber (seqs : List (String × Int)) (event : GatewayEvent) : GatewayEvent :=
  match seqs.find? (fun entry => entry.1 == event.eventId) with
  | some entry => { event with seq := entry.2 }
  | none => event

def applyEvents (service : Service) (run : RunRecord) (events : List GatewayEvent) : RunRecord :=
  events.foldl (applyEventLocked service.maxEventsPerRun) run

theorem applyEvents_cons (service : Service) (run : RunRecord) (event : GatewayEvent) (rest : List GatewayEvent) :
    applyEvents service run (event :: rest) =
      applyEvents service (applyEventLocked service.maxEventsPerRun run event) rest := rfl

@[simp] theorem applyEvents_runId (service : Service) (run : RunRecord) (events : List GatewayEvent) :
    (applyEvents service run events).runId = run.runId := by
  unfold applyEvents
  induction events generalizing run with
  | nil => rfl
  | cons event rest ih => rw [List.foldl_cons, ih, applyEventLocked_runId]

@[simp] theorem applyEvents_status (service : Service) (run : RunRecord) (events : List GatewayEvent) :
    (applyEvents service run events).status = run.status := by
  unfold applyEvents
  induction events generalizing run with
  | nil => rfl
  | cons event rest ih => rw [List.foldl_cons, ih, applyEventLocked_status]

theorem mem_applyEvents {service : Service} {run : RunRecord} {events : List GatewayEvent} {event : GatewayEvent}
    (member : event ∈ (applyEvents service run events).events) : event ∈ run.events ∨ event ∈ events := by
  unfold applyEvents at member
  induction events generalizing run with
  | nil => exact .inl member
  | cons first rest ih =>
    rw [List.foldl_cons] at member
    rcases ih member with applied | later
    · rcases mem_applyEventLocked applied with old | rfl
      · exact .inl old
      · exact .inr List.mem_cons_self
    · exact .inr (List.mem_cons_of_mem first later)

def logEvents (service : Service) (events : List GatewayEvent) : GatewayStore.Change where
  apply run := applyEvents service run events
  keeps run := applyEvents_runId service run events

def logWhileStarted (service : Service) (event : GatewayEvent) : GatewayStore.Change where
  apply run := if run.status = .started then applyEvents service run [event] else run
  keeps run := by split_ifs <;> simp

def logTerminal (service : Service) (target : TerminalStatus) (events : List GatewayEvent) :
    GatewayStore.Change where
  apply run := { applyEvents service run events with status := target.memory }
  keeps run := applyEvents_runId service run events

def applyTerminal (service : Service) (store : GatewayStore) (target : TerminalStatus) (call : TerminalCall)
    (seqs : List (String × Int)) : GatewayStore :=
  (store.updateRun call.runId (logTerminal service target (call.events.map (renumber seqs)))).pushMessage?
    call.assistantMessage

def GatewayStore.broadcast (store : GatewayStore) (runId : String) (events : List GatewayEvent) :
    List GatewayEvent :=
  match store.runs runId with
  | some run => if run.sender then events else []
  | none => []

def Reserved.apply (service : Service) (store : GatewayStore) (seqs : List (String × Int)) :
    Reserved → GatewayStore × List GatewayEvent
  | .commit event message _ =>
    ((store.updateRun event.runId (logEvents service [event])).pushMessage? message,
      store.broadcast event.runId [event])
  | .pair first second _ =>
    (store.updateRun first.runId (logEvents service [first, second]),
      store.broadcast first.runId [first, second])
  | .transition event input =>
    -- a run that was stopped meanwhile is left as it is, although its durable status has moved
    (store.updateRun input.runId (logWhileStarted service event), [])
  | .terminal target call .worker =>
    (applyTerminal service store target call seqs, store.broadcast call.runId call.events)
  | .terminal target call .retry =>
    (applyTerminal service store target call seqs,
      store.broadcast call.runId (call.events.map (renumber seqs)))
  | .terminal target call .compaction => (applyTerminal service store target call seqs, [])

inductive Request where
  | deliver (runId : String) (event : EventType) (data : Json)
  | providerEvent (runId eventId : String) (event : ProviderEvent) (payload : Json)
  | providerStep (runId : String) (step : ProviderStep)
  | toolStep (runId : String) (step : ToolStep) (handle : HandleView)
  | toolPair (runId : String) (first second : ToolStep) (handle : HandleView)
  | transition (runId : String) (fromStatus toStatus : RunStatus)
  | complete (runId sessionId output : String)
  | cancel (runId reason : String)
  | fail (runId : String) (data : Json)
  | completeCompaction (runId : String)

def Request.reserve (service : Service) (store : GatewayStore) (draws : Draws) : Request → Option Reserved
  | .deliver runId event data => Gateway.deliver service store runId event data draws
  | .providerEvent runId eventId event payload =>
    (persistProviderEvent service store runId eventId event payload draws).toOption.join
  | .providerStep runId step =>
    match commitProviderStep service store runId step draws with
    | .ok (.fresh _ reserved) => some reserved
    | _ => none
  | .toolStep runId step handle => (commitStep service store runId step handle draws).toOption.join
  | .toolPair runId first second handle => (commitPair service store runId first second handle draws).toOption.join
  | .transition runId fromStatus toStatus =>
    (transitionCompactionRun store runId fromStatus toStatus draws).toOption
  | .complete runId sessionId output => (commitCompletedOnce service store runId sessionId output draws).toOption
  | .cancel runId reason => (commitCancelledOnce service store runId reason draws).toOption
  | .fail runId data => (commitFailedOnce service store runId data draws).toOption
  | .completeCompaction runId => (completeCompactionLifecycleRun store runId draws).toOption

structure CarriedEvent where
  runId : String
  fields : EventFields
  deriving DecidableEq

structure CarriedMessage where
  id : String
  sessionId : String
  ordinal : Int
  role : String
  content : JsonText
  deriving DecidableEq

def GatewayEvent.carried (event : GatewayEvent) : CarriedEvent where
  runId := event.runId
  fields := event.fields

def SessionMessage.carried (message : SessionMessage) : CarriedMessage where
  id := message.id
  sessionId := message.sessionId
  ordinal := message.ordinal.getD 0
  role := message.role
  content := .json message.content

def EventRow.carried (row : EventRow) : CarriedEvent where
  runId := row.runId
  fields := { eventId := row.eventId, eventType := row.eventType, payload := row.payload, seq := row.seq }

def CommitPayload.carried : CommitPayload → CarriedEvent
  | .eventAppend input => ⟨input.runId, input.event⟩
  | .step input => ⟨input.runId, input.event⟩

/-- The events in the payload of a successful command; where the command numbers its rows itself, the rows
that it has written or found under its identifiers. -/
def Reserved.carried (before after : Database) : Reserved → List CarriedEvent
  | .commit _ _ payload => [payload.carried]
  | .pair _ _ input => [⟨input.runId, input.first⟩, ⟨input.runId, input.second⟩]
  | .transition _ input =>
    if before.runEvents.accepts (transitionEvent before input) then
      [EventRow.carried (transitionEvent before input)]
    else []
  | .terminal _ call _ =>
    (after.runEvents.rows.filter fun row =>
      call.events.any fun event => event.eventId == row.eventId).map EventRow.carried

def Reserved.carriedMessages : Reserved → List CarriedMessage
  | .commit _ _ (.step input) => [⟨input.messageId, input.sessionId, input.ordinal, input.role, input.content⟩]
  | .terminal _ call _ =>
    if call.input.messageId = "" then []
    else [⟨call.input.messageId, call.input.messageSessionId, call.input.messageOrdinal,
      call.input.messageRole, .json call.input.messageContent⟩]
  | _ => []

inductive Flight where
  | reserved (commit : Reserved)
  | answered (commit : Reserved) (reply : Reply)

-- The commit gate lets one commit be under way at a time, in two halves around its storage command. A stop, a halt and
-- the parking of a failed terminal take the store lock alone, so they can come in between.
structure System where
  db : Database
  store : GatewayStore
  pending : String → Option PendingTerminal
  handedBack : List (String × PendingTerminal)
  flight : Option Flight
  published : List GatewayEvent
  acknowledged : List CarriedEvent
  acknowledgedMessages : List CarriedMessage

inductive Label where
  | begin (request : Request) (draws : Draws)
  | retry (runId : String) (expired : Bool) (draws : Draws)
  | persist (outcome : StorageOutcome)
  | finish
  | stop (runId : String)
  | halt
  | park (runId : String) (pending : PendingTerminal)

namespace System

def setPending (system : System) (runId : String) (value : Option PendingTerminal) : System :=
  { system with pending := fun id => if id = runId then value else system.pending id }

def closeStream (system : System) (runId : String) : System :=
  { system with store := system.store.updateRun runId ⟨fun run => { run with sender := false }, fun _ => rfl⟩ }

def beginRetry (system : System) (runId : String) (expired : Bool) (draws : Draws) : System :=
  match system.pending runId with
  | none => system
  | some pending =>
    match system.store.runs runId with
    | none => system.setPending runId none
    | some run =>
      if run.status ≠ .terminalPending then system.setPending runId none
      else if expired then (system.setPending runId none).closeStream runId
      else { system with flight := some (.reserved (retryPendingTerminal runId pending draws)) }

def persist (service : Service) (system : System) (commit : Reserved) (outcome : StorageOutcome) : System :=
  let result := commit.persist service.host system.db outcome
  let carried := match result.2 with
    | .ok _ => (commit.carried system.db result.1, commit.carriedMessages)
    | .error _ => ([], [])
  { system with
    db := result.1
    flight := some (.answered commit result.2)
    acknowledged := system.acknowledged ++ carried.1
    acknowledgedMessages := system.acknowledgedMessages ++ carried.2 }

def handBack (target : TerminalStatus) (call : TerminalCall) : PendingTerminal where
  toStatus := target
  sessionId := if target = .completed then some call.sessionId else none
  events := call.events
  assistantMessage := call.assistantMessage

def finishFailed (system : System) (failure : CommitFailure) : Reserved → System
  | .terminal target call .worker =>
    { system with handedBack := system.handedBack ++ [(call.runId, handBack target call)] }
  | .terminal _ call .retry =>
    if failure.isConflict then (system.setPending call.runId none).closeStream call.runId else system
  | _ => system

def finishApplied (service : Service) (system : System) (seqs : List (String × Int)) (commit : Reserved) :
    System :=
  let result := commit.apply service system.store seqs
  let applied := { system with store := result.1, published := system.published ++ result.2 }
  match commit with
  | .terminal _ call .retry => applied.setPending call.runId none
  | _ => applied

def stop (system : System) (runId : String) : System :=
  { system with
    store := system.store.updateRun runId
      ⟨fun run => if run.status = .started then { run with status := .stopping } else run,
        fun run => by split_ifs <;> rfl⟩ }

def park (system : System) (runId : String) (pending : PendingTerminal) : System :=
  { system with
    store := system.store.updateRun runId ⟨fun run => { run with status := .terminalPending }, fun _ => rfl⟩
    pending := fun id => if id = runId then some pending else system.pending id }

def next (service : Service) (system : System) : Label → Option System
  | .begin request draws =>
    match system.flight with
    | some _ => none
    | none => some { system with flight := (request.reserve service system.store draws).map .reserved }
  | .retry runId expired draws =>
    match system.flight with
    | some _ => none
    | none => some (system.beginRetry runId expired draws)
  | .persist outcome =>
    match system.flight with
    | some (.reserved commit) => some (system.persist service commit outcome)
    | _ => none
  | .finish =>
    match system.flight with
    | some (.answered commit (.ok seqs)) =>
      some { system.finishApplied service seqs commit with flight := none }
    | some (.answered commit (.error failure)) =>
      some { system.finishFailed failure commit with flight := none }
    | _ => none
  | .stop runId => some (system.stop runId)
  -- a halt requests cancellation and closes admission; neither the store nor storage changes
  | .halt => some system
  | .park runId pending =>
    if (runId, pending) ∈ system.handedBack then some (system.park runId pending) else none

inductive Steps (service : Service) (system : System) : Label → System → Prop
  | begin {request : Request} {draws : Draws} :
      Steps service system (.begin request draws)
        { system with flight := (request.reserve service system.store draws).map .reserved }
  | idle {runId : String} {expired : Bool} {draws : Draws} : Steps service system (.retry runId expired draws) system
  | drop {runId : String} {expired : Bool} {draws : Draws} :
      Steps service system (.retry runId expired draws) (system.setPending runId none)
  | expire {runId : String} {expired : Bool} {draws : Draws} :
      Steps service system (.retry runId expired draws) ((system.setPending runId none).closeStream runId)
  | retry {runId : String} {expired : Bool} {draws : Draws} {pending : PendingTerminal}
      (parked : system.pending runId = some pending) :
      Steps service system (.retry runId expired draws)
        { system with flight := some (.reserved (retryPendingTerminal runId pending draws)) }
  | persist {outcome : StorageOutcome} {commit : Reserved} (flying : system.flight = some (.reserved commit)) :
      Steps service system (.persist outcome) (system.persist service commit outcome)
  | applied {commit : Reserved} {seqs : List (String × Int)}
      (flying : system.flight = some (.answered commit (.ok seqs))) :
      Steps service system .finish { system.finishApplied service seqs commit with flight := none }
  | handBack {target : TerminalStatus} {call : TerminalCall} {failure : CommitFailure}
      (flying : system.flight = some (.answered (.terminal target call .worker) (.error failure))) :
      Steps service system .finish
        { system with handedBack := system.handedBack ++ [(call.runId, handBack target call)], flight := none }
  | giveUp {runId : String} :
      Steps service system .finish { (system.setPending runId none).closeStream runId with flight := none }
  | failed {commit : Reserved} {failure : CommitFailure}
      (flying : system.flight = some (.answered commit (.error failure))) :
      Steps service system .finish { system with flight := none }
  | stop {runId : String} : Steps service system (.stop runId) (system.stop runId)
  | halt : Steps service system .halt system
  | park {runId : String} {pending : PendingTerminal} (handed : (runId, pending) ∈ system.handedBack) :
      Steps service system (.park runId pending) (system.park runId pending)

theorem steps_of_next {service : Service} {system later : System} {label : Label}
    (taken : system.next service label = some later) : Steps service system label later := by
  cases label with
  | begin request draws =>
    simp only [next] at taken
    split at taken <;> cases taken
    exact .begin
  | retry runId expired draws =>
    simp only [next] at taken
    split at taken <;> cases taken
    unfold beginRetry
    split
    · exact .idle
    · rename_i pending parked
      split
      · exact .drop
      · split_ifs
        · exact .drop
        · exact .expire
        · exact .retry parked
  | persist outcome =>
    simp only [next] at taken
    split at taken <;> cases taken
    exact .persist ‹_›
  | finish =>
    simp only [next] at taken
    split at taken <;> cases taken
    · exact .applied ‹_›
    · rename_i commit failure flying
      unfold finishFailed
      split
      · exact .handBack flying
      · split_ifs
        · exact .giveUp
        · exact .failed flying
      · exact .failed flying
  | stop runId =>
    cases taken
    exact .stop
  | halt =>
    cases taken
    exact .halt
  | park runId pending =>
    simp only [next] at taken
    split_ifs at taken with handed
    cases taken
    exact .park handed

end System

def soloService (maxEventsPerRun : Nat) : Service where
  host := Host.reference
  maxEventBytes := 65536
  maxEventsPerRun := maxEventsPerRun
  parse _ := none

def soloEvent : GatewayEvent where
  eventId := "e0"
  seq := 1
  event := .runStarted
  runId := "r"
  timestamp := 1
  data := .obj []

def soloDatabase : Database :=
  { Database.empty with
    sessions := Table.empty.insertOrIgnore
      { id := "s", profile := "default", platform := "api", accountId := "s", chatId := "",
        lastMessageSeq := 1, createdAtMs := 1, updatedAtMs := 1 }
    messages := Table.empty.insertOrIgnore
      { id := "m0", sessionId := "s", ordinal := 1, role := "user", content := .json (.arr []), runId := "r",
        createdAtMs := 1 }
    runs := Table.empty.insertOrIgnore
      { id := "r", sessionId := "s", status := .running, createdAtMs := 1, startedAtMs := 1, updatedAtMs := 1 }
    runEvents := Table.empty.insertOrIgnore
      { runId := "r", seq := 1, eventId := "e0", eventType := .runStarted, payload := .obj [], createdAtMs := 1 }
    runRetention := Table.empty.insertOrIgnore
      { runId := "r", firstSeq := 1, highWaterSeq := 1, updatedAtMs := 1 } }

def soloRecord : RunRecord where
  runId := "r"
  sessionId := "s"
  status := .started
  events := [soloEvent]
  sender := true

def soloStore : GatewayStore where
  sessions id :=
    if id = "s" then
      some { messages := [{ id := "m0", sessionId := "s", role := "user", content := .arr [], createdAt := 1,
                            runId := some "r" }] }
    else none
  runs id := if id = "r" then some soloRecord else none
  keyed id run found := by
    split_ifs at found with same
    cases found
    exact same.symm

def soloSystem : System where
  db := soloDatabase
  store := soloStore
  pending _ := none
  handedBack := []
  flight := none
  published := []
  acknowledged := [soloEvent.carried]
  acknowledgedMessages := [⟨"m0", "s", 0, "user", .json (.arr [])⟩]

def tagged (tag : String) (now : Int) : Draws where
  ids number := tag ++ toString number
  clock _ := now
  named number none := by
    have digits : number.repr ≠ "" := Nat.repr_ne_empty
    exact digits (String.append_eq_empty_iff.mp none).2

end RustScriptAgent.Gateway
