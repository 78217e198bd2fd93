import RustScriptAgent.Gateway.Blocks
import RustScriptAgent.Gateway.Load
import RustScriptAgent.Gateway.Memory

namespace RustScriptAgent.Gateway

open Storage Sequences Transitions Option Json

variable {toolCallId : String}

inductive LifecycleError where
  | inactiveRun
  | cancelled
  | missingParent
  | invalidMetadata (message : String)
  | resultCommitFailed (message : String)
  deriving DecidableEq

def artifactTexts (result : Json) : List String :=
  match result.get? "artifacts" with
  | some (.arr items) => items.filterMap asStr?
  | _ => []

def canonicalToolResult (result : Json) : Except LifecycleError ToolResult :=
  let data := (result.get? "data").getD (.obj [])
  let truncated := ((result.get? "truncated").bind asBool?).getD false
  match result.get? "ok" with
  | some (.bool true) =>
    match result.getStr? "content" with
    | none => .error (.invalidMetadata "success result requires string `content`")
    | some content =>
      .ok { ToolResult.success content data with truncated, artifacts := artifactTexts result }
  | some (.bool false) =>
    let error := result.get? "error"
    match (error.bind (getStr? "code")).filter (fun code => code != "") with
    | none => .error (.invalidMetadata "failure result requires string `error.code`")
    | some code =>
      let message := (error.bind (getStr? "message")).getD "tool failed"
      .ok { ok := false, content := (result.getStr? "content").getD "", data, error := some { code, message },
            truncated, artifacts := artifactTexts result }
  | _ => .error (.invalidMetadata "`ok` is required")

def resultData (toolCallId : String) (result : ToolResult) : Json :=
  .obj ((if result.artifacts = [] then [] else [("artifacts", .arr (result.artifacts.map .str))]) ++
    LlmContentBlock.present "error_code" str (result.error.map ToolError.code) ++
    [("ok", .bool result.ok), ("tool_call_id", .str toolCallId), ("truncated", .bool result.truncated)])

def ToolResult.outputStep (result : ToolResult) (toolCallId : String) : ToolStep where
  event := .output
  data := resultData toolCallId result
  result := some result

def ToolResult.closingStep (result : ToolResult) (toolCallId : String) : ToolStep where
  event := if result.ok then .completed else .failed
  data := resultData toolCallId result
  result := some result

def commitResult (runId toolCallId : String) (result : ToolResult) (handle : HandleView) : List Request :=
  [.toolStep runId (result.outputStep toolCallId) handle, .toolStep runId (result.closingStep toolCallId) handle]

def closingType : EventType → Bool
  | .toolOutput | .toolCompleted | .toolFailed => true
  | _ => false

def GatewayEvent.closesCall (event : GatewayEvent) (toolCallId : String) : Bool :=
  closingType event.event && event.namesCall toolCallId

def artifactIds : Option Json → List String
  | some (.obj fields) => ((obj fields).getStr? "id").toList
  | some (.str id) => [id]
  | some (.arr items) => items.filterMap asStr?
  | _ => []

def replayBlock (toolCallId : String) (block : LlmContentBlock) : Option ToolResult :=
  if block.blockType ≠ "tool_result" ∨ block.toolCallId ≠ some toolCallId then none
  else if block.isError = some true then
    some (ToolResult.failure ((block.error.bind (getStr? "code")).getD "tool_failed")
      ((block.error.bind (getStr? "message")).getD "tool failed"))
  else
    some { ToolResult.success (block.content.getD "") (block.result.getD .null) with
      truncated := block.truncated.getD false, artifacts := artifactIds block.artifact }

def replayMessages (toolCallId name : String) : List SessionMessage → Except EventCommitError (Option ToolResult)
  | [] => .ok none
  | message :: rest =>
    if message.toolCallId ≠ some toolCallId then replayMessages toolCallId name rest
    else if message.name.any (fun stored => stored != name) then
      .error (.corrupt "tool result name does not match the requested tool")
    else
      match (decodeMessageBlocks message.content).findSome? (replayBlock toolCallId) with
      | some result => .ok (some result)
      | none => replayMessages toolCallId name rest

def isInterrupted (event : GatewayEvent) (toolCallId : String) : Bool :=
  decide (event.event = .toolFailed) && event.data.getStr? "error_code" == some "interrupted_effect" &&
    event.namesCall toolCallId

def replayEnded (store : GatewayStore) (run : RunRecord) (toolCallId name : String) :
    Except EventCommitError ToolResult :=
  if (lookupToolCallParent store run.sessionId toolCallId).any (fun parent => parent.2 != name) then
    .error (.corrupt "tool call name does not match durable parent")
  else
    let messages := ((store.sessions run.sessionId).map SessionRecord.messages).getD []
    match replayMessages toolCallId name messages.reverse with
    | .error error => .error error
    | .ok (some result) => .ok result
    | .ok none =>
      if run.events.any (fun event => isInterrupted event toolCallId) then
        .ok (ToolResult.failure "interrupted_effect" "effect interrupted by restart")
      else .error (.corrupt "durable tool output is missing a canonical result payload")

def replayDurableToolResult (store : GatewayStore) (runId toolCallId name : String) :
    Except EventCommitError (Option ToolResult) :=
  match store.runs runId with
  | none => .error .terminal
  | some run =>
    if run.events.any (fun event => event.closesCall toolCallId) = false then .ok none
    else (replayEnded store run toolCallId name).map some

theorem replayDurableToolResult_eq_none {store : GatewayStore} {runId name : String} :
    replayDurableToolResult store runId toolCallId name = .ok none ↔
      ∃ run, store.runs runId = some run ∧ ∀ event ∈ run.events, event.closesCall toolCallId = false := by
  unfold replayDurableToolResult
  cases found : store.runs runId with
  | none => simp
  | some run =>
    cases ended : run.events.any (fun event => event.closesCall toolCallId) with
    | true =>
      have closed : ¬∀ event ∈ run.events, event.closesCall toolCallId = false := by simpa using ended
      cases outcome : replayEnded store run toolCallId name <;> simp [ended, outcome, Except.map, closed]
    | false =>
      have opened : ∀ event ∈ run.events, event.closesCall toolCallId = false := by simpa using ended
      exact iff_of_true (if_pos ended) ⟨run, rfl, opened⟩

def newerThanEnd (toolCallId : String) (events : List GatewayEvent) : List GatewayEvent :=
  events.rtakeWhile fun event => !event.closesCall toolCallId

def Spares (service : Service) (runId toolCallId : String) (system : System) : Label → Prop
  | .finish => ∀ commit seqs run, system.flight = some (.answered commit (.ok seqs)) → commit.runId = runId →
      system.store.runs runId = some run →
      (newerThanEnd toolCallId run.events).length + (commit.logged seqs).length < service.maxEventsPerRun
  | _ => True

theorem applyEvents_ended {service : Service} {events : List GatewayEvent} {run : RunRecord}
    {older newer : List GatewayEvent} {last : GatewayEvent} (log : run.events = older ++ last :: newer)
    (closes : last.closesCall toolCallId) (room : newer.length + events.length < service.maxEventsPerRun) :
    ∃ event ∈ (applyEvents service run events).events, event.closesCall toolCallId := by
  induction events generalizing run older newer with
  | nil => exact ⟨last, by simp [applyEvents, log], closes⟩
  | cons event rest ih =>
    rw [List.length_cons] at room
    rw [applyEvents_cons]
    cases known : run.hasEvent event.eventId with
    | true =>
      rw [applyEventLocked_present known]
      exact ih log (by omega)
    | false =>
      have later : (applyEventLocked service.maxEventsPerRun run event).events =
          older.drop ((run.events ++ [event]).length - service.maxEventsPerRun) ++ last :: (newer ++ [event]) := by
        have reach : (run.events ++ [event]).length - service.maxEventsPerRun ≤ older.length := by
          simp only [log, List.length_append, List.length_cons, List.length_nil]
          omega
        rw [applyEventLocked_events known]
        generalize (run.events ++ [event]).length - service.maxEventsPerRun = cut at reach ⊢
        rw [log, List.append_assoc, List.drop_append_of_le_length reach, List.cons_append]
      refine ih later ?_
      rw [List.length_append, List.length_singleton]
      omega

section Step

variable {service : Service} {store : GatewayStore} {runId : String} {step : ToolStep} {handle : HandleView}
  {draws : Draws} {event : GatewayEvent} {message : Option SessionMessage} {payload : CommitPayload}

structure ToolStep.Attaches (step : ToolStep) (store : GatewayStore) (run : RunRecord) (runId : String)
    (event : GatewayEvent) (parent : String × String) (result : ToolResult) (message : SessionMessage)
    (input : StepCommitInput) : Prop where
  id : message.id = durableMessageId runId "result" step.toolCallId
  session : message.sessionId = run.sessionId
  role : message.role = "user"
  call : message.toolCallId = some step.toolCallId
  name : message.name = if parent.2 = "" then none else some parent.2
  content : message.content = toolResultContentJson step.toolCallId result
  run : input.runId = runId
  event : input.event = event.fields
  parentName : input.name = parent.2
  callId : input.toolCallId = step.toolCallId
  same : SameMessage message input

structure ToolStep.Reserves (step : ToolStep) (service : Service) (store : GatewayStore) (runId : String)
    (run : RunRecord) (event : GatewayEvent) (message : Option SessionMessage) (payload : CommitPayload) : Prop where
  found : store.runs runId = some run
  fresh : ¬(step.eventId runId ≠ "" ∧ run.hasEvent (step.eventId runId) = true)
  named : step.eventId runId ≠ "" → event.eventId = step.eventId runId
  owner : event.runId = runId
  type : event.event = step.event.type
  data : event.data = boundEventData service.maxEventBytes step.data
  attached : ∀ result, step.attached = some result → ∃ parent made input,
    lookupToolCallParent store run.sessionId step.toolCallId = some parent ∧ message = some made ∧
      payload = .step input ∧ step.Attaches store run runId event parent result made input

theorem commitStep_reserves
    (made : commitStep service store runId step handle draws = .ok (some (.commit event message payload))) :
    ∃ run, step.Reserves service store runId run event message payload := by
  unfold commitStep at made
  split_ifs at made
  cases found : store.runs runId with
  | none => simp [found] at made
  | some run =>
    have owner := store.keyed runId run found
    have drawn : ∀ event, (eventCandidate service run (draws.ids 0) (draws.clock 0) step.event.type
        step.data).withId (step.eventId runId) = event →
        (step.eventId runId ≠ "" → event.eventId = step.eventId runId) ∧ event.runId = runId ∧
          event.event = step.event.type ∧ event.data = boundEventData service.maxEventBytes step.data := by
      rintro _ rfl
      unfold GatewayEvent.withId
      split_ifs with anonymous
      · exact ⟨fun named => absurd anonymous named, owner, rfl, rfl⟩
      · exact ⟨fun _ => rfl, owner, rfl, rfl⟩
    simp only [found] at made
    split_ifs at made with finished known
    · cases made
    · refine ⟨run, ?_⟩
      cases attached : step.attached with
      | none =>
        simp only [attached, bind, Except.bind, pure, Except.pure] at made
        split at made
        · cases made
        · cases made
          obtain ⟨named, own, type, data⟩ := drawn _ rfl
          exact ⟨found, known, named, own, type, data, by simp [attached]⟩
      | some result =>
        simp only [attached, bind, Except.bind, pure, Except.pure] at made
        split at made
        · cases made
        · rename_i parent known'
          split at made
          · cases made
          · cases made
            obtain ⟨named, own, type, data⟩ := drawn _ rfl
            refine ⟨found, known, named, own, type, data, fun other same => ?_⟩
            rw [attached] at same
            cases same
            exact ⟨parent, _, _, known', rfl, rfl, rfl, rfl, rfl, rfl, rfl, rfl, rfl, rfl, rfl, rfl,
              ⟨rfl, rfl, rfl, rfl, rfl⟩⟩

end Step

theorem ToolEvent.closingType_type {event : ToolEvent} (closes : event.closes) :
    closingType event.type := by
  cases event <;> first | rfl | cases closes

theorem ToolEvent.closesCall {event : ToolEvent} {committed : GatewayEvent}
    (closes : event.closes) (type : committed.event = event.type)
    (names : committed.data.getStr? "tool_call_id" = some toolCallId) : committed.closesCall toolCallId := by
  simp [GatewayEvent.closesCall, GatewayEvent.namesCall, type, closingType_type closes, names]

def Ended (runId toolCallId : String) (system : System) : Prop :=
  ∀ run, system.store.runs runId = some run → ∃ event ∈ run.events, event.closesCall toolCallId = true

theorem Ended.next {service : Service} {runId : String} {system later : System} {label : Label}
    (ended : Ended runId toolCallId system) (spares : Spares service runId toolCallId system label)
    (taken : system.next service label = some later) : Ended runId toolCallId later := by
  intro run found
  obtain ⟨old, stored, _, same | ⟨commit, seqs, ⟨rfl, flying⟩, own, applied⟩⟩ := System.next_log taken found
  · rw [same]
    exact ended old stored
  · rw [applied]
    obtain ⟨older, last, log, closes⟩ := exists_last (ended old stored)
    exact applyEvents_ended log closes (spares commit seqs old flying own stored)

theorem tool_effect_stays_ended (service : Service) (runId toolCallId name : String) (earlier : GatewayStore)
    (step : ToolStep) (handle : HandleView) (draws : Draws) (event : GatewayEvent)
    (message : Option SessionMessage) (payload : CommitPayload) (labels : List Label) (start final : System)
    (made : commitStep service earlier runId step handle draws = .ok (some (.commit event message payload)))
    (closes : step.event.closes = true) (names : step.data.getStr? "tool_call_id" = some toolCallId)
    (committed : ∃ run, start.store.runs runId = some run ∧ event ∈ run.events)
    (whole : step.data.render.utf8ByteSize ≤ service.maxEventBytes)
    (spared : Along (System.next service) (Spares service runId toolCallId) start labels)
    (reached : run (System.next service) start labels = some final) :
    replayDurableToolResult final.store runId toolCallId name ≠ .ok none := by
  obtain ⟨reservedRun, reserves⟩ := commitStep_reserves made
  have data : event.data = step.data := by rw [reserves.data, boundEventData, if_neg (by omega)]
  have begun : Ended runId toolCallId start := by
    obtain ⟨run, found, member⟩ := committed
    intro other same
    rw [found] at same
    cases same
    exact ⟨event, member, ToolEvent.closesCall closes reserves.type (by rw [data, names])⟩
  have ended : Ended runId toolCallId final :=
    run_invariant (fun _ _ _ invariant allowed taken => Ended.next invariant allowed taken) begun spared reached
  rw [Ne, replayDurableToolResult_eq_none]
  rintro ⟨run, found, opened⟩
  obtain ⟨event, member, closed⟩ := ended run found
  rw [opened event member] at closed
  cases closed

def callingContent : Json :=
  .arr [.obj [("arguments_json", .str "\x7b\x7d"), ("name", .str "t"), ("tool_call_id", .str "c"),
    ("type", .str "tool_call")]]

def callingSystem : System :=
  { soloSystem with
    store := soloStore.pushMessage
      { id := "m1", sessionId := "s", role := "assistant", content := callingContent, createdAt := 2,
        runId := some "r", ordinal := some 2 }
    db := { soloDatabase with
      messages := soloDatabase.messages.insertOrIgnore
        { id := "m1", sessionId := "s", ordinal := 2, role := "assistant", content := .json callingContent,
          runId := "r", createdAtMs := 2 } } }

def committedSteps (requests : List Request) : List Label :=
  requests.zipIdx.flatMap fun entry =>
    [.begin entry.1 (tagged (toString entry.2 ++ ".") 3), .persist .answered, .finish]

def echoed : ToolResult := .success "out" (.obj [])

def ownHandle : HandleView := ⟨false, false⟩

def deltas (count : Nat) : List Label :=
  committedSteps ((List.range count).map fun number => .deliver "r" .modelDelta (.obj [("n", .int number)]))

instance (service : Service) (runId toolCallId : String) (system : System) :
    (label : Label) → Decidable (Spares service runId toolCallId system label)
  | .finish =>
    match flying : system.flight, found : system.store.runs runId with
    | some (.answered commit (.ok seqs)), some run =>
      decidable_of_iff (commit.runId = runId →
          (newerThanEnd toolCallId run.events).length + (commit.logged seqs).length < service.maxEventsPerRun)
        ⟨fun short _ _ _ now own there => by
            rw [flying] at now
            rw [found] at there
            cases now
            cases there
            exact short own,
          fun spares own => spares commit seqs run flying own found⟩
    | some (.answered _ (.error _)), _ | some (.reserved _), _ | none, _ => isTrue (by simp [Spares, flying])
    | _, none => isTrue (by simp [Spares, found])
  | .begin _ _ | .retry _ _ _ | .persist _ | .stop _ | .halt | .park _ _ => isTrue trivial

def echoedEvent : GatewayEvent where
  eventId := "r:tool:c:tool.output"
  seq := 2
  event := .toolOutput
  runId := "r"
  timestamp := 3
  data := resultData "c" echoed

theorem tool_effect_stays_ended_over_deltas : ∃ start final,
      run (System.next (soloService 5)) callingSystem
        (committedSteps [.toolStep "r" (echoed.outputStep "c") ownHandle]) = some start ∧
      run (System.next (soloService 5)) start (deltas 3) = some final ∧
      replayDurableToolResult final.store "r" "c" "t" ≠ .ok none := by
  have made : ∃ message payload, commitStep (soloService 5) callingSystem.store "r" (echoed.outputStep "c") ownHandle
      (tagged "0." 3) = .ok (some (.commit echoedEvent message payload)) := ⟨_, _, rfl⟩
  have taken : (run (System.next (soloService 5)) callingSystem
      (committedSteps [.toolStep "r" (echoed.outputStep "c") ownHandle])).map (fun start =>
        ((start.store.runs "r").map (fun run => decide (echoedEvent ∈ run.events)),
          decide (Along (System.next (soloService 5)) (Spares (soloService 5) "r" "c") start (deltas 3)),
          (run (System.next (soloService 5)) start (deltas 3)).isSome)) = some (some true, true, true) := by
    decide +kernel
  obtain ⟨start, first, observed⟩ := map_eq_some_iff.mp taken
  simp only [Prod.mk.injEq, map_eq_some_iff, decide_eq_true_eq, isSome_iff_exists] at observed
  obtain ⟨committed, spared, final, second⟩ := observed
  obtain ⟨message, payload, made⟩ := made
  exact ⟨start, final, first, second, tool_effect_stays_ended (soloService 5) "r" "c" "t" callingSystem.store
    (echoed.outputStep "c") ownHandle (tagged "0." 3) echoedEvent message payload (deltas 3) start final made rfl
    (by decide) committed (by decide +kernel) spared second⟩

theorem ended_call_taken_up_again : ∃ ended final,
      run (System.next (soloService 2)) callingSystem (committedSteps (commitResult "r" "c" echoed ownHandle)) =
        some ended ∧
      replayDurableToolResult ended.store "r" "c" "t" = .ok (some echoed) ∧
      run (System.next (soloService 2)) ended (deltas 2) = some final ∧
      replayDurableToolResult final.store "r" "c" "t" = .ok none := by
  have taken : (run (System.next (soloService 2)) callingSystem
      (committedSteps (commitResult "r" "c" echoed ownHandle))).map (fun ended =>
        (replayDurableToolResult ended.store "r" "c" "t",
          (run (System.next (soloService 2)) ended (deltas 2)).map fun final =>
            replayDurableToolResult final.store "r" "c" "t")) =
      some (.ok (some echoed), some (.ok none)) := by
    decide +kernel
  obtain ⟨ended, first, observed⟩ := map_eq_some_iff.mp taken
  simp only [Prod.mk.injEq, map_eq_some_iff] at observed
  obtain ⟨replayed, final, second, lost⟩ := observed
  exact ⟨ended, final, first, replayed, second, lost⟩

end RustScriptAgent.Gateway
