import RustScriptAgent.Gateway.System
import RustScriptAgent.Storage.Endings

namespace RustScriptAgent.Gateway

open Storage Sequences Option

variable {event : EventType} {run : RunRecord}

structure NextEvent (run : RunRecord) (runId : String) (event : GatewayEvent) : Prop where
  owner : event.runId = runId
  numbered : event.seq = nextSeq run.events
  plain : event.event.ending? = none

structure SameMessage (message : SessionMessage) (input : StepCommitInput) : Prop where
  id : input.messageId = message.id
  session : input.sessionId = message.sessionId
  ordinal : input.ordinal = message.ordinal.getD 0
  role : input.role = message.role
  content : input.content = .json message.content

def NextMessage (store : GatewayStore) (message : SessionMessage) : Prop :=
  message.ordinal = (store.sessions message.sessionId).map nextMessageOrdinal

inductive Drawn (service : Service) (store : GatewayStore) : Reserved → Prop
  | append {run : RunRecord} {runId : String} {event : GatewayEvent} (now : Int)
      (found : store.runs runId = some run) (drawn : NextEvent run runId event) :
      Drawn service store (.commit event none (.eventAppend (appendPayload service runId event now)))
  | step {run : RunRecord} {event : GatewayEvent} {message : SessionMessage} {input : StepCommitInput}
      (found : store.runs input.runId = some run) (drawn : NextEvent run input.runId event)
      (fields : input.event = event.fields) (limit : input.maxEvents = service.maxEventsPerRun)
      (hook : input.failpoint = .none) (placed : NextMessage store message) (same : SameMessage message input) :
      Drawn service store (.commit event (some message) (.step input))
  | pair {run : RunRecord} {first second : GatewayEvent} {input : EventAppendPairInput}
      (found : store.runs input.runId = some run) (drawn : NextEvent run input.runId first)
      (owner : second.runId = input.runId) (numbered : second.seq = first.seq + 1)
      (plain : second.event.ending? = none) (one : input.first = first.fields) (two : input.second = second.fields)
      (limit : input.maxEvents = service.maxEventsPerRun) (hook : input.failpoint = .none) :
      Drawn service store (.pair first second input)
  | transition {run : RunRecord} {runId : String} (fromStatus toStatus : RunStatus) (now : Int)
      (found : store.runs runId = some run) (active : run.status = .started) {event : GatewayEvent}
      {input : RunTransitionInput}
      (event_eq : event = transitionCandidate runId fromStatus toStatus now (nextSeq run.events))
      (input_eq : input = transitionPayload runId fromStatus toStatus now) :
      Drawn service store (.transition event input)
  | terminal {run : RunRecord} {target : TerminalStatus} {call : TerminalCall} {origin : TerminalOrigin}
      (fresh : origin ≠ .retry) (found : store.runs call.runId = some run) (status : call.toStatus = target.text)
      (ends : EndsAs target.durable (call.events.map GatewayEvent.event))
      (numbered : Consecutive (nextSeq run.events) (call.events.map GatewayEvent.seq))
      (owner : ∀ event ∈ call.events, event.runId = call.runId)
      (short : call.events.length ≤ 2)
      (placed : ∀ message, call.assistantMessage = some message →
        target = .completed ∧ message.id ≠ "" ∧ message.sessionId = call.sessionId ∧ NextMessage store message) :
      Drawn service store (.terminal target call origin)

section Committers

variable {service : Service} {store : GatewayStore} {runId : String} {draws : Draws} {reserved : Reserved}

theorem canonicalScriptEvents_plain (listed : event ∈ canonicalScriptEvents) : event.ending? = none := by
  simp only [canonicalScriptEvents, List.mem_cons, List.not_mem_nil, or_false] at listed
  rcases listed with rfl | rfl | rfl | rfl | rfl | rfl | rfl | rfl | rfl | rfl | rfl | rfl | rfl | rfl <;> rfl

theorem ToolEvent.type_plain (event : ToolEvent) : event.type.ending? = none := by
  cases event <;> rfl

theorem nextEvent_candidate (found : store.runs runId = some run) (fresh : String) (now : Int)
    (plain : event.ending? = none) (data : Json) :
    NextEvent run runId (eventCandidate service run fresh now event data) :=
  ⟨store.keyed runId run found, rfl, plain⟩

theorem NextEvent.withId {event : GatewayEvent} (drawn : NextEvent run runId event)
    (eventId : String) : NextEvent run runId (event.withId eventId) := by
  unfold GatewayEvent.withId
  split_ifs
  · exact drawn
  · exact ⟨drawn.owner, drawn.numbered, drawn.plain⟩

theorem deliver_drawn {data : Json}
    (ok : deliver service store runId event data draws = some reserved) : Drawn service store reserved := by
  simp only [deliver, bind_eq_bind, bind_eq_some_iff, guard_eq_some', pure_def,
    some.injEq] at ok
  obtain ⟨_, listed, run, found, _, _, rfl⟩ := ok
  exact .append _ found (nextEvent_candidate found _ _ (canonicalScriptEvents_plain listed) data)

theorem persistProviderEvent_drawn {eventId : String} {event : ProviderEvent} {payload : Json}
    (ok : persistProviderEvent service store runId eventId event payload draws = .ok (some reserved)) :
    Drawn service store reserved := by
  unfold persistProviderEvent at ok
  cases found : store.runs runId with
  | none => simp [found] at ok
  | some run =>
    simp only [found] at ok
    split_ifs at ok
    · cases ok
    · cases ok
      refine .append _ found ⟨store.keyed runId run found, rfl, ?_⟩
      cases event <;> rfl

theorem commitProviderStep_drawn {step : ProviderStep} {envelope : Json}
    (ok : commitProviderStep service store runId step draws = .ok (.fresh envelope reserved)) :
    Drawn service store reserved := by
  unfold commitProviderStep at ok
  cases first : validateProviderBlocks service.parse step.blocks with
  | error error => simp [first, bind, Except.bind] at ok
  | ok _ =>
    cases second : validateProviderBlocks service.parse (decodeMessageBlocks step.content) with
    | error error => simp [first, second, bind, Except.bind] at ok
    | ok _ =>
      cases found : store.runs runId with
      | none => simp [first, second, found, bind, Except.bind] at ok
      | some run =>
        simp only [first, second, found, bind, Except.bind, pure, Except.pure] at ok
        split_ifs at ok
        · split at ok <;> cases ok
        · split at ok
          · cases ok
          · cases ok
            exact .step found ⟨store.keyed runId run found, rfl, rfl⟩ rfl rfl rfl rfl ⟨rfl, rfl, rfl, rfl, rfl⟩

theorem commitStep_drawn {step : ToolStep} {handle : HandleView}
    (ok : commitStep service store runId step handle draws = .ok (some reserved)) :
    Drawn service store reserved := by
  unfold commitStep at ok
  split_ifs at ok
  cases found : store.runs runId with
  | none => simp [found] at ok
  | some run =>
    have drawn := (nextEvent_candidate found (draws.ids 0) (draws.clock 0) step.event.type_plain
      step.data : NextEvent run runId (eventCandidate service run _ _ _ _)).withId (step.eventId runId)
    simp only [found] at ok
    split_ifs at ok
    · cases ok
    · cases attached : step.attached with
      | none =>
        simp only [attached, bind, Except.bind, pure, Except.pure] at ok
        split at ok
        · cases ok
        · cases ok
          exact .append _ found drawn
      | some result =>
        simp only [attached, bind, Except.bind, pure, Except.pure] at ok
        split at ok
        · cases ok
        · split at ok
          · cases ok
          · cases ok
            exact .step found drawn rfl rfl rfl rfl ⟨rfl, rfl, rfl, rfl, rfl⟩

theorem commitHalf_drawn (found : store.runs runId = some run) (half : ToolStep) :
    Drawn service store (commitHalf service run runId half draws) :=
  .append _ found ((nextEvent_candidate found _ _ half.event.type_plain half.data).withId _)

theorem commitPair_drawn {first second : ToolStep} {handle : HandleView}
    (ok : commitPair service store runId first second handle draws = .ok (some reserved)) :
    Drawn service store reserved := by
  unfold commitPair at ok
  split_ifs at ok
  cases found : store.runs runId with
  | none => simp [found] at ok
  | some run =>
    simp only [found] at ok
    split_ifs at ok
    split at ok
    · cases ok
    · cases ok
      exact commitHalf_drawn found first
    · cases ok
      exact commitHalf_drawn found second
    · cases ok
      have one := (nextEvent_candidate found (draws.ids 0) (draws.clock 0) first.event.type_plain
        first.data : NextEvent run runId (eventCandidate service run _ _ _ _)).withId (first.eventId runId)
      have two := (nextEvent_candidate found (draws.ids 1) (draws.clock 1) second.event.type_plain
        second.data : NextEvent run runId (eventCandidate service run _ _ _ _)).withId (second.eventId runId)
      exact .pair found one two.owner rfl two.plain rfl rfl rfl rfl

theorem transitionCompactionRun_drawn {fromStatus toStatus : RunStatus}
    (ok : transitionCompactionRun store runId fromStatus toStatus draws = .ok reserved) :
    Drawn service store reserved := by
  unfold transitionCompactionRun at ok
  cases found : store.runs runId with
  | none => simp [found] at ok
  | some run =>
    simp only [found] at ok
    split_ifs at ok with active
    cases ok
    exact .transition fromStatus toStatus _ found (not_not.mp active) rfl rfl

theorem endsAs_singleton (target : TerminalStatus) : EndsAs target.durable [target.event] := by
  cases target <;> exact ⟨by decide, by simp [TerminalStatus.event, TerminalStatus.durable, EventType.ending?]⟩

theorem commitCompletedOnce_drawn {sessionId output : String}
    (ok : commitCompletedOnce service store runId sessionId output draws = .ok reserved) :
    Drawn service store reserved := by
  unfold commitCompletedOnce at ok
  cases found : store.runs runId with
  | none => simp [found] at ok
  | some run =>
    cases home : store.sessions sessionId with
    | none =>
      simp only [found, home] at ok
      split_ifs at ok
    | some session =>
      have owner := store.keyed runId run found
      simp only [found, home] at ok
      split_ifs at ok
      · cases ok
        exact .terminal (by decide) found rfl (endsAs_singleton .completed) ⟨rfl, trivial⟩
          (by simpa [terminalCall, eventCandidate] using owner) (by simp [terminalCall]) (by simp [terminalCall])
      · cases ok
        refine .terminal (by decide) found rfl ⟨by simp [terminalCall, eventCandidate, EventType.ending?], ?_⟩
          ⟨rfl, rfl, trivial⟩ (by simpa [terminalCall, eventCandidate] using owner) (by simp [terminalCall]) ?_
        · simp [terminalCall, eventCandidate, EventType.ending?, TerminalStatus.durable]
        · intro message same
          cases same
          exact ⟨rfl, draws.named 0, rfl, by simp [NextMessage, completionMessage, home]⟩

theorem commitEndedOnce_drawn {target : TerminalStatus} {data : Json}
    (ok : commitEndedOnce service store runId target data draws = .ok reserved) : Drawn service store reserved := by
  unfold commitEndedOnce at ok
  cases found : store.runs runId with
  | none => simp [found] at ok
  | some run =>
    simp only [found] at ok
    split_ifs at ok
    cases ok
    exact .terminal (by decide) found rfl (endsAs_singleton target) ⟨rfl, trivial⟩
      (by simpa [terminalCall, eventCandidate] using store.keyed runId run found) (by simp [terminalCall])
      (by simp [terminalCall])

theorem completeCompactionLifecycleRun_drawn
    (ok : completeCompactionLifecycleRun store runId draws = .ok reserved) : Drawn service store reserved := by
  unfold completeCompactionLifecycleRun at ok
  cases found : store.runs runId with
  | none => simp [found] at ok
  | some run =>
    simp only [found] at ok
    cases ok
    exact .terminal (by decide) found rfl (endsAs_singleton .completed) ⟨rfl, trivial⟩ (by simp [terminalCall])
      (by simp [terminalCall]) (by simp [terminalCall])

theorem toOption_eq_some {ε α : Type} {outcome : Except ε α} {value : α} :
    outcome.toOption = some value ↔ outcome = .ok value := by
  cases outcome <;> simp [Except.toOption]

theorem toOption_join_eq_some {ε α : Type} {outcome : Except ε (Option α)} {value : α} :
    outcome.toOption.join = some value ↔ outcome = .ok (some value) := by
  rcases outcome with error | _ | result <;> simp [Except.toOption]

theorem Request.reserve_drawn {request : Request} (made : request.reserve service store draws = some reserved) :
    Drawn service store reserved := by
  cases request with
  | deliver runId event data => exact deliver_drawn made
  | providerEvent runId eventId event payload =>
    exact persistProviderEvent_drawn (toOption_join_eq_some.mp made)
  | providerStep runId step =>
    simp only [Request.reserve] at made
    split at made
    · rename_i envelope commit ok
      cases made
      exact commitProviderStep_drawn ok
    · cases made
  | toolStep runId step handle => exact commitStep_drawn (toOption_join_eq_some.mp made)
  | toolPair runId first second handle => exact commitPair_drawn (toOption_join_eq_some.mp made)
  | transition runId fromStatus toStatus => exact transitionCompactionRun_drawn (toOption_eq_some.mp made)
  | complete runId sessionId output => exact commitCompletedOnce_drawn (toOption_eq_some.mp made)
  | cancel runId reason => exact commitEndedOnce_drawn (toOption_eq_some.mp made)
  | fail runId data => exact commitEndedOnce_drawn (toOption_eq_some.mp made)
  | completeCompaction runId => exact completeCompactionLifecycleRun_drawn (toOption_eq_some.mp made)

end Committers

namespace System

variable {service : Service} {system later : System}

theorem finishApplied_db (seqs : List (String × Int)) (commit : Reserved) :
    (system.finishApplied service seqs commit).db = system.db := by
  unfold finishApplied
  dsimp only
  split <;> rfl

theorem next_cases {label : Label} (taken : system.next service label = some later) :
    (∃ outcome commit, label = .persist outcome ∧ system.flight = some (.reserved commit) ∧
        later = system.persist service commit outcome) ∨
      (later.db = system.db ∧
        (later.flight = system.flight ∨ later.flight = none ∨
          ∃ commit, later.flight = some (.reserved commit) ∧
            (Drawn service system.store commit ∨
              ∃ runId pending draws, system.pending runId = some pending ∧
                commit = retryPendingTerminal runId pending draws))) := by
  cases steps_of_next taken with
  | @begin request draws =>
    refine .inr ⟨rfl, ?_⟩
    cases made : request.reserve service system.store draws with
    | none => exact .inr (.inl rfl)
    | some commit => exact .inr (.inr ⟨commit, rfl, .inl (Request.reserve_drawn made)⟩)
  | retry parked => exact .inr ⟨rfl, .inr (.inr ⟨_, rfl, .inr ⟨_, _, _, parked, rfl⟩⟩)⟩
  | persist flying => exact .inl ⟨_, _, rfl, flying, rfl⟩
  | applied flying => exact .inr ⟨finishApplied_db _ _, .inr (.inl rfl)⟩
  | handBack | giveUp | failed => exact .inr ⟨rfl, .inr (.inl rfl)⟩
  | idle | drop | expire | stop | halt | park => exact .inr ⟨rfl, .inl rfl⟩

end System

end RustScriptAgent.Gateway
