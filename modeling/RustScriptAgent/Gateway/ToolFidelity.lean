import RustScriptAgent.Gateway.DurableIds
import RustScriptAgent.Gateway.ToolReplay

namespace RustScriptAgent.Gateway

open Storage Sequences LlmContentBlock GatewayEvent List Database GatewayStore
open Option hiding or_self

def ToolError.value (error : ToolError) : Json := .obj [("code", .str error.code), ("message", .str error.message)]

def ToolError.fits (error : ToolError) : Bool := decide (error.value.render.utf8ByteSize ≤ maxDurableTextChars)

structure ToolResult.WithinBounds (result : ToolResult) : Prop where
  content : result.content.length ≤ maxDurableTextChars
  data : result.data.render.utf8ByteSize ≤ maxDurableTextChars
  artifacts : result.artifacts.length ≤ 1

def ToolResult.Canonical (result : ToolResult) : Prop := result.error.isSome = !result.ok

def ToolResult.replayed (result : ToolResult) : ToolResult :=
  match result.error with
  | none => result
  | some error => ToolResult.failure error.code (if error.fits then error.message else "tool failed")

structure Replayable (service : Service) (toolCallId : String) (result : ToolResult) : Prop where
  event : (resultData toolCallId result).render.utf8ByteSize ≤ service.maxEventBytes
  failure : ∀ error, result.error = some error → result.content = "" ∧ result.data = .obj [] ∧
    result.truncated = false ∧ result.artifacts = [] ∧ (error.fits = true ∨ error.message = "tool failed")

theorem canonicalToolResult_canonical {value : Json} {result : ToolResult}
    (ok : canonicalToolResult value = .ok result) : result.Canonical := by
  unfold canonicalToolResult at ok
  dsimp only at ok
  split at ok
  · split at ok <;> cases ok
    rfl
  · split at ok <;> cases ok
    rfl
  · cases ok

theorem truncateUtf8Chars_within {text : String} {bound : Nat} (within : text.length ≤ bound) :
    truncateUtf8Chars text bound = (text, false) := if_neg (by omega)

theorem boundStructuredJson_within {value : Json} {retain : Bool}
    (within : value.render.utf8ByteSize ≤ maxDurableTextChars) : boundStructuredJson value retain = (value, false) :=
  if_pos within

section Content

variable {toolCallId : String} {result : ToolResult}

def artifactValue (result : ToolResult) : Option Json := result.artifacts.head?.map fun id => .obj [("id", .str id)]

theorem artifactValue_kept (result : ToolResult) :
    firstArtifact (notNull (firstArtifact (artifactValue result))) = artifactValue result := by
  unfold artifactValue
  cases result.artifacts.head? <;> rfl

theorem success_block (bounds : result.WithinBounds) (success : result.ok) (clean : result.error = none) :
    decodeMessageBlocks (toolResultContentJson toolCallId result) =
      [{ blockType := "tool_result", toolCallId := some toolCallId, content := some result.content,
         isError := some false, result := notNull (some result.data), artifact := artifactValue result,
         truncated := if result.truncated then some true else none }] := by
  have kept := artifactValue_kept result
  simp only [artifactValue] at kept ⊢
  simp only [toolResultContentJson, truncateUtf8Chars_within bounds.content, encodeMessageContent, map_cons,
    map_nil, decodeMessageBlocks, decodeOneBlock_written, success, clean, boundContentBlock, map_some,
    map_none, kept, if_true]
  have data : boundStructuredJson result.data false = (result.data, false) := boundStructuredJson_within bounds.data
  cases result.truncated <;> simp [data]

theorem boundStructuredJson_error (error : ToolError) :
    (boundStructuredJson error.value true).1 = if error.fits then error.value
      else .obj [("code", .str error.code), ("original_bytes", .int error.value.render.utf8ByteSize),
        ("redacted", .bool true), ("truncated", .bool true)] := by
  unfold boundStructuredJson ToolError.fits
  by_cases fits : error.value.render.utf8ByteSize ≤ maxDurableTextChars
  · rw [if_pos fits, decide_eq_true fits]
    rfl
  · rw [if_neg fits, decide_eq_false fits]
    rfl

theorem boundStructuredJson_code (error : ToolError) :
    (boundStructuredJson error.value true).1.getStr? "code" = some error.code := by
  rw [boundStructuredJson_error]
  cases error.fits <;> rfl

theorem boundStructuredJson_message (error : ToolError) :
    (boundStructuredJson error.value true).1.getStr? "message" = if error.fits then some error.message else none := by
  rw [boundStructuredJson_error]
  cases error.fits <;> rfl

theorem failure_block (failed : result.ok = false) {error : ToolError} (held : result.error = some error) :
    ∃ block, decodeMessageBlocks (toolResultContentJson toolCallId result) = [block] ∧
      block.blockType = "tool_result" ∧ block.toolCallId = some toolCallId ∧ block.isError = some true ∧
      block.error = some (boundStructuredJson error.value true).1 := by
  refine ⟨_, by simp only [toolResultContentJson, encodeMessageContent, map_cons, map_nil,
    decodeMessageBlocks, decodeOneBlock_written]; rfl, rfl, rfl, ?_, ?_⟩
  · simp [boundContentBlock, failed]
  · simp only [boundContentBlock, held, map_some]
    show notNull (some (boundStructuredJson error.value true).1) = _
    rw [boundStructuredJson_error]
    cases error.fits <;> rfl

theorem result_block (toolCallId : String) (result : ToolResult) :
    ∃ block, decodeMessageBlocks (toolResultContentJson toolCallId result) = [block] ∧ block.Decoded ∧
      block.text = none := by
  have kept : firstArtifact (notNull (firstArtifact
      (result.artifacts.head?.map fun id => .obj [("id", .str id)]))) =
        artifactValue result := artifactValue_kept result
  refine ⟨_, by simp only [toolResultContentJson, encodeMessageContent, map_cons, map_nil,
    decodeMessageBlocks, decodeOneBlock_written]; rfl, ⟨?_, rfl, notNull_ne_null _, notNull_ne_null _, ?_⟩, rfl⟩
  · simp only [boundContentBlock]
    split_ifs <;> simp_all
  · simp only [boundContentBlock, kept, artifactValue]
    cases result.artifacts.head? <;> simp +contextual [eq_comm]

theorem replay_content (canonical : result.Canonical) (bounds : result.WithinBounds) :
    (decodeMessageBlocks (toolResultContentJson toolCallId result)).findSome? (replayBlock toolCallId) =
      some result.replayed := by
  cases held : result.error with
  | none =>
    have success : result.ok := by simpa [ToolResult.Canonical, held] using canonical
    rw [success_block bounds success held]
    have data : (notNull (some result.data)).getD .null = result.data := by
      cases result.data <;> rfl
    have truncated : (if result.truncated then some true else none : Option Bool).getD false = result.truncated := by
      cases result.truncated <;> rfl
    have artifacts : artifactIds (artifactValue result) = result.artifacts := by
      have one := bounds.artifacts
      unfold artifactValue
      rcases listed : result.artifacts with _ | ⟨id, _ | ⟨second, rest⟩⟩
      · rfl
      · rfl
      · rw [listed, length_cons, length_cons] at one
        omega
    simp only [findSome?_cons, replayBlock, ne_eq, not_true_eq_false, or_self, if_false, some.injEq,
      Bool.false_eq_true, getD_some, data, truncated, artifacts, ToolResult.replayed, held]
    cases result
    simp_all [ToolResult.success]
  | some error =>
    have failed : result.ok = false := by simpa [ToolResult.Canonical, held] using canonical
    obtain ⟨block, blocks, type, call, isError, stored⟩ := @failure_block toolCallId result failed error held
    rw [blocks]
    simp only [findSome?_cons, replayBlock, type, call, isError, stored, ne_eq, not_true_eq_false, or_self,
      if_false, if_true, bind_some, boundStructuredJson_code, boundStructuredJson_message,
      ToolResult.replayed, held]
    cases error.fits <;> rfl

theorem replayed_eq_self (canonical : result.Canonical) :
    result.replayed = result ↔ ∀ error, result.error = some error → result.content = "" ∧ result.data = .obj [] ∧
      result.truncated = false ∧ result.artifacts = [] ∧ (error.fits ∨ error.message = "tool failed") := by
  rcases result with ⟨ok, content, data, error, truncated, artifacts⟩
  cases error with
  | none => simp [ToolResult.replayed]
  | some error =>
    have failed : ok = false := by simpa [ToolResult.Canonical] using canonical
    have same : ToolResult.replayed ⟨ok, content, data, some error, truncated, artifacts⟩ =
          ⟨ok, content, data, some error, truncated, artifacts⟩ ↔
        "" = content ∧ .obj [] = data ∧
          (if error.fits then error.message else "tool failed") = error.message ∧ false = truncated ∧
            [] = artifacts := by
      rcases error with ⟨code, message⟩
      simp [ToolResult.replayed, ToolResult.failure, failed]
    rw [same]
    have spoken : (if error.fits then error.message else "tool failed") = error.message ↔
        error.fits ∨ error.message = "tool failed" := by
      cases error.fits
      · exact ⟨fun kept => .inr kept.symm, fun either => (either.resolve_left (by decide)).symm⟩
      · exact iff_of_true rfl (.inl rfl)
    rw [spoken]
    constructor
    · rintro ⟨content, data, message, truncated, artifacts⟩ other held
      cases held
      exact ⟨content.symm, data.symm, truncated.symm, artifacts.symm, message⟩
    · intro shape
      obtain ⟨content, data, truncated, artifacts, message⟩ := shape error rfl
      exact ⟨content.symm, data.symm, message, truncated.symm, artifacts.symm⟩

end Content

section Recorded

variable (service : Service) (toolCallId name : String) (result : ToolResult)

def recordedData : Json := boundEventData service.maxEventBytes (resultData toolCallId result)

structure ResultInMemory (store : GatewayStore) (run : RunRecord) : Prop where
  event : ∃ event ∈ run.events, closingType event.event = true ∧ event.data = recordedData service toolCallId result
  only : ∀ event ∈ run.events, event.closesCall toolCallId = true → event.data = recordedData service toolCallId result
  parent : ∀ parent, lookupToolCallParent store run.sessionId toolCallId = some parent → parent.2 = name
  message : ∃ session older message newer, store.sessions run.sessionId = some session ∧
    session.messages = older ++ message :: newer ∧ message.toolCallId = some toolCallId ∧
    (∀ stored, message.name = some stored → stored = name) ∧
    decodeMessageBlocks message.content = decodeMessageBlocks (toolResultContentJson toolCallId result) ∧
    ∀ later ∈ newer, later.toolCallId ≠ some toolCallId

structure ResultInTables (db : Database) (run : RunRow) : Prop where
  named : toolCallId ≠ ""
  stored : run ∈ db.runs.rows
  event : ∃ event ∈ db.eventsOf run.id, closingType event.eventType = true ∧
    event.payload = recordedData service toolCallId result
  only : ∀ event ∈ db.eventsOf run.id, closingType event.eventType = true →
    event.payload.getStr? "tool_call_id" = some toolCallId → event.payload = recordedData service toolCallId result
  message : ∃ message ∈ db.messagesOf run.sessionId, message.toolCallId = toolCallId ∧
    (message.name = "" ∨ message.name = name) ∧ message.content = .json (toolResultContentJson toolCallId result) ∧
    ∀ other ∈ db.messagesOf run.sessionId, other.toolCallId = toolCallId → other ≠ message →
      other.ordinal < message.ordinal

end Recorded

section Replay

variable {service : Service} {toolCallId name : String} {result : ToolResult}

theorem resultData_call (toolCallId : String) (result : ToolResult) :
    (resultData toolCallId result).getStr? "tool_call_id" = some toolCallId := by
  unfold resultData Json.getStr?
  split_ifs <;> cases result.error <;> simp [Json.get?, present, Json.asStr?]

theorem recordedData_call :
    (recordedData service toolCallId result).getStr? "tool_call_id" =
      if (resultData toolCallId result).render.utf8ByteSize ≤ service.maxEventBytes then some toolCallId else none := by
  unfold recordedData boundEventData
  by_cases whole : (resultData toolCallId result).render.utf8ByteSize ≤ service.maxEventBytes
  · rw [if_neg (by omega), if_pos whole, resultData_call]
  · rw [if_pos (by omega), if_neg whole]
    rfl

theorem replayMessages_skip {skipped rest : List SessionMessage}
    (others : ∀ message ∈ skipped, message.toolCallId ≠ some toolCallId) :
    replayMessages toolCallId name (skipped ++ rest) = replayMessages toolCallId name rest := by
  induction skipped with
  | nil => rfl
  | cons message more ih =>
    rw [cons_append, replayMessages, if_pos (others message mem_cons_self)]
    exact ih fun other member => others other (mem_cons_of_mem message member)

theorem ResultInMemory.replay {store : GatewayStore} {runId : String} {run : RunRecord}
    (recorded : ResultInMemory service toolCallId name result store run) (found : store.runs runId = some run)
    (canonical : result.Canonical) (bounds : result.WithinBounds) :
    replayDurableToolResult store runId toolCallId name =
      .ok (if (resultData toolCallId result).render.utf8ByteSize ≤ service.maxEventBytes then some result.replayed
        else none) := by
  -- what the replay makes of a recorded result
  split_ifs with whole
  · obtain ⟨event, member, closing, data⟩ := recorded.event
    have ended : run.events.any (fun event => event.closesCall toolCallId) := by
      refine any_eq_true.mpr ⟨event, member, ?_⟩
      simp [closesCall, namesCall, closing, data, recordedData_call, whole]
    have parents : (lookupToolCallParent store run.sessionId toolCallId).any (fun parent => parent.2 != name) =
        false := by
      cases held : lookupToolCallParent store run.sessionId toolCallId with
      | none => rfl
      | some parent => simp [recorded.parent parent held]
    obtain ⟨session, older, message, newer, home, messages, call, names, content, last⟩ := recorded.message
    have named : message.name.any (fun stored => stored != name) = false := by
      cases held : message.name with
      | none => rfl
      | some stored => simp [names stored held]
    have walk : replayMessages toolCallId name session.messages.reverse = .ok (some result.replayed) := by
      rw [messages, reverse_append, reverse_cons, append_assoc, replayMessages_skip (by simpa using last),
        singleton_append, replayMessages, if_neg (by simp [call]), named, if_neg (by decide), content,
        replay_content canonical bounds]
    simp only [replayDurableToolResult, found, ended, Bool.true_eq_false, if_false, replayEnded, parents,
      Bool.false_eq_true, home, map_some, getD_some, walk]
    rfl
  · refine replayDurableToolResult_eq_none.mpr ⟨run, found, fun event member => ?_⟩
    by_contra closes
    rw [Bool.not_eq_false] at closes
    have data := recorded.only event member closes
    simp [closesCall, namesCall, data, recordedData_call, whole] at closes

theorem normalizeMessage_result (parse : String → Option Json) {message : SessionMessage}
    (content : message.content = decodeMessageContent (toolResultContentJson toolCallId result)) :
    normalizeMessage parse message = message := by
  obtain ⟨block, blocks, _, text⟩ := result_block toolCallId result
  have silent : block.toValue.getStr? "text" = none := by
    rw [Json.getStr?, toValue_get? block (by decide), written, text]
    rfl
  have none : admissionInputFromMessageContent parse message.content = none := by
    rw [content, decodeMessageContent, blocks, map_singleton]
    simp [admissionInputFromMessageContent, envelopeRunInput, isObject, silent]
  rw [normalizeMessage, none]

theorem ResultInTables.restart {db : Database} {row : RunRow} {store : GatewayStore}
    (recorded : ResultInTables service toolCallId name result db row)
    (ok : restart service db = .ok store)
    (parent : ∀ parent, lookupToolCallParent store row.sessionId toolCallId = some parent → parent.2 = name) :
    store.runs row.id = some (loadRun db row) ∧
      ResultInMemory service toolCallId name result store (loadRun db row) := by
  -- a result in the tables is a result in the memory of the next process
  obtain ⟨read, sessions, runs⟩ := restart_ok ok
  have found : store.runs row.id = some (loadRun db row) := by
    rw [runs, find_run recorded.stored]
    rfl
  refine ⟨found, ?_, ?_, parent, ?_⟩
  · obtain ⟨event, member, closing, payload⟩ := recorded.event
    exact ⟨loadEvent event, mem_map_of_mem (mem_log.mpr member), closing, payload⟩
  · intro event member closes
    obtain ⟨stored, logged, rfl⟩ := mem_map.mp member
    simp only [closesCall, namesCall, loadEvent, Bool.and_eq_true, beq_iff_eq] at closes
    exact recorded.only stored (mem_log.mp logged) closes.1 closes.2
  · obtain ⟨last, member, call, named, content, latest⟩ := recorded.message
    obtain ⟨stored, own⟩ := mem_messagesOf.mp member
    obtain ⟨message, loaded⟩ := read last stored
    have fields := loadMessage_ok loaded
    have home : store.sessions row.sessionId =
        some ⟨(loadedMessages db row.sessionId).map (normalizeMessage service.parse)⟩ := by
      rw [sessions, if_pos (by rw [← own, fields.session])]
    have text : message.content = decodeMessageContent (toolResultContentJson toolCallId result) := by
      obtain ⟨document, held, decoded⟩ := fields.content
      rw [content] at held
      cases held
      exact decoded
    have names : message.toolCallId = some toolCallId := by
      rw [fields.toolCallId, call, optionalString, if_neg recorded.named]
    let kind (other : SessionMessage) : Bool := decide (other.toolCallId = some toolCallId)
    have latest' : ∀ other ∈ db.messages.rows, other.sessionId = row.sessionId → other ≠ last →
        ∀ read, loadMessage db other = .ok read → kind read → other.ordinal < last.ordinal := by
      intro other otherStored otherOwn different read loaded names
      refine latest other (mem_messagesOf.mpr ⟨otherStored, otherOwn⟩) ?_ different
      simp only [kind, decide_eq_true_eq, (loadMessage_ok loaded).toolCallId, optionalString] at names
      split_ifs at names
      exact some.inj names
    obtain ⟨older, newer, split, others⟩ :=
      loadedMessages_last stored own loaded (by simpa [kind] using names) latest'
    refine ⟨_, older.map (normalizeMessage service.parse), message, newer.map (normalizeMessage service.parse), home,
      ?_, names, ?_, ?_, ?_⟩
    · simp only [split, map_append, map_cons, normalizeMessage_result service.parse text]
    · intro held same
      rw [fields.name, optionalString] at same
      split_ifs at same with empty
      rcases named with none | own
      · exact absurd none empty
      · rw [← own, some.inj same]
    · obtain ⟨block, blocks, decoded, _⟩ := result_block toolCallId result
      rw [text, decodeMessageBlocks_decoded (by simpa [blocks] using decoded)]
    · intro later member
      obtain ⟨source, inside, rfl⟩ := mem_map.mp member
      simpa [kind] using others source inside

end Replay

section Commit

variable {service : Service} {toolCallId : String} {result : ToolResult} {store : GatewayStore} {runId : String}
  {handle : HandleView} {draws : Draws} {event : GatewayEvent} {message : Option SessionMessage}
  {payload : CommitPayload}

theorem outputStep_attached (named : toolCallId ≠ "") : (result.outputStep toolCallId).attached = some result ∧
    (result.outputStep toolCallId).toolCallId = toolCallId := by
  have call : (result.outputStep toolCallId).toolCallId = toolCallId := by
    rw [ToolStep.toolCallId, ToolResult.outputStep, resultData_call, getD_some]
  exact ⟨by rw [ToolStep.attached, call, if_pos ⟨named, rfl⟩]; rfl, call⟩

theorem lookupToolCallParent_pushMessage {made : SessionMessage} (role : made.role = "user") (sessionId call : String) :
    lookupToolCallParent (store.pushMessage made) sessionId call = lookupToolCallParent store sessionId call := by
  unfold lookupToolCallParent pushMessage
  dsimp only
  split_ifs with home
  · cases store.sessions sessionId with
    | none => rfl
    | some session =>
      simp only [map_some, bind_some]
      split_ifs
      · rfl
      · simp [findSome?_append, role]
  · rfl

theorem outputStep_inMemory (name : String) (named : toolCallId ≠ "") (room : 0 < service.maxEventsPerRun)
    (made : commitStep service store runId (result.outputStep toolCallId) handle draws =
      .ok (some (.commit event message payload)))
    (opened : ∀ run, store.runs runId = some run → ∀ event ∈ run.events, event.closesCall toolCallId = false)
    (unknown : ∀ run session, store.runs runId = some run → store.sessions run.sessionId = some session →
      ∀ other ∈ session.messages, other.id ≠ durableMessageId runId "result" toolCallId)
    (caller : ∀ run parent, store.runs runId = some run →
      lookupToolCallParent store run.sessionId toolCallId = some parent → parent.2 = name)
    (seqs : List (String × Int)) :
    ∃ run, ((Reserved.commit event message payload).apply service store seqs).1.runs runId = some run ∧
      ResultInMemory service toolCallId name result
        ((Reserved.commit event message payload).apply service store seqs).1 run := by
  -- the first step of `commit_result`, on a call that has not ended, puts the result into memory
  obtain ⟨run, reserves⟩ := commitStep_reserves made
  obtain ⟨attached, call⟩ := @outputStep_attached toolCallId result named
  obtain ⟨parent, shown, input, lookup, rfl, rfl, attaches⟩ := reserves.attached result attached
  rw [call] at lookup
  have data : event.data = recordedData service toolCallId result := reserves.data
  have fresh : run.hasEvent event.eventId = false := by
    have id := ToolStep.eventId_ne_empty runId (by rwa [call])
    rw [reserves.named id]
    exact Bool.eq_false_of_not_eq_true fun known => reserves.fresh ⟨id, known⟩
  obtain ⟨session, home⟩ : ∃ session, store.sessions run.sessionId = some session := by
    cases held : store.sessions run.sessionId with
    | none => simp [lookupToolCallParent, held] at lookup
    | some session => exact ⟨session, rfl⟩
  let later : RunRecord := applyEvents service run [event]
  have sessionId : later.sessionId = run.sessionId := applyEventLocked_sessionId
  have called : parent.2 = name := caller run parent reserves.found lookup
  refine ⟨later, ?_, ?_, ?_, ?_, ?_⟩
  · simp [Reserved.apply, updateRun, reserves.owner, reserves.found, logEvents, later]
  · exact ⟨event, self_mem_applyEventLocked fresh room, by rw [reserves.type]; rfl, data⟩
  · intro other member closes
    rcases mem_applyEventLocked member with old | new
    · rw [opened run reserves.found other old] at closes
      cases closes
    · rw [new, data]
  · intro found known
    rw [sessionId] at known
    have pushed : lookupToolCallParent ((Reserved.commit event (some shown) (.step input)).apply service store seqs).1
        run.sessionId toolCallId = lookupToolCallParent store run.sessionId toolCallId :=
      lookupToolCallParent_pushMessage attaches.role run.sessionId toolCallId
    rw [pushed, lookup] at known
    rw [← some.inj known, called]
  · have new : ∀ other ∈ session.messages, other.id ≠ shown.id := by
      rw [attaches.id, call]
      exact unknown run session reserves.found home
    rw [← attaches.session] at home
    refine ⟨_, session.messages, shown, [], ?_, rfl, ?_, ?_, ?_, by simp⟩
    · rw [sessionId, Reserved.apply_sessions, ← attaches.session]
      exact pushMessage_new home new
    · rw [attaches.call, call]
    · intro stored same
      rw [attaches.name] at same
      split_ifs at same
      rw [← some.inj same, called]
    · rw [attaches.content, call]

theorem outputStep_inTables (named : toolCallId ≠ "") {input : StepCommitInput} {host : Host} {db : Database}
    {row : RunRow}
    (made : commitStep service store runId (result.outputStep toolCallId) handle draws =
      .ok (some (.commit event message (.step input))))
    (lands : input.Lands host db) (stored : row ∈ db.runs.rows) (own : row.id = runId)
    (home : row.sessionId = input.sessionId)
    (opened : ∀ event ∈ db.eventsOf runId, closingType event.eventType = true →
      event.payload.getStr? "tool_call_id" ≠ some toolCallId)
    (latest : ∀ other ∈ db.messagesOf row.sessionId, other.toolCallId = toolCallId →
      other.ordinal < (input.message db).ordinal) :
    ResultInTables service toolCallId input.name result (storageStepCommit host db input).1
      { row with updatedAtMs := input.nowMs } := by
  -- the answered command of that step, as the newest of a call that has not ended, puts the result into the tables
  obtain ⟨run, reserves⟩ := commitStep_reserves made
  obtain ⟨attached, call⟩ := @outputStep_attached toolCallId result named
  obtain ⟨parent, shown, input', lookup, rfl, same, attaches⟩ := reserves.attached result attached
  cases same
  subst own
  have data : input.event.payload = recordedData service toolCallId result := by
    rw [attaches.event]
    exact reserves.data
  have type : input.event.eventType = .toolOutput := by
    rw [attaches.event]
    exact reserves.type
  have landed := lands.landed (by
    rw [attaches.same.id, attaches.id]
    exact durableMessageId_ne_empty row.id _ _)
  have events := landed.events
  have event := landed.event
  rw [attaches.run] at events event
  refine ⟨named, landed.runs row stored attaches.run.symm, ⟨_, event, ?_, data⟩, ?_, ?_⟩
  · simp [EventFields.row, type, closingType]
  · intro other member closing names
    rcases events other member with old | rfl
    · exact absurd names (opened other old closing)
    · exact data
  · have listed (other : MessageRow) : other ∈ (storageStepCommit host db input).1.messagesOf row.sessionId ↔
        other ∈ db.messagesOf row.sessionId ∨ other = input.message db := by
      rw [mem_messagesOf, landed.messages, mem_append, mem_singleton, mem_messagesOf]
      constructor
      · rintro ⟨old | rfl, own⟩
        · exact .inl ⟨old, own⟩
        · exact .inr rfl
      · rintro (⟨old, own⟩ | rfl)
        · exact ⟨.inl old, own⟩
        · exact ⟨.inr rfl, home.symm⟩
    refine ⟨input.message db, (listed _).mpr (.inr rfl), attaches.callId.trans call, .inr rfl, ?_, ?_⟩
    · have content : input.content = .json (toolResultContentJson toolCallId result) := by
        rw [attaches.same.content, attaches.content, call]
      simp only [StepCommitInput.message, content]
      rfl
    · intro other member names different
      exact latest other (((listed other).mp member).resolve_right different) names

end Commit

theorem tool_result_replay_iff (service : Service) (toolCallId name : String) (value : Json) (result : ToolResult)
    (canonical : canonicalToolResult value = .ok result) (bounds : result.WithinBounds) :
    (∀ store runId run, store.runs runId = some run → ResultInMemory service toolCallId name result store run →
      (replayDurableToolResult store runId toolCallId name = .ok (some result) ↔
        Replayable service toolCallId result)) ∧
    (∀ db row store, ResultInTables service toolCallId name result db row →
      restart service db = .ok store →
      (∀ parent, lookupToolCallParent store row.sessionId toolCallId = some parent → parent.2 = name) →
      (replayDurableToolResult store row.id toolCallId name = .ok (some result) ↔
        Replayable service toolCallId result)) ∧
    ∀ store handle draws event message input host db row, toolCallId ≠ "" →
      commitStep service store row.id (result.outputStep toolCallId) handle draws =
        .ok (some (.commit event message (.step input))) →
      input.Lands host db → row ∈ db.runs.rows → row.sessionId = input.sessionId → input.name = name →
      (∀ event ∈ db.eventsOf row.id, closingType event.eventType = true →
        event.payload.getStr? "tool_call_id" ≠ some toolCallId) →
      (∀ other ∈ db.messagesOf row.sessionId, other.toolCallId = toolCallId →
        other.ordinal < (input.message db).ordinal) →
      ResultInTables service toolCallId name result (storageStepCommit host db input).1
        { row with updatedAtMs := input.nowMs } := by
  -- the first two parts say when a stored result is replayed, the last that an answered command has stored it
  have shaped := canonicalToolResult_canonical canonical
  have inMemory : ∀ store runId run, store.runs runId = some run →
      ResultInMemory service toolCallId name result store run →
      (replayDurableToolResult store runId toolCallId name = .ok (some result) ↔
        Replayable service toolCallId result) := by
    intro store runId run found recorded
    rw [recorded.replay found shaped bounds]
    split_ifs with whole
    · rw [Except.ok.injEq, some.injEq, replayed_eq_self shaped]
      exact ⟨fun failure => ⟨whole, failure⟩, Replayable.failure⟩
    · exact iff_of_false (by simp) fun replayable => whole replayable.event
  refine ⟨inMemory, fun db row store recorded ok parent => ?_, ?_⟩
  · obtain ⟨found, held⟩ := recorded.restart ok parent
    exact inMemory store row.id (loadRun db row) found held
  · rintro store handle draws event message input host db row named made lands stored home rfl opened latest
    exact outputStep_inTables named made lands stored rfl home opened latest

def reportedValue : Json :=
  .obj [("artifacts", .arr [.str "a"]), ("content", .str "out"), ("data", .obj [("n", .int 1)]), ("ok", .bool true)]

def reported : ToolResult := { ToolResult.success "out" (.obj [("n", .int 1)]) with artifacts := ["a"] }

theorem tool_result_replay_of_reported :
    canonicalToolResult reportedValue = .ok reported ∧ reported.WithinBounds ∧
      ∃ event message input restarted, commitStep (soloService 5) callingSystem.store "r" (reported.outputStep "c")
          ownHandle (tagged "0." 3) = .ok (some (.commit event message (.step input))) ∧
        replayDurableToolResult ((Reserved.commit event message (.step input)).apply (soloService 5)
          callingSystem.store []).1 "r" "c" "t" = .ok (some reported) ∧
        input.Lands Host.reference callingSystem.db ∧
        restart (soloService 5) (storageStepCommit Host.reference callingSystem.db input).1 =
          .ok restarted ∧
        replayDurableToolResult restarted "r" "c" "t" = .ok (some reported) := by
  have bounds : reported.WithinBounds := ⟨by decide, by decide +kernel, by decide⟩
  have replayable : Replayable (soloService 5) "c" reported := ⟨by decide +kernel, fun error none => by cases none⟩
  obtain ⟨memory, restart, landed⟩ := tool_result_replay_iff (soloService 5) "c" "t" reportedValue reported rfl bounds
  obtain ⟨event, message, input, made, lands, home, named, opened, latest, answered⟩ : ∃ event message input,
      commitStep (soloService 5) callingSystem.store "r" (reported.outputStep "c") ownHandle (tagged "0." 3) =
          .ok (some (.commit event message (.step input))) ∧
        input.Lands Host.reference callingSystem.db ∧ input.sessionId = "s" ∧ input.name = "t" ∧
        (∀ event ∈ callingSystem.db.eventsOf "r", closingType event.eventType = true →
          event.payload.getStr? "tool_call_id" ≠ some "c") ∧
        (∀ other ∈ callingSystem.db.messagesOf "s", other.toolCallId = "c" →
          other.ordinal < (input.message callingSystem.db).ordinal) ∧
        ((GatewayStore.restart (soloService 5) (storageStepCommit Host.reference callingSystem.db input).1).map
          fun restarted => (lookupToolCallParent restarted "s" "c").map Prod.snd) = .ok (some "t") :=
    ⟨_, _, _, rfl, ⟨by decide +kernel, by decide +kernel, by decide +kernel, by decide +kernel⟩, rfl, rfl,
      by decide +kernel, by decide +kernel, by decide +kernel⟩
  cases ok : GatewayStore.restart (soloService 5) (storageStepCommit Host.reference callingSystem.db input).1 with
  | error error =>
    rw [ok] at answered
    cases answered
  | ok restarted =>
    rw [ok] at answered
    have alone : ∀ run, callingSystem.store.runs "r" = some run → run = soloRecord := fun run found =>
      (some.inj found).symm
    obtain ⟨run, found, inMemory⟩ := outputStep_inMemory "t" (by decide) (by decide) made
      (by
        intro run found
        rw [alone run found]
        decide)
      (by
        intro run session found home
        rw [alone run found] at home
        cases home
        decide)
      (by
        intro run parent found lookup
        rw [alone run found] at lookup
        cases lookup
        rfl) []
    have inTables := landed _ _ _ _ _ input Host.reference callingSystem.db _ (by decide) made lands
      (mem_singleton_self _) home.symm named opened latest
    have parents (parent : String × String) (looked : lookupToolCallParent restarted "s" "c" = some parent) :
        parent.2 = "t" := by
      simpa [Except.map, looked] using answered
    exact ⟨rfl, bounds, event, message, input, restarted, made, (memory _ _ run found inMemory).mpr replayable,
      lands, ok, (restart _ _ restarted inTables ok parents).mpr replayable⟩

def deniedValue : Json :=
  .obj [("content", .str "out"), ("error", .obj [("code", .str "denied"), ("message", .str "no")]), ("ok", .bool false)]

def denied : ToolResult := { ToolResult.failure "denied" "no" with content := "out" }

theorem failed_result_loses_content :
    canonicalToolResult deniedValue = .ok denied ∧ denied.WithinBounds ∧
      ∃ final, Transitions.run (System.next (soloService 5)) callingSystem
          (committedSteps (commitResult "r" "c" denied ownHandle)) = some final ∧
        replayDurableToolResult final.store "r" "c" "t" = .ok (some (ToolResult.failure "denied" "no")) ∧
        ToolResult.failure "denied" "no" ≠ denied := by
  have taken : (Transitions.run (System.next (soloService 5)) callingSystem
      (committedSteps (commitResult "r" "c" denied ownHandle))).map
        (fun final => replayDurableToolResult final.store "r" "c" "t") =
      some (.ok (some (ToolResult.failure "denied" "no"))) := by
    decide +kernel
  obtain ⟨final, reached, replayed⟩ := map_eq_some_iff.mp taken
  exact ⟨rfl, ⟨by decide, by decide +kernel, by decide⟩, final, reached, replayed, by decide⟩

end RustScriptAgent.Gateway
