import RustScriptAgent.Gateway.Blocks
import RustScriptAgent.Gateway.DurableIds
import RustScriptAgent.Gateway.Load
import RustScriptAgent.Gateway.Memory
import RustScriptAgent.Gateway.ProviderStep

namespace RustScriptAgent.Gateway

open Storage LlmContentBlock List Database Json GatewayStore

variable {block : LlmContentBlock} {blocks : List LlmContentBlock} {content metadata : Json} {run : RunRecord}
    {db : Database}

def replayProviderEnvelope (service : Service) (store : GatewayStore) (runId : String) (turn : Nat) :
    Except EventCommitError (Option Json) :=
  match store.runs runId with
  | none => .error .terminal
  | some run =>
    let completedId := durableProviderEventId runId turn "model.completed"
    let messageId := durableMessageId runId "turn" (toString turn)
    let completed := run.events.find? fun event => event.eventId == completedId
    let message := (store.sessions run.sessionId).bind fun session =>
      session.messages.find? fun message => message.id == messageId
    match completed, message with
    | none, none => .ok none
    | some event, some message =>
      if message.role = "assistant" then
        (reconstructProviderEnvelope service.parse message.content message.metadata
          (message.finishReason <|> event.data.getStr? "finish_reason")).map some
      else .error (.corrupt "durable provider step is incomplete")
    | _, _ => .error (.corrupt "durable provider step is incomplete")

section Content

variable {parse : String → Option Json}

def strictReading (parse : String → Option Json) (block : LlmContentBlock) : Except EventCommitError LlmContentBlock :=
  if block.blockType = "text" then
    match block.text with
    | none => .error (.corrupt "text block requires string text")
    | some text => .ok { blockType := "text", text := some text, truncated := block.truncated }
  else if block.blockType = "tool_call" then
    let id := block.toolCallId.getD ""
    let name := block.name.getD ""
    if id = "" ∨ name = "" then .error (.corrupt "tool_call missing id or name")
    else if block.truncated = some true then .error (.corrupt "tool_call arguments are truncated")
    else do
      let arguments ← parseStrictToolArguments parse block.toValue
      return { blockType := "tool_call", toolCallId := some id, name := some name,
               argumentsJson := some arguments, truncated := block.truncated }
  else .error (.corrupt ("unknown provider content block type: " ++ block.blockType))

theorem decodeProviderBlockStrict_toValue (block : LlmContentBlock) :
    decodeProviderBlockStrict parse block.toValue = strictReading parse block := by
  have type : block.toValue.getStr? "type" = some block.blockType := by
    rw [getStr?, toValue_get? block (by decide)]
    rfl
  have text : block.toValue.getStr? "text" = block.text := by
    rw [getStr?, toValue_get? block (by decide), written]
    cases block.text <;> rfl
  have truncated : (block.toValue.get? "truncated").bind asBool? = block.truncated := by
    rw [toValue_get? block (by decide), written]
    cases block.truncated <;> rfl
  have name : block.toValue.getStr? "name" = block.name := by
    rw [getStr?, toValue_get? block (by decide), written]
    cases block.name <;> rfl
  have other : block.toValue.get? "id" = none := by
    simp [toValue, get?, find?_present]
  have call : ((block.toValue.get? "tool_call_id" <|> block.toValue.get? "id").bind asStr?) = block.toolCallId := by
    rw [other, toValue_get? block (by decide), written]
    cases block.toolCallId <;> rfl
  obtain ⟨field, fields, same⟩ : ∃ field fields, block.toValue = .obj (field :: fields) := by
    unfold toValue
    cases listed : present "arguments" id block.arguments ++ present "arguments_json" str block.argumentsJson ++
        present "artifact" id block.artifact ++ present "content" str block.content ++
        present "error" id block.error ++ present "is_error" bool block.isError ++
        present "name" str block.name ++ present "result" id block.result ++
        present "text" str block.text ++ present "tool_call_id" str block.toolCallId ++
        present "truncated" bool block.truncated with
    | nil => exact ⟨_, _, rfl⟩
    | cons field fields => exact ⟨_, _, rfl⟩
  unfold strictReading
  rw [same] at type text truncated name call ⊢
  simp only [decodeProviderBlockStrict, type, text, truncated, name, call]
  by_cases spoken : block.blockType = "text"
  · cases block.text <;> simp only [spoken, if_true]
  · by_cases called : block.blockType = "tool_call"
    · simp only [called, if_true]
      exact (if_neg (by decide : ¬"tool_call" = "text")).symm
    · simp only [spoken, called, if_false]

structure LlmContentBlock.Bounded (block : LlmContentBlock) : Prop where
  arguments : block.arguments = none
  truncated : block.truncated ≠ some false

theorem boundContentBlock_bounded (block : LlmContentBlock) : (boundContentBlock block).Bounded := by
  refine ⟨rfl, ?_⟩
  unfold boundContentBlock
  dsimp only
  split_ifs <;> simp

theorem strictReading_decodeOneBlock (bounded : block.Bounded) :
    strictReading parse (decodeOneBlock block.toValue) = strictReading parse block := by
  have arguments : parseStrictToolArguments parse (decodeOneBlock block.toValue).toValue =
      parseStrictToolArguments parse block.toValue := by
    simp only [parseStrictToolArguments]
    rw [toValue_get? _ (by decide), toValue_get? _ (by decide), toValue_get? block (by decide),
      toValue_get? block (by decide), decodeOneBlock_written]
    simp [written, bounded.arguments]
  unfold strictReading
  rw [arguments, decodeOneBlock_written]
  simp only [if_neg bounded.truncated]

theorem mapM_map_congr {ε α β γ : Type} {read : β → Except ε γ} {first second : α → β} {items : List α}
    (same : ∀ item ∈ items, read (first item) = read (second item)) :
    (items.map first).mapM read = (items.map second).mapM read := by
  induction items with
  | nil => rfl
  | cons item rest ih =>
    rw [map_cons, map_cons, mapM_cons, mapM_cons, same item mem_cons_self,
      ih fun other member => same other (mem_cons_of_mem item member)]

theorem decodeProviderBlocksStrict_loaded (bounded : ∀ block ∈ blocks, block.Bounded) :
    decodeProviderBlocksStrict parse (decodeMessageContent (.arr (blocks.map toValue))) =
      decodeProviderBlocksStrict parse (.arr (blocks.map toValue)) := by
  rw [decodeMessageContent, decodeMessageBlocks, decodeProviderBlocksStrict, decodeProviderBlocksStrict, map_map,
    map_map]
  refine mapM_map_congr fun block member => ?_
  rw [Function.comp_apply, Function.comp_apply, decodeProviderBlockStrict_toValue, decodeProviderBlockStrict_toValue,
    strictReading_decodeOneBlock (bounded block member)]

theorem reconstruct_loaded (step : ProviderStep) (metadata : Json) (finishReason : Option String) :
    reconstructProviderEnvelope parse (decodeMessageContent step.content) metadata finishReason =
      reconstructProviderEnvelope parse step.content metadata finishReason := by
  have content : step.content = .arr ((step.blocks.map boundContentBlock).map toValue) := by
    rw [ProviderStep.content, encodeMessageContent, map_map]
    rfl
  have bounded : ∀ block ∈ step.blocks.map boundContentBlock, block.Bounded := by
    intro block member
    obtain ⟨source, _, rfl⟩ := mem_map.mp member
    exact boundContentBlock_bounded source
  unfold reconstructProviderEnvelope
  rw [content, decodeProviderBlocksStrict_loaded bounded]

def blockText (block : LlmContentBlock) : String := if block.blockType = "text" then block.text.getD "" else ""

def envelopeText (envelope : Json) : Option String := (envelope.get? "response").bind (getStr? "text")

def envelopeFinish (envelope : Json) : Option Json := (envelope.get? "response").bind (get? "stop_reason")

theorem namedEntry_find? (key other : String) (metadata : Json) (differ : key ≠ other) :
    (namedEntry key metadata).find? (fun field => field.1 == other) = none := by
  unfold namedEntry
  split
  · rfl
  · rw [find?_present, if_neg differ]

theorem reconstruct_ok {envelope : Json} {finishReason : Option String}
    (ok : reconstructProviderEnvelope parse content metadata finishReason = .ok envelope) :
    ∃ blocks, decodeProviderBlocksStrict parse content = .ok blocks ∧
      envelopeText envelope = some (String.join (blocks.map blockText)) ∧
      envelopeFinish envelope = finishReason.map .str := by
  unfold reconstructProviderEnvelope at ok
  cases decoded : decodeProviderBlocksStrict parse content with
  | error error => simp [decoded, bind, Except.bind] at ok
  | ok blocks =>
    refine ⟨blocks, rfl, ?_⟩
    simp only [decoded, bind, Except.bind] at ok
    split at ok
    · cases ok
    · split at ok
      · cases ok
      · cases ok
        have skipped (key other : String) (differ : key ≠ other) := namedEntry_find? key other metadata differ
        constructor
        · simp [envelopeText, getStr?, get?, find?_present, skipped "model" "text" (by decide),
            skipped "provider" "text" (by decide), asStr?]
          rfl
        · simp [envelopeFinish, get?, find?_present, skipped "model" "stop_reason" (by decide),
            skipped "provider" "stop_reason" (by decide)]
          cases finishReason <;> rfl

theorem reconstruct_finish {envelope : Json} {first second : Option String}
    (ok : reconstructProviderEnvelope parse content metadata first = .ok envelope) :
    reconstructProviderEnvelope parse content metadata second = .ok envelope ↔ second = first := by
  constructor
  · intro other
    obtain ⟨_, _, _, one⟩ := reconstruct_ok ok
    obtain ⟨_, _, _, two⟩ := reconstruct_ok other
    have same := two.symm.trans one
    cases first <;> cases second <;> simp_all
  · rintro rfl
    exact ok

theorem strictReading_text {read : LlmContentBlock} (ok : strictReading parse block = .ok read) :
    blockText read = blockText block := by
  unfold strictReading at ok
  dsimp only at ok
  split_ifs at ok with spoken called
  · cases held : block.text with
    | none => simp [held] at ok
    | some text =>
      simp only [held, Except.ok.injEq] at ok
      simp [blockText, ← ok, spoken, held]
  · cases arguments : parseStrictToolArguments parse block.toValue with
    | error error => simp [arguments, bind, Except.bind] at ok
    | ok text =>
      simp only [arguments, bind, Except.bind, pure, Except.pure, Except.ok.injEq] at ok
      simp [blockText, ← ok, spoken]

theorem decodeProviderBlocksStrict_text {read : List LlmContentBlock}
    (ok : decodeProviderBlocksStrict parse (.arr (blocks.map toValue)) = .ok read) :
    read.map blockText = blocks.map blockText := by
  rw [decodeProviderBlocksStrict] at ok
  induction blocks generalizing read with
  | nil =>
    cases ok
    rfl
  | cons block rest ih =>
    rw [map_cons, mapM_cons, decodeProviderBlockStrict_toValue] at ok
    cases first : strictReading parse block with
    | error error => simp [first, bind, Except.bind] at ok
    | ok taken =>
      cases others : (rest.map toValue).mapM (decodeProviderBlockStrict parse) with
      | error error => simp [first, others, bind, Except.bind] at ok
      | ok more =>
        simp only [first, others, bind, Except.bind, pure, Except.pure, Except.ok.injEq] at ok
        rw [← ok, map_cons, map_cons, strictReading_text first, ih others]

theorem reconstruct_marks {input envelope : Json} {finishReason : Option String} {text : String}
    (ok : reconstructProviderEnvelope parse (decodeMessageContent input) metadata finishReason = .ok envelope)
    (held : envelopeText envelope = some text) : marks text ≤ marks input.render := by
  obtain ⟨blocks, read, spoken, _⟩ := reconstruct_ok ok
  rw [held] at spoken
  cases spoken
  have each : ∀ block : LlmContentBlock, marks (blockText block) ≤ marks (block.text.getD "") := by
    intro block
    unfold blockText
    split_ifs
    · exact le_refl _
    · simp
  have whole := spokenMarks_le input
  rw [marks_join, decodeProviderBlocksStrict_text read, map_map]
  exact (sum_le_sum fun block _ => each block).trans whole

def leadingContext (parse : String → Option Json) (blocks : List LlmContentBlock) : Option Json :=
  ((blocks.head?.bind LlmContentBlock.text).bind parse).bind envelopeRunInput

theorem validateProviderBlocks_text (ok : validateProviderBlocks parse blocks = .ok ())
    (member : block ∈ blocks) : (block.text.getD "").length ≤ maxDurableTextChars := by
  induction blocks with
  | nil => cases member
  | cons first rest ih =>
    change (validateProviderBlock parse first >>= fun _ => validateProviderBlocks parse rest) = .ok () at ok
    cases head : validateProviderBlock parse first with
    | error error => simp [head, bind, Except.bind] at ok
    | ok done =>
      rcases mem_cons.mp member with rfl | later
      · by_contra long
        rw [not_le] at long
        simp [validateProviderBlock, long, throw, throwThe, MonadExceptOf.throw, bind, Except.bind] at head
      · simp only [head, bind, Except.bind] at ok
        exact ih ok later

theorem boundContentBlock_text (short : (block.text.getD "").length ≤ maxDurableTextChars) :
    (boundContentBlock block).text = block.text := by
  cases held : block.text with
  | none => simp [boundContentBlock, held]
  | some text =>
    rw [held, Option.getD_some] at short
    simp [boundContentBlock, held, truncateUtf8Chars, Nat.not_lt.mpr short]

theorem admissionInput_loaded {step : ProviderStep} (ok : validateProviderBlocks parse step.blocks = .ok ()) :
    admissionInputFromMessageContent parse (decodeMessageContent step.content) =
      leadingContext parse step.blocks := by
  rw [ProviderStep.content, encodeMessageContent, decodeMessageContent, decodeMessageBlocks, map_map, map_map]
  unfold leadingContext
  cases blocks : step.blocks with
  | nil => rfl
  | cons block rest =>
    have short := validateProviderBlocks_text ok (by rw [blocks]; exact mem_cons_self)
    have text : (decodeOneBlock (boundContentBlock block).toValue).toValue.getStr? "text" = block.text := by
      rw [getStr?, toValue_get? _ (by decide), decodeOneBlock_written, written, boundContentBlock_text short]
      cases block.text <;> rfl
    have noEnvelope (items : List Json) : envelopeRunInput (.arr items) = none := by
      simp [envelopeRunInput, isObject]
    simp [admissionInputFromMessageContent, noEnvelope, text, head?_cons]

def Silent (blocks : List LlmContentBlock) : Prop :=
  ∀ block ∈ blocks, block.blockType ≠ "text" → block.text = none

theorem decodeProviderBlocksStrict_silent
    (ok : decodeProviderBlocksStrict parse content = .ok blocks) : Silent blocks := by
  cases content with
  | arr items =>
    obtain ⟨rfl, _⟩ := mapM_ok ok
    intro block member other
    obtain ⟨item, _, read⟩ := mem_filterMap.mp member
    cases outcome : decodeProviderBlockStrict parse item with
    | error error => simp [outcome, Except.toOption] at read
    | ok made =>
      simp only [outcome, Except.toOption, Option.some.injEq] at read
      subst read
      unfold decodeProviderBlockStrict at outcome
      split at outcome
      · cases outcome
      · dsimp only at outcome
        split at outcome
        · cases outcome
        · split at outcome
          · cases outcome
          · cases outcome
            exact absurd rfl other
        · split_ifs at outcome
          simp only [bind, Except.bind] at outcome
          split at outcome
          · cases outcome
          · cases outcome
            rfl
        · cases outcome
      · cases outcome
  | _ => cases ok

theorem canonicalProviderStep_silent {envelope request : Json} {canonical : CanonicalProviderStep}
    (ok : canonicalProviderStepFromEnvelope parse envelope request = .ok canonical) : Silent canonical.blocks := by
  have complete {response : Json} {decoded : List LlmContentBlock} (silent : Silent decoded) :
      Silent (completeBlocks parse response decoded) := by
    intro block member other
    unfold completeBlocks at member
    dsimp only at member
    split_ifs at member
    all_goals
      simp only [mem_append, mem_singleton, mem_map, map_nil, not_mem_nil, or_false] at member
    all_goals
      first
      | (subst member; exact absurd rfl other)
      | exact silent block member other
      | (rcases member with rfl | ⟨call, _, rfl⟩
         · exact absurd rfl other
         · rfl)
      | (rcases member with inside | ⟨call, _, rfl⟩
         · exact silent block inside other
         · rfl)
  unfold canonicalProviderStepFromEnvelope at ok
  dsimp only at ok
  split at ok
  · cases ok
  · split_ifs at ok
    unfold canonicalProviderStep at ok
    split at ok
    · cases ok
      exact complete fun block member => by cases member
    · rename_i content held
      cases decoded : decodeProviderBlocksStrict parse content with
      | error error => simp [decoded, Except.mapError, bind, Except.bind] at ok
      | ok blocks =>
        simp only [decoded, Except.mapError, bind, Except.bind, pure, Except.pure, Except.ok.injEq] at ok
        rw [← ok]
        exact complete (decodeProviderBlocksStrict_silent decoded)

theorem reconstruct_rewritten {step : ProviderStep} {input envelope : Json}
    {first second : Option String} (compacts : Json.Compacts parse) (silent : Silent step.blocks)
    (valid : validateProviderBlocks parse step.blocks = .ok ())
    (ok : reconstructProviderEnvelope parse step.content metadata first = .ok envelope)
    (rewritten : leadingContext parse step.blocks = some input) :
    reconstructProviderEnvelope parse (decodeMessageContent input) metadata second ≠ .ok envelope := by
  -- a step whose message is rewritten on loading does not give its envelope back
  intro again
  unfold leadingContext at rewritten
  cases blocks : step.blocks with
  | nil => simp [blocks] at rewritten
  | cons block rest =>
    rw [blocks, head?_cons, Option.bind_some] at rewritten
    obtain ⟨document, parsed, context⟩ := Option.bind_eq_some_iff.mp rewritten
    obtain ⟨text, held, read⟩ := Option.bind_eq_some_iff.mp parsed
    have spoken : block.blockType = "text" := by
      by_contra other
      have none := silent block (by rw [blocks]; exact mem_cons_self) other
      rw [none] at held
      cases held
    obtain ⟨decoded, strict, whole, _⟩ := reconstruct_ok ok
    have short := validateProviderBlocks_text valid (by rw [blocks]; exact mem_cons_self)
    have content : step.content = .arr ((step.blocks.map boundContentBlock).map toValue) := by
      rw [ProviderStep.content, encodeMessageContent, map_map]
      rfl
    rw [content] at strict
    have texts := decodeProviderBlocksStrict_text strict
    have lead : blockText (boundContentBlock block) = text := by
      have type : (boundContentBlock block).blockType = "text" := spoken
      rw [blockText, if_pos type, boundContentBlock_text short, held, Option.getD_some]
    rw [blocks, map_cons, map_cons, lead] at texts
    rw [texts, String.join_cons] at whole
    -- what the context holds is less than its own text, and that text is only the beginning
    have less := reconstruct_marks again whole
    have inner := envelopeRunInput_marks context
    have outer := compacts text document read
    rw [marks_append] at less
    omega

end Content

section Stored

variable (service : Service) (runId : String) (step : ProviderStep)

structure StepInMemory (store : GatewayStore) (run : RunRecord) : Prop where
  event : ∃ event, run.events.find? (fun event => event.eventId == step.eventId runId) = some event ∧
    event.data = boundEventData service.maxEventBytes step.eventData
  message : ∃ session message, store.sessions run.sessionId = some session ∧
    session.messages.find? (fun message => message.id == step.messageId runId) = some message ∧
    message.role = "assistant" ∧ message.content = step.content ∧ message.metadata = step.metadata ∧
    message.finishReason = step.finishReason

structure StepInTables (db : Database) (row : RunRow) : Prop where
  stored : row ∈ db.runs.rows
  event : ∃ event ∈ db.eventsOf row.id, event.eventId = step.eventId row.id ∧
    event.payload = boundEventData service.maxEventBytes step.eventData
  message : ∃ message ∈ db.messagesOf row.sessionId, message.id = step.messageId row.id ∧
    message.role = "assistant" ∧ message.content = .json step.content ∧ message.metadata = .json step.metadata ∧
    message.finishReason = step.finishReason.getD ""

def FinishKnown : Prop :=
  step.finishReason ≠ none ∨ service.maxEventBytes < step.eventData.render.utf8ByteSize

variable {service runId step}

theorem recordedFinish : (boundEventData service.maxEventBytes step.eventData).getStr? "finish_reason" =
      if service.maxEventBytes < step.eventData.render.utf8ByteSize then none
      else some (step.finishReason.getD "") := by
  unfold boundEventData
  split_ifs <;> rfl

theorem replay_stored (service : Service) {store : GatewayStore} {session : SessionRecord} {message : SessionMessage}
    {event : GatewayEvent} (found : store.runs runId = some run)
    (logged : run.events.find? (fun event => event.eventId == step.eventId runId) = some event)
    (home : store.sessions run.sessionId = some session)
    (listed : session.messages.find? (fun message => message.id == step.messageId runId) = some message)
    (role : message.role = "assistant") :
    existingProviderCommit service store run (step.messageId runId) =
        reconstructProviderEnvelope service.parse message.content message.metadata message.finishReason ∧
      replayProviderEnvelope service store runId step.turn =
        (reconstructProviderEnvelope service.parse message.content message.metadata
          (message.finishReason <|> event.data.getStr? "finish_reason")).map some := by
  constructor
  · simp [existingProviderCommit, home, listed, role]
  · rw [ProviderStep.eventId] at logged
    rw [ProviderStep.messageId] at listed
    simp only [replayProviderEnvelope, found, logged, home, Option.bind_some, listed, role, if_true]

theorem map_some_ok {outcome : Except EventCommitError Json} {envelope : Json} :
    outcome.map some = .ok (some envelope) ↔ outcome = .ok envelope := by
  cases outcome <;> simp [Except.map]

theorem StepInMemory.replay {store : GatewayStore} {envelope : Json}
    (held : StepInMemory service runId step store run) (found : store.runs runId = some run)
    (ok : reconstructProviderEnvelope service.parse step.content step.metadata step.finishReason = .ok envelope) :
    (existingProviderCommit service store run (step.messageId runId) = .ok envelope ∧
      replayProviderEnvelope service store runId step.turn = .ok (some envelope)) ↔ FinishKnown service step := by
  obtain ⟨event, logged, data⟩ := held.event
  obtain ⟨session, message, home, listed, role, content, metadata, finish⟩ := held.message
  obtain ⟨existing, replayed⟩ := replay_stored service found logged home listed role
  rw [existing, replayed, map_some_ok, content, metadata, finish, data, recordedFinish,
    reconstruct_finish ok, reconstruct_finish ok]
  unfold FinishKnown
  cases held : step.finishReason with
  | none => simp
  | some reason => simp

theorem find?_unique {α : Type} {kind : α → Bool} {items : List α} {item : α} (member : item ∈ items)
    (held : kind item) (unique : ∀ other ∈ items, kind other → other = item) :
    items.find? kind = some item := by
  cases found : items.find? kind with
  | none =>
    rw [find?_eq_none] at found
    exact absurd held (found item member)
  | some other => rw [unique other (mem_of_find?_eq_some found) (find?_some found)]

theorem message_unique {a b : MessageRow} (first : a ∈ db.messages.rows)
    (second : b ∈ db.messages.rows) (same : a.id = b.id) : a = b :=
  Relational.Table.eq_of_conflict first second (by simp [messagesSchema, same])

@[simp] theorem normalizeMessage_fields (parse : String → Option Json) (message : SessionMessage) :
    (normalizeMessage parse message).id = message.id ∧ (normalizeMessage parse message).role = message.role ∧
      (normalizeMessage parse message).metadata = message.metadata ∧
      (normalizeMessage parse message).finishReason = message.finishReason := by
  unfold normalizeMessage
  split <;> exact ⟨rfl, rfl, rfl, rfl⟩

theorem StepInTables.restart {row : RunRow} {store : GatewayStore}
    (held : StepInTables service step db row) (ok : restart service db = .ok store) :
    store.runs row.id = some (loadRun db row) ∧
      (∃ event, (loadRun db row).events.find? (fun event => event.eventId == step.eventId row.id) = some event ∧
        event.data = boundEventData service.maxEventBytes step.eventData) ∧
      ∃ session message, store.sessions row.sessionId = some session ∧
        session.messages.find? (fun message => message.id == step.messageId row.id) =
          some (normalizeMessage service.parse message) ∧
        message.role = "assistant" ∧ message.content = decodeMessageContent step.content ∧
        message.metadata = step.metadata ∧ message.finishReason = optionalString (step.finishReason.getD "") := by
  -- a step in the tables, as the next process finds it
  obtain ⟨read, sessions, runs⟩ := restart_ok ok
  have found : store.runs row.id = some (loadRun db row) := by
    rw [runs, find_run held.stored]
    rfl
  refine ⟨found, ?_, ?_⟩
  · obtain ⟨event, member, id, payload⟩ := held.event
    refine ⟨loadEvent event, find?_unique (mem_map_of_mem (mem_log.mpr member)) (by simp [loadEvent, id]) ?_,
      payload⟩
    intro other inside same
    obtain ⟨stored, logged, rfl⟩ := mem_map.mp inside
    have rows := (mem_eventsOf.mp (mem_log.mp logged)).1
    rw [eventId_unique rows (mem_eventsOf.mp member).1 (by simpa [loadEvent, id] using same)]
  · obtain ⟨stored, member, id, role, content, metadata, finish⟩ := held.message
    obtain ⟨inTable, own⟩ := mem_messagesOf.mp member
    obtain ⟨message, loaded⟩ := read stored inTable
    have fields := loadMessage_ok loaded
    refine ⟨⟨(loadedMessages db row.sessionId).map (normalizeMessage service.parse)⟩, message, ?_, ?_, ?_, ?_, ?_, ?_⟩
    · rw [sessions, if_pos (by rw [← own, fields.session])]
    · refine find?_unique (mem_map_of_mem (mem_loadedMessages.mpr ⟨stored, inTable, own, loaded⟩))
        (by simp [fields.id, id]) ?_
      intro other inside same
      obtain ⟨source, listed, rfl⟩ := mem_map.mp inside
      obtain ⟨otherRow, otherStored, _, otherLoaded⟩ := mem_loadedMessages.mp listed
      have rows : otherRow = stored := by
        refine message_unique otherStored inTable ?_
        rw [← (loadMessage_ok otherLoaded).id, id]
        simpa using same
      rw [rows, loaded] at otherLoaded
      rw [Except.ok.inj otherLoaded]
    · rw [fields.role, role]
    · obtain ⟨document, same, decoded⟩ := fields.content
      rw [content] at same
      cases same
      exact decoded
    · obtain ⟨value, same, taken⟩ := fields.metadata
      rw [metadata] at same
      cases same
      exact taken
    · rw [fields.finishReason, finish]

theorem StepInTables.replay {row : RunRow} {store : GatewayStore} {envelope : Json}
    (held : StepInTables service step db row) (ok : GatewayStore.restart service db = .ok store)
    (compacts : Json.Compacts service.parse) (silent : Silent step.blocks)
    (valid : validateProviderBlocks service.parse step.blocks = .ok ())
    (made : reconstructProviderEnvelope service.parse step.content step.metadata step.finishReason = .ok envelope) :
    (existingProviderCommit service store (loadRun db row) (step.messageId row.id) = .ok envelope ∧
        replayProviderEnvelope service store row.id step.turn = .ok (some envelope)) ↔
      FinishKnown service step ∧ step.finishReason ≠ some "" ∧ leadingContext service.parse step.blocks = none := by
  obtain ⟨found, ⟨event, logged, data⟩, session, message, home, listed, role, content, metadata, finish⟩ :=
    held.restart ok
  have fields := normalizeMessage_fields service.parse message
  obtain ⟨existing, replayed⟩ := replay_stored service found logged home listed (by rw [fields.2.1, role])
  rw [existing, replayed, map_some_ok, fields.2.2.1, fields.2.2.2, metadata, finish, data, recordedFinish]
  have input := @admissionInput_loaded service.parse step valid
  cases rewritten : leadingContext service.parse step.blocks with
  | some context =>
    have text : (normalizeMessage service.parse message).content = decodeMessageContent context := by
      rw [normalizeMessage, content, input, rewritten]
    rw [text]
    refine iff_of_false (fun both => ?_) (by simp)
    exact reconstruct_rewritten compacts silent valid made rewritten both.1
  | none =>
    have text : (normalizeMessage service.parse message).content = decodeMessageContent step.content := by
      rw [normalizeMessage, content, input, rewritten, content]
    rw [text, reconstruct_loaded, reconstruct_loaded, reconstruct_finish made, reconstruct_finish made]
    unfold FinishKnown optionalString
    cases held : step.finishReason with
    | none => simp
    | some reason => by_cases empty : reason = "" <;> simp [empty]

end Stored

section Commit

variable {service : Service} {store : GatewayStore} {runId : String} {step : ProviderStep} {draws : Draws}
  {envelope : Json} {reserved : Reserved}

structure StepReserves (service : Service) (store : GatewayStore) (runId : String) (step : ProviderStep)
    (run : RunRecord) (event : GatewayEvent) (message : SessionMessage) (input : StepCommitInput) : Prop where
  found : store.runs runId = some run
  fresh : run.hasEvent (step.eventId runId) = false
  id : event.eventId = step.eventId runId
  owner : event.runId = runId
  data : event.data = boundEventData service.maxEventBytes step.eventData
  message : message = {
    id := step.messageId runId, sessionId := run.sessionId, role := "assistant", content := step.content,
    createdAt := message.createdAt, runId := some runId, finishReason := step.finishReason,
    parentMessageId := message.parentMessageId, tokenEstimate := message.tokenEstimate, metadata := step.metadata,
    ordinal := message.ordinal }
  event : input.event = event.fields
  own : input.runId = runId ∧ input.sessionId = run.sessionId ∧ input.messageId = step.messageId runId
  row : input.role = "assistant" ∧ input.content = .json step.content ∧ input.metadata = .json step.metadata ∧
    input.finishReason = step.finishReason.getD ""

theorem commitProviderStep_fresh
    (fresh : commitProviderStep service store runId step draws = .ok (.fresh envelope reserved)) :
    validateProviderBlocks service.parse step.blocks = .ok () ∧
      reconstructProviderEnvelope service.parse step.content step.metadata step.finishReason = .ok envelope ∧
      ∃ run event message input, reserved = .commit event (some message) (.step input) ∧
        StepReserves service store runId step run event message input := by
  unfold commitProviderStep at fresh
  cases valid : validateProviderBlocks service.parse step.blocks with
  | error error => simp [valid, bind, Except.bind] at fresh
  | ok done =>
    cases encoded : validateProviderBlocks service.parse (decodeMessageBlocks step.content) with
    | error error => simp [valid, encoded, bind, Except.bind] at fresh
    | ok done =>
      simp only [valid, encoded, bind, Except.bind, pure, Except.pure] at fresh
      cases found : store.runs runId with
      | none => simp [found] at fresh
      | some run =>
        simp only [found] at fresh
        split_ifs at fresh with known cancelled refused
        · split at fresh <;> cases fresh
        · cases made : reconstructProviderEnvelope service.parse step.content step.metadata step.finishReason with
          | error error => simp [made] at fresh
          | ok whole =>
            simp only [made, Except.ok.injEq, ProviderReservation.fresh.injEq] at fresh
            obtain ⟨rfl, rfl⟩ := fresh
            exact ⟨rfl, rfl, run, _, _, _, rfl, found, by simpa using known, rfl, store.keyed runId run found, rfl,
              rfl, rfl, ⟨rfl, rfl, rfl⟩, rfl, rfl, rfl, rfl⟩

theorem StepReserves.inMemory {event : GatewayEvent} {message : SessionMessage}
    {input : StepCommitInput} {session : SessionRecord}
    (reserves : StepReserves service store runId step run event message input)
    (room : 0 < service.maxEventsPerRun) (home : store.sessions run.sessionId = some session)
    (unknown : ∀ other ∈ session.messages, other.id ≠ step.messageId runId) (seqs : List (String × Int)) :
    ∃ later, ((Reserved.commit event (some message) (.step input)).apply service store seqs).1.runs runId = some later ∧
      StepInMemory service runId step
        ((Reserved.commit event (some message) (.step input)).apply service store seqs).1 later := by
  -- a fresh step whose message is new to its session is in memory once it is applied
  have new : run.hasEvent event.eventId = false := by rw [reserves.id, reserves.fresh]
  have sessionId : (applyEvents service run [event]).sessionId = run.sessionId := applyEventLocked_sessionId
  have fields := reserves.message
  refine ⟨applyEvents service run [event], ?_, ⟨event, ?_, reserves.data⟩, ?_⟩
  · simp [Reserved.apply, updateRun, reserves.owner, reserves.found, logEvents]
  · refine find?_unique (self_mem_applyEventLocked new room) (by simp [reserves.id]) fun other member same => ?_
    refine (mem_applyEventLocked member).resolve_left fun old => ?_
    have known : run.hasEvent (step.eventId runId) := hasEvent_iff.mpr ⟨other, old, by simpa using same⟩
    rw [reserves.fresh] at known
    cases known
  · have homed : message.sessionId = run.sessionId := by rw [fields]
    have named : message.id = step.messageId runId := by rw [fields]
    rw [← homed] at home
    refine ⟨⟨session.messages ++ [message]⟩, message, ?_, ?_, by rw [fields], by rw [fields], by rw [fields],
      by rw [fields]⟩
    · rw [sessionId, Reserved.apply_sessions, ← homed]
      exact pushMessage_new home fun other member => by rw [named]; exact unknown other member
    · refine find?_unique (mem_append_right _ (mem_singleton_self message)) (by simp [named])
        fun other member same => ?_
      rcases mem_append.mp member with old | last
      · exact absurd (by simpa using same) (unknown other old)
      · exact mem_singleton.mp last

theorem StepReserves.inTables {event : GatewayEvent} {message : SessionMessage} {input : StepCommitInput} {host : Host}
    {row : RunRow} (reserves : StepReserves service store runId step run event message input)
    (lands : input.Lands host db) (stored : row ∈ db.runs.rows) (own : row.id = runId)
    (home : row.sessionId = run.sessionId) :
    StepInTables service step (storageStepCommit host db input).1 { row with updatedAtMs := input.nowMs } := by
  -- the answered command of a fresh step leaves the step in the tables
  obtain ⟨runOwn, sessionOwn, messageOwn⟩ := reserves.own
  obtain ⟨role, content, metadata, finish⟩ := reserves.row
  have landed := lands.landed (by rw [messageOwn]; exact durableMessageId_ne_empty runId _ _)
  have logged := landed.event
  rw [runOwn] at logged
  subst own
  refine ⟨landed.runs row stored runOwn.symm, ⟨_, logged, ?_, ?_⟩, input.message db, ?_, messageOwn,
    role, ?_, ?_, finish⟩
  · rw [← reserves.id, EventFields.row, reserves.event]
    rfl
  · rw [EventFields.row, reserves.event]
    exact reserves.data
  · rw [mem_messagesOf, landed.messages]
    exact ⟨mem_append_right _ (mem_singleton_self _), sessionOwn.trans home.symm⟩
  · simp only [StepCommitInput.message, content]
    rfl
  · simp only [StepCommitInput.message, metadata]

end Commit

theorem provider_replay_iff (service : Service) (compacts : Json.Compacts service.parse) (store : GatewayStore)
    (runId : String) (given request : Json) (canonical : CanonicalProviderStep) (turn : Nat) (draws : Draws)
    (envelope : Json) (reserved : Reserved)
    (accepted : canonicalProviderStepFromEnvelope service.parse given request = .ok canonical)
    (fresh : commitProviderStep service store runId (canonical.toStep turn) draws = .ok (.fresh envelope reserved)) :
    (∀ later run, later.runs runId = some run → StepInMemory service runId (canonical.toStep turn) later run →
      ((existingProviderCommit service later run ((canonical.toStep turn).messageId runId) = .ok envelope ∧
          replayProviderEnvelope service later runId turn = .ok (some envelope)) ↔
        FinishKnown service (canonical.toStep turn))) ∧
    (∀ db row restarted, row.id = runId → StepInTables service (canonical.toStep turn) db row →
      restart service db = .ok restarted →
      ((existingProviderCommit service restarted (loadRun db row) ((canonical.toStep turn).messageId runId) =
            .ok envelope ∧
          replayProviderEnvelope service restarted runId turn = .ok (some envelope)) ↔
        FinishKnown service (canonical.toStep turn) ∧ canonical.finishReason ≠ some "" ∧
          leadingContext service.parse canonical.blocks = none)) ∧
    ∀ event message input host db row, reserved = .commit event message (.step input) → input.Lands host db →
      row ∈ db.runs.rows → row.id = runId → row.sessionId = input.sessionId →
      StepInTables service (canonical.toStep turn) (storageStepCommit host db input).1
        { row with updatedAtMs := input.nowMs } := by
  -- the first two parts say when a stored step is replayed, the last that an answered command has stored it
  obtain ⟨valid, made, run, event, message, input, held, reserves⟩ := commitProviderStep_fresh fresh
  refine ⟨fun later run found held => held.replay found made, ?_, ?_⟩
  · rintro db row restarted rfl held ok
    exact held.replay ok compacts (canonicalProviderStep_silent accepted) valid made
  · rintro _ _ _ host db row same lands stored own home
    cases held.symm.trans same
    exact reserves.inTables lands stored own (home.trans reserves.own.2.1)

def askedArguments : Json := .obj [("x", .int 1)]

def askingService : Service :=
  { soloService 5 with parse := fun text => if text = askedArguments.render then some askedArguments else none }

def asking : Json :=
  .obj [("ok", .bool true), ("response", .obj [("stop_reason", .str "tool_use"), ("text", .str "hi"),
    ("tool_calls", .arr [.obj [("arguments", askedArguments), ("id", .str "c"), ("name", .str "t")]])])]

def askingStep : CanonicalProviderStep where
  blocks := [{ blockType := "text", text := some "hi" },
    { blockType := "tool_call", toolCallId := some "c", name := some "t",
      argumentsJson := some askedArguments.render, arguments := some askedArguments }]
  usage := none
  finishReason := some "tool_use"
  model := none
  provider := none
  truncated := none
  reasoning := none

def askingEnvelope : Json :=
  .obj [("error", .obj []), ("ok", .bool true),
    ("response", .obj [("finish_reason", .str "tool_use"), ("stop_reason", .str "tool_use"), ("text", .str "hi"),
      ("tool_calls", .arr [.obj [("arguments", askedArguments), ("arguments_json", .str askedArguments.render),
        ("id", .str "c"), ("name", .str "t")]])])]

theorem provider_replay_of_asking :
    canonicalProviderStepFromEnvelope askingService.parse asking (.obj []) = .ok askingStep ∧
      ∃ event message input restarted,
        commitProviderStep askingService soloStore "r" (askingStep.toStep 1) (tagged "p" 2) =
          .ok (.fresh askingEnvelope (.commit event message (.step input))) ∧
        replayProviderEnvelope askingService
          ((Reserved.commit event message (.step input)).apply askingService soloStore []).1 "r" 1 =
            .ok (some askingEnvelope) ∧
        input.Lands Host.reference soloDatabase ∧
        restart askingService (storageStepCommit Host.reference soloDatabase input).1 = .ok restarted ∧
        replayProviderEnvelope askingService restarted "r" 1 = .ok (some askingEnvelope) := by
  have compacts : Json.Compacts askingService.parse := by
    intro text document read
    simp only [askingService] at read
    split_ifs at read with same
    cases read
    rw [same]
  obtain ⟨event, message, input, fresh, lands, home, answered⟩ : ∃ event message input,
      commitProviderStep askingService soloStore "r" (askingStep.toStep 1) (tagged "p" 2) =
          .ok (.fresh askingEnvelope (.commit event message (.step input))) ∧
        input.Lands Host.reference soloDatabase ∧ input.sessionId = "s" ∧
        (restart askingService (storageStepCommit Host.reference soloDatabase input).1).isOk :=
    ⟨_, _, _, rfl, ⟨by decide +kernel, by decide +kernel, by decide +kernel, by decide +kernel⟩, rfl,
      by decide +kernel⟩
  obtain ⟨memory, restart, landed⟩ := provider_replay_iff askingService compacts soloStore "r" asking (.obj [])
    askingStep 1 (tagged "p" 2) askingEnvelope _ rfl fresh
  have known : FinishKnown askingService (askingStep.toStep 1) := .inl (by decide)
  cases ok : GatewayStore.restart askingService (storageStepCommit Host.reference soloDatabase input).1 with
  | error error =>
    rw [ok] at answered
    cases answered
  | ok restarted =>
    obtain ⟨_, _, run, _, shown, _, made, reserves⟩ := commitProviderStep_fresh fresh
    cases made
    have alone : run = soloRecord := (Option.some.inj reserves.found).symm
    subst alone
    obtain ⟨later, found, inMemory⟩ := reserves.inMemory (by decide) rfl (by decide) []
    have inTables :=
      landed event shown input Host.reference soloDatabase _ rfl lands (mem_singleton_self _) rfl home.symm
    exact ⟨rfl, event, shown, input, restarted, fresh, ((memory _ later found inMemory).mpr known).2, lands, ok,
      ((restart _ _ restarted rfl inTables ok).mpr ⟨known, by decide, by decide +kernel⟩).2⟩

def greeting (reason : Option String) : Json :=
  .obj [("ok", .bool true), ("response", .obj (present "stop_reason" str reason ++ [("text", .str "hi")]))]

def greetingStep (reason : Option String) : CanonicalProviderStep where
  blocks := [{ blockType := "text", text := some "hi" }]
  usage := none
  finishReason := reason
  model := none
  provider := none
  truncated := none
  reasoning := none

def greetingEnvelope (reason : Option String) : Json :=
  .obj [("error", .obj []), ("ok", .bool true),
    ("response", .obj (present "finish_reason" str reason ++ present "stop_reason" str reason ++
      [("text", .str "hi"), ("tool_calls", .arr [])]))]

theorem replay_adds_empty_finish_reason :
    canonicalProviderStepFromEnvelope (soloService 5).parse (greeting none) (.obj []) = .ok (greetingStep none) ∧
      (∃ reserved, commitProviderStep (soloService 5) soloStore "r" ((greetingStep none).toStep 1) (tagged "p" 2) =
        .ok (.fresh (greetingEnvelope none) reserved)) ∧
      ∃ final, Transitions.run (System.next (soloService 5)) soloSystem
          [.begin (.providerStep "r" ((greetingStep none).toStep 1)) (tagged "p" 2), .persist .answered, .finish] =
            some final ∧
        replayProviderEnvelope (soloService 5) final.store "r" 1 = .ok (some (greetingEnvelope (some ""))) ∧
        greetingEnvelope (some "") ≠ greetingEnvelope none := by
  refine ⟨rfl, ⟨_, rfl⟩, ?_⟩
  have taken : (Transitions.run (System.next (soloService 5)) soloSystem
      [.begin (.providerStep "r" ((greetingStep none).toStep 1)) (tagged "p" 2), .persist .answered, .finish]).map
        (fun final => replayProviderEnvelope (soloService 5) final.store "r" 1) =
      some (.ok (some (greetingEnvelope (some "")))) := by
    decide +kernel
  obtain ⟨final, reached, replayed⟩ := Option.map_eq_some_iff.mp taken
  exact ⟨final, reached, replayed, by decide⟩

end RustScriptAgent.Gateway
