import RustScriptAgent.Gateway.Store
import RustScriptAgent.Shared.Marks
import RustScriptAgent.Storage.Terminal

namespace RustScriptAgent.Gateway

open Storage Sequences Relational SessionMessage GatewayStore List

variable {message : SessionMessage}

def optionalString (text : String) : Option String := if text = "" then none else some text

def jsonCell (label : String) : JsonText → Except String Json
  | .json document => .ok document
  | .raw _ => .error ("decode " ++ label)

def jsonOptionalCell (label : String) : JsonText → Except String (Option Json)
  | .raw "" => .ok none
  | .raw _ => .error ("decode " ++ label)
  | .json document => .ok (some document)

def loadMessage (db : Database) (row : MessageRow) : Except String SessionMessage :=
  if db.hasSession row.sessionId = false then
    .error ("message references unknown session: " ++ row.sessionId)
  else do
    let content ← jsonCell "message content" row.content
    let metadata ← jsonOptionalCell "message metadata" row.metadata
    return {
      id := row.id
      sessionId := row.sessionId
      role := row.role
      content := decodeMessageContent content
      createdAt := row.createdAtMs
      runId := optionalString row.runId
      finishReason := optionalString row.finishReason
      name := optionalString row.name
      toolCallId := optionalString row.toolCallId
      parentMessageId := optionalString row.parentMessageId
      tokenEstimate := if row.tokenEstimate = 0 then none else some row.tokenEstimate
      metadata := metadata.getD .null
      ordinal := some row.ordinal }

/-- `sort_by_key(|message| (message.ordinal.unwrap_or(0), message.created_at))` -/
def sortMessages (messages : List SessionMessage) : List SessionMessage :=
  messages.insertionSort fun a b =>
    a.ordinal.getD 0 < b.ordinal.getD 0 ∨ (a.ordinal.getD 0 = b.ordinal.getD 0 ∧ a.createdAt ≤ b.createdAt)

def loadEvent (row : EventRow) : GatewayEvent where
  eventId := row.eventId
  seq := row.seq
  event := row.eventType
  runId := row.runId
  timestamp := row.createdAtMs
  data := row.payload

def checkSequence (runId : String) : Int → List String → List GatewayEvent → Except String Unit
  | _, _, [] => .ok ()
  | expected, seen, event :: rest =>
    if event.seq ≠ expected ∨ event.eventId ∈ seen then
      .error ("event sequence gap or duplicate for run " ++ runId ++ ": expected " ++ toString expected ++
        ", got " ++ toString event.seq)
    else checkSequence runId (expected + 1) (event.eventId :: seen) rest

def loadRunEvents (db : Database) (runId : String) : Except String (List GatewayEvent) :=
  if db.eventsOf runId ≠ [] ∧ db.hasRun runId = false then
    .error ("event references unknown run: " ++ runId)
  else do
    let events := (db.log runId).map loadEvent
    checkSequence runId ((events.head?.map GatewayEvent.seq).getD 1) [] events
    return events

theorem checkSequence_ok {runId : String} {expected : Int} {seen : List String} {events : List GatewayEvent}
    (numbered : Consecutive expected (events.map GatewayEvent.seq))
    (distinct : (events.map GatewayEvent.eventId).Nodup) (unseen : ∀ event ∈ events, event.eventId ∉ seen) :
    checkSequence runId expected seen events = .ok () := by
  induction events generalizing expected seen with
  | nil => rfl
  | cons event rest ih =>
    rw [map_cons, nodup_cons] at distinct
    rw [checkSequence, if_neg]
    · refine ih numbered.2 distinct.2 fun other member => ?_
      rw [mem_cons, not_or]
      refine ⟨fun same => distinct.1 ?_, unseen other (mem_cons_of_mem event member)⟩
      rw [← same]
      exact mem_map_of_mem member
    · rintro (other | known)
      · exact other numbered.1
      · exact unseen event mem_cons_self known

theorem loadRunEvents_ok {db : Database} {runId : String} (known : db.hasRun runId)
    (block : Unbroken (db.seqs runId)) :
    loadRunEvents db runId = .ok ((db.log runId).map loadEvent) := by
  have perm : (db.seqs runId).Perm ((db.log runId).map EventRow.seq) := ((db.log_perm runId).map _).symm
  have log := block.perm perm
  have increasing : ((db.log runId).map EventRow.seq).Pairwise (· < ·) := pairwise_map.mpr (db.log_ascending runId)
  have numbers : ((db.log runId).map loadEvent).map GatewayEvent.seq = (db.log runId).map EventRow.seq := by
    rw [map_map]
    rfl
  have distinct : (((db.log runId).map loadEvent).map GatewayEvent.eventId).Nodup := by
    have ids : ((db.log runId).map EventRow.eventId).Perm ((db.eventsOf runId).map EventRow.eventId) :=
      (db.log_perm runId).map _
    rw [map_map]
    refine ids.nodup_iff.mpr ?_
    exact db.eventIds_nodup.sublist (filter_sublist.map _)
  have accepted : checkSequence runId
      ((((db.log runId).map loadEvent).head?.map GatewayEvent.seq).getD 1) [] ((db.log runId).map loadEvent) =
      .ok () := by
    refine checkSequence_ok ?_ distinct (by simp)
    rw [numbers]
    cases rows : db.log runId with
    | nil => trivial
    | cons first rest =>
      rw [rows, map_cons] at log increasing
      exact log.consecutive increasing
  rw [loadRunEvents, if_neg (by simp [known])]
  simp only [accepted, bind, Except.bind, pure, Except.pure]

def checkRun (db : Database) (row : RunRow) : Except String Unit :=
  if db.hasSession row.sessionId = false then .error ("run references unknown session: " ++ row.sessionId)
  else .ok ()

def checkParent (db : Database) (row : RunRow) : Except String Unit :=
  if row.parentRunId ≠ "" ∧ db.hasRun row.parentRunId = false then
    .error ("run references unknown parent run: " ++ row.parentRunId)
  else .ok ()

def loadRun (db : Database) (row : RunRow) : RunRecord where
  runId := row.id
  sessionId := row.sessionId
  status := memoryStatus row.status
  events := (db.log row.id).map loadEvent
  sender := true

def GatewayStore.fromLoad (db : Database) : Except String GatewayStore := do
  let messages ← db.messages.rows.mapM (loadMessage db)
  db.runs.rows.forM (checkRun db)
  db.runs.rows.forM (checkParent db)
  (db.runEvents.rows.map EventRow.runId).forM fun runId => (loadRunEvents db runId).map fun _ => ()
  return {
    sessions := fun id =>
      if db.hasSession id then
        some { messages := sortMessages (messages.filter fun message => message.sessionId == id) }
      else none
    runs := fun id => (db.runs.rows.find? fun row => row.id == id).map (loadRun db)
    keyed := fun id run found => by
      obtain ⟨row, stored, rfl⟩ := Option.map_eq_some_iff.mp found
      simpa [loadRun] using List.find?_some stored }

section Loaded

theorem mapM_ok {ε α β : Type} {read : α → Except ε β} {items : List α} {values : List β}
    (ok : items.mapM read = .ok values) :
    values = items.filterMap (fun item => (read item).toOption) ∧ ∀ item ∈ items, ∃ value, read item = .ok value := by
  induction items generalizing values with
  | nil =>
    cases ok
    exact ⟨rfl, by simp⟩
  | cons item rest ih =>
    rw [mapM_cons] at ok
    cases first : read item with
    | error error => simp [first, bind, Except.bind] at ok
    | ok value =>
      cases others : rest.mapM read with
      | error error => simp [first, others, bind, Except.bind] at ok
      | ok more =>
        simp only [first, others, bind, Except.bind, pure, Except.pure, Except.ok.injEq] at ok
        obtain ⟨same, all⟩ := ih others
        refine ⟨by simp [← ok, first, same, Except.toOption], fun other member => ?_⟩
        rcases mem_cons.mp member with rfl | later
        · exact ⟨value, first⟩
        · exact all other later

def SessionMessage.order (a b : SessionMessage) : Prop :=
  a.ordinal.getD 0 < b.ordinal.getD 0 ∨ (a.ordinal.getD 0 = b.ordinal.getD 0 ∧ a.createdAt ≤ b.createdAt)

instance : DecidableRel SessionMessage.order := fun a b => inferInstanceAs (Decidable
  (a.ordinal.getD 0 < b.ordinal.getD 0 ∨ (a.ordinal.getD 0 = b.ordinal.getD 0 ∧ a.createdAt ≤ b.createdAt)))

theorem sortMessages_sorted (messages : List SessionMessage) :
    (sortMessages messages).Pairwise order := by
  have total : Std.Total order := ⟨fun a b => by unfold order; omega⟩
  have transitive : IsTrans SessionMessage order := ⟨fun a b c => by unfold order; omega⟩
  exact pairwise_insertionSort order messages

theorem mem_sortMessages {messages : List SessionMessage} :
    message ∈ sortMessages messages ↔ message ∈ messages := mem_insertionSort _

variable {db : Database} {store : GatewayStore}

structure LoadedAs (db : Database) (row : MessageRow) (message : SessionMessage) : Prop where
  session : db.hasSession row.sessionId = true
  content : ∃ content, row.content = .json content ∧ message.content = decodeMessageContent content
  metadata : ∃ metadata, jsonOptionalCell "message metadata" row.metadata = .ok metadata ∧
    message.metadata = metadata.getD .null
  id : message.id = row.id
  sessionId : message.sessionId = row.sessionId
  role : message.role = row.role
  runId : message.runId = optionalString row.runId
  finishReason : message.finishReason = optionalString row.finishReason
  name : message.name = optionalString row.name
  toolCallId : message.toolCallId = optionalString row.toolCallId
  ordinal : message.ordinal = some row.ordinal

theorem loadMessage_ok {row : MessageRow} (ok : loadMessage db row = .ok message) : LoadedAs db row message := by
  have known : db.hasSession row.sessionId := by
    by_contra unknown
    rw [loadMessage, if_pos (by simpa using unknown)] at ok
    cases ok
  rw [loadMessage, if_neg (by simp [known])] at ok
  cases content : row.content with
  | raw text => simp [content, jsonCell, bind, Except.bind] at ok
  | json document =>
    cases metadata : jsonOptionalCell "message metadata" row.metadata with
    | error error => simp [content, metadata, jsonCell, bind, Except.bind] at ok
    | ok value =>
      simp only [content, metadata, jsonCell, bind, Except.bind, pure, Except.pure, Except.ok.injEq] at ok
      subst ok
      exact ⟨known, ⟨document, content, rfl⟩, ⟨value, metadata, rfl⟩, rfl, rfl, rfl, rfl, rfl, rfl, rfl, rfl⟩

def loadedMessages (db : Database) (sessionId : String) : List SessionMessage :=
  sortMessages ((db.messages.rows.filterMap fun row => (loadMessage db row).toOption).filter fun message =>
    message.sessionId == sessionId)

theorem mem_loadedMessages {sessionId : String} : message ∈ loadedMessages db sessionId ↔
      ∃ row ∈ db.messages.rows, row.sessionId = sessionId ∧ loadMessage db row = .ok message := by
  rw [loadedMessages, mem_sortMessages, mem_filter, mem_filterMap, beq_iff_eq]
  constructor
  · rintro ⟨⟨row, member, read⟩, own⟩
    have ok : loadMessage db row = .ok message := by
      cases outcome : loadMessage db row with
      | error error => simp [outcome, Except.toOption] at read
      | ok value => simpa [outcome, Except.toOption] using read
    exact ⟨row, member, by rw [← (loadMessage_ok ok).sessionId, own], ok⟩
  · rintro ⟨row, member, own, ok⟩
    exact ⟨⟨row, member, by simp [ok, Except.toOption]⟩, by rw [(loadMessage_ok ok).sessionId, own]⟩

theorem loadedMessages_last {sessionId : String} {row : MessageRow}
    {kind : SessionMessage → Bool} (stored : row ∈ db.messages.rows) (own : row.sessionId = sessionId)
    (loaded : loadMessage db row = .ok message) (held : kind message)
    (latest : ∀ other ∈ db.messages.rows, other.sessionId = sessionId → other ≠ row →
      ∀ read, loadMessage db other = .ok read → kind read → other.ordinal < row.ordinal) :
    ∃ older newer, loadedMessages db sessionId = older ++ message :: newer ∧ ∀ later ∈ newer, kind later = false := by
  -- of the messages of a kind, the one with the highest ordinal is the last
  have listed : message ∈ loadedMessages db sessionId := mem_loadedMessages.mpr ⟨row, stored, own, loaded⟩
  obtain ⟨older, last, split, holds⟩ := exists_last ⟨message, listed, held⟩
  have none (later : SessionMessage)
      (member : later ∈ (loadedMessages db sessionId).rtakeWhile fun other => !kind other) : kind later = false := by
    simpa using mem_rtakeWhile_imp member
  have same : last = message := by
    have inside : last ∈ loadedMessages db sessionId := by
      rw [split]
      exact mem_append_right _ mem_cons_self
    obtain ⟨other, otherStored, otherOwn, otherLoaded⟩ := mem_loadedMessages.mp inside
    by_cases same : other = row
    · rw [same, loaded] at otherLoaded
      exact (Except.ok.inj otherLoaded).symm
    · -- the last one of the kind comes from a lower ordinal, yet the message does not stand behind it
      have lower := latest other otherStored otherOwn same last otherLoaded holds
      have sorted := sortMessages_sorted ((db.messages.rows.filterMap fun row =>
        (loadMessage db row).toOption).filter fun message => message.sessionId == sessionId)
      have position := listed
      change (loadedMessages db sessionId).Pairwise _ at sorted
      rw [split, pairwise_append] at sorted
      rw [split, mem_append, mem_cons] at position
      rcases position with before | rfl | behind
      · have order := sorted.2.2 message before last mem_cons_self
        simp only [SessionMessage.order, (loadMessage_ok loaded).ordinal, (loadMessage_ok otherLoaded).ordinal,
          Option.getD_some] at order
        omega
      · rfl
      · rw [none message behind] at held
        cases held
  rw [same] at split
  exact ⟨older, _, split, none⟩

theorem fromLoad_ok (ok : fromLoad db = .ok store) :
    (∀ row ∈ db.messages.rows, ∃ message, loadMessage db row = .ok message) ∧
      (∀ id, store.sessions id = if db.hasSession id then some ⟨loadedMessages db id⟩ else none) ∧
      ∀ id, store.runs id = (db.runs.rows.find? fun row => row.id == id).map (loadRun db) := by
  unfold fromLoad at ok
  cases loaded : db.messages.rows.mapM (loadMessage db) with
  | error error => simp [loaded, bind, Except.bind] at ok
  | ok messages =>
    obtain ⟨rfl, all⟩ := mapM_ok loaded
    simp only [loaded, bind, Except.bind, pure, Except.pure] at ok
    split at ok
    · cases ok
    · split at ok
      · cases ok
      · split at ok
        · cases ok
        · cases ok
          exact ⟨all, fun _ => rfl, fun _ => rfl⟩

end Loaded

def envelopeRunInput (document : Json) : Option Json :=
  if isObject document = true ∧ document.getInt? "schema_version" = some 1 then
    match document.get? "run_context" with
    | some (.obj context) => (Json.obj context).get? "input"
    | _ => none
  else none

theorem envelopeRunInput_marks {document input : Json} (found : envelopeRunInput document = some input) :
    Json.marks input.render < Json.marks document.render := by
  unfold envelopeRunInput at found
  split_ifs at found
  split at found
  · rename_i context held
    have := Json.marks_get? held
    have := Json.marks_get? found
    omega
  · cases found

def admissionInputFromMessageContent (parse : String → Option Json) (content : Json) : Option Json :=
  match envelopeRunInput content with
  | some input => some input
  | none =>
    match content with
    | .arr (first :: _) => ((first.getStr? "text").bind parse).bind envelopeRunInput
    | _ => none

def normalizeMessage (parse : String → Option Json) (message : SessionMessage) : SessionMessage :=
  match admissionInputFromMessageContent parse message.content with
  | some input => { message with content := decodeMessageContent input }
  | none => message

@[simp] theorem normalizeMessage_toolCallId (parse : String → Option Json) (message : SessionMessage) :
    (normalizeMessage parse message).toolCallId = message.toolCallId := by
  unfold normalizeMessage
  split <;> rfl

def GatewayStore.normalizeLoadedSessionMessages (parse : String → Option Json) (store : GatewayStore) :
    GatewayStore :=
  { store with
    sessions := fun id => (store.sessions id).map fun session =>
      { session with messages := session.messages.map (normalizeMessage parse) } }

def GatewayStore.restart (service : Service) (db : Database) : Except String GatewayStore :=
  (GatewayStore.fromLoad db).map (GatewayStore.normalizeLoadedSessionMessages service.parse)

theorem restart_ok {service : Service} {db : Database} {store : GatewayStore}
    (ok : restart service db = .ok store) :
    (∀ row ∈ db.messages.rows, ∃ message, loadMessage db row = .ok message) ∧
      (∀ id, store.sessions id = if db.hasSession id then
        some ⟨(loadedMessages db id).map (normalizeMessage service.parse)⟩ else none) ∧
      ∀ id, store.runs id = (db.runs.rows.find? fun row => row.id == id).map (loadRun db) := by
  unfold restart at ok
  cases loaded : fromLoad db with
  | error error => simp [loaded, Except.map] at ok
  | ok first =>
    simp only [loaded, Except.map, Except.ok.injEq] at ok
    obtain ⟨read, sessions, runs⟩ := fromLoad_ok loaded
    subst ok
    refine ⟨read, fun id => ?_, runs⟩
    simp only [normalizeLoadedSessionMessages, sessions id]
    split_ifs <;> rfl

end RustScriptAgent.Gateway
