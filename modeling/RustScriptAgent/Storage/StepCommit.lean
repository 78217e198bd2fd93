import RustScriptAgent.Storage.Events
import RustScriptAgent.Storage.Retention

namespace RustScriptAgent.Storage

open Relational Sequences Database Table

variable {inserted : Database} {run : String} {fields : EventFields} {now : Int}

theorem insertNewEvent_eq_ok {db : Database} : insertNewEvent db run fields now = .ok inserted ↔
      (db.hasEventId fields.eventId ∧ inserted = db) ∨
      (db.hasEventId fields.eventId = false ∧ db.runEvents.accepts (fields.row db run now) ∧
        inserted.runEvents.rows = db.runEvents.rows ++ [fields.row db run now] ∧
        inserted = { db with runEvents := inserted.runEvents }) := by
  unfold insertNewEvent
  cases known : db.hasEventId fields.eventId
  · rw [if_neg (by simp), insertEvent_eq_ok]
    constructor
    · exact fun stored => .inr ⟨rfl, stored⟩
    · rintro (⟨absurd, _⟩ | ⟨_, stored⟩)
      · cases absurd
      · exact stored
  · rw [if_pos rfl]
    constructor
    · intro same
      cases same
      exact .inl ⟨rfl, rfl⟩
    · rintro (⟨_, same⟩ | ⟨absurd, _⟩)
      · rw [same]
      · cases absurd

theorem insertNewEvent_eq_error {db : Database} {error : StorageError} :
    insertNewEvent db run fields now = .error error ↔
      db.hasEventId fields.eventId = false ∧ db.runEvents.accepts (fields.row db run now) = false ∧
        error = .constraintFailed := by
  unfold insertNewEvent
  cases known : db.hasEventId fields.eventId
  · simp [insertEvent_eq_error]
  · simp

theorem insertNewEvent_frame {db : Database} (ok : insertNewEvent db run fields now = .ok inserted) :
    inserted = { db with runEvents := inserted.runEvents } := by
  rcases insertNewEvent_eq_ok.mp ok with ⟨_, same⟩ | ⟨_, _, _, same⟩
  · rw [same]
  · exact same

theorem requireParameters_eq_ok {host : Host} {parameters : List (List String)} :
    requireParameters host parameters = .ok () ↔ parameters.all host.acceptsParameters := by
  unfold requireParameters
  split_ifs with accepted <;> simp [accepted]

namespace StepCommitInput

variable (host : Host) (db : Database) (input : StepCommitInput)

@[simp] theorem applyMessage_runEvents : (input.applyMessage db).runEvents = db.runEvents := by
  unfold applyMessage
  split_ifs <;> rfl

@[simp] theorem applyMessage_messages : (input.applyMessage db).messages =
      if input.messageId = "" then db.messages else db.messages.insertOrIgnore (input.message db) := by
  unfold applyMessage
  split_ifs <;> rfl

@[simp] theorem finish_runEvents : (input.finish db).runEvents =
      (db.pruneEvents input.runId (maxEventsLimit input.maxEvents)).runEvents := by
  simp [finish]

theorem message_congr {other : Database} (same : other.messages = db.messages) :
    input.message other = input.message db := by
  simp [message, maxOrdinal, Database.messagesOf, same]

theorem finish_messages (named : input.messageId ≠ "") :
    (input.finish db).messages = db.messages.insertOrIgnore (input.message db) := by
  simp only [finish, touchRun_messages, applyMessage_messages, named, if_false,
    upsertRetention_messages, pruneEvents_messages]
  rw [message_congr db input (by simp)]

def MessageKept : Prop :=
  (∃ row ∈ db.messages.rows, row.id = input.messageId ∧ row.sessionId = input.sessionId) ∨
    db.messages.accepts (input.message db) = true

def EventKept : Prop :=
  (∃ row ∈ db.runEvents.rows, row.eventId = input.event.eventId ∧ row.runId = input.runId ∧
      db.newerThan input.runId row.seq < maxEventsLimit input.maxEvents) ∨
    (db.hasEventId input.event.eventId = false ∧
      db.newerThan input.runId (input.event.row db input.runId input.nowMs).seq <
        maxEventsLimit input.maxEvents)

def Refused : Prop :=
  maxPairPayload < host.textLength input.event.payload.render ∨
    db.hasRun input.runId = false ∨
    db.hasSession input.sessionId = false ∨
    input.parameters.all host.acceptsParameters = false ∨
    (db.hasEventId input.event.eventId = false ∧
      db.runEvents.accepts (input.event.row db input.runId input.nowMs) = false) ∨
    (input.failpoint = .afterPartialWrite ∧
      (db.hasMessageId input.messageId = true ∨ db.messages.accepts (input.message db) = true))

structure Settled : Prop where
  events : (db.hasEventId input.event.eventId = true ∧
      (db.eventsOf input.runId).length ≤ maxEventsLimit input.maxEvents) ∨
    (db.hasEventId input.event.eventId = false ∧
      (db.eventsOf input.runId).length = maxEventsLimit input.maxEvents ∧
      db.newerThan input.runId (input.event.row db input.runId input.nowMs).seq =
        maxEventsLimit input.maxEvents)
  retention : db.RetentionCurrent input.runId input.nowMs
  message : db.messages.accepts (input.message db) = false
  session : ∀ row ∈ db.sessions.rows, row.id = input.sessionId →
    row.lastMessageSeq = db.maxOrdinal input.sessionId ∧ row.updatedAtMs = input.nowMs
  run : ∀ row ∈ db.runs.rows, row.id = input.runId → row.updatedAtMs = input.nowMs

def Atomic : Prop :=
  let outcome := storageStepCommit host db input
  (outcome.1 = db ∧ ∃ error, outcome.2 = .error error) ∨
    ((∃ row ∈ outcome.1.runEvents.rows, row.eventId = input.event.eventId ∧ row.runId = input.runId) ∧
      ∃ row ∈ outcome.1.messages.rows, row.id = input.messageId ∧ row.sessionId = input.sessionId)

variable {host db input}

theorem finish_hasMessageId (named : input.messageId ≠ "") : (input.finish db).hasMessageId input.messageId ↔
      db.hasMessageId input.messageId ∨ db.messages.accepts (input.message db) := by
  simp only [hasMessageId, finish_messages db input named, insertOrIgnore_rows]
  split_ifs with accepted
  · simp [accepted]
  · simp [accepted]

theorem finish_message (named : input.messageId ≠ "") :
    (∃ row ∈ (input.finish db).messages.rows, row.id = input.messageId ∧ row.sessionId = input.sessionId) ↔
      input.MessageKept db := by
  simp only [MessageKept, finish_messages db input named, insertOrIgnore_rows]
  split_ifs with accepted
  · simp [accepted]
  · simp [accepted]

section Append

variable {new : EventRow} {limit : Nat} (own : new.runId = run)
  (rows : inserted.runEvents.rows = db.runEvents.rows ++ [new])
include own rows

theorem newerThan_append {seq : Int} :
    inserted.newerThan run seq = db.newerThan run seq + if seq < new.seq then 1 else 0 := by
  by_cases above : seq < new.seq <;> simp [newerThan, seqs, eventsOf, rows, own, List.countP_append, above]

theorem append_prune_eq_self (fresh : new ∉ db.runEvents.rows) (positive : 0 < limit) :
    (inserted.pruneEvents run limit).runEvents = db.runEvents ↔
      (db.eventsOf run).length = limit ∧ db.newerThan run new.seq = limit := by
  constructor
  · intro same
    have gone : new ∉ (inserted.pruneEvents run limit).runEvents.rows := same ▸ fresh
    have older : limit ≤ db.newerThan run new.seq := by
      by_contra few
      refine gone (mem_pruneEvents.mpr ⟨by simp [rows], fun _ => ?_⟩)
      rw [newerThan_append own rows]
      simpa using few
    have bound := db.newerThan_le run new.seq
    have nonempty : db.eventsOf run ≠ [] := by
      intro empty
      rw [empty, List.length_nil] at bound
      omega
    obtain ⟨row, member, inRun, oldest, _⟩ := exists_oldest nonempty
    have kept := (mem_pruneEvents.mp (same ▸ member)).2 inRun
    rw [newerThan_append own rows] at kept
    omega
  · rintro ⟨full, last⟩
    -- every old row stays and the new one, below all of them, is the only one to go
    have below : ∀ row ∈ db.runEvents.rows, row.runId = run → new.seq < row.seq := by
      have all := List.countP_eq_length.mp (show (db.seqs run).countP (fun other => decide (new.seq < other)) =
          (db.seqs run).length by
        rw [← full] at last
        simpa [newerThan, seqs] using last)
      intro row member inRun
      simpa using all row.seq (mem_seqs.mpr ⟨row, member, inRun, rfl⟩)
    apply ext_rows
    have keep : ∀ row ∈ db.runEvents.rows, row ∈ (inserted.pruneEvents run limit).runEvents.rows := by
      intro row member
      refine mem_pruneEvents.mpr ⟨by simp [rows, member], fun inRun => ?_⟩
      have order := below row member inRun
      have smaller := newerThan_lt member
      rw [inRun] at smaller
      rw [newerThan_append own rows, if_neg (by omega)]
      omega
    have drop : new ∉ (inserted.pruneEvents run limit).runEvents.rows := by
      intro member
      have few := (mem_pruneEvents.mp member).2 own
      rw [newerThan_append own rows] at few
      simp at few
      omega
    simp only [pruneEvents, delete_rows, List.mem_filter, rows, List.mem_append,
      List.mem_singleton, or_true, true_and] at keep drop ⊢
    rw [List.filter_append, List.filter_eq_self.mpr fun row member => (keep row member).2,
      List.filter_singleton, Bool.eq_false_of_not_eq_true drop, cond_false, List.append_nil]

end Append

theorem newerThan_insert {seq : Int} (rows : inserted.runEvents.rows = db.runEvents.rows ++ [fields.row db run now]) :
    inserted.newerThan run seq =
      db.newerThan run seq + if seq < (fields.row db run now).seq then 1 else 0 :=
  newerThan_append rfl rows

section

variable (ok : insertNewEvent db input.runId input.event input.nowMs = .ok inserted)
include ok

theorem finish_event :
    (∃ row ∈ (input.finish inserted).runEvents.rows,
        row.eventId = input.event.eventId ∧ row.runId = input.runId) ↔ input.EventKept db := by
  simp only [finish_runEvents, mem_pruneEvents, EventKept]
  rcases insertNewEvent_eq_ok.mp ok with ⟨known, same⟩ | ⟨fresh, accepted, rows, _⟩
  · rw [same]
    simp only [known, Bool.true_eq_false, false_and, or_false]
    constructor
    · rintro ⟨row, ⟨member, kept⟩, id, run⟩
      exact ⟨row, member, id, run, kept run⟩
    · rintro ⟨row, member, id, run, kept⟩
      exact ⟨row, ⟨member, fun _ => kept⟩, id, run⟩
  · have absent := hasEventId_false.mp fresh
    constructor
    · rintro ⟨row, ⟨member, kept⟩, id, run⟩
      rw [rows] at member
      rcases List.mem_append.mp member with old | new
      · exact absurd id (absent row old)
      · rw [List.mem_singleton] at new
        have bound := kept run
        rw [newerThan_insert rows, new] at bound
        exact .inr ⟨fresh, by simpa using bound⟩
    · rintro (⟨row, member, id, _⟩ | ⟨_, bound⟩)
      · exact absurd id (absent row member)
      · refine ⟨input.event.row db input.runId input.nowMs, ⟨by simp [rows], fun _ => ?_⟩, rfl, rfl⟩
        rw [newerThan_insert rows]
        simpa using bound

theorem insert_prune_eq_self :
    (inserted.pruneEvents input.runId (maxEventsLimit input.maxEvents)).runEvents = db.runEvents ↔
      (db.hasEventId input.event.eventId ∧ (db.eventsOf input.runId).length ≤ maxEventsLimit input.maxEvents) ∨
      (db.hasEventId input.event.eventId = false ∧ (db.eventsOf input.runId).length = maxEventsLimit input.maxEvents ∧
        db.newerThan input.runId (input.event.row db input.runId input.nowMs).seq =
          maxEventsLimit input.maxEvents) := by
  -- inserting the event and pruning cancel out only when nothing was to prune, or the event itself went
  rcases insertNewEvent_eq_ok.mp ok with ⟨known, same⟩ | ⟨fresh, accepted, rows, _⟩
  · rw [same, pruneEvents_eq_self]
    simp [known]
  · simp only [fresh, Bool.false_eq_true, false_and, false_or, true_and]
    exact append_prune_eq_self rfl rows (fun member => hasEventId_false.mp fresh _ member rfl)
      (maxEventsLimit_pos input.maxEvents)

end

theorem finish_turned_away (named : input.messageId ≠ "")
    (turned : db.messages.accepts (input.message db) = false) {table : Table runEventsSchema} :
    input.finish { db with runEvents := table } =
      { db with
        runEvents :=
          (({ db with runEvents := table } : Database).pruneEvents input.runId
            (maxEventsLimit input.maxEvents)).runEvents
        runRetention :=
          ((({ db with runEvents := table } : Database).pruneEvents input.runId
            (maxEventsLimit input.maxEvents)).upsertRetention input.runId input.nowMs).runRetention
        sessions := (db.touchSession input.sessionId input.nowMs).sessions
        runs := (db.touchRun input.runId input.nowMs).runs } := by
  have same : ∀ other : Database, other.messages = db.messages →
      { other with messages := other.messages.insertOrIgnore (input.message other) } = other := by
    intro other messages
    rw [message_congr db input messages, messages, insertOrIgnore_eq_self.mpr turned, ← messages]
  simp only [finish, applyMessage, named, if_false]
  rw [same _ (by simp), upsertRetention_frame]
  rfl

theorem finish_eq_self (named : input.messageId ≠ "")
    (ok : insertNewEvent db input.runId input.event input.nowMs = .ok inserted) :
    input.finish inserted = db ↔ input.Settled db := by
  have events := insert_prune_eq_self ok
  obtain ⟨table, rfl⟩ : ∃ table, inserted = { db with runEvents := table } := ⟨_, insertNewEvent_frame ok⟩
  by_cases turned : db.messages.accepts (input.message db) = false
  · have untouched (rows : (({ db with runEvents := table } : Database).pruneEvents input.runId
        (maxEventsLimit input.maxEvents)).runEvents = db.runEvents) :
        ({ db with runEvents := table } : Database).pruneEvents input.runId
          (maxEventsLimit input.maxEvents) = db := Database.ext rfl rfl rfl rows rfl rfl rfl rfl rfl rfl rfl
    rw [finish_turned_away named turned, Database.ext_iff]
    simp only [Database.touchSession_eq_self, Database.touchRun_eq_self, true_and, and_true]
    constructor
    · rintro ⟨session, run, rows, retained⟩
      rw [untouched rows, Database.upsertRetention_eq_self] at retained
      exact ⟨events.mp rows, retained, turned, session, run⟩
    · rintro ⟨settled, current, _, session, run⟩
      have rows := events.mpr settled
      refine ⟨session, run, rows, ?_⟩
      rw [untouched rows, Database.upsertRetention_eq_self]
      exact current
  · refine iff_of_false (fun same => turned ?_) fun settled => turned settled.message
    have kept := finish_messages { db with runEvents := table } input named
    rw [same] at kept
    exact insertOrIgnore_eq_self.mp kept.symm

theorem requireParameters_eq_error {parameters : List (List String)}
    (refused : parameters.all host.acceptsParameters = false) :
    requireParameters host parameters = .error .parameterRejected := by
  simp [requireParameters, refused]

theorem storageStepCommit_of_not_refused (named : input.messageId ≠ "") (passed : ¬ input.Refused host db) :
    ∃ inserted, insertNewEvent db input.runId input.event input.nowMs = .ok inserted ∧
      storageStepCommit host db input =
        (input.finish inserted, if input.failpoint = .afterCommitBeforePublish then
          .error .failpointAfterCommit else .ok ()) := by
  -- a step that no guard refuses commits, whatever its failpoint reports afterwards
  simp only [Refused, not_or, not_and, Bool.not_eq_false] at passed
  obtain ⟨short, run, session, parameters, event, failpoint⟩ := passed
  have inserts : ∃ inserted, insertNewEvent db input.runId input.event input.nowMs = .ok inserted := by
    cases outcome : insertNewEvent db input.runId input.event input.nowMs with
    | ok inserted => exact ⟨inserted, rfl⟩
    | error error =>
      obtain ⟨fresh, refused, _⟩ := insertNewEvent_eq_error.mp outcome
      simp [event fresh] at refused
  obtain ⟨inserted, ok⟩ := inserts
  have messages : inserted.messages = db.messages := by rw [insertNewEvent_frame ok]
  have spared : ¬ (input.failpoint = .afterPartialWrite ∧
      (input.finish inserted).hasMessageId input.messageId) := by
    rintro ⟨hook, found⟩
    rw [finish_hasMessageId named] at found
    simp only [hasMessageId, messages, message_congr db input messages] at found
    exact absurd found (by simpa [hasMessageId] using failpoint hook)
  have transaction : stepTransaction host db input = .ok (input.finish inserted) := by
    simp only [stepTransaction, requireParameters_eq_ok.mpr parameters, ok, bind, Except.bind]
    rw [if_neg spared]
  refine ⟨inserted, ok, ?_⟩
  rw [storageStepCommit, if_neg short, if_neg (by simp [run]), if_neg (by simp [session]), transaction]
  simp only [commitTransaction]
  split_ifs <;> rfl

theorem refused_unchanged (named : input.messageId ≠ "") (refused : input.Refused host db) :
    (storageStepCommit host db input).1 = db ∧ ∃ error, (storageStepCommit host db input).2 = .error error := by
  have aborted : (∃ error, stepTransaction host db input = .error error) →
      (storageStepCommit host db input).1 = db ∧
        ∃ error, (storageStepCommit host db input).2 = .error error := by
    rintro ⟨error, failed⟩
    unfold storageStepCommit
    rw [failed]
    split_ifs <;> exact ⟨rfl, _, rfl⟩
  rcases refused with long | noRun | noSession | parameters | ⟨fresh, conflict⟩ | ⟨hook, message⟩
  · simp [storageStepCommit, long]
  · unfold storageStepCommit
    split_ifs <;> exact ⟨rfl, _, rfl⟩
  · unfold storageStepCommit
    simp only [named, noSession, ne_eq, not_false_eq_true, and_self, if_true]
    split_ifs <;> exact ⟨rfl, _, rfl⟩
  · refine aborted ⟨.parameterRejected, ?_⟩
    simp [stepTransaction, requireParameters_eq_error parameters, bind, Except.bind]
  · apply aborted
    have failed := insertNewEvent_eq_error.mpr ⟨fresh, conflict, rfl⟩
    cases parameters : input.parameters.all host.acceptsParameters
    · exact ⟨_, by simp only [stepTransaction, requireParameters_eq_error parameters, bind, Except.bind]; rfl⟩
    · exact ⟨_, by simp only [stepTransaction, requireParameters_eq_ok.mpr parameters, failed, bind, Except.bind]; rfl⟩
  · apply aborted
    cases parameters : input.parameters.all host.acceptsParameters
    · exact ⟨_, by simp only [stepTransaction, requireParameters_eq_error parameters, bind, Except.bind]; rfl⟩
    cases outcome : insertNewEvent db input.runId input.event input.nowMs with
    | error error =>
      exact ⟨error, by
        simp only [stepTransaction, requireParameters_eq_ok.mpr parameters, outcome, bind, Except.bind]⟩
    | ok inserted =>
      have messages : inserted.messages = db.messages := by rw [insertNewEvent_frame outcome]
      have found : (input.finish inserted).hasMessageId input.messageId := by
        rw [finish_hasMessageId named]
        simpa only [hasMessageId, messages, message_congr db input messages] using message
      refine ⟨.constraintFailed, ?_⟩
      simp only [stepTransaction, requireParameters_eq_ok.mpr parameters, outcome, bind, Except.bind]
      rw [if_pos ⟨hook, found⟩]

theorem step_commit_atomic_iff (host : Host) (db : Database) (input : StepCommitInput) (named : input.messageId ≠ "") :
    input.Atomic host db ↔
      input.Refused host db ∨
        (input.failpoint = .afterCommitBeforePublish ∧ input.Settled db) ∨
        (input.EventKept db ∧ input.MessageKept db) := by
  by_cases refused : input.Refused host db
  · exact iff_of_true (.inl (refused_unchanged named refused)) (.inl refused)
  · obtain ⟨inserted, ok, outcome⟩ := storageStepCommit_of_not_refused named refused
    have messages : inserted.messages = db.messages := by rw [insertNewEvent_frame ok]
    have kept : input.MessageKept inserted ↔ input.MessageKept db := by
      simp only [MessageKept, messages, message_congr db input messages]
    simp only [Atomic, outcome, refused, false_or]
    rw [finish_event ok, finish_message named, finish_eq_self named ok, kept]
    by_cases hook : input.failpoint = .afterCommitBeforePublish <;> simp [hook]

def occupied : Database :=
  { Database.empty with
    sessions := empty.insertOrIgnore
      { id := "s", profile := "default", platform := "api", accountId := "s", chatId := "",
        lastMessageSeq := 1, createdAtMs := 0, updatedAtMs := 0 }
    runs := empty.insertOrIgnore
      { id := "r", sessionId := "s", status := .running, createdAtMs := 0, updatedAtMs := 0 }
    messages := empty.insertOrIgnore
      { id := "m1", sessionId := "s", ordinal := 1, role := "user", content := .json (.arr []), createdAtMs := 0 }
    runEvents := empty.insertOrIgnore
      { runId := "r", seq := 1, eventId := "e1", eventType := .runStarted, payload := .obj [], createdAtMs := 0 } }

def toolStep (ordinal : Int) : StepCommitInput where
  runId := "r"
  sessionId := "s"
  event := { eventId := "e2", eventType := .toolOutput, payload := .obj [("tool_call_id", .str "c")], seq := 2 }
  nowMs := 1
  maxEvents := 240
  messageId := "m2"
  role := "user"
  content := .json (.arr [])
  name := "read"
  toolCallId := "c"
  parentMessageId := ""
  tokenEstimate := 0
  metadata := .json (.obj [])
  finishReason := ""
  ordinal := ordinal
  failpoint := .none

theorem step_commit_atomic_at_free_ordinal : (toolStep 2).messageId ≠ "" ∧
      ((toolStep 2).Atomic Host.reference occupied ↔
        (toolStep 2).Refused Host.reference occupied ∨
          ((toolStep 2).failpoint = .afterCommitBeforePublish ∧ (toolStep 2).Settled occupied) ∨
          ((toolStep 2).EventKept occupied ∧ (toolStep 2).MessageKept occupied)) :=
  ⟨by decide, step_commit_atomic_iff Host.reference occupied (toolStep 2) (by decide)⟩

theorem step_commit_drops_message : ¬ (toolStep 1).Atomic Host.reference occupied := by
  have reported : (storageStepCommit Host.reference occupied (toolStep 1)).2 = .ok () := by rfl
  have missing : ∀ row ∈ (storageStepCommit Host.reference occupied (toolStep 1)).1.messages.rows,
      row.id ≠ "m2" := by decide
  rintro (⟨_, error, refused⟩ | ⟨_, row, member, id, _⟩)
  · rw [reported] at refused
    cases refused
  · exact missing row member id

end StepCommitInput

end RustScriptAgent.Storage
