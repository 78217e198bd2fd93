import RustScriptAgent.Storage.AdmissionOutcome
import RustScriptAgent.Storage.Compactions

namespace RustScriptAgent.Storage

open Relational Sequences Database List Table

variable {row : MessageRow}

structure MessageAppendInput where
  id : String
  sessionId : String
  role : String
  content : JsonText
  name : String
  toolCallId : String
  parentMessageId : String
  tokenEstimate : Int
  metadata : JsonText
  runId : String
  finishReason : String
  nowMs : Int

def MessageAppendInput.message (input : MessageAppendInput) (db : Database) : MessageRow where
  id := input.id
  sessionId := input.sessionId
  ordinal :=
    (if db.messages.rows.any (fun row => row.id == input.id && row.sessionId != input.sessionId) then 0
      else db.maxOrdinal input.sessionId) + 1
  role := input.role
  content := .json (encodeContent input.content)
  name := input.name
  toolCallId := input.toolCallId
  parentMessageId := input.parentMessageId
  tokenEstimate := input.tokenEstimate
  metadata := input.metadata
  runId := input.runId
  finishReason := input.finishReason
  createdAtMs := input.nowMs

def MessageAppendInput.parameters (input : MessageAppendInput) : List (List String) :=
  [[input.id, input.sessionId, input.role, (encodeContent input.content).render, input.name, input.toolCallId,
      input.parentMessageId, input.metadata.text, input.runId, input.finishReason, input.sessionId, input.id,
      input.sessionId],
    [input.sessionId, input.sessionId]]

def storageMessageAppend (host : Host) (db : Database) (input : MessageAppendInput) :
    Database × Except StorageError Unit :=
  if db.hasSession input.sessionId = false then
    (db, .error (.sessionNotFound "message append targets an unknown session"))
  else
    commitTransaction db do
      requireParameters host input.parameters
      let stored := { db with messages := db.messages.insertOrIgnore (input.message db) }
      return stored.touchSession input.sessionId input.nowMs

namespace Database

def generationOf (db : Database) (session : String) : Option Int :=
  (db.sessions.rows.find? (fun row => row.id == session)).map SessionRow.generation

variable {db next : Database}

theorem generationOf_congr (same : next.sessions = db.sessions) (session : String) :
    next.generationOf session = db.generationOf session := by
  rw [generationOf, generationOf, same]

theorem generationOf_update {selected : SessionRow → Bool} {assignment : sessionsSchema.Assignment}
    (updated : next.sessions = db.sessions.update selected assignment)
    (place : ∀ row, (assignment.apply row).id = row.id)
    (kept : ∀ row, (assignment.apply row).generation = row.generation) (session : String) :
    next.generationOf session = db.generationOf session := by
  have ids : ((fun row : SessionRow => row.id == session) ∘ fun row =>
      if selected row then assignment.apply row else row) = fun row => row.id == session := by
    funext row
    simp only [Function.comp_apply]
    split_ifs <;> simp [place]
  have generations : (SessionRow.generation ∘ fun row => if selected row then assignment.apply row else row) =
      SessionRow.generation := by
    funext row
    simp only [Function.comp_apply]
    split_ifs <;> simp [kept]
  rw [generationOf, generationOf, updated, update_rows, find?_map, ids, Option.map_map, generations]

theorem le_maxOrdinal (stored : row ∈ db.messages.rows) : row.ordinal ≤ db.maxOrdinal row.sessionId :=
  le_maxOrZero (mem_map_of_mem (mem_messagesOf.mpr ⟨stored, rfl⟩))

theorem hasOrdinal_iff {session : String} {ordinal : Int} : db.hasOrdinal session ordinal ↔
      ∃ row ∈ db.messages.rows, row.sessionId = session ∧ row.ordinal = ordinal := by
  simp [hasOrdinal]

def Behind (db : Database) (row : MessageRow) : Prop :=
  db.maxOrdinal row.sessionId < row.ordinal ∨ db.hasOrdinal row.sessionId row.ordinal = true

instance decidableBehind (db : Database) (row : MessageRow) : Decidable (db.Behind row) :=
  inferInstanceAs (Decidable (_ ∨ _))

theorem Behind.placed (behind : db.Behind row) (accepted : db.messages.accepts row) :
    db.maxOrdinal row.sessionId < row.ordinal := by
  rcases behind with above | taken
  · exact above
  · obtain ⟨stored, member, session, ordinal⟩ := hasOrdinal_iff.mp taken
    have free := ((accepts_iff _ _).mp accepted).2 stored member
    simp [messagesSchema, session, ordinal] at free

theorem maxOrdinal_mono {new : List MessageRow} (rows : next.messages.rows = db.messages.rows ++ new)
    (behind : ∀ row ∈ new, db.maxOrdinal row.sessionId < row.ordinal) (session : String) :
    db.maxOrdinal session ≤ next.maxOrdinal session := by
  -- more messages behind the stored ones: the greatest ordinal does not go down
  have grown {row : MessageRow} (member : row ∈ db.messagesOf session) : row ∈ next.messagesOf session := by
    rw [mem_messagesOf] at member ⊢
    exact ⟨by rw [rows]; exact mem_append_left _ member.1, member.2⟩
  by_cases empty : next.messagesOf session = []
  · have none : db.messagesOf session = [] :=
      eq_nil_iff_forall_not_mem.mpr fun row member => by simpa [empty] using grown member
    rw [maxOrdinal, maxOrdinal, empty, none]
  · have nonempty : (next.messagesOf session).map MessageRow.ordinal ≠ [] := by simpa using empty
    obtain ⟨last, member, ordinal⟩ := mem_map.mp (maxOrZero_mem nonempty)
    rw [mem_messagesOf, rows, mem_append] at member
    obtain ⟨stored | added, own⟩ := member
    · -- the greatest message is an old one, and the old maximum is among the new table's
      by_cases none : db.messagesOf session = []
      · exact absurd (mem_messagesOf.mpr ⟨stored, own⟩) (by simp [none])
      · have old : (db.messagesOf session).map MessageRow.ordinal ≠ [] := by simpa using none
        obtain ⟨first, present, same⟩ := mem_map.mp (maxOrZero_mem old)
        rw [maxOrdinal, ← same]
        exact le_maxOrZero (mem_map_of_mem (grown present))
    · have above := behind last added
      rw [own] at above
      rw [maxOrdinal, maxOrdinal, ← ordinal]
      exact above.le

end Database

def CompactionRow.isCommitted (row : CompactionRow) : Bool := decide (row.state = .committed)

structure KeepsHistory (db next : Database) : Prop where
  messages : ∃ new, next.messages.rows = db.messages.rows ++ new ∧
    ∀ row ∈ new, row.compacted = false ∧ db.maxOrdinal row.sessionId < row.ordinal
  generation : ∀ session generation, db.generationOf session = some generation →
    next.generationOf session = some generation
  committed : next.compactions.rows.filter CompactionRow.isCommitted =
    db.compactions.rows.filter CompactionRow.isCommitted
  pending : ∀ row ∈ next.compactions.rows, row.state = .pending → row ∈ db.compactions.rows

namespace KeepsHistory

variable {db middle next : Database}

theorem of_frame (messages : next.messages = db.messages) (sessions : next.sessions = db.sessions)
    (compactions : next.compactions = db.compactions) : KeepsHistory db next where
  messages := ⟨[], by simp [messages], by simp⟩
  generation session _ held := by rw [generationOf_congr sessions session, held]
  committed := by rw [compactions]
  pending row member _ := by rwa [compactions] at member

theorem refl (db : Database) : KeepsHistory db db := of_frame rfl rfl rfl

theorem trans (first : KeepsHistory db middle) (second : KeepsHistory middle next) : KeepsHistory db next where
  messages := by
    obtain ⟨new, rows, fresh⟩ := first.messages
    obtain ⟨more, again, later⟩ := second.messages
    refine ⟨new ++ more, by rw [again, rows, append_assoc], fun row member => ?_⟩
    rcases mem_append.mp member with added | added
    · exact fresh row added
    · have grown := maxOrdinal_mono rows (fun row member => (fresh row member).2) row.sessionId
      exact ⟨(later row added).1, lt_of_le_of_lt grown (later row added).2⟩
  generation session generation held := second.generation session generation (first.generation session generation held)
  committed := second.committed.trans first.committed
  pending row member waiting := first.pending row (second.pending row member waiting) waiting

theorem of_update {selected : SessionRow → Bool} {assignment : sessionsSchema.Assignment}
    (place : ∀ row, (assignment.apply row).id = row.id)
    (kept : ∀ row, (assignment.apply row).generation = row.generation) :
    KeepsHistory db { db with sessions := db.sessions.update selected assignment } where
  messages := ⟨[], by simp, by simp⟩
  generation session _ held := by rw [generationOf_update rfl place kept session, held]
  committed := rfl
  pending _ member _ := member

theorem touchSession (db : Database) (session : String) (now : Int) : KeepsHistory db (db.touchSession session now) :=
  of_update (fun _ => rfl) fun _ => rfl

theorem of_message {table : Table messagesSchema}
    (rows : table.rows = db.messages.rows ∨ db.messages.accepts row ∧ table.rows = db.messages.rows ++ [row])
    (active : row.compacted = false)
    (placed : db.messages.accepts row → db.maxOrdinal row.sessionId < row.ordinal) :
    KeepsHistory db { db with messages := table } where
  messages := by
    rcases rows with same | ⟨accepted, grown⟩
    · exact ⟨[], by simpa using same, by simp⟩
    · exact ⟨[row], grown, by simpa using ⟨active, placed accepted⟩⟩
  generation _ _ held := held
  committed := rfl
  pending _ member _ := member

theorem insertOrIgnore (row : MessageRow) (active : row.compacted = false)
    (placed : db.messages.accepts row → db.maxOrdinal row.sessionId < row.ordinal) :
    KeepsHistory db { db with messages := db.messages.insertOrIgnore row } := by
  refine of_message ?_ active placed
  rw [insertOrIgnore_rows]
  split_ifs with accepted
  · exact .inr ⟨accepted, rfl⟩
  · exact .inl rfl

theorem insertMessage (ok : db.insertMessage row = .ok next) (active : row.compacted = false)
    (placed : db.messages.accepts row → db.maxOrdinal row.sessionId < row.ordinal) : KeepsHistory db next := by
  obtain ⟨accepted, rows, frame⟩ := insertMessage_eq_ok.mp ok
  rw [frame]
  exact of_message (.inr ⟨accepted, rows⟩) active placed

theorem of_failed (selected : CompactionRow → Bool) (assignment : compactionsSchema.Assignment)
    (pending : ∀ row, selected row → row.state = .pending)
    (failed : ∀ row, (assignment.apply row).state = .failed) :
    KeepsHistory db { db with compactions := db.compactions.update selected assignment } where
  messages := ⟨[], by simp, by simp⟩
  generation _ _ held := held
  committed := by
    -- compactions that fail were pending
    simp only [update_rows]
    rw [filter_map]
    have same : (CompactionRow.isCommitted ∘ fun row => if selected row then assignment.apply row else row) =
        CompactionRow.isCommitted := by
      funext row
      simp only [Function.comp_apply, CompactionRow.isCommitted]
      split_ifs with chosen
      · simp [failed, pending row chosen]
      · rfl
    rw [same]
    refine (map_congr_left fun row member => ?_).trans (map_id _)
    rw [mem_filter, CompactionRow.isCommitted, decide_eq_true_eq] at member
    rw [if_neg, id]
    intro chosen
    simp [pending row chosen] at member
  pending row member waiting := by
    simp only [update_rows, mem_map] at member
    obtain ⟨old, stored, rfl⟩ := member
    split_ifs at waiting ⊢ with chosen
    · simp [failed] at waiting
    · exact stored

end KeepsHistory

section Commands

variable (host : Host) (db : Database)

theorem storageMessageAppend_keeps (input : MessageAppendInput) :
    KeepsHistory db (storageMessageAppend host db input).1 := by
  unfold storageMessageAppend
  split_ifs
  · exact .refl db
  cases parameters : requireParameters host input.parameters with
  | error error => exact .refl db
  | ok passed =>
    refine (KeepsHistory.insertOrIgnore (input.message db) rfl fun accepted => ?_).trans
      (KeepsHistory.touchSession _ input.sessionId input.nowMs)
    cases taken : db.messages.rows.any fun row => row.id == input.id && row.sessionId != input.sessionId with
    | false => simp [MessageAppendInput.message, taken]
    | true =>
      -- a message of another session has the identifier, so the insert is ignored
      obtain ⟨stored, member, same⟩ := any_eq_true.mp taken
      have free := ((accepts_iff _ _).mp accepted).2 stored member
      simp only [Bool.and_eq_true, beq_iff_eq] at same
      simp [messagesSchema, MessageAppendInput.message, same.1] at free

theorem storageStepCommit_keeps {input : StepCommitInput}
    (behind : input.messageId ≠ "" → db.Behind (input.message db)) :
    KeepsHistory db (storageStepCommit host db input).1 := by
  rcases storageStepCommit_written host db input with ⟨failed, _⟩ | ⟨_, _, inserted, ok, outcome⟩
  · rw [failed]
    exact .refl db
  have frame := insertNewEvent_frame ok
  have messages : inserted.messages = db.messages := by rw [frame]
  rw [outcome, StepCommitInput.finish]
  set retained := (inserted.pruneEvents input.runId (maxEventsLimit input.maxEvents)).upsertRetention input.runId
    input.nowMs with settled
  have same : retained.messages = db.messages := by rw [settled]; simpa using messages
  have kept : KeepsHistory db retained := by
    refine .of_frame same ?_ ?_ <;>
      · rw [settled, upsertRetention_frame, frame]
        rfl
  have applied : KeepsHistory retained (input.applyMessage retained) := by
    unfold StepCommitInput.applyMessage
    split_ifs with unnamed
    · exact .refl retained
    · refine (KeepsHistory.insertOrIgnore _ rfl fun accepted => ?_).trans (KeepsHistory.touchSession _ _ _)
      rw [StepCommitInput.message_congr db input same] at accepted ⊢
      rw [same] at accepted
      have placed := (behind unnamed).placed accepted
      rwa [maxOrdinal, Database.messagesOf, same]
  exact (kept.trans applied).trans (KeepsHistory.of_frame rfl rfl rfl)

theorem storageRunTransition_keeps (input : RunTransitionInput) :
    KeepsHistory db (storageRunTransition host db input).1 := by
  rcases input.storageRunTransition_cases db host with ⟨_, failed⟩ | ⟨target, parsed, _, outcome⟩
  · rw [failed]
    exact .refl db
  · rw [outcome]
    refine .of_frame ?_ ?_ ?_ <;>
      · unfold RunTransitionInput.recorded
        split
        · rw [upsertRetention_frame]
          simp [RunTransitionInput.moved]
        · rfl

theorem storageRunTerminal_keeps {input : RunTerminalInput}
    (behind : input.messageId ≠ "" → db.Behind (input.message db)) :
    KeepsHistory db (storageRunTerminal host db input).1 := by
  rcases storageRunTerminal_stages host db input with same | ⟨target, appended, stored, _, events, message, closed⟩
  · rw [same]
    exact .refl db
  rw [closed]
  have frame := insertTerminalEvents_frame events
  have messages : appended.messages = db.messages := by rw [frame]
  have runs : appended.runs = db.runs := by rw [frame]
  have first : KeepsHistory db appended := KeepsHistory.of_frame messages (by rw [frame]) (by rw [frame])
  have second : KeepsHistory appended stored := by
    unfold storeTerminalMessage at message
    split_ifs at message with unnamed
    · cases message
      exact .refl appended
    · obtain ⟨written, inserted, message⟩ := Checks.passed_bind message
      cases message
      refine (KeepsHistory.insertMessage inserted rfl fun accepted => ?_).trans (KeepsHistory.touchSession _ _ _)
      rw [RunTerminalInput.message_congr messages runs] at accepted ⊢
      rw [messages] at accepted
      have placed := (behind unnamed).placed accepted
      rwa [maxOrdinal, Database.messagesOf, messages]
  have third : KeepsHistory stored (input.close target stored) := by
    unfold RunTerminalInput.close
    dsimp only
    split_ifs
    · rw [upsertRetention_frame]
      exact .of_frame rfl rfl rfl
    · exact .of_frame rfl rfl rfl
  exact (first.trans second).trans third

theorem storageRunRecoverActive_keeps (input : RecoveryInput) :
    KeepsHistory db (storageRunRecoverActive db input).1 := by
  rw [storageRunRecoverActive, upsertRetention_foldl_frame]
  refine (KeepsHistory.of_failed (fun row => decide (row.state = .pending)) (failCompaction input.nowMs) (by simp)
    fun _ => rfl).trans (KeepsHistory.of_frame ?_ ?_ ?_) <;> rfl

theorem storageEffectReconcile_keeps (now maxRows : Int) :
    KeepsHistory db (storageEffectReconcile db now maxRows).1 where
  messages := by
    rw [storageEffectReconcile_messages, insertEachOrIgnore_rows]
    refine ⟨_, rfl, fun row member => ?_⟩
    obtain ⟨entry, listed, built⟩ := mem_filterMap.mp ((acceptedRows_sublist _ _).subset member)
    obtain ⟨_, _, _, session, ordinal⟩ := answerRow_eq_some built
    have number := rowNumbers_lower (fun key : CallKey => db.sessionOf key.runId) listed
    simp only [countP_nil] at number
    refine ⟨?_, by rw [session]; omega⟩
    simp only [answerRow, bind, Option.bind_eq_some_iff] at built
    obtain ⟨_, _, _, _, same⟩ := built
    cases same
    rfl
  generation session generation held := by
    rw [← held]
    simp only [storageEffectReconcile]
    rw [refreshRetention_frame]
    exact generationOf_update rfl (fun _ => rfl) (fun _ => rfl) session
  committed := by
    simp only [storageEffectReconcile]
    rw [refreshRetention_frame]
    rfl
  pending row member _ := by
    simp only [storageEffectReconcile] at member
    rw [refreshRetention_frame] at member
    exact member

theorem storageCompactionFail_keeps (payload : Json) : KeepsHistory db (storageCompactionFail host db payload).1 := by
  unfold storageCompactionFail
  split
  · exact .refl db
  · split_ifs
    · exact .refl db
    · exact .of_failed _ _ (by simp) fun _ => rfl

end Commands

namespace AdmissionCreateInput

variable {input : AdmissionCreateInput} {db next : Database}

theorem openSession_keeps (ok : input.openSession db = .ok next) : KeepsHistory db next := by
  unfold openSession at ok
  split_ifs at ok
  · split at ok <;> cases ok
    rename_i table inserted
    refine ⟨⟨[], by simp, by simp⟩, fun session generation held => ?_, rfl, fun _ member _ => member⟩
    -- a new session goes behind the others, so a session that is found stays the one that is found
    rw [generationOf, Option.map_eq_some_iff] at held ⊢
    obtain ⟨row, found, same⟩ := held
    exact ⟨row, by simp [(insert?_eq_some.mp inserted).2, find?_append, found], same⟩
  · cases ok
    exact .refl db
  · dsimp only at ok
    split_ifs at ok
    cases ok
    exact .of_update (fun _ => rfl) fun _ => rfl

theorem storeMessage_keeps {content : JsonText} (ok : input.storeMessage content db = .ok next) :
    KeepsHistory db next := by
  unfold storeMessage at ok
  split_ifs at ok
  · exact .insertMessage ok rfl fun _ => by simp [messageRow]
  · cases ok
    exact .refl db

theorem storeRun_keeps (ok : input.storeRun db = .ok next) : KeepsHistory db next := by
  unfold storeRun at ok
  split_ifs at ok
  · split at ok <;> cases ok
    exact .of_frame rfl rfl rfl
  · cases ok
    exact .refl db

theorem startLog_keeps (ok : input.startLog db = .ok next) : KeepsHistory db next := by
  unfold startLog at ok
  split_ifs at ok
  · obtain ⟨started, inserted, ok⟩ := Checks.passed_bind ok
    cases ok
    obtain ⟨_, _, frame⟩ := insertEvent_eq_ok.mp inserted
    refine .of_frame ?_ ?_ ?_ <;> rw [upsertRetention_frame, frame]
  · cases ok
    exact .refl db

theorem transaction_keeps {host : Host} {content : JsonText} (ok : input.transaction host content db = .ok next) :
    KeepsHistory db next := by
  obtain ⟨opened, asked, running, linked, session, message, run, link, ok⟩ := transaction_stages ok
  have recorded : KeepsHistory running (input.recordKey linked) := by
    have frame := linkChild_frame link
    unfold recordKey
    split_ifs <;> exact .of_frame (by rw [frame]) (by rw [frame]) (by rw [frame])
  exact ((((openSession_keeps session).trans (storeMessage_keeps message)).trans (storeRun_keeps run)).trans
    recorded).trans (startLog_keeps ok)

end AdmissionCreateInput

theorem storageAdmissionCreate_keeps (host : Host) (encode : Json → JsonText) (db : Database)
    (input : AdmissionCreateInput) : KeepsHistory db (storageAdmissionCreate host encode db input).1 := by
  rcases storageAdmissionCreate_db host encode db input with same | made
  · rw [same]
    exact .refl db
  · exact AdmissionCreateInput.transaction_keeps made

end RustScriptAgent.Storage
