import RustScriptAgent.Storage.EventLog
import RustScriptAgent.Storage.Reconciliation

namespace RustScriptAgent.Storage

open Relational Sequences Database List Table

def recoverActiveResponse (affected : Nat) : Json :=
  .obj [("data", .obj [("results", .arr [.obj [("execute", .obj [("rows_affected", .int affected)]),
      ("kind", .str "execute")]])]),
    ("ok", .bool true), ("recovered", .int affected)]

def commandData (response : Json) : Json := (response.get? "data").getD .null

def restartInput (now maxEvents : Int) : RecoveryInput := ⟨now, "gateway_restart", .obj [], 512, maxEvents⟩

def recoverRounds (clock : Nat → Int) (maxEvents : Int) : Nat → Nat → Database → Database × Except String Unit
  | 0, done, db =>
    ((storageRunRecoverActive db (restartInput (clock done) maxEvents)).1,
      .error "restart recovery did not converge")
  | fuel + 1, done, db =>
    let round := storageRunRecoverActive db (restartInput (clock done) maxEvents)
    let recovered := ((commandData (recoverActiveResponse round.2)).getInt? "recovered").getD 0
    if 0 < recovered then recoverRounds clock maxEvents fuel (done + 1) round.1 else (round.1, .ok ())

def recoverActiveRuns (clock : Nat → Int) (maxEvents : Int) (db : Database) : Database × Except String Unit :=
  recoverRounds clock maxEvents 10000 0 db

def Database.recordsOf (db : Database) (run : String) : List RecoveryRow :=
  db.recoveryRecords.rows.filter (fun record => record.runId == run)

structure FailedByRestart (db next : Database) (row : RunRow) : Prop where
  status : next.runIs row.id .failed = true
  event : ∃ kept event, kept <:+ db.log row.id ∧ next.log row.id = kept ++ [event] ∧
    event.eventType = .runFailed ∧ db.hasEventId event.eventId = false
  record : ∃ record, next.recordsOf row.id = db.recordsOf row.id ++ [record] ∧
    record.fromStatus = row.status ∧ record.toStatus = .failed
  approvals : ∀ approval ∈ db.approvals.rows, approval.runId = row.id → approval.state = .pending →
    ∃ resolved ∈ next.approvals.rows, resolved.id = approval.id ∧ resolved.state = .expired
  idempotency : ∀ claim ∈ db.idempotencyRecords.rows, claim.resourceType = "run" → claim.resourceId = row.id →
    claim.state = .claimed →
    ∃ closed ∈ next.idempotencyRecords.rows, closed.scope = claim.scope ∧ closed.key = claim.key ∧
      closed.state = .expired

structure Restarted (db : Database) (outcome : Database × Except String Unit) : Prop where
  ends : outcome.2 = .ok ()
  finished : ∀ row ∈ outcome.1.runs.rows, row.status.terminal = true
  failed : ∀ row ∈ db.runs.rows, row.status.active = true → FailedByRestart db outcome.1 row
  kept : ∀ row ∈ db.runs.rows, row.status.terminal = true →
    row ∈ outcome.1.runs.rows ∧ outcome.1.log row.id = db.log row.id

def Database.activeRuns (db : Database) : List RunRow := db.runs.rows.filter (fun row => row.status.active)

structure Recoverable (db : Database) (now maxEvents : Int) : Prop where
  few : db.activeRuns.length ≤ 512
  unrecorded : ∀ row ∈ db.activeRuns, ∀ record ∈ db.recoveryRecords.rows,
    record.id ≠ "recovery:" ++ row.id ++ ":" ++ toString now ∧
      ¬(record.runId = row.id ∧ record.reason = "gateway_restart")
  unannounced : ∀ row ∈ db.activeRuns,
    db.hasEventId ("recovery-event:" ++ row.id ++ ":" ++ toString now) = false
  spared : ∀ row ∈ db.runs.rows, row.status.terminal = true →
    (∃ record ∈ db.recordsOf row.id, record.recoveredAtMs = now ∧ record.reason = "gateway_restart") →
    (db.eventsOf row.id).length ≤ maxEventsLimit maxEvents

theorem recoverActiveRuns_eq (clock : Nat → Int) (maxEvents : Int) (db : Database) :
    recoverActiveRuns clock maxEvents db =
      ((storageRunRecoverActive db (restartInput (clock 0) maxEvents)).1, .ok ()) := rfl

section Round

variable {db : Database} {input : RecoveryInput} {row : RunRow} {run : String}

theorem runIds_nodup (db : Database) : (db.runs.rows.map RunRow.id).Nodup := by
  rw [List.Nodup, pairwise_map]
  refine db.runs.unique.imp ?_
  intro a b free same
  simp [runsSchema, same] at free

theorem recoveryBatch_covers_iff :
    (∀ row ∈ db.activeRuns, row.id ∈ recoveryBatch db input) ↔
      db.activeRuns.length ≤ recoveryLimit input.maxRows := by
  have perm := perm_insertionSort (fun a b : RunRow =>
    a.updatedAtMs < b.updatedAtMs ∨ (a.updatedAtMs = b.updatedAtMs ∧ a.id ≤ b.id)) db.activeRuns
  have distinct : ((db.activeRuns.insertionSort fun a b : RunRow =>
      a.updatedAtMs < b.updatedAtMs ∨ (a.updatedAtMs = b.updatedAtMs ∧ a.id ≤ b.id)).map RunRow.id).Nodup :=
    (perm.map RunRow.id).nodup_iff.mpr ((runIds_nodup db).sublist (filter_sublist.map _))
  rw [← perm.length_eq, ← forall_mem_take_iff distinct]
  exact forall_congr' fun row => imp_congr_left perm.mem_iff.symm

theorem mem_recoveryChosen_iff :
    row ∈ recoveryChosen db input ↔ row ∈ db.runs.rows ∧ row.id ∈ recoveryBatch db input := by
  simp [recoveryChosen]

theorem recoveryChosen_filter (stored : row ∈ db.runs.rows) :
    (recoveryChosen db input).filter (fun other => other.id == row.id) =
      if row.id ∈ recoveryBatch db input then [row] else [] := by
  have single : db.runs.rows.filter (fun other => other.id == row.id) = [row] :=
    filter_eq_singleton (by simp [runsSchema]) stored (by simp)
      fun other member same => run_unique member stored (by simpa using same)
  rw [recoveryChosen, filter_comm, single, filter_singleton]
  by_cases listed : row.id ∈ recoveryBatch db input <;> simp [listed]

theorem storageRunRecoverActive_runs :
    (storageRunRecoverActive db input).1.runs =
      db.runs.update (fun row => (recoveryBatch db input).contains row.id) input.assign := by
  rw [storageRunRecoverActive, upsertRetention_foldl_frame]
  rfl

theorem storageRunRecoverActive_recoveryRecords :
    (storageRunRecoverActive db input).1.recoveryRecords.rows = db.recoveryRecords.rows ++
      db.recoveryRecords.acceptedRows ((recoveryChosen db input).map (recoveryRow input)) := by
  rw [storageRunRecoverActive, upsertRetention_foldl_frame]
  exact insertEachOrIgnore_rows _ _

theorem acceptedRows_of_run {Row : Type} {schema : Schema Row} (table : Table schema) {make : RunRow → Row}
    {owner : Row → String} (owned : ∀ source, owner (make source) = source.id)
    (apart : ∀ a b : RunRow, a.id ≠ b.id → schema.conflict (make a) (make b) = false) (stored : row ∈ db.runs.rows) :
    (table.acceptedRows ((recoveryChosen db input).map make)).filter (fun made => owner made == row.id) =
      if row.id ∈ recoveryBatch db input ∧ table.accepts (make row) then [make row] else [] := by
  have chosen : ((recoveryChosen db input).map make).filter (fun made => owner made == row.id) =
      ((recoveryChosen db input).filter (fun other => other.id == row.id)).map make := by
    rw [filter_map]
    simp only [Function.comp_def, owned]
  rw [recoveryChosen_filter stored] at chosen
  by_cases listed : row.id ∈ recoveryBatch db input
  · rw [if_pos listed, map_singleton] at chosen
    rw [filter_acceptedRows chosen]
    · simp [listed]
    · intro other member distinct
      obtain ⟨source, taken, rfl⟩ := mem_map.mp member
      exact apart source row fun same =>
        distinct (by rw [run_unique (mem_recoveryChosen taken).1 stored same])
  · rw [if_neg listed, map_nil] at chosen
    rw [if_neg (by simp [listed])]
    exact eq_nil_of_sublist_nil (chosen ▸ (acceptedRows_sublist _ _).filter _)

theorem storageRunRecoverActive_recordsOf (stored : row ∈ db.runs.rows) :
    (storageRunRecoverActive db input).1.recordsOf row.id = db.recordsOf row.id ++
      if row.id ∈ recoveryBatch db input ∧ db.recoveryRecords.accepts (recoveryRow input row) then
        [recoveryRow input row] else [] := by
  rw [recordsOf, storageRunRecoverActive_recoveryRecords, filter_append,
    acceptedRows_of_run db.recoveryRecords (fun _ => rfl) _ stored]
  · rfl
  · intro a b apart
    simp [recoveryRecordsSchema, recoveryRow, apart]

theorem recoverRuns_eventsOf (input : RecoveryInput) (stored : row ∈ db.runs.rows) :
    (recoverRuns db input).eventsOf row.id = db.eventsOf row.id ++
      if row.id ∈ recoveryBatch db input ∧ db.runEvents.accepts (recoveryEvent db input row) then
        [recoveryEvent db input row] else [] := by
  rw [eventsOf, recoverRuns_runEvents, filter_append, acceptedRows_of_run db.runEvents (fun _ => rfl) _ stored]
  · rfl
  · intro a b apart
    simp [runEventsSchema, recoveryEvent, apart]

theorem accepts_recoveryRow :
    db.recoveryRecords.accepts (recoveryRow input row) ↔
      ∀ record ∈ db.recoveryRecords.rows, record.id ≠ "recovery:" ++ row.id ++ ":" ++ toString input.nowMs ∧
        ¬(record.runId = row.id ∧ record.reason = input.reason) := by
  rw [accepts_iff]
  simp [recoveryRecordsSchema, recoveryRow]

theorem accepts_recoveryEvent :
    db.runEvents.accepts (recoveryEvent db input row) ↔
      db.hasEventId ("recovery-event:" ++ row.id ++ ":" ++ toString input.nowMs) = false := by
  have short : recoveryPayload.render.length ≤ maxTextLength := by decide
  let event : TerminalEvent :=
    ⟨"recovery-event:" ++ row.id ++ ":" ++ toString input.nowMs, .runFailed, recoveryPayload⟩
  have same : db.runEvents.accepts (event.row db row.id input.nowMs) ↔
      event.payload.render.length ≤ maxTextLength ∧ db.hasEventId event.eventId = false := accepts_terminalRow
  exact same.trans (and_iff_right short)

theorem recoverRuns_log (input : RecoveryInput) (stored : row ∈ db.runs.rows) :
    (recoverRuns db input).log row.id = db.log row.id ++
      if row.id ∈ recoveryBatch db input ∧ db.runEvents.accepts (recoveryEvent db input row) then
        [recoveryEvent db input row] else [] := by
  refine log_eq ?_ ?_
  · rw [recoverRuns_eventsOf input stored]
    exact (db.log_perm row.id).append_right _
  · refine pairwise_append.mpr ⟨db.log_sorted row.id, ?_, ?_⟩
    · split_ifs
      · exact pairwise_singleton _ _
      · exact List.Pairwise.nil
    · intro old listed new added
      obtain ⟨member, own⟩ := mem_eventsOf.mp (mem_log.mp listed)
      have below := le_maxSeq member
      split_ifs at added with taken
      · have next : new.seq = db.maxSeq row.id + 1 := by
          rw [mem_singleton.mp added]
          rfl
        rw [own] at below
        omega
      · simp at added

theorem mem_recoveredRuns_iff :
    run ∈ recoveredRuns (recoverRuns db input) input ↔
      ∃ record ∈ (storageRunRecoverActive db input).1.recordsOf run,
        record.recoveredAtMs = input.nowMs ∧ record.reason = input.reason := by
  have records : (storageRunRecoverActive db input).1.recoveryRecords = (recoverRuns db input).recoveryRecords := by
    rw [storageRunRecoverActive, upsertRetention_foldl_frame]
    rfl
  simp only [recoveredRuns, recordsOf, records, mem_map, mem_filter, Bool.and_eq_true, decide_eq_true_eq, beq_iff_eq]
  constructor
  · rintro ⟨record, ⟨member, time, reason⟩, own⟩
    exact ⟨record, ⟨member, own⟩, time, reason⟩
  · rintro ⟨record, ⟨member, own⟩, time, reason⟩
    exact ⟨record, ⟨member, time, reason⟩, own⟩

theorem storageRunRecoverActive_log :
    (storageRunRecoverActive db input).1.log run =
      if run ∈ recoveredRuns (recoverRuns db input) input then
        ((recoverRuns db input).log run).drop
          (((recoverRuns db input).eventsOf run).length - maxEventsLimit input.maxEvents)
      else (recoverRuns db input).log run := by
  have events : (storageRunRecoverActive db input).1.eventsOf run =
      if (recoveredRuns (recoverRuns db input) input).contains run then
        ((recoverRuns db input).pruneEvents run (maxEventsLimit input.maxEvents)).eventsOf run
      else (recoverRuns db input).eventsOf run := by
    rw [storageRunRecoverActive, upsertRetention_foldl_frame]
    exact eventsOf_pruneRecovered _ _
  rw [log, events]
  by_cases listed : run ∈ recoveredRuns (recoverRuns db input) input
  · rw [if_pos (contains_iff_mem.mpr listed), if_pos listed, ← log_pruneEvents]
    rfl
  · rw [if_neg (by simpa using listed), if_neg listed]
    rfl

structure Taken (db : Database) (input : RecoveryInput) (row : RunRow) : Prop where
  stored : row ∈ db.runs.rows
  listed : row.id ∈ recoveryBatch db input
  record : db.recoveryRecords.accepts (recoveryRow input row) = true
  event : db.runEvents.accepts (recoveryEvent db input row) = true

theorem Taken.recovered (taken : Taken db input row) : row.id ∈ recoveredRuns (recoverRuns db input) input := by
  rw [mem_recoveredRuns_iff, storageRunRecoverActive_recordsOf taken.stored, if_pos ⟨taken.listed, taken.record⟩]
  exact ⟨recoveryRow input row, by simp, rfl, rfl⟩

theorem Taken.failed (taken : Taken db input row) :
    FailedByRestart db (storageRunRecoverActive db input).1 row := by
  have recovered := taken.recovered
  refine ⟨?_, ?_, ?_, ?_, ?_⟩
  · refine runIs_iff.mpr ⟨input.assign.apply row, ?_, rfl, rfl⟩
    rw [storageRunRecoverActive_runs, update_rows]
    exact mem_map.mpr ⟨row, taken.stored, if_pos (contains_iff_mem.mpr taken.listed)⟩
  · have positive := maxEventsLimit_pos input.maxEvents
    have extended := recoverRuns_log input taken.stored
    have size := congrArg length (recoverRuns_eventsOf input taken.stored)
    rw [if_pos ⟨taken.listed, taken.event⟩] at extended size
    rw [length_append, length_singleton] at size
    have width : (db.log row.id).length = (db.eventsOf row.id).length := (db.log_perm row.id).length_eq
    -- the limit leaves room for one event at least, and the new one comes last
    have log : (storageRunRecoverActive db input).1.log row.id =
        (db.log row.id).drop ((db.eventsOf row.id).length + 1 - maxEventsLimit input.maxEvents) ++
          [recoveryEvent db input row] := by
      rw [storageRunRecoverActive_log, if_pos recovered, extended, size, drop_append_of_le_length (by omega)]
    exact ⟨_, _, drop_suffix _ _, log, rfl, accepts_recoveryEvent.mp taken.event⟩
  · exact ⟨recoveryRow input row, by rw [storageRunRecoverActive_recordsOf taken.stored,
      if_pos ⟨taken.listed, taken.record⟩], rfl, rfl⟩
  · intro approval member own pending
    rw [storageRunRecoverActive, upsertRetention_foldl_frame]
    refine ⟨(expireApproval input.nowMs).apply approval, mem_map.mpr ⟨approval, member, if_pos ?_⟩, rfl, rfl⟩
    simpa [own, pending] using recovered
  · intro claim member kind own claimed
    rw [storageRunRecoverActive, upsertRetention_foldl_frame]
    refine ⟨(expireIdempotency input.nowMs).apply claim, mem_map.mpr ⟨claim, member, if_pos ?_⟩, rfl, rfl, rfl⟩
    simpa [own, kind, claimed] using recovered

theorem FailedByRestart.taken (failed : FailedByRestart db (storageRunRecoverActive db input).1 row)
    (stored : row ∈ db.runs.rows) : Taken db input row := by
  obtain ⟨record, appended, _⟩ := failed.record
  have recorded : row.id ∈ recoveryBatch db input ∧ db.recoveryRecords.accepts (recoveryRow input row) := by
    by_contra untaken
    rw [storageRunRecoverActive_recordsOf stored, if_neg untaken] at appended
    simp at appended
  refine ⟨stored, recorded.1, recorded.2, ?_⟩
  by_contra unheard
  obtain ⟨kept, event, _, log, _, fresh⟩ := failed.event
  -- without its event the log has old rows only
  have old : event ∈ db.log row.id := by
    have same : (recoverRuns db input).log row.id = db.log row.id := by
      rw [recoverRuns_log input stored, if_neg fun both => unheard both.2, append_nil]
    have last : event ∈ (storageRunRecoverActive db input).1.log row.id := by simp [log]
    rw [storageRunRecoverActive_log, same] at last
    split_ifs at last
    · exact mem_of_mem_drop last
    · exact last
  exact hasEventId_false.mp fresh event (mem_eventsOf.mp (mem_log.mp old)).1 rfl

theorem terminal_of_not_active {status : RunStatus} (idle : status.active = false) : status.terminal := by
  cases status <;> first | rfl | exact absurd idle (by decide)

theorem not_listed_of_terminal (stored : row ∈ db.runs.rows) (finished : row.status.terminal) :
    row.id ∉ recoveryBatch db input := by
  intro listed
  have active := (mem_recoveryChosen (mem_recoveryChosen_iff.mpr ⟨stored, listed⟩)).2
  simp [active_not_terminal active] at finished

theorem terminal_log_kept_iff (stored : row ∈ db.runs.rows) (finished : row.status.terminal) :
    (storageRunRecoverActive db input).1.log row.id = db.log row.id ↔
      ((∃ record ∈ db.recordsOf row.id, record.recoveredAtMs = input.nowMs ∧ record.reason = input.reason) →
        (db.eventsOf row.id).length ≤ maxEventsLimit input.maxEvents) := by
  have passed : row.id ∉ recoveryBatch db input := not_listed_of_terminal stored finished
  have records : (storageRunRecoverActive db input).1.recordsOf row.id = db.recordsOf row.id := by
    rw [storageRunRecoverActive_recordsOf stored, if_neg fun both => passed both.1, append_nil]
  have events : (recoverRuns db input).eventsOf row.id = db.eventsOf row.id := by
    rw [recoverRuns_eventsOf input stored, if_neg fun both => passed both.1, append_nil]
  have log : (recoverRuns db input).log row.id = db.log row.id := by rw [log, events, log]
  have width : (db.log row.id).length = (db.eventsOf row.id).length := (db.log_perm row.id).length_eq
  have positive := maxEventsLimit_pos input.maxEvents
  have noted : row.id ∈ recoveredRuns (recoverRuns db input) input ↔
      ∃ record ∈ db.recordsOf row.id, record.recoveredAtMs = input.nowMs ∧ record.reason = input.reason := by
    rw [mem_recoveredRuns_iff, records]
  rw [storageRunRecoverActive_log, events, log, ← noted]
  split_ifs with named
  · rw [forall_prop_of_true named]
    constructor
    · intro same
      have lengths := congrArg length same
      rw [length_drop] at lengths
      omega
    · intro short
      rw [Nat.sub_eq_zero_of_le short, drop_zero]
  · exact iff_of_true rfl fun some => absurd some named

end Round

theorem restart_recovery_iff (clock : Nat → Int) (maxEvents : Int) (db : Database) :
    Restarted db (recoverActiveRuns clock maxEvents db) ↔ Recoverable db (clock 0) maxEvents := by
  rw [recoverActiveRuns_eq]
  have limit : recoveryLimit (restartInput (clock 0) maxEvents).maxRows = 512 := by rfl
  constructor
  · intro restarted
    have taken : ∀ row ∈ db.activeRuns, Taken db (restartInput (clock 0) maxEvents) row := by
      intro row active
      obtain ⟨stored, status⟩ := List.mem_filter.mp active
      exact (restarted.failed row stored status).taken stored
    refine ⟨?_, ?_, ?_, ?_⟩
    · rw [← limit, ← recoveryBatch_covers_iff]
      exact fun row active => (taken row active).listed
    · exact fun row active => accepts_recoveryRow.mp (taken row active).record
    · exact fun row active => accepts_recoveryEvent.mp (taken row active).event
    · intro row stored finished
      exact (terminal_log_kept_iff stored finished).mp (restarted.kept row stored finished).2
  · intro recoverable
    have covered : ∀ row ∈ db.activeRuns, row.id ∈ recoveryBatch db (restartInput (clock 0) maxEvents) := by
      rw [recoveryBatch_covers_iff, limit]
      exact recoverable.few
    have taken (row : RunRow) (stored : row ∈ db.runs.rows) (status : row.status.active = true) :
        Taken db (restartInput (clock 0) maxEvents) row := by
      have active : row ∈ db.activeRuns := List.mem_filter.mpr ⟨stored, status⟩
      exact ⟨stored, covered row active, accepts_recoveryRow.mpr (recoverable.unrecorded row active),
        accepts_recoveryEvent.mpr (recoverable.unannounced row active)⟩
    refine ⟨rfl, ?_, fun row stored status => (taken row stored status).failed, ?_⟩
    · intro row member
      rw [storageRunRecoverActive_runs, update_rows] at member
      obtain ⟨old, stored, rfl⟩ := List.mem_map.mp member
      split_ifs with listed
      · rfl
      · cases status : old.status.active with
        | true => exact absurd (List.contains_iff_mem.mpr (taken old stored status).listed) listed
        | false => exact terminal_of_not_active status
    · intro row stored finished
      refine ⟨?_, (terminal_log_kept_iff stored finished).mpr (recoverable.spared row stored finished)⟩
      rw [storageRunRecoverActive_runs, update_rows]
      exact List.mem_map.mpr ⟨row, stored, if_neg (by simpa using not_listed_of_terminal stored finished)⟩

def queuedRun (number : Nat) : RunRow where
  id := String.ofList (List.replicate number 'r')
  sessionId := "s"
  status := .queued
  createdAtMs := 0
  updatedAtMs := 0

theorem queuedRuns_unique (count : Nat) :
    ((range count).map queuedRun).Pairwise (fun a b => runsSchema.conflict a b = false) := by
  rw [pairwise_map]
  refine nodup_range.imp ?_
  intro a b distinct
  simpa [runsSchema, queuedRun, String.ofList_inj, replicate_inj] using fun same => absurd same distinct

def queuedRuns (count : Nat) : Database :=
  { Database.empty with
    runs := ⟨(List.range count).map queuedRun, queuedRuns_unique count, by
      intro row member
      obtain ⟨number, _, rfl⟩ := List.mem_map.mp member
      have short : (Json.obj []).render.length ≤ maxTextLength := by decide
      exact decide_eq_true short⟩ }

theorem queuedRuns_activeRuns (count : Nat) : (queuedRuns count).activeRuns = (range count).map queuedRun := by
  refine filter_eq_self.mpr fun row member => ?_
  obtain ⟨number, _, rfl⟩ := mem_map.mp member
  rfl

theorem queuedRuns_left {count : Nat} (clock : Nat → Int) (maxEvents : Int) (more : 512 < count) :
    ∃ row ∈ (recoverActiveRuns clock maxEvents (queuedRuns count)).1.runs.rows, row.status = .queued := by
  have uncovered : ¬(queuedRuns count).activeRuns.length ≤
      recoveryLimit (restartInput (clock 0) maxEvents).maxRows := by
    have batch : recoveryLimit (restartInput (clock 0) maxEvents).maxRows = 512 := rfl
    rw [queuedRuns_activeRuns, length_map, length_range, batch]
    omega
  rw [← recoveryBatch_covers_iff] at uncovered
  push Not at uncovered
  obtain ⟨row, active, passed⟩ := uncovered
  have queued : row.status = .queued := by
    rw [queuedRuns_activeRuns] at active
    obtain ⟨number, _, rfl⟩ := mem_map.mp active
    rfl
  refine ⟨row, ?_, queued⟩
  rw [recoverActiveRuns_eq, storageRunRecoverActive_runs, update_rows]
  exact mem_map.mpr ⟨row, (mem_filter.mp active).1, if_neg (by simpa using passed)⟩

theorem restart_leaves_queued_run :
    (recoverActiveRuns (fun _ => 7) 0 (queuedRuns 513)).2 = .ok () ∧
      (∃ row ∈ (recoverActiveRuns (fun _ => 7) 0 (queuedRuns 513)).1.runs.rows, row.status = .queued) ∧
      ¬Restarted (queuedRuns 513) (recoverActiveRuns (fun _ => 7) 0 (queuedRuns 513)) := by
  have left := queuedRuns_left (fun _ => 7) 0 (show 512 < 513 by decide)
  refine ⟨by rw [recoverActiveRuns_eq], left, fun restarted => ?_⟩
  obtain ⟨row, member, queued⟩ := left
  have finished := restarted.finished row member
  simp [queued, RunStatus.terminal] at finished

theorem activeRuns_recover (db : Database) (input : RecoveryInput) :
    (storageRunRecoverActive db input).1.activeRuns.length = db.activeRuns.length - recoveryLimit input.maxRows := by
  have perm := perm_insertionSort (fun a b : RunRow =>
    a.updatedAtMs < b.updatedAtMs ∨ (a.updatedAtMs = b.updatedAtMs ∧ a.id ≤ b.id)) db.activeRuns
  have distinct := (perm.map RunRow.id).nodup_iff.mpr ((runIds_nodup db).sublist (filter_sublist.map _))
  rw [← perm.length_eq, ← countP_behind_take distinct, perm.countP_eq, activeRuns, storageRunRecoverActive_runs,
    update_rows, ← countP_eq_length_filter, countP_map, activeRuns, countP_filter]
  refine countP_congr fun row _ => ?_
  change _ ↔ (decide (row.id ∉ recoveryBatch db input) && row.status.active) = true
  by_cases listed : row.id ∈ recoveryBatch db input <;> simp [listed, RecoveryInput.assign, RunStatus.active]

def loadLoops (maxEvents : Int) (db : Database) (clocks : (Nat → Int) × (Nat → Int)) : Database :=
  (reconcileEffects clocks.2 (recoverActiveRuns clocks.1 maxEvents db).1).1

theorem loadLoops_runs (maxEvents : Int) (db : Database) (clocks : (Nat → Int) × (Nat → Int)) :
    (loadLoops maxEvents db clocks).runs =
      (storageRunRecoverActive db (restartInput (clocks.1 0) maxEvents)).1.runs := by
  rw [loadLoops, recoverActiveRuns_eq]
  exact ((Grown.refl _).rounds clocks.2 10000 0).runs

theorem loads_drain (maxEvents : Int) (loads : List ((Nat → Int) × (Nat → Int))) (db : Database) :
    (loads.foldl (loadLoops maxEvents) db).activeRuns.length = db.activeRuns.length - 512 * loads.length ∧
      ∀ row ∈ db.runs.rows, row.status.terminal = true → row ∈ (loads.foldl (loadLoops maxEvents) db).runs.rows := by
  -- each load ends 512 more of the active runs, and none touches a run that had ended
  induction loads generalizing db with
  | nil => exact ⟨rfl, fun _ stored _ => stored⟩
  | cons clocks rest ih =>
    obtain ⟨count, kept⟩ := ih (loadLoops maxEvents db clocks)
    refine ⟨?_, fun row stored ended => kept row ?_ ended⟩
    · rw [foldl_cons, count, activeRuns, loadLoops_runs, ← activeRuns, activeRuns_recover, length_cons, Nat.sub_sub,
        Nat.mul_succ, Nat.add_comm]
      rfl
    · rw [loadLoops_runs, storageRunRecoverActive_runs, update_rows]
      exact mem_map.mpr ⟨row, stored, if_neg (by simpa using not_listed_of_terminal stored ended)⟩

end RustScriptAgent.Storage
