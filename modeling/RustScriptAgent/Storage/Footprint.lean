import RustScriptAgent.Storage.RestartRecovery

namespace RustScriptAgent.Storage

open Relational Sequences Database StepCommitInput RunRow RunTransitionInput List Table

variable {run : String} {row : RunRow}

structure Footprint (db next : Database) (rewrite : RunRow → RunRow) (written : List MessageRow) : Prop where
  keys : next.idempotencyRecords = db.idempotencyRecords
  sessions : ∀ id, next.hasSession id = db.hasSession id
  runs : ∃ selected : RunRow → Bool,
    next.runs.rows = db.runs.rows.map fun row => if selected row then rewrite row else row
  messages : ∃ new, new.Sublist written ∧ next.messages.rows = db.messages.rows ++ new

structure RunRow.SamePlace (row other : RunRow) : Prop where
  id : other.id = row.id
  sessionId : other.sessionId = row.sessionId
  parentRunId : other.parentRunId = row.parentRunId

def RunRow.rewriteOf (run : String) (change : RunRow → RunRow) (row : RunRow) : RunRow :=
  if row.id = run then change row else row

def touchedRun (run : String) (now : Int) : RunRow → RunRow :=
  RunRow.rewriteOf run (Database.setRunUpdatedAt now).apply

def RunTransitionInput.rewrite (input : RunTransitionInput) : RunRow → RunRow :=
  RunRow.rewriteOf input.runId fun row =>
    match RunStatus.ofText? input.toStatus with
    | some target => (input.assign target).apply row
    | none => row

def RunTerminalInput.rewrite (input : RunTerminalInput) : RunRow → RunRow :=
  RunRow.rewriteOf input.runId fun row =>
    match RunStatus.ofText? input.toStatus with
    | some target => (input.assign target).apply row
    | none => row

def RecoveryInput.rewrite (input : RecoveryInput) (row : RunRow) : RunRow :=
  if row.status.active then input.assign.apply row else row

def StepCommitInput.written (db : Database) (input : StepCommitInput) : List MessageRow :=
  if input.messageId = "" then [] else [input.message db]

def RunTerminalInput.written (db : Database) (input : RunTerminalInput) : List MessageRow :=
  if input.messageId = "" then [] else [input.message db]

theorem RunRow.rewriteOf_samePlace {change : RunRow → RunRow}
    (place : row.SamePlace (change row)) : row.SamePlace (row.rewriteOf run change) := by
  unfold rewriteOf
  split_ifs
  · exact place
  · exact ⟨rfl, rfl, rfl⟩

theorem touchedRun_samePlace (run : String) (now : Int) (row : RunRow) : row.SamePlace (touchedRun run now row) :=
  rewriteOf_samePlace ⟨rfl, rfl, rfl⟩

theorem RunTransitionInput.rewrite_samePlace (input : RunTransitionInput) (row : RunRow) :
    row.SamePlace (input.rewrite row) := by
  apply rewriteOf_samePlace
  split <;> exact ⟨rfl, rfl, rfl⟩

theorem RunTerminalInput.rewrite_samePlace (input : RunTerminalInput) (row : RunRow) :
    row.SamePlace (input.rewrite row) := by
  apply rewriteOf_samePlace
  split <;> exact ⟨rfl, rfl, rfl⟩

theorem RecoveryInput.rewrite_samePlace (input : RecoveryInput) (row : RunRow) : row.SamePlace (input.rewrite row) := by
  unfold RecoveryInput.rewrite
  split_ifs <;> exact ⟨rfl, rfl, rfl⟩

theorem RunRow.map_rewriteOf {rows : List RunRow} {change : RunRow → RunRow}
    {selected : RunRow → Bool} (own : ∀ row, selected row → row.id = run) :
    rows.map (fun row => if selected row then change row else row) =
      rows.map fun row => if selected row then row.rewriteOf run change else row := by
  refine map_congr_left fun row _ => ?_
  split_ifs with chosen
  · rw [rewriteOf, if_pos (own row chosen)]
  · rfl

namespace Footprint

variable {db next : Database} {rewrite : RunRow → RunRow} {written : List MessageRow}

theorem refl (db : Database) (rewrite : RunRow → RunRow) (written : List MessageRow) :
    Footprint db db rewrite written where
  keys := rfl
  sessions _ := rfl
  runs := ⟨fun _ => false, by simp⟩
  messages := ⟨[], nil_sublist written, by simp⟩

theorem hasRun (footprint : Footprint db next rewrite written) (place : ∀ row : RunRow, row.SamePlace (rewrite row))
    (run : String) : next.hasRun run = db.hasRun run := by
  obtain ⟨selected, rows⟩ := footprint.runs
  simp only [Database.hasRun, rows, any_map]
  congr 1
  funext row
  simp only [Function.comp_apply]
  split_ifs
  · rw [(place row).id]
  · rfl

theorem run_origin (footprint : Footprint db next rewrite written) (stored : row ∈ next.runs.rows) :
    ∃ old ∈ db.runs.rows, row = old ∨ row = rewrite old := by
  obtain ⟨selected, rows⟩ := footprint.runs
  rw [rows] at stored
  obtain ⟨old, member, same⟩ := mem_map.mp stored
  split_ifs at same
  · exact ⟨old, member, .inr same.symm⟩
  · exact ⟨old, member, .inl same.symm⟩

end Footprint

namespace Database

theorem hasSession_congr {a b : Database} (same : a.sessions = b.sessions) (id : String) :
    a.hasSession id = b.hasSession id := by
  simp [hasSession, same]

theorem hasSession_update {a b : Database} {selected : SessionRow → Bool} {assignment : sessionsSchema.Assignment}
    (place : ∀ row, (assignment.apply row).id = row.id)
    (updated : a.sessions = b.sessions.update selected assignment) (id : String) :
    a.hasSession id = b.hasSession id := by
  simp only [hasSession, updated, update_rows, any_map]
  congr 1
  funext row
  simp only [Function.comp_apply]
  split_ifs
  · rw [place row]
  · rfl

@[simp] theorem hasSession_touchSession (db : Database) (session id : String) (now : Int) :
    (db.touchSession session now).hasSession id = db.hasSession id :=
  hasSession_update (fun _ => rfl) rfl id

@[simp] theorem upsertRetention_idempotencyRecords (db : Database) (run : String) (now : Int) :
    (db.upsertRetention run now).idempotencyRecords = db.idempotencyRecords := by
  rw [upsertRetention_frame]

theorem touchRun_footprint (db : Database) (run : String) (now : Int) : (db.touchRun run now).runs.rows =
      db.runs.rows.map fun row => if row.id == run then touchedRun run now row else row :=
  map_rewriteOf fun _ own => by simpa using own

end Database

section Commands

variable (host : Host) (db : Database)

theorem settle_footprint {inserted : Database} (keys : inserted.idempotencyRecords = db.idempotencyRecords)
    (sessions : inserted.sessions = db.sessions) (runs : inserted.runs = db.runs)
    (messages : inserted.messages = db.messages) (run : String) (limit : Nat) (now : Int) :
    Footprint db (inserted.settle run limit now) (touchedRun run now) [] where
  keys := by
    simp only [settle, touchRun, upsertRetention_idempotencyRecords]
    exact keys
  sessions id := hasSession_congr (by simp [settle, sessions]) id
  runs := ⟨fun row => row.id == run, by
    simp [settle, touchRun_footprint, runs]⟩
  messages := ⟨[], List.Sublist.refl [], by simp [messages]⟩

theorem storageEventAppend_footprint (input : EventAppendInput) :
    Footprint db (storageEventAppend host db input).1 (touchedRun input.runId input.nowMs) [] := by
  rcases storageEventAppend_written host db input with ⟨failed, _⟩ | ⟨_, inserted, ok, outcome⟩
  · rw [failed]
    exact Footprint.refl db _ _
  · have frame := insertNewEvent_frame ok
    rw [outcome]
    exact settle_footprint db (by rw [frame]) (by rw [frame]) (by rw [frame]) (by rw [frame]) _ _ _

theorem storageEventAppendPair_footprint (input : EventAppendPairInput) :
    Footprint db (storageEventAppendPair host db input).1 (touchedRun input.runId input.nowMs) [] := by
  rcases storageEventAppendPair_written host db input with ⟨failed, _⟩ | ⟨_, _, once, twice, ok, again, outcome⟩
  · rw [failed]
    exact Footprint.refl db _ _
  · have frame := insertNewEvent_frame ok
    have second := insertNewEvent_frame again
    rw [outcome]
    exact settle_footprint db (by rw [second, frame]) (by rw [second, frame]) (by rw [second, frame])
      (by rw [second, frame]) _ _ _

theorem storageStepCommit_footprint (input : StepCommitInput) :
    Footprint db (storageStepCommit host db input).1 (touchedRun input.runId input.nowMs)
      (input.written db) := by
  rcases storageStepCommit_written host db input with ⟨failed, _⟩ | ⟨_, _, inserted, ok, outcome⟩
  · rw [failed]
    exact Footprint.refl db _ _
  have frame := insertNewEvent_frame ok
  have messages : inserted.messages = db.messages := by rw [frame]
  rw [outcome]
  refine ⟨?_, fun id => ?_, ⟨fun row => row.id == input.runId, ?_⟩, ?_⟩
  · unfold finish applyMessage
    split_ifs <;>
      · simp only [touchRun, touchSession, upsertRetention_idempotencyRecords, pruneEvents]
        rw [frame]
  · have kept : inserted.hasSession id = db.hasSession id := hasSession_congr (by rw [frame]) id
    rw [← kept]
    unfold finish applyMessage
    split_ifs
    · exact hasSession_congr (by simp) id
    · refine (hasSession_congr rfl id).trans (hasSession_touchSession _ input.sessionId id _ |>.trans ?_)
      exact hasSession_congr (by simp) id
  · have runs : inserted.runs = db.runs := by rw [frame]
    rw [finish, touchRun_footprint]
    unfold applyMessage
    split_ifs <;> simp [runs]
  · unfold written
    split_ifs with unnamed
    · refine ⟨[], List.Sublist.refl [], ?_⟩
      simp [finish, applyMessage, unnamed, messages]
    · rw [finish_messages inserted input unnamed, insertOrIgnore_rows,
        message_congr db input messages, messages]
      split_ifs
      · exact ⟨[input.message db], List.Sublist.refl _, rfl⟩
      · exact ⟨[], nil_sublist _, (append_nil _).symm⟩

theorem storageRunTransition_footprint (input : RunTransitionInput) :
    Footprint db (storageRunTransition host db input).1 input.rewrite [] := by
  rcases input.storageRunTransition_cases db host with ⟨_, failed⟩ | ⟨target, parsed, _, outcome⟩
  · rw [failed]
    exact Footprint.refl db _ _
  · rw [outcome]
    have frame : ∀ moved : Database, (input.recorded moved).idempotencyRecords = moved.idempotencyRecords ∧
        (input.recorded moved).sessions = moved.sessions := by
      intro moved
      unfold recorded
      split <;> simp
    refine ⟨(frame _).1, fun id => hasSession_congr (frame _).2 id, ⟨input.matchesRow target, ?_⟩, ?_⟩
    · simp only [recorded_runs, moved, update_rows, rewrite, parsed]
      refine map_rewriteOf fun row chosen => ?_
      simp only [matchesRow, Bool.and_eq_true, beq_iff_eq] at chosen
      exact chosen.1.1
    · exact ⟨[], List.Sublist.refl [], by simp [moved]⟩

theorem insertTerminalEvents_frame {db next : Database} {events : List TerminalEvent} {now : Int}
    (ok : insertTerminalEvents db run events now = .ok next) : next = { db with runEvents := next.runEvents } := by
  unfold insertTerminalEvents at ok
  induction events generalizing db with
  | nil =>
    cases ok
    rfl
  | cons event rest ih =>
    rw [foldlM_cons] at ok
    cases first : insertTerminalEvent db run event now with
    | error error => simp [first, bind, Except.bind] at ok
    | ok middle =>
      simp only [first, bind, Except.bind] at ok
      have outer := ih ok
      have inner : middle = { db with runEvents := middle.runEvents } := by
        unfold insertTerminalEvent at first
        split_ifs at first
        · exact (insertEvent_eq_ok.mp first).2.2
        · cases first
          rfl
      rw [outer, inner]

theorem storeTerminalMessage_keeps {db next : Database} {input : RunTerminalInput}
    (ok : storeTerminalMessage db input = .ok next) :
    next.idempotencyRecords = db.idempotencyRecords ∧ ∀ id, next.hasSession id = db.hasSession id := by
  unfold storeTerminalMessage at ok
  split_ifs at ok with none
  · cases ok
    exact ⟨rfl, fun _ => rfl⟩
  · cases stored : db.insertMessage (input.message db) with
    | error error => simp [stored, bind, Except.bind] at ok
    | ok table =>
      obtain ⟨_, _, frame⟩ := insertMessage_eq_ok.mp stored
      simp only [stored, bind, Except.bind, pure, Except.pure, Except.ok.injEq] at ok
      subst ok
      refine ⟨?_, fun id => ?_⟩
      · rw [touchSession, frame]
      · rw [hasSession_touchSession]
        exact hasSession_congr (by rw [frame]) id

theorem RunTerminalInput.close_keeps (input : RunTerminalInput) (target : RunStatus) (db : Database) :
    (input.close target db).idempotencyRecords = db.idempotencyRecords := by
  unfold RunTerminalInput.close
  dsimp only
  split_ifs
  · rw [upsertRetention_idempotencyRecords]
  · rfl

theorem storageRunTerminal_footprint (input : RunTerminalInput) :
    Footprint db (storageRunTerminal host db input).1 input.rewrite (input.written db) := by
  rcases storageRunTerminal_stages host db input with same | ⟨target, appended, stored, parsed, events, message, closed⟩
  · rw [same]
    exact Footprint.refl db _ _
  rw [closed]
  have frame := insertTerminalEvents_frame events
  have messages : appended.messages = db.messages := by rw [frame]
  have runs : appended.runs = db.runs := by rw [frame]
  have keeps := storeTerminalMessage_keeps message
  obtain ⟨_, _, storedRuns, _, _, silent, named⟩ := RunTerminalInput.storeTerminalMessage_ok message
  refine ⟨?_, fun id => ?_, ⟨fun row => row.id == input.runId && decide (row.status = RunStatus.running), ?_⟩, ?_⟩
  · rw [input.close_keeps target, keeps.1, frame]
  · rw [hasSession_congr (RunTerminalInput.close_sessions) id, keeps.2 id]
    exact hasSession_congr (by rw [frame]) id
  · rw [RunTerminalInput.close_runs, storedRuns, runs]
    simp only [update_rows, RunTerminalInput.rewrite, parsed]
    refine map_rewriteOf fun row chosen => ?_
    simp only [Bool.and_eq_true, beq_iff_eq] at chosen
    exact chosen.1
  · unfold RunTerminalInput.written
    rw [RunTerminalInput.close_messages]
    split_ifs with unnamed
    · exact ⟨[], List.Sublist.refl [], by rw [silent unnamed, messages, append_nil]⟩
    · refine ⟨[input.message db], List.Sublist.refl _, ?_⟩
      rw [named unnamed, RunTerminalInput.message_congr messages runs, messages]

end Commands

section Startup

variable (db : Database)

theorem recoveryBatch_active {db : Database} {input : RecoveryInput} (stored : row ∈ db.runs.rows)
    (listed : row.id ∈ recoveryBatch db input) : row.status.active := by
  obtain ⟨other, member, same⟩ := mem_map.mp listed
  have chosen := (mem_insertionSort _).mp (mem_of_mem_take member)
  rw [mem_filter] at chosen
  rw [← run_unique chosen.1 stored same]
  exact chosen.2

theorem storageRunRecoverActive_footprint (input : RecoveryInput)
    (closed : ∀ row ∈ db.idempotencyRecords.rows, row.state ≠ .claimed) :
    Footprint db (storageRunRecoverActive db input).1 input.rewrite [] where
  keys := by
    -- recovery rewrites the runs that it fails; keys that are completed stay as they are
    rw [storageRunRecoverActive, upsertRetention_foldl_frame]
    refine update_eq_self.mpr fun row member selected => ?_
    simp only [Bool.and_eq_true, decide_eq_true_eq] at selected
    exact absurd selected.1.1 (closed row member)
  sessions id := hasSession_congr (by
    rw [storageRunRecoverActive, upsertRetention_foldl_frame]
    rfl) id
  runs := ⟨fun row => (recoveryBatch db input).contains row.id, by
    rw [storageRunRecoverActive_runs, update_rows]
    refine map_congr_left fun row stored => ?_
    split_ifs with chosen
    · rw [RecoveryInput.rewrite, if_pos (recoveryBatch_active stored (by simpa using chosen))]
    · rfl⟩
  messages := ⟨[], List.Sublist.refl [], by
    rw [storageRunRecoverActive, upsertRetention_foldl_frame, append_nil]
    rfl⟩

theorem storageEffectReconcile_footprint (now maxRows : Int) : Footprint db (storageEffectReconcile db now maxRows).1 id
      (answerRows db (storageEffectReconcile db now maxRows).1.runEvents.rows now (reconcileLimit maxRows)) where
  keys := by
    simp only [storageEffectReconcile]
    rw [refreshRetention_frame]
    rfl
  sessions id := by
    simp only [storageEffectReconcile]
    rw [refreshRetention_frame]
    exact hasSession_update (fun _ => rfl) rfl id
  runs := ⟨fun _ => false, by simp⟩
  messages := ⟨_, acceptedRows_sublist _ _, by
    rw [storageEffectReconcile_messages, insertEachOrIgnore_rows]⟩

end Startup

end RustScriptAgent.Storage
