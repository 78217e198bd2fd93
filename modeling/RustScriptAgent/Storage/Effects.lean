import RustScriptAgent.Storage.StepCommit
import RustScriptAgent.Storage.Terminal

namespace RustScriptAgent.Storage

open Relational Sequences Database StepCommitInput Table

variable {a b : Database}

namespace Database

def settle (db : Database) (run : String) (limit : Nat) (now : Int) : Database :=
  ((db.pruneEvents run limit).upsertRetention run now).touchRun run now

section Settle

variable (db : Database) (run : String) (limit : Nat) (now : Int)

@[simp] theorem settle_runEvents : (db.settle run limit now).runEvents = (db.pruneEvents run limit).runEvents := by
  simp [settle]

@[simp] theorem settle_recoveryRecords : (db.settle run limit now).recoveryRecords = db.recoveryRecords :=
  (db.pruneEvents run limit).upsertRetention_recoveryRecords run now

@[simp] theorem settle_messages : (db.settle run limit now).messages = db.messages := by simp [settle]

variable (other : String)

variable (status : RunStatus)

@[simp] theorem runIs_touchRun :
    (db.touchRun run now).runIs other status = db.runIs other status := by
  simp only [runIs, touchRun, update_rows, List.any_map]
  congr 1
  funext row
  by_cases same : row.id = run <;> simp [same, setRunUpdatedAt]

@[simp] theorem runIs_upsertRetention :
    (db.upsertRetention run now).runIs other status = db.runIs other status := by simp [runIs]

@[simp] theorem runIs_pruneEvents :
    (db.pruneEvents run limit).runIs other status = db.runIs other status := rfl

@[simp] theorem runIs_settle :
    (db.settle run limit now).runIs other status = db.runIs other status := by simp [settle]

end Settle

theorem runIs_congr (same : a.runs = b.runs) (run : String) (status : RunStatus) :
    a.runIs run status = b.runIs run status := by
  simp [runIs, same]

theorem hasRun_congr (same : a.runs = b.runs) (run : String) : a.hasRun run = b.hasRun run := by
  simp [hasRun, same]

theorem hasRun_update {selected : RunRow → Bool} {assignment : runsSchema.Assignment}
    (updated : a.runs = b.runs.update selected assignment) (run : String) : a.hasRun run = b.hasRun run := by
  have id (row : RunRow) : (assignment.apply row).id = row.id := by
    simpa [runsSchema] using assignment.left row row
  simp only [hasRun, updated, update_rows, List.any_map]
  congr 1
  funext row
  simp only [Function.comp_apply]
  split_ifs <;> simp [id]

@[simp] theorem hasRun_touchRun (db : Database) (target : String) (now : Int) (run : String) :
    (db.touchRun target now).hasRun run = db.hasRun run := hasRun_update rfl run

@[simp] theorem hasRun_settle (db : Database) (target : String) (limit : Nat) (now : Int) (run : String) :
    (db.settle target limit now).hasRun run = db.hasRun run := by
  rw [settle, hasRun_touchRun]
  exact hasRun_congr (by simp) run

theorem runIs_inj {db : Database} {run : String} {a b : RunStatus} (first : db.runIs run a)
    (second : db.runIs run b) : a = b := by
  obtain ⟨row, member, id, status⟩ := runIs_iff.mp first
  obtain ⟨other, present, otherId, otherStatus⟩ := runIs_iff.mp second
  rw [← status, ← otherStatus, run_unique member present (id.trans otherId.symm)]

end Database

def committed {α : Type} : Except StorageError α → Bool
  | .ok _ => true
  | .error .failpointAfterCommit => true
  | .error _ => false

theorem requireParameters_error {host : Host} {parameters : List (List String)} {error : StorageError}
    (failed : requireParameters host parameters = .error error) : error = .parameterRejected := by
  unfold requireParameters at failed
  split_ifs at failed
  exact (Except.error.inj failed).symm

theorem committed_insertNewEvent {db : Database} {target : String} {fields : EventFields} {now : Int}
    {error : StorageError}
    (failed : insertNewEvent db target fields now = .error error) :
      committed (.error error : Except StorageError Unit) = false := by
  rw [(insertNewEvent_eq_error.mp failed).2.2]
  rfl

section Append

variable (host : Host) (db : Database)

theorem storageEventAppend_written (input : EventAppendInput) :
    ((storageEventAppend host db input).1 = db ∧ committed (storageEventAppend host db input).2 = false) ∨
      (db.hasRun input.runId ∧
        ∃ inserted, insertNewEvent db input.runId input.event input.nowMs = .ok inserted ∧
          storageEventAppend host db input =
            (inserted.settle input.runId (maxEventsLimit input.maxEvents) input.nowMs, .ok ())) := by
  unfold storageEventAppend
  split_ifs with absent
  · exact .inl ⟨rfl, rfl⟩
  cases parameters : requireParameters host [input.event.parameters input.runId, [input.runId]] with
  | error error =>
    rw [requireParameters_error parameters]
    exact .inl ⟨rfl, rfl⟩
  | ok passed =>
    cases outcome : insertNewEvent db input.runId input.event input.nowMs with
    | error error => exact .inl ⟨rfl, committed_insertNewEvent outcome⟩
    | ok inserted => exact .inr ⟨by simpa using absent, inserted, rfl, rfl⟩

theorem storageEventAppendPair_written (input : EventAppendPairInput) :
    ((storageEventAppendPair host db input).1 = db ∧ committed (storageEventAppendPair host db input).2 = false) ∨
      (db.hasRun input.runId ∧ committed (storageEventAppendPair host db input).2 ∧
        ∃ once twice, insertNewEvent db input.runId input.first input.nowMs = .ok once ∧
          insertNewEvent once input.runId input.second input.nowMs = .ok twice ∧
          (storageEventAppendPair host db input).1 =
            twice.settle input.runId (maxEventsLimit input.maxEvents) input.nowMs) := by
  unfold storageEventAppendPair
  split
  · exact .inl ⟨rfl, rfl⟩
  split
  · exact .inl ⟨rfl, rfl⟩
  rename_i present
  cases parameters : requireParameters host
      [input.first.parameters input.runId, input.second.parameters input.runId, [input.runId]] with
  | error error =>
    rw [requireParameters_error parameters]
    exact .inl ⟨rfl, rfl⟩
  | ok passed =>
    cases first : insertNewEvent db input.runId input.first input.nowMs with
    | error error => exact .inl ⟨rfl, committed_insertNewEvent first⟩
    | ok once =>
      cases second : insertNewEvent once input.runId input.second input.nowMs with
      | error error =>
        left
        have refused := committed_insertNewEvent second
        simp only [commitTransaction, bind, Except.bind, second]
        exact ⟨trivial, refused⟩
      | ok twice =>
        cases hook : input.failpoint with
        | afterPartialWrite =>
          left
          simp [commitTransaction, bind, Except.bind, second, committed]
        | none | afterCommitBeforePublish =>
          refine .inr ⟨by simpa using present, ?_, once, twice, rfl, second, ?_⟩ <;>
            simp [commitTransaction, bind, Except.bind, second, committed, settle]

variable (input : StepCommitInput)

theorem storageStepCommit_written :
    ((storageStepCommit host db input).1 = db ∧ committed (storageStepCommit host db input).2 = false) ∨
      (db.hasRun input.runId ∧ committed (storageStepCommit host db input).2 ∧
        ∃ inserted, insertNewEvent db input.runId input.event input.nowMs = .ok inserted ∧
          (storageStepCommit host db input).1 = input.finish inserted) := by
  unfold storageStepCommit
  split
  · exact .inl ⟨rfl, rfl⟩
  split
  · exact .inl ⟨rfl, rfl⟩
  rename_i present
  split
  · exact .inl ⟨rfl, rfl⟩
  unfold stepTransaction
  cases parameters : requireParameters host input.parameters with
  | error error =>
    rw [requireParameters_error parameters]
    exact .inl ⟨rfl, rfl⟩
  | ok passed =>
    cases outcome : insertNewEvent db input.runId input.event input.nowMs with
    | error error => exact .inl ⟨rfl, committed_insertNewEvent outcome⟩
    | ok inserted =>
      by_cases hook : input.failpoint = .afterPartialWrite ∧ (input.finish inserted).hasMessageId input.messageId
      · left
        simp [commitTransaction, hook, bind, Except.bind, committed]
      · right
        refine ⟨by simpa using present, ?_, inserted, rfl, ?_⟩ <;>
          simp only [commitTransaction, bind, Except.bind, hook, if_false] <;>
          split_ifs <;> rfl

structure StepCommitInput.Lands : Prop where
  done : (storageStepCommit host db input).2 = .ok ()
  accepted : db.messages.accepts (input.message db) = true
  unknown : db.hasEventId input.event.eventId = false
  newest : db.newerThan input.runId (input.event.row db input.runId input.nowMs).seq < maxEventsLimit input.maxEvents

structure StepCommitInput.Landed (after : Database) : Prop where
  event : input.event.row db input.runId input.nowMs ∈ after.eventsOf input.runId
  events : ∀ row ∈ after.eventsOf input.runId,
    row ∈ db.eventsOf input.runId ∨ row = input.event.row db input.runId input.nowMs
  messages : after.messages.rows = db.messages.rows ++ [input.message db]
  runs : ∀ row ∈ db.runs.rows, row.id = input.runId → { row with updatedAtMs := input.nowMs } ∈ after.runs.rows

variable {host db input} in
theorem StepCommitInput.Lands.landed (lands : input.Lands host db) (named : input.messageId ≠ "") :
    input.Landed db (storageStepCommit host db input).1 := by
  rcases storageStepCommit_written host db input with ⟨_, refused⟩ | ⟨_, _, inserted, ok, outcome⟩
  · rw [lands.done] at refused
    cases refused
  rw [outcome]
  rcases insertNewEvent_eq_ok.mp ok with ⟨known, _⟩ | ⟨_, _, rows, frame⟩
  · rw [lands.unknown] at known
    cases known
  have events (row : EventRow) : row ∈ (input.finish inserted).eventsOf input.runId ↔
      (row ∈ db.eventsOf input.runId ∨ row = input.event.row db input.runId input.nowMs) ∧
        inserted.newerThan input.runId row.seq < maxEventsLimit input.maxEvents := by
    rw [mem_eventsOf, finish_runEvents, mem_pruneEvents, rows, List.mem_append, List.mem_singleton, mem_eventsOf]
    constructor
    · rintro ⟨⟨old | rfl, kept⟩, own⟩
      · exact ⟨.inl ⟨old, own⟩, kept own⟩
      · exact ⟨.inr rfl, kept rfl⟩
    · rintro ⟨⟨old, own⟩ | rfl, kept⟩
      · exact ⟨⟨.inl old, fun _ => kept⟩, own⟩
      · exact ⟨⟨.inr rfl, fun _ => kept⟩, rfl⟩
  refine ⟨(events _).mpr ⟨.inr rfl, ?_⟩, fun row member => ((events row).mp member).1, ?_, fun row stored own => ?_⟩
  · rw [newerThan_insert rows]
    simpa using lands.newest
  · have kept : inserted.messages = db.messages := by rw [frame]
    rw [finish_messages inserted input named, message_congr db input kept, kept, insertOrIgnore_rows,
      if_pos lands.accepted]
  · have before : row ∈ (input.applyMessage ((inserted.pruneEvents input.runId
        (maxEventsLimit input.maxEvents)).upsertRetention input.runId input.nowMs)).runs.rows := by
      have kept : inserted.runs = db.runs := by rw [frame]
      unfold applyMessage
      split_ifs
      all_goals
        simp only [touchSession, upsertRetention_runs, pruneEvents, kept]
        exact stored
    simp only [finish, touchRun, update_rows]
    exact List.mem_map.mpr ⟨row, before, by simp [own, setRunUpdatedAt]⟩

@[simp] theorem StepCommitInput.runIs_finish (run : String) (status : RunStatus) :
    (input.finish db).runIs run status = db.runIs run status := by
  simp only [finish, applyMessage, runIs_touchRun]
  split_ifs <;> simp [runIs]

theorem insertNewEvent_hasRun {db inserted : Database} {target : String} {fields : EventFields} {now : Int}
    (ok : insertNewEvent db target fields now = .ok inserted) (run : String) : inserted.hasRun run = db.hasRun run := by
  rcases insertNewEvent_eq_ok.mp ok with ⟨_, same⟩ | ⟨_, _, _, frame⟩
  · rw [same]
  · exact hasRun_congr (by rw [frame]) run

theorem storageEventAppend_hasRun (input : EventAppendInput) (run : String) :
    (storageEventAppend host db input).1.hasRun run = db.hasRun run := by
  rcases storageEventAppend_written host db input with ⟨failed, _⟩ | ⟨_, inserted, ok, outcome⟩
  · rw [failed]
  · rw [outcome, hasRun_settle, insertNewEvent_hasRun ok]

theorem storageEventAppendPair_hasRun (input : EventAppendPairInput) (run : String) :
    (storageEventAppendPair host db input).1.hasRun run = db.hasRun run := by
  rcases storageEventAppendPair_written host db input with ⟨failed, _⟩ | ⟨_, _, once, twice, ok, again, outcome⟩
  · rw [failed]
  · rw [outcome, hasRun_settle, insertNewEvent_hasRun again, insertNewEvent_hasRun ok]

theorem storageStepCommit_hasRun (run : String) :
    (storageStepCommit host db input).1.hasRun run = db.hasRun run := by
  rcases storageStepCommit_written host db input with ⟨failed, _⟩ | ⟨_, _, inserted, ok, outcome⟩
  · rw [failed]
  · rw [outcome, ← insertNewEvent_hasRun ok, finish, hasRun_touchRun]
    refine hasRun_congr ?_ run
    unfold applyMessage
    split_ifs <;> simp

end Append

namespace RunTransitionInput

variable (input : RunTransitionInput) (db : Database)

def moved (target : RunStatus) : Database :=
  { db with runs := db.runs.update (input.matchesRow target) (input.assign target) }

def recorded : Database :=
  match db.runEvents.insert? (transitionEvent db input) with
  | some table => ({ db with runEvents := table }).upsertRetention input.runId input.nowMs
  | none => db

theorem storageRunTransition_cases (host : Host) : (∃ error, storageRunTransition host db input = (db, .error error)) ∨
      ∃ target, RunStatus.ofText? input.toStatus = some target ∧ db.runs.rows.any (input.matchesRow target) ∧
        storageRunTransition host db input = (input.recorded (input.moved db target), .ok ()) := by
  unfold storageRunTransition
  cases parsed : RunStatus.ofText? input.toStatus with
  | none => exact .inl ⟨_, rfl⟩
  | some target =>
    dsimp only
    split_ifs with rejected unmatched
    · exact .inl ⟨_, rfl⟩
    · exact .inl ⟨_, rfl⟩
    · refine .inr ⟨target, rfl, by simpa using unmatched, ?_⟩
      unfold recorded moved
      dsimp only
      cases inserted : db.runEvents.insert?
          (transitionEvent { db with runs := db.runs.update (input.matchesRow target) (input.assign target) } input)
        <;> rfl

@[simp] theorem recorded_runs : (input.recorded db).runs = db.runs := by
  unfold recorded
  split <;> simp

@[simp] theorem recorded_messages : (input.recorded db).messages = db.messages := by
  unfold recorded
  split <;> simp

theorem recorded_runEvents : (input.recorded db).runEvents.rows =
      db.runEvents.rows ++
        if db.runEvents.accepts (transitionEvent db input) then [transitionEvent db input] else [] := by
  unfold recorded
  cases inserted : db.runEvents.insert? (transitionEvent db input) with
  | none => simp [insert?_eq_none.mp inserted]
  | some table =>
    have spec := insert?_eq_some.mp inserted
    simp [spec.1, spec.2]

theorem storageRunTransition_hasRun (host : Host) (run : String) :
    (storageRunTransition host db input).1.hasRun run = db.hasRun run := by
  rcases input.storageRunTransition_cases db host with ⟨_, failed⟩ | ⟨target, _, _, outcome⟩
  · rw [failed]
  · rw [outcome]
    refine (hasRun_congr (input.recorded_runs _) run).trans ?_
    exact hasRun_update rfl run

theorem moved_keeps_terminal {run : String} {target status : RunStatus} (final : status.terminal)
    (held : db.runIs run status) : (input.moved db target).runIs run status := by
  obtain ⟨row, member, id, same⟩ := runIs_iff.mp held
  refine runIs_iff.mpr ⟨row, ?_, id, same⟩
  simp only [moved, update_rows, List.mem_map]
  refine ⟨row, member, if_neg ?_⟩
  simp only [matchesRow, same, Bool.and_eq_true, not_and]
  intro _
  cases status <;> first | exact absurd final (by decide) | simp [RunStatus.canMove]

end RunTransitionInput

namespace RunTerminalInput

structure Landed (input : RunTerminalInput) (target : RunStatus) (db next : Database) : Prop where
  runs : next.runs = db.runs.update (fun row => row.id == input.runId && decide (row.status = RunStatus.running))
    (input.assign target)
  events : next.runEvents.rows = db.runEvents.rows ++
    if db.runIs input.runId .running = true then
      terminalRows input.runId input.nowMs (db.maxSeq input.runId) input.events else []
  messages : next.messages.rows = db.messages.rows ++
    if input.messageId = "" then [] else [input.message db]
  records : next.recoveryRecords = db.recoveryRecords
  noted : next.runIs input.runId target = true →
    next.runRetention =
      (({ db with runEvents := next.runEvents } : Database).upsertRetention input.runId input.nowMs).runRetention
  unnoted : next.runIs input.runId target = false → next.runRetention = db.runRetention

variable {input : RunTerminalInput} {target : RunStatus} {db next : Database}

theorem Landed.of_staged {stored : Database} (staged : Staged input db stored) :
    Landed input target db (input.close target stored) := by
  have runs : (input.close target stored).runs = db.runs.update
      (fun row => row.id == input.runId && decide (row.status = RunStatus.running)) (input.assign target) := by
    rw [close_runs, staged.runs]
  refine ⟨runs, by rw [close_runEvents, staged.events], ?_, by rw [close_recoveryRecords, staged.records], ?_, ?_⟩
  · rw [close_messages]
    split_ifs with none
    · rw [staged.silent none, List.append_nil]
    · exact staged.message none
  all_goals
    intro settled
    simp only [runIs, close_runs] at settled
  · rw [close_runEvents]
    unfold close
    refine (congrArg runRetention (if_pos settled)).trans ?_
    apply upsertRetention_congr
    · rfl
    · exact staged.retention
  · unfold close
    refine (congrArg runRetention (if_neg ?_)).trans staged.retention
    rw [Bool.not_eq_true]
    exact settled

section

variable (landed : Landed input target db next)
include landed

theorem Landed.keeps {run : String} {status : RunStatus}
    (idle : status ≠ .running) (held : db.runIs run status) : next.runIs run status := by
  obtain ⟨row, member, id, same⟩ := runIs_iff.mp held
  refine runIs_iff.mpr ⟨row, ?_, id, same⟩
  rw [landed.runs, update_rows]
  refine List.mem_map.mpr ⟨row, member, if_neg ?_⟩
  simp [same, idle]

theorem Landed.settles (running : db.runIs input.runId .running) :
    next.runIs input.runId target := by
  obtain ⟨row, member, id, status⟩ := runIs_iff.mp running
  refine runIs_iff.mpr ⟨(input.assign target).apply row, ?_, id, rfl⟩
  rw [landed.runs, update_rows]
  exact List.mem_map.mpr ⟨row, member, if_pos (by simp [id, status])⟩

theorem Landed.log : next.log input.runId = db.log input.runId ++
      if db.runIs input.runId .running then
        terminalRows input.runId input.nowMs (db.maxSeq input.runId) input.events else [] := by
  have rows := landed.events
  split_ifs at rows ⊢
  · exact log_terminalRows rows
  · rw [List.append_nil] at rows ⊢
    simp only [Database.log, Database.eventsOf, rows]

theorem Landed.idle_runs (idle : ¬db.runIs input.runId .running) :
    next.runs = db.runs := by
  rw [landed.runs]
  refine update_eq_self.mpr fun row member selected => ?_
  simp only [Bool.and_eq_true, beq_iff_eq, decide_eq_true_eq] at selected
  exact absurd (runIs_iff.mpr ⟨row, member, selected.1, selected.2⟩) idle

end

theorem storageRunTerminal_cases (host : Host) (db : Database) (input : RunTerminalInput) :
    (∃ error, storageRunTerminal host db input = (db, .error error)) ∨
      ∃ target next, RunStatus.ofText? input.toStatus = some target ∧
        (storageRunTerminal host db input).1 = next ∧ Landed input target db next ∧
        (∀ rows, (storageRunTerminal host db input).2 = .ok rows →
          next.runIs input.runId target ∧ rows = readBack (next.log input.runId)) := by
  by_cases refused : Refused host db input
  · exact .inl (storageRunTerminal_refused refused)
  · cases parsed : RunStatus.ofText? input.toStatus with
    | none => exact .inl ⟨.assertionFailed, by simp [storageRunTerminal, parsed]⟩
    | some target =>
      obtain ⟨stored, ok, staged⟩ := terminalTransaction_of_not_refused target refused
      right
      refine ⟨target, input.close target stored, rfl, ?_, Landed.of_staged staged, ?_⟩
      · simp only [storageRunTerminal, parsed, ok]
        split
        · rfl
        · split_ifs <;> rfl
      · intro rows
        simp only [storageRunTerminal, parsed, ok]
        split
        · simp
        · rename_i row found
          split_ifs with settled
          · intro same
            obtain ⟨present, _⟩ := Option.filter_eq_some_iff.mp found
            refine ⟨runIs_iff.mpr ⟨row, List.mem_of_find?_eq_some present, ?_, settled⟩, ?_⟩
            · simpa using List.find?_some present
            · simpa using same.symm
          · simp

theorem storageRunTerminal_hasRun (host : Host) (db : Database) (input : RunTerminalInput) (run : String) :
    (storageRunTerminal host db input).1.hasRun run = db.hasRun run := by
  rcases storageRunTerminal_cases host db input with ⟨_, failed⟩ | ⟨target, next, _, after, landed, _⟩
  · rw [failed]
  · rw [after]
    exact hasRun_update landed.runs run

end RunTerminalInput

end RustScriptAgent.Storage
