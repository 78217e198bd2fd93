import RustScriptAgent.Storage.Effects

namespace RustScriptAgent.Storage

open Relational Sequences List

def EventType.ending? : EventType → Option RunStatus
  | .runCompleted => some .completed
  | .runFailed => some .failed
  | .runCancelled => some .cancelled
  | _ => none

namespace Database

def endings (db : Database) (run : String) : List EventRow :=
  (db.eventsOf run).filter fun row => row.eventType.ending?.isSome

theorem endings_append {db next : Database} {new : List EventRow} (run : String)
    (rows : next.runEvents.rows = db.runEvents.rows ++ new) :
    next.endings run =
      db.endings run ++ new.filter (fun row => row.runId == run && row.eventType.ending?.isSome) := by
  simp [endings, eventsOf, rows, filter_filter, Bool.and_comm]

theorem endings_congr {db next : Database} (same : next.runEvents = db.runEvents) (run : String) :
    next.endings run = db.endings run := by
  simp [endings, eventsOf, same]

theorem endings_pruneEvents (db : Database) (run pruned : String) (limit : Nat) :
    ((db.pruneEvents pruned limit).endings run).Sublist (db.endings run) := by
  simp only [endings, eventsOf, pruneEvents, Table.delete_rows]
  exact (filter_sublist.filter _).filter _

inductive Ends (run : String) (db next : Database) : Prop
  | quiet (rows : (next.endings run).Sublist (db.endings run))
      (kept : ∀ status, status.terminal = true → db.runIs run status = true → next.runIs run status = true)
  | closing (status : RunStatus) (running : db.runIs run .running = true) (closed : next.runIs run status = true)
      (rows : ∃ new, next.endings run = db.endings run ++ new ∧ new.length ≤ 1 ∧
        ∀ row ∈ new, row.eventType.ending? = some status)

structure Ended (db : Database) (run : String) : Prop where
  single : (db.endings run).length ≤ 1
  settled : ∀ row ∈ db.endings run, ∀ status, row.eventType.ending? = some status → db.runIs run status = true

variable {db next : Database} {run : String}

theorem ending_terminal {type : EventType} {status : RunStatus} (ends : type.ending? = some status) :
    status.terminal := by
  cases type <;> simp only [EventType.ending?, reduceCtorEq, Option.some.injEq] at ends <;> subst ends <;> rfl

theorem Ends.refl (db : Database) (run : String) : Ends run db db := .quiet (List.Sublist.refl _) fun _ _ held => held

theorem Ends.keeps (ends : Ends run db next) {status : RunStatus} (final : status.terminal)
    (held : db.runIs run status) : next.runIs run status := by
  cases ends with
  | quiet _ kept => exact kept status final held
  | closing _ running _ _ =>
    rw [runIs_inj held running] at final
    exact absurd final (by decide)

theorem Ended.step (ended : Ended db run) (ends : Ends run db next) : Ended next run := by
  cases ends with
  | quiet rows kept =>
    refine ⟨rows.length_le.trans ended.single, fun row member status ending => ?_⟩
    exact kept status (ending_terminal ending) (ended.settled row (rows.subset member) status ending)
  | closing status running closed rows =>
    -- a running run has no ending yet
    have none : db.endings run = [] := by
      refine eq_nil_iff_forall_not_mem.mpr fun row member => ?_
      have isEnding : row.eventType.ending?.isSome := (mem_filter.mp member).2
      obtain ⟨other, ending⟩ := Option.isSome_iff_exists.mp isEnding
      have held := ended.settled row member other ending
      have final := ending_terminal ending
      rw [runIs_inj held running] at final
      exact absurd final (by decide)
    obtain ⟨new, appended, few, all⟩ := rows
    rw [none, nil_append] at appended
    refine ⟨by rw [appended]; exact few, fun row member other ending => ?_⟩
    rw [appended] at member
    rw [all row member, Option.some.injEq] at ending
    rw [← ending]
    exact closed

theorem insertNewEvent_quiet {fields : EventFields} {target : String} {now : Int}
    (plain : target = run → fields.eventType.ending? = none) (ok : insertNewEvent db target fields now = .ok next) :
    next.endings run = db.endings run ∧ ∀ status, next.runIs run status = db.runIs run status := by
  rcases insertNewEvent_eq_ok.mp ok with ⟨_, same⟩ | ⟨_, _, rows, frame⟩
  · rw [same]
    exact ⟨rfl, fun _ => rfl⟩
  · refine ⟨?_, fun status => ?_⟩
    · rw [endings_append run rows]
      by_cases same : target = run
      · simp [EventFields.row, plain same]
      · simp [EventFields.row, same]
    · rw [frame]
      rfl

theorem storageEventAppend_ends (host : Host) {input : EventAppendInput}
    (plain : input.runId = run → input.event.eventType.ending? = none) :
      Ends run db (storageEventAppend host db input).1 := by
  rcases storageEventAppend_written host db input with ⟨failed, _⟩ | ⟨_, inserted, ok, outcome⟩
  · rw [failed]
    exact Ends.refl db run
  · obtain ⟨endings, status⟩ := insertNewEvent_quiet plain ok
    rw [outcome]
    refine .quiet ?_ fun other _ held => by rw [runIs_settle, status]; exact held
    rw [endings_congr (settle_runEvents _ _ _ _), ← endings]
    exact endings_pruneEvents _ _ _ _

theorem storageEventAppendPair_ends (host : Host) {input : EventAppendPairInput}
    (first : input.runId = run → input.first.eventType.ending? = none)
    (second : input.runId = run → input.second.eventType.ending? = none) :
    Ends run db (storageEventAppendPair host db input).1 := by
  rcases storageEventAppendPair_written host db input with ⟨failed, _⟩ | ⟨_, _, once, twice, ok, again, outcome⟩
  · rw [failed]
    exact Ends.refl db run
  · obtain ⟨endings, status⟩ := insertNewEvent_quiet first ok
    obtain ⟨endings', status'⟩ := insertNewEvent_quiet second again
    rw [outcome]
    refine .quiet ?_ fun other _ held => by rw [runIs_settle, status', status]; exact held
    rw [endings_congr (settle_runEvents _ _ _ _), ← endings, ← endings']
    exact endings_pruneEvents _ _ _ _

theorem storageStepCommit_ends (host : Host) {input : StepCommitInput}
    (plain : input.runId = run → input.event.eventType.ending? = none) :
      Ends run db (storageStepCommit host db input).1 := by
  rcases storageStepCommit_written host db input with ⟨failed, _⟩ | ⟨_, _, inserted, ok, outcome⟩
  · rw [failed]
    exact Ends.refl db run
  · obtain ⟨endings, status⟩ := insertNewEvent_quiet plain ok
    rw [outcome]
    refine .quiet ?_ fun other _ held => by rw [StepCommitInput.runIs_finish, status]; exact held
    rw [endings_congr (StepCommitInput.finish_runEvents _ _), ← endings]
    exact endings_pruneEvents _ _ _ _

theorem storageRunTransition_ends (host : Host) (run : String) (input : RunTransitionInput) :
    Ends run db (storageRunTransition host db input).1 := by
  rcases input.storageRunTransition_cases db host with ⟨_, failed⟩ | ⟨target, _, _, outcome⟩
  · rw [failed]
    exact Ends.refl db run
  · rw [outcome]
    refine .quiet ?_ fun status final held => ?_
    · rw [endings_append run (input.recorded_runEvents _)]
      split_ifs
      · simp only [transitionEvent, EventType.ending?, Option.isSome_none, Bool.and_false, filter_cons_of_neg,
          Bool.false_eq_true, not_false_eq_true, filter_nil, append_nil]
        exact List.Sublist.refl _
      · rw [filter_nil, append_nil]
        exact List.Sublist.refl _
    · rw [runIs_congr (input.recorded_runs _)]
      exact input.moved_keeps_terminal db final held

end Database

structure EndsAs (target : RunStatus) (types : List EventType) : Prop where
  single : (types.filter fun type => type.ending?.isSome).length ≤ 1
  agree : ∀ type ∈ types, ∀ status, type.ending? = some status → status = target

theorem EndsAs.sublist {target : RunStatus} {types fewer : List EventType} (ends : EndsAs target types)
    (part : fewer.Sublist types) : EndsAs target fewer :=
  ⟨(part.filter _).length_le.trans ends.single, fun type member => ends.agree type (part.subset member)⟩

theorem terminalRows_types (run : String) (now last : Int) (events : List TerminalEvent) :
    (terminalRows run now last events).map EventRow.eventType = events.map TerminalEvent.eventType := by
  induction events generalizing last with
  | nil => rfl
  | cons event rest ih => simp [terminalRows, ih]

namespace RunTerminalInput

variable {input : RunTerminalInput} {target : RunStatus} {db next : Database}

theorem Landed.ends (landed : Landed input target db next) (run : String)
    (shaped : input.runId = run → EndsAs target (input.events.map TerminalEvent.eventType)) :
    Database.Ends run db next := by
  by_cases closing : run = input.runId ∧ db.runIs input.runId .running
  · obtain ⟨rfl, running⟩ := closing
    replace shaped := shaped rfl
    have appended := Database.endings_append input.runId landed.events
    rw [if_pos running] at appended
    refine .closing target running (landed.settles running) ⟨_, appended, ?_, fun row member => ?_⟩
    · have whole := shaped.single
      rw [← terminalRows_types input.runId input.nowMs (db.maxSeq input.runId), filter_map, length_map] at whole
      refine (List.Sublist.length_le ?_).trans whole
      exact monotone_filter_right _ fun row chosen => (Bool.and_eq_true _ _ ▸ chosen).2
    · obtain ⟨written, chosen⟩ := mem_filter.mp member
      obtain ⟨status, ending⟩ := Option.isSome_iff_exists.mp (Bool.and_eq_true _ _ ▸ chosen).2
      have type : row.eventType ∈ input.events.map TerminalEvent.eventType := by
        rw [← terminalRows_types input.runId input.nowMs (db.maxSeq input.runId)]
        exact mem_map_of_mem written
      rw [ending, shaped.agree _ type _ ending]
  · have same : next.endings run = db.endings run := by
      rw [Database.endings_append run landed.events]
      split_ifs with running
      · have none : (terminalRows input.runId input.nowMs (db.maxSeq input.runId) input.events).filter
            (fun row => row.runId == run && row.eventType.ending?.isSome) = [] := by
          refine filter_eq_nil_iff.mpr fun row member => ?_
          have other : row.runId ≠ run := by
            rw [(mem_terminalRows member).1]
            exact fun same => closing ⟨same.symm, running⟩
          simp [other]
        rw [none, append_nil]
      · rw [filter_nil, append_nil]
    refine .quiet (by rw [same]) fun status final held => landed.keeps ?_ held
    rintro rfl
    exact absurd final (by decide)

end RunTerminalInput

end RustScriptAgent.Storage
