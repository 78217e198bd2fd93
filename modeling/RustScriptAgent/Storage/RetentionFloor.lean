import RustScriptAgent.Storage.AdmissionOutcome
import RustScriptAgent.Storage.RetentionMarks
import RustScriptAgent.Telegram.CatchUp

namespace RustScriptAgent.Storage

open Relational Sequences RetainedLog Database StepCommitInput List

inductive LogCommand where
  | createSession (input : SessionCreateInput)
  | createRun (input : RunCreateInput) (maxRows maxBytes : Nat)
  | admission (input : AdmissionCreateInput)
  | append (input : EventAppendInput)
  | appendPair (input : EventAppendPairInput)
  | commitStep (input : StepCommitInput)
  | transition (input : RunTransitionInput)
  | terminal (input : RunTerminalInput)
  | recover (input : RecoveryInput)
  | reconcile (now maxRows : Int)
  | prune (input : EventPruneInput)

def newEvents (db next : Database) : List EventRow := next.runEvents.rows.drop db.runEvents.rows.length

def newEventsOf (db : Database) : Except StorageError Database → List EventRow
  | .ok next => newEvents db next
  | .error _ => []

def EventAppendInput.inserted (input : EventAppendInput) (host : Host) (db : Database) : List EventRow :=
  if committed (storageEventAppend host db input).2 then
    newEventsOf db (insertNewEvent db input.runId input.event input.nowMs)
  else []

def EventAppendPairInput.inserted (input : EventAppendPairInput) (host : Host) (db : Database) : List EventRow :=
  if committed (storageEventAppendPair host db input).2 then
    newEventsOf db do
      let once ← insertNewEvent db input.runId input.first input.nowMs
      insertNewEvent once input.runId input.second input.nowMs
  else []

def StepCommitInput.inserted (input : StepCommitInput) (host : Host) (db : Database) : List EventRow :=
  if committed (storageStepCommit host db input).2 then
    newEventsOf db (insertNewEvent db input.runId input.event input.nowMs)
  else []

namespace LogCommand

variable (host : Host) (encode : Json → JsonText) (db : Database)

def perform : LogCommand → Database
  | createSession input => (storageSessionCreate host db input).1
  | createRun input maxRows maxBytes => (storageRunCreate host db input maxRows maxBytes).1
  | admission input => (storageAdmissionCreate host encode db input).1
  | append input => (storageEventAppend host db input).1
  | appendPair input => (storageEventAppendPair host db input).1
  | commitStep input => (storageStepCommit host db input).1
  | transition input => (storageRunTransition host db input).1
  | terminal input => (storageRunTerminal host db input).1
  | recover input => (storageRunRecoverActive db input).1
  | reconcile now maxRows => (storageEffectReconcile db now maxRows).1
  | prune input => storageEventPrune db input

def inserted : LogCommand → List EventRow
  | createSession _ | createRun _ _ _ | prune _ => []
  | append input => input.inserted host db
  | appendPair input => input.inserted host db
  | commitStep input => input.inserted host db
  | recover input => newEvents db (recoverRuns db input)
  -- the other commands do not prune
  | admission input => newEvents db (storageAdmissionCreate host encode db input).1
  | transition input => newEvents db (storageRunTransition host db input).1
  | terminal input => newEvents db (storageRunTerminal host db input).1
  | reconcile now maxRows => newEvents db (storageEffectReconcile db now maxRows).1

def allocates (run : String) (command : LogCommand) : List Int :=
  Database.numbersOf (command.inserted host encode db) run

end LogCommand

structure Database.Accounted (db : Database) (run : String) (allocated : List Int) : Prop where
  sound : (db.runLog run allocated).Sound
  recovered : db.Recovered run
  owned : db.Owned

structure Advances (db next : Database) (run : String) (allocated : List Int) (rows : List EventRow) : Prop where
  rewrites : (db.runLog run allocated).Rewrites (next.runLog run (allocated ++ Database.numbersOf rows run))
    (Database.numbersOf rows run)
  recovered : next.Recovered run
  owned : next.Owned

variable {db middle next : Database} {run : String} {allocated : List Int} {rows : List EventRow}

theorem Advances.accounted (advances : Advances db next run allocated rows) (accounted : db.Accounted run allocated) :
    next.Accounted run (allocated ++ numbersOf rows run) :=
  ⟨accounted.sound.step advances.rewrites, advances.recovered, advances.owned⟩

theorem newEvents_eq (events : next.runEvents.rows = db.runEvents.rows ++ rows) : newEvents db next = rows := by
  rw [newEvents, events, drop_left]

theorem Database.Accounted.maxSeq_nonneg (accounted : db.Accounted run allocated) : 0 ≤ db.maxSeq run :=
  maxOrZero_nonneg fun number member => accounted.sound.positive number (accounted.sound.listed number member)

theorem Database.Owned.grow (owned : db.Owned) (events : middle.runEvents.rows = db.runEvents.rows ++ rows)
    (kept : ∀ row ∈ next.runEvents.rows, row ∈ middle.runEvents.rows) (new : ∀ row ∈ rows, next.hasRun row.runId)
    (runs : ∀ run, db.hasRun run → next.hasRun run) : next.Owned := by
  intro row member
  exact (mem_append.mp (events ▸ kept row member)).elim (fun old => runs _ (owned row old)) (new row)

theorem Advances.of_same (accounted : db.Accounted run allocated) (events : next.runEvents = db.runEvents)
    (retention : next.runRetention = db.runRetention) (recovered : next.Recovered run)
    (runs : ∀ run, db.hasRun run → next.hasRun run) : Advances db next run allocated [] := by
  have none := (append_nil db.runEvents.rows).symm
  exact ⟨rewrites_other none (by simp) (seqs_congr events run) (mark_congr retention run),
    recovered, accounted.owned.grow none (fun _ member => events ▸ member) (by simp) runs⟩

theorem Advances.refl (accounted : db.Accounted run allocated) : Advances db db run allocated [] :=
  .of_same accounted rfl rfl accounted.recovered fun _ known => known

def Numbered (run target : String) (rows : List EventRow) : Prop :=
  ∀ row ∈ rows, row.runId = target ∧ (target = run → 0 < row.seq)

theorem Numbered.other {target : String} (numbered : Numbered run target rows) (other : target ≠ run) :
    ∀ row ∈ rows, row.runId ≠ run := fun row member => (numbered row member).1.trans_ne other

theorem Numbered.positive (numbered : Numbered run run rows) : ∀ row ∈ rows, row.runId = run → 0 < row.seq :=
  fun row member _ => (numbered row member).2 rfl

theorem Numbered.known {target : String} (numbered : Numbered run target rows) (known : next.hasRun target) :
    ∀ row ∈ rows, next.hasRun row.runId := fun row member => (numbered row member).1.symm ▸ known

theorem Advances.of_settled (accounted : db.Accounted run allocated) {target : String} {limit : Nat} {now : Int}
    (known : rows ≠ [] → db.hasRun target) (events : middle.runEvents.rows = db.runEvents.rows ++ rows)
    (retention : middle.runRetention = db.runRetention) (numbered : Numbered run target rows) (some : 0 < limit)
    (pruned : next.runEvents = (middle.pruneEvents target limit).runEvents)
    (noted : next.runRetention = ((middle.pruneEvents target limit).upsertRetention target now).runRetention)
    (records : next.recoveryRecords = db.recoveryRecords)
    (statuses : ∀ run status, next.runIs run status = db.runIs run status)
    (runs : ∀ run, next.hasRun run = db.hasRun run) : Advances db next run allocated rows := by
  -- rows of one run go in, its oldest rows go, and its retention is noted
  refine ⟨?_, ?_, ?_⟩
  · by_cases same : target = run
    · subst same
      exact rewrites_pruned events (mark_congr retention target) numbered.positive some
        (seqs_congr pruned target) (mark_congr noted target)
    · refine rewrites_other events (numbered.other same) ?_ ?_
      · rw [seqs_congr pruned, seqs_pruneEvents_other same]
      · rw [mark_congr noted, mark_upsertRetention_other same]
        exact mark_congr retention run
  · exact accounted.recovered.congr records fun status _ held => (statuses run status).trans held
  · refine accounted.owned.grow events (fun row member => ?_) (fun row new => ?_) fun run known =>
      (runs run).trans known
    · rw [pruned] at member
      exact (mem_pruneEvents.mp member).1
    · exact numbered.known ((runs target).trans (known (ne_nil_of_mem new))) row new

section Insert

variable {target : String} {fields : EventFields} {now : Int} {inserted : Database}

theorem insertNewEvent_rows (ok : insertNewEvent db target fields now = .ok inserted) :
    inserted.runEvents.rows = db.runEvents.rows ++ newEvents db inserted := by
  rcases insertNewEvent_eq_ok.mp ok with ⟨_, rfl⟩ | ⟨_, _, rows, _⟩
  · simp [newEvents]
  · rw [newEvents_eq rows, rows]

theorem EventFields.row_positive (nonneg : 0 ≤ db.maxSeq target) : 0 < (fields.row db target now).seq := by
  change 0 < reservedOr fields.seq (db.maxSeq target + 1)
  unfold reservedOr
  split_ifs <;> omega

theorem newEvents_numbered (ok : insertNewEvent db target fields now = .ok inserted)
    (nonneg : target = run → 0 ≤ db.maxSeq target) : Numbered run target (newEvents db inserted) := by
  intro row member
  rcases insertNewEvent_eq_ok.mp ok with ⟨_, rfl⟩ | ⟨_, _, rows, _⟩
  · simp [newEvents] at member
  · rw [newEvents_eq rows] at member
    rw [mem_singleton.mp member]
    exact ⟨EventFields.row_runId .., fun same => EventFields.row_positive (nonneg same)⟩

theorem insertNewEvent_maxSeq (ok : insertNewEvent db target fields now = .ok inserted)
    (nonneg : 0 ≤ db.maxSeq target) : 0 ≤ inserted.maxSeq target := by
  rcases insertNewEvent_eq_ok.mp ok with ⟨_, rfl⟩ | ⟨_, _, rows, _⟩
  · exact nonneg
  · have member : (fields.row db target now).seq ∈ inserted.seqs target := by
      rw [seqs_append target rows]
      simp
    exact (EventFields.row_positive nonneg).le.trans (le_maxOrZero member)

end Insert

section Commands

variable (host : Host) (accounted : db.Accounted run allocated)
include accounted

omit host in
theorem Advances.of_settle {target : String} (known : db.hasRun target)
    (frame : middle = { db with runEvents := middle.runEvents })
    (events : middle.runEvents.rows = db.runEvents.rows ++ rows) (numbered : Numbered run target rows)
    (maxEvents now : Int) :
    Advances db (middle.settle target (maxEventsLimit maxEvents) now) run allocated rows := by
  refine .of_settled accounted (fun _ => known) events (by rw [frame]) numbered (maxEventsLimit_pos _)
    (settle_runEvents _ _ _ _) rfl ?_ ?_ ?_
  · rw [settle_recoveryRecords, frame]
  · intro run status
    rw [runIs_settle, frame]
    rfl
  · intro run
    rw [hasRun_settle, frame]
    rfl

theorem EventAppendInput.advances (input : EventAppendInput) :
    Advances db (storageEventAppend host db input).1 run allocated (input.inserted host db) := by
  unfold inserted
  rcases storageEventAppend_written host db input with ⟨same, refused⟩ | ⟨known, inserted, ok, outcome⟩
  · rw [same, refused, if_neg nofun]
    exact .refl accounted
  · rw [outcome, ok, committed, if_pos rfl, newEventsOf]
    exact .of_settle accounted known (insertNewEvent_frame ok) (insertNewEvent_rows ok)
      (newEvents_numbered ok fun same => same ▸ accounted.maxSeq_nonneg) _ _

theorem EventAppendPairInput.advances (input : EventAppendPairInput) :
    Advances db (storageEventAppendPair host db input).1 run allocated (input.inserted host db) := by
  unfold inserted
  rcases storageEventAppendPair_written host db input with
    ⟨same, refused⟩ | ⟨known, done, once, twice, ok, again, outcome⟩
  · rw [same, refused, if_neg nofun]
    exact .refl accounted
  · have both : twice.runEvents.rows = db.runEvents.rows ++ (newEvents db once ++ newEvents once twice) := by
      rw [insertNewEvent_rows again, insertNewEvent_rows ok, append_assoc]
    have frame : twice = { db with runEvents := twice.runEvents } := by
      rw [insertNewEvent_frame again, insertNewEvent_frame ok]
    have rows : newEventsOf db (do
        let once ← insertNewEvent db input.runId input.first input.nowMs
        insertNewEvent once input.runId input.second input.nowMs) = newEvents db once ++ newEvents once twice := by
      simp only [bind, Except.bind, ok, again]
      exact newEvents_eq both
    rw [outcome, done, if_pos rfl, rows]
    have nonneg (same : input.runId = run) : 0 ≤ db.maxSeq input.runId := same ▸ accounted.maxSeq_nonneg
    refine .of_settle accounted known frame both (fun row member => ?_) _ _
    rcases mem_append.mp member with first | second
    · exact newEvents_numbered ok nonneg row first
    · exact newEvents_numbered again (fun same => insertNewEvent_maxSeq ok (nonneg same)) row second

theorem StepCommitInput.advances (input : StepCommitInput) :
    Advances db (storageStepCommit host db input).1 run allocated (input.inserted host db) := by
  unfold inserted
  rcases storageStepCommit_written host db input with ⟨same, refused⟩ | ⟨known, done, inserted, ok, outcome⟩
  · rw [same, refused, if_neg nofun]
    exact .refl accounted
  · rw [outcome, ok, done, if_pos rfl, newEventsOf]
    -- the message statements touch none of the log's tables
    have message (db : Database) : input.applyMessage db = { db with
        messages := (input.applyMessage db).messages, sessions := (input.applyMessage db).sessions } := by
      unfold applyMessage
      split_ifs <;> rfl
    have runs (db : Database) : (input.applyMessage db).runs = db.runs := by rw [message]
    refine .of_settled accounted (fun _ => known) (insertNewEvent_rows ok) (by rw [insertNewEvent_frame ok])
      (newEvents_numbered ok fun same => same ▸ accounted.maxSeq_nonneg) (maxEventsLimit_pos _)
      (finish_runEvents _ _)
      (?_ : _ = ((inserted.pruneEvents input.runId _).upsertRetention input.runId input.nowMs).runRetention) ?_ ?_ ?_
    · change (input.applyMessage _).runRetention = _
      rw [message]
    · change (input.applyMessage _).recoveryRecords = _
      rw [message]
      refine (upsertRetention_recoveryRecords _ _ _).trans ?_
      rw [insertNewEvent_frame ok]
      rfl
    · intro run status
      rw [finish, runIs_touchRun, runIs_congr (runs _), runIs_upsertRetention, insertNewEvent_frame ok]
      rfl
    · intro run
      rw [finish, hasRun_touchRun, hasRun_congr (runs _),
        hasRun_congr (upsertRetention_runs _ _ _), ← insertNewEvent_hasRun ok]
      rfl

omit host in
theorem EventPruneInput.advances (input : EventPruneInput) :
    Advances db (storageEventPrune db input) run allocated [] := by
  unfold storageEventPrune
  refine .of_settled accounted (fun none => absurd rfl none) (append_nil _).symm rfl nofun
    (maxEventsLimit_pos _) (upsertRetention_runEvents _ _ _) rfl
    (upsertRetention_recoveryRecords _ _ _) ?_ ?_
  · intro run status
    rw [runIs_upsertRetention, runIs_pruneEvents]
  · intro run
    exact hasRun_congr (upsertRetention_runs _ _ _) run

theorem Advances.of_noted {target : String} (now : Int) (known : next.hasRun target)
    (events : next.runEvents.rows = db.runEvents.rows ++ rows) (numbered : Numbered run target rows)
    (noted : next.runRetention =
      (({ db with runEvents := next.runEvents } : Database).upsertRetention target now).runRetention)
    (recovered : next.Recovered run) (runs : ∀ run, db.hasRun run → next.hasRun run) :
    Advances db next run allocated rows := by
  let middle : Database := { db with runEvents := next.runEvents }
  have grown : middle.runEvents.rows = db.runEvents.rows ++ rows := events
  refine ⟨?_, recovered, accounted.owned.grow grown (fun _ member => member) (numbered.known known) runs⟩
  by_cases same : target = run
  · subst same
    exact rewrites_noted grown rfl numbered.positive rfl (mark_congr noted target)
  · refine rewrites_other grown (numbered.other same) rfl ?_
    rw [mark_congr noted, mark_upsertRetention_other same]
    rfl

theorem RunTransitionInput.advances (input : RunTransitionInput) :
    Advances db (storageRunTransition host db input).1 run allocated
      (newEvents db (storageRunTransition host db input).1) := by
  rcases input.storageRunTransition_cases db host with ⟨_, failed⟩ | ⟨target, _, chosen, outcome⟩
  · rw [failed, newEvents_eq (append_nil _).symm]
    exact .refl accounted
  · rw [outcome]
    have recovered : (input.moved db target).Recovered run :=
      accounted.recovered.congr rfl fun status final held => input.moved_keeps_terminal db final held
    have runs (run : String) : (input.moved db target).hasRun run = db.hasRun run := hasRun_update rfl run
    unfold recorded
    cases inserted : (input.moved db target).runEvents.insert? (transitionEvent (input.moved db target) input) with
    | none =>
      have none : (input.moved db target).runEvents.rows = db.runEvents.rows ++ [] := (append_nil _).symm
      dsimp only
      rw [newEvents_eq none]
      exact .of_same accounted rfl rfl recovered fun run known => (runs run).trans known
    | some table =>
      have events := (Table.insert?_eq_some.mp inserted).2
      dsimp only
      have rows : (({ input.moved db target with runEvents := table } : Database).upsertRetention input.runId
          input.nowMs).runEvents.rows = db.runEvents.rows ++ [transitionEvent (input.moved db target) input] := by
        rw [upsertRetention_runEvents]
        exact events
      rw [newEvents_eq rows]
      have numbered : Numbered run input.runId [transitionEvent (input.moved db target) input] := by
        intro row member
        rw [mem_singleton.mp member]
        refine ⟨rfl, ?_⟩
        rintro rfl
        exact Int.lt_add_one_of_le accounted.maxSeq_nonneg
      have kept (run : String) : (({ input.moved db target with runEvents := table } : Database).upsertRetention
          input.runId input.nowMs).hasRun run = db.hasRun run :=
        (hasRun_congr (upsertRetention_runs _ _ _) run).trans (runs run)
      refine .of_noted accounted input.nowMs ?_ rows numbered ?_ ?_ fun run known => (kept run).trans known
      · obtain ⟨row, member, same⟩ := any_eq_true.mp chosen
        simp only [matchesRow, Bool.and_eq_true] at same
        exact (kept _).trans (any_eq_true.mpr ⟨row, member, same.1.1⟩)
      · rw [upsertRetention_runEvents]
        apply upsertRetention_congr <;> rfl
      · have same : ({ input.moved db target with runEvents := table } : Database).Recovered run := recovered
        exact same.upsert _ _

theorem RunTerminalInput.advances (input : RunTerminalInput) :
    Advances db (storageRunTerminal host db input).1 run allocated
      (newEvents db (storageRunTerminal host db input).1) := by
  rcases storageRunTerminal_cases host db input with ⟨_, failed⟩ | ⟨target, next, _, after, landed, _⟩
  · rw [failed, newEvents_eq (append_nil _).symm]
    exact .refl accounted
  · rw [after, newEvents_eq landed.events]
    have recovered : next.Recovered run := by
      refine accounted.recovered.congr landed.records fun status final held => landed.keeps ?_ held
      rintro rfl
      exact absurd final (by decide)
    have runs (run : String) (known : db.hasRun run) : next.hasRun run := (hasRun_update landed.runs run).trans known
    have numbered : Numbered run input.runId (if db.runIs input.runId .running then
        terminalRows input.runId input.nowMs (db.maxSeq input.runId) input.events else []) := by
      intro row member
      split_ifs at member
      · refine (mem_terminalRows member).imp_right fun above => ?_
        rintro rfl
        exact accounted.maxSeq_nonneg.trans_lt above
      · cases member
    cases settled : next.runIs input.runId target with
    | true =>
      obtain ⟨row, member, id, _⟩ := runIs_iff.mp settled
      have known : next.hasRun input.runId := any_eq_true.mpr ⟨row, member, by simpa using id⟩
      exact .of_noted accounted input.nowMs known landed.events numbered (landed.noted settled) recovered runs
    | false =>
      have idle : ¬ db.runIs input.runId .running := fun running => by simp [landed.settles running] at settled
      have events := landed.events
      rw [if_neg idle] at events ⊢
      exact .of_same accounted (Table.ext_rows (events.trans (append_nil _))) (landed.unnoted settled) recovered
        runs

omit host in
theorem RecoveryInput.advances (input : RecoveryInput) :
    Advances db (storageRunRecoverActive db input).1 run allocated (newEvents db (recoverRuns db input)) := by
  let swept := sweepPending (recoverRuns db input) input
  let recovered := recoveredRuns swept input
  let pruned := swept.pruneRecovered recovered (maxEventsLimit input.maxEvents)
  let chosen := pruned.runs.rows.filter fun row => recovered.contains row.id
  have outcome : (storageRunRecoverActive db input).1 =
    chosen.foldl (fun db row => db.upsertRetention row.id input.nowMs) pruned := rfl
  have events : swept.runEvents.rows = db.runEvents.rows ++
      db.runEvents.acceptedRows ((recoveryChosen db input).map (recoveryEvent db input)) :=
    Table.insertEachOrIgnore_rows _ _
  have sources (row : EventRow)
      (member : row ∈ db.runEvents.acceptedRows ((recoveryChosen db input).map (recoveryEvent db input))) :
      ∃ source ∈ recoveryChosen db input, row = recoveryEvent db input source := by
    obtain ⟨source, taken, rfl⟩ := mem_map.mp ((Table.acceptedRows_sublist _ _).subset member)
    exact ⟨source, taken, rfl⟩
  have seqs : pruned.seqs run = _ := seqs_pruneRecovered recovered _
  have finished : swept.Recovered run := accounted.recovered.recoverRuns input
  have new : newEvents db (recoverRuns db input) = _ := newEvents_eq events
  rw [new, outcome]
  refine ⟨?_, ?_, ?_⟩
  · by_cases listed : run ∈ recovered
    · rw [if_pos (contains_iff_mem.mpr listed)] at seqs
      refine rewrites_pruned events rfl ?_ (maxEventsLimit_pos input.maxEvents)
        ((seqs_upsertEach ..).trans seqs) (?_ : _ = mark (upsertRetention _ run input.nowMs) run)
      · rintro row new rfl
        obtain ⟨source, _, rfl⟩ := sources row new
        exact Int.lt_add_one_of_le accounted.maxSeq_nonneg
      · have marks : pruned.mark run = (swept.pruneEvents run (maxEventsLimit input.maxEvents)).mark run := rfl
        exact (mark_upsertEach (finished.listed listed) ..).trans (mark_upsertRetention_congr marks seqs _)
    · -- a run that got an event would have been recorded
      rw [if_neg (by simpa using listed)] at seqs
      have none : ∀ row ∈ db.runEvents.acceptedRows ((recoveryChosen db input).map (recoveryEvent db input)),
          row.runId ≠ run := by
        intro row member own
        obtain ⟨source, taken, rfl⟩ := sources row member
        exact listed (accounted.recovered.records taken own)
      refine rewrites_other events none ((seqs_upsertEach ..).trans seqs) ?_
      refine (mark_upsertEach_other ?_ _ _).trans rfl
      intro row member own
      exact listed (by simpa [own] using (mem_filter.mp member).2)
  · rw [upsertRetention_foldl_frame]
    exact finished
  · refine accounted.owned.grow events (fun row member => ?_) (fun row new => ?_) fun run known => ?_
    · rw [upsertRetention_foldl_frame] at member
      exact (mem_filter.mp member).1
    · obtain ⟨source, taken, rfl⟩ := sources row new
      refine (storageRunRecoverActive_hasRun db input _).trans ?_
      exact any_eq_true.mpr ⟨source, (mem_recoveryChosen taken).1, by simp [recoveryEvent]⟩
    · exact (storageRunRecoverActive_hasRun db input run).trans known

omit accounted in
omit host in
theorem effectRows_new (owned : db.Owned) {now : Int} {limit : Nat} {row : EventRow}
    (member : row ∈ db.runEvents.acceptedRows (effectRows db now limit)) :
    row.isInterrupted ∧ db.hasRun row.runId ∧ db.maxSeq row.runId < row.seq := by
  have listed := (Table.acceptedRows_sublist _ _).subset member
  obtain ⟨entry, numbered, recovery, seq⟩ := mem_effectRows listed
  have pending := mem_effectEntries.mp ⟨entry.2, numbered⟩
  refine ⟨recovery.isInterrupted, ?_, ?_⟩
  · rw [recovery.runId]
    exact pending_hasRun owned (mem_of_mem_take pending)
  · have lower := rowNumbers_lower CallKey.runId numbered
    rw [recovery.runId, seq]
    omega

omit host in
theorem reconcile_advances (now maxRows : Int) :
    Advances db (storageEffectReconcile db now maxRows).1 run allocated
      (newEvents db (storageEffectReconcile db now maxRows).1) := by
  let failed : Database :=
    { db with runEvents := db.runEvents.insertEachOrIgnore (effectRows db now (reconcileLimit maxRows)) }
  let answered : Database :=
    { failed with
      messages := db.messages.insertEachOrIgnore (answerRows db failed.runEvents.rows now (reconcileLimit maxRows)) }
  let base := answered.refreshSessions now
  let interrupted := base.runs.rows.filter
    fun run => base.runEvents.rows.any fun event => event.runId == run.id && event.isInterrupted
  have outcome : (storageEffectReconcile db now maxRows).1 =
    interrupted.foldl (fun refreshed run => refreshed.upsertRetention run.id now) base := rfl
  have events : base.runEvents.rows = db.runEvents.rows ++
      db.runEvents.acceptedRows (effectRows db now (reconcileLimit maxRows)) := Table.insertEachOrIgnore_rows _ _
  have frame := upsertRetention_foldl_frame interrupted base now
  have new : newEvents db (storageEffectReconcile db now maxRows).1 =
      db.runEvents.acceptedRows (effectRows db now (reconcileLimit maxRows)) := by
    rw [outcome, frame]
    exact newEvents_eq events
  rw [new, outcome]
  refine ⟨?_, ?_, ?_⟩
  · have seqs := seqs_upsertEach interrupted base run now
    by_cases listed : ∃ row ∈ interrupted, row.id = run
    · refine rewrites_noted events rfl ?_ seqs (mark_upsertEach listed _ _)
      rintro row added rfl
      exact accounted.maxSeq_nonneg.trans_lt (effectRows_new accounted.owned added).2.2
    · -- a run that got an event is among the interrupted ones
      have none : ∀ row ∈ db.runEvents.acceptedRows (effectRows db now (reconcileLimit maxRows)), row.runId ≠ run := by
        rintro row added rfl
        obtain ⟨kind, known, _⟩ := effectRows_new accounted.owned added
        obtain ⟨stored, member, same⟩ := any_eq_true.mp known
        refine listed ⟨stored, mem_filter.mpr ⟨member, any_eq_true.mpr ⟨row, ?_, ?_⟩⟩, by simpa using same⟩
        · rw [events]
          exact mem_append_right _ added
        · simp [kind, beq_iff_eq.mp same]
      exact rewrites_other events none seqs
        ((mark_upsertEach_other (fun row member own => listed ⟨row, member, own⟩) _ _).trans rfl)
  · rw [frame]
    exact accounted.recovered
  · refine accounted.owned.grow events (fun row member => ?_) (fun row added => ?_) fun run known => ?_
    · rwa [frame] at member
    · rw [frame]
      exact (effectRows_new accounted.owned added).2.1
    · rw [frame]
      exact known

end Commands

structure RunsGrow (db next : Database) : Prop where
  events : next.runEvents = db.runEvents
  retention : next.runRetention = db.runRetention
  records : next.recoveryRecords = db.recoveryRecords
  runs : ∀ row ∈ db.runs.rows, row ∈ next.runs.rows

theorem RunsGrow.trans (first : RunsGrow db middle) (second : RunsGrow middle next) : RunsGrow db next :=
  ⟨second.events.trans first.events, second.retention.trans first.retention, second.records.trans first.records,
    fun row member => second.runs row (first.runs row member)⟩

theorem RunsGrow.hasRun (grow : RunsGrow db next) (run : String) (known : db.hasRun run) :
    next.hasRun run := by
  obtain ⟨row, member, same⟩ := any_eq_true.mp known
  exact any_eq_true.mpr ⟨row, grow.runs row member, same⟩

theorem RunsGrow.recovered (grow : RunsGrow db next) (recovered : db.Recovered run) : next.Recovered run := by
  refine recovered.congr grow.records fun status _ held => ?_
  obtain ⟨row, member, id, same⟩ := runIs_iff.mp held
  exact runIs_iff.mpr ⟨row, grow.runs row member, id, same⟩

namespace AdmissionCreateInput

variable {input : AdmissionCreateInput} {content : JsonText}

theorem openSession_grow (ok : input.openSession db = .ok next) : RunsGrow db next := by
  rw [openSession_frame ok]
  exact ⟨rfl, rfl, rfl, fun _ member => member⟩

theorem storeMessage_grow (ok : input.storeMessage content db = .ok next) : RunsGrow db next := by
  unfold storeMessage at ok
  split_ifs at ok
  · rw [(insertMessage_eq_ok.mp ok).2.2]
    exact ⟨rfl, rfl, rfl, fun _ member => member⟩
  · cases ok
    exact ⟨rfl, rfl, rfl, fun _ member => member⟩

theorem storeRun_grow (ok : input.storeRun db = .ok next) : RunsGrow db next := by
  unfold storeRun at ok
  split_ifs at ok
  · split at ok <;> cases ok
    rename_i table inserted
    refine ⟨rfl, rfl, rfl, fun row member => ?_⟩
    rw [(Table.insert?_eq_some.mp inserted).2]
    exact mem_append_left _ member
  · cases ok
    exact ⟨rfl, rfl, rfl, fun _ member => member⟩

theorem linkChild_grow (ok : input.linkChild db = .ok next) : RunsGrow db next := by
  rw [linkChild_frame ok]
  exact ⟨rfl, rfl, rfl, fun _ member => member⟩

theorem recordKey_grow : RunsGrow db (input.recordKey db) := by
  unfold recordKey
  split_ifs <;> exact ⟨rfl, rfl, rfl, fun _ member => member⟩

theorem transaction_staged {host : Host} (ok : input.transaction host content db = .ok next) :
    ∃ staged, RunsGrow db staged ∧ input.startLog staged = .ok next := by
  obtain ⟨opened, asked, running, linked, open_ok, asked_ok, running_ok, linked_ok, ok⟩ := transaction_stages ok
  have before := (openSession_grow open_ok).trans (storeMessage_grow asked_ok)
  exact ⟨_, (before.trans (storeRun_grow running_ok)).trans ((linkChild_grow linked_ok).trans recordKey_grow), ok⟩

theorem advances (host : Host) (encode : Json → JsonText) (input : AdmissionCreateInput)
    (accounted : db.Accounted run allocated) :
    Advances db (storageAdmissionCreate host encode db input).1 run allocated
      (newEvents db (storageAdmissionCreate host encode db input).1) := by
  rcases storageAdmissionCreate_db host encode db input with same | made
  · rw [same, newEvents_eq (append_nil _).symm]
    exact .refl accounted
  generalize (storageAdmissionCreate host encode db input).1 = next at made ⊢
  obtain ⟨staged, grow, begun⟩ := transaction_staged made
  by_cases known : staged.hasRun input.runId
  · obtain ⟨frame, rows, noted⟩ := startLog_spec known begun
    rw [grow.events] at rows
    have same : ({ staged with runEvents := next.runEvents } : Database).runRetention = db.runRetention :=
      grow.retention
    have kept : RunsGrow db { staged with runEvents := db.runEvents, runRetention := db.runRetention } :=
      ⟨rfl, rfl, grow.records, grow.runs⟩
    have present : next.hasRun input.runId := by
      rw [frame]
      exact known
    rw [newEvents_eq rows]
    refine .of_noted accounted input.nowMs present rows ?_ ?_ ?_ ?_
    · intro row member
      rw [mem_singleton.mp member]
      refine ⟨rfl, ?_⟩
      rintro rfl
      change 0 < staged.maxSeq input.runId + 1
      rw [maxSeq, seqs_congr grow.events, ← maxSeq]
      exact Int.lt_add_one_of_le accounted.maxSeq_nonneg
    · rw [noted]
      apply upsertRetention_congr
      · rfl
      · exact same
    · rw [frame]
      exact kept.recovered accounted.recovered
    · rw [frame]
      exact kept.hasRun
  · unfold startLog at begun
    rw [if_neg known] at begun
    cases begun
    have none : next.runEvents.rows = db.runEvents.rows ++ [] := by rw [grow.events, append_nil]
    rw [newEvents_eq none]
    exact .of_same accounted grow.events grow.retention (grow.recovered accounted.recovered) grow.hasRun

end AdmissionCreateInput

theorem RunCreateInput.advances (host : Host) (input : RunCreateInput) (maxRows maxBytes : Nat)
    (accounted : db.Accounted run allocated) :
    Advances db (storageRunCreate host db input maxRows maxBytes).1 run allocated [] := by
  unfold storageRunCreate
  split_ifs
  · exact .refl accounted
  · exact .refl accounted
  · exact .refl accounted
  · dsimp only
    split_ifs
    · exact .refl accounted
    · have grow : RunsGrow db { db with runs := db.runs.insertOrIgnore input.row } :=
        ⟨rfl, rfl, rfl, fun row member => Table.insertOrIgnore_mono _ _ _ member⟩
      exact .of_same accounted rfl rfl (grow.recovered accounted.recovered) grow.hasRun

theorem LogCommand.advances (host : Host) (encode : Json → JsonText) (command : LogCommand)
    (accounted : db.Accounted run allocated) :
    Advances db (command.perform host encode db) run allocated (command.inserted host encode db) := by
  cases command with
  | createSession input =>
    have frame := storageSessionCreate_frame host db input
    rw [perform, inserted, frame]
    exact .of_same accounted rfl rfl accounted.recovered fun _ known => known
  | createRun input maxRows maxBytes => exact input.advances host maxRows maxBytes accounted
  | admission input => exact input.advances host encode accounted
  | append input => exact input.advances host accounted
  | appendPair input => exact input.advances host accounted
  | commitStep input => exact input.advances host accounted
  | transition input => exact input.advances host accounted
  | terminal input => exact input.advances host accounted
  | recover input => exact input.advances accounted
  | reconcile now maxRows => exact reconcile_advances accounted now maxRows
  | prune input => exact input.advances accounted

section Runs

variable (host : Host) (encode : Json → JsonText) (run : String)

def performAll : List LogCommand → Database → List Int → Database × List Int
  | [], db, allocated => (db, allocated)
  | command :: rest, db, allocated =>
    performAll rest (command.perform host encode db) (allocated ++ command.allocates host encode db run)

def InSequence : List LogCommand → Database → Prop
  | [], _ => True
  | command :: rest, db =>
    Consecutive (db.maxSeq run + 1) (command.allocates host encode db run) ∧
      InSequence rest (command.perform host encode db)

instance decidableInSequence : ∀ commands db, Decidable (InSequence host encode run commands db)
  | [], _ => isTrue trivial
  | command :: rest, db =>
    have _ : Decidable (InSequence host encode run rest (command.perform host encode db)) :=
      decidableInSequence rest _
    inferInstanceAs (Decidable (Consecutive _ _ ∧ _))

theorem empty_accounted : empty.Accounted run [] := by
  refine ⟨⟨nofun, nofun, nofun, nofun, fun _ => rfl⟩, ?_, ?_⟩
  · intro record member
    cases member
  · intro row member
    cases member

theorem empty_gapless : (empty.runLog run []).Gapless := by
  refine ⟨fun number positive upper => ?_, fun low member => by cases member⟩
  have none : maxOrZero (empty.runLog run []).retained = 0 := rfl
  omega

theorem performAll_accounted (commands : List LogCommand) {db : Database} {allocated : List Int}
    (accounted : db.Accounted run allocated) :
    (performAll host encode run commands db allocated).1.Accounted run
      (performAll host encode run commands db allocated).2 := by
  induction commands generalizing db allocated with
  | nil => exact accounted
  | cons command rest ih => exact ih ((command.advances host encode accounted).accounted accounted)

theorem performAll_gapless (commands : List LogCommand) {db : Database} {allocated : List Int}
    (accounted : db.Accounted run allocated) (gapless : (db.runLog run allocated).Gapless)
    (ordered : InSequence host encode run commands db) :
    ((performAll host encode run commands db allocated).1.runLog run
      (performAll host encode run commands db allocated).2).Gapless := by
  induction commands generalizing db allocated with
  | nil => exact gapless
  | cons command rest ih =>
    have advances := command.advances host encode accounted
    exact ih (advances.accounted accounted) (gapless.step accounted.sound advances.rewrites ordered.1) ordered.2

theorem performAll_gone (commands : List LogCommand) {db : Database} {allocated : List Int}
    (accounted : db.Accounted run allocated) (ordered : InSequence host encode run commands db) {seq : Int}
    (given : seq ∈ allocated) (gone : seq ∉ db.seqs run) :
    seq ∈ (performAll host encode run commands db allocated).2 ∧
      seq ∉ (performAll host encode run commands db allocated).1.seqs run := by
  induction commands generalizing db allocated with
  | nil => exact ⟨given, gone⟩
  | cons command rest ih =>
    have advances := command.advances host encode accounted
    refine ih (advances.accounted accounted) ordered.2 (mem_append_left _ given) fun kept => ?_
    rcases mem_append.mp (advances.rewrites.part seq kept) with old | fresh
    · exact gone old
    · -- a number that was given already is below the new ones
      have above := ((mem_consecutive ordered.1).mp fresh).1
      have below : seq ≤ db.maxSeq run := accounted.sound.below seq given
      omega

end Runs

def storageEventHighWater (db : Database) (run : String) : Int :=
  ((db.runRetention.rows.find? fun row => row.runId == run).map RetentionRow.highWaterSeq).getD 0

theorem storageEventRetention_eq (db : Database) (run : String) (allocated : List Int) :
    Telegram.storageEventRetention db run = (db.runLog run allocated).floor := by
  simp only [Telegram.storageEventRetention, Log.floor, runLog, mark, Option.map_map]
  rfl

theorem eventReplay_refused (db : Database) (run : String) (allocated : List Int) (start maxEvents maxBytes : Int) :
    Telegram.eventReplay db ⟨run, start, maxEvents, maxBytes⟩ = none ↔ (db.runLog run allocated).Refuses start := by
  simp [Telegram.eventReplay, Log.Refuses, storageEventRetention_eq db run allocated]

theorem retention_matches_replay (host : Host) (encode : Json → JsonText) (run : String) (commands : List LogCommand) :
    let reached := performAll host encode run commands .empty []
    (reached.1.seqs run ≠ [] → IsLeast {seq | seq ∈ reached.1.seqs run}
      (Telegram.storageEventRetention reached.1 run)) ∧
    storageEventHighWater reached.1 run = maxOrZero reached.2 ∧
    (InSequence host encode run commands .empty → ∀ start maxEvents maxBytes,
      Telegram.eventReplay reached.1 ⟨run, start, maxEvents, maxBytes⟩ = none ↔
        ∃ seq ∈ reached.2, seq ∉ reached.1.seqs run ∧ start ≤ seq) := by
  -- the refusal is exact where the sequences were allocated without a gap
  intro reached
  have accounted : reached.1.Accounted run reached.2 :=
    performAll_accounted host encode run commands (empty_accounted run)
  refine ⟨fun some => ?_, ?_, fun ordered start maxEvents maxBytes => ?_⟩
  · rw [storageEventRetention_eq reached.1 run reached.2, accounted.sound.floor_eq some]
    exact ⟨minOrZero_mem some, fun seq member => minOrZero_le member⟩
  · have mark := accounted.sound.highWater_eq
    simp only [Log.highWater, Database.runLog, Database.mark, Option.map_map] at mark
    exact mark
  · rw [eventReplay_refused reached.1 run reached.2]
    exact (performAll_gapless host encode run commands (empty_accounted run) (empty_gapless run) ordered).refuses_iff
      accounted.sound start

def twoEvents (second : Int) : List LogCommand :=
  [.createSession { id := "s", profile := "p", platform := "api", accountId := "", chatId := "c", threadId := ""
                    systemPrompt := "", model := "", provider := "", metadata := .obj [], nowMs := 0 },
    .createRun { id := "r", sessionId := "s", parentRunId := "", input := .obj [], provider := "", model := ""
                 scriptHash := "", idempotencyScope := "", idempotencyKey := "", nowMs := 0 } 1 65536,
    .append { runId := "r", event := ⟨"e1", .modelRequested, .obj [], 1⟩, nowMs := 0, maxEvents := 10 },
    .append { runId := "r", event := ⟨"e2", .modelCompleted, .obj [], second⟩, nowMs := 0, maxEvents := 10 },
    .prune { runId := "r", maxEvents := 1, nowMs := 0 }]

theorem twoEvents_replay :
    let reached := performAll Host.reference .json "r" (twoEvents 2) .empty []
    Telegram.eventReplay reached.1 ⟨"r", 2, 10, 4096⟩ = none ↔ ∃ seq ∈ reached.2, seq ∉ reached.1.seqs "r" ∧ 2 ≤ seq :=
  (retention_matches_replay Host.reference .json "r" (twoEvents 2)).2.2 (by decide +kernel) 2 10 4096

theorem refused_replay_stays_refused (host : Host) (encode : Json → JsonText) (run : String)
    (commands later : List LogCommand) (ordered : InSequence host encode run commands .empty)
    (onward : InSequence host encode run later (performAll host encode run commands .empty []).1)
    (start maxEvents maxBytes : Int)
    (refused : Telegram.eventReplay (performAll host encode run commands .empty []).1
      ⟨run, start, maxEvents, maxBytes⟩ = none) :
    let reached := performAll host encode run commands .empty []
    ∀ maxEvents maxBytes, Telegram.eventReplay (performAll host encode run later reached.1 reached.2).1
      ⟨run, start, maxEvents, maxBytes⟩ = none := by
  intro reached maxEvents maxBytes
  have accounted : reached.1.Accounted run reached.2 :=
    performAll_accounted host encode run commands (empty_accounted run)
  have gapless : (reached.1.runLog run reached.2).Gapless :=
    performAll_gapless host encode run commands (empty_accounted run) (empty_gapless run) ordered
  rw [eventReplay_refused reached.1 run reached.2, gapless.refuses_iff accounted.sound] at refused
  obtain ⟨seq, given, gone, behind⟩ := refused
  rw [eventReplay_refused _ run (performAll host encode run later reached.1 reached.2).2,
    (performAll_gapless host encode run later accounted gapless onward).refuses_iff
      (performAll_accounted host encode run later accounted).sound]
  obtain ⟨given, gone⟩ := performAll_gone host encode run later accounted onward given gone
  exact ⟨seq, given, gone, behind⟩

theorem twoEvents_refused_later :
    let reached := performAll Host.reference .json "r" (twoEvents 2) .empty []
    let appended : LogCommand :=
      .append { runId := "r", event := ⟨"e3", .modelRequested, .obj [], 3⟩, nowMs := 0, maxEvents := 10 }
    Telegram.eventReplay (performAll Host.reference .json "r" [appended] reached.1 reached.2).1 ⟨"r", 1, 9, 9⟩ = none :=
  refused_replay_stays_refused Host.reference .json "r" (twoEvents 2) [_] (by decide +kernel) (by decide +kernel)
    1 10 4096 (by decide +kernel) 9 9

theorem refused_behind_gap :
    let reached := performAll Host.reference .json "r" (twoEvents 3) .empty []
    reached.2 = [1, 3] ∧ Telegram.eventReplay reached.1 ⟨"r", 2, 10, 4096⟩ = none ∧
      ¬ ∃ seq ∈ reached.2, seq ∉ reached.1.seqs "r" ∧ 2 ≤ seq := by
  decide +kernel

end RustScriptAgent.Storage
