import RustScriptAgent.Shared.Text
import RustScriptAgent.Storage.Effects

namespace RustScriptAgent.Storage

open Relational Sequences Database Table List

variable {now : Int} {row : RunRow}

namespace Database

def Recovered (db : Database) (run : String) : Prop :=
  ∀ record ∈ db.recoveryRecords.rows,
    (∃ time : Int, record.id = "recovery:" ++ record.runId ++ ":" ++ toString time) ∧
      (record.runId = run → ∃ status, status.terminal = true ∧ db.runIs run status = true)

structure Lagging (db : Database) (run : String) : Prop where
  block : Unbroken (db.seqs run)
  high : ∃ row ∈ db.runRetention.rows, row.runId = run ∧ row.highWaterSeq ≤ db.maxSeq run
  recovered : db.Recovered run

structure Level (db : Database) (run : String) : Prop extends Lagging db run where
  mark : ∃ row ∈ db.runRetention.rows, row.runId = run ∧ row.highWaterSeq = db.maxSeq run

def InPlace (db : Database) (run : String) (fields : EventFields) : Prop :=
  db.hasEventId fields.eventId = true ∨
    (0 < fields.seq ∧
      (db.eventsOf run = [] ∨ (db.minSeq run ≤ fields.seq ∧ fields.seq ≤ db.maxSeq run + 1)))

instance (db : Database) (run : String) (fields : EventFields) : Decidable (db.InPlace run fields) :=
  inferInstanceAs (Decidable (_ ∨ _))

variable {db next : Database} {run : String}

theorem seqs_append {new : List EventRow} (run : String) (rows : next.runEvents.rows = db.runEvents.rows ++ new) :
    next.seqs run = db.seqs run ++ (new.filter fun row => row.runId == run).map EventRow.seq := by
  simp [seqs, eventsOf, rows]

theorem seqs_congr (same : next.runEvents = db.runEvents) (run : String) : next.seqs run = db.seqs run := by
  simp [seqs, eventsOf, same]

theorem seqs_eq_nil : db.seqs run = [] ↔ db.eventsOf run = [] := by simp [seqs]

theorem Recovered.congr (recovered : db.Recovered run) (records : next.recoveryRecords = db.recoveryRecords)
    (kept : ∀ status, status.terminal → db.runIs run status → next.runIs run status) :
    next.Recovered run := by
  intro record member
  obtain ⟨named, finished⟩ := recovered record (records ▸ member)
  refine ⟨named, fun own => ?_⟩
  obtain ⟨status, final, held⟩ := finished own
  exact ⟨status, final, kept status final held⟩

theorem Lagging.carry (lagging : Lagging db run) (seqs : next.seqs run = db.seqs run)
    (retention : next.runRetention = db.runRetention) (recovered : next.Recovered run) : Lagging next run := by
  have high : next.maxSeq run = db.maxSeq run := by simp [maxSeq, seqs]
  refine ⟨seqs ▸ lagging.block, ?_, recovered⟩
  rw [retention, high]
  exact lagging.high

theorem Level.carry (level : Level db run) (seqs : next.seqs run = db.seqs run)
    (retention : next.runRetention = db.runRetention) (recovered : next.Recovered run) : Level next run := by
  refine ⟨level.toLagging.carry seqs retention recovered, ?_⟩
  have high : next.maxSeq run = db.maxSeq run := by simp [maxSeq, seqs]
  rw [retention, high]
  exact level.mark

theorem Lagging.congr (lagging : Lagging db run) (seqs : next.seqs run = db.seqs run)
    (retention : next.runRetention = db.runRetention) (records : next.recoveryRecords = db.recoveryRecords)
    (kept : ∀ status, status.terminal → db.runIs run status → next.runIs run status) :
    Lagging next run :=
  lagging.carry seqs retention (lagging.recovered.congr records kept)

theorem Level.congr (level : Level db run) (seqs : next.seqs run = db.seqs run)
    (retention : next.runRetention = db.runRetention) (records : next.recoveryRecords = db.recoveryRecords)
    (kept : ∀ status, status.terminal → db.runIs run status → next.runIs run status) :
    Level next run :=
  level.carry seqs retention (level.recovered.congr records kept)

theorem Lagging.extend (lagging : Lagging db run) {number : Int} (seqs : next.seqs run = db.seqs run ++ [number])
    (follows : db.seqs run ≠ [] → number = db.maxSeq run + 1) (starts : db.seqs run = [] → 0 ≤ number)
    (retention : next.runRetention = db.runRetention) (records : next.recoveryRecords = db.recoveryRecords)
    (runs : next.runs = db.runs) : Lagging next run := by
  have above : db.maxSeq run ≤ number := by
    by_cases empty : db.seqs run = []
    · rw [maxSeq, empty, maxOrZero_nil]
      exact starts empty
    · have := follows empty
      omega
  have high : next.maxSeq run = number := by
    rw [maxSeq, seqs]
    exact maxOrZero_append_singleton fun old member => (le_maxOrZero member).trans above
  refine ⟨?_, ?_, lagging.recovered.congr records fun status _ held => by rw [runIs_congr runs]; exact held⟩
  · rw [seqs]
    exact lagging.block.append follows
  · obtain ⟨row, member, own, bound⟩ := lagging.high
    exact ⟨row, retention ▸ member, own, by omega⟩

theorem Lagging.extendRun (lagging : Lagging db run) (count : Nat) (seqs : next.seqs run =
      db.seqs run ++ (range count).map (fun index : Nat => db.maxSeq run + (1 + index)))
    (retention : next.runRetention = db.runRetention) (recovered : next.Recovered run) : Lagging next run := by
  have block : Unbroken (next.seqs run) := by
    rw [seqs]
    exact lagging.block.append_run count
  have above : db.maxSeq run ≤ next.maxSeq run := by
    by_cases empty : db.seqs run = []
    · have none : db.maxSeq run = 0 := by rw [maxSeq, empty, maxOrZero_nil]
      by_cases few : next.seqs run = []
      · rw [none, maxSeq, few, maxOrZero_nil]
      · have top := maxOrZero_mem few
        rw [seqs, empty, nil_append, mem_map] at top
        obtain ⟨index, _, same⟩ := top
        rw [none] at same
        rw [none, maxSeq, seqs, empty, nil_append, none, ← same]
        omega
    · refine le_maxOrZero ?_
      rw [seqs]
      exact mem_append_left _ (maxOrZero_mem empty)
  refine ⟨block, ?_, recovered⟩
  obtain ⟨row, member, own, bound⟩ := lagging.high
  exact ⟨row, retention ▸ member, own, bound.trans above⟩

theorem Lagging.insert (lagging : Lagging db run) {target : String} {fields : EventFields}
    (placed : target = run → db.InPlace run fields) (ok : insertNewEvent db target fields now = .ok next) :
    Lagging next run := by
  rcases insertNewEvent_eq_ok.mp ok with ⟨_, same⟩ | ⟨fresh, accepted, rows, frame⟩
  · rw [same]
    exact lagging
  · have appended := seqs_append run rows
    have retention : next.runRetention = db.runRetention := by rw [frame]
    have records : next.recoveryRecords = db.recoveryRecords := by rw [frame]
    have runs : next.runs = db.runs := by rw [frame]
    by_cases own : target = run
    · subst own
      simp only [EventFields.row_runId, beq_self_eq_true, filter_cons_of_pos, filter_nil,
        map_cons, map_nil] at appended
      have free : (fields.row db target now).seq ∉ db.seqs target := by
        intro taken
        obtain ⟨stored, member, same, seq⟩ := mem_seqs.mp taken
        have clash := ((accepts_iff _ _).mp accepted).2 stored member
        simp [runEventsSchema, same, seq] at clash
      have number : (fields.row db target now).seq = reservedOr fields.seq (db.maxSeq target + 1) := rfl
      refine lagging.extend appended (fun nonempty => ?_) (fun empty => ?_) retention records runs
      · by_cases reserved : 0 < fields.seq
        · rw [number, reservedOr, if_pos reserved] at free ⊢
          rcases placed rfl with known | ⟨_, empty | ⟨lower, upper⟩⟩
          · simp [fresh] at known
          · exact absurd (seqs_eq_nil.mpr empty) nonempty
          · -- inside the block the number would be taken
            by_contra other
            exact free (lagging.block.between (minOrZero_mem nonempty) (maxOrZero_mem nonempty) lower
              (by unfold maxSeq at upper other; omega))
        · rw [number, reservedOr, if_neg reserved]
      · rw [number, reservedOr, maxSeq, empty, maxOrZero_nil]
        split_ifs <;> omega
    · have none : next.seqs run = db.seqs run := by
        rw [appended]
        simp [own]
      exact lagging.congr none retention records fun status _ held => by rw [runIs_congr runs]; exact held

theorem InPlace.behind {first second : EventFields} (ok : insertNewEvent db run first now = .ok next)
    (fresh : db.hasEventId first.eventId = false) (reserved : 0 < first.seq) (follows : second.seq = first.seq + 1) :
    next.InPlace run second := by
  rcases insertNewEvent_eq_ok.mp ok with ⟨known, _⟩ | ⟨_, _, rows, _⟩
  · simp [fresh] at known
  · have number : first.seq ∈ next.seqs run := by
      rw [seqs_append run rows]
      simp [EventFields.row, reservedOr, reserved]
    have low : next.minSeq run ≤ first.seq := minOrZero_le number
    have high : first.seq ≤ next.maxSeq run := le_maxOrZero number
    exact .inr ⟨by omega, .inr ⟨by omega, by omega⟩⟩

theorem seqs_pruneEvents_other {target : String} (other : target ≠ run) (limit : Nat) :
    (db.pruneEvents target limit).seqs run = db.seqs run := by
  have same : (db.pruneEvents target limit).eventsOf run = db.eventsOf run := by
    simp only [eventsOf, pruneEvents, delete_rows, filter_filter]
    refine filter_congr fun row _ => ?_
    by_cases mine : row.runId = run
    · simp [mine, other.symm]
    · simp [mine]
  simp only [seqs, same]

theorem Lagging.prune (lagging : Lagging db run) {limit : Nat} (positive : 0 < limit) :
    Lagging (db.pruneEvents run limit) run := by
  have high : (db.pruneEvents run limit).maxSeq run = db.maxSeq run := by
    by_cases empty : db.seqs run = []
    · have gone : (db.pruneEvents run limit).seqs run = [] :=
        eq_nil_iff_forall_not_mem.mpr fun seq member => by simpa [empty] using (mem_seqs_pruneEvents.mp member).1
      rw [maxSeq, maxSeq, gone, empty]
    · refine maxOrZero_eq (mem_seqs_pruneEvents.mpr ⟨maxOrZero_mem empty, ?_⟩) fun seq member =>
        le_maxOrZero (mem_seqs_pruneEvents.mp member).1
      exact (db.newerThan_maxSeq run).trans_lt positive
  refine ⟨unbroken_of_between (seqs_nodup _ _) ?_, ?_, lagging.recovered⟩
  · intro low first high last number lower upper
    obtain ⟨lowStored, recent⟩ := mem_seqs_pruneEvents.mp first
    obtain ⟨highStored, _⟩ := mem_seqs_pruneEvents.mp last
    exact mem_seqs_pruneEvents.mpr ⟨lagging.block.between lowStored highStored lower upper,
      (db.newerThan_antitone run lower).trans_lt recent⟩
  · rw [high]
    exact lagging.high

@[simp] theorem maxSeq_upsertRetention (db : Database) (target run : String) (now : Int) :
    (db.upsertRetention target now).maxSeq run = db.maxSeq run := by
  simp [maxSeq, seqs, eventsOf]

theorem Recovered.upsert (recovered : db.Recovered run) (target : String) (now : Int) :
    (db.upsertRetention target now).Recovered run :=
  recovered.congr (upsertRetention_recoveryRecords _ _ _) fun status _ held => by
    rw [runIs_upsertRetention]
    exact held

theorem Lagging.upsert (lagging : Lagging db run) (now : Int) : Level (db.upsertRetention run now) run := by
  have mark : ∃ row ∈ (db.upsertRetention run now).runRetention.rows, row.runId = run ∧
      row.highWaterSeq = db.maxSeq run := by
    obtain ⟨row, member, own, bound⟩ := lagging.high
    have known : db.runRetention.rows.any (fun row => row.runId == run) := by
      simpa using ⟨row, member, own⟩
    refine ⟨(setRetention (db.minSeq run) (db.maxSeq run) now).apply row, ?_, own, max_eq_right bound⟩
    simp only [upsertRetention, known, if_true, update_rows, mem_map]
    exact ⟨row, member, by simp [own]⟩
  refine ⟨⟨?_, ?_, ?_⟩, ?_⟩
  · rw [seqs_congr (upsertRetention_runEvents _ _ _)]
    exact lagging.block
  · obtain ⟨row, member, own, same⟩ := mark
    exact ⟨row, member, own, by rw [maxSeq_upsertRetention, same]⟩
  · exact lagging.recovered.upsert run now
  · simpa using mark

theorem upsertRetention_keeps {target : String} (other : target ≠ run) {row : RetentionRow}
    (member : row ∈ db.runRetention.rows) (own : row.runId = run) :
    row ∈ (db.upsertRetention target now).runRetention.rows := by
  unfold upsertRetention
  dsimp only
  split_ifs
  · simp only [update_rows, mem_map]
    exact ⟨row, member, if_neg (by simpa [own] using other.symm)⟩
  · exact insertOrIgnore_mono _ _ _ member

theorem Lagging.upsert_other (lagging : Lagging db run) {target : String} (other : target ≠ run) (now : Int) :
    Lagging (db.upsertRetention target now) run := by
  refine ⟨?_, ?_, lagging.recovered.upsert target now⟩
  · rw [seqs_congr (upsertRetention_runEvents _ _ _)]
    exact lagging.block
  · obtain ⟨row, member, own, bound⟩ := lagging.high
    exact ⟨row, upsertRetention_keeps other member own, own, by simpa using bound⟩

theorem Level.upsert_other (level : Level db run) {target : String} (other : target ≠ run) (now : Int) :
    Level (db.upsertRetention target now) run := by
  refine ⟨level.toLagging.upsert_other other now, ?_⟩
  obtain ⟨row, member, own, same⟩ := level.mark
  exact ⟨row, upsertRetention_keeps other member own, own, by simpa using same⟩

theorem Level.touchRun (level : Level db run) (target : String) (now : Int) : Level (db.touchRun target now) run :=
  level.congr rfl rfl rfl fun status _ held => by rw [runIs_touchRun]; exact held

theorem Lagging.settle (lagging : Lagging db run) {limit : Nat} (positive : 0 < limit) (now : Int) :
    Level (db.settle run limit now) run :=
  ((lagging.prune positive).upsert now).touchRun run now

theorem Level.settle_other (level : Level db run) {target : String} (other : target ≠ run) (limit : Nat) (now : Int) :
    Level (db.settle target limit now) run := by
  have pruned : Level (db.pruneEvents target limit) run :=
    level.congr (seqs_pruneEvents_other other limit) rfl rfl fun _ _ held => held
  exact (pruned.upsert_other other now).touchRun target now

theorem Level.insert_other (level : Level db run) {target : String} (other : target ≠ run)
    {fields : EventFields} (ok : insertNewEvent db target fields now = .ok next) : Level next run := by
  rcases insertNewEvent_eq_ok.mp ok with ⟨_, same⟩ | ⟨_, _, rows, frame⟩
  · rw [same]
    exact level
  · refine level.congr ?_ (by rw [frame]) (by rw [frame]) fun status _ held => by rw [frame]; exact held
    rw [seqs_append run rows]
    simp [other]

end Database

section Commands

variable {db : Database} {run : String} (host : Host) (level : db.Level run)
include level

theorem storageEventAppend_level {input : EventAppendInput} (placed : input.runId = run → db.InPlace run input.event) :
    (storageEventAppend host db input).1.Level run := by
  rcases storageEventAppend_written host db input with ⟨failed, _⟩ | ⟨_, inserted, ok, outcome⟩
  · rw [failed]
    exact level
  · rw [outcome]
    by_cases own : input.runId = run
    · subst own
      exact (level.toLagging.insert placed ok).settle (maxEventsLimit_pos _) _
    · exact (level.insert_other own ok).settle_other own _ _

theorem storageEventAppendPair_level {input : EventAppendPairInput}
    (first : input.runId = run → db.InPlace run input.first)
    (second : input.runId = run → ∀ once, insertNewEvent db input.runId input.first input.nowMs = .ok once →
      once.InPlace run input.second) :
    (storageEventAppendPair host db input).1.Level run := by
  rcases storageEventAppendPair_written host db input with ⟨failed, _⟩ | ⟨_, _, once, twice, ok, again, outcome⟩
  · rw [failed]
    exact level
  · rw [outcome]
    by_cases own : input.runId = run
    · subst own
      exact ((level.toLagging.insert first ok).insert (fun same => second same once ok) again).settle
        (maxEventsLimit_pos _) _
    · exact ((level.insert_other own ok).insert_other own again).settle_other own _ _

theorem storageStepCommit_level {input : StepCommitInput} (placed : input.runId = run → db.InPlace run input.event) :
    (storageStepCommit host db input).1.Level run := by
  rcases storageStepCommit_written host db input with ⟨failed, _⟩ | ⟨_, _, inserted, ok, outcome⟩
  · rw [failed]
    exact level
  · rw [outcome]
    -- the message statements come between the retention and the touch of the run
    have messages (db : Database) (settled : db.Level run) : (input.applyMessage db).Level run := by
      unfold StepCommitInput.applyMessage
      split_ifs
      · exact settled
      · exact settled.congr rfl rfl rfl fun _ _ held => held
    refine Database.Level.touchRun (messages _ ?_) _ _
    by_cases own : input.runId = run
    · subst own
      exact ((level.toLagging.insert placed ok).prune (maxEventsLimit_pos _)).upsert _
    · have pruned : (inserted.pruneEvents input.runId (maxEventsLimit input.maxEvents)).Level run :=
        (level.insert_other own ok).congr (seqs_pruneEvents_other own _) rfl rfl fun _ _ held => held
      exact pruned.upsert_other own _

theorem storageEventPrune_level (input : EventPruneInput) : (storageEventPrune db input).Level run := by
  unfold storageEventPrune
  by_cases own : input.runId = run
  · subst own
    exact (level.toLagging.prune (maxEventsLimit_pos _)).upsert _
  · have pruned : (db.pruneEvents input.runId (maxEventsLimit input.maxEvents)).Level run :=
      level.congr (seqs_pruneEvents_other own _) rfl rfl fun _ _ held => held
    exact pruned.upsert_other own _

theorem storageRunTransition_level (input : RunTransitionInput) : (storageRunTransition host db input).1.Level run := by
  rcases input.storageRunTransition_cases db host with ⟨_, failed⟩ | ⟨target, _, _, outcome⟩
  · rw [failed]
    exact level
  · rw [outcome]
    have moved : (input.moved db target).Level run :=
      level.congr rfl rfl rfl fun status final held => input.moved_keeps_terminal db final held
    unfold RunTransitionInput.recorded
    cases inserted : (input.moved db target).runEvents.insert?
        (transitionEvent (input.moved db target) input) with
    | none => exact moved
    | some table =>
      have rows := (insert?_eq_some.mp inserted).2
      have appended : seqs { input.moved db target with runEvents := table } run = _ := seqs_append run rows
      dsimp only
      by_cases own : input.runId = run
      · subst own
        refine Database.Lagging.upsert (moved.toLagging.extendRun 1 (appended.trans ?_) rfl moved.recovered) _
        simp [transitionEvent]
      · have same : Database.Level { input.moved db target with runEvents := table } run := by
          refine moved.congr (appended.trans ?_) rfl rfl fun _ _ held => held
          simp [transitionEvent, own]
        exact same.upsert_other own _

end Commands

theorem terminalRows_seqs (run : String) (now last : Int) (events : List TerminalEvent) :
    (terminalRows run now last events).map EventRow.seq =
      (range events.length).map (fun index : Nat => last + (1 + index)) := by
  induction events generalizing last with
  | nil => rfl
  | cons event rest ih =>
    rw [terminalRows, map_cons, ih, length_cons, range_succ_eq_map, map_cons, map_map]
    congr 1
    refine map_congr_left fun index _ => ?_
    simp only [Function.comp_apply, Nat.succ_eq_add_one]
    push_cast
    ring

namespace RunTerminalInput

variable {input : RunTerminalInput} {target : RunStatus} {db next : Database} {run : String}

theorem Landed.level (landed : Landed input target db next) (level : db.Level run) : next.Level run := by
  have kept (status : RunStatus) (final : status.terminal) (held : db.runIs run status) :
      next.runIs run status := by
    refine landed.keeps ?_ held
    rintro rfl
    exact absurd final (by decide)
  -- the rows are in and the status is set; the retention is as it was
  let staged : Database := { db with runEvents := next.runEvents, runs := next.runs }
  have appended : staged.seqs run = _ := seqs_append run landed.events
  have finished (leveled : (staged.upsertRetention input.runId input.nowMs).Level run)
      (settled : next.runIs input.runId target) : next.Level run := by
    refine leveled.congr ?_ ?_ ?_ fun status _ held => ?_
    · exact (seqs_congr (upsertRetention_runEvents staged _ _) run).symm
    · rw [landed.noted settled]
      apply upsertRetention_congr <;> rfl
    · rw [upsertRetention_recoveryRecords]
      exact landed.records
    · rw [runIs_upsertRetention] at held
      exact held
  have unchanged (same : staged.seqs run = db.seqs run) (unsettled : next.runIs input.runId target = false) :
      next.Level run :=
    level.congr same (landed.unnoted unsettled) landed.records kept
  by_cases own : input.runId = run
  · subst own
    by_cases running : db.runIs input.runId .running
    · refine finished (Database.Lagging.upsert ?_ _) (landed.settles running)
      refine level.toLagging.extendRun input.events.length (appended.trans ?_) rfl (level.recovered.congr rfl kept)
      rw [if_pos running, ← terminalRows_seqs input.runId input.nowMs, filter_eq_self.mpr]
      intro row member
      simp [(mem_terminalRows member).1]
    · have same : staged.seqs input.runId = db.seqs input.runId := by
        rw [appended, if_neg running]
        simp
      cases settled : next.runIs input.runId target with
      | true => exact finished ((level.toLagging.congr same rfl rfl kept).upsert _) settled
      | false => exact unchanged same settled
  · have same : staged.seqs run = db.seqs run := by
      rw [appended, filter_eq_nil_iff.mpr]
      · simp
      · intro row member
        split_ifs at member
        · simp [(mem_terminalRows member).1, own]
        · simp at member
    cases settled : next.runIs input.runId target with
    | true => exact finished ((level.congr same rfl rfl kept : staged.Level run).upsert_other own _) settled
    | false => exact unchanged same settled

end RunTerminalInput

section Recovery

variable {db : Database} {run : String} {input : RecoveryInput}

def recoveryChosen (db : Database) (input : RecoveryInput) : List RunRow :=
  db.runs.rows.filter (fun row => (recoveryBatch db input).contains row.id)

theorem mem_recoveryChosen (chosen : row ∈ recoveryChosen db input) :
    row ∈ db.runs.rows ∧ row.status.active := by
  obtain ⟨member, listed⟩ := mem_filter.mp chosen
  refine ⟨member, ?_⟩
  rw [contains_iff_mem, recoveryBatch, mem_map] at listed
  obtain ⟨other, taken, same⟩ := listed
  have active := mem_of_mem_take taken
  rw [mem_insertionSort, mem_filter] at active
  rw [← run_unique active.1 member same]
  exact active.2

theorem active_not_terminal {status : RunStatus} (active : status.active) : status.terminal = false := by
  cases status <;> first | rfl | exact absurd active (by decide)

theorem recoverRuns_over {status : RunStatus} (final : status.terminal) (held : db.runIs run status) :
    ∃ status, status.terminal ∧ (recoverRuns db input).runIs run status := by
  obtain ⟨row, member, id, same⟩ := runIs_iff.mp held
  by_cases chosen : (recoveryBatch db input).contains row.id
  · refine ⟨.failed, rfl, runIs_iff.mpr ⟨input.assign.apply row, ?_, id, rfl⟩⟩
    exact mem_map.mpr ⟨row, member, if_pos chosen⟩
  · refine ⟨status, final, runIs_iff.mpr ⟨row, ?_, id, same⟩⟩
    exact mem_map.mpr ⟨row, member, if_neg chosen⟩

theorem recoverRuns_fails (chosen : row ∈ recoveryChosen db input) :
    (recoverRuns db input).runIs row.id .failed := by
  obtain ⟨member, listed⟩ := mem_filter.mp chosen
  exact runIs_iff.mpr ⟨input.assign.apply row, mem_map.mpr ⟨row, member, if_pos listed⟩, rfl, rfl⟩

theorem Database.Recovered.recoverRuns (recovered : db.Recovered run) (input : RecoveryInput) :
    (recoverRuns db input).Recovered run := by
  intro record member
  have rows : (Storage.recoverRuns db input).recoveryRecords.rows = _ := insertEachOrIgnore_rows _ _
  rw [rows, mem_append] at member
  rcases member with old | new
  · obtain ⟨named, finished⟩ := recovered record old
    refine ⟨named, fun own => ?_⟩
    obtain ⟨status, final, held⟩ := finished own
    exact recoverRuns_over final held
  · obtain ⟨row, chosen, rfl⟩ := mem_map.mp ((acceptedRows_sublist _ _).subset new)
    refine ⟨⟨input.nowMs, rfl⟩, ?_⟩
    rintro rfl
    exact ⟨.failed, rfl, recoverRuns_fails chosen⟩

theorem Database.Recovered.records (recovered : db.Recovered run)
    (chosen : row ∈ recoveryChosen db input) (own : row.id = run) :
    run ∈ recoveredRuns (Storage.recoverRuns db input) input := by
  -- the record of a run that is taken goes in: an earlier one would have found the run over
  subst own
  obtain ⟨stored, active⟩ := mem_recoveryChosen chosen
  have ongoing : ∀ record ∈ db.recoveryRecords.rows, record.runId ≠ row.id := by
    intro record member own
    obtain ⟨status, final, held⟩ := (recovered record member).2 own
    obtain ⟨other, present, id, same⟩ := runIs_iff.mp held
    rw [run_unique present stored id] at same
    have := active_not_terminal active
    simp [same, final] at this
  have free : db.recoveryRecords.accepts (recoveryRow input row) := by
    refine (accepts_iff _ _).mpr ⟨rfl, fun record member => ?_⟩
    obtain ⟨⟨time, named⟩, _⟩ := recovered record member
    have apart : record.id ≠ "recovery:" ++ row.id ++ ":" ++ toString input.nowMs := by
      rw [named]
      intro same
      exact ongoing record member ((String.append_right_inj _).mp (Texts.stamped_inj same))
    simpa [recoveryRecordsSchema, recoveryRow, ongoing record member] using apart
  have kept : recoveryRow input row ∈
      db.recoveryRecords.acceptedRows ((recoveryChosen db input).map (recoveryRow input)) := by
    refine mem_acceptedRows_of_apart (mem_map_of_mem chosen) free ?_
    intro other listed distinct
    obtain ⟨source, taken, rfl⟩ := mem_map.mp listed
    have apart : source.id ≠ row.id := fun same =>
      distinct (by rw [run_unique (mem_recoveryChosen taken).1 stored same])
    simp [recoveryRecordsSchema, recoveryRow, apart]
  have rows : (Storage.recoverRuns db input).recoveryRecords.rows = _ := insertEachOrIgnore_rows _ _
  refine mem_map.mpr ⟨recoveryRow input row, mem_filter.mpr ⟨?_, by simp [recoveryRow]⟩, rfl⟩
  rw [rows]
  exact mem_append_right _ kept

theorem recoverRuns_runEvents (db : Database) (input : RecoveryInput) :
    (recoverRuns db input).runEvents.rows = db.runEvents.rows ++
      db.runEvents.acceptedRows ((recoveryChosen db input).map (recoveryEvent db input)) :=
  insertEachOrIgnore_rows _ _

theorem recoverRuns_seqs (db : Database) (input : RecoveryInput) (run : String) :
    (recoverRuns db input).seqs run = db.seqs run ∨
      ∃ row ∈ recoveryChosen db input, row.id = run ∧
        (recoverRuns db input).seqs run = db.seqs run ++ [db.maxSeq run + 1] := by
  have appended := seqs_append run (recoverRuns_runEvents db input)
  have listed : ∀ row ∈ (db.runEvents.acceptedRows ((recoveryChosen db input).map (recoveryEvent db input))).filter
      (fun row => row.runId == run), ∃ source ∈ recoveryChosen db input, source.id = run ∧
        row = recoveryEvent db input source := by
    intro row member
    obtain ⟨accepted, own⟩ := mem_filter.mp member
    obtain ⟨source, chosen, rfl⟩ := mem_map.mp ((acceptedRows_sublist _ _).subset accepted)
    exact ⟨source, chosen, by simpa [recoveryEvent] using own, rfl⟩
  have nodup := seqs_nodup (recoverRuns db input) run
  rw [appended] at nodup ⊢
  generalize (db.runEvents.acceptedRows ((recoveryChosen db input).map (recoveryEvent db input))).filter
    (fun row => row.runId == run) = new at listed nodup
  rcases new with _ | ⟨first, _ | ⟨second, rest⟩⟩
  · exact .inl (by simp)
  · obtain ⟨source, chosen, own, rfl⟩ := listed first mem_cons_self
    exact .inr ⟨source, chosen, own, by simp [recoveryEvent, own]⟩
  · -- both would have taken the same number
    obtain ⟨one, _, own, rfl⟩ := listed first mem_cons_self
    obtain ⟨two, _, same, rfl⟩ := listed second (mem_cons_of_mem _ mem_cons_self)
    simp [nodup_append, recoveryEvent, own, same] at nodup

theorem Database.Level.upsertEach (level : db.Level run) (rows : List RunRow) (now : Int) :
    (rows.foldl (fun db row => db.upsertRetention row.id now) db).Level run := by
  induction rows generalizing db with
  | nil => exact level
  | cons row rest ih =>
    rw [foldl_cons]
    by_cases own : row.id = run
    · subst own
      exact ih (level.toLagging.upsert now)
    · exact ih (level.upsert_other own now)

theorem Database.Lagging.upsertEach (lagging : db.Lagging run) {rows : List RunRow} (now : Int)
    (listed : ∃ row ∈ rows, row.id = run) :
    (rows.foldl (fun db row => db.upsertRetention row.id now) db).Level run := by
  induction rows generalizing db with
  | nil => simp at listed
  | cons row rest ih =>
    rw [foldl_cons]
    by_cases own : row.id = run
    · subst own
      exact (lagging.upsert now).upsertEach rest now
    · refine ih (lagging.upsert_other own now) ?_
      obtain ⟨other, member, same⟩ := listed
      rcases mem_cons.mp member with rfl | later
      · exact absurd same own
      · exact ⟨other, later, same⟩

def Database.pruneRecovered (db : Database) (recovered : List String) (limit : Nat) : Database :=
  { db with
    runEvents := db.runEvents.delete fun row => recovered.contains row.runId &&
      decide (db.eventRank row < (db.eventsOf row.runId).length - limit) }

theorem eventsOf_pruneRecovered (recovered : List String) (limit : Nat) :
    (db.pruneRecovered recovered limit).eventsOf run =
      if recovered.contains run then (db.pruneEvents run limit).eventsOf run else db.eventsOf run := by
  simp only [eventsOf, pruneRecovered, pruneEvents, delete_rows, filter_filter]
  have rows (row : EventRow) : (row.runId == run && !(recovered.contains row.runId &&
      decide (db.eventRank row < (db.eventsOf row.runId).length - limit))) =
      (row.runId == run && !(recovered.contains run &&
        decide (db.eventRank row < (db.eventsOf run).length - limit))) := by
    by_cases own : row.runId = run
    · rw [own]
    · rw [beq_eq_false_iff_ne.mpr own, Bool.false_and, Bool.false_and]
  split_ifs with listed
  · refine filter_congr fun row _ => ?_
    have same := rows row
    rw [listed, Bool.true_and] at same
    refine same.trans ?_
    cases row.runId == run <;> simp [eventsOf]
  · refine filter_congr fun row _ => ?_
    have same := rows row
    rw [Bool.eq_false_iff.mpr listed, Bool.false_and, Bool.not_false, Bool.and_true] at same
    exact same

theorem seqs_pruneRecovered (recovered : List String) (limit : Nat) :
    (db.pruneRecovered recovered limit).seqs run =
      if recovered.contains run then (db.pruneEvents run limit).seqs run else db.seqs run := by
  unfold seqs
  rw [eventsOf_pruneRecovered]
  split_ifs <;> rfl

theorem Database.Recovered.listed {input : RecoveryInput} (finished : db.Recovered run)
    (listed : run ∈ recoveredRuns db input) :
    ∃ row ∈ db.runs.rows.filter fun row => (recoveredRuns db input).contains row.id, row.id = run := by
  obtain ⟨record, member, own⟩ := mem_map.mp listed
  obtain ⟨status, _, held⟩ := (finished record (mem_filter.mp member).1).2 own
  obtain ⟨row, stored, id, _⟩ := runIs_iff.mp held
  exact ⟨row, mem_filter.mpr ⟨stored, by simpa [id] using listed⟩, id⟩

theorem storageRunRecoverActive_level (level : db.Level run) (input : RecoveryInput) :
    (storageRunRecoverActive db input).1.Level run := by
  let swept := sweepPending (recoverRuns db input) input
  let recovered := recoveredRuns swept input
  let pruned := swept.pruneRecovered recovered (maxEventsLimit input.maxEvents)
  have finished : swept.Recovered run := level.recovered.recoverRuns input
  have seqs : pruned.seqs run = _ := seqs_pruneRecovered recovered _
  by_cases listed : run ∈ recovered
  · -- the run is pruned and noted, whether or not it got an event just now
    have lagging : swept.Lagging run := by
      rcases recoverRuns_seqs db input run with same | ⟨_, _, _, extended⟩
      · exact level.toLagging.extendRun 0 (same.trans (by simp)) rfl finished
      · exact level.toLagging.extendRun 1 (extended.trans (by simp)) rfl finished
    rw [if_pos (contains_iff_mem.mpr listed)] at seqs
    have kept : pruned.Lagging run := (lagging.prune (maxEventsLimit_pos _)).congr seqs rfl rfl fun _ _ held => held
    exact kept.upsertEach input.nowMs (finished.listed listed)
  · -- the run was not taken, so it got no event either
    rw [if_neg (by simpa using listed)] at seqs
    have same : swept.seqs run = db.seqs run := by
      rcases recoverRuns_seqs db input run with same | ⟨row, chosen, own, _⟩
      · exact same
      · exact absurd (level.recovered.records chosen own) listed
    have kept : pruned.Level run := level.carry (seqs.trans same) rfl finished
    exact kept.upsertEach _ _

theorem storageRunRecoverActive_hasRun (db : Database) (input : RecoveryInput) (run : String) :
    (storageRunRecoverActive db input).1.hasRun run = db.hasRun run := by
  rw [storageRunRecoverActive, upsertRetention_foldl_frame]
  exact hasRun_update rfl run

end Recovery

end RustScriptAgent.Storage
