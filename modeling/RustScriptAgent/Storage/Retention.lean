import RustScriptAgent.Storage.Statements

namespace RustScriptAgent.Storage.Database

open Relational Sequences Table List

variable {db : Database} {run : String} {row : EventRow} {limit : Nat} {now : Int}

theorem mem_eventsOf : row ∈ db.eventsOf run ↔ row ∈ db.runEvents.rows ∧ row.runId = run := by
  simp [eventsOf]

theorem mem_seqs {seq : Int} : seq ∈ db.seqs run ↔ ∃ row ∈ db.runEvents.rows, row.runId = run ∧ row.seq = seq := by
  simp [seqs, mem_eventsOf, and_assoc]

theorem mem_messagesOf {session : String} {row : MessageRow} :
    row ∈ db.messagesOf session ↔ row ∈ db.messages.rows ∧ row.sessionId = session := by
  simp [messagesOf]

theorem hasEventId_false {eventId : String} :
    db.hasEventId eventId = false ↔ ∀ row ∈ db.runEvents.rows, row.eventId ≠ eventId := by
  simp [hasEventId]

theorem seqs_nodup (db : Database) (run : String) : (db.seqs run).Nodup := by
  unfold seqs eventsOf
  rw [Nodup, pairwise_map, pairwise_filter]
  refine db.runEvents.unique.imp ?_
  intro a b free runA runB same
  simp only [beq_iff_eq] at runA runB
  simp [runEventsSchema, runA, runB, same] at free

theorem eventIds_nodup (db : Database) : (db.runEvents.rows.map EventRow.eventId).Nodup := by
  rw [Nodup, pairwise_map]
  refine db.runEvents.unique.imp ?_
  intro a b free same
  simp [runEventsSchema, same] at free

def newerThan (db : Database) (run : String) (seq : Int) : Nat :=
  (db.seqs run).countP (fun other => decide (seq < other))

theorem eventRank_eq (db : Database) (row : EventRow) :
    db.eventRank row = (db.seqs row.runId).countP (fun other => decide (other < row.seq)) := by
  simp only [eventRank, seqs, eventsOf, countP_map, countP_filter]
  apply countP_congr
  intro other _
  simp [and_comm]

theorem mem_pruneEvents : row ∈ (db.pruneEvents run limit).runEvents.rows ↔
      row ∈ db.runEvents.rows ∧ (row.runId = run → db.newerThan run row.seq < limit) := by
  simp only [pruneEvents, delete_rows, mem_filter, and_congr_right_iff]
  intro member
  by_cases same : row.runId = run
  · have present : row.seq ∈ db.seqs run := mem_seqs.mpr ⟨row, member, same, rfl⟩
    have split := below_add_above (db.seqs_nodup run) present
    have size : (db.eventsOf run).length = (db.seqs run).length := by simp [seqs]
    simp only [same, beq_self_eq_true, Bool.true_and, eventRank_eq, newerThan, size,
      Bool.not_eq_true', decide_eq_false_iff_not, forall_const]
    omega
  · simp [same]

theorem newerThan_le (db : Database) (run : String) (seq : Int) : db.newerThan run seq ≤ (db.eventsOf run).length := by
  have bound := countP_le_length (p := fun other => decide (seq < other)) (l := db.seqs run)
  simpa [newerThan, seqs] using bound

theorem newerThan_lt (member : row ∈ db.runEvents.rows) :
    db.newerThan row.runId row.seq < (db.eventsOf row.runId).length := by
  have split := below_add_above (db.seqs_nodup row.runId) (mem_seqs.mpr ⟨row, member, rfl, rfl⟩)
  have size : (db.eventsOf row.runId).length = (db.seqs row.runId).length := by simp [seqs]
  unfold newerThan
  omega

theorem newerThan_antitone (db : Database) (run : String) {low high : Int} (below : low ≤ high) :
    db.newerThan run high ≤ db.newerThan run low := by
  refine countP_mono_left fun seq _ newer => ?_
  simp only [decide_eq_true_eq] at newer ⊢
  omega

theorem newerThan_maxSeq (db : Database) (run : String) : db.newerThan run (db.maxSeq run) = 0 := by
  refine countP_eq_zero.mpr fun seq member => ?_
  have bound : seq ≤ db.maxSeq run := le_maxOrZero member
  simpa using bound

theorem mem_seqs_pruneEvents {seq : Int} :
    seq ∈ (db.pruneEvents run limit).seqs run ↔ seq ∈ db.seqs run ∧ db.newerThan run seq < limit := by
  simp only [mem_seqs, mem_pruneEvents]
  constructor
  · rintro ⟨row, ⟨member, recent⟩, same, rfl⟩
    exact ⟨⟨row, member, same, rfl⟩, recent same⟩
  · rintro ⟨⟨row, member, same, rfl⟩, recent⟩
    exact ⟨row, ⟨member, fun _ => recent⟩, same, rfl⟩

theorem exists_oldest (nonempty : db.eventsOf run ≠ []) :
    ∃ row ∈ db.runEvents.rows, row.runId = run ∧ db.newerThan run row.seq + 1 = (db.eventsOf run).length ∧
      ∀ other ∈ db.runEvents.rows, other.runId = run → row.seq ≤ other.seq := by
  have some : db.seqs run ≠ [] := by simpa [seqs] using nonempty
  obtain ⟨row, member, same, first⟩ := mem_seqs.mp (minOrZero_mem some)
  have least : ∀ seq ∈ db.seqs run, row.seq ≤ seq := fun seq present => by
    rw [first]
    exact minOrZero_le present
  have split := below_add_above (db.seqs_nodup run) (mem_seqs.mpr ⟨row, member, same, rfl⟩)
  have none : (db.seqs run).countP (fun other => decide (other < row.seq)) = 0 := by
    rw [countP_eq_zero]
    intro seq present
    have := least seq present
    simpa using this
  refine ⟨row, member, same, ?_, fun other present run => least _ (mem_seqs.mpr ⟨other, present, run, rfl⟩)⟩
  have size : (db.eventsOf run).length = (db.seqs run).length := by simp [seqs]
  unfold newerThan
  omega

theorem pruneEvents_eq_self :
    (db.pruneEvents run limit).runEvents = db.runEvents ↔ (db.eventsOf run).length ≤ limit := by
  constructor
  · intro same
    by_cases empty : db.eventsOf run = []
    · simp [empty]
    · obtain ⟨row, member, inRun, oldest, _⟩ := exists_oldest empty
      have kept := (mem_pruneEvents.mp (same ▸ member)).2 inRun
      omega
  · intro short
    refine delete_eq_self.mpr fun row _ => ?_
    simp
    omega

section

variable (db : Database) (run : String)

@[simp] theorem pruneEvents_messages (limit : Nat) :
    (db.pruneEvents run limit).messages = db.messages := rfl

@[simp] theorem pruneEvents_runs (limit : Nat) :
    (db.pruneEvents run limit).runs = db.runs := rfl

@[simp] theorem pruneEvents_sessions (limit : Nat) :
    (db.pruneEvents run limit).sessions = db.sessions := rfl

@[simp] theorem pruneEvents_runRetention (limit : Nat) :
    (db.pruneEvents run limit).runRetention = db.runRetention := rfl

variable (now : Int)

theorem upsertRetention_frame :
    db.upsertRetention run now = { db with runRetention := (db.upsertRetention run now).runRetention } := by
  unfold upsertRetention
  split <;> rfl

@[simp] theorem upsertRetention_runEvents :
    (db.upsertRetention run now).runEvents = db.runEvents := by
  rw [upsertRetention_frame]

@[simp] theorem upsertRetention_messages :
    (db.upsertRetention run now).messages = db.messages := by
  rw [upsertRetention_frame]

@[simp] theorem upsertRetention_runs :
    (db.upsertRetention run now).runs = db.runs := by
  rw [upsertRetention_frame]

@[simp] theorem upsertRetention_sessions :
    (db.upsertRetention run now).sessions = db.sessions := by
  rw [upsertRetention_frame]

@[simp] theorem upsertRetention_recoveryRecords :
    (db.upsertRetention run now).recoveryRecords = db.recoveryRecords := by
  rw [upsertRetention_frame]

end

theorem upsertRetention_foldl_frame (runs : List RunRow) (db : Database) (now : Int) :
    runs.foldl (fun refreshed run => refreshed.upsertRetention run.id now) db =
      { db with runRetention :=
          (runs.foldl (fun refreshed run => refreshed.upsertRetention run.id now) db).runRetention } := by
  induction runs generalizing db with
  | nil => rfl
  | cons run rest ih =>
    rw [foldl_cons, ih]
    rw [upsertRetention_frame]

theorem upsertRetention_congr {a b : Database} (events : a.runEvents = b.runEvents)
    (retention : a.runRetention = b.runRetention) (run : String) (now : Int) :
    (a.upsertRetention run now).runRetention = (b.upsertRetention run now).runRetention := by
  have same : a.seqs run = b.seqs run := by simp only [seqs, eventsOf, events]
  simp only [upsertRetention, minSeq, maxSeq, same, retention]
  split <;> rfl

structure RetentionCurrent (db : Database) (run : String) (now : Int) : Prop where
  present : ∃ row ∈ db.runRetention.rows, row.runId = run
  current : ∀ row ∈ db.runRetention.rows, row.runId = run →
    row.firstSeq = db.minSeq run ∧ db.maxSeq run ≤ row.highWaterSeq ∧ row.updatedAtMs = now

theorem upsertRetention_eq_self :
    (db.upsertRetention run now).runRetention = db.runRetention ↔ db.RetentionCurrent run now := by
  unfold upsertRetention
  split_ifs with present
  · have known : ∃ row ∈ db.runRetention.rows, row.runId = run := by simpa using present
    have rows : (∀ row ∈ db.runRetention.rows, row.runId = run →
        (setRetention (db.minSeq run) (db.maxSeq run) now).apply row = row) ↔
        ∀ row ∈ db.runRetention.rows, row.runId = run →
          row.firstSeq = db.minSeq run ∧ db.maxSeq run ≤ row.highWaterSeq ∧ row.updatedAtMs = now := by
      refine forall₂_congr fun row _ => imp_congr_right fun _ => ?_
      rcases row with ⟨id, first, high, updated⟩
      simp only [setRetention, RetentionRow.mk.injEq, true_and, max_eq_left_iff]
      constructor <;> rintro ⟨firstSame, highSame, updatedSame⟩ <;>
        exact ⟨firstSame.symm, highSame, updatedSame.symm⟩
    simp only [update_eq_self, beq_iff_eq, rows]
    exact ⟨fun current => ⟨known, current⟩, fun settled => settled.current⟩
  · have absent : ∀ row ∈ db.runRetention.rows, row.runId ≠ run := by simpa using present
    simp only [insertOrIgnore_eq_self]
    constructor
    · intro refused
      have accepted : db.runRetention.accepts
          { runId := run, firstSeq := db.minSeq run, highWaterSeq := db.maxSeq run, updatedAtMs := now } = true :=
        (accepts_iff _ _).mpr ⟨rfl, fun row member => by simpa [runRetentionSchema] using absent row member⟩
      simp [refused] at accepted
    · rintro ⟨⟨row, member, same⟩, _⟩
      exact absurd same (absent row member)

section

variable (db : Database)

@[simp] theorem touchRun_runEvents (run : String) (now : Int) :
    (db.touchRun run now).runEvents = db.runEvents := rfl

@[simp] theorem touchRun_messages (run : String) (now : Int) :
    (db.touchRun run now).messages = db.messages := rfl

@[simp] theorem touchRun_sessions (run : String) (now : Int) :
    (db.touchRun run now).sessions = db.sessions := rfl

@[simp] theorem touchSession_runs (session : String) (now : Int) :
    (db.touchSession session now).runs = db.runs := rfl

end

theorem touchRun_eq_self :
    (db.touchRun run now).runs = db.runs ↔ ∀ row ∈ db.runs.rows, row.id = run → row.updatedAtMs = now := by
  simp only [touchRun, update_eq_self, beq_iff_eq]
  refine forall₂_congr fun row _ => imp_congr_right fun _ => ?_
  rcases row
  simp [setRunUpdatedAt, eq_comm]

theorem touchSession_eq_self {session : String} : (db.touchSession session now).sessions = db.sessions ↔
      ∀ row ∈ db.sessions.rows, row.id = session →
        row.lastMessageSeq = db.maxOrdinal session ∧ row.updatedAtMs = now := by
  simp only [touchSession, update_eq_self, beq_iff_eq]
  refine forall₂_congr fun row _ => imp_congr_right fun _ => ?_
  rcases row
  simp [setLastMessage, eq_comm]

theorem insertEvent_eq_ok {next : Database} : db.insertEvent row = .ok next ↔
      db.runEvents.accepts row ∧ next.runEvents.rows = db.runEvents.rows ++ [row] ∧
        next = { db with runEvents := next.runEvents } := by
  have made : db.insertEvent row = .ok next ↔
      ∃ table, db.runEvents.insert? row = some table ∧ { db with runEvents := table } = next := by
    unfold insertEvent
    cases db.runEvents.insert? row <;> simp
  simp only [made, insert?_eq_some]
  constructor
  · rintro ⟨table, ⟨accepted, rows⟩, rfl⟩
    exact ⟨accepted, rows, rfl⟩
  · rintro ⟨accepted, rows, same⟩
    exact ⟨_, ⟨accepted, rows⟩, same.symm⟩

theorem insertEvent_eq_error {error : StorageError} : db.insertEvent row = .error error ↔
      db.runEvents.accepts row = false ∧ error = .constraintFailed := by
  unfold insertEvent
  cases inserted : db.runEvents.insert? row with
  | none =>
    rw [insert?_eq_none] at inserted
    simp [inserted, eq_comm]
  | some table =>
    have spec := insert?_eq_some.mp inserted
    simp [spec.1]

end RustScriptAgent.Storage.Database
