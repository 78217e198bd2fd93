import RustScriptAgent.Shared.Checks
import RustScriptAgent.Storage.Retention
import RustScriptAgent.Storage.Runs

namespace RustScriptAgent.Storage

open Relational Sequences Database Table RunStatus List

variable {run : String} {row : RunRow} {now : Int} {event : TerminalEvent} {events : List TerminalEvent} {host : Host}

namespace Database

variable {db : Database}

theorem runIs_iff {status : RunStatus} :
    db.runIs run status ↔ ∃ row ∈ db.runs.rows, row.id = run ∧ row.status = status := by
  simp [runIs]

theorem runIs_false {status : RunStatus} :
    db.runIs run status = false ↔ ∀ row ∈ db.runs.rows, row.id = run → row.status ≠ status := by
  simp [runIs]

theorem run_unique {a b : RunRow} (first : a ∈ db.runs.rows) (second : b ∈ db.runs.rows)
    (same : a.id = b.id) : a = b :=
  eq_of_conflict first second (by simpa [runsSchema] using same)

theorem find_run (member : row ∈ db.runs.rows) :
    db.runs.rows.find? (fun other => other.id == row.id) = some row := by
  cases found : db.runs.rows.find? (fun other => other.id == row.id) with
  | none =>
    rw [find?_eq_none] at found
    simpa using found row member
  | some other =>
    have same : other.id = row.id := by simpa using find?_some found
    rw [run_unique (mem_of_find?_eq_some found) member same]

theorem mem_log {row : EventRow} : row ∈ db.log run ↔ row ∈ db.eventsOf run := by
  simp [log, mem_insertionSort]

theorem log_perm (db : Database) (run : String) : (db.log run).Perm (db.eventsOf run) := perm_insertionSort _ _

theorem log_sorted (db : Database) (run : String) : (db.log run).Pairwise (fun a b => a.seq ≤ b.seq) := by
  have total : Std.Total (fun a b : EventRow => a.seq ≤ b.seq) := ⟨fun a b => le_total a.seq b.seq⟩
  have transitive : IsTrans EventRow (fun a b => a.seq ≤ b.seq) := ⟨fun _ _ _ => le_trans⟩
  exact pairwise_insertionSort _ _

theorem log_ascending (db : Database) (run : String) : (db.log run).Pairwise (fun a b => a.seq < b.seq) := by
  have nodup : ((db.log run).map EventRow.seq).Nodup :=
    ((db.log_perm run).map EventRow.seq).nodup_iff.mpr (db.seqs_nodup run)
  rw [List.Nodup, pairwise_map] at nodup
  exact ((db.log_sorted run).and nodup).imp fun both => lt_of_le_of_ne both.1 both.2

theorem event_unique {a b : EventRow} (first : a ∈ db.runEvents.rows)
    (second : b ∈ db.runEvents.rows) (run : a.runId = b.runId) (seq : a.seq = b.seq) : a = b :=
  eq_of_conflict first second (by simp [runEventsSchema, run, seq])

theorem eventId_unique {a b : EventRow} (first : a ∈ db.runEvents.rows)
    (second : b ∈ db.runEvents.rows) (same : a.eventId = b.eventId) : a = b :=
  eq_of_conflict first second (by simp [runEventsSchema, same])

theorem log_eq {rows : List EventRow} (same : rows.Perm (db.eventsOf run))
    (sorted : rows.Pairwise (fun a b => a.seq ≤ b.seq)) : db.log run = rows := by
  refine List.Perm.eq_of_pairwise ?_ (db.log_sorted run) sorted ((db.log_perm run).trans same.symm)
  intro a b first second lower upper
  obtain ⟨storedA, runA⟩ := mem_eventsOf.mp (mem_log.mp first)
  obtain ⟨storedB, runB⟩ := mem_eventsOf.mp (same.mem_iff.mp second)
  exact event_unique storedA storedB (runA.trans runB.symm) (le_antisymm lower upper)

theorem log_pruneEvents (db : Database) (run : String) (limit : Nat) :
    (db.pruneEvents run limit).log run = (db.log run).drop ((db.eventsOf run).length - limit) := by
  refine log_eq ?_ ((db.log_sorted run).sublist (drop_sublist _ _))
  rw [← filter_rank_eq_drop EventRow.seq (db.log_ascending run)]
  refine ((db.log_perm run).filter _).trans (List.Perm.of_eq ?_)
  simp only [eventsOf, pruneEvents, delete_rows, filter_filter]
  refine filter_congr fun row _ => ?_
  by_cases own : row.runId = run
  · have rank : db.eventRank row = (db.log run).countP (fun other => decide (other.seq < row.seq)) := by
      rw [eventRank_eq, own, (db.log_perm run).countP_eq, seqs, countP_map]
      rfl
    rw [Bool.eq_iff_iff]
    simp only [own, rank, beq_self_eq_true, Bool.and_true, Bool.true_and, Bool.not_eq_true', decide_eq_false_iff_not,
      Nat.not_lt]
    exact decide_eq_true_iff
  · rw [beq_eq_false_iff_ne.mpr own, Bool.and_false, Bool.false_and]

theorem le_maxSeq {row : EventRow} (member : row ∈ db.runEvents.rows) : row.seq ≤ db.maxSeq row.runId :=
  le_maxOrZero (mem_seqs.mpr ⟨row, member, rfl, rfl⟩)

end Database

def terminalRows (run : String) (now : Int) : Int → List TerminalEvent → List EventRow
  | _, [] => []
  | last, event :: rest =>
    { runId := run, seq := last + 1, eventId := event.eventId, eventType := event.eventType,
      payload := event.payload, createdAtMs := now } :: terminalRows run now (last + 1) rest

structure EventsFit (db : Database) (events : List TerminalEvent) : Prop where
  payload : ∀ event ∈ events, event.payload.render.length ≤ maxTextLength
  fresh : ∀ event ∈ events, db.hasEventId event.eventId = false
  distinct : (events.map TerminalEvent.eventId).Nodup

variable {db next : Database}

theorem eventsFit_cons
    {rest : List TerminalEvent} (rows : next.runEvents.rows = db.runEvents.rows ++ [event.row db run now]) :
    EventsFit db (event :: rest) ↔
      event.payload.render.length ≤ maxTextLength ∧ db.hasEventId event.eventId = false ∧
        EventsFit next rest := by
  have extended (other : TerminalEvent) : next.hasEventId other.eventId = false ↔
      db.hasEventId other.eventId = false ∧ other.eventId ≠ event.eventId := by
    simp only [hasEventId_false, rows, mem_append, mem_singleton, or_imp, forall_and, forall_eq, TerminalEvent.row]
    exact and_congr_right fun _ => ne_comm
  constructor
  · rintro ⟨payload, fresh, distinct⟩
    rw [map_cons, nodup_cons] at distinct
    refine ⟨payload event (by simp), fresh event (by simp), fun other member => payload other (by simp [member]),
      fun other member => (extended other).mpr ⟨fresh other (by simp [member]), ?_⟩, distinct.2⟩
    intro same
    exact distinct.1 (mem_map.mpr ⟨other, member, same⟩)
  · rintro ⟨short, free, payload, fresh, distinct⟩
    refine ⟨?_, ?_, ?_⟩
    · intro other member
      rcases mem_cons.mp member with rfl | later
      · exact short
      · exact payload other later
    · intro other member
      rcases mem_cons.mp member with rfl | later
      · exact free
      · exact ((extended other).mp (fresh other later)).1
    · rw [map_cons, nodup_cons]
      refine ⟨fun member => ?_, distinct⟩
      obtain ⟨other, later, same⟩ := mem_map.mp member
      exact ((extended other).mp (fresh other later)).2 same

theorem accepts_terminalRow {db : Database} : db.runEvents.accepts (event.row db run now) ↔
      event.payload.render.length ≤ maxTextLength ∧ db.hasEventId event.eventId = false := by
  rw [accepts_iff, hasEventId_false]
  simp only [runEventsSchema, TerminalEvent.row, decide_eq_true_eq, Bool.or_eq_false_iff, beq_eq_false_iff_ne,
    Bool.and_eq_false_iff]
  refine and_congr_right fun _ => forall₂_congr fun stored member => and_iff_left_of_imp fun _ => ?_
  -- The next number of the run is above every stored one.
  by_cases same : stored.runId = run
  · right
    have bound := le_maxSeq member
    rw [same] at bound
    omega
  · exact .inl same

theorem maxSeq_append (rows : next.runEvents.rows = db.runEvents.rows ++ [event.row db run now]) :
    next.maxSeq run = db.maxSeq run + 1 := by
  have appended : next.seqs run = db.seqs run ++ [db.maxSeq run + 1] := by
    simp [seqs, eventsOf, rows, TerminalEvent.row]
  unfold maxSeq
  rw [appended]
  apply maxOrZero_append_singleton
  intro old member
  have bound := le_maxOrZero member
  unfold maxSeq
  omega

theorem insertTerminalEvents_cases {db : Database} (events : List TerminalEvent) (now : Int)
    (running : db.runIs run .running) :
    (∃ next, insertTerminalEvents db run events now = .ok next ∧ EventsFit db events ∧
        next.runEvents.rows = db.runEvents.rows ++ terminalRows run now (db.maxSeq run) events ∧
        next = { db with runEvents := next.runEvents }) ∨
      ((∃ error, insertTerminalEvents db run events now = .error error) ∧ ¬ EventsFit db events) := by
  -- while the run is running, its terminal events land together at the end of its log or not at all
  induction events generalizing db with
  | nil => exact .inl ⟨db, rfl, ⟨by simp, by simp, by simp⟩, by simp [terminalRows], rfl⟩
  | cons event rest ih =>
    have unfolded : insertTerminalEvents db run (event :: rest) now =
        (db.insertEvent (event.row db run now)).bind
          (fun inserted => insertTerminalEvents inserted run rest now) := by
      simp only [insertTerminalEvents, foldlM_cons, insertTerminalEvent, running, if_true]
      rfl
    rw [unfolded]
    cases inserted : db.insertEvent (event.row db run now) with
    | error error =>
      obtain ⟨refused, _⟩ := insertEvent_eq_error.mp inserted
      refine .inr ⟨⟨error, rfl⟩, ?_⟩
      rintro ⟨payload, fresh, _⟩
      have accepted : db.runEvents.accepts (event.row db run now) :=
        accepts_terminalRow.mpr ⟨payload event (by simp), fresh event (by simp)⟩
      simp [refused] at accepted
    | ok once =>
      obtain ⟨accepted, rows, frame⟩ := insertEvent_eq_ok.mp inserted
      have fits := accepts_terminalRow.mp accepted
      have still : once.runIs run .running := by
        rw [frame]
        exact running
      rcases ih still with ⟨next, ok, fit, appended, same⟩ | ⟨failed, unfit⟩
      · refine .inl ⟨next, ok, (eventsFit_cons rows).mpr ⟨fits.1, fits.2, fit⟩, ?_, ?_⟩
        · rw [appended, rows, maxSeq_append rows, append_assoc]
          rfl
        · rw [same, frame]
      · exact .inr ⟨failed, fun fit => unfit ((eventsFit_cons rows).mp fit).2.2⟩

theorem insertTerminalEvents_idle {db : Database}
    (idle : db.runIs run .running = false) : insertTerminalEvents db run events now = .ok db := by
  induction events with
  | nil => rfl
  | cons event rest ih =>
    simp only [insertTerminalEvents, foldlM_cons, insertTerminalEvent, idle] at ih ⊢
    exact ih

theorem terminalRows_length (run : String) (now last : Int) (events : List TerminalEvent) :
    (terminalRows run now last events).length = events.length := by
  induction events generalizing last with
  | nil => rfl
  | cons event rest ih => simp [terminalRows, ih]

theorem mem_terminalRows {last : Int} {row : EventRow}
    (member : row ∈ terminalRows run now last events) : row.runId = run ∧ last < row.seq := by
  induction events generalizing last with
  | nil => simp [terminalRows] at member
  | cons event rest ih =>
    rcases mem_cons.mp member with rfl | later
    · exact ⟨rfl, Int.lt_succ last⟩
    · have := ih later
      exact ⟨this.1, by omega⟩

theorem terminalRows_sorted (run : String) (now last : Int) (events : List TerminalEvent) :
    (terminalRows run now last events).Pairwise (fun a b => a.seq ≤ b.seq) := by
  induction events generalizing last with
  | nil => exact List.Pairwise.nil
  | cons event rest ih =>
    refine pairwise_cons.mpr ⟨fun row member => ?_, ih (last + 1)⟩
    exact (mem_terminalRows member).2.le

theorem log_terminalRows
    (rows : next.runEvents.rows = db.runEvents.rows ++ terminalRows run now (db.maxSeq run) events) :
    next.log run = db.log run ++ terminalRows run now (db.maxSeq run) events := by
  apply log_eq
  · have all : (terminalRows run now (db.maxSeq run) events).filter (fun row => row.runId == run) =
        terminalRows run now (db.maxSeq run) events :=
      filter_eq_self.mpr fun row member => by simp [(mem_terminalRows member).1]
    rw [eventsOf, rows, filter_append, all]
    exact (db.log_perm run).append_right _
  · refine pairwise_append.mpr ⟨db.log_sorted run, terminalRows_sorted run now _ events, ?_⟩
    intro old stored new added
    obtain ⟨member, same⟩ := mem_eventsOf.mp (mem_log.mp stored)
    have below := le_maxSeq member
    rw [same] at below
    exact below.trans (mem_terminalRows added).2.le

def ReadsWhole (log : List EventRow) : Prop :=
  log.length ≤ terminalResultRows ∧
    columnBytes eventColumns + (log.map (fun row => cellBytes row.cells)).sum ≤ terminalResultBytes

instance (log : List EventRow) : Decidable (ReadsWhole log) := inferInstanceAs (Decidable (_ ∧ _))

theorem readBack_isPrefix (log : List EventRow) : readBack log <+: log :=
  (takeWithin_isPrefix _ _ _).trans (List.take_prefix _ _)

theorem readBack_eq_self_iff (log : List EventRow) : readBack log = log ↔ ReadsWhole log := by
  have columns : columnBytes eventColumns ≤ terminalResultBytes := by decide
  constructor
  · intro whole
    have short : log.length ≤ terminalResultRows := by
      have bound := (takeWithin_isPrefix (fun row => cellBytes (EventRow.cells row))
        (terminalResultBytes - columnBytes eventColumns) (log.take terminalResultRows)).length_le
      have same : (readBack log).length = log.length := by rw [whole]
      unfold readBack boundedRows at same
      rw [length_take] at bound
      omega
    unfold readBack boundedRows at whole
    rw [take_of_length_le short, takeWithin_eq_self_iff] at whole
    exact ⟨short, by omega⟩
  · rintro ⟨short, budget⟩
    unfold readBack boundedRows
    rw [take_of_length_le short, takeWithin_eq_self_iff]
    omega

theorem insertMessage_eq_ok {row : MessageRow} : db.insertMessage row = .ok next ↔
      db.messages.accepts row ∧ next.messages.rows = db.messages.rows ++ [row] ∧
        next = { db with messages := next.messages } := by
  have made : db.insertMessage row = .ok next ↔
      ∃ table, db.messages.insert? row = some table ∧ { db with messages := table } = next := by
    unfold insertMessage
    cases db.messages.insert? row <;> simp
  simp only [made, insert?_eq_some]
  constructor
  · rintro ⟨table, ⟨accepted, rows⟩, rfl⟩
    exact ⟨accepted, rows, rfl⟩
  · rintro ⟨accepted, rows, same⟩
    exact ⟨_, ⟨accepted, rows⟩, same.symm⟩

namespace RunTerminalInput

variable {db next : Database} {input : RunTerminalInput} {target : RunStatus}

theorem message_congr {other : Database} (messages : other.messages = db.messages) (runs : other.runs = db.runs) :
    input.message other = input.message db := by
  simp [message, maxOrdinal, Database.messagesOf, runIs, messages, runs]

def MessageFits (input : RunTerminalInput) (db : Database) : Prop :=
  input.messageId = "" ∨ db.messages.accepts (input.message db) = true

theorem storeTerminalMessage_ok : storeTerminalMessage db input = .ok next →
      input.MessageFits db ∧ next.runEvents = db.runEvents ∧ next.runs = db.runs ∧
        next.runRetention = db.runRetention ∧ next.recoveryRecords = db.recoveryRecords ∧
        (input.messageId = "" → next = db) ∧
        (input.messageId ≠ "" → next.messages.rows = db.messages.rows ++ [input.message db]) := by
  unfold storeTerminalMessage
  split_ifs with none
  · intro same
    cases same
    exact ⟨.inl none, rfl, rfl, rfl, rfl, fun _ => rfl, fun named => absurd none named⟩
  · intro ok
    cases stored : db.insertMessage (input.message db) with
    | error error => simp [stored, bind, Except.bind] at ok
    | ok table =>
      obtain ⟨accepted, rows, frame⟩ := insertMessage_eq_ok.mp stored
      simp only [stored, bind, Except.bind, pure, Except.pure, Except.ok.injEq] at ok
      subst ok
      refine ⟨.inr accepted, ?_, ?_, ?_, ?_, fun absent => absurd absent none, fun _ => rows⟩ <;>
        · simp only [touchSession]
          rw [frame]

theorem storeTerminalMessage_error :
    (∃ error, storeTerminalMessage db input = .error error) ↔ ¬ input.MessageFits db := by
  unfold storeTerminalMessage MessageFits
  split_ifs with none
  · simp [none]
  · cases stored : db.insertMessage (input.message db) with
    | error error =>
      have refused : db.messages.accepts (input.message db) = false := by
        unfold insertMessage at stored
        cases inserted : db.messages.insert? (input.message db) with
        | none => exact insert?_eq_none.mp inserted
        | some table => simp [inserted] at stored
      simp [none, refused, bind, Except.bind]
    | ok table =>
      have accepted := (insertMessage_eq_ok.mp stored).1
      simp [none, accepted, bind, Except.bind, pure, Except.pure]

def Refused (host : Host) (db : Database) (input : RunTerminalInput) : Prop :=
  input.parameters.all host.acceptsParameters = false ∨
    (db.runIs input.runId .running = true ∧ ¬ EventsFit db input.events) ∨
    ¬ input.MessageFits db

structure Staged (input : RunTerminalInput) (db stored : Database) : Prop where
  runs : stored.runs = db.runs
  retention : stored.runRetention = db.runRetention
  records : stored.recoveryRecords = db.recoveryRecords
  events : stored.runEvents.rows = db.runEvents.rows ++
    if db.runIs input.runId .running = true then
      terminalRows input.runId input.nowMs (db.maxSeq input.runId) input.events else []
  untouched : db.runIs input.runId .running = false → input.messageId = "" → stored = db
  silent : input.messageId = "" → stored.messages = db.messages
  message : input.messageId ≠ "" → stored.messages.rows = db.messages.rows ++ [input.message db]

theorem messageFits_congr {other : Database} (messages : other.messages = db.messages)
    (runs : other.runs = db.runs) : input.MessageFits other ↔ input.MessageFits db := by
  simp only [MessageFits, messages, message_congr messages runs]

theorem insertTerminalEvents_staged
    (fits : db.runIs input.runId .running → EventsFit db input.events) :
    ∃ appended, insertTerminalEvents db input.runId input.events input.nowMs = .ok appended ∧
      appended = { db with runEvents := appended.runEvents } ∧
      appended.runEvents.rows = db.runEvents.rows ++
        if db.runIs input.runId .running then
          terminalRows input.runId input.nowMs (db.maxSeq input.runId) input.events else [] := by
  cases running : db.runIs input.runId .running with
  | false => exact ⟨db, insertTerminalEvents_idle running, rfl, by simp⟩
  | true =>
    rcases insertTerminalEvents_cases input.events input.nowMs running with
      ⟨appended, ok, _, rows, frame⟩ | ⟨_, unfit⟩
    · exact ⟨appended, ok, frame, by simpa using rows⟩
    · exact absurd (fits running) unfit

theorem terminalTransaction_of_not_refused (target : RunStatus) (passed : ¬ Refused host db input) :
    ∃ stored, terminalTransaction host db input target = .ok (input.close target stored) ∧
      Staged input db stored := by
  simp only [Refused, not_or, not_and, not_not, Bool.not_eq_false] at passed
  obtain ⟨parameters, events, message⟩ := passed
  obtain ⟨appended, ok, frame, rows⟩ := insertTerminalEvents_staged events
  have messages : appended.messages = db.messages := by rw [frame]
  have runs : appended.runs = db.runs := by rw [frame]
  have retention : appended.runRetention = db.runRetention := by rw [frame]
  have records : appended.recoveryRecords = db.recoveryRecords := by rw [frame]
  cases outcome : storeTerminalMessage appended input with
  | error error =>
    exact absurd ((messageFits_congr messages runs).mpr message)
      (storeTerminalMessage_error.mp ⟨error, outcome⟩)
  | ok stored =>
    obtain ⟨_, sameEvents, sameRuns, sameRetention, sameRecords, absent, named⟩ := storeTerminalMessage_ok outcome
    refine ⟨stored, ?_, sameRuns.trans runs, sameRetention.trans retention, sameRecords.trans records, ?_, ?_, ?_, ?_⟩
    · simp only [terminalTransaction, requireParameters, parameters, if_true, ok, outcome, bind, Except.bind,
        pure, Except.pure]
    · rw [sameEvents, rows]
    · intro idle none
      rw [absent none]
      rw [insertTerminalEvents_idle idle] at ok
      exact (Except.ok.inj ok).symm
    · intro none
      rw [absent none, messages]
    · intro some
      rw [named some, messages, message_congr messages runs]

theorem terminalTransaction_of_refused (target : RunStatus) (refused : Refused host db input) :
    ∃ error, terminalTransaction host db input target = .error error := by
  cases parameters : input.parameters.all host.acceptsParameters with
  | false => exact ⟨.parameterRejected, by simp [terminalTransaction, requireParameters, parameters, bind, Except.bind]⟩
  | true =>
    have start : terminalTransaction host db input target =
        (insertTerminalEvents db input.runId input.events input.nowMs).bind (fun appended =>
          (storeTerminalMessage appended input).bind (fun stored => .ok (input.close target stored))) := by
      simp only [terminalTransaction, requireParameters, parameters, if_true, bind, Except.bind, pure, Except.pure]
    rw [start]
    by_cases events : db.runIs input.runId .running → EventsFit db input.events
    · obtain ⟨appended, ok, frame, _⟩ := insertTerminalEvents_staged events
      have unfit : ¬ input.MessageFits appended := by
        rw [messageFits_congr (by rw [frame]) (by rw [frame])]
        rcases refused with rejected | ⟨running, unfit⟩ | unfit
        · simp [parameters] at rejected
        · exact absurd (events running) unfit
        · exact unfit
      obtain ⟨error, failed⟩ := storeTerminalMessage_error.mpr unfit
      exact ⟨error, by simp [ok, failed, Except.bind]⟩
    · obtain ⟨running, unfit⟩ := Classical.not_imp.mp events
      rcases insertTerminalEvents_cases input.events input.nowMs running with
        ⟨_, _, fit, _⟩ | ⟨⟨error, failed⟩, _⟩
      · exact absurd fit unfit
      · exact ⟨error, by simp [failed, Except.bind]⟩

@[simp] theorem close_runEvents : (input.close target db).runEvents = db.runEvents := by
  unfold close
  dsimp only
  split_ifs
  · rw [upsertRetention_runEvents]
  · rfl

@[simp] theorem close_messages : (input.close target db).messages = db.messages := by
  unfold close
  dsimp only
  split_ifs
  · rw [upsertRetention_messages]
  · rfl

@[simp] theorem close_sessions : (input.close target db).sessions = db.sessions := by
  unfold close
  dsimp only
  split_ifs
  · rw [upsertRetention_sessions]
  · rfl

@[simp] theorem close_recoveryRecords : (input.close target db).recoveryRecords = db.recoveryRecords := by
  unfold close
  dsimp only
  split_ifs
  · rw [upsertRetention_recoveryRecords]
  · rfl

theorem close_runs : (input.close target db).runs =
    db.runs.update (fun row => row.id == input.runId && decide (row.status = running))
      (input.assign target) := by
  unfold close
  dsimp only
  split_ifs
  · rw [upsertRetention_runs]
  · rfl

theorem close_idle (idle : db.runIs input.runId .running = false) : input.close target db =
      if db.runIs input.runId target then db.upsertRetention input.runId input.nowMs else db := by
  have none : db.runs.update (fun row => row.id == input.runId && decide (row.status = running))
      (input.assign target) = db.runs := by
    refine update_eq_self.mpr fun row member selected => ?_
    simp only [Bool.and_eq_true, beq_iff_eq, decide_eq_true_eq] at selected
    exact absurd selected.2 (runIs_false.mp idle row member selected.1)
  unfold close
  rw [none]

theorem find_closed (input : RunTerminalInput) (target : RunStatus) (member : row ∈ db.runs.rows)
    (same : row.id = input.runId)
    (running : row.status = .running) :
    (input.close target db).runs.rows.find? (fun other => other.id == input.runId) =
      some ((input.assign target).apply row) := by
  have moved : (input.assign target).apply row ∈ (input.close target db).runs.rows := by
    rw [close_runs, update_rows, mem_map]
    exact ⟨row, member, by simp [same, running]⟩
  have found := find_run moved
  rwa [show ((input.assign target).apply row).id = input.runId from same] at found

theorem storageRunTerminal_refused (refused : Refused host db input) :
    ∃ error, storageRunTerminal host db input = (db, .error error) := by
  unfold storageRunTerminal
  cases ofText? input.toStatus with
  | none => exact ⟨_, rfl⟩
  | some target =>
    obtain ⟨error, failed⟩ := terminalTransaction_of_refused target refused
    exact ⟨error, by simp only [failed]⟩

theorem storageRunTerminal_running
    (parsed : ofText? input.toStatus = some target) (passed : ¬ Refused host db input)
    (member : row ∈ db.runs.rows) (same : row.id = input.runId) (running : row.status = .running) :
    ∃ next,
      storageRunTerminal host db input = (next,
        if ((input.assign target).apply row).fits then
          .ok (readBack (db.log input.runId ++
            terminalRows input.runId input.nowMs (db.maxSeq input.runId) input.events))
        else .error (.runNotFound "terminal commit targets an unknown run")) ∧
      next.runEvents.rows = db.runEvents.rows ++
        terminalRows input.runId input.nowMs (db.maxSeq input.runId) input.events := by
  obtain ⟨stored, ok, staged⟩ := terminalTransaction_of_not_refused target passed
  have active : db.runIs input.runId .running := runIs_iff.mpr ⟨row, member, same, running⟩
  have rows : (input.close target stored).runEvents.rows = db.runEvents.rows ++
      terminalRows input.runId input.nowMs (db.maxSeq input.runId) input.events := by
    rw [close_runEvents, staged.events, if_pos active]
  refine ⟨input.close target stored, ?_, rows⟩
  have found := find_closed input target (staged.runs ▸ member) same running
  unfold storageRunTerminal
  simp only [parsed, ok, found, ← log_terminalRows rows]
  have status : ((input.assign target).apply row).status = target := rfl
  cases fits : ((input.assign target).apply row).fits <;> simp [Option.filter, fits, status]

def idleReply (input : RunTerminalInput) (target : RunStatus) (db : Database) :
    Except StorageError (List EventRow) :=
  match (db.runs.rows.find? (fun row => row.id == input.runId)).filter RunRow.fits with
  | none => .error (.runNotFound "terminal commit targets an unknown run")
  | some row =>
    if row.status = target then .ok (readBack (db.log input.runId))
    else .error (.transitionConflict "run terminal transition matched no row")

theorem storageRunTerminal_idle (parsed : ofText? input.toStatus = some target)
    (passed : ¬ Refused host db input) (idle : db.runIs input.runId .running = false) :
    ∃ next, storageRunTerminal host db input = (next, input.idleReply target db) ∧
      (input.messageId = "" →
        next = if db.runIs input.runId target then db.upsertRetention input.runId input.nowMs else db) ∧
      (input.messageId ≠ "" → next.messages.rows = db.messages.rows ++ [input.message db]) := by
  obtain ⟨stored, ok, staged⟩ := terminalTransaction_of_not_refused target passed
  have still : stored.runIs input.runId .running = false := by
    unfold runIs
    rw [staged.runs]
    exact idle
  have runs : (input.close target stored).runs = db.runs := by
    rw [close_idle still]
    split_ifs
    · rw [upsertRetention_runs, staged.runs]
    · exact staged.runs
  have rows : (input.close target stored).runEvents.rows = db.runEvents.rows := by
    rw [close_runEvents, staged.events, if_neg (by simp [idle]), append_nil]
  have log : (input.close target stored).log input.runId = db.log input.runId := by
    simp only [log, eventsOf, rows]
  refine ⟨input.close target stored, ?_, ?_, ?_⟩
  · unfold storageRunTerminal idleReply
    simp only [parsed, ok, runs, log]
    cases (db.runs.rows.find? (fun row => row.id == input.runId)).filter RunRow.fits with
    | none => rfl
    | some row => by_cases settled : row.status = target <;> simp [settled]
  · intro none
    have same := staged.untouched idle none
    rw [close_idle still, same]
  · intro named
    rw [close_messages]
    exact staged.message named

end RunTerminalInput

theorem storageRunTerminal_stages (host : Host) (db : Database) (input : RunTerminalInput) :
    (storageRunTerminal host db input).1 = db ∨
      ∃ target appended stored, ofText? input.toStatus = some target ∧
        insertTerminalEvents db input.runId input.events input.nowMs = .ok appended ∧
        storeTerminalMessage appended input = .ok stored ∧
        (storageRunTerminal host db input).1 = input.close target stored := by
  cases parsed : ofText? input.toStatus with
  | none => exact .inl (by simp only [storageRunTerminal, parsed])
  | some target =>
    cases outcome : terminalTransaction host db input target with
    | error error => exact .inl (by simp only [storageRunTerminal, parsed, outcome])
    | ok next =>
      have after : (storageRunTerminal host db input).1 = next := by
        simp only [storageRunTerminal, parsed, outcome]
        split
        · rfl
        · split_ifs <;> rfl
      unfold terminalTransaction at outcome
      obtain ⟨_, _, outcome⟩ := Checks.passed_bind outcome
      obtain ⟨appended, events, outcome⟩ := Checks.passed_bind outcome
      obtain ⟨stored, message, outcome⟩ := Checks.passed_bind outcome
      cases outcome
      exact .inr ⟨target, appended, stored, rfl, events, message, after⟩

end RustScriptAgent.Storage
