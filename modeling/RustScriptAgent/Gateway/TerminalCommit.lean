import RustScriptAgent.Gateway.Records
import RustScriptAgent.Storage.Terminal

namespace RustScriptAgent.Gateway

open Storage Relational Sequences Database RunTerminalInput List

variable {next : Database} {target : RunStatus}

inductive TerminalCommitError where
  | storage (error : StorageError)
  | invalid (message : String)
  deriving DecidableEq

def TerminalCommitError.code : TerminalCommitError → String
  | storage error => error.code
  | invalid _ => "terminal_commit_invalid"

structure TerminalCall where
  runId : String
  sessionId : String
  toStatus : String
  events : List GatewayEvent
  assistantMessage : Option SessionMessage
  clock : Int

def GatewayEvent.terminal (event : GatewayEvent) : TerminalEvent where
  eventId := event.eventId
  eventType := event.event
  payload := event.data

namespace TerminalCall

def noEvent : TerminalEvent where
  eventId := ""
  eventType := .other ""
  payload := .obj []

def input (call : TerminalCall) : RunTerminalInput where
  runId := call.runId
  toStatus := call.toStatus
  errorCode := ""
  errorMessage := ""
  event1 := (call.events[0]?.map GatewayEvent.terminal).getD noEvent
  event2 := (call.events[1]?.map GatewayEvent.terminal).getD noEvent
  eventCount := call.events.length
  messageId := (call.assistantMessage.map SessionMessage.id).getD ""
  messageSessionId := (call.assistantMessage.map fun _ => call.sessionId).getD ""
  messageRole := (call.assistantMessage.map SessionMessage.role).getD ""
  messageContent := (call.assistantMessage.map SessionMessage.content).getD (.str "")
  messageRunId := (call.assistantMessage.bind SessionMessage.runId).getD ""
  messageFinishReason := (call.assistantMessage.bind SessionMessage.finishReason).getD ""
  messageOrdinal := (call.assistantMessage.bind SessionMessage.ordinal).getD 0
  nowMs := (call.events.head?.map GatewayEvent.timestamp).getD call.clock

theorem input_events (call : TerminalCall) : call.input.events = (call.events.take 2).map GatewayEvent.terminal := by
  rcases call with ⟨run, session, status, events, message, clock⟩
  match events with
  | [] => rfl
  | [_] => rfl
  | _ :: _ :: _ => simp [input, RunTerminalInput.events]

def entry (event : GatewayEvent) (row : EventRow) : Except TerminalCommitError (String × Int) :=
  if 0 ≤ row.seq then .ok (event.eventId, row.seq)
  else .error (.invalid "run.terminal returned a malformed event sequence")

def assignSeqs (events : List GatewayEvent) (rows : List EventRow) :
    Except TerminalCommitError (List (String × Int)) :=
  if rows.length < events.length then
    .error (.invalid ("run.terminal appended " ++ toString rows.length ++ " events, expected at least " ++
      toString events.length))
  else
    (events.zip (rows.drop (rows.length - events.length))).mapM (fun pair => entry pair.1 pair.2)

end TerminalCall

def terminalCommit (host : Host) (db : Database) (call : TerminalCall) :
    Database × Except TerminalCommitError (List (String × Int)) :=
  match storageRunTerminal host db call.input with
  | (next, .error error) => (next, .error (.storage error))
  | (next, .ok rows) => (next, TerminalCall.assignSeqs call.events rows)

namespace TerminalCall

def Unreadable (events : List GatewayEvent) (rows : List EventRow) : Prop :=
  rows.length < events.length ∨ ∃ row ∈ rows.drop (rows.length - events.length), row.seq < 0

theorem mapM_entry (pairs : List (GatewayEvent × EventRow)) : ((∀ pair ∈ pairs, 0 ≤ pair.2.seq) ∧
        pairs.mapM (fun pair => entry pair.1 pair.2) = .ok (pairs.map fun pair => (pair.1.eventId, pair.2.seq))) ∨
      ((∃ pair ∈ pairs, pair.2.seq < 0) ∧
        ∃ error, pairs.mapM (fun pair => entry pair.1 pair.2) = .error error) := by
  induction pairs with
  | nil => exact .inl ⟨by simp, rfl⟩
  | cons pair rest ih =>
    by_cases sound : 0 ≤ pair.2.seq
    · have head : entry pair.1 pair.2 = .ok (pair.1.eventId, pair.2.seq) := by simp [entry, sound]
      rcases ih with ⟨all, ok⟩ | ⟨⟨bad, member, negative⟩, error, failed⟩
      · left
        refine ⟨by simpa [sound] using all, ?_⟩
        simp only [mapM_cons, head, ok, bind, Except.bind, pure, Except.pure, map_cons]
      · right
        refine ⟨⟨bad, by simp [member], negative⟩, error, ?_⟩
        simp only [mapM_cons, head, failed, bind, Except.bind]
    · right
      refine ⟨⟨pair, by simp, by omega⟩, .invalid "run.terminal returned a malformed event sequence", ?_⟩
      simp [mapM_cons, entry, sound, bind, Except.bind]

theorem assignSeqs_cases (events : List GatewayEvent) (rows : List EventRow) : (¬ Unreadable events rows ∧
        assignSeqs events rows = .ok ((events.zip (rows.drop (rows.length - events.length))).map
          fun pair => (pair.1.eventId, pair.2.seq))) ∨
      (Unreadable events rows ∧ ∃ error, assignSeqs events rows = .error error) := by
  unfold assignSeqs Unreadable
  split_ifs with short
  · exact .inr ⟨.inl short, _, rfl⟩
  · have width : events.length = (rows.drop (rows.length - events.length)).length := by
      rw [length_drop]
      omega
    rcases mapM_entry (events.zip (rows.drop (rows.length - events.length))) with
      ⟨all, ok⟩ | ⟨⟨pair, member, bad⟩, failed⟩
    · refine .inl ⟨?_, ok⟩
      rintro (few | ⟨row, member, negative⟩)
      · exact short few
      · have seconds : (events.zip (rows.drop (rows.length - events.length))).map Prod.snd =
            rows.drop (rows.length - events.length) := map_snd_zip (by omega)
        rw [← seconds] at member
        obtain ⟨pair, paired, same⟩ := mem_map.mp member
        have := all pair paired
        rw [same] at this
        omega
    · exact .inr ⟨.inr ⟨pair.2, (of_mem_zip member).2, bad⟩, failed⟩

structure SameTables (next db : Database) : Prop where
  runs : next.runs = db.runs
  runEvents : next.runEvents = db.runEvents
  messages : next.messages = db.messages
  sessions : next.sessions = db.sessions
  runRetention : next.runRetention = db.runRetention

def Recorded (db : Database) (run : String) (event : GatewayEvent) (entry : String × Int) : Prop :=
  entry.1 = event.eventId ∧
    ∃ row ∈ db.runEvents.rows, row.runId = run ∧ row.eventId = event.eventId ∧ row.eventType = event.event ∧
      row.payload = event.data ∧ row.seq = entry.2

variable (host : Host) (db : Database) (call : TerminalCall)

def Sound : Prop :=
  (db.runIs call.runId .running = false →
    SameTables (terminalCommit host db call).1 db ∧
      ∃ error, (terminalCommit host db call).2 = .error error) ∧
  ∀ seqs, (terminalCommit host db call).2 = .ok seqs →
    List.Forall₂ (Recorded (terminalCommit host db call).1 call.runId) call.events seqs

def finalLog : List EventRow :=
  db.log call.runId ++ terminalRows call.runId call.input.nowMs (db.maxSeq call.runId) call.input.events

def RunningReadable (target : RunStatus) : Prop :=
  (∀ row ∈ db.runs.rows, row.id = call.runId → ((call.input.assign target).apply row).fits = false) ∨
    Unreadable call.events (readBack (call.finalLog db)) ∨
    call.events = [] ∨
    (call.events.length ≤ 2 ∧ ReadsWhole (call.finalLog db))

def IdleRefused (target : RunStatus) : Prop :=
  call.input.messageId = "" ∧
    (db.runIs call.runId target = false ∨
      (db.RetentionCurrent call.runId call.input.nowMs ∧
        ((∀ row ∈ db.runs.rows, row.id = call.runId → row.fits = false) ∨
          Unreadable call.events (readBack (db.log call.runId)))))

theorem forall₂_terminalRows (run : String) (now last : Int) (events : List GatewayEvent) :
    List.Forall₂ (fun event row => row ∈ terminalRows run now last (events.map GatewayEvent.terminal) ∧
        row.runId = run ∧ row.eventId = event.eventId ∧ row.eventType = event.event ∧ row.payload = event.data)
      events (terminalRows run now last (events.map GatewayEvent.terminal)) := by
  induction events generalizing last with
  | nil => exact List.Forall₂.nil
  | cons event rest ih =>
    refine List.Forall₂.cons ⟨mem_cons_self, rfl, rfl, rfl, rfl⟩ ((ih (last + 1)).imp ?_)
    rintro other row ⟨member, same⟩
    exact ⟨mem_cons_of_mem _ member, same⟩

variable {host db call}

theorem whole_of_first {event : GatewayEvent} {rest : List GatewayEvent} {row : EventRow}
    (events : call.events = event :: rest)
    (rows : next.runEvents.rows = db.runEvents.rows ++
      terminalRows call.runId call.input.nowMs (db.maxSeq call.runId) call.input.events)
    (enough : call.events.length ≤ (readBack (call.finalLog db)).length)
    (position : (readBack (call.finalLog db))[(readBack (call.finalLog db)).length - call.events.length]? = some row)
    (recorded : Recorded next call.runId event (event.eventId, row.seq)) :
    call.events.length ≤ 2 ∧ ReadsWhole (call.finalLog db) := by
  -- the first event of a call that comes back with its stored number shows that nothing was cut off
  have cut := readBack_isPrefix (call.finalLog db)
  have size : (call.finalLog db).length = (db.log call.runId).length + min 2 call.events.length := by
    simp [finalLog, terminalRows_length, input_events]
  -- The event's own row carries the number after the last stored one.
  have number : row.seq = db.maxSeq call.runId + 1 := by
    obtain ⟨_, stored, member, _, id, _, _, seq⟩ := recorded
    have first : ∃ own ∈ next.runEvents.rows, own.eventId = event.eventId ∧
        own.seq = db.maxSeq call.runId + 1 := by
      refine ⟨event.terminal.row db call.runId call.input.nowMs, ?_, rfl, rfl⟩
      simp [rows, input_events, events, terminalRows, TerminalEvent.row]
    obtain ⟨own, present, ownId, ownSeq⟩ := first
    rw [eventId_unique member present (id.trans ownId.symm)] at seq
    exact seq.symm.trans ownSeq
  have beyond : (db.log call.runId).length ≤ (readBack (call.finalLog db)).length - call.events.length := by
    by_contra early
    have stored : row ∈ db.log call.runId := mem_left_of_prefix cut position (by omega)
    obtain ⟨member, inRun⟩ := mem_eventsOf.mp (mem_log.mp stored)
    have bound := le_maxSeq member
    rw [inRun] at bound
    omega
  have positive : 0 < call.events.length := by simp [events]
  have bound := cut.length_le
  refine ⟨by omega, (readBack_eq_self_iff _).mp (cut.eq_of_length (by omega))⟩

theorem recorded_of_whole
    (rows : next.runEvents.rows = db.runEvents.rows ++
      terminalRows call.runId call.input.nowMs (db.maxSeq call.runId) call.input.events)
    (short : call.events.length ≤ 2) (whole : ReadsWhole (call.finalLog db)) :
    List.Forall₂ (Recorded next call.runId) call.events
      ((call.events.zip ((readBack (call.finalLog db)).drop
        ((readBack (call.finalLog db)).length - call.events.length))).map
          fun pair => (pair.1.eventId, pair.2.seq)) := by
  have all : call.input.events = call.events.map GatewayEvent.terminal := by
    rw [input_events, take_of_length_le short]
  have tail : (readBack (call.finalLog db)).drop ((readBack (call.finalLog db)).length - call.events.length) =
      terminalRows call.runId call.input.nowMs (db.maxSeq call.runId) call.input.events := by
    rw [(readBack_eq_self_iff _).mpr whole, finalLog, length_append, terminalRows_length, all,
      length_map, Nat.add_sub_cancel, drop_left]
  have pairs := forall₂_terminalRows call.runId call.input.nowMs (db.maxSeq call.runId) call.events
  rw [← all] at pairs
  rw [tail]
  refine forall₂_zip_map pairs _ ?_
  rintro event row ⟨member, run, id, type, payload⟩
  exact ⟨rfl, row, by simp [rows, member], run, id, type, payload, rfl⟩

theorem sound_of_error (error : TerminalCommitError) (outcome : terminalCommit host db call = (db, .error error)) :
    call.Sound host db := by
  refine ⟨fun _ => ?_, fun seqs ok => ?_⟩
  · rw [outcome]
    exact ⟨⟨rfl, rfl, rfl, rfl, rfl⟩, error, rfl⟩
  · rw [outcome] at ok
    cases ok

theorem recorded_iff
    (rows : next.runEvents.rows = db.runEvents.rows ++
      terminalRows call.runId call.input.nowMs (db.maxSeq call.runId) call.input.events)
    (readable : ¬ Unreadable call.events (readBack (call.finalLog db))) :
    List.Forall₂ (Recorded next call.runId) call.events
        ((call.events.zip ((readBack (call.finalLog db)).drop
          ((readBack (call.finalLog db)).length - call.events.length))).map
            fun pair => (pair.1.eventId, pair.2.seq)) ↔
      call.events = [] ∨ (call.events.length ≤ 2 ∧ ReadsWhole (call.finalLog db)) := by
  -- all the returned numbers are stored ones exactly when nothing was to number or nothing was cut off
  have enough : call.events.length ≤ (readBack (call.finalLog db)).length := by
    by_contra few
    exact readable (.inl (by omega))
  constructor
  · intro numbered
    cases events : call.events with
    | nil => exact .inl rfl
    | cons event rest =>
      right
      rw [← events]
      cases shown : (readBack (call.finalLog db)).drop
          ((readBack (call.finalLog db)).length - call.events.length) with
      | nil =>
        have short := congrArg length shown
        rw [length_drop, length_nil] at short
        have positive : 0 < call.events.length := by simp [events]
        omega
      | cons row tail =>
        rw [shown, events, zip_cons_cons, map_cons, forall₂_cons] at numbered
        refine whole_of_first events rows enough ?_ numbered.1
        have first := congrArg (fun list => list[0]?) shown
        simpa using first
  · rintro (none | ⟨short, whole⟩)
    · rw [none]
      exact List.Forall₂.nil
    · exact recorded_of_whole rows short whole

theorem sound_running_iff (parsed : RunStatus.ofText? call.toStatus = some target)
    (passed : ¬ RunTerminalInput.Refused host db call.input) (running : db.runIs call.runId .running) :
    call.Sound host db ↔ call.RunningReadable db target := by
  obtain ⟨row, member, same, active⟩ := runIs_iff.mp running
  have text : RunStatus.ofText? call.input.toStatus = some target := parsed
  obtain ⟨next, outcome, rows⟩ := storageRunTerminal_running text passed member same active
  have only : (∀ other ∈ db.runs.rows, other.id = call.runId →
      ((call.input.assign target).apply other).fits = false) ↔
        ((call.input.assign target).apply row).fits = false := by
    refine ⟨fun all => all row member same, fun large other present id => ?_⟩
    rw [run_unique present member (id.trans same.symm)]
    exact large
  simp only [Sound, running, Bool.true_eq_false, false_implies, true_and, RunningReadable, only]
  cases fits : ((call.input.assign target).apply row).fits with
  | false =>
    rw [fits, if_neg (by simp)] at outcome
    simp [terminalCommit, outcome]
  | true =>
    rw [fits, if_pos rfl] at outcome
    have reply : terminalCommit host db call = (next, assignSeqs call.events (readBack (call.finalLog db))) := by
      simp only [terminalCommit, outcome, finalLog]
      rfl
    rcases assignSeqs_cases call.events (readBack (call.finalLog db)) with ⟨readable, ok⟩ | ⟨unreadable, error, failed⟩
    · rw [reply, ok]
      simp only [Bool.true_eq_false, readable, false_or, Except.ok.injEq, forall_eq']
      exact recorded_iff rows readable
    · simp [reply, failed, unreadable]

theorem idleReply_of_other (other : db.runIs call.runId target = false) :
    ∃ error, call.input.idleReply target db = .error error := by
  unfold idleReply
  cases found : (db.runs.rows.find? (fun row => row.id == call.input.runId)).filter RunRow.fits with
  | none => exact ⟨_, rfl⟩
  | some row =>
    obtain ⟨present, _⟩ := Option.filter_eq_some_iff.mp found
    have same : row.id = call.input.runId := by simpa using find?_some present
    have distinct := runIs_false.mp other row (mem_of_find?_eq_some present) same
    exact ⟨_, if_neg distinct⟩

theorem sound_idle_iff (parsed : RunStatus.ofText? call.toStatus = some target)
    (passed : ¬ RunTerminalInput.Refused host db call.input) (idle : db.runIs call.runId .running = false) :
    call.Sound host db ↔ call.IdleRefused db target := by
  obtain ⟨next, outcome, unnamed, named⟩ := storageRunTerminal_idle parsed passed idle
  by_cases message : call.input.messageId = ""
  · have result := unnamed message
    cases held : db.runIs call.runId target with
    | false =>
      have untouched : next = db := by
        rw [result]
        exact if_neg (by simp only [Bool.not_eq_true]; exact held)
      obtain ⟨error, failed⟩ : ∃ error, call.input.idleReply target db = .error error := idleReply_of_other held
      refine iff_of_true (sound_of_error (.storage error) ?_) ⟨message, .inl held⟩
      rw [untouched, failed] at outcome
      simp only [terminalCommit, outcome]
    | true =>
      have upserted : next = db.upsertRetention call.runId call.input.nowMs := by
        rw [result]
        exact if_pos held
      have frame : SameTables next db ↔ db.RetentionCurrent call.runId call.input.nowMs := by
        rw [upserted, ← upsertRetention_eq_self]
        exact ⟨fun same => same.runRetention, fun same => ⟨by simp, by simp, by simp, by simp, same⟩⟩
      obtain ⟨row, member, same, settled⟩ := runIs_iff.mp held
      have only : (∀ other ∈ db.runs.rows, other.id = call.runId → other.fits = false) ↔ row.fits = false := by
        refine ⟨fun all => all row member same, fun large other present id => ?_⟩
        rw [run_unique present member (id.trans same.symm)]
        exact large
      have found : db.runs.rows.find? (fun other => other.id == call.input.runId) = some row := by
        rw [← find_run member, same]
        rfl
      have reply : (terminalCommit host db call).1 = next ∧
          ((∃ error, (terminalCommit host db call).2 = .error error) ↔
            row.fits = false ∨ Unreadable call.events (readBack (db.log call.runId))) := by
        unfold idleReply at outcome
        rw [found] at outcome
        cases fits : row.fits with
        | false =>
          simp only [Option.filter, fits, Bool.false_eq_true, if_false] at outcome
          simp [terminalCommit, outcome]
        | true =>
          simp only [Option.filter, fits, if_true, settled] at outcome
          rcases assignSeqs_cases call.events (readBack (db.log call.runId)) with
            ⟨readable, ok⟩ | ⟨unreadable, error, failed⟩
          · have text : call.input.runId = call.runId := rfl
            simp [terminalCommit, outcome, readable, ok, text]
          · have text : call.input.runId = call.runId := rfl
            simp [terminalCommit, outcome, unreadable, failed, text]
      simp only [Sound, idle, true_implies, IdleRefused, message, held, Bool.true_eq_false, false_or,
        true_and, only, reply.1, reply.2, frame]
      refine ⟨fun sound => sound.1, fun refused => ⟨refused, fun seqs ok => ?_⟩⟩
      obtain ⟨error, failed⟩ := reply.2.mpr refused.2
      rw [ok] at failed
      cases failed
  · have changed : next.messages ≠ db.messages := by
      intro same
      have rows := named message
      rw [same] at rows
      simp at rows
    refine iff_of_false (fun sound => changed ?_) fun refused => message refused.1
    have same := (sound.1 idle).1.messages
    rw [terminalCommit, outcome] at same
    cases reply : call.input.idleReply target db <;> rw [reply] at same <;> exact same

theorem terminal_commit_sound_iff (host : Host) (db : Database) (call : TerminalCall) : call.Sound host db ↔
      RunStatus.ofText? call.toStatus = none ∨
        RunTerminalInput.Refused host db call.input ∨
        ∃ target, RunStatus.ofText? call.toStatus = some target ∧
          (if db.runIs call.runId .running then call.RunningReadable db target else call.IdleRefused db target) := by
  cases parsed : RunStatus.ofText? call.toStatus with
  | none =>
    refine iff_of_true (sound_of_error (.storage .assertionFailed) ?_) (.inl rfl)
    have text : call.input.toStatus = call.toStatus := rfl
    simp [terminalCommit, storageRunTerminal, text, parsed]
  | some target =>
    by_cases refused : RunTerminalInput.Refused host db call.input
    · obtain ⟨error, failed⟩ := RunTerminalInput.storageRunTerminal_refused refused
      exact iff_of_true (sound_of_error (.storage error) (by simp [terminalCommit, failed]))
        (.inr (.inl refused))
    · simp only [reduceCtorEq, refused, false_or, Option.some.injEq, exists_eq_left']
      cases running : db.runIs call.runId .running with
      | true => simpa using sound_running_iff parsed refused running
      | false => simpa using sound_idle_iff parsed refused running

def cancelledRun : Database :=
  { Database.empty with
    sessions := Table.empty.insertOrIgnore
      { id := "s", profile := "default", platform := "api", accountId := "s", chatId := "",
        createdAtMs := 0, updatedAtMs := 0 }
    runs := Table.empty.insertOrIgnore
      { id := "r", sessionId := "s", status := .cancelled, createdAtMs := 0, updatedAtMs := 5 }
    runEvents := Table.empty.insertOrIgnore
      { runId := "r", seq := 1, eventId := "e1", eventType := .runCancelled, payload := .obj [],
        createdAtMs := 5 } }

def lateCompletion : TerminalCall where
  runId := "r"
  sessionId := "s"
  toStatus := "completed"
  events := [{ eventId := "e2", seq := 2, event := .runCompleted, runId := "r", timestamp := 9, data := .obj [] }]
  assistantMessage := some
    { id := "m", sessionId := "s", role := "assistant", content := .arr [], createdAt := 9, runId := some "r" }
  clock := 9

theorem terminal_commit_writes_behind_conflict : ¬ lateCompletion.Sound Host.reference cancelledRun := by
  -- the aggregate insert has stored the assistant message all the same
  intro sound
  have same := (sound.1 (by decide)).1.messages
  have stored : (terminalCommit Host.reference cancelledRun lateCompletion).1.messages.rows.length = 1 := by decide
  rw [same] at stored
  revert stored
  decide

end TerminalCall

end RustScriptAgent.Gateway
