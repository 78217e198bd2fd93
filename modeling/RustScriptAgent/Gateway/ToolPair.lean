import RustScriptAgent.Capabilities.Lifecycle
import RustScriptAgent.Gateway.DurableIds
import RustScriptAgent.Storage.Effects

namespace RustScriptAgent.Storage

open Database EventFields

namespace Database

def placed (db : Database) (eventId : String) : List (String × EventType × Int) :=
  (db.runEvents.rows.filter fun row => row.eventId == eventId).map fun row => (row.runId, row.eventType, row.seq)

theorem mem_placed {db : Database} {eventId : String} {place : String × EventType × Int} :
    place ∈ db.placed eventId ↔
      ∃ row ∈ db.runEvents.rows, row.eventId = eventId ∧ (row.runId, row.eventType, row.seq) = place := by
  simp [placed, and_assoc]

theorem placed_eq_nil {db : Database} {eventId : String} : db.placed eventId = [] ↔ db.hasEventId eventId = false := by
  simp [placed, hasEventId_false]

theorem placed_eq_singleton {db : Database} {eventId : String} {place : String × EventType × Int} :
    db.placed eventId = [place] ↔ place ∈ db.placed eventId := by
  constructor
  · intro single
    rw [single]
    exact List.mem_singleton_self place
  · intro member
    have few : (db.placed eventId).length ≤ 1 := by
      have once := List.nodup_iff_count_le_one.mp db.eventIds_nodup eventId
      rwa [List.count, List.countP_map, List.countP_eq_length_filter,
        ← List.length_map (fun row : EventRow => (row.runId, row.eventType, row.seq))] at once
    match places : db.placed eventId, few with
    | [], _ => simp [places] at member
    | [only], _ =>
      rw [places, List.mem_singleton] at member
      rw [member]

theorem placed_settle {db : Database} {run eventId : String} {limit : Nat} {now seq : Int} {type : EventType} :
    (db.settle run limit now).placed eventId = [(run, type, seq)] ↔
      db.placed eventId = [(run, type, seq)] ∧ db.newerThan run seq < limit := by
  simp only [placed_eq_singleton, mem_placed, settle_runEvents, mem_pruneEvents, Prod.mk.injEq]
  constructor
  · rintro ⟨row, ⟨member, kept⟩, id, own, kind, number⟩
    exact ⟨⟨row, member, id, own, kind, number⟩, number ▸ kept own⟩
  · rintro ⟨⟨row, member, id, own, kind, number⟩, few⟩
    exact ⟨row, ⟨member, fun _ => number ▸ few⟩, id, own, kind, number⟩

end Database

def EventFields.place (fields : EventFields) (run : String) : String × EventType × Int :=
  (run, fields.eventType, fields.seq)

def EventFields.Seated (fields : EventFields) (db : Database) (run : String) : Prop :=
  db.placed fields.eventId = [] ∨ db.placed fields.eventId = [fields.place run]

section Insert

variable {db inserted : Database} {run : String} {fields : EventFields} {now : Int}

theorem insertNewEvent_placed (reserved : 0 < fields.seq) (ok : insertNewEvent db run fields now = .ok inserted) :
    inserted.placed fields.eventId = [fields.place run] ↔ fields.Seated db run := by
  rcases insertNewEvent_eq_ok.mp ok with ⟨known, rfl⟩ | ⟨unknown, _, rows, _⟩
  · refine (or_iff_right ?_).symm
    rw [placed_eq_nil, known]
    simp
  · refine iff_of_true ?_ (.inl (placed_eq_nil.mpr unknown))
    rw [placed_eq_singleton, mem_placed, rows]
    refine ⟨fields.row db run now, by simp, rfl, ?_⟩
    simp [place, row, reservedOr, reserved]

theorem insertNewEvent_placed_other (ok : insertNewEvent db run fields now = .ok inserted) {eventId : String}
    (other : eventId ≠ fields.eventId) : inserted.placed eventId = db.placed eventId := by
  rcases insertNewEvent_eq_ok.mp ok with ⟨_, rfl⟩ | ⟨_, _, rows, _⟩
  · rfl
  · simp [placed, rows, List.filter_append, Ne.symm other]

theorem insertNewEvent_newerThan (reserved : 0 < fields.seq)
    (ok : insertNewEvent db run fields now = .ok inserted) (seq : Int) :
    inserted.newerThan run seq =
      db.newerThan run seq + if db.hasEventId fields.eventId = false ∧ seq < fields.seq then 1 else 0 := by
  rcases insertNewEvent_eq_ok.mp ok with ⟨known, rfl⟩ | ⟨unknown, _, rows, _⟩
  · simp [known]
  · rw [StepCommitInput.newerThan_insert rows]
    simp [unknown, row, reservedOr, reserved]

end Insert

section Commands

variable {host : Host} {db : Database}

theorem storageEventAppend_placed {input : EventAppendInput} (reserved : 0 < input.event.seq)
    (done : (storageEventAppend host db input).2 = .ok ()) :
    (storageEventAppend host db input).1.placed input.event.eventId = [input.event.place input.runId] ↔
      input.event.Seated db input.runId ∧
        db.newerThan input.runId input.event.seq < maxEventsLimit input.maxEvents := by
  rcases storageEventAppend_written host db input with ⟨_, refused⟩ | ⟨_, inserted, ok, outcome⟩
  · rw [done] at refused
    cases refused
  rw [outcome, place, placed_settle, ← place, insertNewEvent_placed reserved ok,
    insertNewEvent_newerThan reserved ok]
  simp

theorem storageEventAppend_placed_other {input : EventAppendInput} (reserved : 0 < input.event.seq)
    (done : (storageEventAppend host db input).2 = .ok ()) {eventId : String} (other : eventId ≠ input.event.eventId)
    (type : EventType) (seq : Int) :
    (storageEventAppend host db input).1.placed eventId = [(input.runId, type, seq)] ↔
      db.placed eventId = [(input.runId, type, seq)] ∧
        db.newerThan input.runId seq +
            (if db.hasEventId input.event.eventId = false ∧ seq < input.event.seq then 1 else 0) <
          maxEventsLimit input.maxEvents := by
  rcases storageEventAppend_written host db input with ⟨_, refused⟩ | ⟨_, inserted, ok, outcome⟩
  · rw [done] at refused
    cases refused
  rw [outcome, placed_settle, insertNewEvent_placed_other ok other, insertNewEvent_newerThan reserved ok]

theorem storageEventAppendPair_placed {input : EventAppendPairInput} (reserved : 0 < input.first.seq)
    (follows : input.second.seq = input.first.seq + 1) (apart : input.first.eventId ≠ input.second.eventId)
    (done : (storageEventAppendPair host db input).2 = .ok ()) :
    ((storageEventAppendPair host db input).1.placed input.first.eventId = [input.first.place input.runId] ∧
        (storageEventAppendPair host db input).1.placed input.second.eventId = [input.second.place input.runId]) ↔
      input.first.Seated db input.runId ∧ input.second.Seated db input.runId ∧
        db.newerThan input.runId input.first.seq + (if db.hasEventId input.second.eventId then 0 else 1) <
          maxEventsLimit input.maxEvents := by
  -- a pair that succeeds leaves both events in place exactly when both were seated and few rows are newer
  rcases storageEventAppendPair_written host db input with ⟨_, refused⟩ | ⟨_, _, once, twice, ok, again, outcome⟩
  · rw [done] at refused
    cases refused
  have behind : 0 < input.second.seq := by omega
  have known : once.placed input.second.eventId = db.placed input.second.eventId :=
    insertNewEvent_placed_other ok (Ne.symm apart)
  have seated : input.second.Seated once input.runId ↔ input.second.Seated db input.runId := by
    rw [EventFields.Seated, EventFields.Seated, known]
  have listed : once.hasEventId input.second.eventId = db.hasEventId input.second.eventId := by
    have absent : once.hasEventId input.second.eventId = false ↔ db.hasEventId input.second.eventId = false := by
      rw [← placed_eq_nil, ← placed_eq_nil, known]
    cases before : db.hasEventId input.second.eventId with
    | false => exact absent.mpr before
    | true => simpa [before] using absent
  have count : twice.newerThan input.runId input.first.seq =
      db.newerThan input.runId input.first.seq + if db.hasEventId input.second.eventId then 0 else 1 := by
    rw [insertNewEvent_newerThan behind again, insertNewEvent_newerThan reserved ok, listed, follows]
    cases db.hasEventId input.second.eventId <;> simp
  have later := twice.newerThan_antitone input.runId (show input.first.seq ≤ input.second.seq by omega)
  rw [outcome, place, place, placed_settle, placed_settle,
    ← place, ← place, insertNewEvent_placed behind again,
    insertNewEvent_placed_other again apart, insertNewEvent_placed reserved ok, seated, ← count]
  constructor
  · rintro ⟨⟨first, few⟩, second, _⟩
    exact ⟨first, second, few⟩
  · rintro ⟨first, second, few⟩
    exact ⟨⟨first, few⟩, second, later.trans_lt few⟩

end Commands

end RustScriptAgent.Storage

namespace RustScriptAgent.Gateway

open Storage Capabilities GatewayEvent Reserved List

def startedData (record : DurableStarted) : Json :=
  .obj [("argument_digest", .str record.argumentDigest), ("generation", .int record.generation),
    ("name", .str record.toolName), ("registry_identity", .str record.registryIdentity),
    ("risk_class", .str record.riskClass.asStr), ("tool_call_id", .str record.callId)]

def requestedHalf (record : DurableStarted) : ToolStep where
  event := .requested
  data := startedData record
  result := none

def startedHalf (record : DurableStarted) : ToolStep where
  event := .started
  data := startedData record
  result := none

section Started

-- the text of a failed storage call, which the error of the commit carries
variable (describe : CommitFailure → String)

def commitStarted (service : Service) (db : Database) (store : GatewayStore) (runId : String)
    (record : DurableStarted) (handle : HandleView) (draws : Draws) (outcome : StorageOutcome) :
    (Database × GatewayStore) × Except EventCommitError Unit :=
  match commitPair service store runId (requestedHalf record) (startedHalf record) handle draws with
  | .error error => ((db, store), .error error)
  | .ok none => ((db, store), .ok ())
  | .ok (some reserved) =>
    match reserved.persist service.host db outcome with
    | (next, .ok seqs) => ((next, (reserved.apply service store seqs).1), .ok ())
    | (next, .error failure) => ((next, store), .error (.persistFailed (describe failure)))

end Started

def placedIn (events : List GatewayEvent) (eventId : String) : List (EventType × Int) :=
  (events.filter fun event => event.eventId == eventId).map fun event => (event.event, event.seq)

def PairRecorded (db : Database) (run : RunRecord) (runId requested started : String) : Prop :=
  ∃ early late, early < late ∧
    db.placed requested = [(runId, .toolRequested, early)] ∧ db.placed started = [(runId, .toolStarted, late)] ∧
    placedIn run.events requested = [(.toolRequested, early)] ∧ placedIn run.events started = [(.toolStarted, late)]

def remaining (limit : Nat) (events : List GatewayEvent) : List GatewayEvent :=
  events.drop (events.length + 1 - limit)

def PairReady (service : Service) (db : Database) (run : RunRecord) (runId requested started : String) : Prop :=
  let next := nextSeq run.events
  let limit := maxEventsLimit service.maxEventsPerRun
  let kept := remaining service.maxEventsPerRun run.events
  let seated (eventId : String) (type : EventType) (seq : Int) :=
    db.placed eventId = [] ∨ db.placed eventId = [(runId, type, seq)]
  let added (eventId : String) := if db.hasEventId eventId then 0 else 1
  match run.hasEvent requested, run.hasEvent started with
  | true, true => PairRecorded db run runId requested started
  | true, false =>
    -- the start joins a request that neither prune takes away
    ∃ early < next, placedIn kept requested = [(.toolRequested, early)] ∧
      db.placed requested = [(runId, .toolRequested, early)] ∧ seated started .toolStarted next ∧
      db.newerThan runId early + added started < limit
  | false, true =>
    -- the request joins behind the start, so only a log that is out of order can have it first
    ∃ late, next < late ∧ placedIn kept started = [(.toolStarted, late)] ∧
      db.placed started = [(runId, .toolStarted, late)] ∧ seated requested .toolRequested next ∧
      db.newerThan runId next < limit
  | false, false =>
    requested ≠ started ∧ 2 ≤ service.maxEventsPerRun ∧ seated requested .toolRequested next ∧
      seated started .toolStarted (next + 1) ∧ db.newerThan runId next + added started < limit

section Memory

variable {events : List GatewayEvent} {event : GatewayEvent} {eventId : String} {limit : Nat} {run : RunRecord}

theorem placedIn_append (events later : List GatewayEvent) (eventId : String) :
    placedIn (events ++ later) eventId = placedIn events eventId ++ placedIn later eventId := by
  simp [placedIn]

theorem placedIn_eq_nil : placedIn events eventId = [] ↔ ∀ event ∈ events, event.eventId ≠ eventId := by
  simp [placedIn]

theorem placedIn_of_absent (absent : run.hasEvent eventId = false) (events : List GatewayEvent)
    (within : ∀ event ∈ events, event ∈ run.events) : placedIn events eventId = [] := by
  refine placedIn_eq_nil.mpr fun event member same => ?_
  rw [Bool.eq_false_iff, ne_eq, hasEvent_iff] at absent
  exact absent ⟨event, within event member, same⟩

theorem placedIn_single (event : GatewayEvent) : placedIn [event] event.eventId = [(event.event, event.seq)] := by
  simp [placedIn]

theorem placedIn_single_other (other : event.eventId ≠ eventId) : placedIn [event] eventId = [] := by
  simp [placedIn, other]

theorem mem_of_mem_remaining (member : event ∈ remaining limit events) : event ∈ events := mem_of_mem_drop member

theorem applyEventLocked_remaining (fresh : run.hasEvent event.eventId = false) (room : 0 < limit) :
    (applyEventLocked limit run event).events = remaining limit run.events ++ [event] := by
  rw [applyEventLocked_events fresh, remaining, drop_append_of_le_length]
  · simp
  · rw [length_append, length_singleton]
    omega

theorem applyEventLocked_no_room (fresh : run.hasEvent event.eventId = false) :
    (applyEventLocked 0 run event).events = [] := by
  rw [applyEventLocked_events fresh]
  exact drop_eq_nil_of_le (by simp)

theorem remaining_no_room (events : List GatewayEvent) : remaining 0 events = [] := drop_eq_nil_of_le (by simp)

theorem room_of_placedIn {place : EventType × Int} (kept : placedIn (remaining limit events) eventId = [place]) :
    0 < limit := by
  rcases Nat.eq_zero_or_pos limit with rfl | room
  · rw [remaining_no_room] at kept
    cases kept
  · exact room

theorem remaining_length (room : 0 < limit) (events : List GatewayEvent) : (remaining limit events).length < limit := by
  rw [remaining, length_drop]
  omega

theorem remaining_append (room : 2 ≤ limit) (events : List GatewayEvent) (event : GatewayEvent) :
    ∃ earlier, remaining limit (events ++ [event]) = earlier ++ [event] ∧ ∀ other ∈ earlier, other ∈ events := by
  refine ⟨events.drop (events.length + 2 - limit), ?_, fun other member => mem_of_mem_drop member⟩
  rw [remaining, length_append, length_singleton, drop_append_of_le_length (by omega)]

theorem placedIn_apply_other (fresh : run.hasEvent event.eventId = false) (other : event.eventId ≠ eventId)
    (limit : Nat) :
    placedIn (applyEventLocked limit run event).events eventId = placedIn (remaining limit run.events) eventId := by
  rcases Nat.eq_zero_or_pos limit with rfl | room
  · rw [applyEventLocked_no_room fresh, remaining_no_room]
  · rw [applyEventLocked_remaining fresh room, placedIn_append, placedIn_single_other other, append_nil]

theorem placedIn_apply_own (fresh : run.hasEvent event.eventId = false) (room : 0 < limit) :
    placedIn (applyEventLocked limit run event).events event.eventId = [(event.event, event.seq)] := by
  rw [applyEventLocked_remaining fresh room, placedIn_append, placedIn_single,
    placedIn_of_absent fresh _ fun _ => mem_of_mem_remaining, nil_append]

end Memory

section Pair

variable {run : RunRecord} {first second : GatewayEvent} {limit : Nat}

theorem hasEvent_apply_other (limit : Nat) {eventId : String} (absent : run.hasEvent eventId = false)
    (apart : first.eventId ≠ eventId) : (applyEventLocked limit run first).hasEvent eventId = false := by
  rw [Bool.eq_false_iff, ne_eq, hasEvent_iff] at absent ⊢
  rintro ⟨event, member, same⟩
  rcases mem_applyEventLocked member with old | rfl
  · exact absent ⟨event, old, same⟩
  · exact apart same

theorem placedIn_apply_pair (one : run.hasEvent first.eventId = false) (two : run.hasEvent second.eventId = false)
    (apart : first.eventId ≠ second.eventId) (room : 2 ≤ limit) :
    placedIn (applyEventLocked limit (applyEventLocked limit run first) second).events first.eventId =
        [(first.event, first.seq)] ∧
      placedIn (applyEventLocked limit (applyEventLocked limit run first) second).events second.eventId =
        [(second.event, second.seq)] := by
  have fresh := hasEvent_apply_other limit two apart
  refine ⟨?_, placedIn_apply_own fresh (by omega)⟩
  rw [placedIn_apply_other fresh (Ne.symm apart), applyEventLocked_remaining one (by omega)]
  obtain ⟨earlier, log, within⟩ := remaining_append room (remaining limit run.events) first
  rw [log, placedIn_append, placedIn_single,
    placedIn_of_absent one earlier fun event member => mem_of_mem_remaining (within event member), nil_append]

theorem placedIn_apply_pair_short (two : run.hasEvent second.eventId = false)
    (apart : first.eventId ≠ second.eventId) (short : limit < 2) :
    placedIn (applyEventLocked limit (applyEventLocked limit run first) second).events first.eventId = [] := by
  have fresh := hasEvent_apply_other limit two apart
  rw [placedIn_apply_other fresh (Ne.symm apart)]
  rcases Nat.eq_zero_or_pos limit with rfl | room
  · rw [remaining_no_room]
    rfl
  · have none : remaining limit (applyEventLocked limit run first).events = [] :=
      length_eq_zero_iff.mp (by have := remaining_length room (applyEventLocked limit run first).events; omega)
    rw [none]
    rfl

end Pair

def wholePair (service : Service) (run : RunRecord) (runId : String) (first second : ToolStep) (draws : Draws) :
    Reserved :=
  let one := (eventCandidate service run (draws.ids 0) (draws.clock 0) first.event.type first.data).withId
    (first.eventId runId)
  let two := (eventCandidate service run (draws.ids 1) (draws.clock 1) second.event.type second.data).withId
    (second.eventId runId)
  let later := { two with seq := one.seq + 1 }
  .pair one later
    { runId := runId
      first := one.fields
      second := later.fields
      nowMs := draws.clock 2
      maxEvents := service.maxEventsPerRun
      failpoint := .none }

theorem commitPair_cases {service : Service} {store : GatewayStore} {runId : String} {first second : ToolStep}
    {handle : HandleView} {draws : Draws} {choice : Option Reserved} (firstNamed : first.toolCallId ≠ "")
    (secondNamed : second.toolCallId ≠ "")
    (ok : commitPair service store runId first second handle draws = .ok choice) :
    ∃ run, store.runs runId = some run ∧
      match run.hasEvent (first.eventId runId), run.hasEvent (second.eventId runId) with
      | true, true => choice = none
      | false, true => choice = some (commitHalf service run runId first draws)
      | true, false => choice = some (commitHalf service run runId second draws)
      | false, false => choice = some (wholePair service run runId first second draws) := by
  have one : (first.eventId runId != "") := bne_iff_ne.mpr (ToolStep.eventId_ne_empty runId firstNamed)
  have two : (second.eventId runId != "") := bne_iff_ne.mpr (ToolStep.eventId_ne_empty runId secondNamed)
  unfold commitPair at ok
  split_ifs at ok with closed
  cases found : store.runs runId with
  | none => simp [found] at ok
  | some run =>
    simp only [found, one, two, Bool.true_and] at ok
    split_ifs at ok with ended
    refine ⟨run, rfl, ?_⟩
    cases former : run.hasEvent (first.eventId runId) <;> cases latter : run.hasEvent (second.eventId runId) <;>
      simp only [former, latter, Except.ok.injEq] at ok
    all_goals exact ok.symm

theorem commitStarted_ok {describe : CommitFailure → String} {service : Service} {db : Database}
    {store : GatewayStore} {runId : String} {record : DurableStarted} {handle : HandleView} {draws : Draws}
    {outcome : StorageOutcome}
    (ok : (commitStarted describe service db store runId record handle draws outcome).2 = .ok ()) :
    ∃ choice, commitPair service store runId (requestedHalf record) (startedHalf record) handle draws = .ok choice ∧
      match choice with
      | none => (commitStarted describe service db store runId record handle draws outcome).1 = (db, store)
      | some reserved => ∃ seqs, (reserved.execute service.host db).2 = .ok seqs ∧
          (commitStarted describe service db store runId record handle draws outcome).1 =
            ((reserved.execute service.host db).1, (reserved.apply service store seqs).1) := by
  unfold commitStarted at ok ⊢
  cases reserve : commitPair service store runId (requestedHalf record) (startedHalf record) handle draws with
  | error error => simp [reserve] at ok
  | ok choice =>
    refine ⟨choice, rfl, ?_⟩
    cases choice with
    | none => rfl
    | some reserved =>
      simp only [reserve] at ok ⊢
      cases outcome with
      | lost => simp [persist] at ok
      | unacknowledged => simp [persist] at ok
      | answered =>
        rcases answered : reserved.execute service.host db with ⟨next, reply⟩
        cases reply with
        | error failure => simp [persist, answered] at ok
        | ok seqs => exact ⟨seqs, rfl, by simp [persist, answered]⟩

theorem commitStarted_error {describe : CommitFailure → String} {service : Service} {db : Database}
    {store : GatewayStore} {runId : String} {record : DurableStarted} {handle : HandleView} {draws : Draws}
    {outcome : StorageOutcome} {error : EventCommitError}
    (failed : (commitStarted describe service db store runId record handle draws outcome).2 = .error error) :
    (commitStarted describe service db store runId record handle draws outcome).1.2 = store := by
  unfold commitStarted at failed ⊢
  split
  · rfl
  · rfl
  · rename_i reserved reserve
    simp only [reserve] at failed ⊢
    split at failed
    · cases failed
    · simp

theorem nextSeq_pos {events : List GatewayEvent} (unsigned : ∀ event ∈ events, 0 ≤ event.seq) : 0 < nextSeq events := by
  unfold nextSeq
  cases last : events.getLast? with
  | none => decide
  | some event =>
    have := unsigned event (mem_of_getLast? last)
    simpa using by omega

section Recorded

variable {service : Service} {db : Database} {store : GatewayStore} {runId : String} {run : RunRecord} {draws : Draws}
  {seqs : List (String × Int)}

def halfEvent (service : Service) (run : RunRecord) (runId : String) (half : ToolStep) (fresh : String) (now : Int) :
    GatewayEvent :=
  (eventCandidate service run fresh now half.event.type half.data).withId (half.eventId runId)

theorem halfEvent_eventId {half : ToolStep} (named : half.toolCallId ≠ "") (fresh : String) (now : Int) :
    (halfEvent service run runId half fresh now).eventId = half.eventId runId := by
  rw [halfEvent, withId, if_neg (ToolStep.eventId_ne_empty runId named)]

@[simp] theorem halfEvent_seq (half : ToolStep) (fresh : String) (now : Int) :
    (halfEvent service run runId half fresh now).seq = nextSeq run.events := by
  unfold halfEvent withId
  split_ifs <;> rfl

@[simp] theorem halfEvent_event (half : ToolStep) (fresh : String) (now : Int) :
    (halfEvent service run runId half fresh now).event = half.event.type := by
  unfold halfEvent withId
  split_ifs <;> rfl

@[simp] theorem halfEvent_runId (half : ToolStep) (fresh : String) (now : Int) :
    (halfEvent service run runId half fresh now).runId = run.runId := by
  unfold halfEvent withId
  split_ifs <;> rfl

structure HalfPlaces (service : Service) (db after : Database) (run later : RunRecord) (runId : String)
    (half : ToolStep) : Prop where
  own : 0 < service.maxEventsPerRun →
    placedIn later.events (half.eventId runId) = [(half.event.type, nextSeq run.events)]
  other : ∀ eventId ≠ half.eventId runId,
    placedIn later.events eventId = placedIn (remaining service.maxEventsPerRun run.events) eventId
  row : after.placed (half.eventId runId) = [(runId, half.event.type, nextSeq run.events)] ↔
    (db.placed (half.eventId runId) = [] ∨
        db.placed (half.eventId runId) = [(runId, half.event.type, nextSeq run.events)]) ∧
      db.newerThan runId (nextSeq run.events) < maxEventsLimit service.maxEventsPerRun
  rows : ∀ eventId ≠ half.eventId runId, ∀ type seq,
    after.placed eventId = [(runId, type, seq)] ↔
      db.placed eventId = [(runId, type, seq)] ∧
        db.newerThan runId seq +
            (if db.hasEventId (half.eventId runId) = false ∧ seq < nextSeq run.events then 1 else 0) <
          maxEventsLimit service.maxEventsPerRun

theorem commitHalf_places (found : store.runs runId = some run) {half : ToolStep} (named : half.toolCallId ≠ "")
    (absent : run.hasEvent (half.eventId runId) = false) (reserved : 0 < nextSeq run.events)
    (done : ((commitHalf service run runId half draws).execute service.host db).2 = .ok seqs) :
    ∃ later, ((commitHalf service run runId half draws).apply service store seqs).1.runs runId = some later ∧
      HalfPlaces service db ((commitHalf service run runId half draws).execute service.host db).1 run later runId
        half := by
  set event := halfEvent service run runId half (draws.ids 0) (draws.clock 0) with made
  have id : event.eventId = half.eventId runId := halfEvent_eventId named _ _
  have reservation : commitHalf service run runId half draws =
      .commit event none (.eventAppend (appendPayload service runId event (draws.clock 1))) := rfl
  rw [reservation] at done ⊢
  have own : event.runId = runId := by rw [made, halfEvent_runId, store.keyed runId run found]
  have seq : event.seq = nextSeq run.events := by rw [made, halfEvent_seq]
  have type : event.event = half.event.type := by rw [made, halfEvent_event]
  have fresh : run.hasEvent event.eventId = false := by rw [id, absent]
  simp only [execute, answer_fst] at done ⊢
  have command := (answer_snd_ok.mp done).1
  refine ⟨applyEventLocked service.maxEventsPerRun run event, ?_, ?_⟩
  · simp [apply, GatewayStore.pushMessage?, GatewayStore.updateRun, own, found, logEvents, applyEvents]
  · refine ⟨fun room => ?_, fun eventId apart => ?_, ?_, fun eventId apart kind number => ?_⟩
    · rw [← id, placedIn_apply_own fresh room, type, seq]
    · exact placedIn_apply_other fresh (by rw [id]; exact Ne.symm apart) _
    · have placed := storageEventAppend_placed (by simpa [appendPayload, fields, seq] using reserved) command
      simpa [appendPayload, fields, EventFields.place, EventFields.Seated, id, seq, type] using placed
    · have placed := storageEventAppend_placed_other
        (by simpa [appendPayload, fields, seq] using reserved) command
        (by simpa [appendPayload, fields, id] using apart) kind number
      simpa [appendPayload, fields, id, seq] using placed

theorem wholePair_recorded (found : store.runs runId = some run) {first second : ToolStep}
    (firstNamed : first.toolCallId ≠ "") (secondNamed : second.toolCallId ≠ "")
    (one : run.hasEvent (first.eventId runId) = false) (two : run.hasEvent (second.eventId runId) = false)
    (requested : first.event = .requested) (started : second.event = .started) (reserved : 0 < nextSeq run.events)
    (done : ((wholePair service run runId first second draws).execute service.host db).2 = .ok seqs) :
    ∃ later, ((wholePair service run runId first second draws).apply service store seqs).1.runs runId = some later ∧
      (PairRecorded ((wholePair service run runId first second draws).execute service.host db).1 later runId
          (first.eventId runId) (second.eventId runId) ↔
        PairReady service db run runId (first.eventId runId) (second.eventId runId)) := by
  -- both halves in one command are recorded exactly when the state was ready for them
  set opening := halfEvent service run runId first (draws.ids 0) (draws.clock 0) with madeOpening
  set start : GatewayEvent :=
    { halfEvent service run runId second (draws.ids 1) (draws.clock 1) with seq := nextSeq run.events + 1 } with
      madeStart
  have idOne : opening.eventId = first.eventId runId := halfEvent_eventId firstNamed _ _
  have idTwo : start.eventId = second.eventId runId := halfEvent_eventId secondNamed _ _
  have own : opening.runId = runId := by rw [madeOpening, halfEvent_runId, store.keyed runId run found]
  have seqOne : opening.seq = nextSeq run.events := by rw [madeOpening, halfEvent_seq]
  have typeOne : opening.event = .toolRequested := by rw [madeOpening, halfEvent_event, requested]; rfl
  have typeTwo : start.event = .toolStarted := by
    rw [madeStart]
    simp only [halfEvent_event, started]
    rfl
  have reservation : wholePair service run runId first second draws = .pair opening start
      { runId := runId, first := opening.fields, second := start.fields, nowMs := draws.clock 2,
        maxEvents := service.maxEventsPerRun, failpoint := .none } := by
    have later : nextSeq run.events + 1 = opening.seq + 1 := by rw [seqOne]
    rw [madeStart, later]
    rfl
  rw [reservation] at done ⊢
  simp only [execute, answer_fst] at done ⊢
  have command := (answer_snd_ok.mp done).1
  refine ⟨applyEventLocked service.maxEventsPerRun (applyEventLocked service.maxEventsPerRun run opening) start, ?_, ?_⟩
  · simp [apply, GatewayStore.updateRun, own, found, logEvents, applyEvents]
  have freshOne : run.hasEvent opening.eventId = false := by rw [idOne, one]
  have freshTwo : run.hasEvent start.eventId = false := by rw [idTwo, two]
  simp only [PairReady, one, two]
  by_cases apart : first.eventId runId = second.eventId runId
  · -- one event cannot be both the request and the start
    refine iff_of_false ?_ fun ready => ready.1 apart
    rintro ⟨early, late, _, _, _, former, latter⟩
    rw [apart, latter] at former
    simp at former
  have named : opening.eventId ≠ start.eventId := by rwa [idOne, idTwo]
  by_cases room : 2 ≤ service.maxEventsPerRun
  · have memory := placedIn_apply_pair freshOne freshTwo named room
    have table := storageEventAppendPair_placed
      (by simpa [fields, seqOne] using reserved) (by simp [fields, seqOne, madeStart])
      (by simpa [fields] using named) command
    generalize (storageEventAppendPair service.host db _).1 = after at table ⊢
    simp only [fields, EventFields.place, EventFields.Seated, idOne, idTwo, seqOne, typeOne, typeTwo]
      at memory table
    have seqTwo : start.seq = nextSeq run.events + 1 := rfl
    rw [seqTwo] at memory table
    constructor
    · rintro ⟨early, late, _, former, latter, requestedAt, startedAt⟩
      rw [memory.1] at requestedAt
      rw [memory.2] at startedAt
      cases requestedAt
      cases startedAt
      exact ⟨apart, room, table.mp ⟨former, latter⟩⟩
    · rintro ⟨_, _, ready⟩
      obtain ⟨former, latter⟩ := table.mpr ready
      exact ⟨_, _, by omega, former, latter, memory.1, memory.2⟩
  · refine iff_of_false ?_ fun ready => room ready.2.1
    rintro ⟨early, late, _, _, _, former, _⟩
    have gone := placedIn_apply_pair_short freshTwo named (Nat.lt_of_not_le room)
    rw [idOne] at gone
    rw [gone] at former
    cases former

theorem requested_recorded {after : Database} {later : RunRecord} {half : ToolStep} {started : String}
    (requested : half.event = .requested) (absent : run.hasEvent (half.eventId runId) = false)
    (present : run.hasEvent started) (places : HalfPlaces service db after run later runId half) :
    PairRecorded after later runId (half.eventId runId) started ↔
      PairReady service db run runId (half.eventId runId) started := by
  have apart : started ≠ half.eventId runId := by
    rintro rfl
    simp [absent] at present
  have own := places.own
  have row := places.row
  rw [requested] at own row
  simp only [PairReady, absent, present]
  constructor
  · rintro ⟨early, late, order, former, latter, requestedAt, startedAt⟩
    rw [places.other started apart] at startedAt
    rw [own (room_of_placedIn startedAt)] at requestedAt
    cases requestedAt
    obtain ⟨seated, few⟩ := row.mp former
    exact ⟨late, order, startedAt, ((places.rows started apart _ _).mp latter).1, seated, few⟩
  · rintro ⟨late, order, startedAt, stored, seated, few⟩
    refine ⟨_, late, order, row.mpr ⟨seated, few⟩, (places.rows started apart _ _).mpr ⟨stored, ?_⟩,
      own (room_of_placedIn startedAt), ?_⟩
    · rw [if_neg (by omega)]
      exact (db.newerThan_antitone runId order.le).trans_lt few
    · rw [places.other started apart, startedAt]

theorem started_recorded {after : Database} {later : RunRecord} {half : ToolStep} {requested : String}
    (started : half.event = .started) (absent : run.hasEvent (half.eventId runId) = false)
    (present : run.hasEvent requested) (places : HalfPlaces service db after run later runId half) :
    PairRecorded after later runId requested (half.eventId runId) ↔
      PairReady service db run runId requested (half.eventId runId) := by
  -- a start that joins behind a recorded request
  have apart : requested ≠ half.eventId runId := by
    rintro rfl
    simp [absent] at present
  have own := places.own
  have row := places.row
  rw [started] at own row
  simp only [PairReady, absent, present]
  have added (early : Int) (order : early < nextSeq run.events) :
      (if db.hasEventId (half.eventId runId) then 0 else 1) =
        if db.hasEventId (half.eventId runId) = false ∧ early < nextSeq run.events then 1 else 0 := by
    cases db.hasEventId (half.eventId runId) <;> simp [order]
  constructor
  · rintro ⟨early, late, order, former, latter, requestedAt, startedAt⟩
    rw [places.other requested apart] at requestedAt
    rw [own (room_of_placedIn requestedAt)] at startedAt
    cases startedAt
    obtain ⟨stored, few⟩ := (places.rows requested apart _ _).mp former
    rw [← added early order] at few
    exact ⟨early, order, requestedAt, stored, (row.mp latter).1, few⟩
  · rintro ⟨early, order, requestedAt, stored, seated, few⟩
    have later := db.newerThan_antitone runId order.le
    refine ⟨early, _, order, (places.rows requested apart _ _).mpr ⟨stored, ?_⟩, row.mpr ⟨seated, by omega⟩,
      ?_, own (room_of_placedIn requestedAt)⟩
    · rw [← added early order]
      exact few
    · rw [places.other requested apart, requestedAt]

end Recorded

theorem tool_pair_recorded_iff (describe : CommitFailure → String) (service : Service) (db : Database)
    (store : GatewayStore) (runId : String) (record : DurableStarted) (handle : HandleView) (draws : Draws)
    (outcome : StorageOutcome) (named : record.callId ≠ "")
    (unsigned : ∀ run, store.runs runId = some run → ∀ event ∈ run.events, 0 ≤ event.seq) :
    (∀ error, (commitStarted describe service db store runId record handle draws outcome).2 = .error error →
      (commitStarted describe service db store runId record handle draws outcome).1.2 = store) ∧
    ((commitStarted describe service db store runId record handle draws outcome).2 = .ok () →
      ∃ before after, store.runs runId = some before ∧
        (commitStarted describe service db store runId record handle draws outcome).1.2.runs runId = some after ∧
        (PairRecorded (commitStarted describe service db store runId record handle draws outcome).1.1 after runId
            (durableToolEventId runId record.callId "tool.requested")
            (durableToolEventId runId record.callId "tool.started") ↔
          PairReady service db before runId (durableToolEventId runId record.callId "tool.requested")
            (durableToolEventId runId record.callId "tool.started"))) := by
  refine ⟨fun error failed => commitStarted_error failed, fun ok => ?_⟩
  have one : (requestedHalf record).toolCallId ≠ "" := named
  have two : (startedHalf record).toolCallId ≠ "" := named
  have requested : (requestedHalf record).eventId runId = durableToolEventId runId record.callId "tool.requested" :=
    ToolStep.eventId_of_named one
  have started : (startedHalf record).eventId runId = durableToolEventId runId record.callId "tool.started" :=
    ToolStep.eventId_of_named two
  obtain ⟨choice, reserve, effect⟩ := commitStarted_ok ok
  obtain ⟨run, found, chosen⟩ := commitPair_cases one two reserve
  have reserved := nextSeq_pos (unsigned run found)
  rw [← requested, ← started]
  cases former : run.hasEvent ((requestedHalf record).eventId runId) <;>
    cases latter : run.hasEvent ((startedHalf record).eventId runId) <;>
    simp only [former, latter] at chosen <;> subst chosen
  case false.false =>
    obtain ⟨seqs, done, state⟩ := effect
    obtain ⟨after, stored, recorded⟩ := wholePair_recorded found one two former latter rfl rfl reserved done
    rw [state]
    exact ⟨run, after, found, stored, recorded⟩
  case false.true =>
    obtain ⟨seqs, done, state⟩ := effect
    obtain ⟨after, stored, places⟩ := commitHalf_places found one former reserved done
    rw [state]
    exact ⟨run, after, found, stored, requested_recorded rfl former latter places⟩
  case true.false =>
    obtain ⟨seqs, done, state⟩ := effect
    obtain ⟨after, stored, places⟩ := commitHalf_places found two latter reserved done
    rw [state]
    exact ⟨run, after, found, stored, started_recorded rfl latter former places⟩
  case true.true =>
    rw [effect]
    refine ⟨run, run, found, found, ?_⟩
    simp only [PairReady, former, latter]

def callRecord : DurableStarted where
  runId := "r"
  callId := "c"
  toolName := "read_file"
  argumentDigest := ""
  registryIdentity := ""
  riskClass := .read
  summary := ""
  generation := 0

theorem fresh_pair_recorded :
    callRecord.callId ≠ "" ∧
      ∃ before after, soloStore.runs "r" = some before ∧
        (commitStarted (fun _ => "") (soloService 8) soloDatabase soloStore "r" callRecord ⟨false, false⟩ (tagged "a" 3)
          .answered).1.2.runs "r" = some after ∧
        (PairRecorded (commitStarted (fun _ => "") (soloService 8) soloDatabase soloStore "r" callRecord ⟨false, false⟩
            (tagged "a" 3) .answered).1.1 after "r" (durableToolEventId "r" "c" "tool.requested")
            (durableToolEventId "r" "c" "tool.started") ↔
          PairReady (soloService 8) soloDatabase before "r" (durableToolEventId "r" "c" "tool.requested")
            (durableToolEventId "r" "c" "tool.started")) := by
  refine ⟨by decide, (tool_pair_recorded_iff (fun _ => "") (soloService 8) soloDatabase soloStore "r" callRecord
    ⟨false, false⟩ (tagged "a" 3) .answered (by decide) ?_).2 ?_⟩
  · rintro run found event member
    cases found
    cases List.mem_singleton.mp member
    decide
  · decide +kernel

def startedDatabase : Database :=
  { soloDatabase with
    runEvents := soloDatabase.runEvents.insertOrIgnore
      { runId := "r", seq := 2, eventId := durableToolEventId "r" "c" "tool.started", eventType := .toolStarted,
        payload := .obj [], createdAtMs := 2 } }

theorem request_behind_its_start :
    (commitStarted (fun _ => "") (soloService 8) startedDatabase (startedStore "c") "r" callRecord ⟨false, false⟩
      (tagged "a" 3) .answered).2 = .ok () ∧
    (commitStarted (fun _ => "") (soloService 8) startedDatabase (startedStore "c") "r" callRecord ⟨false, false⟩
      (tagged "a" 3) .answered).1.1.placed (durableToolEventId "r" "c" "tool.started") = [("r", .toolStarted, 2)] ∧
    (commitStarted (fun _ => "") (soloService 8) startedDatabase (startedStore "c") "r" callRecord ⟨false, false⟩
      (tagged "a" 3) .answered).1.1.placed (durableToolEventId "r" "c" "tool.requested") =
        [("r", .toolRequested, 3)] := by
  refine ⟨?_, ?_, ?_⟩ <;> decide +kernel

end RustScriptAgent.Gateway
