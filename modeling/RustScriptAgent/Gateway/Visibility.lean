import RustScriptAgent.Gateway.SingleTerminal
import RustScriptAgent.Storage.EventLog

namespace RustScriptAgent.Gateway

open Storage Sequences Transitions GatewayStore GatewayEvent List Option

variable {event : GatewayEvent} {runId id : String}

structure DurableBeforeVisible (system : System) : Prop where
  events : ∀ id run, system.store.runs id = some run → ∀ event ∈ run.events,
    event.carried ∈ system.acknowledged
  published : ∀ event ∈ system.published, event.carried ∈ system.acknowledged
  messages : ∀ id session, system.store.sessions id = some session → ∀ message ∈ session.messages,
    message.carried ∈ system.acknowledgedMessages

def RowCarries (event : GatewayEvent) (row : EventRow) : Prop :=
  row.eventId = event.eventId ∧ row.eventType = event.event ∧ row.payload = event.data

instance (event : GatewayEvent) (row : EventRow) : Decidable (RowCarries event row) :=
  inferInstanceAs (Decidable (_ ∧ _ ∧ _))

def TerminalCall.lastRows (call : TerminalCall) (db : Database) : List EventRow :=
  (db.log call.runId).drop ((db.log call.runId).length - call.events.length)

structure TerminalCall.Mirrored (call : TerminalCall) (db : Database) (target : TerminalStatus)
    (origin : TerminalOrigin) : Prop where
  running : db.runIs call.runId .running = true →
    call.events.length ≤ 2 ∧ ReadsWhole (call.finalLog db) ∧
      (origin = .worker → Consecutive (db.maxSeq call.runId + 1) (call.events.map GatewayEvent.seq))
  ended : db.runIs call.runId target.durable = true →
    ReadsWhole (db.log call.runId) ∧ List.Forall₂ RowCarries call.events (call.lastRows db) ∧
      (origin = .worker → (call.lastRows db).map EventRow.seq = call.events.map GatewayEvent.seq)

instance (call : TerminalCall) (db : Database) (target : TerminalStatus) (origin : TerminalOrigin) :
    Decidable (call.Mirrored db target origin) :=
  decidable_of_iff
    ((db.runIs call.runId .running = true → call.events.length ≤ 2 ∧ ReadsWhole (call.finalLog db) ∧
        (origin = .worker → Consecutive (db.maxSeq call.runId + 1) (call.events.map GatewayEvent.seq))) ∧
      (db.runIs call.runId target.durable = true → ReadsWhole (db.log call.runId) ∧
        List.Forall₂ RowCarries call.events (call.lastRows db) ∧
          (origin = .worker → (call.lastRows db).map EventRow.seq = call.events.map GatewayEvent.seq)))
    ⟨fun both => ⟨both.1, both.2⟩, fun mirrored => ⟨mirrored.running, mirrored.ended⟩⟩

section Terminal

variable {host : Host} {db after : Database} {call : TerminalCall} {target : TerminalStatus}
  {origin : TerminalOrigin} {seqs : List (String × Int)}

theorem TerminalCall.Mirrored.own (mirrored : call.Mirrored db target origin)
    {next : Database} (landed : RunTerminalInput.Landed call.input target.durable db next)
    (settled : next.runIs call.runId target.durable) :
    ReadsWhole (next.log call.runId) ∧
      ∃ earlier own, next.log call.runId = earlier ++ own ∧ List.Forall₂ RowCarries call.events own ∧
        (origin = .worker → own.map EventRow.seq = call.events.map seq) := by
  -- a successful terminal commit leaves its events at the end of a log that it has read as a whole
  have log : next.log call.runId = db.log call.runId ++
      if db.runIs call.runId .running then
        terminalRows call.runId call.input.nowMs (db.maxSeq call.runId) call.input.events else [] := landed.log
  by_cases running : db.runIs call.runId .running
  · obtain ⟨short, whole, numbered⟩ := mirrored.running running
    have all : call.input.events = call.events.map terminal := by
      rw [TerminalCall.input_events, take_of_length_le short]
    rw [if_pos running] at log
    have final : next.log call.runId = call.finalLog db := log
    rw [final]
    refine ⟨whole, _, _, rfl, ?_, fun worker => ?_⟩
    · rw [all]
      exact (TerminalCall.forall₂_terminalRows _ _ _ call.events).imp fun event row carried =>
        ⟨carried.2.2.1, carried.2.2.2.1, carried.2.2.2.2⟩
    · have counted := (numbered worker).eq_range
      rw [length_map] at counted
      rw [terminalRows_seqs, counted, all, length_map]
      exact map_congr_left fun index _ => by ring
  · -- nothing was written, and the status was the target before
    rw [if_neg running, append_nil] at log
    have held : db.runIs call.runId target.durable := by
      rw [← settled]
      exact (Database.runIs_congr (landed.idle_runs running) _ _).symm
    rw [log]
    obtain ⟨whole, carries, foreseen⟩ := mirrored.ended held
    exact ⟨whole, _, call.lastRows db, (take_append_drop _ _).symm, carries, foreseen⟩

structure OwnRows (call : TerminalCall) (after : Database) (origin : TerminalOrigin) (seqs : List (String × Int))
    (own : List EventRow) : Prop where
  carries : List.Forall₂ RowCarries call.events own
  stored : ∀ row ∈ own, row ∈ after.runEvents.rows ∧ row.runId = call.runId
  numbers : seqs = (call.events.zip own).map fun pair => (pair.1.eventId, pair.2.seq)
  foreseen : origin = .worker → own.map EventRow.seq = call.events.map GatewayEvent.seq

theorem TerminalCall.Mirrored.ownRows (mirrored : call.Mirrored db target origin) (status : call.toStatus = target.text)
    (ok : terminalCommit host db call = (after, .ok seqs)) : ∃ own, OwnRows call after origin seqs own := by
  rcases RunTerminalInput.storageRunTerminal_cases host db call.input with
    ⟨error, failed⟩ | ⟨parsed, next, text, result, landed, reply⟩
  · simp [terminalCommit, failed] at ok
  · have same : parsed = target.durable := by
      have other := TerminalStatus.ofText?_text target
      rw [← status] at other
      exact some.inj (text.symm.trans other)
    subst same
    unfold terminalCommit at ok
    cases outcome : storageRunTerminal host db call.input with
    | mk final answer =>
      rw [outcome] at ok result reply
      cases answer with
      | error error => cases ok
      | ok rows =>
        simp only [Prod.mk.injEq] at ok result
        obtain ⟨settled, read⟩ := reply rows rfl
        obtain ⟨whole, earlier, own, log, carries, foreseen⟩ := mirrored.own landed settled
        have shown : rows = earlier ++ own := read.trans (((readBack_eq_self_iff _).mpr whole).trans log)
        have width := carries.length_eq
        rcases TerminalCall.assignSeqs_cases call.events rows with ⟨_, numbered⟩ | ⟨_, error, unreadable⟩
        · refine ⟨own, carries, fun row member => ?_, ?_, foreseen⟩
          · have listed : row ∈ next.log call.runId := log ▸ mem_append_right earlier member
            rw [← ok.1, result]
            exact Database.mem_eventsOf.mp (Database.mem_log.mp listed)
          · have tail : rows.drop (rows.length - call.events.length) = own := by
              rw [shown, length_append, width, Nat.add_sub_cancel, drop_left]
            rw [tail] at numbered
            exact (Except.ok.inj (numbered.symm.trans ok.2)).symm
        · rw [unreadable] at ok
          cases ok.2

namespace OwnRows

variable {own : List EventRow} (rows : OwnRows call after origin seqs own)
include rows

section

variable (member : event ∈ call.events)
include member

theorem partner : ∃ row, (event, row) ∈ call.events.zip own ∧ RowCarries event row ∧
      (origin = .worker → row.seq = event.seq) := by
  obtain ⟨width, carried⟩ := forall₂_iff_zip.mp rows.carries
  obtain ⟨index, bound, rfl⟩ := getElem_of_mem member
  have paired : (call.events[index], own[index]) ∈ call.events.zip own := by
    have position : index < (call.events.zip own).length := by
      rw [length_zip]
      omega
    have shown := getElem_mem position
    rwa [getElem_zip] at shown
  refine ⟨own[index], paired, carried paired, fun worker => ?_⟩
  have same := congrArg (fun list => list[index]?) (rows.foreseen worker)
  simpa [bound, width ▸ bound] using same

theorem renumbered (owner : event.runId = call.runId) :
    ∃ row ∈ own, row.eventId = event.eventId ∧ (renumber seqs event).carried = EventRow.carried row := by
  obtain ⟨row, paired, ⟨id, type, payload⟩, _⟩ := rows.partner member
  have present := (of_mem_zip paired).2
  have listed : (event.eventId, row.seq) ∈ seqs := by
    rw [rows.numbers]
    exact mem_map.mpr ⟨_, paired, rfl⟩
  cases found : seqs.find? (fun entry => entry.1 == event.eventId) with
  | none =>
    rw [find?_eq_none] at found
    simpa using found _ listed
  | some entry =>
    -- an entry under this identifier comes from a row under it, and there is one such row
    have named : entry.1 = event.eventId := by simpa using find?_some found
    have source := mem_of_find?_eq_some found
    rw [rows.numbers] at source
    obtain ⟨⟨other, stored⟩, together, rfl⟩ := mem_map.mp source
    have carried := (forall₂_iff_zip.mp rows.carries).2 together
    have same : stored = row :=
      Database.eventId_unique (rows.stored stored (of_mem_zip together).2).1 (rows.stored row present).1
        ((carried.1.trans named).trans id.symm)
    refine ⟨row, present, id, ?_⟩
    simp [renumber, found, GatewayEvent.carried, GatewayEvent.fields, EventRow.carried, same, id, type, payload,
      owner, (rows.stored row present).2]

theorem foretold (owner : event.runId = call.runId)
    (worker : origin = .worker) : ∃ row ∈ own, row.eventId = event.eventId ∧ event.carried = EventRow.carried row := by
  obtain ⟨row, paired, ⟨id, type, payload⟩, number⟩ := rows.partner member
  have present := (of_mem_zip paired).2
  refine ⟨row, present, id, ?_⟩
  simp [carried, fields, EventRow.carried, id, type, payload, number worker, owner, (rows.stored row present).2]

end

end OwnRows

end Terminal

namespace Reserved

def shown (seqs : List (String × Int)) : Reserved → List GatewayEvent
  | .commit event _ _ => [event]
  | .pair first second _ => [first, second]
  | .transition event _ => [event]
  | .terminal _ call .worker => call.events ++ call.events.map (renumber seqs)
  | .terminal _ call .retry => call.events.map (renumber seqs)
  | .terminal _ call .compaction => call.events.map (renumber seqs)

def shownMessage : Reserved → Option SessionMessage
  | .commit _ message _ => message
  | .terminal _ call _ => call.assistantMessage
  | _ => none

def Formed : Reserved → Prop
  | .commit event message payload =>
    payload.carried = event.carried ∧
      ∀ shown, message = some shown → shown.carried ∈ (commit event message payload).carriedMessages
  | .pair first second input =>
    CarriedEvent.mk input.runId input.first = first.carried ∧
      CarriedEvent.mk input.runId input.second = second.carried
  | .transition event input => ∃ runId fromStatus toStatus now seq,
      event = transitionCandidate runId fromStatus toStatus now seq ∧
        input = transitionPayload runId fromStatus toStatus now
  | .terminal target call _ =>
    call.toStatus = target.text ∧ (∀ event ∈ call.events, event.runId = call.runId) ∧
      ∀ message, call.assistantMessage = some message →
        target = .completed ∧ message.id ≠ "" ∧ message.sessionId = call.sessionId

def Mirrored (db : Database) : Reserved → Prop
  | .commit _ _ _ => True
  | .pair _ _ _ => True
  | .transition event input =>
    (∃ row ∈ db.runs.rows, row.id = input.runId ∧ row.status.text = input.fromStatus) →
      db.runEvents.accepts (transitionEvent db input) = true ∧ event.seq = db.maxSeq input.runId + 1
  | .terminal target call origin => call.Mirrored db target origin

instance (db : Database) : (commit : Reserved) → Decidable (commit.Mirrored db)
  | .commit _ _ _ => isTrue trivial
  | .pair _ _ _ => isTrue trivial
  | .transition event input => inferInstanceAs (Decidable
      ((∃ row ∈ db.runs.rows, row.id = input.runId ∧ row.status.text = input.fromStatus) →
        db.runEvents.accepts (transitionEvent db input) = true ∧ event.seq = db.maxSeq input.runId + 1))
  | .terminal target call origin => inferInstanceAs (Decidable (call.Mirrored db target origin))

end Reserved

section Commit

variable {service : Service} {store : GatewayStore} {commit : Reserved} {host : Host} {db after : Database}
  {seqs : List (String × Int)}

theorem Drawn.formed (drawn : Drawn service store commit) : commit.Formed := by
  cases drawn with
  | append now found next =>
    refine ⟨?_, fun shown none => by cases none⟩
    simp [CommitPayload.carried, appendPayload, carried, next.owner]
  | step found next fields limit hook placed same =>
    refine ⟨?_, fun shown present => ?_⟩
    · simp [CommitPayload.carried, carried, next.owner, fields]
    · cases present
      simp [Reserved.carriedMessages, SessionMessage.carried, same.id, same.session, same.ordinal, same.role,
        same.content]
  | pair found next owner numbered plain one two limit hook =>
    simp [Reserved.Formed, carried, next.owner, owner, one, two]
  | transition fromStatus toStatus now found active event_eq input_eq =>
    exact ⟨_, fromStatus, toStatus, now, _, event_eq, input_eq⟩
  | terminal fresh found status ends numbered owner short placed =>
    refine ⟨status, owner, fun message present => ?_⟩
    obtain ⟨completed, named, home, _⟩ := placed message present
    exact ⟨completed, named, home⟩

theorem transition_carries {input : RunTransitionInput}
    (formed : (Reserved.transition event input).Formed) (mirrored : (Reserved.transition event input).Mirrored db)
    (ok : (storageRunTransition host db input).2 = .ok ()) :
    event.carried ∈ (Reserved.transition event input).carried db after := by
  rcases input.storageRunTransition_cases db host with ⟨_, failed⟩ | ⟨target, _, matched, _⟩
  · rw [failed] at ok
    cases ok
  · obtain ⟨row, member, selected⟩ := any_eq_true.mp matched
    simp only [RunTransitionInput.matchesRow, Bool.and_eq_true, beq_iff_eq] at selected
    obtain ⟨accepted, number⟩ := mirrored ⟨row, member, selected.1.1, selected.1.2⟩
    obtain ⟨runId, fromStatus, toStatus, now, seq, rfl, rfl⟩ := formed
    have counted : seq = db.maxSeq runId + 1 := number
    rw [Reserved.carried, if_pos accepted, mem_singleton, counted]
    rfl

theorem Reserved.execute_carries (formed : commit.Formed) (mirrored : commit.Mirrored db)
    (ok : commit.execute host db = (after, .ok seqs)) :
    ∀ event ∈ commit.shown seqs, event.carried ∈ commit.carried db after := by
  -- all that a successful commit shows was in the command that succeeded
  match commit, formed, mirrored, ok with
  | .commit event message payload, ⟨same, _⟩, _, _ =>
    intro shown member
    rw [mem_singleton.mp member, ← same]
    exact mem_singleton_self _
  | .pair first second input, ⟨one, two⟩, _, _ =>
    intro shown member
    simp only [Reserved.shown, mem_cons, not_mem_nil, or_false] at member
    simp only [Reserved.carried, one, two]
    rcases member with rfl | rfl <;> simp
  | .transition event input, formed, mirrored, ok =>
    intro shown member
    rw [mem_singleton.mp member]
    have reply : (answer (storageRunTransition host db input)).2 = .ok seqs := congrArg Prod.snd ok
    exact transition_carries formed mirrored (answer_snd_ok.mp reply).1
  | .terminal target call origin, ⟨status, owner, _⟩, mirrored, ok =>
    have replied : terminalCommit host db call = (after, .ok seqs) := by
      have first := congrArg Prod.fst ok
      have second := congrArg Prod.snd ok
      rw [execute_terminal_fst] at first
      exact Prod.ext first (execute_terminal_ok.mp second)
    obtain ⟨own, rows⟩ := mirrored.ownRows status replied
    -- a row of the call's own is one that the carried list picks out by its identifier
    have listed {event : GatewayEvent} {row : EventRow} (member : event ∈ call.events) (present : row ∈ own)
        (id : row.eventId = event.eventId) :
        EventRow.carried row ∈ (Reserved.terminal target call origin).carried db after := by
      refine mem_map_of_mem (mem_filter.mpr ⟨(rows.stored row present).1, ?_⟩)
      exact any_eq_true.mpr ⟨event, member, by simp [id]⟩
    have renumbered : ∀ event ∈ call.events.map (renumber seqs),
        event.carried ∈ (Reserved.terminal target call origin).carried db after := by
      intro shown member
      obtain ⟨event, source, rfl⟩ := mem_map.mp member
      obtain ⟨row, present, id, same⟩ := rows.renumbered source (owner event source)
      rw [same]
      exact listed source present id
    cases origin with
    | worker =>
      intro shown member
      rcases mem_append.mp member with sent | applied
      · obtain ⟨row, present, id, same⟩ := rows.foretold sent (owner shown sent) rfl
        rw [same]
        exact listed sent present id
      · exact renumbered shown applied
    | retry => exact renumbered
    | compaction => exact renumbered

theorem Reserved.shownMessage_carried (formed : commit.Formed) {message : SessionMessage}
    (present : commit.shownMessage = some message) : message.carried ∈ commit.carriedMessages := by
  cases commit with
  | commit event stored payload => exact formed.2 message present
  | pair first second input => cases present
  | transition event input => cases present
  | terminal target call origin =>
    have asked : call.assistantMessage = some message := present
    obtain ⟨_, named, home⟩ := formed.2.2 message asked
    simp [Reserved.carriedMessages, TerminalCall.input, asked, named, SessionMessage.carried, home]

theorem GatewayStore.mem_broadcast {events : List GatewayEvent}
    (member : event ∈ store.broadcast runId events) : event ∈ events := by
  unfold broadcast at member
  split at member
  · split_ifs at member
    · exact member
    · simp at member
  · simp at member

theorem mem_updateRun {target : String} {change : GatewayStore.Change} {run : RunRecord} {events : List GatewayEvent}
    (logs : ∀ old event, event ∈ (change.apply old).events → event ∈ old.events ∨ event ∈ events)
    (found : (store.updateRun target change).runs id = some run) (member : event ∈ run.events) :
    (∃ old, store.runs id = some old ∧ event ∈ old.events) ∨ event ∈ events := by
  obtain ⟨old, stored, rfl⟩ := updateRun_eq_some found
  split_ifs at member
  · exact (logs old event member).imp_left fun before => ⟨old, stored, before⟩
  · exact .inl ⟨old, stored, member⟩

theorem Reserved.apply_events {run : RunRecord} (found : (commit.apply service store seqs).1.runs id = some run)
    (member : event ∈ run.events) :
    (∃ old, store.runs id = some old ∧ event ∈ old.events) ∨ event ∈ commit.shown seqs := by
  cases commit with
  | commit event message payload =>
    simp only [Reserved.apply, pushMessage?_runs] at found
    exact mem_updateRun (fun _ _ logged => mem_applyEvents logged) found member
  | pair first second input => exact mem_updateRun (fun _ _ logged => mem_applyEvents logged) found member
  | transition event input =>
    refine mem_updateRun (fun old other logged => ?_) found member
    simp only [logWhileStarted] at logged
    split_ifs at logged
    · exact mem_applyEvents logged
    · exact .inl logged
  | terminal target call origin =>
    have applied : (∃ old, store.runs id = some old ∧ event ∈ old.events) ∨
        event ∈ call.events.map (renumber seqs) := by
      have updated : (applyTerminal service store target call seqs).runs id = some run := by
        cases origin <;> exact found
      simp only [applyTerminal, pushMessage?_runs] at updated
      exact mem_updateRun (fun _ _ logged => mem_applyEvents logged) updated member
    cases origin with
    | worker => exact applied.imp_right fun listed => mem_append_right _ listed
    | retry => exact applied
    | compaction => exact applied

theorem Reserved.apply_published
    (member : event ∈ (commit.apply service store seqs).2) : event ∈ commit.shown seqs := by
  cases commit with
  | commit event message payload => exact mem_broadcast member
  | pair first second input => exact mem_broadcast member
  | transition event input => simp [Reserved.apply] at member
  | terminal target call origin =>
    cases origin with
    | worker => exact mem_append_left _ (mem_broadcast member)
    | retry => exact mem_broadcast member
    | compaction => simp [Reserved.apply] at member

theorem Reserved.apply_messages {session : SessionRecord}
    (found : (commit.apply service store seqs).1.sessions id = some session) {message : SessionMessage}
    (member : message ∈ session.messages) :
    (∃ old, store.sessions id = some old ∧ message ∈ old.messages) ∨ commit.shownMessage = some message := by
  cases commit with
  | commit event pushed payload => exact mem_pushMessage? found member
  | pair first second input => exact .inl ⟨session, found, member⟩
  | transition event input => exact .inl ⟨session, found, member⟩
  | terminal target call origin =>
    cases origin <;> exact mem_pushMessage? found member

end Commit

def PendingTerminal.Formed (runId : String) (pending : PendingTerminal) : Prop :=
  (∀ event ∈ pending.events, event.runId = runId) ∧
    ∀ message, pending.assistantMessage = some message →
      pending.toStatus = .completed ∧ message.id ≠ "" ∧ pending.sessionId = some message.sessionId

theorem retryPendingTerminal_formed {pending : PendingTerminal} (formed : pending.Formed runId)
    (draws : Draws) : (retryPendingTerminal runId pending draws).Formed := by
  refine ⟨rfl, formed.1, fun message present => ?_⟩
  obtain ⟨completed, named, home⟩ := formed.2 message present
  exact ⟨completed, named, by simp [terminalCall, home]⟩

theorem System.handBack_formed {target : TerminalStatus} {call : TerminalCall} {origin : TerminalOrigin}
    (formed : (Reserved.terminal target call origin).Formed) : (System.handBack target call).Formed call.runId := by
  refine ⟨formed.2.1, fun message present => ?_⟩
  obtain ⟨completed, named, home⟩ := formed.2.2 message present
  exact ⟨completed, named, by simp [System.handBack, completed, home]⟩

def Reserved.Backed (system : System) (seqs : List (String × Int)) (commit : Reserved) : Prop :=
  (∀ event ∈ commit.shown seqs, event.carried ∈ system.acknowledged) ∧
    ∀ message, commit.shownMessage = some message → message.carried ∈ system.acknowledgedMessages

structure VisibleInvariant (system : System) : Prop extends DurableBeforeVisible system where
  parked : ∀ runId pending, system.pending runId = some pending → pending.Formed runId
  handed : ∀ entry ∈ system.handedBack, entry.2.Formed entry.1
  reserved : ∀ commit, system.flight = some (.reserved commit) → commit.Formed
  answered : ∀ commit reply, system.flight = some (.answered commit reply) →
    commit.Formed ∧ ∀ seqs, reply = .ok seqs → commit.Backed system seqs

def Agreed (system : System) : Label → Prop
  | .persist .answered => ∀ commit, system.flight = some (.reserved commit) → commit.Mirrored system.db
  | _ => True

instance (system : System) : (label : Label) → Decidable (Agreed system label)
  | .persist .answered =>
    match flying : system.flight with
    | some (.reserved commit) => decidable_of_iff (commit.Mirrored system.db) (by simp [Agreed, flying])
    | some (.answered commit reply) => isTrue (by simp [Agreed, flying])
    | none => isTrue (by simp [Agreed, flying])
  | .persist .lost | .persist .unacknowledged | .begin _ _ | .retry _ _ _ | .finish | .stop _ | .halt
  | .park _ _ => isTrue trivial

namespace VisibleInvariant

variable {service : Service} {system later : System} (invariant : VisibleInvariant system)
include invariant

theorem withFlight {flight : Option Flight}
    (sound : ∀ value, flight = some value → ∃ commit, value = .reserved commit ∧ commit.Formed) :
    VisibleInvariant { system with flight } := by
  refine ⟨⟨invariant.events, invariant.published, invariant.messages⟩, invariant.parked, invariant.handed, ?_, ?_⟩
  · intro commit flying
    obtain ⟨other, same, formed⟩ := sound _ flying
    cases same
    exact formed
  · intro commit reply flying
    obtain ⟨other, same, _⟩ := sound _ flying
    cases same

theorem land : VisibleInvariant { system with flight := none } := invariant.withFlight fun _ flying => by cases flying

theorem clearPending (target : String) : VisibleInvariant (system.setPending target none) := by
  refine ⟨⟨invariant.events, invariant.published, invariant.messages⟩, fun runId pending found => ?_,
    invariant.handed, invariant.reserved, invariant.answered⟩
  simp only [System.setPending] at found
  split_ifs at found
  exact invariant.parked runId pending found

theorem withChange {target : String} {change : GatewayStore.Change}
    (keeps : ∀ run, (change.apply run).events = run.events) :
    VisibleInvariant { system with store := system.store.updateRun target change } := by
  refine ⟨⟨fun id run found event member => ?_, invariant.published, invariant.messages⟩, invariant.parked,
    invariant.handed, invariant.reserved, invariant.answered⟩
  obtain ⟨old, stored, rfl⟩ := updateRun_eq_some found
  split_ifs at member
  · rw [keeps] at member
    exact invariant.events id old stored event member
  · exact invariant.events id old stored event member

theorem persist {commit : Reserved} {outcome : StorageOutcome} (flying : system.flight = some (.reserved commit))
    (mirrored : outcome = .answered → commit.Mirrored system.db) :
    VisibleInvariant (system.persist service commit outcome) := by
  have formed := invariant.reserved commit flying
  refine ⟨⟨fun id run found event member => ?_, fun event member => ?_, fun id session found message member => ?_⟩,
    invariant.parked, invariant.handed, fun other now => (by cases now), ?_⟩
  · exact mem_append_left _ (invariant.events id run found event member)
  · exact mem_append_left _ (invariant.published event member)
  · exact mem_append_left _ (invariant.messages id session found message member)
  · intro other reply now
    cases now
    refine ⟨formed, fun seqs ok => ?_⟩
    -- only a command that answered can have succeeded
    cases outcome with
    | lost => cases ok
    | unacknowledged => cases ok
    | answered =>
      have executed : commit.execute service.host system.db =
          ((commit.execute service.host system.db).1, .ok seqs) := Prod.ext rfl ok
      refine ⟨fun event member => mem_append_right _ ?_, fun message present => mem_append_right _ ?_⟩
      · rw [ok]
        exact Reserved.execute_carries formed (mirrored rfl) executed event member
      · rw [ok]
        exact Reserved.shownMessage_carried formed present

theorem finishApplied {commit : Reserved} {seqs : List (String × Int)}
    (flying : system.flight = some (.answered commit (.ok seqs))) :
    VisibleInvariant (system.finishApplied service seqs commit) := by
  obtain ⟨_, backed⟩ := invariant.answered commit _ flying
  obtain ⟨shown, messages⟩ := backed seqs rfl
  have applied : VisibleInvariant { system with
      store := (commit.apply service system.store seqs).1
      published := system.published ++ (commit.apply service system.store seqs).2 } := by
    refine ⟨⟨fun id run found event member => ?_, fun event member => ?_, fun id session found message member => ?_⟩,
      invariant.parked, invariant.handed, invariant.reserved, invariant.answered⟩
    · rcases Reserved.apply_events found member with ⟨old, stored, before⟩ | new
      · exact invariant.events id old stored event before
      · exact shown event new
    · rcases mem_append.mp member with old | new
      · exact invariant.published event old
      · exact shown event (Reserved.apply_published new)
    · rcases Reserved.apply_messages found member with ⟨old, stored, before⟩ | new
      · exact invariant.messages id old stored message before
      · exact messages message new
  unfold System.finishApplied
  dsimp only
  split
  · exact applied.clearPending _
  · exact applied

theorem handBack {target : TerminalStatus} {call : TerminalCall}
    (formed : (Reserved.terminal target call .worker).Formed) :
    VisibleInvariant { system with handedBack := system.handedBack ++
      [(call.runId, System.handBack target call)] } := by
  refine ⟨⟨invariant.events, invariant.published, invariant.messages⟩, invariant.parked, fun entry member => ?_,
    invariant.reserved, invariant.answered⟩
  rcases mem_append.mp member with old | new
  · exact invariant.handed entry old
  · rw [mem_singleton.mp new]
    exact System.handBack_formed formed

theorem park {pending : PendingTerminal} (handed : (runId, pending) ∈ system.handedBack) :
    VisibleInvariant (system.park runId pending) := by
  have changed : VisibleInvariant { system with
      store := system.store.updateRun runId ⟨fun run => { run with status := .terminalPending }, fun _ => rfl⟩ } :=
    invariant.withChange fun _ => rfl
  refine ⟨⟨changed.events, invariant.published, invariant.messages⟩, fun id parked found => ?_, invariant.handed,
    invariant.reserved, invariant.answered⟩
  simp only [System.park] at found
  split_ifs at found with same
  · cases found
    rw [same]
    exact invariant.handed _ handed
  · exact invariant.parked id parked found

theorem next {label : Label} (agreed : Agreed system label) (taken : system.next service label = some later) :
    VisibleInvariant later := by
  cases System.steps_of_next taken with
  | begin =>
    refine invariant.withFlight fun value flying => ?_
    obtain ⟨commit, made, rfl⟩ := map_eq_some_iff.mp flying
    exact ⟨commit, rfl, (Request.reserve_drawn made).formed⟩
  | idle => exact invariant
  | drop => exact invariant.clearPending _
  | expire => exact (invariant.clearPending _).withChange fun _ => rfl
  | retry parked =>
    refine invariant.withFlight fun value flying => ?_
    cases flying
    exact ⟨_, rfl, retryPendingTerminal_formed (invariant.parked _ _ parked) _⟩
  | persist flying =>
    refine invariant.persist flying ?_
    rintro rfl
    exact agreed _ flying
  | applied flying => exact (invariant.finishApplied flying).land
  | handBack flying => exact (invariant.handBack (invariant.answered _ _ flying).1).land
  | giveUp => exact ((invariant.clearPending _).withChange fun _ => rfl).land
  | failed => exact invariant.land
  | stop => exact invariant.withChange fun run => by dsimp only; split_ifs <;> rfl
  | halt => exact invariant
  | park handed => exact invariant.park handed

end VisibleInvariant

structure SameView (a b : GatewayStore) : Prop where
  runs : ∀ id, (a.runs id).map (fun run => (run.events, run.status)) =
    (b.runs id).map fun run => (run.events, run.status)
  sessions : a.sessions = b.sessions

def System.Unapplied (system : System) : Label → Prop
  | .begin _ _ => True
  | .retry _ _ _ => True
  | .persist _ => True
  | .finish => ∃ commit failure, system.flight = some (.answered commit (.error failure))
  | _ => False

section Unapplied

variable {service : Service} {system later : System}

theorem SameView.refl (store : GatewayStore) : SameView store store := ⟨fun _ => rfl, rfl⟩

theorem closeStream_view (runId : String) : SameView (system.closeStream runId).store system.store := by
  refine ⟨fun id => ?_, rfl⟩
  simp only [System.closeStream, updateRun]
  split_ifs
  · rw [Option.map_map]
    rfl
  · rfl

theorem System.Unapplied.view {label : Label} (unapplied : system.Unapplied label)
    (taken : system.next service label = some later) : SameView later.store system.store := by
  cases System.steps_of_next taken with
  | applied flying =>
    obtain ⟨commit, failure, other⟩ := unapplied
    rw [flying] at other
    cases other
  | expire | giveUp => exact closeStream_view _
  | begin | idle | drop | retry | persist | handBack | failed => exact .refl _
  | stop | halt | park => exact absurd unapplied id

end Unapplied

structure System.Resting (system : System) : Prop where
  idle : system.flight = none
  parked : ∀ runId, system.pending runId = none
  handed : system.handedBack = []

theorem durable_before_visible (service : Service) (labels : List Label) (start final : System)
    (visible : DurableBeforeVisible start) (resting : start.Resting)
    (agreed : Along (System.next service) Agreed start labels)
    (reached : run (System.next service) start labels = some final) :
    DurableBeforeVisible final ∧
      ∀ label later, final.Unapplied label → final.next service label = some later →
        SameView later.store final.store := by
  have begun : VisibleInvariant start := by
    refine ⟨visible, ?_, ?_, ?_, ?_⟩
    · simp [resting.parked]
    · simp [resting.handed]
    · simp [resting.idle]
    · simp [resting.idle]
  have invariant := run_invariant (fun _ _ _ invariant allowed taken => VisibleInvariant.next invariant allowed taken)
    begun agreed reached
  exact ⟨invariant.toDurableBeforeVisible, fun label later unapplied taken => unapplied.view taken⟩

theorem soloSystem_visible : DurableBeforeVisible soloSystem := by
  refine ⟨fun id run found event member => ?_, by simp [soloSystem], fun id session found message member => ?_⟩
  · simp only [soloSystem, soloStore] at found
    split_ifs at found
    cases found
    rw [mem_singleton.mp member]
    exact mem_singleton_self _
  · simp only [soloSystem, soloStore] at found
    split_ifs at found
    cases found
    rw [mem_singleton.mp member]
    exact mem_singleton_self _

theorem soloSystem_resting : soloSystem.Resting := ⟨rfl, fun _ => rfl, rfl⟩

def restored : List Label :=
  [.begin (.transition "r" .running .compacting) (tagged "a" 2), .persist .answered, .finish,
    .begin (.transition "r" .compacting .running) (tagged "b" 3), .persist .answered]

def cancelledAfter (labels : List Label) : List Label :=
  labels ++ [.begin (.cancel "r" "requested") (tagged "c" 4), .persist .answered, .finish]

def lateStop : List Label := cancelledAfter (restored ++ [.finish, .stop "r"])

theorem durable_before_visible_at_late_stop :
    ∃ final, run (System.next (soloService 4)) soloSystem lateStop = some final ∧ DurableBeforeVisible final := by
  have taken : (run (System.next (soloService 4)) soloSystem lateStop).isSome = true := by decide +kernel
  obtain ⟨final, reached⟩ := isSome_iff_exists.mp taken
  refine ⟨final, reached, (durable_before_visible (soloService 4) lateStop soloSystem final soloSystem_visible
    soloSystem_resting ?_ reached).1⟩
  decide +kernel

def earlyStop : List Label := cancelledAfter (restored ++ [.stop "r", .finish])

theorem cancelled_event_visible_under_other_number : DurableBeforeVisible soloSystem ∧ soloSystem.Resting ∧
      ∃ final, run (System.next (soloService 4)) soloSystem earlyStop = some final ∧
        ¬DurableBeforeVisible final := by
  refine ⟨soloSystem_visible, soloSystem_resting, ?_⟩
  have taken : (run (System.next (soloService 4)) soloSystem earlyStop).map
      (fun final => final.published.any fun event => !decide (event.carried ∈ final.acknowledged)) = some true := by
    decide +kernel
  obtain ⟨final, reached, observed⟩ := map_eq_some_iff.mp taken
  refine ⟨final, reached, fun visible => ?_⟩
  obtain ⟨event, member, missing⟩ := List.any_eq_true.mp observed
  simp [visible.published event member] at missing

end RustScriptAgent.Gateway
