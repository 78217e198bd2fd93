import RustScriptAgent.Gateway.Reservations

namespace RustScriptAgent.Gateway

open Storage Transitions Option

variable {target : TerminalStatus} {call : TerminalCall}

structure SingleTerminal (system : System) (runId : String) : Prop where
  durable : system.db.Ended runId
  memory : ∀ run, system.store.runs runId = some run → ∀ status, run.status.durable? = some status →
    system.db.runIs runId status = true

structure System.Admitted (system : System) (runId : String) : Prop where
  durable : system.db.runIs runId .running = true
  log : system.db.endings runId = []
  memory : ∀ run, system.store.runs runId = some run → run.status = .started
  idle : system.flight = none
  parked : system.pending runId = none
  handed : ∀ entry ∈ system.handedBack, entry.1 ≠ runId

def PendingTerminal.Shaped (pending : PendingTerminal) : Prop :=
  EndsAs pending.toStatus.durable (pending.events.map GatewayEvent.event)

def Reserved.Shaped (runId : String) : Reserved → Prop
  | .commit _ _ (.eventAppend input) => input.runId = runId → input.event.eventType.ending? = none
  | .commit _ _ (.step input) => input.runId = runId → input.event.eventType.ending? = none
  | .pair _ _ input =>
    input.runId = runId → input.first.eventType.ending? = none ∧ input.second.eventType.ending? = none
  | .transition _ _ => True
  | .terminal target call _ =>
    call.toStatus = target.text ∧
      (call.runId = runId → EndsAs target.durable (call.events.map GatewayEvent.event))

def Reserved.Settled (runId : String) (db : Database) : Reserved → Prop
  | .terminal target call _ => call.runId = runId → db.runIs runId target.durable = true
  | _ => True

def Flight.Sound (runId : String) (db : Database) : Flight → Prop
  | .reserved commit => commit.Shaped runId
  | .answered commit reply => commit.Shaped runId ∧ ∀ seqs, reply = .ok seqs → commit.Settled runId db

structure TerminalInvariant (runId : String) (system : System) : Prop extends SingleTerminal system runId where
  parked : ∀ pending, system.pending runId = some pending → pending.Shaped
  handed : ∀ entry ∈ system.handedBack, entry.1 = runId → entry.2.Shaped
  flight : ∀ flight, system.flight = some flight → flight.Sound runId system.db

section Commands

variable {service : Service} {store : GatewayStore} {runId : String} {commit : Reserved} {db : Database}

theorem Drawn.shaped (drawn : Drawn service store commit) : commit.Shaped runId := by
  cases drawn with
  | append now found next => exact fun _ => next.plain
  | step found next fields limit hook placed same =>
    intro _
    rw [fields]
    exact next.plain
  | pair found next owner numbered plain one two limit hook =>
    intro _
    rw [one, two]
    exact ⟨next.plain, plain⟩
  | transition fromStatus toStatus now found active event_eq input_eq => trivial
  | terminal fresh found status ends numbered owner short placed => exact ⟨status, fun _ => ends⟩

theorem retryPendingTerminal_shaped {pending : PendingTerminal} (shaped : pending.Shaped) (draws : Draws) :
    (retryPendingTerminal runId pending draws).Shaped runId :=
  ⟨rfl, fun _ => shaped⟩

theorem TerminalStatus.ofText?_text (target : TerminalStatus) :
    RunStatus.ofText? target.text = some target.durable := RunStatus.ofText?_text _

theorem terminalCommit_cases (host : Host) (db : Database) (status : call.toStatus = target.text) :
    (∃ error, terminalCommit host db call = (db, .error error)) ∨
      ∃ next, (terminalCommit host db call).1 = next ∧ RunTerminalInput.Landed call.input target.durable db next ∧
        ∀ seqs, (terminalCommit host db call).2 = .ok seqs → next.runIs call.runId target.durable := by
  rcases RunTerminalInput.storageRunTerminal_cases host db call.input with
    ⟨error, failed⟩ | ⟨parsed, next, text, after, landed, reply⟩
  · exact .inl ⟨.storage error, by simp [terminalCommit, failed]⟩
  · have same : parsed = target.durable := by
      have other := TerminalStatus.ofText?_text target
      rw [← status] at other
      exact some.inj (text.symm.trans other)
    subst same
    right
    unfold terminalCommit
    cases outcome : storageRunTerminal host db call.input with
    | mk result answer =>
      rw [outcome] at after reply
      cases answer with
      | error error => exact ⟨next, after, landed, fun seqs ok => by cases ok⟩
      | ok rows => exact ⟨next, after, landed, fun _ _ => (reply rows rfl).1⟩

theorem terminal_ends {next : Database} (landed : RunTerminalInput.Landed call.input target.durable db next)
    (ends : call.runId = runId → EndsAs target.durable (call.events.map GatewayEvent.event)) :
    Database.Ends runId db next := by
  refine landed.ends runId fun same => ?_
  have types : call.input.events.map TerminalEvent.eventType =
      (call.events.map GatewayEvent.event).take 2 := by
    rw [TerminalCall.input_events, List.map_map, List.map_take]
    rfl
  rw [types]
  exact (ends same).sublist (List.take_sublist _ _)

theorem Reserved.execute_ends (host : Host) (db : Database) (shaped : commit.Shaped runId) :
    Database.Ends runId db (commit.execute host db).1 := by
  match commit, shaped with
  | .commit _ _ (.eventAppend input), plain =>
    have ends : Database.Ends runId db (storageEventAppend host db input).1 :=
      Database.storageEventAppend_ends host plain
    simpa only [execute, answer_fst] using ends
  | .commit _ _ (.step input), plain =>
    have ends : Database.Ends runId db (storageStepCommit host db input).1 :=
      Database.storageStepCommit_ends host plain
    simpa only [execute, answer_fst] using ends
  | .pair _ _ input, plain =>
    have ends : Database.Ends runId db (storageEventAppendPair host db input).1 :=
      Database.storageEventAppendPair_ends host (fun same => (plain same).1) (fun same => (plain same).2)
    simpa only [execute, answer_fst] using ends
  | .transition _ input, _ =>
    simpa only [execute, answer_fst] using Database.storageRunTransition_ends host runId input
  | .terminal target call _, ⟨status, ends⟩ =>
    rw [execute_terminal_fst]
    rcases terminalCommit_cases host db status with ⟨_, failed⟩ | ⟨next, after, landed, _⟩
    · rw [failed]
      exact Database.Ends.refl db runId
    · rw [after]
      exact terminal_ends landed ends

theorem Reserved.execute_settled (host : Host) (db : Database) (shaped : commit.Shaped runId)
    {seqs : List (String × Int)} (ok : (commit.execute host db).2 = .ok seqs) :
    commit.Settled runId (commit.execute host db).1 := by
  match commit, shaped, ok with
  | .commit _ _ _, _, _ => trivial
  | .pair _ _ _, _, _ => trivial
  | .transition _ _, _, _ => trivial
  | .terminal target call origin, ⟨status, _⟩, ok =>
    rintro rfl
    rw [execute_terminal_fst]
    rw [execute_terminal_ok] at ok
    rcases terminalCommit_cases host db status with ⟨_, failed⟩ | ⟨next, after, _, reply⟩
    · rw [failed] at ok
      cases ok
    · rw [after]
      exact reply seqs ok

end Commands

section Steps

variable {service : Service} {runId : String} {system : System}

theorem updateRun_agrees {store : GatewayStore} {db : Database} {target : String} {change : GatewayStore.Change}
    (agrees : ∀ run, store.runs runId = some run → ∀ status, run.status.durable? = some status →
      db.runIs runId status)
    (sets : target = runId → ∀ run status, (change.apply run).status.durable? = some status →
      run.status.durable? = some status ∨ db.runIs runId status) :
    ∀ run, (store.updateRun target change).runs runId = some run → ∀ status, run.status.durable? = some status →
      db.runIs runId status := by
  intro run found status claims
  simp only [GatewayStore.updateRun] at found
  split_ifs at found with same
  · obtain ⟨old, stored, rfl⟩ := map_eq_some_iff.mp found
    rcases sets same.symm old status claims with before | durable
    · exact agrees old stored status before
    · exact durable
  · exact agrees run found status claims

theorem TerminalStatus.memory_durable? (target : TerminalStatus) : target.memory.durable? = some target.durable := by
  cases target <;> rfl

theorem Reserved.apply_agrees {store : GatewayStore} {db : Database} {commit : Reserved}
    (agrees : ∀ run, store.runs runId = some run → ∀ status, run.status.durable? = some status →
      db.runIs runId status)
    (settled : commit.Settled runId db) (seqs : List (String × Int)) :
    ∀ run, (commit.apply service store seqs).1.runs runId = some run →
      ∀ status, run.status.durable? = some status → db.runIs runId status := by
  cases commit with
  | commit event message payload =>
    simp only [Reserved.apply, GatewayStore.pushMessage?_runs]
    exact updateRun_agrees agrees fun _ run status claims => .inl (by simpa [logEvents] using claims)
  | pair first second input =>
    exact updateRun_agrees agrees fun _ run status claims => .inl (by simpa [logEvents] using claims)
  | transition event input =>
    refine updateRun_agrees agrees fun _ run status claims => .inl ?_
    simp only [logWhileStarted] at claims
    split_ifs at claims <;> simpa using claims
  | terminal target call origin =>
    have kept : ∀ run, (applyTerminal service store target call seqs).runs runId = some run →
        ∀ status, run.status.durable? = some status → db.runIs runId status := by
      simp only [applyTerminal, GatewayStore.pushMessage?_runs]
      refine updateRun_agrees agrees fun same run status claims => .inr ?_
      simp only [logTerminal, TerminalStatus.memory_durable?, some.injEq] at claims
      rw [← claims]
      exact settled same
    cases origin <;> exact kept

namespace TerminalInvariant

variable (invariant : TerminalInvariant runId system)
include invariant

theorem withStore {store : GatewayStore}
    (agrees : ∀ run, store.runs runId = some run → ∀ status, run.status.durable? = some status →
      system.db.runIs runId status) :
    TerminalInvariant runId { system with store } :=
  ⟨⟨invariant.durable, agrees⟩, invariant.parked, invariant.handed, invariant.flight⟩

theorem clearPending (target : String) : TerminalInvariant runId (system.setPending target none) := by
  refine ⟨⟨invariant.durable, invariant.memory⟩, fun pending found => ?_, invariant.handed, invariant.flight⟩
  simp only [System.setPending] at found
  split_ifs at found
  exact invariant.parked pending found

theorem closeStream (target : String) : TerminalInvariant runId (system.closeStream target) :=
  invariant.withStore (updateRun_agrees invariant.memory fun _ _ _ claims => .inl claims)

theorem withFlight {flight : Option Flight} (sound : ∀ value, flight = some value → value.Sound runId system.db) :
    TerminalInvariant runId { system with flight } :=
  ⟨⟨invariant.durable, invariant.memory⟩, invariant.parked, invariant.handed, sound⟩

theorem land : TerminalInvariant runId { system with flight := none } :=
  invariant.withFlight fun _ flying => by cases flying

theorem persist {commit : Reserved} (flying : system.flight = some (.reserved commit)) (outcome : StorageOutcome) :
    TerminalInvariant runId (system.persist service commit outcome) := by
  have shaped : commit.Shaped runId := invariant.flight _ flying
  have ends : Database.Ends runId system.db (commit.persist service.host system.db outcome).1 := by
    cases outcome with
    | answered => exact commit.execute_ends service.host system.db shaped
    | lost => exact Database.Ends.refl _ _
    | unacknowledged => exact commit.execute_ends service.host system.db shaped
  have settled : ∀ seqs, (commit.persist service.host system.db outcome).2 = .ok seqs →
      commit.Settled runId (commit.persist service.host system.db outcome).1 := by
    intro seqs ok
    cases outcome with
    | answered => exact commit.execute_settled service.host system.db shaped ok
    | lost => cases ok
    | unacknowledged => cases ok
  refine ⟨⟨invariant.durable.step ends, fun run found status claims => ?_⟩, invariant.parked, invariant.handed,
    fun flight now => ?_⟩
  · refine ends.keeps ?_ (invariant.memory run found status claims)
    cases state : run.status <;> simp only [state, MemoryStatus.durable?, reduceCtorEq, some.injEq] at claims <;>
      subst claims <;> rfl
  · cases now
    exact ⟨shaped, settled⟩

theorem finishApplied {commit : Reserved} {seqs : List (String × Int)}
    (flying : system.flight = some (.answered commit (.ok seqs))) :
    TerminalInvariant runId (system.finishApplied service seqs commit) := by
  have settled : commit.Settled runId system.db := (invariant.flight _ flying).2 seqs rfl
  have applied : TerminalInvariant runId { system with
      store := (commit.apply service system.store seqs).1
      published := system.published ++ (commit.apply service system.store seqs).2 } :=
    ⟨⟨invariant.durable, Reserved.apply_agrees invariant.memory settled seqs⟩, invariant.parked,
      invariant.handed, invariant.flight⟩
  unfold System.finishApplied
  dsimp only
  split
  · exact applied.clearPending _
  · exact applied

theorem handBack (shaped : (Reserved.terminal target call .worker).Shaped runId) : TerminalInvariant runId
      { system with handedBack := system.handedBack ++ [(call.runId, System.handBack target call)] } := by
  refine ⟨⟨invariant.durable, invariant.memory⟩, invariant.parked, fun entry member own => ?_, invariant.flight⟩
  rcases List.mem_append.mp member with old | new
  · exact invariant.handed entry old own
  · rw [List.mem_singleton] at new
    subst new
    exact shaped.2 own

theorem stop (target : String) : TerminalInvariant runId (system.stop target) := by
  refine invariant.withStore (updateRun_agrees invariant.memory fun _ run status claims => ?_)
  dsimp only at claims
  split_ifs at claims
  · cases claims
  · exact .inl claims

theorem park {target : String} {pending : PendingTerminal} (handed : (target, pending) ∈ system.handedBack) :
    TerminalInvariant runId (system.park target pending) := by
  refine ⟨⟨invariant.durable, updateRun_agrees invariant.memory fun _ run status claims => by cases claims⟩,
    fun parked found => ?_, invariant.handed, invariant.flight⟩
  simp only [System.park] at found
  split_ifs at found with same
  · cases found
    exact invariant.handed _ handed same.symm
  · exact invariant.parked parked found

theorem next {label : Label} {later : System} (taken : system.next service label = some later) :
    TerminalInvariant runId later := by
  cases System.steps_of_next taken with
  | begin =>
    refine invariant.withFlight fun flight made => ?_
    obtain ⟨commit, reserved, rfl⟩ := map_eq_some_iff.mp made
    exact (Request.reserve_drawn reserved).shaped
  | idle => exact invariant
  | drop => exact invariant.clearPending _
  | expire => exact (invariant.clearPending _).closeStream _
  | @retry target _ draws pending parked =>
    refine invariant.withFlight fun flight made => ?_
    cases made
    by_cases same : target = runId
    · subst same
      exact retryPendingTerminal_shaped (invariant.parked pending parked) draws
    · exact ⟨rfl, fun own => absurd own same⟩
  | persist flying => exact invariant.persist flying _
  | applied flying => exact (invariant.finishApplied flying).land
  | handBack flying => exact (invariant.handBack (invariant.flight _ flying).1).land
  | giveUp => exact ((invariant.clearPending _).closeStream _).land
  | failed => exact invariant.land
  | stop => exact invariant.stop _
  | halt => exact invariant
  | park handed => exact invariant.park handed

end TerminalInvariant

theorem System.Admitted.invariant (admitted : system.Admitted runId) : TerminalInvariant runId system := by
  refine ⟨⟨⟨by simp [admitted.log], by simp [admitted.log]⟩, fun run found status claims => ?_⟩, ?_, ?_, ?_⟩
  · rw [admitted.memory run found] at claims
    cases claims
  · intro pending found
    rw [admitted.parked] at found
    cases found
  · exact fun entry member own => absurd own (admitted.handed entry member)
  · intro flight found
    rw [admitted.idle] at found
    cases found

end Steps

theorem single_terminal (service : Service) (runId : String) (labels : List Label) (start final : System)
    (admitted : start.Admitted runId) (reached : run (System.next service) start labels = some final) :
    SingleTerminal final runId := by
  have along : Along (System.next service) (fun _ _ => True) start labels := along_true start labels
  exact (run_invariant (fun _ _ _ invariant _ taken => TerminalInvariant.next invariant taken)
    admitted.invariant along reached).toSingleTerminal

def racingEnds : List Label :=
  [.begin (.complete "r" "s" "done") (tagged "a" 2), .stop "r", .persist .unacknowledged, .finish, .halt,
    .begin (.cancel "r" "requested") (tagged "b" 3), .persist .answered, .finish,
    .park "r" (System.handBack .cancelled (terminalCall "r" "" .cancelled
      [{ eventId := "b0", seq := 2, event := .runCancelled, runId := "r", timestamp := 3,
         data := .obj [("reason", .str "requested"), ("status", .str "cancelled")] }] none 3)),
    .retry "r" false (tagged "c" 4), .persist .answered, .finish]

theorem single_terminal_under_race :
    ∃ final, run (System.next (soloService 4)) soloSystem racingEnds = some final ∧ SingleTerminal final "r" := by
  have taken : (run (System.next (soloService 4)) soloSystem racingEnds).isSome = true := by decide +kernel
  obtain ⟨final, reached⟩ := isSome_iff_exists.mp taken
  refine ⟨final, reached, single_terminal (soloService 4) "r" racingEnds soloSystem final ?_ reached⟩
  exact ⟨by decide, by decide, by simp [soloSystem, soloStore, soloRecord], rfl, rfl, by simp [soloSystem]⟩

end RustScriptAgent.Gateway
