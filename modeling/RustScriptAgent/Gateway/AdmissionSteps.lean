import RustScriptAgent.Gateway.Admission
import RustScriptAgent.Gateway.EventLog
import RustScriptAgent.Gateway.Memory
import RustScriptAgent.Storage.AdmissionOutcome

namespace RustScriptAgent.Gateway

open Storage Sequences Relational GatewayStore Option

variable {label : Label} {plan : AdmissionPlan}

namespace Reserved

def rewrite : Reserved → RunRow → RunRow
  | .commit _ _ (.eventAppend input) => touchedRun input.runId input.nowMs
  | .commit _ _ (.step input) => touchedRun input.runId input.nowMs
  | .pair _ _ input => touchedRun input.runId input.nowMs
  | .transition _ input => input.rewrite
  | .terminal _ call _ => call.input.rewrite

def written (db : Database) : Reserved → List MessageRow
  | .commit _ _ (.step input) => input.written db
  | .terminal _ call _ => call.input.written db
  | _ => []

theorem rewrite_samePlace (commit : Reserved) (row : RunRow) : row.SamePlace (commit.rewrite row) := by
  match commit with
  | .commit _ _ (.eventAppend _) => exact touchedRun_samePlace _ _ row
  | .commit _ _ (.step _) => exact touchedRun_samePlace _ _ row
  | .pair _ _ _ => exact touchedRun_samePlace _ _ row
  | .transition _ input => exact input.rewrite_samePlace row
  | .terminal _ call _ => exact call.input.rewrite_samePlace row

theorem execute_footprint (host : Host) (db : Database) (commit : Reserved) :
    Footprint db (commit.execute host db).1 commit.rewrite (commit.written db) := by
  match commit with
  | .commit _ _ (.eventAppend input) =>
    rw [execute, answer_fst]
    exact storageEventAppend_footprint host db input
  | .commit _ _ (.step input) =>
    rw [execute, answer_fst]
    exact storageStepCommit_footprint host db input
  | .pair _ _ input =>
    rw [execute, answer_fst]
    exact storageEventAppendPair_footprint host db input
  | .transition _ input =>
    rw [execute, answer_fst]
    exact storageRunTransition_footprint host db input
  | .terminal target call origin =>
    rw [execute_terminal_fst, terminalCommit_fst]
    exact storageRunTerminal_footprint host db call.input

theorem persist_footprint (host : Host) (db : Database) (commit : Reserved) (outcome : StorageOutcome) :
    Footprint db (commit.persist host db outcome).1 commit.rewrite (commit.written db) := by
  cases outcome with
  | answered => exact commit.execute_footprint host db
  | lost => exact Footprint.refl db _ _
  | unacknowledged => exact commit.execute_footprint host db

end Reserved

namespace GatewayStore

variable {store : GatewayStore}

def home (store : GatewayStore) (runId : String) : Option String := (store.runs runId).map RunRecord.sessionId

theorem updateRun_home {target : String} {change : Change}
    (keeps : ∀ old, (change.apply old).sessionId = old.sessionId) :
    (store.updateRun target change).home = store.home := by
  funext id
  simp only [home, updateRun]
  split_ifs
  · cases store.runs id with
    | none => rfl
    | some run => simp [keeps run]
  · rfl

theorem pushMessage?_home (message : Option SessionMessage) : (store.pushMessage? message).home = store.home := by
  funext id
  simp [home]

theorem pushMessage?_isSome (message : Option SessionMessage) (id : String) :
    ((store.pushMessage? message).sessions id).isSome = (store.sessions id).isSome := by
  cases message with
  | none => rfl
  | some message =>
    simp only [pushMessage?, pushMessage]
    split_ifs <;> simp

theorem home_isSome (id : String) : (store.home id).isSome = (store.runs id).isSome := by simp [home]

theorem home_removeRuns (sessionId id : String) :
    (store.removeRuns sessionId).home id = (store.home id).filter (· != sessionId) := by
  simp only [home, removeRuns]
  cases store.runs id with
  | none => rfl
  | some run => by_cases own : run.sessionId = sessionId <;> simp [own, Option.filter]

end GatewayStore

theorem applyEvents_sessionId (service : Service) (run : RunRecord) (events : List GatewayEvent) :
    (applyEvents service run events).sessionId = run.sessionId := by
  unfold applyEvents
  induction events generalizing run with
  | nil => rfl
  | cons event rest ih => rw [List.foldl_cons, ih, applyEventLocked_sessionId]

theorem Reserved.apply_home (service : Service) (store : GatewayStore) (seqs : List (String × Int))
    (commit : Reserved) : (commit.apply service store seqs).1.home = store.home := by
  cases commit with
  | commit event message payload =>
    exact (pushMessage?_home message).trans
      (updateRun_home fun old => applyEvents_sessionId service old [event])
  | pair first second input =>
    exact updateRun_home fun old => applyEvents_sessionId service old [first, second]
  | transition event input =>
    refine updateRun_home fun old => ?_
    simp only [logWhileStarted]
    split_ifs
    · exact applyEvents_sessionId service old [event]
    · rfl
  | terminal target call origin =>
    have there : (applyTerminal service store target call seqs).home = store.home :=
      (pushMessage?_home call.assistantMessage).trans
        (updateRun_home fun old => applyEvents_sessionId service old _)
    cases origin <;> exact there

namespace System

variable {service : Service} {system later : System}

theorem next_home (taken : system.next service label = some later) : later.store.home = system.store.home := by
  cases steps_of_next taken with
  | @applied commit seqs flying =>
    exact (congrArg home (finishApplied_store seqs commit)).trans
      (commit.apply_home service system.store seqs)
  | stop =>
    refine updateRun_home fun old => ?_
    dsimp only
    split_ifs <;> rfl
  | expire | giveUp | park => exact updateRun_home fun _ => rfl
  | begin | idle | drop | retry | persist | handBack | failed | halt => rfl

theorem next_isSome (taken : system.next service label = some later) (id : String) :
    (later.store.sessions id).isSome = (system.store.sessions id).isSome := by
  rcases next_store taken with ⟨same, _⟩ | ⟨commit, seqs, _, store⟩
  · rw [same]
  · rw [store, Reserved.apply_sessions, pushMessage?_isSome]

end System

namespace GatewayState

variable {service : Service} {encode : Json → JsonText} {gateway later : GatewayState}

theorem next_step (taken : gateway.next service encode (.step label) = some later) :
    gateway.system.next service label = some later.system ∧ later.idempotency = gateway.idempotency ∧
      later.admission = gateway.admission := by
  simp only [next] at taken
  split_ifs at taken
  obtain ⟨system, moved, rfl⟩ := map_eq_some_iff.mp taken
  exact ⟨moved, rfl, rfl⟩

structure Ready (gateway : GatewayState) (plan : AdmissionPlan) : Prop where
  session : plan.sessionNew = true ∨ (gateway.system.store.sessions plan.sessionId).isSome = true
  parent : ∀ parent, plan.parentRunId = some parent → (gateway.system.store.home parent).isSome = true
  key : gateway.knownKey plan = none
  run : gateway.system.store.home plan.runId = none

theorem Ready.of_checks (unknown : gateway.knownKey plan = none)
    (missing : plan.sessionNew = false → gateway.system.store.sessions plan.sessionId ≠ none)
    (orphan : ¬plan.parentRunId.any (fun parent => (gateway.system.store.runs parent).isNone))
    (there : ¬(gateway.system.store.runs plan.runId).isSome) : gateway.Ready plan := by
  refine ⟨?_, fun parent named => ?_, unknown, ?_⟩
  · cases new : plan.sessionNew with
    | true => exact .inl rfl
    | false => exact .inr (isSome_iff_ne_none.mpr (missing new))
  · rw [home_isSome, isSome_iff_ne_none]
    simpa [named] using orphan
  · have absent : gateway.system.store.runs plan.runId = none := by simpa using there
    simp [home, absent]

theorem Review.passes {failed : Prop} [Decidable failed] {stop onward : Review} (stops : stop ≠ .ready)
    (ready : (if failed then stop else onward) = .ready) : ¬failed ∧ onward = .ready := by
  by_cases holds : failed
  · rw [if_pos holds] at ready
    exact absurd ready stops
  · rw [if_neg holds] at ready
    exact ⟨holds, ready⟩

theorem review_ready {view : AdmissionView} (ready : gateway.review plan view = .ready) : gateway.Ready plan := by
  rw [review] at ready
  obtain ⟨_, ready⟩ := Review.passes (by nofun) ready
  obtain ⟨_, ready⟩ := Review.passes (by nofun) ready
  obtain ⟨_, ready⟩ := Review.passes (by nofun) ready
  obtain ⟨missing, ready⟩ := Review.passes (by nofun) ready
  obtain ⟨orphan, ready⟩ := Review.passes (by nofun) ready
  obtain ⟨_, ready⟩ := Review.passes (by nofun) ready
  obtain ⟨_, ready⟩ := Review.passes (by nofun) ready
  obtain ⟨_, ready⟩ := Review.passes (by nofun) ready
  cases unknown : gateway.knownKey plan with
  | some record =>
    rw [unknown] at ready
    cases ready
  | none =>
    rw [unknown] at ready
    obtain ⟨there, ready⟩ := Review.passes (by nofun) ready
    exact Ready.of_checks unknown (fun new => by simpa [new] using missing) orphan there

theorem next_review {view : AdmissionView} (taken : gateway.next service encode (.review plan view) = some later) :
    gateway.admission = none ∧
      (later = gateway ∨ (later = { gateway with admission := some ⟨plan, none⟩ } ∧ gateway.Ready plan)) := by
  simp only [next] at taken
  split_ifs at taken with busy
  have idle : gateway.admission = none := by
    rw [not_or, Bool.not_eq_true, Bool.not_eq_true] at busy
    simpa using busy.2
  refine ⟨idle, ?_⟩
  split at taken
  · rename_i ready
    cases taken
    exact .inr ⟨rfl, review_ready ready⟩
  · cases taken
    exact .inl rfl

theorem next_admitRun {outcome : StorageOutcome}
    (taken : gateway.next service encode (.admitRun outcome) = some later) :
    ∃ plan, gateway.admission = some ⟨plan, none⟩ ∧
      later = { gateway with
        system := { gateway.system with
          db := (deliverAnswer gateway.system.db
            (storageAdmissionCreate service.host encode gateway.system.db plan.payload) outcome).1 }
        admission := some ⟨plan, some (deliverAnswer gateway.system.db
          (storageAdmissionCreate service.host encode gateway.system.db plan.payload) outcome).2⟩ } := by
  simp only [next] at taken
  split at taken <;> cases taken
  rename_i plan flying
  exact ⟨plan, flying, rfl⟩

theorem publish_cases (plan : AdmissionPlan) (reply : AdmissionReply) (compares : Bool) :
    (gateway.publish plan reply compares).1 = gateway ∧ ¬(reply.replayed = false ∧ gateway.Ready plan) ∨
      (reply.replayed = false ∧ gateway.Ready plan ∧
        gateway.publish plan reply compares =
          (gateway.insertAdmitted plan, .ok ⟨plan.runId, plan.sessionId, MemoryStatus.started.text, false⟩)) := by
  -- a reply is published in full or leaves the gateway as it was
  cases unknown : gateway.knownKey plan with
  | some record =>
    have kept : ¬(reply.replayed = false ∧ gateway.Ready plan) := by
      rintro ⟨_, ready⟩
      have absent := ready.key
      rw [unknown] at absent
      cases absent
    refine .inl ⟨?_, kept⟩
    rw [publish, unknown]
    dsimp only
    split_ifs <;> rfl
  | none =>
    rw [publish, unknown]
    dsimp only
    split_ifs with replayed there missing orphan
    · exact .inl ⟨rfl, fun fresh => by simp [replayed] at fresh⟩
    · refine .inl ⟨rfl, fun fresh => ?_⟩
      have absent := fresh.2.run
      rw [← home_isSome, absent] at there
      cases there
    · refine .inl ⟨rfl, fun fresh => ?_⟩
      rcases fresh.2.session with new | known
      · simp [new] at missing
      · simp only [Bool.and_eq_true, isNone_iff_eq_none] at missing
        simp [missing.2] at known
    · refine .inl ⟨rfl, fun fresh => ?_⟩
      obtain ⟨parent, named, lost⟩ := (any_eq_true _ _).mp orphan
      have known := fresh.2.parent parent named
      rw [home_isSome, isSome_iff_ne_none] at known
      exact known (isNone_iff_eq_none.mp lost)
    · exact .inr ⟨by simpa using replayed,
        Ready.of_checks unknown (fun new => by simpa [new] using missing) orphan there, rfl⟩

theorem next_publish {compares : Bool} (taken : gateway.next service encode (.publish compares) = some later) :
    ∃ plan reply, gateway.admission = some ⟨plan, some reply⟩ ∧
      ((later = { gateway with admission := none } ∧ ¬((∃ run, reply = .ok ⟨false, run⟩) ∧ gateway.Ready plan)) ∨
        (∃ run, reply = .ok ⟨false, run⟩) ∧ gateway.Ready plan ∧
          later = { gateway.insertAdmitted plan with admission := none }) := by
  simp only [next] at taken
  split at taken
  · rename_i plan reply flying
    cases taken
    refine ⟨plan, .ok reply, flying, ?_⟩
    rcases publish_cases plan reply compares with ⟨same, kept⟩ | ⟨fresh, ready, published⟩
    · refine .inl ⟨by rw [same], fun again => kept ⟨?_, again.2⟩⟩
      obtain ⟨run, stored⟩ := again.1
      cases stored
      rfl
    · refine .inr ⟨⟨reply.run, ?_⟩, ready, by rw [published]⟩
      rcases reply with ⟨_, run⟩
      cases fresh
      rfl
  · rename_i plan error flying
    cases taken
    refine ⟨plan, .error error, flying, .inl ⟨rfl, fun again => ?_⟩⟩
    obtain ⟨run, stored⟩ := again.1
    cases stored
  · cases taken

structure Cleared (host : Host) (sessionId : String) (gateway later : GatewayState) : Prop where
  db : ∃ middle, (middle = gateway.system.db ∨
      middle = (storageSessionDelete host gateway.system.db sessionId).1) ∧
    (later.system.db = middle ∨ ∃ input : SessionCreateInput, input.id = sessionId ∧
      later.system.db = (storageSessionCreate host middle input).1)
  home : later.system.store.home = gateway.system.store.home ∨
    later.system.store.home = (gateway.system.store.removeRuns sessionId).home
  sessions : ∀ id, id ≠ sessionId → later.system.store.sessions id = gateway.system.store.sessions id
  idempotency : later.idempotency = gateway.idempotency
  admission : later.admission = gateway.admission
  flight : later.system.flight = gateway.system.flight

theorem deliverAnswer_fst {Data : Type} (db : Database) (result : Database × Except StorageError Data)
    (outcome : StorageOutcome) :
    (deliverAnswer db result outcome).1 = db ∨ (deliverAnswer db result outcome).1 = result.1 := by
  cases outcome <;> simp [deliverAnswer]

theorem deleteSession_cleared (sessionId : String) (outcome : StorageOutcome) :
    Cleared service.host sessionId gateway (gateway.deleteSession service sessionId outcome) := by
  unfold deleteSession
  dsimp only
  split_ifs
  · exact ⟨⟨_, .inl rfl, .inl rfl⟩, .inl rfl, fun _ _ => rfl, rfl, rfl, rfl⟩
  · have tables := deliverAnswer_fst gateway.system.db
      (storageSessionDelete service.host gateway.system.db sessionId) outcome
    split
    · rename_i next answered
      rw [answered] at tables
      refine ⟨⟨next, tables, .inl rfl⟩, .inr rfl, fun id other => ?_, rfl, rfl, rfl⟩
      simp [withStore, setSession, removeRuns, other]
    · rename_i next error answered
      rw [answered] at tables
      exact ⟨⟨next, tables, .inl rfl⟩, .inl rfl, fun _ _ => rfl, rfl, rfl, rfl⟩

theorem renewSession_cleared (input : SessionCreateInput) (deleted created : StorageOutcome) :
    Cleared service.host input.id gateway (gateway.renewSession service input deleted created) := by
  have tables := deliverAnswer_fst gateway.system.db
    (storageSessionDelete service.host gateway.system.db input.id) deleted
  have stored (db : Database) := deliverAnswer_fst db (storageSessionCreate service.host db input) created
  have made {db next : Database} (reached : next = db ∨ next = (storageSessionCreate service.host db input).1) :
      next = db ∨ ∃ given : SessionCreateInput, given.id = input.id ∧
        next = (storageSessionCreate service.host db given).1 := reached.imp_right fun same => ⟨input, rfl, same⟩
  unfold renewSession
  dsimp only
  split_ifs
  · split
    · rename_i next answered
      have reached := stored gateway.system.db
      rw [answered] at reached
      refine ⟨⟨_, .inl rfl, made reached⟩, .inl rfl, fun id other => ?_, rfl, rfl, rfl⟩
      simp [withStore, setSession, other]
    · rename_i next error answered
      have reached := stored gateway.system.db
      rw [answered] at reached
      exact ⟨⟨_, .inl rfl, made reached⟩, .inl rfl, fun _ _ => rfl, rfl, rfl, rfl⟩
  · split
    · rename_i middle gone
      rw [gone] at tables
      split
      · rename_i next answered
        have reached := stored middle
        rw [answered] at reached
        refine ⟨⟨middle, tables, made reached⟩, .inr rfl, fun id other => ?_, rfl, rfl, rfl⟩
        simp [withStore, setSession, removeRuns, other]
      · rename_i next error answered
        have reached := stored middle
        rw [answered] at reached
        refine ⟨⟨middle, tables, made reached⟩, .inr rfl, fun id other => ?_, rfl, rfl, rfl⟩
        simp [withStore, setSession, removeRuns, other]
    · rename_i middle error gone
      rw [gone] at tables
      exact ⟨⟨middle, tables, .inl rfl⟩, .inr rfl, fun _ _ => rfl, rfl, rfl, rfl⟩

theorem next_restart {work : List Startup} (taken : gateway.next service encode (.restart work) = some later) :
    ∃ store idempotency, restart service (work.foldl Startup.apply gateway.system.db) = .ok store ∧
      loadIdempotency (work.foldl Startup.apply gateway.system.db) = .ok idempotency ∧
      later = {
        system := { gateway.system with
          db := work.foldl Startup.apply gateway.system.db
          store, pending := fun _ => none, handedBack := [], flight := none }
        idempotency
        admission := none } := by
  have loaded := toOption_eq_some.mp taken
  unfold load at loaded
  cases store : restart service (work.foldl Startup.apply gateway.system.db) with
  | error error => simp [store, bind, Except.bind] at loaded
  | ok fresh =>
    cases keys : loadIdempotency (work.foldl Startup.apply gateway.system.db) with
    | error error => simp [store, keys, bind, Except.bind] at loaded
    | ok idempotency =>
      simp only [store, keys, bind, Except.bind, pure, Except.pure, Except.ok.injEq] at loaded
      exact ⟨fresh, idempotency, rfl, rfl, loaded.symm⟩

end GatewayState

end RustScriptAgent.Gateway
