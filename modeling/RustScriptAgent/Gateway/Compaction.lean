import RustScriptAgent.Gateway.System
import RustScriptAgent.Storage.Compactions
import RustScriptAgent.Storage.Effects

namespace RustScriptAgent.Gateway

open Storage Transitions Database Option

inductive CompactionFailure where
  | host (detail : String)
  | rss (code detail : String)
  deriving DecidableEq

def CommitFailure.code : CommitFailure → String
  | refused error => error.code
  | unavailable => "storage_unavailable"

structure Progress where
  remaining : List Json
  compactionId : String
  started : Bool
  deriving DecidableEq

inductive Round where
  | going (progress : Progress)
  | ended (execution : Except String Unit)

def beginExecution (plan : Json) : Except String Progress :=
  match (plan.get? "commands").bind Json.asArr? with
  | none => .error "RSS compaction plan omitted storage commands"
  | some commands =>
    if commands.length ≠ 3 then
      .error "RSS compaction plan did not emit the start/compact/commit sequence"
    else
      match (commands.head?.bind (Json.get? "payload")).bind (Json.getStr? "id") with
      | none => .error "RSS compaction start omitted its identifier"
      | some compactionId => .ok { remaining := commands, compactionId, started := false }

/-- `fail_rss_compaction`, with the decision that the script takes for the failure -/
def failRssCompaction (host : Host) (db : Database) (failing : Except String Json) (outcome : StorageOutcome) :
    Database × Except String Unit :=
  match failing with
  | .error detail => (db, .error ("RSS compaction failure decision failed: " ++ detail))
  | .ok failure =>
    match failure.get? "payload" with
    | none => (db, .error "RSS compaction failure omitted its storage payload")
    | some payload =>
      match deliverAnswer db (storageCompactionFail host db payload) outcome with
      | (next, .ok ()) => (next, .ok ())
      | (next, .error error) => (next, .error ("persist RSS compaction failure: " ++ error.code))

structure RoundInput where
  deadlinePassed : Bool
  outcome : StorageOutcome
  failing : Except String Json
  failOutcome : StorageOutcome

def Progress.giveUp (progress : Progress) (host : Host) (db : Database) (input : RoundInput) (detail : String) :
    Database × Round :=
  if progress.started then
    match failRssCompaction host db input.failing input.failOutcome with
    | (next, .ok ()) => (next, .ended (.error detail))
    | (next, .error other) => (next, .ended (.error other))
  else (db, .ended (.error detail))

def Progress.round (progress : Progress) (host : Host) (db : Database) (cancelled : Bool) (input : RoundInput) :
    Database × Round :=
  match progress.remaining with
  | [] => (db, .ended (.ok ()))
  | command :: rest =>
    if cancelled then progress.giveUp host db input "run was cancelled during compaction"
    else
      match command.getStr? "op", command.get? "payload" with
      | none, _ => (db, .ended (.error "RSS compaction command omitted its operation"))
      | some _, none => (db, .ended (.error "RSS compaction command omitted its payload"))
      | some op, some payload =>
        let failed (next : Database) (error : StorageError) :=
          progress.giveUp host next input ("execute RSS storage command " ++ op ++ ": " ++ error.code)
        if op = "compaction.start" then
          match deliverAnswer db (storageCompactionStart host db payload) input.outcome with
          | (next, .error error) => failed next error
          | (next, .ok []) => (next, .ended (.error "compaction.start returned no pending durable row"))
          | (next, .ok _) => (next, .going { progress with remaining := rest, started := true })
        else if op = "message.compact" then
          match deliverAnswer db (storageMessageMarkCompacted host db payload) input.outcome with
          | (next, .error error) => failed next error
          | (next, .ok ()) => (next, .going { progress with remaining := rest })
        else if op = "compaction.commit" then
          match deliverAnswer db (storageCompactionCommit host db payload) input.outcome with
          | (next, .error error) => failed next error
          | (next, .ok ()) => (next, .going { progress with remaining := rest, started := false })
        else (db, .ended (.error ("RSS compaction emitted unsupported storage operation " ++ op)))

inductive Phase where
  | deciding
  | planned (plan : Json)
  | cleared (plan : Json)
  | opening (plan : Json)
  | executing (plan : Json) (progress : Progress)
  | executed (plan : Json) (execution : Except String Unit)
  | closing (plan : Json) (execution : Except String Unit)
  | closed (plan : Json) (execution restore : Except String Unit)
  | returned (result : Except CompactionFailure Json)

structure Refresh where
  system : System
  requested : Bool
  phase : Phase

inductive RefreshLabel where
  | decision (answer : Except CompactionFailure Json)
  | check (deadlinePassed : Bool)
  | lock (draws : Draws)
  | storage (outcome : StorageOutcome)
  | unlock
  | command (input : RoundInput)
  | verify (snapshot : Except String Int)
  | stop (runId : String)
  | halt

def contextMessages (decision : Json) : Json := (decision.get? "context_messages").getD (.arr [])

def decided (decision : Json) : Phase :=
  match (decision.getStr? "kind").getD "" with
  | "compact.skip" => .returned (.ok (contextMessages decision))
  | "compact.plan" => .planned decision
  | "compact.error" =>
    match decision.getStr? "code", decision.getStr? "message" with
    | none, _ => .returned (.error (.host "RSS compaction error omitted its code"))
    | some _, none => .returned (.error (.host "RSS compaction error omitted its message"))
    | some code, some detail => .returned (.error (.rss code detail))
  | _ => .returned (.error (.host "RSS compaction policy returned an invalid decision"))

def transitionOutcome (store : GatewayStore) (runId : String) (fromStatus toStatus : RunStatus) :
    Reply → Except String Unit
  | .error failure =>
    .error ("transition compaction run " ++ fromStatus.text ++ "->" ++ toStatus.text ++ ": " ++ failure.code)
  | .ok _ =>
    match store.runs runId with
    | none => .error "compaction run disappeared after transition"
    | some run =>
      if run.status ≠ .started then .error "in-memory compaction run ended during transition" else .ok ()

def concluded (plan : Json) (execution restore : Except String Unit) (snapshot : Except String Int) :
    Except CompactionFailure Json :=
  match execution, restore, plan.getInt? "generation", snapshot with
  | .error detail, _, _, _ => .error (.host detail)
  | .ok (), .error detail, _, _ => .error (.host detail)
  | .ok (), .ok (), none, _ => .error (.host "RSS compaction plan omitted its target generation")
  | .ok (), .ok (), some _, .error detail => .error (.host detail)
  | .ok (), .ok (), some expected, .ok actual =>
    if actual ≠ expected then
      .error (.host ("committed compaction generation mismatch: expected " ++ toString expected ++
        ", found " ++ toString actual))
    else .ok (contextMessages plan)

namespace Refresh

def begin (service : Service) (state : Refresh) (runId : String) (fromStatus toStatus : RunStatus) (draws : Draws)
    (taken : Phase) (refused : String → Phase) : Option Refresh :=
  match transitionCompactionRun state.system.store runId fromStatus toStatus draws with
  | .error detail => some { state with phase := refused detail }
  | .ok _ =>
    (state.system.next service (.begin (.transition runId fromStatus toStatus) draws)).map fun system =>
      { state with system, phase := taken }

def unlock (service : Service) (state : Refresh) (runId : String) (fromStatus toStatus : RunStatus)
    (onward : Except String Unit → Phase) : Option Refresh :=
  match state.system.flight with
  | some (.answered _ reply) =>
    (state.system.next service .finish).map fun system =>
      { state with system, phase := onward (transitionOutcome state.system.store runId fromStatus toStatus reply) }
  | _ => none

def next (service : Service) (runId : String) (state : Refresh) : RefreshLabel → Option Refresh
  | .decision answer =>
    match state.phase, answer with
    | .deciding, .error failure => some { state with phase := .returned (.error failure) }
    | .deciding, .ok decision => some { state with phase := decided decision }
    | _, _ => none
  | .check deadlinePassed =>
    match state.phase with
    | .planned plan =>
      if state.requested || deadlinePassed then
        some { state with
          phase := .returned (.error (.rss "cancelled" "run was cancelled before compaction transaction")) }
      else some { state with phase := .cleared plan }
    | _ => none
  | .lock draws =>
    match state.phase with
    | .cleared plan =>
      state.begin service runId .running .compacting draws (.opening plan)
        fun detail => .returned (.error (.host detail))
    | .executed plan execution =>
      state.begin service runId .compacting .running draws (.closing plan execution)
        fun detail => .closed plan execution (.error detail)
    | _ => none
  | .storage outcome => (state.system.next service (.persist outcome)).map fun system => { state with system }
  | .unlock =>
    match state.phase with
    | .opening plan =>
      state.unlock service runId .running .compacting fun
        | .error detail => .returned (.error (.host detail))
        | .ok () =>
          match beginExecution plan with
          | .error detail => .executed plan (.error detail)
          | .ok progress => .executing plan progress
    | .closing plan execution =>
      state.unlock service runId .compacting .running (.closed plan execution)
    | _ => none
  | .command input =>
    match state.phase with
    | .executing plan progress =>
      let result := progress.round service.host state.system.db (state.requested || input.deadlinePassed) input
      let system := { state.system with db := result.1 }
      match result.2 with
      | .going progress => some { state with system, phase := .executing plan progress }
      | .ended execution => some { state with system, phase := .executed plan execution }
    | _ => none
  | .verify snapshot =>
    match state.phase with
    | .closed plan execution restore =>
      some { state with phase := .returned (concluded plan execution restore snapshot) }
    | _ => none
  | .stop target =>
    -- the request that finds its run started is the one that cancels
    let active := (state.system.store.runs target).any fun run => decide (run.status = .started)
    some { state with
      system := state.system.stop target
      requested := state.requested || (target == runId && active) }
  | .halt => some { state with requested := true }

end Refresh

open Refresh

theorem deliverAnswer_runs {Data : Type} {db : Database} {result : Database × Except StorageError Data}
    (kept : result.1.runs = db.runs) (outcome : StorageOutcome) :
      (deliverAnswer db result outcome).1.runs = db.runs := by
  cases outcome
  · exact kept
  · rfl
  · exact kept

theorem failRssCompaction_runs (host : Host) (db : Database) (failing : Except String Json)
    (outcome : StorageOutcome) : (failRssCompaction host db failing outcome).1.runs = db.runs := by
  unfold failRssCompaction
  split
  · rfl
  · split
    · rfl
    · rename_i payload _
      have kept := deliverAnswer_runs (storageCompactionFail_runs host db payload) outcome
      split <;> (rename_i answered; rw [answered] at kept; exact kept)

theorem Progress.giveUp_runs (progress : Progress) (host : Host) (db : Database) (input : RoundInput)
    (detail : String) : (progress.giveUp host db input detail).1.runs = db.runs := by
  unfold Progress.giveUp
  have kept := failRssCompaction_runs host db input.failing input.failOutcome
  split
  · split <;> (rename_i failed; rw [failed] at kept; exact kept)
  · rfl

theorem Progress.round_runs (progress : Progress) (host : Host) (db : Database) (cancelled : Bool)
    (input : RoundInput) : (progress.round host db cancelled input).1.runs = db.runs := by
  unfold Progress.round
  split
  · rfl
  · split
    · exact progress.giveUp_runs host db input _
    · split
      · rfl
      · rfl
      · rename_i op payload _ _
        have start := deliverAnswer_runs (storageCompactionStart_runs host db payload) input.outcome
        have mark := deliverAnswer_runs (storageMessageMarkCompacted_runs host db payload) input.outcome
        have commit := deliverAnswer_runs (storageCompactionCommit_runs host db payload) input.outcome
        dsimp only
        split_ifs
        · split <;> (rename_i answered; rw [answered] at start)
          · exact (progress.giveUp_runs host _ input _).trans start
          · exact start
          · exact start
        · split <;> (rename_i answered; rw [answered] at mark)
          · exact (progress.giveUp_runs host _ input _).trans mark
          · exact mark
        · split <;> (rename_i answered; rw [answered] at commit)
          · exact (progress.giveUp_runs host _ input _).trans commit
          · exact commit
        · rfl

def Phase.bracketed : Phase → Bool
  | opening _ | executing _ _ | executed _ _ => true
  | _ => false

def Phase.resting : Phase → Bool
  | deciding | planned _ | cleared _ | closed _ _ _ | returned _ => true
  | _ => false

def Phase.result? : Phase → Option (Except CompactionFailure Json)
  | returned result => some result
  | _ => none

theorem Phase.result?_eq_some {phase : Phase} {result : Except CompactionFailure Json} :
    phase.result? = some result ↔ phase = .returned result := by
  cases phase <;> simp [result?]

theorem decided_resting (decision : Json) : (decided decision).resting := by
  unfold decided
  split
  · rfl
  · rfl
  · split <;> rfl
  · rfl

namespace Refresh

def storageSucceeds (service : Service) (state : Refresh) : RefreshLabel → Bool
  | .storage outcome =>
    match state.system.flight with
    | some (.reserved commit) => (commit.persist service.host state.system.db outcome).2.toOption.isSome
    | _ => true
  | _ => true

def undisturbed (runId : String) (state : Refresh) : RefreshLabel → Bool
  | .stop target => !(target == runId && state.phase.bracketed)
  | _ => true

end Refresh

structure Restored (host : Host) (db : Database) (runId : String) : Prop where
  settled : ∀ row ∈ db.runs.rows, row.id = runId → row.status.terminal = false → row.status = .running
  accepts : ∀ input : RunTerminalInput, input.runId = runId → db.runIs runId .running = true →
    ∀ message, (storageRunTerminal host db input).2 ≠ .error (.transitionConflict message)

section Terminal

variable {host : Host} {db : Database} {runId : String}

theorem insertTerminalEvents_error {events : List TerminalEvent} {now : Int} {error : StorageError}
    (failed : insertTerminalEvents db runId events now = .error error) : error = .constraintFailed := by
  induction events generalizing db with
  | nil => cases failed
  | cons event rest ih =>
    unfold insertTerminalEvents at failed
    rw [List.foldlM_cons] at failed
    unfold insertTerminalEvent at failed
    split at failed
    · unfold insertEvent at failed
      split at failed
      · exact ih failed
      · cases failed
        rfl
    · exact ih failed

theorem terminalTransaction_error {input : RunTerminalInput} {target : RunStatus} {error : StorageError}
    (failed : terminalTransaction host db input target = .error error) :
    error = .parameterRejected ∨ error = .constraintFailed := by
  unfold terminalTransaction requireParameters at failed
  split at failed
  · cases appended : insertTerminalEvents db input.runId input.events input.nowMs with
    | error other =>
      simp only [appended, bind, Except.bind, Except.error.injEq] at failed
      exact .inr (failed ▸ insertTerminalEvents_error appended)
    | ok staged =>
      simp only [appended, bind, Except.bind, storeTerminalMessage, insertMessage] at failed
      right
      split_ifs at failed
      · cases failed
      · revert failed
        cases staged.messages.insert? (input.message staged) with
        | none =>
          rintro ⟨⟩
          rfl
        | some table => rintro ⟨⟩
  · cases failed
    exact .inl rfl

theorem storageRunTerminal_accepts {input : RunTerminalInput} (running : db.runIs input.runId .running)
    (message : String) : (storageRunTerminal host db input).2 ≠ .error (.transitionConflict message) := by
  obtain ⟨row, member, same, status⟩ := runIs_iff.mp running
  cases parsed : RunStatus.ofText? input.toStatus with
  | none => simp [storageRunTerminal, parsed]
  | some target =>
    by_cases refused : RunTerminalInput.Refused host db input
    · obtain ⟨error, failed⟩ := RunTerminalInput.terminalTransaction_of_refused target refused
      rcases terminalTransaction_error failed with rfl | rfl <;> simp [storageRunTerminal, parsed, failed]
    · obtain ⟨next, outcome, _⟩ := RunTerminalInput.storageRunTerminal_running parsed refused member same status
      rw [outcome]
      dsimp only
      split_ifs <;> simp

theorem restored_iff :
    Restored host db runId ↔
      ∀ row ∈ db.runs.rows, row.id = runId → row.status.terminal = false → row.status = .running := by
  refine ⟨Restored.settled, fun settled => ⟨settled, ?_⟩⟩
  rintro input rfl running message
  exact storageRunTerminal_accepts running message

theorem restored_of_running (running : db.runIs runId .running) : Restored host db runId := by
  obtain ⟨row, member, same, status⟩ := runIs_iff.mp running
  refine restored_iff.mpr fun other found id _ => ?_
  rw [run_unique found member (id.trans same.symm), status]

theorem not_restored_of_compacting (compacting : db.runIs runId .compacting) :
    ¬ Restored host db runId := by
  obtain ⟨row, member, same, status⟩ := runIs_iff.mp compacting
  intro restored
  have running := restored.settled row member same (by rw [status]; rfl)
  rw [status] at running
  cases running

end Terminal

theorem transition_succeeded {service : Service} {db : Database} {event : GatewayEvent} {runId : String}
    {fromStatus toStatus : RunStatus} {now : Int} {outcome : StorageOutcome}
    (ok : ((Reserved.transition event (transitionPayload runId fromStatus toStatus now)).persist service.host db
      outcome).2.toOption.isSome) :
    db.runIs runId fromStatus ∧
      ((Reserved.transition event (transitionPayload runId fromStatus toStatus now)).persist service.host db
        outcome).1.runIs runId toStatus := by
  -- a transition that storage accepts found the run in its first status and leaves it in the second
  cases outcome with
  | lost => cases ok
  | unacknowledged => cases ok
  | answered =>
    simp only [Reserved.persist, Reserved.execute, answer_fst] at ok ⊢
    rcases (transitionPayload runId fromStatus toStatus now).storageRunTransition_cases db service.host with
      ⟨error, failed⟩ | ⟨target, parsed, matched, outcome⟩
    · rw [failed] at ok
      cases ok
    · have same : target = toStatus := some.inj (parsed.symm.trans (RunStatus.ofText?_text toStatus))
      subst same
      rw [outcome]
      obtain ⟨row, member, selected⟩ := List.any_eq_true.mp matched
      have fields : row.id = runId ∧ row.status = fromStatus := by
        simp only [RunTransitionInput.matchesRow, transitionPayload, Bool.and_eq_true, beq_iff_eq] at selected
        have text := congrArg RunStatus.ofText? selected.1.2
        simp only [RunStatus.ofText?_text, some.injEq] at text
        exact ⟨selected.1.1, text⟩
      refine ⟨runIs_iff.mpr ⟨row, member, fields⟩, ?_⟩
      rw [runIs_congr (RunTransitionInput.recorded_runs _ _)]
      refine runIs_iff.mpr
        ⟨((transitionPayload runId fromStatus target now).assign target).apply row, ?_, fields.1, rfl⟩
      simp only [RunTransitionInput.moved, Relational.Table.update_rows, List.mem_map]
      exact ⟨row, member, if_pos selected⟩

def Started (store : GatewayStore) (runId : String) : Prop :=
  ∃ run, store.runs runId = some run ∧ run.status = .started

theorem transitionCompactionRun_cases (store : GatewayStore) (runId : String) (fromStatus toStatus : RunStatus)
    (draws : Draws) :
    (¬ Started store runId ∧
        ∃ detail, transitionCompactionRun store runId fromStatus toStatus draws = .error detail) ∨
      Started store runId ∧ ∃ event now,
        transitionCompactionRun store runId fromStatus toStatus draws =
          .ok (.transition event (transitionPayload runId fromStatus toStatus now)) := by
  unfold Started transitionCompactionRun
  cases found : store.runs runId with
  | none => simp
  | some run =>
    by_cases active : run.status = .started
    · simp [active]
    · simp [active]

theorem started_updateRun {store : GatewayStore} {runId target : String} {change : GatewayStore.Change} :
    Started (store.updateRun target change) runId ↔
      ∃ run, store.runs runId = some run ∧
        (if runId = target then change.apply run else run).status = .started := by
  unfold Started
  simp only [GatewayStore.updateRun]
  split_ifs with same
  · simp [map_eq_some_iff]
  · rfl

theorem started_stop {system : System} {runId target : String} :
    Started (system.stop target).store runId ↔ Started system.store runId ∧ target ≠ runId := by
  simp only [System.stop, started_updateRun]
  by_cases same : runId = target
  · subst same
    simp only [if_true, ne_eq, not_true_eq_false, and_false, iff_false, not_exists, not_and]
    intro run _ active
    split_ifs at active
    contradiction
  · simp [same, Started, Ne.symm same]

theorem started_applied {service : Service} {store : GatewayStore} {runId : String} (seqs : List (String × Int))
    (event : GatewayEvent) (input : RunTransitionInput) :
    Started ((Reserved.transition event input).apply service store seqs).1 runId ↔ Started store runId := by
  simp only [Reserved.apply, started_updateRun]
  refine exists_congr fun run => and_congr_right fun _ => ?_
  split_ifs with same
  · simp only [logWhileStarted]
    split_ifs <;> simp
  · rfl

namespace Refresh

def Flying (runId : String) (state : Refresh) (fromStatus toStatus : RunStatus) : Prop :=
  (∃ event now, state.system.flight =
      some (.reserved (.transition event (transitionPayload runId fromStatus toStatus now)))) ∨
    (∃ event input seqs, state.system.flight = some (.answered (.transition event input) (.ok seqs))) ∧
      state.system.db.runIs runId toStatus = true

def Coherent (runId : String) (state : Refresh) : Prop :=
  match state.phase with
  | .opening _ => state.Flying runId .running .compacting
  | .executing _ _ | .executed _ _ =>
    state.system.flight = none ∧ state.system.db.runIs runId .compacting = true
  | .closing _ _ => state.Flying runId .compacting .running
  | _ => state.system.flight = none

def Quiet (service : Service) (runId : String) (state : Refresh) : Prop :=
  match state.phase with
  | .opening _ => Started state.system.store runId ∧
      ∀ commit, state.system.flight = some (.reserved commit) → Restored service.host state.system.db runId
  | .executing _ _ | .executed _ _ => Started state.system.store runId
  | .closing _ _ =>
    ∀ commit reply, state.system.flight = some (.answered commit reply) →
      Restored service.host state.system.db runId
  | _ => Restored service.host state.system.db runId

section Steps

variable {service : Service} {runId : String} {state later : Refresh}

def Moves (service : Service) (runId : String) (state later : Refresh) (calm : Prop) : Prop :=
  later.Coherent runId ∧ (later.Quiet service runId ↔ state.Quiet service runId ∧ calm)

theorem coherent_resting (resting : state.phase.resting) :
    state.Coherent runId ↔ state.system.flight = none := by
  rcases state with ⟨system, requested, phase⟩
  cases phase <;> first | exact Iff.rfl | cases resting

theorem quiet_resting (resting : state.phase.resting) :
    state.Quiet service runId ↔ Restored service.host state.system.db runId := by
  rcases state with ⟨system, requested, phase⟩
  cases phase <;> first | exact Iff.rfl | cases resting

theorem moves_resting {phase : Phase} (coherent : state.Coherent runId) (resting : state.phase.resting)
    (onward : phase.resting) : Moves service runId state { state with phase } True := by
  constructor
  · rw [coherent_resting onward]
    exact (coherent_resting resting).mp coherent
  · rw [quiet_resting onward, quiet_resting resting, and_true]

theorem moves_decision {answer : Except CompactionFailure Json} (coherent : state.Coherent runId)
    (taken : state.next service runId (.decision answer) = some later) : Moves service runId state later True := by
  simp only [next] at taken
  cases phase : state.phase <;> rw [phase] at taken <;> try cases taken
  have resting : state.phase.resting := by rw [phase]; rfl
  cases answer with
  | error failure =>
    cases taken
    exact moves_resting coherent resting rfl
  | ok decision =>
    cases taken
    exact moves_resting coherent resting (decided_resting decision)

theorem moves_check {deadlinePassed : Bool} (coherent : state.Coherent runId)
    (taken : state.next service runId (.check deadlinePassed) = some later) :
    Moves service runId state later True := by
  simp only [next] at taken
  cases phase : state.phase <;> simp only [phase] at taken <;> try contradiction
  have resting : state.phase.resting := by rw [phase]; rfl
  split_ifs at taken <;> cases taken <;> exact moves_resting coherent resting rfl

theorem moves_verify {snapshot : Except String Int} (coherent : state.Coherent runId)
    (taken : state.next service runId (.verify snapshot) = some later) : Moves service runId state later True := by
  simp only [next] at taken
  cases phase : state.phase <;> simp only [phase] at taken <;> try contradiction
  have resting : state.phase.resting := by rw [phase]; rfl
  cases taken
  exact moves_resting coherent resting rfl

variable {fromStatus toStatus : RunStatus}

theorem begin_cases {draws : Draws} {onward : Phase} {refused : String → Phase}
    (idle : state.system.flight = none)
    (taken : state.begin service runId fromStatus toStatus draws onward refused = some later) :
    (¬ Started state.system.store runId ∧ ∃ detail, later = { state with phase := refused detail }) ∨
      Started state.system.store runId ∧ ∃ event now,
        later = { state with
          system := { state.system with
            flight := some (.reserved (.transition event (transitionPayload runId fromStatus toStatus now))) }
          phase := onward } := by
  unfold begin at taken
  rcases transitionCompactionRun_cases state.system.store runId fromStatus toStatus draws with
    ⟨inactive, detail, refusal⟩ | ⟨active, event, now, reserved⟩
  · rw [refusal] at taken
    cases taken
    exact .inl ⟨inactive, detail, rfl⟩
  · simp only [reserved, System.next, idle, Request.reserve, Except.toOption, map_some] at taken
    cases taken
    exact .inr ⟨active, event, now, rfl⟩

theorem moves_lock {draws : Draws} (coherent : state.Coherent runId)
    (taken : state.next service runId (.lock draws) = some later) : Moves service runId state later True := by
  rcases state with ⟨system, requested, phase⟩
  cases phase with
  | cleared plan =>
    rcases begin_cases coherent taken with ⟨_, detail, rfl⟩ | ⟨active, event, now, rfl⟩
    · exact moves_resting coherent rfl rfl
    · refine ⟨.inl ⟨event, now, rfl⟩, ?_⟩
      simp [Quiet, active]
  | executed plan execution =>
    obtain ⟨idle, compacting⟩ := coherent
    rcases begin_cases idle taken with ⟨inactive, detail, rfl⟩ | ⟨active, event, now, rfl⟩
    · refine ⟨idle, ?_⟩
      have unrestored : ¬ Restored service.host system.db runId := not_restored_of_compacting compacting
      simp [Quiet, inactive, unrestored]
    · refine ⟨.inl ⟨event, now, rfl⟩, ?_⟩
      simp [Quiet, active]
  | _ => cases taken

theorem Flying.reserved {commit : Reserved}
    (flying : state.Flying runId fromStatus toStatus) (reserved : state.system.flight = some (.reserved commit)) :
    ∃ event now, commit = .transition event (transitionPayload runId fromStatus toStatus now) := by
  rcases flying with ⟨event, now, same⟩ | ⟨⟨event, input, seqs, answered⟩, _⟩
  · rw [reserved] at same
    cases same
    exact ⟨event, now, rfl⟩
  · rw [reserved] at answered
    cases answered

theorem Flying.answered {commit : Reserved} {reply : Reply}
    (flying : state.Flying runId fromStatus toStatus)
    (answered : state.system.flight = some (.answered commit reply)) :
    (∃ event input seqs, commit = .transition event input ∧ reply = .ok seqs) ∧
      state.system.db.runIs runId toStatus := by
  rcases flying with ⟨event, now, reserved⟩ | ⟨⟨event, input, seqs, same⟩, moved⟩
  · rw [answered] at reserved
    cases reserved
  · rw [answered] at same
    cases same
    exact ⟨⟨event, input, seqs, rfl, rfl⟩, moved⟩

theorem moves_storage {outcome : StorageOutcome} (coherent : state.Coherent runId)
    (taken : state.next service runId (.storage outcome) = some later)
    (ok : state.storageSucceeds service (.storage outcome)) : Moves service runId state later True := by
  -- the command of a transition moves the durable status; what it finds and leaves is what the phase says
  rcases state with ⟨system, requested, phase⟩
  obtain ⟨after, persisted, rfl⟩ := map_eq_some_iff.mp taken
  simp only [System.next] at persisted
  split at persisted <;> cases persisted
  rename_i commit flying
  simp only [storageSucceeds, flying] at ok
  cases phase with
  | opening plan =>
    obtain ⟨event, now, rfl⟩ := Flying.reserved coherent flying
    obtain ⟨found, left⟩ := transition_succeeded ok
    cases reply : ((Reserved.transition event (transitionPayload runId .running .compacting now)).persist
      service.host system.db outcome).2 with
    | error failure => simp [reply, Except.toOption] at ok
    | ok seqs =>
      refine ⟨.inr ⟨⟨event, transitionPayload runId .running .compacting now, seqs,
        by simp [System.persist, reply]⟩, left⟩, ?_⟩
      -- the command has found the run running, so nothing was owed before it
      have before : Restored service.host system.db runId := restored_of_running found
      simp [Quiet, System.persist, before]
  | closing plan execution =>
    obtain ⟨event, now, rfl⟩ := Flying.reserved coherent flying
    obtain ⟨_, left⟩ := transition_succeeded ok
    cases reply : ((Reserved.transition event (transitionPayload runId .compacting .running now)).persist
      service.host system.db outcome).2 with
    | error failure => simp [reply, Except.toOption] at ok
    | ok seqs =>
      refine ⟨.inr ⟨⟨event, transitionPayload runId .compacting .running now, seqs,
        by simp [System.persist, reply]⟩, left⟩, ?_⟩
      have after : Restored service.host (system.persist service (.transition event
          (transitionPayload runId .compacting .running now)) outcome).db runId := restored_of_running left
      simp [Quiet, flying, after]
  | executing plan progress => exact absurd (coherent.1.symm.trans flying) (by simp)
  | executed plan execution => exact absurd (coherent.1.symm.trans flying) (by simp)
  | _ => exact absurd (Eq.symm coherent |>.trans flying) (by simp)

theorem transitionOutcome_ok {store : GatewayStore} {fromStatus toStatus : RunStatus} {seqs : List (String × Int)} :
    (transitionOutcome store runId fromStatus toStatus (.ok seqs) = .ok () ∧ Started store runId) ∨
      ∃ detail, transitionOutcome store runId fromStatus toStatus (.ok seqs) = .error detail ∧
        ¬ Started store runId := by
  unfold transitionOutcome Started
  cases found : store.runs runId with
  | none => simp
  | some run =>
    by_cases active : run.status = .started
    · simp [active]
    · simp [active]

theorem moves_unlock (coherent : state.Coherent runId)
    (taken : state.next service runId .unlock = some later) : Moves service runId state later True := by
  rcases state with ⟨system, requested, phase⟩
  cases phase with
  | opening plan =>
    simp only [next, unlock] at taken
    split at taken
    · rename_i commit reply flying
      obtain ⟨⟨event, input, seqs, rfl, rfl⟩, compacting⟩ := Flying.answered coherent flying
      have before : Quiet service runId ⟨system, requested, .opening plan⟩ ↔ Started system.store runId := by
        simp [Quiet, flying]
      simp only [System.next, flying, map_some, some.injEq] at taken
      subst later
      rcases @transitionOutcome_ok runId system.store .running .compacting seqs with
        ⟨passed, active⟩ | ⟨detail, failed, inactive⟩
      · have still : Started (system.finishApplied service seqs (.transition event input)).store runId :=
          (started_applied seqs event input).mpr active
        simp only [passed, Moves, before]
        cases beginExecution plan with
        | error detail => exact ⟨⟨rfl, compacting⟩, by simp only [Quiet, still, active, true_and]⟩
        | ok progress => exact ⟨⟨rfl, compacting⟩, by simp only [Quiet, still, active, true_and]⟩
      · have unrestored : ¬ Restored service.host system.db runId := not_restored_of_compacting compacting
        simp only [failed, Moves, before]
        exact ⟨rfl, ⟨fun restored => absurd restored unrestored, fun quiet => absurd quiet.1 inactive⟩⟩
    · cases taken
  | closing plan execution =>
    simp only [next, unlock] at taken
    split at taken
    · rename_i commit reply flying
      obtain ⟨⟨event, input, seqs, rfl, rfl⟩, running⟩ := Flying.answered coherent flying
      simp only [System.next, flying, map_some] at taken
      cases taken
      have restored : Restored service.host system.db runId := restored_of_running running
      refine ⟨rfl, ?_⟩
      simp [Quiet, flying, restored, System.finishApplied]
    · cases taken
  | _ => cases taken

theorem moves_command {input : RoundInput} (coherent : state.Coherent runId)
    (taken : state.next service runId (.command input) = some later) : Moves service runId state later True := by
  rcases state with ⟨system, requested, phase⟩
  cases phase with
  | executing plan progress =>
    have kept := progress.round_runs service.host system.db (requested || input.deadlinePassed) input
    have compacting := (runIs_congr kept runId .compacting).trans coherent.2
    simp only [next] at taken
    split at taken <;> cases taken <;> exact ⟨⟨coherent.1, compacting⟩, (and_true _).symm ▸ Iff.rfl⟩
  | _ => cases taken

theorem moves_stop {target : String} (coherent : state.Coherent runId)
    (taken : state.next service runId (.stop target) = some later) :
    Moves service runId state later (state.undisturbed runId (.stop target)) := by
  rcases state with ⟨system, requested, phase⟩
  simp only [next, some.injEq] at taken
  subst later
  have started := @started_stop system runId target
  cases phase <;> refine ⟨coherent, ?_⟩ <;>
    simp [Quiet, undisturbed, Phase.bracketed, beq_eq_false_iff_ne, started]
  · exact Iff.rfl
  · exact Iff.rfl
  · exact Iff.rfl
  · exact and_right_comm
  · exact Iff.rfl
  · exact Iff.rfl
  · exact Iff.rfl

theorem moves {label : RefreshLabel} (coherent : state.Coherent runId)
    (ok : state.storageSucceeds service label) (taken : state.next service runId label = some later) :
    Moves service runId state later (state.undisturbed runId label) := by
  cases label with
  | decision answer => simpa [undisturbed] using moves_decision coherent taken
  | check deadlinePassed => simpa [undisturbed] using moves_check coherent taken
  | lock draws => simpa [undisturbed] using moves_lock coherent taken
  | storage outcome => simpa [undisturbed] using moves_storage coherent taken ok
  | unlock => simpa [undisturbed] using moves_unlock coherent taken
  | command input => simpa [undisturbed] using moves_command coherent taken
  | verify snapshot => simpa [undisturbed] using moves_verify coherent taken
  | stop target => exact moves_stop coherent taken
  | halt =>
    cases taken
    exact ⟨coherent, by simp only [undisturbed, and_true]; exact Iff.rfl⟩

end Steps

theorem quiet_run {service : Service} {runId : String} {labels : List RefreshLabel} {start final : Refresh}
    (coherent : start.Coherent runId)
    (ok : Along (next service runId) (fun state label => state.storageSucceeds service label) start labels)
    (reached : run (next service runId) start labels = some final) :
    final.Quiet service runId ↔ start.Quiet service runId ∧
      Along (next service runId) (fun state label => state.undisturbed runId label) start labels := by
  induction labels generalizing start with
  | nil =>
    cases reached
    exact (and_true _).symm ▸ Iff.rfl
  | cons label rest ih =>
    obtain ⟨later, taken, onward⟩ := run_cons.mp reached
    obtain ⟨still, quiet⟩ := moves coherent ok.1 taken
    rw [ih still (ok.2 later taken) onward, quiet, and_assoc]
    refine and_congr_right fun _ => and_congr_right fun _ => ?_
    constructor
    · intro along other same
      cases taken.symm.trans same
      exact along
    · exact fun along => along later taken

end Refresh

theorem compaction_bracket_restored_iff (service : Service) (runId : String) (start final : Refresh)
    (labels : List RefreshLabel) (result : Except CompactionFailure Json)
    (entered : start.phase = .deciding) (idle : start.system.flight = none)
    (succeeded : Along (next service runId)
      (fun state label => state.storageSucceeds service label = true) start labels)
    (reached : run (next service runId) start labels = some final) (returned : final.phase = .returned result) :
    Restored service.host final.system.db runId ↔
      Restored service.host start.system.db runId ∧
        Along (next service runId) (fun state label => state.undisturbed runId label = true) start labels := by
  -- a stop between the two checks of the status leaves the run compacting
  have resting : start.phase.resting = true := by rw [entered]; rfl
  have ended : final.phase.resting = true := by rw [returned]; rfl
  rw [← quiet_resting ended, ← quiet_resting resting]
  exact quiet_run ((coherent_resting resting).mpr idle) succeeded reached

def soloPlan : Json :=
  .obj [("kind", .str "compact.plan"), ("generation", .int 2), ("commands", .arr [
    .obj [("op", .str "compaction.start"), ("payload", .obj [("id", .str "k"), ("session_id", .str "s"),
      ("run_id", .str "r"), ("generation", .int 2), ("source_start_ordinal", .int 1),
      ("source_end_ordinal", .int 1), ("retained_tail_ordinal", .int 1), ("summary_json", .str "0"),
      ("token_estimate", .int 0), ("model", .str ""), ("now_ms", .int 2)])],
    .obj [("op", .str "message.compact"), ("payload", .obj [("session_id", .str "s"), ("start_ordinal", .int 1),
      ("end_ordinal", .int 1)])],
    .obj [("op", .str "compaction.commit"), ("payload", .obj [("id", .str "k"), ("session_id", .str "s"),
      ("start_ordinal", .int 1), ("end_ordinal", .int 1), ("generation", .int 2),
      ("completed_at_ms", .int 3)])]])]

def soloRefresh : Refresh where
  system := soloSystem
  requested := false
  phase := .deciding

def answeredRound : RoundInput where
  deadlinePassed := false
  outcome := .answered
  failing := .ok (.obj [])
  failOutcome := .answered

def soloTrace (rounds : Nat) (executing closing : List RefreshLabel) : List RefreshLabel :=
  [.decision (.ok soloPlan), .check false, .lock (tagged "a" 5), .storage .answered, .unlock] ++ executing ++
    List.replicate rounds (.command answeredRound) ++ [.lock (tagged "b" 6)] ++ closing

theorem compaction_bracket_restored_at_late_stop :
    ∃ final, run (next (soloService 256) "r") soloRefresh
        (soloTrace 4 [.stop "q"] [.stop "r", .storage .answered, .unlock, .verify (.ok 2)]) = some final ∧
      Restored (soloService 256).host final.system.db "r" := by
  have ended : (run (next (soloService 256) "r") soloRefresh
      (soloTrace 4 [.stop "q"] [.stop "r", .storage .answered, .unlock, .verify (.ok 2)])).bind
        (fun final => final.phase.result?) =
      some (.error (.host "in-memory compaction run ended during transition")) := by decide +kernel
  obtain ⟨final, reached, returned⟩ := bind_eq_some_iff.mp ended
  refine ⟨final, reached, ?_⟩
  refine (compaction_bracket_restored_iff (soloService 256) "r" soloRefresh final _ _ rfl rfl ?_ reached
    (Phase.result?_eq_some.mp returned)).mpr ⟨?_, ?_⟩
  · decide +kernel
  · exact restored_of_running (by decide +kernel)
  · decide +kernel

theorem stop_leaves_run_compacting :
    ∃ final result, run (next (soloService 256) "r") soloRefresh
        (soloTrace 1 [.stop "r"] [.verify (.ok 1)]) = some final ∧ final.phase = .returned result ∧
      Along (next (soloService 256) "r")
        (fun state label => state.storageSucceeds (soloService 256) label = true) soloRefresh
        (soloTrace 1 [.stop "r"] [.verify (.ok 1)]) ∧
      ¬ Restored (soloService 256).host final.system.db "r" ∧
      ((Request.cancel "r" "requested").reserve (soloService 256) final.system.store (tagged "c" 7)).map
        (fun commit => (commit.execute (soloService 256).host final.system.db).2) =
        some (.error (.refused (.storage (.transitionConflict "run terminal transition matched no row")))) := by
  refine ⟨_, _, rfl, rfl, by decide +kernel, not_restored_of_compacting (by decide +kernel), by decide +kernel⟩

end RustScriptAgent.Gateway
