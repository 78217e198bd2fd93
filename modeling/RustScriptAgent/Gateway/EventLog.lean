import RustScriptAgent.Gateway.Load
import RustScriptAgent.Gateway.Reservations
import RustScriptAgent.Storage.EventLog

namespace RustScriptAgent.Gateway

open Storage Sequences Transitions

inductive Operation where
  | step (label : Label)
  | prune (input : EventPruneInput)
  | recover (input : RecoveryInput)
  | reload

namespace System

def reload (system : System) (store : GatewayStore) : System :=
  { system with store, pending := fun _ => none, handedBack := [], flight := none }

def operate (service : Service) (system : System) : Operation → Option System
  | .step label => system.next service label
  | .prune input => some { system with db := storageEventPrune system.db input }
  | .recover input => some { system with db := (storageRunRecoverActive system.db input).1 }
  | .reload => (GatewayStore.fromLoad system.db).toOption.map system.reload

end System

structure WellFormedLog (db : Database) (runId : String) : Prop where
  ids : ((db.eventsOf runId).map EventRow.eventId).Nodup
  block : Unbroken (db.seqs runId)
  mark : ∃ row ∈ db.runRetention.rows, row.runId = runId ∧ row.highWaterSeq = db.maxSeq runId
  loads : ∃ events, loadRunEvents db runId = .ok events

structure System.Opened (system : System) (runId : String) : Prop where
  known : system.db.hasRun runId = true
  first : system.db.seqs runId = [1]
  mark : ∃ row ∈ system.db.runRetention.rows, row.runId = runId ∧ row.highWaterSeq = 1
  records : ∀ record ∈ system.db.recoveryRecords.rows, record.runId ≠ runId ∧
    ∃ time : Int, record.id = "recovery:" ++ record.runId ++ ":" ++ toString time
  idle : system.flight = none

def Reserved.InPlace (runId : String) (db : Database) : Reserved → Prop
  | .commit _ _ payload => payload.carried.runId = runId → db.InPlace runId payload.carried.fields
  | .pair _ _ input => input.runId = runId →
      db.InPlace runId input.first ∧ (db.hasEventId input.first.eventId = true → db.InPlace runId input.second)
  | .transition _ _ => True
  | .terminal _ _ _ => True

def Placed (runId : String) (system : System) : Operation → Prop
  | .step (.persist outcome) => outcome ≠ .lost →
      ∀ commit, system.flight = some (.reserved commit) → commit.InPlace runId system.db
  | _ => True

instance (runId : String) (db : Database) : (commit : Reserved) → Decidable (commit.InPlace runId db)
  | .commit _ _ payload =>
    inferInstanceAs (Decidable (payload.carried.runId = runId → db.InPlace runId payload.carried.fields))
  | .pair _ _ input => inferInstanceAs (Decidable (input.runId = runId →
      db.InPlace runId input.first ∧ (db.hasEventId input.first.eventId = true → db.InPlace runId input.second)))
  | .transition _ _ => isTrue trivial
  | .terminal _ _ _ => isTrue trivial

instance (runId : String) (system : System) : (operation : Operation) → Decidable (Placed runId system operation)
  | .step (.persist outcome) =>
    match flying : system.flight with
    | some (.reserved commit) =>
      decidable_of_iff (outcome ≠ .lost → commit.InPlace runId system.db) (by simp [Placed, flying])
    | some (.answered commit reply) => isTrue (by simp [Placed, flying])
    | none => isTrue (by simp [Placed, flying])
  | .step (.begin _ _) | .step (.retry _ _ _) | .step .finish | .step (.stop _) | .step .halt
  | .step (.park _ _) | .prune _ | .recover _ | .reload => isTrue trivial

structure LogInvariant (runId : String) (system : System) : Prop where
  known : system.db.hasRun runId = true
  level : system.db.Level runId
  pairs : ∀ first second input, system.flight = some (.reserved (.pair first second input)) →
    input.second.seq = input.first.seq + 1

section Commands

variable {runId : String} {db : Database} {commit : Reserved} (host : Host)

theorem terminalCommit_fst (db : Database) (call : TerminalCall) :
    (terminalCommit host db call).1 = (storageRunTerminal host db call.input).1 := by
  unfold terminalCommit
  cases storageRunTerminal host db call.input with
  | mk next reply => cases reply <;> rfl

theorem Reserved.execute_hasRun (db : Database) (commit : Reserved) :
    (commit.execute host db).1.hasRun runId = db.hasRun runId := by
  match commit with
  | .commit _ _ (.eventAppend input) => rw [execute, answer_fst, storageEventAppend_hasRun]
  | .commit _ _ (.step input) => rw [execute, answer_fst, storageStepCommit_hasRun]
  | .pair _ _ input => rw [execute, answer_fst, storageEventAppendPair_hasRun]
  | .transition _ input => rw [execute, answer_fst, RunTransitionInput.storageRunTransition_hasRun]
  | .terminal target call origin =>
    rw [execute_terminal_fst, terminalCommit_fst, RunTerminalInput.storageRunTerminal_hasRun]

theorem Reserved.execute_level (level : db.Level runId) (placed : commit.InPlace runId db)
    (paired : ∀ first second input, commit = .pair first second input → input.second.seq = input.first.seq + 1) :
    (commit.execute host db).1.Level runId := by
  match commit, placed, paired with
  | .commit _ _ (.eventAppend input), placed, _ =>
    rw [execute, answer_fst]
    exact storageEventAppend_level host level placed
  | .commit _ _ (.step input), placed, _ =>
    rw [execute, answer_fst]
    exact storageStepCommit_level host level placed
  | .pair first second input, placed, paired =>
    rw [execute, answer_fst]
    refine storageEventAppendPair_level host level (fun own => (placed own).1) ?_
    intro own once ok
    subst own
    obtain ⟨one, two⟩ := placed rfl
    -- a first event that is stored leaves the log as it is; one that goes in makes room for the second
    cases known : db.hasEventId input.first.eventId with
    | true =>
      rcases insertNewEvent_eq_ok.mp ok with ⟨_, same⟩ | ⟨fresh, _⟩
      · rw [same]
        exact two known
      · simp [known] at fresh
    | false =>
      have reserved : 0 < input.first.seq := by
        rcases one with stored | ⟨positive, _⟩
        · simp [known] at stored
        · exact positive
      exact Database.InPlace.behind ok known reserved (paired first second input rfl)
  | .transition _ input, _, _ =>
    rw [execute, answer_fst]
    exact storageRunTransition_level host level input
  | .terminal target call origin, _, _ =>
    rw [execute_terminal_fst, terminalCommit_fst]
    rcases RunTerminalInput.storageRunTerminal_cases host db call.input with
      ⟨_, failed⟩ | ⟨target, next, _, after, landed, _⟩
    · rw [failed]
      exact level
    · rw [after]
      exact landed.level level

end Commands

section Steps

variable {service : Service} {runId : String} {system later : System}

theorem Drawn.paired {store : GatewayStore} {first second : GatewayEvent} {input : EventAppendPairInput}
    (drawn : Drawn service store (.pair first second input)) : input.second.seq = input.first.seq + 1 := by
  cases drawn with
  | pair found next owner numbered plain one two limit hook =>
    rw [one, two]
    exact numbered

theorem LogInvariant.persist {commit : Reserved} {outcome : StorageOutcome} (invariant : LogInvariant runId system)
    (flying : system.flight = some (.reserved commit)) (placed : outcome ≠ .lost → commit.InPlace runId system.db) :
    LogInvariant runId (system.persist service commit outcome) := by
  have paired : ∀ first second input, commit = .pair first second input →
      input.second.seq = input.first.seq + 1 := by
    rintro first second input rfl
    exact invariant.pairs first second input flying
  have executed (sent : outcome ≠ .lost) : (commit.execute service.host system.db).1.hasRun runId ∧
      (commit.execute service.host system.db).1.Level runId :=
    ⟨by rw [Reserved.execute_hasRun, invariant.known],
      Reserved.execute_level service.host invariant.level (placed sent) paired⟩
  refine ⟨?_, ?_, fun first second input now => by cases now⟩
  all_goals cases outcome with
    | answered => first | exact (executed (by decide)).1 | exact (executed (by decide)).2
    | lost => first | exact invariant.known | exact invariant.level
    | unacknowledged => first | exact (executed (by decide)).1 | exact (executed (by decide)).2

theorem LogInvariant.next {label : Label} (invariant : LogInvariant runId system)
    (placed : Placed runId system (.step label)) (taken : system.next service label = some later) :
    LogInvariant runId later := by
  rcases System.next_cases taken with ⟨outcome, commit, rfl, flying, rfl⟩ | ⟨same, flight⟩
  · exact invariant.persist flying fun sent => placed sent commit flying
  · refine ⟨by rw [same]; exact invariant.known, by rw [same]; exact invariant.level, ?_⟩
    intro first second input now
    rcases flight with old | none | ⟨commit, reserved, drawn | ⟨_, _, _, _, rfl⟩⟩
    · exact invariant.pairs first second input (old ▸ now)
    · rw [none] at now
      cases now
    · rw [reserved] at now
      cases now
      exact drawn.paired
    · rw [reserved] at now
      cases now

theorem LogInvariant.operate {operation : Operation} (invariant : LogInvariant runId system)
    (placed : Placed runId system operation) (taken : system.operate service operation = some later) :
    LogInvariant runId later := by
  cases operation with
  | step label => exact invariant.next placed taken
  | prune input =>
    cases taken
    refine ⟨?_, storageEventPrune_level invariant.level input, invariant.pairs⟩
    rw [← invariant.known]
    exact Database.hasRun_congr (by simp [storageEventPrune]) runId
  | recover input =>
    cases taken
    exact ⟨by rw [storageRunRecoverActive_hasRun, invariant.known],
      storageRunRecoverActive_level invariant.level input, invariant.pairs⟩
  | reload =>
    obtain ⟨store, _, rfl⟩ := Option.map_eq_some_iff.mp taken
    exact ⟨invariant.known, invariant.level, fun _ _ _ now => by cases now⟩

theorem System.Opened.invariant (opened : system.Opened runId) : LogInvariant runId system := by
  have high : system.db.maxSeq runId = 1 := by
    rw [Database.maxSeq, opened.first]
    rfl
  have mark : ∃ row ∈ system.db.runRetention.rows, row.runId = runId ∧
      row.highWaterSeq = system.db.maxSeq runId := by
    rw [high]
    exact opened.mark
  refine ⟨opened.known, ⟨⟨?_, ?_, ?_⟩, mark⟩, fun first second input now => ?_⟩
  · rw [opened.first]
    exact unbroken_singleton 1
  · obtain ⟨row, member, own, same⟩ := mark
    exact ⟨row, member, own, same.le⟩
  · intro record member
    obtain ⟨other, named⟩ := opened.records record member
    exact ⟨named, fun own => absurd own other⟩
  · rw [opened.idle] at now
    cases now

theorem LogInvariant.wellFormed (invariant : LogInvariant runId system) : WellFormedLog system.db runId :=
  ⟨system.db.eventIds_nodup.sublist (List.filter_sublist.map _), invariant.level.block, invariant.level.mark,
    _, loadRunEvents_ok invariant.known invariant.level.block⟩

end Steps

theorem event_log_well_formed (service : Service) (runId : String) (operations : List Operation)
    (start final : System) (opened : start.Opened runId)
    (placed : Along (System.operate service) (Placed runId) start operations)
    (reached : run (System.operate service) start operations = some final) : WellFormedLog final.db runId :=
  (run_invariant (fun _ _ _ invariant allowed taken => LogInvariant.operate invariant allowed taken)
    opened.invariant placed reached).wellFormed

def committed (request : Request) (draws : Draws) : List Operation :=
  [.step (.begin request draws), .step (.persist .answered), .step .finish]

def requested (turn : Nat) (tag : String) : List Operation :=
  committed (.providerEvent "r" (durableProviderEventId "r" turn "model.requested") .requested (.obj []))
    (tagged tag 2)

def transitioned (fromStatus toStatus : RunStatus) : List Operation :=
  committed (.transition "r" fromStatus toStatus) (tagged "t" 3)

def soloPruning : EventPruneInput := ⟨"r", 2, 5⟩

def soloRecovery : RecoveryInput := ⟨6, "gateway_restart", .obj [], 64, 2⟩

theorem soloSystem_opened : soloSystem.Opened "r" :=
  ⟨by decide, by decide, ⟨⟨"r", 1, 1, 1⟩, by decide, rfl, rfl⟩, by simp [soloSystem, soloDatabase, Database.empty,
    Relational.Table.empty], rfl⟩

def interruptedCompaction : List Operation :=
  requested 1 "a" ++ transitioned .running .compacting ++ [.prune soloPruning, .recover soloRecovery, .reload]

theorem event_log_well_formed_over_restart :
    ∃ final, run (System.operate (soloService 2)) soloSystem interruptedCompaction = some final ∧
      WellFormedLog final.db "r" := by
  have taken : (run (System.operate (soloService 2)) soloSystem interruptedCompaction).isSome = true := by
    decide +kernel
  obtain ⟨final, reached⟩ := Option.isSome_iff_exists.mp taken
  refine ⟨final, reached, event_log_well_formed (soloService 2) "r" interruptedCompaction soloSystem final
    soloSystem_opened ?_ reached⟩
  decide +kernel

/-- Two transitions push a request out of memory that storage still holds. Requested once more, it moves
memory one number past the stored log, and the next event leaves that number out. -/
def repeatedRequest : List Operation :=
  requested 1 "a" ++ transitioned .running .compacting ++ transitioned .compacting .running ++
    requested 1 "b" ++ requested 2 "c"

theorem event_log_gap_after_repeated_request :
    soloSystem.Opened "r" ∧
      ∃ final, run (System.operate (soloService 2)) soloSystem repeatedRequest = some final ∧
        final.db.seqs "r" = [4, 6] ∧ ¬WellFormedLog final.db "r" := by
  refine ⟨soloSystem_opened, ?_⟩
  have taken : (run (System.operate (soloService 2)) soloSystem repeatedRequest).map
      (fun final => (final.db.seqs "r", (loadRunEvents final.db "r").toOption.isSome)) =
      some ([4, 6], false) := by
    decide +kernel
  obtain ⟨final, reached, observed⟩ := Option.map_eq_some_iff.mp taken
  simp only [Prod.mk.injEq] at observed
  refine ⟨final, reached, observed.1, fun formed => ?_⟩
  obtain ⟨events, loaded⟩ := formed.loads
  simp [loaded, Except.toOption] at observed

end RustScriptAgent.Gateway
