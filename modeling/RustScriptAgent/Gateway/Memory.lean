import RustScriptAgent.Gateway.Visibility

namespace RustScriptAgent.Gateway

open Storage Sequences GatewayStore

variable {id : String} {run : RunRecord}

namespace Reserved

def runId : Reserved → String
  | .commit event _ _ => event.runId
  | .pair first _ _ => first.runId
  | .transition _ input => input.runId
  | .terminal _ call _ => call.runId

def logged (seqs : List (String × Int)) : Reserved → List GatewayEvent
  | .commit event _ _ => [event]
  | .pair first second _ => [first, second]
  | .transition event _ => [event]
  | .terminal _ call _ => call.events.map (renumber seqs)

end Reserved

theorem GatewayStore.pushMessage_new {store : GatewayStore} {message : SessionMessage} {session : SessionRecord}
    (home : store.sessions message.sessionId = some session)
    (new : ∀ other ∈ session.messages, other.id ≠ message.id) :
    (store.pushMessage message).sessions message.sessionId = some ⟨session.messages ++ [message]⟩ := by
  have absent : session.messages.any (fun existing => existing.id == message.id) = false :=
    List.any_eq_false.mpr fun other member => by simpa using new other member
  simp only [pushMessage, if_true, home, Option.map_some, absent, Bool.false_eq_true, if_false]

section Apply

variable {service : Service} {store : GatewayStore} {commit : Reserved} {seqs : List (String × Int)}

theorem Reserved.apply_log
    (found : (commit.apply service store seqs).1.runs id = some run) :
    ∃ old, store.runs id = some old ∧ run.sessionId = old.sessionId ∧
      (run.events = old.events ∨
        commit.runId = id ∧ run.events = (applyEvents service old (commit.logged seqs)).events) := by
  -- an applied commit changes the log of its own run only, and by its own events only
  have session (old : RunRecord) (events : List GatewayEvent) :
      (applyEvents service old events).sessionId = old.sessionId := by
    unfold applyEvents
    induction events generalizing old with
    | nil => rfl
    | cons event rest ih => rw [List.foldl_cons, ih, applyEventLocked_sessionId]
  have updated {target : String} {change : GatewayStore.Change}
      (logs : ∀ old, (change.apply old).sessionId = old.sessionId ∧ ((change.apply old).events = old.events ∨
        (change.apply old).events = (applyEvents service old (commit.logged seqs)).events))
      (own : commit.runId = target) (there : (store.updateRun target change).runs id = some run) :
      ∃ old, store.runs id = some old ∧ run.sessionId = old.sessionId ∧ (run.events = old.events ∨
        commit.runId = id ∧ run.events = (applyEvents service old (commit.logged seqs)).events) := by
    obtain ⟨old, stored, rfl⟩ := updateRun_eq_some there
    refine ⟨old, stored, ?_⟩
    split_ifs with same
    · exact ⟨(logs old).1, (logs old).2.imp_right fun applied => ⟨by rw [own, same], applied⟩⟩
    · exact ⟨rfl, .inl rfl⟩
  cases commit with
  | commit event message payload =>
    simp only [Reserved.apply, pushMessage?_runs] at found
    exact updated (fun old => ⟨session old _, .inr rfl⟩) rfl found
  | pair first second input => exact updated (fun old => ⟨session old _, .inr rfl⟩) rfl found
  | transition event input =>
    refine updated (fun old => ?_) rfl found
    simp only [logWhileStarted]
    split_ifs
    · exact ⟨session old _, .inr rfl⟩
    · exact ⟨rfl, .inl rfl⟩
  | terminal target call origin =>
    have there : (applyTerminal service store target call seqs).runs id = some run := by
      cases origin <;> exact found
    simp only [applyTerminal, pushMessage?_runs] at there
    exact updated (fun old => ⟨session old _, .inr rfl⟩) rfl there

theorem Reserved.apply_sessions :
    (commit.apply service store seqs).1.sessions = (store.pushMessage? commit.shownMessage).sessions := by
  cases commit with
  | commit event message payload => cases message <;> rfl
  | pair first second input => rfl
  | transition event input => rfl
  | terminal target call origin =>
    cases origin <;> cases message : call.assistantMessage <;>
      simp [Reserved.apply, applyTerminal, Reserved.shownMessage, message, pushMessage?, pushMessage]

end Apply

namespace System

variable {service : Service} {system later : System}

theorem finishApplied_store (seqs : List (String × Int)) (commit : Reserved) :
    (system.finishApplied service seqs commit).store = (commit.apply service system.store seqs).1 := by
  unfold finishApplied
  dsimp only
  split <;> rfl

def Applies (system : System) (label : Label) (commit : Reserved) (seqs : List (String × Int)) : Prop :=
  label = .finish ∧ system.flight = some (.answered commit (.ok seqs))

theorem updateRun_log {store : GatewayStore} {target : String} {change : GatewayStore.Change}
    (keeps : ∀ old, (change.apply old).events = old.events ∧ (change.apply old).sessionId = old.sessionId)
    (found : (store.updateRun target change).runs id = some run) :
    ∃ old, store.runs id = some old ∧ run.sessionId = old.sessionId ∧ run.events = old.events := by
  obtain ⟨old, stored, rfl⟩ := updateRun_eq_some found
  refine ⟨old, stored, ?_⟩
  split_ifs
  · exact ⟨(keeps old).2, (keeps old).1⟩
  · exact ⟨rfl, rfl⟩

theorem next_store {label : Label} (taken : system.next service label = some later) :
    (later.store.sessions = system.store.sessions ∧
        ∀ id run, later.store.runs id = some run →
          ∃ old, system.store.runs id = some old ∧ run.sessionId = old.sessionId ∧ run.events = old.events) ∨
      ∃ commit seqs, system.Applies label commit seqs ∧
        later.store = (commit.apply service system.store seqs).1 := by
  have unchanged : ∀ id run, system.store.runs id = some run →
      ∃ old, system.store.runs id = some old ∧ run.sessionId = old.sessionId ∧ run.events = old.events :=
    fun id run found => ⟨run, found, rfl, rfl⟩
  cases steps_of_next taken with
  | applied flying => exact .inr ⟨_, _, ⟨rfl, flying⟩, finishApplied_store _ _⟩
  | stop =>
    refine .inl ⟨rfl, fun id run found => updateRun_log (fun old => ?_) found⟩
    dsimp only
    split_ifs <;> exact ⟨rfl, rfl⟩
  | expire | giveUp | park => exact .inl ⟨rfl, fun id run found => updateRun_log (fun _ => ⟨rfl, rfl⟩) found⟩
  | begin | idle | drop | retry | persist | handBack | failed | halt => exact .inl ⟨rfl, unchanged⟩

theorem next_log {label : Label} (taken : system.next service label = some later)
    (found : later.store.runs id = some run) :
    ∃ old, system.store.runs id = some old ∧ run.sessionId = old.sessionId ∧
      (run.events = old.events ∨ ∃ commit seqs, system.Applies label commit seqs ∧ commit.runId = id ∧
        run.events = (applyEvents service old (commit.logged seqs)).events) := by
  rcases next_store taken with ⟨_, runs⟩ | ⟨commit, seqs, applies, store⟩
  · obtain ⟨old, stored, session, same⟩ := runs id run found
    exact ⟨old, stored, session, .inl same⟩
  · rw [store] at found
    obtain ⟨old, stored, session, same | ⟨own, applied⟩⟩ := Reserved.apply_log found
    · exact ⟨old, stored, session, .inl same⟩
    · exact ⟨old, stored, session, .inr ⟨commit, seqs, applies, own, applied⟩⟩

end System

end RustScriptAgent.Gateway
