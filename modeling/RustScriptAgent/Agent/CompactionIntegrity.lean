import RustScriptAgent.Agent.CompactionPlans
import RustScriptAgent.Storage.SessionHistory

namespace RustScriptAgent.Storage

open Relational Sequences Database List
open CompactionCommitInput hiding id

section Changes

variable {db next : Database} {session : String}

theorem KeepsHistory.extends_session (kept : KeepsHistory db next) (session : String) :
    (db.sessionHistory session).Extends (next.sessionHistory session) where
  messages := by
    obtain ⟨new, rows, fresh⟩ := kept.messages
    refine ⟨new.filter fun row => row.sessionId == session, ?_, fun row member => ?_⟩
    · simp [sessionHistory, Database.messagesOf, rows]
    · rw [mem_filter, beq_iff_eq] at member
      obtain ⟨added, rfl⟩ := member
      obtain ⟨active, above⟩ := fresh row added
      refine ⟨active, fun old present => ?_, fun empty => ?_⟩
      · obtain ⟨stored, own⟩ := mem_messagesOf.mp present
        have bound := le_maxOrdinal stored
        rw [own] at bound
        omega
      · have none : db.messagesOf row.sessionId = [] := empty
        rw [maxOrdinal, none] at above
        exact above
  generation generation held := kept.generation session generation held
  committed := by
    simp only [sessionHistory, compactionsOf, filter_filter, Bool.and_comm]
    rw [← filter_filter, ← filter_filter, kept.committed]
  pending row member state := by
    obtain ⟨stored, own⟩ := mem_filter.mp member
    exact mem_filter.mpr ⟨kept.pending row stored state, own⟩

theorem CompactionStartInput.Opens.history {input : CompactionStartInput} (opens : input.Opens db next) :
    (db.sessionHistory input.sessionId).Opens (next.sessionHistory input.sessionId) input.generation
      input.sourceStartOrdinal input.sourceEndOrdinal where
  messages := by
    rw [opens.frame]
    rfl
  generation := by
    rw [opens.frame]
    rfl
  committed := by
    simp only [sessionHistory, compactionsOf, filter_filter, Bool.and_comm]
    rw [← filter_filter, ← filter_filter, opens.committed]
  pending row member state := by
    obtain ⟨stored, own⟩ := mem_filter.mp member
    rcases opens.pending row stored state with old | ⟨rfl, _⟩
    · exact .inl (mem_filter.mpr ⟨old, own⟩)
    · exact .inr ⟨rfl, rfl, rfl⟩

theorem CompactionStartInput.Opens.elsewhere {input : CompactionStartInput} (opens : input.Opens db next)
    (other : input.sessionId ≠ session) :
    (db.sessionHistory session).Extends (next.sessionHistory session) where
  messages := ⟨[], by rw [opens.frame, append_nil]; rfl, by simp⟩
  generation generation held := by
    rw [opens.frame]
    exact held
  committed := by
    simp only [sessionHistory, compactionsOf, filter_filter, Bool.and_comm]
    rw [← filter_filter, ← filter_filter, opens.committed]
  pending row member state := by
    obtain ⟨stored, own⟩ := mem_filter.mp member
    rcases opens.pending row stored state with old | ⟨rfl, _⟩
    · exact mem_filter.mpr ⟨old, own⟩
    · exact absurd (beq_iff_eq.mp own) other

theorem messagesOf_markRange (db : Database) (home session : String) (first last : Int) :
    ({ db with messages := db.markRange home first last } : Database).messagesOf session =
      (db.messagesOf session).map fun row =>
        if session = home ∧ first ≤ row.ordinal ∧ row.ordinal ≤ last then markCompacted.apply row else row := by
  have ids : ((fun row : MessageRow => row.sessionId == session) ∘ fun row : MessageRow =>
      if (row.sessionId == home && decide (first ≤ row.ordinal ∧ row.ordinal ≤ last)) then
        markCompacted.apply row else row) = fun row => row.sessionId == session := by
    funext row
    simp only [Function.comp_apply]
    split_ifs <;> rfl
  rw [Database.messagesOf, Database.messagesOf, markRange, Table.update_rows, filter_map, ids]
  refine map_congr_left fun row member => ?_
  obtain ⟨_, own⟩ := mem_filter.mp member
  rw [beq_iff_eq] at own
  simp [own]

theorem mark_history {initial : Int} {host : Host} {payload : Json} {input : MessageCompactInput}
    (decoded : MessageCompactInput.decode? payload = some input)
    (sound : (db.sessionHistory session).Sound initial) :
    (storageMessageMarkCompacted host db payload).1.sessionHistory session = db.sessionHistory session := by
  rcases storageMessageMarkCompacted_cases host db decoded with same | ⟨⟨row, stored, home, first, last, state⟩, marked⟩
  · rw [same]
  · rw [marked]
    have kept : ({ db with messages := db.markRange input.sessionId input.startOrdinal input.endOrdinal } :
        Database).messagesOf session = db.messagesOf session := by
      rw [messagesOf_markRange]
      refine (map_congr_left fun message member => ?_).trans (map_id _)
      split_ifs with spanned
      · obtain ⟨rfl, within⟩ := spanned
        have compacted : message.compacted := by
          refine (sound.spanned message member).mpr ⟨row, mem_filter.mpr ⟨stored, by simp [home]⟩, state, ?_⟩
          rwa [CompactionRow.Spans, first, last]
        simp [markCompacted, ← compacted]
      · rfl
    simp only [sessionHistory, compactionsOf, kept, generationOf]

end Changes

theorem countP_or_of_disjoint {α : Type} {p q : α → Bool} {items : List α}
    (apart : ∀ item ∈ items, p item → q item = false) :
    items.countP (fun item => p item || q item) = items.countP p + items.countP q := by
  induction items with
  | nil => rfl
  | cons item rest ih =>
    obtain ⟨here, others⟩ := forall_mem_cons.mp apart
    have tail := ih others
    cases first : p item with
    | true => simp [first, here first, tail]; omega
    | false => simp [countP_cons, first, tail]; omega

section Commit

variable {db : Database} {input : CompactionCommitInput} {row : CompactionRow} {session : String}

theorem compactionsOf_landed (session : String) :
    (input.landed db).compactionsOf session = (db.compactionsOf session).map fun row =>
      if input.commits db row then input.setCommitted.apply row else row := by
  have ids : ((fun row : CompactionRow => row.sessionId == session) ∘ fun row : CompactionRow =>
      if input.commits db row then input.setCommitted.apply row else row) =
        fun row => row.sessionId == session := by
    funext row
    simp only [Function.comp_apply]
    split_ifs <;> rfl
  rw [compactionsOf, compactionsOf, landed, Table.update_rows, filter_map, ids]

theorem messagesOf_landed (session : String) :
    (input.landed db).messagesOf session = (db.messagesOf session).map fun row =>
      if session = input.sessionId ∧ input.startOrdinal ≤ row.ordinal ∧ row.ordinal ≤ input.endOrdinal then
        markCompacted.apply row else row :=
  messagesOf_markRange db input.sessionId session input.startOrdinal input.endOrdinal

theorem generationOf_advance {next : Database} (other : session ≠ input.sessionId)
    (updated : next.sessions = db.sessions.update (fun row => row.id == input.sessionId &&
      decide (row.generation < input.generation)) input.advance) :
    next.generationOf session = db.generationOf session := by
  rw [generationOf, generationOf, updated, Table.update_rows, find?_map]
  have ids : ((fun row : SessionRow => row.id == session) ∘ fun row : SessionRow =>
      if (row.id == input.sessionId && decide (row.generation < input.generation)) then input.advance.apply row
      else row) = fun row => row.id == session := by
    funext row
    simp only [Function.comp_apply]
    split_ifs <;> rfl
  rw [ids]
  cases found : db.sessions.rows.find? fun row => row.id == session with
  | none => rfl
  | some row =>
    have own := find?_some found
    simp only [beq_iff_eq] at own
    simp [own, other]

theorem landed_elsewhere (other : session ≠ input.sessionId) :
    (input.landed db).sessionHistory session = db.sessionHistory session := by
  have messages : (input.landed db).messagesOf session = db.messagesOf session := by
    rw [messagesOf_landed]
    refine (map_congr_left fun row _ => ?_).trans (map_id _)
    rw [if_neg fun own => other own.1, id]
  have compactions : (input.landed db).compactionsOf session = db.compactionsOf session := by
    rw [compactionsOf_landed]
    refine (map_congr_left fun row member => ?_).trans (map_id _)
    rw [if_neg, id]
    intro commits
    have own := (mem_filter.mp member).2
    rw [beq_iff_eq] at own
    exact other (own ▸ (commits_iff.mp commits).1.2.1)
  have generation : (input.landed db).generationOf session = db.generationOf session := generationOf_advance other rfl
  simp only [sessionHistory, messages, compactions, generation]

theorem landed_history {generation : Int} (member : row ∈ db.compactions.rows)
    (commits : input.commits db row) (current : db.generationOf input.sessionId = some generation) :
    (db.sessionHistory input.sessionId).Commits ((input.landed db).sessionHistory input.sessionId) row
      (input.setCommitted.apply row) := by
  obtain ⟨⟨id, home, target⟩, state, first, last, _, _, stop, _, open_⟩ := commits_iff.mp commits
  have only : ∀ other ∈ db.compactions.rows, input.commits db other → other = row := fun other present again =>
    compaction_unique present member (.inl ((commits_iff.mp again).1.1.trans id.symm))
  have listed : row ∈ db.compactionsOf input.sessionId := mem_filter.mpr ⟨member, by simp [home]⟩
  -- the session that the guard found is the one that has the generation
  have before : generation = row.generation - 1 := by
    rw [generationOf, Option.map_eq_some_iff] at current
    obtain ⟨found, search, same⟩ := current
    simp only [any_eq_true, Bool.and_eq_true, beq_iff_eq, decide_eq_true_eq] at open_
    obtain ⟨opened, present, named, held⟩ := open_
    have own := find?_some search
    simp only [beq_iff_eq] at own
    have one : found = opened := by
      refine Table.eq_of_conflict (mem_of_find?_eq_some search) present ?_
      simp [sessionsSchema, own, named]
    rw [← same, one, held, target]
  refine ⟨⟨listed, state⟩, ⟨rfl, rfl, rfl, rfl⟩, ?_, ⟨by simp only [sessionHistory, current, before], ?_⟩, ?_,
    ?_, ?_, ?_, ?_⟩
  · obtain ⟨message, present, own, ordinal⟩ := hasOrdinal_iff.mp stop
    exact ⟨message, mem_messagesOf.mpr ⟨present, own.trans home⟩, ordinal.trans last.symm⟩
  · have next : input.generation = generation + 1 := by omega
    have same : row.generation = generation + 1 := by omega
    simp only [sessionHistory]
    rw [same]
    exact Agent.generationOf_landed current next
  · simp only [sessionHistory]
    rw [messagesOf_landed]
    refine map_congr_left fun message _ => ?_
    simp only [CompactionRow.Spans, first, last, true_and]
  · simp only [sessionHistory]
    rw [compactionsOf_landed]
    exact mem_map.mpr ⟨row, listed, if_pos commits⟩
  · intro other stored done
    simp only [sessionHistory] at stored ⊢
    rw [compactionsOf_landed]
    refine mem_map.mpr ⟨other, stored, if_neg fun again => ?_⟩
    have waiting := (commits_iff.mp again).2.1
    simp [waiting] at done
  · intro other stored _
    simp only [sessionHistory] at stored ⊢
    rw [compactionsOf_landed] at stored
    obtain ⟨old, present, rfl⟩ := mem_map.mp stored
    split_ifs with again
    · right
      rw [only old (mem_filter.mp present).1 again]
    · exact .inl present
  · -- the row that is committed was pending, and it is the only one
    simp only [SessionHistory.commits, sessionHistory]
    rw [compactionsOf_landed, countP_map]
    have split : (CompactionRow.isCommitted ∘ fun row : CompactionRow =>
        if input.commits db row then input.setCommitted.apply row else row) =
          fun row => row.isCommitted || input.commits db row := by
      funext other
      simp only [Function.comp_apply]
      split_ifs with again
      · simp [again, CompactionRow.isCommitted, setCommitted]
      · simp [again]
    have apart : ∀ other ∈ db.compactionsOf input.sessionId, other.isCommitted → input.commits db other = false := by
      intro other _ done
      by_contra again
      rw [Bool.not_eq_false] at again
      rw [CompactionRow.isCommitted_iff, (commits_iff.mp again).2.1] at done
      cases done
    have one : (db.compactionsOf input.sessionId).countP (input.commits db) = 1 := by
      have all : db.compactions.rows.countP (input.commits db) = 1 :=
        Table.countP_eq_one compactionsSchema_self member commits only
      rw [← all, compactionsOf, countP_filter]
      refine countP_congr fun other _ => ?_
      simp only [Bool.and_eq_true, beq_iff_eq, and_iff_left_iff_imp]
      exact fun again => (commits_iff.mp again).1.2.1
    rw [split, countP_or_of_disjoint apart, one]

theorem commit_history {initial : Int} {host : Host} {payload : Json}
    (decoded : decode? payload = some input)
    (sound : (db.sessionHistory session).Sound initial) :
    (storageCompactionCommit host db payload).1.sessionHistory session = db.sessionHistory session ∨
      ∃ pending committed, (db.sessionHistory session).Commits
        ((storageCompactionCommit host db payload).1.sessionHistory session) pending committed := by
  -- a commit lands, or leaves the history as it was
  by_cases accepted : host.acceptsParameters [input.id, input.sessionId]
  · by_cases found : ∃ row ∈ db.compactions.rows, input.commits db row
    · obtain ⟨row, member, commits⟩ := found
      rw [commit_lands decoded accepted member commits]
      by_cases own : session = input.sessionId
      · subst own
        exact .inr ⟨row, _, landed_history member commits sound.generation⟩
      · exact .inl (landed_elsewhere own)
    · left
      have idle : ∀ row ∈ db.compactions.rows, input.commits db row = false := by
        intro row member
        by_contra commits
        exact found ⟨row, member, by simpa using commits⟩
      have outcome : (storageCompactionCommit host db payload).1 = db ∨ _ :=
        commit_idle decoded idle
      rcases outcome with same | ⟨⟨row, stored, home, target, state⟩, moved⟩
      · rw [same]
      · rw [moved]
        by_cases own : session = input.sessionId
        · -- the session has passed the generation of every commit that landed
          subst own
          have passed := sound.past row (mem_filter.mpr ⟨stored, by simp [home]⟩) state
          have current : db.generationOf input.sessionId = _ := sound.generation
          have still : db.sessions.update (fun row => row.id == input.sessionId &&
              decide (row.generation < input.generation)) input.advance = db.sessions := by
            refine Table.update_eq_self.mpr fun held present chosen => ?_
            simp only [Bool.and_eq_true, beq_iff_eq, decide_eq_true_eq] at chosen
            rw [generationOf, Option.map_eq_some_iff] at current
            obtain ⟨first, search, same⟩ := current
            have named := find?_some search
            simp only [beq_iff_eq] at named
            have one : first = held := by
              refine Table.eq_of_conflict (mem_of_find?_eq_some search) present ?_
              simp [sessionsSchema, named, chosen.1]
            rw [one] at same
            rw [target] at passed
            omega
          rw [still]
        · exact congrArg (SessionHistory.mk (db.messagesOf session) (db.compactionsOf session))
            (generationOf_advance own rfl)
  · left
    rw [Bool.not_eq_true] at accepted
    unfold storageCompactionCommit
    rw [decoded]
    simp [accepted]

end Commit

end RustScriptAgent.Storage

namespace RustScriptAgent.Agent

open Storage Relational

structure Compactor where
  db : Database
  plans : List (PolicyRequest × Plan)

inductive CompactorStep where
  | plan (request : PolicyRequest) (read : Nat)
  | command (plan command : Nat)
  | fail (payload : Json)
  | append (input : MessageAppendInput)
  | admitRun (encode : Json → JsonText) (input : AdmissionCreateInput)
  | step (input : StepCommitInput)
  | terminal (input : RunTerminalInput)
  | transition (input : RunTransitionInput)
  | recover (input : RecoveryInput)
  | reconcile (now maxRows : Int)

namespace Compactor

def current (db : Database) (request : PolicyRequest) : Option PolicyRequest :=
  (db.generationOf request.sessionId).map fun generation => { request with generation := generation }

-- the generation and the pages are read at one instant
def planFrom (db : Database) (request : PolicyRequest) (read : Nat) : Option (PolicyRequest × Plan) :=
  (current db request).bind fun request =>
    (planCommand (policyInput request ((durableHistory db request.sessionId).take read))).plan?.map fun plan =>
      (request, plan)

def perform (host : Host) (db : Database) (command : Command) : Database :=
  if command.op = "compaction.start" then (storageCompactionStart host db command.payload).1
  else if command.op = "message.compact" then (storageMessageMarkCompacted host db command.payload).1
  else if command.op = "compaction.commit" then (storageCompactionCommit host db command.payload).1
  else db

def operate (host : Host) (state : Compactor) : CompactorStep → Option Compactor
  | .plan request read => (planFrom state.db request read).map fun held => { state with plans := state.plans ++ [held] }
  | .command index position =>
    state.plans[index]?.bind fun held => held.2.commands[position]?.map fun command =>
      { state with db := perform host state.db command }
  | .fail payload => some { state with db := (storageCompactionFail host state.db payload).1 }
  | .append input => some { state with db := (storageMessageAppend host state.db input).1 }
  | .admitRun encode input => some { state with db := (storageAdmissionCreate host encode state.db input).1 }
  -- next_message_ordinal is above every ordinal the session has in memory, where a message is put once its row is
  -- stored: a new row comes behind the stored ones, or finds its place taken
  | .step input =>
    if input.messageId = "" ∨ state.db.Behind (input.message state.db) then
      some { state with db := (storageStepCommit host state.db input).1 }
    else none
  | .terminal input =>
    if input.messageId = "" ∨ state.db.Behind (input.message state.db) then
      some { state with db := (storageRunTerminal host state.db input).1 }
    else none
  | .transition input => some { state with db := (storageRunTransition host state.db input).1 }
  | .recover input => some { state with db := (storageRunRecoverActive state.db input).1 }
  | .reconcile now maxRows => some { state with db := (storageEffectReconcile state.db now maxRows).1 }

def compacts : CompactorStep → Bool
  | .plan .. | .command .. | .fail .. => true
  | _ => false

structure Sound (session : String) (initial : Int) (state : Compactor) : Prop where
  history : (state.db.sessionHistory session).Sound initial
  commands : ∀ held ∈ state.plans, ∃ start mark commit, Commands held.1 held.2 start mark commit
  plans : ∀ held ∈ state.plans, held.1.sessionId = session →
    (state.db.sessionHistory session).Ready initial (held.1.generation + 1) held.2.sourceStartOrdinal
      held.2.sourceEndOrdinal

inductive Change (history next : SessionHistory) (plans : List (PolicyRequest × Plan)) (session : String) : Prop
  | extend (step : history.Extends next)
  | open_ (held : PolicyRequest × Plan) (member : held ∈ plans) (own : held.1.sessionId = session)
      (step : history.Opens next (held.1.generation + 1) held.2.sourceStartOrdinal held.2.sourceEndOrdinal)
  | commit (pending committed : CompactionRow) (step : history.Commits next pending committed)

variable {host : Host} {state next : Compactor} {session : String} {initial : Int}

theorem Change.refl (history : SessionHistory) (plans : List (PolicyRequest × Plan)) (session : String) :
    Change history history plans session :=
  .extend ⟨⟨[], by simp, by simp⟩, fun _ held => held, rfl, fun _ member _ => member⟩

theorem perform_cases (host : Host) {held : PolicyRequest × Plan} {position : Nat} {command : Command}
    (sound : state.Sound session initial) (member : held ∈ state.plans)
    (named : held.2.commands[position]? = some command) :
    (held.1.startInput held.2).Opens state.db (perform host state.db command) ∨
      (perform host state.db command).sessionHistory session = state.db.sessionHistory session ∨
      ∃ pending committed, (state.db.sessionHistory session).Commits
        ((perform host state.db command).sessionHistory session) pending committed := by
  obtain ⟨start, mark, commit, commands⟩ := sound.commands held member
  have listed : command ∈ held.2.commands := List.mem_of_getElem? named
  simp only [commands.listed, List.mem_cons, List.not_mem_nil, or_false] at listed
  rcases listed with rfl | rfl | rfl
  · exact .inl (storageCompactionStart_opens commands.start)
  · exact .inr (.inl (mark_history commands.mark sound.history))
  · exact .inr (commit_history commands.commit sound.history)

theorem perform_change {held : PolicyRequest × Plan} {position : Nat} {command : Command}
    (sound : state.Sound session initial) (member : held ∈ state.plans)
    (named : held.2.commands[position]? = some command) :
    Change (state.db.sessionHistory session) ((perform host state.db command).sessionHistory session) state.plans
      session := by
  rcases perform_cases host sound member named with opens | same | ⟨pending, committed, step⟩
  · by_cases own : held.1.sessionId = session
    · subst own
      exact .open_ held member rfl opens.history
    · exact .extend (opens.elsewhere own)
  · rw [same]
    exact Change.refl _ _ _
  · exact .commit pending committed step

theorem operate_change {label : CompactorStep} (sound : state.Sound session initial)
    (taken : operate host state label = some next) :
    Change (state.db.sessionHistory session) (next.db.sessionHistory session) state.plans session := by
  -- every step is one of the three changes, for every session
  have keeps {db : Database} (kept : KeepsHistory state.db db) :
      Change (state.db.sessionHistory session) (db.sessionHistory session) state.plans session :=
    .extend (kept.extends_session session)
  cases label with
  | plan request read =>
    obtain ⟨held, _, rfl⟩ := Option.map_eq_some_iff.mp taken
    exact Change.refl _ _ _
  | command index position =>
    obtain ⟨held, found, performed⟩ := Option.bind_eq_some_iff.mp taken
    obtain ⟨command, named, rfl⟩ := Option.map_eq_some_iff.mp performed
    exact perform_change sound (List.mem_of_getElem? found) named
  | fail payload =>
    cases taken
    exact keeps (storageCompactionFail_keeps host state.db payload)
  | append input =>
    cases taken
    exact keeps (storageMessageAppend_keeps host state.db input)
  | admitRun encode input =>
    cases taken
    exact keeps (storageAdmissionCreate_keeps host encode state.db input)
  | step input =>
    simp only [operate, Option.ite_none_right_eq_some, Option.some.injEq] at taken
    obtain ⟨placed, rfl⟩ := taken
    exact keeps (storageStepCommit_keeps host state.db placed.resolve_left)
  | terminal input =>
    simp only [operate, Option.ite_none_right_eq_some, Option.some.injEq] at taken
    obtain ⟨placed, rfl⟩ := taken
    exact keeps (storageRunTerminal_keeps host state.db placed.resolve_left)
  | transition input =>
    cases taken
    exact keeps (storageRunTransition_keeps host state.db input)
  | recover input =>
    cases taken
    exact keeps (storageRunRecoverActive_keeps state.db input)
  | reconcile now maxRows =>
    cases taken
    exact keeps (storageEffectReconcile_keeps state.db now maxRows)

theorem operate_plans {label : CompactorStep} (taken : operate host state label = some next) :
    next.plans = state.plans ∨
      ∃ request read held, label = .plan request read ∧ planFrom state.db request read = some held ∧
        next = { state with plans := state.plans ++ [held] } := by
  cases label with
  | plan request read =>
    obtain ⟨held, found, rfl⟩ := Option.map_eq_some_iff.mp taken
    exact .inr ⟨request, read, held, rfl, found, rfl⟩
  | command index position =>
    obtain ⟨held, found, performed⟩ := Option.bind_eq_some_iff.mp taken
    obtain ⟨command, named, rfl⟩ := Option.map_eq_some_iff.mp performed
    exact .inl rfl
  | step input | terminal input =>
    simp only [operate, Option.ite_none_right_eq_some, Option.some.injEq] at taken
    exact .inl (taken.2 ▸ rfl)
  | fail | append | admitRun | transition | recover | reconcile =>
    cases taken
    exact .inl rfl

namespace Change

variable {history after : SessionHistory} {plans : List (PolicyRequest × Plan)}

theorem ready {generation first last : Int} (change : Change history after plans session)
    (plan : history.Ready initial generation first last) : after.Ready initial generation first last := by
  cases change with
  | extend step => exact step.ready plan
  | open_ held member own step => exact step.ready_iff.mpr plan
  | commit pending committed step => exact step.ready plan

section

variable (change : Change history after plans session)
include change

theorem sound (sound : history.Sound initial)
    (ready : ∀ held ∈ plans, held.1.sessionId = session →
      history.Ready initial (held.1.generation + 1) held.2.sourceStartOrdinal held.2.sourceEndOrdinal) :
    after.Sound initial := by
  cases change with
  | extend step => exact step.sound sound
  | open_ held member own step => exact step.sound sound (ready held member own)
  | commit pending committed step => exact step.sound sound

theorem commits_le : history.commits ≤ after.commits := by
  cases change with
  | extend step => exact step.commits_eq.ge
  | open_ held member own step => exact step.commits_eq.ge
  | commit pending committed step => rw [step.counted]; omega

theorem keeps_messages (none : after.commits = history.commits) :
    history.messages <+: after.messages := by
  cases change with
  | extend step =>
    obtain ⟨new, rows, _⟩ := step.messages
    rw [rows]
    exact List.prefix_append _ _
  | open_ held member own step => exact step.messages.symm ▸ List.prefix_rfl
  | commit pending committed step =>
    rw [step.counted] at none
    omega

end

end Change

theorem planFrom_ready {request : PolicyRequest} {read : Nat} {held : PolicyRequest × Plan} {db : Database}
    (planned : planFrom db request read = some held) (sound : (db.sessionHistory session).Sound initial)
    (own : held.1.sessionId = session) :
    (db.sessionHistory session).Ready initial (held.1.generation + 1) held.2.sourceStartOrdinal
      held.2.sourceEndOrdinal := by
  -- a plan from the snapshot takes up where the compacted messages end
  obtain ⟨asked, current, chosen⟩ := Option.bind_eq_some_iff.mp planned
  obtain ⟨plan, found, rfl⟩ := Option.map_eq_some_iff.mp chosen
  obtain ⟨generation, held, rfl⟩ := Option.map_eq_some_iff.mp current
  have sourced := plan_sourced (Decision.eq_plan found)
  dsimp only at own sourced ⊢
  subst own
  have same : some generation = some (initial + (db.sessionHistory request.sessionId).commits) :=
    held.symm.trans sound.generation
  rw [Option.some.injEq] at same
  obtain ⟨first, stored, home, active, ordinal⟩ := sourced.first
  have present : first ∈ db.messagesOf request.sessionId := Database.mem_messagesOf.mpr ⟨stored, home⟩
  refine ⟨by omega, fun _ => ⟨sourced.ordered, ⟨first, present, ordinal⟩, fun row member => ?_⟩⟩
  obtain ⟨kept, mine⟩ := Database.mem_messagesOf.mp member
  constructor
  · -- a compacted message at or behind the first active one would have it compacted
    intro compacted
    by_contra beyond
    have front := sound.front first present row member compacted (by omega)
    simp [active] at front
  · intro below
    by_contra left
    have least := sourced.least row kept mine (by simpa using left) (sound.positive row member)
    omega

theorem operate_sound {label : CompactorStep} (sound : state.Sound session initial)
    (taken : operate host state label = some next) : next.Sound session initial := by
  have change := operate_change sound taken
  have history := change.sound sound.history sound.plans
  rcases operate_plans taken with same | ⟨request, read, held, _, planned, rfl⟩
  · exact ⟨history, same ▸ sound.commands, fun held member own => change.ready (sound.plans held (same ▸ member) own)⟩
  · refine ⟨history, fun other member => ?_, fun other member own => ?_⟩
    · rcases List.mem_append.mp member with old | new
      · exact sound.commands other old
      · obtain ⟨asked, _, chosen⟩ := Option.bind_eq_some_iff.mp planned
        obtain ⟨plan, found, rfl⟩ := Option.map_eq_some_iff.mp chosen
        rw [List.mem_singleton.mp new]
        exact plan_commands (Decision.eq_plan found)
    · rcases List.mem_append.mp member with old | new
      · exact sound.plans other old own
      · rw [List.mem_singleton.mp new] at own ⊢
        exact planFrom_ready planned sound.history own

theorem operate_messages {label : CompactorStep} (sound : state.Sound session initial)
    (taken : operate host state label = some next) (compacting : compacts label)
    (none : (next.db.sessionHistory session).commits = (state.db.sessionHistory session).commits) :
    (next.db.sessionHistory session).messages = (state.db.sessionHistory session).messages := by
  cases label with
  | plan request read =>
    obtain ⟨held, _, rfl⟩ := Option.map_eq_some_iff.mp taken
    rfl
  | fail payload =>
    cases taken
    simp [Database.sessionHistory, Database.messagesOf]
  | command index position =>
    obtain ⟨held, found, performed⟩ := Option.bind_eq_some_iff.mp taken
    obtain ⟨command, named, rfl⟩ := Option.map_eq_some_iff.mp performed
    rcases perform_cases host sound (List.mem_of_getElem? found) named with opens | same | ⟨pending, committed, step⟩
    · have frame : (perform host state.db command).messages = state.db.messages := by rw [opens.frame]
      exact congrArg (fun table : Table messagesSchema => table.rows.filter fun row => row.sessionId == session) frame
    · rw [same]
    · have counted := step.counted.symm.trans none
      omega
  | append | admitRun | step | terminal | transition | recover | reconcile => cases compacting

structure Fresh (session : String) (initial : Int) (state : Compactor) : Prop where
  generation : state.db.generationOf session = some initial
  compactions : ∀ row ∈ state.db.compactions.rows, row.sessionId ≠ session
  messages : ∀ row ∈ state.db.messages.rows, row.sessionId = session → row.compacted = false ∧ 0 < row.ordinal
  plans : state.plans = []

theorem Fresh.sound (fresh : state.Fresh session initial) : state.Sound session initial := by
  have none : state.db.compactionsOf session = [] := by
    simpa [Database.compactionsOf] using fresh.compactions
  have active {row : MessageRow} (member : row ∈ state.db.messagesOf session) :
      row.compacted = false ∧ 0 < row.ordinal := by
    obtain ⟨stored, own⟩ := Database.mem_messagesOf.mp member
    exact fresh.messages row stored own
  refine ⟨⟨⟨?_, ?_, ?_⟩, ?_, ?_, ?_, ?_⟩, by simp [fresh.plans], by simp [fresh.plans]⟩
  · intro row member later present compacted
    simp [(active present).1] at compacted
  · intro row member
    simp [Database.sessionHistory, none, (active member).1]
  · simp [Database.sessionHistory, SessionHistory.commits, none, fresh.generation]
  · exact fun row member => (active member).2
  · simp [Database.sessionHistory, none]
  · simp [Database.sessionHistory, none]
  · simp [Database.sessionHistory, none]

theorem run_sound {labels : List CompactorStep} {final : Compactor} (sound : state.Sound session initial)
    (reached : Transitions.run (operate host) state labels = some final) : final.Sound session initial :=
  Transitions.run_invariant (fun _ _ _ sound _ taken => operate_sound sound taken) sound
    (Transitions.along_true state labels) reached

theorem run_messages {labels : List CompactorStep} {final : Compactor} (sound : state.Sound session initial)
    (reached : Transitions.run (operate host) state labels = some final) :
    (state.db.sessionHistory session).commits ≤ (final.db.sessionHistory session).commits ∧
      ((final.db.sessionHistory session).commits = (state.db.sessionHistory session).commits →
        (state.db.sessionHistory session).messages <+: (final.db.sessionHistory session).messages ∧
        ((∀ label ∈ labels, compacts label) →
          (final.db.sessionHistory session).messages = (state.db.sessionHistory session).messages)) := by
  induction labels generalizing state with
  | nil =>
    cases reached
    exact ⟨le_rfl, fun _ => ⟨List.prefix_rfl, fun _ => rfl⟩⟩
  | cons label rest ih =>
    obtain ⟨later, taken, onward⟩ := Transitions.run_cons.mp reached
    have change := operate_change sound taken
    obtain ⟨more, kept⟩ := ih (operate_sound sound taken) onward
    have grown := change.commits_le
    refine ⟨grown.trans more, fun none => ?_⟩
    have here : (later.db.sessionHistory session).commits = (state.db.sessionHistory session).commits := by omega
    obtain ⟨behind, same⟩ := kept (none.trans here.symm)
    refine ⟨(change.keeps_messages here).trans behind, fun compacting => ?_⟩
    obtain ⟨first, others⟩ := List.forall_mem_cons.mp compacting
    exact (same others).trans (operate_messages sound taken first here)

theorem compaction_commit_integrity (host : Host) (session : String) (initial : Int) (start middle final : Compactor)
    (earlier later : List CompactorStep) (fresh : start.Fresh session initial)
    (reached : Transitions.run (operate host) start earlier = some middle)
    (onward : Transitions.run (operate host) middle later = some final) :
    (final.db.sessionHistory session).Integrity initial ∧
      ((final.db.sessionHistory session).commits = (middle.db.sessionHistory session).commits →
        final.db.generationOf session = middle.db.generationOf session ∧
        middle.db.messagesOf session <+: final.db.messagesOf session ∧
        ((∀ label ∈ later, compacts label = true) →
          final.db.messagesOf session = middle.db.messagesOf session)) := by
  -- the compacted messages are the front part that the committed ranges cover; nothing between two commits touches it
  have sound := run_sound fresh.sound reached
  have after := run_sound sound onward
  refine ⟨after.history.toIntegrity, fun none => ⟨?_, (run_messages sound onward).2 none⟩⟩
  have before : middle.db.generationOf session = _ := sound.history.generation
  have now : final.db.generationOf session = _ := after.history.generation
  rw [before, now, none]

theorem run_execution {failing : Except String Json} {db after : Database} {held : PolicyRequest × Plan}
    {start mark commit : Json} (commands : Commands held.1 held.2 start mark commit)
    (executed : executeRssCompaction host failing db held.2.json = (after, .ok ())) :
    Transitions.run (operate host) ⟨db, [held]⟩ [.command 0 0, .command 0 1, .command 0 2] = some ⟨after, [held]⟩ := by
  obtain ⟨started, rows, marked, starting, _, marking, committing⟩ := (executeRssCompaction_ok_iff commands).mp executed
  simp [Transitions.run, operate, commands.listed, perform, starting, marking, committing]

theorem compaction_commit_integrity_of_plan :
    ∃ middle final, Transitions.run (operate openHost) ⟨conversation, []⟩ [.plan (asking "a") 128] = some middle ∧
      Transitions.run (operate openHost) middle [.command 0 0, .command 0 1, .command 0 2] = some final ∧
      final.db.generationOf "s" = some 2 ∧ (final.db.sessionHistory "s").Integrity 1 := by
  obtain ⟨plan, found, fits, _⟩ := planFor_fits
  have chosen := Decision.eq_plan found
  obtain ⟨start, mark, commit, commands⟩ := plan_commands chosen
  have retryable : Retryable openHost conversation (asking "a") plan :=
    ⟨⟨fits, rfl, rfl⟩, fun row member => absurd member List.not_mem_nil⟩
  obtain ⟨next, executed, generation⟩ : ∃ next, executeRssCompaction openHost (.error "") conversation plan.json =
      (next, .ok ()) ∧ next.generationOf "s" = some 2 :=
    commits_of_retryable (by decide +kernel) (by decide +kernel) (by decide +kernel) chosen retryable
  have planned : Transitions.run (operate openHost) ⟨conversation, []⟩ [.plan (asking "a") 128] =
      some ⟨conversation, [(asking "a", plan)]⟩ := by
    have current : Compactor.current conversation (asking "a") = some (asking "a") := rfl
    have from_ : planFrom conversation (asking "a") 128 = some (asking "a", plan) := by
      rw [planFrom, current, Option.bind_some]
      exact congrArg (Option.map fun plan => (asking "a", plan)) found
    simp [Transitions.run, operate, from_]
  have carried : Transitions.run (operate openHost) ⟨conversation, [(asking "a", plan)]⟩
      [.command 0 0, .command 0 1, .command 0 2] = some ⟨next, [(asking "a", plan)]⟩ := run_execution commands executed
  refine ⟨_, _, planned, carried, generation, ?_⟩
  exact (compaction_commit_integrity openHost "s" 1 ⟨conversation, []⟩ _ _ _ _
    ⟨by decide +kernel, by decide +kernel, by decide +kernel, rfl⟩ planned carried).1

end Compactor

end RustScriptAgent.Agent
