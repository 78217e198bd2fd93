import RustScriptAgent.Agent.CompactBoundary
import RustScriptAgent.Gateway.Compaction
import RustScriptAgent.Storage.CompactionOutcome

namespace RustScriptAgent.Agent

open Storage Gateway Relational Sequences PolicyRequest Database CompactionCommitInput List Json

/-- The messages that the pages of a snapshot list: `ordinal > 0 ORDER BY ordinal ASC` -/
def durableHistory (db : Database) (session : String) : List MessageRow :=
  ((db.messagesOf session).filter fun row => decide (0 < row.ordinal)).insertionSort
    fun a b => a.ordinal ≤ b.ordinal

theorem mem_durableHistory {db : Database} {session : String} {row : MessageRow} :
    row ∈ durableHistory db session ↔ row ∈ db.messages.rows ∧ row.sessionId = session ∧ 0 < row.ordinal := by
  rw [durableHistory, mem_insertionSort, mem_filter, mem_messagesOf, decide_eq_true_eq, and_assoc]

theorem durableHistory_sorted (db : Database) (session : String) :
    (durableHistory db session).Pairwise fun a b => a.ordinal ≤ b.ordinal := by
  have : Std.Total (fun a b : MessageRow => a.ordinal ≤ b.ordinal) := ⟨fun a b => le_total a.ordinal b.ordinal⟩
  have : IsTrans MessageRow (fun a b => a.ordinal ≤ b.ordinal) := ⟨fun _ _ _ => le_trans⟩
  exact pairwise_insertionSort _ _

structure Sourced (db : Database) (session : String) (plan : Plan) : Prop where
  first : ∃ row ∈ db.messages.rows, row.sessionId = session ∧ row.compacted = false ∧
    row.ordinal = plan.sourceStartOrdinal
  least : ∀ row ∈ db.messages.rows, row.sessionId = session → row.compacted = false → 0 < row.ordinal →
    plan.sourceStartOrdinal ≤ row.ordinal
  last : db.hasOrdinal session plan.sourceEndOrdinal = true
  ordered : plan.sourceStartOrdinal ≤ plan.sourceEndOrdinal
  positive : 0 < plan.sourceStartOrdinal

section Range

variable {db : Database} {request : PolicyRequest} {read : Nat} {plan : Plan}

theorem plan_ends {history : List MessageRow} (chosen : planCommand (policyInput request history) = .plan plan) :
    ∃ (first last : MessageRow) (index : Nat), (uncompacted history)[0]? = some first ∧
      (uncompacted history)[index]? = some last ∧
      plan.sourceStartOrdinal = first.ordinal ∧ plan.sourceEndOrdinal = last.ordinal := by
  obtain ⟨some, short, rfl⟩ := planCommand_eq_plan request history chosen
  set active := (uncompacted history).map snapshotMessage with listed
  have length : active.length = (uncompacted history).length := length_map _
  have lower : active.length - request.settings.retainedTail ≤
      compactBoundary active (active.length - request.settings.retainedTail) := le_boundaryPasses _ _
  have upper : compactBoundary active (active.length - request.settings.retainedTail) ≤ active.length :=
    boundaryPasses_le _ (by omega)
  have front : 0 < (uncompacted history).length := by omega
  have back : compactBoundary active (active.length - request.settings.retainedTail) - 1 <
      (uncompacted history).length := by omega
  refine ⟨_, _, _, getElem?_eq_getElem front, getElem?_eq_getElem back, ?_, ?_⟩
  · simp only [compactPlan, sourceRange, listed, messageAt_snapshot _ _ front, messageOrdinal_snapshotMessage]
  · exact (congrArg messageOrdinal (messageAt_snapshot _ _ back)).trans (messageOrdinal_snapshotMessage _)

theorem plan_sourced
    (chosen : planCommand (policyInput request ((durableHistory db request.sessionId).take read)) = .plan plan) :
    Sourced db request.sessionId plan := by
  obtain ⟨first, last, index, front, back, start, stop⟩ := plan_ends chosen
  have sorted := durableHistory_sorted db request.sessionId
  set history := durableHistory db request.sessionId with listed
  have rows : (uncompacted (history.take read)).Pairwise fun a b => a.ordinal ≤ b.ordinal :=
    sorted.sublist (filter_sublist.trans (take_sublist read history))
  have member {row : MessageRow} (kept : row ∈ uncompacted (history.take read)) :
      row ∈ history.take read ∧ row.compacted = false := by
    simpa [uncompacted] using mem_filter.mp kept
  have stored {row : MessageRow} (kept : row ∈ uncompacted (history.take read)) :=
    mem_durableHistory.mp (mem_of_mem_take (member kept).1)
  -- the first of the rows is the least
  obtain ⟨rest, shape⟩ : ∃ rest, uncompacted (history.take read) = first :: rest := by
    cases held : uncompacted (history.take read) with
    | nil => simp [held] at front
    | cons head tail =>
      obtain rfl : head = first := by simpa [held] using front
      exact ⟨tail, rfl⟩
  have kept : first ∈ uncompacted (history.take read) := by simp [shape]
  have least : ∀ row ∈ uncompacted (history.take read), first.ordinal ≤ row.ordinal := by
    intro row present
    rw [shape] at present rows
    rcases mem_cons.mp present with rfl | later
    · exact le_rfl
    · exact (pairwise_cons.mp rows).1 row later
  have lastKept : last ∈ uncompacted (history.take read) := mem_of_getElem? back
  refine ⟨⟨first, (stored kept).1, (stored kept).2.1, (member kept).2, start.symm⟩, ?_, ?_, ?_, ?_⟩
  · intro row present own active positive
    rw [start]
    have here : row ∈ history := mem_durableHistory.mpr ⟨present, own, positive⟩
    rw [← take_append_drop read history, mem_append] at here
    rcases here with taken | dropped
    · exact least row (mem_filter.mpr ⟨taken, by simp [active]⟩)
    · -- what the pages did not reach comes behind what they read
      rw [← take_append_drop read history] at sorted
      exact (pairwise_append.mp sorted).2.2 first (member kept).1 row dropped
  · exact hasOrdinal_iff.mpr ⟨last, (stored lastKept).1, (stored lastKept).2.1, stop.symm⟩
  · rw [start, stop]
    exact least last lastKept
  · rw [start]
    exact (stored kept).2.2

end Range

def Plan.range (plan : Plan) : SourceRange := ⟨plan.sourceStartOrdinal, plan.sourceEndOrdinal⟩

namespace PolicyRequest

variable (request : PolicyRequest) (plan : Plan)

def planId : String := request.planContext.planId plan.range

def startInput : CompactionStartInput where
  id := request.planId plan
  sessionId := request.sessionId
  runId := request.runId
  generation := request.generation + 1
  sourceStartOrdinal := plan.sourceStartOrdinal
  sourceEndOrdinal := plan.sourceEndOrdinal
  retainedTailOrdinal := plan.sourceEndOrdinal
  summaryJson := plan.summary.json
  tokenEstimate := plan.summary.text.utf8ByteSize / 4 + 1
  model := request.model
  nowMs := request.nowMs

def markInput : MessageCompactInput where
  sessionId := request.sessionId
  startOrdinal := plan.sourceStartOrdinal
  endOrdinal := plan.sourceEndOrdinal

def commitInput : CompactionCommitInput where
  id := request.planId plan
  sessionId := request.sessionId
  startOrdinal := plan.sourceStartOrdinal
  endOrdinal := plan.sourceEndOrdinal
  generation := request.generation + 1
  completedAtMs := request.nowMs

end PolicyRequest

structure Commands (request : PolicyRequest) (plan : Plan) (start mark commit : Json) : Prop where
  listed : plan.commands = [⟨"compaction.start", start⟩, ⟨"message.compact", mark⟩, ⟨"compaction.commit", commit⟩]
  id : start.getStr? "id" = some (request.planId plan)
  start : CompactionStartInput.decode? start = some (request.startInput plan)
  mark : MessageCompactInput.decode? mark = some (request.markInput plan)
  commit : CompactionCommitInput.decode? commit = some (request.commitInput plan)

theorem plan_commands {request : PolicyRequest} {history : List MessageRow} {plan : Plan}
    (chosen : planCommand (policyInput request history) = .plan plan) :
    ∃ start mark commit, Commands request plan start mark commit := by
  obtain ⟨_, _, rfl⟩ := planCommand_eq_plan request history chosen
  refine ⟨_, _, _, rfl, ?_, ?_, ?_, ?_⟩
  · simp [startPayload, getStr?, get?, asStr?, PolicyRequest.planId, compactPlan, Plan.range]
  · simp [CompactionStartInput.decode?, startPayload, getStr?, getInt?, get?, asStr?, asInt?,
      PolicyRequest.startInput, PolicyRequest.planId, PolicyRequest.planContext, compactPlan, Plan.range]
  · simp [MessageCompactInput.decode?, markPayload, getStr?, getInt?, get?, asStr?, asInt?,
      PolicyRequest.markInput, PolicyRequest.planContext, compactPlan]
  · simp [decode?, commitPayload, getStr?, getInt?, get?, asStr?,
      asInt?, PolicyRequest.commitInput, PolicyRequest.planId, PolicyRequest.planContext, compactPlan, Plan.range]

def Command.json (command : Command) : Json := .obj [("op", .str command.op), ("payload", command.payload)]

def Plan.json (plan : Plan) : Json :=
  .obj [("kind", .str "compact.plan"), ("generation", .int plan.generation),
    ("source_start_ordinal", .int plan.sourceStartOrdinal), ("source_end_ordinal", .int plan.sourceEndOrdinal),
    ("retained_tail_ordinal", .int plan.retainedTailOrdinal), ("summary_json", .str plan.summary.json),
    ("summary_text", .str plan.summary.text), ("summary_bytes", .int plan.summary.json.utf8ByteSize),
    ("summary_truncated", .bool plan.summary.truncated), ("context_messages", .arr plan.contextMessages),
    ("commands", .arr (plan.commands.map Command.json))]

def executeRounds (host : Host) (failing : Except String Json) :
    Nat → Progress → Database → Database × Except String Unit
  | 0, _, db => (db, .ok ())
  | fuel + 1, progress, db =>
    match progress.round host db false ⟨false, .answered, failing, .answered⟩ with
    | (next, .ended execution) => (next, execution)
    | (next, .going progress) => executeRounds host failing fuel progress next

def executeRssCompaction (host : Host) (failing : Except String Json) (db : Database) (plan : Json) :
    Database × Except String Unit :=
  match beginExecution plan with
  | .error detail => (db, .error detail)
  | .ok progress => executeRounds host failing (progress.remaining.length + 1) progress db

theorem giveUp_fails (progress : Progress) (host : Host) (db : Database) (input : RoundInput) (detail : String) :
    ∃ next failure, progress.giveUp host db input detail = (next, .ended (.error failure)) := by
  unfold Progress.giveUp
  split_ifs
  · split <;> exact ⟨_, _, rfl⟩
  · exact ⟨_, _, rfl⟩

section Execution

variable {host : Host} {failing : Except String Json} {db : Database} {request : PolicyRequest} {plan : Plan}
  {start mark commit : Json}

theorem beginExecution_plan (commands : Commands request plan start mark commit) :
    beginExecution plan.json =
      .ok { remaining := plan.commands.map Command.json, compactionId := request.planId plan, started := false } := by
  simp [beginExecution, Plan.json, get?, asArr?, commands.listed, Command.json, commands.id]

theorem round_command {progress : Progress} {rest : List Json} {op : String} {payload : Json} (input : RoundInput)
    (next : progress.remaining = (Command.mk op payload).json :: rest) (answered : input.outcome = .answered) :
    (op = "compaction.start" → progress.round host db false input =
      match storageCompactionStart host db payload with
      | (next, .error error) => progress.giveUp host next input
          ("execute RSS storage command " ++ op ++ ": " ++ error.code)
      | (next, .ok []) => (next, .ended (.error "compaction.start returned no pending durable row"))
      | (next, .ok _) => (next, .going { progress with remaining := rest, started := true })) ∧
    (op = "message.compact" → progress.round host db false input =
      match storageMessageMarkCompacted host db payload with
      | (next, .error error) => progress.giveUp host next input
          ("execute RSS storage command " ++ op ++ ": " ++ error.code)
      | (next, .ok ()) => (next, .going { progress with remaining := rest })) ∧
    (op = "compaction.commit" → progress.round host db false input =
      match storageCompactionCommit host db payload with
      | (next, .error error) => progress.giveUp host next input
          ("execute RSS storage command " ++ op ++ ": " ++ error.code)
      | (next, .ok ()) => (next, .going { progress with remaining := rest, started := false })) := by
  simp only [Progress.round, next, Command.json, getStr?, get?, asStr?, answered, deliverAnswer,
    find?_cons, beq_self_eq_true, Option.map_some, Option.bind_some]
  refine ⟨?_, ?_, ?_⟩ <;> rintro rfl <;> rfl

theorem executeRssCompaction_ok_iff (commands : Commands request plan start mark commit) {next : Database} :
    executeRssCompaction host failing db plan.json = (next, .ok ()) ↔
      ∃ started rows marked, storageCompactionStart host db start = (started, .ok rows) ∧ rows ≠ [] ∧
        storageMessageMarkCompacted host started mark = (marked, .ok ()) ∧
        storageCompactionCommit host marked commit = (next, .ok ()) := by
  -- the commands one after the other, each behind the success of the one before
  unfold executeRssCompaction
  rw [beginExecution_plan commands]
  simp only [commands.listed, map_cons, map_nil, length_cons, length_nil, executeRounds]
  rw [(round_command _ rfl rfl).1 rfl]
  have stops (progress : Progress) (db : Database) (input : RoundInput) (detail : String) :=
    giveUp_fails progress host db input detail
  rcases storageCompactionStart host db start with ⟨started, error | rows⟩
  · obtain ⟨after, failure, given⟩ := stops _ started _ _
    dsimp only
    rw [given]
    simp
  rcases rows with _ | ⟨row, rows⟩
  · simp
  dsimp only
  rw [(round_command _ rfl rfl).2.1 rfl]
  rcases marking : storageMessageMarkCompacted host started mark with ⟨marked, error | ⟨⟩⟩
  · obtain ⟨after, failure, given⟩ := stops _ marked _ _
    dsimp only
    rw [given]
    simp [marking]
  dsimp only
  rw [(round_command _ rfl rfl).2.2 rfl]
  rcases committing : storageCompactionCommit host marked commit with ⟨committed, error | ⟨⟩⟩
  · obtain ⟨after, failure, given⟩ := stops _ committed _ _
    dsimp only
    rw [given]
    simp [marking, committing]
  dsimp only
  simp [Progress.round, marking, committing]

end Execution

theorem hasOrdinal_markRange (db : Database) (session other : String) (first last ordinal : Int) :
    ({ db with messages := db.markRange session first last } : Database).hasOrdinal other ordinal =
      db.hasOrdinal other ordinal := by
  simp only [hasOrdinal, markRange, Table.update_rows, any_map]
  congr 1
  funext row
  simp only [Function.comp_apply]
  split_ifs <;> rfl

theorem generationOf_landed {db : Database} {input : CompactionCommitInput} {generation : Int}
    (current : db.generationOf input.sessionId = some generation) (next : input.generation = generation + 1) :
    (input.landed db).generationOf input.sessionId = some (generation + 1) := by
  rw [generationOf, Option.map_eq_some_iff] at current
  obtain ⟨row, found, same⟩ := current
  have own := find?_some found
  have ids : ((fun row : SessionRow => row.id == input.sessionId) ∘ fun row : SessionRow =>
      if (row.id == input.sessionId && decide (row.generation < input.generation)) then input.advance.apply row
      else row) = fun row => row.id == input.sessionId := by
    funext row
    simp only [Function.comp_apply]
    split_ifs <;> rfl
  have older : row.generation < input.generation := by omega
  rw [generationOf, landed, Table.update_rows, find?_map, ids, found,
    Option.map_some, Option.map_some, if_pos (by simp [own, older])]
  simp only [advance, same, next]
  rw [max_eq_right (by omega)]

def Retryable (host : Host) (db : Database) (request : PolicyRequest) (plan : Plan) : Prop :=
  ((request.startInput plan).Fits host ∧
    host.acceptsParameters [request.sessionId, request.sessionId] = true ∧
    host.acceptsParameters [request.planId plan, request.sessionId] = true) ∧
    (request.startInput plan).OwnsId db

def Compacting (db : Database) (request : PolicyRequest) : Prop :=
  ∃ row ∈ db.runs.rows, row.id = request.runId ∧ row.sessionId = request.sessionId ∧ row.status = .compacting

section Retry

variable {host : Host} {failing : Except String Json} {db : Database} {request : PolicyRequest} {read : Nat}
  {plan : Plan}

theorem startInput_guarded (current : db.generationOf request.sessionId = some request.generation)
    (compacting : Compacting db request) (sourced : Sourced db request.sessionId plan) :
    (request.startInput plan).Guarded db where
  session := by
    rw [generationOf, Option.map_eq_some_iff] at current
    obtain ⟨row, found, same⟩ := current
    have own := find?_some found
    exact any_eq_true.mpr ⟨row, mem_of_find?_eq_some found,
      by simpa [startInput, same] using own⟩
  run := by
    obtain ⟨row, member, id, session, status⟩ := compacting
    exact any_eq_true.mpr ⟨row, member, by simp [startInput, id, session, status]⟩
  range := ⟨sourced.positive.le, sourced.ordered, sourced.ordered, le_rfl⟩
  first := by
    obtain ⟨row, member, session, _, ordinal⟩ := sourced.first
    exact hasOrdinal_iff.mpr ⟨row, member, session, ordinal⟩
  last := sourced.last

theorem commit_of_started (started : Database) {marked : Database} {mark commit : Json}
    (decodedMark : MessageCompactInput.decode? mark = some (request.markInput plan))
    (decodedCommit : decode? commit = some (request.commitInput plan))
    (current : started.generationOf request.sessionId = some request.generation)
    (guarded : (request.startInput plan).Guarded started)
    (member : (request.startInput plan).row ∈ started.compactions.rows)
    (marking : storageMessageMarkCompacted host started mark = (marked, .ok ()))
    (accepted : host.acceptsParameters [request.planId plan, request.sessionId]) :
    ∃ next, storageCompactionCommit host marked commit = (next, .ok ()) ∧
      next.generationOf request.sessionId = some (request.generation + 1) := by
  -- behind a start that went through, the commit finds its row and the session moves on
  have after : marked = (storageMessageMarkCompacted host started mark).1 := by rw [marking]
  have frame : marked = { started with messages := marked.messages } ∧
      ∀ session ordinal, marked.hasOrdinal session ordinal = started.hasOrdinal session ordinal := by
    rcases storageMessageMarkCompacted_cases host started decodedMark with same | ⟨_, written⟩
    · rw [after, same]
      exact ⟨rfl, fun _ _ => rfl⟩
    · rw [after, written]
      exact ⟨rfl, fun session ordinal => hasOrdinal_markRange started _ session _ _ ordinal⟩
  have compactions : marked.compactions = started.compactions := by rw [frame.1]
  have commits : (request.commitInput plan).commits marked (request.startInput plan).row := by
    refine commits_iff.mpr ⟨⟨rfl, rfl, rfl⟩, rfl, rfl, rfl, ?_, ?_, ?_, ?_, ?_⟩
    · exact ⟨guarded.range.1, guarded.range.2.1⟩
    · rw [frame.2]
      exact guarded.first
    · rw [frame.2]
      exact guarded.last
    · rw [frame.1]
      exact guarded.run
    · have session := guarded.session
      rw [frame.1]
      simp only [any_eq_true, Bool.and_eq_true, decide_eq_true_eq] at session ⊢
      obtain ⟨row, present, own, same⟩ := session
      refine ⟨row, present, own, ?_⟩
      simp only [startInput, commitInput] at same ⊢
      omega
  refine ⟨_, commit_lands decodedCommit accepted (compactions ▸ member) commits, ?_⟩
  refine generationOf_landed ?_ rfl
  rw [← current]
  exact generationOf_congr (by rw [frame.1]) _

theorem commits_of_retryable (current : db.generationOf request.sessionId = some request.generation)
    (compacting : Compacting db request)
    (ended : ∀ row ∈ db.compactions.rows, row.sessionId = request.sessionId →
      row.generation = request.generation + 1 → row.state = .failed)
    (chosen : planCommand (policyInput request ((durableHistory db request.sessionId).take read)) = .plan plan)
    (retryable : Retryable host db request plan) :
    ∃ next, executeRssCompaction host failing db plan.json = (next, .ok ()) ∧
      next.generationOf request.sessionId = some (request.generation + 1) := by
  obtain ⟨⟨fits, marks, commits⟩, owned⟩ := retryable
  obtain ⟨start, mark, commit, commands⟩ := plan_commands chosen
  have guarded := startInput_guarded current compacting (plan_sourced chosen)
  have outcome := CompactionStartInput.start_outcome guarded ended host commands.start
  rw [if_pos ⟨fits, owned⟩] at outcome
  obtain ⟨table, member, starting⟩ := outcome
  obtain ⟨marked, marking⟩ : ∃ marked, storageMessageMarkCompacted host { db with compactions := table } mark =
      (marked, .ok ()) :=
    ⟨_, Prod.ext rfl ((storageMessageMarkCompacted_ok_iff host _ commands.mark).mpr marks)⟩
  obtain ⟨next, committing, generation⟩ := commit_of_started { db with compactions := table }
    commands.mark commands.commit current
    (startInput_guarded current compacting (plan_sourced chosen)) member marking commits
  exact ⟨next, (executeRssCompaction_ok_iff commands).mpr
    ⟨_, _, _, starting, by simp, marking, committing⟩, generation⟩

end Retry

theorem retry_commits_iff (host : Host) (failing : Except String Json) (db : Database) (request : PolicyRequest)
    (read : Nat) (plan : Plan) (current : db.generationOf request.sessionId = some request.generation)
    (compacting : Compacting db request)
    (ended : ∀ row ∈ db.compactions.rows, row.sessionId = request.sessionId →
      row.generation = request.generation + 1 → row.state = .failed)
    (chosen : planCommand (policyInput request ((durableHistory db request.sessionId).take read)) = .plan plan) :
    (∃ next, executeRssCompaction host failing db plan.json = (next, .ok ()) ∧
      next.generationOf request.sessionId = some (request.generation + 1)) ↔ Retryable host db request plan := by
  obtain ⟨start, mark, commit, commands⟩ := plan_commands chosen
  have guarded := startInput_guarded current compacting (plan_sourced chosen)
  have outcome := CompactionStartInput.start_outcome guarded ended host commands.start
  constructor
  · rintro ⟨next, ok, _⟩
    obtain ⟨started, rows, marked, starting, _, marking, committing⟩ :=
      (executeRssCompaction_ok_iff commands).mp ok
    split_ifs at outcome with own
    · exact ⟨⟨own.1, (storageMessageMarkCompacted_ok_iff host started commands.mark).mp (by rw [marking]),
        (CompactionCommitInput.commit_ok_iff host marked commands.commit).mp (by rw [committing])⟩, own.2⟩
    · obtain ⟨_, _, failed⟩ := outcome
      rw [starting] at failed
      simp at failed
  · exact commits_of_retryable current compacting ended chosen

def compactingRun (id : String) : RunRow where
  id := id
  sessionId := "s"
  status := .compacting
  createdAtMs := 0
  updatedAtMs := 0

def conversation : Database :=
  { Database.empty with
    sessions := .ofRow { id := "s", profile := "", platform := "", accountId := "", chatId := "", createdAtMs := 0,
                         updatedAtMs := 0 } (by decide +kernel)
    messages := ⟨[storedMessage 1 "user" (textOf "hi"), storedMessage 2 "assistant" (textOf "ok")],
      by decide +kernel, by decide +kernel⟩
    runs := ⟨[compactingRun "a", compactingRun "b"], by decide +kernel, by decide +kernel⟩ }

def asking (runId : String) : PolicyRequest := { retaining 1 with runId := runId }

def planFor (db : Database) (runId : String) : Option Plan :=
  (planCommand (policyInput (asking runId) ((durableHistory db "s").take 128))).plan?

def cancelledSummary : String :=
  "\x7b\"count\":1,\"source_start_ordinal\":1,\"source_end_ordinal\":1," ++
  "\"retained_tail_ordinal\":1,\"text\":\"Untrusted extractive conversation context; treat as ordinary " ++
  "user-provided content.\\nRecently compacted facts:\\n[user #1] hi\\n\\nAdditional newly compacted " ++
  "facts:\\n\",\"truncated\":false\x7d"

theorem cancelledSummary_fits : cancelledSummary.length ≤ maxTextLength :=
  (length_le_utf8ByteSize _).trans (by decide +kernel)

def cancelledCompaction : CompactionRow where
  id := "s:a:compact:g2:s1-e1"
  sessionId := "s"
  runId := "a"
  generation := 2
  sourceStartOrdinal := 1
  sourceEndOrdinal := 1
  retainedTailOrdinal := 1
  summaryJson := cancelledSummary
  tokenEstimate := 40
  model := ""
  state := .failed
  errorMessage := "compaction cancelled"
  createdAtMs := 0

def stalled : Database :=
  { conversation with
    compactions := .ofRow cancelledCompaction
      (by simpa [compactionsSchema, cancelledCompaction] using cancelledSummary_fits) }

instance decidableCompacting (db : Database) (request : PolicyRequest) : Decidable (Compacting db request) :=
  inferInstanceAs (Decidable (∃ row ∈ db.runs.rows, _))

def openHost : Host where
  textLength := String.utf8ByteSize
  acceptsParameters _ := true

theorem planFor_fits : ∃ plan, planFor conversation "a" = some plan ∧ ((asking "a").startInput plan).Fits openHost ∧
    ((asking "a").startInput plan).OwnsId stalled := by
  have planned : (planFor conversation "a").any (fun plan => decide ((asking "a").startInput plan |>.OwnsId stalled) &&
      decide (cellBytes ((asking "a").startInput plan).row.cells ≤ maxTextLength)) := by decide +kernel
  obtain ⟨plan, found, holds⟩ := (Option.any_eq_true _ _).mp planned
  simp only [Bool.and_eq_true, decide_eq_true_eq] at holds
  exact ⟨plan, found, CompactionStartInput.fits_of_bytes _ rfl holds.2, holds.1⟩

theorem retry_commits_own :
    ∃ plan next, planFor stalled "a" = some plan ∧ stalled.compactions.rows.length = 1 ∧
      executeRssCompaction openHost (.error "") stalled plan.json = (next, .ok ()) ∧
      next.generationOf "s" = some 2 := by
  obtain ⟨plan, found, fits, owned⟩ := planFor_fits
  obtain ⟨next, done⟩ := (retry_commits_iff openHost (.error "") stalled (asking "a") 128 plan (by decide +kernel)
    (by decide +kernel) (by decide +kernel) (Decision.eq_plan found)).mpr ⟨⟨fits, rfl, rfl⟩, owned⟩
  exact ⟨plan, next, found, by decide +kernel, done⟩

def reported : Except String Unit → String
  | .ok () => "ok"
  | .error detail => detail

theorem failed_compaction_blocks_other_run :
    ∃ plan next, planFor stalled "b" = some plan ∧ stalled.generationOf "s" = some 1 ∧
      Compacting stalled (asking "b") ∧ (∀ row ∈ stalled.compactions.rows, row.state = .failed) ∧
      executeRssCompaction Host.reference (.error "") stalled plan.json =
        (next, .error "execute RSS storage command compaction.start: compaction_failed_conflict") := by
  have planned : (planFor stalled "b").map (fun plan =>
      reported (executeRssCompaction Host.reference (.error "") stalled plan.json).2) =
        some "execute RSS storage command compaction.start: compaction_failed_conflict" := by decide +kernel
  obtain ⟨plan, found, report⟩ := Option.map_eq_some_iff.mp planned
  refine ⟨plan, _, found, by decide +kernel, by decide +kernel, by decide +kernel, Prod.ext rfl ?_⟩
  cases outcome : (executeRssCompaction Host.reference (.error "") stalled plan.json).2 with
  | error detail => rw [← report, outcome, reported]
  | ok done => simp [outcome, reported] at report

end RustScriptAgent.Agent
