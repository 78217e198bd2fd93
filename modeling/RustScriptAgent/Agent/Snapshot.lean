import RustScriptAgent.Agent.Compact
import RustScriptAgent.Storage.Statements

namespace RustScriptAgent.Agent

open Storage Gateway Sequences Json

/-- `storage_message_content_expr`: what a select makes of a stored content -/
def listedContent (content : JsonText) : Json :=
  let text : Json := .arr [.obj [("type", .str "text"), ("text", extractedContent content)]]
  match content with
  | .json (.arr items) => .arr items
  | .json document =>
    match document.get? "type" with
    | none | some .null => text
    | some _ => .arr [document]
  | .raw _ => text

def presentText (key value : String) : List (String × Json) := if value = "" then [] else [(key, .str value)]

def snapshotMessage (row : MessageRow) : Json :=
  .obj ([("id", .str row.id), ("session_id", .str row.sessionId), ("ordinal", .int row.ordinal),
    ("role", .str row.role), ("content", decodeMessageContent (listedContent row.content)),
    ("compacted", .int (if row.compacted then 1 else 0))] ++ presentText "name" row.name ++
    presentText "tool_call_id" row.toolCallId ++ presentText "parent_message_id" row.parentMessageId)

structure CompactionSettings where
  enabled : Bool := true
  maxContextMessages : Nat := 120
  retainedTail : Nat := 32

structure PolicyRequest where
  sessionId : String
  runId : String
  generation : Int
  settings : CompactionSettings
  force : Bool
  previousSummary : String
  nowMs : Int
  model : String

def policyInput (request : PolicyRequest) (history : List MessageRow) : Json :=
  .obj [("session_id", .str request.sessionId), ("run_id", .str request.runId),
    ("generation", .int request.generation), ("messages", .arr (history.map snapshotMessage)),
    ("config", .obj [("enabled", .bool request.settings.enabled),
      ("max_context_messages", .int request.settings.maxContextMessages),
      ("retained_tail", .int request.settings.retainedTail), ("force", .bool request.force),
      ("previous_summary", .str request.previousSummary), ("now_ms", .int request.nowMs),
      ("model", .str request.model), ("token_estimate", .int 0)])]

section Row

variable (row : MessageRow)

@[simp] theorem asMap_snapshotMessage : asMap (snapshotMessage row) = snapshotMessage row := rfl

@[simp] theorem messageRole_snapshotMessage : messageRole (snapshotMessage row) = row.role := by
  simp [messageRole, ctxString, snapshotMessage, getStr?, get?, asStr?]

@[simp] theorem messageOrdinal_snapshotMessage : messageOrdinal (snapshotMessage row) = row.ordinal := by
  simp [messageOrdinal, ctxInt, snapshotMessage, getInt?, get?, asInt?]

@[simp] theorem messageIsCompacted_snapshotMessage : messageIsCompacted (snapshotMessage row) = row.compacted := by
  cases held : row.compacted <;> simp [messageIsCompacted, snapshotMessage, get?, held]

end Row

def uncompacted (history : List MessageRow) : List MessageRow := history.filter fun row => !row.compacted

theorem activeMessages_snapshot (history : List MessageRow) :
    activeMessages (history.map snapshotMessage) = (uncompacted history).map snapshotMessage := by
  have compacted : ((fun message => !messageIsCompacted message) ∘ asMap ∘ snapshotMessage) =
      fun row => !row.compacted := by
    funext row
    simp
  rw [activeMessages, List.map_map, uncompacted, List.filter_map, compacted]
  rfl

theorem planCommand_plan {context : Json} {plan : Plan} (chosen : planCommand context = .plan plan) :
    let active := activeMessages (ctxArray context "messages")
    let retainedTail := ctxInt (ctxMap context "config") "retained_tail" 32
    1 ≤ retainedTail ∧ retainedTail < active.length ∧
      plan = compactPlan (planContext context) active
        (compactBoundary active (active.length - retainedTail.toNat)) := by
  dsimp only
  simp only [planCommand] at chosen
  split_ifs at chosen with usable window short silent
  · simp [emptySummary] at chosen
  · simp only [Decision.plan.injEq] at chosen
    exact ⟨usable.2.2, by omega, chosen.symm⟩

section Decision

variable (request : PolicyRequest) (history : List MessageRow)

def PolicyRequest.planContext : PlanContext where
  sessionId := request.sessionId
  runId := request.runId
  compactionId := ""
  generation := request.generation
  nowMs := request.nowMs
  model := request.model
  tokenEstimate := 0
  previousSummary := request.previousSummary

theorem planContext_policyInput : planContext (policyInput request history) = request.planContext := by
  simp [planContext, policyInput, PolicyRequest.planContext, ctxString, ctxInt, ctxMap, getStr?, getInt?,
    get?, asStr?, asInt?, asMap]

theorem planCommand_eq_plan {plan : Plan} (chosen : planCommand (policyInput request history) = .plan plan) :
    let active := (uncompacted history).map snapshotMessage
    0 < request.settings.retainedTail ∧ request.settings.retainedTail < active.length ∧
      plan = compactPlan request.planContext active
        (compactBoundary active (active.length - request.settings.retainedTail)) := by
  have messages : ctxArray (policyInput request history) "messages" = history.map snapshotMessage := by
    simp [ctxArray, policyInput, get?, asArr?]
  have tail : ctxInt (ctxMap (policyInput request history) "config") "retained_tail" 32 =
      request.settings.retainedTail := by
    simp [ctxMap, ctxInt, policyInput, getInt?, get?, asInt?, asMap]
  obtain ⟨some, short, planned⟩ := planCommand_plan chosen
  rw [messages, tail, activeMessages_snapshot, planContext_policyInput, Int.toNat_natCast] at planned
  rw [messages, tail, activeMessages_snapshot] at short
  rw [tail] at some
  exact ⟨by omega, by omega, planned⟩

end Decision

end RustScriptAgent.Agent
