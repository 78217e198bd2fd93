import RustScriptAgent.Agent.Snapshot

namespace RustScriptAgent.Agent

open Storage Gateway List

variable {rest : List Json} {cursor latest boundary : Nat}

section Search

variable {messages : List Json} {message : Json}

theorem le_scanResults (ahead : latest ≤ cursor) : latest ≤ scanResults message rest cursor latest := by
  induction rest generalizing cursor latest with
  | nil => exact le_rfl
  | cons candidate rest ih =>
    rw [scanResults]
    split_ifs
    · exact le_trans (by omega) (ih (le_refl (cursor + 1)))
    · exact ih (by omega)

theorem scanResults_le (message : Json) (ahead : latest ≤ cursor) :
    scanResults message rest cursor latest ≤ cursor + rest.length := by
  induction rest generalizing cursor latest with
  | nil => simpa [scanResults] using ahead
  | cons candidate rest ih =>
    rw [scanResults, length_cons]
    split_ifs
    · exact le_trans (ih (le_refl (cursor + 1))) (by omega)
    · exact le_trans (ih (by omega)) (by omega)

theorem scanResults_eq_iff (ahead : latest ≤ cursor) : scanResults message rest cursor latest = latest ↔
      ∀ candidate ∈ rest, answersCall message (asMap candidate) = false := by
  induction rest generalizing cursor latest with
  | nil => simp [scanResults]
  | cons candidate rest ih =>
    rw [scanResults, forall_mem_cons]
    cases answers : answersCall message (asMap candidate) with
    | false => simpa using ih (by omega)
    | true =>
      have moved : cursor + 1 ≤ scanResults message rest (cursor + 1) (cursor + 1) := le_scanResults le_rfl
      simp only [if_true, Bool.true_eq_false, false_and, iff_false]
      omega

theorem scanResults_append (front : List Json) : scanResults message (front ++ rest) cursor latest =
    scanResults message rest (cursor + front.length) (scanResults message front cursor latest) := by
  induction front generalizing cursor latest with
  | nil => rfl
  | cons candidate front ih =>
    rw [cons_append, scanResults, ih, scanResults, length_cons, Nat.add_right_comm, Nat.add_assoc]

def ResultsBefore (messages : List Json) (boundary : Nat) : Prop :=
  ∀ call ∈ messages.take boundary, messageRole (asMap call) = "assistant" →
    ∀ answer ∈ messages.drop boundary, answersCall (asMap call) (asMap answer) = false

theorem resultsBefore_of_length_le (whole : messages.length ≤ boundary) : ResultsBefore messages boundary := by
  intro _ _ _ answer later
  simp [drop_of_length_le whole] at later

section Bound

variable {bound : Nat} (closed : ResultsBefore messages bound)
include closed

theorem ResultsBefore.push_le (listed : message ∈ messages.take bound) (within : boundary ≤ bound) :
    pushBoundary messages (asMap message) boundary ≤ bound := by
  unfold pushBoundary
  split_ifs with calls
  · -- what stands behind the bound answers nothing, so the scan ends where it is at the bound
    rw [← take_append_drop (bound - boundary) (messages.drop boundary), drop_drop, Nat.add_sub_cancel' within,
      scanResults_append]
    have ahead : scanResults (asMap message) ((messages.drop boundary).take (bound - boundary)) boundary boundary ≤ _ :=
      scanResults_le (asMap message) le_rfl
    rw [(scanResults_eq_iff ahead).mpr (closed message listed (by simp_all))]
    exact ahead.trans (by rw [length_take]; omega)
  · exact within

theorem ResultsBefore.pass_le {index : Nat} (ahead : rest = messages.drop index) (within : boundary ≤ bound) :
    boundaryPass messages rest index boundary ≤ bound := by
  induction rest generalizing index boundary with
  | nil => exact within
  | cons first rest ih =>
    rw [boundaryPass]
    split_ifs with inside
    · have here : messages[index]? = some first := by rw [← head?_drop, ← ahead]; rfl
      have listed : first ∈ messages.take bound :=
        mem_of_getElem? (by rw [getElem?_take_of_lt (inside.trans_le within), here])
      exact ih (by rw [← tail_drop, ← ahead]; rfl) (closed.push_le listed within)
    · exact within

theorem ResultsBefore.passes_le (fuel : Nat) (within : boundary ≤ bound) :
    boundaryPasses messages fuel boundary ≤ bound := by
  induction fuel generalizing boundary with
  | zero => exact within
  | succ fuel ih =>
    simp only [boundaryPasses]
    split_ifs
    · exact within
    · exact ih (closed.pass_le rfl within)

end Bound

theorem boundaryPasses_le (fuel : Nat) (within : boundary ≤ messages.length) :
    boundaryPasses messages fuel boundary ≤ messages.length :=
  (resultsBefore_of_length_le le_rfl).passes_le fuel within

theorem le_pushBoundary (messages : List Json) (message : Json) (boundary : Nat) :
    boundary ≤ pushBoundary messages message boundary := by
  unfold pushBoundary
  split_ifs
  · exact le_scanResults le_rfl
  · exact le_rfl

theorem le_boundaryPass (messages rest : List Json) (index boundary : Nat) :
    boundary ≤ boundaryPass messages rest index boundary := by
  induction rest generalizing index boundary with
  | nil => exact le_rfl
  | cons first rest ih =>
    rw [boundaryPass]
    split_ifs
    · exact le_trans (le_pushBoundary messages (asMap first) boundary) (ih _ _)
    · exact le_rfl

theorem pushBoundary_eq_of_pass {index offset : Nat}
    (still : boundaryPass messages rest index boundary = boundary) (found : rest[offset]? = some message)
    (before : index + offset < boundary) : pushBoundary messages (asMap message) boundary = boundary := by
  induction rest generalizing index offset with
  | nil => simp at found
  | cons first rest ih =>
    rw [boundaryPass, if_pos (by omega)] at still
    -- neither the push nor the rest of the pass moves back
    have pushed := le_pushBoundary messages (asMap first) boundary
    have passed := le_boundaryPass messages rest (index + 1) (pushBoundary messages (asMap first) boundary)
    have fixed : pushBoundary messages (asMap first) boundary = boundary := by omega
    cases offset with
    | zero =>
      obtain rfl : first = message := by simpa using found
      exact fixed
    | succ offset =>
      rw [fixed] at still
      exact ih still (by simpa using found) (by omega)

theorem le_boundaryPasses (fuel boundary : Nat) : boundary ≤ boundaryPasses messages fuel boundary := by
  induction fuel generalizing boundary with
  | zero => exact le_rfl
  | succ fuel ih =>
    simp only [boundaryPasses]
    split_ifs
    · exact le_rfl
    · exact le_trans (le_boundaryPass messages messages 0 boundary) (ih _)

theorem boundaryPasses_fixed {fuel : Nat} (within : boundary ≤ messages.length)
    (enough : messages.length < boundary + fuel) :
    boundaryPass messages messages 0 (boundaryPasses messages fuel boundary) =
      boundaryPasses messages fuel boundary := by
  induction fuel generalizing boundary with
  | zero => omega
  | succ fuel ih =>
    simp only [boundaryPasses]
    split_ifs with still
    · exact still
    · have grown := le_boundaryPass messages messages 0 boundary
      exact ih ((resultsBefore_of_length_le le_rfl).pass_le rfl within) (by omega)

theorem messageHasToolCalls_of_call {callId : String} (call : messageHasCall message callId) :
    messageHasToolCalls message := by
  simp only [messageHasCall, any_eq_true, Bool.and_eq_true] at call
  obtain ⟨part, member, type, _⟩ := call
  exact any_eq_true.mpr ⟨part, member, type⟩

theorem resultsBefore_compactBoundary (messages : List Json) (startBoundary : Nat) :
    ResultsBefore messages (compactBoundary messages startBoundary) := by
  by_cases within : startBoundary ≤ messages.length
  · intro call listed assistant answer later
    have fixed : boundaryPass messages messages 0 (compactBoundary messages startBoundary) =
        compactBoundary messages startBoundary := boundaryPasses_fixed within (by omega)
    obtain ⟨index, inside, called⟩ := mem_take_iff_getElem.mp listed
    have still := pushBoundary_eq_of_pass fixed (List.getElem?_eq_some_iff.mpr ⟨_, called⟩) (by omega)
    by_contra answers
    rw [Bool.not_eq_false] at answers
    have calls : messageHasToolCalls (asMap call) := messageHasToolCalls_of_call (Bool.and_eq_true_iff.mp answers).2
    rw [pushBoundary, if_pos (by simp [assistant, calls]), scanResults_eq_iff le_rfl] at still
    simp [still answer later] at answers
  · have closed : ResultsBefore messages startBoundary := resultsBefore_of_length_le (Nat.le_of_not_le within)
    rwa [compactBoundary, (closed.passes_le _ le_rfl).antisymm (le_boundaryPasses _ _)]

theorem compactBoundary_isLeast (messages : List Json) (startBoundary : Nat) :
    IsLeast {boundary | startBoundary ≤ boundary ∧ ResultsBefore messages boundary}
      (compactBoundary messages startBoundary) :=
  ⟨⟨le_boundaryPasses _ _, resultsBefore_compactBoundary messages startBoundary⟩,
    fun _ other => other.2.passes_le _ other.1⟩

theorem compactBoundary_of_no_tool (startBoundary : Nat)
    (roles : ∀ candidate ∈ messages, messageRole (asMap candidate) ≠ "tool") :
    compactBoundary messages startBoundary = startBoundary := by
  have still (message : Json) : pushBoundary messages message startBoundary = startBoundary := by
    unfold pushBoundary
    split_ifs
    · rw [scanResults_eq_iff le_rfl]
      intro candidate listed
      simp [answersCall, roles candidate (mem_of_mem_drop listed)]
    · rfl
  have passed (rest : List Json) (index : Nat) :
      boundaryPass messages rest index startBoundary = startBoundary := by
    induction rest generalizing index with
    | nil => rfl
    | cons first rest ih =>
      rw [boundaryPass, still, ih]
      exact ite_self startBoundary
  simp [compactBoundary, boundaryPasses, passed]

end Search

def messageResultIds (message : Json) : List String :=
  ((messageContent message).filter fun part => partType part == "tool_result").map partToolCallId

def Calls (row : MessageRow) (callId : String) : Prop :=
  row.role = "assistant" ∧ messageHasCall (snapshotMessage row) callId = true

instance decidableCalls (row : MessageRow) (callId : String) : Decidable (Calls row callId) :=
  inferInstanceAs (Decidable (_ ∧ _))

def Answers (history : List MessageRow) (call answer : MessageRow) (callId : String) : Prop :=
  Calls call callId ∧ callId ∈ messageResultIds (snapshotMessage answer) ∧ call.ordinal < answer.ordinal ∧
    ∀ other ∈ history, Calls other callId → other.ordinal ≤ call.ordinal ∨ answer.ordinal ≤ other.ordinal

instance decidableAnswers (history : List MessageRow) (call answer : MessageRow) (callId : String) :
    Decidable (Answers history call answer callId) :=
  inferInstanceAs (Decidable (_ ∧ _))

def KeepsPairs (history : List MessageRow) (boundary : Int) : Prop :=
  ∀ call ∈ history, ∀ answer ∈ history, ∀ callId ∈ messageResultIds (snapshotMessage answer),
    Answers history call answer callId → call.ordinal ≤ boundary → answer.ordinal ≤ boundary

instance decidableKeepsPairs (history : List MessageRow) (boundary : Int) : Decidable (KeepsPairs history boundary) :=
  inferInstanceAs (Decidable (∀ call ∈ history, _))

def tailCut (history : List MessageRow) (retainedTail : Nat) : Int :=
  let active := uncompacted history
  (active[active.length - retainedTail - 1]?.map MessageRow.ordinal).getD 0

def TailClosed (history : List MessageRow) (retainedTail : Nat) : Prop :=
  ∀ answer ∈ history, tailCut history retainedTail < answer.ordinal →
    ∀ callId ∈ messageResultIds (snapshotMessage answer), ∀ call ∈ history,
      Answers history call answer callId → tailCut history retainedTail < call.ordinal

instance decidableTailClosed (history : List MessageRow) (retainedTail : Nat) :
    Decidable (TailClosed history retainedTail) :=
  inferInstanceAs (Decidable (∀ answer ∈ history, _))

theorem messageAt_snapshot (history : List MessageRow) (index : Nat) (inside : index < history.length) :
    messageAt (history.map snapshotMessage) index = snapshotMessage history[index] := by
  simp [messageAt, inside]

theorem plan_sourceEndOrdinal {request : PolicyRequest} {history : List MessageRow} {plan : Plan}
    (stored : ∀ row ∈ history, row.role ≠ "tool") (chosen : planCommand (policyInput request history) = .plan plan) :
    plan.sourceEndOrdinal = tailCut history request.settings.retainedTail := by
  obtain ⟨some, short, rfl⟩ := planCommand_eq_plan request history chosen
  rw [length_map] at short
  have roles : ∀ candidate ∈ (uncompacted history).map snapshotMessage, messageRole (asMap candidate) ≠ "tool" := by
    intro candidate listed
    obtain ⟨row, kept, rfl⟩ := mem_map.mp listed
    simpa using stored row (mem_filter.mp kept).1
  have inside : (uncompacted history).length - request.settings.retainedTail - 1 < (uncompacted history).length := by
    omega
  rw [compactBoundary_of_no_tool _ roles, length_map]
  simp [compactPlan, sourceRange, messageAt_snapshot _ _ inside, messageOrdinal_snapshotMessage,
    tailCut, getElem?_eq_getElem inside]

theorem plan_keeps_pairs_iff (request : PolicyRequest) (history : List MessageRow) (plan : Plan)
    (stored : ∀ row ∈ history, row.role ≠ "tool") (chosen : planCommand (policyInput request history) = .plan plan) :
    KeepsPairs history plan.sourceEndOrdinal ↔ TailClosed history request.settings.retainedTail := by
  rw [plan_sourceEndOrdinal stored chosen]
  constructor
  · intro keeps answer present behind callId listed call called answers
    by_contra before
    have := keeps call called answer present callId listed answers (by omega)
    omega
  · intro closed call called answer present callId listed answers before
    by_contra behind
    have := closed answer present (by omega) callId listed call called answers
    omega

def storedMessage (ordinal : Int) (role : String) (block : Json) : MessageRow where
  id := "m" ++ toString ordinal
  sessionId := "s"
  ordinal := ordinal
  role := role
  content := .json (.arr [block])
  createdAtMs := 0

def textOf (text : String) : Json := .obj [("type", .str "text"), ("text", .str text)]

def callOf (callId : String) : Json :=
  .obj [("type", .str "tool_call"), ("tool_call_id", .str callId), ("name", .str "read"), ("arguments_json", .str "")]

def resultOf (callId : String) : Json :=
  .obj [("type", .str "tool_result"), ("tool_call_id", .str callId), ("content", .str "done"),
    ("is_error", .bool false)]

def toolTurn : List MessageRow :=
  [storedMessage 1 "user" (textOf "hi"), storedMessage 2 "assistant" (callOf "c"),
    storedMessage 3 "user" (resultOf "c"), storedMessage 4 "assistant" (textOf "ok")]

def retaining (tail : Nat) : PolicyRequest where
  sessionId := "s"
  runId := "r"
  generation := 1
  settings := { maxContextMessages := 1, retainedTail := tail }
  force := false
  previousSummary := ""
  nowMs := 0
  model := ""

theorem plan_keeps_pairs_behind_call :
    ∃ plan, planCommand (policyInput (retaining 3) toolTurn) = .plan plan ∧ plan.sourceEndOrdinal = 1 ∧
      KeepsPairs toolTurn plan.sourceEndOrdinal := by
  have planned : ((planCommand (policyInput (retaining 3) toolTurn)).plan?.map Plan.sourceEndOrdinal) = some 1 := by
    decide +kernel
  obtain ⟨plan, found, last⟩ := Option.map_eq_some_iff.mp planned
  have chosen := Decision.eq_plan found
  refine ⟨plan, chosen, last, ?_⟩
  exact (plan_keeps_pairs_iff (retaining 3) toolTurn plan (by decide) chosen).mpr (by decide +kernel)

theorem plan_splits_call_from_result : ∃ plan, planCommand (policyInput (retaining 2) toolTurn) = .plan plan ∧
      (∀ row ∈ toolTurn, row.role = "user" ∨ row.role = "assistant") ∧
      ¬ KeepsPairs toolTurn plan.sourceEndOrdinal := by
  have planned : ((planCommand (policyInput (retaining 2) toolTurn)).plan?.map Plan.sourceEndOrdinal) = some 2 := by
    decide +kernel
  obtain ⟨plan, found, last⟩ := Option.map_eq_some_iff.mp planned
  refine ⟨plan, Decision.eq_plan found, by decide, ?_⟩
  rw [last]
  decide +kernel

end RustScriptAgent.Agent
