import RustScriptAgent.Storage.Schema

namespace RustScriptAgent.Storage

open Relational

structure ClaimSlot where
  scope : String
  key : String
  deriving DecidableEq

structure ClaimRecord where
  slot : ClaimSlot
  requestHash : String
  resourceType : String
  resourceId : String
  state : IdempotencyState
  responseJson : String := "\x7b\x7d"
  createdAtMs : Int
  expiresAtMs : Int
  completedAtMs : Int := 0
  deriving DecidableEq

structure ClaimRow where
  slot : ClaimSlot
  requestHash : String
  claimToken : String
  claimedAtMs : Int
  deriving DecidableEq

structure ClaimHistoryRow where
  claimToken : String
  slot : ClaimSlot
  claimedAtMs : Int
  deriving DecidableEq

def claimRecordsSchema : Schema ClaimRecord where
  conflict a b := decide (a.slot = b.slot)
  check row := decide (row.responseJson.length ≤ maxTextLength)
  symm a b := by grind

def claimRowsSchema : Schema ClaimRow where
  conflict a b := decide (a.slot = b.slot)
  check _ := true
  symm a b := by grind

def claimHistorySchema : Schema ClaimHistoryRow where
  conflict a b := a.claimToken == b.claimToken
  check _ := true
  symm a b := by grind

structure ClaimTables where
  records : Table claimRecordsSchema
  claims : Table claimRowsSchema
  history : Table claimHistorySchema

namespace ClaimTables

def empty : ClaimTables := ⟨.empty, .empty, .empty⟩

def record? (tables : ClaimTables) (slot : ClaimSlot) : Option ClaimRecord :=
  tables.records.rows.find? fun row => decide (row.slot = slot)

def claim? (tables : ClaimTables) (slot : ClaimSlot) : Option ClaimRow :=
  tables.claims.rows.find? fun row => decide (row.slot = slot)

end ClaimTables

structure IdempotencyBeginInput where
  slot : ClaimSlot
  requestHash : String
  resourceType : String
  resourceId : String
  claimToken : String
  nowMs : Int
  expiresAtMs : Int
  deriving DecidableEq

namespace IdempotencyBeginInput

def record (input : IdempotencyBeginInput) : ClaimRecord where
  slot := input.slot
  requestHash := input.requestHash
  resourceType := input.resourceType
  resourceId := input.resourceId
  state := .claimed
  createdAtMs := input.nowMs
  expiresAtMs := input.expiresAtMs

def claim (input : IdempotencyBeginInput) : ClaimRow := ⟨input.slot, input.requestHash, input.claimToken, input.nowMs⟩

def historyRow (input : IdempotencyBeginInput) : ClaimHistoryRow := ⟨input.claimToken, input.slot, input.nowMs⟩

def lapses (input : IdempotencyBeginInput) (row : ClaimRecord) : Bool :=
  decide (row.slot = input.slot) &&
    (decide (row.state = .claimed) && decide (row.expiresAtMs ≤ input.nowMs) || decide (row.state = .expired))

end IdempotencyBeginInput

/-- The transaction of a begin, with `changes()` after its last statement, or nothing when a statement fails and the
transaction is rolled back. Other commands run between it and the query that answers. -/
def beginTransaction (tables : ClaimTables) (input : IdempotencyBeginInput) : Option (ClaimTables × Nat) := do
  let kept := tables.records.delete input.lapses
  let (records, changes) :=
    if input.claimToken ≠ "" then
      match kept.insert? input.record with
      | some inserted => (inserted, 1)
      | none => (kept, 0)
    else (kept, 0)
  let (history, changes) ←
    if changes = 1 ∧ input.claimToken ≠ "" then
      (tables.history.insert? input.historyRow).map fun inserted => (inserted, 1)
    else some (tables.history, 0)
  let (claims, changes) :=
    if changes = 1 then
      ((tables.claims.delete fun row => decide (row.slot = input.slot)).insertOrIgnore input.claim, 1)
    else (tables.claims, 0)
  return (⟨records, claims, history⟩, changes)

structure BeginCall where
  input : IdempotencyBeginInput
  maxRows : Int
  changes : Nat
  deriving DecidableEq

structure BeginAnswer where
  acquired : Bool
  claimToken : String
  deriving DecidableEq

def BeginCall.answer (call : BeginCall) (tables : ClaimTables) : Option BeginAnswer :=
  if call.maxRows = 0 then none
  else (tables.record? call.input.slot).map fun _ =>
    let acquired := decide (call.changes = 1) && tables.claims.rows.any fun row =>
      decide (row.slot = call.input.slot) && row.claimToken == call.input.claimToken
    ⟨acquired, if acquired then call.input.claimToken else ""⟩

structure IdempotencyCompleteInput where
  slot : ClaimSlot
  requestHash : String
  claimToken : String
  state : String
  responseJson : String
  nowMs : Int
  deriving DecidableEq

namespace IdempotencyCompleteInput

def state? (input : IdempotencyCompleteInput) : Option IdempotencyState :=
  if input.state = "completed" then some .completed
  else if input.state = "failed" then some .failed
  else none

def holds (input : IdempotencyCompleteInput) (tables : ClaimTables) : Bool :=
  tables.claims.rows.any fun row =>
    decide (row.slot = input.slot) && row.requestHash == input.requestHash && row.claimToken == input.claimToken

def selects (input : IdempotencyCompleteInput) (tables : ClaimTables) (row : ClaimRecord) : Bool :=
  decide (row.slot = input.slot) && row.requestHash == input.requestHash && decide (row.state = .claimed) &&
    decide (input.nowMs < row.expiresAtMs) && input.claimToken != "" && input.holds tables

def settle (input : IdempotencyCompleteInput) (state : IdempotencyState)
    (short : input.responseJson.length ≤ maxTextLength) : claimRecordsSchema.Assignment where
  apply row := { row with state := state, responseJson := input.responseJson, completedAtMs := input.nowMs }
  left _ _ := rfl
  right _ _ := rfl
  check _ _ := by simpa [claimRecordsSchema] using short

end IdempotencyCompleteInput

def completeClaim (tables : ClaimTables) (input : IdempotencyCompleteInput) : ClaimTables :=
  match input.state? with
  | none => tables
  | some state =>
    if short : input.responseJson.length ≤ maxTextLength then
      { tables with records := tables.records.update (input.selects tables) (input.settle state short) }
    else tables

inductive ClaimEvent where
  | lapsed (slot : ClaimSlot) (record : ClaimRecord) (now : Int)
  | claimed (slot : ClaimSlot) (token : String)
  | acquired (slot : ClaimSlot) (token : String)
  deriving DecidableEq

def BeginCall.events (call : BeginCall) (tables : ClaimTables) : List ClaimEvent :=
  match call.answer tables with
  | some ⟨true, token⟩ => [.acquired call.input.slot token]
  | _ => []

structure Claimants where
  tables : ClaimTables
  calls : List BeginCall
  log : List ClaimEvent

inductive ClaimLabel where
  | transact (input : IdempotencyBeginInput) (maxRows : Int)
  | answer (index : Nat)
  | complete (input : IdempotencyCompleteInput)
  deriving DecidableEq

namespace Claimants

def start : Claimants := ⟨.empty, [], []⟩

def eventsOf (tables : ClaimTables) (input : IdempotencyBeginInput) (changes : Nat) : List ClaimEvent :=
  ((tables.record? input.slot).filter input.lapses).toList.map (fun record => .lapsed input.slot record input.nowMs) ++
    if changes = 1 then [.claimed input.slot input.claimToken] else []

def step (state : Claimants) : ClaimLabel → Claimants
  | .transact input maxRows =>
    match beginTransaction state.tables input with
    -- the command fails
    | none => state
    | some (tables, changes) =>
      { tables
        calls := state.calls ++ [⟨input, maxRows, changes⟩]
        log := state.log ++ eventsOf state.tables input changes }
  | .answer index =>
    match state.calls[index]? with
    | none => state
    | some call =>
      { state with
        calls := state.calls.eraseIdx index
        log := state.log ++ call.events state.tables }
  | .complete input => { state with tables := completeClaim state.tables input }

def run (labels : List ClaimLabel) : Claimants := labels.foldl step start

end Claimants

end RustScriptAgent.Storage
