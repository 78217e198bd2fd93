import Mathlib.Algebra.BigOperators.Group.List.Basic
import Mathlib.Algebra.Order.Ring.Int
import RustScriptAgent.Shared.Separated
import RustScriptAgent.Shared.Table

namespace RustScriptAgent.Storage

open Relational

def maxInteger : Int := 9223372036854775807

/-- The value of an integer column: an integer, or the real number that a sum out of the range of integers becomes. -/
inductive Amount where
  | integer (value : Int)
  | real
  deriving DecidableEq

namespace Amount

def of (value : Int) : Amount := if value ≤ maxInteger then .integer value else .real

def add : Amount → Int → Amount
  | integer value, more => of (value + more)
  | real, _ => .real

def nonneg : Amount → Bool
  | integer value => 0 ≤ value
  | real => true

def integer? : Amount → Option Int
  | integer value => some value
  | real => none

/-- `COALESCE(SUM(..), 0)`: a sum of integers fails when it is out of range. -/
def sum (amounts : List Amount) : Option Amount :=
  match amounts.mapM integer? with
  | some values => if values.sum ≤ maxInteger then some (.integer values.sum) else none
  | none => some .real

end Amount

open Amount

structure UsageLine where
  runId : String
  provider : String
  model : String
  deriving DecidableEq

structure UsageInput where
  id : String
  line : UsageLine
  requestCount : Int
  inputTokens : Int
  outputTokens : Int
  reasoningTokens : Int
  cachedTokens : Int
  nowMs : Int
  deriving DecidableEq

structure UsageRow where
  id : String
  line : UsageLine
  requestCount : Amount
  inputTokens : Amount
  outputTokens : Amount
  reasoningTokens : Amount
  cachedTokens : Amount
  usageIds : String
  createdAtMs : Int
  deriving DecidableEq

def usageSchema : Schema UsageRow where
  conflict a b := a.id == b.id || decide (a.line = b.line)
  check row := row.requestCount.nonneg && row.inputTokens.nonneg && row.outputTokens.nonneg &&
    row.reasoningTokens.nonneg && row.cachedTokens.nonneg
  symm a b := by grind

structure RunTokens where
  id : String
  inputTokens : Amount
  outputTokens : Amount
  updatedAtMs : Int
  deriving DecidableEq

def runTokensSchema : Schema RunTokens where
  conflict a b := a.id == b.id
  check _ := true
  symm a b := by grind

structure UsageTables where
  usage : Table usageSchema
  runs : Table runTokensSchema

def UsageTables.knows (tables : UsageTables) (run : String) : Bool := tables.runs.rows.any fun row => row.id == run

inductive UsageError where
  | parameterRejected
  | constraintFailed
  | foreignKeyFailed
  | integerOverflow
  deriving DecidableEq

namespace UsageInput

def nonneg (input : UsageInput) : Bool :=
  0 ≤ input.requestCount && 0 ≤ input.inputTokens && 0 ≤ input.outputTokens && 0 ≤ input.reasoningTokens &&
    0 ≤ input.cachedTokens

def texts (input : UsageInput) : List String := [input.id, input.line.runId, input.line.provider, input.line.model]

def row (input : UsageInput) : UsageRow where
  id := input.id
  line := input.line
  requestCount := .of input.requestCount
  inputTokens := .of input.inputTokens
  outputTokens := .of input.outputTokens
  reasoningTokens := .of input.reasoningTokens
  cachedTokens := .of input.cachedTokens
  usageIds := "|" ++ input.id ++ "|"
  createdAtMs := input.nowMs

end UsageInput

theorem Amount.nonneg_of {value : Int} (nonneg : 0 ≤ value) : (of value).nonneg := by
  unfold of
  split
  · simpa [Amount.nonneg] using nonneg
  · rfl

theorem Amount.nonneg_add {amount : Amount} {more : Int} (held : amount.nonneg) (nonneg : 0 ≤ more) :
    (amount.add more).nonneg := by
  cases amount with
  | integer value =>
    have value_nonneg : 0 ≤ value := by simpa [Amount.nonneg] using held
    exact nonneg_of (by omega)
  | real => rfl

def addUsage (input : UsageInput) (nonneg : input.nonneg = true) : usageSchema.Assignment where
  apply row := { row with
    requestCount := row.requestCount.add input.requestCount
    inputTokens := row.inputTokens.add input.inputTokens
    outputTokens := row.outputTokens.add input.outputTokens
    reasoningTokens := row.reasoningTokens.add input.reasoningTokens
    cachedTokens := row.cachedTokens.add input.cachedTokens
    usageIds := row.usageIds ++ input.id ++ "|" }
  left _ _ := rfl
  right _ _ := rfl
  check row held := by
    simp only [UsageInput.nonneg, Bool.and_eq_true, decide_eq_true_eq] at nonneg
    simp only [usageSchema, Bool.and_eq_true] at held ⊢
    obtain ⟨⟨⟨⟨requests, inputs⟩, outputs⟩, reasoning⟩, cached⟩ := held
    exact ⟨⟨⟨⟨nonneg_add requests nonneg.1.1.1.1, nonneg_add inputs nonneg.1.1.1.2⟩,
      nonneg_add outputs nonneg.1.1.2⟩, nonneg_add reasoning nonneg.1.2⟩,
      nonneg_add cached nonneg.2⟩

/-- `INSERT INTO provider_usage .. ON CONFLICT (run_id, provider, model) DO UPDATE`: the conflict target is looked at
before the primary key. -/
def insertUsage (foreignKeys : Bool) (tables : UsageTables) (input : UsageInput) : Except UsageError UsageTables :=
  if valid : input.nonneg = true ∧ Separated.position input.id.toList ['|'] = 0 then
    match tables.usage.rows.find? fun row => decide (row.line = input.line) with
    | some row =>
      if Separated.position row.usageIds.toList (Separated.enclosed '|' input.id.toList) = 0 then
        .ok { tables with
          usage := tables.usage.update (fun row => decide (row.line = input.line)) (addUsage input valid.1) }
      else .ok tables
    | none =>
      if foreignKeys && !tables.knows input.line.runId then .error .foreignKeyFailed
      else
        match tables.usage.insert? input.row with
        | some usage => .ok { tables with usage := usage }
        | none => .error .constraintFailed
  else .ok tables

def setTokens (inputTokens outputTokens : Amount) (now : Int) : runTokensSchema.Assignment where
  apply row := { row with inputTokens := inputTokens, outputTokens := outputTokens, updatedAtMs := now }
  left _ _ := rfl
  right _ _ := rfl
  check _ _ := rfl

def updateTokens (tables : UsageTables) (input : UsageInput) : Except UsageError UsageTables :=
  let run := input.line.runId
  let rows := tables.usage.rows.filter fun row => row.line.runId == run
  if tables.knows run then
    match sum (rows.map UsageRow.inputTokens), sum (rows.map UsageRow.outputTokens) with
    | some inputs, some outputs =>
      .ok { tables with runs := tables.runs.update (fun row => row.id == run) (setTokens inputs outputs input.nowMs) }
    | _, _ => .error .integerOverflow
  else .ok tables

/-- The command: its statements run one by one, and what one of them stored stays when a later one fails. The host
takes parameters up to a size and may enforce foreign keys. -/
def storageRunRecordUsage (accepts : String → Bool) (foreignKeys : Bool) (tables : UsageTables) (input : UsageInput) :
    UsageTables × Except UsageError (List RunTokens) :=
  if input.texts.all accepts then
    match insertUsage foreignKeys tables input with
    | .error error => (tables, .error error)
    | .ok stored =>
      match updateTokens stored input with
      | .error error => (stored, .error error)
      | .ok next => (next, .ok (next.runs.rows.filter fun row => row.id == input.line.runId))
  else (tables, .error .parameterRejected)

def recordUsages (accepts : String → Bool) (foreignKeys : Bool) (tables : UsageTables) (inputs : List UsageInput) :
    UsageTables :=
  inputs.foldl (fun current input => (storageRunRecordUsage accepts foreignKeys current input).1) tables

def UsageTables.start (runs : List (String × Int)) : UsageTables where
  usage := .empty
  runs := Table.empty.insertEachOrIgnore
    (runs.map fun run => ⟨run.1, .integer 0, .integer 0, run.2⟩)

end RustScriptAgent.Storage
