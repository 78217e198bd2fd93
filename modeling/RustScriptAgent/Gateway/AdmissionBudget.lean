import RustScriptAgent.Gateway.DurableIds
import RustScriptAgent.Gateway.Idempotency

namespace RustScriptAgent.Gateway

open Storage Relational Checks Database AdmissionDraft AdmissionReplayInput Texts List Option Json

variable {total : Nat} {row : RunRow}

inductive SqliteCellKind where
  | text
  | integer
  deriving DecidableEq

structure QueryColumn where
  name : String
  kind : SqliteCellKind
  deriving DecidableEq

open QueryColumn

def QueryColumn.text (name : String) : QueryColumn := ⟨name, .text⟩

def QueryColumn.integer (name : String) : QueryColumn := ⟨name, .integer⟩

def sqliteQueryIntBytes : Nat := 8

def QueryColumn.bytes (column : QueryColumn) (cell : Nat) : Nat :=
  match column.kind with
  | .integer => sqliteQueryIntBytes
  | .text => cell

namespace AdmissionCellLens

variable (lens : AdmissionCellLens)

end AdmissionCellLens

namespace AdmissionDraft

variable (draft : AdmissionDraft)

end AdmissionDraft

section Estimate

variable {draft : AdmissionDraft}

end Estimate

structure SameRequest (row other : RunRow) : Prop where
  id : other.id = row.id
  sessionId : other.sessionId = row.sessionId
  parentRunId : other.parentRunId = row.parentRunId
  input : other.input = row.input
  provider : other.provider = row.provider
  model : other.model = row.model
  scriptHash : other.scriptHash = row.scriptHash
  idempotencyScope : other.idempotencyScope = row.idempotencyScope
  idempotencyKey : other.idempotencyKey = row.idempotencyKey

theorem SameRequest.refl (row : RunRow) : SameRequest row row := ⟨rfl, rfl, rfl, rfl, rfl, rfl, rfl, rfl, rfl⟩

theorem SameRequest.trans {first second third : RunRow} (one : SameRequest first second)
    (two : SameRequest second third) : SameRequest first third :=
  ⟨two.id.trans one.id, two.sessionId.trans one.sessionId, two.parentRunId.trans one.parentRunId,
    two.input.trans one.input, two.provider.trans one.provider, two.model.trans one.model,
    two.scriptHash.trans one.scriptHash, two.idempotencyScope.trans one.idempotencyScope,
    two.idempotencyKey.trans one.idempotencyKey⟩

theorem SameRequest.rewriteOf {run : String} {change : RunRow → RunRow}
    (same : SameRequest row (change row)) : SameRequest row (row.rewriteOf run change) := by
  unfold RunRow.rewriteOf
  split_ifs
  · exact same
  · exact SameRequest.refl row

inductive RunCommand where
  | append (input : EventAppendInput)
  | appendPair (input : EventAppendPairInput)
  | step (input : StepCommitInput)
  | transition (input : RunTransitionInput)
  | terminal (input : RunTerminalInput)
  | recover (input : RecoveryInput)
  | reconcile (now maxRows : Int)

def RunCommand.execute (host : Host) (db : Database) : RunCommand → Database
  | append input => (storageEventAppend host db input).1
  | appendPair input => (storageEventAppendPair host db input).1
  | step input => (storageStepCommit host db input).1
  | transition input => (storageRunTransition host db input).1
  | terminal input => (storageRunTerminal host db input).1
  | recover input => (storageRunRecoverActive db input).1
  | reconcile now maxRows => (storageEffectReconcile db now maxRows).1

def promise (row : IdempotencyRow) : String × String × Json := (row.requestHash, row.resourceId, row.response)

structure Kept (db next : Database) : Prop where
  rows : ∀ row ∈ next.runs.rows, ∃ old ∈ db.runs.rows, SameRequest old row
  known : ∀ run, next.hasRun run = db.hasRun run
  keys : ∀ scope key, (next.idempotencyRecord scope key).map promise = (db.idempotencyRecord scope key).map promise

theorem Kept.refl (db : Database) : Kept db db :=
  ⟨fun row stored => ⟨row, stored, SameRequest.refl row⟩, fun _ => rfl, fun _ _ => rfl⟩

theorem Kept.trans {first second third : Database} (one : Kept first second) (two : Kept second third) :
    Kept first third where
  rows row stored := by
    obtain ⟨middle, there, same⟩ := two.rows row stored
    obtain ⟨old, before, made⟩ := one.rows middle there
    exact ⟨old, before, made.trans same⟩
  known run := (two.known run).trans (one.known run)
  keys scope key := (two.keys scope key).trans (one.keys scope key)

section ReadBack

variable {draft : AdmissionDraft} {db next : Database} {content : JsonText}

end ReadBack

end RustScriptAgent.Gateway
