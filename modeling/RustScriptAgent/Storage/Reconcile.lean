import Mathlib.Data.String.Basic
import Mathlib.Data.Prod.Lex
import RustScriptAgent.Storage.Statements

namespace RustScriptAgent.Storage

open Relational Sequences

structure CallKey where
  runId : String
  call : Option SqlValue
  deriving DecidableEq

/-- Column order: NULL, then numbers, then texts by code point. Reals come after the integers here, where SQLite
compares all numbers by value. -/
def CallKey.code (key : CallKey) : List Char ×ₗ ℕ ×ₗ ℤ ×ₗ List Char :=
  toLex (key.runId.toList,
    match key.call with
    | none => toLex (0, toLex (0, []))
    | some (.int value) => toLex (1, toLex (value, []))
    | some (.real literal) => toLex (2, toLex (0, literal.toList))
    | some (.text value) => toLex (3, toLex (0, value.toList)))

theorem CallKey.code_injective : Function.Injective CallKey.code := by
  rintro ⟨runA, callA⟩ ⟨runB, callB⟩ same
  rcases callA with _ | _ | _ | _ <;> rcases callB with _ | _ | _ | _ <;>
    simp_all [CallKey.code, String.toList_inj]

instance : LinearOrder CallKey := LinearOrder.lift' CallKey.code CallKey.code_injective

namespace EventRow

def key (row : EventRow) : CallKey := ⟨row.runId, jsonExtract "tool_call_id" row.payload⟩

def opensCall (row : EventRow) : Bool :=
  decide (row.eventType = .toolRequested) || decide (row.eventType = .toolStarted)

def closesCall (row : EventRow) : Bool :=
  decide (row.eventType = .toolOutput) || decide (row.eventType = .toolCompleted) ||
    decide (row.eventType = .toolFailed)

def isInterrupted (row : EventRow) : Bool :=
  decide (row.eventType = .toolFailed) &&
    decide (jsonExtract "error_code" row.payload = some (.text "interrupted_effect"))

end EventRow

def closedIn (events : List EventRow) (key : CallKey) : Bool :=
  events.any (fun row => row.closesCall && decide (row.key = key))

def isPending (events : List EventRow) (row : EventRow) : Bool :=
  row.opensCall && decide (row.key.call ≠ none) && decide (row.key.call ≠ some (.text "")) &&
    !closedIn events row.key

def pendingCalls (events : List EventRow) : List CallKey :=
  groupKeys ((events.filter (isPending events)).map EventRow.key)

def groupSeq (selected : List EventRow) (key : CallKey) : Int :=
  minOrZero ((selected.filter (fun row => decide (row.key = key))).map EventRow.seq)

/-- `substr(label || run_id || ':' || tool_call_id, 1, 128)`, which is NULL when the call is. -/
def recoveryId (label : String) (key : CallKey) : Option String :=
  key.call.map fun call => String.ofList ((label ++ key.runId ++ ":" ++ call.asText).toList.take 128)

def effectPayload (call : SqlValue) : Json :=
  .obj [("status", .str "failed"), ("error_code", .str "interrupted_effect"), ("tool_call_id", call.json),
    ("reason", .str "interrupted_effect")]

def effectRow (db : Database) (now : Int) (entry : CallKey × Int) : Option EventRow := do
  let call ← entry.1.call
  let eventId ← recoveryId "recovery-effect:" entry.1
  return {
    runId := entry.1.runId
    seq := db.maxSeq entry.1.runId + entry.2
    eventId := eventId
    eventType := .toolFailed
    payload := effectPayload call
    createdAtMs := now }

def effectEntries (db : Database) (limit : Nat) : List (CallKey × Int) :=
  let events := db.runEvents.rows
  let grouped := (pendingCalls events).take limit
  rowNumbers CallKey.runId []
    (orderBy (fun key => toLex (key.runId.toList, groupSeq (events.filter (isPending events)) key)) grouped)

def effectRows (db : Database) (now : Int) (limit : Nat) : List EventRow :=
  (effectEntries db limit).filterMap (effectRow db now)

def Database.sessionOf (db : Database) (run : String) : String :=
  ((db.runs.rows.find? (fun row => row.id == run)).map RunRow.sessionId).getD ""

def interruptedEvents (db : Database) (events : List EventRow) : List EventRow :=
  events.filter (fun row => row.isInterrupted && db.hasRun row.runId)

def interruptedCalls (db : Database) (events : List EventRow) : List CallKey :=
  groupKeys ((interruptedEvents db events).map EventRow.key)

def answerEntries (db : Database) (events : List EventRow) (limit : Nat) : List (CallKey × Int) :=
  let grouped := (interruptedCalls db events).take limit
  let session := fun key : CallKey => db.sessionOf key.runId
  rowNumbers session []
    (orderBy (fun key => toLex ((session key).toList, groupSeq (interruptedEvents db events) key)) grouped)

def answerContent (call : SqlValue) : Json :=
  .arr [.obj [("type", .str "tool_result"), ("tool_call_id", call.json), ("content", .str ""),
    ("is_error", .bool true),
    ("error", .obj [("code", .str "interrupted_effect"), ("message", .str "effect interrupted by restart")]),
    ("truncated", .bool false)]]

def answerRow (db : Database) (now : Int) (entry : CallKey × Int) : Option MessageRow := do
  let call ← entry.1.call
  let messageId ← recoveryId "recovery-msg:" entry.1
  return {
    id := messageId
    sessionId := db.sessionOf entry.1.runId
    ordinal := db.maxOrdinal (db.sessionOf entry.1.runId) + entry.2
    role := "user"
    content := .json (answerContent call)
    toolCallId := call.asText
    metadata := .json (.obj [("interrupted_effect", .bool true)])
    runId := entry.1.runId
    createdAtMs := now }

def answerRows (db : Database) (events : List EventRow) (now : Int) (limit : Nat) : List MessageRow :=
  (answerEntries db events limit).filterMap (answerRow db now)

/-- `last_message_seq = COALESCE((SELECT MAX(ordinal) ..), last_message_seq)` -/
def Database.refreshSession (db : Database) (now : Int) : sessionsSchema.Assignment where
  apply row :=
    { row with
      lastMessageSeq := if db.messagesOf row.id = [] then row.lastMessageSeq else db.maxOrdinal row.id
      updatedAtMs := now }
  left _ _ := rfl
  right _ _ := rfl
  check _ accepted := accepted

def Database.refreshSessions (db : Database) (now : Int) : Database :=
  let interrupted := interruptedEvents db db.runEvents.rows
  { db with
    sessions := db.sessions.update
      (fun row => interrupted.any (fun event => db.sessionOf event.runId == row.id)) (db.refreshSession now) }

def Database.refreshRetention (db : Database) (now : Int) : Database :=
  let interrupted := db.runs.rows.filter
    (fun run => db.runEvents.rows.any (fun event => event.runId == run.id && event.isInterrupted))
  interrupted.foldl (fun refreshed run => refreshed.upsertRetention run.id now) db

def reconcileLimit (requested : Int) : Nat :=
  if requested ≤ 0 then 64 else if 256 < requested then 256 else requested.toNat

def storageEffectReconcile (db : Database) (now maxRows : Int) : Database × Nat :=
  let limit := reconcileLimit maxRows
  -- SQLite materialises a select that reads the table it inserts into, so both row lists are fixed first.
  let failed := { db with runEvents := db.runEvents.insertEachOrIgnore (effectRows db now limit) }
  let answered :=
    { failed with messages := db.messages.insertEachOrIgnore (answerRows db failed.runEvents.rows now limit) }
  ((answered.refreshSessions now).refreshRetention now,
    failed.runEvents.rows.length - db.runEvents.rows.length)

def recoveryBatchRows : Int := 512

/-- Reconciliation rounds until one inserts no event; the round beyond the fuel still runs, and then fails. -/
def reconcileRounds (clock : Nat → Int) : Nat → Nat → Database → Database × Except String Unit
  | 0, done, db =>
    ((storageEffectReconcile db (clock done) recoveryBatchRows).1,
      .error "effect reconciliation did not converge")
  | fuel + 1, done, db =>
    let round := storageEffectReconcile db (clock done) recoveryBatchRows
    if round.2 = 0 then (round.1, .ok ()) else reconcileRounds clock fuel (done + 1) round.1

def reconcileEffects (clock : Nat → Int) (db : Database) : Database × Except String Unit :=
  reconcileRounds clock 10000 0 db

end RustScriptAgent.Storage
