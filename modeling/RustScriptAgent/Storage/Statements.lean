import RustScriptAgent.Shared.Sequence
import RustScriptAgent.Storage.Schema

namespace RustScriptAgent.Storage

open Relational Sequences

namespace Database

def hasRun (db : Database) (run : String) : Bool := db.runs.rows.any (fun row => row.id == run)

def hasSession (db : Database) (session : String) : Bool :=
  db.sessions.rows.any (fun row => row.id == session)

def runIs (db : Database) (run : String) (status : RunStatus) : Bool :=
  db.runs.rows.any (fun row => row.id == run && decide (row.status = status))

def eventsOf (db : Database) (run : String) : List EventRow :=
  db.runEvents.rows.filter (fun row => row.runId == run)

def seqs (db : Database) (run : String) : List Int := (db.eventsOf run).map EventRow.seq

def maxSeq (db : Database) (run : String) : Int := maxOrZero (db.seqs run)

def minSeq (db : Database) (run : String) : Int := minOrZero (db.seqs run)

def messagesOf (db : Database) (session : String) : List MessageRow :=
  db.messages.rows.filter (fun row => row.sessionId == session)

def maxOrdinal (db : Database) (session : String) : Int :=
  maxOrZero ((db.messagesOf session).map MessageRow.ordinal)

def hasEventId (db : Database) (eventId : String) : Bool :=
  db.runEvents.rows.any (fun row => row.eventId == eventId)

def insertEvent (db : Database) (row : EventRow) : Except StorageError Database :=
  match db.runEvents.insert? row with
  | some table => .ok { db with runEvents := table }
  | none => .error .constraintFailed

def insertMessage (db : Database) (row : MessageRow) : Except StorageError Database :=
  match db.messages.insert? row with
  | some table => .ok { db with messages := table }
  | none => .error .constraintFailed

/-- `ORDER BY seq ASC`: the number of rows of the same run with a smaller sequence. -/
def eventRank (db : Database) (row : EventRow) : Nat :=
  db.runEvents.rows.countP (fun other => other.runId == row.runId && decide (other.seq < row.seq))

/-- `DELETE FROM run_events WHERE rowid IN (SELECT .. ORDER BY seq ASC LIMIT count - limit)` -/
def pruneEvents (db : Database) (run : String) (limit : Nat) : Database :=
  { db with
    runEvents := db.runEvents.delete fun row =>
      row.runId == run && decide (db.eventRank row < (db.eventsOf run).length - limit) }

def setRetention (first high now : Int) : runRetentionSchema.Assignment where
  apply row := { row with firstSeq := first, highWaterSeq := max row.highWaterSeq high, updatedAtMs := now }
  left _ _ := rfl
  right _ _ := rfl
  check _ _ := rfl

/-- `INSERT INTO run_retention .. ON CONFLICT (run_id) DO UPDATE` -/
def upsertRetention (db : Database) (run : String) (now : Int) : Database :=
  let first := db.minSeq run
  let high := db.maxSeq run
  if db.runRetention.rows.any (fun row => row.runId == run) then
    { db with
      runRetention := db.runRetention.update (fun row => row.runId == run) (setRetention first high now) }
  else
    { db with
      runRetention := db.runRetention.insertOrIgnore
        { runId := run, firstSeq := first, highWaterSeq := high, updatedAtMs := now } }

def setRunUpdatedAt (now : Int) : runsSchema.Assignment where
  apply row := { row with updatedAtMs := now }
  left _ _ := rfl
  right _ _ := rfl
  check _ accepted := accepted

def touchRun (db : Database) (run : String) (now : Int) : Database :=
  { db with runs := db.runs.update (fun row => row.id == run) (setRunUpdatedAt now) }

def setLastMessage (last now : Int) : sessionsSchema.Assignment where
  apply row := { row with lastMessageSeq := last, updatedAtMs := now }
  left _ _ := rfl
  right _ _ := rfl
  check _ accepted := accepted

/-- `UPDATE sessions SET last_message_seq = COALESCE((SELECT MAX(ordinal) ..), 0), updated_at_ms = ?` -/
def touchSession (db : Database) (session : String) (now : Int) : Database :=
  { db with
    sessions := db.sessions.update (fun row => row.id == session)
      (setLastMessage (db.maxOrdinal session) now) }

end Database

def reservedOr (reserved allocated : Int) : Int := if 0 < reserved then reserved else allocated

def commitTransaction (db : Database) (outcome : Except StorageError Database) :
    Database × Except StorageError Unit :=
  match outcome with
  | .ok next => (next, .ok ())
  | .error error => (db, .error error)

def requireParameters (host : Host) (parameters : List (List String)) : Except StorageError Unit :=
  if parameters.all host.acceptsParameters then .ok () else .error .parameterRejected

def maxContentText : Nat := 65536

inductive SqlValue where
  | int (value : Int)
  | real (literal : String)
  | text (value : String)
  deriving DecidableEq

namespace SqlValue

def asText : SqlValue → String
  | int value => toString value
  | real literal => literal
  | text value => value

def json : SqlValue → Json
  | int value => .int value
  | real literal => .float literal
  | text value => .str value

def isNumber : SqlValue → Bool
  | text _ => false
  | _ => true

end SqlValue

/-- `json_extract(payload_json, '$.key')`, with NULL as `none` -/
def jsonExtract (key : String) (payload : Json) : Option SqlValue :=
  match payload.get? key with
  | none => none
  | some .null => none
  | some (.bool value) => some (.int (if value then 1 else 0))
  | some (.int value) => some (.int value)
  | some (.float literal) => some (.real literal)
  | some (.str value) => some (.text value)
  | some (.arr items) => some (.text (Json.arr items).render)
  | some (.obj fields) => some (.text (Json.obj fields).render)

def sqlText : Json → String
  | .str value => value
  | other => other.render

/-- What a select reads from a content that is neither an array nor a typed block; a document stays one there. -/
def extractedContent : JsonText → Json
  | .json (.str value) => .str value
  | .json document =>
    match document.get? "text" with
    | some (.str value) => .str value
    | some (.int value) => .int value
    | some (.float literal) => .float literal
    | some (.bool value) => .int (if value then 1 else 0)
    | some (.arr items) => .arr items
    | some (.obj fields) => .obj fields
    | some .null => .str document.render
    | none => .str document.render
  | .raw text => .str text

/-- `length(value)`, which stops at the first NUL of a text -/
def SqlValue.length : SqlValue → Nat
  | text value => (value.toList.takeWhile (· ≠ '\x00')).length
  | number => number.asText.length

theorem SqlValue.length_text_le (text : String) : (SqlValue.text text).length ≤ text.length := by
  rw [SqlValue.length, ← String.length_toList]
  exact (List.takeWhile_sublist _).length_le

def printedBlock (value : Json) : Json := .obj [("text", value), ("type", .str "text")]

def textContent (value : SqlValue) : Json :=
  if maxContentText < value.length then
    .arr [.obj [("text", .str (String.ofList (value.asText.toList.take maxContentText))), ("truncated", .bool true),
      ("type", .str "text")]]
  else .arr [printedBlock value.json]

/-- `storage_message_encode_content`: every stored content is an array of blocks. An array or object that
`json_extract` finds has lost its JSON subtype behind the subquery, so that its text is stored. -/
def encodeContent : JsonText → Json
  | .json (.arr items) => .arr items
  | .json (.str text) => textContent (.text text)
  | .json document =>
    match document.get? "type" with
    | none | some .null => textContent ((jsonExtract "text" document).getD (.text document.render))
    | some _ => .arr [document]
  | .raw text => textContent (.text text)

end RustScriptAgent.Storage
