import RustScriptAgent.Shared.Keyset
import RustScriptAgent.Storage.Schema

namespace RustScriptAgent.Storage

open Relational Keyset List

variable {loadCap : Int}

structure JobRow where
  id : String
  name : String
  scheduleJson : String := "\x7b\x7d"
  prompt : String
  deliverJson : String := "\x7b\x7d"
  skillsJson : String := "[]"
  repeatCount : Int := 0
  enabled : Bool := true
  outputJson : Option String := none
  createdAtMs : Int
  updatedAtMs : Int
  lastRunAtMs : Int := 0
  deriving DecidableEq

def jobsSchema : Schema JobRow where
  conflict a b := a.id == b.id
  check _ := true
  symm a b := by grind

structure Placed (Row : Type) where
  rowid : Int
  row : Row
  deriving DecidableEq

open Placed

structure Stored {Row : Type} (schema : Schema Row) where
  rows : List (Placed Row)
  apart : rows.Pairwise fun a b => a.rowid ≠ b.rowid
  unique : rows.Pairwise fun a b => schema.conflict a.row b.row = false
  checked : ∀ placed ∈ rows, schema.check placed.row = true

structure Contents where
  sessions : Stored sessionsSchema
  messages : Stored messagesSchema
  runs : Stored runsSchema
  events : Stored runEventsSchema
  jobs : Stored jobsSchema
  idempotency : Stored idempotencyRecordsSchema
  messagesOwned : ∀ message ∈ messages.rows, ∃ session ∈ sessions.rows, session.row.id = message.row.sessionId
  eventsOwned : ∀ event ∈ events.rows, ∃ run ∈ runs.rows, run.row.id = event.row.runId

-- The host cuts a page by rows or by bytes; a page it has cut holds at least one row.
structure Truncation where
  cut : Nat → Nat
  positive : ∀ turn, 0 < cut turn

def loadPageSize : Nat := 512

def Truncation.pager (host : Truncation) : Pager := ⟨loadPageSize, host.cut, by decide, host.positive⟩

/-- The rows a staging table gets: `ORDER BY rowid LIMIT ?`, where a negative limit is none. -/
def storageStageSnapshot {Row : Type} {schema : Schema Row} (table : Stored schema) (bound : Int) : List (Placed Row) :=
  if bound < 0 then ordered rowid table.rows else (ordered rowid table.rows).take bound.toNat

def loadPage {Row : Type} (host : Truncation) (loadCap : Int) (staged : List (Placed Row)) (turn : Nat) :
    Drained (Placed Row) :=
  drain rowid host.pager loadCap staged 0 [] turn

def messagesOf (rows : List MessageRow) (session : String) : List MessageRow :=
  owned MessageRow.ordinal MessageRow.sessionId rows session

def runEventsOf (rows : List EventRow) (run : String) : List EventRow := owned EventRow.seq EventRow.runId rows run

structure LoadTables where
  sessions : List SessionRow
  messages : List MessageRow
  runs : List RunRow
  events : List EventRow
  jobs : List JobRow
  idempotency : List IdempotencyRow
  deriving DecidableEq

structure LoadAnswer where
  ok : Bool
  code : String
  message : String
  result : LoadTables
  deriving DecidableEq

def loadFailure (sessions runs jobs idempotency : Bool) : Option String :=
  if sessions then some "gateway session state exceeds the load cap"
  else if runs then some "gateway run state exceeds the load cap"
  else if jobs then some "gateway job state exceeds the load cap"
  else if idempotency then some "gateway idempotency state exceeds the load cap"
  else none

def storageLoadAll (host : Truncation) (contents : Contents) (loadCap : Int) : LoadAnswer :=
  let bound := loadCap + 1
  let sessions := loadPage host loadCap (storageStageSnapshot contents.sessions bound) 0
  let runs := loadPage host loadCap (storageStageSnapshot contents.runs bound) sessions.turn
  let jobs := loadPage host loadCap (storageStageSnapshot contents.jobs bound) runs.turn
  let idempotency := loadPage host loadCap (storageStageSnapshot contents.idempotency bound) jobs.turn
  let sessionRows := sessions.rows.map row
  let runRows := runs.rows.map row
  let failure := loadFailure sessions.overload runs.overload jobs.overload idempotency.overload
  let stagedMessages := (storageStageSnapshot contents.messages bound).map row
  let messages : Drained MessageRow :=
    if failure.isSome then ⟨[], false, idempotency.turn⟩
    else drainAll MessageRow.ordinal host.pager loadCap 0
      ((sessionRows.map SessionRow.id).map (messagesOf stagedMessages)) [] idempotency.turn
  let failure := if messages.overload then some "gateway message state exceeds the load cap" else failure
  let stagedEvents := (storageStageSnapshot contents.events bound).map row
  let events : Drained EventRow :=
    if failure.isSome then ⟨[], false, messages.turn⟩
    else drainAll EventRow.seq host.pager loadCap 0
      ((runRows.map RunRow.id).map (runEventsOf stagedEvents)) [] messages.turn
  let failure := if events.overload then some "gateway event state exceeds the load cap" else failure
  let result : LoadTables :=
    { sessions := sessionRows, messages := messages.rows, runs := runRows, events := events.rows
      jobs := jobs.rows.map row, idempotency := idempotency.rows.map row }
  match failure with
  | none => ⟨true, "ok", "", result⟩
  | some message => ⟨false, "load_too_large", message, result⟩

def Stored.inOrder {Row : Type} {schema : Schema Row} (table : Stored schema) : List Row :=
  (ordered rowid table.rows).map row

def Contents.everything (contents : Contents) : LoadTables where
  sessions := contents.sessions.inOrder
  messages := (contents.sessions.inOrder.map SessionRow.id).flatMap (messagesOf contents.messages.inOrder)
  runs := contents.runs.inOrder
  events := (contents.runs.inOrder.map RunRow.id).flatMap (runEventsOf contents.events.inOrder)
  jobs := contents.jobs.inOrder
  idempotency := contents.idempotency.inOrder

def LoadTables.sizes (tables : LoadTables) : List Nat :=
  [tables.sessions.length, tables.runs.length, tables.jobs.length, tables.idempotency.length,
    tables.messages.length, tables.events.length]

def LoadTables.Within (tables : LoadTables) (loadCap : Int) : Prop := ∀ size ∈ tables.sizes, (size : Int) ≤ loadCap

instance (tables : LoadTables) (loadCap : Int) : Decidable (tables.Within loadCap) :=
  inferInstanceAs (Decidable (∀ size ∈ tables.sizes, (size : Int) ≤ loadCap))

/-- Identifiers, ordinals and sequence numbers start at one, as SQLite and every writer of the two tables give them. -/
structure Contents.Positive (contents : Contents) : Prop where
  sessions : ∀ placed ∈ contents.sessions.rows, 0 < placed.rowid
  runs : ∀ placed ∈ contents.runs.rows, 0 < placed.rowid
  jobs : ∀ placed ∈ contents.jobs.rows, 0 < placed.rowid
  idempotency : ∀ placed ∈ contents.idempotency.rows, 0 < placed.rowid
  ordinals : ∀ placed ∈ contents.messages.rows, 0 < placed.row.ordinal
  seqs : ∀ placed ∈ contents.events.rows, 0 < placed.row.seq

section Tables

variable {Row : Type} {schema : Schema Row} (table : Stored schema)

theorem Stored.inOrder_perm : table.inOrder.Perm (table.rows.map row) := (ordered_perm _).map _

@[simp] theorem Stored.length_inOrder : table.inOrder.length = table.rows.length := by
  rw [table.inOrder_perm.length_eq, length_map]

theorem Stored.mem_inOrder {row : Row} : row ∈ table.inOrder ↔ ∃ placed ∈ table.rows, placed.row = row := by
  rw [table.inOrder_perm.mem_iff, mem_map]

theorem Stored.inOrder_unique : table.inOrder.Pairwise fun a b => schema.conflict a b = false :=
  table.inOrder_perm.symm.pairwise (pairwise_map.mpr table.unique) fun {a b} free => (schema.symm b a).trans free

theorem storageStageSnapshot_sublist (bound : Int) :
    (storageStageSnapshot table bound).Sublist (ordered rowid table.rows) := by
  unfold storageStageSnapshot
  split
  · exact List.Sublist.refl _
  · exact take_sublist _ _

theorem length_storageStageSnapshot (loadCap : Int) :
    loadCap < (storageStageSnapshot table (loadCap + 1)).length ↔ loadCap < table.rows.length := by
  have all : (ordered rowid table.rows).length = table.rows.length := (ordered_perm _).length_eq
  unfold storageStageSnapshot
  split
  · rw [all]
  · rw [length_take, all]
    omega

theorem storageStageSnapshot_whole (fits : ¬ loadCap < table.rows.length) :
    storageStageSnapshot table (loadCap + 1) = ordered rowid table.rows := by
  have all : (ordered rowid table.rows).length = table.rows.length := (ordered_perm _).length_eq
  unfold storageStageSnapshot
  split
  · rfl
  · exact take_of_length_le (by omega)

theorem loadPage_whole (host : Truncation) (loadCap : Int) (turn : Nat)
    (positive : ∀ placed ∈ table.rows, 0 < placed.rowid) :
    let drained := loadPage host loadCap (storageStageSnapshot table (loadCap + 1)) turn
    (drained.overload ↔ loadCap < table.rows.length) ∧
      (drained.overload = false → drained.rows.map row = table.inOrder) := by
  intro drained
  have staged := storageStageSnapshot_sublist table (loadCap + 1)
  have ascending : Ascending rowid (storageStageSnapshot table (loadCap + 1)) :=
    (ordered_ascending table.apart).sublist staged
  have whole : drained.Whole loadCap (storageStageSnapshot table (loadCap + 1)) := by
    have read := drain_whole host.pager loadCap ascending 0 [] turn
    rwa [nil_append, rest_eq_self fun placed member =>
      positive placed ((ordered_perm _).mem_iff.mp (staged.subset member))] at read
  refine ⟨whole.overload_iff.trans (length_storageStageSnapshot table loadCap), fun none => ?_⟩
  have fits : ¬ loadCap < table.rows.length := by
    rw [← length_storageStageSnapshot, ← whole.overload_iff, none]
    nofun
  rw [whole.complete none, storageStageSnapshot_whole table fits, Stored.inOrder]

theorem drainAll_owned_whole (host : Truncation) (turn : Nat) (key : Row → Int) (owner : Row → String)
    (keyed : ∀ a b, schema.conflict a b = false → owner a = owner b → key a ≠ key b)
    (positive : ∀ placed ∈ table.rows, 0 < key placed.row) (ids : List String) (distinct : ids.Nodup)
    (covered : ∀ placed ∈ table.rows, owner placed.row ∈ ids) (within : 0 ≤ loadCap) :
    let staged := (storageStageSnapshot table (loadCap + 1)).map row
    let drained := drainAll key host.pager loadCap 0 (ids.map (owned key owner staged)) [] turn
    (drained.overload ↔ loadCap < table.rows.length) ∧
      (drained.overload = false → drained.rows = ids.flatMap (owned key owner table.inOrder)) := by
  -- so is a table that is read owner by owner
  intro staged drained
  have part : staged.Sublist table.inOrder := (storageStageSnapshot_sublist table (loadCap + 1)).map _
  have listed (row : Row) (member : row ∈ staged) : ∃ placed ∈ table.rows, placed.row = row :=
    table.mem_inOrder.mp (part.subset member)
  have apart : staged.Pairwise fun a b => owner a = owner b → key a ≠ key b :=
    (table.inOrder_unique.sublist part).imp fun {a b} free => keyed a b free
  have everyRow : (ids.flatMap (owned key owner staged)).Perm staged := by
    refine flatMap_owned_perm owner ids staged distinct fun row member => ?_
    obtain ⟨placed, stored, rfl⟩ := listed row member
    exact covered placed stored
  have whole : drained.Whole loadCap (ids.flatMap (owned key owner staged)) := by
    have read := drainAll_whole host.pager loadCap 0 (ids.map (owned key owner staged))
      (fun rows member => by
        obtain ⟨id, _, rfl⟩ := mem_map.mp member
        exact owned_ascending owner apart id) [] turn within
    rw [nil_append, flatMap_map] at read
    rwa [flatMap_congr fun id _ => rest_eq_self fun row member => ?_] at read
    obtain ⟨placed, stored, rfl⟩ := listed row ((mem_owned owner).mp member).1
    exact positive placed stored
  have size : staged.length = (storageStageSnapshot table (loadCap + 1)).length := length_map _
  have overload_iff : drained.overload ↔ loadCap < table.rows.length := by
    rw [whole.overload_iff, everyRow.length_eq, size, length_storageStageSnapshot]
  refine ⟨overload_iff, fun none => ?_⟩
  have fits : ¬ loadCap < table.rows.length := by
    rw [← overload_iff, none]
    nofun
  have all : staged = table.inOrder := by
    unfold staged
    rw [storageStageSnapshot_whole table fits, Stored.inOrder]
  rw [whole.complete none, all]

end Tables

section Contents

variable (contents : Contents)

theorem sessionIds_nodup : (contents.sessions.inOrder.map SessionRow.id).Nodup := by
  refine pairwise_map.mpr (contents.sessions.inOrder_unique.imp fun {a b} free same => ?_)
  simp [sessionsSchema, same] at free

theorem placedRunIds_nodup : (contents.runs.inOrder.map RunRow.id).Nodup := by
  refine pairwise_map.mpr (contents.runs.inOrder_unique.imp fun {a b} free same => ?_)
  simp [runsSchema, same] at free

theorem messages_covered {placed : Placed MessageRow} (member : placed ∈ contents.messages.rows) :
    placed.row.sessionId ∈ contents.sessions.inOrder.map SessionRow.id := by
  obtain ⟨session, stored, same⟩ := contents.messagesOwned placed member
  exact mem_map.mpr ⟨session.row, contents.sessions.mem_inOrder.mpr ⟨session, stored, rfl⟩, same⟩

theorem events_covered {placed : Placed EventRow} (member : placed ∈ contents.events.rows) :
    placed.row.runId ∈ contents.runs.inOrder.map RunRow.id := by
  obtain ⟨run, stored, same⟩ := contents.eventsOwned placed member
  exact mem_map.mpr ⟨run.row, contents.runs.mem_inOrder.mpr ⟨run, stored, rfl⟩, same⟩

theorem everything_messages_perm : contents.everything.messages.Perm (contents.messages.rows.map row) := by
  refine (flatMap_owned_perm _ _ _ (sessionIds_nodup contents)
    fun row member => ?_).trans contents.messages.inOrder_perm
  obtain ⟨placed, stored, rfl⟩ := contents.messages.mem_inOrder.mp member
  exact messages_covered contents stored

theorem everything_events_perm : contents.everything.events.Perm (contents.events.rows.map row) := by
  refine (flatMap_owned_perm _ _ _ (placedRunIds_nodup contents)
    fun row member => ?_).trans contents.events.inOrder_perm
  obtain ⟨placed, stored, rfl⟩ := contents.events.mem_inOrder.mp member
  exact events_covered contents stored

theorem messages_whole (host : Truncation) (turn : Nat) (positive : contents.Positive) (within : 0 ≤ loadCap) :
    let staged := (storageStageSnapshot contents.messages (loadCap + 1)).map row
    let drained := drainAll MessageRow.ordinal host.pager loadCap 0
      ((contents.sessions.inOrder.map SessionRow.id).map (messagesOf staged)) [] turn
    (drained.overload ↔ loadCap < contents.messages.rows.length) ∧
      (drained.overload = false → drained.rows = contents.everything.messages) := by
  refine drainAll_owned_whole contents.messages host turn MessageRow.ordinal MessageRow.sessionId ?_ positive.ordinals _
    (sessionIds_nodup contents) (fun _ member => messages_covered contents member) within
  intro a b free session ordinal
  simp [messagesSchema, session, ordinal] at free

theorem events_whole (host : Truncation) (turn : Nat) (positive : contents.Positive) (within : 0 ≤ loadCap) :
    let staged := (storageStageSnapshot contents.events (loadCap + 1)).map row
    let drained := drainAll EventRow.seq host.pager loadCap 0
      ((contents.runs.inOrder.map RunRow.id).map (runEventsOf staged)) [] turn
    (drained.overload ↔ loadCap < contents.events.rows.length) ∧
      (drained.overload = false → drained.rows = contents.everything.events) := by
  refine drainAll_owned_whole contents.events host turn EventRow.seq EventRow.runId ?_ positive.seqs _
    (placedRunIds_nodup contents) (fun _ member => events_covered contents member) within
  intro a b free run seq
  simp [runEventsSchema, run, seq] at free

theorem within_iff (loadCap : Int) : contents.everything.Within loadCap ↔
    (¬ loadCap < contents.sessions.rows.length ∧ ¬ loadCap < contents.runs.rows.length ∧
      ¬ loadCap < contents.jobs.rows.length ∧ ¬ loadCap < contents.idempotency.rows.length) ∧
    ¬ loadCap < contents.messages.rows.length ∧ ¬ loadCap < contents.events.rows.length := by
  have messages : contents.everything.messages.length = contents.messages.rows.length := by
    rw [(everything_messages_perm contents).length_eq, length_map]
  have events : contents.everything.events.length = contents.events.rows.length := by
    rw [(everything_events_perm contents).length_eq, length_map]
  unfold LoadTables.Within LoadTables.sizes
  rw [messages, events]
  simp only [Contents.everything, Stored.length_inOrder, forall_mem_cons, not_mem_nil, false_implies,
    implies_true, and_true, not_lt]
  tauto

theorem loadFailure_eq_none (sessions runs jobs idempotency : Bool) :
    loadFailure sessions runs jobs idempotency = none ↔
      sessions = false ∧ runs = false ∧ jobs = false ∧ idempotency = false := by
  cases sessions <;> cases runs <;> cases jobs <;> cases idempotency <;> decide

theorem storageLoadAll_complete (host : Truncation) (loadCap : Int) (positive : contents.Positive) :
    (contents.everything.Within loadCap →
      storageLoadAll host contents loadCap = ⟨true, "ok", "", contents.everything⟩) ∧
    (¬ contents.everything.Within loadCap →
      (storageLoadAll host contents loadCap).ok = false ∧
        (storageLoadAll host contents loadCap).code = "load_too_large") ∧
    contents.everything.messages.Perm (contents.messages.rows.map row) ∧
    contents.everything.events.Perm (contents.events.rows.map row) := by
  suffices answered : ∀ answer, storageLoadAll host contents loadCap = answer →
      (contents.everything.Within loadCap → answer = ⟨true, "ok", "", contents.everything⟩) ∧
      (¬ contents.everything.Within loadCap → answer.ok = false ∧ answer.code = "load_too_large") from
    ⟨(answered _ rfl).1, (answered _ rfl).2, everything_messages_perm contents, everything_events_perm contents⟩
  intro answer load
  unfold storageLoadAll at load
  dsimp only at load
  have sessionsRead := loadPage_whole contents.sessions host loadCap 0 positive.sessions
  generalize loadPage host loadCap (storageStageSnapshot contents.sessions (loadCap + 1)) 0 = sessions
    at load sessionsRead
  have runsRead := loadPage_whole contents.runs host loadCap sessions.turn positive.runs
  generalize loadPage host loadCap (storageStageSnapshot contents.runs (loadCap + 1)) sessions.turn = runs
    at load runsRead
  have jobsRead := loadPage_whole contents.jobs host loadCap runs.turn positive.jobs
  generalize loadPage host loadCap (storageStageSnapshot contents.jobs (loadCap + 1)) runs.turn = jobs at load jobsRead
  have idempotencyRead := loadPage_whole contents.idempotency host loadCap jobs.turn positive.idempotency
  generalize loadPage host loadCap (storageStageSnapshot contents.idempotency (loadCap + 1)) jobs.turn = idempotency
    at load idempotencyRead
  dsimp only at sessionsRead runsRead jobsRead idempotencyRead
  rw [within_iff, ← sessionsRead.1, ← runsRead.1, ← jobsRead.1, ← idempotencyRead.1]
  simp only [Bool.not_eq_true]
  rw [← loadFailure_eq_none]
  cases early : loadFailure sessions.overload runs.overload jobs.overload idempotency.overload with
  | some message =>
    rw [early] at load
    simp only [Option.isSome_some, if_true, Bool.false_eq_true, if_false] at load
    subst load
    exact ⟨fun within => absurd within.1 nofun, fun _ => ⟨rfl, rfl⟩⟩
  | none =>
    obtain ⟨sessionsFit, runsFit, jobsFit, idempotencyFit⟩ := (loadFailure_eq_none ..).mp early
    rw [early, sessionsRead.2 sessionsFit, runsRead.2 runsFit, jobsRead.2 jobsFit,
      idempotencyRead.2 idempotencyFit] at load
    have notNegative : 0 ≤ loadCap := by
      have fits := sessionsRead.1.not.mp (by simp [sessionsFit])
      omega
    simp only [Option.isSome_none, Bool.false_eq_true, if_false] at load
    have messagesRead := messages_whole contents host idempotency.turn positive notNegative
    dsimp only at messagesRead
    generalize drainAll MessageRow.ordinal host.pager loadCap 0 _ [] idempotency.turn = messages at load messagesRead
    rw [← messagesRead.1]
    cases crowded : messages.overload with
    | true =>
      simp only [crowded, if_true, Option.isSome_some, Bool.false_eq_true, if_false] at load
      subst load
      exact ⟨fun within => absurd rfl within.2.1, fun _ => ⟨rfl, rfl⟩⟩
    | false =>
      simp only [crowded, Bool.false_eq_true, if_false, Option.isSome_none, messagesRead.2 crowded] at load
      have eventsRead := events_whole contents host messages.turn positive notNegative
      dsimp only at eventsRead
      generalize drainAll EventRow.seq host.pager loadCap 0 _ [] messages.turn = events at load eventsRead
      rw [← eventsRead.1]
      cases full : events.overload with
      | true =>
        simp only [full, if_true] at load
        subst load
        exact ⟨fun within => absurd rfl within.2.2, fun _ => ⟨rfl, rfl⟩⟩
      | false =>
        simp only [full, Bool.false_eq_true, if_false, eventsRead.2 full] at load
        subst load
        exact ⟨fun _ => rfl, fun exceeded => absurd ⟨rfl, nofun, nofun⟩ exceeded⟩

end Contents

def Stored.empty {Row : Type} {schema : Schema Row} : Stored schema :=
  ⟨[], List.Pairwise.nil, List.Pairwise.nil, by simp⟩

def sessionNamed (id : String) : SessionRow where
  id := id
  profile := "p"
  platform := "api"
  accountId := ""
  chatId := id
  createdAtMs := 0
  updatedAtMs := 0

def saidMessage (id sessionId : String) (ordinal : Int) : MessageRow where
  id := id
  sessionId := sessionId
  ordinal := ordinal
  role := "user"
  content := .raw ""
  createdAtMs := 0

def conversations (ordinal : Fin 2) : Contents where
  sessions :=
    { rows := [⟨2, sessionNamed "s"⟩, ⟨1, sessionNamed "t"⟩]
      apart := by decide
      unique := by decide
      checked := by decide +kernel }
  messages :=
    { rows := [⟨1, saidMessage "b" "t" 2⟩, ⟨2, saidMessage "c" "s" ordinal.val⟩, ⟨3, saidMessage "a" "t" 1⟩]
      apart := by decide +revert
      unique := by decide +revert
      checked := by decide +revert +kernel }
  runs := .empty
  events := .empty
  jobs := .empty
  idempotency := .empty
  messagesOwned := by decide +revert
  eventsOwned := by decide

def Truncation.single : Truncation := ⟨fun _ => 1, fun _ => Nat.one_pos⟩

theorem conversations_positive : (conversations 1).Positive := by
  constructor <;> simp [conversations, saidMessage, Stored.empty]

theorem storageLoadAll_conversations :
    storageLoadAll .single (conversations 1) 4096 = ⟨true, "ok", "", (conversations 1).everything⟩ ∧
      (conversations 1).everything.messages.map MessageRow.id = ["a", "b", "c"] :=
  ⟨(storageLoadAll_complete (conversations 1) .single 4096 conversations_positive).1 (by decide +kernel),
    by decide +kernel⟩

theorem message_zero_left_out : (storageLoadAll .single (conversations 0) 4096).ok = true ∧
      (storageLoadAll .single (conversations 0) 4096).result.messages.map MessageRow.id = ["a", "b"] ∧
      (conversations 0).messages.rows.length = 3 := by
  decide +kernel

end RustScriptAgent.Storage
