import RustScriptAgent.Storage.Admission
import RustScriptAgent.Storage.Footprint

namespace RustScriptAgent.Storage

open Relational Sequences Database

namespace AdmissionCreateInput

variable {input : AdmissionCreateInput} {db next opened : Database} {content : JsonText}

structure Stored (input : AdmissionCreateInput) (content : JsonText) (db next : Database) : Prop where
  parent : input.parentRunId = "" ∨ db.hasRun input.parentRunId = true
  sessions : ∀ id, next.hasSession id = (db.hasSession id || input.sessionId == id)
  messages : next.messages.rows = db.messages.rows ++
    if db.messages.rows.any (fun row => row.id == input.messageId && row.sessionId != input.sessionId) then []
    else [input.messageRow content db]
  runs : next.runs.rows = db.runs.rows ++ [input.runRow]
  keys : next.idempotencyRecords =
    if input.idempotencyKey = "" then db.idempotencyRecords
    else db.idempotencyRecords.insertOrIgnore input.idempotencyRow
  events : next.runEvents.rows = db.runEvents.rows ++ [input.startedRow db]
  retention : next.runRetention =
    (({ db with runEvents := next.runEvents } : Database).upsertRetention input.runId input.nowMs).runRetention
  records : next.recoveryRecords = db.recoveryRecords

theorem openSession_frame (ok : input.openSession db = .ok opened) :
    opened = { db with sessions := opened.sessions } := by
  unfold openSession at ok
  split_ifs at ok
  · split at ok <;> cases ok
    rfl
  · cases ok
    rfl
  · dsimp only at ok
    split_ifs at ok
    cases ok
    rfl

theorem openSession_hasSession (ok : input.openSession db = .ok opened) (id : String) :
    opened.hasSession id = db.hasSession id ∨
      opened.hasSession id = (db.hasSession id || input.sessionId == id) := by
  unfold openSession at ok
  split_ifs at ok
  · split at ok <;> cases ok
    rename_i table inserted
    right
    simp [hasSession, (Table.insert?_eq_some.mp inserted).2, sessionRow]
  · cases ok
    exact .inl rfl
  · dsimp only at ok
    split_ifs at ok
    cases ok
    exact .inl (hasSession_update (fun _ => rfl) rfl id)

theorem sessionReady_hasSession (ready : input.sessionReady db) : db.hasSession input.sessionId := by
  simp only [sessionReady, List.any_eq_true, Bool.and_eq_true] at ready
  obtain ⟨row, member, own, _⟩ := ready
  exact List.any_eq_true.mpr ⟨row, member, own⟩

theorem runElsewhere_fresh (fresh : db.hasRun input.runId = false) : input.runElsewhere db = false := by
  simp only [hasRun, List.any_eq_false, beq_iff_eq] at fresh
  simp only [runElsewhere, List.any_eq_false, Bool.and_eq_true, beq_iff_eq, not_and]
  exact fun row member same => absurd same (fresh row member)

theorem storeMessage_spec {asked : Database} (ok : input.storeMessage content db = .ok asked)
    (ready : input.sessionReady db) (parent : input.parentKnown db)
    (fresh : db.hasRun input.runId = false) :
    asked = { db with messages := asked.messages } ∧ asked.messages.rows = db.messages.rows ++
      if db.messages.rows.any (fun row => row.id == input.messageId && row.sessionId != input.sessionId) then []
      else [input.messageRow content db] := by
  unfold storeMessage at ok
  cases taken : db.messages.rows.any fun row => row.id == input.messageId && row.sessionId != input.sessionId with
  | true =>
    rw [if_neg (by simp [taken])] at ok
    cases ok
    exact ⟨rfl, by simp⟩
  | false =>
    rw [if_pos ⟨taken, ready, parent, runElsewhere_fresh fresh⟩] at ok
    obtain ⟨_, rows, frame⟩ := insertMessage_eq_ok.mp ok
    exact ⟨frame, by simpa using rows⟩

theorem storeRun_spec {running : Database} (ok : input.storeRun db = .ok running)
    (ready : input.sessionReady db) (parent : input.parentKnown db)
    (fresh : db.hasRun input.runId = false) :
    running = { db with runs := running.runs } ∧ running.runs.rows = db.runs.rows ++ [input.runRow] := by
  unfold storeRun at ok
  rw [if_pos ⟨runElsewhere_fresh fresh, parent, ready⟩] at ok
  split at ok <;> cases ok
  rename_i table inserted
  exact ⟨rfl, (Table.insert?_eq_some.mp inserted).2⟩

theorem linkChild_frame {linked : Database} (ok : input.linkChild db = .ok linked) :
    linked = { db with childRunLinks := linked.childRunLinks } := by
  unfold linkChild at ok
  split_ifs at ok
  · split at ok <;> cases ok
    rfl
  · cases ok
    rfl

theorem startLog_spec {started : Database} (known : db.hasRun input.runId)
    (ok : input.startLog db = .ok started) :
    started = { db with runEvents := started.runEvents, runRetention := started.runRetention } ∧
      started.runEvents.rows = db.runEvents.rows ++ [input.startedRow db] ∧
      started.runRetention = (({ db with runEvents := started.runEvents } : Database).upsertRetention
        input.runId input.nowMs).runRetention := by
  unfold startLog at ok
  rw [if_pos known] at ok
  cases inserted : db.insertEvent (input.startedRow db) with
  | error error => simp [inserted, bind, Except.bind] at ok
  | ok middle =>
    obtain ⟨_, rows, frame⟩ := insertEvent_eq_ok.mp inserted
    simp only [inserted, bind, Except.bind, pure, Except.pure, Except.ok.injEq] at ok
    subst ok
    refine ⟨?_, by rw [upsertRetention_runEvents, rows], ?_⟩
    · rw [upsertRetention_frame, frame]
    · rw [upsertRetention_runEvents, ← frame]

theorem transaction_cases {host : Host} (fresh : db.hasRun input.runId = false)
    (parent : input.parentKnown db) (ok : input.transaction host content db = .ok next) :
    input.Stored content db next ∨
      (input.openSession db = .ok next ∧ input.sessionReady next = false) := by
  -- either the request's session is ready and everything is stored, or the session statement was all
  obtain ⟨opened, asked, running, linked, session, message, run, link, ok⟩ := transaction_stages ok
  obtain ⟨sessions, rfl⟩ : ∃ sessions, opened = { db with sessions } := ⟨_, openSession_frame session⟩
  cases ready : input.sessionReady { db with sessions } with
  | false =>
    -- every later statement asks for the session or for the run
    right
    obtain rfl : _ = asked := by simpa [storeMessage, ready] using message
    obtain rfl : _ = running := by simpa [storeRun, ready] using run
    have unknown : input.admitted { db with sessions } = false := by
      simp only [hasRun, List.any_eq_false, beq_iff_eq] at fresh
      simp only [admitted, List.any_eq_false, Bool.and_eq_true, beq_iff_eq, not_and]
      exact fun row member same => absurd same (fresh row member)
    obtain rfl : _ = linked := by simpa [linkChild, unknown] using link
    rw [recordKey, if_neg (by simp [unknown]), startLog, if_neg (by exact ne_true_of_eq_false fresh)] at ok
    cases ok
    exact ⟨session, ready⟩
  | true =>
    left
    obtain ⟨messageFrame, messages⟩ := storeMessage_spec message ready parent fresh
    obtain ⟨asks, rfl⟩ : ∃ messages, asked = { db with sessions, messages } := ⟨_, messageFrame⟩
    obtain ⟨runFrame, stored⟩ := storeRun_spec run ready parent fresh
    obtain ⟨runs, rfl⟩ : ∃ runs, running = { db with sessions, messages := asks, runs } := ⟨_, runFrame⟩
    obtain ⟨links, rfl⟩ : ∃ childRunLinks, linked = { db with sessions, messages := asks, runs, childRunLinks } :=
      ⟨_, linkChild_frame link⟩
    replace stored : runs.rows = db.runs.rows ++ [input.runRow] := stored
    have keyed : input.recordKey { db with sessions, messages := asks, runs, childRunLinks := links } =
        { db with
          sessions, messages := asks, runs, childRunLinks := links
          idempotencyRecords := if input.idempotencyKey = "" then db.idempotencyRecords
            else db.idempotencyRecords.insertOrIgnore input.idempotencyRow } := by
      unfold recordKey
      by_cases unnamed : input.idempotencyKey = ""
      · rw [if_neg (by simp [unnamed]), if_pos unnamed]
      · rw [if_pos ⟨unnamed, by simp [admitted, stored, runRow]⟩, if_neg unnamed]
    rw [keyed] at ok
    obtain ⟨started, events, retention⟩ := startLog_spec (by simp [hasRun, stored, runRow]) ok
    rw [started]
    refine ⟨by simpa [parentKnown] using parent, fun id => ?_, messages, stored, rfl, events,
      retention.trans (upsertRetention_congr (by rfl) (by rfl) _ _), rfl⟩
    change ({ db with sessions } : Database).hasSession id = _
    rcases openSession_hasSession session id with kept | grown
    · rw [kept]
      by_cases own : input.sessionId = id
      · have there := sessionReady_hasSession ready
        rw [own, kept] at there
        simp [there]
      · simp [own]
    · exact grown

theorem refusal_none (none : input.refusal db = none) : input.parentKnown db := by
  unfold refusal at none
  split_ifs at none with _ unknown
  simpa using unknown

theorem Stored.selectRun (stored : input.Stored content db next) (fits : input.runRow.fits) :
    next.selectRun input.runId = some input.runRow := by
  have member : input.runRow ∈ next.runs.rows := by
    rw [stored.runs]
    exact List.mem_append_right _ (List.mem_singleton_self _)
  have found := Database.find_run member
  unfold Database.selectRun
  rw [show input.runId = input.runRow.id from rfl, found, Option.filter_some, if_pos fits]

end AdmissionCreateInput

open AdmissionCreateInput in
theorem storageAdmissionCreate_cases (host : Host) (encode : Json → JsonText) {db : Database}
    {input : AdmissionCreateInput} (fresh : db.hasRun input.runId = false) (fits : input.runRow.fits) :
    (∃ error, storageAdmissionCreate host encode db input = (db, .error error)) ∨
      (∃ record run, input.idempotencyKey ≠ "" ∧
        db.idempotencyRecord input.idempotencyScope input.idempotencyKey = some record ∧
        input.replays record ∧ db.selectRun record.resourceId = some run ∧
        storageAdmissionCreate host encode db input = (db, .ok ⟨true, run⟩)) ∨
      (∃ next error, input.openSession db = .ok next ∧
        storageAdmissionCreate host encode db input = (next, .error error)) ∨
      ∃ next, input.Stored (encode input.input) db next ∧
        (input.idempotencyKey = "" ∨ db.idempotencyRecord input.idempotencyScope input.idempotencyKey = none) ∧
        storageAdmissionCreate host encode db input = (next, .ok ⟨false, input.runRow⟩) := by
  -- the outcomes of an admission whose run identifier is free and whose run row fits its query
  unfold storageAdmissionCreate
  cases refused : input.refusal db with
  | some error => exact .inl ⟨error, rfl⟩
  | none =>
  have parent := refusal_none refused
  cases found : if input.idempotencyKey = "" then none
      else db.idempotencyRecord input.idempotencyScope input.idempotencyKey with
  | some record =>
    have named : input.idempotencyKey ≠ "" := by
      intro unnamed
      rw [if_pos unnamed] at found
      cases found
    rw [if_neg named] at found
    dsimp only
    split_ifs with replays
    · cases selected : db.selectRun record.resourceId with
      | none => exact .inl ⟨_, rfl⟩
      | some run => exact .inr (.inl ⟨record, run, named, found, replays, selected, rfl⟩)
    · exact .inl ⟨_, rfl⟩
  | none =>
    dsimp only
    have free : input.idempotencyKey = "" ∨
        db.idempotencyRecord input.idempotencyScope input.idempotencyKey = none := by
      by_cases unnamed : input.idempotencyKey = ""
      · exact .inl unnamed
      · rw [if_neg unnamed] at found
        exact .inr found
    cases outcome : input.transaction host (encode input.input) db with
    | error error => exact .inl ⟨error, rfl⟩
    | ok next =>
      right; right
      rcases transaction_cases fresh parent outcome with stored | ⟨opened, _⟩
      · right
        exact ⟨next, stored, free, by simp only [stored.selectRun fits]⟩
      · left
        have unknown : next.selectRun input.runId = none := by
          have absent : next.hasRun input.runId = false := by
            rw [openSession_frame opened]
            exact fresh
          simp only [hasRun, List.any_eq_false] at absent
          simp [selectRun, List.find?_eq_none.mpr absent]
        exact ⟨next, .sessionNotFound "admission could not create the run", opened, by simp only [unknown]⟩

structure SessionGone (db next : Database) (sessionId : String) : Prop where
  sessions : ∀ id, next.hasSession id = (db.hasSession id && id != sessionId)
  messages : next.messages.rows = db.messages.rows.filter fun row => row.sessionId != sessionId
  runs : next.runs.rows = db.runs.rows.filter fun row => row.sessionId != sessionId
  keys : next.idempotencyRecords.rows = db.idempotencyRecords.rows.filter fun row =>
    !(row.resourceType == "run" &&
      db.runs.rows.any fun run => run.id == row.resourceId && run.sessionId == sessionId)
  events : next.runEvents.rows = db.runEvents.rows.filter fun row =>
    !(db.runs.rows.any fun run => run.id == row.runId && run.sessionId == sessionId)
  records : next.recoveryRecords = db.recoveryRecords

theorem storageSessionDelete_cases (host : Host) (db : Database) (sessionId : String) :
    (∃ error, storageSessionDelete host db sessionId = (db, .error error)) ∨
      SessionGone db (storageSessionDelete host db sessionId).1 sessionId := by
  unfold storageSessionDelete
  split_ifs
  · exact .inl ⟨_, rfl⟩
  all_goals
    right
    refine ⟨fun id => ?_, rfl, rfl, rfl, rfl, rfl⟩
    simp only [hasSession, Table.delete_rows, List.any_filter]
    rw [Bool.eq_iff_iff]
    simp only [List.any_eq_true, Bool.and_eq_true, Bool.not_eq_true', beq_eq_false_iff_ne, beq_iff_eq, bne_iff_ne]
    constructor
    · rintro ⟨row, member, other, rfl⟩
      exact ⟨⟨row, member, rfl⟩, other⟩
    · rintro ⟨⟨row, member, rfl⟩, other⟩
      exact ⟨row, member, other, rfl⟩

theorem storageSessionCreate_frame (host : Host) (db : Database) (input : SessionCreateInput) :
    (storageSessionCreate host db input).1 =
      { db with sessions := (storageSessionCreate host db input).1.sessions } := by
  unfold storageSessionCreate
  split_ifs <;> rfl

end RustScriptAgent.Storage
