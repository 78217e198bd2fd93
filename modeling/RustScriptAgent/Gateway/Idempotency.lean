import Mathlib.Data.List.Find
import RustScriptAgent.Gateway.AdmissionSteps

namespace RustScriptAgent.Gateway

open Storage Sequences Relational Transitions LlmContentBlock AdmissionDraft Option Json

variable {row : IdempotencyRow} {db : Database} {outcome : StorageOutcome}

inductive KeyAnswer where
  | replayed (runId : String)
  | conflict
  | absent
  | failed (error : AdmitError)
  deriving DecidableEq

def KeyAnswer.ofReplay : Except AdmitError (Option AdmittedRun) → KeyAnswer
  | .ok none => .absent
  | .ok (some run) => .replayed run.runId
  | .error .idempotencyConflict => .conflict
  | .error error => .failed error

namespace GatewayState

variable (gateway : GatewayState)

def memoryAnswer (key requestHash : String) (selector : Option String) : KeyAnswer :=
  match gateway.idempotency key with
  | none => .absent
  | some record => .ofReplay ((gateway.compareRecord record requestHash selector true).map some)

def durableAnswer (key requestHash : String) (selector : Option String) : KeyAnswer :=
  .ofReplay (gateway.replayDurableAdmission key requestHash selector true)

def Admitting (key : String) : Prop :=
  ∃ flight, gateway.admission = some flight ∧ flight.plan.idempotency.map Prod.fst = some key

end GatewayState

open GatewayState

section Identity

variable {binding : Option WorkspaceBinding} {legacyRoot selector : Option String}

theorem workspaceIdentityJson_selector {identity : Json}
    (made : workspaceIdentityJson binding legacyRoot selector = some identity) :
    ∃ fields, identity = .obj fields ∧ identity.get? "request_selector_present" = some (.bool selector.isSome) ∧
      identity.get? "request_selector" = some (.str (selector.getD "")) := by
  unfold workspaceIdentityJson at made
  split_ifs at made
  cases made
  refine ⟨_, rfl, ?_, ?_⟩ <;> cases binding <;> cases legacyRoot <;> simp [get?, present]

theorem workspaceIdentityJson_bound {identity : Json}
    (made : workspaceIdentityJson binding legacyRoot selector = some identity)
    (bound : selector.isSome → binding.isSome) :
    ((identity.getStr? "selector").isSome && (identity.getStr? "canonical_path").isSome &&
      (identity.getInt? "generation").isSome || (identity.getStr? "legacy_root").isSome) := by
  unfold workspaceIdentityJson at made
  split_ifs at made with nothing
  cases made
  cases binding with
  | some held =>
    cases legacyRoot <;>
      simp [getStr?, getInt?, get?, present, asStr?, asInt?]
  | none =>
    cases legacyRoot with
    | some root => simp [getStr?, getInt?, get?, present, asStr?]
    | none =>
      have unnamed : selector.isNone := by
        cases selector with
        | none => rfl
        | some text => exact absurd (bound rfl) (by simp)
      exact absurd ⟨rfl, rfl, unnamed⟩ nothing

theorem replays_agree (scope key : String) {requestHash : String} {requested : Option String}
    (made : row.response.get? "workspace_identity" = workspaceIdentityJson binding legacyRoot selector)
    (bound : selector.isSome → binding.isSome) :
    replayIdentityMatches (loadRecord row) requestHash requested =
      AdmissionReplayInput.replays ⟨scope, key, requestHash, requested⟩ row := by
  unfold replayIdentityMatches AdmissionReplayInput.replays identityMatches
  simp only [loadRecord, made]
  congr 1
  cases identity : workspaceIdentityJson binding legacyRoot selector with
  | none => rfl
  | some document =>
    obtain ⟨fields, rfl, present, text⟩ := workspaceIdentityJson_selector identity
    have fielded := workspaceIdentityJson_bound identity bound
    simp only [getStr?] at fielded
    simp only [getStr?, present, text, jsonExtract, bind_some, asBool?, asStr?, fielded,
      Bool.and_true]
    cases selector <;> cases requested <;> simp [beq_eq_decide]

end Identity

structure KeyRow (db : Database) (row : IdempotencyRow) : Prop where
  scope : row.scope = admissionIdempotencyScope
  state : row.state = .completed
  kind : row.resourceType = "run"
  fits : row.fits = true
  identity : ∃ binding legacyRoot selector, (isSome selector = true → isSome binding = true) ∧
    row.response.get? "workspace_identity" = workspaceIdentityJson binding legacyRoot selector
  run : ∃ run ∈ db.runs.rows, run.id = row.resourceId ∧ run.fits = true

def keyRow? (db : Database) (key : String) : Option IdempotencyRow :=
  db.idempotencyRecords.rows.find? fun row => row.key == key

namespace GatewayState

def Recorded (gateway : GatewayState) (key : String) : Prop :=
  gateway.idempotency key = (keyRow? gateway.system.db key).map loadRecord

end GatewayState

theorem idempotencyRecord_eq (rows : ∀ row ∈ db.idempotencyRecords.rows, KeyRow db row)
    (key : String) : db.idempotencyRecord admissionIdempotencyScope key = keyRow? db key := by
  have known : (db.idempotencyRecords.rows.find? fun row =>
      row.scope == admissionIdempotencyScope && row.key == key) = keyRow? db key :=
    List.find?_congr fun row member => by simp [(rows row member).scope]
  unfold Database.idempotencyRecord
  rw [known]
  cases found : keyRow? db key with
  | none => rfl
  | some row => rw [filter_some, if_pos (rows row (List.mem_of_find?_eq_some found)).fits]

theorem KeyRow.selectRun (made : KeyRow db row) :
    ∃ run, db.selectRun row.resourceId = some run ∧ run.id = row.resourceId := by
  obtain ⟨run, member, same, fits⟩ := made.run
  refine ⟨run, ?_, same⟩
  rw [Database.selectRun, ← same, Database.find_run member, filter_some, if_pos fits]

theorem GatewayState.Recorded.answer {gateway : GatewayState} {key : String} (recorded : gateway.Recorded key)
    (rows : ∀ row ∈ gateway.system.db.idempotencyRecords.rows, KeyRow gateway.system.db row)
    (requestHash : String) (selector : Option String) :
    gateway.memoryAnswer key requestHash selector = gateway.durableAnswer key requestHash selector := by
  have stored (runId : String) : (gateway.storedRun runId).runId = runId := by
    unfold storedRun
    split <;> rfl
  have finished (row : RunRow) : (gateway.finishDurableReplay row).runId = row.id := by
    unfold finishDurableReplay
    split <;> rfl
  unfold memoryAnswer durableAnswer replayDurableAdmission storageAdmissionReplay
  rw [recorded, idempotencyRecord_eq rows key]
  cases found : keyRow? gateway.system.db key with
  | none => rfl
  | some row =>
    have made := rows row (List.mem_of_find?_eq_some found)
    obtain ⟨binding, legacyRoot, named, bound, identity⟩ := made.identity
    obtain ⟨run, selected, same⟩ := made.selectRun
    simp only [map_some, compareRecord, Bool.true_eq_false, if_false,
      replays_agree admissionIdempotencyScope key identity bound]
    split_ifs with replays
    · simp only [selected, Except.map, KeyAnswer.ofReplay, stored, finished, loadRecord, same]
    · rfl

namespace GatewayState

def storedKey (plan : AdmissionPlan) : Option (Except StorageError AdmissionReply) → Option IdempotencyRow
  | some (.ok ⟨false, _⟩) => some plan.payload.idempotencyRow
  | _ => none

structure KeysAgree (gateway : GatewayState) : Prop where
  rows : ∀ row ∈ gateway.system.db.idempotencyRecords.rows, KeyRow gateway.system.db row
  settled : ∀ key, ¬gateway.Admitting key → gateway.Recorded key
  flying : ∀ plan reply, gateway.admission = some ⟨plan, reply⟩ → gateway.Ready plan ∧
    ∀ pair, plan.idempotency = some pair → keyRow? gateway.system.db pair.1 = storedKey plan reply

structure Spares (gateway : GatewayState) (sessionId : String) : Prop where
  keys : ∀ row ∈ gateway.system.db.idempotencyRecords.rows, ∀ run ∈ gateway.system.db.runs.rows,
    run.id = row.resourceId → run.sessionId ≠ sessionId
  admission : ∀ flight, gateway.admission = some flight → flight.plan.sessionId ≠ sessionId ∧
    ∀ parent, flight.plan.parentRunId = some parent → gateway.system.store.home parent ≠ some sessionId

def KeyedRunsFit (gateway : GatewayState) (change : RunRow → RunRow) : Prop :=
  ∀ row ∈ gateway.system.db.idempotencyRecords.rows, ∀ run ∈ gateway.system.db.runs.rows,
    run.id = row.resourceId → (change run).fits = true

end GatewayState

def Act.KeepsKeys (gateway : GatewayState) : Act → Prop
  | .step (.persist _) => ∀ commit, gateway.system.flight = some (.reserved commit) →
      gateway.KeyedRunsFit commit.rewrite
  | .admitRun outcome => outcome ≠ .unacknowledged ∧
      ∀ flight, gateway.admission = some flight → gateway.system.db.hasRun flight.plan.runId = false
  | .delete sessionId _ => gateway.Spares sessionId
  | .renew input _ _ => gateway.Spares input.id
  | .restart _ => gateway.KeyedRunsFit (restartInput 0 0).rewrite
  | _ => True

section Decide

variable (gateway : GatewayState)

instance (key : String) : Decidable (gateway.Admitting key) :=
  decidable_of_iff (gateway.admission.any fun flight => decide (flight.plan.idempotency.map Prod.fst = some key))
    (by simp [GatewayState.Admitting, any_eq_true])

instance (change : RunRow → RunRow) : Decidable (gateway.KeyedRunsFit change) :=
  inferInstanceAs (Decidable (∀ row ∈ _, ∀ run ∈ _, _ → _))

instance decidableSparesSession (sessionId : String) : Decidable (gateway.Spares sessionId) :=
  decidable_of_iff
    ((∀ row ∈ gateway.system.db.idempotencyRecords.rows, ∀ run ∈ gateway.system.db.runs.rows,
        run.id = row.resourceId → run.sessionId ≠ sessionId) ∧
      ∀ flight ∈ gateway.admission, flight.plan.sessionId ≠ sessionId ∧
        ∀ parent ∈ flight.plan.parentRunId, gateway.system.store.home parent ≠ some sessionId)
    ⟨fun held => ⟨held.1, held.2⟩, fun spares => ⟨spares.keys, spares.admission⟩⟩

theorem keepsKeys_persist_reserved {commit : Reserved} (flying : gateway.system.flight = some (.reserved commit)) :
    gateway.KeyedRunsFit commit.rewrite ↔ Act.KeepsKeys gateway (.step (.persist outcome)) := by
  simp [Act.KeepsKeys, flying]

theorem keepsKeys_persist_idle
    (idle : ∀ commit, gateway.system.flight ≠ some (.reserved commit)) :
    Act.KeepsKeys gateway (.step (.persist outcome)) :=
  fun commit flying => absurd flying (idle commit)

instance decidableKeepsKeys : (act : Act) → Decidable (act.KeepsKeys gateway)
  | .step (.persist _) =>
    match flying : gateway.system.flight with
    | none => isTrue (keepsKeys_persist_idle gateway fun _ => flying ▸ nofun)
    | some (.answered _ _) => isTrue (keepsKeys_persist_idle gateway fun _ => flying ▸ nofun)
    | some (.reserved _) => decidable_of_iff _ (keepsKeys_persist_reserved gateway flying)
  | .admitRun outcome => inferInstanceAs (Decidable (outcome ≠ .unacknowledged ∧
      ∀ flight ∈ gateway.admission, gateway.system.db.hasRun flight.plan.runId = false))
  | .delete sessionId _ => inferInstanceAs (Decidable (gateway.Spares sessionId))
  | .renew input _ _ => inferInstanceAs (Decidable (gateway.Spares input.id))
  | .restart _ => inferInstanceAs (Decidable (gateway.KeyedRunsFit _))
  | .step (.begin _ _) | .step (.retry _ _ _) | .step .finish | .step (.stop _) | .step .halt
  | .step (.park _ _) | .review _ _ | .publish _ => isTrue trivial

end Decide

section Steps

variable {service : Service} {encode : Json → JsonText} {gateway later : GatewayState}

theorem KeyRow.mono {next : Database} (made : KeyRow db row)
    (runs : ∀ run ∈ db.runs.rows, run.id = row.resourceId → run.fits →
      ∃ kept ∈ next.runs.rows, kept.id = run.id ∧ kept.fits) : KeyRow next row := by
  obtain ⟨run, member, same, fits⟩ := made.run
  obtain ⟨kept, stored, id, within⟩ := runs run member same fits
  exact { made with run := ⟨kept, stored, id.trans same, within⟩ }

theorem keyRows_of_footprint {next : Database} {rewrite : RunRow → RunRow} {written : List MessageRow}
    (footprint : Footprint db next rewrite written) (place : ∀ row : RunRow, row.SamePlace (rewrite row))
    (fit : ∀ row ∈ db.idempotencyRecords.rows, ∀ run ∈ db.runs.rows, run.id = row.resourceId → (rewrite run).fits)
    (rows : ∀ row ∈ db.idempotencyRecords.rows, KeyRow db row) :
    ∀ row ∈ next.idempotencyRecords.rows, KeyRow next row := by
  rw [footprint.keys]
  intro row stored
  obtain ⟨selected, after⟩ := footprint.runs
  refine (rows row stored).mono fun run member same fits => ?_
  refine ⟨if selected run then rewrite run else run, ?_, ?_, ?_⟩
  · rw [after]
    exact List.mem_map_of_mem member
  · split_ifs
    · exact (place run).id
    · rfl
  · split_ifs
    · exact fit row stored run member same
    · exact fits

namespace GatewayState

theorem keyRow?_congr {next : Database} (same : next.idempotencyRecords = db.idempotencyRecords) (key : String) :
    keyRow? next key = keyRow? db key := by
  rw [keyRow?, same, keyRow?]

theorem Recorded.congr {key : String} (recorded : gateway.Recorded key)
    (keys : later.system.db.idempotencyRecords = gateway.system.db.idempotencyRecords)
    (known : later.idempotency = gateway.idempotency) : later.Recorded key := by
  rw [Recorded, known, keyRow?_congr keys]
  exact recorded

theorem Ready.congr {plan : AdmissionPlan} (ready : gateway.Ready plan)
    (sessions : plan.sessionNew ∨ (gateway.system.store.sessions plan.sessionId).isSome →
      plan.sessionNew ∨ (later.system.store.sessions plan.sessionId).isSome)
    (parents : ∀ parent, plan.parentRunId = some parent → (gateway.system.store.home parent).isSome →
      (later.system.store.home parent).isSome)
    (run : gateway.system.store.home plan.runId = none → later.system.store.home plan.runId = none)
    (known : later.idempotency = gateway.idempotency) : later.Ready plan where
  session := sessions ready.session
  parent parent named := parents parent named (ready.parent parent named)
  key := by
    rw [knownKey, known]
    exact ready.key
  run := run ready.run

theorem KeysAgree.carry (agree : gateway.KeysAgree)
    (keys : later.system.db.idempotencyRecords = gateway.system.db.idempotencyRecords)
    (known : later.idempotency = gateway.idempotency) (admission : later.admission = gateway.admission)
    (rows : ∀ row ∈ later.system.db.idempotencyRecords.rows, KeyRow later.system.db row)
    (ready : ∀ plan reply, gateway.admission = some ⟨plan, reply⟩ → gateway.Ready plan → later.Ready plan) :
    later.KeysAgree := by
  refine ⟨rows, fun key idle => ?_, fun plan reply flying => ?_⟩
  · refine (agree.settled key fun admitting => idle ?_).congr keys known
    rw [Admitting, admission]
    exact admitting
  · rw [admission] at flying
    obtain ⟨prepared, stored⟩ := agree.flying plan reply flying
    exact ⟨ready plan reply flying prepared, fun pair named => by rw [keyRow?_congr keys, stored pair named]⟩

theorem KeysAgree.step {label : Label} (agree : gateway.KeysAgree) (kept : Act.KeepsKeys gateway (.step label))
    (taken : gateway.next service encode (.step label) = some later) : later.KeysAgree := by
  obtain ⟨moved, known, admission⟩ := next_step taken
  have ready : ∀ plan reply, gateway.admission = some ⟨plan, reply⟩ → gateway.Ready plan → later.Ready plan := by
    intro plan reply flying ready
    refine ready.congr ?_ ?_ ?_ known
    · rw [System.next_isSome moved]
      exact id
    · rw [System.next_home moved]
      exact fun _ _ there => there
    · rw [System.next_home moved]
      exact id
  rcases System.next_cases moved with ⟨outcome, commit, rfl, flying, persisted⟩ | ⟨same, _⟩
  · have footprint : Footprint gateway.system.db later.system.db commit.rewrite
        (commit.written gateway.system.db) := by
      rw [persisted]
      exact commit.persist_footprint service.host gateway.system.db outcome
    exact agree.carry footprint.keys known admission
      (keyRows_of_footprint footprint commit.rewrite_samePlace (kept commit flying) agree.rows) ready
  · exact agree.carry (by rw [same]) known admission (by rw [same]; exact agree.rows) ready

theorem KeysAgree.review {plan : AdmissionPlan} {view : AdmissionView} (agree : gateway.KeysAgree)
    (taken : gateway.next service encode (.review plan view) = some later) : later.KeysAgree := by
  obtain ⟨idle, rfl | ⟨rfl, ready⟩⟩ := next_review taken
  · exact agree
  have all (key : String) : gateway.Recorded key := agree.settled key fun ⟨flight, flying, _⟩ => by
    rw [idle] at flying
    cases flying
  refine ⟨agree.rows, fun key _ => all key, fun other reply flying => ?_⟩
  cases flying
  refine ⟨ready.congr id (fun _ _ => id) id rfl, fun pair named => ?_⟩
  -- memory does not know the key, so neither does the table
  have unknown := ready.key
  rw [knownKey, named, bind_some, all pair.1, map_eq_none_iff] at unknown
  exact unknown

end GatewayState

theorem response_length (input : AdmissionCreateInput) : input.response.render.length ≤
      6 * input.runId.length + (input.workspaceIdentity.map fun document => document.render.length).getD 0 + 80 := by
  have run := quote_length_le input.runId
  have key : (quote "run_id").length = 8 := by decide
  have status : (quote "status").length = 8 := by decide
  have running : (quote "running").length = 9 := by decide
  have identity : (quote "workspace_identity").length = 20 := by decide
  have left : "\x7b".length = 1 := by decide
  have right : "\x7d".length = 1 := by decide
  have colon : ":".length = 1 := by decide
  have comma : ",".length = 1 := by decide
  unfold AdmissionCreateInput.response
  cases input.workspaceIdentity with
  | none =>
    simp only [List.append_nil, render, renderFields, String.length_append, map_none,
      getD_none, key, status, running, left, right, colon, comma]
    omega
  | some document =>
    simp only [List.cons_append, List.nil_append, render, renderFields, String.length_append,
      map_some, getD_some, key, status, running, identity, left, right, colon, comma]
    omega

namespace AdmissionDraft

variable (draft : AdmissionDraft)

@[simp] theorem response_identity :
    draft.payload.idempotencyRow.response.get? "workspace_identity" = draft.workspaceIdentity := by
  cases identity : draft.workspaceIdentity <;>
    simp [AdmissionCreateInput.idempotencyRow, AdmissionCreateInput.response, payload, identity, get?]

theorem keyRow_fits (budget : draft.idempotencyLookupBytes ≤ Storage.idempotencyLookupBytes) :
    draft.payload.idempotencyRow.fits ∧
      idempotencyRecordsSchema.check draft.payload.idempotencyRow := by
  unfold idempotencyLookupBytes at budget
  constructor
  · unfold IdempotencyRow.fits
    refine decide_eq_true (le_trans ?_ budget)
    simp only [cellBytes, List.map_cons, List.map_nil, List.sum_cons, List.sum_nil, Cell.bytes,
      AdmissionCreateInput.idempotencyRow, payload]
    omega
  · have written := response_length draft.payload
    have run := length_le_utf8ByteSize draft.runId
    have identity : (draft.workspaceIdentity.map fun document => document.render.length).getD 0 ≤
        (draft.workspaceIdentity.map fun document => document.render.utf8ByteSize).getD 0 := by
      cases draft.workspaceIdentity with
      | none => exact le_rfl
      | some document => exact length_le_utf8ByteSize document.render
    have limit : Storage.idempotencyLookupBytes = 8192 := rfl
    have bound : maxTextLength = 1048576 := rfl
    simp only [payload] at written
    simp only [idempotencyRecordsSchema, decide_eq_true_eq, AdmissionCreateInput.idempotencyRow]
    simp only [payload]
    omega

end AdmissionDraft

namespace AdmissionPlan

variable (plan : AdmissionPlan)

theorem payload_key {pair : String × String} (keyed : plan.idempotency = some pair) :
    plan.payload.idempotencyKey = pair.1 ∧ plan.payload.requestHash = pair.2 := by
  simp [payload, key, requestHash, keyed]

theorem runRow_fits : plan.payload.runRow.fits := decide_eq_true plan.runFits

theorem idempotencyRow_fits (keyed : plan.idempotency.isSome) : plan.payload.idempotencyRow.fits ∧
      idempotencyRecordsSchema.check plan.payload.idempotencyRow :=
  plan.toAdmissionDraft.keyRow_fits (plan.keyFits keyed)

end AdmissionPlan

namespace GatewayState

theorem KeysAgree.replied {plan : AdmissionPlan} (agree : gateway.KeysAgree)
    (flying : gateway.admission = some ⟨plan, none⟩) {next : Database} {reply : Except StorageError AdmissionReply}
    (rows : ∀ row ∈ next.idempotencyRecords.rows, KeyRow next row)
    (others : ∀ key, plan.idempotency.map Prod.fst ≠ some key → keyRow? next key = keyRow? gateway.system.db key)
    (own : ∀ pair, plan.idempotency = some pair → keyRow? next pair.1 = storedKey plan (some reply)) :
    KeysAgree { gateway with
      system := { gateway.system with db := next }
      admission := some ⟨plan, some reply⟩ } := by
  refine ⟨rows, fun key idle => ?_, fun other answered now => ?_⟩
  · have apart : plan.idempotency.map Prod.fst ≠ some key := fun named => idle ⟨_, rfl, named⟩
    have before : gateway.Recorded key := agree.settled key fun ⟨flight, held, named⟩ => by
      rw [flying] at held
      cases held
      exact apart named
    rw [Recorded, others key apart]
    exact before
  · cases now
    exact ⟨(agree.flying plan none flying).1.congr id (fun _ _ => id) id rfl, own⟩

theorem keyRow?_stored {plan : AdmissionPlan} {content : JsonText} {next : Database}
    (stored : plan.payload.Stored content db next)
    (free : ∀ pair, plan.idempotency = some pair → keyRow? db pair.1 = none) :
    next.idempotencyRecords.rows =
      db.idempotencyRecords.rows ++ (plan.idempotency.map fun _ => plan.payload.idempotencyRow).toList := by
  rw [stored.keys]
  cases keyed : plan.idempotency with
  | none =>
    have unnamed : plan.payload.idempotencyKey = "" := by simp [payload, key, keyed]
    rw [if_pos unnamed]
    exact (List.append_nil _).symm
  | some pair =>
    have named : plan.payload.idempotencyKey ≠ "" := by
      rw [(plan.payload_key keyed).1]
      exact plan.named pair keyed
    have accepted : db.idempotencyRecords.accepts plan.payload.idempotencyRow := by
      refine (Table.accepts_iff _ _).mpr ⟨(plan.idempotencyRow_fits (by rw [keyed]; rfl)).2, fun row member => ?_⟩
      have other := List.find?_eq_none.mp (free pair keyed) row member
      simp only [idempotencyRecordsSchema, AdmissionCreateInput.idempotencyRow, (plan.payload_key keyed).1]
      simp only [beq_iff_eq] at other
      simp [other]
    rw [if_neg named, Table.insertOrIgnore_rows, if_pos accepted]
    rfl

theorem KeysAgree.stored {plan : AdmissionPlan} {content : JsonText} {next : Database} {run : RunRow}
    (agree : gateway.KeysAgree) (flying : gateway.admission = some ⟨plan, none⟩)
    (stored : plan.payload.Stored content gateway.system.db next) :
    KeysAgree { gateway with
      system := { gateway.system with db := next }
      admission := some ⟨plan, some (.ok ⟨false, run⟩)⟩ } := by
  have free := (agree.flying plan none flying).2
  have rows := keyRow?_stored stored free
  refine agree.replied flying (fun row member => ?_) (fun key apart => ?_) fun pair keyed => ?_
  · rw [rows, List.mem_append] at member
    rcases member with old | new
    · refine (agree.rows row old).mono fun run there _ fits => ⟨run, ?_, rfl, fits⟩
      rw [stored.runs]
      exact List.mem_append_left _ there
    · rw [mem_toList, map_eq_some_iff] at new
      obtain ⟨pair, keyed, rfl⟩ := new
      refine ⟨rfl, rfl, rfl, (plan.idempotencyRow_fits (by rw [keyed]; rfl)).1,
        ⟨plan.binding, plan.legacyRoot, plan.selector, plan.bound, plan.response_identity⟩,
        plan.payload.runRow, ?_, rfl, plan.runRow_fits⟩
      rw [stored.runs]
      exact List.mem_append_right _ (List.mem_singleton_self _)
  · rw [keyRow?, rows, List.find?_append]
    cases keyed : plan.idempotency with
    | none => simp [keyRow?]
    | some pair =>
      have other : (plan.payload.idempotencyRow.key == key) = false := by
        rw [keyed, map_some] at apart
        rw [beq_eq_false_iff_ne]
        simp only [AdmissionCreateInput.idempotencyRow, (plan.payload_key keyed).1]
        exact fun same => apart (congrArg some same)
      simp [keyRow?, other]
  · have absent := free pair keyed
    have own : (plan.payload.idempotencyRow.key == pair.1) := by
      simp [AdmissionCreateInput.idempotencyRow, (plan.payload_key keyed).1]
    rw [keyRow?] at absent
    rw [keyRow?, rows, List.find?_append, absent, keyed]
    simp [storedKey, own]

theorem KeysAgree.admitRun (agree : gateway.KeysAgree) (kept : Act.KeepsKeys gateway (.admitRun outcome))
    (taken : gateway.next service encode (.admitRun outcome) = some later) : later.KeysAgree := by
  obtain ⟨plan, flying, rfl⟩ := next_admitRun taken
  have free := (agree.flying plan none flying).2
  have failed (error : StorageError) : KeysAgree { gateway with
      system := { gateway.system with db := gateway.system.db }
      admission := some ⟨plan, some (.error error)⟩ } :=
    agree.replied flying agree.rows (fun _ _ => rfl) free
  cases outcome with
  | lost => exact failed _
  | unacknowledged => exact absurd rfl kept.1
  | answered =>
    rcases storageAdmissionCreate_cases service.host encode (kept.2 _ flying) plan.runRow_fits with
      ⟨error, outcome⟩ | ⟨record, run, named, found, _⟩ | ⟨next, error, opened, outcome⟩ | ⟨next, stored, _, outcome⟩
    · simp only [deliverAnswer, outcome]
      exact failed error
    · -- a stored record would be known to memory
      exfalso
      cases keyed : plan.idempotency with
      | none => exact named (by simp [payload, key, keyed])
      | some pair =>
        have absent := free pair keyed
        rw [← idempotencyRecord_eq agree.rows] at absent
        rw [(plan.payload_key keyed).1] at found
        have scope : plan.payload.idempotencyScope = admissionIdempotencyScope := rfl
        rw [scope, absent] at found
        cases found
    · simp only [deliverAnswer, outcome]
      have frame := AdmissionCreateInput.openSession_frame opened
      have keys : next.idempotencyRecords = gateway.system.db.idempotencyRecords := by rw [frame]
      have runs : next.runs = gateway.system.db.runs := by rw [frame]
      refine agree.replied flying (fun row member => ?_) (fun key _ => keyRow?_congr keys key)
        fun pair keyed => (keyRow?_congr keys pair.1).trans (free pair keyed)
      rw [keys] at member
      exact (agree.rows row member).mono fun run there _ fits => ⟨run, by rw [runs]; exact there, rfl, fits⟩
    · simp only [deliverAnswer, outcome]
      exact agree.stored flying stored

theorem KeysAgree.publish {compares : Bool} (agree : gateway.KeysAgree)
    (taken : gateway.next service encode (.publish compares) = some later) : later.KeysAgree := by
  obtain ⟨plan, reply, flying, published⟩ := next_publish taken
  obtain ⟨ready, stored⟩ := agree.flying plan (some reply) flying
  have elsewhere (key : String) (apart : plan.idempotency.map Prod.fst ≠ some key) : gateway.Recorded key :=
    agree.settled key fun ⟨flight, held, named⟩ => by
      rw [flying] at held
      cases held
      exact apart named
  rcases published with ⟨rfl, withheld⟩ | ⟨⟨run, rfl⟩, _, rfl⟩
  · refine ⟨agree.rows, fun key _ => ?_, fun _ _ now => by cases now⟩
    by_cases own : plan.idempotency.map Prod.fst = some key
    · obtain ⟨pair, keyed, rfl⟩ := map_eq_some_iff.mp own
      have unknown := ready.key
      rw [knownKey, keyed, bind_some] at unknown
      have nothing : storedKey plan (some reply) = none := by
        unfold storedKey
        split
        · rename_i run same
          cases same
          exact absurd ⟨⟨run, rfl⟩, ready⟩ withheld
        · rfl
      rw [Recorded, stored pair keyed, nothing]
      exact unknown
    · exact elsewhere key own
  · refine ⟨agree.rows, fun key _ => ?_, fun _ _ now => by cases now⟩
    rw [Recorded]
    cases keyed : plan.idempotency with
    | none =>
      simp only [insertAdmitted, keyed]
      exact elsewhere key (by simp [keyed])
    | some pair =>
      simp only [insertAdmitted, keyed]
      split_ifs with own
      · rw [own, stored pair keyed]
        simp only [storedKey, map_some, loadRecord, plan.response_identity]
        simp only [AdmissionCreateInput.idempotencyRow, (plan.payload_key keyed).2]
        rfl
      · exact elsewhere key (by simpa [keyed] using fun same => own same.symm)

theorem KeysAgree.cleared {host : Host} {sessionId : String} (agree : gateway.KeysAgree)
    (spares : gateway.Spares sessionId) (cleared : Cleared host sessionId gateway later) : later.KeysAgree := by
  -- a session without keyed runs takes no key with it
  obtain ⟨middle, gone, made⟩ := cleared.db
  have middleKeys : middle.idempotencyRecords = gateway.system.db.idempotencyRecords ∧
      ∀ run ∈ gateway.system.db.runs.rows, run.sessionId ≠ sessionId → run ∈ middle.runs.rows := by
    rcases gone with rfl | rfl
    · exact ⟨rfl, fun run member _ => member⟩
    · rcases storageSessionDelete_cases host gateway.system.db sessionId with ⟨error, failed⟩ | deleted
      · rw [failed]
        exact ⟨rfl, fun run member _ => member⟩
      · refine ⟨Table.ext_rows ?_, fun run member other => ?_⟩
        · rw [deleted.keys, List.filter_eq_self]
          intro row member
          simp only [Bool.not_eq_true', Bool.and_eq_false_imp, List.any_eq_false, Bool.and_eq_true, beq_iff_eq,
            not_and]
          exact fun _ run stored same => spares.keys row member run stored same
        · rw [deleted.runs, List.mem_filter]
          exact ⟨member, by simpa using other⟩
  have tables : later.system.db.idempotencyRecords = middle.idempotencyRecords ∧
      later.system.db.runs = middle.runs := by
    rcases made with same | ⟨input, _, same⟩
    · rw [same]
      exact ⟨rfl, rfl⟩
    · rw [same, storageSessionCreate_frame]
      exact ⟨rfl, rfl⟩
  have keys : later.system.db.idempotencyRecords = gateway.system.db.idempotencyRecords := tables.1.trans middleKeys.1
  refine agree.carry keys cleared.idempotency cleared.admission (fun row member => ?_) fun plan reply flying ready => ?_
  · rw [keys] at member
    refine (agree.rows row member).mono fun run there same fits => ⟨run, ?_, rfl, fits⟩
    rw [tables.2]
    exact middleKeys.2 run there (spares.keys row member run there same)
  · obtain ⟨elsewhere, parents⟩ := spares.admission ⟨plan, reply⟩ flying
    refine ready.congr ?_ (fun parent named there => ?_) (fun absent => ?_) cleared.idempotency
    · rw [cleared.sessions plan.sessionId elsewhere]
      exact id
    · rcases cleared.home with same | removed
      · rw [same]
        exact there
      · obtain ⟨home, known⟩ := isSome_iff_exists.mp there
        have other : home ≠ sessionId := fun same => parents parent named (by rw [known, same])
        rw [removed, GatewayStore.home_removeRuns, known, filter_some, if_pos (by simpa using other)]
        rfl
    · rcases cleared.home with same | removed
      · rw [same]
        exact absent
      · rw [removed, GatewayStore.home_removeRuns, absent]
        rfl

theorem rewrite_fits (now maxEvents : Int) (run : RunRow) :
    ((restartInput now maxEvents).rewrite run).fits = ((restartInput 0 0).rewrite run).fits := by
  unfold RecoveryInput.rewrite
  split_ifs <;> rfl

theorem rewrite_again (now maxEvents : Int) (run : RunRow) :
    (restartInput 0 0).rewrite ((restartInput now maxEvents).rewrite run) =
      (restartInput now maxEvents).rewrite run := by
  cases active : run.status.active with
  | true =>
    have failed : (restartInput now maxEvents).rewrite run = (restartInput now maxEvents).assign.apply run :=
      if_pos active
    rw [failed]
    exact if_neg fun (active : RunStatus.failed.active) => by cases active
  | false =>
    have same : (restartInput now maxEvents).rewrite run = run := if_neg (by simp [active])
    rw [same]
    exact if_neg (by simp [active])

structure Carries (db next : Database) : Prop where
  keys : next.idempotencyRecords = db.idempotencyRecords
  rows : ∀ row ∈ next.idempotencyRecords.rows, KeyRow next row
  fit : ∀ row ∈ next.idempotencyRecords.rows, ∀ run ∈ next.runs.rows, run.id = row.resourceId →
    ((restartInput 0 0).rewrite run).fits = true

theorem Carries.startup (held : Carries db db) (work : Startup) : Carries db (work.apply db) := by
  cases work with
  | recover now maxEvents =>
    have closed : ∀ row ∈ db.idempotencyRecords.rows, row.state ≠ .claimed := fun row member => by
      rw [(held.rows row member).state]
      decide
    have footprint : Footprint db (Startup.apply db (.recover now maxEvents)) _ _ :=
      storageRunRecoverActive_footprint db (restartInput now maxEvents) closed
    refine ⟨footprint.keys, ?_, fun row member run stored same => ?_⟩
    · exact keyRows_of_footprint footprint (RecoveryInput.rewrite_samePlace _)
        (fun row member run stored same => by rw [rewrite_fits]; exact held.fit row member run stored same) held.rows
    · obtain ⟨old, there, kept | rewritten⟩ := footprint.run_origin stored
      · rw [footprint.keys] at member
        exact held.fit row member run (kept ▸ there) same
      · rw [footprint.keys] at member
        rw [rewritten, rewrite_again, rewrite_fits]
        refine held.fit row member old there ?_
        rw [← same, rewritten]
        exact (RecoveryInput.rewrite_samePlace _ old).id.symm
  | reconcile now =>
    have footprint : Footprint db (Startup.apply db (.reconcile now)) _ _ :=
      storageEffectReconcile_footprint db now recoveryBatchRows
    have runs : (Startup.apply db (.reconcile now)).runs = db.runs := storageEffectReconcile_runs db now _
    refine ⟨footprint.keys, ?_, ?_⟩
    · refine keyRows_of_footprint footprint (fun _ => ⟨rfl, rfl, rfl⟩) (fun row member run stored same => ?_) held.rows
      obtain ⟨other, there, named, fits⟩ := (held.rows row member).run
      rw [Database.run_unique stored there (same.trans named.symm)]
      exact fits
    · rw [runs, footprint.keys]
      exact held.fit

theorem Carries.startups (held : Carries db db) (work : List Startup) : Carries db (work.foldl Startup.apply db) := by
  induction work generalizing db with
  | nil => exact held
  | cons first rest ih =>
    have once := held.startup first
    have onward := ih ⟨rfl, once.rows, once.fit⟩
    exact ⟨onward.keys.trans once.keys, onward.rows, onward.fit⟩

theorem loadIdempotency_recorded (rows : ∀ row ∈ db.idempotencyRecords.rows, KeyRow db row)
    {idempotency : String → Option IdempotencyRecord} (loaded : loadIdempotency db = .ok idempotency) (key : String) :
    idempotency key = (keyRow? db key).map loadRecord := by
  have all : completedKeys db = db.idempotencyRecords.rows :=
    List.filter_eq_self.mpr fun row member => by simp [(rows row member).state]
  unfold loadIdempotency at loaded
  split at loaded
  · cases loaded
  · cases loaded
    rw [all]
    rfl

theorem KeysAgree.restart {work : List Startup} (agree : gateway.KeysAgree)
    (kept : Act.KeepsKeys gateway (.restart work))
    (taken : gateway.next service encode (.restart work) = some later) : later.KeysAgree := by
  obtain ⟨store, idempotency, _, loaded, rfl⟩ := next_restart taken
  have carried := Carries.startups ⟨rfl, agree.rows, kept⟩ work
  exact ⟨carried.rows, fun key _ => loadIdempotency_recorded carried.rows loaded key, fun _ _ now => by cases now⟩

theorem KeysAgree.next {act : Act} (agree : gateway.KeysAgree) (kept : act.KeepsKeys gateway)
    (taken : gateway.next service encode act = some later) : later.KeysAgree := by
  cases act with
  | step label => exact agree.step kept taken
  | review plan view => exact agree.review taken
  | admitRun outcome => exact agree.admitRun kept taken
  | publish compares => exact agree.publish taken
  | delete sessionId outcome =>
    cases taken
    exact agree.cleared kept (deleteSession_cleared sessionId outcome)
  | renew input deleted created =>
    cases taken
    exact agree.cleared kept (renewSession_cleared input deleted created)
  | restart work => exact agree.restart kept taken

theorem initial_keysAgree : initial.KeysAgree where
  rows _ member := by simp [initial, Database.empty, Table.empty] at member
  settled _ _ := rfl
  flying _ _ flying := by cases flying

end GatewayState

end Steps

theorem memory_answers_as_durable (service : Service) (encode : Json → JsonText) (acts : List Act)
    (final : GatewayState)
    (kept : Along (next service encode) (fun gateway act => act.KeepsKeys gateway)
      initial acts)
    (reached : run (next service encode) initial acts = some final)
    (key requestHash : String) (selector : Option String) (settled : ¬final.Admitting key) :
    final.memoryAnswer key requestHash selector = final.durableAnswer key requestHash selector := by
  -- the key of the admission under way is left out: storage may know it before memory does
  have agree := run_invariant (fun _ _ _ agree allowed taken => GatewayState.KeysAgree.next agree allowed taken)
    initial_keysAgree kept reached
  exact (agree.settled key settled).answer agree.rows requestHash selector

def keyedPlan : AdmissionPlan where
  sessionId := "s"
  sessionNew := true
  platform := "api"
  model := "m"
  provider := "p"
  systemPrompt := ""
  parentRunId := none
  idempotency := some ("k", "h")
  binding := none
  legacyRoot := none
  selector := none
  input := .str "hi"
  context := .str "hi"
  scriptHash := "x"
  runId := "r"
  messageId := "m0"
  eventId := "e0"
  now := 1
  base := []
  named := by simp
  bound := by simp
  runFits := by decide +kernel
  keyFits _ := by decide +kernel

def quietView : AdmissionView := ⟨false, false, false, false, false, true, false⟩

def admission (plan : AdmissionPlan) : List Act := [.review plan quietView, .admitRun .answered, .publish true]

def storeJson : Json → JsonText := .json

theorem memory_answers_as_durable_after_restart :
    ∃ final, run (next (soloService 4) storeJson) initial
        (admission keyedPlan ++ [.restart [.recover 9 4, .reconcile 9]]) = some final ∧
      final.memoryAnswer "k" "h" none = .replayed "r" ∧ final.durableAnswer "k" "h" none = .replayed "r" := by
  have taken : (run (next (soloService 4) storeJson) initial
      (admission keyedPlan ++ [.restart [.recover 9 4, .reconcile 9]])).map
      (fun final => (final.memoryAnswer "k" "h" none, decide (final.Admitting "k"))) =
      some (.replayed "r", false) := by
    decide +kernel
  obtain ⟨final, reached, observed⟩ := map_eq_some_iff.mp taken
  simp only [Prod.mk.injEq, decide_eq_false_iff_not] at observed
  have agree := memory_answers_as_durable (soloService 4) storeJson
    (admission keyedPlan ++ [.restart [.recover 9 4, .reconcile 9]]) final (by decide +kernel) reached "k" "h" none
    observed.2
  exact ⟨final, reached, observed.1, agree ▸ observed.1⟩

theorem deleted_session_leaves_its_key : ∃ final, run (next (soloService 4) storeJson) initial
        (admission keyedPlan ++ [.delete "s" .answered]) = some final ∧ ¬final.Admitting "k" ∧
      final.memoryAnswer "k" "h" none = .replayed "r" ∧ final.durableAnswer "k" "h" none = .absent := by
  have taken : (run (next (soloService 4) storeJson) initial
      (admission keyedPlan ++ [.delete "s" .answered])).map
      (fun final => (decide (final.Admitting "k"), final.memoryAnswer "k" "h" none, final.durableAnswer "k" "h" none)) =
      some (false, .replayed "r", .absent) := by
    decide +kernel
  obtain ⟨final, reached, observed⟩ := map_eq_some_iff.mp taken
  simp only [Prod.mk.injEq, decide_eq_false_iff_not] at observed
  exact ⟨final, reached, observed.1, observed.2.1, observed.2.2⟩

end RustScriptAgent.Gateway
