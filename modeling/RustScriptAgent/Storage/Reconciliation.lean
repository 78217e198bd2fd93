import RustScriptAgent.Storage.Reconcile
import RustScriptAgent.Storage.Retention

namespace RustScriptAgent.Storage

open Relational Sequences Table EventRow List Json
open Option hiding map_map mem_map

variable {entry : CallKey × Int} {maxRows : Int}

section Calls

variable {db : Database} {events : List EventRow} {key : CallKey}

@[simp] theorem jsonExtract_str (name value : String) (rest : List (String × Json)) :
    jsonExtract name (.obj ((name, .str value) :: rest)) = some (.text value) := by
  simp [jsonExtract, get?]

theorem effectPayload_call (call : SqlValue) : jsonExtract "tool_call_id" (effectPayload call) = some call := by
  cases call <;> simp [jsonExtract, effectPayload, get?, SqlValue.json]

theorem effectPayload_code (call : SqlValue) :
    jsonExtract "error_code" (effectPayload call) = some (.text "interrupted_effect") := by
  simp [jsonExtract, effectPayload, get?]

theorem closedIn_iff : closedIn events key ↔ ∃ row ∈ events, row.closesCall ∧ row.key = key := by
  simp [closedIn]

theorem mem_pendingCalls : key ∈ pendingCalls events ↔
      (∃ row ∈ events, row.opensCall ∧ row.key = key) ∧ key.call ≠ none ∧ key.call ≠ some (.text "") ∧
        closedIn events key = false := by
  simp only [pendingCalls, mem_groupKeys, mem_map, mem_filter, isPending, Bool.and_eq_true,
    decide_eq_true_eq, Bool.not_eq_true']
  constructor
  · rintro ⟨row, ⟨member, ⟨⟨opens, named⟩, filled⟩, unclosed⟩, rfl⟩
    exact ⟨⟨row, member, opens, rfl⟩, named, filled, unclosed⟩
  · rintro ⟨⟨row, member, opens, rfl⟩, named, filled, unclosed⟩
    exact ⟨row, ⟨member, ⟨⟨opens, named⟩, filled⟩, unclosed⟩, rfl⟩

theorem pendingCalls_sorted (events : List EventRow) : (pendingCalls events).Pairwise (· < ·) := groupKeys_sorted _

theorem pendingCalls_nodup (events : List EventRow) : (pendingCalls events).Nodup := groupKeys_nodup _

theorem interruptedCalls_sorted (db : Database) (events : List EventRow) :
    (interruptedCalls db events).Pairwise (· < ·) := groupKeys_sorted _

theorem mem_interruptedCalls : key ∈ interruptedCalls db events ↔
      ∃ row ∈ events, row.isInterrupted ∧ db.hasRun row.runId ∧ row.key = key := by
  simp [interruptedCalls, interruptedEvents, mem_groupKeys, and_assoc]

theorem closesCall_of_isInterrupted {row : EventRow} (interrupted : row.isInterrupted) :
    row.closesCall := by
  simp only [isInterrupted, Bool.and_eq_true, decide_eq_true_eq] at interrupted
  simp [closesCall, interrupted.1]

end Calls

structure RecoveryEvent (row : EventRow) (key : CallKey) : Prop where
  owner : row.key = key
  eventType : row.eventType = .toolFailed
  payload : ∃ call, key.call = some call ∧ row.payload = effectPayload call
  eventId : recoveryId "recovery-effect:" key = some row.eventId

namespace RecoveryEvent

variable {row : EventRow} {key : CallKey}

section

variable (recovery : RecoveryEvent row key)
include recovery

theorem isInterrupted : row.isInterrupted := by
  obtain ⟨call, _, payload⟩ := recovery.payload
  simp [EventRow.isInterrupted, recovery.eventType, payload, effectPayload_code]

theorem closesCall : row.closesCall :=
  closesCall_of_isInterrupted recovery.isInterrupted

theorem opensCall : row.opensCall = false := by
  simp [EventRow.opensCall, recovery.eventType]

theorem runId : row.runId = key.runId := congrArg CallKey.runId recovery.owner

end

end RecoveryEvent

section Effects

variable {db : Database} {now : Int} {limit : Nat}

theorem effectRow_eq_some {row : EventRow} (built : effectRow db now entry = some row) :
    RecoveryEvent row entry.1 ∧ row.seq = db.maxSeq entry.1.runId + entry.2 := by
  rcases entry with ⟨⟨run, call⟩, number⟩
  cases call with
  | none => simp [effectRow] at built
  | some call =>
    simp only [effectRow, recoveryId, Option.map_some, Option.bind_eq_bind, Option.bind_some, Option.pure_def,
      some.injEq] at built
    subst built
    refine ⟨⟨?_, rfl, ⟨call, rfl, rfl⟩, rfl⟩, rfl⟩
    simp [key, effectPayload_call]

theorem effectRow_isSome (db : Database) (now : Int) (named : entry.1.call ≠ none) :
    ∃ row, effectRow db now entry = some row := by
  rcases entry with ⟨⟨run, call⟩, number⟩
  cases call with
  | none => exact absurd rfl named
  | some call => exact ⟨_, rfl⟩

theorem mem_effectEntries {key : CallKey} :
    (∃ number, (key, number) ∈ effectEntries db limit) ↔ key ∈ (pendingCalls db.runEvents.rows).take limit :=
  mem_rowNumbers_orderBy CallKey.runId

theorem effectEntries_named (member : entry ∈ effectEntries db limit) : entry.1.call ≠ none := by
  have batch := mem_effectEntries.mp ⟨entry.2, member⟩
  exact (mem_pendingCalls.mp (mem_of_mem_take batch)).2.1

theorem mem_effectRows {row : EventRow} (member : row ∈ effectRows db now limit) :
    ∃ entry ∈ effectEntries db limit, RecoveryEvent row entry.1 ∧
      row.seq = db.maxSeq entry.1.runId + entry.2 := by
  obtain ⟨entry, listed, built⟩ := mem_filterMap.mp member
  exact ⟨entry, listed, effectRow_eq_some built⟩

theorem effectRows_owner (db : Database) (now : Int) (limit : Nat) {key : CallKey} :
    (∃ row ∈ effectRows db now limit, RecoveryEvent row key) ↔
      key ∈ (pendingCalls db.runEvents.rows).take limit := by
  constructor
  · rintro ⟨row, member, recovery⟩
    obtain ⟨entry, listed, own, _⟩ := mem_effectRows member
    rw [← recovery.owner, own.owner]
    exact mem_effectEntries.mp ⟨entry.2, listed⟩
  · intro batch
    obtain ⟨number, listed⟩ := mem_effectEntries.mpr batch
    obtain ⟨row, built⟩ := effectRow_isSome db now (effectEntries_named listed)
    exact ⟨row, mem_filterMap.mpr ⟨_, listed, built⟩, (effectRow_eq_some built).1⟩

theorem mem_effectRows_pending {row : EventRow} (member : row ∈ effectRows db now limit) :
    RecoveryEvent row row.key ∧ row.key ∈ (pendingCalls db.runEvents.rows).take limit := by
  obtain ⟨entry, listed, recovery, _⟩ := mem_effectRows member
  rw [recovery.owner]
  exact ⟨recovery, mem_effectEntries.mp ⟨entry.2, listed⟩⟩

theorem pendingCalls_effectRows :
    pendingCalls (db.runEvents.rows ++ effectRows db now limit) = (pendingCalls db.runEvents.rows).drop limit := by
  refine eq_of_sorted (pendingCalls_sorted _)
    ((pendingCalls_sorted db.runEvents.rows).sublist (drop_sublist _ _)) fun key => ?_
  rw [mem_drop_of_nodup (pendingCalls_nodup _), ← effectRows_owner db now limit]
  simp only [mem_pendingCalls, ← Bool.not_eq_true, closedIn_iff]
  constructor
  · rintro ⟨⟨row, member, opens, same⟩, named, filled, unclosed⟩
    refine ⟨⟨⟨row, ?_, opens, same⟩, named, filled, ?_⟩, ?_⟩
    · rcases mem_append.mp member with old | new
      · exact old
      · simp [(mem_effectRows_pending new).1.opensCall] at opens
    · rintro ⟨other, present, closes, own⟩
      exact unclosed ⟨other, mem_append_left _ present, closes, own⟩
    · rintro ⟨other, present, recovery⟩
      exact unclosed ⟨other, mem_append_right _ present, recovery.closesCall, recovery.owner⟩
  · rintro ⟨⟨⟨row, member, opens, same⟩, named, filled, unclosed⟩, unlisted⟩
    refine ⟨⟨row, mem_append_left _ member, opens, same⟩, named, filled, ?_⟩
    rintro ⟨other, present, closes, own⟩
    rcases mem_append.mp present with old | new
    · exact unclosed ⟨other, old, closes, own⟩
    · exact unlisted ⟨other, new, own ▸ (mem_effectRows_pending new).1⟩

theorem mem_interruptedCalls_effectRows {key : CallKey} :
    key ∈ interruptedCalls db (db.runEvents.rows ++ effectRows db now limit) ↔
      key ∈ interruptedCalls db db.runEvents.rows ∨
        (key ∈ (pendingCalls db.runEvents.rows).take limit ∧ db.hasRun key.runId) := by
  rw [← effectRows_owner db now limit]
  simp only [mem_interruptedCalls, mem_append]
  constructor
  · rintro ⟨row, old | new, marked, known, rfl⟩
    · exact .inl ⟨row, old, marked, known, rfl⟩
    · exact .inr ⟨⟨row, new, (mem_effectRows_pending new).1⟩, known⟩
  · rintro (⟨row, old, marked, known, same⟩ | ⟨⟨row, new, recovery⟩, known⟩)
    · exact ⟨row, .inl old, marked, known, same⟩
    · exact ⟨row, .inr new, recovery.isInterrupted, recovery.runId ▸ known, recovery.owner⟩

end Effects

structure Recordable (db : Database) : Prop where
  fresh : ∀ key ∈ pendingCalls db.runEvents.rows, ∀ eventId, recoveryId "recovery-effect:" key = some eventId →
    db.hasEventId eventId = false
  distinct : ∀ a ∈ pendingCalls db.runEvents.rows, ∀ b ∈ pendingCalls db.runEvents.rows,
    recoveryId "recovery-effect:" a = recoveryId "recovery-effect:" b → a = b
  fits : ∀ key ∈ pendingCalls db.runEvents.rows, ∀ call, key.call = some call →
    (effectPayload call).render.length ≤ maxTextLength

section Rounds

variable {db : Database} {now : Int} {limit : Nat}

theorem effectRows_accepts (ready : Recordable db) {row : EventRow} (member : row ∈ effectRows db now limit) :
    db.runEvents.accepts row := by
  obtain ⟨entry, listed, recovery, seq⟩ := mem_effectRows member
  have pending := mem_of_mem_take (mem_effectEntries.mp ⟨entry.2, listed⟩)
  have positive := rowNumbers_lower CallKey.runId listed
  obtain ⟨call, named, payload⟩ := recovery.payload
  refine (accepts_iff _ _).mpr ⟨?_, fun stored present => ?_⟩
  · simp only [runEventsSchema, payload, decide_eq_true_eq]
    exact ready.fits entry.1 pending call named
  · have unused := Database.hasEventId_false.mp (ready.fresh entry.1 pending row.eventId recovery.eventId)
    have newer : stored.runId = row.runId → stored.seq ≠ row.seq := by
      intro same
      have bound : stored.seq ≤ db.maxSeq entry.1.runId :=
        le_maxOrZero (Database.mem_seqs.mpr ⟨stored, present, same.trans recovery.runId, rfl⟩)
      simp only [countP_nil] at positive
      omega
    simp only [runEventsSchema, Bool.or_eq_false_iff, beq_eq_false_iff_ne, Bool.and_eq_false_imp, beq_iff_eq]
    exact ⟨unused stored present, newer⟩

theorem effectRows_apart (ready : Recordable db) :
    (effectRows db now limit).Pairwise (fun a b => runEventsSchema.conflict a b = false) := by
  have keys : (effectEntries db limit).Pairwise fun a b => a.1 ≠ b.1 :=
    rowNumbers_orderBy_distinct CallKey.runId ((pendingCalls_nodup _).sublist (take_sublist _ _))
  have entries := Pairwise.and_mem.mp (keys.and (rowNumbers_apart CallKey.runId [] _))
  refine pairwise_filterMap.mpr (entries.imp ?_)
  rintro a b ⟨first, second, unlike, apart⟩ row builtA other builtB
  obtain ⟨recoveryA, seqA⟩ := effectRow_eq_some builtA
  obtain ⟨recoveryB, seqB⟩ := effectRow_eq_some builtB
  have pendingA := mem_of_mem_take (mem_effectEntries.mp ⟨a.2, first⟩)
  have pendingB := mem_of_mem_take (mem_effectEntries.mp ⟨b.2, second⟩)
  simp only [runEventsSchema, Bool.or_eq_false_iff, beq_eq_false_iff_ne, Bool.and_eq_false_imp, beq_iff_eq]
  constructor
  · intro same
    exact unlike (ready.distinct a.1 pendingA b.1 pendingB
      (by rw [recoveryA.eventId, recoveryB.eventId, same]))
  · intro same seqs
    rw [recoveryA.runId, recoveryB.runId] at same
    rw [seqA, seqB, same] at seqs
    exact apart same (by omega)

section

variable (db : Database)

theorem refreshRetention_frame (now : Int) :
    db.refreshRetention now = { db with runRetention := (db.refreshRetention now).runRetention } :=
  Database.upsertRetention_foldl_frame _ db now

theorem storageEffectReconcile_runEvents (now maxRows : Int) :
    (storageEffectReconcile db now maxRows).1.runEvents =
      db.runEvents.insertEachOrIgnore (effectRows db now (reconcileLimit maxRows)) := by
  simp only [storageEffectReconcile]
  rw [refreshRetention_frame]
  rfl

theorem storageEffectReconcile_messages (now maxRows : Int) :
    (storageEffectReconcile db now maxRows).1.messages =
      db.messages.insertEachOrIgnore (answerRows db (storageEffectReconcile db now maxRows).1.runEvents.rows now
        (reconcileLimit maxRows)) := by
  rw [storageEffectReconcile_runEvents]
  simp only [storageEffectReconcile]
  rw [refreshRetention_frame]
  rfl

@[simp] theorem storageEffectReconcile_runs (now maxRows : Int) :
    (storageEffectReconcile db now maxRows).1.runs = db.runs := by
  simp only [storageEffectReconcile]
  rw [refreshRetention_frame]
  rfl

theorem storageEffectReconcile_affected (now maxRows : Int) :
    (storageEffectReconcile db now maxRows).2 =
      (db.runEvents.acceptedRows (effectRows db now (reconcileLimit maxRows))).length := by
  simp [storageEffectReconcile, insertEachOrIgnore_rows]

end

theorem Recordable.round_rows (ready : Recordable db) : (storageEffectReconcile db now maxRows).1.runEvents.rows =
      db.runEvents.rows ++ effectRows db now (reconcileLimit maxRows) := by
  rw [storageEffectReconcile_runEvents, insertEachOrIgnore_rows,
    acceptedRows_eq_self (fun row => effectRows_accepts ready) (effectRows_apart ready)]

theorem Recordable.round_pending (ready : Recordable db) :
    pendingCalls (storageEffectReconcile db now maxRows).1.runEvents.rows =
      (pendingCalls db.runEvents.rows).drop (reconcileLimit maxRows) := by
  rw [ready.round_rows, pendingCalls_effectRows]

theorem effectRows_length : (effectRows db now limit).length = min limit (pendingCalls db.runEvents.rows).length := by
  have all : (effectRows db now limit).length = (effectEntries db limit).length := by
    unfold effectRows
    rw [length_filterMap_eq_countP, countP_eq_length]
    intro entry listed
    obtain ⟨row, built⟩ := effectRow_isSome db now (effectEntries_named listed)
    simp [built]
  rw [all, effectEntries, rowNumbers_length, (orderBy_perm _ _).length_eq, length_take]

theorem Recordable.round_affected (ready : Recordable db) : (storageEffectReconcile db now maxRows).2 =
      min (reconcileLimit maxRows) (pendingCalls db.runEvents.rows).length := by
  rw [storageEffectReconcile_affected,
    acceptedRows_eq_self (fun row => effectRows_accepts ready) (effectRows_apart ready), effectRows_length]

theorem Recordable.round (ready : Recordable db) : Recordable (storageEffectReconcile db now maxRows).1 := by
  have later : ∀ {key}, key ∈ pendingCalls (storageEffectReconcile db now maxRows).1.runEvents.rows →
      key ∈ pendingCalls db.runEvents.rows ∧ key ∉ (pendingCalls db.runEvents.rows).take (reconcileLimit maxRows) := by
    intro key member
    rw [ready.round_pending] at member
    exact (mem_drop_of_nodup (pendingCalls_nodup _)).mp member
  refine ⟨?_, fun a first b second => ready.distinct a (later first).1 b (later second).1,
    fun key member => ready.fits key (later member).1⟩
  intro key member eventId named
  obtain ⟨pending, unlisted⟩ := later member
  rw [Database.hasEventId_false, ready.round_rows]
  intro row present
  rcases mem_append.mp present with old | new
  · exact Database.hasEventId_false.mp (ready.fresh key pending eventId named) row old
  · intro same
    obtain ⟨recovery, batch⟩ := mem_effectRows_pending new
    have equal := ready.distinct row.key (mem_of_mem_take batch) key pending
      (by rw [recovery.eventId, named, same])
    exact unlisted (equal ▸ batch)

theorem effectRows_seqs {chosen : EventRow → Bool} {own : CallKey → Bool}
    (same : ∀ {row key}, RecoveryEvent row key → key ∈ pendingCalls db.runEvents.rows → chosen row = own key) :
    ((effectRows db now limit).filter chosen).map seq =
      ((effectEntries db limit).filter fun entry => own entry.1).map fun entry =>
        db.maxSeq entry.1.runId + entry.2 := by
  rw [effectRows, filter_filterMap, map_filterMap, ← filterMap_eq_map, filterMap_filter]
  refine filterMap_congr fun entry listed => ?_
  obtain ⟨row, built⟩ := effectRow_isSome db now (effectEntries_named listed)
  obtain ⟨recovery, seq⟩ := effectRow_eq_some built
  have chosen := same recovery (mem_of_mem_take (mem_effectEntries.mp ⟨entry.2, listed⟩))
  cases mine : own entry.1 <;> simp [built, chosen, mine, seq]

theorem Recordable.round_unbroken (ready : Recordable db) (run : String)
    (block : Unbroken (db.seqs run)) : Unbroken ((storageEffectReconcile db now maxRows).1.seqs run) := by
  have seqs : (storageEffectReconcile db now maxRows).1.seqs run = db.seqs run ++
      ((effectRows db now (reconcileLimit maxRows)).filter (fun row => decide (row.runId = run))).map seq := by
    simp [Database.seqs, Database.eventsOf, ready.round_rows]
    rfl
  have numbers := rowNumbers_run CallKey.runId []
    ((effectEntries db (reconcileLimit maxRows)).map Prod.fst) run
  have entries : rowNumbers CallKey.runId [] ((effectEntries db (reconcileLimit maxRows)).map Prod.fst) =
      effectEntries db (reconcileLimit maxRows) := by
    rw [effectEntries, rowNumbers_fst]
  rw [entries] at numbers
  have shifted : ((effectEntries db (reconcileLimit maxRows)).filter
        (fun entry => decide (entry.1.runId = run))).map (fun entry => db.maxSeq entry.1.runId + entry.2) =
      (((effectEntries db (reconcileLimit maxRows)).filter
        (fun entry => decide (entry.1.runId = run))).map Prod.snd).map (fun number => db.maxSeq run + number) := by
    rw [map_map]
    refine map_congr_left fun entry member => ?_
    rw [show entry.1.runId = run by simpa using (mem_filter.mp member).2]
    rfl
  rw [seqs, effectRows_seqs fun recovery _ => by rw [recovery.runId], shifted, numbers, map_map]
  simpa [Function.comp_def, Database.maxSeq] using block.append_run _

end Rounds

structure Grown (before db : Database) : Prop where
  runs : db.runs = before.runs
  kept : ∀ row ∈ before.runEvents.rows, row ∈ db.runEvents.rows
  added : ∀ row ∈ db.runEvents.rows, row ∈ before.runEvents.rows ∨
    (RecoveryEvent row row.key ∧ row.key ∈ pendingCalls before.runEvents.rows)

namespace Grown

variable {before db : Database}

theorem refl (db : Database) : Grown db db := ⟨rfl, fun _ member => member, fun _ member => .inl member⟩

section

variable (grown : Grown before db)
include grown

theorem pending {key : CallKey} (member : key ∈ pendingCalls db.runEvents.rows) :
    key ∈ pendingCalls before.runEvents.rows := by
  obtain ⟨⟨row, present, opens, same⟩, named, filled, unclosed⟩ := mem_pendingCalls.mp member
  rcases grown.added row present with old | ⟨recovery, _⟩
  · refine mem_pendingCalls.mpr ⟨⟨row, old, opens, same⟩, named, filled, ?_⟩
    rw [← Bool.not_eq_true, closedIn_iff] at unclosed ⊢
    rintro ⟨other, earlier, closes, own⟩
    exact unclosed ⟨other, grown.kept other earlier, closes, own⟩
  · simp [recovery.opensCall] at opens

theorem round (now maxRows : Int) :
    Grown before (storageEffectReconcile db now maxRows).1 := by
  have rows := storageEffectReconcile_runEvents db now maxRows
  refine ⟨(storageEffectReconcile_runs db now maxRows).trans grown.runs, fun row member => ?_, fun row member => ?_⟩
  · rw [rows]
    exact insertEachOrIgnore_mono _ _ _ (grown.kept row member)
  · rw [rows] at member
    rcases mem_insertEachOrIgnore member with old | new
    · exact grown.added row old
    · obtain ⟨recovery, batch⟩ := mem_effectRows_pending new
      exact .inr ⟨recovery, grown.pending (mem_of_mem_take batch)⟩

theorem rounds (clock : Nat → Int) (fuel done : Nat) :
    Grown before (reconcileRounds clock fuel done db).1 := by
  induction fuel generalizing done db with
  | zero => exact grown.round _ _
  | succ fuel ih =>
    unfold reconcileRounds
    simp only
    split_ifs
    · exact grown.round _ _
    · exact ih (grown.round _ _) (done + 1)

theorem recovery {row : EventRow} (member : row ∈ db.runEvents.rows)
    (marked : row.isInterrupted) (pending : row.key ∈ pendingCalls before.runEvents.rows) :
    RecoveryEvent row row.key ∧ row ∉ before.runEvents.rows := by
  have unclosed := (mem_pendingCalls.mp pending).2.2.2
  have absent : row ∉ before.runEvents.rows := by
    intro old
    have closed := closedIn_iff.mpr ⟨row, old, closesCall_of_isInterrupted marked, rfl⟩
    simp [unclosed] at closed
  rcases grown.added row member with old | ⟨recovery, _⟩
  · exact absurd old absent
  · exact ⟨recovery, absent⟩

theorem recordable (recorded : ∀ key ∈ pendingCalls before.runEvents.rows, ∃ row ∈ db.runEvents.rows,
      row.isInterrupted ∧ row.key = key) : Recordable before := by
  refine ⟨?_, ?_, ?_⟩
  · intro key pending eventId named
    obtain ⟨row, member, marked, rfl⟩ := recorded key pending
    obtain ⟨recovery, absent⟩ := grown.recovery member marked pending
    rw [Database.hasEventId_false]
    intro stored present same
    have equal : stored = row := eq_of_conflict (grown.kept stored present) member (by
      rw [recovery.eventId, some.injEq] at named
      simp [runEventsSchema, same, named])
    exact absent (equal ▸ present)
  · intro a first b second same
    obtain ⟨rowA, memberA, markedA, rfl⟩ := recorded a first
    obtain ⟨rowB, memberB, markedB, rfl⟩ := recorded b second
    have recoveryA := (grown.recovery memberA markedA first).1
    have recoveryB := (grown.recovery memberB markedB second).1
    rw [recoveryA.eventId, recoveryB.eventId, some.injEq] at same
    rw [eq_of_conflict memberA memberB (by simp [runEventsSchema, same])]
  · intro key pending call named
    obtain ⟨row, member, marked, rfl⟩ := recorded key pending
    obtain ⟨recovery, _⟩ := grown.recovery member marked pending
    obtain ⟨own, called, payload⟩ := recovery.payload
    rw [named, some.injEq] at called
    have checked := db.runEvents.checked row member
    simpa [runEventsSchema, payload, ← called] using checked

end

end Grown

section Answers

variable {db : Database} {events : List EventRow} {now : Int} {limit : Nat}

def MessageRow.answers (row : MessageRow) (key : CallKey) : Bool :=
  row.runId == key.runId &&
    match row.content with
    | .json (.arr blocks) => blocks.any (fun block =>
      decide (block.get? "type" = some (.str "tool_result")) &&
        decide (jsonExtract "tool_call_id" block = key.call))
    | _ => false

def answerFits (call : SqlValue) : Bool := decide ((answerContent call).render.length ≤ maxTextLength)

theorem answerRow_eq_some {row : MessageRow} (built : answerRow db now entry = some row) :
    (∀ key, row.answers key ↔ key = entry.1) ∧ recoveryId "recovery-msg:" entry.1 = some row.id ∧
      (∃ call, entry.1.call = some call ∧ messagesSchema.check row = answerFits call) ∧
      row.sessionId = db.sessionOf entry.1.runId ∧
      row.ordinal = db.maxOrdinal (db.sessionOf entry.1.runId) + entry.2 := by
  rcases entry with ⟨⟨run, call⟩, number⟩
  cases call with
  | none => simp [answerRow] at built
  | some call =>
    simp only [answerRow, recoveryId, Option.map_some, Option.bind_eq_bind, Option.bind_some, Option.pure_def,
      some.injEq] at built
    subst built
    refine ⟨fun key => ?_, rfl, ⟨call, rfl, ?_⟩, rfl, rfl⟩
    case refine_2 =>
      have metadata : (obj [("interrupted_effect", .bool true)]).render.length ≤ maxTextLength := by decide
      simp [messagesSchema, answerFits, JsonText.text, metadata]
      rfl
    rcases key with ⟨other, called⟩
    have extracted : jsonExtract "tool_call_id" (.obj [("type", .str "tool_result"), ("tool_call_id", call.json),
        ("content", .str ""), ("is_error", .bool true),
        ("error", .obj [("code", .str "interrupted_effect"), ("message", .str "effect interrupted by restart")]),
        ("truncated", .bool false)]) = some call := by
      cases call <;> simp [jsonExtract, get?, SqlValue.json]
    simp only [MessageRow.answers, answerContent, any_cons, any_nil, extracted]
    simp only [get?, find?_cons, beq_self_eq_true, map_some, decide_true, Bool.true_and,
      Bool.or_false, Bool.and_eq_true, beq_iff_eq, decide_eq_true_eq, CallKey.mk.injEq]
    constructor <;> rintro ⟨rfl, rfl⟩ <;> exact ⟨rfl, rfl⟩

theorem mem_answerEntries {key : CallKey} :
    (∃ number, (key, number) ∈ answerEntries db events limit) ↔ key ∈ (interruptedCalls db events).take limit :=
  mem_rowNumbers_orderBy fun key : CallKey => db.sessionOf key.runId

theorem answerRows_conflict {a b : MessageRow} (first : a ∈ db.messages.rows ∨ a ∈ answerRows db events now limit)
    (second : b ∈ answerRows db events now limit) : messagesSchema.conflict a b ↔ a.id = b.id := by
  obtain ⟨entryB, listedB, builtB⟩ := mem_filterMap.mp second
  obtain ⟨_, _, _, sessionB, ordinalB⟩ := answerRow_eq_some builtB
  have slots : a.sessionId = b.sessionId → a.ordinal = b.ordinal → a.id = b.id := by
    intro session ordinal
    rcases first with stored | listed
    · have bound : a.ordinal ≤ db.maxOrdinal b.sessionId :=
        le_maxOrZero (mem_map_of_mem (Database.mem_messagesOf.mpr ⟨stored, session⟩))
      have positive := rowNumbers_lower (fun key : CallKey => db.sessionOf key.runId) listedB
      simp only [countP_nil] at positive
      rw [sessionB] at bound
      omega
    · obtain ⟨entryA, listedA, builtA⟩ := mem_filterMap.mp listed
      obtain ⟨_, _, _, sessionA, ordinalA⟩ := answerRow_eq_some builtA
      have part : db.sessionOf entryA.1.runId = db.sessionOf entryB.1.runId := by rw [← sessionA, session, sessionB]
      have same : entryA = entryB := by
        refine rowNumbers_inj (fun key : CallKey => db.sessionOf key.runId) listedA listedB part ?_
        rw [ordinalA, ordinalB, part] at ordinal
        omega
      rw [same, builtB, some.injEq] at builtA
      rw [builtA]
  simp only [messagesSchema, Bool.or_eq_true, beq_iff_eq, Bool.and_eq_true]
  exact ⟨fun clash => clash.elim id fun slot => slots slot.1 slot.2, .inl⟩

end Answers

def Blocked (db : Database) (key : CallKey) : Prop :=
  ∀ call messageId, key.call = some call → recoveryId "recovery-msg:" key = some messageId →
    answerFits call = false ∨ ∃ stored ∈ db.messages.rows, stored.id = messageId

variable {db next : Database}

theorem blocked_of_unbuilt {now : Int} (unbuilt : answerRow db now entry = none) : Blocked next entry.1 := by
  rcases entry with ⟨⟨run, call⟩, number⟩
  cases call with
  | none => exact fun _ _ named => by cases named
  | some call => cases unbuilt

theorem answerRow_accepts_iff {events : List EventRow} {now : Int} {limit : Nat} {row : MessageRow}
    (origin : ∀ stored ∈ next.messages.rows, stored ∈ db.messages.rows ∨ stored ∈ answerRows db events now limit)
    (listed : entry ∈ answerEntries db events limit) (built : answerRow db now entry = some row) :
    next.messages.accepts row ↔ ¬Blocked next entry.1 := by
  obtain ⟨_, id, ⟨call, named, checked⟩, _⟩ := answerRow_eq_some built
  have present : row ∈ answerRows db events now limit := mem_filterMap.mpr ⟨_, listed, built⟩
  have blocked : Blocked next entry.1 ↔
      answerFits call = false ∨ ∃ stored ∈ next.messages.rows, stored.id = row.id := by
    refine ⟨fun blocked => blocked call row.id named id, fun blocked _ _ other text => ?_⟩
    rwa [← some.inj (named.symm.trans other), ← some.inj (id.symm.trans text)]
  simp only [blocked, accepts_iff, checked, not_or, Bool.not_eq_false, not_exists, not_and]
  refine and_congr_right fun _ => forall₂_congr fun stored member => ?_
  rw [← Bool.not_eq_true, answerRows_conflict (origin stored member) present]

theorem answerRow_conflict_iff {events : List EventRow} {now : Int} {limit : Nat} {other : CallKey × Int}
    {row held : MessageRow} (early : other ∈ answerEntries db events limit) (made : answerRow db now other = some held)
    (listed : entry ∈ answerEntries db events limit) (built : answerRow db now entry = some row) :
    messagesSchema.conflict held row ↔ recoveryId "recovery-msg:" other.1 = recoveryId "recovery-msg:" entry.1 := by
  rw [answerRows_conflict (.inr (mem_filterMap.mpr ⟨_, early, made⟩)) (mem_filterMap.mpr ⟨_, listed, built⟩),
    (answerRow_eq_some made).2.1, (answerRow_eq_some built).2.1, some.injEq]

theorem interruptedCalls_congr {a b : Database} (same : a.runs = b.runs) (events : List EventRow) :
    interruptedCalls a events = interruptedCalls b events := by
  simp [interruptedCalls, interruptedEvents, Database.hasRun, same]

theorem round_blocked {now : Int} {key : CallKey}
    (member : key ∈ (interruptedCalls db (storageEffectReconcile db now maxRows).1.runEvents.rows).take
      (reconcileLimit maxRows)) : Blocked (storageEffectReconcile db now maxRows).1 key := by
  -- a round leaves none of the calls it answers with a storable message
  obtain ⟨number, listed⟩ := mem_answerEntries.mpr member
  cases built : answerRow db now (key, number) with
  | none => exact blocked_of_unbuilt built
  | some row =>
    have present : row ∈ answerRows db _ now (reconcileLimit maxRows) := mem_filterMap.mpr ⟨_, listed, built⟩
    have refused := insertEachOrIgnore_accepts db.messages (by simp [messagesSchema]) present
    rw [← storageEffectReconcile_messages] at refused
    by_contra free
    have accepted := (answerRow_accepts_iff (fun stored inside => ?_) listed built).mpr free
    · simp [refused] at accepted
    · rw [storageEffectReconcile_messages] at inside
      exact mem_insertEachOrIgnore inside

def Database.Owned (db : Database) : Prop := ∀ row ∈ db.runEvents.rows, db.hasRun row.runId = true

structure Stable (db : Database) : Prop where
  recordable : Recordable db
  owned : db.Owned
  blocked : ∀ key ∈ (interruptedCalls db db.runEvents.rows).take (reconcileLimit recoveryBatchRows), Blocked db key
  crowded : ∀ key ∈ pendingCalls db.runEvents.rows, reconcileLimit recoveryBatchRows ≤
    (interruptedCalls db db.runEvents.rows).countP (fun other => decide (other < key))

theorem pending_hasRun (owned : db.Owned) {key : CallKey}
    (pending : key ∈ pendingCalls db.runEvents.rows) : db.hasRun key.runId := by
  obtain ⟨⟨row, member, _, rfl⟩, _⟩ := mem_pendingCalls.mp pending
  exact owned row member

theorem Recordable.round_owned {now : Int} (ready : Recordable db) (owned : db.Owned) :
    (storageEffectReconcile db now maxRows).1.Owned := by
  intro row member
  rw [ready.round_rows] at member
  have known : db.hasRun row.runId := by
    rcases mem_append.mp member with old | new
    · exact owned row old
    · exact pending_hasRun owned (mem_of_mem_take (mem_effectRows_pending new).2)
  simpa [Database.hasRun] using known

theorem Recordable.round_interrupted (ready : Recordable db) (owned : db.Owned) (now maxRows : Int)
    (key : CallKey) :
    key ∈ interruptedCalls (storageEffectReconcile db now maxRows).1
        (storageEffectReconcile db now maxRows).1.runEvents.rows ↔
      key ∈ interruptedCalls db db.runEvents.rows ∨
        key ∈ (pendingCalls db.runEvents.rows).take (reconcileLimit maxRows) := by
  rw [interruptedCalls_congr (storageEffectReconcile_runs db now maxRows), ready.round_rows,
    mem_interruptedCalls_effectRows]
  refine or_congr_right (and_iff_left_of_imp fun batch => ?_)
  exact pending_hasRun owned (mem_of_mem_take batch)

theorem Recordable.stable (ready : Recordable db) (owned : db.Owned) (now : Int) :
    Stable (storageEffectReconcile db now recoveryBatchRows).1 := by
  refine ⟨ready.round, ready.round_owned owned, fun key member => ?_, fun key member => ?_⟩
  · rw [interruptedCalls_congr (storageEffectReconcile_runs db now recoveryBatchRows)] at member
    exact round_blocked member
  · -- A call that is still pending comes after a full batch, and the batch is interrupted by now.
    rw [ready.round_pending] at member
    have later : ∀ other ∈ (pendingCalls db.runEvents.rows).take (reconcileLimit recoveryBatchRows), other < key := by
      intro other early
      have sorted := pendingCalls_sorted db.runEvents.rows
      rw [← take_append_drop (reconcileLimit recoveryBatchRows) (pendingCalls db.runEvents.rows)] at sorted
      exact (pairwise_append.mp sorted).2.2 other early key member
    have full : ((pendingCalls db.runEvents.rows).take (reconcileLimit recoveryBatchRows)).length =
        reconcileLimit recoveryBatchRows := by
      have rest := length_pos_of_mem member
      rw [length_drop] at rest
      rw [length_take]
      omega
    have counted : ((pendingCalls db.runEvents.rows).take (reconcileLimit recoveryBatchRows)).countP
        (fun other => decide (other < key)) = reconcileLimit recoveryBatchRows :=
      (countP_eq_length.mpr (by simpa using later)).trans full
    refine counted.ge.trans (countP_le_of_subset ((pendingCalls_nodup _).sublist (take_sublist _ _)) _
      fun other early _ => (ready.round_interrupted owned now recoveryBatchRows other).mpr (.inr early))

namespace Stable

variable {db : Database} {now : Int}

theorem take_interrupted (stable : Stable db) (now : Int) :
    (interruptedCalls db (storageEffectReconcile db now recoveryBatchRows).1.runEvents.rows).take
        (reconcileLimit recoveryBatchRows) =
      (interruptedCalls db db.runEvents.rows).take (reconcileLimit recoveryBatchRows) := by
  have members := stable.recordable.round_interrupted stable.owned now recoveryBatchRows
  rw [interruptedCalls_congr (storageEffectReconcile_runs db now recoveryBatchRows)] at members
  refine take_eq_of_crowded (interruptedCalls_sorted _ _) (interruptedCalls_sorted _ _)
    (fun key old => (members key).mpr (.inl old)) fun key member new => ?_
  have batch := ((members key).mp member).resolve_left new
  exact stable.crowded key (mem_of_mem_take batch)

theorem round_messages (stable : Stable db) :
    (storageEffectReconcile db now recoveryBatchRows).1.messages = db.messages := by
  refine ext_rows ?_
  rw [storageEffectReconcile_messages, insertEachOrIgnore_rows, acceptedRows_eq_nil, append_nil]
  intro row listed
  obtain ⟨entry, member, built⟩ := mem_filterMap.mp listed
  rw [← Bool.not_eq_true, answerRow_accepts_iff (fun _ => .inl) member built, not_not]
  refine stable.blocked entry.1 ?_
  rw [← stable.take_interrupted now]
  exact mem_answerEntries.mp ⟨entry.2, member⟩

end Stable

structure Converged (before after : Database) : Prop where
  stable : Stable after
  done : pendingCalls after.runEvents.rows = []
  unbroken : ∀ run, Unbroken (before.seqs run) → Unbroken (after.seqs run)

def RoundsConverge (clock : Nat → Int) (fuel done : Nat) (db : Database) : Prop :=
  ∃ after, reconcileRounds clock fuel done db = (after, .ok ()) ∧
    after.messages = (storageEffectReconcile db (clock done) recoveryBatchRows).1.messages ∧ Converged db after

theorem reconcileLimit_pos : 0 < reconcileLimit recoveryBatchRows := by decide

section Loop

variable {db : Database} (ready : Recordable db) (owned : db.Owned) (clock : Nat → Int)
include ready owned

omit owned in
theorem Recordable.progress (now : Int) (some : 0 < (pendingCalls db.runEvents.rows).length) :
    (storageEffectReconcile db now recoveryBatchRows).2 ≠ 0 := by
  have batch := reconcileLimit_pos
  rw [ready.round_affected]
  omega

theorem Recordable.rounds_of_empty (fuel done : Nat) (empty : pendingCalls db.runEvents.rows = []) :
    RoundsConverge clock (fuel + 1) done db := by
  refine ⟨_, ?_, rfl, ready.stable owned (clock done), ?_, fun run => ready.round_unbroken run⟩
  · rw [reconcileRounds]
    simp [ready.round_affected, empty]
  · simp [ready.round_pending, empty]

theorem Recordable.rounds (fuel done : Nat)
    (few : (pendingCalls db.runEvents.rows).length ≤ reconcileLimit recoveryBatchRows * fuel) :
    RoundsConverge clock (fuel + 1) done db := by
  induction fuel generalizing db done with
  | zero => exact ready.rounds_of_empty owned clock 0 done (length_eq_zero_iff.mp (by simpa using few))
  | succ fuel ih =>
    by_cases empty : pendingCalls db.runEvents.rows = []
    · exact ready.rounds_of_empty owned clock (fuel + 1) done empty
    · have stable := ready.stable owned (clock done)
      have fewer : (pendingCalls (storageEffectReconcile db (clock done) recoveryBatchRows).1.runEvents.rows).length ≤
          reconcileLimit recoveryBatchRows * fuel := by
        rw [ready.round_pending, length_drop]
        rw [Nat.mul_succ] at few
        omega
      obtain ⟨after, ended, messages, converged⟩ := ih stable.recordable stable.owned (done + 1) fewer
      refine ⟨after, ?_, messages.trans stable.round_messages, converged.stable, converged.done, fun run block => ?_⟩
      · rw [reconcileRounds]
        simp only [if_neg (ready.progress (clock done) (length_pos_of_ne_nil empty)), ended]
      · exact converged.unbroken run (ready.round_unbroken run block)

end Loop

structure Reconciled (before after : Database) : Prop where
  failedOnce : ∀ key ∈ pendingCalls before.runEvents.rows,
    after.runEvents.rows.countP (fun row => row.isInterrupted && decide (row.key = key)) = 1
  answeredOnce : ∀ key ∈ pendingCalls before.runEvents.rows,
    after.messages.rows.countP (fun row => row.answers key) = 1
  eventsKept : ∀ row ∈ before.runEvents.rows, row ∈ after.runEvents.rows
  messagesKept : ∀ row ∈ before.messages.rows, row ∈ after.messages.rows
  eventsAdded : ∀ row ∈ after.runEvents.rows, row ∉ before.runEvents.rows →
    row.key ∈ pendingCalls before.runEvents.rows
  messagesAdded : ∀ row ∈ after.messages.rows, row ∉ before.messages.rows →
    ∃ key ∈ pendingCalls before.runEvents.rows, row.answers key = true
  unbroken : ∀ run, Unbroken (before.seqs run) → Unbroken (after.seqs run)

def LoadReconciles (clock : Nat → Int) (db : Database) : Prop :=
  ∃ after, reconcileEffects clock db = (after, .ok ()) ∧ Reconciled db after ∧
    ∀ later, (reconcileEffects later after).1.runEvents = after.runEvents ∧
      (reconcileEffects later after).1.messages = after.messages

def failedSeq (db : Database) (key : CallKey) : Int :=
  minOrZero (((interruptedEvents db db.runEvents.rows).filter fun row => row.key = key).map seq ++
    ((effectEntries db (reconcileLimit recoveryBatchRows)).filter fun entry => entry.1 = key).map fun entry =>
      db.maxSeq entry.1.runId + entry.2)

def answerOrder (db : Database) : List CallKey :=
  orderBy (fun key => toLex ((db.sessionOf key.runId).toList, failedSeq db key))
    ((groupKeys (interruptedCalls db db.runEvents.rows ++
      (pendingCalls db.runEvents.rows).take (reconcileLimit recoveryBatchRows))).take
        (reconcileLimit recoveryBatchRows))

def Storable (db : Database) (key : CallKey) : Prop :=
  ¬Blocked db key ∧ ∃ earlier later, answerOrder db = earlier ++ key :: later ∧
    ∀ other ∈ earlier, recoveryId "recovery-msg:" other = recoveryId "recovery-msg:" key → Blocked db other

theorem Converged.quiet {before after : Database} (converged : Converged before after) (later : Nat → Int) :
    (reconcileEffects later after).1.runEvents = after.runEvents ∧
      (reconcileEffects later after).1.messages = after.messages := by
  have ready := converged.stable.recordable
  have rows : (storageEffectReconcile after (later 0) recoveryBatchRows).1.runEvents = after.runEvents := by
    refine ext_rows ?_
    have none : (effectRows after (later 0) (reconcileLimit recoveryBatchRows)).length = 0 := by
      rw [effectRows_length, converged.done]
      simp
    rw [ready.round_rows, length_eq_zero_iff.mp none, append_nil]
  have stop : (storageEffectReconcile after (later 0) recoveryBatchRows).2 = 0 := by
    simp [ready.round_affected, converged.done]
  have once : reconcileEffects later after =
    ((storageEffectReconcile after (later 0) recoveryBatchRows).1, .ok ()) := by
    rw [reconcileEffects, reconcileRounds]
    simp [stop]
  rw [once]
  exact ⟨rows, converged.stable.round_messages⟩

section Outcome

variable {db after : Database} {now : Int} {key : CallKey}

def staged (db : Database) (now : Int) : List EventRow :=
  db.runEvents.rows ++ effectRows db now (reconcileLimit recoveryBatchRows)

theorem answerEntries_staged (owned : db.Owned) (now : Int) :
    (answerEntries db (staged db now) (reconcileLimit recoveryBatchRows)).map Prod.fst = answerOrder db := by
  have calls : interruptedCalls db (staged db now) = groupKeys (interruptedCalls db db.runEvents.rows ++
      (pendingCalls db.runEvents.rows).take (reconcileLimit recoveryBatchRows)) := by
    refine eq_of_sorted (interruptedCalls_sorted _ _) (groupKeys_sorted _) fun key => ?_
    rw [staged, mem_interruptedCalls_effectRows, mem_groupKeys, mem_append]
    exact or_congr_right (and_iff_left_of_imp fun batch => pending_hasRun owned (mem_of_mem_take batch))
  have seqs : groupSeq (interruptedEvents db (staged db now)) = failedSeq db := by
    funext key
    have effects := @effectRows_seqs db now (reconcileLimit recoveryBatchRows)
      (fun row => decide (row.key = key) && (row.isInterrupted && db.hasRun row.runId))
      (fun other => decide (other = key)) fun recovery pending => by
        simp [recovery.isInterrupted, recovery.owner, recovery.runId, pending_hasRun owned pending]
    rw [groupSeq, failedSeq, interruptedEvents, staged, filter_append, filter_append, map_append, ← effects]
    simp only [interruptedEvents, List.filter_filter]
  rw [answerEntries, rowNumbers_fst, calls, seqs, answerOrder]

def storedAnswers (db : Database) (now : Int) : List MessageRow :=
  db.messages.acceptedRows (answerRows db (staged db now) now (reconcileLimit recoveryBatchRows))

theorem Recordable.round_messages (ready : Recordable db) :
    (storageEffectReconcile db now recoveryBatchRows).1.messages.rows = db.messages.rows ++ storedAnswers db now := by
  rw [storageEffectReconcile_messages, ready.round_rows, insertEachOrIgnore_rows]
  rfl

theorem mem_storedAnswers_iff {row : MessageRow} : row ∈ storedAnswers db now ↔
    db.messages.FirstFree (answerRows db (staged db now) now (reconcileLimit recoveryBatchRows)) row := by
  refine mem_acceptedRows (by simp [messagesSchema]) fun a first b second c third ab bc => ?_
  rw [answerRows_conflict first second] at ab
  rw [answerRows_conflict (.inr second) third] at bc
  exact (answerRows_conflict first third).mpr (ab.trans bc)

section

variable (owned : db.Owned)
include owned

theorem Storable.stored (storable : Storable db key) : ∃ row ∈ storedAnswers db now, row.answers key := by
  obtain ⟨free, earlier, later, order, first⟩ := storable
  rw [← answerEntries_staged owned now] at order
  obtain ⟨before, rest, split, rfl, cut⟩ := map_eq_append_iff.mp order
  obtain ⟨entry, after, rfl, rfl, rfl⟩ := map_eq_cons_iff.mp cut
  have listed : entry ∈ answerEntries db (staged db now) (reconcileLimit recoveryBatchRows) := by simp [split]
  cases built : answerRow db now entry with
  | none => exact absurd (blocked_of_unbuilt built) free
  | some row =>
    refine ⟨row, mem_storedAnswers_iff.mpr ⟨before.filterMap (answerRow db now), after.filterMap (answerRow db now), ?_,
      (answerRow_accepts_iff (fun _ => .inl) listed built).mpr free, fun held early passes => ?_⟩,
      ((answerRow_eq_some built).1 _).mpr rfl⟩
    · rw [answerRows, split, filterMap_append, filterMap_cons_some built]
    · obtain ⟨other, member, made⟩ := mem_filterMap.mp early
      obtain ⟨_, id, ⟨call, named, checked⟩, _⟩ := answerRow_eq_some made
      rw [← Bool.not_eq_true, answerRow_conflict_iff (by simp [split, member]) made listed built]
      -- an earlier call with the same id is blocked by its size, since the id itself is free
      intro same
      rcases first other.1 (mem_map_of_mem member) same call held.id named id with long | stored
      · simp [checked, long] at passes
      · exact free fun _ _ _ text => .inr (by rwa [← some.inj (id.symm.trans (same.trans text))])

end

theorem Grown.failedOnce (grown : Grown db after) (done : pendingCalls after.runEvents.rows = [])
    (pending : key ∈ pendingCalls db.runEvents.rows) :
    after.runEvents.rows.countP (fun row => row.isInterrupted && decide (row.key = key)) = 1 := by
  obtain ⟨⟨row, member, opens, same⟩, named, filled, unclosed⟩ := mem_pendingCalls.mp pending
  have closed : closedIn after.runEvents.rows key := by
    by_contra open_
    have still := mem_pendingCalls.mpr ⟨⟨row, grown.kept row member, opens, same⟩, named, filled,
      by simpa using open_⟩
    simp [done] at still
  obtain ⟨closing, present, closes, own⟩ := closedIn_iff.mp closed
  have recovery : RecoveryEvent closing key := by
    rcases grown.added closing present with old | ⟨recovery, _⟩
    · have contradiction := closedIn_iff.mpr ⟨closing, old, closes, own⟩
      simp [unclosed] at contradiction
    · exact own ▸ recovery
  refine countP_eq_one (by simp [runEventsSchema]) present (by simp [recovery.isInterrupted, own]) ?_
  intro other inside marked
  rw [Bool.and_eq_true, decide_eq_true_eq] at marked
  obtain ⟨second, _⟩ := grown.recovery inside marked.1 (marked.2 ▸ pending)
  rw [marked.2] at second
  refine eq_of_conflict inside present ?_
  have ids := second.eventId.symm.trans recovery.eventId
  rw [some.injEq] at ids
  simp [runEventsSchema, ids]

end Outcome

theorem LoadReconciles.recordable {clock : Nat → Int} {db : Database} (loaded : LoadReconciles clock db) :
    Recordable db := by
  obtain ⟨after, ended, reconciled, _⟩ := loaded
  have grown := (Grown.refl db).rounds clock 10000 0
  rw [show reconcileRounds clock 10000 0 db = (after, .ok ()) from ended] at grown
  refine grown.recordable fun key pending => ?_
  have once := reconciled.failedOnce key pending
  obtain ⟨row, member, marked⟩ := countP_pos_iff.mp (once ▸ Nat.one_pos)
  rw [Bool.and_eq_true, decide_eq_true_eq] at marked
  exact ⟨row, member, marked⟩

section Crashes

def longCall (last : Char) : String := String.ofList (replicate 120 'x' ++ [last])

end Crashes

end RustScriptAgent.Storage
