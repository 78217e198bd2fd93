import RustScriptAgent.Shared.Marks
import RustScriptAgent.Storage.Messages

namespace RustScriptAgent.Storage

open Relational Sequences Table CompactionStartInput CompactionRow List

variable {table : Table compactionsSchema} {payload : Json}

theorem compactionsSchema_self (row : CompactionRow) : compactionsSchema.conflict row row := by
  simp [compactionsSchema]

theorem compaction_unique {a b : CompactionRow} (first : a ∈ table.rows)
    (second : b ∈ table.rows) (same : a.id = b.id ∨ a.sessionId = b.sessionId ∧ a.generation = b.generation) :
    a = b := by
  refine eq_of_conflict first second ?_
  simpa [compactionsSchema] using same

namespace CompactionStartInput

variable {input : CompactionStartInput} {host : Host} {db next : Database}

theorem resume_apply (fits : input.summaryJson.length ≤ maxTextLength) {row : CompactionRow}
    (id : row.id = input.id) (session : row.sessionId = input.sessionId)
    (generation : row.generation = input.generation) : (input.resume fits).apply row = input.row := by
  simp [resume, CompactionStartInput.row, id, session, generation]

structure Opens (input : CompactionStartInput) (db next : Database) : Prop where
  frame : next = { db with compactions := next.compactions }
  committed : next.compactions.rows.filter CompactionRow.isCommitted =
    db.compactions.rows.filter CompactionRow.isCommitted
  pending : ∀ row ∈ next.compactions.rows, row.state = .pending →
    row ∈ db.compactions.rows ∨ row = input.row ∧ input.admissible db = true

theorem Opens.refl (input : CompactionStartInput) (db : Database) : input.Opens db db :=
  ⟨rfl, rfl, fun _ member _ => .inl member⟩

theorem upsert_opens (admissible : input.admissible db)
    (ok : input.upsert db = .ok table) : input.Opens db { db with compactions := table } := by
  unfold upsert at ok
  split_ifs at ok with fits known
  · cases ok
    refine ⟨rfl, ?_, fun row member waiting => ?_⟩
    · -- the rows that are rewritten were failed and become pending
      simp only [update_rows]
      rw [filter_map]
      have same : (isCommitted ∘ fun row : CompactionRow =>
          if (row.sessionId == input.sessionId && decide (row.generation = input.generation) &&
            decide (row.state = .failed) && row.id == input.id) then (input.resume fits).apply row else row) =
          isCommitted := by
        funext row
        simp only [Function.comp_apply, isCommitted]
        split_ifs with chosen
        · simp only [Bool.and_eq_true, decide_eq_true_eq] at chosen
          simp [chosen.1.2, resume]
        · rfl
      rw [same]
      refine (map_congr_left fun row member => ?_).trans (map_id _)
      rw [mem_filter, isCommitted, decide_eq_true_eq] at member
      exact if_neg (by simp [member.2])
    · simp only [update_rows, mem_map] at member
      obtain ⟨old, stored, rfl⟩ := member
      split_ifs at waiting ⊢ with chosen
      · simp only [Bool.and_eq_true, beq_iff_eq, decide_eq_true_eq] at chosen
        exact .inr ⟨resume_apply fits chosen.2 chosen.1.1.1 chosen.1.1.2, admissible⟩
      · exact .inl stored
  · split at ok <;> cases ok
    rename_i table inserted
    have rows := (insert?_eq_some.mp inserted).2
    refine ⟨rfl, ?_, fun row member waiting => ?_⟩
    · simp [rows, isCommitted, row]
    · simp only [rows, mem_append, mem_singleton] at member
      exact member.imp_right fun same => ⟨same, admissible⟩

theorem compactionStartInsert_opens : input.Opens db (compactionStartInsert host db input).1 := by
  unfold compactionStartInsert
  split_ifs with refused admissible
  · exact Opens.refl input db
  · cases outcome : input.upsert db with
    | error error => exact Opens.refl input db
    | ok table =>
      dsimp only
      split <;> exact upsert_opens admissible outcome
  · dsimp only
    split <;> exact Opens.refl input db

end CompactionStartInput

theorem storageCompactionStart_opens {host : Host} {db : Database} {input : CompactionStartInput}
    (decoded : decode? payload = some input) :
    input.Opens db (storageCompactionStart host db payload).1 := by
  unfold storageCompactionStart
  rw [decoded]
  dsimp only
  split_ifs
  · exact CompactionStartInput.Opens.refl input db
  · exact CompactionStartInput.Opens.refl input db
  · split
    · exact compactionStartInsert_opens
    · split
      · exact CompactionStartInput.Opens.refl input db
      · split_ifs <;> exact CompactionStartInput.Opens.refl input db
      · split_ifs
        · exact compactionStartInsert_opens
        · exact CompactionStartInput.Opens.refl input db

namespace CompactionStartInput

variable {input : CompactionStartInput} {host : Host} {db : Database}

structure Guarded (input : CompactionStartInput) (db : Database) : Prop where
  session : db.sessions.rows.any (fun row => row.id == input.sessionId &&
    decide (row.generation + 1 = input.generation)) = true
  run : db.runs.rows.any (fun row => row.id == input.runId && row.sessionId == input.sessionId &&
    decide (row.status = .compacting)) = true
  range : 0 ≤ input.sourceStartOrdinal ∧ input.sourceStartOrdinal ≤ input.sourceEndOrdinal ∧
    input.sourceStartOrdinal ≤ input.retainedTailOrdinal ∧ input.retainedTailOrdinal ≤ input.sourceEndOrdinal
  first : db.hasOrdinal input.sessionId input.sourceStartOrdinal = true
  last : db.hasOrdinal input.sessionId input.sourceEndOrdinal = true

def OwnsId (input : CompactionStartInput) (db : Database) : Prop :=
  ∀ row ∈ db.compactions.rows,
    row.id = input.id ↔ row.sessionId = input.sessionId ∧ row.generation = input.generation

instance decidableOwnsId (input : CompactionStartInput) (db : Database) : Decidable (input.OwnsId db) :=
  inferInstanceAs (Decidable (∀ row ∈ db.compactions.rows, _))

def Fits (host : Host) (input : CompactionStartInput) : Prop :=
  host.acceptsParameters [input.id, input.sessionId, input.runId, input.summaryJson, input.model] = true ∧
    input.summaryJson.length ≤ maxTextLength ∧ selectCompactions [input.row] = [input.row]

instance decidableFits (host : Host) (input : CompactionStartInput) : Decidable (input.Fits host) :=
  inferInstanceAs (Decidable (_ ∧ _))

theorem selectCompactions_isPrefix (rows : List CompactionRow) : selectCompactions rows <+: rows :=
  (takeWithin_isPrefix _ _ _).trans (List.take_prefix _ _)

theorem selectCompactions_singleton (row : CompactionRow) :
    selectCompactions [row] = [row] ∨ selectCompactions [row] = [] := by
  have short := selectCompactions_isPrefix [row]
  rcases found : selectCompactions [row] with _ | ⟨first, rest⟩
  · exact .inr rfl
  · rw [found, cons_prefix_cons, prefix_nil] at short
    exact .inl (by rw [short.1, short.2])

theorem fits_of_bytes (input : CompactionStartInput) (accepted : host.acceptsParameters
      [input.id, input.sessionId, input.runId, input.summaryJson, input.model])
    (small : cellBytes input.row.cells ≤ maxTextLength) : input.Fits host := by
  have summary : input.summaryJson.utf8ByteSize ≤ cellBytes input.row.cells := by
    simp only [cellBytes, cells, row, map_cons, sum_cons, Cell.bytes]
    omega
  have columns : maxTextLength ≤ terminalResultBytes - columnBytes compactionColumns := by decide +kernel
  refine ⟨accepted, (Json.length_le_utf8ByteSize _).trans (summary.trans small), ?_⟩
  rw [selectCompactions, boundedRows, take_of_length_le (by simp [terminalResultRows]), takeWithin_eq_self_iff]
  simpa using small.trans columns

theorem Guarded.admissible (guarded : input.Guarded db) : input.admissible db ↔
      ∀ row ∈ db.compactions.rows, row.id = input.id → row.sessionId = input.sessionId := by
  simp [CompactionStartInput.admissible, guarded.session, guarded.run, guarded.range, guarded.first,
    guarded.last]

theorem Guarded.known (guarded : input.Guarded db) :
    db.hasSession input.sessionId ∧ db.hasRun input.runId := by
  have session := guarded.session
  have run := guarded.run
  simp only [any_eq_true, Bool.and_eq_true] at session run
  obtain ⟨row, member, own, _⟩ := session
  obtain ⟨other, present, ⟨same, _⟩, _⟩ := run
  exact ⟨any_eq_true.mpr ⟨row, member, own⟩, any_eq_true.mpr ⟨other, present, same⟩⟩

theorem upsert_of_owned (owned : input.OwnsId db) (fits : input.summaryJson.length ≤ maxTextLength)
    (ended : ∀ row ∈ db.compactions.rows, row.sessionId = input.sessionId → row.generation = input.generation →
      row.state = .failed) :
    ∃ table, input.upsert db = .ok table ∧ input.row ∈ table.rows := by
  -- under its own identifier the upsert leaves the input's row, inserted or resumed
  unfold upsert
  rw [dif_pos fits]
  split_ifs with known
  · simp only [any_eq_true, Bool.and_eq_true, beq_iff_eq, decide_eq_true_eq] at known
    obtain ⟨row, member, session, generation⟩ := known
    have id := (owned row member).mpr ⟨session, generation⟩
    refine ⟨_, rfl, ?_⟩
    rw [update_rows, mem_map]
    refine ⟨row, member, ?_⟩
    rw [if_pos (by simp [session, generation, id, ended row member session generation])]
    exact resume_apply fits id session generation
  · -- no row of the generation, so none of the identifier either: the insert meets no conflict
    have apart : ∀ row ∈ db.compactions.rows,
      ¬(row.sessionId = input.sessionId ∧ row.generation = input.generation) := by
      simpa using known
    have accepted : db.compactions.accepts input.row := by
      rw [accepts_iff]
      refine ⟨by simpa [compactionsSchema, CompactionStartInput.row] using fits, fun row member => ?_⟩
      have other : row.id ≠ input.id := fun same => apart row member ((owned row member).mp same)
      have elsewhere := apart row member
      simp only [compactionsSchema, CompactionStartInput.row, Bool.or_eq_false_iff, beq_eq_false_iff_ne, ne_eq, other,
        not_false_eq_true, true_and, Bool.and_eq_false_iff]
      exact not_and_or.mp elsewhere
    cases inserted : db.compactions.insert? input.row with
    | none =>
      rw [insert?_eq_none] at inserted
      simp [inserted] at accepted
    | some table =>
      refine ⟨table, rfl, ?_⟩
      simp [(insert?_eq_some.mp inserted).2]

theorem select_own (member : input.row ∈ table.rows) :
    table.rows.filter (fun row => row.id == input.id && row.sessionId == input.sessionId) = [input.row] := by
  refine filter_eq_singleton compactionsSchema_self member (by simp [row]) ?_
  intro other present same
  simp only [Bool.and_eq_true, beq_iff_eq] at same
  exact compaction_unique present member (.inl same.1)

section Restart

variable (guarded : input.Guarded db)
  (ended : ∀ row ∈ db.compactions.rows, row.sessionId = input.sessionId → row.generation = input.generation →
    row.state = .failed)
include guarded ended

theorem compactionStartInsert_of_owned (host : Host) (owned : input.OwnsId db) :
    if input.Fits host then
      ∃ table : Table compactionsSchema, input.row ∈ table.rows ∧
        compactionStartInsert host db input = ({ db with compactions := table }, .ok [input.row])
    else ∃ next error, compactionStartInsert host db input = (next, .error error) := by
  have admissible : input.admissible db :=
    guarded.admissible.mpr fun row member same => ((owned row member).mp same).1
  unfold compactionStartInsert
  cases accepted : host.acceptsParameters [input.id, input.sessionId, input.runId, input.summaryJson, input.model] with
  | false => simp [Fits, accepted]
  | true =>
    simp only [Bool.true_eq_false, if_false, admissible, if_true]
    by_cases fits : input.summaryJson.length ≤ maxTextLength
    · obtain ⟨table, ok, member⟩ := upsert_of_owned owned fits ended
      rw [ok]
      dsimp only
      rw [select_own member]
      rcases selectCompactions_singleton input.row with shown | hidden
      · rw [if_pos ⟨accepted, fits, shown⟩, shown]
        exact ⟨table, member, rfl⟩
      · have cut : ¬ input.Fits host := fun all => by
          have shown := all.2.2
          simp [hidden] at shown
        rw [if_neg cut, hidden]
        exact ⟨_, _, rfl⟩
    · rw [if_neg fun all => fits all.2.1, upsert, dif_neg fits]
      exact ⟨_, _, rfl⟩

theorem start_of_not_owned (decoded : decode? payload = some input) (foreign : ¬ input.OwnsId db) :
    ∃ next error, storageCompactionStart host db payload = (next, .error error) := by
  -- under another identifier the start is turned down, whatever the reads come back with
  unfold storageCompactionStart
  rw [decoded]
  simp only [guarded.known.1, guarded.known.2, Bool.true_eq_false, or_self, if_false]
  split_ifs with conflict
  · exact ⟨_, _, rfl⟩
  simp only [any_eq_true, Bool.and_eq_true, beq_iff_eq, Bool.or_eq_true, bne_iff_ne, decide_eq_true_eq,
    not_exists, not_and, not_or, not_not, ne_eq] at conflict
  -- no other generation has the identifier, so the row of the generation has another one
  obtain ⟨row, member, session, generation, other⟩ : ∃ row ∈ db.compactions.rows,
      row.sessionId = input.sessionId ∧ row.generation = input.generation ∧ row.id ≠ input.id := by
    by_contra none
    refine foreign fun row member => ⟨conflict row member, fun own => ?_⟩
    by_contra other
    exact none ⟨row, member, own.1, own.2, other⟩
  have only : db.compactions.rows.filter (fun row =>
      row.sessionId == input.sessionId && decide (row.generation = input.generation)) = [row] := by
    refine filter_eq_singleton compactionsSchema_self member (by simp [session, generation]) ?_
    intro found present same
    simp only [Bool.and_eq_true, beq_iff_eq, decide_eq_true_eq] at same
    exact compaction_unique present member (.inr ⟨same.1.trans session.symm, same.2.trans generation.symm⟩)
  rw [only]
  rcases selectCompactions_singleton row with shown | hidden
  · rw [shown]
    simp only [ended row member session generation, other, if_false]
    exact ⟨_, _, rfl⟩
  · -- the row is too large to be read back, and the guarded update passes over it
    rw [hidden]
    dsimp only
    have absent : ∀ found ∈ db.compactions.rows, found.id ≠ input.id := by
      intro found present same
      obtain ⟨home, number⟩ := conflict found present same
      have := compaction_unique present member (.inr ⟨home.trans session.symm, number.trans generation.symm⟩)
      exact other (this ▸ same)
    have admissible : input.admissible db :=
      guarded.admissible.mpr fun found present same => absurd same (absent found present)
    have known : db.compactions.rows.any (fun row =>
        row.sessionId == input.sessionId && decide (row.generation = input.generation)) :=
      any_eq_true.mpr ⟨row, member, by simp [session, generation]⟩
    unfold compactionStartInsert
    split_ifs
    · exact ⟨_, _, rfl⟩
    unfold upsert
    split_ifs with fits
    · have still : db.compactions.update (fun row => row.sessionId == input.sessionId &&
          decide (row.generation = input.generation) && decide (row.state = .failed) && row.id == input.id)
          (input.resume fits) = db.compactions := by
        refine update_eq_self.mpr fun found present chosen => ?_
        simp only [Bool.and_eq_true, beq_iff_eq] at chosen
        exact absurd chosen.2 (absent found present)
      have none : db.compactions.rows.filter (fun row => row.id == input.id && row.sessionId == input.sessionId) = [] :=
        filter_eq_nil_iff.mpr fun found present => by simp [absent found present]
      simp only [still, none]
      exact ⟨_, _, rfl⟩
    · exact ⟨_, _, rfl⟩

theorem start_outcome (host : Host) (decoded : decode? payload = some input) :
    if input.Fits host ∧ input.OwnsId db then
      ∃ table : Table compactionsSchema, input.row ∈ table.rows ∧
        storageCompactionStart host db payload = ({ db with compactions := table }, .ok [input.row])
    else ∃ next error, storageCompactionStart host db payload = (next, .error error) := by
  -- after failures only, a start goes through exactly when its texts fit and the identifier is its own
  by_cases owned : input.OwnsId db
  · have insert := compactionStartInsert_of_owned guarded ended host owned
    have free : db.compactions.rows.any (fun row => row.id == input.id &&
        (row.sessionId != input.sessionId || decide (row.generation ≠ input.generation))) = false := by
      simp only [any_eq_false, Bool.and_eq_true, beq_iff_eq, Bool.or_eq_true, bne_iff_ne, decide_eq_true_eq,
        not_and, not_or, not_not, ne_eq]
      exact fun row member same => (owned row member).mp same
    have inserts : storageCompactionStart host db payload = compactionStartInsert host db input := by
      unfold storageCompactionStart
      rw [decoded]
      simp only [guarded.known.1, guarded.known.2, Bool.true_eq_false, or_self, if_false, free, Bool.false_eq_true]
      split
      · rfl
      · rename_i row rest found
        have listed : row ∈ db.compactions.rows.filter (fun row =>
            row.sessionId == input.sessionId && decide (row.generation = input.generation)) :=
          (selectCompactions_isPrefix _).subset (by rw [found]; exact mem_cons_self)
        simp only [mem_filter, Bool.and_eq_true, beq_iff_eq, decide_eq_true_eq] at listed
        obtain ⟨member, session, generation⟩ := listed
        simp only [ended row member session generation, (owned row member).mpr ⟨session, generation⟩, if_true]
    rw [inserts]
    simpa only [owned, and_true] using insert
  · rw [if_neg fun both => owned both.2]
    exact start_of_not_owned guarded ended decoded owned

end Restart

end CompactionStartInput

def Database.markRange (db : Database) (session : String) (first last : Int) : Table messagesSchema :=
  db.messages.update (fun row => row.sessionId == session && decide (first ≤ row.ordinal ∧ row.ordinal ≤ last))
    markCompacted

theorem storageMessageMarkCompacted_ok_iff (host : Host) (db : Database)
    {input : MessageCompactInput} (decoded : MessageCompactInput.decode? payload = some input) :
    (storageMessageMarkCompacted host db payload).2 = .ok () ↔
      host.acceptsParameters [input.sessionId, input.sessionId] := by
  unfold storageMessageMarkCompacted
  rw [decoded]
  dsimp only
  split_ifs <;> simp_all

theorem storageMessageMarkCompacted_cases (host : Host) (db : Database) {input : MessageCompactInput}
    (decoded : MessageCompactInput.decode? payload = some input) :
    (storageMessageMarkCompacted host db payload).1 = db ∨
      (∃ row ∈ db.compactions.rows, row.sessionId = input.sessionId ∧ row.sourceStartOrdinal = input.startOrdinal ∧
        row.sourceEndOrdinal = input.endOrdinal ∧ row.state = .committed) ∧
        (storageMessageMarkCompacted host db payload).1 =
          { db with messages := db.markRange input.sessionId input.startOrdinal input.endOrdinal } := by
  unfold storageMessageMarkCompacted
  rw [decoded]
  dsimp only
  split_ifs with refused covered
  · exact .inl rfl
  · right
    simp only [any_eq_true, Bool.and_eq_true, beq_iff_eq, decide_eq_true_eq] at covered
    obtain ⟨row, member, ⟨⟨session, first⟩, last⟩, state⟩ := covered
    exact ⟨⟨row, member, session, first, last, state⟩, rfl⟩
  · exact .inl rfl

namespace CompactionCommitInput

variable {input : CompactionCommitInput} {host : Host} {db : Database} {row : CompactionRow}

theorem commits_iff : input.commits db row ↔
    (row.id = input.id ∧ row.sessionId = input.sessionId ∧ row.generation = input.generation) ∧
      row.state = .pending ∧ row.sourceStartOrdinal = input.startOrdinal ∧
      row.sourceEndOrdinal = input.endOrdinal ∧ (0 ≤ input.startOrdinal ∧ input.startOrdinal ≤ input.endOrdinal) ∧
      db.hasOrdinal row.sessionId input.startOrdinal ∧ db.hasOrdinal row.sessionId input.endOrdinal ∧
      db.runs.rows.any (fun run => run.id == row.runId && run.sessionId == input.sessionId &&
        decide (run.status = .compacting)) ∧
      db.sessions.rows.any (fun session => session.id == input.sessionId &&
        decide (session.generation = input.generation - 1)) := by
  simp [commits, names, and_assoc]

def landed (input : CompactionCommitInput) (db : Database) : Database :=
  { db with
    compactions := db.compactions.update (input.commits db) input.setCommitted
    messages := db.markRange input.sessionId input.startOrdinal input.endOrdinal
    sessions := db.sessions.update (fun row => row.id == input.sessionId &&
      decide (row.generation < input.generation)) input.advance }

theorem commit_ok_iff (host : Host) (db : Database) (decoded : decode? payload = some input) :
    (storageCompactionCommit host db payload).2 = .ok () ↔
      host.acceptsParameters [input.id, input.sessionId] := by
  unfold storageCompactionCommit
  rw [decoded]
  dsimp only
  split_ifs <;> simp_all

theorem commit_lands (decoded : decode? payload = some input)
    (accepted : host.acceptsParameters [input.id, input.sessionId]) (member : row ∈ db.compactions.rows)
    (commits : input.commits db row) : storageCompactionCommit host db payload = (input.landed db, .ok ()) := by
  have only : ∀ other ∈ db.compactions.rows, input.commits db other → other = row := by
    intro other present again
    exact compaction_unique present member (.inl ((commits_iff.mp again).1.1.trans (commits_iff.mp commits).1.1.symm))
  have counted : db.compactions.rows.countP (input.commits db) = 1 :=
    countP_eq_one compactionsSchema_self member commits only
  have written : input.setCommitted.apply row ∈ (db.compactions.update (input.commits db) input.setCommitted).rows := by
    rw [update_rows]
    exact mem_map.mpr ⟨row, member, if_pos commits⟩
  obtain ⟨⟨id, session, generation⟩, _, first, last, _⟩ := commits_iff.mp commits
  have covered : (db.compactions.update (input.commits db) input.setCommitted).rows.any (fun row =>
      input.names row && decide (row.state = .committed) && decide (row.sourceStartOrdinal = input.startOrdinal) &&
        decide (row.sourceEndOrdinal = input.endOrdinal)) :=
    any_eq_true.mpr ⟨_, written, by simp [names, setCommitted, id, session, generation, first, last]⟩
  have found : (db.compactions.update (input.commits db) input.setCommitted).rows.any (fun row =>
      input.names row && decide (row.state = .committed)) :=
    any_eq_true.mpr ⟨_, written, by simp [names, setCommitted, id, session, generation]⟩
  simp only [storageCompactionCommit, decoded, accepted, Bool.true_eq_false, if_false, counted, covered, and_self,
    if_true, found]
  rfl

theorem commit_idle (decoded : decode? payload = some input)
    (idle : ∀ row ∈ db.compactions.rows, input.commits db row = false) :
    (storageCompactionCommit host db payload).1 = db ∨
      (∃ row ∈ db.compactions.rows, row.sessionId = input.sessionId ∧ row.generation = input.generation ∧
        row.state = .committed) ∧
        (storageCompactionCommit host db payload).1 =
          { db with
            sessions := db.sessions.update (fun row => row.id == input.sessionId &&
              decide (row.generation < input.generation)) input.advance } := by
  have same : db.compactions.update (input.commits db) input.setCommitted = db.compactions :=
    update_eq_self.mpr fun row member commits => by simp [idle row member] at commits
  have none : ¬ db.compactions.rows.countP (input.commits db) = 1 := by
    rw [countP_eq_zero.mpr fun row member => by simp [idle row member]]
    simp
  simp only [storageCompactionCommit, decoded, same, none, false_and, if_false]
  split_ifs with refused found
  · exact .inl rfl
  · right
    simp only [names, any_eq_true, Bool.and_eq_true, beq_iff_eq, decide_eq_true_eq] at found
    obtain ⟨row, member, ⟨⟨_, session⟩, generation⟩, state⟩ := found
    exact ⟨⟨row, member, session, generation, state⟩, rfl⟩
  · exact .inl rfl

end CompactionCommitInput

end RustScriptAgent.Storage
