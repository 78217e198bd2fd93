import RustScriptAgent.Shared.RetainedLog
import RustScriptAgent.Storage.EventLog

namespace RustScriptAgent.Storage

open Relational Sequences RetainedLog List

namespace Database

def mark (db : Database) (run : String) : Option (Int × Int) :=
  (db.runRetention.rows.find? fun row => row.runId == run).map fun row => (row.firstSeq, row.highWaterSeq)

def runLog (db : Database) (run : String) (allocated : List Int) : Log := ⟨db.seqs run, db.mark run, allocated⟩

def numbersOf (rows : List EventRow) (run : String) : List Int :=
  (rows.filter fun row => row.runId == run).map EventRow.seq

variable {db middle next : Database} {run target : String} {now : Int} {rows : List EventRow} {allocated : List Int}

theorem mark_congr (same : next.runRetention = db.runRetention) (run : String) : next.mark run = db.mark run := by
  simp only [mark, same]

theorem find?_update_retention (db : Database) (target run : String) (first high now : Int) :
    (db.runRetention.update (fun row => row.runId == target) (setRetention first high now)).rows.find?
        (fun row => row.runId == run) =
      (db.runRetention.rows.find? fun row => row.runId == run).map fun row =>
        if row.runId == target then (setRetention first high now).apply row else row := by
  rw [Table.update_rows, find?_map]
  congr 2
  funext row
  simp only [Function.comp_apply]
  split_ifs <;> rfl

theorem mark_upsertRetention (db : Database) (run : String) (now : Int) :
    (db.upsertRetention run now).mark run =
      some (db.minSeq run, max (((db.mark run).map Prod.snd).getD (db.maxSeq run)) (db.maxSeq run)) := by
  unfold upsertRetention mark
  dsimp only
  cases found : db.runRetention.rows.find? fun row => row.runId == run with
  | none =>
    have absent : db.runRetention.rows.any (fun row => row.runId == run) = false := by
      simpa [find?_eq_none] using found
    have accepted : db.runRetention.accepts ⟨run, db.minSeq run, db.maxSeq run, now⟩ = true := by
      refine (Table.accepts_iff _ _).mpr ⟨rfl, fun row member => ?_⟩
      simpa [runRetentionSchema] using (any_eq_false.mp absent) row member
    simp [absent, Table.insertOrIgnore_rows, accepted, find?_append, found]
  | some row =>
    have own : (row.runId == run) := by simpa using find?_some found
    have present : db.runRetention.rows.any (fun row => row.runId == run) :=
      any_eq_true.mpr ⟨row, mem_of_find?_eq_some found, own⟩
    simp only [present, if_true]
    rw [find?_update_retention, found]
    simp [beq_iff_eq.mp own, setRetention]

theorem mark_upsertRetention_other (other : target ≠ run) : (db.upsertRetention target now).mark run = db.mark run := by
  unfold upsertRetention mark
  dsimp only
  split_ifs
  · rw [find?_update_retention]
    cases found : db.runRetention.rows.find? fun row => row.runId == run with
    | none => rfl
    | some row =>
      have own : row.runId = run := by simpa using find?_some found
      simp [own, other.symm]
  · rw [Table.insertOrIgnore_rows]
    split_ifs
    · simp [find?_append, other]
    · rfl

theorem mark_upsertEach_other {runs : List RunRow} (absent : ∀ row ∈ runs, row.id ≠ run) (db : Database) (now : Int) :
    (runs.foldl (fun db row => db.upsertRetention row.id now) db).mark run = db.mark run := by
  induction runs generalizing db with
  | nil => rfl
  | cons row rest ih =>
    rw [foldl_cons, ih fun other member => absent other (mem_cons_of_mem _ member)]
    exact mark_upsertRetention_other (absent row mem_cons_self)

theorem seqs_upsertEach (runs : List RunRow) (db : Database) (run : String) (now : Int) :
    (runs.foldl (fun db row => db.upsertRetention row.id now) db).seqs run = db.seqs run := by
  rw [upsertRetention_foldl_frame]
  rfl

theorem mark_upsertRetention_congr (mark : db.mark run = middle.mark run) (seqs : db.seqs run = middle.seqs run)
    (now : Int) : (db.upsertRetention run now).mark run = (middle.upsertRetention run now).mark run := by
  rw [mark_upsertRetention, mark_upsertRetention, mark]
  simp [minSeq, maxSeq, seqs]

theorem mark_upsertRetention_twice (noted : db.mark run = (middle.upsertRetention run now).mark run)
    (seqs : db.seqs run = middle.seqs run) :
    (db.upsertRetention run now).mark run = (middle.upsertRetention run now).mark run := by
  rw [mark_upsertRetention, noted, mark_upsertRetention]
  simp [minSeq, maxSeq, seqs]

theorem mark_upsertEach {runs : List RunRow} (listed : ∃ row ∈ runs, row.id = run) (db : Database) (now : Int) :
    (runs.foldl (fun db row => db.upsertRetention row.id now) db).mark run = (db.upsertRetention run now).mark run := by
  induction runs using reverseRecOn with
  | nil => simp at listed
  | append_singleton before row ih =>
    rw [foldl_append, foldl_cons, foldl_nil]
    have seqs := seqs_upsertEach before db run now
    by_cases earlier : ∃ row ∈ before, row.id = run
    · by_cases own : row.id = run
      · rw [own]
        exact mark_upsertRetention_twice (ih earlier) seqs
      · rw [mark_upsertRetention_other own, ih earlier]
    · have absent : ∀ row ∈ before, row.id ≠ run := fun row member own => earlier ⟨row, member, own⟩
      have own : row.id = run := by
        obtain ⟨other, member, same⟩ := listed
        rcases mem_append.mp member with old | last
        · exact absurd same (absent other old)
        · rwa [← mem_singleton.mp last]
      rw [own]
      exact mark_upsertRetention_congr (mark_upsertEach_other absent db now) seqs now

theorem numbersOf_positive (positive : ∀ row ∈ rows, row.runId = run → 0 < row.seq) :
    ∀ number ∈ numbersOf rows run, 0 < number := by
  intro number member
  obtain ⟨row, listed, rfl⟩ := mem_map.mp member
  obtain ⟨new, own⟩ := mem_filter.mp listed
  exact positive row new (beq_iff_eq.mp own)

section Rewrites

variable (events : middle.runEvents.rows = db.runEvents.rows ++ rows)
include events

theorem rewrites_other (none : ∀ row ∈ rows, row.runId ≠ run) (seqs : next.seqs run = middle.seqs run)
    (mark : next.mark run = db.mark run) :
    (db.runLog run allocated).Rewrites (next.runLog run (allocated ++ numbersOf rows run)) (numbersOf rows run) := by
  have no : numbersOf rows run = [] := by
    unfold numbersOf
    rw [filter_eq_nil_iff.mpr, map_nil]
    intro row member
    simpa using none row member
  have same : middle.seqs run = db.seqs run ++ numbersOf rows run := seqs_append run events
  rw [no, append_nil] at same
  rw [no]
  exact Log.Rewrites.of_same (seqs.trans same) mark (append_nil _)

variable (retention : middle.mark run = db.mark run) (positive : ∀ row ∈ rows, row.runId = run → 0 < row.seq)
include retention positive

theorem rewrites_noted (seqs : next.seqs run = middle.seqs run)
    (mark : next.mark run = (middle.upsertRetention run now).mark run) :
    (db.runLog run allocated).Rewrites (next.runLog run (allocated ++ numbersOf rows run)) (numbersOf rows run) := by
  have grown : middle.seqs run = db.seqs run ++ numbersOf rows run := seqs_append run events
  refine ⟨rfl, numbersOf_positive positive, ?_, ?_, ?_, .inl ?_⟩
  · simp only [runLog, seqs, grown]
    exact fun _ member => member
  · simp only [runLog, seqs, grown]
    exact fun _ _ _ member _ => member
  · simp only [runLog, seqs, grown]
    exact fun empty => empty
  · simp only [runLog, mark, mark_upsertRetention, retention, seqs]
    rfl

theorem rewrites_pruned {limit : Nat} (positiveLimit : 0 < limit)
    (seqs : next.seqs run = (middle.pruneEvents run limit).seqs run)
    (mark : next.mark run = ((middle.pruneEvents run limit).upsertRetention run now).mark run) :
    (db.runLog run allocated).Rewrites (next.runLog run (allocated ++ numbersOf rows run)) (numbersOf rows run) := by
  have grown : middle.seqs run = db.seqs run ++ numbersOf rows run := seqs_append run events
  refine ⟨rfl, numbersOf_positive positive, ?_, ?_, ?_, .inl ?_⟩
  · simp only [runLog, seqs, ← grown]
    exact fun number member => (mem_seqs_pruneEvents.mp member).1
  · simp only [runLog, seqs, ← grown]
    intro low member number listed above
    exact mem_seqs_pruneEvents.mpr ⟨listed,
      (middle.newerThan_antitone run above).trans_lt (mem_seqs_pruneEvents.mp member).2⟩
  · simp only [runLog, seqs, ← grown]
    intro empty
    by_contra some
    have kept := mem_seqs_pruneEvents.mpr ⟨maxOrZero_mem some, (middle.newerThan_maxSeq run).trans_lt positiveLimit⟩
    simp [empty] at kept
  · simp only [runLog, mark, mark_upsertRetention, seqs]
    rw [mark_congr (pruneEvents_runRetention middle run limit), retention]
    rfl

end Rewrites

end Database

end RustScriptAgent.Storage
