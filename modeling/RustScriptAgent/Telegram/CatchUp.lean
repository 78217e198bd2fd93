import RustScriptAgent.Shared.Marks
import RustScriptAgent.Shared.Text
import RustScriptAgent.Storage.Terminal

namespace RustScriptAgent.Telegram

open Storage List

structure EventReplayInput where
  runId : String
  afterSeq : Int
  maxEvents : Int
  maxBytes : Int

namespace EventReplayInput

variable (input : EventReplayInput)

def payloadCap : Int :=
  if input.maxBytes ≤ 0 then 16384
  else if 32768 < input.maxBytes then 16384
  else if input.maxBytes < 128 then 64
  else input.maxBytes / 2

def bound (row : EventRow) : EventRow :=
  let bytes := row.payload.render.utf8ByteSize
  if input.payloadCap < bytes then
    { row with payload := .obj [("original_bytes", .int bytes), ("truncated", .bool true)] }
  else row

def limit : Nat :=
  (if input.maxEvents ≤ 0 then 128 else if 256 < input.maxEvents then 256 else input.maxEvents).toNat + 1

end EventReplayInput

def storageEventRetention (db : Database) (runId : String) : Int :=
  ((db.runRetention.rows.find? fun row => row.runId == runId).map RetentionRow.firstSeq).getD 1

def selectEvents (db : Database) (input : EventReplayInput) : List EventRow :=
  (((db.log input.runId).filter fun row => decide (input.afterSeq ≤ row.seq)).take input.limit).map input.bound

def storageEventReplay (db : Database) (input : EventReplayInput) : List EventRow × Bool :=
  let selected := selectEvents db input
  let served := boundedRows input.maxEvents.toNat (max input.maxBytes 4096).toNat eventColumns EventRow.cells selected
  (served, decide (served.length < selected.length))

/-- The command `event.replay`; the only error it reports is `cursor_too_old`. -/
def eventReplay (db : Database) (input : EventReplayInput) : Option (List EventRow × Bool) :=
  let floor := storageEventRetention db input.runId
  if 1 < floor ∧ input.afterSeq < floor then none else some (storageEventReplay db input)

abbrev ReplayedEvent := Int × EventType × Json

def replayRows (rows : List EventRow) : List ReplayedEvent := rows.map fun row => (row.seq, row.eventType, row.payload)

def pageInput (runId : String) (after : Int) : EventReplayInput := ⟨runId, after, 256, 65536⟩

def replayLoop (db : Database) (runId : String) : Nat → Int → List ReplayedEvent → Option (List ReplayedEvent)
  | 0, _, _ => none
  | fuel + 1, after, events =>
    match eventReplay db (pageInput runId after) with
    | none => replayLoop db runId fuel 1 events
    | some (rows, truncated) =>
      let events := events ++ replayRows rows
      if !truncated then some events
      else
        match rows.getLast? with
        | none => some events
        | some last => replayLoop db runId fuel last.seq events

def ReplayReturns (db : Database) (runId : String) (after : Int) (events : List ReplayedEvent) : Prop :=
  ∃ fuel, replayLoop db runId fuel after [] = some events

def rowsFrom (db : Database) (runId : String) (after : Int) : List EventRow :=
  ((db.log runId).filter fun row => decide (after ≤ row.seq)).map (pageInput runId after).bound

def TooOld (db : Database) (runId : String) (after : Int) : Prop :=
  1 < storageEventRetention db runId ∧ after < storageEventRetention db runId

instance decidableTooOld (db : Database) (runId : String) (after : Int) : Decidable (TooOld db runId after) :=
  inferInstanceAs (Decidable (_ ∧ _))

def wanted (db : Database) (runId : String) (after : Int) : List ReplayedEvent :=
  replayRows (rowsFrom db runId (if TooOld db runId after then storageEventRetention db runId else after))

def PagesAdvance (db : Database) (runId : String) : Prop :=
  ∀ after, (storageEventReplay db (pageInput runId after)).2 = true →
    2 ≤ (storageEventReplay db (pageInput runId after)).1.length

section Pages

variable {db : Database} {runId : String} {after : Int}

theorem bound_seq (input : EventReplayInput) (row : EventRow) : (input.bound row).seq = row.seq := by
  simp only [EventReplayInput.bound]
  split <;> rfl

theorem mem_rowsFrom {row : EventRow} (member : row ∈ rowsFrom db runId after) : after ≤ row.seq := by
  obtain ⟨stored, there, rfl⟩ := mem_map.mp member
  rw [bound_seq]
  simpa using (mem_filter.mp there).2

theorem rowsFrom_ascending (db : Database) (runId : String) (after : Int) :
    (rowsFrom db runId after).Pairwise fun a b => a.seq < b.seq := by
  rw [rowsFrom, pairwise_map]
  simp only [bound_seq]
  exact (db.log_ascending runId).filter _

theorem rowsFrom_later {later : Int} (order : after ≤ later) :
    rowsFrom db runId later = (rowsFrom db runId after).filter fun row => decide (later ≤ row.seq) := by
  have same : (pageInput runId later).bound = (pageInput runId after).bound := rfl
  rw [rowsFrom, rowsFrom, filter_map, filter_filter, same]
  refine congrArg (map _) (filter_congr fun row _ => ?_)
  by_cases above : later ≤ row.seq
  · simp [bound_seq, above, le_trans order above]
  · simp [bound_seq, above]

theorem replayRows_nodup (db : Database) (runId : String) (after : Int) :
    ((replayRows (rowsFrom db runId after)).map Prod.fst).Nodup := by
  rw [replayRows, map_map, List.Nodup, pairwise_map]
  exact (rowsFrom_ascending db runId after).imp fun below => ne_of_lt below

theorem page_spec (db : Database) (runId : String) (after : Int) :
    let page := storageEventReplay db (pageInput runId after)
    page.1 <+: rowsFrom db runId after ∧ (page.2 = false → page.1 = rowsFrom db runId after) := by
  have selected : selectEvents db (pageInput runId after) = (rowsFrom db runId after).take 257 := by
    rw [selectEvents, rowsFrom, map_take]
    rfl
  have within : (storageEventReplay db (pageInput runId after)).1 <+:
    (selectEvents db (pageInput runId after)).take 256 :=
    Sequences.takeWithin_isPrefix _ _ _
  have start := within.trans (List.take_prefix _ _)
  refine ⟨start.trans (selected ▸ List.take_prefix _ _), fun whole => ?_⟩
  have same : (storageEventReplay db (pageInput runId after)).1 = selectEvents db (pageInput runId after) := by
    refine start.eq_of_length (le_antisymm start.length_le ?_)
    simpa [storageEventReplay] using whole
  -- at most 256 rows were asked for, so the limit of 257 cut nothing
  have short := within.length_le
  rw [same, length_take] at short
  rw [same, selected]
  rw [selected, length_take] at short
  exact take_of_length_le (by omega)

theorem head_rowsFrom {row : EventRow} (member : row ∈ rowsFrom db runId after) :
    ∃ rest, rowsFrom db runId row.seq = row :: rest := by
  have there : row ∈ rowsFrom db runId row.seq := by
    rw [rowsFrom_later (mem_rowsFrom member)]
    exact mem_filter.mpr ⟨member, by simp⟩
  cases rows : rowsFrom db runId row.seq with
  | nil => simp [rows] at there
  | cons first rest =>
    have ascending := rowsFrom_ascending db runId row.seq
    have least : row.seq ≤ first.seq := mem_rowsFrom (rows ▸ mem_cons_self)
    rw [rows] at there ascending
    rcases mem_cons.mp there with rfl | later
    · exact ⟨rest, rfl⟩
    · exact absurd (rel_of_pairwise_cons ascending later) (not_lt.mpr least)

theorem rowsFrom_shrinks {last : EventRow} (pages : PagesAdvance db runId)
    (truncated : (storageEventReplay db (pageInput runId after)).2)
    (found : (storageEventReplay db (pageInput runId after)).1.getLast? = some last) :
    last ∈ rowsFrom db runId after ∧ (rowsFrom db runId last.seq).length < (rowsFrom db runId after).length := by
  obtain ⟨start, _⟩ := page_spec db runId after
  have member : last ∈ rowsFrom db runId after := start.subset (mem_of_getLast? found)
  refine ⟨member, ?_⟩
  have two := pages after truncated
  have ascending := (rowsFrom_ascending db runId after).sublist start.sublist
  cases rows : (storageEventReplay db (pageInput runId after)).1 with
  | nil => simp [rows] at two
  | cons first rest =>
    rw [rows] at two found ascending start
    have behind : last ∈ rest := by
      cases rest with
      | nil => simp at two
      | cons second others =>
        rw [getLast?_cons_cons] at found
        exact mem_of_getLast? found
    have below := rel_of_pairwise_cons ascending behind
    rw [rowsFrom_later (mem_rowsFrom member)]
    refine length_filter_lt_length_iff_exists.mpr ⟨first, start.subset mem_cons_self, ?_⟩
    simpa using below

end Pages

section Loop

variable {db : Database} {runId : String} {after : Int}

theorem replayLoop_tooOld (old : TooOld db runId after) (fuel : Nat) (events : List ReplayedEvent) :
    replayLoop db runId fuel after events = none := by
  induction fuel generalizing after with
  | zero => rfl
  | succ fuel ih =>
    have refused : eventReplay db (pageInput runId after) = none := if_pos old
    rw [replayLoop, refused]
    exact ih ⟨old.1, old.1⟩

theorem replayLoop_page (young : ¬ TooOld db runId after) (fuel : Nat) (events : List ReplayedEvent) :
    replayLoop db runId (fuel + 1) after events = let page := storageEventReplay db (pageInput runId after)
      if page.2 = false then some (events ++ replayRows page.1)
      else
        match page.1.getLast? with
        | none => some (events ++ replayRows page.1)
        | some last => replayLoop db runId fuel last.seq (events ++ replayRows page.1) := by
  have served : eventReplay db (pageInput runId after) = some (storageEventReplay db (pageInput runId after)) :=
    if_neg young
  rw [replayLoop, served]
  cases storageEventReplay db (pageInput runId after) with
  | mk rows truncated => cases truncated <;> rfl

theorem not_tooOld_later {later : Int} (young : ¬ TooOld db runId after) (order : after ≤ later) :
    ¬ TooOld db runId later := fun old => young ⟨old.1, lt_of_le_of_lt order old.2⟩

theorem replayLoop_prefix {fuel : Nat} {events result : List ReplayedEvent}
    (returned : replayLoop db runId fuel after events = some result) : events <+: result := by
  induction fuel generalizing after events with
  | zero => cases returned
  | succ fuel ih =>
    by_cases young : TooOld db runId after
    · rw [replayLoop_tooOld young] at returned
      cases returned
    · rw [replayLoop_page young] at returned
      dsimp only at returned
      split at returned
      · cases returned
        exact prefix_append _ _
      · split at returned
        · cases returned
          exact prefix_append _ _
        · exact (prefix_append _ _).trans (ih returned)

theorem replayLoop_returns (pages : PagesAdvance db runId) (young : ¬ TooOld db runId after)
    (events : List ReplayedEvent) : ∃ fuel result, replayLoop db runId fuel after events = some result := by
  induction size : (rowsFrom db runId after).length using Nat.strong_induction_on generalizing after events with
  | _ size ih =>
    by_cases whole : (storageEventReplay db (pageInput runId after)).2 = false
    · exact ⟨1, _, by rw [replayLoop_page young]; exact if_pos whole⟩
    cases found : (storageEventReplay db (pageInput runId after)).1.getLast? with
    | none =>
      refine ⟨1, events ++ replayRows (storageEventReplay db (pageInput runId after)).1, ?_⟩
      rw [replayLoop_page young]
      simp only [whole, found]
      rfl
    | some last =>
      obtain ⟨member, fewer⟩ := rowsFrom_shrinks pages (by simpa using whole) found
      obtain ⟨fuel, result, returned⟩ := ih _ (size ▸ fewer) (not_tooOld_later young (mem_rowsFrom member))
        (events ++ replayRows (storageEventReplay db (pageInput runId after)).1) rfl
      refine ⟨fuel + 1, result, ?_⟩
      rw [replayLoop_page young]
      simp only [whole, found]
      exact returned

theorem replayLoop_repeats {fuel : Nat} {events result : List ReplayedEvent} {last : EventRow}
    (pages : PagesAdvance db runId) (young : ¬ TooOld db runId after) (member : last ∈ rowsFrom db runId after)
    (returned : replayLoop db runId fuel last.seq events = some result) :
    ∃ more, result = events ++ (last.seq, last.eventType, last.payload) :: more := by
  -- the page after a truncated one starts with the row that one ended with
  have younger := not_tooOld_later young (mem_rowsFrom member)
  obtain ⟨rest, rows⟩ := head_rowsFrom member
  obtain ⟨start, whole⟩ := page_spec db runId last.seq
  have filled : ∃ others, (storageEventReplay db (pageInput runId last.seq)).1 = last :: others := by
    cases page : (storageEventReplay db (pageInput runId last.seq)).1 with
    | cons first others =>
      rw [page, rows, cons_prefix_cons] at start
      exact ⟨others, by rw [start.1]⟩
    | nil =>
      cases truncated : (storageEventReplay db (pageInput runId last.seq)).2 with
      | false =>
        have same := whole truncated
        rw [page, rows] at same
        cases same
      | true =>
        have two := pages last.seq truncated
        simp [page] at two
  obtain ⟨others, page⟩ := filled
  have collected : events ++ (last.seq, last.eventType, last.payload) :: replayRows others <+: result := by
    cases fuel with
    | zero => cases returned
    | succ fuel =>
      rw [replayLoop_page younger] at returned
      dsimp only at returned
      rw [page] at returned
      split at returned
      · cases returned
        exact prefix_rfl
      · split at returned
        · cases returned
          exact prefix_rfl
        · exact replayLoop_prefix returned
  obtain ⟨more, rfl⟩ := collected
  exact ⟨replayRows others ++ more, by simp⟩

end Loop

theorem catch_up_exact_iff (db : Database) (runId : String) (after : Int) (pages : PagesAdvance db runId) :
    ((∃ events, ReplayReturns db runId after events) ↔ ¬ TooOld db runId after) ∧
      (ReplayReturns db runId after (wanted db runId after) ↔
        ¬ TooOld db runId after ∧ (storageEventReplay db (pageInput runId after)).2 = false) := by
  -- a page behind a truncated one repeats its last row
  have stuck {events : List ReplayedEvent} (returns : ReplayReturns db runId after events) :
      ¬ TooOld db runId after := by
    obtain ⟨fuel, returned⟩ := returns
    intro old
    rw [replayLoop_tooOld old] at returned
    cases returned
  refine ⟨⟨fun ⟨_, returns⟩ => stuck returns, fun young => ?_⟩, fun returns => ⟨stuck returns, ?_⟩, ?_⟩
  · obtain ⟨fuel, result, returned⟩ := replayLoop_returns pages young []
    exact ⟨result, fuel, returned⟩
  · by_contra truncated
    have young := stuck returns
    obtain ⟨fuel, returned⟩ := returns
    rw [wanted, if_neg young] at returned
    cases fuel with
    | zero => cases returned
    | succ fuel =>
      rw [replayLoop_page young] at returned
      dsimp only at returned
      rw [if_neg truncated] at returned
      have two := pages after (by simpa using truncated)
      cases found : (storageEventReplay db (pageInput runId after)).1.getLast? with
      | none =>
        rw [List.getLast?_eq_none_iff.mp found] at two
        cases two
      | some last =>
        rw [found] at returned
        obtain ⟨member, _⟩ := rowsFrom_shrinks pages (by simpa using truncated) found
        obtain ⟨more, same⟩ := replayLoop_repeats pages young member returned
        -- the last row of the page occurs twice in what was returned
        have once := replayRows_nodup db runId after
        rw [same, List.nil_append, List.map_append, List.nodup_append] at once
        refine once.2.2 last.seq ?_ last.seq (by simp) rfl
        exact List.mem_map.mpr ⟨_, List.mem_map_of_mem (List.mem_of_getLast? found), rfl⟩
  · rintro ⟨young, whole⟩
    refine ⟨1, ?_⟩
    rw [wanted, if_neg young, replayLoop_page young, ← (page_spec db runId after).2 whole]
    exact if_pos whole

section Runs

variable {body : Json} (size : body.render.utf8ByteSize = 16002)

def prunedEvents (body : Json) : List EventRow :=
  [(5, "a"), (6, "b"), (7, "c"), (8, "d"), (9, "e")].map fun entry => ⟨"run", entry.1, entry.2, .toolOutput, body, 1⟩

include size in
theorem prunedEvents_sizes {row : EventRow} (member : row ∈ prunedEvents body) :
    row.payload.render.utf8ByteSize = 16002 ∧ cellBytes row.cells = 16033 := by
  obtain ⟨entry, listed, rfl⟩ := mem_map.mp member
  have short : entry.2.utf8ByteSize = 1 := by
    clear member
    revert entry
    decide
  refine ⟨size, ?_⟩
  simp only [EventRow.cells, cellBytes, map_cons, map_nil, sum_cons, sum_nil, Cell.bytes, size, short]
  decide

theorem prunedEvents_apart :
    (prunedEvents body).Pairwise fun a b => runEventsSchema.conflict a b = false := by
  simp [prunedEvents, runEventsSchema]

def prunedRunOf : Database :=
  { Database.empty with
    runEvents := ⟨prunedEvents body, prunedEvents_apart, fun row member => by
      have bytes := (prunedEvents_sizes size member).1
      have length := Json.length_le_utf8ByteSize row.payload.render
      exact decide_eq_true (show _ ≤ 1048576 by omega)⟩
    runRetention := .ofRow ⟨"run", 5, 9, 1⟩ (by decide) }

theorem prunedRunOf_page (after : Int) : storageEventReplay (prunedRunOf size) (pageInput "run" after) =
    let rows := (prunedEvents body).filter fun row => decide (after ≤ row.seq)
    let served := Sequences.takeWithin (fun row : EventRow => cellBytes row.cells) 65484 rows
    (served, decide (served.length < rows.length)) := by
  have log : (prunedRunOf size).log "run" = prunedEvents body := rfl
  have short : ((prunedEvents body).filter fun row => decide (after ≤ row.seq)).length ≤ 5 := length_filter_le _ _
  have listed : selectEvents (prunedRunOf size) (pageInput "run" after) =
      (prunedEvents body).filter fun row => decide (after ≤ row.seq) := by
    show ((((prunedRunOf size).log "run").filter fun row => decide (after ≤ row.seq)).take 257).map _ = _
    rw [log, take_of_length_le (by omega)]
    refine (map_congr_left fun row member => if_neg ?_).trans (map_id _)
    have cap : (pageInput "run" after).payloadCap = 16384 := rfl
    rw [(prunedEvents_sizes size (mem_filter.mp member).1).1, cap]
    decide
  have most : (pageInput "run" after).maxEvents.toNat = 256 := rfl
  rw [storageEventReplay, listed, boundedRows]
  dsimp only
  rw [most, take_of_length_le (by omega)]
  rfl

theorem prunedRunOf_serves (after : Int) :
    min 4 ((prunedEvents body).filter fun row => decide (after ≤ row.seq)).length ≤
      (storageEventReplay (prunedRunOf size) (pageInput "run" after)).1.length := by
  rw [prunedRunOf_page]
  exact Sequences.takeWithin_length
    (fun row member => (prunedEvents_sizes size (mem_filter.mp member).1).2.le) (by decide)

theorem prunedRunOf_pages : PagesAdvance (prunedRunOf size) "run" := by
  intro after truncated
  have served := prunedRunOf_serves size after
  rw [prunedRunOf_page] at truncated served ⊢
  have cut := of_decide_eq_true truncated
  dsimp only at served cut ⊢
  omega

theorem prunedRunOf_cut : (storageEventReplay (prunedRunOf size) (pageInput "run" 5)).2 = true := by
  rw [prunedRunOf_page]
  -- five rows are too many for the byte limit of a page
  refine decide_eq_true (lt_of_le_of_ne (Sequences.takeWithin_isPrefix _ _ _).length_le fun all => ?_)
  have whole := (Sequences.takeWithin_eq_self_iff _ _ _).mp ((Sequences.takeWithin_isPrefix _ _ _).eq_of_length all)
  have costs : ((prunedEvents body).map fun row => cellBytes row.cells) = replicate 5 16033 :=
    eq_replicate_iff.mpr ⟨rfl, fun cost member => by
      obtain ⟨row, listed, rfl⟩ := mem_map.mp member
      exact (prunedEvents_sizes size listed).2⟩
  have everything : ((prunedEvents body).filter fun row => decide ((5 : Int) ≤ row.seq)) = prunedEvents body := rfl
  rw [everything, costs] at whole
  exact absurd whole (by decide)

theorem prunedRunOf_whole : (storageEventReplay (prunedRunOf size) (pageInput "run" 6)).2 = false := by
  have served := prunedRunOf_serves size 6
  rw [prunedRunOf_page] at served ⊢
  exact decide_eq_false (Nat.not_lt.mpr served)

def prunedRun : Database :=
  @prunedRunOf (.str (Texts.filler 16000)) (by rw [Json.render, Texts.quote_filler_size])

theorem catch_up_exact_behind_truncated : (storageEventReplay prunedRun (pageInput "run" 5)).2 = true ∧
    ReplayReturns prunedRun "run" 6 (wanted prunedRun "run" 6) :=
  ⟨prunedRunOf_cut _, (catch_up_exact_iff prunedRun "run" 6 (prunedRunOf_pages _)).2.mpr
    ⟨by decide, prunedRunOf_whole _⟩⟩

theorem catch_up_below_floor_hangs :
    PagesAdvance prunedRun "run" ∧ ∀ fuel, replayLoop prunedRun "run" fuel 1 [] = none :=
  ⟨prunedRunOf_pages _, fun fuel => replayLoop_tooOld (by decide) fuel []⟩

end Runs

end RustScriptAgent.Telegram
