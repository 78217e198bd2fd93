import Mathlib.Data.List.Induction
import Mathlib.Data.List.Perm.Basic
import RustScriptAgent.Storage.Claims

namespace RustScriptAgent.Storage

open Relational ClaimTables Table IdempotencyBeginInput List
open Option hiding any_eq_true

variable {records : Table claimRecordsSchema}

def owner (slot : ClaimSlot) (log : List ClaimEvent) : Option String :=
  log.foldl
    (fun current event =>
      match event with
      | .lapsed other _ _ => if other = slot then none else current
      | .claimed other token => if other = slot then some token else current
      | .acquired _ _ => current)
    none

def Permitted (before : List ClaimEvent) : ClaimEvent → Prop
  | .lapsed _ record now => record.state = .claimed ∧ record.expiresAtMs ≤ now
  | .claimed slot _ => owner slot before = none
  | .acquired slot token => owner slot before = some token

def Orderly (log : List ClaimEvent) : Prop :=
  ∀ before event after, log = before ++ event :: after → Permitted before event

def acquiredTokens (log : List ClaimEvent) : List String :=
  log.filterMap fun event =>
    match event with
    | .acquired _ token => some token
    | _ => none

section Protocol

variable {log before between after : List ClaimEvent} {slot : ClaimSlot}

theorem owner_lapsed (log : List ClaimEvent) (slot other : ClaimSlot) (record : ClaimRecord) (now : Int) :
    owner slot (log ++ [.lapsed other record now]) = if other = slot then none else owner slot log := by
  simp [owner]

theorem owner_claimed (log : List ClaimEvent) (slot other : ClaimSlot) (token : String) :
    owner slot (log ++ [.claimed other token]) = if other = slot then some token else owner slot log := by
  simp [owner]

theorem owner_acquired (log : List ClaimEvent) (slot other : ClaimSlot) (token : String) :
    owner slot (log ++ [.acquired other token]) = owner slot log := by
  simp [owner]

theorem acquiredTokens_append (log more : List ClaimEvent) :
    acquiredTokens (log ++ more) = acquiredTokens log ++ acquiredTokens more := filterMap_append

theorem orderly_nil : Orderly [] := by
  intro before event after split
  cases before <;> cases split

theorem Orderly.append_single {event : ClaimEvent} (orderly : Orderly log) (permitted : Permitted log event) :
    Orderly (log ++ [event]) := by
  intro before other after split
  rcases eq_nil_or_concat after with rfl | ⟨shorter, last, rfl⟩
  · obtain ⟨rfl, rest⟩ := append_inj' split rfl
    rw [cons.injEq] at rest
    rw [← rest.1]
    exact permitted
  · refine orderly before other shorter ?_
    have longer : log ++ [event] = (before ++ other :: shorter) ++ [last] := by
      rw [split]
      simp
    exact (append_inj' longer rfl).1

theorem owner_stays {token : String} (orderly : Orderly (before ++ between))
    (owned : owner slot before = some token) (lasts : ∀ record now, .lapsed slot record now ∉ between) :
    owner slot (before ++ between) = some token := by
  induction between using reverseRecOn with
  | nil => rwa [append_nil]
  | append_singleton between event ih =>
    have shorter : Orderly (before ++ between) := by
      intro earlier other later split
      refine orderly earlier other (later ++ [event]) ?_
      rw [← append_assoc, split]
      simp
    have held := ih shorter fun record now inside => lasts record now (mem_append_left _ inside)
    have permitted : Permitted (before ++ between) event := orderly _ event [] (by simp)
    rw [← append_assoc]
    cases event with
    | lapsed other record now =>
      have apart : other ≠ slot := by
        rintro rfl
        exact lasts record now (by simp)
      rw [owner_lapsed, if_neg apart]
      exact held
    | claimed other fresh =>
      have apart : other ≠ slot := by
        rintro rfl
        have vacant : owner other (before ++ between) = none := permitted
        rw [held] at vacant
        cases vacant
      rw [owner_claimed, if_neg apart]
      exact held
    | acquired other taken =>
      rw [owner_acquired]
      exact held

theorem Orderly.exclusive {first second : String} (orderly : Orderly log) (distinct : (acquiredTokens log).Nodup)
    (split : log = before ++ .acquired slot first :: (between ++ .acquired slot second :: after)) :
    first ≠ second ∧ ∃ record now, .lapsed slot record now ∈ between ∧ record.state = .claimed ∧
      record.expiresAtMs ≤ now := by
  -- between two acquisitions of a slot its claim has lapsed
  have apart : first ≠ second := by
    rintro rfl
    rw [split, acquiredTokens_append] at distinct
    have tail := (nodup_append.mp distinct).2.1
    simp [acquiredTokens, filterMap_append] at tail
  refine ⟨apart, ?_⟩
  by_contra lasts
  have permitted : ∀ record now, .lapsed slot record now ∉ between := by
    intro record now inside
    obtain ⟨earlier, later, rfl⟩ := append_of_mem inside
    have expired : Permitted _ (.lapsed slot record now) :=
      orderly (before ++ .acquired slot first :: earlier) _ (later ++ .acquired slot second :: after) (by simp [split])
    exact lasts ⟨record, now, inside, expired⟩
  have owned : owner slot before = some first := orderly before _ _ split
  have again : owner slot (before ++ .acquired slot first :: between) = some second :=
    orderly _ (.acquired slot second) after (by simp [split])
  have whole : Orderly (before ++ .acquired slot first :: between) := by
    intro earlier event later cut
    refine orderly earlier event (later ++ .acquired slot second :: after) ?_
    rw [split, ← cons_append, ← append_assoc, cut]
    simp
  have held := owner_stays whole owned fun record now inside =>
    permitted record now ((mem_cons.mp inside).resolve_left nofun)
  rw [held] at again
  exact apart (some_inj.mp again)

end Protocol

section Tables

variable {tables : ClaimTables} {slot : ClaimSlot}

theorem find?_slot {Row : Type} {schema : Schema Row} {slotOf : Row → ClaimSlot}
    (keyed : ∀ a b, schema.conflict a b = decide (slotOf a = slotOf b)) (table : Table schema) {row : Row} :
    (table.rows.find? fun row => decide (slotOf row = slot)) = some row ↔ row ∈ table.rows ∧ slotOf row = slot := by
  constructor
  · intro found
    exact ⟨mem_of_find?_eq_some found, by simpa using find?_some found⟩
  · rintro ⟨member, same⟩
    cases found : table.rows.find? fun row => decide (slotOf row = slot) with
    | none =>
      have other := find?_eq_none.mp found row member
      simp [same] at other
    | some other =>
      have otherSlot : slotOf other = slot := by simpa using find?_some found
      have conflict : schema.conflict other row := by simp [keyed, otherSlot, same]
      rw [eq_of_conflict (mem_of_find?_eq_some found) member conflict]

theorem record?_iff {record : ClaimRecord} :
    tables.record? slot = some record ↔ record ∈ tables.records.rows ∧ record.slot = slot :=
  find?_slot (fun _ _ => rfl) tables.records

theorem claim?_iff {claim : ClaimRow} :
    tables.claim? slot = some claim ↔ claim ∈ tables.claims.rows ∧ claim.slot = slot :=
  find?_slot (fun _ _ => rfl) tables.claims

theorem claim?_of_any {token : String}
    (any : (tables.claims.rows.any fun row => decide (row.slot = slot) && row.claimToken == token)) :
    (tables.claim? slot).map ClaimRow.claimToken = some token := by
  obtain ⟨claim, member, both⟩ := any_eq_true.mp any
  simp only [Bool.and_eq_true, decide_eq_true_eq, beq_iff_eq] at both
  rw [claim?_iff.mpr ⟨member, both.1⟩, map_some, both.2]

inductive Began (tables : ClaimTables) (input : IdempotencyBeginInput) : Option (ClaimTables × Nat) → Prop
  | refused : Began tables input none
  | idle : Began tables input (some (⟨tables.records.delete input.lapses, tables.claims, tables.history⟩, 0))
  | won {records : Table claimRecordsSchema} {history : Table claimHistorySchema}
      (inserted : (tables.records.delete input.lapses).insert? input.record = some records)
      (fresh : tables.history.insert? input.historyRow = some history) :
      Began tables input (some (⟨records,
        (tables.claims.delete fun row => decide (row.slot = input.slot)).insertOrIgnore input.claim, history⟩, 1))

variable (tables : ClaimTables)

theorem beginTransaction_began (input : IdempotencyBeginInput) :
    Began tables input (beginTransaction tables input) := by
  unfold beginTransaction
  by_cases token : input.claimToken = ""
  · simp only [token, ne_eq, not_true_eq_false, if_false, and_false, Nat.zero_ne_one]
    exact .idle
  · cases inserted : (tables.records.delete input.lapses).insert? input.record with
    | none =>
      simp only [token, ne_eq, not_false_eq_true, if_true, inserted, Nat.zero_ne_one, false_and, if_false]
      exact .idle
    | some records =>
      cases fresh : tables.history.insert? input.historyRow with
      | none =>
        simp only [token, ne_eq, not_false_eq_true, if_true, inserted, and_self]
        exact .refused
      | some history =>
        simp only [token, ne_eq, not_false_eq_true, if_true, inserted, and_self]
        exact .won inserted fresh

variable {input : IdempotencyBeginInput}

theorem kept_record? (input : IdempotencyBeginInput) (claims : Table claimRowsSchema)
    (history : Table claimHistorySchema) (slot : ClaimSlot) :
    record? ⟨tables.records.delete input.lapses, claims, history⟩ slot =
      (tables.record? slot).filter fun record => !input.lapses record := by
  ext record
  rw [record?_iff, filter_eq_some_iff, record?_iff, delete_rows, mem_filter]
  tauto

theorem vacant_of_inserted {kept : Table claimRecordsSchema} (inserted : kept.insert? input.record = some records) :
    ∀ record ∈ kept.rows, record.slot ≠ input.slot := by
  intro record member same
  have free := ((accepts_iff _ _).mp (insert?_eq_some.mp inserted).1).2 record member
  simp [claimRecordsSchema, IdempotencyBeginInput.record, same] at free

theorem inserted_record? {kept : Table claimRecordsSchema} (inserted : kept.insert? input.record = some records)
    (before after : Table claimRowsSchema) (history : Table claimHistorySchema) (slot : ClaimSlot) :
    record? ⟨records, after, history⟩ slot =
      if slot = input.slot then some input.record else record? ⟨kept, before, history⟩ slot := by
  have rows := (insert?_eq_some.mp inserted).2
  have vacant := vacant_of_inserted inserted
  ext record
  rw [record?_iff, rows, mem_append, mem_singleton]
  by_cases own : slot = input.slot
  · rw [if_pos own, some_inj]
    constructor
    · rintro ⟨old | rfl, same⟩
      · exact absurd (same.trans own) (vacant record old)
      · rfl
    · rintro rfl
      exact ⟨.inr rfl, own.symm⟩
  · rw [if_neg own, record?_iff]
    constructor
    · rintro ⟨old | rfl, same⟩
      · exact ⟨old, same⟩
      · exact absurd same.symm own
    · exact fun both => ⟨.inl both.1, both.2⟩

theorem replaced_claim? (input : IdempotencyBeginInput) (records : Table claimRecordsSchema)
    (history : Table claimHistorySchema) (slot : ClaimSlot) :
    claim? ⟨records, (tables.claims.delete fun row => decide (row.slot = input.slot)).insertOrIgnore
      input.claim, history⟩ slot = if slot = input.slot then some input.claim else tables.claim? slot := by
  have accepted : (tables.claims.delete fun row => decide (row.slot = input.slot)).accepts input.claim := by
    refine (accepts_iff _ _).mpr ⟨rfl, fun row member => ?_⟩
    rw [delete_rows, mem_filter] at member
    simpa [claimRowsSchema, claim] using member.2
  ext claim
  rw [claim?_iff, insertOrIgnore_rows, if_pos accepted, mem_append, mem_singleton, delete_rows, mem_filter]
  by_cases own : slot = input.slot
  · rw [if_pos own, some_inj]
    constructor
    · rintro ⟨⟨_, other⟩ | rfl, same⟩
      · simp [same, own] at other
      · rfl
    · rintro rfl
      exact ⟨.inr rfl, own.symm⟩
  · rw [if_neg own, claim?_iff]
    constructor
    · rintro ⟨⟨old, _⟩ | rfl, same⟩
      · exact ⟨old, same⟩
      · exact absurd same.symm own
    · rintro ⟨old, same⟩
      exact ⟨.inl ⟨old, by simpa [same] using own⟩, same⟩

variable (input : IdempotencyCompleteInput)

theorem settled_record? (state : IdempotencyState)
    (short : input.responseJson.length ≤ maxTextLength) (slot : ClaimSlot) :
    record? { tables with records := tables.records.update (input.selects tables) (input.settle state short) }
      slot = (tables.record? slot).map fun record =>
        if input.selects tables record then (input.settle state short).apply record else record := by
  unfold record?
  rw [update_rows, find?_map]
  congr 2
  funext record
  simp only [Function.comp_apply]
  split <;> rfl

theorem completed_record? (slot : ClaimSlot) :
    (completeClaim tables input).record? slot = tables.record? slot ∨
      ∃ record settled, tables.record? slot = some record ∧ input.selects tables record ∧
        (completeClaim tables input).record? slot = some settled ∧ settled.state ≠ .expired := by
  unfold completeClaim
  cases named : input.state? with
  | none => exact .inl rfl
  | some state =>
    dsimp only
    split
    next short =>
      rw [settled_record?]
      cases found : tables.record? slot with
      | none => exact .inl rfl
      | some record =>
        rw [map_some]
        split
        next selected =>
          refine .inr ⟨record, _, rfl, selected, rfl, ?_⟩
          unfold IdempotencyCompleteInput.state? at named
          simp only [IdempotencyCompleteInput.settle]
          split_ifs at named <;> cases named <;> decide
        next => exact .inl rfl
    next => exact .inl rfl

theorem completed_claim? :
    (completeClaim tables input).claims = tables.claims ∧ (completeClaim tables input).history = tables.history := by
  unfold completeClaim
  split
  · exact ⟨rfl, rfl⟩
  · split <;> exact ⟨rfl, rfl⟩

end Tables

def winners (calls : List BeginCall) : List String :=
  (calls.filter fun call => decide (call.changes = 1)).map fun call => call.input.claimToken

def ClaimTables.usedTokens (tables : ClaimTables) : List String := tables.history.rows.map ClaimHistoryRow.claimToken

def ClaimTables.owner (tables : ClaimTables) (slot : ClaimSlot) : Option String :=
  (tables.record? slot).bind fun _ => (tables.claim? slot).map ClaimRow.claimToken

namespace Claimants

structure Sound (state : Claimants) : Prop where
  owned : ∀ slot, owner slot state.log = state.tables.owner slot
  live : ∀ slot record, state.tables.record? slot = some record → record.state ≠ .expired
  orderly : Orderly state.log
  distinct : (acquiredTokens state.log ++ winners state.calls).Nodup
  used : ∀ token ∈ acquiredTokens state.log ++ winners state.calls, token ∈ state.tables.usedTokens

variable {state : Claimants}

theorem sound_start : start.Sound where
  owned _ := rfl
  live _ _ found := by cases found
  orderly := orderly_nil
  distinct := nodup_nil
  used := nofun

theorem kept_other {input : IdempotencyBeginInput} {slot : ClaimSlot} (other : slot ≠ input.slot)
    (tables : ClaimTables) :
    ((tables.record? slot).filter fun record => !input.lapses record) = tables.record? slot := by
  cases found : tables.record? slot with
  | none => rfl
  | some record =>
    have own := (record?_iff.mp found).2
    simp [lapses, own, other]

theorem Sound.lapse (sound : state.Sound) (input : IdempotencyBeginInput) (history : Table claimHistorySchema) :
    Orderly (state.log ++ eventsOf state.tables input 0) ∧
    acquiredTokens (state.log ++ eventsOf state.tables input 0) = acquiredTokens state.log ∧
    ∀ slot, owner slot (state.log ++ eventsOf state.tables input 0) =
      ClaimTables.owner ⟨state.tables.records.delete input.lapses, state.tables.claims, history⟩ slot := by
  -- the log after the first statement of a begin: the slot has lost an owner whose claim has lapsed
  have kept := kept_record? state.tables input state.tables.claims history
  have claims : ∀ slot, ClaimTables.claim? ⟨state.tables.records.delete input.lapses, state.tables.claims,
      history⟩ slot = state.tables.claim? slot := fun _ => rfl
  unfold eventsOf ClaimTables.owner
  cases lapsing : (state.tables.record? input.slot).filter input.lapses with
  | none =>
    simp only [toList_none, map_nil, Nat.zero_ne_one, if_false, append_nil, true_and, sound.orderly]
    intro slot
    have same : ((state.tables.record? slot).filter fun record => !input.lapses record) =
      state.tables.record? slot := by
      by_cases own : slot = input.slot
      · rw [own]
        cases found : state.tables.record? input.slot with
        | none => rfl
        | some record =>
          rw [found] at lapsing
          simpa [filter] using lapsing
      · exact kept_other own state.tables
    rw [kept, same, claims]
    exact sound.owned slot
  | some record =>
    obtain ⟨found, lapses⟩ := filter_eq_some_iff.mp lapsing
    have permitted : Permitted state.log (.lapsed input.slot record input.nowMs) := by
      have live := sound.live input.slot record found
      have expired : record.state = .claimed ∧ record.expiresAtMs ≤ input.nowMs := by
        simpa [IdempotencyBeginInput.lapses, (record?_iff.mp found).2, live] using lapses
      exact expired
    simp only [toList_some, map_cons, map_nil, Nat.zero_ne_one, if_false, append_nil]
    refine ⟨sound.orderly.append_single permitted, ?_, fun slot => ?_⟩
    · rw [acquiredTokens_append]
      simp [acquiredTokens]
    · rw [owner_lapsed, kept, claims]
      by_cases own : input.slot = slot
      · rw [if_pos own, ← own, found]
        simp [Option.filter, lapses]
      · rw [if_neg own, kept_other (Ne.symm own)]
        exact sound.owned slot

theorem eventsOf_won (tables : ClaimTables) (input : IdempotencyBeginInput) :
    eventsOf tables input 1 = eventsOf tables input 0 ++ [.claimed input.slot input.claimToken] := by
  simp [eventsOf]

theorem winners_append (calls : List BeginCall) (call : BeginCall) :
    winners (calls ++ [call]) = winners calls ++ if call.changes = 1 then [call.input.claimToken] else [] := by
  simp only [winners, filter_append, map_append]
  congr 1
  by_cases won : call.changes = 1 <;> simp [won]

theorem Sound.idle (sound : state.Sound) (input : IdempotencyBeginInput) (maxRows : Int) :
    Sound ⟨⟨state.tables.records.delete input.lapses, state.tables.claims, state.tables.history⟩,
      state.calls ++ [⟨input, maxRows, 0⟩], state.log ++ eventsOf state.tables input 0⟩ := by
  obtain ⟨orderly, tokens, owned⟩ := sound.lapse input state.tables.history
  have calls : winners (state.calls ++ [⟨input, maxRows, 0⟩]) = winners state.calls := by simp [winners_append]
  refine ⟨owned, fun slot record found => ?_, orderly, ?_, ?_⟩
  · rw [kept_record?] at found
    exact sound.live slot record (filter_eq_some_iff.mp found).1
  · rw [tokens, calls]
    exact sound.distinct
  · rw [tokens, calls]
    exact sound.used

theorem Sound.won (sound : state.Sound) (input : IdempotencyBeginInput) (maxRows : Int)
    {history : Table claimHistorySchema}
    (inserted : (state.tables.records.delete input.lapses).insert? input.record = some records)
    (fresh : state.tables.history.insert? input.historyRow = some history) :
    Sound ⟨⟨records, (state.tables.claims.delete fun row => decide (row.slot = input.slot)).insertOrIgnore
      input.claim, history⟩, state.calls ++ [⟨input, maxRows, 1⟩], state.log ++ eventsOf state.tables input 1⟩ := by
  -- a begin whose transaction inserts a claim
  obtain ⟨orderly, tokens, owned⟩ := sound.lapse input history
  have record := inserted_record? inserted state.tables.claims
    ((state.tables.claims.delete fun row => decide (row.slot = input.slot)).insertOrIgnore input.claim) history
  have claim := replaced_claim? state.tables input records history
  have unowned : owner input.slot (state.log ++ eventsOf state.tables input 0) = none := by
    rw [owned, ClaimTables.owner]
    cases found : ClaimTables.record? ⟨state.tables.records.delete input.lapses, state.tables.claims,
      history⟩ input.slot with
    | none => rfl
    | some old => exact absurd (record?_iff.mp found).2 (vacant_of_inserted inserted old (record?_iff.mp found).1)
  obtain ⟨unused, rows⟩ := insert?_eq_some.mp fresh
  have used_after : ClaimTables.usedTokens ⟨records, (state.tables.claims.delete fun row =>
      decide (row.slot = input.slot)).insertOrIgnore input.claim, history⟩ =
      state.tables.usedTokens ++ [input.claimToken] := by
    simp [ClaimTables.usedTokens, rows, historyRow]
  have new : input.claimToken ∉ state.tables.usedTokens := by
    intro inside
    obtain ⟨old, member, same⟩ := mem_map.mp inside
    have free := ((accepts_iff _ _).mp unused).2 old member
    simp [claimHistorySchema, historyRow, same] at free
  have tokens_after : acquiredTokens (state.log ++ eventsOf state.tables input 1) ++
      winners (state.calls ++ [⟨input, maxRows, 1⟩]) =
      (acquiredTokens state.log ++ winners state.calls) ++ [input.claimToken] := by
    rw [eventsOf_won, ← append_assoc, acquiredTokens_append, tokens, winners_append]
    simp [acquiredTokens]
  refine ⟨fun slot => ?_, fun slot found_record found => ?_, ?_, ?_, ?_⟩
  · rw [eventsOf_won, ← append_assoc, owner_claimed, ClaimTables.owner, record, claim]
    by_cases own : input.slot = slot
    · rw [if_pos own, if_pos own.symm, if_pos own.symm]
      rfl
    · rw [if_neg own, if_neg (Ne.symm own), if_neg (Ne.symm own), owned]
      rfl
  · rw [record] at found
    split at found
    · cases found
      nofun
    · rw [kept_record?] at found
      exact sound.live slot found_record (filter_eq_some_iff.mp found).1
  · rw [eventsOf_won, ← append_assoc]
    exact orderly.append_single unowned
  · rw [tokens_after]
    refine nodup_append.mpr ⟨sound.distinct, nodup_singleton _, ?_⟩
    rintro token inside other last rfl
    rw [mem_singleton.mp last] at inside
    exact new (sound.used _ inside)
  · rw [tokens_after, used_after]
    intro token inside
    rcases mem_append.mp inside with earlier | last
    · exact mem_append_left _ (sound.used token earlier)
    · exact mem_append_right _ last

theorem events_cases (call : BeginCall) (tables : ClaimTables) : call.events tables = [] ∨
    (call.changes = 1 ∧ tables.owner call.input.slot = some call.input.claimToken ∧
      call.events tables = [.acquired call.input.slot call.input.claimToken]) := by
  unfold BeginCall.events BeginCall.answer ClaimTables.owner
  by_cases none : call.maxRows = 0
  · exact .inl (by simp [none])
  · cases found : tables.record? call.input.slot with
    | none => exact .inl (by simp [none])
    | some record =>
      cases acquired : decide (call.changes = 1) && tables.claims.rows.any fun row =>
          decide (row.slot = call.input.slot) && row.claimToken == call.input.claimToken with
      | false => exact .inl (by simp [none])
      | true =>
        obtain ⟨changes, holds⟩ := Bool.and_eq_true_iff.mp acquired
        refine .inr ⟨by simpa using changes, claim?_of_any holds, ?_⟩
        simp [none]

theorem Sound.answer (sound : state.Sound) {index : Nat} {call : BeginCall} (found : state.calls[index]? = some call) :
    Sound ⟨state.tables, state.calls.eraseIdx index, state.log ++ call.events state.tables⟩ := by
  rcases events_cases call state.tables with silent | ⟨won, owned, reported⟩
  · have fewer : (winners (state.calls.eraseIdx index)).Sublist (winners state.calls) :=
      ((eraseIdx_sublist _ _).filter _).map _
    have tokens : (acquiredTokens state.log ++ winners (state.calls.eraseIdx index)).Sublist
        (acquiredTokens state.log ++ winners state.calls) := (Sublist.refl _).append fewer
    rw [silent, append_nil]
    exact ⟨sound.owned, sound.live, sound.orderly, sound.distinct.sublist tokens,
      fun token member => sound.used token (tokens.subset member)⟩
  · -- the token moves from the begins that wait to those that are reported
    have moved : (acquiredTokens (state.log ++ [.acquired call.input.slot call.input.claimToken]) ++
        winners (state.calls.eraseIdx index)).Perm (acquiredTokens state.log ++ winners state.calls) := by
      obtain ⟨inside, rfl⟩ := List.getElem?_eq_some_iff.mp found
      have calls := ((getElem_cons_eraseIdx_perm inside).filter fun call => decide (call.changes = 1)).map
        fun call => call.input.claimToken
      rw [filter_cons_of_pos (by simpa using won), map_cons] at calls
      rw [acquiredTokens_append, append_assoc]
      exact calls.append_left _
    rw [reported]
    refine ⟨fun slot => ?_, sound.live, sound.orderly.append_single ?_, moved.nodup_iff.mpr sound.distinct,
      fun token member => sound.used token (moved.mem_iff.mp member)⟩
    · rw [owner_acquired]
      exact sound.owned slot
    · rw [Permitted, sound.owned]
      exact owned

theorem Sound.complete (sound : state.Sound) (input : IdempotencyCompleteInput) :
    Sound ⟨completeClaim state.tables input, state.calls, state.log⟩ := by
  obtain ⟨claims, history⟩ := completed_claim? state.tables input
  refine ⟨fun slot => ?_, fun slot record found => ?_, sound.orderly, sound.distinct, ?_⟩
  · have claim : (completeClaim state.tables input).claim? slot = state.tables.claim? slot := by
      unfold ClaimTables.claim?
      rw [claims]
    rw [ClaimTables.owner, claim]
    rcases completed_record? state.tables input slot with same | ⟨record, settled, before, _, after, _⟩
    · rw [same]
      exact sound.owned slot
    · have owned := sound.owned slot
      rw [ClaimTables.owner, before] at owned
      rw [after]
      exact owned
  · rcases completed_record? state.tables input slot with same | ⟨_, settled, _, _, after, live⟩
    · rw [same] at found
      exact sound.live slot record found
    · rw [after] at found
      cases found
      exact live
  · unfold ClaimTables.usedTokens
    rw [history]
    exact sound.used

theorem Sound.step (sound : state.Sound) (label : ClaimLabel) : (state.step label).Sound := by
  cases label with
  | transact input maxRows =>
    have began := beginTransaction_began state.tables input
    simp only [Claimants.step]
    generalize beginTransaction state.tables input = outcome at began
    cases began with
    | refused => exact sound
    | idle => exact sound.idle input maxRows
    | won inserted fresh => exact sound.won input maxRows inserted fresh
  | answer index =>
    simp only [Claimants.step]
    cases found : state.calls[index]? with
    | none => exact sound
    | some call => exact sound.answer found
  | complete input => exact sound.complete input

theorem sound_run (labels : List ClaimLabel) : (run labels).Sound := by
  unfold run
  induction labels using reverseRecOn with
  | nil => exact sound_start
  | append_singleton labels label ih =>
    rw [foldl_append]
    exact ih.step label

theorem step_settled {slot : ClaimSlot} {record : ClaimRecord} (found : state.tables.record? slot = some record)
    (settled : record.state = .completed ∨ record.state = .failed) (label : ClaimLabel) :
    (state.step label).tables.record? slot = some record := by
  have kept : ∀ input : IdempotencyBeginInput, input.lapses record = false := by
    intro input
    rcases settled with done | done <;> simp [lapses, done]
  cases label with
  | transact input maxRows =>
    have began := beginTransaction_began state.tables input
    have stays : ∀ claims history, record? ⟨state.tables.records.delete input.lapses, claims, history⟩ slot =
        some record := by
      intro claims history
      rw [kept_record?, found]
      simp [kept]
    simp only [Claimants.step]
    generalize beginTransaction state.tables input = outcome at began
    cases began with
    | refused => exact found
    | idle => exact stays _ _
    | won inserted fresh =>
      have other : slot ≠ input.slot := by
        rintro rfl
        obtain ⟨member, same⟩ := record?_iff.mp (stays state.tables.claims state.tables.history)
        exact vacant_of_inserted inserted record member same
      rw [inserted_record? inserted state.tables.claims, if_neg other]
      exact stays _ _
  | answer index =>
    simp only [Claimants.step]
    split <;> exact found
  | complete input =>
    simp only [Claimants.step]
    rcases completed_record? state.tables input slot with same | ⟨before, _, present, selected, _, _⟩
    · rw [same]
      exact found
    · rw [found] at present
      cases present
      rcases settled with done | done <;> simp [IdempotencyCompleteInput.selects, done] at selected

end Claimants

theorem claims_exclusive (labels : List ClaimLabel) :
    (∀ slot before between after first second, (Claimants.run labels).log =
        before ++ .acquired slot first :: (between ++ .acquired slot second :: after) →
      first ≠ second ∧ ∃ record now, .lapsed slot record now ∈ between ∧ record.state = .claimed ∧
        record.expiresAtMs ≤ now) ∧
    (∀ slot input, (completeClaim (Claimants.run labels).tables input).record? slot ≠
        (Claimants.run labels).tables.record? slot →
      slot = input.slot ∧ owner slot (Claimants.run labels).log = some input.claimToken ∧
      ∃ record, (Claimants.run labels).tables.record? slot = some record ∧ record.state = .claimed ∧
        record.requestHash = input.requestHash ∧ input.nowMs < record.expiresAtMs) ∧
    ∀ slot record, (Claimants.run labels).tables.record? slot = some record →
      (record.state = .completed ∨ record.state = .failed) →
      ∀ more, (Claimants.run (labels ++ more)).tables.record? slot = some record := by
  -- between two answers for a slot its claim lapsed after its expiry
  have sound := Claimants.sound_run labels
  refine ⟨fun slot before between after first second split => ?_, fun slot input changed => ?_, ?_⟩
  · exact sound.orderly.exclusive (nodup_append.mp sound.distinct).1 split
  · rcases completed_record? (Claimants.run labels).tables input slot with same | ⟨record, _, found, selected, _, _⟩
    · exact absurd same changed
    · simp only [IdempotencyCompleteInput.selects, IdempotencyCompleteInput.holds, Bool.and_eq_true, decide_eq_true_eq,
        beq_iff_eq, any_eq_true] at selected
      obtain ⟨⟨⟨⟨⟨own, hash⟩, claimed⟩, unexpired⟩, _⟩, claim, member, ⟨claimSlot, _⟩, token⟩ := selected
      have slots : slot = input.slot := (record?_iff.mp found).2.symm.trans own
      refine ⟨slots, ?_, record, found, claimed, hash, unexpired⟩
      rw [sound.owned, ClaimTables.owner, found, bind_some, claim?_iff.mpr ⟨member, claimSlot.trans slots.symm⟩,
        map_some, token]
  · intro slot record found settled more
    induction more using reverseRecOn with
    | nil => rwa [append_nil]
    | append_singleton more label ih =>
      rw [← append_assoc, Claimants.run, foldl_append]
      exact Claimants.step_settled ih settled label

end RustScriptAgent.Storage
