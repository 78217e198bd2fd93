import RustScriptAgent.Shared.Marks
import RustScriptAgent.Shared.Occurrences
import RustScriptAgent.Tools.Patch

namespace RustScriptAgent.Tools.Patch

open Capabilities Checks Occurrences

variable {count fuel : Nat} {scan : Scan} {text : List Char}

section Yields

variable {Answer Result : Type} {control : Controls} {answer : Except ToolError Answer} {value : Answer}

def Yields (control : Controls) (answer : Except ToolError Answer) (value : Answer) : Prop :=
  answer = .ok value ∨ ∃ check error, control check = .error error ∧ answer = .error error

theorem Yields.after_check {check : Nat} {rest : Unit → Except ToolError Answer}
    (yields : Yields control (rest ()) value) :
    Yields control (control check >>= rest) value := by
  cases checked : control check with
  | ok passed => exact yields
  | error failure => exact .inr ⟨check, failure, checked, rfl⟩

theorem Yields.bind {rest : Answer → Except ToolError Result} {result : Result} (yields : Yields control answer value)
    (more : Yields control (rest value) result) : Yields control (answer >>= rest) result := by
  rcases yields with ok | ⟨check, error, checked, failed⟩
  · rw [ok]
    exact more
  · rw [failed]
    exact .inr ⟨check, error, checked, rfl⟩

end Yields

section Position

variable {source needle fresh out : List Char} {start index : Nat}

theorem slice_eq_iff : slice source index (index + needle.length) = needle ↔ OccursAt needle source index := by
  rw [slice, Nat.add_sub_cancel_left, OccursAt, List.prefix_iff_eq_take, eq_comm]

theorem absent_of_not_canScan (nonempty : needle ≠ []) (later : start ≤ index)
    (clear : ∀ position < index - start, ¬ OccursAt needle (source.drop start) position)
    (ended : canScan index needle.length source.length = false) :
    ∀ position, ¬ OccursAt needle (source.drop start) position := by
  intro position occurs
  by_cases passed : position < index - start
  · exact clear position passed occurs
  · have fits := (occursAt_drop.mp occurs).fits nonempty
    simp only [canScan, Bool.and_eq_false_iff, decide_eq_false_iff_not] at ended
    omega

theorem clear_succ (later : start ≤ index)
    (clear : ∀ position < index - start, ¬ OccursAt needle (source.drop start) position)
    (missing : ¬ OccursAt needle source index) :
    ∀ position < index + 1 - start, ¬ OccursAt needle (source.drop start) position := by
  intro position passed occurs
  by_cases here : position < index - start
  · exact clear position here occurs
  · have same : start + position = index := by omega
    exact missing (same ▸ occursAt_drop.mp occurs)

theorem next_of_found {limit : ℕ∞} (replaced : Replaced needle fresh limit count (source.drop start) out)
    (more : limit ≠ 0) (later : start ≤ index)
    (clear : ∀ position < index - start, ¬ OccursAt needle (source.drop start) position)
    (found : OccursAt needle source index) :
    ∃ limit' count' out', limit = limit' + 1 ∧ count = count' + 1 ∧ out = slice source start index ++ fresh ++ out' ∧
      Replaced needle fresh limit' count' (source.drop (index + needle.length)) out' := by
  have here : OccursAt needle (source.drop start) (index - start) := by
    rw [occursAt_drop, Nat.add_sub_cancel' later]
    exact found
  obtain ⟨limit', count', out', limited, counted, same, rest⟩ := replaced.at_occurrence more here clear
  refine ⟨limit', count', out', limited, counted, same, ?_⟩
  rwa [List.drop_drop, ← Nat.add_assoc, Nat.add_sub_cancel' later] at rest

end Position

section Count

variable {control : Controls} {source needle fresh out : List Char}

theorem countLoop_yields (nonempty : needle ≠ []) {start index scanned checks more : Nat}
    (enough : source.length < fuel + index) (within : index ≤ source.length) (later : start ≤ index)
    (clear : ∀ position < index - start, ¬ OccursAt needle (source.drop start) position)
    (replaced : Replaced needle fresh ⊤ more (source.drop start) out) :
    Yields control (countLoop control source needle fuel index count scanned checks) (count + more) := by
  -- from any position the loop counts the occurrences that are still to be replaced
  have positive := List.length_pos_iff.mpr nonempty
  induction fuel generalizing start index count scanned checks more out with
  | zero => omega
  | succ fuel ih =>
    rw [countLoop]
    by_cases scans : canScan index needle.length source.length
    · -- the turn itself, whatever the count of turns since the last control check
      have turn : ∀ scanned checks, Yields control
          (countLoop control source needle fuel
            (if slice source index (index + needle.length) = needle then index + needle.length else index + 1)
            (if slice source index (index + needle.length) = needle then count + 1 else count) scanned checks)
          (count + more) := by
        intro scanned checks
        by_cases found : slice source index (index + needle.length) = needle
        · have occurs := slice_eq_iff.mp found
          obtain ⟨limit', more', out', limited, rfl, -, rest⟩ := next_of_found replaced (by simp) later clear occurs
          have fits := occurs.fits nonempty
          obtain rfl : limit' = ⊤ := by simpa using limited.symm
          rw [if_pos found, if_pos found, show count + (more' + 1) = count + 1 + more' by omega]
          exact ih (by omega) fits (Nat.le_refl _) (by simp) rest
        · have room : index + 1 ≤ source.length := by
            simp only [canScan, Bool.and_eq_true, decide_eq_true_eq] at scans
            omega
          rw [if_neg found, if_neg found]
          exact ih (by omega) room (by omega)
            (clear_succ later clear fun occurs => found (slice_eq_iff.mpr occurs)) replaced
      rw [if_pos scans]
      dsimp only
      split
      · exact .after_check (turn 0 (checks + 1))
      · exact turn (scanned + 1) checks
    · rw [if_neg scans]
      obtain ⟨rfl, -⟩ := replaced.of_absent
        (absent_of_not_canScan nonempty later clear (by simpa using scans))
      exact .inl rfl

theorem countMatches_yields (nonempty : needle ≠ []) (replaced : Replaced needle fresh ⊤ count source out) :
    Yields control (countMatches control source needle) count := by
  have all : Replaced needle fresh ⊤ count (source.drop 0) out := replaced
  rw [countMatches, ← Nat.zero_add count]
  exact countLoop_yields nonempty (by omega) (Nat.zero_le _) (Nat.le_refl 0) (by simp) all

end Count

section Replace

variable {control : Controls} {source old new out : List Char} {limit : Nat}

theorem pushChunk_ok {maxChunks : Nat} {chunks : List (List Char)} (room : chunks.length < maxChunks)
    (chunk : List Char) :
    ∃ pushed, pushChunk maxChunks chunks chunk = .ok pushed ∧ pushed.flatten = chunks.flatten ++ chunk ∧
      pushed.length ≤ chunks.length + 1 := by
  rw [pushChunk]
  by_cases empty : chunk.length = 0
  · obtain rfl := List.length_eq_zero_iff.mp empty
    exact ⟨chunks, if_pos rfl, by simp, by omega⟩
  · rw [if_neg empty, if_neg (by omega)]
    exact ⟨_, rfl, by simp, by simp⟩

variable (new) in
theorem replaceTurn_found (more : scan.replaced < limit) (few : scan.chunks.length ≤ 2 * scan.replaced)
    (found : OccursAt old source scan.index) :
    ∃ chunks, replaceTurn source old new limit (limit * 2 + 1) scan = .ok
        { scan with
          chunks
          index := scan.index + old.length
          start := scan.index + old.length
          replaced := scan.replaced + 1 } ∧
      chunks.flatten = scan.chunks.flatten ++ slice source scan.start scan.index ++ new ∧
      chunks.length ≤ 2 * (scan.replaced + 1) := by
  obtain ⟨first, ok, joined, length⟩ :=
    pushChunk_ok (show scan.chunks.length < limit * 2 + 1 by omega) (slice source scan.start scan.index)
  obtain ⟨second, ok', joined', length'⟩ := pushChunk_ok (show first.length < limit * 2 + 1 by omega) new
  refine ⟨second, ?_, by rw [joined', joined], by omega⟩
  rw [replaceTurn, if_neg (by omega), if_pos (slice_eq_iff.mpr found), ok]
  change (do let chunks ← pushChunk (limit * 2 + 1) first new; _) = _
  rw [ok']
  rfl

structure Scan.At (source old new : List Char) (limit : Nat) (text : List Char) (scan : Scan) : Prop where
  few : scan.chunks.length ≤ 2 * scan.replaced
  limited : scan.replaced ≤ limit
  ordered : scan.start ≤ scan.index
  within : scan.index ≤ source.length
  clear : ∀ position < scan.index - scan.start, ¬ OccursAt old (source.drop scan.start) position
  rest : ∃ count out, Replaced old new ↑(limit - scan.replaced) count (source.drop scan.start) out ∧
    scan.chunks.flatten ++ out = text

structure Scan.Ends (source : List Char) (limit : Nat) (text : List Char) (scan : Scan) : Prop where
  few : scan.chunks.length ≤ 2 * limit
  joined : scan.chunks.flatten ++ source.drop scan.start = text

theorem Scan.At.recounted (at_ : scan.At source old new limit text) (scanned checks : Nat) :
    Scan.At source old new limit text { scan with scanned, checks } :=
  ⟨at_.few, at_.limited, at_.ordered, at_.within, at_.clear, at_.rest⟩

theorem replaceTurn_at (nonempty : old ≠ []) (at_ : scan.At source old new limit text)
    (scans : canScan scan.index old.length source.length) :
    ∃ next, replaceTurn source old new limit (limit * 2 + 1) scan = .ok next ∧
      (scan.index < next.index ∧ next.At source old new limit text ∨
        next.index = source.length ∧ next.Ends source limit text) := by
  -- a turn either moves the scan on or, with the limit reached, sends it to the end of the source
  obtain ⟨count, out, replaced, joined⟩ := at_.rest
  have positive := List.length_pos_iff.mpr nonempty
  have limited := at_.limited
  have few := at_.few
  have ordered := at_.ordered
  have room : scan.index + old.length ≤ source.length := by
    simp only [canScan, Bool.and_eq_true, decide_eq_true_eq] at scans
    omega
  by_cases full : scan.replaced = limit
  · rw [full, Nat.sub_self, Nat.cast_zero] at replaced
    obtain ⟨-, rfl⟩ := replaced.of_zero
    refine ⟨{ scan with index := source.length }, by rw [replaceTurn, if_pos full], .inr ⟨rfl, ?_, joined⟩⟩
    rw [← full]
    exact few
  · by_cases found : OccursAt old source scan.index
    · obtain ⟨chunks, turned, flat, few'⟩ := replaceTurn_found new (show scan.replaced < limit by omega) few found
      obtain ⟨limit', count', out', same, -, rfl, rest⟩ :=
        next_of_found replaced (by rw [Nat.cast_ne_zero]; omega) ordered at_.clear found
      have lower : limit' = ↑(limit - (scan.replaced + 1)) := by
        cases limit' with
        | top => simp at same
        | coe n =>
          norm_cast at same ⊢
          omega
      have fewer : scan.replaced + 1 ≤ limit := by omega
      refine ⟨_, turned, .inl ⟨by simpa using positive, few', fewer, Nat.le_refl _, room, by simp, count',
        out', ?_, ?_⟩⟩
      · rwa [lower] at rest
      · rw [flat, ← joined]
        simp
    · refine ⟨{ scan with index := scan.index + 1 },
        by rw [replaceTurn, if_neg full, if_neg (fun same => found (slice_eq_iff.mp same))],
        .inl ⟨Nat.lt_succ_self _, few, limited, Nat.le_succ_of_le ordered, ?_, clear_succ ordered at_.clear found,
          count, out, replaced, joined⟩⟩
      exact show scan.index + 1 ≤ source.length by omega

variable (control) in
theorem replaceLoop_yields (nonempty : old ≠ []) (enough : source.length < fuel + scan.index)
    (here : scan.At source old new limit text ∨ scan.index = source.length ∧ scan.Ends source limit text) :
    ∃ ended, Yields control (replaceLoop control source old new limit (limit * 2 + 1) fuel scan) ended ∧
      ended.Ends source limit text := by
  have positive := List.length_pos_iff.mpr nonempty
  induction fuel generalizing scan with
  | zero =>
    rcases here with at_ | ⟨last, ends⟩
    · have := at_.within
      omega
    · omega
  | succ fuel ih =>
    rw [replaceLoop]
    by_cases scans : canScan scan.index old.length source.length
    · rw [if_pos scans]
      dsimp only
      rcases here with at_ | ⟨last, ends⟩
      · obtain ⟨next, turned, moved⟩ := replaceTurn_at nonempty at_ scans
        have later : source.length < fuel + next.index := by
          have := at_.within
          simp only [canScan, Bool.and_eq_true, decide_eq_true_eq] at scans
          omega
        rw [turned]
        have moved' : ∀ scanned checks, Scan.At source old new limit text { next with scanned, checks } ∨
            next.index = source.length ∧ Scan.Ends source limit text { next with scanned, checks } :=
              fun scanned checks =>
          moved.imp (fun on => on.2.recounted scanned checks) fun last => ⟨last.1, last.2.few, last.2.joined⟩
        split
        · obtain ⟨ended, yields, ends⟩ := ih (by exact later) (moved' 0 (next.checks + 1))
          exact ⟨ended, .after_check yields, ends⟩
        · exact ih (by exact later) (moved' (next.scanned + 1) next.checks)
      · simp only [canScan, Bool.and_eq_true, decide_eq_true_eq] at scans
        omega
    · rw [if_neg scans]
      refine ⟨scan, .inl rfl, ?_⟩
      rcases here with at_ | ⟨-, ends⟩
      · obtain ⟨count, out, replaced, joined⟩ := at_.rest
        obtain ⟨-, rfl⟩ := replaced.of_absent
          (absent_of_not_canScan nonempty at_.ordered at_.clear (by simpa using scans))
        have := at_.few
        have := at_.limited
        exact ⟨by omega, joined⟩
      · exact ends

theorem flatten_joinPairs (chunks : List (List Char)) : (joinPairs chunks).flatten = chunks.flatten := by
  fun_induction joinPairs chunks with
  | case1 left right rest ih => simp [ih]
  | case2 rest single => rfl

theorem length_joinPairs (chunks : List (List Char)) : (joinPairs chunks).length = (chunks.length + 1) / 2 := by
  fun_induction joinPairs chunks with
  | case1 left right rest ih =>
    simp only [List.length_cons, ih]
    omega
  | case2 rest single =>
    rcases rest with _ | ⟨left, _ | ⟨right, rest⟩⟩
    · simp
    · simp
    · exact (single left right rest rfl).elim

theorem joinLoop_joined {chunks : List (List Char)} (enough : chunks.length ≤ fuel + 1) :
    (joinLoop fuel chunks).flatten = chunks.flatten ∧ (joinLoop fuel chunks).length ≤ 1 := by
  induction fuel generalizing chunks with
  | zero => exact ⟨rfl, by simpa [joinLoop] using enough⟩
  | succ fuel ih =>
    rw [joinLoop]
    by_cases several : 1 < chunks.length
    · have shorter := length_joinPairs chunks
      obtain ⟨flat, short⟩ := ih (show (joinPairs chunks).length ≤ fuel + 1 by omega)
      rw [if_pos several]
      exact ⟨flat.trans (flatten_joinPairs chunks), short⟩
    · rw [if_neg several]
      exact ⟨rfl, by omega⟩

theorem joinStringChunks_eq (chunks : List (List Char)) : joinStringChunks chunks = chunks.flatten := by
  obtain ⟨flat, short⟩ := joinLoop_joined (Nat.le_succ chunks.length)
  rw [joinStringChunks, ← flat]
  rcases joined : joinLoop chunks.length chunks with _ | ⟨text, _ | ⟨more, rest⟩⟩
  · rfl
  · simp
  · rw [joined] at short
    simp at short

theorem replaceText_yields (nonempty : old ≠ []) (small : limit ≤ 2147483646)
    (replaced : Replaced old new limit count source out) :
    Yields control (replaceText control source old new limit) out := by
  have at_ : Scan.At source old new limit out ⟨[], 0, 0, 0, 0, 0⟩ :=
    ⟨Nat.zero_le _, Nat.zero_le _, Nat.le_refl 0, Nat.zero_le _, by simp, count, out, by simpa using replaced, by simp⟩
  obtain ⟨ended, scanned, few, joined⟩ :=
    replaceLoop_yields control nonempty (Nat.lt_succ_self source.length) (.inl at_)
  obtain ⟨pushed, ok, flat, -⟩ :=
    pushChunk_ok (show ended.chunks.length < limit * 2 + 1 by omega) (slice source ended.start source.length)
  have tail : slice source ended.start source.length = source.drop ended.start := by
    rw [slice, ← List.length_drop, List.take_length]
  rw [replaceText, chunkBound, if_pos small]
  refine scanned.bind ?_
  rw [ok]
  refine Yields.after_check ?_
  refine .inl ?_
  rw [joinStringChunks_eq, flat, tail, joined]
  rfl

end Replace

theorem chooseLimit_ok {replaceAll : Bool} {limit : Nat} (chosen : chooseLimit replaceAll count = .ok limit) :
    limit = count ∧ (replaceAll = false → count = 1) := by
  rw [chooseLimit] at chosen
  split at chosen
  next => cases chosen
  next some =>
    split at chosen
    next => cases chosen
    next few =>
      cases replaceAll with
      | true => exact ⟨(Except.ok.inj chosen).symm, nofun⟩
      | false =>
        have single : count = 1 := by
          simp only [and_true] at few
          omega
        exact ⟨(Except.ok.inj chosen).symm.trans single.symm, fun _ => single⟩

theorem replaced_of_chosen {old new source out : List Char} {replaceAll : Bool} {limit : Nat}
    (replaced : Replaced old new ⊤ count source out) (chosen : chooseLimit replaceAll count = .ok limit) :
    Replaced old new limit limit source out ∧ Replaced old new (if replaceAll then ⊤ else 1) limit source out := by
  obtain ⟨rfl, single⟩ := chooseLimit_ok chosen
  refine ⟨replaced.at_count, ?_⟩
  cases replaceAll with
  | true => exact replaced
  | false => simpa [single rfl] using (single rfl ▸ replaced).at_count

structure Requested (config : Config) (host : Host) (arguments : Arguments) (request : Request) : Prop where
  nonempty : arguments.oldString ≠ ""
  read : readSource config host = .ok (request.source, request.expectedHash)
  edited : ∃ count, countMatches host.counting request.source.toList arguments.oldString.toList = .ok count ∧
    chooseLimit arguments.replaceAll count = .ok request.replacements ∧
    replaceText host.replacing request.source.toList arguments.oldString.toList arguments.newString.toList
      request.replacements = .ok request.updated.toList

theorem requested {config : Config} {host : Host} {arguments : Arguments} {asked : Request}
    (ok : request config host arguments = .ok asked) : Requested config host arguments asked := by
  unfold request at ok
  obtain ⟨-, ok⟩ := andThen_ok.mp ok
  obtain ⟨-, ok⟩ := andThen_ok.mp ok
  obtain ⟨nonempty, ok⟩ := andThen_ok.mp ok
  obtain ⟨⟨source, expectedHash⟩, read, ok⟩ := passed_bind ok
  obtain ⟨count, counted, ok⟩ := passed_bind ok
  obtain ⟨replacements, chosen, ok⟩ := passed_bind ok
  obtain ⟨text, replaced, ok⟩ := passed_bind ok
  obtain ⟨-, ok⟩ := andThen_ok.mp ok
  obtain ⟨-, ok⟩ := andThen_ok.mp ok
  cases ok
  refine ⟨by simpa using nonempty, read, count, orUnpublished_ok.mp counted, chosen, ?_⟩
  simpa using orUnpublished_ok.mp replaced

theorem replaceText_limit {control : Controls} {source old new : List Char} {limit : Nat}
    (ok : replaceText control source old new limit = .ok text) : limit ≤ 2147483646 := by
  by_contra large
  rw [replaceText, chunkBound, if_neg large] at ok
  cases ok

theorem Yields.eq_of_ok {Answer : Type} {control : Controls} {answer : Except ToolError Answer} {value other : Answer}
    (yields : Yields control answer value) (ok : answer = .ok other) : other = value := by
  rcases yields with same | ⟨check, error, checked, failed⟩
  · exact Except.ok.inj (ok.symm.trans same)
  · cases ok.symm.trans failed

theorem Requested.replaced {config : Config} {host : Host} {arguments : Arguments} {request : Request}
    (requested : Requested config host arguments request) :
    ∃ count, chooseLimit arguments.replaceAll count = .ok request.replacements ∧
      Replaced arguments.oldString.toList arguments.newString.toList ⊤ count request.source.toList
        request.updated.toList := by
  obtain ⟨count, counted, chosen, edited⟩ := requested.edited
  have nonempty : arguments.oldString.toList ≠ [] := by simpa using requested.nonempty
  obtain ⟨count', out, replaced⟩ := exists_replaced arguments.newString.toList nonempty request.source.toList
  obtain rfl := (countMatches_yields nonempty replaced).eq_of_ok counted
  have limited := (replaced_of_chosen replaced chosen).1
  obtain same := (replaceText_yields nonempty (replaceText_limit edited) limited).eq_of_ok edited
  exact ⟨count, chosen, same ▸ replaced⟩

end RustScriptAgent.Tools.Patch
