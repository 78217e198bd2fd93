import RustScriptAgent.Transport.Framing

namespace RustScriptAgent.Transport

namespace EventSource

def withoutBom (stream : Bytes) : Bytes := if bom.isPrefixOf stream then stream.drop bom.length else stream

def skipLineFeed : Bytes → Bytes
  | [] => []
  | byte :: rest => if byte = lineFeed then rest else byte :: rest

theorem skipLineFeed_length (bytes : Bytes) : (skipLineFeed bytes).length ≤ bytes.length := by
  cases bytes with
  | nil => exact Nat.le_refl _
  | cons byte rest =>
    rw [skipLineFeed]
    split
    · exact Nat.le_succ _
    · exact Nat.le_refl _

structure Lines where
  ended : List Bytes
  tail : Bytes

def Lines.afterBreak (lines : Lines) : Lines := ⟨[] :: lines.ended, lines.tail⟩

def Lines.afterBytes (start : Bytes) : Lines → Lines
  | ⟨[], tail⟩ => ⟨[], start ++ tail⟩
  | ⟨line :: rest, tail⟩ => ⟨(start ++ line) :: rest, tail⟩

def lines : Bytes → Lines
  | [] => ⟨[], []⟩
  | byte :: rest =>
    if byte = carriageReturn then (lines (skipLineFeed rest)).afterBreak
    else if byte = lineFeed then (lines rest).afterBreak
    else (lines rest).afterBytes [byte]
termination_by bytes => bytes.length
decreasing_by
  · exact Nat.lt_succ_of_le (skipLineFeed_length rest)
  · exact Nat.lt_succ_self _
  · exact Nat.lt_succ_self _

def dataValue (line : Bytes) : Option Bytes :=
  if (splitField line).1 = dataField then some (stripSpace (splitField line).2) else none

def payload (block : List Bytes) : Option Bytes :=
  match block.filterMap dataValue with
  | [] => none
  | values => some (List.intercalate [lineFeed] values)

def fault (maxLineBytes maxDataBytes : Nat) (block : List Bytes) (line : Bytes) : Option FrameError :=
  if maxLineBytes < line.length then some .lineTooLong
  else if validUtf8 line = false then some .invalidUtf8
  else if (dataValue line).isSome ∧ maxDataBytes < ((payload (block ++ [line])).getD []).length then some .dataTooLong
  else none

/-- A blank line ends an item; at the end of the stream an unterminated one is discarded. -/
def parseLines (maxLineBytes maxDataBytes : Nat) (tail : Bytes) : (block : List Bytes) → List Bytes → Framed
  | _, [] => { error := if maxLineBytes < tail.length then some .lineTooLong else none }
  | block, line :: rest =>
    match fault maxLineBytes maxDataBytes block line with
    | some error => { error := some error }
    | none =>
      if line = [] then
        let later := parseLines maxLineBytes maxDataBytes tail [] rest
        { later with records := (payload block).toList ++ later.records }
      else parseLines maxLineBytes maxDataBytes tail (block ++ [line]) rest

def parse (maxLineBytes maxDataBytes : Nat) (stream : Bytes) : Framed :=
  let text := lines (withoutBom stream)
  parseLines maxLineBytes maxDataBytes text.tail [] text.ended

end EventSource

open EventSource SseFramer List

theorem intercalate_concat (separator : Bytes) {values : List Bytes} (some : values ≠ []) (value : Bytes) :
    intercalate separator (values ++ [value]) = intercalate separator values ++ separator ++ value := by
  induction values with
  | nil => exact absurd rfl some
  | cons first rest ih =>
    cases rest with
    | nil => simp [intercalate]
    | cons second rest =>
      have later := ih (cons_ne_nil _ _)
      rw [cons_append, cons_append, intercalate_cons_cons, ← cons_append, later, intercalate_cons_cons]
      simp only [append_assoc]

theorem payload_of_values {block : List Bytes} (values : block.filterMap dataValue ≠ []) :
    payload block = some (intercalate [lineFeed] (block.filterMap dataValue)) := by
  unfold payload
  split
  next none => exact absurd none values
  next => rfl

theorem payload_ignored {line : Bytes} (ignored : dataValue line = none) (block : List Bytes) :
    payload (block ++ [line]) = payload block := by
  simp [payload, filterMap_append, ignored]

theorem payload_data {line value : Bytes} (data : dataValue line = some value) (block : List Bytes) :
    payload (block ++ [line]) = some ((payload block).elim value fun item => item ++ [lineFeed] ++ value) := by
  have values : (block ++ [line]).filterMap dataValue = block.filterMap dataValue ++ [value] := by
    simp [filterMap_append, data]
  rw [payload_of_values (by simp [values]), values]
  cases none : block.filterMap dataValue with
  | nil => simp [payload, none, intercalate]
  | cons first rest =>
    have some : block.filterMap dataValue ≠ [] := by simp [none]
    rw [← none, payload_of_values some, intercalate_concat _ some]
    rfl

variable (maxLineBytes maxDataBytes : Nat)

def holding (afterCr : Bool) (block : List Bytes) (line : Bytes) : SseFramer where
  maxLineBytes := maxLineBytes
  maxDataBytes := maxDataBytes
  bomDecided := true
  afterCr := afterCr
  line := line
  data := (payload block).getD []
  hasData := (payload block).isSome

variable {maxLineBytes maxDataBytes} {block : List Bytes} {line : Bytes}

theorem payload_length (block : List Bytes) {value : Bytes} (data : dataValue line = some value) :
    ((payload (block ++ [line])).getD []).length =
      ((payload block).getD []).length + (value.length + (payload block).isSome.toNat) := by
  rw [payload_data data]
  cases payload block with
  | none => simp
  | some item => simp

theorem processLine_holding (afterCr : Bool) (fits : line.length ≤ maxLineBytes) :
    (holding maxLineBytes maxDataBytes afterCr block line).processLine =
      match fault maxLineBytes maxDataBytes block line with
      | some error => .error error
      | none =>
        if line = [] then .ok (payload block, holding maxLineBytes maxDataBytes afterCr [] [])
        else .ok (none, holding maxLineBytes maxDataBytes afterCr (block ++ [line]) []) := by
  -- the end of a line is one step of the reference
  unfold processLine fault
  rw [if_neg (Nat.not_lt.mpr fits)]
  dsimp only [holding]
  by_cases valid : validUtf8 line = false
  · simp only [valid, if_true]
  simp only [valid]
  by_cases blank : line = []
  · subst blank
    cases payload block with
    | none => simp [dataValue, splitField, dataField, payload]
    | some item => simp [dataValue, splitField, dataField, payload]
  simp only [blank, if_false]
  by_cases comment : line.head? = some colon
  · have ignored : dataValue line = none := by
      obtain ⟨rest, rfl⟩ := head?_eq_some_iff.mp comment
      simp [dataValue, splitField, dataField]
    simp [comment, ignored, payload_ignored ignored]
  simp only [comment, if_false]
  by_cases data : (splitField line).1 = dataField
  · have value : dataValue line = some (stripSpace (splitField line).2) := if_pos data
    have length := payload_length block value
    rw [payload_data value] at length ⊢
    simp only [data, if_true, value, Option.isSome_some, true_and]
    by_cases long : maxDataBytes < ((payload block).getD []).length +
        ((stripSpace (splitField line).2).length + (payload block).isSome.toNat)
    · rw [length]
      simp only [long, if_true]
      rfl
    · rw [length]
      simp only [long, if_false]
      cases payload block with
      | none => simp
      | some item => simp
  · have ignored : dataValue line = none := if_neg data
    simp [data, ignored, payload_ignored ignored]

theorem feed_afterCr (block : List Bytes) (bytes : Bytes) :
    (holding maxLineBytes maxDataBytes true block []).feed bytes =
      (holding maxLineBytes maxDataBytes false block []).feed (skipLineFeed bytes) := by
  cases bytes with
  | nil => rfl
  | cons byte rest =>
    rw [skipLineFeed]
    by_cases lf : byte = lineFeed
    · subst lf
      rw [if_pos rfl]
      rfl
    · rw [if_neg lf, feed, feed]
      simp [pushByte, processByte, holding, lf]

theorem Lines.afterBytes_nil (text : Lines) : text.afterBytes [] = text := by
  rcases text with ⟨_ | ⟨line, rest⟩, tail⟩ <;> rfl

theorem Lines.afterBytes_afterBreak (text : Lines) (line : Bytes) :
    text.afterBreak.afterBytes line = ⟨line :: text.ended, text.tail⟩ := by
  simp [Lines.afterBreak, Lines.afterBytes]

theorem Lines.afterBytes_append (text : Lines) (first second : Bytes) :
    (text.afterBytes second).afterBytes first = text.afterBytes (first ++ second) := by
  rcases text with ⟨_ | ⟨line, rest⟩, tail⟩ <;> simp [Lines.afterBytes]

def SseFramer.Step.followed (step : SseFramer.Step) (rest : Bytes) : Framed :=
  match step with
  | .error error => { error := some error }
  | .ok (record, framer) => { framer.feed rest with records := record.toList ++ (framer.feed rest).records }

theorem feed_cons (framer : SseFramer) (byte : UInt8) (rest : Bytes) :
    framer.feed (byte :: rest) = (framer.pushByte byte).followed rest := by
  rw [feed]
  generalize framer.pushByte byte = step
  rcases step with error | ⟨record, later⟩ <;> rfl

theorem pushByte_decided {framer : SseFramer} (decided : framer.bomDecided) (byte : UInt8) :
    framer.pushByte byte = framer.processByte byte := if_pos decided

theorem processByte_plain {framer : SseFramer} (fresh : framer.afterCr = false) {byte : UInt8}
    (plain : byte ≠ carriageReturn ∧ byte ≠ lineFeed) :
    framer.processByte byte = if framer.maxLineBytes ≤ framer.line.length then .error .lineTooLong
      else .ok (none, { framer with line := framer.line ++ [byte] }) := by
  rw [processByte, if_neg (by simp [fresh]), processPlain, if_neg plain.1, if_neg plain.2]

theorem followed_break {afterCr : Bool} {rest tail : Bytes} {ended : List Bytes} (fits : line.length ≤ maxLineBytes)
    (later : ∀ block, (holding maxLineBytes maxDataBytes afterCr block []).feed rest =
      parseLines maxLineBytes maxDataBytes tail block ended) :
    ((holding maxLineBytes maxDataBytes afterCr block line).processLine).followed rest =
      parseLines maxLineBytes maxDataBytes tail block (line :: ended) := by
  rw [processLine_holding afterCr fits, parseLines]
  cases fault maxLineBytes maxDataBytes block line with
  | some error => rfl
  | none =>
    by_cases blank : line = []
    · simp [blank, SseFramer.Step.followed, later]
    · simp [blank, SseFramer.Step.followed, later]

theorem feed_holding (bytes : Bytes) (block : List Bytes) (line : Bytes) (fits : line.length ≤ maxLineBytes) :
    (holding maxLineBytes maxDataBytes false block line).feed bytes =
      parseLines maxLineBytes maxDataBytes ((lines bytes).afterBytes line).tail block
        ((lines bytes).afterBytes line).ended := by
  -- the lines that are left, after the part of the first one that was read
  induction bytes using lines.induct generalizing block line with
  | case1 =>
    rw [lines]
    simp [feed, Lines.afterBytes, parseLines, fits]
  | case2 rest ih =>
    have step : (holding maxLineBytes maxDataBytes false block line).pushByte carriageReturn =
        (holding maxLineBytes maxDataBytes true block line).processLine := rfl
    rw [lines, if_pos rfl, Lines.afterBytes_afterBreak, feed_cons, step]
    refine followed_break fits fun block => ?_
    rw [feed_afterCr, ih block [] (Nat.zero_le _), Lines.afterBytes_nil]
  | case3 rest other ih =>
    have step : (holding maxLineBytes maxDataBytes false block line).pushByte lineFeed =
        (holding maxLineBytes maxDataBytes false block line).processLine := rfl
    rw [lines, if_neg other, if_pos rfl, Lines.afterBytes_afterBreak, feed_cons, step]
    refine followed_break fits fun block => ?_
    rw [ih block [] (Nat.zero_le _), Lines.afterBytes_nil]
  | case4 byte rest cr lf ih =>
    rw [lines, if_neg cr, if_neg lf, Lines.afterBytes_append, feed_cons]
    have step : (holding maxLineBytes maxDataBytes false block line).pushByte byte =
        if maxLineBytes ≤ line.length then .error .lineTooLong
        else .ok (none, holding maxLineBytes maxDataBytes false block (line ++ [byte])) := by
      rw [pushByte_decided rfl, processByte_plain rfl ⟨cr, lf⟩]
      rfl
    rw [step]
    by_cases full : maxLineBytes ≤ line.length
    · -- the line is too long, however it goes on
      rw [if_pos full]
      rcases lines rest with ⟨_ | ⟨first, more⟩, tail⟩
      · have long : maxLineBytes < line.length + (tail.length + 1) := by omega
        simp [SseFramer.Step.followed, Lines.afterBytes, parseLines, long]
      · have long : maxLineBytes < line.length + (first.length + 1) := by omega
        simp [SseFramer.Step.followed, Lines.afterBytes, parseLines, fault, long]
    · rw [if_neg full, ← ih block (line ++ [byte]) (by simp; omega)]
      simp [SseFramer.Step.followed]

theorem followed_pending (pending rest : Bytes) (framer : SseFramer) (decided : framer.bomDecided)
    (fresh : framer.afterCr = false) (plain : ∀ byte ∈ pending.dropLast, byte ≠ carriageReturn ∧ byte ≠ lineFeed) :
    (framer.processPending pending).followed rest = framer.feed (pending ++ rest) := by
  induction pending generalizing framer with
  | nil => simp [processPending, SseFramer.Step.followed]
  | cons byte more ih =>
    rw [cons_append, feed_cons, pushByte_decided decided, processPending]
    cases more with
    | nil =>
      rcases framer.processByte byte with error | ⟨_ | record, later⟩ <;> rfl
    | cons second more =>
      rw [dropLast_cons_cons] at plain
      obtain ⟨first, later⟩ := forall_mem_cons.mp plain
      rw [processByte_plain fresh first]
      by_cases full : framer.maxLineBytes ≤ framer.line.length
      · rw [if_pos full]
        rfl
      · rw [if_neg full]
        exact ih { framer with line := framer.line ++ [byte] } decided fresh later

def undecided (stream : Bytes) : Bool := stream.isPrefixOf bom && stream != bom

def decided (maxLineBytes maxDataBytes : Nat) : SseFramer :=
  { SseFramer.new maxLineBytes maxDataBytes with bomDecided := true }

theorem feed_decided (stream : Bytes) :
    (decided maxLineBytes maxDataBytes).feed stream =
      parseLines maxLineBytes maxDataBytes (lines stream).tail [] (lines stream).ended := by
  have read : (holding maxLineBytes maxDataBytes false [] []).feed stream = _ :=
    feed_holding stream [] [] (Nat.zero_le _)
  rw [Lines.afterBytes_nil] at read
  exact read

theorem followed_unmarked {pending rest : Bytes} (unmarked : bom.isPrefixOf (pending ++ rest) = false)
    (plain : ∀ byte ∈ pending.dropLast, byte ≠ carriageReturn ∧ byte ≠ lineFeed) :
    ((decided maxLineBytes maxDataBytes).processPending pending).followed rest =
      parse maxLineBytes maxDataBytes (pending ++ rest) := by
  rw [followed_pending pending rest _ rfl rfl plain, feed_decided, parse, withoutBom, if_neg (by simp [unmarked])]

def held (maxLineBytes maxDataBytes : Nat) (pending : Bytes) : SseFramer :=
  { SseFramer.new maxLineBytes maxDataBytes with pending }

theorem feed_held_ruledOut {pending : Bytes} {byte : UInt8} (ruledOut : (pending ++ [byte]).isPrefixOf bom = false)
    (rest : Bytes) : (held maxLineBytes maxDataBytes pending).feed (byte :: rest) =
      ((decided maxLineBytes maxDataBytes).processPending (pending ++ [byte])).followed rest := by
  have other : pending ++ [byte] ≠ bom := by
    intro same
    rw [same] at ruledOut
    cases ruledOut
  have step : (held maxLineBytes maxDataBytes pending).pushByte byte =
      (decided maxLineBytes maxDataBytes).processPending (pending ++ [byte]) := by
    unfold pushByte
    simp [held, new, decided, other, ruledOut]
  rw [feed_cons, step]

theorem framing_exact (maxLineBytes maxDataBytes : Nat) (stream : Bytes) :
    (SseFramer.new maxLineBytes maxDataBytes).feed stream =
      if undecided stream then {} else parse maxLineBytes maxDataBytes stream := by
  change (held maxLineBytes maxDataBytes []).feed stream = _
  -- the first three bytes decide on the mark
  rcases stream with _ | ⟨first, stream⟩
  · rfl
  by_cases one : first = 0xEF
  · subst one
    change (held maxLineBytes maxDataBytes [0xEF]).feed stream = _
    rcases stream with _ | ⟨second, stream⟩
    · rfl
    by_cases two : second = 0xBB
    · subst two
      change (held maxLineBytes maxDataBytes [0xEF, 0xBB]).feed stream = _
      rcases stream with _ | ⟨third, stream⟩
      · rfl
      by_cases three : third = 0xBF
      · subst three
        have complete : undecided (0xEF :: 0xBB :: 0xBF :: stream) = false := by simp [undecided, bom, isPrefixOf]
        rw [complete]
        exact feed_decided stream
      · have complete : undecided (0xEF :: 0xBB :: third :: stream) = false := by
          simp [undecided, bom, isPrefixOf, three]
        rw [complete, feed_held_ruledOut (by simp [bom, isPrefixOf, three])]
        exact followed_unmarked (by simp [bom, isPrefixOf, Ne.symm three]) (by simp [carriageReturn, lineFeed])
    · have complete : undecided (0xEF :: second :: stream) = false := by simp [undecided, bom, isPrefixOf, two]
      rw [complete, feed_held_ruledOut (by simp [bom, isPrefixOf, two])]
      exact followed_unmarked (by simp [bom, isPrefixOf, Ne.symm two]) (by simp [carriageReturn, lineFeed])
  · have complete : undecided (first :: stream) = false := by simp [undecided, bom, isPrefixOf, one]
    rw [complete, feed_held_ruledOut (by simp [bom, isPrefixOf, one])]
    exact followed_unmarked (by simp [bom, isPrefixOf, Ne.symm one]) nofun

theorem mark_unfinished : ∃ (maxLineBytes maxDataBytes : Nat) (stream : Bytes),
    (SseFramer.new maxLineBytes maxDataBytes).feed stream ≠ parse maxLineBytes maxDataBytes stream := by
  refine ⟨0, 0, [0xEF], ?_⟩
  have refused : (parse 0 0 [0xEF]).error = some .lineTooLong := by
    simp [parse, withoutBom, bom, isPrefixOf, lines, carriageReturn, lineFeed, Lines.afterBytes, parseLines]
  intro same
  rw [← same] at refused
  cases refused

end RustScriptAgent.Transport
