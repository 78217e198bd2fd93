import RustScriptAgent.Gateway.Blocks
import RustScriptAgent.Gateway.Load
import RustScriptAgent.Storage.Reconcile

namespace RustScriptAgent.Gateway

open Storage LlmContentBlock List Option Json

variable {value content : Json} {text : String}

section Storing

-- the readers of `json_valid` and its kin, and of `serde_json::from_str`
variable (sqlite serde : String → Option Json)

def storageAdmissionUserContent : JsonText → String
  | .raw text => text
  | .json document =>
    match (document.get? "run_context").bind (jsonExtract "input") with
    | some value => value.asText
    | none => document.render

def storedText (text : String) : JsonText :=
  match serde text with
  | some document => .json document
  | none => .raw text

def isTyped (document : Json) : Bool := decide (notNull (document.get? "type") ≠ none)

def storageMessageEncodeContent (payload : String) : JsonText :=
  match sqlite payload with
  | some (.arr _) => storedText serde payload
  | some (.obj fields) =>
    if isTyped (.obj fields) then storedText serde ("[" ++ payload ++ "]")
    else .json (textContent ((jsonExtract "text" (.obj fields)).getD (.text payload)))
  | some (.str text) => .json (textContent (.text text))
  | _ => .json (textContent (.text payload))

def normalizeContent (content : Json) : Json :=
  match admissionInputFromMessageContent serde content with
  | some input => decodeMessageContent input
  | none => content

def readBack : JsonText → Option Json
  | .raw _ => none
  | .json content => some (normalizeContent serde (decodeMessageContent content))

structure Readers : Prop where
  sqliteCompacts : Json.Compacts sqlite
  serdeCompacts : Json.Compacts serde
  array : ∀ text items document, sqlite text = some (.arr items) → serde text = some document →
    ∃ others, document = .arr others
  wrapped : ∀ text document whole, sqlite text = some document → serde ("[" ++ text ++ "]") = some whole →
    ∃ item, whole = .arr [item]
  -- a number as the member `text`: the block that storage makes of it is typed, and no prefix is a run context
  block : ∀ text document value read, sqlite text = some document → jsonExtract "text" document = some value →
    value.isNumber → sqlite (printedBlock value.json).render = some read → isTyped read
  plain : ∀ text document value count read, sqlite text = some document → jsonExtract "text" document = some value →
    value.isNumber → serde (String.ofList ((printedBlock value.json).render.toList.take count)) = some read →
      envelopeRunInput read = none

def KeepsText (text : String) : Prop :=
  (match sqlite text with
    | some (.arr _) | some (.str _) => False
    | some (.obj fields) =>
      if isTyped (.obj fields) then
        ∃ item, serde ("[" ++ text ++ "]") = some (.arr [item]) ∧ fromValue item = none ∧ item.render = text
      else jsonExtract "text" (.obj fields) = none
    | _ => True) ∧ (serde text).bind envelopeRunInput = none

end Storing

section Reading

variable {sqlite serde : String → Option Json}

theorem admissionInput_decoded (parse : String → Option Json) (value : Json) :
    admissionInputFromMessageContent parse (decodeMessageContent value) =
      (((decodeMessageBlocks value).head?.bind LlmContentBlock.text).bind parse).bind envelopeRunInput := by
  have noEnvelope (items : List Json) : envelopeRunInput (.arr items) = none := by
    simp [envelopeRunInput, isObject]
  unfold decodeMessageContent
  cases decodeMessageBlocks value with
  | nil => rfl
  | cons block rest =>
    have text : block.toValue.getStr? "text" = block.text := by
      rw [getStr?, toValue_get? _ (by decide), written]
      cases block.text <;> rfl
    simp [admissionInputFromMessageContent, noEnvelope, text, head?_cons]

theorem spokenMarks_rewritten (compacts : Json.Compacts serde) {input : Json}
    (rewritten : admissionInputFromMessageContent serde (decodeMessageContent value) = some input) :
    spokenMarks input < spokenMarks value := by
  rw [admissionInput_decoded] at rewritten
  obtain ⟨document, parsed, context⟩ := bind_eq_some_iff.mp rewritten
  obtain ⟨text, first, read⟩ := bind_eq_some_iff.mp parsed
  obtain ⟨block, head, held⟩ := bind_eq_some_iff.mp first
  have inner := envelopeRunInput_marks context
  have outer := compacts text document read
  have said := spokenMarks_le input
  have part : marks text ≤ spokenMarks value := by
    obtain ⟨rest, blocks⟩ := head?_eq_some_iff.mp head
    rw [spokenMarks, blocks, map_cons, sum_cons, held, getD_some]
    exact Nat.le_add_right _ _
  omega

theorem spokenMarks_normalized (compacts : Json.Compacts serde) (value : Json) :
    spokenMarks (normalizeContent serde (decodeMessageContent value)) ≤ spokenMarks value := by
  unfold normalizeContent
  split
  · rename_i input rewritten
    rw [spokenMarks_decoded]
    exact (spokenMarks_rewritten compacts rewritten).le
  · rw [spokenMarks_decoded]

theorem textBlock_short (short : text.length ≤ maxDurableTextChars) :
    textBlock text = { blockType := "text", text := some text } := by
  simp [textBlock, truncateUtf8Chars, Nat.not_lt.mpr short]

theorem spokenMarks_text (short : text.length ≤ maxDurableTextChars) : spokenMarks (.str text) = marks text := by
  simp [spokenMarks, decodeMessageBlocks, textBlock_short short]

theorem readBack_ne_of_spokenMarks (compacts : Json.Compacts serde)
    (short : text.length ≤ maxDurableTextChars) (less : spokenMarks content < marks text) :
    readBack serde (.json content) ≠ some (decodeMessageContent (.str text)) := by
  intro same
  have most := spokenMarks_normalized compacts content
  rw [readBack, some.injEq] at same
  rw [same, spokenMarks_decoded, spokenMarks_text short] at most
  omega

theorem readBack_text (short : text.length ≤ maxDurableTextChars)
    (compacts : Json.Compacts serde)
    (blocks : decodeMessageBlocks content = [{ blockType := "text", text := some text }]) :
    readBack serde (.json content) = some (decodeMessageContent (.str text)) ↔
      (serde text).bind envelopeRunInput = none := by
  have shown : decodeMessageContent content = decodeMessageContent (.str text) := by
    rw [decodeMessageContent, decodeMessageContent, blocks, decodeMessageBlocks, textBlock_short short]
  have input : admissionInputFromMessageContent serde (decodeMessageContent content) =
      (serde text).bind envelopeRunInput := by
    rw [admissionInput_decoded, blocks]
    rfl
  rw [readBack, some.injEq, normalizeContent, input]
  cases context : (serde text).bind envelopeRunInput with
  | none => simp [shown]
  | some found =>
    refine iff_of_false (fun same => ?_) (by simp)
    have less := spokenMarks_rewritten compacts (input.trans context)
    have whole : spokenMarks found = spokenMarks (.str text) := by
      rw [← spokenMarks_decoded found, ← spokenMarks_decoded (.str text)]
      exact congrArg spokenMarks same
    rw [← spokenMarks_decoded content, shown, spokenMarks_decoded, whole] at less
    omega

theorem decode_printedText (text : String) :
    decodeMessageBlocks (.arr [printedBlock (.str text)]) = [{ blockType := "text", text := some text }] := rfl

theorem textContent_short (short : text.length ≤ maxContentText) :
    textContent (.text text) = .arr [printedBlock (.str text)] :=
  if_neg (Nat.not_lt.mpr ((SqlValue.length_text_le text).trans short))

theorem readBack_textContent (short : text.length ≤ maxDurableTextChars) (compacts : Json.Compacts serde) :
    readBack serde (.json (textContent (.text text))) = some (decodeMessageContent (.str text)) ↔
      (serde text).bind envelopeRunInput = none := by
  rw [textContent_short short]
  exact readBack_text short compacts (decode_printedText text)

theorem decode_cutText (text : String) :
    decodeMessageBlocks (.arr [.obj [("text", .str text), ("truncated", .bool true), ("type", .str "text")]]) =
      [{ blockType := "text", text := some text, truncated := some true }] := rfl

theorem spokenMarks_textContent {value : SqlValue}
    (spoken : maxContentText < value.length ∨ ∃ text, value = .text text) :
    spokenMarks (textContent value) ≤ marks value.asText := by
  unfold textContent
  split_ifs with long
  · rw [spokenMarks, decode_cutText]
    simpa using marks_take value.asText maxContentText
  · obtain ⟨text, rfl⟩ := spoken.resolve_left long
    rw [spokenMarks, SqlValue.json, decode_printedText]
    simp [SqlValue.asText]

theorem decode_printedBlock {value : SqlValue} (number : value.isNumber) :
    decodeMessageBlocks (.arr [printedBlock value.json]) = [textBlock (printedBlock value.json).render] := by
  have unread : fromValue (printedBlock value.json) = none := by
    cases value with
    | text => cases number
    | _ => rfl
  rw [decodeMessageBlocks, map_singleton, decodeOneBlock_unread unread]

theorem textBlock_text (text : String) :
    (textBlock text).text = some (String.ofList (text.toList.take maxDurableTextChars)) := by
  unfold textBlock truncateUtf8Chars
  split_ifs with long
  · rfl
  · rw [take_of_length_le (by rw [String.length_toList]; omega), String.ofList_toList]

theorem textBlock_eq_short {other : String} (short : text.length ≤ maxDurableTextChars)
    (same : textBlock other = textBlock text) : other = text := by
  rw [textBlock_short short] at same
  unfold textBlock truncateUtf8Chars at same
  split_ifs at same with long
  · simp at same
  · simpa using same

theorem readBack_blocks
    (same : readBack serde (.json content) = some (decodeMessageContent (.str text)))
    (kept : admissionInputFromMessageContent serde (decodeMessageContent content) = none) :
    decodeMessageBlocks content = [textBlock text] := by
  rw [readBack, some.injEq, normalizeContent, kept] at same
  have lists : (decodeMessageBlocks content).map LlmContentBlock.toValue =
      [textBlock text].map LlmContentBlock.toValue := arr.inj same
  exact map_injective_iff.mpr (fun _ _ => toValue_injective) lists

theorem marks_extracted {document : Json} {key : String} {value : SqlValue}
    (member : jsonExtract key document = some value) : marks value.asText + 2 ≤ marks document.render := by
  unfold jsonExtract at member
  cases held : document.get? key with
  | none => simp [held] at member
  | some found =>
    have inside := marks_get? held
    simp only [held] at member
    cases found with
    | null => cases member
    | bool flag =>
      cases member
      cases flag <;> exact (Nat.le_add_left 2 _).trans inside
    | str text =>
      cases member
      exact (Nat.le_add_right _ 2).trans ((Nat.add_le_add_right (marks_str text) 2).trans inside)
    | _ =>
      cases member
      exact inside

theorem readBack_member (readers : Readers sqlite serde) {document : Json} {value : SqlValue}
    (short : text.length ≤ maxDurableTextChars) (read : sqlite text = some document)
    (untyped : isTyped document = false) (member : jsonExtract "text" document = some value) :
    readBack serde (.json (textContent value)) ≠ some (decodeMessageContent (.str text)) := by
  -- a member `text` is not the text of its own object
  have whole := readers.sqliteCompacts text document read
  have inside := marks_extracted member
  by_cases spoken : maxContentText < value.length ∨ ∃ inner, value = .text inner
  · refine readBack_ne_of_spokenMarks readers.serdeCompacts short ?_
    have said := spokenMarks_textContent spoken
    omega
  · rw [not_or] at spoken
    have number : value.isNumber := by
      cases value with
      | text inner => exact absurd ⟨inner, rfl⟩ spoken.2
      | _ => rfl
    have blocks := decode_printedBlock number
    rw [textContent, if_neg spoken.1]
    intro same
    have kept : admissionInputFromMessageContent serde (decodeMessageContent (.arr [printedBlock value.json])) =
      none := by
      rw [admissionInput_decoded, blocks, head?_cons, bind_some, textBlock_text, bind_some]
      refine bind_eq_none_iff.mpr fun again parsed => ?_
      exact readers.plain text document value _ again read member number parsed
    have equal := readBack_blocks same kept
    rw [blocks, cons.injEq] at equal
    have texts := textBlock_eq_short short equal.1
    have typed := readers.block text document value document read member number (by rw [texts, read])
    rw [untyped] at typed
    cases typed

theorem readBack_typed (readers : Readers sqlite serde) {fields : List (String × Json)}
    (short : text.length ≤ maxDurableTextChars) (read : sqlite text = some (.obj fields)) :
    readBack serde (storedText serde ("[" ++ text ++ "]")) = some (decodeMessageContent (.str text)) ↔
      (∃ item, serde ("[" ++ text ++ "]") = some (.arr [item]) ∧ fromValue item = none ∧ item.render = text) ∧
        (serde text).bind envelopeRunInput = none := by
  -- a typed object comes back as its text only when it is no block and the text is its own print
  unfold storedText
  cases loaded : serde ("[" ++ text ++ "]") with
  | none => simp [readBack]
  | some whole =>
    obtain ⟨item, rfl⟩ := readers.wrapped text (.obj fields) whole read loaded
    have bound : marks item.render ≤ marks text := by
      have all := readers.serdeCompacts _ _ loaded
      have one := marks_arr [item]
      have ends : marks "[" = 1 ∧ marks "]" = 1 := by decide
      rw [marks_append, marks_append, ends.1, ends.2] at all
      simp only [map_singleton, sum_singleton] at one
      omega
    cases readable : fromValue item with
    | some block =>
      refine iff_of_false (readBack_ne_of_spokenMarks readers.serdeCompacts short ?_) ?_
      · have said : spokenMarks (.arr [item]) = marks (block.text.getD "") := by
          simp [spokenMarks, decodeMessageBlocks, decodeOneBlock, readable]
        rw [said]
        cases held : block.text with
        | none =>
          have whole := readers.sqliteCompacts text _ read
          have braces : tally isMark (renderFields fields) + 2 = marks (obj fields).render :=
            isMark_counts.obj fields
          rw [getD_none, marks_empty]
          omega
        | some inner =>
          have := fromValue_text readable held
          rw [getD_some]
          omega
      · rintro ⟨⟨other, same, unread, _⟩, _⟩
        rw [some.injEq, arr.injEq, cons.injEq] at same
        rw [same.1, unread] at readable
        cases readable
    | none =>
      have blocks : decodeMessageBlocks (.arr [item]) = [textBlock item.render] := by
        rw [decodeMessageBlocks, map_singleton, decodeOneBlock_unread readable]
      by_cases own : item.render = text
      · rw [readBack_text short readers.serdeCompacts (by rw [blocks, own, textBlock_short short])]
        simp [readable, own]
      · refine iff_of_false (fun same => ?_) ?_
        · cases rewritten : admissionInputFromMessageContent serde (decodeMessageContent (.arr [item])) with
          | none =>
            have equal := readBack_blocks same rewritten
            rw [blocks, cons.injEq] at equal
            exact own (textBlock_eq_short short equal.1)
          | some input =>
            have less := spokenMarks_rewritten readers.serdeCompacts rewritten
            have said : spokenMarks (.arr [item]) = marks ((textBlock item.render).text.getD "") := by
              simp [spokenMarks, blocks]
            have most := textBlock_marks item.render
            rw [readBack, some.injEq, normalizeContent, rewritten] at same
            have whole := congrArg spokenMarks same
            rw [spokenMarks_decoded, spokenMarks_decoded, spokenMarks_text short] at whole
            omega
        · rintro ⟨⟨other, same, _, print⟩, _⟩
          rw [some.injEq, arr.injEq, cons.injEq] at same
          rw [← same.1] at print
          exact own print

end Reading

/-- `MAX_RUN_CONTEXT_STORAGE_BYTES`, which `persisted_run_context_json` checks. -/
def maxRunContextStorageBytes : Nat := 65536

def TextKept (sqlite serde : String → Option Json) (context : Json) (text : String) : Prop :=
  readBack serde (storageMessageEncodeContent sqlite serde (storageAdmissionUserContent (.json context))) =
      some (decodeMessageContent (.str text)) ∧
    decodeMessageBlocks (decodeMessageContent (.str text)) = [{ blockType := "text", text := some text }]

theorem user_text_kept_iff (sqlite serde : String → Option Json) (readers : Readers sqlite serde) (context : Json)
    (text : String) (given : (context.get? "run_context").bind (get? "input") = some (.str text))
    (fits : context.render.utf8ByteSize ≤ maxRunContextStorageBytes) :
    TextKept sqlite serde context text ↔ KeepsText sqlite serde text := by
  have short : text.length ≤ maxDurableTextChars := by
    obtain ⟨inner, outer, input⟩ := bind_eq_some_iff.mp given
    have bytes := length_le_utf8ByteSize context.render
    have one := all_counts.str text
    have two := all_counts.get? input
    have three := all_counts.get? outer
    rw [length_eq_tally] at bytes ⊢
    simp only [maxRunContextStorageBytes, maxDurableTextChars] at *
    omega
  have content : storageAdmissionUserContent (.json context) = text := by
    obtain ⟨inner, outer, input⟩ := bind_eq_some_iff.mp given
    simp [storageAdmissionUserContent, outer, jsonExtract, input, SqlValue.asText]
  have shown : decodeMessageBlocks (decodeMessageContent (.str text)) =
    [{ blockType := "text", text := some text }] := by
    have once : decodeMessageBlocks (.str text) = [textBlock text] := rfl
    rw [decodeMessageContent, once, textBlock_short short]
    refine decodeMessageBlocks_written fun block member => ?_
    rw [List.mem_singleton.mp member]
    exact ⟨by simp, rfl, by simp, by simp, by simp⟩
  unfold TextKept
  rw [content, and_iff_left shown]
  unfold storageMessageEncodeContent KeepsText
  cases read : sqlite text with
  | none =>
    simp only [true_and]
    exact readBack_textContent short readers.serdeCompacts
  | some document =>
    have whole := readers.sqliteCompacts text document read
    cases document with
    | arr items =>
      simp only [false_and, iff_false]
      unfold storedText
      cases loaded : serde text with
      | none => simp [readBack]
      | some again =>
        obtain ⟨others, rfl⟩ := readers.array text items again read loaded
        refine readBack_ne_of_spokenMarks readers.serdeCompacts short ?_
        have said := spokenMarks_arr others
        have most := readers.serdeCompacts text _ loaded
        omega
    | str inner =>
      simp only [false_and, iff_false]
      refine readBack_ne_of_spokenMarks readers.serdeCompacts short ?_
      have said : spokenMarks (textContent (.text inner)) ≤ marks inner := spokenMarks_textContent (.inr ⟨inner, rfl⟩)
      have quoted := marks_str inner
      omega
    | obj fields =>
      cases typed : isTyped (.obj fields) with
      | true =>
        simp only [typed, if_true]
        exact readBack_typed readers short read
      | false =>
        simp only [typed, Bool.false_eq_true, if_false]
        cases member : jsonExtract "text" (.obj fields) with
        | none =>
          simp only [getD_none, true_and]
          exact readBack_textContent short readers.serdeCompacts
        | some value =>
          simp only [getD_some, reduceCtorEq, false_and, iff_false]
          exact readBack_member readers short read typed member
    | _ =>
      simp only [true_and]
      exact readBack_textContent short readers.serdeCompacts

def contextAround (text : String) : Json :=
  .obj [("run_context", .obj [("input", .str text)]), ("schema_version", .int 1)]

def readsOnly (value : Json) (text : String) : Option Json :=
  if text = value.render then some value
  else if text = (arr [value]).render then some (.arr [value])
  else none

theorem readsOnly_some {read : Json} (found : readsOnly value text = some read) :
    text = read.render ∧ (read = value ∨ read = .arr [value]) := by
  unfold readsOnly at found
  split_ifs at found with own wrapped
  · cases found
    exact ⟨own, .inl rfl⟩
  · cases found
    exact ⟨wrapped, .inr rfl⟩

def countedNote : Json := .obj [("n", .int 5), ("note", .str "hi")]

theorem user_text_kept_of_countedNote :
    TextKept (readsOnly countedNote) (readsOnly countedNote) (contextAround countedNote.render) countedNote.render := by
  have compacts : Json.Compacts (readsOnly countedNote) := fun text document read =>
    (congrArg marks (readsOnly_some read).1).ge
  have silent {text : String} {document : Json} (read : readsOnly countedNote text = some document) :
      jsonExtract "text" document = none := by
    rcases (readsOnly_some read).2 with rfl | rfl <;> rfl
  have readers : Readers (readsOnly countedNote) (readsOnly countedNote) := by
    refine ⟨compacts, compacts, ?_, ?_, ?_, ?_⟩
    · intro text items document read again
      exact ⟨items, some.inj (again.symm.trans read)⟩
    · intro text document whole read wrapped
      obtain ⟨rfl, rfl | rfl⟩ := readsOnly_some read
      · exact ⟨countedNote, some.inj (wrapped.symm.trans (by decide +kernel))⟩
      · cases wrapped.symm.trans (by decide +kernel : _ = none)
    · intro text document value _ read member
      rw [silent read] at member
      cases member
    · intro text document value _ _ read member
      rw [silent read] at member
      cases member
  have own : readsOnly countedNote countedNote.render = some countedNote := if_pos rfl
  have keeps : KeepsText (readsOnly countedNote) (readsOnly countedNote) countedNote.render := by
    rw [KeepsText, own]
    exact ⟨rfl, rfl⟩
  exact (user_text_kept_iff _ _ readers (contextAround countedNote.render) countedNote.render rfl
    (by decide +kernel)).mpr keeps

def readsEmptyArray (text : String) : Option Json := if text = "[]" then some (.arr []) else none

theorem empty_array_text_lost : (contextAround "[]").render.utf8ByteSize ≤ maxRunContextStorageBytes ∧
      readBack readsEmptyArray (storageMessageEncodeContent readsEmptyArray readsEmptyArray
        (storageAdmissionUserContent (.json (contextAround "[]")))) = some (.arr []) ∧
      ¬TextKept readsEmptyArray readsEmptyArray (contextAround "[]") "[]" := by
  refine ⟨by decide +kernel, by decide, ?_⟩
  unfold TextKept
  decide

end RustScriptAgent.Gateway
