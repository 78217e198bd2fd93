import RustScriptAgent.Gateway.Content
import RustScriptAgent.Shared.Marks

namespace RustScriptAgent.Gateway

open Json
open Option hiding map_map

variable {block : LlmContentBlock}

namespace LlmContentBlock

theorem find?_present {α : Type} (key other : String) (write : α → Json) (value : Option α) :
    (present other write value).find? (fun field => field.1 == key) =
      if other = key then value.map fun inner => (other, write inner) else none := by
  cases value <;> by_cases same : other = key <;> simp [present, same]

def written (block : LlmContentBlock) (key : String) : Option Json :=
  match key with
  | "type" => some (.str block.blockType)
  | "text" => block.text.map .str
  | "tool_call_id" => block.toolCallId.map .str
  | "name" => block.name.map .str
  | "arguments_json" => block.argumentsJson.map .str
  | "arguments" => block.arguments
  | "content" => block.content.map .str
  | "is_error" => block.isError.map .bool
  | "result" => block.result
  | "error" => block.error
  | "artifact" => block.artifact
  | "truncated" => block.truncated.map .bool
  | _ => none

theorem toValue_get? (block : LlmContentBlock) {key : String} (known : key ∈ "artifacts" :: fieldOrder) :
    block.toValue.get? key = block.written key := by
  simp only [fieldOrder, List.mem_cons, List.not_mem_nil, or_false] at known
  rcases known with rfl | rfl | rfl | rfl | rfl | rfl | rfl | rfl | rfl | rfl | rfl | rfl | rfl <;>
    simp [toValue, get?, find?_present, written, Function.comp_def]

theorem toValue_injective {a b : LlmContentBlock} (same : a.toValue = b.toValue) : a = b := by
  have keys (key : String) (known : key ∈ "artifacts" :: fieldOrder) : a.written key = b.written key := by
    rw [← toValue_get? a known, same, toValue_get? b known]
  have strs : Function.Injective (Option.map str) := Option.map_injective fun _ _ => str.inj
  have bools : Function.Injective (Option.map bool) := Option.map_injective fun _ _ => bool.inj
  have type : a.blockType = b.blockType := str.inj (some.inj (keys "type" (by decide)))
  have text : a.text = b.text := strs (keys "text" (by decide))
  have call : a.toolCallId = b.toolCallId := strs (keys "tool_call_id" (by decide))
  have name : a.name = b.name := strs (keys "name" (by decide))
  have argumentsJson : a.argumentsJson = b.argumentsJson := strs (keys "arguments_json" (by decide))
  have arguments : a.arguments = b.arguments := keys "arguments" (by decide)
  have content : a.content = b.content := strs (keys "content" (by decide))
  have isError : a.isError = b.isError := bools (keys "is_error" (by decide))
  have result : a.result = b.result := keys "result" (by decide)
  have error : a.error = b.error := keys "error" (by decide)
  have artifact : a.artifact = b.artifact := keys "artifact" (by decide)
  have truncated : a.truncated = b.truncated := bools (keys "truncated" (by decide))
  cases a
  cases b
  simp_all

def notNull : Option Json → Option Json
  | some .null => none
  | value => value

@[simp] theorem notNull_none : notNull none = none := rfl

theorem notNull_ne_null (value : Option Json) : notNull value ≠ some .null := by
  cases value with
  | none => simp
  | some inner => cases inner <;> simp [notNull]

theorem optional_some (value : Option Json) : optional some value = some (notNull value) := by
  cases value with
  | none => rfl
  | some inner => cases inner <;> rfl

theorem optional_asStr? (value : Option String) : optional asStr? (value.map .str) = some value := by
  cases value <;> rfl

theorem optional_asBool? (value : Option Bool) : optional asBool? (value.map .bool) = some value := by
  cases value <;> rfl

theorem fromFields_congr {field other : String → Option Json} (same : ∀ key ∈ fieldOrder, field key = other key) :
    fromFields field = fromFields other := by
  have each {key : String} (known : key ∈ fieldOrder) : field key = other key := same key known
  unfold fromFields
  rw [@each "type" (by decide), @each "text" (by decide), @each "tool_call_id" (by decide), @each "name" (by decide),
    @each "arguments_json" (by decide), @each "arguments" (by decide), @each "content" (by decide),
    @each "is_error" (by decide), @each "result" (by decide), @each "error" (by decide), @each "artifact" (by decide),
    @each "truncated" (by decide)]

theorem fromValue_toValue (block : LlmContentBlock) : fromValue block.toValue = some { block with
      arguments := notNull block.arguments, result := notNull block.result,
      error := notNull block.error, artifact := notNull block.artifact } := by
  have read : fromFields (fun key => if key = "artifact" then block.artifact else block.toValue.get? key) =
      some { block with
        arguments := notNull block.arguments, result := notNull block.result,
        error := notNull block.error, artifact := notNull block.artifact } := by
    have same : ∀ key ∈ fieldOrder,
        (if key = "artifact" then block.artifact else block.toValue.get? key) = block.written key := by
      intro key known
      split_ifs with own
      · rw [own]
        rfl
      · exact toValue_get? block (List.mem_cons_of_mem _ known)
    rw [fromFields_congr same]
    simp [fromFields, written, optional_some, optional_asStr?, optional_asBool?, asStr?]
  have artifacts : block.toValue.get? "artifacts" = none := toValue_get? block List.mem_cons_self
  have artifact : block.toValue.get? "artifact" = block.artifact := toValue_get? block (by decide)
  obtain ⟨fields, same⟩ : ∃ fields, block.toValue = .obj fields := ⟨_, rfl⟩
  rw [same] at read artifacts artifact ⊢
  simp only [fromValue, artifacts, artifact]
  cases held : block.artifact with
  | none =>
    rw [held] at read
    exact read
  | some inner =>
    rw [held] at read
    exact read

end LlmContentBlock

structure LlmContentBlock.Decoded (block : LlmContentBlock) : Prop where
  truncated : block.truncated ≠ some false
  arguments : block.arguments = none
  result : block.result ≠ some .null
  error : block.error ≠ some .null
  artifact : ∀ value, block.artifact = some value → value ≠ .null ∧ ∀ items, value ≠ .arr items

open LlmContentBlock List

theorem notNull_eq_self {value : Option Json} (present : value ≠ some .null) : notNull value = value := by
  cases value with
  | none => rfl
  | some inner => cases inner <;> first | rfl | exact absurd rfl present

theorem decodeOneBlock_written (block : LlmContentBlock) : decodeOneBlock block.toValue = { block with
      truncated := if block.truncated = some false then none else block.truncated
      argumentsJson := block.argumentsJson <|> (notNull block.arguments).map render
      arguments := none
      result := notNull block.result
      error := notNull block.error
      artifact := firstArtifact (notNull block.artifact) } := by
  rw [decodeOneBlock, fromValue_toValue]
  rfl

theorem LlmContentBlock.Decoded.firstArtifact (decoded : block.Decoded) :
    firstArtifact block.artifact = block.artifact := by
  cases held : block.artifact with
  | none => rfl
  | some value =>
    have plain := (decoded.artifact value held).2
    cases value <;> first | rfl | exact absurd rfl (plain _)

theorem decodeOneBlock_toValue (decoded : block.Decoded) : decodeOneBlock block.toValue = block := by
  have artifact : block.artifact ≠ some .null := fun null => (decoded.artifact .null null).1 rfl
  have nulls : notNull block.arguments = none := by rw [decoded.arguments]; rfl
  rw [decodeOneBlock_written, nulls, notNull_eq_self decoded.result, notNull_eq_self decoded.error,
    notNull_eq_self artifact]
  simp only [if_neg decoded.truncated, map_none, orElse_eq_orElse, orElse_eq_or,
    or_none, decoded.firstArtifact]
  have arguments := decoded.arguments
  cases block
  simp_all

theorem decodeMessageBlocks_written {blocks : List LlmContentBlock} (decoded : ∀ block ∈ blocks, block.Decoded) :
    decodeMessageBlocks (.arr (blocks.map LlmContentBlock.toValue)) = blocks := by
  rw [decodeMessageBlocks, map_map]
  calc blocks.map (decodeOneBlock ∘ LlmContentBlock.toValue)
      = blocks.map id := map_congr_left fun block member => decodeOneBlock_toValue (decoded block member)
    _ = blocks := map_id blocks

theorem decodeMessageBlocks_decoded {content : Json} (decoded : ∀ block ∈ decodeMessageBlocks content, block.Decoded) :
    decodeMessageBlocks (decodeMessageContent content) = decodeMessageBlocks content :=
  decodeMessageBlocks_written decoded

theorem fromFields_text {field : String → Option Json} {text : String}
    (read : fromFields field = some block) (held : block.text = some text) : field "text" = some (.str text) := by
  unfold fromFields at read
  -- the fields are read one after the other, the text second
  obtain ⟨_, _, read⟩ := bind_eq_some_iff.mp read
  obtain ⟨spoken, spokenRead, read⟩ := bind_eq_some_iff.mp read
  iterate 10 obtain ⟨_, _, read⟩ := bind_eq_some_iff.mp read
  obtain rfl := some.inj read
  dsimp only at held
  rw [held] at spokenRead
  cases value : field "text" with
  | none => simp [value, LlmContentBlock.optional] at spokenRead
  | some inner =>
    rw [value] at spokenRead
    cases inner <;> simp_all [LlmContentBlock.optional, asStr?]

theorem fromValue_text {value : Json} {text : String} (read : fromValue value = some block)
    (held : block.text = some text) : marks text + 4 ≤ marks value.render := by
  have quoted := marks_str text
  cases value with
  | obj fields =>
    have found : (obj fields).get? "text" = some (.str text) := by
      simp only [fromValue] at read
      split at read
      · cases read
      · simpa using fromFields_text read held
      · simpa using fromFields_text read held
    have := marks_get? found
    omega
  | arr items =>
    simp only [fromValue] at read
    split_ifs at read
    have := marks_getElem? (fromFields_text read held)
    omega
  | _ => cases read

theorem decodeOneBlock_unread {value : Json} (unread : fromValue value = none) :
    decodeOneBlock value = textBlock value.render := by
  simp only [decodeOneBlock, unread, getD_none]
  unfold textBlock
  dsimp only
  split_ifs <;> simp_all [firstArtifact]

theorem textBlock_marks (text : String) : marks ((textBlock text).text.getD "") ≤ marks text := by
  unfold textBlock truncateUtf8Chars
  split_ifs
  · exact marks_take text maxDurableTextChars
  · exact le_refl _

theorem decodeOneBlock_marks (value : Json) : marks ((decodeOneBlock value).text.getD "") ≤ marks value.render := by
  unfold decodeOneBlock
  cases read : fromValue value with
  | none => exact textBlock_marks value.render
  | some block =>
    cases held : block.text with
    | none => simp [held]
    | some text =>
      have := fromValue_text read held
      simp only [getD_some, held]
      omega

def spokenMarks (value : Json) : Nat := ((decodeMessageBlocks value).map fun block => marks (block.text.getD "")).sum

theorem spokenMarks_arr (items : List Json) : spokenMarks (.arr items) + 2 ≤ marks (arr items).render := by
  have whole := marks_arr items
  have each : ((items.map decodeOneBlock).map fun block => marks (block.text.getD "")).sum ≤
      (items.map fun item => marks item.render).sum := by
    rw [map_map]
    exact sum_le_sum fun item _ => decodeOneBlock_marks item
  simp only [spokenMarks, decodeMessageBlocks]
  omega

theorem spokenMarks_le (value : Json) : spokenMarks value ≤ marks value.render := by
  cases value with
  | null => simp [spokenMarks, decodeMessageBlocks]
  | bool flag => simpa [spokenMarks, decodeMessageBlocks] using textBlock_marks _
  | int number => simpa [spokenMarks, decodeMessageBlocks] using textBlock_marks _
  | float literal => simpa [spokenMarks, decodeMessageBlocks] using textBlock_marks _
  | str text =>
    have := textBlock_marks text
    have := marks_str text
    simp only [spokenMarks, decodeMessageBlocks, map_singleton, sum_singleton]
    omega
  | arr items => exact (Nat.le_add_right _ 2).trans (spokenMarks_arr items)
  | obj fields =>
    simp only [spokenMarks, decodeMessageBlocks]
    split
    · simpa using decodeOneBlock_marks (.obj fields)
    · rename_i text _ found
      have := textBlock_marks text
      have := marks_str text
      have := marks_get? found
      simp only [map_singleton, sum_singleton]
      omega
    · rename_i other _ _ found
      have := textBlock_marks other.render
      have := marks_get? found
      simp only [map_singleton, sum_singleton]
      omega
    · simpa using textBlock_marks (obj fields).render

theorem spokenMarks_decoded (value : Json) : spokenMarks (decodeMessageContent value) = spokenMarks value := by
  simp only [spokenMarks, decodeMessageContent]
  rw [decodeMessageBlocks, map_map, map_map]
  refine congrArg sum (map_congr_left fun block _ => ?_)
  simp [decodeOneBlock_written]

end RustScriptAgent.Gateway
