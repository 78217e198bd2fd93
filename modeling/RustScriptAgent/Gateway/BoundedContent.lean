import RustScriptAgent.Gateway.Blocks
import RustScriptAgent.Shared.Text

namespace RustScriptAgent.Gateway

open LlmContentBlock List Json

variable {block : LlmContentBlock}

def durableJson (value : Json) : Prop := value.render.utf8ByteSize ≤ maxDurableTextChars

instance (value : Json) : Decidable (durableJson value) := inferInstanceAs (Decidable (_ ≤ _))

structure BoundedItem (item : Json) : Prop where
  texts : ∀ key ∈ ["text", "content"], ∀ text, item.get? key = some (.str text) → text.length ≤ maxDurableTextChars
  documents : ∀ key ∈ ["result", "error", "artifact"], ∀ value, item.get? key = some value → durableJson value

structure CodecKeeps (blocks : List LlmContentBlock) : Prop where
  decoded : decodeMessageBlocks (encodeMessageContent blocks) = blocks.map boundContentBlock
  idempotent : encodeMessageContent (decodeMessageBlocks (encodeMessageContent blocks)) = encodeMessageContent blocks
  bounded : ∀ items, encodeMessageContent blocks = .arr items → ∀ item ∈ items, BoundedItem item

structure LlmContentBlock.Kept (block : LlmContentBlock) : Prop where
  result : ∀ value, block.result = some value → value ≠ .null ∧ durableJson (boundStructuredJson value false).1
  error : ∀ value, block.error = some value → value ≠ .null ∧ durableJson (boundStructuredJson value true).1
  artifact : ∀ value, firstArtifact block.artifact = some value →
    value ≠ .null ∧ (∀ items, value ≠ .arr items) ∧ durableJson value

structure LlmContentBlock.Storable (block : LlmContentBlock) : Prop where
  result : block.result ≠ some .null
  error : ∀ value, block.error = some value → value ≠ .null ∧ (durableJson value ∨
    -- the note that takes its place has the code, the size and 60 bytes around them
    ∀ code, value.get? "code" = some code →
      code.render.utf8ByteSize + (toString value.render.utf8ByteSize).utf8ByteSize + 60 ≤ maxDurableTextChars)
  artifact : ∀ value, firstArtifact block.artifact = some value →
    value ≠ .null ∧ (∀ items, value ≠ .arr items) ∧ durableJson value

/-- The size of a text in memory is a word of 64 bits. -/
structure LlmContentBlock.Sized (block : LlmContentBlock) : Prop where
  result : ∀ value, block.result = some value → value.render.utf8ByteSize < 2 ^ 64
  error : ∀ value, block.error = some value → value.render.utf8ByteSize < 2 ^ 64

theorem firstArtifact_eq_self {artifact : Option Json} (same : firstArtifact artifact = artifact) (items : List Json) :
    artifact ≠ some (.arr items) := by
  rintro rfl
  -- a list is not its own first element
  have member : arr items ∈ items := mem_of_head? same
  have smaller := sizeOf_lt_of_mem member
  simp at smaller

theorem decodeOneBlock_toValue_iff (block : LlmContentBlock) :
    decodeOneBlock block.toValue = block ↔ block.Decoded := by
  refine ⟨fun same => ?_, decodeOneBlock_toValue⟩
  rw [decodeOneBlock_written] at same
  have truncated := congrArg truncated same
  have arguments := congrArg arguments same
  have result := congrArg result same
  have error := congrArg error same
  have artifact := congrArg artifact same
  dsimp only at truncated arguments result error artifact
  refine ⟨?_, arguments.symm, fun null => notNull_ne_null _ (result.trans null),
    fun null => notNull_ne_null _ (error.trans null), ?_⟩
  · intro held
    rw [if_pos held, held] at truncated
    cases truncated
  · intro value held
    have present : value ≠ .null := by
      rintro rfl
      rw [held] at artifact
      cases artifact
    have plain : notNull block.artifact = block.artifact := notNull_eq_self (by rw [held]; simpa using present)
    rw [plain] at artifact
    refine ⟨present, fun items list => firstArtifact_eq_self artifact items ?_⟩
    rw [held, list]

theorem truncateUtf8Chars_length (text : String) (limit : Nat) : (truncateUtf8Chars text limit).1.length ≤ limit := by
  unfold truncateUtf8Chars
  split_ifs with long
  · simp
  · exact Nat.not_lt.mp long

theorem truncateUtf8Chars_short {text : String} {limit : Nat} (short : text.length ≤ limit) :
    truncateUtf8Chars text limit = (text, false) := if_neg (Nat.not_lt.mpr short)

theorem boundStructuredJson_short {value : Json} (short : durableJson value) (retain : Bool) :
    boundStructuredJson value retain = (value, false) := if_pos short

theorem boundStructuredJson_null (value : Json) (retain : Bool) :
    (boundStructuredJson value retain).1 = .null ↔ value = .null := by
  constructor
  · intro null
    unfold boundStructuredJson at null
    dsimp only at null
    split_ifs at null
    · exact null
  · rintro rfl
    rw [boundStructuredJson_short (by decide)]

def note (code : List (String × Json)) (size : Int) : Json :=
  .obj (code ++ [("original_bytes", .int size), ("redacted", .bool true), ("truncated", .bool true)])

theorem note_size (size : Int) : (note [] size).render.utf8ByteSize = 52 + (toString size).utf8ByteSize := by
  simp only [note, nil_append, render, renderFields, String.utf8ByteSize_append]
  rw [show (quote "original_bytes").utf8ByteSize = 16 by decide,
    show (quote "redacted").utf8ByteSize = 10 by decide, show (quote "truncated").utf8ByteSize = 11 by decide,
    show ":".utf8ByteSize = 1 by decide, show ",".utf8ByteSize = 1 by decide, show "true".utf8ByteSize = 4 by decide,
    show "\x7b".utf8ByteSize = 1 by decide, show "\x7d".utf8ByteSize = 1 by decide]
  omega

theorem coded_note_size (code : Json) (size : Int) : (note [("code", code)] size).render.utf8ByteSize =
    code.render.utf8ByteSize + (toString size).utf8ByteSize + 60 := by
  have rest := note_size size
  simp only [note, nil_append, render, String.utf8ByteSize_append] at rest
  rw [note, singleton_append, render, renderFields]
  · simp only [String.utf8ByteSize_append]
    rw [show (quote "code").utf8ByteSize = 6 by decide, show ":".utf8ByteSize = 1 by decide,
      show ",".utf8ByteSize = 1 by decide]
    omega
  · simp

theorem durableJson_bounded {value : Json} (word : value.render.utf8ByteSize < 2 ^ 64) (retain : Bool) :
    durableJson (boundStructuredJson value retain).1 ↔ durableJson value ∨ (retain = true → ∀ code,
      value.get? "code" = some code →
        code.render.utf8ByteSize + (toString value.render.utf8ByteSize).utf8ByteSize + 60 ≤ maxDurableTextChars) := by
  by_cases short : durableJson value
  · rw [boundStructuredJson_short short]
    exact iff_of_true short (.inl short)
  · have long : ¬ value.render.utf8ByteSize ≤ maxDurableTextChars := short
    rw [or_iff_right short, boundStructuredJson, if_neg long]
    -- a size has twenty digits at most, so only a code can take the note over the bound
    have digits := Texts.toString_size value.render.utf8ByteSize 20 (by decide) (word.trans (by decide))
    have plain : durableJson (note [] value.render.utf8ByteSize) := by
      have size := note_size value.render.utf8ByteSize
      unfold durableJson maxDurableTextChars
      omega
    cases retain with
    | false => exact iff_of_true plain nofun
    | true =>
      cases code : value.get? "code" with
      | none => exact iff_of_true plain (by simp)
      | some held =>
        have size := coded_note_size held value.render.utf8ByteSize
        simp only [if_true, forall_const, Option.some.injEq, forall_eq']
        show (note [("code", held)] _).render.utf8ByteSize ≤ _ ↔ _
        rw [size]
        rfl

theorem LlmContentBlock.Sized.kept_iff (sized : block.Sized) : block.Kept ↔ block.Storable := by
  constructor
  · intro kept
    refine ⟨fun null => (kept.result _ null).1 rfl, fun value held => ?_, kept.artifact⟩
    obtain ⟨present, durable⟩ := kept.error value held
    exact ⟨present, ((durableJson_bounded (sized.error value held) true).mp durable).imp_right (· rfl)⟩
  · intro storable
    refine ⟨fun value held => ⟨?_, ?_⟩, fun value held => ?_, storable.artifact⟩
    · rintro rfl
      exact storable.result held
    · exact (durableJson_bounded (sized.result value held) false).mpr (.inr nofun)
    · obtain ⟨present, fits⟩ := storable.error value held
      exact ⟨present, (durableJson_bounded (sized.error value held) true).mpr (fits.imp_right fun code _ => code)⟩

theorem boundContentBlock_decoded (block : LlmContentBlock) : (boundContentBlock block).Decoded ↔
      block.result ≠ some .null ∧ block.error ≠ some .null ∧
        ∀ value, firstArtifact block.artifact = some value → value ≠ .null ∧ ∀ items, value ≠ .arr items := by
  have nulls (held : Option Json) (retain : Bool) :
      (held.map (boundStructuredJson · retain)).map Prod.fst ≠ some .null ↔ held ≠ some .null := by
    cases held with
    | none => simp
    | some value => simpa using (boundStructuredJson_null value retain).not
  constructor
  · intro decoded
    exact ⟨(nulls _ _).mp decoded.result, (nulls _ _).mp decoded.error, decoded.artifact⟩
  · rintro ⟨result, error, artifact⟩
    refine ⟨?_, rfl, (nulls _ _).mpr result, (nulls _ _).mpr error, artifact⟩
    unfold boundContentBlock
    dsimp only
    split_ifs <;> simp

theorem LlmContentBlock.Kept.decoded (kept : block.Kept) : (boundContentBlock block).Decoded :=
  (boundContentBlock_decoded block).mpr
    ⟨fun null => (kept.result _ null).1 rfl, fun null => (kept.error _ null).1 rfl,
      fun value held => ⟨(kept.artifact value held).1, (kept.artifact value held).2.1⟩⟩

structure LlmContentBlock.Settled (block : LlmContentBlock) : Prop where
  decoded : block.Decoded
  text : ∀ text, block.text = some text → text.length ≤ maxDurableTextChars
  content : ∀ text, block.content = some text → text.length ≤ maxDurableTextChars
  argumentsJson : ∀ text, block.argumentsJson = some text → text.length ≤ maxDurableTextChars
  result : ∀ value, block.result = some value → durableJson value
  error : ∀ value, block.error = some value → durableJson value

theorem map_unchanged {α : Type} {held : Option α} {bound : α → α × Bool}
    (fits : ∀ value, held = some value → bound value = (value, false)) :
    held.map bound = held.map fun value => (value, false) := by
  cases held with
  | none => rfl
  | some value => exact congrArg some (fits value rfl)

theorem map_unchanged_fst {α : Type} (held : Option α) :
    (held.map fun value => (value, false)).map Prod.fst = held := by
  cases held <;> rfl

theorem map_unchanged_snd {α : Type} (held : Option α) :
    ((held.map fun value => (value, false)).map Prod.snd).getD false = false := by
  cases held <;> rfl

theorem LlmContentBlock.Settled.unchanged (settled : block.Settled) : boundContentBlock block = block := by
  have text := map_unchanged fun text held => truncateUtf8Chars_short (settled.text text held)
  have content := map_unchanged fun text held => truncateUtf8Chars_short (settled.content text held)
  have arguments := map_unchanged fun text held => truncateUtf8Chars_short (settled.argumentsJson text held)
  have result := map_unchanged fun value held => boundStructuredJson_short (settled.result value held) false
  have error := map_unchanged fun value held => boundStructuredJson_short (settled.error value held) true
  have given : (block.argumentsJson <|> block.arguments.map render) = block.argumentsJson := by
    rw [settled.decoded.arguments]
    simp
  have marked : (if block.truncated.getD false then some true else none) = block.truncated := by
    cases held : block.truncated with
    | none => rfl
    | some mark =>
      cases mark with
      | false => exact absurd held settled.decoded.truncated
      | true => rfl
  unfold boundContentBlock
  simp only [given, text, content, arguments, result, error, map_unchanged_fst, map_unchanged_snd, Bool.or_false,
    marked, settled.decoded.firstArtifact]
  have none := settled.decoded.arguments
  cases block
  simp_all

theorem exists_of_map {α : Type} {held : Option α} {bound : α → α × Bool} {value : α}
    (found : (held.map bound).map Prod.fst = some value) : ∃ original, held = some original ∧
      (bound original).1 = value := by
  cases held with
  | none => cases found
  | some original => exact ⟨original, rfl, Option.some.inj found⟩

theorem LlmContentBlock.Kept.settled (kept : block.Kept) : (boundContentBlock block).Settled where
  decoded := kept.decoded
  text := by
    -- bounding a block whose documents survive settles it
    intro text held
    obtain ⟨original, -, rfl⟩ := exists_of_map held
    exact truncateUtf8Chars_length original _
  content := by
    intro text held
    obtain ⟨original, -, rfl⟩ := exists_of_map held
    exact truncateUtf8Chars_length original _
  argumentsJson := by
    intro text held
    obtain ⟨original, -, rfl⟩ := exists_of_map held
    exact truncateUtf8Chars_length original _
  result := by
    intro value held
    obtain ⟨original, stored, rfl⟩ := exists_of_map held
    exact (kept.result original stored).2
  error := by
    intro value held
    obtain ⟨original, stored, rfl⟩ := exists_of_map held
    exact (kept.error original stored).2

theorem LlmContentBlock.Kept.boundedItem (kept : block.Kept) :
    BoundedItem (boundContentBlock block).toValue := by
  have settled := kept.settled
  constructor
  · intro key known text held
    simp only [mem_cons, not_mem_nil, or_false] at known
    rcases known with rfl | rfl
    · rw [toValue_get? _ (by decide)] at held
      obtain ⟨_, stored, same⟩ := Option.map_eq_some_iff.mp held
      exact settled.text text (str.inj same ▸ stored)
    · rw [toValue_get? _ (by decide)] at held
      obtain ⟨_, stored, same⟩ := Option.map_eq_some_iff.mp held
      exact settled.content text (str.inj same ▸ stored)
  · intro key known value held
    simp only [mem_cons, not_mem_nil, or_false] at known
    rcases known with rfl | rfl | rfl
    · rw [toValue_get? _ (by decide)] at held
      exact settled.result value held
    · rw [toValue_get? _ (by decide)] at held
      exact settled.error value held
    · rw [toValue_get? _ (by decide)] at held
      exact (kept.artifact value held).2.2

theorem encodeMessageContent_eq (blocks : List LlmContentBlock) :
    encodeMessageContent blocks = .arr ((blocks.map boundContentBlock).map toValue) := by
  rw [encodeMessageContent, map_map]
  rfl

theorem kept_of_decoded (decoded : (boundContentBlock block).Decoded)
    (bounded : BoundedItem (boundContentBlock block).toValue) : block.Kept := by
  obtain ⟨result, error, artifact⟩ := (boundContentBlock_decoded block).mp decoded
  -- the bounds of the written item, read at the fields of the bounded block
  have fits (key : String) (known : key ∈ ["result", "error", "artifact"]) (value : Json)
      (held : (boundContentBlock block).written key = some value) : durableJson value := by
    refine bounded.documents key known value ?_
    rw [toValue_get? _ ?_]
    · exact held
    · simp only [mem_cons, not_mem_nil, or_false] at known
      rcases known with rfl | rfl | rfl <;> decide
  constructor
  · intro value held
    refine ⟨fun null => result (null ▸ held), fits "result" (by decide) _ ?_⟩
    simp [written, boundContentBlock, held]
  · intro value held
    refine ⟨fun null => error (null ▸ held), fits "error" (by decide) _ ?_⟩
    simp [written, boundContentBlock, held]
  · intro value held
    exact ⟨(artifact value held).1, (artifact value held).2, fits "artifact" (by decide) value held⟩

theorem codecKeeps_iff_kept (blocks : List LlmContentBlock) : CodecKeeps blocks ↔ ∀ block ∈ blocks, block.Kept := by
  constructor
  · intro keeps block member
    have decoded := keeps.decoded
    rw [encodeMessageContent, decodeMessageBlocks, map_map] at decoded
    have own : decodeOneBlock (boundContentBlock block).toValue = boundContentBlock block :=
      map_inj_left.mp decoded block member
    have item : BoundedItem (boundContentBlock block).toValue :=
      keeps.bounded _ rfl _ (mem_map_of_mem member)
    exact kept_of_decoded ((decodeOneBlock_toValue_iff _).mp own) item
  · intro kept
    have decoded : decodeMessageBlocks (encodeMessageContent blocks) = blocks.map boundContentBlock := by
      rw [encodeMessageContent_eq]
      refine decodeMessageBlocks_written fun block member => ?_
      obtain ⟨original, stored, rfl⟩ := mem_map.mp member
      exact (kept original stored).decoded
    refine ⟨decoded, ?_, ?_⟩
    · -- the bounded blocks are settled, so bounding them again changes none of them
      have same : (blocks.map boundContentBlock).map boundContentBlock = blocks.map boundContentBlock := by
        rw [map_map]
        exact map_congr_left fun block member => (kept block member).settled.unchanged
      rw [decoded, encodeMessageContent_eq, same, ← encodeMessageContent_eq]
    · intro items same item member
      obtain rfl := arr.inj same
      obtain ⟨block, stored, rfl⟩ := mem_map.mp member
      exact (kept block stored).boundedItem

theorem codec_keeps_iff (blocks : List LlmContentBlock) (sized : ∀ block ∈ blocks, block.Sized) :
    CodecKeeps blocks ↔ ∀ block ∈ blocks, block.Storable :=
  (codecKeeps_iff_kept blocks).trans (forall₂_congr fun block member => (sized block member).kept_iff)

def failedCall : List LlmContentBlock :=
  [{ blockType := "tool_call", toolCallId := some "c", name := some "t", arguments := some (.obj [("n", .int 1)]) },
    { blockType := "tool_result", toolCallId := some "c", content := some "out", isError := some true,
      error := some (.obj [("code", .str "denied"), ("message", .str "no")]),
      artifact := some (.arr [.obj [("id", .str "a")]]) }]

theorem codec_keeps_failedCall : CodecKeeps failedCall := by
  have sized : ∀ block ∈ failedCall, block.Sized := by
    simp only [failedCall, forall_mem_cons, not_mem_nil, false_imp_iff, implies_true, and_true]
    refine ⟨⟨nofun, nofun⟩, nofun, ?_⟩
    rintro value ⟨⟩
    decide
  refine (codec_keeps_iff failedCall sized).mpr ?_
  simp only [failedCall, forall_mem_cons, not_mem_nil, false_imp_iff, implies_true, and_true]
  refine ⟨⟨nofun, nofun, nofun⟩, nofun, ?_, ?_⟩
  · rintro value ⟨⟩
    exact ⟨nofun, .inl (by decide)⟩
  · rintro value ⟨⟩
    exact ⟨nofun, nofun, by decide⟩

theorem nested_artifact_lost : decodeMessageBlocks (encodeMessageContent
        [{ blockType := "tool_result", artifact := some (.arr [.arr [.str "a"]]) }]) ≠
      [boundContentBlock { blockType := "tool_result", artifact := some (.arr [.arr [.str "a"]]) }] := by
  decide

end RustScriptAgent.Gateway
