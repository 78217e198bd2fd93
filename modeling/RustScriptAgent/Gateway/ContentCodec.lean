import RustScriptAgent.Gateway.UserText

namespace RustScriptAgent.Gateway

open Storage LlmContentBlock Json

variable {fields : List (String × Json)}

def decodeStored : JsonText → Option Json
  | .raw _ => none
  | .json content => some (decodeMessageContent content)

def cutsAlike (text : String) : Bool :=
  decide (text.length ≤ maxContentText ∨ maxContentText < (SqlValue.text text).length)

def codecsAgree : Json → Bool
  | .null => false
  | .str text => cutsAlike text
  | .arr _ => true
  | .obj fields =>
    let document := obj fields
    match notNull (document.get? "type"), document.get? "text" with
    | some (.str _), _ => true
    | some _, none => true
    -- storage takes it for a block, memory for a text
    | some _, some text => decide (textBlock (sqlText text) = textBlock document.render)
    | none, none => cutsAlike document.render
    | none, some (.str text) => cutsAlike text
    | none, some (.arr items) => cutsAlike (arr items).render
    | none, some (.obj inner) => cutsAlike (obj inner).render
    | none, some .null => false
    | none, some (.bool _) => false
    -- storage keeps a number, unless it cuts it like a text
    | none, some number => decide (maxContentText < number.render.length)
  | scalar => cutsAlike scalar.render

section Agreement

variable {sqlite serde : String → Option Json} {value : Json}

theorem decodeMessageContent_inj {one other : Json} :
    decodeMessageContent one = decodeMessageContent other ↔ decodeMessageBlocks one = decodeMessageBlocks other := by
  refine ⟨fun same => ?_, fun same => by rw [decodeMessageContent, same]; rfl⟩
  exact List.map_injective_iff.mpr (fun _ _ => toValue_injective) (arr.inj same)

theorem fromValue_untyped (untyped : (obj fields).getStr? "type" = none) : fromValue (.obj fields) = none := by
  have refused (field : String → Option Json) (same : field "type" = (obj fields).get? "type") :
    fromFields field = none := by
    rw [getStr?] at untyped
    rw [fromFields, same, untyped]
    rfl
  unfold fromValue
  dsimp only
  split
  · rfl
  · exact refused _ rfl
  · exact refused _ rfl

theorem decode_untyped (untyped : (obj fields).getStr? "type" = none) : decodeMessageBlocks (.obj fields) =
      [textBlock (((obj fields).get? "text").elim (obj fields).render sqlText)] := by
  simp only [decodeMessageBlocks, untyped]
  cases (obj fields).get? "text" with
  | none => rfl
  | some text => cases text <;> rfl

theorem decode_textContent_cut {value : SqlValue} (cut : maxContentText < value.length)
    (long : maxContentText < value.asText.length) :
    decodeMessageBlocks (textContent value) = [textBlock value.asText] := by
  have bound : maxDurableTextChars = maxContentText := rfl
  rw [textContent, if_pos cut, decode_cutText]
  simp [textBlock, truncateUtf8Chars, bound, long]

theorem decode_textContent_text (text : String) :
    decodeMessageBlocks (textContent (.text text)) = [textBlock text] ↔ cutsAlike text := by
  rw [cutsAlike, decide_eq_true_iff]
  by_cases cut : maxContentText < (SqlValue.text text).length
  · exact iff_of_true (decode_textContent_cut cut (cut.trans_le (SqlValue.length_text_le text))) (.inr cut)
  · rw [textContent, if_neg cut, or_iff_left cut]
    constructor
    · intro agree
      by_contra long
      -- memory has cut the text
      have more : maxDurableTextChars < text.length := Nat.lt_of_not_le long
      rw [SqlValue.json, decode_printedText, textBlock, truncateUtf8Chars, if_pos more] at agree
      simp at agree
    · intro short
      rw [textBlock_short short]
      exact decode_printedText text

theorem textContent_eq_short {text other : String} (short : other.length ≤ maxDurableTextChars)
    (agree : decodeMessageBlocks (textContent (.text text)) = [textBlock other]) : text = other := by
  rw [textContent, textBlock_short short] at agree
  split_ifs at agree
  · simp [decode_cutText] at agree
  · simpa [SqlValue.json, decode_printedText] using agree

theorem length_printedBlock (value : Json) : value.render.length < (printedBlock value).render.length := by
  simp only [printedBlock, render, renderFields, String.length_append]
  have mark : 0 < "\x7b".length := by decide
  omega

theorem decode_textContent_number {value : SqlValue} (number : value.isNumber) {text : String}
    (short : value.asText.length ≤ maxContentText) (whole : text.length ≤ maxDurableTextChars)
    (apart : (printedBlock value.json).render ≠ text) : decodeMessageBlocks (textContent value) ≠ [textBlock text] := by
  have kept : ¬ maxContentText < value.length := by
    cases value with
    | text => cases number
    | _ => exact Nat.not_lt.mpr short
  rw [textContent, if_neg kept, decode_printedBlock number]
  exact fun agree => apart (textBlock_eq_short whole (List.cons.inj agree).1)

theorem number_agrees {value : SqlValue} (number : value.isNumber) :
    decodeMessageBlocks (textContent value) = [textBlock value.json.render] ↔
      maxContentText < value.json.render.length := by
  have plain : value.asText = value.json.render ∧ value.length = value.asText.length := by
    cases value with
    | text => cases number
    | _ => exact ⟨rfl, rfl⟩
  constructor
  · intro agree
    by_contra long
    have short : value.json.render.length ≤ maxContentText := Nat.not_lt.mp long
    refine decode_textContent_number number (by rw [plain.1]; exact short) short (fun same => ?_) agree
    have longer := length_printedBlock value.json
    rw [same] at longer
    exact Nat.lt_irrefl _ longer
  · intro long
    rw [← plain.1] at long ⊢
    exact decode_textContent_cut (by rw [plain.2]; exact long) long

theorem render_obj_ne_null (fields : List (String × Json)) : (obj fields).render ≠ "null" := by
  intro same
  have first := congrArg (fun text : String => text.toList.head?) same
  simp [render] at first

theorem untyped_agrees (untyped : notNull ((obj fields).get? "type") = none) :
    decodeMessageBlocks (textContent ((jsonExtract "text" (.obj fields)).getD (.text (obj fields).render))) =
        decodeMessageBlocks (.obj fields) ↔ codecsAgree (.obj fields) := by
  have direct : (obj fields).getStr? "type" = none := by
    rw [getStr?]
    cases kind : (obj fields).get? "type" with
    | none => rfl
    | some type => cases type <;> simp_all [notNull, asStr?]
  rw [decode_untyped direct]
  simp only [jsonExtract, codecsAgree, untyped]
  cases member : (obj fields).get? "text" with
  | none => exact decode_textContent_text _
  | some text =>
    cases text with
    | null =>
      -- the whole object is stored, and memory has the text "null"
      exact iff_of_false (fun agree => render_obj_ne_null fields (textContent_eq_short (by decide) agree))
        Bool.false_ne_true
    | str text => exact decode_textContent_text text
    | bool flag =>
      -- storage writes the flag as a number
      have differs : decodeMessageBlocks (textContent (.int (if flag then 1 else 0))) ≠
          [textBlock (bool flag).render] := by
        refine decode_textContent_number rfl ?_ ?_ ?_ <;> cases flag <;> decide +kernel
      exact iff_of_false differs Bool.false_ne_true
    | int value => exact (@number_agrees (.int value) rfl).trans decide_eq_true_iff.symm
    | float literal => exact (@number_agrees (.real literal) rfl).trans decide_eq_true_iff.symm
    | arr | obj => exact decode_textContent_text _

theorem typed_agrees {type : Json} (typed : notNull ((obj fields).get? "type") = some type) :
    decodeMessageBlocks (.arr [.obj fields]) = decodeMessageBlocks (.obj fields) ↔ codecsAgree (.obj fields) := by
  have kind : (obj fields).get? "type" = some type ∧ type ≠ .null := by
    refine ⟨?_, fun none => notNull_ne_null _ (none ▸ typed)⟩
    unfold notNull at typed
    split at typed
    · cases typed
    · exact typed
  rw [decodeMessageBlocks, List.map_singleton]
  cases type with
  | str name =>
    refine iff_of_true ?_ (by simp only [codecsAgree, typed])
    have direct : (obj fields).getStr? "type" = some name := by rw [getStr?, kind.1]; rfl
    simp only [decodeMessageBlocks, direct]
  | null => exact absurd rfl kind.2
  | bool | int | float | arr | obj =>
    have direct : (obj fields).getStr? "type" = none := by rw [getStr?, kind.1]; rfl
    rw [decode_untyped direct, decodeOneBlock_unread (fromValue_untyped direct)]
    simp only [codecsAgree, typed]
    cases (obj fields).get? "text" with
    | none => simp
    | some text => simp [eq_comm]

theorem content_codecs_agree_iff (valid : sqlite value.render = some value) (loaded : serde value.render = some value)
    (wrapped : serde (arr [value]).render = some (.arr [value])) :
    decodeStored (storageMessageEncodeContent sqlite serde value.render) = some (decodeMessageContent value) ↔
      codecsAgree value = true := by
  have texts (content : Json) : decodeStored (.json content) = some (decodeMessageContent value) ↔
      decodeMessageBlocks content = decodeMessageBlocks value := by
    rw [decodeStored, Option.some.injEq, decodeMessageContent_inj]
  unfold storageMessageEncodeContent
  rw [valid]
  cases value with
  | null =>
    refine iff_of_false ?_ Bool.false_ne_true
    rw [texts, textContent_short (by decide)]
    exact List.cons_ne_nil _ _
  | bool | int | float | str => exact (texts _).trans (decode_textContent_text _)
  | arr items =>
    refine iff_of_true ?_ rfl
    simp only [storedText, loaded]
    rfl
  | obj fields =>
    dsimp only
    split
    · next typed =>
        obtain ⟨type, found⟩ := Option.ne_none_iff_exists'.mp (of_decide_eq_true typed)
        have stored : storedText serde ("[" ++ (obj fields).render ++ "]") = .json (.arr [.obj fields]) := by
          rw [storedText, show "[" ++ (obj fields).render ++ "]" = (arr [.obj fields]).render from rfl, wrapped]
        rw [stored, texts]
        exact typed_agrees found
    · next untyped =>
        rw [texts]
        exact untyped_agrees (not_not.mp fun present => untyped (decide_eq_true present))

end Agreement

section Kinds

def listedText : Json := .obj [("text", .arr [.int 1, .str "a"])]

theorem content_codecs_agree_listed :
    decodeStored (storageMessageEncodeContent (readsOnly listedText) (readsOnly listedText) listedText.render) =
      some (decodeMessageContent listedText) :=
  (content_codecs_agree_iff (by decide +kernel) (by decide +kernel) (by decide +kernel)).mpr (by decide +kernel)

def numberedText : Json := .obj [("text", .int 5)]

theorem numbered_text_differs :
    decodeMessageContent numberedText = .arr [.obj [("text", .str "5"), ("type", .str "text")]] ∧
      decodeStored (storageMessageEncodeContent (readsOnly numberedText) (readsOnly numberedText) numberedText.render) =
        some (.arr [.obj [("text", .str "\x7b\"text\":5,\"type\":\"text\"\x7d"), ("type", .str "text")]]) := by
  decide +kernel

end Kinds

end RustScriptAgent.Gateway
