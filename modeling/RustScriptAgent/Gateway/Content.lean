import RustScriptAgent.Shared.Json

namespace RustScriptAgent.Gateway

open Json

def maxDurableTextChars : Nat := 65536

def truncateUtf8Chars (text : String) (maxChars : Nat) : String × Bool :=
  if maxChars < text.length then (String.ofList (text.toList.take maxChars), true) else (text, false)

structure LlmContentBlock where
  blockType : String
  text : Option String := none
  toolCallId : Option String := none
  name : Option String := none
  argumentsJson : Option String := none
  arguments : Option Json := none
  content : Option String := none
  isError : Option Bool := none
  result : Option Json := none
  error : Option Json := none
  artifact : Option Json := none
  truncated : Option Bool := none
  deriving DecidableEq

namespace LlmContentBlock

def fieldOrder : List String :=
  ["type", "text", "tool_call_id", "name", "arguments_json", "arguments", "content", "is_error", "result",
    "error", "artifact", "truncated"]

def optional {α : Type} (read : Json → Option α) : Option Json → Option (Option α)
  | none => some none
  | some .null => some none
  | some value => (read value).map some

def fromFields (field : String → Option Json) : Option LlmContentBlock := do
  let blockType ← (field "type").bind asStr?
  let text ← optional asStr? (field "text")
  let toolCallId ← optional asStr? (field "tool_call_id")
  let name ← optional asStr? (field "name")
  let argumentsJson ← optional asStr? (field "arguments_json")
  let arguments ← optional some (field "arguments")
  let content ← optional asStr? (field "content")
  let isError ← optional asBool? (field "is_error")
  let result ← optional some (field "result")
  let error ← optional some (field "error")
  let artifact ← optional some (field "artifact")
  let truncated ← optional asBool? (field "truncated")
  return { blockType, text, toolCallId, name, argumentsJson, arguments, content, isError, result, error,
           artifact, truncated }

/-- `serde_json::from_value`: a struct reads from an object or from an array of its fields. -/
def fromValue : Json → Option LlmContentBlock
  | .obj fields =>
    let document := obj fields
    match document.get? "artifact", document.get? "artifacts" with
    | some _, some _ => none
    | some artifact, none => fromFields fun key => if key = "artifact" then some artifact else document.get? key
    | none, artifacts => fromFields fun key => if key = "artifact" then artifacts else document.get? key
  | .arr items =>
    if fieldOrder.length < items.length then none
    else fromFields fun key => items[fieldOrder.idxOf key]?
  | _ => none

def present {α : Type} (key : String) (write : α → Json) : Option α → List (String × Json)
  | none => []
  | some value => [(key, write value)]

/-- `serde_json::to_value`: a map keeps its keys in order, and fields without a value are left out. -/
def toValue (block : LlmContentBlock) : Json :=
  .obj (present "arguments" id block.arguments ++ present "arguments_json" str block.argumentsJson ++
    present "artifact" id block.artifact ++ present "content" str block.content ++
    present "error" id block.error ++ present "is_error" bool block.isError ++
    present "name" str block.name ++ present "result" id block.result ++
    present "text" str block.text ++ present "tool_call_id" str block.toolCallId ++
    present "truncated" bool block.truncated ++ [("type", .str block.blockType)])

end LlmContentBlock

open LlmContentBlock

def textBlock (text : String) : LlmContentBlock :=
  let (kept, truncated) := truncateUtf8Chars text maxDurableTextChars
  { blockType := "text", text := some kept, truncated := if truncated then some true else none }

def firstArtifact : Option Json → Option Json
  | some (.arr items) => items.head?
  | artifact => artifact

def decodeOneBlock (value : Json) : LlmContentBlock :=
  let block := (fromValue value).getD (textBlock value.render)
  { block with
    truncated := if block.truncated = some false then none else block.truncated
    argumentsJson := block.argumentsJson <|> block.arguments.map render
    arguments := none
    artifact := firstArtifact block.artifact }

def decodeMessageBlocks : Json → List LlmContentBlock
  | .arr items => items.map decodeOneBlock
  | .str text => [textBlock text]
  | .obj fields =>
    let document := obj fields
    match document.getStr? "type", document.get? "text" with
    | some _, _ => [decodeOneBlock document]
    | none, some (.str text) => [textBlock text]
    | none, some other => [textBlock other.render]
    | none, none => [textBlock document.render]
  | .null => []
  | other => [textBlock other.render]

def decodeMessageContent (value : Json) : Json :=
  .arr ((decodeMessageBlocks value).map toValue)

def boundStructuredJson (value : Json) (retainErrorCode : Bool) : Json × Bool :=
  let originalBytes := value.render.utf8ByteSize
  if originalBytes ≤ maxDurableTextChars then (value, false)
  else
    let code := if retainErrorCode then present "code" id (value.get? "code") else []
    (.obj (code ++ [("original_bytes", .int originalBytes), ("redacted", .bool true), ("truncated", .bool true)]),
      true)

def boundContentBlock (block : LlmContentBlock) : LlmContentBlock :=
  let text := block.text.map (truncateUtf8Chars · maxDurableTextChars)
  let content := block.content.map (truncateUtf8Chars · maxDurableTextChars)
  let argumentsJson := (block.argumentsJson <|> block.arguments.map render).map
    (truncateUtf8Chars · maxDurableTextChars)
  let result := block.result.map (boundStructuredJson · false)
  let error := block.error.map (boundStructuredJson · true)
  let cut := block.truncated.getD false || (text.map Prod.snd).getD false || (content.map Prod.snd).getD false ||
    (argumentsJson.map Prod.snd).getD false || (result.map Prod.snd).getD false || (error.map Prod.snd).getD false
  { block with
    text := text.map Prod.fst
    content := content.map Prod.fst
    argumentsJson := argumentsJson.map Prod.fst
    arguments := none
    result := result.map Prod.fst
    error := error.map Prod.fst
    artifact := firstArtifact block.artifact
    truncated := if cut then some true else none }

def encodeMessageContent (blocks : List LlmContentBlock) : Json :=
  .arr (blocks.map fun block => (boundContentBlock block).toValue)

structure ToolError where
  code : String
  message : String
  deriving DecidableEq

structure ToolResult where
  ok : Bool
  content : String
  data : Json
  error : Option ToolError
  truncated : Bool
  artifacts : List String
  deriving DecidableEq

def ToolResult.success (content : String) (data : Json) : ToolResult where
  ok := true
  content := content
  data := data
  error := none
  truncated := false
  artifacts := []

def ToolResult.failure (code message : String) : ToolResult where
  ok := false
  content := ""
  data := .obj []
  error := some { code, message }
  truncated := false
  artifacts := []

def toolResultContentJson (toolCallId : String) (result : ToolResult) : Json :=
  let (content, cut) := truncateUtf8Chars result.content maxDurableTextChars
  encodeMessageContent
    [{ blockType := "tool_result"
       toolCallId := some toolCallId
       content := some content
       isError := some (!result.ok)
       result := if result.ok then some result.data else none
       error := result.error.map fun error => .obj [("code", .str error.code), ("message", .str error.message)]
       artifact := result.artifacts.head?.map fun id => .obj [("id", .str id)]
       truncated := if result.truncated || cut then some true else none }]

inductive EventCommitError where
  | terminal
  | cancelled
  | persistFailed (message : String)
  | missingParent
  | corrupt (message : String)
  deriving DecidableEq

section Provider

-- `serde_json::from_str` on the text of a tool call's arguments
variable (parse : String → Option Json)

def isObject : Json → Bool
  | .obj _ => true
  | _ => false

def validateProviderBlock (block : LlmContentBlock) : Except EventCommitError Unit := do
  if maxDurableTextChars < (block.text.getD "").length then
    throw (.corrupt "provider text exceeds durable bound")
  if block.blockType = "tool_call" then
    if block.toolCallId.getD "" = "" ∨ block.name.getD "" = "" then
      throw (.corrupt "tool_call missing id or name")
    if block.truncated = some true then
      throw (.corrupt "tool_call arguments are truncated")
    match block.argumentsJson with
    | none => throw (.corrupt "tool_call arguments_json is missing")
    | some arguments =>
      if maxDurableTextChars < arguments.utf8ByteSize then
        throw (.corrupt "tool_call arguments exceed durable bound")
      match parse arguments with
      | none => throw (.corrupt "tool_call arguments_json is not JSON")
      | some parsed =>
        if isObject parsed = false then
          throw (.corrupt "tool_call arguments must be a JSON object")

def validateProviderBlocks (blocks : List LlmContentBlock) : Except EventCommitError Unit :=
  blocks.forM (validateProviderBlock parse)

def parseStrictToolArguments (block : Json) : Except EventCommitError String :=
  match block.get? "arguments_json", block.get? "arguments" with
  | some (.str text), _ =>
    match parse text with
    | none => .error (.corrupt "tool_call arguments_json is not JSON")
    | some parsed =>
      if isObject parsed then .ok text
      else .error (.corrupt "tool_call arguments must be a JSON object")
  | some _, _ => .error (.corrupt "tool_call arguments_json must be a string")
  | none, some arguments =>
    if isObject arguments then .ok arguments.render
    else .error (.corrupt "tool_call arguments must be a JSON object")
  | none, none => .error (.corrupt "tool_call arguments_json is missing")

def decodeProviderBlockStrict : Json → Except EventCommitError LlmContentBlock
  | .obj [] => .error (.corrupt "provider content block must not be empty")
  | .obj fields =>
    let block := obj fields
    let truncated := (block.get? "truncated").bind asBool?
    match block.getStr? "type" with
    | none => .error (.corrupt "provider content block is missing type")
    | some "text" =>
      match block.getStr? "text" with
      | none => .error (.corrupt "text block requires string text")
      | some text => .ok { blockType := "text", text := some text, truncated }
    | some "tool_call" =>
      let id := ((block.get? "tool_call_id" <|> block.get? "id").bind asStr?).getD ""
      let name := (block.getStr? "name").getD ""
      if id = "" ∨ name = "" then .error (.corrupt "tool_call missing id or name")
      else if truncated = some true then .error (.corrupt "tool_call arguments are truncated")
      else do
        let arguments ← parseStrictToolArguments parse block
        return { blockType := "tool_call", toolCallId := some id, name := some name,
                 argumentsJson := some arguments, truncated }
    | some other => .error (.corrupt ("unknown provider content block type: " ++ other))
  | _ => .error (.corrupt "provider content block must be an object")

def decodeProviderBlocksStrict : Json → Except EventCommitError (List LlmContentBlock)
  | .arr items => items.mapM (decodeProviderBlockStrict parse)
  | _ => .error (.corrupt "provider content must be a canonical block array")

def envelopeToolCall (block : LlmContentBlock) : Except EventCommitError (Option Json) :=
  if block.blockType = "text" then .ok none
  else if block.blockType ≠ "tool_call" then .error (.corrupt "unknown provider content block type")
  else
    match block.argumentsJson with
    | none => .error (.corrupt "missing tool_call arguments_json")
    | some text =>
      match parse text with
      | none => .error (.corrupt "invalid tool_call arguments_json")
      | some arguments =>
        if isObject arguments = false then .error (.corrupt "tool_call arguments must be a JSON object")
        else if block.toolCallId.getD "" = "" ∨ block.name.getD "" = "" then
          .error (.corrupt "tool_call missing id or name")
        else .ok (some (.obj [("arguments", arguments), ("arguments_json", .str text),
          ("id", .str (block.toolCallId.getD "")), ("name", .str (block.name.getD ""))]))

def namedEntry (key : String) (metadata : Json) : List (String × Json) :=
  match metadata.get? key with
  | some (.str "") => []
  | entry => present key id entry

def reconstructProviderEnvelope (content metadata : Json) (finishReason : Option String) :
    Except EventCommitError Json := do
  let blocks ← decodeProviderBlocksStrict parse content
  validateProviderBlocks parse blocks
  let toolCalls ← blocks.mapM (envelopeToolCall parse)
  let text := String.join (blocks.map fun block => if block.blockType = "text" then block.text.getD "" else "")
  let response := present "finish_reason" str finishReason ++ namedEntry "model" metadata ++
    namedEntry "provider" metadata ++ present "reasoning" id (metadata.get? "reasoning") ++
    present "stop_reason" str finishReason ++ [("text", .str text)] ++
    [("tool_calls", .arr (toolCalls.filterMap id))] ++
    present "truncated" id (metadata.get? "truncated") ++
    present "usage" id (metadata.get? "usage")
  return .obj [("error", .obj []), ("ok", .bool true), ("response", .obj response)]

end Provider

end RustScriptAgent.Gateway
