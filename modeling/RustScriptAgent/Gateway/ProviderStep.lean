import RustScriptAgent.Gateway.Commits

namespace RustScriptAgent.Gateway

open Json

def nonRetryableErrorCodes : List String :=
  ["setup", "config", "adapter_unavailable", "malformed_payload", "scripted_exhausted", "cancelled",
    "deadline_elapsed", "adapter_failed", "unsupported_parallel", "unsupported_task",
    "provider_step_persist_failed", "interrupted_provider", "corrupt_provider_step", "run_terminal",
    "missing_tool_parent"]

def transientErrorCodes : List String := ["unavailable", "timeout", "rate_limited", "overloaded", "transport"]

def isNonRetryableErrorCode (code : String) : Bool := decide (code ∈ nonRetryableErrorCodes)

def errorIsRetryableCode (code : String) : Bool :=
  !isNonRetryableErrorCode code && decide (code ∈ transientErrorCodes)

def errorTypeFor (code : String) : String :=
  if code = "malformed_payload" then "malformed_payload"
  else if code = "cancelled" ∨ code = "deadline_elapsed" then "invalid_request_error"
  else "api_error"

def typedFail (code message : String) : Json :=
  .obj [("error", .obj [("code", .str code), ("message", .str message), ("param", .str ""), ("request_id", .str ""),
      ("retryable", .bool (errorIsRetryableCode code)), ("status", .int 0), ("type", .str (errorTypeFor code))]),
    ("ok", .bool false), ("response", .obj [])]

def asU64? : Json → Option Nat
  | .int value => if 0 ≤ value ∧ value < 2 ^ 64 then some value.toNat else none
  | _ => none

def getU64? (key : String) (document : Json) : Option Nat := (document.get? key).bind asU64?

def mapCommitError : EventCommitError → Json
  | .terminal => typedFail "run_terminal" "run is terminal"
  | .cancelled => typedFail "cancelled" "run was cancelled"
  | .persistFailed _ => typedFail "provider_step_persist_failed" "failed to persist provider step"
  | .missingParent => typedFail "missing_tool_parent" "tool result parent tool_call is missing"
  | .corrupt _ => typedFail "corrupt_provider_step" "durable provider state is corrupt"

structure CanonicalProviderStep where
  blocks : List LlmContentBlock
  usage : Option Usage
  finishReason : Option String
  model : Option String
  provider : Option String
  truncated : Option Bool
  reasoning : Option Json

def CanonicalProviderStep.toStep (canonical : CanonicalProviderStep) (turn : Nat) : ProviderStep where
  turn := turn
  blocks := canonical.blocks
  usage := canonical.usage
  finishReason := canonical.finishReason
  provider := canonical.provider
  model := canonical.model
  truncated := canonical.truncated
  reasoning := canonical.reasoning

def parseUsage (value : Json) : Option Usage :=
  if isObject value then
    some {
      inputTokens := (getU64? "input_tokens" value).getD 0
      outputTokens := (getU64? "output_tokens" value).getD 0
      totalTokens := (getU64? "total_tokens" value).getD 0 }
  else none

section Canonical

variable (parse : String → Option Json)

def toolCallBlock (call : Json) : LlmContentBlock :=
  let argumentsJson := call.getStr? "arguments_json" <|> (call.get? "arguments").map render
  { blockType := "tool_call"
    toolCallId := (call.get? "id" <|> call.get? "tool_call_id").bind asStr?
    name := call.getStr? "name"
    argumentsJson := argumentsJson
    arguments := call.get? "arguments" <|> argumentsJson.bind parse
    truncated := (call.get? "truncated").bind asBool? }

def completeBlocks (response : Json) (decoded : List LlmContentBlock) : List LlmContentBlock :=
  let spoken (text : String) : LlmContentBlock := { blockType := "text", text := some text }
  let text := (response.getStr? "text").getD ""
  let blocks := if decoded = [] ∧ text ≠ "" then [spoken text] else decoded
  let calls :=
    if blocks.any (fun block => block.blockType = "tool_call") then []
    else ((response.get? "tool_calls").bind asArr?).getD []
  let all := blocks ++ calls.map (toolCallBlock parse)
  if all = [] then [spoken text] else all

def namedBy (key : String) (response request : Json) : Option String :=
  ((response.get? key <|> request.get? key).bind asStr?).filter fun text => text != ""

def canonicalProviderStep (response request : Json) : Except Json CanonicalProviderStep := do
  let decoded ←
    match response.get? "content" with
    | none => .ok []
    | some content => (decodeProviderBlocksStrict parse content).mapError mapCommitError
  return {
    blocks := completeBlocks parse response decoded
    usage := (response.get? "usage").bind parseUsage
    finishReason := (response.get? "stop_reason" <|> response.get? "finish_reason").bind asStr?
    model := namedBy "model" response request
    provider := namedBy "provider" response request
    truncated := (response.get? "truncated").bind asBool?
    reasoning := (response.get? "reasoning").filter fun value => decide (value ≠ .null ∧ value ≠ .str "") }

def isTextOrNull : Json → Bool
  | .str _ | .null => true
  | _ => false

def isTokenCount (value : Json) : Bool := decide (value = .null) || (asU64? value).isSome

def isArrayOrNull : Json → Bool
  | .arr _ | .null => true
  | _ => false

def canonicalProviderStepFromEnvelope (envelope request : Json) : Except Json CanonicalProviderStep :=
  let malformed (message : String) : Except Json CanonicalProviderStep :=
    .error (typedFail "malformed_payload" message)
  match envelope.get? "response" with
  | none => malformed "provider response is missing"
  | some response =>
    if isObject response = false then malformed "provider response must be an object"
    else if (response.get? "stop_reason" <|> response.get? "finish_reason").all isTextOrNull = false then
      malformed "finish_reason must be a string"
    else if (response.get? "usage").all isObject = false then malformed "usage must be an object"
    else if ["input_tokens", "output_tokens", "total_tokens"].all (fun key =>
        ((response.get? "usage").bind (get? key)).all isTokenCount) = false then
      malformed "usage fields must be non-negative integers"
    else if (response.get? "tool_calls").all isArrayOrNull = false then malformed "tool_calls must be an array"
    else canonicalProviderStep parse response request

end Canonical

end RustScriptAgent.Gateway
