import RustScriptAgent.Shared.Json
import RustScriptAgent.Shared.Chunks

namespace RustScriptAgent.Telegram

open Chunks

abbrev Text := List Char

def telegramMaxUtf16 : Nat := 4096

def lenUtf16 (ch : Char) : Nat := if ch.val < 0x10000 then 1 else 2

def utf16Len (text : Text) : Nat := weigh lenUtf16 text

def chunkText (text : Text) : List Text := split telegramMaxUtf16 lenUtf16 text

theorem lenUtf16_le (ch : Char) : lenUtf16 ch ≤ telegramMaxUtf16 := by
  unfold lenUtf16 telegramMaxUtf16
  split <;> omega

theorem chunkText_fewest (text : Text) (some : text ≠ []) :
    (chunkText text).flatten = text ∧
    (∀ chunk ∈ chunkText text, chunk ≠ [] ∧ utf16Len chunk ≤ telegramMaxUtf16) ∧
    Chunks.Full telegramMaxUtf16 lenUtf16 (chunkText text) ∧
    (∀ pieces : List Text, pieces.flatten = text → (∀ piece ∈ pieces, utf16Len piece ≤ telegramMaxUtf16) →
      (chunkText text).length ≤ pieces.length) ∧
    chunkText [] = [[]] :=
  ⟨flatten_split text, fun _ member => mem_split lenUtf16_le some member, split_full text,
    fun _ whole light => split_pieces some light whole, rfl⟩

def padding : Text := List.replicate (telegramMaxUtf16 - 1) 'b'

theorem chunkText_padding : chunkText ('a' :: (padding ++ ['b'])) = ['a' :: padding, ['b']] := by
  have weight : weigh lenUtf16 ('a' :: padding) = telegramMaxUtf16 := by
    rw [padding, weigh_cons, weigh_replicate]
    decide
  have long : ¬ weigh lenUtf16 ('a' :: padding ++ ['b']) ≤ telegramMaxUtf16 := by
    rw [weigh_append, weight]
    decide
  have full : telegramMaxUtf16 < 0 + telegramMaxUtf16 + lenUtf16 'b' ∧ [] ++ 'a' :: padding ≠ [] :=
    ⟨by decide, List.cons_ne_nil _ _⟩
  rw [← List.cons_append, chunkText, split, if_neg long,
    loop_append [] ('a' :: padding) ['b'] 0 (by rw [weight]; decide), weight]
  simp only [loop, if_pos full]
  rfl

theorem chunkText_fewest_padding : (chunkText ('a' :: (padding ++ ['b']))).length = 2 ∧
    ∀ pieces : List Text, pieces.flatten = 'a' :: (padding ++ ['b']) →
      (∀ piece ∈ pieces, utf16Len piece ≤ telegramMaxUtf16) → 2 ≤ pieces.length := by
  have fewest := (chunkText_fewest ('a' :: (padding ++ ['b'])) (List.cons_ne_nil _ _)).2.2.2.1
  rw [chunkText_padding] at fewest ⊢
  exact ⟨rfl, fewest⟩

theorem chunkText_empty : [] ∈ chunkText [] ∧ ([] : List Text).flatten = [] ∧ 0 < (chunkText []).length := by decide

inductive RenderAction where
  | send (text : Text)
  | sendDelta (text : Text)
  | edit (messageId : Int) (text : Text)
  deriving DecidableEq

structure EventRenderer where
  currentMessageId : Option Int
  currentText : Text
  deriving DecidableEq

def deltaText (data : Json) : Text :=
  (((data.get? "delta").or (data.get? "text")).bind Json.asStr?).getD "" |>.toList

def toolName (data : Json) : String :=
  ((((data.get? "tool_call").bind (Json.get? "name")).or (data.get? "tool_name")).or (data.get? "name")).bind
    Json.asStr? |>.getD "unknown tool"

def approvalState (data : Json) : String :=
  ((data.get? "state").or (data.get? "decision")).bind Json.asStr? |>.getD "resolved"

def errorMessage (data : Json) : String :=
  (((((data.get? "error_message").or (data.get? "message")).or (data.get? "error")).or (data.get? "error_code")).or
    (data.get? "recovery_reason")).bind Json.asStr? |>.getD "run failed"

def sendLine (text : String) : List RenderAction := (chunkText text.toList).map .send

namespace EventRenderer

def new : EventRenderer := ⟨none, []⟩

def noteSent (renderer : EventRenderer) (messageId : Int) : EventRenderer :=
  { renderer with currentMessageId := some messageId }

def deliver (renderer : EventRenderer) : List Text → List RenderAction
  | [] => []
  | first :: rest =>
    match renderer.currentMessageId with
    | some messageId => .edit messageId first :: rest.map .sendDelta
    | none => (first :: rest).map .sendDelta

def flush (renderer : EventRenderer) : EventRenderer × List RenderAction :=
  if renderer.currentText = [] then (renderer, [])
  else ({ renderer with currentText := [] }, renderer.deliver (chunkText renderer.currentText))

def onDelta (renderer : EventRenderer) (delta : Text) : EventRenderer × List RenderAction :=
  if delta = [] then (renderer, [])
  else
    let chunks := chunkText (renderer.currentText ++ delta)
    ({ renderer with currentText := chunks.getLastD [] }, renderer.deliver chunks)

def onEvent (renderer : EventRenderer) (eventType : String) (data : Json) : EventRenderer × List RenderAction :=
  match eventType with
  | "model.delta" => renderer.onDelta (deltaText data)
  | "message.delta" =>
    let delta := deltaText data
    flush (if delta = [] then renderer else { renderer with currentText := delta })
  | "tool.requested" => (renderer, sendLine ("[tool] " ++ toolName data ++ " requested"))
  | "tool.completed" => (renderer, sendLine ("[tool] " ++ toolName data ++ " completed"))
  | "approval.required" => (renderer, sendLine ("[approval] " ++ toolName data ++ " requires approval (pending)"))
  | "approval.resolved" => (renderer, sendLine ("[approval] " ++ toolName data ++ ": " ++ approvalState data))
  | "compact.started" => (renderer, sendLine "[compact] started")
  | "compact.completed" => (renderer, sendLine "[compact] completed")
  | "run.completed" => (renderer, sendLine "[done]")
  | "run.failed" => (renderer, sendLine ("[failed] " ++ errorMessage data))
  | "run.cancelled" => (renderer, sendLine "[stopped]")
  | _ => (renderer, [])

end EventRenderer

structure ChatMessage where
  messageId : Int
  text : Text
  deltaOwned : Bool
  deriving DecidableEq

abbrev Chat := List ChatMessage

namespace Chat

def sendMessage (chat : Chat) (messageId : Int) (text : Text) (deltaOwned : Bool) : Chat :=
  chat ++ [⟨messageId, text, deltaOwned⟩]

def editMessageText (chat : Chat) (messageId : Int) (text : Text) : Chat :=
  chat.map fun message => if message.messageId = messageId then { message with text } else message

def deltaTexts (chat : Chat) : List Text := (chat.filter ChatMessage.deltaOwned).map ChatMessage.text

end Chat

/-- What happens around one action: the epoch checks before and after it, and the answer of the Bot API. A call that
fails leaves the chat as it is. -/
structure ActionView where
  current : Bool
  throttled : Bool
  answer : Option Int
  stillCurrent : Bool

structure Delivery where
  renderer : EventRenderer
  chat : Chat

namespace Delivery

/-- One action: the chat after it and the id to note, or `none` if the call failed. A throttled edit is not made. -/
def act (chat : Chat) (throttleEdits : Bool) (view : ActionView) : RenderAction → Option (Chat × Option Int)
  | .send text => view.answer.map fun messageId => (chat.sendMessage messageId text false, none)
  | .sendDelta text => view.answer.map fun messageId => (chat.sendMessage messageId text true, some messageId)
  | .edit messageId text =>
    if throttleEdits ∧ view.throttled then some (chat, none)
    else view.answer.map fun _ => (chat.editMessageText messageId text, none)

def note (renderer : EventRenderer) : Option Int → EventRenderer
  | some messageId => renderer.noteSent messageId
  | none => renderer

def renderActions (throttleEdits : Bool) (views : Nat → ActionView) :
    Nat → Delivery → List RenderAction → Delivery × Bool
  | _, delivery, [] => (delivery, true)
  | place, delivery, action :: rest =>
    let view := views place
    if !view.current then (delivery, false)
    else
      match act delivery.chat throttleEdits view action with
      | none => (delivery, false)
      | some (chat, messageId) =>
        let later := ⟨note delivery.renderer messageId, chat⟩
        if !view.stillCurrent then (later, false)
        else renderActions throttleEdits views (place + 1) later rest

def renderEvent (delivery : Delivery) (eventType : String) (data : Json) (views : Nat → ActionView) :
    Delivery × Bool :=
  let rendered := delivery.renderer.onEvent eventType data
  renderActions (eventType == "model.delta") views 0 ⟨rendered.1, delivery.chat⟩ rendered.2

def flushActions (views : Nat → ActionView) : Nat → Chat → List RenderAction → Chat × Bool
  | _, chat, [] => (chat, true)
  | place, chat, action :: rest =>
    let view := views place
    if !view.current then (chat, false)
    else
      match act chat false view action with
      | none => (chat, false)
      | some (later, _) => if !view.stillCurrent then (later, false) else flushActions views (place + 1) later rest

def flushRenderer (delivery : Delivery) (views : Nat → ActionView) : Delivery × Bool :=
  let flushed := delivery.renderer.flush
  let sent := flushActions views 0 delivery.chat flushed.2
  (⟨flushed.1, sent.1⟩, sent.2)

end Delivery

end RustScriptAgent.Telegram
