import Mathlib.Data.List.Nodup
import RustScriptAgent.Shared.Transition
import RustScriptAgent.Telegram.Render

namespace RustScriptAgent.Telegram

open ChatMessage EventRenderer Delivery Chunks List Transitions

variable {chat : Chat} {text head tail : Text}

structure RunEvent where
  eventType : String
  data : Json
  views : Nat → ActionView

open RunEvent

def RunEvent.delta (event : RunEvent) : Text := if event.eventType = "model.delta" then deltaText event.data else []

structure Stream where
  delivery : Delivery
  streamed : Text

namespace Stream

def start : Stream := ⟨⟨.new, []⟩, []⟩

def next (stream : Stream) (event : RunEvent) : Option Stream :=
  let rendered := stream.delivery.renderEvent event.eventType event.data event.views
  if rendered.2 then some ⟨rendered.1, stream.streamed ++ event.delta⟩ else none

end Stream

def Chat.owned (chat : Chat) : List ChatMessage := chat.filter ChatMessage.deltaOwned

def Chat.ids (chat : Chat) : List Int := chat.map ChatMessage.messageId

namespace Delivery

variable {throttleEdits : Bool} {views : Nat → ActionView} {place : Nat} {delivery later : Delivery}

theorem renderActions_cons {action : RenderAction} {rest : List RenderAction}
    (done : renderActions throttleEdits views place delivery (action :: rest) = (later, true)) :
    ∃ chat messageId, act delivery.chat throttleEdits (views place) action = some (chat, messageId) ∧
      renderActions throttleEdits views (place + 1) ⟨note delivery.renderer messageId, chat⟩ rest = (later, true) := by
  simp only [renderActions] at done
  split at done
  next => cases done
  next =>
    cases acted : act delivery.chat throttleEdits (views place) action with
    | none => simp [acted] at done
    | some result =>
      simp only [acted] at done
      split at done
      next => cases done
      next => exact ⟨result.1, result.2, rfl, done⟩

theorem flushActions_cons {shown : Chat} {action : RenderAction} {rest : List RenderAction}
    (done : flushActions views place chat (action :: rest) = (shown, true)) :
    ∃ after messageId, act chat false (views place) action = some (after, messageId) ∧
      flushActions views (place + 1) after rest = (shown, true) := by
  simp only [flushActions] at done
  split at done
  next => cases done
  next =>
    cases acted : act chat false (views place) action with
    | none => simp [acted] at done
    | some result =>
      simp only [acted] at done
      split at done
      next => cases done
      next => exact ⟨result.1, result.2, rfl, done⟩

theorem renderActions_send {lines : List Text}
    (done : renderActions throttleEdits views place delivery (lines.map .send) = (later, true)) :
    later.renderer = delivery.renderer ∧ later.chat.owned = delivery.chat.owned := by
  induction lines generalizing place delivery with
  | nil =>
    cases done
    exact ⟨rfl, rfl⟩
  | cons line rest ih =>
    obtain ⟨chat, messageId, acted, onward⟩ := renderActions_cons done
    obtain ⟨answer, _, same⟩ := Option.map_eq_some_iff.mp acted
    cases same
    obtain ⟨renderer, owned⟩ := ih onward
    exact ⟨renderer, owned.trans (by simp [Chat.owned, Chat.sendMessage])⟩

theorem renderActions_sendDelta {texts : List Text}
    (done : renderActions throttleEdits views place delivery (texts.map .sendDelta) = (later, true)) :
    ∃ sent : List ChatMessage, sent.map ChatMessage.text = texts ∧ later.chat.owned = delivery.chat.owned ++ sent ∧
      later.renderer = ⟨(sent.getLast?.map ChatMessage.messageId).or delivery.renderer.currentMessageId,
        delivery.renderer.currentText⟩ := by
  induction texts generalizing place delivery with
  | nil =>
    cases done
    exact ⟨[], rfl, by simp, rfl⟩
  | cons text rest ih =>
    obtain ⟨chat, messageId, acted, onward⟩ := renderActions_cons done
    obtain ⟨answer, _, same⟩ := Option.map_eq_some_iff.mp acted
    cases same
    obtain ⟨sent, texts, owned, renderer⟩ := ih onward
    refine ⟨⟨answer, text, true⟩ :: sent, by simp [texts], ?_, ?_⟩
    · rw [owned]
      simp [Chat.owned, Chat.sendMessage]
    · rw [renderer]
      cases sent with
      | nil => rfl
      | cons first others => simp [note, noteSent, getLast?_cons]

end Delivery

theorem onEvent_other (renderer : EventRenderer) {eventType : String} (data : Json)
    (notDelta : eventType ≠ "model.delta") (notFinal : eventType ≠ "message.delta") :
    ∃ lines : List Text, renderer.onEvent eventType data = (renderer, lines.map .send) := by
  unfold onEvent
  split
  · exact absurd rfl notDelta
  · exact absurd rfl notFinal
  all_goals first | exact ⟨_, rfl⟩ | exact ⟨[], rfl⟩

theorem Chat.editMessageText_owned {done : List ChatMessage} {last : ChatMessage}
    (distinct : chat.ids.Nodup) (owned : chat.owned = done ++ [last]) (text : Text) :
    (chat.editMessageText last.messageId text).owned = done ++ [{ last with text }] := by
  let edit (message : ChatMessage) : ChatMessage :=
    if message.messageId = last.messageId then { message with text } else message
  have same : deltaOwned ∘ edit = deltaOwned := by
    funext message
    simp only [edit, Function.comp]
    split <;> rfl
  have moved : (chat.editMessageText last.messageId text).owned = chat.owned.map edit := by
    simp only [Chat.editMessageText, Chat.owned, filter_map]
    rw [show (deltaOwned ∘ fun message : ChatMessage =>
      if message.messageId = last.messageId then { message with text } else message) = deltaOwned from same]
  have apart : (done.map messageId ++ [last.messageId]).Nodup := by
    have part : (chat.owned.map messageId).Nodup := distinct.sublist (filter_sublist.map _)
    rw [owned] at part
    simpa using part
  rw [moved, owned, map_append]
  congr 1
  · refine (map_congr_left fun message member => if_neg fun equal => ?_).trans (map_id' _)
    exact (nodup_append.mp apart).2.2 _ (mem_map_of_mem member) _ (mem_singleton.mpr rfl) equal
  · simp [edit]

namespace Delivery

variable {throttleEdits : Bool} {views : Nat → ActionView} {delivery later : Delivery} {done : List ChatMessage}
  {last : ChatMessage}

theorem deliver_edit (distinct : chat.ids.Nodup) (owned : chat.owned = done ++ [last])
    {renderer : EventRenderer} (target : renderer.currentMessageId = some last.messageId) {first current : Text}
    {rest : List Text}
    (ran : renderActions throttleEdits views 0 ⟨{ renderer with currentText := current }, chat⟩
      (renderer.deliver (first :: rest)) = (later, true)) :
    ∃ sent : List ChatMessage, sent.map ChatMessage.text = rest ∧
      later.chat.owned = done ++
        { last with text := if throttleEdits ∧ (views 0).throttled then last.text else first } :: sent ∧
      later.renderer = ⟨some ((sent.getLast?.map ChatMessage.messageId).getD last.messageId), current⟩ := by
  simp only [deliver, target] at ran
  obtain ⟨chat, messageId, acted, onward⟩ := renderActions_cons ran
  have edited : messageId = none ∧ chat.owned = done ++
      [{ last with text := if throttleEdits ∧ (views 0).throttled then last.text else first }] := by
    simp only [act] at acted
    split at acted
    next throttled =>
      cases acted
      exact ⟨rfl, by rw [owned, if_pos throttled]⟩
    next prompt =>
      obtain ⟨_, _, same⟩ := Option.map_eq_some_iff.mp acted
      cases same
      exact ⟨rfl, by rw [if_neg prompt]; exact Chat.editMessageText_owned distinct owned first⟩
  obtain ⟨rfl, changed⟩ := edited
  obtain ⟨sent, texts, appended, renderer⟩ := renderActions_sendDelta onward
  refine ⟨sent, texts, by rw [appended, changed]; simp, ?_⟩
  rw [renderer]
  cases sent.getLast? <;> simp [note]

theorem deliver_send {renderer : EventRenderer} (target : renderer.currentMessageId = none) {first : Text}
    {rest : List Text}
    (ran : renderActions throttleEdits views 0 delivery (renderer.deliver (first :: rest)) = (later, true)) :
    ∃ sent : List ChatMessage, sent.map ChatMessage.text = first :: rest ∧
      later.chat.owned = delivery.chat.owned ++ sent ∧
      later.renderer = ⟨(sent.getLast?.map ChatMessage.messageId).or delivery.renderer.currentMessageId,
        delivery.renderer.currentText⟩ := by
  simp only [deliver, target] at ran
  exact renderActions_sendDelta ran

end Delivery

theorem chunkText_append (fitting text : Text) (fits : utf16Len fitting ≤ telegramMaxUtf16) :
    ∃ more rest, chunkText (fitting ++ text) = (fitting ++ more) :: rest ∧
      (rest = [] ↔ utf16Len (fitting ++ text) ≤ telegramMaxUtf16) :=
  split_append lenUtf16_le fitting text fits

theorem mem_chunkText {chunk : Text} (some : text ≠ []) (member : chunk ∈ chunkText text) :
    chunk ≠ [] ∧ utf16Len chunk ≤ telegramMaxUtf16 :=
  mem_split lenUtf16_le some member

theorem flatten_dropLast_append_last {Item : Type} (lists : List (List Item)) :
    lists.dropLast.flatten ++ lists.getLastD [] = lists.flatten := by
  rcases eq_nil_or_concat lists with rfl | ⟨init, last, rfl⟩
  · rfl
  · simp

attribute [local simp] Delivery.renderEvent EventRenderer.onEvent EventRenderer.onDelta EventRenderer.flush
  Delivery.flushRenderer

structure Showing (stream : Stream) (done : List ChatMessage) (last : ChatMessage) : Prop where
  owned : stream.delivery.chat.owned = done ++ [last]
  target : stream.delivery.renderer.currentMessageId = some last.messageId
  shows : last.text <+: stream.delivery.renderer.currentText
  fits : utf16Len stream.delivery.renderer.currentText ≤ telegramMaxUtf16
  whole : done = [] → stream.delivery.renderer.currentText = stream.streamed
  single : done = [] ↔ utf16Len stream.streamed ≤ telegramMaxUtf16

namespace Stream

structure Sound (stream : Stream) : Prop where
  distinct : stream.delivery.chat.ids.Nodup
  sized : ∀ message ∈ stream.delivery.chat.owned, message.text ≠ [] ∧ utf16Len message.text ≤ telegramMaxUtf16
  shape : (stream.delivery.renderer = .new ∧ stream.delivery.chat.owned = [] ∧ stream.streamed = []) ∨
    ∃ done last, Showing stream done last

def kept (stream : Stream) : Text :=
  (stream.delivery.chat.owned.dropLast.map ChatMessage.text).flatten ++ stream.delivery.renderer.currentText

def Drops (stream : Stream) (event : RunEvent) : Prop :=
  event.eventType = "model.delta" ∧ (event.views 0).throttled = true ∧
    telegramMaxUtf16 < utf16Len (stream.delivery.renderer.currentText ++ event.delta) ∧
    ∃ message ∈ stream.delivery.chat, some message.messageId = stream.delivery.renderer.currentMessageId ∧
      message.text ≠ (chunkText (stream.delivery.renderer.currentText ++ event.delta)).headD []

variable {stream later : Stream} {event : RunEvent}

theorem start_sound : start.Sound := ⟨by simp [start, Chat.ids], by simp [start, Chat.owned], .inl ⟨rfl, rfl, rfl⟩⟩

theorem next_eq (taken : stream.next event = some later) :
    stream.delivery.renderEvent event.eventType event.data event.views = (later.delivery, true) ∧
      later.streamed = stream.streamed ++ event.delta := by
  simp only [next] at taken
  split at taken
  next delivered =>
    cases taken
    exact ⟨Prod.ext rfl delivered, rfl⟩
  next => cases taken

theorem Sound.idle (sound : stream.Sound) (distinct : later.delivery.chat.ids.Nodup)
    (renderer : later.delivery.renderer = stream.delivery.renderer)
    (owned : later.delivery.chat.owned = stream.delivery.chat.owned) (same : later.streamed = stream.streamed) :
    later.Sound := by
  refine ⟨distinct, owned ▸ sound.sized, ?_⟩
  rw [renderer, owned, same]
  refine sound.shape.imp_right ?_
  rintro ⟨done, last, showing⟩
  exact ⟨done, last, by rw [owned]; exact showing.owned, by rw [renderer]; exact showing.target,
    by rw [renderer]; exact showing.shows, by rw [renderer]; exact showing.fits,
    by rw [renderer, same]; exact showing.whole, by rw [same]; exact showing.single⟩

theorem renderEvent_delta (kind : event.eventType = "model.delta") (some : event.delta ≠ [])
    (taken : stream.next event = Option.some later) :
    let chunks := chunkText (stream.delivery.renderer.currentText ++ event.delta)
    renderActions true event.views 0
      ⟨{ stream.delivery.renderer with currentText := chunks.getLastD [] }, stream.delivery.chat⟩
      (stream.delivery.renderer.deliver chunks) = (later.delivery, true) := by
  obtain ⟨rendered, _⟩ := next_eq taken
  have text : event.delta = deltaText event.data := by simp [delta, kind]
  rw [text] at some ⊢
  simpa [kind, some] using rendered

theorem Sound.first (distinct : later.delivery.chat.ids.Nodup) (renderer : stream.delivery.renderer = .new)
    (owned : stream.delivery.chat.owned = []) (nothing : stream.streamed = []) (kind : event.eventType = "model.delta")
    (some : event.delta ≠ []) (taken : stream.next event = Option.some later) :
    later.Sound ∧ later.kept = event.delta := by
  have ran := renderEvent_delta kind some taken
  have grown := (next_eq taken).2
  rw [nothing, nil_append] at grown
  rw [renderer] at ran
  obtain ⟨first, rest, chunks, single⟩ := chunkText_append [] event.delta (Nat.zero_le _)
  simp only [nil_append] at chunks single
  have whole : (chunkText event.delta).flatten = event.delta := flatten_split _
  simp only [new, nil_append, chunks] at ran
  obtain ⟨sent, texts, appended, renderer'⟩ := deliver_send rfl ran
  rw [owned, nil_append] at appended
  have current : later.delivery.renderer.currentText = (sent.map text).getLastD [] := by
    rw [renderer', texts]
  have sized (message : ChatMessage) (member : message ∈ sent) :
      message.text ≠ [] ∧ utf16Len message.text ≤ telegramMaxUtf16 :=
    mem_chunkText some (chunks ▸ texts ▸ mem_map_of_mem member)
  refine ⟨⟨distinct, appended ▸ sized, .inr ?_⟩, ?_⟩
  · rcases eq_nil_or_concat' sent with rfl | ⟨done, last, rfl⟩
    · cases texts
    have alone : done = [] ↔ rest = [] := by
      cases done <;> cases rest <;> simp_all
    have current : later.delivery.renderer.currentText = last.text := by simpa using current
    refine ⟨done, last, appended, ?_, current ▸ prefix_rfl, ?_, fun empty => ?_, ?_⟩
    · rw [renderer']
      simp
    · rw [current]
      exact (sized last (by simp)).2
    · rw [grown, ← whole, chunks, ← texts, empty, current]
      simp
    · rw [grown, alone, single]
  · rw [kept, appended, current, map_dropLast, flatten_dropLast_append_last, texts, ← chunks, whole]

section Further

variable {done : List ChatMessage} {last : ChatMessage} (showing : Showing stream done last)
include showing

theorem eq_last_of_target (sound : stream.Sound) {message : ChatMessage} (member : message ∈ stream.delivery.chat)
    (target : some message.messageId = stream.delivery.renderer.currentMessageId) : message = last := by
  have there : last ∈ stream.delivery.chat := by
    have owned : last ∈ stream.delivery.chat.owned := by simp [showing.owned]
    exact (mem_filter.mp owned).1
  rw [showing.target, Option.some.injEq] at target
  exact inj_on_of_nodup_map sound.distinct member there target

end Further

structure Grows (stream later : Stream) (event : RunEvent) (done : List ChatMessage) (last : ChatMessage)
    (more : Text) (rest : List Text) (sent : List ChatMessage) : Prop where
  chunks : chunkText (stream.delivery.renderer.currentText ++ event.delta) =
    (stream.delivery.renderer.currentText ++ more) :: rest
  single : rest = [] ↔ utf16Len (stream.delivery.renderer.currentText ++ event.delta) ≤ telegramMaxUtf16
  texts : sent.map ChatMessage.text = rest
  owned : later.delivery.chat.owned = done ++ { last with text :=
    if (event.views 0).throttled then last.text else stream.delivery.renderer.currentText ++ more } :: sent
  target : later.delivery.renderer.currentMessageId =
    some ((sent.getLast?.map ChatMessage.messageId).getD last.messageId)
  current : later.delivery.renderer.currentText = ((stream.delivery.renderer.currentText ++ more) :: rest).getLastD []
  streamed : later.streamed = stream.streamed ++ event.delta

section Further

variable {done : List ChatMessage} {last : ChatMessage} (showing : Showing stream done last)
include showing

theorem next_grows (sound : stream.Sound) (kind : event.eventType = "model.delta") (some : event.delta ≠ [])
    (taken : stream.next event = Option.some later) :
    ∃ more rest sent, Grows stream later event done last more rest sent := by
  have ran := renderEvent_delta kind some taken
  obtain ⟨more, rest, chunks, single⟩ := chunkText_append _ event.delta showing.fits
  simp only [chunks] at ran
  obtain ⟨sent, texts, appended, renderer⟩ := deliver_edit sound.distinct showing.owned showing.target ran
  simp only [true_and] at appended
  exact ⟨more, rest, sent, chunks, single, texts, appended, by rw [renderer], by rw [renderer], (next_eq taken).2⟩

variable {more : Text} {rest : List Text} {sent : List ChatMessage}
  (grows : Grows stream later event done last more rest sent)
include grows

omit showing in
theorem Grows.whole :
    stream.delivery.renderer.currentText ++ more ++ rest.flatten =
      stream.delivery.renderer.currentText ++ event.delta := by
  have whole : (chunkText (stream.delivery.renderer.currentText ++ event.delta)).flatten =
    stream.delivery.renderer.currentText ++ event.delta := flatten_split _
  rwa [grows.chunks, flatten_cons] at whole

section

variable (sound : stream.Sound)
include sound

theorem Grows.sized (some : event.delta ≠ []) (message : ChatMessage)
    (member : message ∈ later.delivery.chat.owned) :
    message.text ≠ [] ∧ utf16Len message.text ≤ telegramMaxUtf16 := by
  have chunk {text : Text} (member : text ∈ (stream.delivery.renderer.currentText ++ more) :: rest) :
      text ≠ [] ∧ utf16Len text ≤ telegramMaxUtf16 :=
    mem_chunkText (by simp [some]) (grows.chunks ▸ member)
  have before (old : ChatMessage) (there : old ∈ done ++ [last]) :
    old.text ≠ [] ∧ utf16Len old.text ≤ telegramMaxUtf16 :=
    sound.sized old (showing.owned ▸ there)
  rw [grows.owned] at member
  rcases mem_append.mp member with old | here
  · exact before message (mem_append_left _ old)
  rcases mem_cons.mp here with rfl | new
  · dsimp only
    split
    · exact before last (by simp)
    · exact chunk mem_cons_self
  · exact chunk (mem_cons_of_mem _ (grows.texts ▸ mem_map_of_mem new))

variable (distinct : later.delivery.chat.ids.Nodup)
include distinct

theorem Grows.fitting (some : event.delta ≠ [])
    (fits : utf16Len (stream.delivery.renderer.currentText ++ event.delta) ≤ telegramMaxUtf16) :
    later.Sound ∧ later.kept = stream.kept ++ event.delta := by
  have sized := grows.sized showing sound some
  have whole := grows.whole
  obtain rfl : rest = [] := grows.single.mpr fits
  obtain rfl : sent = [] := map_eq_nil_iff.mp grows.texts
  rw [flatten_nil, append_nil] at whole
  have current : later.delivery.renderer.currentText = stream.delivery.renderer.currentText ++ event.delta := by
    rw [grows.current, ← whole]
    rfl
  have start : last.text <+: stream.delivery.renderer.currentText ++ event.delta :=
    showing.shows.trans (prefix_append _ _)
  refine ⟨⟨distinct, sized, .inr ⟨done, _, grows.owned, grows.target, ?_, current ▸ fits, fun alone => ?_, ?_⟩⟩, ?_⟩
  · rw [current, ← whole]
    dsimp only
    split
    · rw [whole]
      exact start
    · exact prefix_rfl
  · rw [current, grows.streamed, showing.whole alone]
  · rw [grows.streamed]
    constructor
    · intro alone
      rwa [← showing.whole alone]
    · intro small
      refine showing.single.mpr (Nat.le_trans ?_ small)
      simp [utf16Len]
  · simp [kept, grows.owned, current, showing.owned]

theorem Grows.overflowing (some : event.delta ≠ [])
    (overflows : ¬ utf16Len (stream.delivery.renderer.currentText ++ event.delta) ≤ telegramMaxUtf16) :
    later.Sound ∧ later.kept = (done.map ChatMessage.text).flatten ++
      (if (event.views 0).throttled then last.text else stream.delivery.renderer.currentText ++ more) ++
      rest.flatten := by
  -- the delta overflows: the last message is finished and new ones follow
  have sized := grows.sized showing sound some
  have behind : rest ≠ [] := mt grows.single.mp overflows
  have current : later.delivery.renderer.currentText = rest.getLastD [] := by
    rw [grows.current]
    cases rest with
    | nil => exact absurd rfl behind
    | cons second others => rfl
  have texts := grows.texts
  rcases eq_nil_or_concat' sent with rfl | ⟨init, final, rfl⟩
  · exact absurd texts.symm behind
  have shows : later.delivery.renderer.currentText = final.text := by
    rw [current, ← texts]
    simp
  let finished : ChatMessage := { last with text :=
    if (event.views 0).throttled then last.text else stream.delivery.renderer.currentText ++ more }
  have owned : later.delivery.chat.owned = (done ++ finished :: init) ++ [final] := by
    rw [grows.owned]
    simp [finished]
  refine ⟨⟨distinct, sized, .inr ⟨_, final, owned, ?_, shows ▸ prefix_rfl, ?_, ?_, ?_⟩⟩, ?_⟩
  · rw [grows.target]
    simp
  · rw [shows]
    exact (sized final (by rw [grows.owned]; simp)).2
  · simp
  · refine iff_of_false (by simp) fun small => ?_
    rw [grows.streamed] at small
    have before : utf16Len stream.streamed ≤ telegramMaxUtf16 := by
      refine Nat.le_trans ?_ small
      simp [utf16Len]
    have alone := showing.whole (showing.single.mpr before)
    exact overflows (alone ▸ small)
  · rw [kept, owned, dropLast_concat, shows, ← texts]
    simp [finished]

theorem Grows.next (kind : event.eventType = "model.delta") (some : event.delta ≠ []) :
    later.Sound ∧ (¬ stream.Drops event → later.kept = stream.kept ++ event.delta) ∧
      (stream.Drops event → later.kept.length < (stream.kept ++ event.delta).length) := by
  by_cases fits : utf16Len (stream.delivery.renderer.currentText ++ event.delta) ≤ telegramMaxUtf16
  · obtain ⟨later, same⟩ := grows.fitting showing sound distinct some fits
    exact ⟨later, fun _ => same, fun drops => absurd fits (Nat.not_le.mpr drops.2.2.1)⟩
  obtain ⟨later, shown⟩ := grows.overflowing showing sound distinct some fits
  have full : stream.kept ++ event.delta =
      (done.map ChatMessage.text).flatten ++ (stream.delivery.renderer.currentText ++ more) ++ rest.flatten := by
    rw [kept, showing.owned, append_assoc, ← grows.whole]
    simp
  have head : (chunkText (stream.delivery.renderer.currentText ++ event.delta)).headD [] =
      stream.delivery.renderer.currentText ++ more := by rw [grows.chunks]; rfl
  refine ⟨later, fun spared => ?_, fun drops => ?_⟩
  · rw [shown, full]
    split
    next throttled =>
      -- the message shows its chunk already
      have same : last.text = stream.delivery.renderer.currentText ++ more := by
        by_contra differs
        have there : last ∈ stream.delivery.chat := (mem_filter.mp (show last ∈ stream.delivery.chat.owned by
          simp [showing.owned])).1
        exact spared ⟨kind, throttled, Nat.lt_of_not_le fits, last, there, showing.target.symm, head ▸ differs⟩
      rw [same]
    next => rfl
  · obtain ⟨_, throttled, _, message, there, target, differs⟩ := drops
    rw [eq_last_of_target showing sound there target, head] at differs
    have start : last.text <+: stream.delivery.renderer.currentText ++ more := showing.shows.trans (prefix_append _ _)
    have shorter : last.text.length < (stream.delivery.renderer.currentText ++ more).length :=
      Nat.lt_of_le_of_ne start.length_le fun same => differs (start.eq_of_length same)
    rw [shown, full, if_pos throttled]
    simp only [length_append] at shorter ⊢
    omega

end

end Further

theorem next_quiet (notFinal : event.eventType ≠ "message.delta") (nothing : event.delta = [])
    (taken : stream.next event = some later) :
    later.delivery.renderer = stream.delivery.renderer ∧
      later.delivery.chat.owned = stream.delivery.chat.owned := by
  obtain ⟨rendered, _⟩ := next_eq taken
  by_cases kind : event.eventType = "model.delta"
  · have empty : deltaText event.data = [] := by simpa [delta, kind] using nothing
    have same : stream.delivery = later.delivery := by
      simpa [kind, empty, renderActions] using rendered
    rw [← same]
    exact ⟨rfl, rfl⟩
  · obtain ⟨lines, shape⟩ := onEvent_other stream.delivery.renderer event.data kind notFinal
    rw [renderEvent, shape] at rendered
    exact renderActions_send rendered

theorem Sound.next (sound : stream.Sound) (notFinal : event.eventType ≠ "message.delta")
    (distinct : later.delivery.chat.ids.Nodup) (taken : stream.next event = some later) :
    later.Sound ∧ (¬ stream.Drops event → later.kept = stream.kept ++ event.delta) ∧
      (stream.Drops event → later.kept.length < (stream.kept ++ event.delta).length) := by
  by_cases nothing : event.delta = []
  · -- neither the renderer nor a delta-owned message changes
    have quiet := next_quiet notFinal nothing taken
    have fits : utf16Len stream.delivery.renderer.currentText ≤ telegramMaxUtf16 := by
      rcases sound.shape with ⟨renderer, _⟩ | ⟨_, _, showing⟩
      · rw [renderer]
        exact Nat.zero_le _
      · exact showing.fits
    refine ⟨sound.idle distinct quiet.1 quiet.2 ?_, fun _ => ?_, fun drops => ?_⟩
    · rw [(next_eq taken).2, nothing, append_nil]
    · rw [kept, kept, quiet.1, quiet.2, nothing, append_nil]
    · have overflows := drops.2.2.1
      rw [nothing, append_nil] at overflows
      omega
  · have kind : event.eventType = "model.delta" := by
      by_contra other
      exact nothing (if_neg other)
    rcases sound.shape with ⟨renderer, owned, none⟩ | ⟨done, last, showing⟩
    · obtain ⟨after, same⟩ := Sound.first distinct renderer owned none kind nothing taken
      have empty : stream.kept = [] := by simp [kept, owned, renderer, new]
      refine ⟨after, fun _ => by rw [same, empty, nil_append], ?_⟩
      rintro ⟨_, _, _, message, _, target, _⟩
      rw [renderer] at target
      cases target
    · obtain ⟨more, rest, sent, grows⟩ := next_grows showing sound kind nothing taken
      exact grows.next showing sound distinct kind nothing

theorem run_streamed {events : List RunEvent} (reached : run next stream events = some later) :
    later.streamed = stream.streamed ++ (events.map delta).flatten := by
  induction events generalizing stream with
  | nil =>
    cases reached
    simp
  | cons event rest ih =>
    obtain ⟨middle, taken, onward⟩ := run_cons.mp reached
    rw [ih onward, (next_eq taken).2]
    simp

/-- The Bot API never hands out a message id twice. -/
def DistinctIds (stream : Stream) (event : RunEvent) : Prop :=
  ∀ later, stream.next event = some later → later.delivery.chat.ids.Nodup

def Lossless (stream : Stream) : Prop := stream.kept = stream.streamed

def Lossy (stream : Stream) : Prop := stream.kept.length < stream.streamed.length

theorem Lossy.not_lossless (lossy : stream.Lossy) : ¬ stream.Lossless := by
  intro lossless
  rw [Lossy, lossless] at lossy
  exact Nat.lt_irrefl _ lossy

theorem Lossless.next (lossless : stream.Lossless) (sound : stream.Sound)
    (notFinal : event.eventType ≠ "message.delta") (distinct : stream.DistinctIds event)
    (taken : stream.next event = some later) :
    (¬ stream.Drops event → later.Lossless) ∧ (stream.Drops event → later.Lossy) := by
  obtain ⟨_, spared, dropped⟩ := sound.next notFinal (distinct later taken) taken
  have grown : stream.kept ++ event.delta = later.streamed := by rw [lossless, (next_eq taken).2]
  rw [grown] at spared dropped
  exact ⟨spared, dropped⟩

theorem Lossy.next (lossy : stream.Lossy) (sound : stream.Sound) (notFinal : event.eventType ≠ "message.delta")
    (distinct : stream.DistinctIds event) (taken : stream.next event = some later) : later.Lossy := by
  obtain ⟨_, spared, dropped⟩ := sound.next notFinal (distinct later taken) taken
  have bound : later.kept.length ≤ (stream.kept ++ event.delta).length := by
    by_cases drops : stream.Drops event
    · exact Nat.le_of_lt (dropped drops)
    · rw [spared drops]
  rw [Lossy, (next_eq taken).2]
  rw [Lossy] at lossy
  simp only [length_append] at bound ⊢
  omega

theorem Sound.flush (sound : stream.Sound) {views : Nat → ActionView} {shown : Delivery}
    (flushed : stream.delivery.flushRenderer views = (shown, true)) :
    shown.chat.deltaTexts.flatten = stream.kept ∧
      ∀ text ∈ shown.chat.deltaTexts, text ≠ [] ∧ utf16Len text ≤ telegramMaxUtf16 := by
  -- the final flush: the last message shows the current text
  have texts (chat : Chat) : chat.deltaTexts = chat.owned.map text := rfl
  rcases sound.shape with ⟨renderer, owned, _⟩ | ⟨done, last, showing⟩
  · have same : stream.delivery.chat = shown.chat := by
      simpa [renderer, EventRenderer.new, flushActions] using congrArg (·.1.chat) flushed
    rw [← same]
    simp [texts, owned, kept, renderer, EventRenderer.new]
  · have filled : stream.delivery.renderer.currentText ≠ [] := fun empty =>
      (sound.sized last (by simp [showing.owned])).1 (prefix_nil.mp (empty ▸ showing.shows))
    have chunks : chunkText stream.delivery.renderer.currentText = [stream.delivery.renderer.currentText] :=
      if_pos showing.fits
    have acted : flushActions views 0 stream.delivery.chat
        [.edit last.messageId stream.delivery.renderer.currentText] = (shown.chat, true) := by
      simp only [flushRenderer, EventRenderer.flush, filled, if_false, chunks, EventRenderer.deliver,
        showing.target, map_nil] at flushed
      cases sent : flushActions views 0 stream.delivery.chat
        [.edit last.messageId stream.delivery.renderer.currentText]
      rw [sent] at flushed
      cases flushed
      rfl
    obtain ⟨after, messageId, edited, finished⟩ := flushActions_cons acted
    obtain ⟨_, _, same⟩ := Option.map_eq_some_iff.mp edited
    have final : shown.chat = stream.delivery.chat.editMessageText last.messageId
        stream.delivery.renderer.currentText :=
      ((Prod.mk.inj same).1.trans (Prod.mk.inj finished).1).symm
    rw [texts, final, Chat.editMessageText_owned sound.distinct showing.owned]
    refine ⟨by simp [kept, showing.owned], fun text member => ?_⟩
    rw [map_append, mem_append] at member
    rcases member with old | new
    · obtain ⟨message, there, rfl⟩ := mem_map.mp old
      exact sound.sized message (by rw [showing.owned]; exact mem_append_left _ there)
    · rw [mem_singleton.mp new]
      exact ⟨filled, showing.fits⟩

end Stream

theorem stream_shown_iff_no_drop {events : List RunEvent} {stream : Stream} {views : Nat → ActionView}
    {shown : Delivery}
    (deltas : ∀ event ∈ events, event.eventType ≠ "message.delta")
    (fresh : Along Stream.next Stream.DistinctIds .start events)
    (delivered : run Stream.next .start events = some stream)
    (flushed : stream.delivery.flushRenderer views = (shown, true)) :
    (∀ text ∈ shown.chat.deltaTexts, text ≠ [] ∧ utf16Len text ≤ telegramMaxUtf16) ∧
      (shown.chat.deltaTexts.flatten = (events.map delta).flatten ↔
        Along Stream.next (fun stream event => ¬ stream.Drops event) .start events) := by
  -- text is lost where an overflow meets a message whose last edit was throttled away
  have assumed := fresh.and_forall deltas
  have sound : stream.Sound := run_invariant
    (fun _ _ later (sound : Stream.Sound _) met taken => (sound.next met.1 (met.2 later taken) taken).1)
    Stream.start_sound assumed delivered
  obtain ⟨shows, sized⟩ := sound.flush flushed
  have streamed : stream.streamed = (events.map delta).flatten := Stream.run_streamed delivered
  refine ⟨sized, ?_⟩
  rw [shows, ← streamed]
  exact run_good_iff_along
    (fun _ _ later sound met taken => (Stream.Sound.next sound met.1 (met.2 later taken) taken).1)
    (fun _ _ _ sound met taken lossless => (Stream.Lossless.next lossless sound met.1 met.2 taken).1)
    (fun _ _ _ sound met taken lossless kept =>
      (Stream.Lossless.next lossless sound met.1 met.2 taken).2 (not_not.mp kept))
    (fun _ _ _ sound met taken lossy => Stream.Lossy.next lossy sound met.1 met.2 taken)
    (fun _ lossy => lossy.not_lossless) Stream.start_sound rfl assumed delivered

attribute [local simp] Stream.next EventRenderer.deliver Delivery.renderActions Delivery.flushActions Delivery.act
  Delivery.note EventRenderer.noteSent Chat.sendMessage Chat.editMessageText

def succeeding (throttled : Bool) (first : Int) (place : Nat) : ActionView :=
  ⟨true, throttled, some (first + place), true⟩

def deltaData (text : Text) : Json := .obj [("delta", .str (String.ofList text))]

@[simp]
theorem deltaText_deltaData (text : Text) : deltaText (deltaData text) = text := by
  simp [deltaText, deltaData, Json.get?, Json.asStr?]

def deltaEvent (text : Text) (throttled : Bool) (first : Int) : RunEvent :=
  ⟨"model.delta", deltaData text, succeeding throttled first⟩

theorem delta_deltaEvent (text : Text) (throttled : Bool) (first : Int) :
    (deltaEvent text throttled first).delta = text := by
  simp [delta, deltaEvent]

def opened : Stream := ⟨⟨⟨some 1, ['a']⟩, [⟨1, ['a'], true⟩]⟩, ['a']⟩

theorem next_opened : Stream.start.next (deltaEvent ['a'] false 1) = some opened := by
  have one : chunkText ['a'] = [['a']] := by decide
  simp [deltaEvent, delta, succeeding, Stream.start, new, one, opened]

theorem distinct_of_next {stream later : Stream} {event : RunEvent} (taken : stream.next event = some later)
    (distinct : later.delivery.chat.ids.Nodup) : stream.DistinctIds event := by
  intro other found
  cases taken.symm.trans found
  exact distinct

theorem opened_distinct : Along Stream.next Stream.DistinctIds .start [deltaEvent ['a'] false 1] :=
  (along_cons next_opened).mpr ⟨distinct_of_next next_opened (nodup_singleton _), trivial⟩

def edited (text shown : Text) : Stream := ⟨⟨⟨some 1, text⟩, [⟨1, shown, true⟩]⟩, text⟩

theorem next_edited {more shown : Text} (some : more ≠ []) (one : chunkText (text ++ more) = [text ++ more])
    (throttled : Bool) : (edited text shown).next (deltaEvent more throttled 1) =
      Option.some (edited (text ++ more) (if throttled then shown else text ++ more)) := by
  cases throttled <;> simp [deltaEvent, delta, succeeding, edited, some, one]

theorem next_overflowing {more shown : Text} (some : more ≠ []) (chunks : chunkText (text ++ more) = [head, tail]) :
    (edited text shown).next (deltaEvent more false 1) =
      Option.some ⟨⟨⟨Option.some 2, tail⟩, [⟨1, head, true⟩, ⟨2, tail, true⟩]⟩, text ++ more⟩ := by
  simp [deltaEvent, delta, succeeding, edited, some, chunks]

def livelyEvents : List RunEvent :=
  [deltaEvent ['a'] false 1, deltaEvent ['b'] false 1, deltaEvent ['b'] true 1,
    deltaEvent (replicate 4093 'b' ++ ['b']) false 1]

theorem stream_shown_lively : ∃ stream shown, run Stream.next .start livelyEvents = some stream ∧
      stream.delivery.flushRenderer (succeeding false 9) = (shown, true) ∧
      shown.chat.deltaTexts = ['a' :: padding, ['b']] ∧
      shown.chat.deltaTexts.flatten = (livelyEvents.map delta).flatten := by
  -- an edit, an edit that is throttled, and an overflow that makes up for it
  have second : opened.next (deltaEvent ['b'] false 1) = some (edited ['a', 'b'] ['a', 'b']) :=
    next_edited (by decide) (by decide) false
  have third : (edited ['a', 'b'] ['a', 'b']).next (deltaEvent ['b'] true 1) =
    some (edited ['a', 'b', 'b'] ['a', 'b']) :=
    next_edited (by decide) (by decide) true
  have fourth := @next_overflowing ['a', 'b', 'b'] _ _ (replicate 4093 'b' ++ ['b']) ['a', 'b']
    (append_ne_nil_of_right_ne_nil _ (cons_ne_nil 'b' [])) chunkText_padding
  have one : chunkText ['b'] = [['b']] := by decide
  have delivered : run Stream.next .start livelyEvents = some _ :=
    run_cons.mpr ⟨_, next_opened, run_cons.mpr ⟨_, second,
      run_cons.mpr ⟨_, third, run_cons.mpr ⟨_, fourth, rfl⟩⟩⟩⟩
  have fresh : Along Stream.next Stream.DistinctIds .start livelyEvents := by
    rw [livelyEvents, along_cons next_opened, along_cons second, along_cons third, along_cons fourth]
    exact ⟨distinct_of_next next_opened (by decide), distinct_of_next second (by decide),
      distinct_of_next third (by decide), distinct_of_next fourth (by simp [Chat.ids]), trivial⟩
  have flushed : Delivery.flushRenderer ⟨⟨some 2, ['b']⟩, [⟨1, 'a' :: padding, true⟩, ⟨2, ['b'], true⟩]⟩
      (succeeding false 9) = (⟨⟨some 2, []⟩, [⟨1, 'a' :: padding, true⟩, ⟨2, ['b'], true⟩]⟩, true) := by
    simp [succeeding, one]
  refine ⟨_, _, delivered, flushed, rfl, (stream_shown_iff_no_drop (by decide) fresh delivered flushed).2.mpr ?_⟩
  rw [livelyEvents, along_cons next_opened, along_cons second, along_cons third, along_cons fourth]
  have made (stream : Stream) (text : Text) : ¬ stream.Drops (deltaEvent text false 1) :=
    fun drops => Bool.false_ne_true drops.2.1
  exact ⟨made _ _, made _ _, fun drops => absurd drops.2.2.1 (by decide), made _ _, trivial⟩

theorem next_throttled (some : text ≠ []) (chunks : chunkText ('a' :: text) = [head, tail]) :
    opened.next (deltaEvent text true 1) =
      Option.some ⟨⟨⟨Option.some 2, tail⟩, [⟨1, ['a'], true⟩, ⟨2, tail, true⟩]⟩, 'a' :: text⟩ := by
  simp [deltaEvent, delta, succeeding, opened, some, chunks]

theorem throttled_overflow_dropped : ∃ stream shown, run Stream.next .start
        [deltaEvent ['a'] false 1, deltaEvent (padding ++ ['b']) true 1] = some stream ∧
      stream.delivery.flushRenderer (succeeding false 9) = (shown, true) ∧
      shown.chat.deltaTexts.flatten = ['a', 'b'] ∧
      ([deltaEvent ['a'] false 1, deltaEvent (padding ++ ['b']) true 1].map delta).flatten.length = 4097 := by
  have second := next_throttled (append_ne_nil_of_right_ne_nil padding (cons_ne_nil 'b' [])) chunkText_padding
  have one : chunkText ['b'] = [['b']] := by decide
  refine ⟨_, ⟨⟨some 2, []⟩, [⟨1, ['a'], true⟩, ⟨2, ['b'], true⟩]⟩,
    run_cons.mpr ⟨opened, next_opened, run_cons.mpr ⟨_, second, rfl⟩⟩, ?_, rfl, ?_⟩
  · simp [succeeding, one]
  · simp only [map_cons, map_nil, delta_deltaEvent, flatten_cons, flatten_nil, append_nil,
      length_append, padding, length_replicate]
    decide

namespace Stream

variable {stream later : Stream} {event : RunEvent}

theorem Sound.answer (sound : stream.Sound) (kind : event.eventType = "message.delta")
    (some : deltaText event.data ≠ []) (taken : stream.next event = Option.some later) :
    later.delivery.renderer.currentText = [] ∧ later.delivery.chat.deltaTexts.flatten =
      (stream.delivery.chat.owned.dropLast.map ChatMessage.text).flatten ++ deltaText event.data := by
  -- the final message replaces the current text only: the finished messages stay in front of it
  have texts (chat : Chat) : chat.deltaTexts = chat.owned.map ChatMessage.text := rfl
  have whole : (chunkText (deltaText event.data)).flatten = deltaText event.data := flatten_split _
  obtain ⟨first, rest, chunks, _⟩ := chunkText_append [] (deltaText event.data) (Nat.zero_le _)
  simp only [nil_append] at chunks
  rw [chunks, flatten_cons] at whole
  let filled : EventRenderer := { stream.delivery.renderer with currentText := deltaText event.data }
  have ran : renderActions false event.views 0 ⟨{ filled with currentText := [] }, stream.delivery.chat⟩
      (filled.deliver (first :: rest)) = (later.delivery, true) := by
    have rendered := (next_eq taken).1
    simpa [kind, some, chunks, filled] using rendered
  rcases sound.shape with ⟨renderer, owned, _⟩ | ⟨done, last, showing⟩
  · have target : filled.currentMessageId = none := by simp [filled, renderer, new]
    obtain ⟨sent, sentTexts, appended, renderer⟩ := deliver_send target ran
    refine ⟨by rw [renderer], ?_⟩
    rw [texts, appended, owned, nil_append, sentTexts, flatten_cons, whole]
    rfl
  · obtain ⟨sent, sentTexts, appended, renderer⟩ :=
      deliver_edit sound.distinct showing.owned (show filled.currentMessageId = _ from showing.target) ran
    refine ⟨by rw [renderer], ?_⟩
    rw [texts, appended, showing.owned, ← whole, ← sentTexts]
    simp

theorem Sound.no_answer (sound : stream.Sound) (kind : event.eventType = "message.delta")
    (none : deltaText event.data = []) (nothing : stream.streamed = []) (taken : stream.next event = some later) :
    later.delivery.renderer.currentText = [] ∧ later.delivery.chat.deltaTexts.flatten = [] := by
  have rendered := (next_eq taken).1
  rcases sound.shape with ⟨renderer, owned, _⟩ | ⟨done, last, showing⟩
  · have same : ⟨.new, stream.delivery.chat⟩ = later.delivery := by
      simpa [kind, none, renderer, new] using rendered
    rw [← same]
    exact ⟨rfl, congrArg (fun messages => (messages.map text).flatten) owned⟩
  · have alone : done = [] := showing.single.mpr (by rw [nothing]; exact Nat.zero_le _)
    have shows := showing.shows
    rw [showing.whole alone, nothing, prefix_nil] at shows
    exact absurd shows (sound.sized last (by simp [showing.owned])).1

theorem Sound.finished_eq_nil (sound : stream.Sound) :
    (stream.delivery.chat.owned.dropLast.map ChatMessage.text).flatten = [] ↔
      utf16Len stream.streamed ≤ telegramMaxUtf16 := by
  rcases sound.shape with ⟨_, owned, nothing⟩ | ⟨done, last, showing⟩
  · simp [owned, nothing, utf16Len]
  · rw [← showing.single, showing.owned, dropLast_concat]
    cases done with
    | nil => simp
    | cons first others =>
      have filled := (sound.sized first (by simp [showing.owned])).1
      simp [filled]

theorem run_quiet {events : List RunEvent}
    (statuses : ∀ event ∈ events, event.eventType ≠ "message.delta" ∧ event.delta = [])
    (reached : run next stream events = some later) :
    later.delivery.renderer = stream.delivery.renderer ∧ later.delivery.chat.owned = stream.delivery.chat.owned := by
  induction events generalizing stream with
  | nil =>
    cases reached
    exact ⟨rfl, rfl⟩
  | cons event rest ih =>
    obtain ⟨here, others⟩ := forall_mem_cons.mp statuses
    obtain ⟨middle, taken, onward⟩ := run_cons.mp reached
    obtain ⟨renderer, owned⟩ := next_quiet here.1 here.2 taken
    obtain ⟨renderer', owned'⟩ := ih others onward
    exact ⟨renderer'.trans renderer, owned'.trans owned⟩

theorem flush_empty {views : Nat → ActionView} {shown : Delivery} (empty : stream.delivery.renderer.currentText = [])
    (flushed : stream.delivery.flushRenderer views = (shown, true)) : shown.chat = stream.delivery.chat := by
  simpa [empty, eq_comm] using congrArg (·.1.chat) flushed

end Stream

theorem answer_shown_once_iff {before after : List RunEvent} {final : RunEvent} {stream answered ended : Stream}
    {views : Nat → ActionView} {shown : Delivery}
    (deltas : ∀ event ∈ before, event.eventType ≠ "message.delta")
    (fresh : Along Stream.next Stream.DistinctIds .start before)
    (streams : run Stream.next .start before = some stream)
    (kind : final.eventType = "message.delta")
    (start : (before.map delta).flatten <+: deltaText final.data)
    (answers : stream.next final = some answered)
    (statuses : ∀ event ∈ after, event.eventType ≠ "model.delta" ∧ event.eventType ≠ "message.delta")
    (ends : run Stream.next answered after = some ended)
    (flushed : ended.delivery.flushRenderer views = (shown, true)) :
    shown.chat.deltaTexts.flatten = deltaText final.data ↔
      utf16Len (before.map delta).flatten ≤ telegramMaxUtf16 := by
  -- a message finished while streaming stays in front of the whole answer
  have sound : stream.Sound := run_invariant
    (fun _ _ later (sound : Stream.Sound _) met taken => (sound.next met.1 (met.2 later taken) taken).1)
    Stream.start_sound (fresh.and_forall deltas) streams
  have streamed : stream.streamed = (before.map delta).flatten := Stream.run_streamed streams
  rw [← streamed] at start ⊢
  obtain ⟨renderer, owned⟩ := Stream.run_quiet
    (fun event member => ⟨(statuses event member).2, if_neg (statuses event member).1⟩) ends
  have answer : answered.delivery.renderer.currentText = [] ∧ answered.delivery.chat.deltaTexts.flatten =
      (stream.delivery.chat.owned.dropLast.map ChatMessage.text).flatten ++ deltaText final.data := by
    by_cases some : deltaText final.data = []
    · have nothing : stream.streamed = [] := prefix_nil.mp (some ▸ start)
      obtain ⟨empty, shows⟩ := sound.no_answer kind some nothing answers
      refine ⟨empty, ?_⟩
      rw [shows, some, sound.finished_eq_nil.mpr (by rw [nothing]; exact Nat.zero_le _)]
      rfl
    · exact sound.answer kind some answers
  have chat := Stream.flush_empty (by rw [renderer]; exact answer.1) flushed
  have same : shown.chat.deltaTexts = answered.delivery.chat.deltaTexts := by
    rw [chat]
    exact congrArg (map ChatMessage.text) owned
  rw [same, answer.2, ← sound.finished_eq_nil]
  exact append_left_eq_self

def finalEvent (text : Text) (first : Int) : RunEvent := ⟨"message.delta", deltaData text, succeeding false first⟩

def answered : Stream := ⟨⟨⟨some 1, []⟩, [⟨1, ['a', 'c'], true⟩]⟩, ['a']⟩

theorem next_answered : opened.next (finalEvent ['a', 'c'] 1) = some answered := by
  have one : chunkText ['a', 'c'] = [['a', 'c']] := by decide
  simp [finalEvent, delta, succeeding, opened, one, answered]

theorem answer_shown_once_answered : ∃ shown, answered.delivery.flushRenderer (succeeding false 9) = (shown, true) ∧
      shown.chat.deltaTexts.flatten = deltaText (finalEvent ['a', 'c'] 1).data := by
  have streams : run Stream.next .start [deltaEvent ['a'] false 1] = some opened :=
    run_cons.mpr ⟨opened, next_opened, rfl⟩
  have flushed : answered.delivery.flushRenderer (succeeding false 9) = (answered.delivery, true) := rfl
  have decides := answer_shown_once_iff (by decide) opened_distinct streams rfl ?_ next_answered
    (forall_mem_nil _) rfl flushed
  · exact ⟨_, flushed, decides.mpr (by simp [delta_deltaEvent, utf16Len, lenUtf16, telegramMaxUtf16])⟩
  · simp [delta_deltaEvent, finalEvent]

theorem next_two_chunks (some : text ≠ []) (chunks : chunkText text = [head, tail]) :
    Stream.start.next (deltaEvent text false 1) =
      Option.some ⟨⟨⟨Option.some 2, tail⟩, [⟨1, head, true⟩, ⟨2, tail, true⟩]⟩, text⟩ := by
  simp [deltaEvent, delta, succeeding, Stream.start, new, some, chunks]

theorem next_answer_again (some : text ≠ []) (chunks : chunkText text = [head, tail]) :
    Stream.next ⟨⟨⟨Option.some 2, tail⟩, [⟨1, head, true⟩, ⟨2, tail, true⟩]⟩, text⟩ (finalEvent text 2) =
      Option.some ⟨⟨⟨Option.some 3, []⟩, [⟨1, head, true⟩, ⟨2, head, true⟩, ⟨3, tail, true⟩]⟩, text⟩ := by
  simp [finalEvent, delta, succeeding, some, chunks]

theorem overflowing_answer_repeated :
    ∃ stream answered shown, run Stream.next .start [deltaEvent ('a' :: (padding ++ ['b'])) false 1] =
        some stream ∧
      stream.next (finalEvent ('a' :: (padding ++ ['b'])) 2) = some answered ∧
      answered.delivery.flushRenderer (succeeding false 9) = (shown, true) ∧
      shown.chat.deltaTexts = ['a' :: padding, 'a' :: padding, ['b']] ∧
      shown.chat.deltaTexts.flatten ≠ 'a' :: (padding ++ ['b']) := by
  have first := next_two_chunks (cons_ne_nil _ _) chunkText_padding
  have second := next_answer_again (cons_ne_nil _ _) chunkText_padding
  refine ⟨_, _, _, run_cons.mpr ⟨_, first, rfl⟩, second, rfl, rfl, fun same => ?_⟩
  exact cons_ne_nil 'a' padding (append_left_eq_self.mp same)

end RustScriptAgent.Telegram
