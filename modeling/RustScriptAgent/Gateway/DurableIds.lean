import RustScriptAgent.Gateway.System
import RustScriptAgent.Shared.Text

namespace RustScriptAgent.Gateway

open Storage List String

variable {room : Nat} {a b : List Char} {first second : String} {step : ToolStep}

def PartWithin (room : Nat) (a b : List Char) : Prop :=
  ∃ common restA restB, a = common ++ restA ∧ b = common ++ restB ∧ restA.head? ≠ restB.head? ∧
    ∃ char, (restA.head? = some char ∨ restB.head? = some char) ∧
      utf8Len common + char.utf8Size ≤ room

theorem partWithin_cons {char : Char} :
    PartWithin room (char :: a) (char :: b) ↔ char.utf8Size ≤ room ∧ PartWithin (room - char.utf8Size) a b := by
  constructor
  · rintro ⟨common, restA, restB, first, second, apart, next, present, fits⟩
    cases common with
    | nil =>
      simp only [nil_append] at first second
      simp [← first, ← second] at apart
    | cons head common =>
      rw [cons_append, cons.injEq] at first second
      obtain ⟨rfl, first⟩ := first
      rw [utf8Len_cons] at fits
      exact ⟨by omega, common, restA, restB, first, second.2, apart, next, present, by omega⟩
  · rintro ⟨room, common, restA, restB, rfl, rfl, apart, next, present, fits⟩
    refine ⟨char :: common, restA, restB, rfl, rfl, apart, next, present, ?_⟩
    rw [utf8Len_cons]
    omega

theorem partWithin_of_head (apart : a.head? ≠ b.head?) :
    PartWithin room a b ↔ ∃ char, (a.head? = some char ∨ b.head? = some char) ∧ char.utf8Size ≤ room := by
  constructor
  · rintro ⟨common, restA, restB, rfl, rfl, _, next, present, fits⟩
    cases common with
    | nil => exact ⟨next, present, by simpa using fits⟩
    | cons head common => simp at apart
  · rintro ⟨next, present, fits⟩
    exact ⟨[], a, b, rfl, rfl, apart, next, present, by simpa using fits⟩

theorem takeBytes_ne_nil {char : Char} {rest : List Char} :
    takeBytes room (char :: rest) ≠ [] ↔ char.utf8Size ≤ room := by
  unfold takeBytes
  split_ifs with full
  · simpa using full
  · simpa using full

theorem takeBytes_ne_iff : takeBytes room a ≠ takeBytes room b ↔ PartWithin room a b := by
  induction a generalizing room b with
  | nil =>
    cases b with
    | nil =>
      refine iff_of_false (by simp) ?_
      rintro ⟨common, restA, restB, first, second, apart, _⟩
      obtain ⟨_, rfl⟩ := append_eq_nil_iff.mp first.symm
      obtain ⟨_, rfl⟩ := append_eq_nil_iff.mp second.symm
      exact apart rfl
    | cons y b =>
      rw [partWithin_of_head (by simp), show takeBytes room [] = [] by rfl, ne_comm, takeBytes_ne_nil]
      simp
  | cons x a ih =>
    cases b with
    | nil =>
      rw [partWithin_of_head (by simp), show takeBytes room [] = [] by rfl, takeBytes_ne_nil]
      simp
    | cons y b =>
      by_cases same : x = y
      · subst same
        rw [partWithin_cons, ← ih]
        by_cases fits : x.utf8Size ≤ room
        · simp [takeBytes, Nat.not_lt.mpr fits, fits]
        · simp [takeBytes, Nat.lt_of_not_le fits, fits]
      · rw [partWithin_of_head (by simpa using same)]
        simp only [takeBytes, head?_cons, Option.some.injEq]
        split_ifs with left right right
        · refine iff_of_false (by simp) ?_
          rintro ⟨char, rfl | rfl, fits⟩ <;> omega
        · exact iff_of_true (by simp) ⟨y, .inr rfl, by omega⟩
        · exact iff_of_true (by simp) ⟨x, .inl rfl, by omega⟩
        · exact iff_of_true (by simp [same]) ⟨x, .inl rfl, by omega⟩

theorem takeBytes_eq_self {chars : List Char} (fits : utf8Len chars ≤ room) : takeBytes room chars = chars := by
  induction chars generalizing room with
  | nil => rfl
  | cons char rest ih =>
    rw [utf8Len_cons] at fits
    rw [takeBytes, if_neg (by omega), ih (by omega)]

theorem takeBytes_append {chars : List Char} (full : room ≤ utf8Len chars) (rest other : List Char) :
    takeBytes room (chars ++ rest) = takeBytes room (chars ++ other) := by
  induction chars generalizing room with
  | nil =>
    have none : room = 0 := by simpa using full
    subst none
    have empty (list : List Char) : takeBytes 0 list = [] := by
      cases list with
      | nil => rfl
      | cons char _ => simp [takeBytes, Char.utf8Size_pos char]
    simp [empty]
  | cons char chars ih =>
    rw [utf8Len_cons] at full
    simp only [cons_append, takeBytes]
    split_ifs with tight
    · rfl
    · rw [ih (by omega)]

theorem boundDurableId_eq (id : String) :
    boundDurableId id = ofList (takeBytes maxDurableIdBytes id.toList) := by
  unfold boundDurableId
  split_ifs with fits
  · rw [takeBytes_eq_self, ofList_toList]
    rwa [utf8Len_toList]
  · rfl

theorem boundDurableId_ne_iff {a b : String} :
    boundDurableId a ≠ boundDurableId b ↔ PartWithin maxDurableIdBytes a.toList b.toList := by
  rw [boundDurableId_eq, boundDurableId_eq, ← takeBytes_ne_iff, ne_eq, ne_eq, ofList_inj]

def toolEventName (runId toolCallId : String) (event : ToolEvent) : String :=
  runId ++ ":tool:" ++ toolCallId ++ ":" ++ event.type.text

def messageName (runId kind key : String) : String := runId ++ ":" ++ kind ++ ":" ++ key

structure Recorded (runId : String) (run : RunRecord) (steps : List (String × ToolEvent)) : Prop where
  stored : ∀ step ∈ steps, ∃ event ∈ run.events, event.eventId = durableToolEventId runId step.1 step.2.type.text
  only : ∀ event ∈ run.events,
    (∃ step ∈ steps, event.eventId = durableToolEventId runId step.1 step.2.type.text) ∨
      ∀ toolCallId eventType, event.eventId ≠ durableToolEventId runId toolCallId eventType

def NamedApart (runId : String) (steps : List (String × ToolEvent)) (step : ToolStep) : Prop :=
  ∀ other ∈ steps, PartWithin maxDurableIdBytes (toolEventName runId other.1 other.2).toList
    (toolEventName runId step.toolCallId step.event).toList

section Committer

variable {service : Service} {store : GatewayStore} {runId : String} {run : RunRecord}
  {steps : List (String × ToolEvent)} {handle : HandleView} {draws : Draws}

theorem durableToolEventId_ne_iff {a b : ToolEvent} :
    durableToolEventId runId first a.type.text ≠ durableToolEventId runId second b.type.text ↔
      PartWithin maxDurableIdBytes (toolEventName runId first a).toList (toolEventName runId second b).toList :=
  boundDurableId_ne_iff

theorem ToolStep.eventId_of_named (named : step.toolCallId ≠ "") :
    step.eventId runId = durableToolEventId runId step.toolCallId step.event.type.text := if_neg named

theorem boundDurableId_ne_empty {id : String} (some : id ≠ "") : boundDurableId id ≠ "" := by
  rw [boundDurableId_eq]
  intro empty
  have nothing : takeBytes maxDurableIdBytes id.toList = [] := by simpa using congrArg toList empty
  cases chars : id.toList with
  | nil => exact some (toList_eq_nil_iff.mp chars)
  | cons char rest =>
    rw [chars] at nothing
    have width : char.utf8Size ≤ 4 := Char.utf8Size_le_four char
    exact takeBytes_ne_nil.mpr (width.trans (by decide)) nothing

theorem durableToolEventId_ne_empty (runId toolCallId eventType : String) :
    durableToolEventId runId toolCallId eventType ≠ "" := boundDurableId_ne_empty (by simp)

theorem durableMessageId_ne_empty (runId kind key : String) : durableMessageId runId kind key ≠ "" :=
  boundDurableId_ne_empty (by simp)

theorem ToolStep.eventId_ne_empty (runId : String) (named : step.toolCallId ≠ "") : step.eventId runId ≠ "" := by
  rw [ToolStep.eventId_of_named named]
  exact durableToolEventId_ne_empty runId _ _

theorem Recorded.hasEvent_iff (recorded : Recorded runId run steps) (named : step.toolCallId ≠ "") :
    run.hasEvent (step.eventId runId) = false ↔ NamedApart runId steps step := by
  rw [Bool.eq_false_iff, ne_eq, Gateway.hasEvent_iff, ToolStep.eventId_of_named named]
  constructor
  · intro absent other member
    rw [← durableToolEventId_ne_iff]
    intro same
    obtain ⟨event, present, id⟩ := recorded.stored other member
    exact absent ⟨event, present, id.trans same⟩
  · rintro apart ⟨event, present, id⟩
    rcases recorded.only event present with ⟨other, member, stored⟩ | foreign
    · exact durableToolEventId_ne_iff.mpr (apart other member) (stored.symm.trans id)
    · exact foreign _ _ id

section Active

variable (opened : handle.terminal = false) (found : store.runs runId = some run)
  (active : run.status.runIsTerminal = false)
include opened found active

theorem commitStep_eq_ok_none (named : step.toolCallId ≠ "") :
    commitStep service store runId step handle draws = .ok none ↔ run.hasEvent (step.eventId runId) := by
  have id := ToolStep.eventId_ne_empty runId named
  unfold commitStep
  rw [if_neg (by simp [opened]), found]
  simp only [active, Bool.false_eq_true, if_false]
  cases present : run.hasEvent (step.eventId runId) with
  | true => simp [id]
  | false =>
    refine iff_of_false ?_ (by simp)
    rw [if_neg (by simp)]
    cases step.attached with
    | none =>
      cases step.checkUnstarted store run runId handle ("", "") <;>
        simp [bind, Except.bind, pure, Except.pure]
    | some result =>
      cases lookupToolCallParent store run.sessionId step.toolCallId with
      | none => simp
      | some parent =>
        dsimp only
        cases step.checkUnstarted store run runId handle parent <;>
          simp [bind, Except.bind, pure, Except.pure]

theorem commitPair_eq_pair {first second : ToolStep} (firstNamed : first.toolCallId ≠ "")
    (secondNamed : second.toolCallId ≠ "") :
    (∃ one two input, commitPair service store runId first second handle draws = .ok (some (.pair one two input))) ↔
      run.hasEvent (first.eventId runId) = false ∧ run.hasEvent (second.eventId runId) = false := by
  have one : (first.eventId runId != "") := bne_iff_ne.mpr (ToolStep.eventId_ne_empty runId firstNamed)
  have two : (second.eventId runId != "") := bne_iff_ne.mpr (ToolStep.eventId_ne_empty runId secondNamed)
  unfold commitPair
  rw [if_neg (by simp [opened]), found]
  simp only [active, Bool.false_eq_true, if_false]
  cases former : run.hasEvent (first.eventId runId) <;> cases latter : run.hasEvent (second.eventId runId) <;>
    simp [one, two, commitHalf]

end Active

end Committer

theorem PartWithin.of_ne (apart : a ≠ b) (first : utf8Len a ≤ room)
    (second : utf8Len b ≤ room) : PartWithin room a b := by
  rw [← takeBytes_ne_iff, takeBytes_eq_self first, takeBytes_eq_self second]
  exact apart

theorem ToolEvent.type_text_inj {a b : ToolEvent} (same : a.type.text = b.type.text) : a = b := by
  cases a <;> cases b <;> first | rfl | exact absurd same (by decide)

theorem ToolEvent.colon_not_mem (event : ToolEvent) : ':' ∉ event.type.text.toList := by
  cases event <;> decide

theorem toolEventName_inj {runId : String} {a b : ToolEvent}
    (same : toolEventName runId first a = toolEventName runId second b) : first = second ∧ a = b := by
  have lists : first.toList ++ ':' :: a.type.text.toList = second.toList ++ ':' :: b.type.text.toList := by
    have texts := congrArg toList same
    simpa [toolEventName] using texts
  obtain ⟨calls, types⟩ := Texts.last_separator lists a.colon_not_mem b.colon_not_mem
  exact ⟨toList_inj.mp calls, ToolEvent.type_text_inj (toList_inj.mp types)⟩

theorem durableToolEventId_inj_of_short {runId : String} {a b : ToolEvent}
    (apart : (first, a) ≠ (second, b)) (short : (toolEventName runId first a).utf8ByteSize ≤ maxDurableIdBytes)
    (other : (toolEventName runId second b).utf8ByteSize ≤ maxDurableIdBytes) :
    durableToolEventId runId first a.type.text ≠ durableToolEventId runId second b.type.text := by
  rw [durableToolEventId_ne_iff]
  refine PartWithin.of_ne (fun same => apart ?_) (by rwa [utf8Len_toList]) (by rwa [utf8Len_toList])
  obtain ⟨rfl, rfl⟩ := toolEventName_inj (toList_inj.mp same)
  rfl

theorem durable_ids_apart_iff (runId : String) : (∀ (first second : String) (a b : ToolEvent),
      durableToolEventId runId first a.type.text ≠ durableToolEventId runId second b.type.text ↔
        PartWithin maxDurableIdBytes (toolEventName runId first a).toList (toolEventName runId second b).toList) ∧
    (∀ kind key otherKind otherKey : String,
      durableMessageId runId kind key ≠ durableMessageId runId otherKind otherKey ↔
        PartWithin maxDurableIdBytes (messageName runId kind key).toList
          (messageName runId otherKind otherKey).toList) ∧
    ∀ (service : Service) (store : GatewayStore) (run : RunRecord) (steps : List (String × ToolEvent))
      (handle : HandleView) (draws : Draws), handle.terminal = false → store.runs runId = some run →
      run.status.runIsTerminal = false → Recorded runId run steps →
      (∀ step : ToolStep, step.toolCallId ≠ "" → (step.toolCallId, step.event) ∉ steps →
        (commitStep service store runId step handle draws ≠ .ok none ↔ NamedApart runId steps step)) ∧
      (∀ first second : ToolStep, first.toolCallId ≠ "" → second.toolCallId ≠ "" →
        (first.toolCallId, first.event) ∉ steps → (second.toolCallId, second.event) ∉ steps →
        ((∃ one two input,
            commitPair service store runId first second handle draws = .ok (some (.pair one two input))) ↔
          NamedApart runId steps first ∧ NamedApart runId steps second)) := by
  refine ⟨fun first second a b => durableToolEventId_ne_iff, fun _ _ _ _ => boundDurableId_ne_iff, ?_⟩
  intro service store run steps handle draws opened found active recorded
  constructor
  · intro step named _
    rw [ne_eq, commitStep_eq_ok_none opened found active named, Bool.not_eq_true, recorded.hasEvent_iff named]
  · intro first second firstNamed secondNamed _ _
    rw [commitPair_eq_pair opened found active firstNamed secondNamed, recorded.hasEvent_iff firstNamed,
      recorded.hasEvent_iff secondNamed]

def startedRun (call : String) : RunRecord :=
  { soloRecord with
    events := [soloEvent,
      { eventId := durableToolEventId "r" call "tool.started", seq := 2, event := .toolStarted, runId := "r",
        timestamp := 2, data := .obj [("tool_call_id", .str call)] }] }

def startedStore (call : String) : GatewayStore :=
  soloStore.updateRun "r" ⟨fun run => { run with events := (startedRun call).events }, fun _ => rfl⟩

def outputStep (call : String) : ToolStep where
  event := .output
  data := .obj [("tool_call_id", .str call)]
  result := none

theorem startedRun_recorded (call : String) : Recorded "r" (startedRun call) [(call, .started)] := by
  refine ⟨?_, ?_⟩
  · intro step listed
    rw [mem_singleton.mp listed]
    exact ⟨_, mem_cons_of_mem _ (mem_singleton_self _), rfl⟩
  · intro event listed
    simp only [startedRun, mem_cons, not_mem_nil, or_false] at listed
    rcases listed with rfl | rfl
    · right
      intro toolCallId eventType
      have whole : soloEvent.eventId = boundDurableId "e0" := by decide
      rw [whole]
      refine boundDurableId_ne_iff.mpr ((partWithin_of_head ?_).mpr ⟨'e', .inl rfl, by decide⟩)
      simp
    · exact .inl ⟨_, mem_singleton_self _, rfl⟩

theorem startedRun_hasEvent (call : String) :
    (startedRun call).hasEvent (durableToolEventId "r" call "tool.started") := by
  simp [RunRecord.hasEvent, startedRun]

theorem output_step_apart_from_its_start : Recorded "r" (startedRun "c") [("c", .started)] ∧
      commitStep (soloService 8) (startedStore "c") "r" (outputStep "c") ⟨false, false⟩ (tagged "a" 3) ≠ .ok none := by
  refine ⟨startedRun_recorded "c", ?_⟩
  refine (((durable_ids_apart_iff "r").2.2 (soloService 8) (startedStore "c") (startedRun "c") _ ⟨false, false⟩
    (tagged "a" 3) rfl rfl rfl (startedRun_recorded "c")).1 (outputStep "c") (by decide) (by decide)).mpr ?_
  intro other listed
  rw [List.mem_singleton.mp listed, ← durableToolEventId_ne_iff]
  exact durableToolEventId_inj_of_short (by decide) (by decide) (by decide)

def longCall : String := ofList (List.replicate 130 'x')

theorem longCall_full : maxDurableIdBytes ≤ utf8Len longCall.toList := by
  have size : utf8Len longCall.toList = 130 :=
    (congrArg utf8Len toList_ofList).trans (Texts.utf8Len_replicate 130)
  exact size ▸ (by decide : maxDurableIdBytes ≤ 130)

theorem boundDurableId_longCall (before after other : String) :
    boundDurableId (before ++ longCall ++ after) = boundDurableId (before ++ longCall ++ other) := by
  simp only [boundDurableId_eq, toList_append]
  rw [takeBytes_append _ after.toList other.toList]
  rw [utf8Len_append]
  exact longCall_full.trans (Nat.le_add_left _ _)

theorem long_call_output_taken_for_its_start : (longCall, ToolEvent.output) ≠ (longCall, ToolEvent.started) ∧
      durableToolEventId "r" longCall "tool.output" = durableToolEventId "r" longCall "tool.started" ∧
      durableMessageId "r" "result" (longCall ++ "a") = durableMessageId "r" "result" (longCall ++ "b") ∧
      Recorded "r" (startedRun longCall) [(longCall, .started)] ∧
      commitStep (soloService 8) (startedStore longCall) "r" (outputStep longCall) ⟨false, false⟩ (tagged "a" 3) =
        .ok none := by
  have ids : durableToolEventId "r" longCall "tool.output" = durableToolEventId "r" longCall "tool.started" := by
    have cut := boundDurableId_longCall ("r" ++ ":tool:") (":" ++ "tool.output") (":" ++ "tool.started")
    simpa only [durableToolEventId, String.append_assoc] using cut
  have messages : durableMessageId "r" "result" (longCall ++ "a") =
      durableMessageId "r" "result" (longCall ++ "b") := by
    have cut := boundDurableId_longCall ("r" ++ ":" ++ "result" ++ ":") "a" "b"
    simpa only [durableMessageId, String.append_assoc] using cut
  have named : (outputStep longCall).toolCallId ≠ "" := by
    have call : (outputStep longCall).toolCallId = longCall := rfl
    rw [call]
    intro empty
    have full := longCall_full
    rw [empty] at full
    exact absurd full (by decide)
  refine ⟨by simp, ids, messages, startedRun_recorded longCall, ?_⟩
  have found : (startedStore longCall).runs "r" = some (startedRun longCall) := rfl
  have id : (outputStep longCall).eventId "r" = durableToolEventId "r" longCall "tool.started" :=
    (ToolStep.eventId_of_named named).trans ids
  rw [commitStep_eq_ok_none rfl found rfl named, id]
  exact startedRun_hasEvent longCall

end RustScriptAgent.Gateway
