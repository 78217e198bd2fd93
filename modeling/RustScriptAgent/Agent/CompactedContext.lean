import RustScriptAgent.Agent.CompactionPlans
import RustScriptAgent.Agent.SummaryBound

namespace RustScriptAgent.Agent

open Storage Gateway Relational List

structure History where
  messages : List Json
  ordered : messages.Pairwise fun a b => messageOrdinal (asMap a) < messageOrdinal (asMap b)

theorem durableHistory_strict (db : Database) (session : String) :
    (durableHistory db session).Pairwise fun a b => a.ordinal < b.ordinal := by
  have distinct : (durableHistory db session).Pairwise fun a b => a.ordinal ≠ b.ordinal := by
    refine ((perm_insertionSort _ _).pairwise_iff Ne.symm).mpr ?_
    refine ((db.messages.unique.filter _).filter _).imp_of_mem ?_
    -- two rows of one session with one ordinal conflict
    intro a b first second apart same
    have home (row : MessageRow) (listed : row ∈ (db.messagesOf session).filter fun row => decide (0 < row.ordinal)) :
        row.sessionId = session := (Database.mem_messagesOf.mp (mem_filter.mp listed).1).2
    simp [messagesSchema, home a first, home b second, same] at apart
  exact (durableHistory_sorted db session).imp₂ (fun _ _ below apart => lt_of_le_of_ne below apart) distinct

def History.ofSnapshot (db : Database) (session : String) (read : Nat) : History where
  messages := ((durableHistory db session).take read).map snapshotMessage
  ordered := by
    refine List.pairwise_map.mpr ?_
    refine ((durableHistory_strict db session).sublist (List.take_sublist read _)).imp fun below => ?_
    simpa using below

def marked (message : Json) : Bool :=
  match message.get? "compacted" with
  | some (.int count) => decide (0 < count)
  | some (.bool mark) => mark
  | _ => false

def History.active (history : History) : List Json := (history.messages.filter fun message => !marked message).map asMap

theorem messageIsCompacted_asMap (message : Json) : messageIsCompacted (asMap message) = marked message := by
  cases message with
  | obj fields =>
    unfold messageIsCompacted marked ctxBool asMap
    cases (Json.obj fields).get? "compacted" with
    | none => rfl
    | some mark => cases mark <;> rfl
  | _ => rfl

theorem History.activeMessages_eq (history : History) : activeMessages history.messages = history.active := by
  rw [activeMessages, filter_map, History.active]
  refine congrArg (map asMap) (filter_congr fun message _ => ?_)
  rw [Function.comp_apply, messageIsCompacted_asMap]

theorem History.active_ordered (history : History) :
    history.active.Pairwise fun a b => messageOrdinal a < messageOrdinal b :=
  pairwise_map.mpr (history.ordered.filter _)

def summaryMessage (summary : String) : Json :=
  .obj [("role", .str "user"), ("content", .arr [.obj [("type", .str "text"), ("text", .str summary)]])]

def summaryMessages (summary : String) : List Json := if summary = "" then [] else [summaryMessage summary]

def Plan.covers (plan : Plan) (message : Json) : Bool :=
  decide (plan.sourceStartOrdinal ≤ messageOrdinal message) && decide (messageOrdinal message ≤ plan.sourceEndOrdinal)

structure Plan.Cuts (plan : Plan) (active : List Json) (boundary : Nat) : Prop where
  nonempty : 0 < boundary
  within : boundary ≤ active.length
  context : plan.contextMessages = summaryMessage plan.summary.text :: active.drop boundary
  range : active.filter plan.covers = active.take boundary

theorem Plan.Cuts.complete {plan : Plan} {active : List Json} {boundary : Nat} (cuts : plan.Cuts active boundary) :
    active.filter plan.covers ++ plan.contextMessages.tail = active := by
  rw [cuts.range, cuts.context, tail_cons, take_append_drop]

theorem asMap_asMap (message : Json) : asMap (asMap message) = asMap message := by cases message <;> rfl

section Active

variable {history : History}

theorem asMap_active {message : Json} (member : message ∈ history.active) : asMap message = message := by
  obtain ⟨original, -, rfl⟩ := mem_map.mp member
  exact asMap_asMap original

theorem messageAt_active {index : Nat} (inside : index < history.active.length) :
    messageAt history.active index = history.active[index] := by
  rw [messageAt, getElem?_eq_getElem inside, Option.map_some, Option.getD_some]
  exact asMap_active (getElem_mem inside)

theorem providerContextMessages_active (summary : String) (boundary : Nat) :
    providerContextMessages summary history.active boundary =
      summaryMessages summary ++ history.active.drop boundary := by
  have kept : (history.active.drop boundary).map asMap = history.active.drop boundary := by
    calc (history.active.drop boundary).map asMap
        = (history.active.drop boundary).map id :=
          map_congr_left fun message member => asMap_active (mem_of_mem_drop member)
      _ = history.active.drop boundary := map_id _
  rw [providerContextMessages, kept]
  rfl

end Active

theorem filter_eq_take {α : Type} {items : List α} {keep : α → Bool} {cut : Nat}
    (front : ∀ item ∈ items.take cut, keep item) (back : ∀ item ∈ items.drop cut, keep item = false) :
    items.filter keep = items.take cut := by
  have none : (items.drop cut).filter keep = [] := filter_eq_nil_iff.mpr fun item member => by simp [back item member]
  calc items.filter keep
      = (items.take cut ++ items.drop cut).filter keep := by rw [take_append_drop]
    _ = (items.take cut).filter keep ++ [] := by rw [filter_append, none]
    _ = items.take cut := by rw [append_nil, filter_eq_self.mpr front]

theorem range_covers_front {active : List Json} {cut : Nat} (some : 0 < cut) (within : cut ≤ active.length)
    (ordered : active.Pairwise fun a b => messageOrdinal a < messageOrdinal b) (first : 0 < active.length)
    (last : cut - 1 < active.length) :
    active.filter (fun message => decide (messageOrdinal active[0] ≤ messageOrdinal message) &&
      decide (messageOrdinal message ≤ messageOrdinal active[cut - 1])) = active.take cut := by
  have later {i j : Nat} (order : i < j) (inside : j < active.length) :
      messageOrdinal active[i] < messageOrdinal active[j] :=
    pairwise_iff_getElem.mp ordered i j (by omega) inside order
  have below {i j : Nat} (order : i ≤ j) (inside : j < active.length) :
      messageOrdinal active[i] ≤ messageOrdinal active[j] := by
    rcases Nat.lt_or_eq_of_le order with before | rfl
    · exact le_of_lt (later before inside)
    · exact le_rfl
  apply filter_eq_take
  · intro message member
    obtain ⟨index, inside, rfl⟩ := mem_take_iff_getElem.mp member
    rw [Nat.lt_min] at inside
    have lower := @below 0 index (Nat.zero_le _) inside.2
    have upper := @below index (cut - 1) (by omega) last
    simp [lower, upper]
  · intro message member
    obtain ⟨index, inside, rfl⟩ := mem_drop_iff_getElem.mp member
    have beyond := @later (cut - 1) (cut + index) (by omega) (by omega)
    simp [Int.not_le.mpr beyond]

def Decision.Keeps (active : List Json) (previousSummary : String) : Decision → Prop
  | .plan chosen => (∃ boundary, chosen.Cuts active boundary) ∧
      active.filter chosen.covers ++ chosen.contextMessages.tail = active
  | .skip _ _ _ _ contextMessages => contextMessages = summaryMessages previousSummary ++ active
  | .error _ _ => True
  | .command _ => True

theorem compactPlan_cuts (history : History) (context : PlanContext) {boundary : Nat} (some : 0 < boundary)
    (within : boundary ≤ history.active.length) :
    (compactPlan context history.active boundary).Cuts history.active boundary := by
  have first : 0 < history.active.length := by omega
  have last : boundary - 1 < history.active.length := by omega
  refine ⟨some, within, ?_, ?_⟩
  · have shown : summaryMessages (compactPlan context history.active boundary).summary.text =
        [summaryMessage (compactPlan context history.active boundary).summary.text] :=
      if_neg (compactPlan_summary_ne context history.active boundary)
    exact (providerContextMessages_active _ _).trans (congrArg (· ++ _) shown)
  · refine Eq.trans ?_ (range_covers_front some within history.active_ordered first last)
    unfold Plan.covers
    simp only [compactPlan, sourceRange, messageAt_active first, messageAt_active last]

theorem planCommand_skip {context : Json} {reason : SkipReason} {count : Nat} {window tail : Int}
    {contextMessages : List Json} (skipped : planCommand context = .skip reason count window tail contextMessages) :
    contextMessages = providerContextMessages (planContext context).previousSummary
      (activeMessages (ctxArray context "messages")) 0 := by
  simp only [planCommand] at skipped
  split_ifs at skipped <;> simp_all [emptySummary]

theorem compacted_context_complete (history : History) (context : Json)
    (given : ctxArray context "messages" = history.messages) :
    (run context).Keeps history.active (planContext context).previousSummary := by
  unfold run
  split_ifs
  · trivial
  · cases decided : planCommand context with
    | plan chosen =>
      obtain ⟨some, short, rfl⟩ := planCommand_plan decided
      rw [given, history.activeMessages_eq] at short ⊢
      have forward : history.active.length - (ctxInt (ctxMap context "config") "retained_tail" 32).toNat ≤
          compactBoundary history.active _ := le_boundaryPasses _ _
      have front : 0 < compactBoundary history.active
          (history.active.length - (ctxInt (ctxMap context "config") "retained_tail" 32).toNat) := by
        omega
      have cuts := compactPlan_cuts history (planContext context) front (boundaryPasses_le _ (Nat.sub_le _ _))
      exact ⟨⟨_, cuts⟩, cuts.complete⟩
    | skip reason count window tail contextMessages =>
      have shown := planCommand_skip decided
      rw [given, history.activeMessages_eq, providerContextMessages_active, List.drop_zero] at shown
      exact shown
    | error code message => trivial
    | command issued => trivial

def shortened : Database :=
  { conversation with
    messages := ⟨[{ storedMessage 1 "user" (textOf "old") with compacted := true },
      storedMessage 2 "user" (textOf "hi"),
      storedMessage 3 "assistant" (textOf "ok")], by decide +kernel, by decide +kernel⟩ }

theorem shortened_context_complete :
    (History.ofSnapshot shortened "s" 3).active.length = 2 ∧
      ∃ plan, run (policyInput (asking "a") (durableHistory shortened "s")) = .plan plan ∧
        ∃ boundary, plan.Cuts (History.ofSnapshot shortened "s" 3).active boundary := by
  have given : ctxArray (policyInput (asking "a") (durableHistory shortened "s")) "messages" =
      (History.ofSnapshot shortened "s" 3).messages := by decide +kernel
  have complete := compacted_context_complete _ _ given
  have planned : (run (policyInput (asking "a") (durableHistory shortened "s"))).plan?.isSome = true := by
    decide +kernel
  obtain ⟨plan, found⟩ := Option.isSome_iff_exists.mp planned
  rw [Decision.eq_plan found] at complete
  exact ⟨by decide +kernel, plan, Decision.eq_plan found, complete.1⟩

end RustScriptAgent.Agent
