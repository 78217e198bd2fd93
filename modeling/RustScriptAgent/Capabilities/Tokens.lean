import Mathlib.Data.List.Nodup
import Mathlib.Tactic.Common
import RustScriptAgent.Shared.Checks
import RustScriptAgent.Shared.Transition
import RustScriptAgent.Capabilities.Lifecycle

namespace RustScriptAgent.Capabilities

open Transitions

variable {callId token : String} {answers : String → Except LifecycleError Unit} {order : List String}
    {operation : Operation}

def DurableCall.closes (callId : String) : DurableCall → Bool
  | commitStarted _ => false
  | commitResult closed _ => closed == callId
  | interrupt closed => closed == callId

def told (calls : List DurableCall) (callId : String) : Nat := calls.countP (DurableCall.closes callId)

def Operation.Completes : Operation → Prop
  | .recover order answers => ∀ callId ∈ order.dropLast, answers callId = .ok ()
  | _ => True

def Operation.DrawsFresh {Gate : Type} (lifecycle : CapabilityLifecycle Gate) : Operation → Prop
  | .prepare _ _ view => view.token ∉ lifecycle.tokens.map Prod.fst
  | _ => True

def Operation.issues {Gate : Type} (gate : ApprovalGate Gate) (lifecycle : CapabilityLifecycle Gate) :
    Operation → List (String × String)
  | .prepare owner metadata view =>
    match (lifecycle.prepare gate owner metadata view).result with
    | .ok (.execute token _) => [(metadata.callId, token)]
    | _ => []
  | _ => []

structure Ledger (Gate : Type) where
  lifecycle : CapabilityLifecycle Gate
  issued : List (String × String)
  closed : List String
  durable : List DurableCall

def leftOpen {Gate : Type} (before after : CapabilityLifecycle Gate) : List String :=
  (before.tokens.map Prod.fst).filter fun token =>
    (before.state token).any TokenState.isOpen && !(after.state token).any TokenState.isOpen

namespace Ledger

variable {Gate : Type}

def start (lifecycle : CapabilityLifecycle Gate) : Ledger Gate := ⟨lifecycle, [], [], []⟩

def next (gate : ApprovalGate Gate) (ledger : Ledger Gate) (operation : Operation) : Option (Ledger Gate) :=
  (ledger.lifecycle.operate gate operation).map fun (later, calls) =>
    { lifecycle := later
      issued := ledger.issued ++ operation.issues gate ledger.lifecycle
      closed := ledger.closed ++ leftOpen ledger.lifecycle later
      durable := ledger.durable ++ calls }

end Ledger

namespace CapabilityLifecycle

variable {Gate : Type} {gate : ApprovalGate Gate} {lifecycle later : CapabilityLifecycle Gate}
  {calls : List DurableCall}

structure Issues (before after : CapabilityLifecycle Gate) (calls : List DurableCall)
    (issued : List (String × String)) : Prop where
  token : ∃ token claims, after.tokens = before.tokens ++ [(token, .opened claims)] ∧
    token ∉ before.tokens.map Prod.fst ∧ before.unresolved claims.callId = false ∧ issued = [(claims.callId, token)]
  room : before.callCount < before.config.limits.maxToolCalls
  counted : after.callCount = before.callCount + 1
  limits : after.config = before.config
  told : ∀ callId, told calls callId = 0

def ClosedBy (before : CapabilityLifecycle Gate) (close : String × TokenState → TokenState) (callId : String) : Prop :=
  ∃ entry ∈ before.tokens, entry.2.isOpen ∧ (close entry).isOpen = false ∧ entry.2.callId = callId

structure Closes (before after : CapabilityLifecycle Gate) (calls : List DurableCall) (complete : Prop)
    (close : String × TokenState → TokenState) : Prop where
  tokens : after.tokens = before.tokens.map fun entry => (entry.1, close entry)
  callId : ∀ entry ∈ before.tokens, (close entry).callId = entry.2.callId
  stays : ∀ entry ∈ before.tokens, entry.2.isOpen = false → close entry = entry.2
  counted : after.callCount = before.callCount
  limits : after.config = before.config
  once : ∀ callId, told calls callId ≤ 1
  only : ∀ callId, ¬ before.ClosedBy close callId → told calls callId = 0
  all : complete → ∀ callId, before.ClosedBy close callId → told calls callId = 1
  missed : ¬ complete → ∃ callId, before.ClosedBy close callId ∧ told calls callId = 0

theorem Closes.of_same {before after : CapabilityLifecycle Gate} {calls : List DurableCall} {complete : Prop}
    (tokens : after.tokens = before.tokens) (counted : after.callCount = before.callCount)
    (limits : after.config = before.config) (quiet : ∀ callId, told calls callId = 0) (done : complete) :
    Closes before after calls complete Prod.snd where
  tokens := by simp [tokens]
  callId _ _ := rfl
  stays _ _ _ := rfl
  counted := counted
  limits := limits
  once callId := by simp [quiet]
  only callId _ := quiet callId
  all _ callId closed := by
    obtain ⟨entry, _, wasOpen, notOpen, _⟩ := closed
    simp [wasOpen] at notOpen
  missed incomplete := absurd done incomplete

variable (owner : CapabilityOwner)

theorem attestApproval_closes (metadata : PrepareMetadata) (view : AttestView) :
    let effect := lifecycle.attestApproval gate owner metadata view
    Closes lifecycle effect.lifecycle effect.calls True Prod.snd := by
  unfold attestApproval
  split
  · exact .of_same rfl rfl rfl (fun _ => rfl) trivial
  · exact .of_same rfl rfl rfl (fun _ => rfl) trivial
  · exact .of_same rfl rfl rfl (fun _ => rfl) trivial
  · split_ifs
    · exact .of_same rfl rfl rfl (fun _ => rfl) trivial
    · exact .of_same rfl rfl rfl (fun _ => rfl) trivial

theorem prepareChecks_none {owner : CapabilityOwner} {metadata : PrepareMetadata} {view : PrepareView}
    (passed : lifecycle.prepareChecks owner metadata view = .ok none) :
    owner = lifecycle.config.owner ∧ metadata.runId = lifecycle.config.owner.run ∧
      lifecycle.unresolved metadata.callId = false ∧
      lifecycle.callCount < lifecycle.config.limits.maxToolCalls := by
  unfold prepareChecks at passed
  obtain ⟨own, passed⟩ := Checks.passed_if passed
  obtain ⟨run, passed⟩ := Checks.passed_if passed
  obtain ⟨_, _, passed⟩ := Checks.passed_bind passed
  obtain ⟨_, _, passed⟩ := Checks.passed_bind passed
  obtain ⟨replay, _, passed⟩ := Checks.passed_bind passed
  cases replay with
  | some result => cases passed
  | none =>
    obtain ⟨resolved, passed⟩ := Checks.passed_if passed
    obtain ⟨_, passed⟩ := Checks.passed_if passed
    obtain ⟨_, passed⟩ := Checks.passed_if passed
    obtain ⟨_, _, passed⟩ := Checks.passed_bind passed
    obtain ⟨room, _⟩ := Checks.passed_if passed
    exact ⟨not_not.mp own, not_not.mp run, by simpa using resolved, Nat.lt_of_not_le room⟩

theorem insertToken_fresh (token : String) (state : TokenState) (fresh : token ∉ lifecycle.tokens.map Prod.fst) :
    lifecycle.insertToken token state = { lifecycle with tokens := lifecycle.tokens ++ [(token, state)] } := by
  have absent : lifecycle.tokens.any (fun entry => entry.1 == token) = false := by
    simp only [List.any_eq_false, beq_iff_eq]
    exact fun entry member same => fresh (same ▸ List.mem_map_of_mem member)
  simp [insertToken, absent]

theorem prepare_issues_or_closes (metadata : PrepareMetadata) (view : PrepareView)
    (fresh : view.token ∉ lifecycle.tokens.map Prod.fst) :
    let effect := lifecycle.prepare gate owner metadata view
    let issued := (Operation.prepare owner metadata view).issues gate lifecycle
    Issues lifecycle effect.lifecycle effect.calls issued ∨
      issued = [] ∧ Closes lifecycle effect.lifecycle effect.calls True Prod.snd := by
  dsimp only [Operation.issues]
  unfold prepare
  cases checked : lifecycle.prepareChecks owner metadata view with
  | error error => exact .inr ⟨rfl, .of_same rfl rfl rfl (fun _ => rfl) trivial⟩
  | ok replay =>
    cases replay with
    | some result => exact .inr ⟨rfl, .of_same rfl rfl rfl (fun _ => rfl) trivial⟩
    | none =>
      obtain ⟨_, _, resolved, room⟩ := prepareChecks_none checked
      dsimp only [authorizeAndStart]
      cases (gate.authorizeAt lifecycle.gate metadata lifecycle.generation view.authorizeNow view.gateClock).2 with
      | error error => exact .inr ⟨rfl, .of_same rfl rfl rfl (fun _ => rfl) trivial⟩
      | ok ceiling =>
        cases view.started with
        | error error => exact .inr ⟨rfl, .of_same rfl rfl rfl (fun _ => rfl) trivial⟩
        | ok started =>
          dsimp only
          rw [insertToken_fresh _ _ (by exact fresh)]
          exact .inl ⟨⟨view.token, lifecycle.claims metadata ceiling, rfl, fresh, resolved, rfl⟩, room, rfl, rfl,
            fun _ => rfl⟩

theorem lookup_eq_some {Value : Type} {entries : List (String × Value)} (distinct : (entries.map Prod.fst).Nodup)
    {key : String} {value : Value} : entries.lookup key = some value ↔ (key, value) ∈ entries := by
  induction entries with
  | nil => simp
  | cons entry rest ih =>
    obtain ⟨name, held⟩ := entry
    obtain ⟨absent, distinct⟩ := List.nodup_cons.mp distinct
    by_cases same : key = name
    · subst same
      have later : (key, value) ∉ rest := fun member => absent (List.mem_map.mpr ⟨_, member, rfl⟩)
      simp only [List.lookup_cons, beq_self_eq_true, List.mem_cons, later, or_false, Option.some.injEq]
      exact ⟨fun equal => equal ▸ rfl, fun equal => (congrArg Prod.snd equal).symm⟩
    · have other : (key == name) = false := beq_false_of_ne same
      have differs : (key, value) ≠ (name, held) := fun equal => same (congrArg Prod.fst equal)
      simp [List.lookup_cons, other, ih distinct, differs]

theorem told_single {call : DurableCall} (closes : ∀ other, call.closes other = (callId == other))
    (other : String) : told [call] other = if callId = other then 1 else 0 := by
  simp [told, List.countP_cons, closes]

theorem replaceToken_closes {claims : TokenClaims} {state : TokenState} {call : DurableCall}
    (distinct : (lifecycle.tokens.map Prod.fst).Nodup) (was : lifecycle.state token = some (.opened claims))
    (callId : state.callId = claims.callId) (closed : state.isOpen = false)
    (closes : ∀ other, call.closes other = (claims.callId == other)) :
    ∃ close, Closes lifecycle (lifecycle.replaceToken token state) [call] True close := by
  -- closing the open token of a call and telling so once
  have here : (token, .opened claims) ∈ lifecycle.tokens := (lookup_eq_some distinct).mp was
  have only {entry : String × TokenState} (member : entry ∈ lifecycle.tokens) (same : entry.1 = token) :
      entry.2 = .opened claims := by
    have found := (lookup_eq_some distinct).mpr (show (token, entry.2) ∈ lifecycle.tokens from same ▸ member)
    exact Option.some.inj (found.symm.trans was)
  let close (entry : String × TokenState) : TokenState := if entry.1 = token then state else entry.2
  have closedBy (other : String) : lifecycle.ClosedBy close other ↔ claims.callId = other := by
    constructor
    · rintro ⟨entry, member, wasOpen, notOpen, rfl⟩
      by_cases same : entry.1 = token
      · rw [only member same]
        rfl
      · simp [close, same, wasOpen] at notOpen
    · rintro rfl
      exact ⟨_, here, rfl, by simp [close, closed], rfl⟩
  refine ⟨close, ⟨?_, ?_, ?_, rfl, rfl, ?_, ?_, ?_, fun incomplete => absurd trivial incomplete⟩⟩
  · refine List.map_congr_left fun entry _ => ?_
    by_cases same : entry.1 = token <;> simp [close, same]
  · intro entry member
    by_cases same : entry.1 = token
    · simp only [close, same, if_true, callId, only member same]
      rfl
    · simp [close, same]
  · intro entry member wasClosed
    by_cases same : entry.1 = token
    · rw [only member same] at wasClosed
      cases wasClosed
    · simp [close, same]
  · intro other
    rw [told_single closes]
    split <;> omega
  · intro other none
    rw [told_single closes, if_neg (fun same => none ((closedBy other).mpr same))]
  · intro _ other some
    rw [told_single closes, if_pos ((closedBy other).mp some)]

theorem nothing_closes {Answer : Type} (answer : Except LifecycleError Answer) :
    ∃ close, Closes lifecycle (lifecycle.nothing answer).lifecycle (lifecycle.nothing answer).calls True close :=
  ⟨Prod.snd, .of_same rfl rfl rfl (fun _ => rfl) trivial⟩

theorem commit_closes (token : String) (result : Json) (view : CommitView)
    (distinct : (lifecycle.tokens.map Prod.fst).Nodup) :
    let effect := lifecycle.commit owner token result view
    ∃ close, Closes lifecycle effect.lifecycle effect.calls True close := by
  dsimp only [commit]
  by_cases own : owner = lifecycle.config.owner
  case neg =>
    rw [if_pos own]
    exact nothing_closes _
  rw [if_neg (not_not.mpr own)]
  cases was : lifecycle.state token with
  | none => exact nothing_closes _
  | some state =>
    cases state with
    | committed callId => exact nothing_closes _
    | interrupted callId => exact nothing_closes _
    | opened claims =>
      dsimp only
      split
      · exact nothing_closes _
      split
      · exact nothing_closes _
      split
      · exact nothing_closes _
      split
      · exact nothing_closes _
      split
      · exact nothing_closes _
      · exact replaceToken_closes distinct was rfl rfl fun _ => rfl

theorem dropLease_closes (token : String) (closed : Bool) (answer : Except LifecycleError Unit)
    (distinct : (lifecycle.tokens.map Prod.fst).Nodup) :
    let effect := lifecycle.dropLease token closed answer
    ∃ close, Closes lifecycle effect.lifecycle effect.calls True close := by
  dsimp only [dropLease]
  cases closed with
  | true => exact nothing_closes _
  | false =>
    dsimp only [interruptToken, Bool.false_eq_true, if_false]
    cases was : lifecycle.state token with
    | none => exact nothing_closes _
    | some state =>
      cases state with
      | committed callId => exact nothing_closes _
      | interrupted callId => exact nothing_closes _
      | opened claims => exact replaceToken_closes distinct was rfl rfl fun _ => rfl

@[simp] theorem told_nil (callId : String) : told [] callId = 0 := rfl

theorem told_interrupt (callId other : String) (rest : List DurableCall) :
    told (.interrupt callId :: rest) other = told rest other + if callId = other then 1 else 0 := by
  simp [told, List.countP_cons, DurableCall.closes]

theorem told_interruptAll_le (answers : String → Except LifecycleError Unit) (order : List String) (callId : String) :
    told (interruptAll answers order).1 callId ≤ order.count callId := by
  induction order with
  | nil => exact Nat.le_refl 0
  | cons first rest ih =>
    simp only [interruptAll, List.count_cons, beq_iff_eq]
    cases answers first with
    | error error => simp only [told_interrupt]; exact Nat.add_le_add_right (Nat.zero_le _) _
    | ok answer => simp only [told_interrupt]; exact Nat.add_le_add_right ih _

theorem told_interruptAll_complete
    (complete : ∀ callId ∈ order.dropLast, answers callId = .ok ()) (callId : String) :
    told (interruptAll answers order).1 callId = order.count callId := by
  induction order with
  | nil => rfl
  | cons first rest ih =>
    simp only [interruptAll, List.count_cons, beq_iff_eq]
    cases rest with
    | nil => cases answers first <;> simp [told_interrupt, interruptAll]
    | cons second others =>
      rw [List.dropLast_cons_cons, List.forall_mem_cons] at complete
      simp only [complete.1, told_interrupt, ih complete.2]

theorem interruptAll_missed
    (distinct : order.Nodup) (incomplete : ¬ ∀ callId ∈ order.dropLast, answers callId = .ok ()) :
    ∃ callId ∈ order, told (interruptAll answers order).1 callId = 0 := by
  induction order with
  | nil => simp at incomplete
  | cons first rest ih =>
    obtain ⟨absent, distinct⟩ := List.nodup_cons.mp distinct
    cases rest with
    | nil => simp at incomplete
    | cons second others =>
      cases answer : answers first with
      | error error =>
        have other : first ≠ second := fun same => absent (same ▸ List.mem_cons_self)
        exact ⟨second, by simp, by simp [interruptAll, answer, told_interrupt, other]⟩
      | ok done =>
        rw [List.dropLast_cons_cons, List.forall_mem_cons, not_and] at incomplete
        obtain ⟨callId, member, none⟩ := ih distinct (incomplete answer)
        have other : first ≠ callId := fun same => absent (same ▸ member)
        refine ⟨callId, List.mem_cons_of_mem _ member, ?_⟩
        rw [interruptAll, answer]
        simp only [told_interrupt, none, other, if_false]

theorem mem_openCalls :
    callId ∈ lifecycle.openCalls ↔ ∃ entry ∈ lifecycle.tokens, entry.2.isOpen ∧ entry.2.callId = callId := by
  simp only [openCalls, List.mem_map, List.mem_filter]
  exact ⟨fun ⟨entry, member, same⟩ => ⟨entry, member.1, member.2, same⟩,
    fun ⟨entry, member, wasOpen, same⟩ => ⟨entry, ⟨member, wasOpen⟩, same⟩⟩

theorem recoverOpenTokens_closes
    (callsDistinct : (lifecycle.tokens.map fun entry => entry.2.callId).Nodup)
    (taken : order.Perm lifecycle.openCalls) :
    let effect := lifecycle.recoverOpenTokens order answers
    ∃ close, Closes lifecycle effect.lifecycle effect.calls (Operation.recover order answers).Completes close := by
  let close (entry : String × TokenState) : TokenState :=
    if entry.2.isOpen then .interrupted entry.2.callId else entry.2
  have closedBy (callId : String) : lifecycle.ClosedBy close callId ↔ callId ∈ order := by
    rw [taken.mem_iff, mem_openCalls]
    constructor
    · rintro ⟨entry, member, wasOpen, _, same⟩
      exact ⟨entry, member, wasOpen, same⟩
    · rintro ⟨entry, member, wasOpen, same⟩
      refine ⟨entry, member, wasOpen, ?_, same⟩
      simp only [close, wasOpen, if_true]
      rfl
  have distinct : order.Nodup := taken.nodup_iff.mpr (callsDistinct.sublist (List.filter_sublist.map _))
  have same : (lifecycle.recoverOpenTokens order answers).lifecycle.tokens = lifecycle.interruptOpen.tokens ∧
      (lifecycle.recoverOpenTokens order answers).lifecycle.callCount = lifecycle.callCount ∧
      (lifecycle.recoverOpenTokens order answers).lifecycle.config = lifecycle.config ∧
      (lifecycle.recoverOpenTokens order answers).calls = (interruptAll answers order).1 := by
    dsimp only [recoverOpenTokens]
    cases (interruptAll answers order).2 <;> exact ⟨rfl, rfl, rfl, rfl⟩
  obtain ⟨tokens, counted, limits, calls⟩ := same
  refine ⟨close, ⟨?_, ?_, ?_, counted, limits, ?_, ?_, ?_, ?_⟩⟩
  · rw [tokens]
    refine List.map_congr_left fun entry _ => ?_
    by_cases wasOpen : entry.2.isOpen <;> simp [close, wasOpen]
  · intro entry _
    simp only [close]
    split <;> rfl
  · intro entry _ wasClosed
    simp [close, wasClosed]
  · intro callId
    rw [calls]
    exact Nat.le_trans (told_interruptAll_le answers order callId) (List.nodup_iff_count_le_one.mp distinct callId)
  · intro callId none
    rw [calls]
    have absent := List.count_eq_zero_of_not_mem (mt (closedBy callId).mpr none)
    exact Nat.le_zero.mp (absent ▸ told_interruptAll_le answers order callId)
  · intro complete callId some
    rw [calls, told_interruptAll_complete complete]
    exact List.count_eq_one_of_mem distinct ((closedBy callId).mp some)
  · intro incomplete
    obtain ⟨callId, member, none⟩ := interruptAll_missed distinct incomplete
    exact ⟨callId, (closedBy callId).mpr member, calls ▸ none⟩

theorem operate_cases (tokensDistinct : (lifecycle.tokens.map Prod.fst).Nodup)
    (callsDistinct : (lifecycle.tokens.map fun entry => entry.2.callId).Nodup)
    (fresh : operation.DrawsFresh lifecycle) (taken : lifecycle.operate gate operation = some (later, calls)) :
    (Issues lifecycle later calls (operation.issues gate lifecycle) ∧ operation.Completes) ∨
      operation.issues gate lifecycle = [] ∧ ∃ close, Closes lifecycle later calls operation.Completes close := by
  cases operation with
  | attest owner metadata view =>
    cases taken
    exact .inr ⟨rfl, _, attestApproval_closes owner metadata view⟩
  | prepare owner metadata view =>
    cases taken
    obtain issues | ⟨none, closes⟩ := prepare_issues_or_closes owner metadata view fresh
    · exact .inl ⟨issues, trivial⟩
    · exact .inr ⟨none, _, closes⟩
  | commit owner token result view =>
    cases taken
    exact .inr ⟨rfl, commit_closes owner token result view tokensDistinct⟩
  | dropLease token closed answer =>
    cases taken
    exact .inr ⟨rfl, dropLease_closes token closed answer tokensDistinct⟩
  | recover order answers =>
    simp only [operate] at taken
    split at taken
    next listed =>
      cases taken
      exact .inr ⟨rfl, recoverOpenTokens_closes callsDistinct listed⟩
    next => cases taken

end CapabilityLifecycle

namespace Ledger

open CapabilityLifecycle List

variable {Gate : Type} {gate : ApprovalGate Gate} {ledger later : Ledger Gate}

structure Sound (ledger : Ledger Gate) : Prop where
  tokensDistinct : (ledger.lifecycle.tokens.map Prod.fst).Nodup
  callsDistinct : (ledger.lifecycle.tokens.map fun entry => entry.2.callId).Nodup
  issued : ledger.issued = ledger.lifecycle.tokens.map fun entry => (entry.2.callId, entry.1)
  counted : ledger.lifecycle.callCount = ledger.lifecycle.tokens.length
  room : ledger.lifecycle.callCount ≤ ledger.lifecycle.config.limits.maxToolCalls
  closedOnce : ledger.closed.Nodup
  closed : ∀ token, token ∈ ledger.closed ↔ ∃ state, (token, state) ∈ ledger.lifecycle.tokens ∧ state.isOpen = false
  toldOnce : ∀ entry ∈ ledger.lifecycle.tokens, told ledger.durable entry.2.callId ≤ if entry.2.isOpen then 0 else 1
  toldOnly : ∀ callId, ledger.lifecycle.unresolved callId = false → told ledger.durable callId = 0

def Exact (ledger : Ledger Gate) : Prop :=
  ∀ issue ∈ ledger.issued, issue.2 ∈ ledger.closed → told ledger.durable issue.1 = 1

theorem told_append (before calls : List DurableCall) (callId : String) :
    told (before ++ calls) callId = told before callId + told calls callId := countP_append

theorem unresolved_eq_false {lifecycle : CapabilityLifecycle Gate} :
    lifecycle.unresolved callId = false ↔ callId ∉ lifecycle.tokens.map fun entry => entry.2.callId := by
  simp [unresolved]

theorem mem_leftOpen {before after : CapabilityLifecycle Gate}
    (distinct : (before.tokens.map Prod.fst).Nodup) : token ∈ leftOpen before after ↔
      ∃ state, (token, state) ∈ before.tokens ∧ state.isOpen ∧ (after.state token).any TokenState.isOpen = false := by
  simp only [leftOpen, mem_filter, Bool.and_eq_true, Bool.not_eq_true', Option.any_eq_true]
  constructor
  · rintro ⟨_, ⟨state, found, wasOpen⟩, notOpen⟩
    exact ⟨state, (lookup_eq_some distinct).mp found, wasOpen, notOpen⟩
  · rintro ⟨state, member, wasOpen, notOpen⟩
    exact ⟨mem_map.mpr ⟨_, member, rfl⟩, ⟨state, (lookup_eq_some distinct).mpr member, wasOpen⟩, notOpen⟩

theorem start_sound {config : LifecycleConfig} {state : Gate} {generation : Nat} {lifecycle : CapabilityLifecycle Gate}
    (built : config.build state generation = .ok lifecycle) : (start lifecycle).Sound ∧ lifecycle.config = config := by
  unfold LifecycleConfig.build at built
  split at built
  · cases built
  · cases built
    exact ⟨⟨by simp [start], by simp [start], rfl, rfl, Nat.zero_le _, by simp [start], by simp [start],
      by simp [start], fun _ _ => rfl⟩, rfl⟩

def record (ledger : Ledger Gate) (after : CapabilityLifecycle Gate) (calls : List DurableCall)
    (issued : List (String × String)) : Ledger Gate where
  lifecycle := after
  issued := ledger.issued ++ issued
  closed := ledger.closed ++ leftOpen ledger.lifecycle after
  durable := ledger.durable ++ calls

theorem next_eq (taken : ledger.next gate operation = some later) :
    ∃ after calls, ledger.lifecycle.operate gate operation = some (after, calls) ∧
      later = ledger.record after calls (operation.issues gate ledger.lifecycle) := by
  obtain ⟨⟨after, calls⟩, operated, rfl⟩ := Option.map_eq_some_iff.mp taken
  exact ⟨after, calls, operated, rfl⟩

namespace Sound

variable {after : CapabilityLifecycle Gate} {calls : List DurableCall} {issued : List (String × String)}
  {complete : Prop} {close : String × TokenState → TokenState}

section

variable (sound : ledger.Sound)
include sound

theorem same_entry {one other : String × TokenState} (first : one ∈ ledger.lifecycle.tokens)
    (second : other ∈ ledger.lifecycle.tokens) (same : one.2.callId = other.2.callId) : one = other :=
  inj_on_of_nodup_map sound.callsDistinct first second same

theorem same_state {one other : TokenState}
    (first : (token, one) ∈ ledger.lifecycle.tokens) (second : (token, other) ∈ ledger.lifecycle.tokens) :
      one = other :=
  Option.some.inj (((lookup_eq_some sound.tokensDistinct).mpr first).symm.trans
    ((lookup_eq_some sound.tokensDistinct).mpr second))

theorem leftOpen_of_issues (issues : Issues ledger.lifecycle after calls issued) :
    leftOpen ledger.lifecycle after = [] := by
  obtain ⟨token, claims, tokens, fresh, _, _⟩ := issues.token
  have distinct : (after.tokens.map Prod.fst).Nodup := by
    rw [tokens, map_append]
    exact sound.tokensDistinct.append (by simp) (by simpa using fresh)
  refine eq_nil_iff_forall_not_mem.mpr fun other left => ?_
  obtain ⟨state, member, wasOpen, notOpen⟩ := (mem_leftOpen sound.tokensDistinct).mp left
  have kept : after.state other = some state := (lookup_eq_some distinct).mpr (tokens ▸ mem_append_left _ member)
  simp [kept, wasOpen] at notOpen

theorem issuing (issues : Issues ledger.lifecycle after calls issued) :
    (ledger.record after calls issued).Sound := by
  have none := sound.leftOpen_of_issues issues
  obtain ⟨token, claims, tokens, fresh, resolved, rfl⟩ := issues.token
  have silent := sound.toldOnly claims.callId resolved
  refine ⟨?_, ?_, ?_, ?_, ?_, ?_, ?_, ?_, ?_⟩
  all_goals simp only [record, none, append_nil, tokens, told_append, issues.told, Nat.add_zero]
  · rw [map_append]
    exact sound.tokensDistinct.append (by simp) (by simpa using fresh)
  · rw [map_append]
    exact sound.callsDistinct.append (by simp) (by simpa [TokenState.callId, unresolved_eq_false] using resolved)
  · rw [sound.issued, map_append]
    rfl
  · rw [issues.counted, sound.counted, length_append]
    rfl
  · rw [issues.counted, issues.limits]
    exact issues.room
  · exact sound.closedOnce
  · intro other
    simp only [sound.closed, mem_append, mem_singleton, Prod.mk.injEq]
    refine exists_congr fun state => and_congr_left fun closed => ?_
    constructor
    · exact .inl
    · rintro (member | ⟨_, rfl⟩)
      · exact member
      · cases closed
  · intro entry member
    rcases mem_append.mp member with old | new
    · exact sound.toldOnce entry old
    · rw [mem_singleton.mp new]
      exact Nat.le_of_eq silent
  · intro callId free
    refine sound.toldOnly callId (unresolved_eq_false.mpr fun member => unresolved_eq_false.mp free ?_)
    rw [tokens, map_append]
    exact mem_append_left _ member

variable (closes : Closes ledger.lifecycle after calls complete close)
include closes

theorem mem_leftOpen_of_closes (token : String) : token ∈ leftOpen ledger.lifecycle after ↔
      ∃ state, (token, state) ∈ ledger.lifecycle.tokens ∧ state.isOpen ∧ (close (token, state)).isOpen = false := by
  rw [mem_leftOpen sound.tokensDistinct]
  refine exists_congr fun state => and_congr_right fun member => and_congr_right fun _ => ?_
  have distinct : (after.tokens.map Prod.fst).Nodup := by
    rw [closes.tokens, map_map]
    exact sound.tokensDistinct
  have now : after.state token = some (close (token, state)) :=
    (lookup_eq_some distinct).mpr (closes.tokens ▸ mem_map.mpr ⟨_, member, rfl⟩)
  rw [now]
  rfl

theorem told_of_closed {entry : String × TokenState} (member : entry ∈ ledger.lifecycle.tokens)
    (same : entry.2.isOpen = false ∨ (close entry).isOpen) : told calls entry.2.callId = 0 := by
  refine closes.only _ ?_
  rintro ⟨other, there, wasOpen, notOpen, callId⟩
  rw [sound.same_entry there member callId] at wasOpen notOpen
  rcases same with closed | stillOpen
  · simp [closed] at wasOpen
  · simp [stillOpen] at notOpen

theorem closing :
    (ledger.record after calls []).Sound := by
  have left := sound.mem_leftOpen_of_closes closes
  refine ⟨?_, ?_, ?_, ?_, ?_, ?_, ?_, ?_, ?_⟩
  all_goals simp only [record, append_nil]
  · rw [closes.tokens, map_map]
    exact sound.tokensDistinct
  · rw [closes.tokens, map_map]
    exact (map_congr_left closes.callId) ▸ sound.callsDistinct
  · rw [sound.issued, closes.tokens, map_map]
    exact map_congr_left fun entry member => by simp [closes.callId entry member]
  · rw [closes.counted, sound.counted, closes.tokens, length_map]
  · rw [closes.counted, closes.limits]
    exact sound.room
  · refine sound.closedOnce.append (sound.tokensDistinct.filter _) ?_
    intro token before now
    obtain ⟨state, member, closed⟩ := (sound.closed token).mp before
    obtain ⟨other, there, wasOpen, _⟩ := (left token).mp now
    cases sound.same_state member there
    simp [closed] at wasOpen
  · intro token
    rw [mem_append, sound.closed, left, closes.tokens]
    constructor
    · rintro (⟨state, member, closed⟩ | ⟨state, member, _, closed⟩)
      · refine ⟨state, mem_map.mpr ⟨_, member, ?_⟩, closed⟩
        rw [closes.stays _ member closed]
      · exact ⟨_, mem_map.mpr ⟨_, member, rfl⟩, closed⟩
    · rintro ⟨state, member, closed⟩
      obtain ⟨entry, there, same⟩ := mem_map.mp member
      cases same
      by_cases wasOpen : entry.2.isOpen
      · exact .inr ⟨entry.2, there, wasOpen, closed⟩
      · exact .inl ⟨entry.2, there, by simpa using wasOpen⟩
  · intro now member
    rw [closes.tokens] at member
    obtain ⟨entry, there, rfl⟩ := mem_map.mp member
    have before := sound.toldOnce entry there
    simp only [told_append, closes.callId entry there]
    by_cases wasOpen : entry.2.isOpen
    · rw [if_pos wasOpen] at before
      split
      next stillOpen =>
        have silent := sound.told_of_closed closes there (.inr stillOpen)
        omega
      next =>
        have once := closes.once entry.2.callId
        omega
    · rw [if_neg wasOpen] at before
      have closed : entry.2.isOpen = false := by simpa using wasOpen
      have silent := sound.told_of_closed closes there (.inl closed)
      rw [closes.stays entry there closed, if_neg wasOpen]
      omega
  · intro callId free
    have before : ledger.lifecycle.unresolved callId = false := by
      rw [unresolved_eq_false] at free ⊢
      rw [closes.tokens, map_map] at free
      exact (map_congr_left closes.callId) ▸ free
    rw [told_append, sound.toldOnly callId before, closes.only]
    rintro ⟨entry, member, _, _, rfl⟩
    exact unresolved_eq_false.mp before (mem_map.mpr ⟨_, member, rfl⟩)

end

end Sound

theorem Sound.mem_issued (sound : ledger.Sound) {issue : String × String} :
    issue ∈ ledger.issued ↔ ∃ state, (issue.2, state) ∈ ledger.lifecycle.tokens ∧ state.callId = issue.1 := by
  rw [sound.issued, mem_map]
  constructor
  · rintro ⟨entry, member, rfl⟩
    exact ⟨entry.2, member, rfl⟩
  · rintro ⟨state, member, same⟩
    exact ⟨_, member, by rw [same]⟩

def Lost (ledger : Ledger Gate) : Prop :=
  ∃ issue ∈ ledger.issued, issue.2 ∈ ledger.closed ∧ told ledger.durable issue.1 = 0

theorem Lost.not_exact (lost : ledger.Lost) : ¬ ledger.Exact := by
  obtain ⟨issue, member, closed, silent⟩ := lost
  intro exactly
  have once := exactly issue member closed
  omega

section Next

variable (sound : ledger.Sound) (fresh : operation.DrawsFresh ledger.lifecycle)
  (taken : ledger.next gate operation = some later)
include sound fresh taken

theorem Sound.next : later.Sound := by
  obtain ⟨after, calls, operated, rfl⟩ := next_eq taken
  obtain ⟨issues, _⟩ | ⟨none, close, closes⟩ := operate_cases sound.tokensDistinct sound.callsDistinct fresh operated
  · exact sound.issuing issues
  · rw [none]
    exact sound.closing closes

theorem next_config : later.lifecycle.config = ledger.lifecycle.config := by
  obtain ⟨after, calls, operated, rfl⟩ := next_eq taken
  obtain ⟨issues, _⟩ | ⟨_, close, closes⟩ := operate_cases sound.tokensDistinct sound.callsDistinct fresh operated
  · exact issues.limits
  · exact closes.limits

theorem told_next {issue : String × String} (member : issue ∈ ledger.issued) (closed : issue.2 ∈ ledger.closed) :
    told later.durable issue.1 = told ledger.durable issue.1 := by
  obtain ⟨after, calls, operated, rfl⟩ := next_eq taken
  rw [record, told_append]
  obtain ⟨issues, _⟩ | ⟨none, close, closes⟩ := operate_cases sound.tokensDistinct sound.callsDistinct fresh operated
  · rw [issues.told, Nat.add_zero]
  · obtain ⟨state, here, same⟩ := sound.mem_issued.mp member
    obtain ⟨other, there, isClosed⟩ := (sound.closed issue.2).mp closed
    cases sound.same_state here there
    have silent := sound.told_of_closed closes here (.inl isClosed)
    rw [← same, silent, Nat.add_zero]

theorem Lost.next (lost : ledger.Lost) : later.Lost := by
  obtain ⟨issue, member, closed, silent⟩ := lost
  have same := told_next sound fresh taken member closed
  obtain ⟨after, calls, _, rfl⟩ := next_eq taken
  exact ⟨issue, mem_append_left _ member, mem_append_left _ closed, same.trans silent⟩

theorem Exact.next (exactly : ledger.Exact) :
    (operation.Completes → later.Exact) ∧ (¬ operation.Completes → later.Lost) := by
  -- an operation that completes keeps the record exact; one that does not loses a call
  obtain ⟨after, calls, operated, rfl⟩ := next_eq taken
  obtain ⟨issues, completes⟩ | ⟨none, close, closes⟩ :=
    operate_cases sound.tokensDistinct sound.callsDistinct fresh operated
  · refine ⟨fun _ issue member closed => ?_, fun incomplete => absurd completes incomplete⟩
    have same := sound.leftOpen_of_issues issues
    simp only [record, same, append_nil] at member closed
    rcases mem_append.mp member with old | new
    · rw [told_next sound fresh taken old closed]
      exact exactly issue old closed
    · -- the new token is not among the closed ones
      obtain ⟨token, claims, _, unused, _, issued⟩ := issues.token
      rw [issued, mem_singleton] at new
      obtain ⟨state, there, _⟩ := (sound.closed issue.2).mp closed
      exact absurd (mem_map.mpr ⟨_, there, by rw [new]⟩) unused
  · have before {entry : String × TokenState} (member : entry ∈ ledger.lifecycle.tokens) (wasOpen : entry.2.isOpen) :
        told ledger.durable entry.2.callId = 0 := by
      have none := sound.toldOnce entry member
      rw [if_pos wasOpen] at none
      exact Nat.le_zero.mp none
    refine ⟨fun complete issue member closed => ?_, fun incomplete => ?_⟩
    · simp only [record, none, append_nil] at member closed
      rcases mem_append.mp closed with old | new
      · rw [told_next sound fresh taken member old]
        exact exactly issue member old
      · obtain ⟨state, here, wasOpen, notOpen⟩ := (sound.mem_leftOpen_of_closes closes issue.2).mp new
        obtain ⟨other, there, same⟩ := sound.mem_issued.mp member
        cases sound.same_state here there
        rw [record, told_append, ← same, before here wasOpen, closes.all complete _ ⟨_, here, wasOpen, notOpen, rfl⟩]
    · obtain ⟨callId, ⟨entry, member, wasOpen, notOpen, rfl⟩, silent⟩ := closes.missed incomplete
      refine ⟨(entry.2.callId, entry.1), ?_, ?_, ?_⟩
      · exact mem_append_left _ (sound.mem_issued.mpr ⟨entry.2, member, rfl⟩)
      · exact mem_append_right _
          ((sound.mem_leftOpen_of_closes closes entry.1).mpr ⟨entry.2, member, wasOpen, notOpen⟩)
      · rw [record, told_append, before member wasOpen, silent]

end Next

end Ledger

theorem one_effect_per_call {Gate : Type} (gate : ApprovalGate Gate) {config : LifecycleConfig} {state : Gate}
    {generation : Nat} {lifecycle : CapabilityLifecycle Gate} (built : config.build state generation = .ok lifecycle)
    {operations : List Operation} {ledger : Ledger Gate}
    (fresh : Along (Ledger.next gate) (fun ledger operation => operation.DrawsFresh ledger.lifecycle)
      (Ledger.start lifecycle) operations)
    (reached : run (Ledger.next gate) (Ledger.start lifecycle) operations = some ledger) :
    (ledger.issued.map Prod.fst).Nodup ∧ (ledger.issued.map Prod.snd).Nodup ∧
      ledger.issued.length ≤ config.limits.maxToolCalls ∧ ledger.closed.Nodup ∧
      (∀ issue ∈ ledger.issued, told ledger.durable issue.1 ≤ if issue.2 ∈ ledger.closed then 1 else 0) ∧
      (ledger.Exact ↔ Along (Ledger.next gate) (fun _ operation => operation.Completes)
        (Ledger.start lifecycle) operations) := by
  -- the durable layer hears of every closed token unless a recovery gives up before its last interrupt
  obtain ⟨sound, same⟩ := Ledger.start_sound built
  let invariant (ledger : Ledger Gate) : Prop := ledger.Sound ∧ ledger.lifecycle.config = config
  have kept : invariant ledger := run_invariant
    (fun before operation after (holds : invariant before) fresh taken =>
      ⟨holds.1.next fresh taken, (Ledger.next_config holds.1 fresh taken).trans holds.2⟩)
    ⟨sound, same⟩ fresh reached
  obtain ⟨final, configured⟩ := kept
  have initially : (Ledger.start lifecycle).Exact := fun issue member => absurd member (by simp [Ledger.start])
  -- nothing lost is ever found again
  have exactly : ledger.Exact ↔ Along (Ledger.next gate) (fun _ operation => operation.Completes)
      (Ledger.start lifecycle) operations :=
    run_good_iff_along (fun _ _ _ sound fresh taken => Ledger.Sound.next sound fresh taken)
      (fun _ _ _ sound fresh taken exactly => (Ledger.Exact.next sound fresh taken exactly).1)
      (fun _ _ _ sound fresh taken exactly => (Ledger.Exact.next sound fresh taken exactly).2)
      (fun _ _ _ sound fresh taken lost => Ledger.Lost.next sound fresh taken lost)
      (fun _ lost => lost.not_exact) sound initially fresh reached
  refine ⟨?_, ?_, ?_, final.closedOnce, ?_, exactly⟩
  · rw [final.issued, List.map_map]
    exact final.callsDistinct
  · rw [final.issued, List.map_map]
    exact final.tokensDistinct
  · rw [final.issued, List.length_map, ← final.counted, ← configured]
    exact final.room
  · intro issue member
    obtain ⟨state, here, same⟩ := final.mem_issued.mp member
    have once : told ledger.durable state.callId ≤ if state.isOpen then 0 else 1 := final.toldOnce _ here
    rw [← same]
    by_cases closed : issue.2 ∈ ledger.closed
    · rw [if_pos closed]
      split at once <;> omega
    · have isOpen : state.isOpen := by
        by_contra shut
        exact closed ((final.closed issue.2).mpr ⟨state, here, by simpa using shut⟩)
      simpa [isOpen, closed] using once

section Runs

def runOwner : CapabilityOwner := ⟨"default", "session", "run"⟩

def runConfig : LifecycleConfig where
  owner := runOwner
  registryIdentity := "registry"
  limits := ⟨2, 4096, 256⟩
  deadlineMs := 100

def readCall (callId : String) : PrepareMetadata := ⟨"run", callId, "file.read", "digest", "registry", .read, "read"⟩

def prepareRead (callId token : String) : Operation :=
  .prepare runOwner (readCall callId) ⟨⟨.ok (), .ok (), .ok none⟩, 1, false, 1, 1, .ok (), token⟩

def commitDone (token : String) : Operation :=
  .commit runOwner token (.obj [("content", .str "done"), ("ok", .bool true)]) ⟨2, false, .ok .null⟩

def finishedCalls : List Operation :=
  [prepareRead "call-a" "token-a", prepareRead "call-b" "token-b", commitDone "token-a",
    .recover ["call-b"] fun _ => .ok ()]

def abandonedCalls : List Operation :=
  [prepareRead "call-a" "token-a", prepareRead "call-b" "token-b",
    .recover ["call-a", "call-b"] fun _ => .error (.resultCommitFailed "storage is busy")]

def runStart : Ledger Unit :=
  Ledger.start { config := runConfig, generation := 0, callCount := 0, tokens := [], gate := () }

def seen (operations : List Operation) : Option (List (String × String) × List String × List Nat) :=
  (run (Ledger.next allowAllApproval) runStart operations).map fun ledger =>
    (ledger.issued, ledger.closed, ledger.issued.map fun issue => told ledger.durable issue.1)

instance decidableDrawsFresh {Gate : Type} (lifecycle : CapabilityLifecycle Gate) :
    ∀ operation : Operation, Decidable (operation.DrawsFresh lifecycle)
  | .prepare _ _ view => inferInstanceAs (Decidable (view.token ∉ lifecycle.tokens.map Prod.fst))
  | .attest _ _ _ => isTrue trivial
  | .commit _ _ _ _ => isTrue trivial
  | .dropLease _ _ _ => isTrue trivial
  | .recover _ _ => isTrue trivial

theorem one_effect_per_call_finished :
    ∃ ledger, run (Ledger.next allowAllApproval) runStart finishedCalls = some ledger ∧
      ledger.issued = [("call-a", "token-a"), ("call-b", "token-b")] ∧
      ledger.closed = ["token-a", "token-b"] ∧ ledger.Exact := by
  have observed : seen finishedCalls =
      some ([("call-a", "token-a"), ("call-b", "token-b")], ["token-a", "token-b"], [1, 1]) := by decide +kernel
  obtain ⟨ledger, reached, same⟩ := Option.map_eq_some_iff.mp observed
  have built : runConfig.build () 0 = .ok runStart.lifecycle := rfl
  have effects := one_effect_per_call allowAllApproval built (by decide +kernel) reached
  obtain ⟨_, _, _, _, _, exactly⟩ := effects
  refine ⟨ledger, reached, congrArg Prod.fst same, congrArg (fun seen => seen.2.1) same, exactly.mpr ?_⟩
  exact ⟨trivial, fun _ _ => ⟨trivial, fun _ _ =>
    ⟨trivial, fun _ _ => ⟨by simp [Operation.Completes], fun _ _ => trivial⟩⟩⟩⟩

theorem abandoned_call_untold :
    ∃ ledger, run (Ledger.next allowAllApproval) runStart abandonedCalls = some ledger ∧
      ("call-b", "token-b") ∈ ledger.issued ∧ "token-b" ∈ ledger.closed ∧ told ledger.durable "call-b" = 0 := by
  have observed : seen abandonedCalls =
      some ([("call-a", "token-a"), ("call-b", "token-b")], ["token-a", "token-b"], [1, 0]) := by decide +kernel
  obtain ⟨ledger, reached, same⟩ := Option.map_eq_some_iff.mp observed
  simp only [Prod.mk.injEq] at same
  obtain ⟨issued, closed, counts⟩ := same
  rw [issued] at counts
  simp only [List.map_cons, List.cons.injEq] at counts
  exact ⟨ledger, reached, by simp [issued], by simp [closed], counts.2.1⟩

end Runs

end RustScriptAgent.Capabilities
