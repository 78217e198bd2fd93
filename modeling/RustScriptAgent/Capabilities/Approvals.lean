import RustScriptAgent.Capabilities.Tokens

namespace RustScriptAgent.Capabilities

open List Transitions

variable {fact : ApprovalAttestation} {owner : CapabilityOwner} {operation : Operation}

structure Step where
  lifecycle : CapabilityLifecycle GuardianApprovalState
  operation : Operation

abbrev History := List Step

namespace Step

variable (gate : ApprovalGate GuardianApprovalState) (step : Step)

def Accepts (fact : ApprovalAttestation) : Prop :=
  ∃ view, step.operation = .attest fact.owner fact.metadata view ∧
    (step.lifecycle.attestApproval gate fact.owner fact.metadata view).result = .ok () ∧
    fact.generation = step.lifecycle.generation ∧ fact.expiresAtMs = step.lifecycle.config.deadlineMs

def Consumes (callId : String) : Prop :=
  ∃ owner metadata view, step.operation = .prepare owner metadata view ∧ metadata.callId = callId ∧
    step.lifecycle.prepareChecks owner metadata view = .ok none

def Issued (metadata : PrepareMetadata) (view : PrepareView) (claims : TokenClaims) : Prop :=
  ∃ owner token deadline, step.operation = .prepare owner metadata view ∧
    (step.lifecycle.prepare gate owner metadata view).result = .ok (.execute token deadline) ∧
    (step.lifecycle.prepare gate owner metadata view).lifecycle.state token = some (.opened claims)

end Step

structure Authorises (gate : ApprovalGate GuardianApprovalState) (history : History) (first second : Nat)
    (metadata : PrepareMetadata) (view : PrepareView) (claims : TokenClaims) : Prop where
  issued : ∃ step, history[second]? = some step ∧ step.Issued gate metadata view claims
  earlier : first < second
  /-- The very metadata, in the same generation, by an owner of the same run, and not expired. -/
  accepted : ∃ step fact, history[first]? = some step ∧ step.Accepts gate fact ∧ fact.metadata = metadata ∧
    fact.owner.run = metadata.runId ∧ fact.generation = claims.generation ∧
    view.authorizeNow < fact.expiresAtMs ∧ view.gateClock < fact.expiresAtMs
  unconsumed : ∀ between step, first < between → between < second → history[between]? = some step →
    ¬ step.Consumes metadata.callId
  exactly : claims.callId = metadata.callId ∧ claims.toolName = metadata.toolName ∧
    claims.argumentDigest = metadata.argumentDigest ∧ claims.registryIdentity = metadata.registryIdentity ∧
    claims.riskCeiling = metadata.riskClass

structure Audit where
  lifecycle : CapabilityLifecycle GuardianApprovalState
  history : History

namespace Audit

def start (lifecycle : CapabilityLifecycle GuardianApprovalState) : Audit := ⟨lifecycle, []⟩

def next (gate : ApprovalGate GuardianApprovalState) (audit : Audit) (operation : Operation) : Option Audit :=
  (audit.lifecycle.operate gate operation).map fun (later, _) =>
    ⟨later, audit.history ++ [⟨audit.lifecycle, operation⟩]⟩

end Audit

namespace GuardianApprovalState

variable {pending : GuardianApprovalState} {metadata : PrepareMetadata} {generation nowMs clock : Nat}

theorem mem_remove {callId : String} :
    fact ∈ pending.remove callId ↔ fact ∈ pending ∧ fact.metadata.callId ≠ callId := by
  simp [remove]

theorem authorizeAt_pending (pending : GuardianApprovalState) (metadata : PrepareMetadata)
    (generation nowMs clock : Nat) :
    (pending.authorizeAt metadata generation nowMs clock).1 = pending.remove metadata.callId := by
  unfold authorizeAt
  cases found : pending.forCall metadata.callId with
  | some fact => rfl
  | none =>
    refine (filter_eq_self.mpr fun fact member => ?_).symm
    simpa using find?_eq_none.mp found fact member

theorem authorizeAt_ok {ceiling : CapabilityRisk}
    (ok : (pending.authorizeAt metadata generation nowMs clock).2 = .ok ceiling) :
    ceiling = metadata.riskClass ∧ (metadata.riskClass = .read ∨
      ∃ fact ∈ pending, fact.metadata = metadata ∧ fact.owner.run = metadata.runId ∧ fact.generation = generation ∧
        nowMs < fact.expiresAtMs ∧ clock < fact.expiresAtMs) := by
  unfold authorizeAt at ok
  cases found : pending.forCall metadata.callId with
  | none =>
    simp only [found] at ok
    split at ok
    next read =>
      cases ok
      exact ⟨read.symm, .inl read⟩
    next => cases ok
  | some fact =>
    have member : fact ∈ pending := mem_of_find?_eq_some found
    simp only [found] at ok
    split_ifs at ok with other foreign stale expired
    cases ok
    simp only [ne_eq, not_not, not_or, Nat.not_le] at other foreign stale expired
    exact ⟨rfl, .inr ⟨fact, member, other, foreign, stale, expired⟩⟩

theorem mem_attest {maxPending : Nat} {deadlineMs lockedClock : Nat}
    (member : fact ∈ (attest maxPending pending owner metadata generation nowMs deadlineMs clock lockedClock).1) :
    fact ∈ pending ∨
      (attest maxPending pending owner metadata generation nowMs deadlineMs clock lockedClock).2 = .ok () ∧
        fact = ⟨owner, metadata, generation, deadlineMs⟩ := by
  have live {fact : ApprovalAttestation}
      (kept : fact ∈ pending.filter fun fact => decide (lockedClock < fact.expiresAtMs)) : fact ∈ pending :=
    (mem_filter.mp kept).1
  unfold attest at member ⊢
  dsimp only at member ⊢
  split_ifs at member ⊢
  · exact .inl member
  · exact .inl member
  · exact .inl (live member)
  · exact .inl (live member)
  · rcases mem_append.mp member with old | new
    · exact .inl (live old)
    · exact .inr ⟨rfl, mem_singleton.mp new⟩

end GuardianApprovalState

namespace CapabilityLifecycle

variable {Gate : Type} {gate : ApprovalGate Gate} {lifecycle : CapabilityLifecycle Gate}

@[simp] theorem insertToken_gate (token : String) (state : TokenState) :
    (lifecycle.insertToken token state).gate = lifecycle.gate := by
  unfold insertToken
  split <;> rfl

theorem commit_gate (owner : CapabilityOwner) (token : String) (result : Json) (view : CommitView) :
    (lifecycle.commit owner token result view).lifecycle.gate = lifecycle.gate := by
  unfold commit
  repeat' split
  all_goals rfl

theorem dropLease_gate (token : String) (closed : Bool) (answer : Except LifecycleError Unit) :
    (lifecycle.dropLease token closed answer).lifecycle.gate = lifecycle.gate := by
  unfold dropLease interruptToken
  repeat' split
  all_goals rfl

theorem recoverOpenTokens_gate (order : List String) (answers : String → Except LifecycleError Unit) :
    (lifecycle.recoverOpenTokens order answers).lifecycle.gate = lifecycle.gate := by
  unfold recoverOpenTokens
  dsimp only
  split <;> rfl

theorem authorizeAndStart_gate (metadata : PrepareMetadata) (view : PrepareView) :
    (lifecycle.authorizeAndStart gate metadata view).lifecycle.gate =
      (gate.authorizeAt lifecycle.gate metadata lifecycle.generation view.authorizeNow view.gateClock).1 := by
  unfold authorizeAndStart
  dsimp only
  split
  · rfl
  · split
    · rfl
    · simp only [insertToken_gate]

theorem insertToken_state (token : String) (state : TokenState) :
    (lifecycle.insertToken token state).state token = some state := by
  unfold insertToken
  split
  next present =>
    have found {entries : List (String × TokenState)} (listed : entries.any (fun entry => entry.1 == token)) :
        (entries.map fun entry => if entry.1 = token then (token, state) else entry).lookup token = some state := by
      induction entries with
      | nil => cases listed
      | cons entry rest ih =>
        obtain ⟨name, held⟩ := entry
        by_cases same : name = token
        · simp [same]
        · have other : (token == name) = false := beq_false_of_ne (Ne.symm same)
          simp only [any_cons, beq_false_of_ne same, Bool.false_or] at listed
          rw [map_cons, if_neg same, lookup_cons, other]
          exact ih listed
    exact found present
  next absent =>
    have before : lifecycle.tokens.lookup token = none := by
      refine lookup_eq_none_iff.mpr fun entry member => ?_
      simp only [Bool.not_eq_true, any_eq_false, beq_iff_eq] at absent
      simpa using Ne.symm (absent entry member)
    simp [CapabilityLifecycle.state, lookup_append, before]

theorem prepare_execute {metadata : PrepareMetadata} {view : PrepareView} {token : String}
    {deadline : Nat} {claims : TokenClaims}
    (issued : (lifecycle.prepare gate owner metadata view).result = .ok (.execute token deadline))
    (opened : (lifecycle.prepare gate owner metadata view).lifecycle.state token = some (.opened claims)) :
    lifecycle.prepareChecks owner metadata view = .ok none ∧
      ∃ ceiling, claims = lifecycle.claims metadata ceiling ∧
        (gate.authorizeAt lifecycle.gate metadata lifecycle.generation view.authorizeNow view.gateClock).2 =
          .ok ceiling := by
  unfold prepare at issued opened
  cases checked : lifecycle.prepareChecks owner metadata view with
  | error error => simp [checked, nothing] at issued
  | ok replay =>
    cases replay with
    | some result => simp [checked, nothing] at issued
    | none =>
      simp only [checked, authorizeAndStart] at issued opened
      cases authorized :
          (gate.authorizeAt lifecycle.gate metadata lifecycle.generation view.authorizeNow view.gateClock).2 with
      | error error => simp [authorized, nothing] at issued
      | ok ceiling =>
        simp only [authorized] at issued opened
        cases started : view.started with
        | error error => simp [started] at issued
        | ok done =>
          simp only [started, Except.ok.injEq, PrepareOutcome.execute.injEq] at issued opened
          rw [← issued.1] at opened
          have same := (insertToken_state _ _).symm.trans opened
          cases same
          exact ⟨rfl, ceiling, rfl, rfl⟩

end CapabilityLifecycle

namespace Audit

open CapabilityLifecycle GuardianApprovalState

variable {maxPending : Nat} {audit later : Audit}

def TracedIn (gate : ApprovalGate GuardianApprovalState) (history : History) (fact : ApprovalAttestation) : Prop :=
  fact.owner.run = fact.metadata.runId ∧ ∃ (first : Nat) (step : Step), history[first]? = some step ∧
    step.Accepts gate fact ∧
    ∀ (between : Nat) (other : Step), first < between → history[between]? = some other →
      ¬ other.Consumes fact.metadata.callId

variable {gate : ApprovalGate GuardianApprovalState}

theorem TracedIn.keep {history : History}
    (traced : TracedIn gate history fact) {last : Step} (spared : ¬ last.Consumes fact.metadata.callId) :
    TracedIn gate (history ++ [last]) fact := by
  obtain ⟨own, first, step, found, accepts, unconsumed⟩ := traced
  have inside : first < history.length := (List.getElem?_eq_some_iff.mp found).1
  refine ⟨own, first, step, by rw [getElem?_append_left inside, found], accepts, ?_⟩
  intro between other after listed
  by_cases old : between < history.length
  · rw [getElem?_append_left old] at listed
    exact unconsumed between other after listed
  · rw [getElem?_append_right (Nat.le_of_not_lt old)] at listed
    obtain ⟨_, rfl⟩ := List.getElem?_eq_some_iff.mp listed
    simpa using spared

theorem TracedIn.accepted {history : History}
    {last : Step} (own : fact.owner.run = fact.metadata.runId) (accepts : last.Accepts gate fact) :
    TracedIn gate (history ++ [last]) fact := by
  refine ⟨own, history.length, last, getElem?_concat_length, accepts, ?_⟩
  intro between step after listed
  have inside := (List.getElem?_eq_some_iff.mp listed).1
  simp only [length_append, length_singleton] at inside
  omega

def Traced (gate : ApprovalGate GuardianApprovalState) (audit : Audit) : Prop :=
  ∀ fact ∈ audit.lifecycle.gate, TracedIn gate audit.history fact

variable {lifecycle : CapabilityLifecycle GuardianApprovalState}

variable {metadata : PrepareMetadata}

theorem validateApprovalFacts_run {view : AttestView}
    (passed : lifecycle.validateApprovalFacts owner metadata view = .ok ()) : owner.run = metadata.runId := by
  unfold validateApprovalFacts at passed
  obtain ⟨own, _⟩ := Checks.passed_if passed
  rw [not_or, not_not, not_not] at own
  rw [own.1, own.2]

theorem mem_attestApproval {view : AttestView}
    (pending : fact ∈
      (lifecycle.attestApproval (guardianApprovalGate maxPending) owner metadata view).lifecycle.gate) :
    fact ∈ lifecycle.gate ∨ fact.owner.run = fact.metadata.runId ∧
      Step.Accepts (guardianApprovalGate maxPending) ⟨lifecycle, .attest owner metadata view⟩ fact := by
  cases validated : lifecycle.validateApprovalFacts owner metadata view with
  | error error =>
    simp only [attestApproval, validated, nothing] at pending
    exact .inl pending
  | ok passed =>
    cases replay : view.replay with
    | error error =>
      simp only [attestApproval, validated, replay, nothing] at pending
      exact .inl pending
    | ok completed =>
      cases completed with
      | some result =>
        simp only [attestApproval, validated, replay, nothing] at pending
        exact .inl pending
      | none =>
        by_cases unresolved : lifecycle.unresolved metadata.callId
        · simp only [attestApproval, validated, replay, unresolved, if_true, nothing] at pending
          exact .inl pending
        · simp only [attestApproval, validated, replay, unresolved] at pending
          rcases mem_attest pending with old | ⟨accepted, rfl⟩
          · exact .inl old
          · refine .inr ⟨validateApprovalFacts_run validated, view, rfl, ?_, rfl, rfl⟩
            simp only [attestApproval, validated, replay, unresolved]
            exact accepted

theorem mem_prepare {view : PrepareView}
    (pending : fact ∈ (lifecycle.prepare (guardianApprovalGate maxPending) owner metadata view).lifecycle.gate) :
    fact ∈ lifecycle.gate ∧
      (lifecycle.prepareChecks owner metadata view = .ok none → fact.metadata.callId ≠ metadata.callId) := by
  unfold prepare at pending
  cases checked : lifecycle.prepareChecks owner metadata view with
  | error error =>
    rw [checked] at pending
    exact ⟨pending, fun reached => nomatch reached⟩
  | ok replay =>
    rw [checked] at pending
    cases replay with
    | some result => exact ⟨pending, fun reached => nomatch reached⟩
    | none =>
      simp only [authorizeAndStart_gate, guardianApprovalGate, authorizeAt_pending] at pending
      obtain ⟨before, other⟩ := mem_remove.mp pending
      exact ⟨before, fun _ => other⟩

theorem Traced.next (traced : audit.Traced (guardianApprovalGate maxPending))
    (taken : audit.next (guardianApprovalGate maxPending) operation = some later) :
    later.Traced (guardianApprovalGate maxPending) := by
  obtain ⟨⟨after, calls⟩, operated, rfl⟩ := Option.map_eq_some_iff.mp taken
  intro fact pending
  -- only a `prepare` that reaches the gate consumes anything
  have spared (other : ∀ owner metadata view, operation ≠ .prepare owner metadata view) (callId : String) :
      ¬ Step.Consumes ⟨audit.lifecycle, operation⟩ callId := by
    rintro ⟨owner, metadata, view, same, _⟩
    exact other owner metadata view same
  cases operation with
  | attest owner metadata view =>
    cases operated
    rcases mem_attestApproval pending with old | ⟨own, accepts⟩
    · exact (traced fact old).keep (spared (fun _ _ _ => Operation.noConfusion) _)
    · exact .accepted own accepts
  | prepare owner metadata view =>
    cases operated
    obtain ⟨before, other⟩ := mem_prepare pending
    refine (traced fact before).keep ?_
    rintro ⟨_, _, _, same, callId, reached⟩
    cases same
    exact other reached callId.symm
  | commit owner token result view =>
    cases operated
    rw [commit_gate] at pending
    exact (traced fact pending).keep (spared (fun _ _ _ => Operation.noConfusion) _)
  | dropLease token closed answer =>
    cases operated
    rw [dropLease_gate] at pending
    exact (traced fact pending).keep (spared (fun _ _ _ => Operation.noConfusion) _)
  | recover order answers =>
    simp only [operate] at operated
    split at operated
    next =>
      cases operated
      rw [recoverOpenTokens_gate] at pending
      exact (traced fact pending).keep (spared (fun _ _ _ => Operation.noConfusion) _)
    next => cases operated

def Covered (gate : ApprovalGate GuardianApprovalState) (history : History) : Prop :=
  ∀ (second : Nat) (step : Step) (metadata : PrepareMetadata) (view : PrepareView) (claims : TokenClaims),
    history[second]? = some step → step.Issued gate metadata view claims → claims.riskCeiling ≠ .read →
    ∃ first, Authorises gate history first second metadata view claims

theorem extend_authorises {history : History} {first second : Nat}
    {metadata : PrepareMetadata} {view : PrepareView} {claims : TokenClaims}
    (authorises : Authorises gate history first second metadata view claims) (last : Step) :
    Authorises gate (history ++ [last]) first second metadata view claims := by
  obtain ⟨step, issued, issues⟩ := authorises.issued
  have inside : second < history.length := (List.getElem?_eq_some_iff.mp issued).1
  have same {place : Nat} (before : place ≤ second) : (history ++ [last])[place]? = history[place]? :=
    getElem?_append_left (Nat.lt_of_le_of_lt before inside)
  refine ⟨⟨step, (same (Nat.le_refl _)).trans issued, issues⟩, authorises.earlier, ?_, ?_, authorises.exactly⟩
  · rw [same (Nat.le_of_lt authorises.earlier)]
    exact authorises.accepted
  · intro between other after before listed
    rw [same (Nat.le_of_lt before)] at listed
    exact authorises.unconsumed between other after before listed

theorem issued_authorised (traced : audit.Traced (guardianApprovalGate maxPending))
    {metadata : PrepareMetadata} {view : PrepareView} {claims : TokenClaims}
    (issued : Step.Issued (guardianApprovalGate maxPending) ⟨audit.lifecycle, operation⟩ metadata view claims)
    (beyond : claims.riskCeiling ≠ .read) :
    ∃ first, Authorises (guardianApprovalGate maxPending) (audit.history ++ [⟨audit.lifecycle, operation⟩]) first
      audit.history.length metadata view claims := by
  obtain ⟨owner, token, deadline, same, handed, opened⟩ := id issued
  obtain ⟨_, ceiling, rfl, authorized⟩ := prepare_execute handed opened
  obtain ⟨rfl, read | ⟨fact, pending, rfl, run, generation, fresh, clock⟩⟩ := authorizeAt_ok authorized
  · exact absurd read beyond
  obtain ⟨_, first, step, found, accepts, unconsumed⟩ := traced fact pending
  have inside : first < audit.history.length := (List.getElem?_eq_some_iff.mp found).1
  refine ⟨first, ⟨_, getElem?_concat_length, issued⟩, inside, ?_, ?_, rfl, rfl, rfl, rfl, rfl⟩
  · rw [getElem?_append_left inside]
    exact ⟨step, fact, found, accepts, rfl, run, generation, fresh, clock⟩
  · intro between other after before listed
    rw [getElem?_append_left before] at listed
    exact unconsumed between other after listed

theorem Covered.next (traced : audit.Traced (guardianApprovalGate maxPending))
    (covered : Covered (guardianApprovalGate maxPending) audit.history)
    (taken : audit.next (guardianApprovalGate maxPending) operation = some later) :
    Covered (guardianApprovalGate maxPending) later.history := by
  obtain ⟨⟨after, calls⟩, _, rfl⟩ := Option.map_eq_some_iff.mp taken
  intro second step metadata view claims listed issued beyond
  have inside := (List.getElem?_eq_some_iff.mp listed).1
  simp only [length_append, length_singleton] at inside
  by_cases old : second < audit.history.length
  · rw [getElem?_append_left old] at listed
    obtain ⟨first, authorises⟩ := covered second step metadata view claims listed issued beyond
    exact ⟨first, extend_authorises authorises _⟩
  · obtain rfl : second = audit.history.length := by omega
    rw [getElem?_concat_length] at listed
    cases listed
    exact issued_authorised traced issued beyond

end Audit

namespace Authorises

variable {gate : ApprovalGate GuardianApprovalState} {history : History} {first second other : Nat}
  {metadata metadata' : PrepareMetadata} {view view' : PrepareView} {claims claims' : TokenClaims}

section

variable (one : Authorises gate history first second metadata view claims)
  (two : Authorises gate history first other metadata' view' claims')
include one two

theorem same_metadata : metadata = metadata' := by
  obtain ⟨step, fact, found, ⟨_, attested, _⟩, rfl, _⟩ := one.accepted
  obtain ⟨step', fact', found', ⟨_, attested', _⟩, rfl, _⟩ := two.accepted
  obtain rfl : step = step' := Option.some.inj (found.symm.trans found')
  rw [attested] at attested'
  obtain ⟨_, same, _⟩ := Operation.attest.inj attested'
  exact same

theorem not_before : ¬ second < other := by
  intro before
  obtain ⟨step, found, owner, token, deadline, prepared, handed, opened⟩ := one.issued
  refine two.unconsumed second step one.earlier before found ⟨owner, metadata, view, prepared, ?_, ?_⟩
  · rw [one.same_metadata two]
  · exact (CapabilityLifecycle.prepare_execute handed opened).1

end

end Authorises

theorem attestation_single_use (maxPending : Nat) {config : LifecycleConfig} {generation : Nat}
    {lifecycle : CapabilityLifecycle GuardianApprovalState} (built : config.build [] generation = .ok lifecycle)
    {operations : List Operation} {audit : Audit}
    (reached : run (Audit.next (guardianApprovalGate maxPending)) (Audit.start lifecycle) operations =
      some audit) :
    (∀ (second : Nat) (step : Step) (metadata : PrepareMetadata) (view : PrepareView) (claims : TokenClaims),
        audit.history[second]? = some step → step.Issued (guardianApprovalGate maxPending) metadata view claims →
        claims.riskCeiling ≠ .read →
        ∃ first, Authorises (guardianApprovalGate maxPending) audit.history first second metadata view claims) ∧
      ∀ first second other metadata view claims metadata' view' claims',
        Authorises (guardianApprovalGate maxPending) audit.history first second metadata view claims →
        Authorises (guardianApprovalGate maxPending) audit.history first other metadata' view' claims' →
        second = other ∧ metadata = metadata' := by
  -- a token beyond reading is covered by an attestation accepted before it, and none covers two tokens
  let invariant (audit : Audit) : Prop := audit.Traced (guardianApprovalGate maxPending) ∧
    Audit.Covered (guardianApprovalGate maxPending) audit.history
  have initially : invariant (Audit.start lifecycle) := by
    have empty : lifecycle.gate = [] := by
      unfold LifecycleConfig.build at built
      split at built <;> cases built
      rfl
    exact ⟨fun fact pending => absurd pending (by simp [Audit.start, empty]),
      fun second step metadata view claims listed => absurd listed (by simp [Audit.start])⟩
  have kept : invariant audit := run_invariant
    (fun before operation after (holds : invariant before) _ taken =>
      ⟨holds.1.next taken, Audit.Covered.next holds.1 holds.2 taken⟩)
    initially (along_true _ _) reached
  refine ⟨kept.2, fun first second other metadata view claims metadata' view' claims' one two => ?_⟩
  exact ⟨Nat.le_antisymm (Nat.le_of_not_lt (two.not_before one)) (Nat.le_of_not_lt (one.not_before two)),
    one.same_metadata two⟩

section Runs

def writeCall : PrepareMetadata := ⟨"run", "call-a", "file.write", "digest", "registry", .write, "write"⟩

def quietDurable : DurableView := ⟨.ok (), .ok (), .ok none⟩

def prepareWriteView : PrepareView := ⟨quietDurable, 2, false, 2, 2, .ok (), "token-a"⟩

def guardedStart : CapabilityLifecycle GuardianApprovalState :=
  { config := runConfig, generation := 0, callCount := 0, tokens := [], gate := [] }

def attestedWrite : List Operation :=
  [.attest runOwner writeCall ⟨quietDurable, 1, false, 1, 1, 1⟩, .prepare runOwner writeCall prepareWriteView]

theorem attestation_single_use_write :
    ∃ audit, run (Audit.next (guardianApprovalGate 4)) (Audit.start guardedStart) attestedWrite =
        some audit ∧
      ∃ first, Authorises (guardianApprovalGate 4) audit.history first 1 writeCall prepareWriteView
        (guardedStart.claims writeCall .write) := by
  have built : runConfig.build [] 0 = .ok guardedStart := rfl
  have covered := (attestation_single_use 4 built (show run _ _ attestedWrite = some _ from rfl)).1
  refine ⟨_, rfl, covered 1 _ writeCall prepareWriteView _ rfl ?_ (by decide)⟩
  exact ⟨runOwner, "token-a", 100, rfl, by decide +kernel, by decide +kernel⟩

end Runs

end RustScriptAgent.Capabilities
