import Mathlib
import RustScriptAgent.Capabilities.Filesystem
import RustScriptAgent.Shared.Transition

namespace RustScriptAgent.Capabilities

open Checks Transitions Option Function

inductive Entry
  | absent
  | file (content : ByteArray)
  | other (type : ConfinedFileType)
deriving DecidableEq

def Entry.type : Entry → Option ConfinedFileType
  | absent => none
  | file _ => some .file
  | other type => some type

/-- One `write_atomic`: the capability object it goes through, what `authorize` answers, and the new content. -/
structure WriteCall where
  capability : Nat
  authorize : Except AuthorizeError Unit
  maxWriteBytes : Nat
  bytes : ByteArray

namespace WriteCall

def enter (call : WriteCall) : Except CapabilityError Unit := do
  call.authorize.mapError AuthorizeError.toCapabilityError
  refuseIf (call.maxWriteBytes < call.bytes.size) ⟨"budget_exceeded", "requested write exceeds the configured bound"⟩

end WriteCall

def checkMetadata (expectedHash : String) : Except ConfinedFsError ConfinedFileType → Except CapabilityError Bool
  | .ok type => do
    refuseIf (type = .symlink) ⟨"path_denied", "symlinks are not followed"⟩
    refuseIf expectedHash.isEmpty ⟨"cas_mismatch", "destination already exists"⟩
    refuseIf (type ≠ .file) ⟨"wrong_type", "destination is not a regular file"⟩
    return true
  | .error error =>
    if error.kind = .notFound then do
      refuseIf (expectedHash.isEmpty = false) ⟨"cas_mismatch", "content hash does not match"⟩
      return false
    else .error (mapFsError error)

section Hash

variable (sha256Hex : ByteArray → String)

def contentHash (bytes : ByteArray) : String := "sha256:" ++ sha256Hex bytes

def checkContent (expectedHash : String) : Except ConfinedFsError ByteArray → Except CapabilityError Unit
  | .error error => .error (mapFsError error)
  | .ok current =>
    refuseIf (contentHash sha256Hex current ≠ expectedHash) ⟨"cas_mismatch", "content hash does not match"⟩

def Entry.Fits (expectedHash : String) : Entry → Prop
  | absent => expectedHash = ""
  | file content => contentHash sha256Hex content = expectedHash
  | other _ => False

-- Taking the lock, asking for the metadata, reading and replacing are steps of their own; those of different calls
-- come in any order.
inductive Phase
  | started
  | entered
  | locked
  | found
  | checked
  | returned (result : Except CapabilityError FsWrite)

def Phase.holdsLock : Phase → Bool
  | locked | found | checked => true
  | _ => false

inductive Action
  | enter
  | acquire
  | stat (answer : Except ConfinedFsError ConfinedFileType)
  | read (answer : Except ConfinedFsError ByteArray)
  | replace (answer : ConfinedAnswer) (placed : Bool)

def Action.truthful (entry : Entry) : Action → Bool
  | enter | acquire | read (.error _) => true
  | stat (.ok type) => entry.type = some type
  | stat (.error error) => error.kind ≠ .notFound ∨ entry = .absent
  | read (.ok content) => entry = .file content
  | replace answer placed =>
    match answer.state with
    | .notPublished => !placed
    | .published _ => placed
    | .indeterminate => true

end Hash

structure Race (Call : Type) where
  sha256Hex : ByteArray → String
  expectedHash : String
  calls : Call → WriteCall

namespace Race

variable {Call : Type} (race : Race Call)

def Fits (entry : Entry) : Prop := entry.Fits race.sha256Hex race.expectedHash

def Enters (call : Call) : Prop := (race.calls call).enter = .ok ()

def capability (call : Call) : Nat := (race.calls call).capability

def bytes (call : Call) : ByteArray := (race.calls call).bytes

theorem contentHash_ne_empty (bytes : ByteArray) : contentHash race.sha256Hex bytes ≠ "" := by
  intro empty
  have size := congrArg String.utf8ByteSize empty
  have head : "sha256:".utf8ByteSize = 7 := by decide
  rw [contentHash, String.utf8ByteSize_append, head] at size
  simp at size

def Exclusive (entry : Entry) : Prop :=
  race.Fits entry → ∀ first second, first ≠ second → race.Enters first → race.Enters second →
    race.capability first = race.capability second ∧ contentHash race.sha256Hex (race.bytes first) ≠ race.expectedHash

end Race

structure Writers (Call : Type) where
  entry : Entry
  phase : Call → Phase
  owner : Nat → Option Call

namespace Writers

variable {Call : Type} [DecidableEq Call]

def start (entry : Entry) : Writers Call := ⟨entry, fun _ => .started, fun _ => none⟩

variable (race : Race Call) (state : Writers Call) (call : Call)

def goto (phase : Phase) : Writers Call := { state with phase := update state.phase call phase }

def finish (result : Except CapabilityError FsWrite) : Writers Call :=
  { state.goto call (.returned result) with owner := update state.owner (race.capability call) none }

def report (answer : ConfinedAnswer) : Except CapabilityError FsWrite :=
  let written (publication : ConfinedPublication) : FsWrite :=
    ⟨contentHash race.sha256Hex (race.bytes call), (race.bytes call).size, publication.durable,
      publication.stagingCleaned⟩
  match answer with
  | .ok publication => .ok (written publication)
  | .error (_, .published publication) => .ok (written publication)
  | .error (_, .indeterminate) => .error Destination.publicationIndeterminateError
  | .error (error, .notPublished) => .error (mapFsError error)

def act : Phase → Action → Option (Writers Call)
  | .started, .enter =>
    match (race.calls call).enter with
    | .error error => some (state.goto call (.returned (.error error)))
    | .ok () => some (state.goto call .entered)
  | .entered, .acquire =>
    if state.owner (race.capability call) = none then
      some { state.goto call (if race.expectedHash = "*" then .checked else .locked) with
        owner := update state.owner (race.capability call) (some call) }
    else none
  | .locked, .stat answer =>
    match checkMetadata race.expectedHash answer with
    | .error error => some (state.finish race call (.error error))
    | .ok present => some (state.goto call (if present then .found else .checked))
  | .found, .read answer =>
    match checkContent race.sha256Hex race.expectedHash answer with
    | .error error => some (state.finish race call (.error error))
    | .ok () => some (state.goto call .checked)
  | .checked, .replace answer placed =>
    some { state.finish race call (report race call answer) with
      entry := if placed then .file (race.bytes call) else state.entry }
  | _, _ => none

def next (step : Call × Action) : Option (Writers Call) :=
  if step.2.truthful state.entry then state.act race step.1 (state.phase step.1) step.2 else none

def Succeeded : Prop := ∃ written, state.phase call = .returned (.ok written)

variable {race} {state} {later : Writers Call} {call}

@[simp] theorem goto_entry (call : Call) (phase : Phase) : (state.goto call phase).entry = state.entry := rfl

@[simp] theorem goto_owner (call : Call) (phase : Phase) : (state.goto call phase).owner = state.owner := rfl

@[simp] theorem goto_phase (call : Call) (phase : Phase) :
    (state.goto call phase).phase = update state.phase call phase := rfl

omit [DecidableEq Call] in
theorem checkMetadata_false {entry : Entry} {answer : Except ConfinedFsError ConfinedFileType}
    (truthful : (Action.stat answer).truthful entry) (passed : checkMetadata race.expectedHash answer = .ok false) :
    race.Fits entry := by
  cases answer with
  | ok type => simp [checkMetadata, pure, Except.pure] at passed
  | error error =>
    by_cases missing : error.kind = .notFound
    · simp only [checkMetadata, missing, if_true, andThen_ok, refuseIf_ok, Bool.not_eq_false,
        String.isEmpty_iff] at passed
      have absent : entry = .absent := by simpa [Action.truthful, missing] using truthful
      rw [absent]
      exact passed.1
    · simp [checkMetadata, missing] at passed

omit [DecidableEq Call] in
theorem checkContent_ok {entry : Entry} {answer : Except ConfinedFsError ByteArray}
    (truthful : (Action.read answer).truthful entry)
    (passed : checkContent race.sha256Hex race.expectedHash answer = .ok ()) :
    race.Fits entry := by
  cases answer with
  | error error => simp [checkContent] at passed
  | ok content =>
    have current : entry = .file content := by simpa [Action.truthful] using truthful
    rw [current]
    simpa [checkContent, Race.Fits, Entry.Fits] using passed

omit [DecidableEq Call] in
theorem report_ok {call : Call} {answer : ConfinedAnswer} {placed : Bool} {written : FsWrite} {entry : Entry}
    (truthful : (Action.replace answer placed).truthful entry)
    (ok : report race call answer = .ok written) : placed := by
  rcases answer with ⟨error, _ | publication | _⟩ | publication
  · cases ok
  · simpa [Action.truthful, ConfinedAnswer.state] using truthful
  · cases ok
  · simpa [Action.truthful, ConfinedAnswer.state] using truthful

inductive Steps (race : Race Call) (state : Writers Call) (call : Call) : Writers Call → Prop
  | refuse {error : CapabilityError} (free : (state.phase call).holdsLock = false) :
      Steps race state call (state.goto call (.returned (.error error)))
  | enter (passed : race.Enters call) : Steps race state call (state.goto call .entered)
  | acquire (entered : state.phase call = .entered) (free : state.owner (race.capability call) = none) :
      Steps race state call
        { state.goto call .locked with owner := update state.owner (race.capability call) (some call) }
  | fail {error : CapabilityError} (holds : (state.phase call).holdsLock = true) :
      Steps race state call (state.finish race call (.error error))
  | find (holds : (state.phase call).holdsLock = true) :
      Steps race state call (state.goto call .found)
  | check (holds : (state.phase call).holdsLock = true) (fits : race.Fits state.entry) :
      Steps race state call (state.goto call .checked)
  | replace {result : Except CapabilityError FsWrite} {entry : Entry} (checked : state.phase call = .checked)
      (placed : ∀ written, result = .ok written → entry = .file (race.bytes call)) :
      Steps race state call { state.finish race call result with entry }

theorem steps_of_next (ordinary : race.expectedHash ≠ "*") {step : Call × Action}
    (taken : state.next race step = some later) :
    Steps race state step.1 later := by
  obtain ⟨call, action⟩ := step
  rw [next, ite_none_right_eq_some] at taken
  obtain ⟨truthful, taken⟩ := taken
  cases phase : state.phase call <;> cases action <;> simp only [phase, act, reduceCtorEq] at taken
  case started.enter =>
    split at taken
    next => exact some.inj taken ▸ .refuse (by simp [phase, Phase.holdsLock])
    next passed => exact some.inj taken ▸ .enter passed
  case entered.acquire =>
    obtain ⟨free, taken⟩ := ite_none_right_eq_some.mp taken
    rw [if_neg ordinary] at taken
    exact some.inj taken ▸ .acquire phase free
  case locked.stat answer =>
    have holds : (state.phase call).holdsLock := by simp [phase, Phase.holdsLock]
    split at taken
    next => exact some.inj taken ▸ .fail holds
    next present passed =>
      cases present with
      | true => exact some.inj taken ▸ .find holds
      | false => exact some.inj taken ▸ .check holds (checkMetadata_false truthful passed)
  case found.read answer =>
    have holds : (state.phase call).holdsLock := by simp [phase, Phase.holdsLock]
    split at taken
    next => exact some.inj taken ▸ .fail holds
    next passed => exact some.inj taken ▸ .check holds (checkContent_ok truthful passed)
  case checked.replace answer placed =>
    refine some.inj taken ▸ .replace phase fun written ok => ?_
    rw [if_pos (report_ok truthful ok)]

structure Guarded (race : Race Call) (initial : Entry) (state : Writers Call) : Prop where
  entered : ∀ call, state.phase call = .entered ∨ (state.phase call).holdsLock = true → race.Enters call
  owned : ∀ call, (state.phase call).holdsLock = true → state.owner (race.capability call) = some call
  checked : ∀ call, state.phase call = .checked → race.Fits state.entry
  origin : race.Fits state.entry → race.Fits initial
  spent : ∀ call other, call ≠ other → race.Enters other → state.Succeeded call →
    ¬ race.Fits state.entry
  unique : ∀ first second, state.Succeeded first → state.Succeeded second → first = second

omit [DecidableEq Call] in
theorem guarded_start (entry : Entry) : Guarded race entry (start entry) := by
  constructor <;> simp [start, Phase.holdsLock, Succeeded]

variable {initial : Entry} {call : Call}

theorem succeeded_goto {phase : Phase} (other : Call) (unfinished : ∀ written, phase ≠ .returned (.ok written)) :
    (state.goto call phase).Succeeded other ↔ other ≠ call ∧ state.Succeeded other := by
  by_cases same : other = call <;> simp [Succeeded, same, unfinished]

theorem Guarded.goto (guarded : Guarded race initial state) {phase : Phase}
    (unfinished : ∀ written, phase ≠ .returned (.ok written))
    (entered : phase = .entered ∨ phase.holdsLock → race.Enters call)
    (owned : phase.holdsLock → state.owner (race.capability call) = some call)
    (checked : phase = .checked → race.Fits state.entry) :
    Guarded race initial (state.goto call phase) where
  entered other := by
    by_cases same : other = call
    · simpa [same] using entered
    · simpa [same] using guarded.entered other
  owned other := by
    by_cases same : other = call
    · simpa [same] using owned
    · simpa [same] using guarded.owned other
  checked other := by
    by_cases same : other = call
    · simpa [same] using checked
    · simpa [same] using guarded.checked other
  origin := guarded.origin
  spent first other different passed succeeded :=
    guarded.spent first other different passed ((succeeded_goto first unfinished).mp succeeded).2
  unique first second one two :=
    guarded.unique first second ((succeeded_goto first unfinished).mp one).2
      ((succeeded_goto second unfinished).mp two).2

omit [DecidableEq Call] in
theorem Guarded.owner (guarded : Guarded race initial state) {owner : Nat → Option Call}
    (owned : ∀ call, (state.phase call).holdsLock → owner (race.capability call) = some call) :
    Guarded race initial { state with owner } :=
  { guarded with owned }

omit [DecidableEq Call] in
theorem Guarded.alone (guarded : Guarded race initial state) {other : Call}
    (one : (state.phase call).holdsLock) (two : (state.phase other).holdsLock)
    (same : race.capability other = race.capability call) : other = call := by
  have second := guarded.owned other two
  rw [same, guarded.owned call one] at second
  exact (some.inj second).symm

theorem Guarded.finish (guarded : Guarded race initial state) {error : CapabilityError}
    (holds : (state.phase call).holdsLock) :
    Guarded race initial (state.finish race call (.error error)) := by
  have moved : Guarded race initial (state.goto call (.returned (.error error))) :=
    guarded.goto (by simp) (by simp [Phase.holdsLock]) (by simp [Phase.holdsLock]) (by simp)
  refine moved.owner fun other two => ?_
  by_cases same : other = call
  · simp [same, Phase.holdsLock] at two
  · rw [goto_phase, update_of_ne same] at two
    have apart : race.capability other ≠ race.capability call := fun shared => same (guarded.alone holds two shared)
    rw [update_of_ne apart]
    exact guarded.owned other two

theorem Guarded.replace (guarded : Guarded race initial state)
    (exclusive : race.Exclusive initial) {result : Except CapabilityError FsWrite} {entry : Entry}
    (checked : state.phase call = .checked)
    (placed : ∀ written, result = .ok written → entry = .file (race.bytes call)) :
    Guarded race initial { state.finish race call result with entry } := by
  have holds : (state.phase call).holdsLock := by simp [checked, Phase.holdsLock]
  have fits := guarded.checked call checked
  have passed := guarded.entered call (.inr holds)
  have apart := exclusive (guarded.origin fits)
  -- nobody else holds a lock, and nobody has succeeded before
  have idle : ∀ other, other ≠ call → (state.phase other).holdsLock = false := by
    intro other different
    by_contra two
    rw [Bool.not_eq_false] at two
    exact different (guarded.alone holds two (apart other call different (guarded.entered other (.inr two)) passed).1)
  have first : ∀ other, ¬ state.Succeeded other := by
    intro other succeeded
    by_cases same : other = call
    · simp [Succeeded, same, checked] at succeeded
    · exact guarded.spent other call same passed succeeded fits
  have only : ∀ other, (state.finish race call result).Succeeded other → other = call := by
    intro other succeeded
    by_contra same
    exact first other (by simpa [Succeeded, Writers.finish, same] using succeeded)
  have resting : ∀ other, ((state.finish race call result).phase other).holdsLock = false := by
    intro other
    by_cases same : other = call
    · simp [Writers.finish, same, Phase.holdsLock]
    · simpa [Writers.finish, same] using idle other same
  exact {
    entered := fun other phase => by
      by_cases same : other = call
      · simpa [same] using passed
      · exact guarded.entered other (by simpa [Writers.finish, same] using phase)
    owned := fun other two => by simp [resting other] at two
    checked := fun other (phase : (state.finish race call result).phase other = .checked) => by
      have rests := resting other
      rw [phase] at rests
      cases rests
    origin := fun _ => guarded.origin fits
    spent := fun other third different entered succeeded => by
      have same := only other succeeded
      obtain ⟨written, ok⟩ := succeeded
      have done : entry = .file (race.bytes call) := placed written (by simpa [Writers.finish, same] using ok)
      rw [done]
      exact (apart call third (same ▸ different) passed entered).2
    unique := fun one two first second => (only one first).trans (only two second).symm }

theorem Guarded.step (ordinary : race.expectedHash ≠ "*") (exclusive : race.Exclusive initial)
    (guarded : Guarded race initial state) {step : Call × Action}
    (taken : state.next race step = some later) :
    Guarded race initial later := by
  cases steps_of_next ordinary taken with
  | refuse free => exact guarded.goto (by simp) (by simp [Phase.holdsLock]) (by simp [Phase.holdsLock]) (by simp)
  | enter passed => exact guarded.goto (by simp) (fun _ => passed) (by simp [Phase.holdsLock]) (by simp)
  | acquire entered free =>
    have taken : Guarded race initial
        { state with owner := update state.owner (race.capability step.1) (some step.1) } := by
      refine guarded.owner fun other two => ?_
      have held := guarded.owned other two
      have apart : race.capability other ≠ (race.capability step.1) := by
        intro shared
        rw [shared, free] at held
        cases held
      rw [update_of_ne apart]
      exact held
    exact taken.goto (by simp) (fun _ => guarded.entered step.1 (.inl entered)) (by simp) (by simp)
  | fail holds => exact guarded.finish holds
  | find holds =>
    exact guarded.goto (by simp) (fun _ => guarded.entered step.1 (.inr holds)) (fun _ => guarded.owned step.1 holds)
      (by simp)
  | check holds fits =>
    exact guarded.goto (by simp) (fun _ => guarded.entered step.1 (.inr holds)) (fun _ => guarded.owned step.1 holds)
      (fun _ => fits)
  | replace checked placed => exact guarded.replace exclusive checked placed

def Reaches (race : Race Call) (state later : Writers Call) : Prop :=
  ∃ steps, run (next race) state steps = some later

theorem Reaches.trans {middle : Writers Call} (first : Reaches race state middle)
    (second : Reaches race middle later) : Reaches race state later := by
  obtain ⟨steps, before⟩ := first
  obtain ⟨more, after⟩ := second
  exact ⟨steps ++ more, by rw [run_append, before, bind_some, after]⟩

theorem reaches_of_next {step : Call × Action} (taken : state.next race step = some later) :
    Reaches race state later :=
  ⟨[step], by rw [run, taken]; rfl⟩

def ready (race : Race Call) (state : Writers Call) (call : Call) : Writers Call :=
  { state.goto call .checked with owner := update state.owner (race.capability call) (some call) }

def replaced (race : Race Call) (state : Writers Call) (call : Call) : Writers Call :=
  { state.finish race call (report race call (.ok ⟨true, true⟩)) with entry := .file (race.bytes call) }

theorem reaches_ready (ordinary : race.expectedHash ≠ "*") (started : state.phase call = .started)
    (passed : race.Enters call) (free : state.owner (race.capability call) = none)
    (fits : race.Fits state.entry) :
    Reaches race state (state.ready race call) := by
  have enters : state.next race (call, .enter) = some (state.goto call .entered) := by
    simp [next, Action.truthful, act, started, show (race.calls call).enter = .ok () from passed]
  refine (reaches_of_next enters).trans ?_
  let held : Writers Call := { state.goto call .locked with
    owner := update state.owner (race.capability call) (some call) }
  have acquires : (state.goto call .entered).next race (call, .acquire) = some held := by
    simp [next, Action.truthful, act, goto, free, ordinary, held]
  refine (reaches_of_next acquires).trans ?_
  cases entry : state.entry with
  | absent =>
    have empty : race.expectedHash = "" := by simpa [entry, Race.Fits, Entry.Fits] using fits
    have stats : held.next race (call, .stat (.error ⟨.notFound, "metadata", ""⟩)) =
        some (held.goto call .checked) := by
      simp [next, Action.truthful, act, held, goto, entry, checkMetadata, empty, refuseIf, bind, Except.bind, pure,
        Except.pure]
    simpa [held, goto, ready] using reaches_of_next stats
  | file content =>
    have hash : contentHash race.sha256Hex content = race.expectedHash := by
      simpa [entry, Race.Fits, Entry.Fits] using fits
    have named : race.expectedHash ≠ "" := hash ▸ race.contentHash_ne_empty content
    have stats : held.next race (call, .stat (.ok .file)) = some (held.goto call .found) := by
      simp [next, Action.truthful, act, held, goto, entry, Entry.type, checkMetadata, named, refuseIf, bind,
        Except.bind, pure, Except.pure]
    have reads : (held.goto call .found).next race (call, .read (.ok content)) =
        some ((held.goto call .found).goto call .checked) := by
      simp [next, Action.truthful, act, held, goto, entry, checkContent, hash, refuseIf]
    simpa [held, goto, ready] using (reaches_of_next stats).trans (reaches_of_next reads)
  | other type => simp [entry, Race.Fits, Entry.Fits] at fits

theorem reaches_replaced (checked : state.phase call = .checked) :
    Reaches race state (state.replaced race call) := by
  refine reaches_of_next (?_ : next _ _ (call, .replace (.ok ⟨true, true⟩) true) = _)
  simp [next, Action.truthful, ConfinedAnswer.state, act, checked, replaced]

theorem two_succeed (ordinary : race.expectedHash ≠ "*") (fits : race.Fits initial) {first second : Call}
    (different : first ≠ second) (one : race.Enters first) (two : race.Enters second)
    (apart : race.capability first = race.capability second →
      contentHash race.sha256Hex (race.bytes first) = race.expectedHash) :
    ∃ final, Reaches race (start initial) final ∧ final.Succeeded first ∧
      final.Succeeded second := by
  let begun := (start initial).ready race first
  have begins : Reaches race (start initial) begun := reaches_ready ordinary rfl one rfl fits
  by_cases shared : race.capability first = race.capability second
  · -- the first call leaves what the second expects
    let middle := begun.replaced race first
    have replaces : Reaches race begun middle := reaches_replaced (by simp [begun, ready])
    have again : Reaches race middle (middle.ready race second) :=
      reaches_ready ordinary (by simp [middle, begun, ready, replaced, finish, start, Ne.symm different]) two
        (by simp [middle, replaced, finish, shared]) (apart shared)
    have last : Reaches race (middle.ready race second)
        ((middle.ready race second).replaced race second) := reaches_replaced (by simp [ready])
    refine ⟨_, begins.trans (replaces.trans (again.trans last)), ?_, ?_⟩
    · simp [Succeeded, middle, ready, replaced, finish, different, report]
    · simp [Succeeded, replaced, finish, report]
  · -- both check before either replaces
    let waiting := begun.ready race second
    have again : Reaches race begun waiting :=
      reaches_ready ordinary (by simp [begun, ready, start, Ne.symm different]) two
        (by simp [begun, ready, start, Ne.symm shared]) fits
    let middle := waiting.replaced race first
    have replaces : Reaches race waiting middle := reaches_replaced (by simp [waiting, begun, ready, different])
    have last : Reaches race middle (middle.replaced race second) :=
      reaches_replaced (by simp [middle, waiting, ready, replaced, finish, Ne.symm different])
    refine ⟨_, begins.trans (again.trans (replaces.trans last)), ?_, ?_⟩
    · simp [Succeeded, middle, replaced, finish, different, report]
    · simp [Succeeded, replaced, finish, report]

theorem writes_exclude_iff (ordinary : race.expectedHash ≠ "*") (initial : Entry) :
    (∀ steps final, run (next race) (start initial) steps = some final →
      ∀ first second, final.Succeeded first → final.Succeeded second → first = second) ↔
    race.Exclusive initial := by
  constructor
  · intro excluded fits first second different one two
    by_contra broken
    have apart : race.capability first = race.capability second →
        contentHash race.sha256Hex (race.bytes first) = race.expectedHash := by
      intro shared
      by_contra unlike
      exact broken ⟨shared, unlike⟩
    obtain ⟨final, ⟨steps, reached⟩, done, doneToo⟩ := two_succeed ordinary fits different one two apart
    exact different (excluded steps final reached first second done doneToo)
  · intro exclusive steps final reached
    have guarded : Guarded race initial final :=
      run_invariant (fun _ _ _ guarded _ taken => guarded.step ordinary exclusive taken) (guarded_start initial)
        (along_true _ _) reached
    exact guarded.unique

def creation (capability : Nat) (byte : UInt8) : WriteCall := ⟨capability, .ok (), 16, ⟨#[byte]⟩⟩

def twoRuns : Race Bool := ⟨fun _ => "", "", fun run => if run then creation 1 1 else creation 2 2⟩

theorem twoRuns_exclude_iff :
    twoRuns.expectedHash ≠ "*" ∧ ((∀ steps final, run (next twoRuns) (start .absent) steps = some final →
      ∀ first second, final.Succeeded first → final.Succeeded second → first = second) ↔ twoRuns.Exclusive .absent) :=
  ⟨by decide, writes_exclude_iff (by decide) .absent⟩

theorem two_runs_create :
    twoRuns.expectedHash ≠ "*" ∧ twoRuns.bytes true ≠ twoRuns.bytes false ∧
    ∃ steps final, run (next twoRuns) (start .absent) steps = some final ∧ final.Succeeded true ∧
      final.Succeeded false := by
  refine ⟨by decide, by decide, [(true, .enter), (false, .enter), (true, .acquire), (false, .acquire),
    (true, .stat (.error ⟨.notFound, "metadata", "no such file"⟩)),
    (false, .stat (.error ⟨.notFound, "metadata", "no such file"⟩)),
    (true, .replace (.ok ⟨true, true⟩) true), (false, .replace (.ok ⟨true, true⟩) true)], _, rfl, ⟨_, rfl⟩, ⟨_, rfl⟩⟩

end Writers

end RustScriptAgent.Capabilities
