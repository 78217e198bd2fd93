import Mathlib.Logic.Function.Basic
import RustScriptAgent.Shared.Transition

namespace RustScriptAgent.Capabilities

open Transitions Option

variable {cancelled : Bool}

-- A process goes by the name of its spawn. The closing flag and the generation are read and written without the lock
-- of the table; what is done under the lock is one step, except in spawn_with, which reads both while it holds it.
inductive SpawnPhase
  | idle
  | checking (looks : Nat)
  | fenced (fence : Nat)
  | created (fence : Nat)
  | locked (fence : Nat)
  | cleared (fence : Nat)
  | refused
  | inserted
  | registered
  | unregistered (released : Bool)
  | removed
  | returned (handle : Bool)
deriving DecidableEq

/-- Where `shutdown_and_forget` of the reaper is; the swap of its flag lets one caller begin. -/
inductive ReleasePhase
  | idle
  | begun
  | cancelled
  | removed
  | finished
deriving DecidableEq

structure Child where
  phase : SpawnPhase
  late : Bool
  created : Bool
  listed : Bool
  cancelled : Bool
  shut : Bool
  release : ReleasePhase
deriving DecidableEq

inductive ShutdownPhase (Spawn : Type)
  | idle
  | closing
  | fenced
  | terminating (left : List Spawn)
  | returned
deriving DecidableEq

structure Processes (Spawn : Type) where
  closing : Bool
  generation : Nat
  lock : Option Spawn
  table : List Spawn
  children : Spawn → Child
  shutdown : ShutdownPhase Spawn

inductive Turn
  | begin
  | refuse
  | lookClosing
  | loadFence
  | systemSpawn
  | lockTable
  | readClosing
  | readFence
  | shutRefused
  | register (failure : Option Bool)
  | remove
  | terminate
  | answer
  | kill
  | releaseBegin
  | releaseCancel
  | releaseRemove
  | releaseShut

inductive ShutdownTurn
  | close
  | fence
  | drain
  | terminateNext
  | finish

def Child.terminated (child : Child) : Child := { child with cancelled := true, shut := true }

namespace Processes

variable {Spawn : Type} [DecidableEq Spawn]

def start : Processes Spawn := ⟨false, 1, none, [], fun _ => ⟨.idle, false, false, false, false, false, .idle⟩, .idle⟩

variable (state : Processes Spawn) (spawn : Spawn)

def set (child : Child) : Processes Spawn := { state with children := Function.update state.children spawn child }

def goto (phase : SpawnPhase) : Processes Spawn := state.set spawn { state.children spawn with phase }

def withoutEntry : List Spawn := state.table.filter (· ≠ spawn)

def prepare (phase : SpawnPhase) : Turn → Option (Processes Spawn)
  | .begin =>
    if phase = .idle then
      some (state.set spawn { state.children spawn with phase := .checking 3, late := state.closing })
    else none
  | .refuse =>
    match phase with
    | .checking _ | .fenced _ => some (state.goto spawn (.returned false))
    | _ => none
  | .lookClosing =>
    match phase with
    | .checking (looks + 1) => some (state.goto spawn (if state.closing then .returned false else .checking looks))
    | _ => none
  | .loadFence => if phase = .checking 0 then some (state.goto spawn (.fenced state.generation)) else none
  | .systemSpawn =>
    match phase with
    | .fenced fence => some (state.set spawn { state.children spawn with phase := .created fence, created := true })
    | _ => none
  | _ => none

def enter (phase : SpawnPhase) : Turn → Option (Processes Spawn)
  | .lockTable =>
    match phase with
    | .created fence =>
      if state.lock = none then some { state.goto spawn (.locked fence) with lock := some spawn } else none
    | _ => none
  | .readClosing =>
    match phase with
    | .locked fence =>
      if state.closing then some { state.goto spawn .refused with lock := none }
      else some (state.goto spawn (.cleared fence))
    | _ => none
  | .readFence =>
    match phase with
    | .cleared fence =>
      if state.generation ≠ fence then some { state.goto spawn .refused with lock := none }
      else some { state.set spawn { state.children spawn with phase := .inserted, listed := true } with
        lock := none, table := spawn :: state.table }
    | _ => none
  | .shutRefused =>
    if phase = .refused then
      some (state.set spawn { state.children spawn with phase := .returned false, shut := true })
    else none
  | _ => none

def complete (phase : SpawnPhase) : Turn → Option (Processes Spawn)
  | .register failure =>
    if phase = .inserted then
      some (state.goto spawn (match failure with | none => .registered | some released => .unregistered released))
    else none
  | .remove =>
    if state.lock = none ∧ (phase = .registered ∨ phase = .unregistered false ∨
        phase = .unregistered true ∧ (state.children spawn).release = .finished) then
      if spawn ∈ state.table then some { state.goto spawn .removed with table := state.withoutEntry spawn }
      else some (state.goto spawn (.returned false))
    else none
  | .terminate =>
    if phase = .removed then some (state.set spawn { (state.children spawn).terminated with phase := .returned false })
    else none
  | .answer => if phase = .registered then some (state.goto spawn (.returned true)) else none
  | _ => none

def handle (child : Child) : Turn → Option (Processes Spawn)
  | .kill => if child.listed then some (state.set spawn child.terminated) else none
  | .releaseBegin =>
    -- the lifecycle has the reaper once it is registered; a release that comes earlier is one more run
    if child.listed ∧ child.release = .idle then some (state.set spawn { child with release := .begun }) else none
  | .releaseCancel =>
    if child.release = .begun then some (state.set spawn { child with release := .cancelled, cancelled := true })
    else none
  | .releaseRemove =>
    if state.lock = none ∧ child.release = .cancelled then
      some { state.set spawn { child with release := .removed } with table := state.withoutEntry spawn }
    else none
  | .releaseShut =>
    if child.release = .removed then some (state.set spawn { child with release := .finished, shut := true })
    else none
  | _ => none

def shutdownTurn : ShutdownTurn → Option (Processes Spawn)
  | .close => if state.shutdown = .idle then some { state with closing := true, shutdown := .closing } else none
  | .fence =>
    if state.shutdown = .closing then some { state with generation := state.generation + 1, shutdown := .fenced }
    else none
  | .drain =>
    if state.shutdown = .fenced ∧ state.lock = none then
      some { state with table := [], shutdown := .terminating state.table }
    else none
  | .terminateNext =>
    match state.shutdown with
    | .terminating (spawn :: left) =>
      some { state.set spawn (state.children spawn).terminated with shutdown := .terminating left }
    | _ => none
  | .finish => if state.shutdown = .terminating [] then some { state with shutdown := .returned } else none

def next : (Spawn × Turn) ⊕ ShutdownTurn → Option (Processes Spawn)
  | .inl (spawn, turn) =>
    let child := state.children spawn
    (state.prepare spawn child.phase turn).or ((state.enter spawn child.phase turn).or
      ((state.complete spawn child.phase turn).or (state.handle spawn child turn)))
  | .inr turn => state.shutdownTurn turn

end Processes

def ShutdownPhase.left {Spawn : Type} : ShutdownPhase Spawn → List Spawn
  | terminating left => left
  | _ => []

def ShutdownPhase.Drained {Spawn : Type} : ShutdownPhase Spawn → Prop
  | terminating _ | returned => True
  | _ => False

def SpawnPhase.inLock : SpawnPhase → Bool
  | locked _ | cleared _ => true
  | _ => false

def SpawnPhase.inHand : SpawnPhase → Bool
  | created _ | locked _ | cleared _ | refused | removed => true
  | _ => false

open SpawnPhase (inLock inHand)

def Child.Turned (child : Child) : Prop := child.phase = .checking 3 ∨ child.phase = .returned false

def Child.Kept (child : Child) (listed taken : Prop) : Prop :=
  child.phase.inHand = true ∨ listed ∨ taken ∨ (child.release = .removed ∧ child.cancelled = true) ∨ child.shut = true

structure Child.Sound (child : Child) (closing drained locked listed taken : Prop) : Prop where
  late : child.late = true → closing ∧ child.Turned
  locked : child.phase.inLock = true → locked
  cleared : drained → ∀ fence, child.phase ≠ .cleared fence
  cancelled : child.release = .cancelled → child.cancelled = true
  kept : child.created = true → child.Kept listed taken

section Child

variable {closing drained locked listed taken : Prop} {child : Child}

section

variable (sound : child.Sound closing drained locked listed taken)
include sound

theorem Child.Sound.goto {phase : SpawnPhase}
    {lockedNow listedNow : Prop} (late : closing → child.Turned → phase = .checking 3 ∨ phase = .returned false)
    (inside : phase.inLock → lockedNow) (cleared : drained → ∀ fence, phase ≠ .cleared fence)
    (place : child.phase.inHand ∨ listed → phase.inHand ∨ listedNow) :
    ({ child with phase } : Child).Sound closing drained lockedNow listedNow taken where
  late was := (sound.late was).imp_right (late (sound.late was).1)
  locked := inside
  cleared := cleared
  cancelled := sound.cancelled
  kept made := or_assoc.mp ((or_assoc.mpr (sound.kept made)).imp_left place)

theorem Child.Sound.shutDown {release : ReleasePhase} (requested : release = .cancelled → cancelled) :
    ({ child with release, cancelled, shut := true } : Child).Sound closing drained locked listed taken where
  late := sound.late
  locked := sound.locked
  cleared := sound.cleared
  cancelled := requested
  kept _ := .inr (.inr (.inr (.inr rfl)))

theorem Child.Sound.release {release : ReleasePhase}
    {listedNow : Prop} (before : child.release ≠ .removed)
    (requested : release = .cancelled → cancelled)
    (place : ¬ (release = .removed ∧ cancelled) → listed → listedNow) :
    ({ child with release, cancelled } : Child).Sound closing drained locked listedNow taken where
  late := sound.late
  locked := sound.locked
  cleared := sound.cleared
  cancelled := requested
  kept made := by
    rcases sound.kept made with hand | entry | terminating | gone | shut
    · exact .inl hand
    · by_cases now : release = .removed ∧ cancelled
      · exact .inr (.inr (.inr (.inl now)))
      · exact .inr (.inl (place now entry))
    · exact .inr (.inr (.inl terminating))
    · exact absurd gone.1 before
    · exact .inr (.inr (.inr (.inr shut)))

theorem Child.Sound.failed (requested : child.release = .cancelled → cancelled) :
    ({ child with phase := .returned false, cancelled, shut := true } : Child).Sound closing drained locked listed taken
    where
  late was := (sound.late was).imp_right fun _ => .inr rfl
  locked inside := nomatch inside
  cleared _ _ := nofun
  cancelled := requested
  kept _ := .inr (.inr (.inr (.inr rfl)))

end

end Child

namespace Processes

variable {Spawn : Type} [DecidableEq Spawn] {state later : Processes Spawn} {spawn : Spawn}

structure Sound (state : Processes Spawn) : Prop where
  closing : state.shutdown ≠ .idle → state.closing = true
  drained : state.shutdown.Drained → state.table = []
  each : ∀ spawn, (state.children spawn).Sound (state.closing = true) state.shutdown.Drained (state.lock = some spawn)
    (spawn ∈ state.table) (spawn ∈ state.shutdown.left)

omit [DecidableEq Spawn] in
theorem sound_start : Sound (start : Processes Spawn) := by
  refine ⟨by simp [start], by simp [start, ShutdownPhase.Drained], fun spawn => ?_⟩
  constructor <;> simp [start, inLock]

omit [DecidableEq Spawn] in
theorem Sound.closed (sound : state.Sound) (done : state.shutdown.Drained) : state.closing := by
  refine sound.closing fun idle => ?_
  simp [idle, ShutdownPhase.Drained] at done

theorem Sound.update (sound : state.Sound) {child : Child} {table : List Spawn} {lock : Option Spawn}
    (own : child.Sound (state.closing) state.shutdown.Drained (lock = some spawn) (spawn ∈ table)
      (spawn ∈ state.shutdown.left))
    (empty : state.shutdown.Drained → table = [])
    (locks : ∀ other, other ≠ spawn → state.lock = some other → lock = some other)
    (entries : ∀ other, other ≠ spawn → other ∈ state.table → other ∈ table) :
    Sound { state.set spawn child with table, lock } := by
  refine ⟨sound.closing, empty, fun other => ?_⟩
  by_cases same : other = spawn
  · rw [same]
    simpa [Processes.set] using own
  · have was := sound.each other
    have here : ({ state.set spawn child with table, lock } : Processes Spawn).children other = state.children other :=
      Function.update_of_ne same ..
    rw [here]
    exact { was with
      locked := fun inside => locks other same (was.locked inside)
      kept := fun made => (was.kept made).imp_right (Or.imp_left (entries other same)) }

theorem Sound.set (sound : state.Sound) {child : Child}
    (own : child.Sound (state.closing) state.shutdown.Drained (state.lock = some spawn) (spawn ∈ state.table)
      (spawn ∈ state.shutdown.left)) : Sound (state.set spawn child) :=
  sound.update own sound.drained (fun _ _ => id) (fun _ _ => id)

theorem Sound.prepare (sound : state.Sound) {turn : Turn}
    (taken : state.prepare spawn (state.children spawn).phase turn = some later) : later.Sound := by
  have was := sound.each spawn
  cases turn <;> simp only [Processes.prepare, ite_none_right_eq_some, some.injEq, reduceCtorEq] at taken
  case begin =>
    obtain ⟨idle, rfl⟩ := taken
    have moved : ({ state.children spawn with phase := .checking 3 } : Child).Sound _ _ (state.lock = some spawn)
        (spawn ∈ state.table) _ :=
      was.goto (fun _ _ => .inl rfl) (by simp [inLock]) (by simp) (by simp [idle, inHand])
    exact sound.set { moved with late := fun closing => ⟨closing, .inl rfl⟩ }
  case refuse =>
    split at taken
    case h_3 => cases taken
    all_goals
      rename_i phase
      exact some.inj taken ▸ sound.set (was.goto (fun _ _ => .inr rfl) (by simp [inLock]) (by simp)
        (by simp [phase, inHand]))
  case lookClosing =>
    split at taken
    next looks phase =>
      refine some.inj taken ▸ sound.set (was.goto (fun closing _ => .inr (by rw [if_pos closing])) ?_ ?_ ?_)
      all_goals split <;> simp [phase, inLock, inHand]
    next => cases taken
  case loadFence =>
    obtain ⟨phase, rfl⟩ := taken
    exact sound.set (was.goto (by simp [phase, Child.Turned]) (by simp [inLock])
      (by simp) (by simp [phase, inHand]))
  case systemSpawn =>
    split at taken
    next fence phase =>
      have moved : ({ state.children spawn with phase := .created fence } : Child).Sound _ _ (state.lock = some spawn)
          (spawn ∈ state.table) _ :=
        was.goto (by simp [phase, Child.Turned]) (by simp [inLock]) (by simp) (fun _ => .inl rfl)
      exact some.inj taken ▸ sound.set { moved with kept := fun _ => .inl rfl }
    next => cases taken

theorem Sound.enter (sound : state.Sound) {turn : Turn}
    (taken : state.enter spawn (state.children spawn).phase turn = some later) : later.Sound := by
  have was := sound.each spawn
  cases turn <;> simp only [Processes.enter, ite_none_right_eq_some, some.injEq, reduceCtorEq] at taken
  case lockTable =>
    split at taken
    next fence phase =>
      obtain ⟨free, taken⟩ := ite_none_right_eq_some.mp taken
      refine some.inj taken ▸ sound.update ?_ sound.drained (by simp [free]) (fun _ _ => id)
      exact was.goto (by simp [phase, Child.Turned]) (fun _ => rfl) (by simp) (fun _ => .inl rfl)
    next => cases taken
  case readClosing =>
    split at taken
    next fence phase =>
      have holds := was.locked (by simp [phase, inLock])
      split at taken
      next =>
        refine some.inj taken ▸ sound.update ?_ sound.drained (by simp [holds, eq_comm]) (fun _ _ => id)
        exact was.goto (by simp [phase, Child.Turned]) (by simp [inLock]) (by simp) (fun _ => .inl rfl)
      next opened =>
        -- the flag is down, so the table has not been drained
        exact some.inj taken ▸ sound.set (was.goto (by simp [phase, Child.Turned]) (fun _ => holds)
          (fun done => absurd (sound.closed done) opened) (fun _ => .inl rfl))
    next => cases taken
  case readFence =>
    split at taken
    next fence phase =>
      have holds := was.locked (by simp [phase, inLock])
      have undrained : ¬ state.shutdown.Drained := fun done => was.cleared done fence phase
      split at taken
      next =>
        refine some.inj taken ▸ sound.update ?_ sound.drained (by simp [holds, eq_comm]) (fun _ _ => id)
        exact was.goto (by simp [phase, Child.Turned]) (by simp [inLock]) (by simp) (fun _ => .inl rfl)
      next =>
        refine some.inj taken ▸ sound.update ?_ (fun done => absurd done undrained) (by simp [holds, eq_comm])
          (fun _ _ => List.mem_cons_of_mem spawn)
        exact { was.goto (by simp [phase, Child.Turned]) (by simp [inLock]) (by simp)
          (fun _ => .inr List.mem_cons_self) with }
    next => cases taken
  case shutRefused =>
    obtain ⟨phase, rfl⟩ := taken
    exact sound.set (was.failed was.cancelled)

theorem mem_withoutEntry {other : Spawn} (different : other ≠ spawn) (listed : other ∈ state.table) :
    other ∈ state.withoutEntry spawn :=
  List.mem_filter.mpr ⟨listed, by simpa using different⟩

section

variable (sound : state.Sound)
include sound

theorem Sound.emptied (done : state.shutdown.Drained) : state.withoutEntry spawn = [] := by
  rw [withoutEntry, sound.drained done, List.filter_nil]

theorem Sound.complete {turn : Turn}
    (taken : state.complete spawn (state.children spawn).phase turn = some later) : later.Sound := by
  have was := sound.each spawn
  cases turn <;> simp only [Processes.complete, ite_none_right_eq_some, some.injEq, reduceCtorEq] at taken
  case register failure =>
    obtain ⟨phase, rfl⟩ := taken
    refine sound.set (was.goto (by simp [phase, Child.Turned]) ?_ ?_ ?_)
    all_goals cases failure <;> simp [phase, inLock, inHand]
  case remove =>
    obtain ⟨⟨free, phase⟩, taken⟩ := taken
    have unturned : ¬ (state.children spawn).Turned := by
      rcases phase with phase | phase | ⟨phase, _⟩ <;> simp [phase, Child.Turned]
    have apart : (state.children spawn).phase.inHand = false := by
      rcases phase with phase | phase | ⟨phase, _⟩ <;> simp [phase, inHand]
    split at taken
    next =>
      refine some.inj taken ▸ sound.update ?_ sound.emptied (fun _ _ => id) (fun _ => mem_withoutEntry)
      exact was.goto (fun _ turned => absurd turned unturned) (by simp [inLock]) (by simp) (fun _ => .inl rfl)
    next =>
      exact some.inj taken ▸ sound.set (was.goto (fun _ _ => .inr rfl) (by simp [inLock]) (by simp)
        (Or.imp_left fun hand => absurd hand (by simp [apart])))
  case terminate =>
    obtain ⟨phase, rfl⟩ := taken
    exact sound.set (was.failed fun _ => rfl)
  case answer =>
    obtain ⟨phase, rfl⟩ := taken
    exact sound.set (was.goto (by simp [phase, Child.Turned]) (by simp [inLock])
      (by simp) (by simp [phase, inHand]))

theorem Sound.handle {turn : Turn}
    (taken : state.handle spawn (state.children spawn) turn = some later) : later.Sound := by
  have was := sound.each spawn
  cases turn <;> simp only [Processes.handle, ite_none_right_eq_some, some.injEq, reduceCtorEq] at taken
  case kill =>
    obtain ⟨_, rfl⟩ := taken
    exact sound.set (was.shutDown fun _ => rfl)
  case releaseBegin =>
    obtain ⟨⟨_, phase⟩, rfl⟩ := taken
    exact sound.set (was.release (by simp [phase]) (by simp) fun _ => id)
  case releaseCancel =>
    obtain ⟨phase, rfl⟩ := taken
    exact sound.set (was.release (by simp [phase]) (by simp) fun _ => id)
  case releaseRemove =>
    obtain ⟨⟨free, phase⟩, rfl⟩ := taken
    refine sound.update ?_ sound.emptied (fun _ _ => id) (fun _ => mem_withoutEntry)
    exact was.release (by simp [phase]) (by simp) fun absent => absurd ⟨rfl, was.cancelled phase⟩ absent
  case releaseShut =>
    obtain ⟨phase, rfl⟩ := taken
    exact sound.set (was.shutDown (by simp))

theorem Sound.shutdownTurn {turn : ShutdownTurn} (taken : state.shutdownTurn turn = some later) :
    later.Sound := by
  cases turn <;> simp only [Processes.shutdownTurn, ite_none_right_eq_some, some.injEq] at taken
  case close =>
    obtain ⟨phase, rfl⟩ := taken
    refine ⟨fun _ => rfl, nofun, fun spawn => ?_⟩
    have was := sound.each spawn
    exact { was with
      late := fun late => ⟨rfl, (was.late late).2⟩
      cleared := nofun
      kept := by simpa [phase, ShutdownPhase.left] using was.kept }
  case fence =>
    obtain ⟨phase, rfl⟩ := taken
    refine ⟨fun _ => sound.closing (by simp [phase]), nofun, fun spawn => ?_⟩
    have was := sound.each spawn
    exact { was with
      cleared := nofun
      kept := by simpa [phase, ShutdownPhase.left] using was.kept }
  case drain =>
    obtain ⟨⟨phase, free⟩, rfl⟩ := taken
    refine ⟨fun _ => sound.closing (by simp [phase]), fun _ => rfl, fun spawn => ?_⟩
    have was := sound.each spawn
    exact { was with
      -- a spawn that has seen the flag down would hold the lock
      cleared := fun _ fence (cleared : (state.children spawn).phase = .cleared fence) => by
        have holds := was.locked (by rw [cleared]; rfl)
        rw [free] at holds
        cases holds
      kept := fun made => by simpa [phase, ShutdownPhase.left, Child.Kept] using was.kept made }
  case terminateNext =>
    split at taken
    next spawn left phase =>
      have done : state.shutdown.Drained := by simp [phase, ShutdownPhase.Drained]
      have terminated : Sound (state.set spawn (state.children spawn).terminated) :=
        sound.set ((sound.each spawn).shutDown fun _ => rfl)
      refine some.inj taken ▸ ⟨fun _ => sound.closed done, fun _ => sound.drained done, fun other => ?_⟩
      have was := terminated.each other
      refine { was with cleared := fun _ => was.cleared done, kept := fun made => ?_ }
      by_cases same : other = spawn
      · rw [same]
        exact .inr (.inr (.inr (.inr (by simp [Processes.set, Child.terminated]))))
      · exact (was.kept made).imp_right
          (Or.imp_right (Or.imp_left (by simp [Processes.set, phase, ShutdownPhase.left, same])))
    next => cases taken
  case finish =>
    obtain ⟨phase, rfl⟩ := taken
    have done : state.shutdown.Drained := by simp [phase, ShutdownPhase.Drained]
    refine ⟨fun _ => sound.closed done, fun _ => sound.drained done, fun spawn => ?_⟩
    have was := sound.each spawn
    exact { was with
      cleared := fun _ => was.cleared done
      kept := by simpa [phase, ShutdownPhase.left] using was.kept }

theorem Sound.step {step : (Spawn × Turn) ⊕ ShutdownTurn} (taken : state.next step = some later) :
    later.Sound := by
  rcases step with ⟨spawn, turn⟩ | turn
  · rw [next, or_eq_some_iff, or_eq_some_iff, or_eq_some_iff] at taken
    rcases taken with taken | ⟨_, taken | ⟨_, taken | ⟨_, taken⟩⟩⟩
    · exact sound.prepare taken
    · exact sound.enter taken
    · exact sound.complete taken
    · exact sound.handle taken
  · exact sound.shutdownTurn taken

end

structure Quiet (state : Processes Spawn) : Prop where
  shutdown : state.shutdown = .returned
  spawns : ∀ spawn, (state.children spawn).phase = .idle ∨ ∃ handle, (state.children spawn).phase = .returned handle

theorem shutdown_reaches_every_process {steps : List ((Spawn × Turn) ⊕ ShutdownTurn)} {final : Processes Spawn}
    (reached : run next start steps = some final) (quiet : final.Quiet) :
    (∀ spawn, (final.children spawn).created = true →
      ((final.children spawn).cancelled = true ∨ (final.children spawn).shut = true) ∧
      ((final.children spawn).release ≠ .removed → (final.children spawn).shut = true)) ∧
    final.table = [] ∧
    ∀ spawn, (final.children spawn).late = true → (final.children spawn).phase ≠ .returned true := by
  -- a process that is left alone has a release still on its way to it
  have sound : final.Sound :=
    run_invariant (fun _ _ _ sound _ taken => sound.step taken) sound_start (along_true _ _) reached
  have empty : final.table = [] := sound.drained (by simp [quiet.shutdown, ShutdownPhase.Drained])
  refine ⟨fun spawn made => ?_, empty, fun spawn late handle => ?_⟩
  · have apart : (final.children spawn).phase.inHand = false := by
      rcases quiet.spawns spawn with phase | ⟨handle, phase⟩ <;> simp [phase, inHand]
    rcases (sound.each spawn).kept made with hand | entry | terminating | ⟨phase, cancelled⟩ | shut
    · simp [apart] at hand
    · simp [empty] at entry
    · simp [quiet.shutdown, ShutdownPhase.left] at terminating
    · exact ⟨.inl cancelled, fun other => absurd phase other⟩
    · exact ⟨.inr shut, fun _ => shut⟩
  · rcases ((sound.each spawn).late late).2 with phase | phase <;> simp [handle] at phase

def shutdownRace : List ((Bool × Turn) ⊕ ShutdownTurn) :=
  [.inl (true, .begin), .inl (true, .lookClosing), .inl (true, .lookClosing), .inl (true, .lookClosing),
    .inl (true, .loadFence), .inl (true, .systemSpawn), .inl (true, .lockTable), .inl (true, .readClosing),
    .inl (true, .readFence), .inl (true, .register none), .inl (true, .answer),
    .inl (false, .begin), .inl (false, .lookClosing), .inl (false, .lookClosing), .inl (false, .lookClosing),
    .inl (false, .loadFence), .inr .close, .inl (false, .systemSpawn), .inr .fence, .inr .drain,
    .inl (false, .lockTable), .inl (false, .readClosing), .inr .terminateNext, .inl (false, .shutRefused), .inr .finish]

theorem shutdownRace_reaches_both : ∃ final, run next start shutdownRace = some final ∧ final.Quiet ∧
      (∀ spawn, (final.children spawn).created = true →
        ((final.children spawn).cancelled = true ∨ (final.children spawn).shut = true) ∧
        ((final.children spawn).release ≠ .removed → (final.children spawn).shut = true)) ∧
      final.table = [] ∧
      ∀ spawn, (final.children spawn).late = true → (final.children spawn).phase ≠ .returned true := by
  have done : ((run next start shutdownRace).map fun final => final.shutdown) = some .returned := by decide
  have back : ∀ spawn, ((run next start shutdownRace).map fun final => (final.children spawn).phase) =
      some (.returned spawn) := by decide
  cases reached : run next start shutdownRace with
  | none => simp [reached] at done
  | some final =>
    simp only [reached, map_some, some.injEq] at done back
    have quiet : final.Quiet := ⟨done, fun spawn => .inr ⟨spawn, back spawn⟩⟩
    exact ⟨final, rfl, quiet, shutdown_reaches_every_process reached quiet⟩

end Processes

end RustScriptAgent.Capabilities
