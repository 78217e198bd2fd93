import Mathlib.Data.List.Basic
import RustScriptAgent.Shared.Transition

namespace RustScriptAgent.Runtime

open Transitions

inductive CancellationReason where
  | deadline
  | requested
  | resourceClosed
  deriving DecidableEq

-- One root serves every script of a run; each script arms a watcher thread with the epoch of its own VM.
structure RunCancellation where
  requested : Option CancellationReason := none
  deadline : Option Nat := none
  watcher : Option Nat := none
  stop : Bool := false
  token : Bool := false
  deadlineOverflow : Bool := false
  deriving DecidableEq

def maxRunTimeout : Nat := 24 * 60 * 60 * 1000

def runEpochDeadlineTicks : Nat := 1000000000

namespace RunCancellation

def withDeadline (deadline : Nat) : RunCancellation := { deadline := some deadline }

/-- `checked_add` fails on an instant beyond the clock's last one. -/
def withTimeout (lastInstant now timeout : Nat) : RunCancellation :=
  if maxRunTimeout < timeout then { deadlineOverflow := true }
  else if lastInstant < now + timeout then { deadlineOverflow := true }
  else withDeadline (now + timeout)

def request (root : RunCancellation) (reason : CancellationReason) : RunCancellation :=
  { root with requested := root.requested.or (some reason), token := true }

def fromWallDeadlineMs (lastInstant now deadlineAtMs nowMs : Nat) : RunCancellation :=
  if deadlineAtMs ≤ nowMs then RunCancellation.request {} .deadline
  else withTimeout lastInstant now (deadlineAtMs - nowMs)

def child (root : RunCancellation) : RunCancellation := { root with watcher := none, stop := false }

def deadlinePassed (root : RunCancellation) (now : Nat) : Bool :=
  root.deadline.any fun deadline => decide (deadline ≤ now)

def fires (root : RunCancellation) (now : Nat) : Bool := root.requested.isSome || root.deadlinePassed now

structure Fresh (root : RunCancellation) : Prop where
  unwatched : root.watcher = none
  going : root.stop = false

theorem withTimeout_fresh (lastInstant now timeout : Nat) : (withTimeout lastInstant now timeout).Fresh := by
  unfold withTimeout
  split_ifs <;> exact ⟨rfl, rfl⟩

theorem fromWallDeadlineMs_fresh (lastInstant now deadlineAtMs nowMs : Nat) :
    (fromWallDeadlineMs lastInstant now deadlineAtMs nowMs).Fresh := by
  unfold fromWallDeadlineMs
  split_ifs
  · exact ⟨rfl, rfl⟩
  · exact withTimeout_fresh lastInstant now (deadlineAtMs - nowMs)

theorem child_fresh (root : RunCancellation) : root.child.Fresh := ⟨rfl, rfl⟩

end RunCancellation

structure ArmedVm where
  epoch : Nat
  epochDeadline : Nat
  watching : Bool
  deriving DecidableEq

structure Machine where
  root : RunCancellation
  clock : Nat
  vms : List ArmedVm
  deriving DecidableEq

inductive Event where
  | request (reason : CancellationReason)
  | elapse (milliseconds : Nat)
  | watch (thread : Nat)
  deriving DecidableEq

inductive Label where
  /-- `prepare_vm` sets the epoch deadline of a new VM and arms the root. -/
  | arm (epoch : Nat)
  | disarm
  | event (event : Event)
  deriving DecidableEq

namespace Machine

def start (root : RunCancellation) (clock : Nat) : Machine where
  root := root
  clock := clock
  vms := []

def leave (vm : ArmedVm) : ArmedVm := { vm with watching := false }

/-- `epoch.increment_by(RUN_EPOCH_DEADLINE_TICKS)`, and the thread is over. -/
def interrupt (vm : ArmedVm) : ArmedVm :=
  { vm with epoch := vm.epoch + runEpochDeadlineTicks, watching := false }

def watch (machine : Machine) (thread : Nat) : Machine :=
  if machine.root.stop then { machine with vms := machine.vms.modify thread leave }
  else if machine.root.fires machine.clock then
    { machine with
      root := { machine.root with token := true }
      vms := machine.vms.modify thread interrupt }
  else machine

def next (machine : Machine) : Label → Option Machine
  | .arm epoch =>
    some { machine with
      root := { machine.root with watcher := some machine.vms.length }
      vms := machine.vms ++
        [{ epoch := epoch, epochDeadline := epoch + runEpochDeadlineTicks, watching := true }] }
  | .disarm =>
    -- the join returns once the thread has seen the flag
    some { machine with
      root := { machine.root with stop := true, watcher := none }
      vms := match machine.root.watcher with
        | some thread => machine.vms.modify thread leave
        | none => machine.vms }
  | .event (.request reason) => some { machine with root := machine.root.request reason }
  | .event (.elapse milliseconds) => some { machine with clock := machine.clock + milliseconds }
  | .event (.watch thread) =>
    if (machine.vms[thread]?).any ArmedVm.watching then some (machine.watch thread) else none

def Interrupted (machine : Machine) (thread : Nat) : Prop :=
  machine.root.token = true ∧ ∃ vm, machine.vms[thread]? = some vm ∧ vm.epochDeadline ≤ vm.epoch

def Interruptible (machine : Machine) (thread : Nat) : Prop :=
  machine.Interrupted thread ∨ ∃ later, machine.next (.event (.watch thread)) = some later ∧ later.Interrupted thread

section Watched

variable {machine later : Machine} {thread epoch : Nat}

structure Watched (machine : Machine) (thread epoch : Nat) (vm : ArmedVm) : Prop where
  slot : machine.root.watcher = some thread
  armed : machine.vms[thread]? = some vm
  deadline : vm.epochDeadline = epoch + runEpochDeadlineTicks
  stopped : machine.root.stop = true → vm.epoch = epoch
  going : machine.root.stop = false → (vm.watching = true ∧ vm.epoch = epoch) ∨ machine.Interrupted thread

theorem arm_watched (taken : machine.next (.arm epoch) = some later) :
    later.root.stop = machine.root.stop ∧ ∃ vm, later.Watched machine.vms.length epoch vm := by
  cases taken
  refine ⟨rfl, ⟨epoch, epoch + runEpochDeadlineTicks, true⟩, rfl, ?_, rfl, fun _ => rfl, fun _ => .inl ⟨rfl, rfl⟩⟩
  simp

@[simp] theorem watch_stop (thread : Nat) : (machine.watch thread).root.stop = machine.root.stop := by
  unfold watch
  split_ifs <;> rfl

@[simp] theorem watch_watcher (thread : Nat) : (machine.watch thread).root.watcher = machine.root.watcher := by
  unfold watch
  split_ifs <;> rfl

theorem watch_other {other : Nat} (apart : other ≠ thread) :
    (machine.watch other).vms[thread]? = machine.vms[thread]? := by
  unfold watch
  split_ifs <;> simp [apart]

theorem watch_token (cancelled : machine.root.token) (thread : Nat) :
    (machine.watch thread).root.token := by
  unfold watch
  split_ifs <;> simp [cancelled]

variable {vm : ArmedVm}

section

variable (watched : machine.Watched thread epoch vm)
include watched

theorem Watched.reach (going : machine.root.stop = false) :
    vm.epochDeadline ≤ vm.epoch + runEpochDeadlineTicks := by
  rcases watched.going going with ⟨_, standing⟩ | ⟨_, other, armed, passed⟩
  · exact Nat.le_of_eq (by rw [watched.deadline, standing])
  · cases watched.armed.symm.trans armed
    omega

theorem Watched.fired (going : machine.root.stop = false)
    (fires : machine.root.fires machine.clock) :
    (machine.watch thread).vms[thread]? = some (interrupt vm) ∧ (machine.watch thread).Interrupted thread := by
  have turn : machine.watch thread =
      { machine with
        root := { machine.root with token := true }
        vms := machine.vms.modify thread interrupt } := by
    simp [watch, going, fires]
  have moved : (machine.watch thread).vms[thread]? = some (interrupt vm) := by simp [turn, watched.armed]
  exact ⟨moved, by rw [turn], interrupt vm, moved, watched.reach going⟩

theorem Watched.turn :
    ∃ vm, (machine.watch thread).Watched thread epoch vm := by
  cases stop : machine.root.stop with
  | true =>
    have turn : machine.watch thread = { machine with vms := machine.vms.modify thread leave } := by simp [watch, stop]
    refine ⟨leave vm, by rw [watch_watcher, watched.slot], by simp [turn, watched.armed], watched.deadline,
      fun _ => watched.stopped stop, fun going => ?_⟩
    rw [watch_stop, stop] at going
    cases going
  | false =>
    cases fires : machine.root.fires machine.clock with
    | false =>
      have turn : machine.watch thread = machine := by simp [watch, stop, fires]
      rw [turn]
      exact ⟨vm, watched⟩
    | true =>
      obtain ⟨moved, interrupted⟩ := watched.fired stop fires
      refine ⟨interrupt vm, by rw [watch_watcher, watched.slot], moved, watched.deadline, fun stopped => ?_,
        fun _ => .inr interrupted⟩
      rw [watch_stop, stop] at stopped
      cases stopped

theorem Watched.event {event : Event}
    (taken : machine.next (.event event) = some later) :
    later.root.stop = machine.root.stop ∧ ∃ vm, later.Watched thread epoch vm := by
  cases event with
  | request reason =>
    cases taken
    exact ⟨rfl, vm, watched.slot, watched.armed, watched.deadline, watched.stopped,
      fun going => (watched.going going).imp_right fun interrupted => ⟨rfl, interrupted.2⟩⟩
  | elapse milliseconds =>
    cases taken
    exact ⟨rfl, vm, watched.slot, watched.armed, watched.deadline, watched.stopped, watched.going⟩
  | watch other =>
    simp only [next] at taken
    split_ifs at taken with alive
    cases taken
    refine ⟨watch_stop other, ?_⟩
    by_cases own : other = thread
    · subst own
      exact watched.turn
    · refine ⟨vm, by rw [watch_watcher, watched.slot], by rw [watch_other own, watched.armed], watched.deadline,
        fun stopped => watched.stopped (watch_stop other ▸ stopped), fun going => ?_⟩
      refine (watched.going (watch_stop other ▸ going)).imp_right fun interrupted => ?_
      refine ⟨watch_token interrupted.1 other, ?_⟩
      rw [watch_other own]
      exact interrupted.2

theorem Watched.events {events : List Event}
    (reached : run next machine (events.map Label.event) = some later) :
    later.root.stop = machine.root.stop ∧ ∃ vm, later.Watched thread epoch vm := by
  induction events generalizing machine vm with
  | nil =>
    cases reached
    exact ⟨rfl, vm, watched⟩
  | cons event rest ih =>
    obtain ⟨middle, taken, onward⟩ := run_cons.mp reached
    obtain ⟨stop, _, stepped⟩ := watched.event taken
    obtain ⟨kept, final⟩ := ih stepped onward
    exact ⟨kept.trans stop, final⟩

theorem Watched.interruptible_iff
    (fires : machine.root.fires machine.clock) : machine.Interruptible thread ↔ machine.root.stop = false := by
  constructor
  · intro interruptible
    by_contra stop
    rw [Bool.not_eq_false] at stop
    have behind : ¬ vm.epochDeadline ≤ vm.epoch := by
      rw [watched.deadline, watched.stopped stop, runEpochDeadlineTicks]
      omega
    rcases interruptible with ⟨_, other, armed, passed⟩ | ⟨later, taken, _, other, armed, passed⟩
    · cases watched.armed.symm.trans armed
      exact behind passed
    · simp only [next] at taken
      split_ifs at taken
      cases taken
      have turn : machine.watch thread = { machine with vms := machine.vms.modify thread leave } := by
        simp [watch, stop]
      rw [turn] at armed
      simp only [List.getElem?_modify, watched.armed] at armed
      cases armed
      exact behind passed
  · intro going
    rcases watched.going going with ⟨alive, _⟩ | interrupted
    · refine .inr ⟨machine.watch thread, ?_, (watched.fired going fires).2⟩
      simp [next, watched.armed, alive]
    · exact .inl interrupted

end

end Watched

theorem stop_iff {machine later : Machine} {labels : List Label} (going : machine.root.stop = false)
    (reached : run next machine labels = some later) : later.root.stop ↔ Label.disarm ∈ labels := by
  refine @run_induction _ _ next (fun labels state => state.root.stop ↔ Label.disarm ∈ labels) machine
    (by simp [going]) ?_ labels later reached
  intro labels state label after _ flag taken
  rw [List.mem_append, ← flag]
  cases label with
  | arm epoch =>
    cases taken
    simp
  | disarm =>
    cases taken
    simp
  | event event =>
    cases event with
    | request reason =>
      cases taken
      simp [RunCancellation.request]
    | elapse milliseconds =>
      cases taken
      simp
    | watch thread =>
      simp only [next] at taken
      split_ifs at taken
      cases taken
      simp

end Machine

inductive Invocation where
  /-- `prepare_vm` failed before it armed the root; the guard disarms. -/
  | unprepared (meanwhile : List Event)
  /-- It failed between the arming and the end of `run_invocation`; the guard disarms. -/
  | abandoned (opening : List Event) (epoch : Nat) (during : List Event)
  /-- `run_invocation` returned and disarmed; the guard disarms again. -/
  | driven (opening : List Event) (epoch : Nat) (during closing : List Event)

namespace Invocation

def begun (opening : List Event) (epoch : Nat) (during : List Event) : List Label :=
  opening.map Label.event ++ .arm epoch :: during.map Label.event

def labels : Invocation → List Label
  | unprepared meanwhile => meanwhile.map Label.event ++ [.disarm]
  | abandoned opening epoch during => begun opening epoch during ++ [.disarm]
  | driven opening epoch during closing =>
    begun opening epoch during ++ [.disarm] ++ closing.map Label.event ++ [.disarm]

theorem disarm_mem_labels (invocation : Invocation) : Label.disarm ∈ invocation.labels := by
  cases invocation <;> simp [labels]

theorem disarm_mem_flatMap {earlier : List Invocation} : Label.disarm ∈ earlier.flatMap labels ↔ earlier ≠ [] := by
  constructor
  · rintro member rfl
    cases member
  · intro nonempty
    obtain ⟨first, rest, rfl⟩ := List.exists_cons_of_ne_nil nonempty
    exact List.mem_flatMap.mpr ⟨first, List.mem_cons_self, first.disarm_mem_labels⟩

end Invocation

open Invocation

theorem script_interruptible_iff (root : RunCancellation) (fresh : root.Fresh) (clock : Nat)
    (earlier : List Invocation) (opening : List Event) (epoch : Nat) (during : List Event) (machine : Machine)
    (reached : run Machine.next (Machine.start root clock)
      (earlier.flatMap labels ++ begun opening epoch during) = some machine)
    (fires : machine.root.fires machine.clock = true) :
    ∃ thread, machine.root.watcher = some thread ∧ (machine.Interruptible thread ↔ earlier = []) := by
  rw [begun, ← List.append_assoc, run_append, Option.bind_eq_some_iff] at reached
  obtain ⟨unarmed, before, onward⟩ := reached
  obtain ⟨armed, taken, after⟩ := run_cons.mp onward
  obtain ⟨kept, _, watched⟩ := Machine.arm_watched taken
  obtain ⟨still, _, final⟩ := watched.events after
  refine ⟨_, final.slot, ?_⟩
  have flag : unarmed.root.stop = true ↔ _ := Machine.stop_iff (by exact fresh.going) before
  have disarmed : Label.disarm ∈ earlier.flatMap labels ++ opening.map Label.event ↔ earlier ≠ [] := by
    rw [List.mem_append, disarm_mem_flatMap]
    simp
  rw [final.interruptible_iff fires, still, kept, ← Bool.not_eq_true, flag, disarmed, not_not]

def stoppedFirst : Machine where
  root := { deadline := some 1000, requested := some .requested, watcher := some 0, token := true }
  clock := 0
  vms := [{ epoch := 0, epochDeadline := runEpochDeadlineTicks, watching := true }]

theorem first_script_interruptible :
    (RunCancellation.withTimeout 100000 0 1000).Fresh ∧
      ∃ thread, stoppedFirst.root.watcher = some thread ∧
        (stoppedFirst.Interruptible thread ↔ ([] : List Invocation) = []) := by
  have fresh := RunCancellation.withTimeout_fresh 100000 0 1000
  exact ⟨fresh, script_interruptible_iff _ fresh 0 [] [] 0 [.request .requested] stoppedFirst (by decide) (by decide)⟩

def stoppedSecond : Machine where
  root := { deadline := some 1000, requested := some .requested, watcher := some 1, stop := true, token := true }
  clock := 0
  vms :=
    [{ epoch := 0, epochDeadline := runEpochDeadlineTicks, watching := false },
      { epoch := 0, epochDeadline := runEpochDeadlineTicks, watching := true }]

theorem second_script_runs_on :
    run Machine.next (Machine.start (RunCancellation.withTimeout 100000 0 1000) 0)
        ([driven [] 0 [] []].flatMap labels ++ begun [] 0 [.request .requested]) =
      some stoppedSecond ∧
    stoppedSecond.root.fires stoppedSecond.clock = true ∧
    (stoppedSecond.next (.event (.watch 1))).map (fun later => later.vms[1]?) =
      some (some { epoch := 0, epochDeadline := runEpochDeadlineTicks, watching := false }) := by
  -- its watcher sees the flag that the first script left up, and is gone before it looks at the request
  decide

end RustScriptAgent.Runtime
