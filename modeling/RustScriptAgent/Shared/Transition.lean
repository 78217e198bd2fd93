import Mathlib.Data.List.Induction
import Mathlib.Data.Option.Basic

namespace Transitions

variable {State Label : Type} (next : State → Label → Option State)

def run : State → List Label → Option State
  | state, [] => some state
  | state, label :: rest => (next state label).bind fun later => run later rest

def Along (allowed : State → Label → Prop) : State → List Label → Prop
  | _, [] => True
  | state, label :: rest => allowed state label ∧ ∀ later, next state label = some later → Along allowed later rest

variable {next}

theorem run_cons {state final : State} {label : Label} {rest : List Label} :
    run next state (label :: rest) = some final ↔
      ∃ later, next state label = some later ∧ run next later rest = some final := by
  simp [run, Option.bind_eq_some_iff]

theorem along_cons {allowed : State → Label → Prop} {state later : State} {label : Label} {rest : List Label}
    (taken : next state label = some later) :
    Along next allowed state (label :: rest) ↔ allowed state label ∧ Along next allowed later rest := by
  simp [Along, taken]

theorem along_true (state : State) (labels : List Label) : Along next (fun _ _ => True) state labels := by
  induction labels generalizing state with
  | nil => trivial
  | cons label rest ih => exact ⟨trivial, fun later _ => ih later⟩

theorem Along.and_forall {allowed : State → Label → Prop} {meets : Label → Prop} {labels : List Label} {state : State}
    (along : Along next allowed state labels) (all : ∀ label ∈ labels, meets label) :
    Along next (fun state label => meets label ∧ allowed state label) state labels := by
  induction labels generalizing state with
  | nil => trivial
  | cons label rest ih =>
    obtain ⟨here, others⟩ := List.forall_mem_cons.mp all
    exact ⟨⟨here, along.1⟩, fun later taken => ih (along.2 later taken) others⟩

instance decidableAlong {allowed : State → Label → Prop} [∀ state label, Decidable (allowed state label)] :
    ∀ state labels, Decidable (Along next allowed state labels)
  | _, [] => isTrue trivial
  | state, label :: rest =>
    match taken : next state label with
    | none => decidable_of_iff (allowed state label) (by simp [Along, taken])
    | some later =>
      have _ : Decidable (Along next allowed later rest) := decidableAlong later rest
      decidable_of_iff (allowed state label ∧ Along next allowed later rest) (along_cons taken).symm

theorem run_append (state : State) (labels more : List Label) :
    run next state (labels ++ more) = (run next state labels).bind fun middle => run next middle more := by
  induction labels generalizing state with
  | nil => rfl
  | cons label rest ih =>
    simp only [List.cons_append, run, Option.bind_assoc]
    exact Option.bind_congr fun later _ => ih later

theorem run_concat {state final : State} {labels : List Label} {label : Label} :
    run next state (labels ++ [label]) = some final ↔
      ∃ middle, run next state labels = some middle ∧ next middle label = some final := by
  simp [run_append, run, Option.bind_eq_some_iff]

theorem run_induction {holds : List Label → State → Prop} {start : State} (first : holds [] start)
    (step : ∀ labels state label later, run next start labels = some state → holds labels state →
      next state label = some later → holds (labels ++ [label]) later)
    {labels : List Label} {final : State} (reached : run next start labels = some final) : holds labels final := by
  induction labels using List.reverseRecOn generalizing final with
  | nil =>
    cases reached
    exact first
  | append_singleton labels label ih =>
    obtain ⟨middle, before, taken⟩ := run_concat.mp reached
    exact step labels middle label final before (ih before) taken

theorem run_invariant {invariant : State → Prop} {allowed : State → Label → Prop}
    (kept : ∀ state label later, invariant state → allowed state label → next state label = some later →
      invariant later)
    {labels : List Label} {start final : State} (holds : invariant start)
    (along : Along next allowed start labels) (reached : run next start labels = some final) :
    invariant final := by
  induction labels generalizing start with
  | nil =>
    cases reached
    exact holds
  | cons label rest ih =>
    obtain ⟨later, taken, onward⟩ := run_cons.mp reached
    exact ih (kept start label later holds along.1 taken) (along.2 later taken) onward

theorem run_good_iff_along {sound good bad : State → Prop} {assumed allowed : State → Label → Prop}
    (kept : ∀ state label later, sound state → assumed state label → next state label = some later → sound later)
    (keeps : ∀ state label later, sound state → assumed state label → next state label = some later → good state →
      allowed state label → good later)
    (breaks : ∀ state label later, sound state → assumed state label → next state label = some later → good state →
      ¬ allowed state label → bad later)
    (stays : ∀ state label later, sound state → assumed state label → next state label = some later → bad state →
      bad later)
    (excludes : ∀ state, bad state → ¬ good state)
    {labels : List Label} {start final : State} (holds : sound start) (well : good start)
    (along : Along next assumed start labels) (reached : run next start labels = some final) :
    good final ↔ Along next allowed start labels := by
  -- what allowed steps keep and any other step breaks for good holds after a run iff all its steps were allowed
  have worse {labels : List Label} {start : State} (holds : sound start) (ill : bad start)
      (along : Along next assumed start labels) (reached : run next start labels = some final) : bad final :=
    (run_invariant (fun state label later both met taken =>
      And.intro (kept state label later both.1 met taken) (stays state label later both.1 met taken both.2))
      ⟨holds, ill⟩ along reached).2
  induction labels generalizing start with
  | nil =>
    cases reached
    exact iff_of_true well trivial
  | cons label rest ih =>
    obtain ⟨later, taken, onward⟩ := run_cons.mp reached
    have held := kept start label later holds along.1 taken
    by_cases met : allowed start label
    · have onwards := ih held (keeps start label later holds along.1 taken well met) (along.2 later taken) onward
      exact onwards.trans ((along_cons taken).trans (and_iff_right met)).symm
    · have ill := breaks start label later holds along.1 taken well met
      exact iff_of_false (excludes final (worse held ill (along.2 later taken) onward)) fun allowed => met allowed.1

end Transitions
