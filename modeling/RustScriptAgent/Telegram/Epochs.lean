import Mathlib.Data.List.Perm.Basic

namespace RustScriptAgent.Telegram

open Option

/-- The `u64` and `usize` counters, without their bounds. -/
structure EpochEntry where
  epoch : Nat
  renderers : Nat
  deriving DecidableEq

abbrev EpochState := String → Option EpochEntry

namespace EpochState

def entryOrDefault (state : EpochState) (sessionId : String) : EpochEntry := (state sessionId).getD ⟨0, 0⟩

def set (state : EpochState) (sessionId : String) (entry : Option EpochEntry) : EpochState :=
  fun id => if id = sessionId then entry else state id

def epochCapture (state : EpochState) (sessionId : String) : EpochState × Nat :=
  let entry := state.entryOrDefault sessionId
  (state.set sessionId (some { entry with renderers := entry.renderers + 1 }), entry.epoch)

def epochRelease (state : EpochState) (sessionId : String) : EpochState :=
  match state sessionId with
  | some entry =>
    let left := entry.renderers - 1
    state.set sessionId (if left = 0 then none else some { entry with renderers := left })
  | none => state

def epochBump (state : EpochState) (sessionId : String) : EpochState :=
  let entry := state.entryOrDefault sessionId
  state.set sessionId (if entry.renderers = 0 then none else some { entry with epoch := entry.epoch + 1 })

def epochCurrent (state : EpochState) (sessionId : String) (epoch : Nat) : Bool :=
  ((state sessionId).map EpochEntry.epoch).getD 0 == epoch

@[simp] theorem set_self (state : EpochState) (sessionId : String) (entry : Option EpochEntry) :
    state.set sessionId entry sessionId = entry := if_pos rfl

theorem set_other (state : EpochState) {sessionId id : String} (entry : Option EpochEntry) (other : id ≠ sessionId) :
    state.set sessionId entry id = state id := if_neg other

end EpochState

structure Renderer where
  sessionId : String
  epoch : Nat
  born : Nat
  deriving DecidableEq

structure Renderers where
  epochs : EpochState
  alive : List Renderer
  resets : String → Nat

namespace Renderers

open EpochState

def none : Renderers := ⟨fun _ => .none, [], fun _ => 0⟩

inductive Event where
  | spawn (sessionId : String)
  | finish (place : Nat)
  | new (sessionId : String)

def step (state : Renderers) : Event → Renderers
  | .spawn sessionId =>
    let captured := state.epochs.epochCapture sessionId
    { state with
      epochs := captured.1
      alive := state.alive ++ [⟨sessionId, captured.2, state.resets sessionId⟩] }
  | .finish place =>
    match state.alive[place]? with
    | some renderer =>
      { state with
        epochs := state.epochs.epochRelease renderer.sessionId
        alive := state.alive.eraseIdx place }
    | .none => state
  | .new sessionId =>
    { state with
      epochs := state.epochs.epochBump sessionId
      resets := fun id => if id = sessionId then state.resets id + 1 else state.resets id }

def run (events : List Event) : Renderers := events.foldl step none

def count (state : Renderers) (sessionId : String) : Nat :=
  state.alive.countP fun renderer => renderer.sessionId == sessionId

structure Sound (state : Renderers) : Prop where
  counted : ∀ sessionId, state.count sessionId = ((state.epochs sessionId).map EpochEntry.renderers).getD 0
  needed : ∀ sessionId entry, state.epochs sessionId = some entry → 0 < entry.renderers
  moved : ∀ renderer ∈ state.alive, ∀ entry, state.epochs renderer.sessionId = some entry →
    renderer.epoch ≤ entry.epoch ∧
      entry.epoch - renderer.epoch + renderer.born = state.resets renderer.sessionId

theorem sound_none : Sound none where
  counted _ := rfl
  needed _ _ held := by cases held
  moved _ member := by cases member

variable {state : Renderers}

section

variable (sound : state.Sound)
include sound

theorem Sound.entry_iff (sessionId : String) :
    (state.epochs sessionId).isSome ↔ ∃ renderer ∈ state.alive, renderer.sessionId = sessionId := by
  have counted := sound.counted sessionId
  have alive : (∃ renderer ∈ state.alive, renderer.sessionId = sessionId) ↔ 0 < state.count sessionId := by
    simp [count, List.countP_pos_iff]
  rw [alive, counted]
  cases held : state.epochs sessionId with
  | none => simp
  | some entry => simpa using sound.needed sessionId entry held

theorem Sound.spawn (sessionId : String) : (state.step (.spawn sessionId)).Sound := by
  have counted (id : String) : (state.step (.spawn sessionId)).count id =
      state.count id + if sessionId = id then 1 else 0 := by
    simp [step, count, List.countP_append, List.countP_cons]
  refine ⟨fun id => ?_, fun id entry held => ?_, fun renderer member entry held => ?_⟩
  · rw [counted, sound.counted id]
    by_cases same : id = sessionId
    · subst same
      simp only [step, epochCapture, set_self, entryOrDefault, if_true]
      cases state.epochs id <;> simp
    · rw [if_neg (Ne.symm same)]
      simp only [step, epochCapture, set_other _ _ same, Nat.add_zero]
  · by_cases same : id = sessionId
    · subst same
      simp only [step, epochCapture, set_self, some.injEq] at held
      rw [← held]
      exact Nat.succ_pos _
    · simp only [step, epochCapture, set_other _ _ same] at held
      exact sound.needed id entry held
  · simp only [step, epochCapture, List.mem_append, List.mem_singleton] at member held
    rcases member with old | rfl
    · by_cases same : renderer.sessionId = sessionId
      · -- the session has an entry already, which keeps its epoch
        obtain ⟨before, known⟩ := isSome_iff_exists.mp ((sound.entry_iff sessionId).mpr ⟨renderer, old, same⟩)
        rw [same, set_self, entryOrDefault, known] at held
        cases held
        rw [← same] at known
        exact sound.moved renderer old before known
      · rw [set_other _ _ same] at held
        exact sound.moved renderer old entry held
    · rw [set_self] at held
      cases held
      simp [step]

theorem Sound.finish (place : Nat) : (state.step (.finish place)).Sound := by
  cases found : state.alive[place]? with
  | none =>
    have same : state.step (.finish place) = state := by simp only [step, found]
    rw [same]
    exact sound
  | some renderer =>
    obtain ⟨inside, here⟩ := List.getElem?_eq_some_iff.mp found
    have member : renderer ∈ state.alive := here ▸ List.getElem_mem inside
    obtain ⟨entry, known⟩ := isSome_iff_exists.mp
      ((sound.entry_iff renderer.sessionId).mpr ⟨renderer, member, rfl⟩)
    have counted (id : String) : (state.alive.eraseIdx place).countP (fun other => other.sessionId == id) +
        (if renderer.sessionId = id then 1 else 0) = state.count id := by
      have split := (List.getElem_cons_eraseIdx_perm inside).countP_eq fun other => other.sessionId == id
      rw [here, List.countP_cons] at split
      simp only [beq_iff_eq] at split
      exact split
    simp only [step, found, epochRelease, known]
    refine ⟨fun id => ?_, fun id left held => ?_, fun other there left held => ?_⟩
    all_goals dsimp only at *
    · have one := counted id
      rw [sound.counted id] at one
      simp only [count]
      by_cases same : id = renderer.sessionId
      · subst same
        rw [known] at one
        simp only [if_true, map_some, getD_some] at one
        simp only [set_self]
        split_ifs with last
        · simp only [map_none, getD_none]
          omega
        · simp only [map_some, getD_some]
          omega
      · rw [if_neg (Ne.symm same)] at one
        simpa only [set_other _ _ same, Nat.add_zero] using one
    · by_cases same : id = renderer.sessionId
      · subst same
        rw [set_self] at held
        split_ifs at held with last
        cases held
        exact Nat.pos_of_ne_zero last
      · rw [set_other _ _ same] at held
        exact sound.needed id left held
    · have old := List.mem_of_mem_eraseIdx there
      by_cases same : other.sessionId = renderer.sessionId
      · rw [same, set_self] at held
        split_ifs at held
        cases held
        exact sound.moved other old entry (by rw [same]; exact known)
      · rw [set_other _ _ same] at held
        exact sound.moved other old left held

theorem Sound.new (sessionId : String) : (state.step (.new sessionId)).Sound := by
  have bumped (id : String) (other : id ≠ sessionId) : (state.step (.new sessionId)).epochs id = state.epochs id := by
    simp only [step, epochBump, set_other _ _ other]
  have own : (state.step (.new sessionId)).epochs sessionId =
      (state.epochs sessionId).map fun entry => { entry with epoch := entry.epoch + 1 } := by
    simp only [step, epochBump, set_self, entryOrDefault]
    by_cases absent : state.epochs sessionId = Option.none
    · simp [absent]
    · obtain ⟨entry, known⟩ := ne_none_iff_exists'.mp absent
      simp [known, Nat.pos_iff_ne_zero.mp (sound.needed sessionId entry known)]
  refine ⟨fun id => ?_, fun id entry held => ?_, fun renderer member entry held => ?_⟩
  · refine (sound.counted id).trans ?_
    by_cases same : id = sessionId
    · rw [same, own]
      cases state.epochs sessionId <;> rfl
    · rw [bumped id same]
  · by_cases same : id = sessionId
    · rw [same, own] at held
      obtain ⟨before, known, rfl⟩ := map_eq_some_iff.mp held
      exact sound.needed sessionId before known
    · rw [bumped id same] at held
      exact sound.needed id entry held
  · by_cases same : renderer.sessionId = sessionId
    · rw [same, own] at held
      obtain ⟨before, known, rfl⟩ := map_eq_some_iff.mp held
      have moved := sound.moved renderer member before (by rw [same]; exact known)
      simp only [step, same, if_true]
      rw [same] at moved
      omega
    · rw [bumped _ same] at held
      simp only [step, same, if_false]
      exact sound.moved renderer member entry held

end

theorem run_sound (events : List Event) : (run events).Sound := by
  have walk (state : Renderers) (sound : state.Sound) : (events.foldl step state).Sound := by
    induction events generalizing state with
    | nil => exact sound
    | cons event rest ih =>
      refine ih (state.step event) ?_
      cases event with
      | spawn sessionId => exact sound.spawn sessionId
      | finish place => exact sound.finish place
      | new sessionId => exact sound.new sessionId
  exact walk none sound_none

end Renderers

theorem epoch_check_iff_not_reset (events : List Renderers.Event) :
    (∀ renderer ∈ (Renderers.run events).alive,
      ((Renderers.run events).epochs.epochCurrent renderer.sessionId renderer.epoch = true ↔
        (Renderers.run events).resets renderer.sessionId = renderer.born)) ∧
      ∀ sessionId, ((Renderers.run events).epochs sessionId).isSome = true ↔
        ∃ renderer ∈ (Renderers.run events).alive, renderer.sessionId = sessionId := by
  -- the sessions with an entry are those with a live renderer
  have sound := Renderers.run_sound events
  refine ⟨fun renderer member => ?_, fun sessionId => sound.entry_iff sessionId⟩
  obtain ⟨entry, known⟩ := isSome_iff_exists.mp
    ((sound.entry_iff renderer.sessionId).mpr ⟨renderer, member, rfl⟩)
  have moved := sound.moved renderer member entry known
  simp only [EpochState.epochCurrent, known, map_some, getD_some, beq_iff_eq]
  omega

def resetBetween : List Renderers.Event := [.spawn "a", .spawn "b", .new "a", .spawn "a"]

theorem epoch_check_around_reset :
    (Renderers.run resetBetween).epochs.epochCurrent "a" 0 = false ∧
      (Renderers.run resetBetween).epochs.epochCurrent "a" 1 = true ∧
      (Renderers.run resetBetween).epochs.epochCurrent "b" 0 = true := by
  have checked := (epoch_check_iff_not_reset resetBetween).1
  refine ⟨?_, (checked ⟨"a", 1, 1⟩ (by decide)).mpr (by decide), (checked ⟨"b", 0, 0⟩ (by decide)).mpr (by decide)⟩
  exact Bool.eq_false_iff.mpr fun passes =>
    absurd ((checked ⟨"a", 0, 0⟩ (by decide)).mp passes) (by decide)

end RustScriptAgent.Telegram
