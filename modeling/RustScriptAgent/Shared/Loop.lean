import Mathlib.Order.WellFounded

namespace Loops

variable {State Rank : Type}

def whileDo (test : State → Bool) (body : State → State) : Nat → State → Option State
  | 0, state => if test state then none else some state
  | fuel + 1, state => if test state then whileDo test body fuel (body state) else some state

variable {test : State → Bool} {body : State → State} {below : Rank → Rank → Prop}

theorem whileDo_total (wellFounded : WellFounded below) (rank : State → Rank) (invariant : State → Prop)
    (turn : ∀ state, invariant state → test state → invariant (body state) ∧ below (rank (body state)) (rank state))
    {state : State} (start : invariant state) :
    ∃ final turns, (∀ fuel, turns ≤ fuel → whileDo test body fuel state = some final) ∧
      invariant final ∧ test final = false := by
  induction wanted : rank state using wellFounded.induction generalizing state with
  | h _ ih =>
    cases more : test state with
    | false =>
      refine ⟨state, 0, fun fuel _ => ?_, start, more⟩
      cases fuel <;> simp [whileDo, more]
    | true =>
      obtain ⟨kept, lower⟩ := turn state start more
      obtain ⟨final, turns, runs, holds⟩ := ih _ (wanted ▸ lower) kept rfl
      refine ⟨final, turns + 1, fun fuel enough => ?_, holds⟩
      obtain ⟨less, rfl⟩ : ∃ less, fuel = less + 1 := ⟨fuel - 1, by omega⟩
      rw [whileDo, if_pos more, runs less (by omega)]

end Loops
