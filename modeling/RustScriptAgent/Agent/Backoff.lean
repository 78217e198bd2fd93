import Mathlib.Algebra.Order.Ring.Int

namespace RustScriptAgent.Agent

open Int64

/-- One turn of the loop: the integer it gives to `delay`, before that is cut to 64 bits, or `none` where it breaks. -/
def backoffTurn (ceiling delay : Int64) : Option Int :=
  if ceiling ≤ delay ∨ delay = 0 then none
  else if ceiling / 2 < delay then some ceiling.toInt
  else some (delay.toInt * 2)

def backoffLoop (ceiling : Int64) : Nat → Int64 → Int64
  | 0, delay => delay
  | turns + 1, delay =>
    match backoffTurn ceiling delay with
    | none => delay
    | some value => backoffLoop ceiling turns (ofInt value)

def backoffCeiling (cap : Int64) : Int64 := if cap < 0 then 0 else cap

def backoffStart (base ceiling : Int64) : Int64 :=
  let delay := if base < 0 then 0 else base
  if ceiling < delay then ceiling else delay

def backoffDelayMs (base retryCount cap : Int64) : Int64 :=
  backoffLoop (backoffCeiling cap) retryCount.toNatClampNeg (backoffStart base (backoffCeiling cap))

variable {ceiling delay : Int64}

theorem backoffTurn_cases (low : 0 ≤ delay.toInt) (high : delay.toInt ≤ ceiling.toInt) :
    (backoffTurn ceiling delay = none ∧ (delay.toInt = ceiling.toInt ∨ delay.toInt = 0)) ∨
      backoffTurn ceiling delay = some (min (delay.toInt * 2) ceiling.toInt) := by
  have half : (ceiling / 2).toInt = ceiling.toInt / 2 := by
    rw [toInt_div_of_ne_right _ _ (by decide)]
    exact Int.tdiv_eq_ediv_of_nonneg (by omega)
  simp only [backoffTurn, le_iff_toInt_le, lt_iff_toInt_lt, half, ← toInt_inj, toInt_zero]
  split_ifs with stop more
  · exact .inl ⟨rfl, by omega⟩
  · rw [min_eq_right (by omega)]
    exact .inr rfl
  · rw [min_eq_left (by omega)]
    exact .inr rfl

theorem min_min_mul {a cap factor : Int} (low : 0 ≤ cap) (grows : 1 ≤ factor) :
    min (min a cap * factor) cap = min (a * factor) cap := by
  rcases le_total a cap with below | above
  · rw [min_eq_left below]
  · have grown := le_mul_of_one_le_right low grows
    rw [min_eq_right above, min_eq_right grown,
      min_eq_right (grown.trans (mul_le_mul_of_nonneg_right above (by omega)))]

theorem backoffLoop_eq (turns : Nat) (low : 0 ≤ delay.toInt) (high : delay.toInt ≤ ceiling.toInt) :
    (backoffLoop ceiling turns delay).toInt = min (delay.toInt * 2 ^ turns) ceiling.toInt := by
  induction turns generalizing delay with
  | zero => simp [backoffLoop, high]
  | succ turns ih =>
    rw [backoffLoop]
    rcases backoffTurn_cases low high with ⟨stop, full | zero⟩ | next
    · rw [stop, full, min_eq_right (le_mul_of_one_le_right (by omega) (one_le_pow₀ (by decide)))]
    · simp [stop, zero, low.trans high]
    · have wide := ceiling.toInt_lt
      have fits : (ofInt (min (delay.toInt * 2) ceiling.toInt)).toInt = min (delay.toInt * 2) ceiling.toInt :=
        toInt_ofInt_of_le (by omega) (by omega)
      simp only [next]
      rw [ih (by omega) (by omega), fits, min_min_mul (by omega) (one_le_pow₀ (by decide)), pow_succ', mul_assoc]

theorem backoffCeiling_toInt (cap : Int64) : (backoffCeiling cap).toInt = max cap.toInt 0 := by
  simp only [backoffCeiling, lt_iff_toInt_lt, toInt_zero]
  split_ifs <;> simp <;> omega

theorem backoffStart_toInt (base : Int64) (positive : 0 ≤ ceiling.toInt) :
    (backoffStart base ceiling).toInt = min (max base.toInt 0) ceiling.toInt := by
  simp only [backoffStart, lt_iff_toInt_lt, toInt_zero]
  split_ifs <;> simp at * <;> omega

theorem backoffDelayMs_exact (base retryCount cap : Int64) :
    (backoffDelayMs base retryCount cap).toInt =
        min (max base.toInt 0 * 2 ^ retryCount.toInt.toNat) (max cap.toInt 0) ∧
      (∀ turns value, backoffTurn (backoffCeiling cap)
        (backoffLoop (backoffCeiling cap) turns (backoffStart base (backoffCeiling cap))) = some value →
        0 ≤ value ∧ value ≤ max cap.toInt 0) ∧
      ∀ later, retryCount ≤ later → backoffDelayMs base retryCount cap ≤ backoffDelayMs base later cap := by
  -- no turn assigns anything above the cap, so that the doubling never overflows
  have ceiling := backoffCeiling_toInt cap
  have start := backoffStart_toInt base (show 0 ≤ (backoffCeiling cap).toInt by omega)
  have after (turns : Nat) :
      (backoffLoop (backoffCeiling cap) turns (backoffStart base (backoffCeiling cap))).toInt =
        min (max base.toInt 0 * 2 ^ turns) (max cap.toInt 0) := by
    rw [backoffLoop_eq turns (by omega) (by omega), start, ceiling,
      min_min_mul (by omega) (one_le_pow₀ (by decide))]
  refine ⟨(after _).trans (by rw [toNat_toInt]), fun turns value assigned => ?_, fun later more => ?_⟩
  · have positive : 0 ≤ max base.toInt 0 * 2 ^ turns := mul_nonneg (by omega) (pow_nonneg (by decide) _)
    have reached := after turns
    generalize backoffLoop (backoffCeiling cap) turns _ = delay at assigned reached
    have cases := @backoffTurn_cases (backoffCeiling cap) delay (by omega) (by omega)
    simp only [assigned, reduceCtorEq, false_and, false_or, Option.some.injEq] at cases
    omega
  · have longer : retryCount.toNatClampNeg ≤ later.toNatClampNeg := by
      rw [← toNat_toInt, ← toNat_toInt]
      exact Int.toNat_le_toNat (le_iff_toInt_le.mp more)
    rw [le_iff_toInt_le, backoffDelayMs, after, backoffDelayMs, after]
    exact min_le_min_right _ (mul_le_mul_of_nonneg_left (pow_le_pow_right₀ (by decide) longer) (by omega))

end RustScriptAgent.Agent
