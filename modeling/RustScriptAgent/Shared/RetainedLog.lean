import RustScriptAgent.Shared.Sequence

namespace RetainedLog

open Sequences List

structure Log where
  retained : List Int
  mark : Option (Int × Int)
  allocated : List Int

def Log.floor (log : Log) : Int := (log.mark.map Prod.fst).getD 1

def Log.highWater (log : Log) : Int := (log.mark.map Prod.snd).getD 0

def Log.Refuses (log : Log) (start : Int) : Prop := 1 < log.floor ∧ start < log.floor

structure Log.Sound (log : Log) : Prop where
  listed : ∀ number ∈ log.retained, number ∈ log.allocated
  positive : ∀ number ∈ log.allocated, 0 < number
  below : ∀ number ∈ log.allocated, number ≤ maxOrZero log.retained
  noted : ∀ mark, log.mark = some mark → mark = (minOrZero log.retained, maxOrZero log.retained)
  unnoted : log.mark = none → log.retained = []

structure Log.Gapless (log : Log) : Prop where
  given : ∀ number, 0 < number → number ≤ maxOrZero log.retained → number ∈ log.allocated
  kept : ∀ low ∈ log.retained, ∀ number, low ≤ number → number ≤ maxOrZero log.retained → number ∈ log.retained

structure Log.Rewrites (before after : Log) (new : List Int) : Prop where
  allocated : after.allocated = before.allocated ++ new
  positive : ∀ number ∈ new, 0 < number
  part : ∀ number ∈ after.retained, number ∈ before.retained ++ new
  newest : ∀ low ∈ after.retained, ∀ number ∈ before.retained ++ new, low ≤ number → number ∈ after.retained
  remains : after.retained = [] → before.retained ++ new = []
  marked : (after.mark = some (minOrZero after.retained,
      max ((before.mark.map Prod.snd).getD (maxOrZero after.retained)) (maxOrZero after.retained))) ∨
    (after.mark = before.mark ∧ new = [] ∧ after.retained = before.retained)

variable {before after : Log} {new : List Int}

theorem Log.Rewrites.of_same (retained : after.retained = before.retained) (mark : after.mark = before.mark)
    (allocated : after.allocated = before.allocated) : before.Rewrites after [] := by
  refine ⟨by simp [allocated], nofun, ?_, ?_, ?_, .inr ⟨mark, rfl, retained⟩⟩
  all_goals
    rw [retained, append_nil]
  · exact fun _ member => member
  · exact fun _ _ _ member _ => member
  · exact fun empty => empty

theorem Log.Rewrites.maxOrZero_eq (rewrites : before.Rewrites after new) :
    maxOrZero after.retained = maxOrZero (before.retained ++ new) := by
  by_cases empty : after.retained = []
  · rw [empty, rewrites.remains empty]
  · have top := maxOrZero_mem empty
    have grown : before.retained ++ new ≠ [] := ne_nil_of_mem (rewrites.part _ top)
    refine Sequences.maxOrZero_eq ?_ fun number member => le_maxOrZero (rewrites.part number member)
    exact rewrites.newest _ top _ (maxOrZero_mem grown) (le_maxOrZero (rewrites.part _ top))

theorem Log.Sound.highWater_eq {log : Log} (sound : log.Sound) : log.highWater = maxOrZero log.allocated := by
  have same : maxOrZero log.retained = maxOrZero log.allocated := by
    by_cases empty : log.retained = []
    · have none : log.allocated = [] := eq_nil_iff_forall_not_mem.mpr fun number member => by
        have high := sound.below number member
        have low := sound.positive number member
        rw [empty, maxOrZero_nil] at high
        omega
      rw [empty, none]
    · exact (Sequences.maxOrZero_eq (sound.listed _ (maxOrZero_mem empty)) sound.below).symm
  rw [← same]
  unfold Log.highWater
  cases mark : log.mark with
  | none => simp [sound.unnoted mark]
  | some noted => simp [sound.noted noted mark]

theorem Log.Sound.floor_eq {log : Log} (sound : log.Sound) (some : log.retained ≠ []) :
    log.floor = minOrZero log.retained := by
  unfold Log.floor
  cases mark : log.mark with
  | none => exact absurd (sound.unnoted mark) some
  | some noted => simp [sound.noted noted mark]

theorem Log.Sound.step (sound : before.Sound) (rewrites : before.Rewrites after new) : after.Sound := by
  have high := rewrites.maxOrZero_eq
  have grown (number : Int) (member : number ∈ before.retained ++ new) : number ∈ after.allocated := by
    rw [rewrites.allocated]
    rcases mem_append.mp member with old | fresh
    · exact mem_append_left _ (sound.listed number old)
    · exact mem_append_right _ fresh
  refine ⟨fun number member => grown number (rewrites.part number member), ?_, ?_, ?_, ?_⟩
  · intro number member
    rw [rewrites.allocated] at member
    exact (mem_append.mp member).elim (sound.positive number) (rewrites.positive number)
  · intro number member
    rw [rewrites.allocated] at member
    rw [high]
    rcases mem_append.mp member with old | fresh
    · have bound := sound.below number old
      have positive := sound.positive number old
      -- the numbers of before reach this high only when there is one
      have some : before.retained ≠ [] := by
        intro empty
        rw [empty, maxOrZero_nil] at bound
        omega
      exact bound.trans (le_maxOrZero (mem_append_left _ (maxOrZero_mem some)))
    · exact le_maxOrZero (mem_append_right _ fresh)
  · intro mark noted
    rcases rewrites.marked with renewed | ⟨same, _, retained⟩
    · rw [renewed, Option.some.injEq] at noted
      rw [← noted]
      congr 1
      refine max_eq_right ?_
      cases old : before.mark with
      | none => exact le_rfl
      | some earlier =>
        rw [Option.map_some, Option.getD_some, sound.noted earlier old, high]
        by_cases empty : before.retained = []
        · rw [empty, maxOrZero_nil, nil_append]
          by_cases none : new = []
          · rw [none, maxOrZero_nil]
          · exact (rewrites.positive _ (maxOrZero_mem none)).le
        · exact le_maxOrZero (mem_append_left _ (maxOrZero_mem empty))
    · rw [retained]
      exact sound.noted mark (same ▸ noted)
  · intro none
    rcases rewrites.marked with renewed | ⟨same, _, retained⟩
    · rw [renewed] at none
      cases none
    · rw [retained]
      exact sound.unnoted (same ▸ none)

theorem mem_consecutive {first number : Int} {numbers : List Int} (counted : Consecutive first numbers) :
    number ∈ numbers ↔ first ≤ number ∧ number < first + numbers.length := by
  rw [counted.eq_range]
  simp only [mem_map, mem_range, length_map, length_range]
  constructor
  · rintro ⟨index, inside, rfl⟩
    omega
  · rintro ⟨lower, upper⟩
    exact ⟨(number - first).toNat, by omega, by omega⟩

theorem maxOrZero_nonneg {numbers : List Int} (positive : ∀ number ∈ numbers, 0 < number) : 0 ≤ maxOrZero numbers := by
  by_cases empty : numbers = []
  · rw [empty, maxOrZero_nil]
  · exact (positive _ (maxOrZero_mem empty)).le

theorem Log.Gapless.step (gapless : before.Gapless) (sound : before.Sound) (rewrites : before.Rewrites after new)
    (counted : Consecutive (maxOrZero before.retained + 1) new) : after.Gapless := by
  have nonneg := maxOrZero_nonneg fun number member => sound.positive number (sound.listed number member)
  have high : maxOrZero after.retained = maxOrZero before.retained + new.length := by
    rw [rewrites.maxOrZero_eq]
    by_cases none : new = []
    · simp [none]
    · have size : 0 < new.length := length_pos_of_ne_nil none
      refine Sequences.maxOrZero_eq (mem_append_right _ ((mem_consecutive counted).mpr (by omega))) ?_
      intro number member
      rcases mem_append.mp member with old | fresh
      · have := le_maxOrZero old
        omega
      · have := (mem_consecutive counted).mp fresh
        omega
  refine ⟨fun number positive upper => ?_, fun low member number lower upper => ?_⟩
  · rw [rewrites.allocated]
    by_cases old : number ≤ maxOrZero before.retained
    · exact mem_append_left _ (gapless.given number positive old)
    · exact mem_append_right _ ((mem_consecutive counted).mpr (by omega))
  · refine rewrites.newest low member number ?_ lower
    by_cases old : number ≤ maxOrZero before.retained
    · -- a number this low lies above a retained one of before
      rcases mem_append.mp (rewrites.part low member) with earlier | fresh
      · exact mem_append_left _ (gapless.kept low earlier number lower old)
      · have := (mem_consecutive counted).mp fresh
        omega
    · exact mem_append_right _ ((mem_consecutive counted).mpr (by omega))

theorem Log.Gapless.refuses_iff {log : Log} (gapless : log.Gapless) (sound : log.Sound) (start : Int) :
    log.Refuses start ↔ ∃ number ∈ log.allocated, number ∉ log.retained ∧ start ≤ number := by
  by_cases empty : log.retained = []
  · have low : ¬ 1 < log.floor := by
      unfold Log.floor
      cases mark : log.mark with
      | none => simp
      | some noted => simp [sound.noted noted mark, empty]
    refine iff_of_false (fun refused => low refused.1) ?_
    rintro ⟨number, given, _⟩
    have upper := sound.below number given
    have lower := sound.positive number given
    rw [empty, maxOrZero_nil] at upper
    omega
  · have floor := sound.floor_eq empty
    have least := minOrZero_mem empty
    have bound := le_maxOrZero least
    unfold Log.Refuses
    rw [floor]
    constructor
    · rintro ⟨above, refused⟩
      refine ⟨minOrZero log.retained - 1, gapless.given _ (by omega) (by omega), ?_, by omega⟩
      intro member
      have := minOrZero_le member
      omega
    · rintro ⟨number, given, gone, later⟩
      have upper := sound.below number given
      have lower := sound.positive number given
      have below : number < minOrZero log.retained := by
        by_contra inside
        exact gone (gapless.kept _ least number (by omega) upper)
      omega

end RetainedLog
