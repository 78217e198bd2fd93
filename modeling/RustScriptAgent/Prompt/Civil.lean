import Mathlib.Algebra.BigOperators.Group.Finset.Basic
import Mathlib.Order.Interval.Finset.Nat

namespace RustScriptAgent.Prompt

open Finset

/-- The date as the source computes it, except that its year starts in March and is not yet cast. -/
def marchDate (days : Int) : Int × Nat × Nat :=
  let z := days + 719468
  let era := (if 0 ≤ z then z else z - 146096).tdiv 146097
  let doe := (z - era * 146097).toNat
  let yoe := (doe - doe / 1460 + doe / 36524 - doe / 146096) / 365
  let doy := doe - (365 * yoe + yoe / 4 - yoe / 100)
  let mp := (5 * doy + 2) / 153
  (yoe + era * 400, if mp < 10 then mp + 3 else mp - 9, doy - (153 * mp + 2) / 5 + 1)

def i32? (n : Int) : Option Int := if -2 ^ 31 ≤ n ∧ n < 2 ^ 31 then some n else none

/-- The sums of 64 bits are taken exactly: a day where they overflow has no year of 32 bits. -/
def civilFromDays (days : Int) : Int × Nat × Nat :=
  let (marchYear, month, day) := marchDate days
  let year := (i32? marchYear).getD 1970
  (if month ≤ 2 then year + 1 else year, month, day)

def isLeap (year : Int) : Bool := year % 4 = 0 && (year % 100 ≠ 0 || year % 400 = 0)

def daysInMonth (leap : Bool) : Nat → Nat
  | 2 => 28 + leap.toNat
  | 4 | 6 | 9 | 11 => 30
  | _ => 31

def daysBeforeMonth (leap : Bool) (month : Nat) : Nat := ∑ earlier ∈ range (month - 1), daysInMonth leap (earlier + 1)

def daysInYear (year : Int) : Nat := daysBeforeMonth (isLeap year) 13

def daysBeforeYear (year : Int) : Int :=
  ∑ i ∈ range (year - 1970).toNat, (daysInYear (1970 + i) : Int) -
    ∑ i ∈ range (1970 - year).toNat, (daysInYear (year + i) : Int)

@[ext] structure CivilDate where
  year : Int
  month : Nat
  day : Nat
  month_mem : month ∈ Icc 1 12
  day_mem : day ∈ Icc 1 (daysInMonth (isLeap year) month)

def CivilDate.dayNumber (date : CivilDate) : Int :=
  daysBeforeYear date.year + daysBeforeMonth (isLeap date.year) date.month + (date.day - 1)

theorem isLeap_toNat (year : Int) : ((isLeap year).toNat : Int) =
    year / 4 - (year - 1) / 4 - (year / 100 - (year - 1) / 100) + (year / 400 - (year - 1) / 400) := by
  cases leap : isLeap year <;> simp [isLeap] at leap ⊢ <;> omega

theorem daysInYear_eq (year : Int) : daysInYear year = 365 + (isLeap year).toNat := by
  unfold daysInYear
  cases isLeap year <;> rfl

theorem daysBeforeYear_eq (year : Int) :
    daysBeforeYear year = 365 * year + (year - 1) / 4 - (year - 1) / 100 + (year - 1) / 400 - 719527 := by
  have counted (first : Int) (n : Nat) : ∑ i ∈ range n, (daysInYear (first + i) : Int) = 365 * n +
      ((first + n - 1) / 4 - (first - 1) / 4) - ((first + n - 1) / 100 - (first - 1) / 100) +
      ((first + n - 1) / 400 - (first - 1) / 400) := by
    induction n with
    | zero => simp
    | succ n ih =>
      have leap := isLeap_toNat (first + n)
      rw [sum_range_succ, ih, daysInYear_eq]
      omega
  rw [daysBeforeYear, counted, counted]
  omega

theorem daysBeforeYear_succ (year : Int) : daysBeforeYear (year + 1) = daysBeforeYear year + daysInYear year := by
  have leap := isLeap_toNat year
  rw [daysBeforeYear_eq, daysBeforeYear_eq, daysInYear_eq]
  omega

theorem exists_year (days : Int) : ∃ year, daysBeforeYear year ≤ days ∧ days < daysBeforeYear (year + 1) := by
  induction days with
  | zero => exact ⟨1970, by decide⟩
  | succ n ih =>
    obtain ⟨year, low, high⟩ := ih
    have longer := daysBeforeYear_succ (year + 1)
    rw [daysInYear_eq] at longer
    rcases lt_or_ge ((n : Int) + 1) (daysBeforeYear (year + 1)) with before | after
    · exact ⟨year, by omega, before⟩
    · exact ⟨year + 1, after, by omega⟩
  | pred n ih =>
    obtain ⟨year, low, high⟩ := ih
    have longer := daysBeforeYear_succ (year - 1)
    rw [daysInYear_eq, sub_add_cancel] at longer
    rcases lt_or_ge (-(n : Int) - 1) (daysBeforeYear year) with before | after
    · exact ⟨year - 1, by omega, by rwa [sub_add_cancel]⟩
    · exact ⟨year, after, by omega⟩

theorem exists_month {leap : Bool} {offset : Nat} : ∀ {count : Nat}, offset < daysBeforeMonth leap (count + 1) →
    ∃ month ∈ Icc 1 count, ∃ day ∈ Icc 1 (daysInMonth leap month), offset = daysBeforeMonth leap month + (day - 1)
  | 0, inside => by simp [daysBeforeMonth] at inside
  | count + 1, inside => by
    have longer : daysBeforeMonth leap (count + 1 + 1) = daysBeforeMonth leap (count + 1) +
        daysInMonth leap (count + 1) :=
      sum_range_succ ..
    rcases lt_or_ge offset (daysBeforeMonth leap (count + 1)) with before | after
    · obtain ⟨month, among, found⟩ := exists_month before
      exact ⟨month, Icc_subset_Icc_right (by omega) among, found⟩
    · exact ⟨count + 1, by simp, offset - daysBeforeMonth leap (count + 1) + 1, by rw [mem_Icc]; omega, by omega⟩

theorem exists_date (days : Int) : ∃ date : CivilDate, date.dayNumber = days := by
  obtain ⟨year, low, high⟩ := exists_year days
  have inside : (days - daysBeforeYear year).toNat < daysBeforeMonth (isLeap year) 13 := by
    rw [daysBeforeYear_succ] at high
    unfold daysInYear at high
    omega
  obtain ⟨month, monthIn, day, dayIn, same⟩ := exists_month inside
  have first := (mem_Icc.mp dayIn).1
  exact ⟨⟨year, month, day, monthIn, dayIn⟩, by simp only [CivilDate.dayNumber]; omega⟩

def marchMonth (month : Nat) : Nat := if month ≤ 2 then month + 9 else month - 3

theorem marchMonth_month : ∀ month ∈ Icc 1 12,
    (if marchMonth month < 10 then marchMonth month + 3 else marchMonth month - 9) = month := by
  decide

theorem daysBeforeMonth_march : ∀ leap, ∀ month ∈ Icc 1 12, daysBeforeMonth leap month + 306 =
    (153 * marchMonth month + 2) / 5 + if month ≤ 2 then 0 else 365 + leap.toNat := by
  decide

theorem marchMonth_of_day : ∀ leap, ∀ month ∈ Icc 1 12, ∀ day ∈ Icc 1 (daysInMonth leap month),
    (5 * ((153 * marchMonth month + 2) / 5 + (day - 1)) + 2) / 153 = marchMonth month ∧
      (153 * marchMonth month + 2) / 5 + (day - 1) ≤ 365 ∧
      ((153 * marchMonth month + 2) / 5 + (day - 1) = 365 → month = 2 ∧ leap) := by
  decide

theorem yearOfEra {yoe doy doe : Nat} (within : yoe ≤ 399) (short : doy ≤ 365)
    (leap : doy = 365 → yoe % 4 = 3 ∧ (yoe % 100 ≠ 99 ∨ yoe = 399))
    (same : doe = 365 * yoe + yoe / 4 - yoe / 100 + doy) :
    (doe - doe / 1460 + doe / 36524 - doe / 146096) / 365 = yoe := by
  have centuries : doe / 36524 - doe / 146096 = yoe / 100 := by
    have : yoe / 100 = 0 ∨ yoe / 100 = 1 ∨ yoe / 100 = 2 ∨ yoe / 100 = 3 := by omega
    omega
  have lower : doe / 1460 ≤ yoe / 4 + doy := by omega
  have upper : yoe / 4 + doy < doe / 1460 + 365 := by omega
  omega

theorem marchDate_eq {days : Int} (marchYear : Int) {doy mp : Nat} (short : doy ≤ 365)
    (leap : doy = 365 → isLeap (marchYear + 1)) (month : (5 * doy + 2) / 153 = mp)
    (same : days + 719468 = 365 * marchYear + marchYear / 4 - marchYear / 100 + marchYear / 400 + doy) :
    marchDate days = (marchYear, if mp < 10 then mp + 3 else mp - 9, doy - (153 * mp + 2) / 5 + 1) := by
  obtain ⟨yoe, place⟩ : ∃ yoe : Nat, yoe = marchYear % 400 := ⟨(marchYear % 400).toNat, by omega⟩
  obtain ⟨doe, counted⟩ : ∃ doe, doe = 365 * yoe + yoe / 4 - yoe / 100 + doy := ⟨_, rfl⟩
  have late : doy = 365 → yoe % 4 = 3 ∧ (yoe % 100 ≠ 99 ∨ yoe = 399) := by
    simp only [isLeap, Bool.and_eq_true, Bool.or_eq_true, decide_eq_true_eq] at leap
    omega
  have whole : days + 719468 = marchYear / 400 * 146097 + doe := by omega
  have floor : (if 0 ≤ days + 719468 then days + 719468 else days + 719468 - 146096).tdiv 146097 = marchYear / 400 := by
    rw [Int.tdiv_eq_ediv, show Int.sign 146097 = 1 from rfl]
    split_ifs <;> omega
  have rest : (days + 719468 - marchYear / 400 * 146097).toNat = doe := by omega
  have day : doe - (365 * yoe + yoe / 4 - yoe / 100) = doy := by omega
  have year : (yoe : Int) + marchYear / 400 * 400 = marchYear := by omega
  simp only [marchDate, floor, rest, yearOfEra (by omega) short late counted, day, month, year]

theorem marchDate_dayNumber (date : CivilDate) : marchDate date.dayNumber =
    (if date.month ≤ 2 then date.year - 1 else date.year, date.month, date.day) := by
  obtain ⟨year, month, day, monthIn, dayIn⟩ := date
  obtain ⟨marched, short, last⟩ := marchMonth_of_day _ month monthIn day dayIn
  have before := daysBeforeMonth_march (isLeap year) month monthIn
  have first := (mem_Icc.mp dayIn).1
  rw [marchDate_eq (if month ≤ 2 then year - 1 else year) short _ marched, marchMonth_month _ monthIn,
    Nat.add_sub_cancel_left, Nat.sub_add_cancel first]
  · have leap := isLeap_toNat year
    rw [CivilDate.dayNumber, daysBeforeYear_eq]
    simp only
    split_ifs at before ⊢ <;> omega
  · intro late
    obtain ⟨rfl, leap⟩ := last late
    simpa using leap

theorem CivilDate.dayNumber_injective {date other : CivilDate} (same : date.dayNumber = other.dayNumber) :
    date = other := by
  have dates := marchDate_dayNumber date
  rw [same, marchDate_dayNumber, Prod.mk.injEq, Prod.mk.injEq] at dates
  obtain ⟨years, months, days⟩ := dates
  rw [months] at years
  refine CivilDate.ext ?_ months.symm days.symm
  split_ifs at years <;> omega

theorem civilFromDays_correct_iff (days : Int) : ∃ date : CivilDate,
    (∀ other : CivilDate, other.dayNumber = days ↔ other = date) ∧
      (-2 ^ 31 ≤ date.year ∧ date.year < 2 ^ 31 →
        (civilFromDays days = (date.year, date.month, date.day) ↔ ¬ (date.year = -2 ^ 31 ∧ date.month ≤ 2))) := by
  -- January and February of the first year of 32 bits are counted to the year before it
  obtain ⟨date, rfl⟩ := exists_date days
  refine ⟨date, fun other => ⟨CivilDate.dayNumber_injective, fun same => same ▸ rfl⟩, fun inside => ?_⟩
  rw [civilFromDays, marchDate_dayNumber]
  by_cases winter : date.month ≤ 2
  · by_cases least : date.year = -2 ^ 31
    · simp [i32?, winter, least]
    · have fits : -2 ^ 31 ≤ date.year - 1 ∧ date.year - 1 < 2 ^ 31 := by omega
      simp only [winter, if_true, i32?, if_pos fits, Option.getD_some, sub_add_cancel, least, false_and,
        not_false_eq_true]
  · simp only [winter, if_false, i32?, if_pos inside, Option.getD_some, and_false, not_false_eq_true]

theorem civilFromDays_least_year : civilFromDays (-784353015833) = (1971, 1, 1) ∧
    CivilDate.dayNumber ⟨-2147483648, 1, 1, by decide, by decide⟩ = -784353015833 := by
  refine ⟨by decide, ?_⟩
  rw [CivilDate.dayNumber, daysBeforeYear_eq]
  decide

end RustScriptAgent.Prompt
