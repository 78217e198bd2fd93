import Mathlib.Data.List.Basic
import Mathlib.Data.List.Dedup
import Mathlib.Data.List.DropRight
import Mathlib.Data.List.Nodup
import Mathlib.Data.List.Sort
import Mathlib.Data.Int.Order.Basic
import Mathlib.Order.Interval.Set.OrdConnected
import Mathlib.Tactic.Ring

namespace Sequences

open List

variable {numbers : List Int} {number : Int} {count : Nat}

/-- `COALESCE(MAX(..), 0)` -/
def maxOrZero (numbers : List Int) : Int := numbers.max?.getD 0

/-- `COALESCE(MIN(..), 0)` -/
def minOrZero (numbers : List Int) : Int := numbers.min?.getD 0

@[simp] theorem maxOrZero_nil : maxOrZero [] = 0 := rfl

@[simp] theorem minOrZero_nil : minOrZero [] = 0 := rfl

theorem maxOrZero_mem (nonempty : numbers ≠ []) : maxOrZero numbers ∈ numbers := by
  cases maximum : numbers.max? with
  | none => exact absurd (max?_eq_none_iff.mp maximum) nonempty
  | some high => simpa [maxOrZero, maximum] using max?_mem maximum

theorem le_maxOrZero (member : number ∈ numbers) : number ≤ maxOrZero numbers := by
  obtain ⟨high, maximum⟩ := Option.isSome_iff_exists.mp (isSome_max?_of_mem member)
  simpa [maxOrZero, maximum] using (max?_eq_some_iff.mp maximum).2 number member

theorem minOrZero_mem (nonempty : numbers ≠ []) : minOrZero numbers ∈ numbers := by
  cases minimum : numbers.min? with
  | none => exact absurd (min?_eq_none_iff.mp minimum) nonempty
  | some low => simpa [minOrZero, minimum] using min?_mem minimum

theorem minOrZero_le (member : number ∈ numbers) : minOrZero numbers ≤ number := by
  obtain ⟨low, minimum⟩ := Option.isSome_iff_exists.mp (isSome_min?_of_mem member)
  simpa [minOrZero, minimum] using (min?_eq_some_iff.mp minimum).2 number member

theorem maxOrZero_eq {high : Int} (member : high ∈ numbers)
    (bound : ∀ number ∈ numbers, number ≤ high) : maxOrZero numbers = high :=
  le_antisymm (bound _ (maxOrZero_mem (ne_nil_of_mem member))) (le_maxOrZero member)

theorem maxOrZero_append_singleton
    (above : ∀ old ∈ numbers, old ≤ number) : maxOrZero (numbers ++ [number]) = number := by
  apply maxOrZero_eq (by simp)
  intro old member
  rcases mem_append.mp member with earlier | last
  · exact above old earlier
  · simp only [mem_singleton] at last
    omega

structure Unbroken (numbers : List Int) : Prop where
  nodup : numbers.Nodup
  convex : @Set.OrdConnected Int Int.instLinearOrder.toPreorder {number | number ∈ numbers}

theorem unbroken_singleton (number : Int) : Unbroken [number] := by
  refine ⟨nodup_singleton number, ?_⟩
  simpa using Set.ordConnected_singleton (a := number)

theorem Unbroken.between (block : Unbroken numbers) {low high : Int}
    (first : low ∈ numbers) (last : high ∈ numbers) (lower : low ≤ number) (upper : number ≤ high) :
    number ∈ numbers :=
  block.convex.out first last ⟨lower, upper⟩

theorem unbroken_of_between (nodup : numbers.Nodup)
    (between : ∀ low ∈ numbers, ∀ high ∈ numbers, ∀ number, low ≤ number → number ≤ high → number ∈ numbers) :
    Unbroken numbers :=
  ⟨nodup, ⟨fun low first high last number inside =>
    between low first high last number inside.1 inside.2⟩⟩

theorem Unbroken.perm {as bs : List Int} (block : Unbroken as) (same : as.Perm bs) : Unbroken bs := by
  refine unbroken_of_between (same.nodup_iff.mp block.nodup) ?_
  intro low first high last number lower upper
  exact same.mem_iff.mp (block.between (same.mem_iff.mpr first) (same.mem_iff.mpr last) lower upper)

theorem Unbroken.append (block : Unbroken numbers)
    (next : numbers ≠ [] → number = maxOrZero numbers + 1) : Unbroken (numbers ++ [number]) := by
  by_cases empty : numbers = []
  · subst empty
    exact unbroken_singleton number
  · have last := next empty
    have fresh : number ∉ numbers := by
      intro member
      have := le_maxOrZero member
      omega
    refine unbroken_of_between ?_ ?_
    · exact (perm_append_singleton number numbers).nodup_iff.mpr (nodup_cons.mpr ⟨fresh, block.nodup⟩)
    · intro low first high final middle lower upper
      rw [mem_append, mem_singleton] at first final ⊢
      by_cases same : middle = number
      · exact .inr same
      · left
        have inside : middle ≤ maxOrZero numbers := by
          rcases final with member | single
          · exact upper.trans (le_maxOrZero member)
          · omega
        rcases first with member | single
        · exact block.between member (maxOrZero_mem empty) lower inside
        · omega

def Consecutive : Int → List Int → Prop
  | _, [] => True
  | first, number :: rest => number = first ∧ Consecutive (first + 1) rest

instance decidableConsecutive : ∀ first numbers, Decidable (Consecutive first numbers)
  | _, [] => isTrue trivial
  | first, number :: rest =>
    have _ : Decidable (Consecutive (first + 1) rest) := decidableConsecutive (first + 1) rest
    inferInstanceAs (Decidable (number = first ∧ Consecutive (first + 1) rest))

theorem Consecutive.eq_range {first : Int} (counted : Consecutive first numbers) :
    numbers = (range numbers.length).map (fun index : Nat => first + index) := by
  induction numbers generalizing first with
  | nil => rfl
  | cons number rest ih =>
    obtain ⟨rfl, later⟩ := counted
    rw [length_cons, range_succ_eq_map, map_cons, map_map]
    refine congrArg₂ cons (by simp) ((ih later).trans (map_congr_left fun index _ => ?_))
    simp only [Function.comp_apply, Nat.succ_eq_add_one]
    push_cast
    ring

theorem Unbroken.consecutive {first : Int} {rest : List Int} (block : Unbroken (first :: rest))
    (increasing : (first :: rest).Pairwise (· < ·)) : Consecutive first (first :: rest) := by
  induction rest generalizing first with
  | nil => exact ⟨rfl, trivial⟩
  | cons second rest ih =>
    rw [pairwise_cons] at increasing
    have above := increasing.1
    have later := increasing.2
    have least : ∀ number ∈ second :: rest, second ≤ number := by
      rw [pairwise_cons] at later
      intro number member
      rcases mem_cons.mp member with rfl | inner
      · exact le_rfl
      · exact (later.1 number inner).le
    have follows : second = first + 1 := by
      have step := above second mem_cons_self
      have inside : first + 1 ∈ first :: second :: rest :=
        block.between mem_cons_self (mem_cons_of_mem _ mem_cons_self) (by omega) (by omega)
      rcases mem_cons.mp inside with same | member
      · omega
      · have := least _ member
        omega
    have tail : Unbroken (second :: rest) := by
      refine unbroken_of_between (nodup_cons.mp block.nodup).2 ?_
      intro low lowIn high highIn number lower upper
      have member := block.between (mem_cons_of_mem first lowIn) (mem_cons_of_mem first highIn) lower upper
      refine (mem_cons.mp member).resolve_left ?_
      rintro rfl
      have := above low lowIn
      omega
    exact ⟨rfl, follows ▸ ih tail later⟩

theorem below_add_above_of_absent (absent : number ∉ numbers) :
    numbers.countP (fun other => decide (other < number)) +
      numbers.countP (fun other => decide (number < other)) = numbers.length := by
  rw [length_eq_countP_add_countP fun other => decide (other < number)]
  refine congrArg _ (countP_congr fun other member => ?_)
  have distinct : other ≠ number := fun same => absent (same ▸ member)
  simp only [decide_eq_true_eq]
  omega

theorem below_add_above (nodup : numbers.Nodup) (member : number ∈ numbers) :
    numbers.countP (fun other => decide (other < number)) +
      numbers.countP (fun other => decide (number < other)) + 1 = numbers.length := by
  have perm := perm_cons_erase member
  have absent : number ∉ numbers.erase number := nodup.not_mem_erase
  rw [perm.countP_eq, perm.countP_eq, perm.length_eq, length_cons, ← below_add_above_of_absent absent]
  simp

theorem filter_rank_eq_drop {α κ : Type} [LinearOrder κ] (key : α → κ) {items : List α}
    (ascending : items.Pairwise (fun a b => key a < key b)) (count : Nat) :
    items.filter (fun item => decide (count ≤ items.countP (fun other => decide (key other < key item)))) =
      items.drop count := by
  induction items generalizing count with
  | nil => simp
  | cons head rest ih =>
    obtain ⟨first, tail⟩ := pairwise_cons.mp ascending
    have least : (head :: rest).countP (fun other => decide (key other < key head)) = 0 := by
      rw [countP_eq_zero]
      intro other member
      rcases mem_cons.mp member with rfl | later
      · simp
      · simpa using (first other later).le
    have later : ∀ item ∈ rest, (head :: rest).countP (fun other => decide (key other < key item)) =
        rest.countP (fun other => decide (key other < key item)) + 1 := by
      intro item member
      simp [first item member]
    rw [filter_cons, least]
    cases count with
    | zero => simp
    | succ count =>
      rw [if_neg (by simp), drop_succ_cons, ← ih tail]
      refine filter_congr fun item member => ?_
      rw [later item member]
      simp

theorem forall_mem_take_iff {α β : Type} {name : α → β} {items : List α} (distinct : (items.map name).Nodup) :
    (∀ item ∈ items, name item ∈ (items.take count).map name) ↔ items.length ≤ count := by
  constructor
  · intro all
    have shown : items.map name ⊆ (items.take count).map name := by simpa [subset_def] using all
    have bound := (subperm_of_subset distinct shown).length_le
    simp only [length_map, length_take] at bound
    omega
  · intro short item member
    rw [take_of_length_le short]
    exact mem_map_of_mem member

theorem countP_behind_take {α β : Type} [DecidableEq β] {name : α → β} {items : List α}
    (distinct : (items.map name).Nodup) :
    items.countP (fun item => name item ∉ (items.take count).map name) = items.length - count := by
  have apart := distinct
  rw [← take_append_drop count items, map_append, nodup_append'] at apart
  calc items.countP (fun item => name item ∉ (items.take count).map name)
      = (items.take count).countP (fun item => name item ∉ (items.take count).map name) +
          (items.drop count).countP (fun item => name item ∉ (items.take count).map name) := by
        rw [← countP_append, take_append_drop]
    _ = 0 + (items.drop count).length := by
        congr 1
        · exact countP_eq_zero.mpr fun item member free => of_decide_eq_true free (mem_map_of_mem member)
        · exact countP_eq_length.mpr fun item member =>
            decide_eq_true fun listed => apart.2.2 listed (mem_map_of_mem member)
    _ = items.length - count := by rw [Nat.zero_add, length_drop]

def takeWithin {α : Type} (cost : α → Nat) : Nat → List α → List α
  | _, [] => []
  | budget, item :: rest =>
    if cost item ≤ budget then item :: takeWithin cost (budget - cost item) rest else []

theorem takeWithin_isPrefix {α : Type} (cost : α → Nat) (budget : Nat) (items : List α) :
    takeWithin cost budget items <+: items := by
  induction items generalizing budget with
  | nil => exact prefix_refl []
  | cons item rest ih =>
    unfold takeWithin
    split_ifs with fits
    · exact (prefix_cons_inj item).mpr (ih (budget - cost item))
    · exact nil_prefix

theorem takeWithin_eq_self_iff {α : Type} (cost : α → Nat) (budget : Nat) (items : List α) :
    takeWithin cost budget items = items ↔ (items.map cost).sum ≤ budget := by
  induction items generalizing budget with
  | nil => simp [takeWithin]
  | cons item rest ih =>
    unfold takeWithin
    simp only [map_cons, sum_cons]
    split_ifs with fits
    · simp only [cons.injEq, true_and, ih]
      omega
    · refine iff_of_false (by simp) ?_
      omega

theorem takeWithin_length {α : Type} {cost : α → Nat} {budget each count : Nat} {items : List α}
    (cheap : ∀ item ∈ items, cost item ≤ each) (room : count * each ≤ budget) :
    min count items.length ≤ (takeWithin cost budget items).length := by
  induction items generalizing budget count with
  | nil => exact Nat.min_le_right count 0
  | cons item rest ih =>
    cases count with
    | zero => exact Nat.zero_le _
    | succ count =>
      have first := cheap item mem_cons_self
      rw [Nat.succ_mul] at room
      have later := ih (fun other member => cheap other (mem_cons_of_mem item member))
        (show count * each ≤ budget - cost item by omega)
      rw [takeWithin, if_pos (by omega), length_cons, length_cons]
      omega

theorem mem_left_of_prefix {α : Type} {shown first second : List α} {position : Nat} {item : α}
    (cut : shown <+: first ++ second) (found : shown[position]? = some item)
    (early : position < first.length) : item ∈ first := by
  obtain ⟨rest, same⟩ := cut
  obtain ⟨inside, _⟩ := List.getElem?_eq_some_iff.mp found
  have whole : (first ++ second)[position]? = some item := by
    rw [← same, getElem?_append_left inside]
    exact found
  rw [getElem?_append_left early] at whole
  exact mem_of_getElem? whole

theorem forall₂_zip_map {α β γ : Type} {related : α → β → Prop} {shown : α → γ → Prop} {as : List α} {bs : List β}
    (pairs : Forall₂ related as bs) (f : α × β → γ)
    (step : ∀ a b, related a b → shown a (f (a, b))) : Forall₂ shown as ((as.zip bs).map f) := by
  induction pairs with
  | nil => exact Forall₂.nil
  | cons head _ ih => exact Forall₂.cons (step _ _ head) ih

/-- `ROW_NUMBER() OVER (PARTITION BY key)` in list order; `seen` are the items before the list. -/
def rowNumbers {α κ : Type} [DecidableEq κ] (key : α → κ) : List α → List α → List (α × Int)
  | _, [] => []
  | seen, item :: rest =>
    (item, (seen.countP (fun other => decide (key other = key item)) : Int) + 1) ::
      rowNumbers key (seen ++ [item]) rest

/-- `GROUP BY`: the distinct keys in ascending order, as the grouping sorter delivers them. -/
def groupKeys {κ : Type} [LinearOrder κ] (keys : List κ) : List κ := keys.dedup.insertionSort (· ≤ ·)

def orderBy {α β : Type} [LinearOrder β] (code : α → β) (items : List α) : List α :=
  items.insertionSort (fun a b => code a ≤ code b)

section Grouping

variable {κ : Type} [LinearOrder κ]

theorem mem_groupKeys {keys : List κ} {key : κ} : key ∈ groupKeys keys ↔ key ∈ keys := by
  simp [groupKeys]

theorem groupKeys_nodup (keys : List κ) : (groupKeys keys).Nodup :=
  (perm_insertionSort _ keys.dedup).nodup_iff.mpr (nodup_dedup keys)

theorem groupKeys_sorted (keys : List κ) : (groupKeys keys).Pairwise (· < ·) := by
  have ordered : (groupKeys keys).Pairwise (· ≤ ·) := pairwise_insertionSort (· ≤ ·) keys.dedup
  exact (ordered.and (groupKeys_nodup keys)).imp fun both => lt_of_le_of_ne both.1 both.2

theorem orderBy_perm {α β : Type} [LinearOrder β] (code : α → β) (items : List α) : (orderBy code items).Perm items :=
  perm_insertionSort _ items

omit [LinearOrder κ] in
theorem mem_drop_of_nodup {items : List κ} (nodup : items.Nodup) {item : κ} :
    item ∈ items.drop count ↔ item ∈ items ∧ item ∉ items.take count := by
  rw [← take_append_drop count items] at nodup
  have disjoint := disjoint_of_nodup_append nodup
  constructor
  · exact fun late => ⟨mem_of_mem_drop late, fun early => disjoint early late⟩
  · rintro ⟨member, late⟩
    rw [← take_append_drop count items] at member
    exact (mem_append.mp member).resolve_left late

theorem mem_take_sorted {items : List κ} (sorted : items.Pairwise (· < ·)) {item : κ} :
    item ∈ items.take count ↔ item ∈ items ∧ items.countP (fun other => decide (other < item)) < count := by
  have behind : item ∈ items.drop count ↔ item ∈ items ∧ count ≤ items.countP (fun other => decide (other < item)) := by
    rw [← filter_rank_eq_drop id sorted count]
    simp
  have split := @mem_drop_of_nodup count κ items (sorted.imp fun less => less.ne) item
  rw [← not_le]
  constructor
  · intro early
    have member := mem_of_mem_take early
    exact ⟨member, fun many => (split.mp (behind.mpr ⟨member, many⟩)).2 early⟩
  · rintro ⟨member, few⟩
    by_contra late
    exact few (behind.mp (split.mpr ⟨member, late⟩)).2

theorem eq_of_sorted {as bs : List κ} (first : as.Pairwise (· < ·)) (second : bs.Pairwise (· < ·))
    (same : ∀ item, item ∈ as ↔ item ∈ bs) : as = bs := by
  have perm : as.Perm bs := (perm_ext_iff_of_nodup (first.imp fun h => h.ne) (second.imp fun h => h.ne)).mpr same
  exact perm.eq_of_pairwise (fun a b _ _ lower upper => absurd lower upper.asymm) first second

theorem countP_le_of_subset {α : Type} {as bs : List α} (nodup : as.Nodup) (chosen : α → Bool)
    (grown : ∀ item ∈ as, chosen item → item ∈ bs) : as.countP chosen ≤ bs.countP chosen := by
  rw [countP_eq_length_filter, countP_eq_length_filter]
  refine (subperm_of_subset (nodup.filter chosen) ?_).length_le
  intro item member
  rw [mem_filter] at member ⊢
  exact ⟨grown item member.1 member.2, member.2⟩

theorem take_eq_of_crowded {as bs : List κ} (first : as.Pairwise (· < ·)) (second : bs.Pairwise (· < ·))
    (grown : ∀ item ∈ as, item ∈ bs)
    (crowded : ∀ item ∈ bs, item ∉ as → count ≤ as.countP (fun other => decide (other < item))) :
    bs.take count = as.take count := by
  refine eq_of_sorted (second.sublist (take_sublist _ _)) (first.sublist (take_sublist _ _)) ?_
  intro item
  rw [mem_take_sorted first, mem_take_sorted second]
  constructor
  · rintro ⟨member, few⟩
    have smaller := countP_le_of_subset (first.imp fun less => less.ne) (fun other => decide (other < item))
      fun other present _ => grown other present
    by_cases old : item ∈ as
    · exact ⟨old, by omega⟩
    · have := crowded item member old
      omega
  · rintro ⟨member, few⟩
    refine ⟨grown item member, lt_of_le_of_lt ?_ few⟩
    refine countP_le_of_subset (second.imp fun less => less.ne) _ fun other present below => ?_
    rw [decide_eq_true_eq] at below
    by_contra entered
    have many := crowded other present entered
    have wider : as.countP (fun lower => decide (lower < other)) ≤ as.countP (fun lower => decide (lower < item)) :=
      countP_mono_left fun lower _ less => by
        simp only [decide_eq_true_eq] at less ⊢
        exact less.trans below
    omega

end Grouping

section Numbering

variable {α κ : Type} [DecidableEq κ] (key : α → κ)

variable (seen items : List α)

theorem rowNumbers_fst : (rowNumbers key seen items).map Prod.fst = items := by
  induction items generalizing seen with
  | nil => rfl
  | cons item rest ih => simp [rowNumbers, ih]

theorem rowNumbers_lower {seen items : List α} {entry : α × Int} (member : entry ∈ rowNumbers key seen items) :
    (seen.countP (fun other => decide (key other = key entry.1)) : Int) < entry.2 := by
  induction items generalizing seen with
  | nil => simp [rowNumbers] at member
  | cons item rest ih =>
    rcases mem_cons.mp member with rfl | later
    · simp
    · have bound := ih later
      rw [countP_append] at bound
      omega

theorem rowNumbers_apart :
    (rowNumbers key seen items).Pairwise (fun a b => key a.1 = key b.1 → a.2 ≠ b.2) := by
  induction items generalizing seen with
  | nil => exact Pairwise.nil
  | cons item rest ih =>
    refine Pairwise.cons ?_ (ih (seen ++ [item]))
    intro entry later same
    have bound := rowNumbers_lower key later
    rw [countP_append, ← same] at bound
    simp only [countP_singleton, decide_true, if_true] at bound
    omega

theorem rowNumbers_run (part : κ) :
    ((rowNumbers key seen items).filter (fun entry => decide (key entry.1 = part))).map Prod.snd =
      (range (items.countP (fun item => decide (key item = part)))).map
        (fun index : Nat => (seen.countP (fun item => decide (key item = part)) : Int) + 1 + index) := by
  induction items generalizing seen with
  | nil => simp [rowNumbers]
  | cons item rest ih =>
    rw [rowNumbers, filter_cons, countP_cons]
    by_cases same : key item = part
    · simp only [same, decide_true, if_true, map_cons, ih, countP_append, countP_singleton,
        range_succ_eq_map, map_map]
      refine congrArg₂ cons (by simp) (map_congr_left fun index _ => ?_)
      simp only [Function.comp_apply]
      push_cast
      omega
    · simp [same, ih, countP_append]

theorem rowNumbers_length : (rowNumbers key seen items).length = items.length := by
  rw [← length_map, rowNumbers_fst]

variable {β : Type} [LinearOrder β] {code : α → β} {items : List α}

theorem mem_rowNumbers_orderBy {item : α} :
    (∃ number, (item, number) ∈ rowNumbers key [] (orderBy code items)) ↔ item ∈ items := by
  rw [← (orderBy_perm code items).mem_iff]
  nth_rewrite 2 [← rowNumbers_fst key [] (orderBy code items)]
  simp

theorem rowNumbers_orderBy_distinct (nodup : items.Nodup) :
    (rowNumbers key [] (orderBy code items)).Pairwise fun a b => a.1 ≠ b.1 := by
  refine pairwise_map.mp ?_
  rw [rowNumbers_fst]
  exact (orderBy_perm code items).nodup_iff.mpr nodup

end Numbering

theorem rowNumbers_inj {α κ : Type} [DecidableEq κ] (key : α → κ) {seen items : List α} {a b : α × Int}
    (first : a ∈ rowNumbers key seen items) (second : b ∈ rowNumbers key seen items)
    (part : key a.1 = key b.1) (number : a.2 = b.2) : a = b := by
  have nodup : ((rowNumbers key seen items).map (fun entry => (key entry.1, entry.2))).Nodup := by
    rw [Nodup, pairwise_map]
    refine (rowNumbers_apart key seen items).imp ?_
    intro x y apart same
    rw [Prod.mk.injEq] at same
    exact apart same.1 same.2
  exact inj_on_of_nodup_map nodup first second (by simp [part, number])

theorem Unbroken.append_run (block : Unbroken numbers) (count : Nat) :
    Unbroken (numbers ++ (range count).map (fun index : Nat => maxOrZero numbers + (1 + index))) := by
  let run (count : Nat) : List Int := numbers ++ (range count).map fun index : Nat => maxOrZero numbers + (1 + index)
  have step (count : Nat) : run (count + 1) = run count ++ [maxOrZero numbers + (1 + count)] := by
    simp [run, range_succ]
  have extended : ∀ count, Unbroken (run count) ∧
      (run count ≠ [] → maxOrZero (run count) = maxOrZero numbers + count) := by
    intro count
    induction count with
    | zero => simpa [run] using block
    | succ count ih =>
      rw [step]
      refine ⟨ih.1.append fun nonempty => ?_, fun _ => ?_⟩
      · rw [ih.2 nonempty]
        ring
      · rw [maxOrZero_append_singleton]
        · push_cast
          ring
        · intro old member
          have bound := le_maxOrZero member
          rw [ih.2 (ne_nil_of_mem member)] at bound
          omega
  exact (extended count).1

theorem exists_last {α : Type} {holds : α → Bool} {items : List α} (some : ∃ item ∈ items, holds item) :
    ∃ older last, items = older ++ last :: items.rtakeWhile (fun item => !holds item) ∧ holds last := by
  let fails (item : α) : Bool := !holds item
  have left : items.rdropWhile fails ≠ [] := by
    rw [Ne, rdropWhile_eq_nil_iff]
    obtain ⟨item, member, held⟩ := some
    exact fun all => by simpa [fails, held] using all item member
  refine ⟨(items.rdropWhile fails).dropLast, (items.rdropWhile fails).getLast left, ?_, ?_⟩
  · rw [← singleton_append, ← append_assoc, dropLast_append_getLast]
    exact rdropWhile_append_rtakeWhile.symm
  · simpa [fails] using rdropWhile_last_not fails items left

end Sequences
