import Mathlib.Algebra.GroupWithZero.Nat
import Mathlib.Algebra.Order.BigOperators.Group.List
import Mathlib.Tactic.Common

namespace Chunks

open List

variable {Item : Type} (cap : Nat) (weight : Item → Nat)

def weigh (items : List Item) : Nat := (items.map weight).sum

def loop (chunks : List (List Item)) (current : List Item) (size : Nat) : List Item → List (List Item)
  | [] => if current.isEmpty then chunks else chunks ++ [current]
  | item :: rest =>
    if cap < size + weight item ∧ current ≠ [] then
      loop (chunks ++ [current]) [item] (weight item) rest
    else loop chunks (current ++ [item]) (size + weight item) rest

def split (items : List Item) : List (List Item) :=
  if weigh weight items ≤ cap then [items] else loop cap weight [] [] 0 items

variable {cap} {weight}

@[simp] theorem weigh_nil : weigh weight ([] : List Item) = 0 := rfl

@[simp] theorem weigh_cons (item : Item) (rest : List Item) :
    weigh weight (item :: rest) = weight item + weigh weight rest := by
  simp [weigh]

@[simp] theorem weigh_append (first second : List Item) :
    weigh weight (first ++ second) = weigh weight first + weigh weight second := by
  simp [weigh]

theorem weigh_replicate (count : Nat) (item : Item) :
    weigh weight (replicate count item) = count * weight item := by
  simp [weigh]

theorem loop_chunks (chunks : List (List Item)) (current : List Item) (size : Nat) (items : List Item) :
    loop cap weight chunks current size items = chunks ++ loop cap weight [] current size items := by
  induction items generalizing chunks current size with
  | nil => cases current <;> simp [loop]
  | cons item rest ih =>
    simp only [loop]
    split
    · rw [ih, ih ([] ++ [current])]
      simp
    · exact ih chunks _ _

theorem flatten_loop (current : List Item) (size : Nat) (items : List Item) :
    (loop cap weight [] current size items).flatten = current ++ items := by
  induction items generalizing current size with
  | nil => cases current <;> simp [loop]
  | cons item rest ih =>
    simp only [loop]
    split
    · rw [loop_chunks]
      simp [ih]
    · simp [ih]

theorem mem_loop (light : ∀ item, weight item ≤ cap) {current chunk : List Item} {items : List Item}
    (fits : weigh weight current ≤ cap)
    (member : chunk ∈ loop cap weight [] current (weigh weight current) items) :
    chunk ≠ [] ∧ weigh weight chunk ≤ cap := by
  induction items generalizing current with
  | nil =>
    cases current with
    | nil => simp [loop] at member
    | cons item rest =>
      simp only [loop, isEmpty_cons, Bool.false_eq_true, if_false, nil_append, mem_singleton] at member
      rw [member]
      exact ⟨cons_ne_nil _ _, fits⟩
  | cons item rest ih =>
    simp only [loop] at member
    split at member
    next full =>
      rw [loop_chunks] at member
      rcases mem_append.mp member with first | later
      · rw [nil_append, mem_singleton] at first
        rw [first]
        exact ⟨full.2, fits⟩
      · have alone : weigh weight [item] = weight item := by simp
        rw [← alone] at later
        exact ih (alone ▸ light item) later
    next room =>
      have grown : weigh weight current + weight item = weigh weight (current ++ [item]) := by simp
      rw [grown] at member room
      refine ih ?_ member
      by_cases empty : current = []
      · simpa [empty] using light item
      · simpa [empty] using room

theorem loop_append (current fitting items : List Item) (size : Nat) (fits : size + weigh weight fitting ≤ cap) :
    loop cap weight [] current size (fitting ++ items) =
      loop cap weight [] (current ++ fitting) (size + weigh weight fitting) items := by
  induction fitting generalizing current size with
  | nil => simp
  | cons item rest ih =>
    rw [weigh_cons] at fits
    have room : ¬ (cap < size + weight item ∧ current ≠ []) := fun full => by omega
    rw [cons_append, loop, if_neg room, ih _ _ (by omega)]
    simp [Nat.add_assoc]

theorem loop_head {current : List Item} (started : current ≠ []) (size : Nat) (items : List Item) :
    ∃ more rest, items = more ++ rest ∧
      loop cap weight [] current size items = (current ++ more) :: loop cap weight [] [] 0 rest ∧
      ∀ item ∈ rest.head?, cap < size + weigh weight (more ++ [item]) := by
  induction items generalizing current size with
  | nil => exact ⟨[], [], rfl, by simp [loop, started], by simp⟩
  | cons item others ih =>
    by_cases full : cap < size + weight item
    · refine ⟨[], item :: others, rfl, ?_, by simpa using full⟩
      rw [loop, if_pos ⟨full, started⟩, loop_chunks]
      simp [loop]
    · obtain ⟨more, rest, parts, shape, overflow⟩ := ih (show current ++ [item] ≠ [] by simp) (size + weight item)
      refine ⟨item :: more, rest, by rw [parts, cons_append], ?_, fun later first => ?_⟩
      · rw [loop, if_neg fun heavy => full heavy.1, shape]
        simp
      · rw [cons_append, weigh_cons]
        have := overflow later first
        omega

theorem loop_pieces {pieces : List (List Item)} {items skipped : List Item}
    (light : ∀ piece ∈ pieces, weigh weight piece ≤ cap) (whole : pieces.flatten = skipped ++ items) :
    (loop cap weight [] [] 0 items).length ≤ pieces.length := by
  induction pieces generalizing items skipped with
  | nil =>
    have empty : items = [] := (append_eq_nil_iff.mp whole.symm).2
    simp [empty, loop]
  | cons piece others ih =>
    obtain ⟨first, rest⟩ := forall_mem_cons.mp light
    rw [flatten_cons] at whole
    rcases append_eq_append_iff.mp whole with ⟨behind, _, later⟩ | ⟨start, divided, later⟩
    · have shorter := ih rest later
      exact shorter.trans (Nat.le_succ _)
    · by_cases empty : start = []
      · have shorter := ih rest (show others.flatten = [] ++ items by simpa [empty] using later.symm)
        exact shorter.trans (Nat.le_succ _)
      · have fits : weigh weight start ≤ cap := by
          rw [divided, weigh_append] at first
          omega
        have fed := loop_append [] start others.flatten 0 (by simpa using fits)
        obtain ⟨more, left, parts, shape, _⟩ := loop_head empty (0 + weigh weight start) others.flatten
        rw [later, fed, nil_append, shape, length_cons, length_cons]
        exact Nat.succ_le_succ (ih rest parts)

def Full (cap : Nat) (weight : Item → Nat) (chunks : List (List Item)) : Prop :=
  chunks.IsChain fun chunk next => ∀ item ∈ next.head?, cap < weigh weight (chunk ++ [item])

theorem loop_full (items : List Item) : Full cap weight (loop cap weight [] [] 0 items) := by
  induction count : items.length using Nat.strong_induction_on generalizing items with
  | _ left ih =>
    cases items with
    | nil => simp [loop, Full]
    | cons item others =>
      have started : loop cap weight [] [] 0 (item :: others) = loop cap weight [] [item] (weight item) others := by
        simp [loop]
      obtain ⟨more, rest, parts, shape, overflow⟩ := loop_head (cons_ne_nil item []) (weight item) others
      have shorter : rest.length < left := by
        rw [← count, parts, length_cons, length_append]
        omega
      have later := ih rest.length shorter rest rfl
      rw [started, shape]
      cases rest with
      | nil => simp [loop, Full]
      | cons next remaining =>
        obtain ⟨_, _, _, onward, _⟩ := loop_head (cons_ne_nil next []) (weight next) remaining
        have again : loop cap weight [] [] 0 (next :: remaining) =
            loop cap weight [] [next] (weight next) remaining := by simp [loop]
        rw [again, onward] at later ⊢
        refine isChain_cons_cons.mpr ⟨fun head first => ?_, later⟩
        simp only [cons_append, nil_append, head?_cons, Option.mem_some_iff] at first
        have := overflow next rfl
        rw [← first]
        simpa using this

theorem flatten_split (items : List Item) : (split cap weight items).flatten = items := by
  unfold split
  split
  · simp
  · simp [flatten_loop]

theorem mem_split (light : ∀ item, weight item ≤ cap) {items chunk : List Item} (some : items ≠ [])
    (member : chunk ∈ split cap weight items) : chunk ≠ [] ∧ weigh weight chunk ≤ cap := by
  unfold split at member
  split at member
  next fits =>
    rw [mem_singleton.mp member]
    exact ⟨some, fits⟩
  next => exact mem_loop light (Nat.zero_le _) member

theorem split_append (light : ∀ item, weight item ≤ cap) (fitting items : List Item)
    (fits : weigh weight fitting ≤ cap) :
    ∃ more rest, split cap weight (fitting ++ items) = (fitting ++ more) :: rest ∧
      (rest = [] ↔ weigh weight (fitting ++ items) ≤ cap) := by
  by_cases all : weigh weight (fitting ++ items) ≤ cap
  · exact ⟨items, [], by rw [split, if_pos all], by simpa using all⟩
  have whole : (split cap weight (fitting ++ items)).flatten = fitting ++ items := flatten_split _
  have shape : ∃ more rest, split cap weight (fitting ++ items) = (fitting ++ more) :: rest := by
    by_cases empty : fitting = []
    · -- nothing to keep together: any first chunk will do
      cases chunks : split cap weight (fitting ++ items) with
      | nil =>
        rw [chunks] at whole
        simp [← whole] at all
      | cons first rest => exact ⟨first, rest, by simp [empty]⟩
    · have fed := loop_append [] fitting items 0 (by simpa using fits)
      obtain ⟨more, rest, _, head, _⟩ := loop_head empty (0 + weigh weight fitting) items
      exact ⟨more, _, by rw [split, if_neg all, fed]; exact head⟩
  obtain ⟨more, rest, same⟩ := shape
  refine ⟨more, rest, same, iff_of_false (fun alone => all ?_) all⟩
  rw [same, alone, flatten_singleton] at whole
  have some : fitting ++ items ≠ [] := fun empty => all (by simp [empty])
  rw [← whole]
  exact (mem_split light some (by simp [same])).2

theorem split_full (items : List Item) : Full cap weight (split cap weight items) := by
  unfold split
  split
  · simp [Full]
  · exact loop_full items

theorem split_pieces {items : List Item} (some : items ≠ []) {pieces : List (List Item)}
    (light : ∀ piece ∈ pieces, weigh weight piece ≤ cap) (whole : pieces.flatten = items) :
    (split cap weight items).length ≤ pieces.length := by
  unfold split
  split
  · cases pieces with
    | nil => exact absurd whole.symm some
    | cons piece others => simp
  · exact loop_pieces light (show pieces.flatten = [] ++ items from whole)

end Chunks
