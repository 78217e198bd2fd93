import Mathlib.Data.List.Infix
import Mathlib.Tactic.Common

namespace Separated

open List

variable {Item : Type}

def joined (separator : Item) (words : List (List Item)) : List Item :=
  separator :: words.flatMap fun word => word ++ [separator]

def enclosed (separator : Item) (word : List Item) : List Item := separator :: (word ++ [separator])

def position [DecidableEq Item] (text needle : List Item) : Nat :=
  match (List.range (text.length + 1)).find? fun start => needle.isPrefixOf (text.drop start) with
  | some start => start + 1
  | none => 0

theorem position_eq_zero [DecidableEq Item] (text needle : List Item) :
    position text needle = 0 ↔ ¬ needle <:+: text := by
  unfold position
  cases found : (range (text.length + 1)).find? fun start => needle.isPrefixOf (text.drop start) with
  | some start =>
    have here := find?_some found
    have inside : needle <:+: text := ( isPrefixOf_iff_prefix.mp here).isInfix.trans (drop_suffix start text).isInfix
    simp [inside]
  | none =>
    have nowhere := find?_eq_none.mp found
    simp only [true_iff]
    rintro ⟨before, after, split⟩
    have small : before.length < text.length + 1 := by
      rw [← split, length_append, length_append]
      omega
    refine nowhere before.length (mem_range.mpr small) ?_
    rw [ isPrefixOf_iff_prefix, ← split, append_assoc, drop_left]
    exact prefix_append needle after

theorem joined_cons (separator : Item) (word : List Item) (words : List (List Item)) :
    joined separator (word :: words) = separator :: (word ++ joined separator words) := by
  simp [joined]

theorem joined_append_single (separator : Item) (words : List (List Item)) (word : List Item) :
    joined separator (words ++ [word]) = joined separator words ++ word ++ [separator] := by
  simp [joined]

theorem begins_word {separator : Item} {word other : List Item} (plain : separator ∉ word) (clear : separator ∉ other)
    {rest : List Item} : word ++ [separator] <+: other ++ separator :: rest ↔ word = other := by
  constructor
  · intro begins
    induction word generalizing other with
    | nil =>
      cases other with
      | nil => rfl
      | cons first more =>
        rw [nil_append, cons_append, cons_prefix_cons] at begins
        exact absurd (begins.1 ▸ mem_cons_self) clear
    | cons first more ih =>
      cases other with
      | nil =>
        rw [nil_append, cons_append, cons_prefix_cons] at begins
        exact absurd (begins.1 ▸ mem_cons_self) plain
      | cons head tail =>
        rw [cons_append, cons_append, cons_prefix_cons] at begins
        rw [begins.1, ih (fun inner => plain (mem_cons_of_mem _ inner))
          (fun inner => clear (mem_cons_of_mem _ inner)) begins.2]
  · rintro rfl
    exact ⟨rest, by simp⟩

theorem infix_after_word {separator : Item} {word needle rest : List Item} (plain : separator ∉ word) :
    separator :: needle <:+: word ++ rest ↔ separator :: needle <:+: rest := by
  induction word with
  | nil => rfl
  | cons first more ih =>
    have apart : separator ≠ first := fun same => plain (same ▸ mem_cons_self)
    rw [cons_append, infix_cons_iff, cons_prefix_cons, ih fun inner => plain (mem_cons_of_mem _ inner)]
    simp [apart]

theorem enclosed_infix_joined {separator : Item} {word : List Item} {words : List (List Item)}
    (plain : separator ∉ word) (clear : ∀ other ∈ words, separator ∉ other) :
    enclosed separator word <:+: joined separator words ↔ word ∈ words := by
  induction words with
  | nil =>
    simp only [not_mem_nil, iff_false]
    intro inside
    have short := inside.length_le
    simp [enclosed, joined] at short
  | cons first rest ih =>
    have tail : joined separator rest = separator :: rest.flatMap fun word => word ++ [separator] := rfl
    rw [joined_cons, infix_cons_iff, enclosed, cons_prefix_cons,
      infix_after_word (clear first mem_cons_self), mem_cons, ← enclosed,
      ih fun other inner => clear other (mem_cons_of_mem _ inner), tail,
      begins_word plain (clear first mem_cons_self)]
    simp

end Separated
