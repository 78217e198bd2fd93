import Mathlib.Data.ENat.Basic
import Mathlib.Data.List.Infix
import Mathlib.Tactic.Common

namespace Occurrences

open List

variable {position : Nat}

variable {Item : Type}

def OccursAt (needle text : List Item) (position : Nat) : Prop := needle <+: text.drop position

instance [DecidableEq Item] (needle text : List Item) (position : Nat) : Decidable (OccursAt needle text position) :=
  inferInstanceAs (Decidable (_ <+: _))

section

variable {needle fresh text before after : List Item}

theorem occursAt_middle : OccursAt needle (before ++ needle ++ after) before.length := by
  rw [OccursAt, append_assoc, drop_left]
  exact prefix_append needle after

theorem OccursAt.split (occurs : OccursAt needle text position) :
    text = text.take position ++ needle ++ text.drop (position + needle.length) := by
  obtain ⟨rest, same⟩ := occurs
  have tail : text.drop (position + needle.length) = rest := by
    rw [← drop_drop, ← same, drop_left]
  rw [tail, append_assoc, same, take_append_drop]

theorem OccursAt.fits (occurs : OccursAt needle text position) (nonempty : needle ≠ []) :
    position + needle.length ≤ text.length := by
  have length := occurs.length_le
  rw [length_drop] at length
  have := length_pos_iff.mpr nonempty
  omega

theorem occursAt_drop {start : Nat} :
    OccursAt needle (text.drop start) position ↔ OccursAt needle text (start + position) := by
  rw [OccursAt, OccursAt, drop_drop]

end

/-- `Replaced needle fresh limit count text out`: `out` is `text` with the first `limit` occurrences of `needle` (all of
them for `⊤`) replaced by `fresh`, reading from left to right and going on after the end of an occurrence; `count` of
them were there. -/
inductive Replaced (needle fresh : List Item) : ℕ∞ → Nat → List Item → List Item → Prop
  | stop {text : List Item} : Replaced needle fresh 0 0 text text
  | none {limit : ℕ∞} {text : List Item} (absent : ∀ position, ¬ OccursAt needle text position) :
      Replaced needle fresh limit 0 text text
  | next {limit : ℕ∞} {count : Nat} {before after out : List Item}
      (first : ∀ position < before.length, ¬ OccursAt needle (before ++ needle ++ after) position)
      (rest : Replaced needle fresh limit count after out) :
      Replaced needle fresh (limit + 1) (count + 1) (before ++ needle ++ after) (before ++ fresh ++ out)

namespace Replaced

variable {needle fresh text out : List Item} {limit : ℕ∞} {count : Nat}

theorem at_occurrence (replaced : Replaced needle fresh limit count text out) (more : limit ≠ 0)
    (occurs : OccursAt needle text position) (clear : ∀ earlier < position, ¬ OccursAt needle text earlier) :
    ∃ limit' count' out', limit = limit' + 1 ∧ count = count' + 1 ∧ out = text.take position ++ fresh ++ out' ∧
      Replaced needle fresh limit' count' (text.drop (position + needle.length)) out' := by
  cases replaced with
  | stop => exact absurd rfl more
  | none absent => exact absurd occurs (absent position)
  | @next limit count before after out first rest =>
    have same : before.length = position := by
      rcases Nat.lt_trichotomy before.length position with earlier | same | later
      · exact absurd occursAt_middle (clear before.length earlier)
      · exact same
      · exact absurd occurs (first position later)
    subst same
    refine ⟨limit, count, out, rfl, rfl, ?_, ?_⟩
    · simp
    · have tail : (before ++ needle ++ after).drop (before.length + needle.length) = after := by
        rw [← length_append, drop_left]
      rwa [tail]

theorem of_absent (replaced : Replaced needle fresh limit count text out)
    (absent : ∀ position, ¬ OccursAt needle text position) : count = 0 ∧ out = text := by
  cases replaced with
  | stop => exact ⟨rfl, rfl⟩
  | none _ => exact ⟨rfl, rfl⟩
  | next _ _ => exact absurd occursAt_middle (absent _)

theorem of_zero (replaced : Replaced needle fresh 0 count text out) : count = 0 ∧ out = text := by
  generalize zero : (0 : ℕ∞) = bound at replaced
  cases replaced with
  | stop => exact ⟨rfl, rfl⟩
  | none _ => exact ⟨rfl, rfl⟩
  | next _ _ => exact absurd zero.symm (by simp)

theorem of_none (replaced : Replaced needle fresh limit 0 text out) (more : limit ≠ 0) :
    (∀ position, ¬ OccursAt needle text position) ∧ out = text := by
  cases replaced with
  | stop => exact absurd rfl more
  | none absent => exact ⟨absent, rfl⟩

theorem of_succ (replaced : Replaced needle fresh limit (count + 1) text out) :
    ∃ limit' before after out', limit = limit' + 1 ∧ text = before ++ needle ++ after ∧
      (∀ position < before.length, ¬ OccursAt needle text position) ∧ out = before ++ fresh ++ out' ∧
      Replaced needle fresh limit' count after out' := by
  cases replaced with
  | @next limit' count before after out' first rest => exact ⟨limit', before, after, out', rfl, rfl, first, rfl, rest⟩

theorem at_count (replaced : Replaced needle fresh limit count text out) :
    Replaced needle fresh count count text out := by
  induction replaced with
  | stop => exact .stop
  | none absent => exact .none absent
  | next first rest ih =>
    rw [Nat.cast_add, Nat.cast_one]
    exact .next first ih

end Replaced

theorem exists_replaced {needle : List Item} (fresh : List Item) (nonempty : needle ≠ []) (text : List Item) :
    ∃ count out, Replaced needle fresh ⊤ count text out := by
  classical
  -- the text after the first occurrence is shorter
  induction length : text.length using Nat.strong_induction_on generalizing text with
  | _ size ih =>
    by_cases occurs : ∃ position, OccursAt needle text position
    · have first := Nat.find_spec occurs
      have clear := fun position => @Nat.find_min _ _ occurs position
      generalize Nat.find occurs = position at first clear
      have fits := first.fits nonempty
      have split := first.split
      obtain ⟨count, out, rest⟩ := ih (text.drop (position + needle.length)).length
        (by
          have := length_pos_iff.mpr nonempty
          rw [length_drop]
          omega) _ rfl
      have taken : (text.take position).length = position := by
        rw [length_take]
        omega
      generalize text.take position = before at split taken
      generalize text.drop (position + needle.length) = after at split rest
      subst split taken
      exact ⟨count + 1, before ++ fresh ++ out, .next (fun earlier sooner => clear earlier sooner) rest⟩
    · exact ⟨0, text, .none fun position => not_exists.mp occurs position⟩

end Occurrences
