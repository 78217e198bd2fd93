import Mathlib.Data.List.Basic
import Mathlib.Data.Nat.Digits.Defs
import Mathlib.Data.String.Basic
import RustScriptAgent.Shared.Json

namespace Texts

open List

theorem toString_toList (number : Int) :
    (toString number).toList =
      (if 0 ≤ number then [] else ['-']) ++ Nat.toDigits 10 (if 0 ≤ number then number else -number).toNat := by
  have shown : toString number = number.repr := rfl
  rw [shown, Int.repr_eq_if]
  split_ifs <;> simp [Nat.repr_eq_ofList_toDigits]

theorem colon_not_mem_toString (number : Int) : ':' ∉ (toString number).toList := by
  intro member
  rw [toString_toList, mem_append] at member
  rcases member with sign | digit
  · split_ifs at sign <;> simp at sign
  · have := Nat.isDigit_of_mem_toDigits (by decide) (by decide) digit
    exact absurd this (by decide)

theorem utf8Len_toDigits (number : Nat) : String.utf8Len (Nat.toDigits 10 number) =
    (Nat.toDigits 10 number).length := by
  have narrow : ∀ chars : List Char, (∀ char ∈ chars, char.isDigit) → String.utf8Len chars = chars.length := by
    intro chars digits
    induction chars with
    | nil => rfl
    | cons char rest ih =>
      have ascii : char.utf8Size = 1 := by
        have digit := digits char mem_cons_self
        simp only [Char.isDigit, Bool.and_eq_true, decide_eq_true_eq] at digit
        have small : char.val.toNat ≤ '9'.val.toNat := UInt32.le_iff_toNat_le.mp digit.2
        rw [Char.utf8Size, if_pos]
        exact UInt32.le_iff_toNat_le.mpr (small.trans (by decide))
      have others := ih fun other member => digits other (mem_cons_of_mem _ member)
      rw [String.utf8Len_cons, others, ascii, length_cons]
  exact narrow _ fun char member => Nat.isDigit_of_mem_toDigits (by decide) (by decide) member

theorem toString_size (number : Int) (width : Nat) (positive : 0 < width) (fits : number.natAbs < 10 ^ width) :
    (toString number).utf8ByteSize ≤ width + 1 := by
  have digits : (if 0 ≤ number then number else -number).toNat = number.natAbs := by
    split_ifs <;> omega
  have short : (Nat.toDigits 10 number.natAbs).length ≤ width := Nat.toDigits_length 10 _ width positive fits
  rw [← String.utf8Len_toList, toString_toList, digits, String.utf8Len_append, utf8Len_toDigits]
  split_ifs
  · simpa using short.trans (Nat.le_succ width)
  · have sign : String.utf8Len ['-'] = 1 := by decide
    omega

theorem last_separator {separator : Char} {a b x y : List Char} (same : a ++ separator :: x = b ++ separator :: y)
    (first : separator ∉ x) (second : separator ∉ y) : a = b ∧ x = y := by
  have lists := congrArg reverse same
  simp only [reverse_append, reverse_cons, append_assoc, singleton_append] at lists
  -- the last part is what comes before the first separator from the end
  have tail {part rest : List Char} (clean : separator ∉ part) :
      (part.reverse ++ separator :: rest).takeWhile (fun char => char != separator) = part.reverse := by
    rw [takeWhile_append_of_pos]
    · simp
    · intro char member
      simp only [bne_iff_ne]
      rintro rfl
      exact clean (mem_reverse.mp member)
  have parts := congrArg (takeWhile (fun char => char != separator)) lists
  rw [tail first, tail second] at parts
  rw [parts, append_cancel_left_eq, cons.injEq] at lists
  exact ⟨reverse_injective lists.2, reverse_injective parts⟩

theorem stamped_inj {a b : String} {m n : Int} (same : a ++ ":" ++ toString m = b ++ ":" ++ toString n) : a = b := by
  have lists : a.toList ++ ':' :: (toString m).toList = b.toList ++ ':' :: (toString n).toList := by
    have texts := congrArg String.toList same
    have colon : (":" : String).toList = [':'] := rfl
    simpa only [String.toList_append, append_assoc, colon, singleton_append] using texts
  exact String.toList_inj.mp (last_separator lists (colon_not_mem_toString m) (colon_not_mem_toString n)).1

theorem utf8Len_replicate (count : Nat) : String.utf8Len (replicate count 'x') = count := by
  induction count with
  | zero => rfl
  | succ count ih =>
    have width : 'x'.utf8Size = 1 := rfl
    rw [replicate_succ, String.utf8Len_cons, ih, width]

def filler (size : Nat) : String := String.ofList (replicate size 'x')

theorem filler_size (size : Nat) : (filler size).utf8ByteSize = size := by
  rw [filler, ← String.utf8Len_toList, String.toList_ofList, utf8Len_replicate]

theorem quote_filler_size (size : Nat) : (Json.quote (filler size)).utf8ByteSize = size + 2 := by
  have plain : (replicate size 'x').flatMap Json.escapeChar = replicate size 'x' := by
    induction size with
    | zero => rfl
    | succ size ih =>
      rw [replicate_succ, flatMap_cons, ih]
      rfl
  have mark : "\"".utf8ByteSize = 1 := by decide
  have text := filler_size size
  rw [filler] at text
  rw [Json.quote, filler, String.toList_ofList, plain, String.utf8ByteSize_append, String.utf8ByteSize_append, mark,
    text]
  omega

end Texts
