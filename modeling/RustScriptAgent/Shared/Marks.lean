import Mathlib.Algebra.Order.BigOperators.Group.List
import Mathlib.Algebra.Order.Ring.Nat
import Mathlib.Data.String.Basic
import Mathlib.Tactic.Common
import RustScriptAgent.Shared.Json

namespace Json

open List String

variable {value : Json}

def tally (kind : Char → Bool) (text : String) : Nat := text.toList.countP kind

structure Counts (kind : Char → Bool) : Prop where
  quote : kind '"' = true
  brackets : kind '[' = true ∧ kind ']' = true ∧ kind '\x7b' = true ∧ kind '\x7d' = true
  escapes : ∀ c, [c].countP kind ≤ (escapeChar c).countP kind

section Tally

variable {kind : Char → Bool}

@[simp] theorem tally_append (a b : String) : tally kind (a ++ b) = tally kind a + tally kind b := by
  simp [tally, toList_append]

theorem tally_take (text : String) (count : Nat) :
    tally kind (ofList (text.toList.take count)) ≤ tally kind text := by
  rw [tally, tally, toList_ofList]
  exact (take_sublist count text.toList).countP_le

theorem tally_join (texts : List String) : tally kind (join texts) = (texts.map (tally kind)).sum := by
  induction texts with
  | nil => rfl
  | cons text rest ih => rw [join_cons, tally_append, ih, map_cons, sum_cons]

theorem tally_renderItems (items : List Json) :
    (items.map fun item => tally kind item.render).sum ≤ tally kind (renderItems items) := by
  induction items with
  | nil => simp
  | cons item rest ih =>
    rw [map_cons, sum_cons]
    cases rest with
    | nil => simp [renderItems]
    | cons other more =>
      rw [renderItems, tally_append, tally_append]
      · omega
      · exact fun none => by cases none

theorem tally_renderFields {fields : List (String × Json)} {field : String × Json} (member : field ∈ fields) :
    tally kind field.2.render ≤ tally kind (renderFields fields) := by
  induction fields with
  | nil => cases member
  | cons first rest ih =>
    rcases first with ⟨key, value⟩
    cases rest with
    | nil =>
      rw [mem_singleton] at member
      subst member
      rw [renderFields, tally_append]
      exact Nat.le_add_left _ _
    | cons other more =>
      rw [renderFields, tally_append, tally_append, tally_append]
      · rcases mem_cons.mp member with rfl | later
        · dsimp only
          omega
        · have := ih later
          omega
      · exact fun none => by cases none

namespace Counts

variable (counts : Counts kind)
include counts

theorem escaped (chars : List Char) : chars.countP kind ≤ (chars.flatMap escapeChar).countP kind := by
  induction chars with
  | nil => simp
  | cons c rest ih =>
    have one := counts.escapes c
    rw [flatMap_cons, countP_append, ← singleton_append, countP_append]
    omega

theorem str (text : String) : tally kind text + 2 ≤ tally kind (Json.str text).render := by
  have inner := counts.escaped text.toList
  have mark : tally kind "\"" = 1 := by simp [tally, counts.quote]
  rw [render, Json.quote, tally_append, tally_append, mark]
  simp only [tally, toList_ofList]
  omega

theorem arr (items : List Json) :
    (items.map fun item => tally kind item.render).sum + 2 ≤ tally kind (Json.arr items).render := by
  have inner := @tally_renderItems kind items
  have left : tally kind "[" = 1 := by simp [tally, counts.brackets.1]
  have right : tally kind "]" = 1 := by simp [tally, counts.brackets.2.1]
  rw [render, tally_append, tally_append, left, right]
  omega

theorem obj (fields : List (String × Json)) :
    tally kind (renderFields fields) + 2 = tally kind (Json.obj fields).render := by
  have left : tally kind "\x7b" = 1 := by simp [tally, counts.brackets.2.2.1]
  have right : tally kind "\x7d" = 1 := by simp [tally, counts.brackets.2.2.2]
  rw [render, tally_append, tally_append, left, right]
  omega

theorem get? {key : String} {document : Json} (found : document.get? key = some value) :
    tally kind value.render + 2 ≤ tally kind document.render := by
  cases document with
  | obj fields =>
    obtain ⟨field, stored, rfl⟩ := Option.map_eq_some_iff.mp found
    have inner := @tally_renderFields kind fields field (mem_of_find?_eq_some stored)
    have whole := counts.obj fields
    omega
  | _ => cases found

theorem getElem? {items : List Json} {index : Nat} (found : items[index]? = some value) :
    tally kind value.render + 2 ≤ tally kind (Json.arr items).render := by
  have inner := counts.arr items
  have one : tally kind value.render ≤ (items.map fun item => tally kind item.render).sum :=
    single_le_sum (by simp) _ (mem_map_of_mem (mem_of_getElem? found))
  omega

end Counts

end Tally

theorem length_eq_tally (text : String) : text.length = tally (fun _ => true) text := by
  simp [tally, length_toList]

theorem all_counts : Counts fun _ => true where
  quote := rfl
  brackets := ⟨rfl, rfl, rfl, rfl⟩
  escapes c := by
    unfold escapeChar
    split_ifs <;> simp

theorem length_le_utf8ByteSize (text : String) : text.length ≤ text.utf8ByteSize := by
  have most : ∀ chars : List Char, chars.length ≤ utf8Len chars := by
    intro chars
    induction chars with
    | nil => simp
    | cons c rest ih =>
      have := Char.utf8Size_pos c
      rw [length_cons, utf8Len_cons]
      omega
  rw [← length_toList, ← utf8Len_toList]
  exact most text.toList

def isMark (c : Char) : Bool :=
  !(c.isDigit || c == '.' || c == '+' || c == '-' || c == 'e' || c == 'E')

def marks (text : String) : Nat := tally isMark text

theorem isMark_counts : Counts isMark where
  quote := by decide
  brackets := by decide
  escapes c := by
    have most : [c].countP isMark ≤ 1 := countP_le_length
    unfold escapeChar
    split_ifs
    all_goals first | exact Nat.le_refl _ | skip
    all_goals
      refine Nat.le_trans most ?_
      rw [countP_cons_of_pos (by decide)]
      omega

@[simp] theorem marks_append (a b : String) : marks (a ++ b) = marks a + marks b := tally_append a b

@[simp] theorem marks_empty : marks "" = 0 := rfl

theorem marks_take (text : String) (count : Nat) : marks (ofList (text.toList.take count)) ≤ marks text :=
  tally_take text count

theorem marks_join (texts : List String) : marks (join texts) = (texts.map marks).sum := tally_join texts

theorem marks_str (text : String) : marks text + 2 ≤ marks (str text).render := isMark_counts.str text

theorem marks_arr (items : List Json) :
    (items.map fun item => marks item.render).sum + 2 ≤ marks (arr items).render := isMark_counts.arr items

theorem marks_get? {key : String} {document : Json} (found : document.get? key = some value) :
    marks value.render + 2 ≤ marks document.render := isMark_counts.get? found

theorem marks_getElem? {items : List Json} {index : Nat} (found : items[index]? = some value) :
    marks value.render + 2 ≤ marks (arr items).render := isMark_counts.getElem? found

/-- A reader whose documents print without characters that their text lacks, number literals apart: it drops
whitespace and repeated keys, and an escape is never shorter than the character that it stands for. -/
def Compacts (parse : String → Option Json) : Prop :=
  ∀ text document, parse text = some document → marks document.render ≤ marks text

end Json
