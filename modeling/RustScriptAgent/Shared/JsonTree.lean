import Mathlib.Algebra.BigOperators.Group.List.Basic
import Mathlib.Algebra.Order.Ring.Nat
import Mathlib.Data.String.Basic
import Mathlib.Tactic.Common
import RustScriptAgent.Shared.Json

namespace Json

open List String

def children : Json → List Json
  | arr items => items
  | obj fields => fields.map Prod.snd
  | _ => []

def texts : Json → List String
  | str value => [value]
  | obj fields => fields.map Prod.fst
  | _ => []

mutual
def nodes : Json → Nat
  | arr items => nodesItems items + 1
  | obj fields => nodesFields fields + 1
  | _ => 1

def nodesItems : List Json → Nat
  | [] => 0
  | item :: rest => nodes item + nodesItems rest

def nodesFields : List (String × Json) → Nat
  | [] => 0
  | (_, value) :: rest => nodes value + nodesFields rest
end

def population (documents : List Json) : Nat := (documents.map nodes).sum

@[simp] theorem population_nil : population [] = 0 := rfl

@[simp] theorem population_cons (document : Json) (rest : List Json) :
    population (document :: rest) = document.nodes + population rest := by simp [population]

@[simp] theorem population_append (left right : List Json) :
    population (left ++ right) = population left + population right := by simp [population]

theorem nodes_eq (document : Json) : document.nodes = population document.children + 1 := by
  have items : ∀ list, nodesItems list = population list := by
    intro list
    induction list with
    | nil => rfl
    | cons item rest ih => rw [nodesItems, population_cons, ih]
  have fields : ∀ list, nodesFields list = population (list.map Prod.snd) := by
    intro list
    induction list with
    | nil => rfl
    | cons field rest ih =>
      rcases field with ⟨key, value⟩
      rw [nodesFields, map_cons, population_cons, ih]
  cases document with
  | arr list => rw [nodes, children, items]
  | obj list => rw [nodes, children, fields]
  | _ => rfl

theorem nodes_pos (document : Json) : 0 < document.nodes := by
  rw [nodes_eq]
  exact Nat.succ_pos _

theorem length_le_population (documents : List Json) : documents.length ≤ population documents := by
  induction documents with
  | nil => exact Nat.le_refl 0
  | cons document rest ih =>
    have := nodes_pos document
    rw [length_cons, population_cons]
    omega

inductive Node : (root : Json) → (depth : Nat) → (node : Json) → Prop
  | root (root : Json) : Node root 0 root
  | inside {root child node : Json} {depth : Nat} (member : child ∈ root.children) (stands : Node child depth node) :
      Node root (depth + 1) node

def textSize (document : Json) : Nat := document.render.utf8ByteSize

theorem utf8Size_le_escapeChar (c : Char) : c.utf8Size ≤ utf8Len (escapeChar c) := by
  have ascii : ∀ n, c.toNat = n → n < 128 → c.utf8Size = 1 := by
    intro n same small
    have : c.val.toNat = n := same
    rw [Char.utf8Size, if_pos]
    rw [UInt32.le_iff_toNat_le, this]
    exact Nat.le_of_lt_succ small
  unfold escapeChar
  split_ifs with h1 h2 h3 h4 h5 h6 h7 h8
  all_goals first
    | subst_vars; decide
    | rw [ascii _ rfl (by omega)]; simp only [utf8Len_cons]; have := Char.utf8Size_pos '\\'; omega
    | simp

theorem escapeChar_size (c : Char) : utf8Len (escapeChar c) ≤ 6 * c.utf8Size := by
  have positive := c.utf8Size_pos
  have hex : ∀ n < 16, (hexDigit n).utf8Size = 1 := by decide
  have two (a b : Char) (narrow : a.utf8Size = 1 ∧ b.utf8Size = 1) : utf8Len [a, b] ≤ 6 * c.utf8Size := by
    simp only [utf8Len_cons, utf8Len_nil]
    omega
  unfold escapeChar
  split_ifs with h1 h2 h3 h4 h5 h6 h7 h8
  iterate 7 exact two _ _ (by decide)
  · have high := hex (c.toNat / 16) (by omega)
    have low := hex (c.toNat % 16) (by omega)
    have fixed : '\\'.utf8Size = 1 ∧ 'u'.utf8Size = 1 ∧ '0'.utf8Size = 1 := by decide
    simp only [utf8Len_cons, utf8Len_nil]
    omega
  · simp only [utf8Len_cons, utf8Len_nil]
    omega

def escapedSize (text : String) : Nat := utf8Len (text.toList.flatMap escapeChar)

theorem escapedSize_append (left right : String) : escapedSize
    (left ++ right) = escapedSize left + escapedSize right := by
  rw [escapedSize, toList_append, flatMap_append, utf8Len_append]
  rfl

theorem quote_size (text : String) : (quote text).utf8ByteSize = escapedSize text + 2 := by
  have mark : "\"".utf8ByteSize = 1 := by decide
  have outer : (ofList (text.toList.flatMap escapeChar)).utf8ByteSize = escapedSize text := by
    rw [← utf8Len_toList, toList_ofList, escapedSize]
  rw [quote, utf8ByteSize_append, utf8ByteSize_append, mark, outer]
  omega

theorem size_le_escapedSize (text : String) : text.utf8ByteSize ≤ escapedSize text := by
  rw [escapedSize, ← utf8Len_toList]
  induction text.toList with
  | nil => exact Nat.le_refl _
  | cons c rest ih =>
    have one := utf8Size_le_escapeChar c
    rw [flatMap_cons, utf8Len_append, utf8Len_cons]
    omega

theorem escapedSize_le (text : String) : escapedSize text ≤ 6 * text.utf8ByteSize := by
  rw [escapedSize, ← utf8Len_toList]
  induction text.toList with
  | nil => exact Nat.le_refl _
  | cons c rest ih =>
    have one := escapeChar_size c
    rw [flatMap_cons, utf8Len_append, utf8Len_cons]
    omega

theorem size_le_quote (text : String) : text.utf8ByteSize + 2 ≤ (quote text).utf8ByteSize := by
  have inner := size_le_escapedSize text
  rw [quote_size]
  omega

theorem textSize_renderItems {items : List Json} {item : Json} (member : item ∈ items) :
    item.textSize ≤ (renderItems items).utf8ByteSize := by
  induction items with
  | nil => cases member
  | cons first rest ih =>
    cases rest with
    | nil =>
      rw [mem_singleton] at member
      rw [member]
      exact Nat.le_refl _
    | cons other more =>
      rw [renderItems, utf8ByteSize_append, utf8ByteSize_append]
      · rcases mem_cons.mp member with rfl | later
        · unfold textSize
          omega
        · have := ih later
          omega
      · exact fun none => by cases none

theorem textSize_renderFields {fields : List (String × Json)} {field : String × Json} (member : field ∈ fields) :
    (quote field.1).utf8ByteSize + field.2.textSize ≤ (renderFields fields).utf8ByteSize := by
  induction fields with
  | nil => cases member
  | cons first rest ih =>
    rcases first with ⟨key, value⟩
    cases rest with
    | nil =>
      rw [mem_singleton] at member
      rw [member, renderFields, utf8ByteSize_append, utf8ByteSize_append]
      unfold textSize
      dsimp only
      omega
    | cons other more =>
      rw [renderFields, utf8ByteSize_append, utf8ByteSize_append, utf8ByteSize_append,
        utf8ByteSize_append]
      · rcases mem_cons.mp member with rfl | later
        · unfold textSize
          dsimp only
          omega
        · have := ih later
          omega
      · exact fun none => by cases none

theorem textSize_child {document child : Json} (member : child ∈ document.children) :
    child.textSize ≤ document.textSize := by
  cases document with
  | arr items =>
    have inner := @textSize_renderItems items child member
    rw [textSize, textSize, render, utf8ByteSize_append, utf8ByteSize_append]
    rw [textSize] at inner
    omega
  | obj fields =>
    obtain ⟨field, stored, rfl⟩ := mem_map.mp member
    have inner := textSize_renderFields stored
    rw [textSize, textSize, render, utf8ByteSize_append, utf8ByteSize_append]
    rw [textSize] at inner
    omega
  | _ => cases member

theorem textSize_text {document : Json} {text : String} (member : text ∈ document.texts) :
    text.utf8ByteSize + 2 ≤ document.textSize := by
  cases document with
  | str value =>
    rw [mem_singleton.mp member]
    exact size_le_quote value
  | obj fields =>
    obtain ⟨field, stored, rfl⟩ := mem_map.mp member
    have inner := textSize_renderFields stored
    have quoted := size_le_quote field.1
    rw [textSize, render, utf8ByteSize_append, utf8ByteSize_append]
    omega
  | _ => cases member

theorem Node.textSize_le {root node : Json} {depth : Nat} (stands : Node root depth node) :
    node.textSize ≤ root.textSize := by
  induction stands with
  | root => exact Nat.le_refl _
  | inside member _ ih => exact ih.trans (textSize_child member)

end Json
