import Mathlib.Computability.Language
import Mathlib.Tactic.Common
import RustScriptAgent.Shared.Loop

namespace RustScriptAgent.Tools.SearchFiles

open Loops List Option

/-- The indices of `glob_match_bytes`; `-1` stands for no star, and for a match that has failed. -/
structure GlobCursor where
  pi : Int
  ti : Nat
  starP : Int
  starT : Nat

section

variable (pat text : List UInt8)

def GlobCursor.inText (cursor : GlobCursor) : Bool := cursor.ti < text.length

def GlobCursor.turn (cursor : GlobCursor) : GlobCursor :=
  -- a list has no element at an index beyond its end, and `pi` is not negative while the loop runs
  let p := pat[cursor.pi.toNat]?
  if p.any fun byte => byte ≠ 42 ∧ (byte = 63 ∨ text[cursor.ti]? = some byte) then
    { cursor with pi := cursor.pi + 1, ti := cursor.ti + 1 }
  else if p = some 42 then { cursor with starP := cursor.pi, pi := cursor.pi + 1, starT := cursor.ti }
  else if 0 ≤ cursor.starP then
    { cursor with pi := cursor.starP + 1, starT := cursor.starT + 1, ti := cursor.starT + 1 }
  else { cursor with ti := text.length, pi := -1 }

def inPattern (pi : Int) : Bool := 0 ≤ pi && pi < pat.length

def skipStar (pi : Int) : Int := if pat[pi.toNat]? = some 42 then pi + 1 else -1

def globMatchBytes (fuel : Nat) : Option Bool := do
  let scanned ← whileDo (GlobCursor.inText text) (GlobCursor.turn pat text) fuel ⟨0, 0, -1, 0⟩
  let pi ← whileDo (inPattern pat) (skipStar pat) fuel scanned.pi
  return pi == pat.length

end

def symbol (byte : UInt8) : Language UInt8 :=
  if byte = 42 then ⊤ else if byte = 63 then {word | ∃ any, word = [any]} else {[byte]}

def language (pat : List UInt8) : Language UInt8 := (pat.map symbol).prod

variable {pat text : List UInt8} {byte : UInt8} {place : Nat}

theorem mem_language_nil {word : List UInt8} : word ∈ language [] ↔ word = [] := by
  simp [language, Language.mem_one]

theorem mem_language_star {word : List UInt8} :
    word ∈ language (42 :: pat) ↔ ∃ skipped, word.drop skipped ∈ language pat := by
  rw [language, map_cons, prod_cons, Language.mem_mul]
  constructor
  · rintro ⟨front, _, back, member, rfl⟩
    exact ⟨front.length, by rwa [drop_left]⟩
  · rintro ⟨skipped, member⟩
    exact ⟨word.take skipped, Set.mem_univ _, _, member, take_append_drop _ _⟩

theorem drop_eq_cons (found : pat[place]? = some byte) :
    place < pat.length ∧ pat.drop place = byte :: pat.drop (place + 1) := by
  obtain ⟨bound, rfl⟩ := List.getElem?_eq_some_iff.mp found
  exact ⟨bound, List.drop_eq_getElem_cons bound⟩

theorem drop_mem_language_star :
    text.drop place ∈ language (42 :: pat) ↔ ∃ later, place ≤ later ∧ text.drop later ∈ language pat := by
  simp only [mem_language_star, drop_drop]
  constructor
  · rintro ⟨skipped, member⟩
    exact ⟨place + skipped, by omega, member⟩
  · rintro ⟨later, behind, member⟩
    exact ⟨later - place, by rwa [Nat.add_sub_cancel' behind]⟩

theorem drop_mem_language_byte (plain : byte ≠ 42) :
    text.drop place ∈ language (byte :: pat) ↔
      (∃ read, text[place]? = some read ∧ (byte = 63 ∨ byte = read)) ∧ text.drop (place + 1) ∈ language pat := by
  have single : ∀ word, word ∈ symbol byte ↔ ∃ read, word = [read] ∧ (byte = 63 ∨ byte = read) := by
    intro word
    by_cases any : byte = 63
    · simp only [symbol, any, true_or, and_true]
      rfl
    · simp only [symbol, plain, any, if_false, false_or, exists_eq_right']
      rfl
  rw [language, map_cons, prod_cons, Language.mem_mul, drop_add_one_eq_tail_drop, ← head?_drop]
  constructor
  · rintro ⟨front, first, back, member, whole⟩
    obtain ⟨read, rfl, stands⟩ := (single front).mp first
    rw [← whole]
    exact ⟨⟨read, rfl, stands⟩, member⟩
  · rintro ⟨⟨read, first, stands⟩, member⟩
    exact ⟨[read], (single _).mpr ⟨read, rfl, stands⟩, _, member, cons_head?_tail first⟩

structure Scanning (pat text : List UInt8) (cursor : GlobCursor) (star here : Nat) : Prop where
  pi : cursor.pi = here
  starP : cursor.starP + 1 = star
  ordered : star ≤ here
  inPattern : here ≤ pat.length
  started : cursor.starT ≤ cursor.ti
  inText : cursor.ti ≤ text.length
  whole : text ∈ language pat ↔
    ∃ place, cursor.starT ≤ place ∧ (cursor.starP < 0 → place = 0) ∧ text.drop place ∈ language (pat.drop star)
  forced : ∀ place, text.drop place ∈ language (pat.drop star) →
    text.drop (place + (cursor.ti - cursor.starT)) ∈ language (pat.drop here)
  reached : text.drop cursor.ti ∈ language (pat.drop here) → text.drop cursor.starT ∈ language (pat.drop star)
  unstarred : cursor.starP < 0 → cursor.starT = 0

def Sound (pat text : List UInt8) (cursor : GlobCursor) : Prop :=
  (∃ star here, Scanning pat text cursor star here) ∨
    cursor.pi = -1 ∧ cursor.ti = text.length ∧ text ∉ language pat

variable {cursor : GlobCursor} {star here : Nat}

namespace Scanning

variable (scanning : Scanning pat text cursor star here)

include scanning

theorem advance (found : pat[here]? = some byte) (plain : byte ≠ 42)
    (fits : byte = 63 ∨ text[cursor.ti]? = some byte) (inside : cursor.ti < text.length) :
    Scanning pat text { cursor with pi := cursor.pi + 1, ti := cursor.ti + 1 } star (here + 1) := by
  obtain ⟨bound, front⟩ := drop_eq_cons found
  refine { scanning with
    pi := by simp [scanning.pi]
    ordered := scanning.ordered.trans here.le_succ
    inPattern := bound
    started := scanning.started.trans cursor.ti.le_succ
    inText := inside
    forced := fun place member => ?_
    reached := fun member => scanning.reached ?_ }
  · have step := scanning.forced place member
    rw [front, drop_mem_language_byte plain] at step
    have ends : place + (cursor.ti + 1 - cursor.starT) = place + (cursor.ti - cursor.starT) + 1 := by
      have := scanning.started
      omega
    rw [ends]
    exact step.2
  · rw [front, drop_mem_language_byte plain]
    refine ⟨⟨text[cursor.ti], getElem?_eq_getElem inside, fits.imp_right fun read => ?_⟩, member⟩
    rw [getElem?_eq_getElem inside] at read
    exact (some.inj read).symm

theorem skip (found : pat[here]? = some 42) :
    Scanning pat text { cursor with starP := cursor.pi, pi := cursor.pi + 1, starT := cursor.ti } (here + 1) (here + 1)
    where
  pi := by simp [scanning.pi]
  starP := by simp [scanning.pi]
  ordered := Nat.le_refl _
  inPattern := (drop_eq_cons found).1
  started := Nat.le_refl _
  inText := scanning.inText
  whole := by
    obtain ⟨-, front⟩ := drop_eq_cons found
    rw [scanning.whole]
    constructor
    · -- a later start of what came before this star moves the star further to the right
      rintro ⟨place, behind, -, member⟩
      have step := scanning.forced place member
      rw [front, drop_mem_language_star] at step
      obtain ⟨later, after, rest⟩ := step
      have := scanning.started
      exact ⟨later, by dsimp only; omega, fun none => by simp [scanning.pi] at none; omega, rest⟩
    · rintro ⟨place, behind, -, member⟩
      have here := scanning.reached (front ▸ drop_mem_language_star.mpr ⟨place, behind, member⟩)
      exact ⟨cursor.starT, Nat.le_refl _, scanning.unstarred, here⟩
  forced place member := by simpa using member
  reached := id
  unstarred none := by
    simp only [scanning.pi] at none
    omega

theorem misses (inside : cursor.ti < text.length)
    (stuck : ∀ byte, pat[here]? = some byte → byte ≠ 42 ∧ ¬ (byte = 63 ∨ text[cursor.ti]? = some byte)) :
    text.drop cursor.starT ∉ language (pat.drop star) := by
  intro member
  have step := scanning.forced cursor.starT member
  rw [Nat.add_sub_cancel' scanning.started] at step
  by_cases bound : here < pat.length
  · obtain ⟨plain, unfit⟩ := stuck pat[here] (getElem?_eq_getElem bound)
    rw [drop_eq_getElem_cons bound, drop_mem_language_byte plain] at step
    obtain ⟨⟨read, found, stands⟩, -⟩ := step
    exact unfit (stands.imp_right fun same => found.trans (congrArg some same.symm))
  · rw [drop_eq_nil_of_le (Nat.le_of_not_lt bound), mem_language_nil, drop_eq_nil_iff] at step
    omega

theorem retry (inside : cursor.ti < text.length)
    (missed : text.drop cursor.starT ∉ language (pat.drop star)) (starred : 0 ≤ cursor.starP) :
    Scanning pat text
      { cursor with pi := cursor.starP + 1, starT := cursor.starT + 1, ti := cursor.starT + 1 } star star
    where
  pi := scanning.starP
  starP := scanning.starP
  ordered := Nat.le_refl _
  inPattern := scanning.ordered.trans scanning.inPattern
  started := Nat.le_refl _
  inText := by
    have := scanning.started
    dsimp only
    omega
  whole := by
    rw [scanning.whole]
    constructor
    · rintro ⟨place, behind, first, member⟩
      refine ⟨place, Nat.lt_of_le_of_ne behind ?_, first, member⟩
      rintro rfl
      exact missed member
    · rintro ⟨place, behind, first, member⟩
      exact ⟨place, Nat.le_of_succ_le behind, first, member⟩
  forced place member := by simpa using member
  reached := id
  unstarred none := by
    dsimp only at none
    omega

theorem fails (missed : text.drop cursor.starT ∉ language (pat.drop star)) (none : cursor.starP < 0) :
    text ∉ language pat := by
  rw [scanning.whole]
  rintro ⟨place, -, first, member⟩
  rw [first none, ← scanning.unstarred none] at member
  exact missed member

theorem ends (done : text.length ≤ cursor.ti) :
    text ∈ language pat ↔ [] ∈ language (pat.drop here) := by
  have nothing : ∀ place, cursor.ti ≤ place → text.drop place = [] := fun place behind =>
    drop_eq_nil_of_le (done.trans behind)
  rw [scanning.whole]
  constructor
  · rintro ⟨place, behind, -, member⟩
    have step := scanning.forced place member
    rwa [nothing _ (by omega)] at step
  · intro member
    rw [← nothing cursor.ti (Nat.le_refl _)] at member
    exact ⟨cursor.starT, Nat.le_refl _, scanning.unstarred, scanning.reached member⟩

end Scanning

def GlobCursor.rank (pat text : List UInt8) (cursor : GlobCursor) : Nat × Nat × Nat :=
  ((pat.length - cursor.starP).toNat, text.length - cursor.starT, text.length - cursor.ti)

theorem Sound.turn (sound : Sound pat text cursor) (more : cursor.inText text) :
    Sound pat text (cursor.turn pat text) ∧
      Prod.Lex (· < ·) (Prod.Lex (· < ·) (· < ·)) ((cursor.turn pat text).rank pat text) (cursor.rank pat text) := by
  have inside : cursor.ti < text.length := of_decide_eq_true more
  rcases sound with ⟨star, here, scanning⟩ | ⟨-, ended, -⟩
  case inr => omega
  have order := scanning.ordered
  have started := scanning.started
  have starP := scanning.starP
  rw [GlobCursor.turn, scanning.pi, Int.toNat_natCast]
  split_ifs with fits star' starred
  · obtain ⟨byte, found, plain, stands⟩ : ∃ byte, pat[here]? = some byte ∧ byte ≠ 42 ∧
        (byte = 63 ∨ text[cursor.ti]? = some byte) := by simpa [Option.any_eq_true] using fits
    refine ⟨.inl ⟨star, here + 1, scanning.pi ▸ scanning.advance found plain stands inside⟩, ?_⟩
    exact .right _ (.right _ (by dsimp only; omega))
  · have bound := (List.getElem?_eq_some_iff.mp star').1
    refine ⟨.inl ⟨here + 1, here + 1, scanning.pi ▸ scanning.skip star'⟩, .left _ _ ?_⟩
    dsimp only
    omega
  all_goals
    have missed := scanning.misses inside fun byte found => by
      have plain : byte ≠ 42 := fun is => star' (is ▸ found)
      exact ⟨plain, fun stands => fits (by simpa [found, plain] using stands)⟩
  · refine ⟨.inl ⟨star, star, scanning.retry inside missed starred⟩, .right _ (.left _ _ ?_)⟩
    dsimp only
    omega
  · refine ⟨.inr ⟨rfl, rfl, scanning.fails missed (by omega)⟩, .right _ (.right _ ?_)⟩
    dsimp only
    omega

theorem skipStar_loop {fuel start : Nat} (bound : start ≤ pat.length) (enough : pat.length - start ≤ fuel) :
    ∃ final, whileDo (inPattern pat) (skipStar pat) fuel start = some final ∧
      (final = pat.length ↔ [] ∈ language (pat.drop start)) := by
  induction fuel generalizing start with
  | zero =>
    obtain rfl : start = pat.length := by omega
    exact ⟨pat.length, by simp [whileDo, inPattern], by simp [mem_language_nil]⟩
  | succ fuel ih =>
    by_cases inside : start < pat.length
    · have more : inPattern pat start := by simp [inPattern, inside]
      rw [whileDo, if_pos more, skipStar, Int.toNat_natCast, getElem?_eq_getElem inside, drop_eq_getElem_cons inside]
      split_ifs with star
      · obtain ⟨final, runs, same⟩ := ih inside (by omega)
        refine ⟨final, runs, same.trans ?_⟩
        rw [some.inj star, mem_language_star]
        simp
      · have plain : pat[start] ≠ 42 := fun is => star (congrArg some is)
        refine ⟨-1, by cases fuel <;> rfl, iff_of_false (by omega) fun member => ?_⟩
        have read := (@drop_mem_language_byte _ [] _ 0 plain).mp member
        simp at read
    · obtain rfl : start = pat.length := by omega
      exact ⟨pat.length, by simp [whileDo, inPattern], by simp [mem_language_nil]⟩

theorem globMatchBytes_correct (pat text : List UInt8) :
    ∃ turns, ∀ fuel, turns ≤ fuel →
      ∃ answer, globMatchBytes pat text fuel = some answer ∧ (answer = true ↔ text ∈ language pat) := by
  have start : Scanning pat text ⟨0, 0, -1, 0⟩ 0 0 := by constructor <;> simp
  obtain ⟨scanned, turns, runs, sound, ended⟩ := whileDo_total
    (WellFounded.prod_lex wellFounded_lt (WellFounded.prod_lex wellFounded_lt wellFounded_lt))
    (GlobCursor.rank pat text) (Sound pat text) (fun _ sound more => sound.turn more) (.inl ⟨0, 0, start⟩)
  refine ⟨max turns pat.length, fun fuel enough => ?_⟩
  rw [globMatchBytes, runs fuel (by omega), bind_eq_bind, bind_some]
  rcases sound with ⟨star, here, scanning⟩ | ⟨failed, -, no⟩
  · obtain ⟨final, skips, same⟩ := skipStar_loop scanning.inPattern (show pat.length - here ≤ fuel by omega)
    rw [scanning.pi, skips]
    refine ⟨_, rfl, ?_⟩
    rw [beq_iff_eq, same, scanning.ends (by simpa [GlobCursor.inText] using ended)]
  · have stopped : whileDo (inPattern pat) (skipStar pat) fuel (-1) = some (-1) := by cases fuel <;> rfl
    rw [failed, stopped]
    exact ⟨_, rfl, iff_of_false (by simp) no⟩

end RustScriptAgent.Tools.SearchFiles
