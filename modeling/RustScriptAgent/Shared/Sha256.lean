import Mathlib.Data.BitVec
import Mathlib.Data.List.Basic
import Mathlib.Data.List.GetD
import Mathlib.Tactic.Ring

namespace Sha256

open List

abbrev Word := BitVec 32

def root (power value : Nat) : (bits : Nat) → (found : Nat) → Nat
  | 0, found => found
  | bits + 1, found =>
    root power value bits (if (found + 2 ^ bits) ^ power ≤ value then found + 2 ^ bits else found)

def rootFraction (power number : Nat) : Word := BitVec.ofNat 32 (root power (number * 2 ^ (32 * power)) 40 0)

def isPrime (number : Nat) : Bool :=
  2 ≤ number && (List.range number).all fun divisor => divisor < 2 || number % divisor != 0

def primes : List Nat := (List.range 312).filter isPrime

def roundConstants : List Word := primes.map (rootFraction 3)

def choice (x y z : Word) : Word := (x &&& y) ^^^ (~~~x &&& z)

def majority (x y z : Word) : Word := (x &&& y) ^^^ (x &&& z) ^^^ (y &&& z)

def bigSigma0 (x : Word) : Word := x.rotateRight 2 ^^^ x.rotateRight 13 ^^^ x.rotateRight 22

def bigSigma1 (x : Word) : Word := x.rotateRight 6 ^^^ x.rotateRight 11 ^^^ x.rotateRight 25

def smallSigma0 (x : Word) : Word := x.rotateRight 7 ^^^ x.rotateRight 18 ^^^ (x >>> 3)

def smallSigma1 (x : Word) : Word := x.rotateRight 17 ^^^ x.rotateRight 19 ^^^ (x >>> 10)

structure Words where
  a : Word
  b : Word
  c : Word
  d : Word
  e : Word
  f : Word
  g : Word
  h : Word
  deriving DecidableEq

namespace Words

def add (left right : Words) : Words :=
  ⟨left.a + right.a, left.b + right.b, left.c + right.c, left.d + right.d, left.e + right.e, left.f + right.f,
    left.g + right.g, left.h + right.h⟩

def toList (words : Words) : List Word :=
  [words.a, words.b, words.c, words.d, words.e, words.f, words.g, words.h]

end Words

def initial : Words :=
  let word := rootFraction 2
  ⟨word 2, word 3, word 5, word 7, word 11, word 13, word 17, word 19⟩

def bits (width number : Nat) : List Bool := (List.range width).map fun place => number.testBit (width - 1 - place)

def number (message : List Bool) : Nat := message.foldl (fun total bit => 2 * total + bit.toNat) 0

def zeroBits (length : Nat) : Nat := (959 - length % 512) % 512

def pad (message : List Bool) : List Bool :=
  message ++ [true] ++ List.replicate (zeroBits message.length) false ++ bits 64 message.length

def pieces {Item : Type} (size : Nat) (items : List Item) : List (List Item) :=
  (List.range (items.length / size)).map fun place => (items.drop (place * size)).take size

def blockWord (block : List Bool) (place : Nat) : Word := BitVec.ofNat 32 (number ((block.drop (32 * place)).take 32))

def schedule (block : List Bool) (place : Nat) : Word :=
  if place < 16 then blockWord block place
  else smallSigma1 (schedule block (place - 2)) + schedule block (place - 7) +
    smallSigma0 (schedule block (place - 15)) + schedule block (place - 16)
termination_by place

def round (constant message : Word) (state : Words) : Words :=
  let temporary1 := state.h + bigSigma1 state.e + choice state.e state.f state.g + constant + message
  let temporary2 := bigSigma0 state.a + majority state.a state.b state.c
  ⟨temporary1 + temporary2, state.a, state.b, state.c, state.d + temporary1, state.e, state.f, state.g⟩

def rounds (block : List Bool) (state : Words) : Nat → Words
  | 0 => state
  | count + 1 => round (roundConstants.getD count 0) (schedule block count) (rounds block state count)

def compress (state : Words) (block : List Bool) : Words := state.add (rounds block state 64)

def digest (message : List Bool) : Words := (pieces 512 (pad message)).foldl compress initial

def hexDigits (width number : Nat) : List Char :=
  (List.range width).map fun place => Nat.digitChar (number / 16 ^ (width - 1 - place) % 16)

def hexDigest (message : List Bool) : String :=
  String.ofList ((digest message).toList.flatMap fun word => hexDigits 8 word.toNat)

def ofBytes (bytes : List UInt8) : List Bool := bytes.flatMap fun byte => bits 8 byte.toNat

def bigEndian (count number : Nat) : List UInt8 :=
  (List.range count).map fun place => UInt8.ofNat (number >>> (8 * (count - 1 - place)))

theorem bits_add (left right number : Nat) :
    bits (left + right) number = bits left (number / 2 ^ right) ++ bits right number := by
  unfold bits
  rw [range_add, map_append, map_map]
  congr 1
  · refine map_congr_left fun place member => ?_
    have below := mem_range.mp member
    rw [Nat.testBit_div_two_pow]
    congr 1
    omega
  · refine map_congr_left fun place _ => ?_
    simp only [Function.comp_apply]
    congr 1
    omega

theorem bits_mod (width number : Nat) : bits width (number % 2 ^ width) = bits width number := by
  refine map_congr_left fun place member => ?_
  have below := mem_range.mp member
  rw [Nat.testBit_mod_two_pow, decide_eq_true (by omega), Bool.true_and]

theorem bits_zero (width : Nat) : bits width 0 = replicate width false := by
  simp [bits]

theorem number_append_single (message : List Bool) (bit : Bool) :
    number (message ++ [bit]) = 2 * number message + bit.toNat := by
  simp [number]

theorem number_bits (width value : Nat) : number (bits width value) = value % 2 ^ width := by
  induction width generalizing value with
  | zero => simp [bits, number, Nat.mod_one]
  | succ width ih =>
    have last : bits 1 value = [value.testBit 0] := rfl
    rw [bits_add, last, number_append_single, ih, Nat.testBit_zero, pow_one, pow_succ', Nat.mod_mul]
    rcases Nat.mod_two_eq_zero_or_one value with even | odd
    · simp [even]
    · simp [odd]
      omega

theorem bits_append {left right : Nat} (x : BitVec left) (y : BitVec right) :
    bits (left + right) (x ++ y).toNat = bits left x.toNat ++ bits right y.toNat := by
  have value : (x ++ y).toNat = x.toNat * 2 ^ right + y.toNat := by
    rw [BitVec.toNat_append, Nat.shiftLeft_eq, Nat.mul_comm, Nat.two_pow_add_eq_or_of_lt y.isLt]
  have high : (x ++ y).toNat / 2 ^ right = x.toNat := by
    rw [value, Nat.add_comm, Nat.add_mul_div_right _ _ (Nat.two_pow_pos right), Nat.div_eq_of_lt y.isLt, Nat.zero_add]
  have low : (x ++ y).toNat % 2 ^ right = y.toNat := by
    rw [value, Nat.add_comm, Nat.add_mul_mod_self_right, Nat.mod_eq_of_lt y.isLt]
  rw [bits_add, high, ← bits_mod right, low]

theorem bits_bigEndian (count number : Nat) : bits (8 * count) number = ofBytes (bigEndian count number) := by
  induction count generalizing number with
  | zero => rfl
  | succ count ih =>
    have last : bigEndian (count + 1) number = bigEndian count (number / 2 ^ 8) ++ [UInt8.ofNat number] := by
      unfold bigEndian
      rw [range_succ, map_append]
      congr 1
      · refine map_congr_left fun place member => ?_
        have below := mem_range.mp member
        rw [Nat.shiftRight_eq_div_pow, Nat.shiftRight_eq_div_pow, Nat.div_div_eq_div_mul, ← pow_add]
        congr 3
        omega
      · simp
    rw [Nat.mul_succ, bits_add, ih, last]
    simp [ofBytes, ← bits_mod 8 number]

@[simp]
theorem ofBytes_append (left right : List UInt8) : ofBytes (left ++ right) = ofBytes left ++ ofBytes right := by
  simp [ofBytes]

variable (bytes : List UInt8)

@[simp]
theorem ofBytes_length : (ofBytes bytes).length = 8 * bytes.length := by
  induction bytes with
  | nil => rfl
  | cons byte bytes ih =>
    have split : ofBytes (byte :: bytes) = bits 8 byte.toNat ++ ofBytes bytes := rfl
    rw [split, length_append, ih, length_cons]
    simp [bits]
    omega

theorem ofBytes_take (count : Nat) : (ofBytes bytes).take (8 * count) = ofBytes
    (bytes.take count) := by
  rcases Nat.le_total count bytes.length with short | long
  · conv_lhs => rw [← take_append_drop count bytes, ofBytes_append]
    exact take_left' (by rw [ofBytes_length, length_take, Nat.min_eq_left short])
  · rw [take_of_length_le long, take_of_length_le (by rw [ofBytes_length]; omega)]

theorem ofBytes_drop (count : Nat) : (ofBytes bytes).drop (8 * count) = ofBytes
    (bytes.drop count) := by
  rcases Nat.le_total count bytes.length with short | long
  · conv_lhs => rw [← take_append_drop count bytes, ofBytes_append]
    exact drop_left' (by rw [ofBytes_length, length_take, Nat.min_eq_left short])
  · rw [drop_eq_nil_of_le long, drop_eq_nil_of_le (by rw [ofBytes_length]; omega)]
    rfl

theorem ofBytes_zeros (count : Nat) : ofBytes (replicate count 0) = replicate (8 * count) false := by
  induction count with
  | zero => rfl
  | succ count ih =>
    have split : ofBytes (replicate (count + 1) 0) = bits 8 0 ++ ofBytes (replicate count 0) := by
      simp [replicate_succ, ofBytes]
    rw [split, ih, bits_zero, replicate_append_replicate]
    congr 1
    omega

theorem pieces_ofBytes (size : Nat) (bytes : List UInt8) :
    pieces (8 * size) (ofBytes bytes) = (pieces size bytes).map ofBytes := by
  unfold pieces
  rw [ofBytes_length, Nat.mul_div_mul_left _ _ (by decide), map_map]
  refine map_congr_left fun place _ => ?_
  rw [Function.comp_apply, show place * (8 * size) = 8 * (place * size) by ring, ofBytes_drop, ofBytes_take]

theorem pieces_append {Item : Type} (size : Nat) (left right : List Item) (whole : size ∣ left.length) :
    pieces size (left ++ right) = pieces size left ++ pieces size right := by
  rcases Nat.eq_zero_or_pos size with rfl | positive
  · simp [pieces]
  obtain ⟨count, length⟩ := whole
  have leftCount : left.length / size = count := by rw [length, Nat.mul_div_cancel_left _ positive]
  have both : (left ++ right).length / size = count + right.length / size := by
    rw [length_append, length, Nat.mul_add_div positive]
  unfold pieces
  rw [both, leftCount, range_add, map_append, map_map]
  congr 1
  · refine map_congr_left fun place member => ?_
    have below := mem_range.mp member
    have room : place * size + size ≤ left.length := by
      rw [length, Nat.mul_comm size, ← Nat.succ_mul]
      exact Nat.mul_le_mul_right size below
    rw [drop_append_of_le_length (by omega), take_append_of_le_length (by rw [length_drop]; omega)]
  · refine map_congr_left fun place _ => ?_
    have passed : (count + place) * size = left.length + place * size := by rw [length]; ring
    rw [Function.comp_apply, passed, drop_append, drop_eq_nil_of_le (by omega), nil_append]
    congr 2
    omega

theorem pad_ofBytes : pad (ofBytes bytes) =
    ofBytes (bytes ++ [0x80] ++ replicate ((119 - bytes.length % 64) % 64) 0 ++ bigEndian 8 (8 * bytes.length)) := by
  have mark : ofBytes [0x80] = true :: replicate 7 false := by decide
  have zeros : zeroBits (8 * bytes.length) = 7 + 8 * ((119 - bytes.length % 64) % 64) := by
    unfold zeroBits
    omega
  have size : bits 64 (8 * bytes.length) = ofBytes (bigEndian 8 (8 * bytes.length)) := bits_bigEndian 8 _
  unfold pad
  rw [ofBytes_length, zeros, size, ofBytes_append, ofBytes_append, ofBytes_append, mark, ofBytes_zeros, replicate_add]
  simp

theorem hexDigits_succ (width number : Nat) :
    hexDigits (width + 1) number = hexDigits width (number / 16) ++ [Nat.digitChar (number % 16)] := by
  unfold hexDigits
  rw [range_succ, map_append]
  congr 1
  · refine map_congr_left fun place member => ?_
    have below := mem_range.mp member
    rw [Nat.div_div_eq_div_mul, ← pow_succ']
    congr 4
    omega
  · simp

theorem hexDigits_zero (width : Nat) : hexDigits width 0 = replicate width '0' := by
  simp [hexDigits, Nat.digitChar]

theorem leftpad_toDigits (width number : Nat) (fits : number < 16 ^ (width + 1)) :
    (Nat.toDigits 16 number).leftpad (width + 1) '0' = hexDigits (width + 1) number := by
  induction width generalizing number with
  | zero =>
    rw [Nat.toDigits_of_lt_base (by simpa using fits), hexDigits_succ, Nat.mod_eq_of_lt (by simpa using fits)]
    simp [leftpad, hexDigits]
  | succ width ih =>
    rw [hexDigits_succ]
    rcases Nat.lt_or_ge number 16 with small | large
    · rw [Nat.toDigits_of_lt_base small, Nat.div_eq_of_lt small, Nat.mod_eq_of_lt small, hexDigits_zero]
      simp [leftpad]
    · have rest : number / 16 < 16 ^ (width + 1) := by
        rw [Nat.div_lt_iff_lt_mul (by decide), ← pow_succ]
        exact fits
      rw [← ih _ rest, Nat.toDigits_of_base_le (by decide) large]
      simp [leftpad]

end Sha256
