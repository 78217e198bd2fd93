import RustScriptAgent.Shared.Sha256

namespace RustScriptAgent.Registry

open List

open Sha256 hiding roundConstants schedule

abbrev Bytes := List UInt8

def initialState : Words :=
  ⟨0x6a09e667, 0xbb67ae85, 0x3c6ef372, 0xa54ff53a, 0x510e527f, 0x9b05688c, 0x1f83d9ab, 0x5be0cd19⟩

def roundConstants : List Word :=
  [0x428a2f98, 0x71374491, 0xb5c0fbcf, 0xe9b5dba5, 0x3956c25b, 0x59f111f1, 0x923f82a4, 0xab1c5ed5,
    0xd807aa98, 0x12835b01, 0x243185be, 0x550c7dc3, 0x72be5d74, 0x80deb1fe, 0x9bdc06a7, 0xc19bf174,
    0xe49b69c1, 0xefbe4786, 0x0fc19dc6, 0x240ca1cc, 0x2de92c6f, 0x4a7484aa, 0x5cb0a9dc, 0x76f988da,
    0x983e5152, 0xa831c66d, 0xb00327c8, 0xbf597fc7, 0xc6e00bf3, 0xd5a79147, 0x06ca6351, 0x14292967,
    0x27b70a85, 0x2e1b2138, 0x4d2c6dfc, 0x53380d13, 0x650a7354, 0x766a0abb, 0x81c2c92e, 0x92722c85,
    0xa2bfe8a1, 0xa81a664b, 0xc24b8b70, 0xc76c51a3, 0xd192e819, 0xd6990624, 0xf40e3585, 0x106aa070,
    0x19a4c116, 0x1e376c08, 0x2748774c, 0x34b0bcb5, 0x391c0cb3, 0x4ed8aa4a, 0x5b9cca4f, 0x682e6ff3,
    0x748f82ee, 0x78a5636f, 0x84c87814, 0x8cc70208, 0x90befffa, 0xa4506ceb, 0xbef9a3f7, 0xc67178f2]

def asChunks (size : Nat) (bytes : Bytes) : List Bytes × Bytes :=
  (pieces size bytes, bytes.drop (bytes.length / size * size))

def fromBeBytes (first second third fourth : UInt8) : Word :=
  first.toBitVec ++ second.toBitVec ++ third.toBitVec ++ fourth.toBitVec

def loadWord (block : Bytes) (schedule : List Word) (index : Nat) : List Word :=
  let start := index * 4
  schedule.set index
    (fromBeBytes (block.getD start 0) (block.getD (start + 1) 0) (block.getD (start + 2) 0) (block.getD (start + 3) 0))

def extendWord (schedule : List Word) (index : Nat) : List Word :=
  let early := schedule.getD (index - 15) 0
  let late := schedule.getD (index - 2) 0
  let s0 := early.rotateRight 7 ^^^ early.rotateRight 18 ^^^ (early >>> 3)
  let s1 := late.rotateRight 17 ^^^ late.rotateRight 19 ^^^ (late >>> 10)
  schedule.set index (schedule.getD (index - 16) 0 + s0 + schedule.getD (index - 7) 0 + s1)

def schedule (block : Bytes) : List Word :=
  (List.range' 16 48).foldl extendWord ((List.range 16).foldl (loadWord block) (List.replicate 64 0))

def compressRound (schedule : List Word) (working : Words) (index : Nat) : Words :=
  let ⟨a, b, c, d, e, f, g, h⟩ := working
  let s1 := e.rotateRight 6 ^^^ e.rotateRight 11 ^^^ e.rotateRight 25
  let choice := (e &&& f) ^^^ (~~~e &&& g)
  let temporary1 := h + s1 + choice + roundConstants.getD index 0 + schedule.getD index 0
  let s0 := a.rotateRight 2 ^^^ a.rotateRight 13 ^^^ a.rotateRight 22
  let majority := (a &&& b) ^^^ (a &&& c) ^^^ (b &&& c)
  let temporary2 := s0 + majority
  ⟨temporary1 + temporary2, a, b, c, d + temporary1, e, f, g⟩

def sha256Compress (state : Words) (block : Bytes) : Words :=
  state.add ((List.range 64).foldl (compressRound (schedule block)) state)

def copyFromSlice (target : Bytes) (start : Nat) (source : Bytes) : Bytes :=
  target.take start ++ source ++ target.drop (start + source.length)

def finalBlocks (remainder : Bytes) (bitLength : Nat) : Bytes :=
  let copied := copyFromSlice (List.replicate 128 0) 0 remainder
  let marked := copied.set remainder.length 0x80
  let finalLen := if remainder.length < 56 then 64 else 128
  (copyFromSlice marked (finalLen - 8) (bigEndian 8 bitLength)).take finalLen

def formatWord (word : Word) : List Char := (Nat.toDigits 16 word.toNat).leftpad 8 '0'

def sha256Hex (bytes : Bytes) : String :=
  let bitLength := bytes.length * 8 % 2 ^ 64
  let (chunks, remainder) := asChunks 64 bytes
  let state := chunks.foldl sha256Compress initialState
  let (finalChunks, _) := asChunks 64 (finalBlocks remainder bitLength)
  let state := finalChunks.foldl sha256Compress state
  String.ofList (state.toList.flatMap formatWord)

theorem initialState_eq : initialState = initial := by decide +kernel

theorem roundConstants_eq : roundConstants = Sha256.roundConstants := by decide +kernel

theorem take_four (bytes : Bytes) (start : Nat) (room : start + 4 ≤ bytes.length) :
    (bytes.drop start).take 4 =
      [bytes.getD start 0, bytes.getD (start + 1) 0, bytes.getD (start + 2) 0, bytes.getD (start + 3) 0] := by
  rw [drop_eq_getElem_cons (by omega), drop_eq_getElem_cons (by omega),
    drop_eq_getElem_cons (by omega), drop_eq_getElem_cons (by omega)]
  simp only [take_succ_cons, take_zero, getD_eq_getElem?_getD]
  rw [getElem?_eq_getElem (by omega), getElem?_eq_getElem (by omega),
    getElem?_eq_getElem (by omega), getElem?_eq_getElem (by omega)]
  rfl

theorem bits_fromBeBytes (first second third fourth : UInt8) :
    bits 32 (fromBeBytes first second third fourth).toNat = ofBytes [first, second, third, fourth] := by
  have split : bits (8 + 8 + 8 + 8) (fromBeBytes first second third fourth).toNat = _ := bits_append _ _
  rw [split, bits_append, bits_append]
  simp [ofBytes]

theorem loadWord_spec (block : Bytes) (whole : block.length = 64) (index : Nat) (inside : index < 16) :
    fromBeBytes (block.getD (index * 4) 0) (block.getD (index * 4 + 1) 0) (block.getD (index * 4 + 2) 0)
      (block.getD (index * 4 + 3) 0) = blockWord (ofBytes block) index := by
  have four : ((ofBytes block).drop (32 * index)).take 32 = ofBytes ((block.drop (index * 4)).take 4) := by
    rw [show 32 * index = 8 * (index * 4) by omega, ofBytes_drop]
    exact ofBytes_take _ 4
  unfold blockWord
  rw [four, take_four block _ (by omega), ← bits_fromBeBytes, number_bits, Nat.mod_eq_of_lt (BitVec.isLt _),
    BitVec.ofNat_toNat, BitVec.setWidth_eq]

structure Scheduled (block : Bytes) (bound : Nat) (words : List Word) : Prop where
  full : words.length = 64
  agrees : ∀ place, place < bound → words.getD place 0 = Sha256.schedule (ofBytes block) place

namespace Scheduled

variable {block : Bytes} {bound : Nat} {words : List Word}

section

variable (scheduled : Scheduled block bound words)
include scheduled

theorem set (inside : bound < 64) :
    Scheduled block (bound + 1) (words.set bound (Sha256.schedule (ofBytes block) bound)) := by
  refine ⟨by rw [length_set, scheduled.full], fun place below => ?_⟩
  rcases Nat.lt_succ_iff_lt_or_eq.mp below with earlier | rfl
  · rw [getD_eq_getElem?_getD, getElem?_set_ne (by omega), ← getD_eq_getElem?_getD]
    exact scheduled.agrees place earlier
  · rw [getD_eq_getElem?_getD, getElem?_set_self (by rw [scheduled.full]; exact inside), Option.getD_some]

theorem loadWord (whole : block.length = 64) (inside : bound < 16) :
    Scheduled block (bound + 1) (Registry.loadWord block words bound) := by
  have word : Sha256.schedule (ofBytes block) bound = blockWord (ofBytes block) bound := by
    rw [Sha256.schedule, if_pos inside]
  have step := scheduled.set (by omega)
  rw [word, ← loadWord_spec block whole bound inside] at step
  exact step

theorem extendWord (early : 16 ≤ bound) (inside : bound < 64) :
    Scheduled block (bound + 1) (Registry.extendWord words bound) := by
  have word : Sha256.schedule (ofBytes block) bound = words.getD (bound - 16) 0 +
      smallSigma0 (words.getD (bound - 15) 0) + words.getD (bound - 7) 0 +
      smallSigma1 (words.getD (bound - 2) 0) := by
    rw [Sha256.schedule, if_neg (by omega), scheduled.agrees _ (by omega), scheduled.agrees _ (by omega),
      scheduled.agrees _ (by omega), scheduled.agrees _ (by omega)]
    ring
  have step := scheduled.set inside
  rw [word] at step
  exact step

end

end Scheduled

theorem loadWords_spec (block : Bytes) (whole : block.length = 64) (count : Nat) (inside : count ≤ 16) :
    Scheduled block count ((range count).foldl (loadWord block) (replicate 64 0)) := by
  induction count with
  | zero => exact ⟨length_replicate, nofun⟩
  | succ count ih =>
    rw [range_succ, foldl_append]
    exact (ih (by omega)).loadWord whole (by omega)

theorem extendWords_spec {block : Bytes} {words : List Word} (loaded : Scheduled block 16 words) (count : Nat)
    (inside : count ≤ 48) : Scheduled block (16 + count) ((range' 16 count).foldl extendWord words) := by
  induction count with
  | zero => exact loaded
  | succ count ih =>
    rw [range'_1_concat, foldl_append]
    exact (ih (by omega)).extendWord (by omega) (by omega)

theorem schedule_spec (block : Bytes) (whole : block.length = 64) : Scheduled block 64 (schedule block) := by
  unfold schedule
  exact extendWords_spec (loadWords_spec block whole 16 (le_refl 16)) 48 (le_refl 48)

theorem compressRounds_spec (block : Bytes) (whole : block.length = 64) (state : Words) (count : Nat)
    (inside : count ≤ 64) : (range count).foldl (compressRound (schedule block)) state =
      rounds (ofBytes block) state count := by
  induction count with
  | zero => rfl
  | succ count ih =>
    rw [range_succ, foldl_append, ih (by omega), rounds,
      ← (schedule_spec block whole).agrees count (by omega), ← roundConstants_eq]
    rfl

theorem sha256Compress_spec (state : Words) (block : Bytes) (whole : block.length = 64) :
    sha256Compress state block = compress state (ofBytes block) := by
  unfold sha256Compress compress
  rw [compressRounds_spec block whole state 64 (le_refl 64)]

theorem length_of_mem_pieces {size : Nat} {bytes piece : Bytes} (member : piece ∈ pieces size bytes) :
    piece.length = size := by
  obtain ⟨place, inside, rfl⟩ := mem_map.mp member
  have below := mem_range.mp inside
  have room : place * size + size ≤ bytes.length := by
    rw [← Nat.succ_mul]
    exact (Nat.mul_le_mul_right size below).trans (Nat.div_mul_le_self _ _)
  rw [length_take, length_drop]
  omega

theorem foldl_compress (state : Words) (bytes : Bytes) : (pieces 64 bytes).foldl sha256Compress state =
    (pieces 512 (ofBytes bytes)).foldl compress state := by
  rw [show 512 = 8 * 64 from rfl, pieces_ofBytes, foldl_map]
  refine foldl_ext _ _ _ fun current block member => ?_
  exact sha256Compress_spec current block (length_of_mem_pieces member)

theorem finalBlocks_spec (remainder : Bytes) (short : remainder.length < 64) (bitLength : Nat) :
    finalBlocks remainder bitLength =
      remainder ++ [0x80] ++ replicate ((119 - remainder.length) % 64) 0 ++ bigEndian 8 bitLength := by
  have eight : (bigEndian 8 bitLength).length = 8 := by simp [bigEndian]
  have marked : (copyFromSlice (replicate 128 0) 0 remainder).set remainder.length 0x80 =
      remainder ++ [0x80] ++ replicate (127 - remainder.length) 0 := by
    have zeros : 128 - remainder.length = (127 - remainder.length) + 1 := by omega
    unfold copyFromSlice
    rw [take_zero, nil_append, Nat.zero_add, drop_replicate, zeros, replicate_succ,
      set_append_right _ _ (le_refl _), Nat.sub_self, set_cons_zero, append_assoc, singleton_append]
  have placed : ∀ finalLen, remainder.length + 1 ≤ finalLen - 8 → 8 ≤ finalLen → finalLen ≤ 128 →
      (copyFromSlice (remainder ++ [0x80] ++ replicate (127 - remainder.length) 0) (finalLen - 8)
        (bigEndian 8 bitLength)).take finalLen =
      remainder ++ [0x80] ++ replicate (finalLen - 9 - remainder.length) 0 ++ bigEndian 8 bitLength := by
    intro finalLen room least most
    have kept : (remainder ++ [0x80] ++ replicate (127 - remainder.length) (0 : UInt8)).take (finalLen - 8) =
        remainder ++ [0x80] ++ replicate (finalLen - 9 - remainder.length) 0 := by
      rw [take_append, take_of_length_le (by simpa using room), take_replicate]
      congr 2
      simp
      omega
    unfold copyFromSlice
    rw [kept]
    refine take_left' ?_
    simp [eight]
    omega
  unfold finalBlocks
  simp only [marked]
  split
  · rw [placed 64 (by omega) (by decide) (by decide)]
    congr 3
    omega
  · rw [placed 128 (by omega) (by decide) (by decide)]
    congr 3
    omega

theorem blocks_spec (bytes : Bytes) (state : Words) :
    (pieces 64 (finalBlocks (asChunks 64 bytes).2 (8 * bytes.length))).foldl sha256Compress
        ((asChunks 64 bytes).1.foldl sha256Compress state) =
      (pieces 512 (pad (ofBytes bytes))).foldl compress state := by
  -- the chunks and the final blocks are the blocks of the padded message
  have remaining : (asChunks 64 bytes).2.length = bytes.length % 64 := by
    simp only [asChunks, length_drop]
    omega
  have whole : (bytes.take (bytes.length / 64 * 64)).length = bytes.length / 64 * 64 := by
    rw [length_take]
    omega
  have chunks : pieces 64 bytes = pieces 64 (bytes.take (bytes.length / 64 * 64)) := by
    conv_lhs => rw [← take_append_drop (bytes.length / 64 * 64) bytes]
    rw [pieces_append _ _ _ (by rw [whole]; exact Nat.dvd_mul_left _ _)]
    have none : pieces 64 (bytes.drop (bytes.length / 64 * 64)) = [] := by
      have short : (bytes.drop (bytes.length / 64 * 64)).length / 64 = 0 := by
        rw [length_drop]
        omega
      unfold pieces
      rw [short]
      rfl
    rw [none, append_nil]
  have padded : pad (ofBytes bytes) = ofBytes (bytes.take (bytes.length / 64 * 64) ++
      finalBlocks (asChunks 64 bytes).2 (8 * bytes.length)) := by
    rw [pad_ofBytes, finalBlocks_spec _ (by omega), remaining]
    simp only [asChunks, append_assoc]
    rw [← append_assoc (bytes.take _), take_append_drop]
  rw [padded, ← foldl_compress, pieces_append _ _ _ (by rw [whole]; exact Nat.dvd_mul_left _ _),
    foldl_append, ← chunks]
  rfl

theorem formatWord_spec (word : Word) : formatWord word = Sha256.hexDigits 8 word.toNat :=
  Sha256.leftpad_toDigits 7 word.toNat (by simpa using word.isLt)

theorem sha256Hex_correct (bytes : Bytes) (short : bytes.length < 2 ^ 61) :
    sha256Hex bytes = Sha256.hexDigest (Sha256.ofBytes bytes) := by
  have counter : bytes.length * 8 % 2 ^ 64 = 8 * bytes.length := by
    rw [Nat.mod_eq_of_lt (by omega), Nat.mul_comm]
  unfold sha256Hex Sha256.hexDigest Sha256.digest
  simp only [counter]
  rw [← blocks_spec, initialState_eq, funext formatWord_spec]
  rfl

theorem sha256Hex_abc : sha256Hex [97, 98, 99] = Sha256.hexDigest (Sha256.ofBytes [97, 98, 99]) :=
  sha256Hex_correct [97, 98, 99] (by decide)

example : (sha256Hex [97, 98, 99] == "ba7816bf8f01cfea414140de5dae2223b00361a396177a9cb410ff61f20015ad") = true := by
  decide +kernel

end RustScriptAgent.Registry
