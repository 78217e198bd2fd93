import RustScriptAgent.Tools.Patch

namespace RustScriptAgent.Tools

open Patch List

def ReadFile.utf8IsValid : List UInt8 → Bool := Patch.utf8IsValid

def SearchFiles.utf8IsValid : List UInt8 → Bool
  | [] => true
  | b :: rest =>
    if b ≤ 127 then utf8IsValid rest
    else if 194 ≤ b && b ≤ 223 then
      match rest with
      | c :: rest => if c < 128 || 191 < c then false else utf8IsValid rest
      | _ => false
    else if 224 ≤ b && b ≤ 239 then
      match rest with
      | c :: d :: rest =>
        let ok := 128 ≤ c && c ≤ 191 && 128 ≤ d && d ≤ 191
        let ok := if b = 224 ∧ c < 160 then false else ok
        let ok := if b = 237 ∧ 159 < c then false else ok
        if ok then utf8IsValid rest else false
      | _ => false
    else if 240 ≤ b && b ≤ 244 then
      match rest with
      | c :: d :: e :: rest =>
        let ok := 128 ≤ c && c ≤ 191 && 128 ≤ d && d ≤ 191 && 128 ≤ e && e ≤ 191
        let ok := if b = 240 ∧ c < 144 then false else ok
        let ok := if b = 244 ∧ 143 < c then false else ok
        if ok then utf8IsValid rest else false
      | _ => false
    else false

theorem SearchFiles.utf8IsValid_eq (bytes : List UInt8) : utf8IsValid bytes = Patch.utf8IsValid bytes := by
  fun_induction Patch.utf8IsValid bytes <;> unfold utf8IsValid <;> grind [Patch.continuation]

def WellFormed (bytes : List UInt8) : Prop := ∃ chars : List Char, bytes = chars.flatMap String.utf8EncodeChar

def codes (value : Nat) : List Nat :=
  if value ≤ 127 then [value]
  else if value ≤ 2047 then [value / 64 + 192, value % 64 + 128]
  else if value ≤ 65535 then [value / 4096 + 224, value / 64 % 64 + 128, value % 64 + 128]
  else [value / 262144 + 240, value / 4096 % 64 + 128, value / 64 % 64 + 128, value % 64 + 128]

theorem codes_toNat (char : Char) : (String.utf8EncodeChar char).map UInt8.toNat = codes char.toNat := by
  have valid : char.toNat.isValidChar := char.valid
  have byte : ∀ value : Nat, value < 256 → (UInt8.ofNat value).toNat = value := by
    intro value small
    rw [UInt8.toNat_ofNat', Nat.mod_eq_of_lt small]
  simp only [String.utf8EncodeChar, Char.toNat_val, codes]
  split_ifs <;> simp only [map_cons, map_nil, cons.injEq, and_true] <;>
    (repeat' constructor) <;> rw [byte _ (by omega)] <;> omega

theorem exists_of_codes {front : List UInt8} {value : Nat} (valid : value.isValidChar)
    (same : front.map UInt8.toNat = codes value) (rest : List UInt8) :
    ∃ char back, front ++ rest = String.utf8EncodeChar char ++ back := by
  have named : (Char.ofNatAux value valid).toNat = value := rfl
  rw [← named, ← codes_toNat] at same
  exact ⟨_, rest, congrArg (· ++ rest) ((map_inj_right fun _ _ => UInt8.toNat_inj.mp).mp same)⟩

theorem continuation_iff (byte : UInt8) : continuation byte ↔ 128 ≤ byte.toNat ∧ byte.toNat ≤ 191 := by
  rw [continuation, Bool.and_eq_true, decide_eq_true_eq, decide_eq_true_eq, UInt8.le_iff_toNat_le,
    UInt8.le_iff_toNat_le]
  rfl

theorem second_iff (first bound low high : UInt8) :
    (!(first == bound && decide (low < high))) ↔ (first.toNat = bound.toNat → high.toNat ≤ low.toNat) := by
  grind [UInt8.toNat_inj, UInt8.lt_iff_toNat_lt]

theorem utf8IsValid_char (char : Char) (rest : List UInt8) :
    utf8IsValid (String.utf8EncodeChar char ++ rest) = utf8IsValid rest := by
  have valid : char.toNat.isValidChar := char.valid
  have same := codes_toNat char
  generalize String.utf8EncodeChar char = front at same
  generalize char.toNat = value at same valid
  unfold codes at same
  split_ifs at same <;> simp only [map_eq_cons_iff, map_eq_nil_iff] at same
  · obtain ⟨b, _, rfl, hb, rfl⟩ := same
    rw [singleton_append, utf8IsValid.eq_def]
    exact if_pos (UInt8.le_iff_toNat_le.mpr (hb ▸ ‹_›))
  · obtain ⟨b, _, rfl, hb, c, _, rfl, hc, rfl⟩ := same
    rw [utf8IsValid.eq_def]
    simp only [cons_append, nil_append, Bool.and_eq_true, decide_eq_true_eq, UInt8.le_iff_toNat_le, UInt8.reduceToNat]
    rw [if_neg (by omega), if_pos (by omega), Bool.eq_iff_iff]
    simp only [Bool.and_eq_true, continuation_iff, and_iff_right_iff_imp]
    omega
  · obtain ⟨b, _, rfl, hb, c, _, rfl, hc, d, _, rfl, hd, rfl⟩ := same
    rw [utf8IsValid.eq_def]
    simp only [cons_append, nil_append, Bool.and_eq_true, decide_eq_true_eq, UInt8.le_iff_toNat_le, UInt8.reduceToNat]
    rw [if_neg (by omega), if_neg (by omega), if_pos (by omega), Bool.eq_iff_iff]
    simp only [Bool.and_eq_true, continuation_iff, second_iff, UInt8.reduceToNat, and_iff_right_iff_imp]
    omega
  · obtain ⟨b, _, rfl, hb, c, _, rfl, hc, d, _, rfl, hd, e, _, rfl, he, rfl⟩ := same
    rw [utf8IsValid.eq_def]
    simp only [cons_append, nil_append, Bool.and_eq_true, decide_eq_true_eq, UInt8.le_iff_toNat_le, UInt8.reduceToNat]
    rw [if_neg (by omega), if_neg (by omega), if_neg (by omega), if_pos (by omega), Bool.eq_iff_iff]
    simp only [Bool.and_eq_true, continuation_iff, second_iff, UInt8.reduceToNat, and_iff_right_iff_imp]
    omega

theorem exists_char {bytes : List UInt8} (more : bytes ≠ []) (accepted : utf8IsValid bytes) :
    ∃ char rest, bytes = String.utf8EncodeChar char ++ rest := by
  unfold utf8IsValid at accepted
  split at accepted
  · exact absurd rfl more
  next b rest =>
  simp only [UInt8.le_iff_toNat_le, UInt8.reduceToNat, Bool.and_eq_true, decide_eq_true_eq] at accepted
  split_ifs at accepted
  · refine exists_of_codes (?_ : b.toNat.isValidChar) (?_ : [b].map _ = _) rest
    · unfold Nat.isValidChar
      omega
    · rw [codes, if_pos (by omega)]
      rfl
  all_goals split at accepted <;>
    simp only [Bool.and_eq_true, continuation_iff, second_iff, UInt8.reduceToNat, Bool.false_eq_true] at accepted
  next c rest =>
    refine exists_of_codes (?_ : ((b.toNat - 192) * 64 + (c.toNat - 128)).isValidChar) (?_ : [b, c].map _ = _) rest
    · unfold Nat.isValidChar
      omega
    · rw [codes, if_neg (by omega), if_pos (by omega)]
      simp only [map_cons, map_nil, cons.injEq, and_true]
      omega
  next c d rest =>
    refine exists_of_codes (?_ : ((b.toNat - 224) * 4096 + (c.toNat - 128) * 64 + (d.toNat - 128)).isValidChar)
      (?_ : [b, c, d].map _ = _) rest
    · unfold Nat.isValidChar
      omega
    · rw [codes, if_neg (by omega), if_neg (by omega), if_pos (by omega)]
      simp only [map_cons, map_nil, cons.injEq, and_true]
      omega
  next c d e rest =>
    refine exists_of_codes
      (?_ : ((b.toNat - 240) * 262144 + (c.toNat - 128) * 4096 + (d.toNat - 128) * 64 + (e.toNat - 128)).isValidChar)
      (?_ : [b, c, d, e].map _ = _) rest
    · unfold Nat.isValidChar
      omega
    · rw [codes, if_neg (by omega), if_neg (by omega), if_neg (by omega)]
      simp only [map_cons, map_nil, cons.injEq, and_true]
      omega

theorem Patch.utf8IsValid_iff (bytes : List UInt8) : utf8IsValid bytes ↔ WellFormed bytes := by
  constructor
  · intro accepted
    induction size : bytes.length using Nat.strong_induction_on generalizing bytes with
    | _ length ih =>
      by_cases more : bytes = []
      · exact ⟨[], more⟩
      · obtain ⟨char, rest, rfl⟩ := exists_char more accepted
        rw [utf8IsValid_char] at accepted
        have shorter : rest.length < length := by
          have := char.utf8Size_pos
          simp only [length_append, String.length_utf8EncodeChar] at size
          omega
        obtain ⟨chars, rfl⟩ := ih _ shorter rest accepted rfl
        exact ⟨char :: chars, rfl⟩
  · rintro ⟨chars, rfl⟩
    induction chars with
    | nil => rfl
    | cons char chars ih => rw [flatMap_cons, utf8IsValid_char, ih]

theorem utf8IsValid_correct (bytes : List UInt8) :
    (Patch.utf8IsValid bytes = true ↔ WellFormed bytes) ∧ (SearchFiles.utf8IsValid bytes = true ↔ WellFormed bytes) ∧
      (ReadFile.utf8IsValid bytes = true ↔ WellFormed bytes) := by
  rw [SearchFiles.utf8IsValid_eq, ReadFile.utf8IsValid]
  exact ⟨Patch.utf8IsValid_iff bytes, Patch.utf8IsValid_iff bytes, Patch.utf8IsValid_iff bytes⟩

end RustScriptAgent.Tools
