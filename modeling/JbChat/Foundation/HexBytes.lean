/- source: none
   digest: Byte strings as hexadecimal texts and as big-endian numbers. -/

import Mathlib.Tactic

set_option autoImplicit false

namespace JbChat.Foundation.HexBytes

abbrev Bytes := List UInt8

section

def hexDigit (n : Nat) : Char :=
  if n < 10 then Char.ofNat (48 + n) else Char.ofNat (87 + n)

/-- Two digits in lower case for each byte. -/
def hexChars (bytes : Bytes) : List Char :=
  bytes.flatMap fun byte => [hexDigit (byte.toNat / 16), hexDigit (byte.toNat % 16)]

/-- The value of a character code as a hexadecimal digit, in either case. -/
def nibble (code : Nat) : Option Nat :=
  if 48 ≤ code ∧ code ≤ 57 then some (code - 48)
  else if 97 ≤ code ∧ code ≤ 102 then some (code - 87)
  else if 65 ≤ code ∧ code ≤ 70 then some (code - 55)
  else none

/-- The bytes that pairs of digits write, up to the first pair that is none. -/
def decodeCodes : List Nat → Bytes
  | high :: low :: codes =>
    match nibble high, nibble low with
    | some h, some l => UInt8.ofNat (16 * h + l) :: decodeCodes codes
    | _, _ => []
  | _ => []

variable {bytes : Bytes}

theorem hexChars_cons (byte : UInt8) (bytes : Bytes) : hexChars (byte :: bytes) =
    hexDigit (byte.toNat / 16) :: hexDigit (byte.toNat % 16) :: hexChars bytes := rfl

theorem hexChars_length (bytes : Bytes) : (hexChars bytes).length = 2 * bytes.length := by
  induction bytes with
  | nil => rfl
  | cons byte bytes ih =>
    rw [hexChars_cons, List.length_cons, List.length_cons, List.length_cons, ih]
    omega

theorem nibble_hexDigit {n : Nat} (h : n < 16) : nibble (hexDigit n).toNat = some n := by
  interval_cases n <;> rfl

theorem hexChars_bound {c : Char} (h : c ∈ hexChars bytes) : 48 ≤ c.toNat ∧ c.toNat < 128 := by
  unfold hexChars at h
  obtain ⟨byte, -, hbyte⟩ := List.mem_flatMap.mp h
  have digit : ∀ n < 16, 48 ≤ (hexDigit n).toNat ∧ (hexDigit n).toNat < 128 := by decide
  have hbound : byte.toNat < 256 := byte.toNat_lt
  rcases List.mem_cons.mp hbyte with rfl | hlow
  · exact digit _ (by omega)
  · obtain rfl := List.mem_singleton.mp hlow
    exact digit _ (by omega)

theorem decodeCodes_hexChars (bytes : Bytes) :
    decodeCodes ((hexChars bytes).map Char.toNat) = bytes := by
  induction bytes with
  | nil => rfl
  | cons byte bytes ih =>
    have hbound : byte.toNat < 256 := byte.toNat_lt
    have hbyte : UInt8.ofNat (16 * (byte.toNat / 16) + byte.toNat % 16) = byte := by
      rw [Nat.div_add_mod, UInt8.ofNat_toNat]
    rw [hexChars_cons, List.map_cons, List.map_cons, decodeCodes,
      nibble_hexDigit (by omega), nibble_hexDigit (by omega)]
    dsimp only
    rw [hbyte, ih]

theorem length_decodeCodes (codes : List Nat) : 2 * (decodeCodes codes).length ≤ codes.length := by
  induction codes using decodeCodes.induct with
  | case1 high low codes h l hh hl ih =>
    rw [decodeCodes, hh, hl]
    simp only [List.length_cons]
    omega
  | case2 high low codes hnone =>
    rw [decodeCodes]
    split
    · exact absurd ‹_› (by simp_all)
    · simp
  | case3 codes hshort =>
    rw [decodeCodes]
    · simp
    · exact hshort

end

section

/-- The number that bytes write in base 256. -/
def bigEndian (bytes : Bytes) : Nat :=
  bytes.foldl (fun value byte => 256 * value + byte.toNat) 0

/-- The last bytes of a number, as many as are asked for. -/
def toBytes : Nat → Nat → Bytes
  | 0, _ => []
  | width + 1, n => toBytes width (n / 256) ++ [UInt8.ofNat (n % 256)]

variable {bytes : Bytes}

theorem toBytes_length (width n : Nat) : (toBytes width n).length = width := by
  induction width generalizing n with
  | zero => rfl
  | succ width ih => rw [toBytes, List.length_append, ih, List.length_singleton]

theorem bigEndian_toBytes {width n : Nat} (h : n < 256 ^ width) :
    bigEndian (toBytes width n) = n := by
  induction width generalizing n with
  | zero =>
    rw [pow_zero, Nat.lt_one_iff] at h
    rw [h]
    rfl
  | succ width ih =>
    have hhigh : n / 256 < 256 ^ width := by
      rw [Nat.div_lt_iff_lt_mul (by decide)]
      rwa [pow_succ] at h
    have hlow : (UInt8.ofNat (n % 256)).toNat = n % 256 := by
      rw [UInt8.toNat_ofNat']
      omega
    have ih := ih hhigh
    unfold bigEndian at ih ⊢
    rw [toBytes, List.foldl_append, ih, List.foldl_cons, List.foldl_nil, hlow]
    omega

/-- The digits of a text as one number, if all are below the radix. -/
def readDigits (radix : Nat) (chars : List Char) (value : Nat) : Option Nat :=
  match chars with
  | [] => some value
  | c :: chars =>
    match nibble c.toNat with
    | none => none
    | some digit => if digit < radix then readDigits radix chars (radix * value + digit) else none

theorem readDigits_hexChars (bytes : Bytes) (value : Nat) :
    readDigits 16 (hexChars bytes) value =
      some (bytes.foldl (fun value byte => 256 * value + byte.toNat) value) := by
  induction bytes generalizing value with
  | nil => rfl
  | cons byte bytes ih =>
    have hbound : byte.toNat < 256 := byte.toNat_lt
    have hhigh : byte.toNat / 16 < 16 := by omega
    have hlow : byte.toNat % 16 < 16 := by omega
    rw [hexChars_cons, readDigits, nibble_hexDigit hhigh]
    dsimp only
    rw [if_pos hhigh, readDigits, nibble_hexDigit hlow]
    dsimp only
    rw [if_pos hlow, ih, List.foldl_cons]
    congr 2
    omega

end

end JbChat.Foundation.HexBytes
