/- source: src/embed/runtime.ts
   digest: The accumulator loop of random identifiers writes the standard base64url. -/

import Mathlib.Tactic.SplitIfs
import JbChat.Foundation.Base64Url

set_option autoImplicit false

namespace JbChat.Embed.RandomIdentifiers

open Foundation Foundation.HashTrace Foundation.Base64Url

/-- The variables of the loop. The shifts keep `accumulator` a signed 32-bit integer. -/
structure Progress where
  output : List Char
  accumulator : BitVec 32
  bits : Nat

/-- `while (bits >= 6)`: the output with the characters of the full groups, and the bits left. -/
def emit (accumulator : BitVec 32) : List Char → Nat → List Char × Nat
  | output, bits + 6 =>
    emit accumulator
      (output ++ [sextetChar (accumulator.sshiftRight bits &&& 63#32).toNat]) bits
  | output, bits => (output, bits)

def accumulate (accumulator : BitVec 32) (byte : UInt8) : BitVec 32 :=
  (accumulator <<< 8) ||| BitVec.ofNat 32 byte.toNat

def absorb (progress : Progress) (byte : UInt8) : Progress :=
  let accumulator := accumulate progress.accumulator byte
  let (output, bits) := emit accumulator progress.output (progress.bits + 8)
  { output, accumulator, bits }

def flush (progress : Progress) : List Char :=
  if 0 < progress.bits then
    progress.output ++
      [sextetChar ((progress.accumulator <<< (6 - progress.bits)) &&& 63#32).toNat]
  else progress.output

def identifierChars (bytes : Bytes) : List Char :=
  flush (bytes.foldl absorb { output := [], accumulator := 0#32, bits := 0 })

def maxSafeInteger : Nat := 2 ^ 53 - 1

/-- `getRandomValues` is what the platform writes over an array of the given length. -/
def randomBase64Url (getRandomValues : Nat → Bytes) (byteLength : Int) : Except String String :=
  if byteLength.natAbs > maxSafeInteger ∨ byteLength < 16 ∨ byteLength > 64 then
    .error "Random identifier length is outside the supported range."
  else .ok (String.ofList (identifierChars (getRandomValues byteLength.toNat)))

theorem shifted_group {accumulator : BitVec 32} {bits : Nat} (h : bits + 6 ≤ 32) :
    (accumulator.sshiftRight bits &&& 63#32).toNat = accumulator.toNat / 2 ^ bits % 64 := by
  apply Nat.eq_of_testBit_eq
  intro i
  rw [← BitVec.getLsbD, BitVec.getLsbD_and, BitVec.getLsbD_sshiftRight,
    show 64 = 2 ^ 6 from rfl, Nat.testBit_mod_two_pow, Nat.testBit_div_two_pow]
  have hmask : (63#32).getLsbD i = decide (i < 6) := by
    rw [BitVec.getLsbD, show (63#32).toNat = 2 ^ 6 - 1 from rfl, Nat.testBit_two_pow_sub_one]
  rw [hmask]
  by_cases hi : i < 6
  · have hword : ¬ 32 ≤ i := by omega
    have hinside : bits + i < 32 := by omega
    simp only [hi, hword, hinside, decide_true, decide_false, Bool.not_false, Bool.true_and,
      Bool.and_true, if_true, BitVec.getLsbD, Nat.add_comm]
  · simp only [hi, decide_false, Bool.and_false, Bool.false_and]

theorem toNat_accumulate (accumulator : BitVec 32) (byte : UInt8) :
    (accumulate accumulator byte).toNat = accumulator.toNat % 2 ^ 24 * 256 + byte.toNat := by
  have hbyte := byte.toNat_lt
  have hhigh : accumulator.toNat <<< 8 % 2 ^ 32 = (accumulator.toNat % 2 ^ 24) <<< 8 := by
    simp only [Nat.shiftLeft_eq]
    omega
  rw [accumulate, BitVec.toNat_or, BitVec.toNat_shiftLeft, BitVec.toNat_ofNat, hhigh,
    Nat.mod_eq_of_lt (show byte.toNat < 2 ^ 32 by omega),
    ← Nat.shiftLeft_add_eq_or_of_lt (show byte.toNat < 2 ^ 8 by omega), Nat.shiftLeft_eq]

theorem flushed_group {accumulator : BitVec 32} {bits : Nat} :
    ((accumulator <<< bits) &&& 63#32).toNat = accumulator.toNat * 2 ^ bits % 64 := by
  have hmask : ((accumulator <<< bits) &&& 63#32).toNat =
      (accumulator <<< bits).toNat % 2 ^ 6 := by
    rw [BitVec.toNat_and, show (63#32).toNat = 2 ^ 6 - 1 from rfl, Nat.and_two_pow_sub_one_eq_mod]
  rw [hmask, BitVec.toNat_shiftLeft, Nat.shiftLeft_eq]
  omega

section

variable (output : List Char) (accumulator : BitVec 32) (byte : UInt8)

theorem absorb_zero : absorb ⟨output, accumulator, 0⟩ byte =
    ⟨output ++ [sextetChar (byte.toNat / 4)], accumulate accumulator byte, 2⟩ := by
  have hbyte := byte.toNat_lt
  have hgroup : (accumulate accumulator byte).toNat / 2 ^ 2 % 64 = byte.toNat / 4 := by
    rw [toNat_accumulate]
    omega
  simp only [absorb, emit, shifted_group (show 2 + 6 ≤ 32 by decide), hgroup]

theorem absorb_two : absorb ⟨output, accumulator, 2⟩ byte =
    ⟨output ++ [sextetChar (accumulator.toNat % 4 * 16 + byte.toNat / 16)],
      accumulate accumulator byte, 4⟩ := by
  have hbyte := byte.toNat_lt
  have hgroup : (accumulate accumulator byte).toNat / 2 ^ 4 % 64 =
      accumulator.toNat % 4 * 16 + byte.toNat / 16 := by
    rw [toNat_accumulate]
    omega
  simp only [absorb, emit, shifted_group (show 4 + 6 ≤ 32 by decide), hgroup]

theorem absorb_four : absorb ⟨output, accumulator, 4⟩ byte =
    ⟨output ++ [sextetChar (accumulator.toNat % 16 * 4 + byte.toNat / 64),
      sextetChar (byte.toNat % 64)], accumulate accumulator byte, 0⟩ := by
  have hbyte := byte.toNat_lt
  have hfirst : (accumulate accumulator byte).toNat / 2 ^ 6 % 64 =
      accumulator.toNat % 16 * 4 + byte.toNat / 64 := by
    rw [toNat_accumulate]
    omega
  have hsecond : (accumulate accumulator byte).toNat / 2 ^ 0 % 64 = byte.toNat % 64 := by
    rw [toNat_accumulate]
    omega
  simp only [absorb, emit, shifted_group (show 6 + 6 ≤ 32 by decide),
    shifted_group (show 0 + 6 ≤ 32 by decide), hfirst, hsecond, List.append_assoc,
    List.singleton_append]

theorem flush_foldl_absorb (bytes : Bytes) :
    flush (bytes.foldl absorb ⟨output, accumulator, 0⟩) = output ++ encodeChars bytes := by
  induction bytes using Base64Url.encodeChars.induct generalizing output accumulator with
  | case1 => simp [flush, encodeChars]
  | case2 a =>
    have ha := a.toNat_lt
    have hlast : (accumulate accumulator a).toNat * 2 ^ 4 % 64 = a.toNat % 4 * 16 := by
      rw [toNat_accumulate]
      omega
    simp only [List.foldl_cons, List.foldl_nil, absorb_zero, flush, Nat.zero_lt_two, if_true,
      Nat.reduceSub, flushed_group, hlast, encodeChars, List.append_assoc, List.singleton_append]
  | case3 a b =>
    have hb := b.toNat_lt
    have hmiddle : (accumulate accumulator a).toNat % 4 = a.toNat % 4 := by
      rw [toNat_accumulate]
      omega
    have hlast : (accumulate (accumulate accumulator a) b).toNat * 2 ^ 2 % 64 =
        b.toNat % 16 * 4 := by
      rw [toNat_accumulate]
      omega
    simp only [List.foldl_cons, List.foldl_nil, absorb_zero, absorb_two, flush, Nat.zero_lt_succ,
      if_true, Nat.reduceSub, flushed_group, hmiddle, hlast, encodeChars, List.append_assoc,
      List.cons_append, List.nil_append]
  | case4 a b c rest ih =>
    have hmiddle : (accumulate accumulator a).toNat % 4 = a.toNat % 4 := by
      rw [toNat_accumulate]
      omega
    have hlower : (accumulate (accumulate accumulator a) b).toNat % 16 = b.toNat % 16 := by
      rw [toNat_accumulate]
      omega
    simp only [List.foldl_cons, absorb_zero, absorb_two, absorb_four, hmiddle, hlower]
    rw [ih]
    simp only [encodeChars, List.append_assoc, List.cons_append, List.nil_append]

end

/-- Whatever bytes the platform draws, the identifier is their unpadded base64url text. -/
theorem randomBase64Url_standard (getRandomValues : Nat → Bytes) (bytes : Bytes)
    (low : 16 ≤ bytes.length) (high : bytes.length ≤ 64)
    (drawn : getRandomValues bytes.length = bytes) :
    String.ofList (identifierChars bytes) = Base64Url.encode bytes ∧
      randomBase64Url getRandomValues bytes.length = .ok (Base64Url.encode bytes) := by
  have hchars : String.ofList (identifierChars bytes) = Base64Url.encode bytes := by
    rw [identifierChars, flush_foldl_absorb, List.nil_append, Base64Url.encode]
  refine ⟨hchars, ?_⟩
  rw [randomBase64Url, if_neg (by simp only [maxSafeInteger, Int.natAbs_natCast]; omega),
    Int.toNat_natCast, drawn, hchars]

theorem randomBase64Url_standard_sample :
    String.ofList (identifierChars (List.replicate 16 255)) =
        Base64Url.encode (List.replicate 16 255) ∧
      randomBase64Url (List.replicate · 255) 16 =
        .ok (Base64Url.encode (List.replicate 16 255)) :=
  randomBase64Url_standard (List.replicate · 255) (List.replicate 16 255) (by decide) (by decide)
    rfl

end JbChat.Embed.RandomIdentifiers
