/- source: none
   digest: Unpadded base64url, the forgiving decoder, and their round trip. -/

import Mathlib.Data.List.TakeWhile
import JbChat.Foundation.HashTrace

/-!
The encoder is RFC 4648 section 5 without padding. The decoder is the forgiving one
of the platform: it reads both base64 alphabets, stops at padding, skips any other
character and drops a last lone character.
-/

set_option autoImplicit false

namespace JbChat.Foundation.Base64Url

open HashTrace

instance memAll (text allowed : List Char) : Decidable (∀ c ∈ text, c ∈ allowed) :=
  List.decidableBAll (· ∈ allowed) text

def alphabet : List Char :=
  "ABCDEFGHIJKLMNOPQRSTUVWXYZabcdefghijklmnopqrstuvwxyz0123456789-_".toList

def sextetChar (n : Nat) : Char := alphabet.getD n 'A'

def sextet (c : Char) : Option Nat :=
  if c = '+' then some 62 else if c = '/' then some 63 else alphabet.idxOf? c

def encodeChars : Bytes → List Char
  | [] => []
  | [a] => [sextetChar (a.toNat / 4), sextetChar (a.toNat % 4 * 16)]
  | [a, b] => [sextetChar (a.toNat / 4), sextetChar (a.toNat % 4 * 16 + b.toNat / 16),
      sextetChar (b.toNat % 16 * 4)]
  | a :: b :: c :: rest => sextetChar (a.toNat / 4) ::
      sextetChar (a.toNat % 4 * 16 + b.toNat / 16) ::
      sextetChar (b.toNat % 16 * 4 + c.toNat / 64) :: sextetChar (c.toNat % 64) ::
      encodeChars rest

def decodeSextets : List Nat → Bytes
  | [] => []
  | [_] => []
  | [w, x] => [UInt8.ofNat (w * 4 + x / 16)]
  | [w, x, y] => [UInt8.ofNat (w * 4 + x / 16), UInt8.ofNat (x % 16 * 16 + y / 4)]
  | w :: x :: y :: z :: rest => UInt8.ofNat (w * 4 + x / 16) ::
      UInt8.ofNat (x % 16 * 16 + y / 4) :: UInt8.ofNat (y % 4 * 64 + z) :: decodeSextets rest

def encode (bytes : Bytes) : String := String.ofList (encodeChars bytes)

def decodeChars (chars : List Char) : Bytes :=
  decodeSextets ((chars.takeWhile (· ≠ '=')).filterMap sextet)

def decode (text : String) : Bytes := decodeChars text.toList

theorem alphabet_eq : alphabet =
    ['A', 'B', 'C', 'D', 'E', 'F', 'G', 'H', 'I', 'J', 'K', 'L', 'M', 'N', 'O', 'P',
    'Q', 'R', 'S', 'T', 'U', 'V', 'W', 'X', 'Y', 'Z', 'a', 'b', 'c', 'd', 'e', 'f',
    'g', 'h', 'i', 'j', 'k', 'l', 'm', 'n', 'o', 'p', 'q', 'r', 's', 't', 'u', 'v',
    'w', 'x', 'y', 'z', '0', '1', '2', '3', '4', '5', '6', '7', '8', '9', '-', '_'] :=
  String.toList_ofList

theorem sextet_sextetChar {n : Nat} (hn : n < 64) : sextet (sextetChar n) = some n := by
  have h : ∀ m : Fin 64, sextet (sextetChar m) = some m.val := by
    unfold sextet sextetChar
    rw [alphabet_eq]
    decide
  exact h ⟨n, hn⟩

theorem sextetChar_mem {n : Nat} (hn : n < 64) : sextetChar n ∈ alphabet := by
  have h : ∀ m : Fin 64, sextetChar m ∈ alphabet := by
    unfold sextetChar
    rw [alphabet_eq]
    decide
  exact h ⟨n, hn⟩

theorem ne_padding_of_mem {c : Char} (h : c ∈ alphabet) : c ≠ '=' := by
  rintro rfl
  rw [alphabet_eq] at h
  exact absurd h (by decide)

theorem encodeChars_mem {bytes : Bytes} {c : Char} (hc : c ∈ encodeChars bytes) :
    c ∈ alphabet := by
  induction bytes using encodeChars.induct with
  | case1 => simp [encodeChars] at hc
  | case2 a =>
    have ha := a.toNat_lt
    simp only [encodeChars, List.mem_cons, List.not_mem_nil, or_false] at hc
    rcases hc with rfl | rfl <;> exact sextetChar_mem (by omega)
  | case3 a b =>
    have ha := a.toNat_lt
    have hb := b.toNat_lt
    simp only [encodeChars, List.mem_cons, List.not_mem_nil, or_false] at hc
    rcases hc with rfl | rfl | rfl <;> exact sextetChar_mem (by omega)
  | case4 a b c rest ih =>
    have ha := a.toNat_lt
    have hb := b.toNat_lt
    have hc' := c.toNat_lt
    simp only [encodeChars, List.mem_cons] at hc
    rcases hc with rfl | rfl | rfl | rfl | hrest
    · exact sextetChar_mem (by omega)
    · exact sextetChar_mem (by omega)
    · exact sextetChar_mem (by omega)
    · exact sextetChar_mem (by omega)
    · exact ih hrest

private theorem takeWhile_encodeChars (bytes : Bytes) :
    (encodeChars bytes).takeWhile (· ≠ '=') = encodeChars bytes := by
  rw [List.takeWhile_eq_self_iff]
  intro c hc
  simpa using ne_padding_of_mem (encodeChars_mem hc)

private theorem byte_eq {b : UInt8} {n : Nat} (h : n = b.toNat) : UInt8.ofNat n = b := by
  rw [h, UInt8.ofNat_toNat]

theorem decode_encode (bytes : Bytes) : decode (encode bytes) = bytes := by
  rw [decode, encode, String.toList_ofList, decodeChars, takeWhile_encodeChars]
  induction bytes using encodeChars.induct with
  | case1 => rfl
  | case2 a =>
    have ha := a.toNat_lt
    simp only [encodeChars, List.filterMap_cons, List.filterMap_nil,
      sextet_sextetChar (show a.toNat / 4 < 64 by omega),
      sextet_sextetChar (show a.toNat % 4 * 16 < 64 by omega), decodeSextets]
    rw [byte_eq (b := a) (by omega)]
  | case3 a b =>
    have ha := a.toNat_lt
    have hb := b.toNat_lt
    simp only [encodeChars, List.filterMap_cons, List.filterMap_nil,
      sextet_sextetChar (show a.toNat / 4 < 64 by omega),
      sextet_sextetChar (show a.toNat % 4 * 16 + b.toNat / 16 < 64 by omega),
      sextet_sextetChar (show b.toNat % 16 * 4 < 64 by omega), decodeSextets]
    rw [byte_eq (b := a) (by omega), byte_eq (b := b) (by omega)]
  | case4 a b c rest ih =>
    have ha := a.toNat_lt
    have hb := b.toNat_lt
    have hc := c.toNat_lt
    simp only [encodeChars, List.filterMap_cons,
      sextet_sextetChar (show a.toNat / 4 < 64 by omega),
      sextet_sextetChar (show a.toNat % 4 * 16 + b.toNat / 16 < 64 by omega),
      sextet_sextetChar (show b.toNat % 16 * 4 + c.toNat / 64 < 64 by omega),
      sextet_sextetChar (show c.toNat % 64 < 64 by omega), decodeSextets, ih]
    rw [byte_eq (b := a) (by omega), byte_eq (b := b) (by omega), byte_eq (b := c) (by omega)]

theorem encode_injective {x y : Bytes} (h : encode x = encode y) : x = y := by
  rw [← decode_encode x, h, decode_encode]

theorem encodeChars_length (bytes : Bytes) :
    (encodeChars bytes).length = (bytes.length * 4 + 2) / 3 := by
  induction bytes using encodeChars.induct with
  | case1 => rfl
  | case2 a => simp [encodeChars]
  | case3 a b => simp [encodeChars]
  | case4 a b c rest ih =>
    simp only [encodeChars, List.length_cons, ih]
    omega

theorem idxOf_sextetChar {n : Nat} (hn : n < 64) : alphabet.idxOf (sextetChar n) = n := by
  have h : ∀ m : Fin 64, alphabet.idxOf (sextetChar m) = m.val := by
    unfold sextetChar
    rw [alphabet_eq]
    decide
  exact h ⟨n, hn⟩

theorem encodeChars_tail {bytes : Bytes} {c : Char} (hc : (encodeChars bytes).getLast? = some c) :
    ((encodeChars bytes).length % 4 = 2 → alphabet.idxOf c % 16 = 0) ∧
      ((encodeChars bytes).length % 4 = 3 → alphabet.idxOf c % 4 = 0) := by
  induction bytes using encodeChars.induct with
  | case1 => simp [encodeChars] at hc
  | case2 a =>
    have ha := a.toNat_lt
    simp only [encodeChars, List.getLast?_cons_cons, List.getLast?_singleton,
      Option.some.injEq] at hc
    rw [← hc, idxOf_sextetChar (by omega)]
    refine ⟨fun _ => by omega, fun hlen => by simp [encodeChars] at hlen⟩
  | case3 a b =>
    have hb := b.toNat_lt
    simp only [encodeChars, List.getLast?_cons_cons, List.getLast?_singleton,
      Option.some.injEq] at hc
    rw [← hc, idxOf_sextetChar (by omega)]
    refine ⟨fun hlen => by simp [encodeChars] at hlen, fun _ => by omega⟩
  | case4 a b d rest ih =>
    simp only [encodeChars, List.length_cons, Nat.add_mod_right, Nat.add_assoc,
      Nat.reduceAdd]
    cases hrest : (encodeChars rest).getLast? with
    | none =>
      rw [List.getLast?_eq_none_iff.mp hrest]
      simp
    | some last =>
      obtain ⟨head, tail, hcons⟩ := List.exists_cons_of_ne_nil
        (fun hnil => by simp [hnil] at hrest : encodeChars rest ≠ [])
      have hlast : last = c := by
        simp only [encodeChars, hcons, List.getLast?_cons_cons] at hc
        rw [hcons, hc] at hrest
        simpa using hrest.symm
      exact ih (hrest.trans (by rw [hlast]))

def sextetsOf (text : String) : List Nat := (text.toList.takeWhile (· ≠ '=')).filterMap sextet

/-- The bits that the decoding of sextets drops. -/
def spareSextets : List Nat → Nat
  | [] => 0
  | [w] => w
  | [_, x] => x % 16
  | [_, _, y] => y % 4
  | _ :: _ :: _ :: _ :: rest => spareSextets rest

def spareBits (text : String) : Nat := spareSextets (sextetsOf text)

theorem decodeSextets_length (sextets : List Nat) :
    (decodeSextets sextets).length = sextets.length * 3 / 4 := by
  induction sextets using decodeSextets.induct with
  | case1 => rfl
  | case2 w => simp [decodeSextets]
  | case3 w x => simp [decodeSextets]
  | case4 w x y => simp [decodeSextets]
  | case5 w x y z rest ih =>
    simp only [decodeSextets, List.length_cons, ih]
    omega

theorem byte_inj {m n : Nat} (hm : m < 256) (hn : n < 256) (h : UInt8.ofNat m = UInt8.ofNat n) :
    m = n := by
  have hval := congrArg UInt8.toNat h
  rw [UInt8.toNat_ofNat', UInt8.toNat_ofNat'] at hval
  omega

theorem sextets_eq {s t : List Nat} (hs : ∀ n ∈ s, n < 64) (ht : ∀ n ∈ t, n < 64)
    (length : s.length = t.length) (decoded : decodeSextets s = decodeSextets t)
    (spare : spareSextets s = spareSextets t) : s = t := by
  induction s using decodeSextets.induct generalizing t with
  | case1 => exact (List.length_eq_zero_iff.mp length.symm).symm
  | case2 w =>
    obtain ⟨w', rfl⟩ := List.length_eq_one_iff.mp length.symm
    exact congrArg (fun n => [n]) spare
  | case3 w x =>
    obtain ⟨w', x', rfl⟩ := List.length_eq_two.mp length.symm
    simp only [List.forall_mem_cons] at hs ht
    simp only [decodeSextets, spareSextets, List.cons.injEq, and_true] at decoded spare
    have first := byte_inj (by omega) (by omega) decoded
    simp only [List.cons.injEq, and_true]
    omega
  | case4 w x y =>
    obtain ⟨w', x', y', rfl⟩ := List.length_eq_three.mp length.symm
    simp only [List.forall_mem_cons] at hs ht
    simp only [decodeSextets, spareSextets, List.cons.injEq, and_true] at decoded spare
    have first := byte_inj (by omega) (by omega) decoded.1
    have second := byte_inj (by omega) (by omega) decoded.2
    simp only [List.cons.injEq, and_true]
    omega
  | case5 w x y z rest ih =>
    match t, length with
    | w' :: x' :: y' :: z' :: rest', length =>
      simp only [List.forall_mem_cons] at hs ht
      simp only [decodeSextets, List.cons.injEq] at decoded
      obtain ⟨hfirst, hsecond, hthird, decoded⟩ := decoded
      have first := byte_inj (by omega) (by omega) hfirst
      have second := byte_inj (by omega) (by omega) hsecond
      have third := byte_inj (by omega) (by omega) hthird
      have hrest := ih hs.2.2.2.2 ht.2.2.2.2 (by simpa using length) decoded spare
      simp only [List.cons.injEq]
      exact ⟨by omega, by omega, by omega, by omega, hrest⟩

theorem sextet_of_mem {c : Char} (h : c ∈ alphabet) : sextet c = some (alphabet.idxOf c) := by
  have hall : (alphabet.all fun c => decide (sextet c = some (alphabet.idxOf c))) = true := by
    unfold sextet
    rw [alphabet_eq]
    rfl
  exact of_decide_eq_true (List.all_eq_true.mp hall c h)

theorem sextetChar_idxOf {c : Char} (h : c ∈ alphabet) : sextetChar (alphabet.idxOf c) = c := by
  unfold sextetChar
  rw [List.getD_eq_getElem?_getD, List.getElem?_eq_getElem (List.idxOf_lt_length_of_mem h),
    List.getElem_idxOf]
  rfl

theorem sextetsOf_eq {text : String} (h : ∀ c ∈ text.toList, c ∈ alphabet) :
    sextetsOf text = text.toList.map alphabet.idxOf := by
  unfold sextetsOf
  have hwhole : text.toList.takeWhile (· ≠ '=') = text.toList := by
    rw [List.takeWhile_eq_self_iff]
    intro c hc
    exact decide_eq_true (ne_padding_of_mem (h c hc))
  rw [hwhole, ← List.filterMap_eq_map]
  exact List.filterMap_congr fun c hc => sextet_of_mem (h c hc)

theorem decode_length {text : String} (h : ∀ c ∈ text.toList, c ∈ alphabet) :
    (decode text).length = text.toList.length * 3 / 4 := by
  change (decodeSextets (sextetsOf text)).length = _
  rw [decodeSextets_length, sextetsOf_eq h, List.length_map]

theorem text_eq_of_decode {a b : String} (ha : ∀ c ∈ a.toList, c ∈ alphabet)
    (hb : ∀ c ∈ b.toList, c ∈ alphabet) (length : a.toList.length = b.toList.length)
    (decoded : decode a = decode b) (spare : spareBits a = spareBits b) : a = b := by
  have bounded : ∀ text : String, (∀ c ∈ text.toList, c ∈ alphabet) →
      ∀ n ∈ sextetsOf text, n < 64 := by
    intro text htext n hn
    rw [sextetsOf_eq htext] at hn
    obtain ⟨c, hc, rfl⟩ := List.mem_map.mp hn
    have hindex := List.idxOf_lt_length_of_mem (htext c hc)
    rw [alphabet_eq] at hindex ⊢
    exact hindex
  have hsextets : sextetsOf a = sextetsOf b := by
    refine sextets_eq (bounded a ha) (bounded b hb) ?_ decoded spare
    rw [sextetsOf_eq ha, sextetsOf_eq hb, List.length_map, List.length_map, length]
  have back : ∀ text : String, (∀ c ∈ text.toList, c ∈ alphabet) →
      (sextetsOf text).map sextetChar = text.toList := by
    intro text htext
    rw [sextetsOf_eq htext, List.map_map]
    exact (List.map_congr_left fun c hc => sextetChar_idxOf (htext c hc)).trans (List.map_id _)
  rw [← String.toList_inj, ← back a ha, hsextets, back b hb]

end JbChat.Foundation.Base64Url
