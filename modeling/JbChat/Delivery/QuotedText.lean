/- source: none
   digest: A JSON text of a string is read back from a longer one. -/

import JbChat.Delivery.PolicyHeadBody
import JbChat.Foundation.DelimitedText

set_option autoImplicit false

namespace JbChat.Delivery.QuotedText

open Foundation.DelimitedText PolicyHeadBody

/-- The value of a hexadecimal digit in lower case. -/
def hexDigitValue (c : Char) : Nat :=
  if c.isDigit then c.toNat - 48 else c.toNat - 87

/-- The character that the escapes at the front of a text stand for. -/
def readEscape : List Char → Option Char
  | '\\' :: 'b' :: _ => some (Char.ofNat 8)
  | '\\' :: 't' :: _ => some (Char.ofNat 9)
  | '\\' :: 'n' :: _ => some (Char.ofNat 10)
  | '\\' :: 'f' :: _ => some (Char.ofNat 12)
  | '\\' :: 'r' :: _ => some (Char.ofNat 13)
  | '\\' :: 'u' :: '0' :: '0' :: high :: low :: _ =>
    some (Char.ofNat (16 * hexDigitValue high + hexDigitValue low))
  | '\\' :: c :: _ => some c
  | c :: _ => some c
  | [] => none

theorem hexDigitValue_hexDigit : ∀ n < 16, hexDigitValue (hexDigit n) = n := by decide

theorem readEscape_jsonEscape (c : Char) (rest : List Char) :
    readEscape (jsonEscape c ++ rest) = some c := by
  have hself : Char.ofNat c.toNat = c := Char.ofNat_toNat c
  unfold jsonEscape
  split_ifs with hquote hslash hb ht hn hf hr hcontrol
  · rw [hquote]
    rfl
  · rw [hslash]
    rfl
  · rw [← hself, hb]
    rfl
  · rw [← hself, ht]
    rfl
  · rw [← hself, hn]
    rfl
  · rw [← hself, hf]
    rfl
  · rw [← hself, hr]
    rfl
  · change some (Char.ofNat (16 * hexDigitValue (hexDigit (c.toNat / 16)) +
      hexDigitValue (hexDigit (c.toNat % 16)))) = _
    rw [hexDigitValue_hexDigit _ (by omega), hexDigitValue_hexDigit _ (by omega),
      Nat.div_add_mod, hself]
  · rw [List.singleton_append]
    unfold readEscape
    split <;> simp_all

theorem jsonEscape_starts (c : Char) :
    ∃ first later, jsonEscape c = first :: later ∧ first ≠ '"' := by
  unfold jsonEscape
  split_ifs with hquote
  all_goals refine ⟨_, _, rfl, ?_⟩
  all_goals first | decide | exact hquote

theorem jsonText_append_inj {value other : String} {rest rest' : List Char}
    (h : (jsonText value).toList ++ rest = (jsonText other).toList ++ rest') :
    value = other ∧ rest = rest' := by
  unfold jsonText at h
  rw [String.toList_ofList, String.toList_ofList, List.cons_append, List.cons_append,
    List.append_assoc, List.append_assoc] at h
  have unambiguous := unambiguous_of_read readEscape readEscape_jsonEscape
  obtain ⟨hchars, hrest⟩ := flatMap_inj unambiguous jsonEscape_starts (List.cons.inj h).2
  exact ⟨String.toList_inj.mp hchars, hrest⟩

end JbChat.Delivery.QuotedText
