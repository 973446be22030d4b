/- source: none
   digest: Authenticated encryption that opens what was sealed under the key, and nothing else. -/

import JbChat.Foundation.HashTrace

/-!
The ideal cipher remembers what was sealed. A ciphertext and a tag are opened when sealing one of
the remembered bodies gives exactly them, under the same nonce and associated data.
-/

set_option autoImplicit false

namespace JbChat.Foundation.IdealCipher

open HashTrace

structure Cipher where
  sealBody : Bytes → Bytes → Bytes → Bytes × Bytes
  length_ciphertext : ∀ nonce aad body, (sealBody nonce aad body).1.length = body.length
  length_tag : ∀ nonce aad body, (sealBody nonce aad body).2.length = 16
  injective : ∀ nonce aad body other, sealBody nonce aad body = sealBody nonce aad other →
    body = other

/-- What was sealed together. -/
structure Sealing where
  nonce : Bytes
  aad : Bytes
  body : Bytes

variable (cipher : Cipher)

def openSealed (sealings : List Sealing) (nonce aad ciphertext tag : Bytes) : Option Bytes :=
  (sealings.find? fun sealing => decide (sealing.nonce = nonce ∧ sealing.aad = aad ∧
    cipher.sealBody nonce aad sealing.body = (ciphertext, tag))).map Sealing.body

variable {cipher} {sealings : List Sealing} {nonce aad ciphertext tag body : Bytes}

theorem openSealed_eq_some : openSealed cipher sealings nonce aad ciphertext tag = some body ↔
    ⟨nonce, aad, body⟩ ∈ sealings ∧ cipher.sealBody nonce aad body = (ciphertext, tag) := by
  unfold openSealed
  constructor
  · intro h
    obtain ⟨sealing, hfind, rfl⟩ := Option.map_eq_some_iff.mp h
    have hfound := List.find?_some hfind
    obtain ⟨rfl, rfl, hsealed⟩ := of_decide_eq_true hfound
    exact ⟨List.mem_of_find?_eq_some hfind, hsealed⟩
  · rintro ⟨hmem, hsealed⟩
    cases hfind : sealings.find? fun sealing => decide (sealing.nonce = nonce ∧
        sealing.aad = aad ∧ cipher.sealBody nonce aad sealing.body = (ciphertext, tag)) with
    | none =>
      have hnone := List.find?_eq_none.mp hfind _ hmem
      exact absurd (decide_eq_true ⟨rfl, rfl, hsealed⟩) hnone
    | some sealing =>
      have hfound := List.find?_some hfind
      obtain ⟨-, -, hother⟩ := of_decide_eq_true hfound
      exact congrArg some (cipher.injective nonce aad _ _ (hother.trans hsealed.symm))

end JbChat.Foundation.IdealCipher
