/- source: src/production/authority/finality.ts
   digest: The finality policy and the finalized blocks that it accepts. -/

import JbChat.Authority.Digests

set_option autoImplicit false

namespace JbChat.Authority.Finality

open ValueObjects Digests

/-- The fields of a policy that vary; the others are constants of the type. -/
structure FinalityPolicy where
  policyId : AuthorityId
  chainId : JuiceboxV6ChainId
  minimumProviderQuorum : Nat

structure FinalizedBlockAnchor where
  chainId : JuiceboxV6ChainId
  blockNumber : Uint256Decimal
  blockHash : Hash32
  finalizedAt : CanonicalInstant
  providerIds : List AuthorityId
deriving DecidableEq

/-- The identifiers of a list, up to the first that is refused. -/
def parseIds (label : String) : List JsonValue → Checked (List AuthorityId)
  | [] => .ok []
  | entry :: entries => do
    let id ← parseAuthorityId entry label
    let ids ← parseIds label entries
    .ok (id :: ids)

def parseProviderIds (value : JsonValue) : Checked (List AuthorityId) :=
  match value with
  | .array entries =>
    if entries.length < 1 ∨ 5 < entries.length then
      invalid "Finality provider IDs are invalid."
    else do
      let providerIds ← parseIds "provider ID" entries
      if ¬ providerIds.Nodup then invalid "Finality provider IDs must be unique."
      else if providerIds.insertionSort (fun a b => a.val ≤ b.val) ≠ providerIds then
        invalid "Finality provider IDs must be canonically sorted."
      else .ok providerIds
  | _ => invalid "Finality provider IDs are invalid."

def parseFinalizedBlockAnchor (value : JsonValue) (policy : FinalityPolicy)
    (now : CanonicalInstant) : Checked FinalizedBlockAnchor := do
  let record ← expectExactRecord value
    ["kind", "chainId", "blockNumber", "blockHash", "finalizedAt", "providerIds"]
    "finalized block anchor"
  if ¬ (property record "kind").isText "finalized-block.v1" then
    invalid "Finalized block anchor kind is unsupported."
  else do
    let chainId ← parseJuiceboxV6ChainId (property record "chainId") "chainId"
    if chainId ≠ policy.chainId then invalid "Finalized block anchor is on the wrong chain."
    else do
      let providerIds ← parseProviderIds (property record "providerIds")
      if providerIds.length < policy.minimumProviderQuorum then
        invalid "Finalized block anchor does not meet provider quorum."
      else do
        let finalizedAt ← parseCanonicalInstant (property record "finalizedAt") "finalizedAt"
        if instantMilliseconds now < instantMilliseconds finalizedAt then
          invalid "Finalized block anchor cannot be observed in the future."
        else do
          let blockNumber ← parseUint256Decimal (property record "blockNumber") "blockNumber"
          let blockHash ← parseHash32 (property record "blockHash") "blockHash"
          .ok ⟨chainId, blockNumber, blockHash, finalizedAt, providerIds⟩

def anchorJson (anchor : FinalizedBlockAnchor) : JsonValue :=
  .record [("kind", .text "finalized-block.v1"), ("chainId", .integer anchor.chainId.val),
    ("blockNumber", decimal anchor.blockNumber), ("blockHash", .text anchor.blockHash.val),
    ("finalizedAt", .text anchor.finalizedAt.val),
    ("providerIds", .array (anchor.providerIds.map fun id => .text id.val))]

@[simp] theorem isPlain_anchor (anchor : FinalizedBlockAnchor) :
    isPlain (anchorJson anchor) = true := by
  have hids := entriesPlain_map (fun id : AuthorityId => isPlain_text id.val) anchor.providerIds
  unfold anchorJson
  simp only [isPlain_record, membersPlain_cons, isPlain_text, isPlain_chainId, isPlain_decimal,
    isPlain_array, hids, membersPlain_nil, Bool.and_self]

theorem parseIds_texts (label : String) (ids : List AuthorityId) :
    parseIds label (ids.map fun id => .text id.val) = .ok ids := by
  induction ids with
  | nil => rfl
  | cons id ids ih =>
    rw [List.map_cons, parseIds, parseAuthorityId_text, checked_bind, ih]
    rfl

structure Anchored (policy : FinalityPolicy) (now : CanonicalInstant)
    (anchor : FinalizedBlockAnchor) : Prop where
  chain : anchor.chainId = policy.chainId
  few : 1 ≤ anchor.providerIds.length ∧ anchor.providerIds.length ≤ 5
  distinct : anchor.providerIds.Nodup
  sorted : anchor.providerIds.insertionSort (fun a b => a.val ≤ b.val) = anchor.providerIds
  quorum : policy.minimumProviderQuorum ≤ anchor.providerIds.length
  past : instantMilliseconds anchor.finalizedAt ≤ instantMilliseconds now

theorem parseFinalizedBlockAnchor_anchorJson {policy : FinalityPolicy} {now : CanonicalInstant}
    {anchor : FinalizedBlockAnchor} (anchored : Anchored policy now anchor) :
    parseFinalizedBlockAnchor (anchorJson anchor) policy now = .ok anchor := by
  have hproviders : parseProviderIds (.array (anchor.providerIds.map fun id => .text id.val)) =
      .ok anchor.providerIds := by
    unfold parseProviderIds
    dsimp only
    rw [if_neg (by rw [List.length_map]; have := anchored.few; omega), parseIds_texts,
      checked_bind, if_neg (not_not.mpr anchored.distinct), if_neg (not_not.mpr anchored.sorted)]
  unfold parseFinalizedBlockAnchor anchorJson
  rw [expectExactRecord_of_keys]
  · simp only [property_cons_self, property_cons_ne, ne_eq, String.reduceEq, not_false_eq_true,
      isText_text, decide_true, not_true_eq_false, ↓reduceIte, checked_bind,
      parseJuiceboxV6ChainId_integer, anchored.chain, hproviders, Nat.not_lt.mpr anchored.quorum,
      parseCanonicalInstant_text, Int.not_lt.mpr anchored.past, parseUint256Decimal_decimal,
      parseHash32_text]
    rw [← anchored.chain]
  · rfl
  · simp [JsonValue.isUndefined, decimal]

end JbChat.Authority.Finality
