/- source: src/production/chain/quorumReads.ts
   digest: The compared text of a receipt determines its identity, and that what is parsed of it. -/

import JbChat.Chain.QuorumReads

set_option autoImplicit false

namespace JbChat.Chain.ReceiptIdentity

open Foundation Foundation.DelimitedText Foundation.Traversal Foundation.Transaction
open Delivery.PolicyHeadBody Delivery.QuotedText ProviderAnswers QuorumReads

/-- A comma and a closing bracket end an entry of an array. -/
def entryStop (c : Char) : Prop := c = ',' ∨ c = ']'

theorem arrayText_append_inj {α : Type} {write : α → String}
    (opens : ∀ x, ∃ first later, (write x).toList = first :: later ∧ ¬ entryStop first)
    (inj : ∀ x y rest rest', (write x).toList ++ rest = (write y).toList ++ rest' →
      x = y ∧ rest = rest') {xs ys : List α} {rest rest' : List Char}
    (h : (arrayText (xs.map write)).toList ++ rest =
      (arrayText (ys.map write)).toList ++ rest') :
    xs = ys ∧ rest = rest' := by
  have layout : ∀ (zs : List α) (after : List Char), (arrayText (zs.map write)).toList ++ after =
      '[' :: ([','].intercalate (zs.map fun z => (write z).toList) ++ ']' :: after) := by
    intro zs after
    unfold arrayText
    rw [String.toList_append, String.toList_append, String.toList_intercalate, List.map_map,
      List.append_assoc, List.append_assoc]
    rfl
  rw [layout, layout] at h
  have member : ∀ zs : List α, ∀ text ∈ zs.map (fun z => (write z).toList),
      text ∈ Set.range fun z => (write z).toList := by
    intro zs text htext
    obtain ⟨z, -, rfl⟩ := List.mem_map.mp htext
    exact ⟨z, rfl⟩
  have delimited : ∀ text ∈ xs.map (fun z => (write z).toList),
      text ∈ Set.range (fun z => (write z).toList) ∧
        Delimited entryStop (Set.range fun z => (write z).toList) text := by
    intro text htext
    obtain ⟨x, -, rfl⟩ := List.mem_map.mp htext
    refine ⟨⟨x, rfl⟩, ?_⟩
    rintro other ⟨y, rfl⟩ after after' - - hsame
    obtain ⟨rfl, hafter⟩ := inj x y after after' hsame
    exact ⟨rfl, hafter⟩
  have starts : Opens entryStop (Set.range fun z => (write z).toList) := by
    rintro text ⟨z, rfl⟩
    exact opens z
  obtain ⟨htexts, hrest⟩ := intercalate_inj starts (Or.inl rfl) (Or.inr rfl) (by decide) delimited
    (member ys) (List.cons.inj h).2
  refine ⟨?_, hrest⟩
  have injective : Function.Injective fun z => (write z).toList := by
    intro x y hsame
    exact (inj x y [] [] (by rw [List.append_nil, List.append_nil]; exact hsame)).1
  exact List.map_injective_iff.mpr injective htexts

theorem jsonText_opens (value : String) :
    ∃ first later, (jsonText value).toList = first :: later ∧ ¬ entryStop first := by
  unfold jsonText
  rw [String.toList_ofList]
  exact ⟨'"', _, rfl, by unfold entryStop; decide⟩

theorem logJson_append_inj {log other : LogIdentity} {rest rest' : List Char}
    (h : log.json.toList ++ rest = other.json.toList ++ rest') : log = other ∧ rest = rest' := by
  unfold LogIdentity.json at h
  simp only [String.toList_append, List.append_assoc] at h
  obtain ⟨haddress, h⟩ := jsonText_append_inj (List.append_cancel_left h)
  obtain ⟨hdata, h⟩ := jsonText_append_inj (List.append_cancel_left h)
  obtain ⟨hindex, h⟩ := jsonText_append_inj (List.append_cancel_left h)
  obtain ⟨htopics, h⟩ := arrayText_append_inj jsonText_opens (fun _ _ _ _ => jsonText_append_inj)
    (List.append_cancel_left h)
  refine ⟨?_, List.append_cancel_left h⟩
  change LogIdentity.mk log.address log.data log.logIndex log.topics =
    LogIdentity.mk other.address other.data other.logIndex other.topics
  rw [haddress, hdata, hindex, htopics]

theorem logJson_opens (log : LogIdentity) :
    ∃ first later, log.json.toList = first :: later ∧ ¬ entryStop first := by
  unfold LogIdentity.json
  simp only [String.toList_append, List.append_assoc]
  exact ⟨'\x7b', _, rfl, by unfold entryStop; decide⟩

theorem json_injective {identity other : ReceiptIdentity}
    (h : identity.json = other.json) : identity = other := by
  have h := congrArg String.toList h
  unfold ReceiptIdentity.json at h
  simp only [String.toList_append, List.append_assoc] at h
  obtain ⟨hhash, h⟩ := jsonText_append_inj (List.append_cancel_left h)
  obtain ⟨hnumber, h⟩ := jsonText_append_inj (List.append_cancel_left h)
  obtain ⟨hstatus, h⟩ := jsonText_append_inj (List.append_cancel_left h)
  obtain ⟨hindex, h⟩ := jsonText_append_inj (List.append_cancel_left h)
  obtain ⟨hlogs, -⟩ := arrayText_append_inj logJson_opens
    (fun _ _ _ _ => logJson_append_inj) (List.append_cancel_left h)
  change ReceiptIdentity.mk identity.blockHash identity.blockNumber identity.status
      identity.transactionIndex identity.logs =
    ReceiptIdentity.mk other.blockHash other.blockNumber other.status other.transactionIndex
      other.logs
  rw [hhash, hnumber, hstatus, hindex, hlogs]

section

def readLog (log : LogIdentity) : Except Thrown QuorumReceiptLog := do
  let logIndex ← readQuantity log.logIndex "log index"
  let address ← readAddress log.address
  let topics ← log.topics.mapM fun topic => readHash topic "log topic"
  let data ← readData log.data
  .ok ⟨NearestDouble.ofNat logIndex, address, topics, data⟩

def readIdentity (identity : ReceiptIdentity) : Except Thrown ParsedReceipt := do
  let logs ← identity.logs.mapM readLog
  let transactionIndex ← readQuantity identity.transactionIndex "transaction index"
  let status ← readQuantity identity.status "receipt status"
  let blockNumber ← readQuantity identity.blockNumber "receipt block number"
  let blockHash ← readHash identity.blockHash "receipt block hash"
  .ok ⟨NearestDouble.ofNat transactionIndex, NearestDouble.ofNat status, blockNumber, blockHash,
    logs⟩

variable {lowerCase : String → String}

/-- The texts that a log is compared by are read of its members. -/
structure LogTexts (lowerCase : String → String) (log : Json) (identity : LogIdentity) : Prop where
  address : lowerProperty lowerCase log "address" = .ok identity.address
  data : lowerProperty lowerCase log "data" = .ok identity.data
  logIndex : lowerProperty lowerCase log "logIndex" = .ok identity.logIndex
  topics : ∃ topics, log.property "topics" = .ok topics ∧
    List.Forall₂ (fun topic text => lower lowerCase (some topic) = .ok text) (entriesOf topics)
      identity.topics

/-- The texts that a receipt is compared by are read of its members. -/
structure ReceiptTexts (lowerCase : String → String) (receipt : Json)
    (identity : ReceiptIdentity) : Prop where
  blockHash : lowerProperty lowerCase receipt "blockHash" = .ok identity.blockHash
  blockNumber : lowerProperty lowerCase receipt "blockNumber" = .ok identity.blockNumber
  status : lowerProperty lowerCase receipt "status" = .ok identity.status
  transactionIndex : lowerProperty lowerCase receipt "transactionIndex" =
    .ok identity.transactionIndex
  logs : ∃ logs, receipt.property "logs" = .ok logs ∧
    List.Forall₂ (LogTexts lowerCase) (entriesOf logs) identity.logs

theorem logIdentity_eq_ok {log : Json} {identity : LogIdentity} :
    logIdentity lowerCase log = .ok identity ↔ LogTexts lowerCase log identity := by
  unfold logIdentity
  simp only [bind_ok, mapM_eq_ok]
  constructor
  · rintro ⟨address, haddress, data, hdata, logIndex, hindex, topics, htopics, texts, htexts, h⟩
    cases h
    exact ⟨haddress, hdata, hindex, topics, htopics, htexts⟩
  · rintro ⟨haddress, hdata, hindex, topics, htopics, htexts⟩
    exact ⟨_, haddress, _, hdata, _, hindex, _, htopics, _, htexts, rfl⟩

theorem receiptIdentity_eq_ok {receipt : Json} {identity : ReceiptIdentity} :
    receiptIdentity lowerCase receipt = .ok identity ↔
      ReceiptTexts lowerCase receipt identity := by
  unfold receiptIdentity
  simp only [bind_ok, mapM_eq_ok, logIdentity_eq_ok]
  constructor
  · rintro ⟨logs, hlogs, hash, hhash, number, hnumber, status, hstatus, index, hindex, texts,
      htexts, h⟩
    cases h
    exact ⟨hhash, hnumber, hstatus, hindex, logs, hlogs, htexts⟩
  · rintro ⟨hhash, hnumber, hstatus, hindex, logs, hlogs, htexts⟩
    exact ⟨_, hlogs, _, hhash, _, hnumber, _, hstatus, _, hindex, _, htexts, rfl⟩

theorem parseLog_eq {log : Json} {identity : LogIdentity}
    (texts : LogTexts lowerCase log identity) : parseLog lowerCase log = readLog identity := by
  obtain ⟨topics, htopics, htexts⟩ := texts.topics
  obtain ⟨index, hindex, hindexText⟩ := bind_ok.mp texts.logIndex
  obtain ⟨address, haddress, haddressText⟩ := bind_ok.mp texts.address
  obtain ⟨data, hdata, hdataText⟩ := bind_ok.mp texts.data
  have hhashes : ((entriesOf topics).mapM fun topic =>
      hexHash lowerCase (some topic) "log topic") =
        identity.topics.mapM fun topic => readHash topic "log topic" := by
    refine mapM_congr (htexts.imp fun topic text htext => ?_)
    unfold hexHash
    rw [htext]
    rfl
  unfold parseLog readLog
  rw [htopics, hindex, haddress, hdata]
  simp only [hexQuantity, hexAddress, hexData, hindexText, haddressText, hdataText, bind,
    Except.bind]
  rw [hhashes]

theorem readReceipt_eq {receipt : Json} {identity : ReceiptIdentity}
    (texts : ReceiptTexts lowerCase receipt identity) :
    readReceipt lowerCase receipt = readIdentity identity := by
  obtain ⟨logs, hlogs, htexts⟩ := texts.logs
  obtain ⟨index, hindex, hindexText⟩ := bind_ok.mp texts.transactionIndex
  obtain ⟨status, hstatus, hstatusText⟩ := bind_ok.mp texts.status
  obtain ⟨number, hnumber, hnumberText⟩ := bind_ok.mp texts.blockNumber
  obtain ⟨hash, hhash, hhashText⟩ := bind_ok.mp texts.blockHash
  have hparsed : (entriesOf logs).mapM (parseLog lowerCase) = identity.logs.mapM readLog :=
    mapM_congr (htexts.imp fun _ _ => parseLog_eq)
  unfold readReceipt readIdentity
  rw [hlogs, hindex, hstatus, hnumber, hhash]
  simp only [hexQuantity, hexHash, hindexText, hstatusText, hnumberText, hhashText, bind,
    Except.bind]
  rw [hparsed]

end

end JbChat.Chain.ReceiptIdentity
