/- source: src/production/chain/quorumReads.ts
   digest: A receipt read from several providers, compared by digest, parsed from the first. -/

import JbChat.Chain.ProviderAnswers
import JbChat.Delivery.QuotedText
import JbChat.Foundation.NearestDouble
import JbChat.Foundation.Traversal

set_option autoImplicit false

namespace JbChat.Chain.QuorumReads

open Foundation Foundation.HashTrace Foundation.NearestDouble Delivery.ValueObjects
open Delivery.PolicyHeadBody ProviderAnswers

inductive Request where
  | receipt (transactionHash : String)
  | finalizedBlock
  | block (number : Nat)

/-- A provider with the answers it gives. -/
structure Transport where
  providerId : String
  request : Request → Except Thrown Json

structure ProviderView where
  providerId : String
  receipt : Option Json
  finalizedNumber : Nat

structure QuorumReceiptLog where
  logIndex : Double
  address : String
  topics : List String
  data : String
deriving DecidableEq

structure ParsedReceipt where
  transactionIndex : Double
  receiptStatus : Double
  blockNumber : Nat
  blockHash : String
  logs : List QuorumReceiptLog
deriving DecidableEq

structure QuorumReceiptView extends ParsedReceipt where
  transactionHash : String
  lowestFinalizedNumber : Nat
  canonicalBlockHashAtHeight : String
  agreedProviderIds : List String
deriving DecidableEq

inductive QuorumReceiptResult where
  | ok (view : QuorumReceiptView)
  | notFound
  | aboveFinalized (candidateBlockNumber : Nat) (candidateBlockHash : String)
  | notCanonical (canonicalBlockHashAtHeight receiptBlockHash : String) (receiptBlockNumber : Nat)
  | disagreement
  | unavailable
deriving DecidableEq

section

structure LogIdentity where
  address : String
  data : String
  logIndex : String
  topics : List String

structure ReceiptIdentity where
  blockHash : String
  blockNumber : String
  status : String
  transactionIndex : String
  logs : List LogIdentity

variable (lowerCase : String → String)

def logIdentity (log : Json) : Except Thrown LogIdentity := do
  let address ← lowerProperty lowerCase log "address"
  let data ← lowerProperty lowerCase log "data"
  let logIndex ← lowerProperty lowerCase log "logIndex"
  let topics ← log.property "topics"
  let topics ← (entriesOf topics).mapM fun topic => lower lowerCase (some topic)
  .ok ⟨address, data, logIndex, topics⟩

/-- The part of a receipt that providers are compared by. -/
def receiptIdentity (receipt : Json) : Except Thrown ReceiptIdentity := do
  let logs ← receipt.property "logs"
  let blockHash ← lowerProperty lowerCase receipt "blockHash"
  let blockNumber ← lowerProperty lowerCase receipt "blockNumber"
  let status ← lowerProperty lowerCase receipt "status"
  let transactionIndex ← lowerProperty lowerCase receipt "transactionIndex"
  let logs ← (entriesOf logs).mapM (logIdentity lowerCase)
  .ok ⟨blockHash, blockNumber, status, transactionIndex, logs⟩

def arrayText (texts : List String) : String := "[" ++ String.intercalate "," texts ++ "]"

/-- `JSON.stringify` of a log, in the order its members are written. -/
def LogIdentity.json (log : LogIdentity) : String :=
  "\x7b\"address\":" ++ jsonText log.address ++ ",\"data\":" ++ jsonText log.data ++
    ",\"logIndex\":" ++ jsonText log.logIndex ++ ",\"topics\":" ++
    arrayText (log.topics.map jsonText) ++ "\x7d"

def ReceiptIdentity.json (identity : ReceiptIdentity) : String :=
  "\x7b\"blockHash\":" ++ jsonText identity.blockHash ++ ",\"blockNumber\":" ++
    jsonText identity.blockNumber ++ ",\"status\":" ++ jsonText identity.status ++
    ",\"transactionIndex\":" ++ jsonText identity.transactionIndex ++ ",\"logs\":" ++
    arrayText (identity.logs.map LogIdentity.json) ++ "\x7d"

/-- The digest of a receipt; the text `"null"` that stands for a missing one is `none`. -/
def receiptDigest (H : HashFunction) (receipt : Option Json) : Except Thrown (Option Bytes) :=
  match receipt with
  | none => .ok none
  | some receipt => do
    let identity ← receiptIdentity lowerCase receipt
    .ok (some (H.digest (utf8 identity.json)))

end

section

variable (lowerCase : String → String)

def parseLog (log : Json) : Except Thrown QuorumReceiptLog := do
  let topics ← log.property "topics"
  let logIndex ← log.property "logIndex"
  let logIndex ← hexQuantity lowerCase logIndex "log index"
  let address ← log.property "address"
  let address ← hexAddress lowerCase address
  let topics ← (entriesOf topics).mapM fun topic => hexHash lowerCase (some topic) "log topic"
  let data ← log.property "data"
  let data ← hexData lowerCase data
  .ok ⟨NearestDouble.ofNat logIndex, address, topics, data⟩

/-- The fields of a receipt, whatever transaction it names. -/
def readReceipt (receipt : Json) : Except Thrown ParsedReceipt := do
  let logs ← receipt.property "logs"
  let logs ← (entriesOf logs).mapM (parseLog lowerCase)
  let transactionIndex ← receipt.property "transactionIndex"
  let transactionIndex ← hexQuantity lowerCase transactionIndex "transaction index"
  let status ← receipt.property "status"
  let status ← hexQuantity lowerCase status "receipt status"
  let blockNumber ← receipt.property "blockNumber"
  let blockNumber ← hexQuantity lowerCase blockNumber "receipt block number"
  let blockHash ← receipt.property "blockHash"
  let blockHash ← hexHash lowerCase blockHash "receipt block hash"
  .ok ⟨NearestDouble.ofNat transactionIndex, NearestDouble.ofNat status, blockNumber, blockHash,
    logs⟩

def parseReceipt (receipt : Json) (transactionHash : String) : Except Thrown ParsedReceipt := do
  let named ← lowerProperty lowerCase receipt "transactionHash"
  if named ≠ lowerCase transactionHash then
    .error (.malformed "Receipt names another transaction.")
  else readReceipt lowerCase receipt

end

section

variable (lowerCase : String → String)

/-- What a provider answers to the first two requests. -/
def providerView (transactionHash : String) (transport : Transport) :
    Except Thrown ProviderView := do
  let receipt ← transport.request (.receipt transactionHash)
  let finalized ← transport.request .finalizedBlock
  let record ← expectBlock finalized
  let number ← record.property "number"
  let finalizedNumber ← hexQuantity lowerCase number "finalized number"
  .ok ⟨transport.providerId, if receipt.isNull then none else some receipt, finalizedNumber⟩

def hashAtHeight (number : Nat) (transport : Transport) : Except Thrown String := do
  let answer ← transport.request (.block number)
  let block ← expectBlock answer
  let hash ← block.property "hash"
  hexHash lowerCase hash "block hash at height"

def lowerOf (lowest : Nat) (view : ProviderView) : Nat :=
  if view.finalizedNumber < lowest then view.finalizedNumber else lowest

def lowestFinalized (first : ProviderView) (views : List ProviderView) : Nat :=
  views.foldl lowerOf first.finalizedNumber

/-- A set of the values has one element. -/
def isUnanimous {α : Type} [DecidableEq α] (values : List α) : Bool :=
  decide (values.dedup.length = 1)

/-- Provider IDs are ASCII, on which `sort()` is the order of the texts. -/
def agreedProviderIds (views : List ProviderView) : List String :=
  (views.map fun view => view.providerId).insertionSort (· ≤ ·)

def settle (transports : List Transport) (transactionHash : String) (first : ProviderView)
    (views : List ProviderView) (parsed : ParsedReceipt) : QuorumReceiptResult :=
  let lowest := lowestFinalized first views
  if parsed.blockNumber > lowest then .aboveFinalized parsed.blockNumber parsed.blockHash
  else
    match transports.mapM (hashAtHeight lowerCase parsed.blockNumber) with
    | .error _ => .unavailable
    | .ok [] => .disagreement
    | .ok (canonical :: hashes) =>
      if isUnanimous (canonical :: hashes) = false then .disagreement
      else if canonical ≠ parsed.blockHash then
        .notCanonical canonical parsed.blockHash parsed.blockNumber
      else
        .ok { parsed with
          transactionHash := lowerCase transactionHash
          lowestFinalizedNumber := lowest
          canonicalBlockHashAtHeight := canonical
          agreedProviderIds := agreedProviderIds views }

/-- The conclusion from views that agree, of which the first is parsed. -/
def conclude (transports : List Transport) (transactionHash : String)
    (views : List ProviderView) : QuorumReceiptResult :=
  match views with
  | [] => .disagreement
  | first :: _ =>
    match first.receipt with
    | none => .notFound
    | some receipt =>
      match parseReceipt lowerCase receipt transactionHash with
      | .error _ => .unavailable
      | .ok parsed => settle lowerCase transports transactionHash first views parsed

/-- The digests are computed outside every `try`: what they throw rejects the call. -/
def readFinalizedReceipt (H : HashFunction) (transports : List Transport) (minimumQuorum : Int)
    (transactionHash : String) : Except Thrown QuorumReceiptResult :=
  if (transports.length : Int) < minimumQuorum then .ok .unavailable
  else
    match transports.mapM (providerView lowerCase transactionHash) with
    | .error _ => .ok .unavailable
    | .ok views => do
      let receiptDigests ← views.mapM fun view => receiptDigest lowerCase H view.receipt
      if isUnanimous receiptDigests = false then .ok .disagreement
      else .ok (conclude lowerCase transports transactionHash views)

end

end JbChat.Chain.QuorumReads
