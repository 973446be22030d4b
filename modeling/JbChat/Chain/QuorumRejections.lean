/- source: src/production/chain/quorumReads.ts
   digest: When the compared text of a receipt cannot be written, and the reading rejects. -/

import JbChat.Chain.QuorumReceipts

set_option autoImplicit false

namespace JbChat.Chain.QuorumRejections

open Foundation.Traversal Foundation.HashTrace Foundation.Transaction Delivery.QuotaConservation
open Authority.ValueObjects ProviderAnswers QuorumReads QuorumReceipts

mutual

/-- `String` makes a text of the value. -/
def isPrintable : Json → Bool
  | .array entries => arePrintable entries
  | .object members => !(members.any fun member => decide (member.1 = "toString"))
  | _ => true

def arePrintable : List Json → Bool
  | [] => true
  | entry :: entries => isPrintable entry && arePrintable entries

end

/-- The record is not `null`, and its member can be made a text. -/
def hasText (record : Json) (key : String) : Bool :=
  match record.property key with
  | .error _ => false
  | .ok none => true
  | .ok (some value) => isPrintable value

/-- The record is not `null`, and each entry of its member passes. -/
def hasEntries (record : Json) (key : String) (passes : Json → Bool) : Bool :=
  match record.property key with
  | .error _ => false
  | .ok value => (entriesOf value).all passes

def isReadableLog (log : Json) : Bool :=
  hasText log "address" && hasText log "data" && hasText log "logIndex" &&
    hasEntries log "topics" isPrintable

/-- The text that the receipt is compared by can be written. -/
def isReadableReceipt (receipt : Json) : Bool :=
  hasText receipt "blockHash" && hasText receipt "blockNumber" && hasText receipt "status" &&
    hasText receipt "transactionIndex" && hasEntries receipt "logs" isReadableLog

/-- Enough providers answer the first two requests, and a receipt of theirs is not readable. -/
structure Rejects (lowerCase : String → String) (transports : List Transport)
    (minimumQuorum : Int) (transactionHash : String) : Prop where
  quorum : minimumQuorum ≤ transports.length
  answered : ∀ transport ∈ transports, ∃ receipt finalizedNumber,
    Answered lowerCase transactionHash transport receipt finalizedNumber
  unreadable : ∃ transport ∈ transports, ∃ receipt,
    transport.request (.receipt transactionHash) = .ok receipt ∧ receipt.isNull = false ∧
      isReadableReceipt receipt = false

section

structure Decided {α : Type} (condition : Bool) (result : Except Thrown α) : Prop where
  returns : condition = true → ∃ value, result = .ok value
  throws : condition = false → result = .error .typeError

variable {α β : Type} {condition further : Bool} {result : Except Thrown α}

theorem Decided.ok (value : α) : Decided true (.ok value : Except Thrown α) :=
  ⟨fun _ => ⟨value, rfl⟩, fun h => (by cases h)⟩

theorem Decided.typeError : Decided false (.error .typeError : Except Thrown α) :=
  ⟨fun h => (by cases h), fun _ => rfl⟩

theorem Decided.iff (decided : Decided condition result) :
    (∃ value, result = .ok value) ↔ condition = true := by
  refine ⟨?_, decided.returns⟩
  rintro ⟨value, hvalue⟩
  by_contra hcondition
  have hthrown := decided.throws (Bool.eq_false_iff.mpr hcondition)
  rw [hvalue] at hthrown
  cases hthrown

theorem Decided.eq_typeError (decided : Decided condition result) {e : Thrown}
    (h : result = .error e) : e = .typeError := by
  cases condition with
  | false => exact Except.error.inj (h.symm.trans (decided.throws rfl))
  | true =>
    obtain ⟨value, hvalue⟩ := decided.returns rfl
    rw [hvalue] at h
    cases h

theorem Decided.bind {f : α → Except Thrown β} (first : Decided condition result)
    (second : ∀ value, result = .ok value → Decided further (f value)) :
    Decided (condition && further) (result >>= f) := by
  cases hresult : result with
  | error e =>
    obtain rfl := first.eq_typeError hresult
    have hfalse : condition = false := by
      by_contra htrue
      obtain ⟨value, hvalue⟩ := first.returns (Bool.not_eq_false _ ▸ htrue)
      rw [hresult] at hvalue
      cases hvalue
    rw [hfalse]
    exact Decided.typeError
  | ok value =>
    have htrue := first.iff.mp ⟨value, hresult⟩
    rw [htrue, Bool.true_and]
    exact second value hresult

theorem Decided.finish {f : α → β} (decided : Decided condition result) :
    Decided condition (result >>= fun value => .ok (f value)) := by
  rw [← Bool.and_true condition]
  exact decided.bind fun value _ => Decided.ok (f value)

theorem Decided.map {f : α → β} (decided : Decided condition result) :
    Decided condition (result.map f) := by
  refine ⟨fun h => ?_, fun h => ?_⟩
  · obtain ⟨value, hvalue⟩ := decided.returns h
    exact ⟨f value, by rw [hvalue]; rfl⟩
  · rw [decided.throws h]
    rfl

theorem Decided.mapM {rows : List β} {passes : β → Bool} {f : β → Except Thrown α}
    (each : ∀ row ∈ rows, Decided (passes row) (f row)) :
    Decided (rows.all passes) (rows.mapM f) := by
  induction rows with
  | nil => exact Decided.ok []
  | cons row rows ih =>
    rw [List.mapM_cons, List.all_cons]
    obtain ⟨hrow, hrows⟩ := List.forall_mem_cons.mp each
    refine hrow.bind fun value _ => ?_
    exact (ih hrows).finish

end

section

mutual

theorem decided_toText (value : Json) : Decided (isPrintable value) (toText value) := by
  cases value with
  | null | boolean | number | text => exact Decided.ok _
  | array entries =>
    unfold isPrintable toText
    exact (decided_entryTexts entries).finish
  | object members =>
    unfold isPrintable toText
    split_ifs with h
    · rw [h]
      exact Decided.typeError
    · rw [Bool.eq_false_iff.mpr h]
      exact Decided.ok _

theorem decided_entryTexts (entries : List Json) :
    Decided (arePrintable entries) (entryTexts entries) := by
  cases entries with
  | nil => exact Decided.ok []
  | cons entry entries =>
    have hentries := decided_entryTexts entries
    have hentry := decided_toText entry
    unfold arePrintable
    cases entry with
    | null =>
      unfold entryTexts
      exact hentries.finish
    | boolean | number | text | array | object =>
      unfold entryTexts
      exact hentry.bind fun text _ => hentries.finish

end

variable (lowerCase : String → String)

theorem decided_lower (value : Json) :
    Decided (isPrintable value) (lower lowerCase (some value)) :=
  (decided_toText value).map

theorem property_cases (record : Json) (key : String) :
    record.property key = .error .typeError ∨ ∃ value, record.property key = .ok value := by
  unfold Json.property
  cases record <;> simp

theorem decided_lowerProperty (record : Json) (key : String) :
    Decided (hasText record key) (lowerProperty lowerCase record key) := by
  unfold hasText lowerProperty
  obtain hproperty | ⟨value, hproperty⟩ := property_cases record key
  · rw [hproperty]
    exact Decided.typeError
  · rw [hproperty]
    cases value with
    | none => exact Decided.ok _
    | some value => exact decided_lower lowerCase value

theorem decided_entries {α β : Type} {record : Json} {key : String} {passes : Json → Bool}
    {f : Json → Except Thrown α} {finish : List α → β}
    (each : ∀ entry, Decided (passes entry) (f entry)) :
    Decided (hasEntries record key passes) (do
      let value ← record.property key
      let values ← (entriesOf value).mapM f
      .ok (finish values)) := by
  unfold hasEntries
  obtain hproperty | ⟨value, hproperty⟩ := property_cases record key
  · rw [hproperty]
    exact Decided.typeError
  · rw [hproperty]
    exact (Decided.mapM fun entry _ => each entry).finish

theorem decided_logIdentity (log : Json) :
    Decided (isReadableLog log) (logIdentity lowerCase log) := by
  unfold isReadableLog logIdentity
  rw [Bool.and_assoc, Bool.and_assoc]
  refine (decided_lowerProperty lowerCase log "address").bind fun address _ => ?_
  refine (decided_lowerProperty lowerCase log "data").bind fun data _ => ?_
  refine (decided_lowerProperty lowerCase log "logIndex").bind fun logIndex _ => ?_
  exact decided_entries (decided_lower lowerCase)

theorem decided_receiptIdentity (receipt : Json) :
    Decided (isReadableReceipt receipt) (receiptIdentity lowerCase receipt) := by
  unfold isReadableReceipt receiptIdentity
  obtain hproperty | ⟨logs, hproperty⟩ := property_cases receipt "logs"
  · have hentries : hasEntries receipt "logs" isReadableLog = false := by
      unfold hasEntries
      rw [hproperty]
    rw [hproperty, hentries, Bool.and_false]
    exact Decided.typeError
  · have hentries : hasEntries receipt "logs" isReadableLog =
        (entriesOf logs).all isReadableLog := by
      unfold hasEntries
      rw [hproperty]
    rw [hproperty, hentries, Bool.and_assoc, Bool.and_assoc, Bool.and_assoc]
    refine (decided_lowerProperty lowerCase receipt "blockHash").bind fun blockHash _ => ?_
    refine (decided_lowerProperty lowerCase receipt "blockNumber").bind fun blockNumber _ => ?_
    refine (decided_lowerProperty lowerCase receipt "status").bind fun status _ => ?_
    refine (decided_lowerProperty lowerCase receipt "transactionIndex").bind fun index _ => ?_
    exact (Decided.mapM fun log _ => decided_logIdentity lowerCase log).finish

theorem decided_receiptDigest (H : HashFunction) (receipt : Option Json) :
    Decided (receipt.all isReadableReceipt) (receiptDigest lowerCase H receipt) := by
  cases receipt with
  | none => exact Decided.ok _
  | some receipt => exact (decided_receiptIdentity lowerCase receipt).finish

end

section

variable {lowerCase : String → String} {H : HashFunction} {transactionHash : String}
  {transports : List Transport} {minimumQuorum : Int} {views : List ProviderView}

theorem decided_receiptDigests :
    Decided (views.all fun view => view.receipt.all isReadableReceipt)
      (views.mapM fun view => receiptDigest lowerCase H view.receipt) :=
  Decided.mapM fun view _ => decided_receiptDigest lowerCase H view.receipt

theorem viewed_iff : (∃ views, transports.mapM (providerView lowerCase transactionHash) =
    .ok views) ↔ ∀ transport ∈ transports, ∃ receipt finalizedNumber,
      Answered lowerCase transactionHash transport receipt finalizedNumber := by
  rw [exists_mapM]
  refine forall₂_congr fun transport _ => ?_
  constructor
  · rintro ⟨view, hview⟩
    obtain ⟨receipt, answered, -⟩ := providerView_eq_ok.mp hview
    exact ⟨receipt, view.finalizedNumber, answered⟩
  · rintro ⟨receipt, finalizedNumber, answered⟩
    let view : ProviderView := ⟨transport.providerId,
      if receipt.isNull then none else some receipt, finalizedNumber⟩
    exact ⟨view, providerView_eq_ok.mpr ⟨receipt, answered, rfl⟩⟩

theorem bind_resolves {α β : Type} {first : Except Thrown α} {next : α → Except Thrown β}
    (total : ∀ value, ∃ result, next value = .ok result) :
    (∃ result, (first >>= next) = .ok result) ↔ ∃ value, first = .ok value := by
  constructor
  · rintro ⟨result, h⟩
    obtain ⟨value, hvalue, -⟩ := bind_ok.mp h
    exact ⟨value, hvalue⟩
  · rintro ⟨value, rfl⟩
    exact total value

theorem all_readable_iff
    (hviews : transports.mapM (providerView lowerCase transactionHash) = .ok views) :
    (views.all fun view => view.receipt.all isReadableReceipt) = true ↔
      ∀ transport ∈ transports, ∀ receipt,
        transport.request (.receipt transactionHash) = .ok receipt → receipt.isNull = false →
          isReadableReceipt receipt = true := by
  rw [List.all_eq_true]
  constructor
  · intro readable transport htransport receipt hreceipt hnull
    obtain ⟨view, hmem, hview⟩ := exists_of_mapM hviews htransport
    have hread := readable view hmem
    obtain ⟨answer, answered, hsame⟩ := providerView_eq_ok.mp hview
    cases answered.receipt.symm.trans hreceipt
    rw [hsame, if_neg (Bool.eq_false_iff.mp hnull)] at hread
    exact hread
  · intro readable view hview
    obtain ⟨transport, htransport, hviewed⟩ := (mem_of_mapM hviews view).mp hview
    cases hreceipt : view.receipt with
    | none => rfl
    | some receipt =>
      obtain ⟨answered, hnull⟩ := answered_of_receipt hviewed hreceipt
      exact readable transport htransport receipt answered.receipt hnull

/-- The reading of a receipt resolves unless enough providers answer and a receipt of theirs is
not readable; then it is a type error. -/
theorem reading_resolves_iff (H : HashFunction) (lowerCase : String → String)
    (transports : List Transport) (minimumQuorum : Int) (transactionHash : String) :
    (∃ result, readFinalizedReceipt lowerCase H transports minimumQuorum transactionHash =
        .ok result) ↔
      ¬ Rejects lowerCase transports minimumQuorum transactionHash := by
  unfold readFinalizedReceipt
  split_ifs with hquorum
  · exact ⟨fun _ rejects => absurd rejects.quorum (Int.not_le.mpr hquorum), fun _ => ⟨_, rfl⟩⟩
  cases hviews : transports.mapM (providerView lowerCase transactionHash) with
  | error e =>
    refine ⟨fun _ rejects => ?_, fun _ => ⟨_, rfl⟩⟩
    obtain ⟨views, hviewed⟩ := viewed_iff.mpr rejects.answered
    rw [hviews] at hviewed
    cases hviewed
  | ok views =>
    have digests := (@decided_receiptDigests lowerCase H views).iff
    refine (bind_resolves fun digests => ?_).trans
      (digests.trans ((all_readable_iff hviews).trans ?_))
    · by_cases hunanimous : isUnanimous digests = false
      · exact ⟨.disagreement, if_pos hunanimous⟩
      · exact ⟨_, if_neg hunanimous⟩
    constructor
    · rintro readable ⟨-, -, transport, htransport, receipt, hreceipt, hnull, hunreadable⟩
      rw [readable transport htransport receipt hreceipt hnull] at hunreadable
      cases hunreadable
    · intro resolved transport htransport receipt hreceipt hnull
      by_contra hunreadable
      exact resolved ⟨Int.not_lt.mp hquorum, viewed_iff.mp ⟨views, hviews⟩, transport, htransport,
        receipt, hreceipt, hnull, Bool.eq_false_iff.mpr hunreadable⟩

/-- A log that is `null` is no text, and the reading rejects. -/
theorem null_log_rejects :
    readFinalizedReceipt toLowerCase sampleHash [sampleTransport "alpha"
      (sampleReceipt (sampleHash32 'a') "0x10" "0x0" (.array [.null]))] 1 (sampleHash32 'a') =
      .error .typeError :=
  rfl

end

end JbChat.Chain.QuorumRejections
