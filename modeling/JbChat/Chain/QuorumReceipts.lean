/- source: src/production/chain/quorumReads.ts
   digest: What a finalized receipt says of every provider, and when its reading depends on one. -/

import JbChat.Chain.ReceiptIdentity
import JbChat.Delivery.QuotaConservation

set_option autoImplicit false

namespace JbChat.Chain.QuorumReceipts

open Foundation Foundation.Traversal Foundation.NearestDouble Foundation.HashTrace
open Foundation.Transaction Delivery.ValueObjects Delivery.QuotaConservation Authority.ValueObjects
open ProviderAnswers QuorumReads ReceiptIdentity

section

variable (lowerCase : String → String) {view : ProviderView} {receipt : Json}

structure Answered (transactionHash : String) (transport : Transport) (receipt : Json)
    (finalizedNumber : Nat) : Prop where
  receipt : transport.request (.receipt transactionHash) = .ok receipt
  finalized : ∃ members text, transport.request .finalizedBlock = .ok (.object members) ∧
    lowerProperty lowerCase (.object members) "number" = .ok text ∧ isHexQuantity text = true ∧
    finalizedNumber = quantityOf text

/-- The provider has a block of the hash at the height. -/
structure HasBlock (number : Nat) (hash : String) (transport : Transport) : Prop where
  block : ∃ members, transport.request (.block number) = .ok (.object members) ∧
    lowerProperty lowerCase (.object members) "hash" = .ok hash
  canonical : isCanonicalHex 64 hash = true

def comparedInput (transactionHash : String) (transport : Transport) : Option Bytes :=
  match transport.request (.receipt transactionHash) with
  | .error _ => none
  | .ok receipt =>
    match receiptIdentity lowerCase receipt with
    | .error _ => none
    | .ok identity => some (utf8 identity.json)

def comparedInputs (transactionHash : String) (transports : List Transport) : List Bytes :=
  transports.filterMap (comparedInput lowerCase transactionHash)

variable {lowerCase} {transactionHash : String} {transport : Transport}

theorem expectBlock_eq_ok {value block : Json} : expectBlock value = .ok block ↔
    ∃ members, value = .object members ∧ block = value := by
  unfold expectBlock
  cases value <;> simp [eq_comm]

theorem providerView_eq_ok :
    providerView lowerCase transactionHash transport = .ok view ↔
      ∃ receipt, Answered lowerCase transactionHash transport receipt view.finalizedNumber ∧
        view = ⟨transport.providerId, if receipt.isNull then none else some receipt,
          view.finalizedNumber⟩ := by
  unfold providerView hexQuantity
  simp only [bind_ok, expectBlock_eq_ok, readQuantity_eq_ok]
  constructor
  · rintro ⟨receipt, hreceipt, finalized, hfinalized, record, ⟨members, rfl, rfl⟩, number, hnumber,
      quantity, ⟨text, htext, hpattern, rfl⟩, h⟩
    cases h
    exact ⟨receipt, ⟨hreceipt, members, text, hfinalized,
      bind_ok.mpr ⟨number, hnumber, htext⟩, hpattern, rfl⟩, rfl⟩
  · rintro ⟨receipt, ⟨hreceipt, members, text, hfinalized, hnumber, hpattern, hquantity⟩, hview⟩
    obtain ⟨number, hproperty, htext⟩ := bind_ok.mp hnumber
    refine ⟨receipt, hreceipt, .object members, hfinalized, .object members, ⟨members, rfl, rfl⟩,
      number, hproperty, view.finalizedNumber, ⟨text, htext, hpattern, hquantity⟩, ?_⟩
    rw [← hview]

theorem answered_of_receipt (hview : providerView lowerCase transactionHash transport = .ok view)
    (hreceipt : view.receipt = some receipt) :
    Answered lowerCase transactionHash transport receipt view.finalizedNumber ∧
      receipt.isNull = false := by
  obtain ⟨answer, answered, hsame⟩ := providerView_eq_ok.mp hview
  rw [hsame] at hreceipt
  change (if answer.isNull = true then none else some answer) = some receipt at hreceipt
  split_ifs at hreceipt with hnull
  cases hreceipt
  exact ⟨answered, Bool.eq_false_iff.mpr hnull⟩

theorem hashAtHeight_eq_ok {number : Nat} {hash : String} :
    hashAtHeight lowerCase number transport = .ok hash ↔
      HasBlock lowerCase number hash transport := by
  unfold hashAtHeight hexHash readHash
  simp only [bind_ok, expectBlock_eq_ok, readPattern_eq_ok]
  constructor
  · rintro ⟨answer, hanswer, block, ⟨members, rfl, rfl⟩, value, hvalue, text, htext, hpattern, rfl⟩
    exact ⟨⟨members, hanswer, bind_ok.mpr ⟨value, hvalue, htext⟩⟩, hpattern⟩
  · rintro ⟨⟨members, hanswer, hhash⟩, hpattern⟩
    obtain ⟨value, hvalue, htext⟩ := bind_ok.mp hhash
    exact ⟨_, hanswer, _, ⟨members, rfl, rfl⟩, value, hvalue, hash, htext, hpattern, rfl⟩

theorem receiptDigest_eq_ok {H : HashFunction} {digest : Option Bytes} :
    receiptDigest lowerCase H (some receipt) = .ok digest ↔
      ∃ identity, ReceiptTexts lowerCase receipt identity ∧
        digest = some (H.digest (utf8 identity.json)) := by
  unfold receiptDigest
  simp only [bind_ok, receiptIdentity_eq_ok]
  constructor
  · rintro ⟨identity, htexts, h⟩
    exact ⟨identity, htexts, (Except.ok.inj h).symm⟩
  · rintro ⟨identity, htexts, rfl⟩
    exact ⟨identity, htexts, rfl⟩

end

section

variable {α : Type} [DecidableEq α] {values others : List α}

theorem isUnanimous_iff :
    isUnanimous values = true ↔ values ≠ [] ∧ ∀ a ∈ values, ∀ b ∈ values, a = b := by
  unfold isUnanimous
  rw [decide_eq_true_eq]
  constructor
  · intro h
    obtain ⟨only, honly⟩ := List.length_eq_one_iff.mp h
    have hall : ∀ a ∈ values, a = only := by
      intro a ha
      rw [← List.mem_dedup, honly] at ha
      exact List.mem_singleton.mp ha
    refine ⟨?_, fun a ha b hb => (hall a ha).trans (hall b hb).symm⟩
    rintro rfl
    cases honly
  · rintro ⟨hne, hall⟩
    obtain ⟨first, rest, rfl⟩ := List.exists_cons_of_ne_nil hne
    have honly : (first :: rest).dedup.Perm [first] := by
      refine (List.perm_ext_iff_of_nodup (List.nodup_dedup _) (List.nodup_singleton _)).mpr ?_
      intro a
      rw [List.mem_dedup, List.mem_singleton]
      exact ⟨fun ha => hall a ha first List.mem_cons_self, fun ha => ha ▸ List.mem_cons_self⟩
    exact honly.length_eq

theorem isUnanimous_perm (perm : values.Perm others) :
    isUnanimous values = isUnanimous others := by
  unfold isUnanimous
  rw [perm.dedup.length_eq]

end

section

variable {lowerCase : String → String} {H : HashFunction} {transactionHash : String}
  {transports : List Transport} {minimumQuorum : Int} {views : List ProviderView}
  {first : ProviderView} {others : List ProviderView} {receipt : Json}

theorem foldl_lowerOf (views : List ProviderView) (lowest : Nat) :
    (views.foldl lowerOf lowest = lowest ∨
      ∃ view ∈ views, views.foldl lowerOf lowest = view.finalizedNumber) ∧
    views.foldl lowerOf lowest ≤ lowest ∧
    ∀ view ∈ views, views.foldl lowerOf lowest ≤ view.finalizedNumber := by
  induction views generalizing lowest with
  | nil => exact ⟨Or.inl rfl, Nat.le_refl _, fun _ h => absurd h List.not_mem_nil⟩
  | cons view views ih =>
    have step : lowerOf lowest view ≤ lowest ∧ lowerOf lowest view ≤ view.finalizedNumber ∧
        (lowerOf lowest view = lowest ∨ lowerOf lowest view = view.finalizedNumber) := by
      unfold lowerOf
      split_ifs <;> omega
    obtain ⟨hreached, hle, hall⟩ := ih (lowerOf lowest view)
    rw [List.foldl_cons]
    refine ⟨?_, hle.trans step.1, List.forall_mem_cons.mpr ⟨hle.trans step.2.1, hall⟩⟩
    rcases hreached with hstart | ⟨other, hother, hvalue⟩
    · rcases step.2.2 with hlowest | hview
      · exact Or.inl (hstart.trans hlowest)
      · exact Or.inr ⟨view, List.mem_cons_self, hstart.trans hview⟩
    · exact Or.inr ⟨other, List.mem_cons_of_mem _ hother, hvalue⟩

theorem lowestFinalized_spec (hfirst : first ∈ views) :
    (∃ view ∈ views, lowestFinalized first views = view.finalizedNumber) ∧
      ∀ view ∈ views, lowestFinalized first views ≤ view.finalizedNumber := by
  obtain ⟨hreached, -, hall⟩ := foldl_lowerOf views first.finalizedNumber
  refine ⟨?_, hall⟩
  rcases hreached with hstart | hview
  · exact ⟨first, hfirst, hstart⟩
  · exact hview

theorem lowestFinalized_perm {other : ProviderView} (perm : views.Perm others)
    (hfirst : first ∈ views) (hother : other ∈ others) :
    lowestFinalized first views = lowestFinalized other others := by
  obtain ⟨⟨view, hview, hlowest⟩, hall⟩ := lowestFinalized_spec hfirst
  obtain ⟨⟨view', hview', hlowest'⟩, hall'⟩ := lowestFinalized_spec hother
  refine le_antisymm ?_ ?_
  · rw [hlowest']
    exact hall view' (perm.mem_iff.mpr hview')
  · rw [hlowest]
    exact hall' view (perm.mem_iff.mp hview)

theorem agreedProviderIds_perm (perm : views.Perm others) :
    agreedProviderIds views = agreedProviderIds others := by
  have hleft := List.perm_insertionSort (· ≤ ·) (views.map fun view => view.providerId)
  have hright := List.perm_insertionSort (· ≤ ·) (others.map fun view => view.providerId)
  exact List.Perm.eq_of_pairwise (fun _ _ _ _ => le_antisymm) (List.pairwise_insertionSort _ _)
    (List.pairwise_insertionSort _ _) (hleft.trans ((perm.map _).trans hright.symm))

structure Agreed (lowerCase : String → String) (views : List ProviderView)
    (identity : ReceiptIdentity) : Prop where
  inhabited : views ≠ []
  texts : ∀ view ∈ views, ∃ receipt, view.receipt = some receipt ∧
    ReceiptTexts lowerCase receipt identity

theorem mem_comparedInputs
    (hviews : transports.mapM (providerView lowerCase transactionHash) = .ok views)
    {view : ProviderView} (hview : view ∈ views) {identity : ReceiptIdentity}
    (hreceipt : view.receipt = some receipt) (texts : ReceiptTexts lowerCase receipt identity) :
    utf8 identity.json ∈ comparedInputs lowerCase transactionHash transports := by
  obtain ⟨transport, htransport, hviewed⟩ := (mem_of_mapM hviews view).mp hview
  obtain ⟨answered, -⟩ := answered_of_receipt hviewed hreceipt
  refine List.mem_filterMap.mpr ⟨transport, htransport, ?_⟩
  unfold comparedInput
  rw [answered.receipt]
  dsimp only
  rw [receiptIdentity_eq_ok.mpr texts]

theorem agreed_of_unanimous
    (hviews : transports.mapM (providerView lowerCase transactionHash) = .ok views)
    {digests : List (Option Bytes)}
    (hdigests : (views.mapM fun view => receiptDigest lowerCase H view.receipt) = .ok digests)
    (unanimous : isUnanimous digests = true) (hfirst : first ∈ views)
    (hreceipt : first.receipt = some receipt)
    (safe : ¬ Collision H (comparedInputs lowerCase transactionHash transports)) :
    ∃ identity, Agreed lowerCase views identity ∧ ReceiptTexts lowerCase receipt identity := by
  have hsame := (isUnanimous_iff.mp unanimous).2
  obtain ⟨digest, hmem, hdigest⟩ := exists_of_mapM hdigests hfirst
  rw [hreceipt] at hdigest
  obtain ⟨identity, htexts, rfl⟩ := receiptDigest_eq_ok.mp hdigest
  refine ⟨identity, ⟨List.ne_nil_of_mem hfirst, ?_⟩, htexts⟩
  intro view hview
  obtain ⟨other, hother, hotherDigest⟩ := exists_of_mapM hdigests hview
  obtain rfl := hsame _ hmem other hother
  cases hread : view.receipt with
  | none =>
    rw [hread] at hotherDigest
    cases hotherDigest
  | some read =>
    rw [hread] at hotherDigest
    obtain ⟨otherIdentity, hotherTexts, hequal⟩ := receiptDigest_eq_ok.mp hotherDigest
    have hinput := input_eq_of_digest_eq safe (mem_comparedInputs hviews hfirst hreceipt htexts)
      (mem_comparedInputs hviews hview hread hotherTexts) (Option.some.inj hequal)
    obtain rfl := json_injective (utf8_injective hinput)
    exact ⟨read, rfl, hotherTexts⟩

theorem settle_eq_ok {parsed : ParsedReceipt} {view : QuorumReceiptView}
    (h : settle lowerCase transports transactionHash first views parsed = .ok view) :
    view.toParsedReceipt = parsed ∧ view.lowestFinalizedNumber = lowestFinalized first views ∧
      parsed.blockNumber ≤ lowestFinalized first views ∧
      ∀ transport ∈ transports, HasBlock lowerCase parsed.blockNumber parsed.blockHash
        transport := by
  unfold settle at h
  dsimp only at h
  split_ifs at h with habove
  split at h
  · cases h
  · cases h
  next canonical hashes hhashes =>
    split_ifs at h with hunanimous hcanonical
    obtain rfl := QuorumReceiptResult.ok.inj h
    rw [Bool.not_eq_false] at hunanimous
    rw [not_not] at hcanonical
    refine ⟨rfl, rfl, Nat.not_lt.mp habove, ?_⟩
    intro transport htransport
    obtain ⟨hash, hmem, hhash⟩ := exists_of_mapM hhashes htransport
    obtain rfl := (isUnanimous_iff.mp hunanimous).2 hash hmem canonical List.mem_cons_self
    rw [← hcanonical]
    exact hashAtHeight_eq_ok.mp hhash

end

section

variable (lowerCase : String → String) (convert : Nat → Double)

/-- The log that is returned is the one in the receipt, its index as a converted number. -/
structure LogSeen (log : Json) (seen : QuorumReceiptLog) : Prop where
  address : lowerProperty lowerCase log "address" = .ok seen.address
  data : lowerProperty lowerCase log "data" = .ok seen.data
  logIndex : ∃ text, lowerProperty lowerCase log "logIndex" = .ok text ∧
    isHexQuantity text = true ∧ seen.logIndex = convert (quantityOf text)
  topics : ∃ topics, log.property "topics" = .ok topics ∧
    List.Forall₂ (fun topic text => lower lowerCase (some topic) = .ok text) (entriesOf topics)
      seen.topics

structure ReceiptSeen (receipt : Json) (seen : ParsedReceipt) : Prop where
  blockHash : lowerProperty lowerCase receipt "blockHash" = .ok seen.blockHash
  blockNumber : ∃ text, lowerProperty lowerCase receipt "blockNumber" = .ok text ∧
    isHexQuantity text = true ∧ seen.blockNumber = quantityOf text
  status : ∃ text, lowerProperty lowerCase receipt "status" = .ok text ∧
    isHexQuantity text = true ∧ seen.receiptStatus = convert (quantityOf text)
  transactionIndex : ∃ text, lowerProperty lowerCase receipt "transactionIndex" = .ok text ∧
    isHexQuantity text = true ∧ seen.transactionIndex = convert (quantityOf text)
  logs : ∃ logs, receipt.property "logs" = .ok logs ∧
    List.Forall₂ (LogSeen lowerCase convert) (entriesOf logs) seen.logs

structure ProviderAgrees (transactionHash : String) (view : QuorumReceiptView)
    (transport : Transport) : Prop where
  receipt : ∃ receipt finalized,
    Answered lowerCase transactionHash transport receipt finalized ∧ receipt.isNull = false ∧
      ReceiptSeen lowerCase convert receipt view.toParsedReceipt ∧
      view.blockNumber ≤ finalized ∧ view.lowestFinalizedNumber ≤ finalized
  block : HasBlock lowerCase view.blockNumber view.blockHash transport

/-- A quorum of providers, all of them, agree with what is returned, and the lowest finalized
number is that of one of them. -/
structure Sound (transports : List Transport) (minimumQuorum : Int) (transactionHash : String)
    (view : QuorumReceiptView) : Prop where
  quorum : minimumQuorum ≤ transports.length
  agrees : ∀ transport ∈ transports,
    ProviderAgrees lowerCase convert transactionHash view transport
  lowest : ∃ transport ∈ transports, ∃ receipt,
    Answered lowerCase transactionHash transport receipt view.lowestFinalizedNumber

variable {lowerCase} {H : HashFunction} {transactionHash : String} {transports : List Transport}
  {minimumQuorum : Int} {views : List ProviderView}

theorem logSeen_of_texts {log : Json} {identity : LogIdentity} {seen : QuorumReceiptLog}
    (texts : LogTexts lowerCase log identity) (h : readLog identity = .ok seen) :
    LogSeen lowerCase NearestDouble.ofNat log seen := by
  obtain ⟨index, hindex, h1⟩ := bind_ok.mp h
  obtain ⟨address, haddress, h2⟩ := bind_ok.mp h1
  obtain ⟨topics, htopics, h3⟩ := bind_ok.mp h2
  obtain ⟨data, hdata, h4⟩ := bind_ok.mp h3
  obtain rfl := Except.ok.inj h4
  obtain ⟨hpattern, rfl⟩ := readQuantity_eq_ok.mp hindex
  obtain ⟨-, rfl⟩ := readPattern_eq_ok.mp haddress
  obtain ⟨-, rfl⟩ := readPattern_eq_ok.mp hdata
  obtain rfl := eq_of_mapM (fun _ _ hread => (readPattern_eq_ok.mp hread).2) htopics
  exact ⟨texts.address, texts.data, ⟨identity.logIndex, texts.logIndex, hpattern, by dsimp only⟩,
    texts.topics⟩

theorem receiptSeen_of_texts {receipt : Json} {identity : ReceiptIdentity} {parsed : ParsedReceipt}
    (texts : ReceiptTexts lowerCase receipt identity) (h : readIdentity identity = .ok parsed) :
    ReceiptSeen lowerCase NearestDouble.ofNat receipt parsed := by
  obtain ⟨logs, hlogs, h1⟩ := bind_ok.mp h
  obtain ⟨index, hindex, h2⟩ := bind_ok.mp h1
  obtain ⟨status, hstatus, h3⟩ := bind_ok.mp h2
  obtain ⟨number, hnumber, h4⟩ := bind_ok.mp h3
  obtain ⟨hash, hhash, h5⟩ := bind_ok.mp h4
  obtain rfl := Except.ok.inj h5
  obtain ⟨hindexPattern, rfl⟩ := readQuantity_eq_ok.mp hindex
  obtain ⟨hstatusPattern, rfl⟩ := readQuantity_eq_ok.mp hstatus
  obtain ⟨hnumberPattern, rfl⟩ := readQuantity_eq_ok.mp hnumber
  obtain ⟨-, rfl⟩ := readPattern_eq_ok.mp hhash
  obtain ⟨entries, hentries, hlogTexts⟩ := texts.logs
  have hseen : List.Forall₂ (LogSeen lowerCase NearestDouble.ofNat) (entriesOf entries) logs := by
    refine forall₂_trans ?_ hlogTexts (mapM_eq_ok.mp hlogs)
    intro log texts seen htexts hread
    exact logSeen_of_texts htexts hread
  exact ⟨texts.blockHash, ⟨identity.blockNumber, texts.blockNumber, hnumberPattern, by dsimp only⟩,
    ⟨identity.status, texts.status, hstatusPattern, by dsimp only⟩,
    ⟨identity.transactionIndex, texts.transactionIndex, hindexPattern, by dsimp only⟩,
    entries, hentries, hseen⟩

/-- The stages that a returned receipt has passed. -/
structure Passed (lowerCase : String → String) (H : HashFunction) (transports : List Transport)
    (minimumQuorum : Int) (transactionHash : String) (view : QuorumReceiptView)
    (first : ProviderView) (views : List ProviderView) (receipt : Json) : Prop where
  quorum : minimumQuorum ≤ transports.length
  viewed : transports.mapM (providerView lowerCase transactionHash) = .ok views
  head : views.head? = some first
  read : first.receipt = some receipt
  unanimous : ∃ digests, (views.mapM fun view => receiptDigest lowerCase H view.receipt) =
    .ok digests ∧ isUnanimous digests = true
  settled : ∃ parsed, readReceipt lowerCase receipt = .ok parsed ∧
    settle lowerCase transports transactionHash first views parsed = .ok view

theorem passed_of_ok {view : QuorumReceiptView}
    (h : readFinalizedReceipt lowerCase H transports minimumQuorum transactionHash =
      .ok (.ok view)) :
    ∃ first views receipt, Passed lowerCase H transports minimumQuorum transactionHash view first
      views receipt := by
  unfold readFinalizedReceipt at h
  split_ifs at h with hquorum
  · cases h
  split at h
  · cases h
  next views hviews =>
    obtain ⟨digests, hdigests, hconclude⟩ := bind_ok.mp h
    split_ifs at hconclude with hunanimous
    · cases hconclude
    rw [Bool.not_eq_false] at hunanimous
    replace hconclude := Except.ok.inj hconclude
    unfold conclude at hconclude
    cases views with
    | nil => cases hconclude
    | cons first rest =>
      dsimp only at hconclude
      split at hconclude
      · cases hconclude
      next receipt hreceipt =>
        split at hconclude
        · cases hconclude
        next parsed hparsed =>
          unfold parseReceipt at hparsed
          obtain ⟨named, -, hread⟩ := bind_ok.mp hparsed
          split_ifs at hread
          exact ⟨first, first :: rest, receipt, Int.not_lt.mp hquorum, hviews, rfl, hreceipt,
            ⟨digests, hdigests, hunanimous⟩, parsed, hread, hconclude⟩

/-- A receipt that is returned is backed by every provider, at least as many as are asked for,
its numbers as the nearest doubles of the quantities in it. -/
theorem returned_receipt_sound (H : HashFunction) (lowerCase : String → String)
    (transports : List Transport) (minimumQuorum : Int) (transactionHash : String)
    (view : QuorumReceiptView)
    (h : readFinalizedReceipt lowerCase H transports minimumQuorum transactionHash =
      .ok (.ok view)) :
    Sound lowerCase NearestDouble.ofNat transports minimumQuorum transactionHash view ∨
      Collision H (comparedInputs lowerCase transactionHash transports) := by
  by_cases safe : Collision H (comparedInputs lowerCase transactionHash transports)
  · exact Or.inr safe
  refine Or.inl ?_
  obtain ⟨first, views, receipt, passed⟩ := passed_of_ok h
  have hfirst : first ∈ views := List.mem_of_mem_head? passed.head
  obtain ⟨digests, hdigests, hunanimous⟩ := passed.unanimous
  obtain ⟨identity, agreed, htexts⟩ :=
    agreed_of_unanimous passed.viewed hdigests hunanimous hfirst passed.read safe
  obtain ⟨parsed, hparsed, hsettled⟩ := passed.settled
  rw [readReceipt_eq htexts] at hparsed
  obtain ⟨rfl, hlowest, hfinal, hblocks⟩ := settle_eq_ok hsettled
  obtain ⟨⟨lowestView, hmem, hreached⟩, hall⟩ := lowestFinalized_spec hfirst
  refine ⟨passed.quorum, ?_, ?_⟩
  · intro transport htransport
    obtain ⟨viewOf, hviewMem, hviewOf⟩ := exists_of_mapM passed.viewed htransport
    obtain ⟨answer, hanswer, hanswerTexts⟩ := agreed.texts viewOf hviewMem
    obtain ⟨answered, hnull⟩ := answered_of_receipt hviewOf hanswer
    have hbound := hall viewOf hviewMem
    refine ⟨⟨answer, viewOf.finalizedNumber, answered, hnull,
      receiptSeen_of_texts hanswerTexts hparsed, hfinal.trans hbound, ?_⟩,
      hblocks transport htransport⟩
    rw [hlowest]
    exact hbound
  · obtain ⟨transport, htransport, hviewOf⟩ := (mem_of_mapM passed.viewed lowestView).mp hmem
    obtain ⟨answer, answered, -⟩ := providerView_eq_ok.mp hviewOf
    refine ⟨transport, htransport, answer, ?_⟩
    rw [hlowest, hreached]
    exact answered

end

def sampleHash32 (digit : Char) : String := String.ofList ('0' :: 'x' :: List.replicate 64 digit)

def sampleReceipt (transactionHash blockNumber transactionIndex : String) (logs : Json) : Json :=
  .object [("transactionHash", .text transactionHash), ("blockHash", .text (sampleHash32 'b')),
    ("blockNumber", .text blockNumber), ("status", .text "0x1"),
    ("transactionIndex", .text transactionIndex), ("logs", logs)]

def sampleTransport (providerId : String) (receipt : Json) : Transport where
  providerId := providerId
  request
    | .receipt _ => .ok receipt
    | .finalizedBlock => .ok (.object [("number", .text "0x10")])
    | .block _ => .ok (.object [("hash", .text (sampleHash32 'b'))])

def sampleEmitter (digit : Char) : String := String.ofList ('0' :: 'x' :: List.replicate 40 digit)

def sampleLogs (emitter topic : String) : Json :=
  .array [.object [("logIndex", .text "0x2"), ("address", .text emitter),
    ("topics", .array [.text topic]), ("data", .text "0x")]]

def sampleTransports : List Transport :=
  [sampleTransport "beta" (sampleReceipt (sampleHash32 'a') "0xf" "0xa"
      (sampleLogs (sampleEmitter 'c') (sampleHash32 'D'))),
    sampleTransport "alpha" (sampleReceipt (sampleHash32 'A') "0xF" "0XA"
      (sampleLogs (sampleEmitter 'C') (sampleHash32 'd')))]

def sampleView : QuorumReceiptView where
  transactionIndex := .finite 10
  receiptStatus := .finite 1
  blockNumber := 15
  blockHash := sampleHash32 'b'
  logs := [⟨.finite 2, sampleEmitter 'c', [sampleHash32 'd'], "0x"⟩]
  transactionHash := sampleHash32 'a'
  lowestFinalizedNumber := 16
  canonicalBlockHashAtHeight := sampleHash32 'b'
  agreedProviderIds := ["alpha", "beta"]

theorem read_sampleTransports :
    readFinalizedReceipt toLowerCase sampleHash sampleTransports 2 (sampleHash32 'A') =
      .ok (.ok sampleView) := by
  decide +kernel

theorem returned_receipt_sound_sample :
    Sound toLowerCase NearestDouble.ofNat sampleTransports 2 (sampleHash32 'A') sampleView ∨
      Collision sampleHash (comparedInputs toLowerCase (sampleHash32 'A') sampleTransports) :=
  returned_receipt_sound sampleHash toLowerCase sampleTransports 2 (sampleHash32 'A') sampleView
    read_sampleTransports

/-- A provider whose receipt has the index `2 ^ 53 + 1`, which no double is. -/
def longIndex : Transport :=
  sampleTransport "alpha" (sampleReceipt (sampleHash32 'a') "0x10" "0x20000000000001" (.array []))

def longIndexView : QuorumReceiptView where
  transactionIndex := .finite (2 ^ 53)
  receiptStatus := .finite 1
  blockNumber := 16
  blockHash := sampleHash32 'b'
  logs := []
  transactionHash := sampleHash32 'a'
  lowestFinalizedNumber := 16
  canonicalBlockHashAtHeight := sampleHash32 'b'
  agreedProviderIds := ["alpha"]

theorem read_longIndex :
    readFinalizedReceipt toLowerCase sampleHash [longIndex] 1 (sampleHash32 'a') =
      .ok (.ok longIndexView) := by
  decide +kernel

/-- The index that is returned is another number than the one in the receipt. -/
theorem returned_index_rounded :
    readFinalizedReceipt toLowerCase sampleHash [longIndex] 1 (sampleHash32 'a') =
        .ok (.ok longIndexView) ∧
      ¬ (Sound toLowerCase .finite [longIndex] 1 (sampleHash32 'a') longIndexView ∨
        Collision sampleHash (comparedInputs toLowerCase (sampleHash32 'a') [longIndex])) := by
  refine ⟨read_longIndex, ?_⟩
  rintro (sound | ⟨a, ha, b, hb, hne, -⟩)
  · obtain ⟨receipt, finalized, answered, -, seen, -⟩ :=
      (sound.agrees longIndex List.mem_cons_self).receipt
    cases answered.receipt
    obtain ⟨text, htext, -, hindex⟩ := seen.transactionIndex
    have hlong : lowerProperty toLowerCase (sampleReceipt (sampleHash32 'a') "0x10"
        "0x20000000000001" (.array [])) "transactionIndex" = .ok "0x20000000000001" := rfl
    cases hlong.symm.trans htext
    exact absurd (Double.finite.inj hindex) (by decide)
  · have hone : comparedInputs toLowerCase (sampleHash32 'a') [longIndex] =
        [(comparedInput toLowerCase (sampleHash32 'a') longIndex).get rfl] := rfl
    rw [hone, List.mem_singleton] at ha hb
    exact hne (ha.trans hb.symm)

end JbChat.Chain.QuorumReceipts
