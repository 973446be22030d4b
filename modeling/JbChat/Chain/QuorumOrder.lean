/- source: src/production/chain/quorumReads.ts
   digest: The reading of a receipt under permutations of the providers. -/

import JbChat.Chain.QuorumRejections

set_option autoImplicit false

namespace JbChat.Chain.QuorumOrder

open Foundation.Traversal Foundation.HashTrace Delivery.ValueObjects Delivery.QuotaConservation
open Authority.ValueObjects
open ProviderAnswers QuorumReads ReceiptIdentity QuorumReceipts QuorumRejections

section

variable (lowerCase : String → String) (transactionHash : String)

def Reports (identity : ReceiptIdentity) (transport : Transport) : Prop :=
  ∃ receipt finalizedNumber, Answered lowerCase transactionHash transport receipt finalizedNumber ∧
    receipt.isNull = false ∧ ReceiptTexts lowerCase receipt identity

def NamesIt (receipt : Json) : Prop :=
  lowerProperty lowerCase receipt "transactionHash" = .ok (lowerCase transactionHash)

def Names (transport : Transport) : Prop :=
  ∃ receipt, transport.request (.receipt transactionHash) = .ok receipt ∧
    NamesIt lowerCase transactionHash receipt

/-- A provider has not finalized the block yet, or all of them have a block of its height. -/
def Settles (transports : List Transport) (blockNumber : Nat) : Prop :=
  (∃ transport ∈ transports, ∃ receipt finalizedNumber,
    Answered lowerCase transactionHash transport receipt finalizedNumber ∧
      finalizedNumber < blockNumber) ∨
  ∀ transport ∈ transports, ∃ hash, HasBlock lowerCase blockNumber hash transport

/-- Enough providers report one readable receipt that some of them, and not all, give for the
transaction that is asked for. -/
structure OrderMatters (transports : List Transport) (minimumQuorum : Int) : Prop where
  quorum : minimumQuorum ≤ transports.length
  report : ∃ identity parsed,
    (∀ transport ∈ transports, Reports lowerCase transactionHash identity transport) ∧
      readIdentity identity = .ok parsed ∧
      Settles lowerCase transactionHash transports parsed.blockNumber
  named : ∃ transport ∈ transports, Names lowerCase transactionHash transport
  other : ∃ transport ∈ transports, ¬ Names lowerCase transactionHash transport

variable {lowerCase} {transactionHash} {transports others : List Transport} {minimumQuorum : Int}

theorem Settles.perm {blockNumber : Nat} (perm : transports.Perm others)
    (settles : Settles lowerCase transactionHash transports blockNumber) :
    Settles lowerCase transactionHash others blockNumber := by
  rcases settles with ⟨transport, htransport, h⟩ | hall
  · exact Or.inl ⟨transport, perm.mem_iff.mp htransport, h⟩
  · exact Or.inr fun transport htransport => hall transport (perm.mem_iff.mpr htransport)

theorem OrderMatters.perm (perm : transports.Perm others)
    (matters : OrderMatters lowerCase transactionHash transports minimumQuorum) :
    OrderMatters lowerCase transactionHash others minimumQuorum := by
  obtain ⟨identity, parsed, reports, hparsed, settles⟩ := matters.report
  obtain ⟨named, hnamed, hnames⟩ := matters.named
  obtain ⟨other, hother, hanother⟩ := matters.other
  refine ⟨perm.length_eq ▸ matters.quorum, ⟨identity, parsed, ?_, hparsed, settles.perm perm⟩,
    ⟨named, perm.mem_iff.mp hnamed, hnames⟩, ⟨other, perm.mem_iff.mp hother, hanother⟩⟩
  exact fun transport htransport => reports transport (perm.mem_iff.mpr htransport)

end

section

variable {lowerCase : String → String} {H : HashFunction} {transactionHash : String}
  {transports others : List Transport} {views permuted : List ProviderView}
  {first other : ProviderView} {parsed : ParsedReceipt}

theorem settle_perm (perm : transports.Perm others) (viewsPerm : views.Perm permuted)
    (hfirst : first ∈ views) (hother : other ∈ permuted) :
    settle lowerCase others transactionHash other permuted parsed =
      settle lowerCase transports transactionHash first views parsed := by
  unfold settle
  rw [← lowestFinalized_perm viewsPerm hfirst hother, ← agreedProviderIds_perm viewsPerm]
  dsimp only
  split_ifs
  · rfl
  cases hhashes : transports.mapM (hashAtHeight lowerCase parsed.blockNumber) with
  | error e =>
    cases hothers : others.mapM (hashAtHeight lowerCase parsed.blockNumber) with
    | error e' => rfl
    | ok hashes =>
      obtain ⟨back, hback, -⟩ := mapM_perm perm.symm hothers
      rw [hhashes] at hback
      cases hback
  | ok hashes =>
    obtain ⟨hashes', hothers, hashesPerm⟩ := mapM_perm perm hhashes
    rw [hothers]
    cases hashes with
    | nil =>
      rw [List.nil_perm.mp hashesPerm]
    | cons canonical hashes =>
      cases hashes' with
      | nil => exact absurd hashesPerm.symm (List.not_perm_nil_cons _ _)
      | cons canonical' hashes' =>
        dsimp only
        rw [← isUnanimous_perm hashesPerm]
        by_cases hunanimous : isUnanimous (canonical :: hashes) = false
        · rw [if_pos hunanimous, if_pos hunanimous]
        · have hsame : canonical' = canonical :=
            (isUnanimous_iff.mp (Bool.not_eq_false _ ▸ hunanimous)).2 _
              (hashesPerm.mem_iff.mpr List.mem_cons_self) _ List.mem_cons_self
          rw [if_neg hunanimous, if_neg hunanimous, hsame]

theorem settle_ne_unavailable :
    settle lowerCase transports transactionHash first views parsed ≠ .unavailable ↔
      lowestFinalized first views < parsed.blockNumber ∨
        ∀ transport ∈ transports, ∃ hash, HasBlock lowerCase parsed.blockNumber hash transport := by
  have answered : (∀ transport ∈ transports, ∃ hash,
      HasBlock lowerCase parsed.blockNumber hash transport) ↔
      ∃ hashes, transports.mapM (hashAtHeight lowerCase parsed.blockNumber) = .ok hashes := by
    simp only [exists_mapM, hashAtHeight_eq_ok]
  rw [answered]
  unfold settle
  dsimp only
  split_ifs with habove
  · exact ⟨fun _ => Or.inl habove, fun _ h => by cases h⟩
  cases hhashes : transports.mapM (hashAtHeight lowerCase parsed.blockNumber) with
  | error e =>
    refine ⟨fun h => absurd rfl h, ?_⟩
    rintro (h | ⟨hashes, h⟩)
    · exact absurd h habove
    · cases h
  | ok hashes =>
    refine ⟨fun _ => Or.inr ⟨hashes, rfl⟩, fun _ => ?_⟩
    cases hashes with
    | nil => exact fun h => by cases h
    | cons canonical hashes =>
      dsimp only
      split_ifs <;> exact fun h => by cases h

theorem lowest_lt_iff
    (hviews : transports.mapM (providerView lowerCase transactionHash) = .ok views)
    (hfirst : first ∈ views) {blockNumber : Nat} :
    lowestFinalized first views < blockNumber ↔
      ∃ transport ∈ transports, ∃ receipt finalizedNumber,
        Answered lowerCase transactionHash transport receipt finalizedNumber ∧
          finalizedNumber < blockNumber := by
  obtain ⟨⟨lowest, hlowest, hreached⟩, hall⟩ := lowestFinalized_spec hfirst
  constructor
  · intro h
    obtain ⟨transport, htransport, hview⟩ := (mem_of_mapM hviews lowest).mp hlowest
    obtain ⟨receipt, answered, -⟩ := providerView_eq_ok.mp hview
    exact ⟨transport, htransport, receipt, lowest.finalizedNumber, answered, hreached ▸ h⟩
  · rintro ⟨transport, htransport, receipt, finalizedNumber, answered, h⟩
    let view : ProviderView := ⟨transport.providerId,
      if receipt.isNull then none else some receipt, finalizedNumber⟩
    have hview : providerView lowerCase transactionHash transport = .ok view :=
      providerView_eq_ok.mpr ⟨receipt, answered, rfl⟩
    exact (hall view ((mem_of_mapM hviews view).mpr ⟨transport, htransport, hview⟩)).trans_lt h

theorem settles_iff
    (hviews : transports.mapM (providerView lowerCase transactionHash) = .ok views)
    (hfirst : first ∈ views) :
    settle lowerCase transports transactionHash first views parsed ≠ .unavailable ↔
      Settles lowerCase transactionHash transports parsed.blockNumber := by
  rw [settle_ne_unavailable, lowest_lt_iff hviews hfirst]
  rfl

end

section

variable {lowerCase : String → String} {H : HashFunction} {transactionHash : String}
  {transports others : List Transport} {minimumQuorum : Int} {views permuted : List ProviderView}
  {first other : ProviderView} {rest later : List ProviderView} {receipt : Json}
  {identity : ReceiptIdentity}

theorem conclude_other (hreceipt : first.receipt = some receipt)
    (another : ¬ NamesIt lowerCase transactionHash receipt) :
    conclude lowerCase transports transactionHash (first :: rest) = .unavailable := by
  have hparsed : ∃ e, parseReceipt lowerCase receipt transactionHash = .error e := by
    unfold NamesIt at another
    unfold parseReceipt
    cases hnamed : lowerProperty lowerCase receipt "transactionHash" with
    | error e => exact ⟨e, rfl⟩
    | ok named =>
      rw [hnamed] at another
      exact ⟨_, if_pos fun hsame => another (congrArg Except.ok hsame)⟩
  obtain ⟨e, hparsed⟩ := hparsed
  unfold conclude
  dsimp only
  rw [hreceipt]
  dsimp only
  rw [hparsed]

theorem conclude_named (hreceipt : first.receipt = some receipt)
    (names : NamesIt lowerCase transactionHash receipt)
    (texts : ReceiptTexts lowerCase receipt identity) :
    conclude lowerCase transports transactionHash (first :: rest) =
      match readIdentity identity with
      | .error _ => .unavailable
      | .ok parsed =>
        settle lowerCase transports transactionHash first (first :: rest) parsed := by
  have hparsed : parseReceipt lowerCase receipt transactionHash = readIdentity identity := by
    unfold parseReceipt
    rw [names]
    exact (if_neg (not_not.mpr rfl)).trans (readReceipt_eq texts)
  unfold conclude
  dsimp only
  rw [hreceipt]
  dsimp only
  exact hparsed ▸ rfl

theorem reports_of_agreed
    (hviews : transports.mapM (providerView lowerCase transactionHash) = .ok views)
    (agreed : Agreed lowerCase views identity) {transport : Transport}
    (htransport : transport ∈ transports) :
    Reports lowerCase transactionHash identity transport := by
  obtain ⟨view, hmem, hview⟩ := exists_of_mapM hviews htransport
  obtain ⟨receipt, hreceipt, texts⟩ := agreed.texts view hmem
  obtain ⟨answered, hnull⟩ := answered_of_receipt hview hreceipt
  exact ⟨receipt, view.finalizedNumber, answered, hnull, texts⟩

theorem conclude_mixed (quorum : minimumQuorum ≤ transports.length)
    (hviews : transports.mapM (providerView lowerCase transactionHash) = .ok (first :: rest))
    (agreed : Agreed lowerCase (first :: rest) identity)
    (hreceipt : first.receipt = some receipt)
    (hother : other ∈ first :: rest) {answer : Json} (hanswer : other.receipt = some answer)
    (another : ¬ NamesIt lowerCase transactionHash answer)
    (indifferent : ¬ OrderMatters lowerCase transactionHash transports minimumQuorum) :
    conclude lowerCase transports transactionHash (first :: rest) = .unavailable := by
  by_cases names : NamesIt lowerCase transactionHash receipt
  swap
  · exact conclude_other hreceipt names
  obtain ⟨found, hfound, texts⟩ := agreed.texts first List.mem_cons_self
  cases hreceipt.symm.trans hfound
  rw [conclude_named hreceipt names texts]
  cases hparsed : readIdentity identity with
  | error e => rfl
  | ok parsed =>
    by_contra hsettled
    refine indifferent ⟨quorum, ⟨identity, parsed, fun transport htransport =>
      reports_of_agreed hviews agreed htransport, hparsed,
      (settles_iff hviews List.mem_cons_self).mp hsettled⟩, ?_, ?_⟩
    · obtain ⟨transport, htransport, hview⟩ := (mem_of_mapM hviews first).mp List.mem_cons_self
      exact ⟨transport, htransport, receipt, (answered_of_receipt hview hreceipt).1.receipt,
        names⟩
    · obtain ⟨transport, htransport, hview⟩ := (mem_of_mapM hviews other).mp hother
      refine ⟨transport, htransport, ?_⟩
      rintro ⟨other', hother', names'⟩
      have hsame := (answered_of_receipt hview hanswer).1.receipt
      cases hother'.symm.trans hsame
      exact another names'

theorem agreed_perm (viewsPerm : views.Perm permuted) (agreed : Agreed lowerCase views identity) :
    Agreed lowerCase permuted identity := by
  refine ⟨fun hnil => agreed.inhabited ?_, fun view hview =>
    agreed.texts view (viewsPerm.mem_iff.mpr hview)⟩
  rw [hnil] at viewsPerm
  exact List.perm_nil.mp viewsPerm

theorem conclude_perm (perm : transports.Perm others)
    (viewsPerm : (first :: rest).Perm (other :: later)) (quorum : minimumQuorum ≤ transports.length)
    (hviews : transports.mapM (providerView lowerCase transactionHash) = .ok (first :: rest))
    (hothers : others.mapM (providerView lowerCase transactionHash) = .ok (other :: later))
    (agreed : Agreed lowerCase (first :: rest) identity)
    (indifferent : ¬ OrderMatters lowerCase transactionHash transports minimumQuorum) :
    conclude lowerCase others transactionHash (other :: later) =
      conclude lowerCase transports transactionHash (first :: rest) := by
  have hother : other ∈ first :: rest := viewsPerm.mem_iff.mpr List.mem_cons_self
  have hfirst : first ∈ other :: later := viewsPerm.mem_iff.mp List.mem_cons_self
  obtain ⟨receipt, hreceipt, texts⟩ := agreed.texts first List.mem_cons_self
  obtain ⟨answer, hanswer, answerTexts⟩ := agreed.texts other hother
  by_cases names : NamesIt lowerCase transactionHash receipt
  · by_cases names' : NamesIt lowerCase transactionHash answer
    · rw [conclude_named hreceipt names texts, conclude_named hanswer names' answerTexts]
      cases readIdentity identity with
      | error e => rfl
      | ok parsed => exact settle_perm perm viewsPerm List.mem_cons_self List.mem_cons_self
    · rw [conclude_other hanswer names',
        conclude_mixed quorum hviews agreed hreceipt hother hanswer names' indifferent]
  · rw [conclude_other hreceipt names]
    refine conclude_mixed (perm.length_eq ▸ quorum) hothers (agreed_perm viewsPerm agreed) hanswer
      hfirst hreceipt names fun matters => indifferent (matters.perm perm.symm)

theorem receipts_missing {digests : List (Option Bytes)}
    (hdigests : (views.mapM fun view => receiptDigest lowerCase H view.receipt) = .ok digests)
    (unanimous : isUnanimous digests = true) (hfirst : first ∈ views)
    (missing : first.receipt = none) (hother : other ∈ views) : other.receipt = none := by
  obtain ⟨digest, hmem, hdigest⟩ := exists_of_mapM hdigests hfirst
  obtain ⟨digest', hmem', hdigest'⟩ := exists_of_mapM hdigests hother
  obtain rfl := (isUnanimous_iff.mp unanimous).2 _ hmem _ hmem'
  rw [missing] at hdigest
  cases hdigest
  cases hreceipt : other.receipt with
  | none => rfl
  | some receipt =>
    rw [hreceipt] at hdigest'
    obtain ⟨identity, -, h⟩ := receiptDigest_eq_ok.mp hdigest'
    cases h

end

section

variable {lowerCase : String → String} {H : HashFunction} {transactionHash : String}
  {transports others : List Transport} {minimumQuorum : Int} {views permuted : List ProviderView}

theorem compare_perm (perm : transports.Perm others) (viewsPerm : views.Perm permuted)
    (quorum : minimumQuorum ≤ transports.length)
    (hviews : transports.mapM (providerView lowerCase transactionHash) = .ok views)
    (hothers : others.mapM (providerView lowerCase transactionHash) = .ok permuted)
    {digests : List (Option Bytes)}
    (hdigests : (views.mapM fun view => receiptDigest lowerCase H view.receipt) = .ok digests)
    (unanimous : isUnanimous digests = true)
    (indifferent : ¬ OrderMatters lowerCase transactionHash transports minimumQuorum)
    (safe : ¬ Collision H (comparedInputs lowerCase transactionHash transports)) :
    conclude lowerCase others transactionHash permuted =
      conclude lowerCase transports transactionHash views := by
  cases views with
  | nil =>
    rw [List.nil_perm.mp viewsPerm]
    rfl
  | cons first rest =>
    cases permuted with
    | nil => exact absurd viewsPerm.symm (List.not_perm_nil_cons _ _)
    | cons other later =>
      have hother : other ∈ first :: rest := viewsPerm.mem_iff.mpr List.mem_cons_self
      cases hreceipt : first.receipt with
      | none =>
        have hmissing := receipts_missing hdigests unanimous List.mem_cons_self hreceipt
          hother
        unfold conclude
        dsimp only
        rw [hreceipt, hmissing]
      | some receipt =>
        obtain ⟨identity, agreed, -⟩ := agreed_of_unanimous hviews hdigests unanimous
          List.mem_cons_self hreceipt safe
        exact conclude_perm perm viewsPerm quorum hviews hothers agreed indifferent

theorem read_perm (perm : transports.Perm others)
    (indifferent : ¬ OrderMatters lowerCase transactionHash transports minimumQuorum)
    (safe : ¬ Collision H (comparedInputs lowerCase transactionHash transports)) :
    readFinalizedReceipt lowerCase H others minimumQuorum transactionHash =
      readFinalizedReceipt lowerCase H transports minimumQuorum transactionHash := by
  unfold readFinalizedReceipt
  rw [← perm.length_eq]
  split_ifs with hquorum
  · rfl
  cases hviews : transports.mapM (providerView lowerCase transactionHash) with
  | error e =>
    cases hothers : others.mapM (providerView lowerCase transactionHash) with
    | error e' => rfl
    | ok views =>
      obtain ⟨back, hback, -⟩ := mapM_perm perm.symm hothers
      rw [hviews] at hback
      cases hback
  | ok views =>
    obtain ⟨permuted, hothers, viewsPerm⟩ := mapM_perm perm hviews
    rw [hothers]
    dsimp only
    cases hdigests : views.mapM fun view => receiptDigest lowerCase H view.receipt with
    | error e =>
      obtain rfl := decided_receiptDigests.eq_typeError hdigests
      cases hpermuted : permuted.mapM fun view => receiptDigest lowerCase H view.receipt with
      | error e' =>
        obtain rfl := decided_receiptDigests.eq_typeError hpermuted
        rfl
      | ok digests =>
        obtain ⟨back, hback, -⟩ := mapM_perm viewsPerm.symm hpermuted
        rw [hdigests] at hback
        cases hback
    | ok digests =>
      obtain ⟨digests', hpermuted, digestsPerm⟩ := mapM_perm viewsPerm hdigests
      rw [hpermuted]
      simp only [bind, Except.bind]
      rw [← isUnanimous_perm digestsPerm]
      split_ifs with hunanimous
      · rfl
      · rw [compare_perm perm viewsPerm (Int.not_lt.mp hquorum) hviews hothers hdigests
          (Bool.not_eq_false _ ▸ hunanimous) indifferent safe]

theorem read_of_reports {transport : Transport} {rest : List Transport} {identity : ReceiptIdentity}
    (H : HashFunction) (quorum : minimumQuorum ≤ (transport :: rest).length)
    (reports : ∀ other ∈ transport :: rest, Reports lowerCase transactionHash identity other) :
    ∃ first later receipt,
      (transport :: rest).mapM (providerView lowerCase transactionHash) = .ok (first :: later) ∧
      transport.request (.receipt transactionHash) = .ok receipt ∧
      first.receipt = some receipt ∧ ReceiptTexts lowerCase receipt identity ∧
      readFinalizedReceipt lowerCase H (transport :: rest) minimumQuorum transactionHash =
        .ok (conclude lowerCase (transport :: rest) transactionHash (first :: later)) := by
  have viewed : ∀ other ∈ transport :: rest, ∃ view : ProviderView,
      providerView lowerCase transactionHash other = .ok view ∧
        receiptDigest lowerCase H view.receipt = .ok (some (H.digest (utf8 identity.json))) := by
    intro other hother
    obtain ⟨receipt, finalizedNumber, answered, hnull, texts⟩ := reports other hother
    refine ⟨⟨other.providerId, some receipt, finalizedNumber⟩, providerView_eq_ok.mpr
      ⟨receipt, answered, ?_⟩, receiptDigest_eq_ok.mpr ⟨identity, texts, rfl⟩⟩
    rw [if_neg (Bool.eq_false_iff.mp hnull)]
  obtain ⟨views, hviews⟩ := exists_mapM.mpr fun other hother =>
    (viewed other hother).imp fun _ h => h.1
  have hviewed := mapM_eq_ok.mp hviews
  cases hviewed with
  | @cons _ first _ later hfirst hlater =>
    have digestsOf : ∀ view ∈ first :: later,
        receiptDigest lowerCase H view.receipt = .ok (some (H.digest (utf8 identity.json))) := by
      intro view hview
      obtain ⟨other, hother, hread⟩ := (mem_of_mapM hviews view).mp hview
      obtain ⟨view', hview', hdigest⟩ := viewed other hother
      cases hread.symm.trans hview'
      exact hdigest
    obtain ⟨digests, hdigests⟩ := exists_mapM.mpr fun view hview => ⟨_, digestsOf view hview⟩
    have hunanimous : isUnanimous digests = true := by
      have hall : ∀ digest ∈ digests, digest = some (H.digest (utf8 identity.json)) := by
        intro digest hdigest
        obtain ⟨view, hview, hread⟩ := (mem_of_mapM hdigests digest).mp hdigest
        exact Except.ok.inj (hread.symm.trans (digestsOf view hview))
      refine isUnanimous_iff.mpr ⟨?_, fun a ha b hb => (hall a ha).trans (hall b hb).symm⟩
      rintro rfl
      cases mapM_eq_ok.mp hdigests
    obtain ⟨receipt, finalizedNumber, answered, hnull, texts⟩ :=
      reports transport List.mem_cons_self
    obtain ⟨answer, answered', hview⟩ := providerView_eq_ok.mp hfirst
    cases answered.receipt.symm.trans answered'.receipt
    refine ⟨first, later, receipt, hviews, answered.receipt, ?_, texts, ?_⟩
    · rw [hview, if_neg (Bool.eq_false_iff.mp hnull)]
    · unfold readFinalizedReceipt
      rw [if_neg (Int.not_lt.mpr quorum), hviews]
      simp only [bind, Except.bind]
      rw [hdigests]
      dsimp only
      rw [hunanimous]
      rfl

/-- The reading gives one result for all permutations of the providers when the order does not
matter, and only then, unless two compared texts collide. -/
theorem reading_order_free_iff (H : HashFunction) (lowerCase : String → String)
    (transports : List Transport) (minimumQuorum : Int) (transactionHash : String) :
    ((∀ others, transports.Perm others →
        readFinalizedReceipt lowerCase H others minimumQuorum transactionHash =
          readFinalizedReceipt lowerCase H transports minimumQuorum transactionHash) ↔
      ¬ OrderMatters lowerCase transactionHash transports minimumQuorum) ∨
    Collision H (comparedInputs lowerCase transactionHash transports) := by
  by_cases safe : Collision H (comparedInputs lowerCase transactionHash transports)
  · exact Or.inr safe
  refine Or.inl ⟨?_, fun indifferent others perm => read_perm perm indifferent safe⟩
  intro same matters
  obtain ⟨named, hnamed, names⟩ := matters.named
  obtain ⟨other, hother, another⟩ := matters.other
  -- A provider is moved to the front.
  have toFront : ∀ transport ∈ transports, ∃ rest, transports.Perm (transport :: rest) := by
    intro transport htransport
    obtain ⟨front, back, rfl⟩ := List.append_of_mem htransport
    exact ⟨front ++ back, List.perm_middle⟩
  obtain ⟨namedRest, namedPerm⟩ := toFront named hnamed
  obtain ⟨otherRest, otherPerm⟩ := toFront other hother
  obtain ⟨identity, parsed, reports, hparsed, settles⟩ := matters.report
  have moved : ∀ {front : Transport} {rest : List Transport}, transports.Perm (front :: rest) →
      ∀ transport ∈ front :: rest, Reports lowerCase transactionHash identity transport :=
    fun perm transport htransport => reports transport (perm.mem_iff.mpr htransport)
  obtain ⟨first, later, receipt, hviews, hreceipt, hfirst, texts, hnamedRead⟩ :=
    read_of_reports H (namedPerm.length_eq ▸ matters.quorum) (moved namedPerm)
  obtain ⟨first', later', receipt', -, hreceipt', hfirst', -, hotherRead⟩ :=
    read_of_reports H (otherPerm.length_eq ▸ matters.quorum) (moved otherPerm)
  have namesIt : NamesIt lowerCase transactionHash receipt := by
    obtain ⟨answer, hanswer, h⟩ := names
    cases hanswer.symm.trans hreceipt
    exact h
  rw [conclude_named hfirst namesIt texts, hparsed] at hnamedRead
  rw [conclude_other hfirst' fun h => another ⟨receipt', hreceipt', h⟩] at hotherRead
  have hsettled : settle lowerCase (named :: namedRest) transactionHash first (first :: later)
      parsed ≠ .unavailable :=
    (settles_iff hviews List.mem_cons_self).mpr (settles.perm namedPerm)
  have hsame := (same _ namedPerm).trans (same _ otherPerm).symm
  rw [hnamedRead, hotherRead] at hsame
  exact hsettled (Except.ok.inj hsame)

def sampleNamed : Transport :=
  sampleTransport "alpha" (sampleReceipt (sampleHash32 'a') "0x11" "0x0" (.array []))

def sampleOther : Transport :=
  sampleTransport "beta" (sampleReceipt (sampleHash32 'c') "0x11" "0x0" (.array []))

/-- The result depends on which of the two comes first. -/
theorem reading_order_matters :
    readFinalizedReceipt toLowerCase sampleHash [sampleNamed, sampleOther] 2 (sampleHash32 'a') =
        .ok (.aboveFinalized 17 (sampleHash32 'b')) ∧
      readFinalizedReceipt toLowerCase sampleHash [sampleOther, sampleNamed] 2
        (sampleHash32 'a') = .ok .unavailable ∧
      [sampleNamed, sampleOther].Perm [sampleOther, sampleNamed] := by
  refine ⟨?_, ?_, List.Perm.swap _ _ _⟩
  · decide +kernel
  · decide +kernel

end

end JbChat.Chain.QuorumOrder
