/- source: src/production/storage/membershipIntentStore.ts, externalProposalStore.ts,
     membershipCommitStore.ts, postgresDeliveryStore.ts
   digest: Where the writers of one log put applications among its proposals and Commits. -/

import JbChat.Store.AppendEffects
import JbChat.Store.MembershipSafety

set_option autoImplicit false

namespace JbChat.Store.LogOrder

open Foundation.HashTrace Delivery.Snapshot Delivery.SnapshotParse Delivery.SnapshotDigest Documents
open Tables Provisioning AppendStore AppendEffects MembershipSafety

section

variable (H : HashFunction) (keys : AuthorityDerivations) (checks : DocumentChecks)

/-- A transaction that may write to the log of a conversation. -/
inductive LogCall where
  | membership (call : MembershipCall)
  | append (call : AppendCall)

def LogCall.run (db : DeliveryDb) : LogCall → DeliveryDb
  | .membership call => call.run H keys db
  | .append call => (call.run H checks db).2

def runLog (calls : List LogCall) (db : DeliveryDb) : DeliveryDb :=
  calls.foldl (LogCall.run H keys checks) db

def LogCall.compares (db : DeliveryDb) : LogCall → List Bytes
  | .append (.finalize clock input invocation) =>
    match admitFinalization H checks clock input invocation db with
    | .ok (.inr admitted) => [lockedSnapshotDigestInput admitted.authority.snapshot,
        lockedSnapshotDigestInput admitted.pending.persistedSnapshot]
    | _ => []
  | _ => []

end

section

variable {H : HashFunction} {checks : DocumentChecks} {db final : DeliveryDb}

theorem snapshot_of_fence {clock : CallClock} {input : FinalizeApplicationAppendInput}
    {admitted : FinalizeAdmission} (finalizable : Finalizable H clock input db admitted)
    (safe : ¬ Collision H [lockedSnapshotDigestInput admitted.authority.snapshot,
      lockedSnapshotDigestInput admitted.pending.persistedSnapshot]) :
    admitted.authority.snapshot = admitted.pending.persistedSnapshot := by
  have inPlace := inPlace_of_parsed finalizable.pending
  obtain ⟨value, hvalue⟩ := finalizable.authority.parsed
  obtain ⟨original, horiginal⟩ := inPlace.persisted
  have digest_of : ∀ {value snapshot : LockedApplicationAppendSnapshot} {digest : Bytes},
      parseLockedApplicationAppendSnapshot H value = .ok snapshot →
      computeLockedApplicationAppendSnapshotDigest H snapshot = .ok digest →
        H.digest (lockedSnapshotDigestInput snapshot) = digest := by
    intro value snapshot digest hparsed hdigest
    obtain ⟨again, hagain, hsame⟩ := computeSnapshotDigest_eq_ok.mp hdigest
    rw [parseSnapshot_idem hparsed] at hagain
    rw [Except.ok.inj hagain, hsame]
  have hdigests : H.digest (lockedSnapshotDigestInput admitted.authority.snapshot) =
      H.digest (lockedSnapshotDigestInput admitted.pending.persistedSnapshot) := by
    rw [digest_of hvalue finalizable.authority.digest, digest_of horiginal inPlace.persistedDigest,
      finalizable.digest]
  have hinput := input_eq_of_digest_eq safe List.mem_cons_self
    (List.mem_cons_of_mem _ List.mem_cons_self) hdigests
  exact digestInput_injective hvalue horiginal hinput

end

end JbChat.Store.LogOrder
