/- source: src/production/relay/relayDrain.ts, src/production/storage/membershipCommitStore.ts
   digest: Relays join the group of their current window, as long as none is seated twice. -/

import JbChat.Relay.RelayForwarding
import JbChat.Relay.RelaySeats

set_option autoImplicit false

namespace JbChat.Relay.RelayReseating

open Foundation.HashTrace
open Delivery.EnvelopeLog Store.Tables Store.Provisioning Store.LogWriter Store.MembershipCommits
open RelayDrain RelayTrace RelayForwarding RelaySeats

section

/-- The delivery tables, the rows of the relays and what their passes have done outside. -/
structure World where
  delivery : DeliveryDb
  relays : RelayRun

/-- A write of the delivery tables by others: the boundary of a Commit, or one that leaves the
seats alone. A removed member is seated again only where `mayRejoin` has it. -/
inductive Moves (H : HashFunction) (mayRejoin : String × String → Prop)
    (db written : DeliveryDb) : Prop where
  | commit {before applied : DeliveryDb} {draft : EnvelopeDraft} {input : ConsumeCommitInput}
      {admitted : AdmittedCommit} {now : String} (welcomed : Welcomed input admitted)
      (conversation : draft.conversationId = admitted.intent.conversationId)
      (boundary : applyBoundary H draft input admitted now before = .ok applied)
      (starts : seatsOf before = seatsOf db) (ends : seatsOf written = seatsOf applied)
      (rejoins : admitted.target.isSome = true → Removed (seatsOf db) (targetKey admitted) →
        mayRejoin (targetKey admitted))
  | other (same : seatsOf written = seatsOf db)

/-- Every consumption of a Commit is such a write. -/
theorem consumeCommit_moves {H : HashFunction} {keys : AuthorityDerivations} (signer : LogSigner)
    (entropy : CommitEntropy) (input : ConsumeCommitInput) (db : DeliveryDb) :
    Moves H (fun _ => True) db (consumeCommit keys H signer entropy input db).2 := by
  rcases consumeCommit_seating keys signer entropy input db with hsame |
    ⟨before, draft, admitted, applied, welcomed, conversation, -, boundary, starts, ends⟩
  · exact .other hsame
  · exact .commit welcomed conversation boundary starts ends fun _ _ => trivial

def markedSeat (row : WatermarkRow) : String × String :=
  (row.conversationId, row.relayInstallationId)

def Marked (watermarks : List WatermarkRow) (key : String × String) : Prop :=
  ∃ row ∈ watermarks, markedSeat row = key

/-- A relay with a watermark is not seated again. -/
def MayRejoin (restricted : Prop) (w : World) (key : String × String) : Prop :=
  restricted → ¬ Marked w.relays.db.watermarks key

/-- While a pass runs, neither is its relay where it found a Welcome. -/
def MayRejoinDuring (restricted : Prop) (w : World) (relay : ActiveRelay)
    (key : String × String) : Prop :=
  restricted → ¬ Marked w.relays.db.watermarks key ∧
    (key.2 = relay.relayInstallationId →
      ∀ welcome ∈ w.delivery.admission.welcomes, welcomeKey welcome ≠ key)

structure Interleaved (H : HashFunction) (restricted : Prop) (w : World) (relay : ActiveRelay)
    (env : PassEnv) (after : DeliveryDb) : Prop where
  welcomes : env.welcomesView = w.delivery
  views : ∀ n, Relation.ReflTransGen (Moves H (MayRejoinDuring restricted w relay)) w.delivery
    (env.delivery n)
  after : Relation.ReflTransGen (Moves H (MayRejoinDuring restricted w relay)) w.delivery after

inductive Step (H : HashFunction) (restricted : Prop) (w : World) : World → Prop where
  | deliver {written : DeliveryDb}
      (moves : Moves H (MayRejoin restricted w) w.delivery written) :
      Step H restricted w { w with delivery := written }
  | relays (rows : List RelayRow) :
      Step H restricted w { w with
        relays := { w.relays with db := { w.relays.db with relays := rows } } }
  | drain {env : PassEnv} {relay : ActiveRelay} {after : DeliveryDb}
      (interleaved : Interleaved H restricted w relay env after) :
      Step H restricted w ⟨after, drainStep env relay w.relays⟩

variable {H : HashFunction} {mayRejoin : String × String → Prop} {db written : DeliveryDb}
  {key : String × String} {position : Nat}

theorem Moves.coherent (moves : Moves H mayRejoin db written) (coherent : Coherent (seatsOf db)) :
    Coherent (seatsOf written) := by
  cases moves with
  | commit welcomed conversation boundary starts ends rejoins =>
    rw [ends]
    exact Coherent.seating (by rwa [starts]) (applyBoundary_seating welcomed conversation boundary)
  | other same => rwa [same]

theorem Moves.joinedAt (moves : Moves H mayRejoin db written)
    (h : JoinedAt (seatsOf db) key position) (stays : ¬ mayRejoin key) :
    JoinedAt (seatsOf written) key position := by
  cases moves with
  | commit welcomed conversation boundary starts ends rejoins =>
    rw [ends]
    refine (applyBoundary_seating welcomed conversation boundary).joinedAt (by rwa [starts]) ?_
    intro added removed same
    rw [starts] at removed
    exact stays (same ▸ rejoins added removed)
  | other same => rwa [same]

theorem coherent_of_moves (moves : Relation.ReflTransGen (Moves H mayRejoin) db written)
    (coherent : Coherent (seatsOf db)) : Coherent (seatsOf written) := by
  induction moves with
  | refl => exact coherent
  | tail _ move ih => exact move.coherent ih

theorem joinedAt_of_moves (moves : Relation.ReflTransGen (Moves H mayRejoin) db written)
    (h : JoinedAt (seatsOf db) key position) (stays : ¬ mayRejoin key) :
    JoinedAt (seatsOf written) key position := by
  induction moves with
  | refl => exact h
  | tail _ move ih => exact move.joinedAt ih stays

end

section

variable {conversationId : String} {position : Nat}

/-- The position of the Welcome, where the event is a join of the seat. -/
def joinPosition (key : String × String) : String × RelayEvent → Option Nat
  | (relayId, .joined conversationId commitPosition _) =>
    if (conversationId, relayId) = key then some commitPosition else none
  | _ => none

def lastJoin (log : List (String × RelayEvent)) (key : String × String) : Option Nat :=
  (log.filterMap (joinPosition key)).getLast?

def tagged (relayId : String) (events : List RelayEvent) : List (String × RelayEvent) :=
  events.map fun event => (relayId, event)

/-- Every envelope is fed to the group that was joined last, with a Welcome that `current` has. -/
def FeedsCurrent (relayId : String) (current : String × String → Nat → Prop) :
    List (String × RelayEvent) → List RelayEvent → Prop
  | _, [] => True
  | log, event :: events =>
    (∀ conversationId groupId position, event = .fed conversationId groupId position →
      ∃ joined, lastJoin log (conversationId, relayId) = some joined ∧
        current (conversationId, relayId) joined) ∧
    FeedsCurrent relayId current (log ++ [(relayId, event)]) events

variable {relayId : String} {current : String × String → Nat → Prop} {key : String × String}
  {log more : List (String × RelayEvent)} {events fresh : List RelayEvent}

theorem lastJoin_append_of_silent (silent : ∀ entry ∈ more, joinPosition key entry = none) :
    lastJoin (log ++ more) key = lastJoin log key := by
  unfold lastJoin
  rw [List.filterMap_append, List.filterMap_eq_nil_iff.mpr silent, List.append_nil]

theorem lastJoin_append_joined {groupId : Bytes} :
    lastJoin (log ++ [(relayId, .joined conversationId position groupId)])
      (conversationId, relayId) = some position := by
  unfold lastJoin
  rw [List.filterMap_append]
  simp [joinPosition]

theorem mem_of_lastJoin (h : lastJoin log (conversationId, relayId) = some position) :
    ∃ groupId, (relayId, RelayEvent.joined conversationId position groupId) ∈ log := by
  obtain ⟨entry, hentry, hsome⟩ := List.mem_filterMap.mp (List.mem_of_getLast? h)
  rcases entry with ⟨id, event⟩
  cases event with
  | joined c p g =>
    simp only [joinPosition] at hsome
    split at hsome
    · rename_i same
      cases same
      cases hsome
      exact ⟨g, hentry⟩
    · cases hsome
  | fed c g p => cases hsome
  | sent k c p t a => cases hsome

theorem feedsCurrent_append (xs ys : List RelayEvent) :
    FeedsCurrent relayId current log (xs ++ ys) ↔ FeedsCurrent relayId current log xs ∧
      FeedsCurrent relayId current (log ++ tagged relayId xs) ys := by
  induction xs generalizing log with
  | nil => simp [FeedsCurrent, tagged]
  | cons event xs ih =>
    simp only [List.cons_append, FeedsCurrent, ih, tagged, List.map_cons, and_assoc,
      List.append_assoc, List.nil_append]

end

section

variable {relay : ActiveRelay} {pending : List WelcomeRow} {start rows : List WatermarkRow}
  {events fresh : List RelayEvent} {log : List (String × RelayEvent)} {seat : Seat}
  {current : String × String → Nat → Prop} {lower upper : Nat} {key : String × String}
  {row : WatermarkRow}

theorem folds_silent (folds : Folds seat lower upper fresh) :
    ∀ entry ∈ tagged relay.relayInstallationId fresh, joinPosition key entry = none := by
  intro entry hentry
  obtain ⟨event, hevent, rfl⟩ := List.mem_map.mp hentry
  obtain ⟨position, -, -, rfl | ⟨kind, text, accepted, rfl⟩⟩ := folds.within event hevent
  · rfl
  · rfl

theorem feedsCurrent_of_forms {joined : Nat}
    (forms : ∀ event ∈ fresh, ∃ position, FoldsEnvelope seat position event)
    (hjoined : lastJoin log (seat.mark.conversationId, relay.relayInstallationId) = some joined)
    (hcurrent : current (seat.mark.conversationId, relay.relayInstallationId) joined) :
    FeedsCurrent relay.relayInstallationId current log fresh := by
  induction fresh generalizing log with
  | nil => trivial
  | cons event fresh ih =>
    obtain ⟨position, hform⟩ := forms event List.mem_cons_self
    constructor
    · rintro conversationId groupId fedPosition rfl
      rcases hform with hfed | ⟨kind, text, accepted, hsent⟩
      · obtain ⟨rfl, -, -⟩ := RelayEvent.fed.inj hfed
        exact ⟨joined, hjoined, hcurrent⟩
      · cases hsent
    · refine ih (fun other hother => forms other (List.mem_cons_of_mem event hother)) ?_
      rw [lastJoin_append_of_silent, hjoined]
      intro entry hentry
      rw [List.mem_singleton.mp hentry]
      rcases hform with rfl | ⟨kind, text, accepted, rfl⟩
      · rfl
      · rfl

/-- The last join of every seat with a watermark is one that `current` has. -/
def Tracks (current : String × String → Nat → Prop) (log : List (String × RelayEvent))
    (rows : List WatermarkRow) : Prop :=
  ∀ row ∈ rows, ∃ joined, lastJoin log (markedSeat row) = some joined ∧
    current (markedSeat row) joined

theorem feedsCurrent_of_folds (tracks : Tracks current log rows) (isRow : seat.mark ∈ rows)
    (own : seat.mark.relayInstallationId = relay.relayInstallationId)
    (folds : Folds seat lower upper fresh) :
    FeedsCurrent relay.relayInstallationId current log fresh := by
  obtain ⟨joined, hjoined, hcurrent⟩ := tracks seat.mark isRow
  have hseat : markedSeat seat.mark =
      (seat.mark.conversationId, relay.relayInstallationId) := Prod.ext rfl own
  rw [hseat] at hjoined hcurrent
  refine feedsCurrent_of_forms (fun event hevent => ?_) hjoined hcurrent
  obtain ⟨position, -, -, hform⟩ := folds.within event hevent
  exact ⟨position, hform⟩

theorem key_of_markedSeat {conversationId : String}
    (same : markedSeat row = (conversationId, relay.relayInstallationId)) :
    row.key = (relay.relayInstallationId, conversationId) := by
  obtain ⟨hconversation, hrelay⟩ := Prod.mk.inj same
  exact Prod.ext hrelay hconversation

theorem tracks_of_progress (progress : Progress relay pending start events rows)
    (tracks : Tracks current log start)
    (welcomed : ∀ welcome ∈ pending,
      current (welcome.conversationId, relay.relayInstallationId) welcome.commitPosition) :
    Tracks current (log ++ tagged relay.relayInstallationId events) rows ∧
      FeedsCurrent relay.relayInstallationId current log events := by
  induction progress with
  | start =>
    refine ⟨?_, trivial⟩
    rwa [tagged, List.map_nil, List.append_nil]
  | @join before rows welcome groupId progress isPending free ih =>
    obtain ⟨htracks, hfeeds⟩ := ih
    rw [feedsCurrent_append]
    refine ⟨?_, hfeeds, ?_, trivial⟩
    · rw [tagged, List.map_append, ← List.append_assoc]
      intro row hrow
      rcases List.mem_append.mp hrow with hrow | hrow
      · obtain ⟨joined, hjoined, hcurrent⟩ := htracks row hrow
        refine ⟨joined, ?_, hcurrent⟩
        rw [lastJoin_append_of_silent]
        · exact hjoined
        · intro entry hentry
          rw [List.map_singleton] at hentry
          rw [List.mem_singleton.mp hentry]
          exact if_neg fun same => free row hrow (key_of_markedSeat same.symm)
      · rw [List.mem_singleton.mp hrow]
        exact ⟨welcome.commitPosition, lastJoin_append_joined, welcomed welcome isPending⟩
    · intro conversationId group position hfed
      cases hfed
  | @fold before fresh rows seat upper forwarded progress isRow own folds ih =>
    obtain ⟨htracks, hfeeds⟩ := ih
    rw [feedsCurrent_append]
    refine ⟨?_, hfeeds, ?_⟩
    · rw [tagged, List.map_append, ← List.append_assoc]
      intro row hrow
      obtain ⟨old, hold, hkey, -⟩ := mem_advanceMark hrow
      have hseat : markedSeat row = markedSeat old := by
        obtain ⟨hrelay, hconversation⟩ := Prod.mk.inj hkey
        exact Prod.ext hconversation.symm hrelay.symm
      obtain ⟨joined, hjoined, hcurrent⟩ := htracks old hold
      rw [hseat]
      exact ⟨joined, (lastJoin_append_of_silent (folds_silent folds)).trans hjoined, hcurrent⟩
    · exact feedsCurrent_of_folds htracks isRow own folds

theorem feedsCurrent_of_cut (cut : Cut relay pending start events)
    (tracks : Tracks current log start)
    (welcomed : ∀ welcome ∈ pending,
      current (welcome.conversationId, relay.relayInstallationId) welcome.commitPosition) :
    FeedsCurrent relay.relayInstallationId current log events := by
  obtain ⟨before, rows, rest, rfl, progress, remainder⟩ := cut
  obtain ⟨htracks, hfeeds⟩ := tracks_of_progress progress tracks welcomed
  rw [feedsCurrent_append]
  refine ⟨hfeeds, ?_⟩
  cases remainder with
  | nothing => trivial
  | join groupId isPending =>
    refine ⟨?_, trivial⟩
    intro conversationId group position hfed
    cases hfed
  | fold isRow own folds => exact feedsCurrent_of_folds htracks isRow own folds

theorem lastJoin_of_cut (cut : Cut relay pending start events)
    (free : ∀ welcome ∈ pending, FreeFor relay welcome.conversationId start) (hrow : row ∈ start) :
    lastJoin (log ++ tagged relay.relayInstallationId events) (markedSeat row) =
      lastJoin log (markedSeat row) := by
  have silentJoin : ∀ welcome ∈ pending, ∀ groupId, joinPosition (markedSeat row)
      (relay.relayInstallationId,
        .joined welcome.conversationId welcome.commitPosition groupId) = none := fun welcome hwelcome
      groupId => if_neg fun same => free welcome hwelcome row hrow (key_of_markedSeat same.symm)
  refine lastJoin_append_of_silent fun entry hentry => ?_
  obtain ⟨event, hevent, rfl⟩ := List.mem_map.mp hentry
  obtain ⟨before, rows, rest, rfl, progress, remainder⟩ := cut
  rcases List.mem_append.mp hevent with hbefore | hrest
  · clear hevent hentry remainder
    induction progress with
    | start => cases hbefore
    | join groupId progress isPending _ ih =>
      rcases List.mem_append.mp hbefore with hbefore | hlast
      · exact ih hbefore
      · rw [List.mem_singleton.mp hlast]
        exact silentJoin _ isPending groupId
    | fold progress isRow own folds ih =>
      rcases List.mem_append.mp hbefore with hbefore | hfresh
      · exact ih hbefore
      · exact folds_silent folds _ (List.mem_map_of_mem hfresh)
  · cases remainder with
    | nothing => cases hrest
    | join groupId isPending =>
      rw [List.mem_singleton.mp hrest]
      exact silentJoin _ isPending groupId
    | fold isRow own folds => exact folds_silent folds _ (List.mem_map_of_mem hrest)

end

section

variable {H : HashFunction} {w : World} {env : PassEnv} {relay : ActiveRelay} {after : DeliveryDb}
  {watermarks : List WatermarkRow} {db : DeliveryDb} {welcome : WelcomeRow} {w' : World}

/-- The relays are in the groups of their current windows. -/
structure Inv (w : World) : Prop where
  coherent : Coherent (seatsOf w.delivery)
  keyed : Keyed w.relays.db.watermarks
  tracks : Tracks (JoinedAt (seatsOf w.delivery)) w.relays.events w.relays.db.watermarks

/-- A pass meets one window at all of its statements and after it. -/
def Throughout (env : PassEnv) (after : DeliveryDb) (key : String × String) (position : Nat) :
    Prop :=
  (∀ n, JoinedAt (seatsOf (env.delivery n)) key position) ∧ JoinedAt (seatsOf after) key position

theorem throughout_of_stays (interleaved : Interleaved H True w relay env after)
    {key : String × String} {position : Nat} (h : JoinedAt (seatsOf w.delivery) key position)
    (stays : ¬ MayRejoinDuring True w relay key) : Throughout env after key position :=
  ⟨fun n => joinedAt_of_moves (interleaved.views n) h stays,
    joinedAt_of_moves interleaved.after h stays⟩

theorem Inv.tracks_throughout (inv : Inv w) (interleaved : Interleaved H True w relay env after) :
    Tracks (Throughout env after) w.relays.events w.relays.db.watermarks := by
  intro row hrow
  obtain ⟨joined, hjoined, hcurrent⟩ := inv.tracks row hrow
  exact ⟨joined, hjoined, throughout_of_stays interleaved hcurrent
    fun may => (may trivial).1 ⟨row, hrow, rfl⟩⟩

theorem mem_pendingWelcomes : welcome ∈ pendingWelcomes relay watermarks db ↔
      welcome ∈ db.admission.welcomes ∧
        welcome.targetInstallationId = relay.relayInstallationId ∧
        FreeFor relay welcome.conversationId watermarks := by
  unfold pendingWelcomes FreeFor
  rw [List.mem_insertionSort, List.mem_filter, Bool.and_eq_true, decide_eq_true_eq,
    List.all_eq_true]
  simp only [decide_eq_true_eq]

theorem Inv.welcomed_throughout (inv : Inv w) (interleaved : Interleaved H True w relay env after) :
    ∀ welcome ∈ pendingWelcomes relay w.relays.db.watermarks env.welcomesView,
      Throughout env after (welcome.conversationId, relay.relayInstallationId)
        welcome.commitPosition := by
  intro welcome hwelcome
  rw [interleaved.welcomes] at hwelcome
  obtain ⟨hmem, htarget, -⟩ := mem_pendingWelcomes.mp hwelcome
  have hkey : welcomeKey welcome = (welcome.conversationId, relay.relayInstallationId) :=
    Prod.ext rfl htarget
  rw [← hkey]
  refine throughout_of_stays interleaved (inv.coherent.welcomed welcome hmem) fun may => ?_
  exact (may trivial).2 htarget welcome hmem rfl

theorem Inv.feedsCurrent (inv : Inv w) (interleaved : Interleaved H True w relay env after) :
    FeedsCurrent relay.relayInstallationId (Throughout env after) w.relays.events
      (passOf env relay w.relays.db).2 := by
  have tracks := inv.tracks_throughout interleaved
  have welcomed := inv.welcomed_throughout interleaved
  rcases passOf_cases env relay inv.keyed with
    ⟨outcome, written, events, hpass, progress⟩ | ⟨events, hpass, cut⟩
  · rw [hpass]
    exact (tracks_of_progress progress tracks welcomed).2
  · rw [hpass]
    exact feedsCurrent_of_cut cut tracks welcomed

theorem Inv.step (inv : Inv w) (step : Step H True w w') : Inv w' := by
  cases step with
  | deliver moves =>
    refine ⟨moves.coherent inv.coherent, inv.keyed, fun row hrow => ?_⟩
    obtain ⟨joined, hjoined, hcurrent⟩ := inv.tracks row hrow
    exact ⟨joined, hjoined, moves.joinedAt hcurrent fun may => may trivial ⟨row, hrow, rfl⟩⟩
  | relays rows => exact ⟨inv.coherent, inv.keyed, inv.tracks⟩
  | @drain env relay after interleaved =>
    have coherent := coherent_of_moves interleaved.after inv.coherent
    have tracks := inv.tracks_throughout interleaved
    rcases passOf_cases env relay inv.keyed with
      ⟨outcome, written, events, hpass, progress⟩ | ⟨events, hpass, cut⟩
    · rw [drainStep_of_some hpass]
      refine ⟨coherent, progress.keyed inv.keyed, fun row hrow => ?_⟩
      obtain ⟨joined, hjoined, hcurrent⟩ :=
        (tracks_of_progress progress tracks (inv.welcomed_throughout interleaved)).1 row hrow
      exact ⟨joined, hjoined, hcurrent.2⟩
    · rw [drainStep_of_none hpass]
      refine ⟨coherent, inv.keyed, fun row hrow => ?_⟩
      obtain ⟨joined, hjoined, hcurrent⟩ := tracks row hrow
      refine ⟨joined, ?_, hcurrent.2⟩
      exact (lastJoin_of_cut cut
        (fun welcome hwelcome => (mem_pendingWelcomes.mp hwelcome).2.2) hrow).trans hjoined

theorem Inv.reaches (inv : Inv w) (reaches : Relation.ReflTransGen (Step H True) w w') :
    Inv w' := by
  induction reaches with
  | refl => exact inv
  | tail _ step ih => exact ih.step step

/-- No operation of the pass fails, and the bridge names its groups within the column's bounds. -/
structure FailureFree (env : PassEnv) : Prop where
  succeeds : ∀ n, env.fails n = false
  groupIds : ∀ n state welcome, 1 ≤ ((env.bridge n).joinWelcome state welcome).2.length ∧
    ((env.bridge n).joinWelcome state welcome).2.length ≤ 64

theorem pendingWelcomes_distinct
    (coherent : Coherent (seatsOf db)) : Distinct (pendingWelcomes relay watermarks db) := by
  have keys : (pendingWelcomes relay watermarks db).Pairwise
      fun a b => welcomeKey a ≠ welcomeKey b := by
    refine List.Pairwise.perm ?_ (List.perm_insertionSort _ _).symm fun hne => hne.symm
    exact (List.pairwise_map.mp coherent.single).filter _
  refine List.Pairwise.imp_of_mem (fun ha hb hne same => hne ?_) keys
  exact Prod.ext same ((mem_pendingWelcomes.mp ha).2.1.trans (mem_pendingWelcomes.mp hb).2.1.symm)

theorem insertWatermark_ne_none {groupId : Bytes} {rows : List WatermarkRow}
    (free : FreeFor relay welcome.conversationId rows)
    (bounds : 1 ≤ groupId.length ∧ groupId.length ≤ 64) :
    insertWatermark (joinedRow relay welcome groupId) rows ≠ none := by
  have absent : ¬ rows.any (fun other =>
      decide (other.key = (joinedRow relay welcome groupId).key)) = true := by
    intro hany
    obtain ⟨other, hother, same⟩ := List.any_eq_true.mp hany
    exact free other hother (of_decide_eq_true same)
  have bounded : (joinedRow relay welcome groupId).mlsGroupId.all
      (fun groupId => decide (1 ≤ groupId.length ∧ groupId.length ≤ 64)) = true :=
    decide_eq_true bounds
  unfold insertWatermark
  rw [if_pos bounded, insertUnique, if_neg absent]
  exact Option.some_ne_none _

theorem Inv.joins (inv : Inv w) (interleaved : Interleaved H True w relay env after)
    (failureFree : FailureFree env)
    (sealedState : lockedState relay.relayInstallationId w.relays.db ≠ none) :
    (passOf env relay w.relays.db).1 ≠ none ∧
      ∀ welcome ∈ w.delivery.admission.welcomes,
        welcome.targetInstallationId = relay.relayInstallationId →
        ∃ groupId, (relay.relayInstallationId,
          RelayEvent.joined welcome.conversationId welcome.commitPosition groupId) ∈
            (drainStep env relay w.relays).events := by
  have cutBy : CutBy env relay
      (pendingWelcomes relay w.relays.db.watermarks env.welcomesView) False := by
    constructor
    · intro n hfails
      rw [failureFree.succeeds n] at hfails
      cases hfails
    · intro n state rows welcome hwelcome free hrefused
      have distinct : Distinct (pendingWelcomes relay w.relays.db.watermarks env.welcomesView) := by
        rw [interleaved.welcomes]
        exact pendingWelcomes_distinct inv.coherent
      exact insertWatermark_ne_none (free distinct)
        (failureFree.groupIds n state welcome.welcomeBytes) hrefused
  obtain ⟨fresh, hevents, houtcome⟩ := drainOne_meets inv.keyed cutBy sealedState ⟨0, []⟩
  cases hresult : (drainOne env relay w.relays.db ⟨0, []⟩).1 with
  | none =>
    rw [hresult] at houtcome
    exact houtcome.1.elim
  | some result =>
    rw [hresult] at houtcome
    have hpass : passOf env relay w.relays.db = (some (result.1, result.2), fresh) :=
      Prod.ext hresult hevents
    refine ⟨by rw [hpass]; exact Option.some_ne_none _, fun welcome hwelcome htarget => ?_⟩
    rw [drainStep_of_some hpass]
    have hkey : welcomeKey welcome = (welcome.conversationId, relay.relayInstallationId) :=
      Prod.ext rfl htarget
    by_cases marked : Marked w.relays.db.watermarks (welcomeKey welcome)
    · -- The watermark is from the Welcome itself, as no other one was for this window.
      obtain ⟨row, hrow, hseat⟩ := marked
      obtain ⟨joined, hjoined, hcurrent⟩ := inv.tracks row hrow
      rw [hseat] at hjoined hcurrent
      obtain rfl := inv.coherent.joinedAt_unique hcurrent
        (inv.coherent.welcomed welcome hwelcome)
      rw [hkey] at hjoined
      obtain ⟨groupId, hmem⟩ := mem_of_lastJoin hjoined
      exact ⟨groupId, List.mem_append_left _ hmem⟩
    · have pending : welcome ∈
          pendingWelcomes relay w.relays.db.watermarks env.welcomesView := by
        rw [interleaved.welcomes]
        refine mem_pendingWelcomes.mpr ⟨hwelcome, htarget, fun row hrow same => ?_⟩
        obtain ⟨hrelay, hconversation⟩ := Prod.mk.inj same
        exact marked ⟨row, hrow, Prod.ext hconversation (hrelay.trans htarget.symm)⟩
      obtain ⟨groupId, hmem⟩ := houtcome.2 welcome pending
      exact ⟨groupId, List.mem_append_right _ (List.mem_map_of_mem hmem)⟩

/-- In every run of membership changes and passes in which no relay is seated again where it has
been welcomed before, a pass feeds each envelope to the group of the window that the relay is in,
and a pass without a failure joins every Welcome that is stored for it. -/
theorem relays_join_current_groups {start : World} (coherent : Coherent (seatsOf start.delivery))
    (unmarked : start.relays.db.watermarks = [])
    (reaches : Relation.ReflTransGen (Step H True) start w)
    (interleaved : Interleaved H True w relay env after) :
    FeedsCurrent relay.relayInstallationId (Throughout env after) w.relays.events
      (passOf env relay w.relays.db).2 ∧
    (FailureFree env → lockedState relay.relayInstallationId w.relays.db ≠ none →
      (passOf env relay w.relays.db).1 ≠ none ∧
      ∀ welcome ∈ w.delivery.admission.welcomes,
        welcome.targetInstallationId = relay.relayInstallationId →
        ∃ groupId, (relay.relayInstallationId,
          RelayEvent.joined welcome.conversationId welcome.commitPosition groupId) ∈
            (drainStep env relay w.relays).events) := by
  have initial : Inv start := by
    refine ⟨coherent, ?_, ?_⟩
    · rw [unmarked]
      exact List.nodup_nil
    · rw [unmarked]
      intro row hrow
      cases hrow
  have inv := initial.reaches reaches
  exact ⟨inv.feedsCurrent interleaved, inv.joins interleaved⟩

end

theorem zeros_length (_ : Bytes) : (List.replicate 32 (0 : UInt8)).length = 32 :=
  List.length_replicate

def zeroHash : HashFunction := ⟨fun _ => List.replicate 32 0, zeros_length⟩

def sampleIntent (operation : IntentOperation) : MembershipIntentRow where
  intentId := "00000000-0000-4000-8000-000000000011"
  conversationId := sampleConversationId
  operation := operation
  targetInstallationId := sampleRelayId
  requestedByInstallationId := some staffInstallationId
  grantId := none
  keyPackageRef := none
  baseEpoch := 1
  baseRosterVersion := 1
  baseConfirmedTranscriptHash := List.replicate 32 7
  proposedRosterHash := List.replicate 32 5
  state := .proposed
  createdAt := "2026-08-14T16:00:00.000Z"
  expiresAt := "2026-08-14T17:00:00.000Z"
  committedEnvelope := none

def sampleProposal : ExternalProposalRow where
  proposalId := "00000000-0000-4000-8000-000000000012"
  proposalHash := List.replicate 32 0
  intentId := "00000000-0000-4000-8000-000000000011"
  conversationId := sampleConversationId
  envelopeId := "00000000-0000-4000-8000-000000000013"
  envelopePosition := 1
  baseEpoch := 1
  publicMessage := [1]
  publicMessageSha256 := List.replicate 32 0
  authorizationRecordHash := List.replicate 32 0
  signerExternalSenderCredentialId := "00000000-0000-4000-8000-000000000014"
  signerExternalSenderFingerprint := List.replicate 32 0
  signerGeneration := 1
  transparencyCheckpointId := "checkpoint-1"
  createdAt := "2026-08-14T16:00:00.000Z"
  expiresAt := "2026-08-14T17:00:00.000Z"
  committedAt := none

def sampleCredential : RoleCredentialRow where
  credentialId := "00000000-0000-4000-8000-0000000000e3"
  conversationId := sampleConversationId
  installationId := sampleRelayId
  accountId := "00000000-0000-4000-8000-0000000000a2"
  policyId := "policy-1"
  role := .customer
  credentialFingerprint := List.replicate 32 2
  issuedAt := "2026-08-14T15:00:00.000Z"
  expiresAt := "2026-09-13T15:00:00.000Z"
  revocationVersion := 0
  state := .active

def sampleAdmitted (operation : IntentOperation) (target : Option RoleCredentialRow) :
    AdmittedCommit :=
  ⟨sampleConversation, sampleIntent operation, sampleProposal,
    "00000000-0000-4000-8000-0000000000a1", target, "log-1"⟩

def sampleInput (welcomes : List (String × Bytes)) : ConsumeCommitInput where
  intentId := "00000000-0000-4000-8000-000000000011"
  committerInstallationId := staffInstallationId
  expectedEpoch := 1
  expectedRosterVersion := 1
  proposedRosterHash := List.replicate 32 5
  mandatoryProposals := []
  envelopeId := "00000000-0000-4000-8000-000000000015"
  commit := [1]
  envelopeSha256 := List.replicate 32 0
  baseConfirmedTranscriptHash := List.replicate 32 7
  resultingConfirmedTranscriptHash := List.replicate 32 7
  resultingEpoch := 2
  welcomeByInstallation := welcomes
  targetCredentialId := none

def sampleDraft (position : Nat) : EnvelopeDraft where
  conversationId := sampleConversationId
  position := position
  envelopeId := "00000000-0000-4000-8000-000000000015"
  envelopeClass := .mlsCommit
  sender := .installation "00000000-0000-4000-8000-0000000000a1" staffInstallationId
  epoch := 1
  rosterVersion := 1
  contentType := .publicMessage
  envelopeSha256 := List.replicate 32 0
  receivedAt := "2026-08-14T16:00:00.000Z"
  transcript := none
  envelopeBytes := [1]
  previousHeadHash := List.replicate 32 0
  leafHash := List.replicate 32 0
  headHash := List.replicate 32 8
  logSigningKeyId := "log-1"
  logCheckpointDigest := List.replicate 32 0

/-- The conversation before the relay has a seat. -/
def unseatedDb : DeliveryDb :=
  { sampleDelivery with
    memberships := [
      sampleMember "00000000-0000-4000-8000-0000000000a1" staffInstallationId .projectStaff 1]
    envelopes := [] }

def sampleNow : String := "2026-08-14T16:00:00.000Z"

def afterCommit (position : Nat) (added : Bool) (envelopes : List EnvelopeRow) (db : DeliveryDb) :
    DeliveryDb :=
  match applyBoundary zeroHash (sampleDraft position)
      (sampleInput (if added then [(sampleRelayId, [position.toUInt8])] else []))
      (sampleAdmitted (if added then .add else .remove)
        (if added then some sampleCredential else none)) sampleNow db with
  | .ok written => { written with envelopes := envelopes }
  | .error _ => db

theorem afterCommit_moves {mayRejoin : String × String → Prop} (mayAll : ∀ key, mayRejoin key)
    (position : Nat) (added : Bool) (envelopes : List EnvelopeRow) (db : DeliveryDb) :
    Moves zeroHash mayRejoin db (afterCommit position added envelopes db) := by
  unfold afterCommit
  split
  · rename_i written hboundary
    refine .commit ?_ rfl hboundary rfl rfl fun _ _ => mayAll _
    cases added with
    | true => exact fun _ => ⟨[position.toUInt8], rfl⟩
    | false => exact fun h => nomatch h
  · exact .other rfl

def commitEnvelope (position : Nat) : EnvelopeRow :=
  { sampleEnvelope position with
    envelopeClass := .mlsCommit
    contentType := .publicMessage }

/-- The relay is added, removed and added again, and then a message is sent. -/
def addedDb : DeliveryDb := afterCommit 2 true [commitEnvelope 2] unseatedDb
def removedDb : DeliveryDb := afterCommit 3 false [commitEnvelope 2, commitEnvelope 3] addedDb
def reseatedDb : DeliveryDb := afterCommit 4 true
  [commitEnvelope 2, commitEnvelope 3, commitEnvelope 4, sampleEnvelope 5] removedDb

def quietEnv (db : DeliveryDb) (unique : UniquePositions db) : PassEnv :=
  { sampleEnv 0 with
    fails := fun _ => false
    welcomesView := db
    delivery := fun _ => db
    uniquePositions := fun _ => unique }

theorem quietEnv_interleaved {restricted : Prop} {w : World} (relay : ActiveRelay)
    (unique : UniquePositions w.delivery) :
    Interleaved zeroHash restricted w relay (quietEnv w.delivery unique) w.delivery :=
  ⟨rfl, fun _ => .refl, .refl⟩

theorem quietEnv_failureFree (db : DeliveryDb) (unique : UniquePositions db) :
    FailureFree (quietEnv db unique) :=
  ⟨fun _ => rfl, fun _ _ _ => ⟨(by decide : 1 ≤ 16), (by decide : 16 ≤ 64)⟩⟩

def unjoinedRelays : RelayRun :=
  { sampleRelays with db := { sampleRelays.db with watermarks := [] } }

theorem addedDb_unique : UniquePositions addedDb := by
  unfold UniquePositions
  decide

theorem reseatedDb_unique : UniquePositions reseatedDb := by
  unfold UniquePositions
  decide

def joinedRelays : RelayRun := drainStep (quietEnv addedDb addedDb_unique) sampleRelay unjoinedRelays

theorem reseatedWorld_reached :
    Relation.ReflTransGen (Step zeroHash False) ⟨unseatedDb, unjoinedRelays⟩
      ⟨reseatedDb, joinedRelays⟩ := by
  have unrestricted : ∀ (w : World) key, MayRejoin False w key := fun _ _ h => h.elim
  have added : Step zeroHash False ⟨unseatedDb, unjoinedRelays⟩ ⟨addedDb, unjoinedRelays⟩ :=
    .deliver (afterCommit_moves (unrestricted _) 2 true _ _)
  have drained : Step zeroHash False ⟨addedDb, unjoinedRelays⟩ ⟨addedDb, joinedRelays⟩ :=
    .drain (quietEnv_interleaved sampleRelay addedDb_unique)
  have removed : Step zeroHash False ⟨addedDb, joinedRelays⟩ ⟨removedDb, joinedRelays⟩ :=
    .deliver (afterCommit_moves (unrestricted _) 3 false _ _)
  have reseated : Step zeroHash False ⟨removedDb, joinedRelays⟩ ⟨reseatedDb, joinedRelays⟩ :=
    .deliver (afterCommit_moves (unrestricted _) 4 true _ _)
  exact (((Relation.ReflTransGen.single added).tail drained).tail removed).tail reseated

/-- Added, drained, removed and added again, the relay stays in the group of its first Welcome. A
pass without a failure leaves the Welcome at position 4 alone and feeds that group the messages of
the new window. -/
theorem reseated_relay_keeps_first_group :
    Relation.ReflTransGen (Step zeroHash False) ⟨unseatedDb, unjoinedRelays⟩
      ⟨reseatedDb, joinedRelays⟩ ∧
    Interleaved zeroHash False ⟨reseatedDb, joinedRelays⟩ sampleRelay
      (quietEnv reseatedDb reseatedDb_unique) reseatedDb ∧
    FailureFree (quietEnv reseatedDb reseatedDb_unique) ∧
    lockedState sampleRelay.relayInstallationId joinedRelays.db ≠ none ∧
    reseatedDb.admission.welcomes.map (fun welcome =>
      (welcomeKey welcome, welcome.commitPosition)) = [((sampleConversationId, sampleRelayId), 4)] ∧
    lastJoin joinedRelays.events (sampleConversationId, sampleRelayId) = some 2 ∧
    (passOf (quietEnv reseatedDb reseatedDb_unique) sampleRelay joinedRelays.db).2 =
      [.fed sampleConversationId (List.replicate 16 7) 3,
        .fed sampleConversationId (List.replicate 16 7) 4,
        .fed sampleConversationId (List.replicate 16 7) 5,
        .sent .telegram sampleConversationId 5
          "[0000] Project #42 — Team:\nWhere is my order?" true] :=
  ⟨reseatedWorld_reached, quietEnv_interleaved (w := ⟨reseatedDb, joinedRelays⟩) sampleRelay
    reseatedDb_unique, quietEnv_failureFree _ _, by decide, by decide, by decide, by decide⟩

theorem unseatedDb_coherent : Coherent (seatsOf unseatedDb) :=
  ⟨by decide, by decide, fun _ hwelcome => nomatch hwelcome⟩

/-- Added, removed and added again before it has joined, a relay joins the group of its last
Welcome. -/
theorem relays_join_current_groups_added :
    ∃ groupId, (sampleRelayId, RelayEvent.joined sampleConversationId 4 groupId) ∈
      (drainStep (quietEnv reseatedDb reseatedDb_unique) sampleRelay unjoinedRelays).events := by
  have moved {db : DeliveryDb} (position : Nat) (added : Bool) (envelopes : List EnvelopeRow) :
      Step zeroHash True ⟨db, unjoinedRelays⟩
        ⟨afterCommit position added envelopes db, unjoinedRelays⟩ :=
    .deliver (afterCommit_moves (fun _ _ marked => nomatch marked) position added envelopes db)
  have reached : Relation.ReflTransGen (Step zeroHash True) ⟨unseatedDb, unjoinedRelays⟩
      ⟨reseatedDb, unjoinedRelays⟩ :=
    ((Relation.ReflTransGen.single (moved 2 true _)).tail (moved 3 false _)).tail (moved 4 true _)
  have current := relays_join_current_groups unseatedDb_coherent rfl reached
    (quietEnv_interleaved sampleRelay reseatedDb_unique)
  have welcomed : ∃ welcome ∈ reseatedDb.admission.welcomes, welcome.targetInstallationId =
      sampleRelayId ∧ welcome.conversationId = sampleConversationId ∧ welcome.commitPosition = 4 := by
    decide
  obtain ⟨welcome, hwelcome, htarget, hconversation, hposition⟩ := welcomed
  have joined := (current.2 (quietEnv_failureFree _ _) (by decide)).2 welcome hwelcome htarget
  rwa [hconversation, hposition] at joined

end JbChat.Relay.RelayReseating
