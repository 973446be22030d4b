/- source: src/production/relay/relayDrain.ts
   digest: What a drain pass has done to the watermarks and outside, at every point it may fail. -/

import JbChat.Relay.RelayDrain

set_option autoImplicit false

namespace JbChat.Relay.RelayTrace

open Foundation.FailingTrace Foundation.HashTrace
open Delivery.Snapshot Store.Tables RelayDrain

section

def acceptedSend : RelayEvent → Option (RelayChannelKind × String × Nat)
  | .sent channelKind conversationId position _ true => some (channelKind, conversationId, position)
  | _ => none

def acceptedSends (events : List RelayEvent) : List (RelayChannelKind × String × Nat) :=
  events.filterMap acceptedSend

theorem acceptedSends_append (xs ys : List RelayEvent) :
    acceptedSends (xs ++ ys) = acceptedSends xs ++ acceptedSends ys := List.filterMap_append

def FoldsEnvelope (seat : Seat) (position : Nat) (event : RelayEvent) : Prop :=
  event = .fed seat.mark.conversationId seat.groupId position ∨
    ∃ channelKind text accepted,
      event = .sent channelKind seat.mark.conversationId position text accepted

structure Folds (seat : Seat) (lower upper : Nat) (events : List RelayEvent) : Prop where
  ordered : lower ≤ upper
  within : ∀ event ∈ events, ∃ position, lower < position ∧ position ≤ upper ∧
    FoldsEnvelope seat position event
  increasing : ((acceptedSends events).map fun send => send.2.2).Pairwise (· < ·)

variable {seat : Seat} {lower middle upper : Nat} {events more : List RelayEvent}

theorem Folds.nil : Folds seat lower lower [] where
  ordered := Nat.le_refl lower
  within := fun _ hmem => nomatch hmem
  increasing := List.Pairwise.nil

theorem Folds.send (h : Folds seat lower upper events)
    {send : RelayChannelKind × String × Nat} (hsend : send ∈ acceptedSends events) :
    send.2.1 = seat.mark.conversationId ∧ lower < send.2.2 ∧ send.2.2 ≤ upper := by
  obtain ⟨event, hevent, hsome⟩ := List.mem_filterMap.mp hsend
  obtain ⟨position, hlower, hupper, hform⟩ := h.within event hevent
  rcases hform with rfl | ⟨channelKind, text, accepted, rfl⟩
  · cases hsome
  · cases accepted with
    | false => cases hsome
    | true =>
      cases hsome
      exact ⟨rfl, hlower, hupper⟩

theorem Folds.append (first : Folds seat lower middle events)
    (second : Folds seat middle upper more) : Folds seat lower upper (events ++ more) where
  ordered := Nat.le_trans first.ordered second.ordered
  within := by
    intro event hmem
    rcases List.mem_append.mp hmem with hmem | hmem
    · obtain ⟨position, hlower, hupper, hform⟩ := first.within event hmem
      exact ⟨position, hlower, Nat.le_trans hupper second.ordered, hform⟩
    · obtain ⟨position, hlower, hupper, hform⟩ := second.within event hmem
      exact ⟨position, Nat.lt_of_le_of_lt first.ordered hlower, hupper, hform⟩
  increasing := by
    rw [acceptedSends_append, List.map_append, List.pairwise_append]
    refine ⟨first.increasing, second.increasing, ?_⟩
    intro early hearly late hlate
    obtain ⟨earlySend, hearlySend, rfl⟩ := List.mem_map.mp hearly
    obtain ⟨lateSend, hlateSend, rfl⟩ := List.mem_map.mp hlate
    exact Nat.lt_of_le_of_lt (first.send hearlySend).2.2 (second.send hlateSend).2.1

theorem Folds.single (position : Nat) (above : lower < position) (rest : List RelayEvent)
    (hrest : rest = [] ∨ ∃ channelKind text accepted,
      rest = [.sent channelKind seat.mark.conversationId position text accepted]) :
    Folds seat lower position
      (.fed seat.mark.conversationId seat.groupId position :: rest) where
  ordered := Nat.le_of_lt above
  within := by
    intro event hmem
    rcases List.mem_cons.mp hmem with rfl | hmem
    · exact ⟨position, above, Nat.le_refl position, Or.inl rfl⟩
    · rcases hrest with rfl | ⟨channelKind, text, accepted, rfl⟩
      · cases hmem
      · exact ⟨position, above, Nat.le_refl position,
          Or.inr ⟨channelKind, text, accepted, List.mem_singleton.mp hmem⟩⟩
  increasing := by
    rcases hrest with rfl | ⟨channelKind, text, accepted, rfl⟩
    · exact List.Pairwise.nil
    · cases accepted with
      | false => exact List.Pairwise.nil
      | true => exact List.pairwise_singleton _ _

theorem Folds.silent (above : lower ≤ upper) : Folds seat lower upper [] where
  ordered := above
  within := fun _ hmem => nomatch hmem
  increasing := List.Pairwise.nil

end

section

variable {env : PassEnv} {relay : ActiveRelay} {target : Option String} {seat : Seat}
  {cut : Prop} {role : Option SendRole} {s : FoldState} {db : DeliveryDb}

theorem contextOf_meets {context : Option RelayEnvelopeContext}
    (hfails : ∀ n, env.fails n = true → cut) :
    Meets (contextOf env seat role context) (fun fresh _ => fresh = [])
      fun fresh => fresh = [] ∧ cut := by
  cases context with
  | some context => exact meets_pure rfl
  | none => exact meets_bind_answer (fun n => meets_pure rfl) fun n h => ⟨rfl, hfails n h⟩

theorem forward_meets {position : Nat} {plaintext : String}
    (hfails : ∀ n, env.fails n = true → cut) :
    Meets (forward env relay target seat position role plaintext s)
      (fun fresh s' => s'.pass.watermarks = s.pass.watermarks ∧ (fresh = [] ∨
        ∃ channelKind text accepted,
          fresh = [.sent channelKind seat.mark.conversationId position text accepted]))
      fun fresh => fresh = [] ∧ cut := by
  unfold forward
  cases target with
  | none => exact meets_pure ⟨rfl, Or.inl rfl⟩
  | some address =>
    refine meets_bind _ _ (contextOf_meets hfails) ?_ fun _ h => h
    rintro before context rfl
    refine meets_bind_answer (fun n => meets_bind_record (meets_pure ?_))
      fun n h => ⟨rfl, hfails n h⟩
    exact ⟨rfl, Or.inr ⟨relay.channelKind, _, _, rfl⟩⟩

theorem foldEnvelope_meets {item : EnvelopeRow × Option SendRole} {lower : Nat}
    (hfails : ∀ n, env.fails n = true → cut) (above : lower < item.1.position) :
    Meets (foldEnvelope env relay target seat s item)
      (fun fresh s' => s'.pass.watermarks = s.pass.watermarks ∧ s'.processed = item.1.position ∧
        Folds seat lower item.1.position fresh)
      fun fresh => Folds seat lower item.1.position fresh ∧ cut := by
  obtain ⟨envelope, role⟩ := item
  unfold foldEnvelope
  dsimp only at above ⊢
  have fedOnly : Folds seat lower envelope.position
      [.fed seat.mark.conversationId seat.groupId envelope.position] :=
    Folds.single envelope.position above [] (Or.inl rfl)
  refine meets_ite (fun _ => ?_) fun _ => meets_ite (fun _ => ?_) fun _ => ?_
  · exact meets_bind_record (meets_bind_answer (fun n => meets_pure ⟨rfl, rfl, fedOnly⟩)
      fun n h => ⟨fedOnly, hfails n h⟩)
  · refine meets_bind_record (meets_bind_answer (fun n => ?_) fun n h => ⟨fedOnly, hfails n h⟩)
    refine meets_bind _ _ (forward_meets hfails) ?_ ?_
    · rintro before s' ⟨hrows, hsent⟩
      refine meets_pure ⟨hrows, rfl, ?_⟩
      rw [List.append_nil]
      exact Folds.single envelope.position above before hsent
    · rintro before ⟨rfl, hcut⟩
      exact ⟨fedOnly, hcut⟩
  · exact meets_pure ⟨rfl, rfl, Folds.silent (Nat.le_of_lt above)⟩

theorem unprocessed_above :
    ∀ item ∈ unprocessed seat db, seat.mark.processedPosition < item.1.position := by
  intro item hitem
  obtain ⟨row, hrow, rfl⟩ := List.mem_map.mp hitem
  have hselected := (List.mem_filter.mp ((List.mem_insertionSort _).mp hrow)).2
  exact (of_decide_eq_true hselected).2

theorem unprocessed_increasing (unique : UniquePositions db) :
    (unprocessed seat db).Pairwise fun a b => a.1.position < b.1.position := by
  unfold unprocessed
  rw [List.pairwise_map]
  have distinct : (db.envelopes.filter fun row => decide (
      row.conversationId = seat.mark.conversationId ∧
        seat.mark.processedPosition < row.position)).Pairwise
      fun a b => a.position ≠ b.position := by
    refine List.Pairwise.imp_of_mem ?_ ((List.pairwise_map.mp unique).filter _)
    intro a b ha hb hne hposition
    have hsame : a.conversationId = b.conversationId :=
      (of_decide_eq_true (List.mem_filter.mp ha).2).1.trans
        (of_decide_eq_true (List.mem_filter.mp hb).2).1.symm
    exact hne (Prod.ext hsame hposition)
  have sorted := List.pairwise_insertionSort (fun a b : EnvelopeRow => a.position ≤ b.position)
    (db.envelopes.filter fun row => decide (row.conversationId = seat.mark.conversationId ∧
      seat.mark.processedPosition < row.position))
  refine List.Pairwise.imp₂ (fun a b hle hne => Nat.lt_of_le_of_ne hle hne) sorted ?_
  exact distinct.perm (List.perm_insertionSort _ _).symm fun hne => hne.symm

theorem drainSeat_meets {s : PassState} (hfails : ∀ n, env.fails n = true → cut) :
    Meets (drainSeat env relay target s seat)
      (fun fresh s' => ∃ upper forwarded, Folds seat seat.mark.processedPosition upper fresh ∧
        (s'.watermarks = advanceMark seat.mark upper forwarded s.watermarks ∨
          upper = seat.mark.processedPosition ∧ s'.watermarks = s.watermarks))
      fun fresh => (∃ upper, Folds seat seat.mark.processedPosition upper fresh) ∧ cut := by
  unfold drainSeat
  refine meets_bind_answer (fun n => ?_) fun n h => ⟨⟨_, Folds.nil⟩, hfails n h⟩
  refine meets_bind (fun fresh s' => s'.pass.watermarks = s.watermarks ∧
      Folds seat seat.mark.processedPosition s'.processed fresh)
    (fun fresh => (∃ upper, Folds seat seat.mark.processedPosition upper fresh) ∧ cut)
    ?_ ?_ fun _ h => h
  · refine (meets_foldlM (fun left before s' =>
      (left.Pairwise fun a b => a.1.position < b.1.position) ∧
      (∀ item ∈ left, s'.processed < item.1.position) ∧ s'.pass.watermarks = s.watermarks ∧
      Folds seat seat.mark.processedPosition s'.processed before)
      ⟨unprocessed_increasing (env.uniquePositions n), unprocessed_above, rfl, Folds.nil⟩ ?_).mono
      (fun fresh s' h => h.2.2) fun fresh h => h
    intro item left before s' hkeeps
    obtain ⟨hincreasing, habove, hrows, hfolds⟩ := hkeeps
    obtain ⟨hfirst, hleft⟩ := List.pairwise_cons.mp hincreasing
    refine (foldEnvelope_meets hfails (habove item List.mem_cons_self)).mono ?_ ?_
    · rintro fresh s'' ⟨hkept, hprocessed, hfresh⟩
      refine ⟨hleft, ?_, hkept.trans hrows, ?_⟩
      · intro other hother
        rw [hprocessed]
        exact hfirst other hother
      · rw [hprocessed]
        exact hfolds.append hfresh
    · rintro fresh ⟨hfresh, hcut⟩
      exact ⟨⟨_, hfolds.append hfresh⟩, hcut⟩
  · rintro before s' ⟨hrows, hfolds⟩
    refine meets_ite (fun _ => meets_bind_answer (fun n => meets_pure ?_) fun n h => ?_)
      fun hsame => meets_pure ?_
    · rw [List.append_nil, ← hrows]
      exact ⟨_, _, hfolds, Or.inl rfl⟩
    · rw [List.append_nil]
      exact ⟨⟨_, hfolds⟩, hfails n h⟩
    · rw [List.append_nil]
      exact ⟨_, 0, hfolds, Or.inr ⟨not_not.mp hsame, hrows⟩⟩

end

def Keyed (watermarks : List WatermarkRow) : Prop := (watermarks.map WatermarkRow.key).Nodup

def FreeFor (relay : ActiveRelay) (conversationId : String) (watermarks : List WatermarkRow) :
    Prop :=
  ∀ row ∈ watermarks, row.key ≠ (relay.relayInstallationId, conversationId)

/-- What a pass has done to the rows and outside, joins and whole conversations. -/
inductive Progress (relay : ActiveRelay) (pending : List WelcomeRow)
    (start : List WatermarkRow) : List RelayEvent → List WatermarkRow → Prop where
  | start : Progress relay pending start [] start
  | join {events : List RelayEvent} {rows : List WatermarkRow} {welcome : WelcomeRow}
      (groupId : Bytes) (before : Progress relay pending start events rows)
      (isPending : welcome ∈ pending) (free : FreeFor relay welcome.conversationId rows) :
      Progress relay pending start
        (events ++ [.joined welcome.conversationId welcome.commitPosition groupId])
        (rows ++ [joinedRow relay welcome groupId])
  | fold {events fresh : List RelayEvent} {rows : List WatermarkRow} {seat : Seat}
      {upper forwarded : Nat} (before : Progress relay pending start events rows)
      (isRow : seat.mark ∈ rows)
      (own : seat.mark.relayInstallationId = relay.relayInstallationId)
      (folds : Folds seat seat.mark.processedPosition upper fresh) :
      Progress relay pending start (events ++ fresh) (advanceMark seat.mark upper forwarded rows)

/-- What the operation at which a pass is cut has done outside. -/
inductive Remainder (relay : ActiveRelay) (pending : List WelcomeRow)
    (rows : List WatermarkRow) : List RelayEvent → Prop where
  | nothing : Remainder relay pending rows []
  | join {welcome : WelcomeRow} (groupId : Bytes) (isPending : welcome ∈ pending) :
      Remainder relay pending rows
        [.joined welcome.conversationId welcome.commitPosition groupId]
  | fold {fresh : List RelayEvent} {seat : Seat} {upper : Nat} (isRow : seat.mark ∈ rows)
      (own : seat.mark.relayInstallationId = relay.relayInstallationId)
      (folds : Folds seat seat.mark.processedPosition upper fresh) :
      Remainder relay pending rows fresh

def Cut (relay : ActiveRelay) (pending : List WelcomeRow) (start : List WatermarkRow)
    (events : List RelayEvent) : Prop :=
  ∃ before rows rest, events = before ++ rest ∧ Progress relay pending start before rows ∧
    Remainder relay pending rows rest

section

variable {relay : ActiveRelay} {pending : List WelcomeRow} {start rows : List WatermarkRow}
  {mark : WatermarkRow} {processed forwarded : Nat} {events : List RelayEvent} {row : WatermarkRow}

theorem mem_advanceMark (h : row ∈ advanceMark mark processed forwarded rows) :
    ∃ old ∈ rows, old.key = row.key ∧ (old = row ∨ old.key = mark.key ∧
      row.processedPosition = processed) := by
  obtain ⟨old, hold, hrow⟩ := List.mem_map.mp h
  by_cases same : old.key = mark.key
  · simp only [same, decide_true, if_true] at hrow
    subst hrow
    exact ⟨old, hold, rfl, Or.inr ⟨same, rfl⟩⟩
  · simp only [same, decide_false, Bool.false_eq_true, if_false] at hrow
    subst hrow
    exact ⟨old, hold, rfl, Or.inl rfl⟩

theorem mem_advanceMark_of_ne (hrow : row ∈ rows)
    (distinct : row.key ≠ mark.key) : row ∈ advanceMark mark processed forwarded rows := by
  refine List.mem_map.mpr ⟨row, hrow, ?_⟩
  simp only [distinct, decide_false, Bool.false_eq_true, if_false]

theorem exists_advanceMark (processed forwarded : Nat) (hrow : row ∈ rows)
    (same : row.key = mark.key) :
    ∃ moved ∈ advanceMark mark processed forwarded rows, moved.key = row.key ∧
      moved.processedPosition = processed := by
  refine ⟨{ row with processedPosition := processed, forwardedPosition := forwarded },
    List.mem_map.mpr ⟨row, hrow, ?_⟩, rfl, rfl⟩
  simp only [same, decide_true, if_true]

theorem map_key_advanceMark :
    (advanceMark mark processed forwarded rows).map WatermarkRow.key =
      rows.map WatermarkRow.key := by
  unfold advanceMark updateWhere
  rw [List.map_map]
  refine List.map_congr_left fun row _ => ?_
  simp only [Function.comp]
  split <;> rfl

theorem Keyed.eq_of_key_eq (keyed : Keyed rows) {a b : WatermarkRow} (ha : a ∈ rows)
    (hb : b ∈ rows) (same : a.key = b.key) : a = b :=
  List.inj_on_of_nodup_map keyed ha hb same

theorem Progress.keyed (progress : Progress relay pending start events rows)
    (keyed : Keyed start) : Keyed rows := by
  induction progress with
  | start => exact keyed
  | join groupId before isPending free ih =>
    unfold Keyed
    rw [List.map_append, List.map_singleton]
    refine List.nodup_append.mpr ⟨ih, List.nodup_singleton _, ?_⟩
    intro key hkey other hother same
    obtain ⟨row, hrow, rfl⟩ := List.mem_map.mp hkey
    rw [List.mem_singleton.mp hother] at same
    exact free row hrow same
  | fold before isRow own folds ih =>
    unfold Keyed
    rw [map_key_advanceMark]
    exact ih

end

section

variable {env : PassEnv} {relay : ActiveRelay} {target : Option String}
  {pending : List WelcomeRow} {start : List WatermarkRow} {cut : Prop} {rows : List WatermarkRow}
  {mlsState : String} {db : DeliveryDb} {projectRefs : List ProjectIdentityRow} {seat : Seat}

def Distinct (pending : List WelcomeRow) : Prop :=
  pending.Pairwise fun a b => a.conversationId ≠ b.conversationId

/-- Whatever may throw in a pass means `cut`. -/
structure CutBy (env : PassEnv) (relay : ActiveRelay) (pending : List WelcomeRow) (cut : Prop) :
    Prop where
  failed : ∀ n, env.fails n = true → cut
  refused : ∀ n state rows, ∀ welcome ∈ pending,
    (Distinct pending → FreeFor relay welcome.conversationId rows) →
      insertWatermark (joinedRow relay welcome
        ((env.bridge n).joinWelcome state welcome.welcomeBytes).2) rows = none → cut

theorem insertWatermark_eq_some {row : WatermarkRow} {written : List WatermarkRow}
    (h : insertWatermark row rows = some written) :
    (∀ other ∈ rows, other.key ≠ row.key) ∧ written = rows ++ [row] := by
  unfold insertWatermark at h
  split at h
  · unfold insertUnique at h
    split at h
    · cases h
    · rename_i habsent
      refine ⟨fun other hother same => habsent ?_, (Option.some.inj h).symm⟩
      exact List.any_eq_true.mpr ⟨other, hother, decide_eq_true same⟩
  · cases h

theorem joinPending_meets {s : PassState} {welcome : WelcomeRow} (hcut : CutBy env relay pending cut)
    (hpending : welcome ∈ pending)
    (free : Distinct pending → FreeFor relay welcome.conversationId s.watermarks) :
    Meets (joinPending env relay s welcome)
      (fun fresh s' => FreeFor relay welcome.conversationId s.watermarks ∧ ∃ groupId,
        fresh = [.joined welcome.conversationId welcome.commitPosition groupId] ∧
        s'.watermarks = s.watermarks ++ [joinedRow relay welcome groupId])
      fun fresh => cut ∧ (fresh = [] ∨ ∃ groupId,
        fresh = [.joined welcome.conversationId welcome.commitPosition groupId]) := by
  unfold joinPending
  refine meets_bind_answer (fun n => ?_) fun n h => ⟨hcut.failed n h, Or.inl rfl⟩
  refine meets_bind_record (meets_bind_operation (fun m written _ hinsert => meets_pure ?_)
    fun m h => ⟨?_, Or.inr ⟨_, rfl⟩⟩)
  · obtain ⟨hfree, hwritten⟩ := insertWatermark_eq_some hinsert
    exact ⟨hfree, _, rfl, hwritten⟩
  · rcases h with h | h
    · exact hcut.failed m h
    · exact hcut.refused n s.mlsState s.watermarks welcome hpending free h

theorem joins_meet {outcome : DrainOutcome} (hcut : CutBy env relay pending cut)
    (unjoined : ∀ welcome ∈ pending, FreeFor relay welcome.conversationId start) :
    Meets (pending.foldlM (joinPending env relay) ⟨mlsState, start, outcome⟩)
      (fun fresh s' => Progress relay pending start fresh s'.watermarks ∧
        ∀ welcome ∈ pending, ∃ groupId,
          RelayEvent.joined welcome.conversationId welcome.commitPosition groupId ∈ fresh)
      fun fresh => cut ∧ Cut relay pending start fresh := by
  refine (meets_foldlM (fun left before s' =>
    Progress relay pending start before s'.watermarks ∧ (∀ welcome ∈ left, welcome ∈ pending) ∧
    (Distinct pending → Distinct left ∧
      ∀ welcome ∈ left, FreeFor relay welcome.conversationId s'.watermarks) ∧
    ∀ welcome ∈ pending, welcome ∈ left ∨ ∃ groupId,
      RelayEvent.joined welcome.conversationId welcome.commitPosition groupId ∈ before)
    ⟨.start, fun _ h => h, fun distinct => ⟨distinct, unjoined⟩, fun _ h => Or.inl h⟩ ?_).mono
    ?_ fun fresh h => h
  · intro welcome left before s hkeeps
    obtain ⟨hprogress, hleft, hdistinct, hdone⟩ := hkeeps
    have hpending := hleft welcome List.mem_cons_self
    refine (joinPending_meets hcut hpending fun distinct =>
      (hdistinct distinct).2 welcome List.mem_cons_self).mono ?_ ?_
    · rintro fresh s' ⟨hfree, groupId, rfl, hrows⟩
      rw [hrows]
      refine ⟨hprogress.join groupId hpending hfree,
        fun other hother => hleft other (List.mem_cons_of_mem welcome hother), ?_, ?_⟩
      · intro distinct
        obtain ⟨hpairs, hfreeLeft⟩ := hdistinct distinct
        obtain ⟨hhead, htail⟩ := List.pairwise_cons.mp hpairs
        refine ⟨htail, fun other hother row hrow => ?_⟩
        rcases List.mem_append.mp hrow with hrow | hrow
        · exact hfreeLeft other (List.mem_cons_of_mem welcome hother) row hrow
        · rw [List.mem_singleton.mp hrow]
          exact fun same => hhead other hother (Prod.mk.inj same).2
      · intro other hother
        rcases hdone other hother with hwaiting | ⟨g, hjoined⟩
        · rcases List.mem_cons.mp hwaiting with rfl | hwaiting
          · exact Or.inr ⟨groupId, List.mem_append_right _ (List.mem_singleton_self _)⟩
          · exact Or.inl hwaiting
        · exact Or.inr ⟨g, List.mem_append_left _ hjoined⟩
    · rintro fresh ⟨hreason, hfresh⟩
      refine ⟨hreason, before, s.watermarks, fresh, rfl, hprogress, ?_⟩
      rcases hfresh with rfl | ⟨groupId, rfl⟩
      · exact .nothing
      · exact .join groupId hpending
  · rintro fresh s' ⟨hprogress, -, -, hdone⟩
    refine ⟨hprogress, fun welcome hwelcome => ?_⟩
    rcases hdone welcome hwelcome with hmem | hjoined
    · cases hmem
    · exact hjoined

theorem seatOf_mark {mark : WatermarkRow} (h : seatOf db projectRefs mark = some seat) :
    seat.mark = mark := by
  unfold seatOf at h
  simp only [Option.bind_eq_bind, Option.bind_eq_some_iff] at h
  obtain ⟨groupId, -, member, -, conversation, -, project, -, hseat⟩ := h
  rw [← Option.some.inj hseat]

theorem mem_seats (h : seat ∈ seats relay rows db projectRefs) :
    seat.mark ∈ rows ∧ seat.mark.relayInstallationId = relay.relayInstallationId := by
  obtain ⟨mark, hmark, hseat⟩ := List.mem_filterMap.mp ((List.mem_insertionSort _).mp h)
  obtain ⟨hrow, hown⟩ := List.mem_filter.mp hmark
  rw [seatOf_mark hseat]
  exact ⟨hrow, of_decide_eq_true hown⟩

theorem seats_distinct (keyed : Keyed rows) :
    (seats relay rows db projectRefs).Pairwise fun a b => a.mark.key ≠ b.mark.key := by
  have marks : (rows.filter fun mark =>
      decide (mark.relayInstallationId = relay.relayInstallationId)).Pairwise
      fun a b => a.key ≠ b.key := (List.pairwise_map.mp keyed).filter _
  have seated : ((rows.filter fun mark =>
      decide (mark.relayInstallationId = relay.relayInstallationId)).filterMap
        (seatOf db projectRefs)).Pairwise fun a b => a.mark.key ≠ b.mark.key :=
    List.Pairwise.filterMap (seatOf db projectRefs) (fun a b hne seatA hA seatB hB => by
      rw [seatOf_mark hA, seatOf_mark hB]
      exact hne) marks
  exact seated.perm (List.perm_insertionSort _ _).symm fun hne => hne.symm

theorem folds_meet {joined : PassState} {before : List RelayEvent} {seated : List Seat}
    (hcut : CutBy env relay pending cut)
    (hprogress : Progress relay pending start before joined.watermarks)
    (hseats : ∀ seat ∈ seated, seat.mark ∈ joined.watermarks ∧
      seat.mark.relayInstallationId = relay.relayInstallationId)
    (distinct : seated.Pairwise fun a b => a.mark.key ≠ b.mark.key) :
    Meets (seated.foldlM (drainSeat env relay target) joined)
      (fun fresh s' => Progress relay pending start (before ++ fresh) s'.watermarks)
      fun fresh => cut ∧ Cut relay pending start (before ++ fresh) := by
  refine (meets_foldlM (fun left fresh s' =>
    Progress relay pending start (before ++ fresh) s'.watermarks ∧
    (∀ seat ∈ left, seat.mark ∈ s'.watermarks ∧
      seat.mark.relayInstallationId = relay.relayInstallationId) ∧
    left.Pairwise fun a b => a.mark.key ≠ b.mark.key)
    ⟨by rwa [List.append_nil], hseats, distinct⟩ ?_).mono (fun fresh s' h => h.1)
    fun fresh h => h
  intro seat left fresh s hkeeps
  obtain ⟨hreached, hleft, hpairs⟩ := hkeeps
  obtain ⟨hrow, hown⟩ := hleft seat List.mem_cons_self
  obtain ⟨hhead, htail⟩ := List.pairwise_cons.mp hpairs
  refine (drainSeat_meets hcut.failed).mono ?_ ?_
  · rintro more s' ⟨upper, forwarded, hfolds, hrows⟩
    rcases hrows with hrows | ⟨rfl, hrows⟩
    · rw [hrows, ← List.append_assoc]
      refine ⟨hreached.fold hrow hown hfolds, fun other hother => ?_, htail⟩
      obtain ⟨hotherRow, hotherOwn⟩ := hleft other (List.mem_cons_of_mem seat hother)
      exact ⟨mem_advanceMark_of_ne hotherRow (hhead other hother).symm, hotherOwn⟩
    · have silent : more = [] := by
        refine List.eq_nil_iff_forall_not_mem.mpr fun event hevent => ?_
        obtain ⟨position, hlower, hupper, -⟩ := hfolds.within event hevent
        omega
      rw [hrows, silent, List.append_nil]
      exact ⟨hreached, fun other hother => hleft other (List.mem_cons_of_mem seat hother), htail⟩
  · rintro more ⟨⟨upper, hfolds⟩, hreason⟩
    refine ⟨hreason, before ++ fresh, s.watermarks, more, (List.append_assoc _ _ _).symm, hreached,
      .fold hrow hown hfolds⟩

theorem resealState_meets {relayInstallationId state mutated : String} {relays : List RelayRow}
    (hfails : ∀ n, env.fails n = true → cut) :
    Meets (resealState env relayInstallationId state mutated relays) (fun fresh _ => fresh = [])
      fun fresh => fresh = [] ∧ cut := by
  refine meets_ite (fun _ => meets_operation (fun _ _ _ _ => rfl) fun n h => ⟨rfl, ?_⟩)
    fun _ => meets_pure rfl
  rcases h with h | h
  · exact hfails n h
  · cases h

theorem Cut.of_progress {events : List RelayEvent}
    (progress : Progress relay pending start events rows) : Cut relay pending start events :=
  ⟨events, rows, [], (List.append_nil events).symm, progress, .nothing⟩

theorem drainBody_meets (keyed : Keyed start)
    (hcut : CutBy env relay (pendingWelcomes relay start env.welcomesView) cut) :
    Meets (drainBody env relay target mlsState start)
      (fun fresh s' => Progress relay (pendingWelcomes relay start env.welcomesView) start fresh
          s'.watermarks ∧
        ∀ welcome ∈ pendingWelcomes relay start env.welcomesView, ∃ groupId,
          RelayEvent.joined welcome.conversationId welcome.commitPosition groupId ∈ fresh)
      fun fresh => cut ∧ Cut relay (pendingWelcomes relay start env.welcomesView) start fresh := by
  unfold drainBody
  refine meets_bind_answer (fun n => ?_) fun n h => ⟨hcut.failed n h, .of_progress .start⟩
  refine meets_bind _ _ (joins_meet hcut ?_) ?_ fun _ h => h
  · intro welcome hwelcome row hrow same
    have hselected := (List.mem_filter.mp ((List.mem_insertionSort _).mp hwelcome)).2
    have hall := List.all_eq_true.mp (Bool.and_eq_true_iff.mp hselected).2 row hrow
    exact of_decide_eq_true hall same
  · rintro before joined ⟨hprogress, hjoined⟩
    refine meets_bind_answer (fun m => ?_) fun m h => ?_
    · refine (folds_meet hcut hprogress (fun seat => mem_seats)
        (seats_distinct (hprogress.keyed keyed))).mono ?_ fun fresh h => h
      intro fresh s' hfinal
      refine ⟨hfinal, fun welcome hwelcome => ?_⟩
      obtain ⟨groupId, hmem⟩ := hjoined welcome hwelcome
      exact ⟨groupId, List.mem_append_left fresh hmem⟩
    · rw [List.append_nil]
      exact ⟨hcut.failed m h, .of_progress hprogress⟩

theorem drainOne_meets {db : RelayDb} (keyed : Keyed db.watermarks)
    (hcut : CutBy env relay (pendingWelcomes relay db.watermarks env.welcomesView) cut)
    (hlocked : lockedState relay.relayInstallationId db = none → cut) :
    Meets (drainOne env relay db)
      (fun fresh result => Progress relay (pendingWelcomes relay db.watermarks env.welcomesView)
          db.watermarks fresh result.2.watermarks ∧
        ∀ welcome ∈ pendingWelcomes relay db.watermarks env.welcomesView, ∃ groupId,
          RelayEvent.joined welcome.conversationId welcome.commitPosition groupId ∈ fresh)
      fun fresh => cut ∧
        Cut relay (pendingWelcomes relay db.watermarks env.welcomesView) db.watermarks fresh := by
  unfold drainOne withState
  refine meets_bind_answer (fun n => ?_) fun n h => ⟨hcut.failed n h, .of_progress .start⟩
  refine meets_bind_answer (fun n => ?_) fun n h => ⟨hcut.failed n h, .of_progress .start⟩
  refine meets_bind_operation (fun n state _ _ => ?_) fun n h => ⟨?_, .of_progress .start⟩
  · refine meets_bind _ _ (drainBody_meets keyed hcut) ?_ fun _ h => h
    rintro before s ⟨hprogress, hjoined⟩
    refine meets_bind _ _ (resealState_meets hcut.failed) ?_ ?_
    · rintro fresh relays rfl
      refine meets_bind_answer (fun m => meets_pure ?_) fun m h => ?_
      · simpa only [List.append_nil] using ⟨hprogress, hjoined⟩
      · simpa only [List.append_nil] using ⟨hcut.failed m h, Cut.of_progress hprogress⟩
    · rintro fresh ⟨rfl, hreason⟩
      rw [List.append_nil]
      exact ⟨hreason, .of_progress hprogress⟩
  · rcases h with h | h
    · exact hcut.failed n h
    · exact hlocked h

theorem passOf_cases (env : PassEnv) (relay : ActiveRelay) {db : RelayDb}
    (keyed : Keyed db.watermarks) :
    (∃ outcome written events, passOf env relay db = (some (outcome, written), events) ∧
      Progress relay (pendingWelcomes relay db.watermarks env.welcomesView) db.watermarks events
        written.watermarks) ∨
    ∃ events, passOf env relay db = (none, events) ∧
      Cut relay (pendingWelcomes relay db.watermarks env.welcomesView) db.watermarks events := by
  have cutBy : CutBy env relay (pendingWelcomes relay db.watermarks env.welcomesView) True :=
    ⟨fun _ _ => trivial, fun _ _ _ _ _ _ _ => trivial⟩
  obtain ⟨fresh, hevents, houtcome⟩ := drainOne_meets keyed cutBy (fun _ => trivial) ⟨0, []⟩
  have hpass : passOf env relay db = ((drainOne env relay db ⟨0, []⟩).1, fresh) :=
    Prod.ext rfl hevents
  rw [hpass]
  cases hresult : (drainOne env relay db ⟨0, []⟩).1 with
  | some result =>
    rw [hresult] at houtcome
    exact Or.inl ⟨result.1, result.2, fresh, rfl, houtcome.1⟩
  | none =>
    rw [hresult] at houtcome
    exact Or.inr ⟨fresh, rfl, houtcome.2⟩

end

end JbChat.Relay.RelayTrace
