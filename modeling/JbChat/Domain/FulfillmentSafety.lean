/- source: src/domain/fulfillment.ts
   digest: What holds of the fulfilment view after every transcript. -/

import JbChat.Domain.Fulfillment

set_option autoImplicit false

namespace JbChat.Domain.FulfillmentSafety

open Foundation.FirstOccurrence Fulfillment

section

variable {state : FulfillmentState}

theorem namesAddress_eq_true {addressId : String} {addressVersion : Number} :
    state.namesAddress addressId addressVersion = true ↔
      ∃ address, state.addressEvent = some address ∧ addressId = address.addressId ∧
        addressVersion = address.version := by
  unfold FulfillmentState.namesAddress
  cases haddress : state.addressEvent with
  | none => simp
  | some address => simp

theorem acceptsAddress_eq_true {event : ShippingAddressEvent} :
    state.acceptsAddress event = true →
      state.status ≠ some .shipped ∧
        (state.addressEvent = none → event.version = .integer 1) ∧
        ∀ address, state.addressEvent = some address →
          event.version = address.version.succ ∧ event.addressId = address.addressId := by
  intro accepts
  unfold FulfillmentState.acceptsAddress at accepts
  cases haddress : state.addressEvent with
  | none =>
    simp only [haddress] at accepts
    refine ⟨?_, ?_, ?_⟩
    · intro shipped
      simp [shipped] at accepts
    · intro _
      by_contra hversion
      simp [hversion] at accepts
    · intro address h
      cases h
  | some address =>
    simp only [haddress] at accepts
    refine ⟨?_, ?_, ?_⟩
    · intro shipped
      simp [shipped] at accepts
    · intro h
      cases h
    · rintro _ ⟨⟩
      constructor
      · by_contra hversion
        simp [hversion] at accepts
      · by_contra hid
        simp [hid] at accepts

theorem acceptsCorrection_eq_true {event : ShippingAddressCorrectionEvent} :
    state.acceptsCorrection event = true →
      state.status = some .shipped ∧
        state.namesAddress event.shippedAddressId event.shippedAddressVersion = true ∧
        (∃ version, event.correctionVersion = .integer version) ∧
        ∀ correction, state.addressCorrectionEvent = some correction →
          event.correctionVersion = correction.correctionVersion.succ := by
  intro accepts
  unfold FulfillmentState.acceptsCorrection at accepts
  refine ⟨?_, ?_, ?_, ?_⟩
  · by_contra shipped
    simp [shipped] at accepts
  · by_contra names
    simp [names] at accepts
  · cases hversion : event.correctionVersion with
    | integer version => exact ⟨version, rfl⟩
    | other text => simp [hversion, Number.isSafeInteger] at accepts
  · intro correction hcorrection
    by_contra hversion
    simp [hcorrection, hversion] at accepts

/-- What one event can do to the state. -/
inductive Move (state : FulfillmentState) : FulfillmentState → Prop where
  | idle : Move state state
  | address (event : ShippingAddressEvent) (accepts : state.acceptsAddress event = true) :
      Move state
        { state with
          addressEvent := some event
          acknowledged := false
          statusEvent := none
          trackingEvent := none }
  | ack (pending : state.status ≠ some .shipped) :
      Move state { state with acknowledged := true }
  | status (event : FulfillmentStatusEvent) (acknowledged : state.acknowledged = true)
      (names : state.namesAddress event.addressId event.addressVersion = true)
      (pending : state.status ≠ some .shipped) :
      Move state { state with statusEvent := some event }
  | tracking (event : TrackingEvent)
      (names : state.namesAddress event.addressId event.addressVersion = true) :
      Move state { state with trackingEvent := some event }
  | correction (event : ShippingAddressCorrectionEvent)
      (accepts : state.acceptsCorrection event = true) :
      Move state { state with addressCorrectionEvent := some event }

private theorem takeStatus_move (state : FulfillmentState) (event : FulfillmentStatusEvent) :
    Move state (state.takeStatus event) := by
  unfold FulfillmentState.takeStatus
  split
  · exact .idle
  · rename_i guard
    simp only [Bool.or_eq_true, Bool.not_eq_true', decide_eq_true_eq, not_or,
      Bool.not_eq_false] at guard
    obtain ⟨⟨acknowledged, names⟩, pending⟩ := guard
    split
    · split
      · exact .status event acknowledged names pending
      · exact .idle
    · split
      · exact .status event acknowledged names pending
      · exact .idle

theorem step_cases (state : FulfillmentState) (event : SupportEvent) :
    Move state (state.step event) := by
  cases event with
  | text event => exact .idle
  | addressRequest event => exact .idle
  | shippingAddress event =>
    simp only [FulfillmentState.step, FulfillmentState.takeAddress]
    split
    · rename_i accepts
      exact .address event accepts
    · exact .idle
  | shippingAddressCorrection event =>
    simp only [FulfillmentState.step, FulfillmentState.takeCorrection]
    split
    · rename_i accepts
      exact .correction event accepts
    · exact .idle
  | addressAck event =>
    simp only [FulfillmentState.step, FulfillmentState.takeAck]
    split
    · rename_i guard
      simp only [Bool.and_eq_true, bne_iff_ne, ne_eq] at guard
      exact .ack guard.1
    · exact .idle
  | fulfillmentStatus event => exact takeStatus_move state event
  | tracking event =>
    simp only [FulfillmentState.step, FulfillmentState.takeTracking]
    split
    · rename_i guard
      simp only [Bool.and_eq_true] at guard
      exact .tracking event guard.2
    · exact .idle

end

/-- Every recorded piece of work is about the current address. -/
structure Grounded (state : FulfillmentState) : Prop where
  status : ∀ event, state.statusEvent = some event →
    state.acknowledged = true ∧ state.namesAddress event.addressId event.addressVersion = true
  tracking : ∀ event, state.trackingEvent = some event →
    state.namesAddress event.addressId event.addressVersion = true
  correction : ∀ event, state.addressCorrectionEvent = some event →
    state.status = some .shipped ∧
      state.namesAddress event.shippedAddressId event.shippedAddressVersion = true ∧
      ∃ version, event.correctionVersion = .integer version

namespace Grounded

variable {state next : FulfillmentState}

theorem initial : Grounded .initial := by
  constructor <;> intro event h <;> cases h

theorem move (grounded : Grounded state) (step : Move state next) : Grounded next := by
  cases step with
  | idle => exact grounded
  | address event accepts =>
    obtain ⟨pending, -, -⟩ := acceptsAddress_eq_true accepts
    refine ⟨?_, ?_, ?_⟩
    · intro status h
      cases h
    · intro tracking h
      cases h
    · intro correction h
      exact absurd (grounded.correction correction h).1 pending
  | ack pending =>
    refine ⟨?_, grounded.tracking, grounded.correction⟩
    intro event h
    exact ⟨rfl, (grounded.status event h).2⟩
  | status event acknowledged names pending =>
    refine ⟨?_, grounded.tracking, ?_⟩
    · rintro _ ⟨⟩
      exact ⟨acknowledged, names⟩
    · intro correction h
      exact absurd (grounded.correction correction h).1 pending
  | tracking event names =>
    refine ⟨grounded.status, ?_, grounded.correction⟩
    rintro _ ⟨⟩
    exact names
  | correction event accepts =>
    obtain ⟨shipped, names, version, -⟩ := acceptsCorrection_eq_true accepts
    refine ⟨grounded.status, grounded.tracking, ?_⟩
    rintro _ ⟨⟩
    exact ⟨shipped, names, version⟩

theorem run (grounded : Grounded state) (entries : List AuthenticatedSupportEvent) :
    Grounded (state.run entries) := by
  induction entries generalizing state with
  | nil => exact grounded
  | cons entry entries ih => exact ih (grounded.move (step_cases state entry.event))

end Grounded

structure AddressHistory (accepted : List ShippingAddressEvent) (state : FulfillmentState) :
    Prop where
  current : state.addressEvent = accepted.getLast?
  versions : accepted.map (·.version) =
    (List.range' 1 accepted.length).map fun n : Nat => Number.integer n
  oneId : ∀ first ∈ accepted, ∀ second ∈ accepted, first.addressId = second.addressId

namespace AddressHistory

variable {accepted : List ShippingAddressEvent} {state : FulfillmentState}

theorem initial : AddressHistory [] .initial where
  current := rfl
  versions := rfl
  oneId := by simp

theorem version_of_last (history : AddressHistory accepted state)
    {address : ShippingAddressEvent} (last : state.addressEvent = some address) :
    address.version = .integer accepted.length := by
  rw [history.current] at last
  obtain ⟨earlier, rfl⟩ := List.getLast?_eq_some_iff.mp last
  have versions := history.versions
  rw [List.length_append, List.length_singleton, List.range'_concat] at versions
  simp only [List.map_append, List.map_cons, List.map_nil] at versions
  have tails := (List.append_inj' versions rfl).2
  simp only [List.cons.injEq, and_true] at tails
  rw [tails, List.length_append, List.length_singleton]
  congr 1
  push_cast
  ring

theorem keep (history : AddressHistory accepted state) {next : FulfillmentState}
    (same : next.addressEvent = state.addressEvent) : AddressHistory accepted next :=
  ⟨same.trans history.current, history.versions, history.oneId⟩

theorem accept (history : AddressHistory accepted state) {event : ShippingAddressEvent}
    (accepts : state.acceptsAddress event = true) :
    AddressHistory (accepted ++ [event]) (state.takeAddress event) := by
  obtain ⟨-, first, later⟩ := acceptsAddress_eq_true accepts
  have version : event.version = .integer (accepted.length + 1 : Nat) := by
    cases hcurrent : state.addressEvent with
    | none =>
      have hnone : accepted = [] := by
        rw [history.current] at hcurrent
        exact List.getLast?_eq_none_iff.mp hcurrent
      subst hnone
      exact first hcurrent
    | some address =>
      rw [(later address hcurrent).1, history.version_of_last hcurrent]
      rfl
  have sameId : ∀ earlier ∈ accepted, earlier.addressId = event.addressId := by
    intro earlier hearlier
    cases hcurrent : state.addressEvent with
    | none =>
      rw [history.current, List.getLast?_eq_none_iff] at hcurrent
      rw [hcurrent] at hearlier
      cases hearlier
    | some address =>
      have hlast : address ∈ accepted := by
        rw [history.current] at hcurrent
        exact List.mem_of_getLast? hcurrent
      exact (history.oneId earlier hearlier address hlast).trans (later address hcurrent).2.symm
  refine ⟨?_, ?_, ?_⟩
  · simp [FulfillmentState.takeAddress, accepts]
  · rw [List.map_append, history.versions, List.length_append, List.length_singleton,
      List.range'_concat, List.map_append, List.map_singleton, List.map_singleton, version]
    simp [Nat.add_comm]
  · intro one hone two htwo
    rw [List.mem_append, List.mem_singleton] at hone htwo
    rcases hone with hone | rfl <;> rcases htwo with htwo | rfl
    · exact history.oneId one hone two htwo
    · exact sameId one hone
    · exact (sameId two htwo).symm
    · rfl

private theorem step_addressEvent (state : FulfillmentState) {event : SupportEvent}
    (other : ∀ address, event ≠ .shippingAddress address) :
    (state.step event).addressEvent = state.addressEvent := by
  cases event with
  | shippingAddress address => exact absurd rfl (other address)
  | text event => rfl
  | addressRequest event => rfl
  | shippingAddressCorrection event =>
    simp only [FulfillmentState.step, FulfillmentState.takeCorrection]
    split <;> rfl
  | addressAck event =>
    simp only [FulfillmentState.step, FulfillmentState.takeAck]
    split <;> rfl
  | fulfillmentStatus event =>
    simp only [FulfillmentState.step, FulfillmentState.takeStatus]
    repeat' split
    all_goals rfl
  | tracking event =>
    simp only [FulfillmentState.step, FulfillmentState.takeTracking]
    split <;> rfl

theorem run (history : AddressHistory accepted state) (entries : List AuthenticatedSupportEvent) :
    AddressHistory (accepted ++ state.acceptedAddresses entries) (state.run entries) := by
  induction entries generalizing accepted state with
  | nil => simpa [FulfillmentState.acceptedAddresses, FulfillmentState.run] using history
  | cons entry entries ih =>
    change AddressHistory _ ((state.step entry.event).run entries)
    unfold FulfillmentState.acceptedAddresses
    split
    · rename_i event hevent
      rw [hevent, ← List.append_assoc]
      apply ih
      by_cases accepts : state.acceptsAddress event = true
      · rw [if_pos accepts]
        exact history.accept accepts
      · rw [if_neg accepts, List.append_nil]
        refine history.keep ?_
        simp [FulfillmentState.step, FulfillmentState.takeAddress, accepts]
    · rename_i other
      exact ih (history.keep (step_addressEvent state other))

end AddressHistory

section

variable {state : FulfillmentState}

private theorem view_of_status {address : ShippingAddressEvent} {event : FulfillmentStatusEvent}
    (haddress : state.addressEvent = some address) (hstatus : state.statusEvent = some event) :
    state.view =
      { stage := match event.status with
          | .preparing => .preparing
          | .shipped => .shipped
        addressEvent := some address
        acknowledged := state.acknowledged
        statusEvent := some event
        trackingEvent := state.trackingEvent
        addressCorrectionEvent := match event.status with
          | .preparing => none
          | .shipped => state.addressCorrectionEvent } := by
  cases h : event.status <;>
    simp [FulfillmentState.view, FulfillmentState.status, haddress, hstatus, h]

private theorem view_of_no_status (hstatus : state.statusEvent = none) :
    state.view.stage ≠ .preparing ∧ state.view.stage ≠ .shipped ∧
      state.view.trackingEvent = none ∧ state.view.addressCorrectionEvent = none := by
  cases haddress : state.addressEvent <;>
    simp [FulfillmentState.view, FulfillmentState.status, haddress, hstatus]

theorem view_addressEvent (state : FulfillmentState) :
    state.view.addressEvent = state.addressEvent := by
  unfold FulfillmentState.view
  split
  · rename_i haddress
    exact haddress.symm
  · rename_i address haddress
    rw [haddress]
    split <;> rfl

private theorem view_cases (grounded : Grounded state) :
    state.statusEvent = none ∨
      ∃ address event, state.addressEvent = some address ∧ state.statusEvent = some event ∧
        event.addressId = address.addressId ∧ event.addressVersion = address.version := by
  cases hstatus : state.statusEvent with
  | none => exact .inl rfl
  | some event =>
    obtain ⟨address, haddress, hid, hversion⟩ :=
      namesAddress_eq_true.mp (grounded.status event hstatus).2
    exact .inr ⟨address, event, haddress, rfl, hid, hversion⟩

theorem view_working (grounded : Grounded state)
    (stage : state.view.stage = .preparing ∨ state.view.stage = .shipped) :
    state.view.acknowledged = true ∧
      ∃ event address, state.view.statusEvent = some event ∧
        state.view.addressEvent = some address ∧ event.addressId = address.addressId ∧
        event.addressVersion = address.version := by
  rcases view_cases grounded with hstatus | ⟨address, event, haddress, hstatus, hid, hversion⟩
  · obtain ⟨preparing, shipped, -, -⟩ := view_of_no_status hstatus
    exact absurd stage (not_or.mpr ⟨preparing, shipped⟩)
  · rw [view_of_status haddress hstatus]
    exact ⟨(grounded.status event hstatus).1, event, address, rfl, rfl, hid, hversion⟩

theorem view_tracking (grounded : Grounded state) {tracking : TrackingEvent}
    (present : state.view.trackingEvent = some tracking) :
    ∃ address, state.view.addressEvent = some address ∧
      tracking.addressId = address.addressId ∧ tracking.addressVersion = address.version := by
  rw [view_addressEvent]
  rcases view_cases grounded with hstatus | ⟨address, event, haddress, hstatus, -, -⟩
  · rw [(view_of_no_status hstatus).2.2.1] at present
    cases present
  · rw [view_of_status haddress hstatus] at present
    exact namesAddress_eq_true.mp (grounded.tracking tracking present)

theorem view_correction (grounded : Grounded state)
    {correction : ShippingAddressCorrectionEvent}
    (present : state.view.addressCorrectionEvent = some correction) :
    state.view.stage = .shipped ∧
      ∃ address, state.view.addressEvent = some address ∧
        correction.shippedAddressId = address.addressId ∧
        correction.shippedAddressVersion = address.version := by
  rw [view_addressEvent]
  rcases view_cases grounded with hstatus | ⟨address, event, haddress, hstatus, -, -⟩
  · rw [(view_of_no_status hstatus).2.2.2] at present
    cases present
  · rw [view_of_status haddress hstatus] at present ⊢
    cases hevent : event.status with
    | preparing => simp [hevent] at present
    | shipped =>
      simp only [hevent] at present
      exact ⟨rfl, namesAddress_eq_true.mp (grounded.correction correction present).2.1⟩

end

/-- After every transcript, work in progress is acknowledged and about the current address,
a correction is about the shipped one, and the accepted addresses are one address in the
versions from one on, the last of them current. -/
theorem deriveFulfillment_coherent (entries : List AuthenticatedSupportEvent) :
    ((deriveFulfillment entries).stage = .preparing ∨
        (deriveFulfillment entries).stage = .shipped →
      (deriveFulfillment entries).acknowledged = true ∧
        ∃ event address, (deriveFulfillment entries).statusEvent = some event ∧
          (deriveFulfillment entries).addressEvent = some address ∧
          event.addressId = address.addressId ∧ event.addressVersion = address.version) ∧
    (∀ tracking, (deriveFulfillment entries).trackingEvent = some tracking →
      ∃ address, (deriveFulfillment entries).addressEvent = some address ∧
        tracking.addressId = address.addressId ∧ tracking.addressVersion = address.version) ∧
    (∀ correction, (deriveFulfillment entries).addressCorrectionEvent = some correction →
      (deriveFulfillment entries).stage = .shipped ∧
        ∃ address, (deriveFulfillment entries).addressEvent = some address ∧
          correction.shippedAddressId = address.addressId ∧
          correction.shippedAddressVersion = address.version) ∧
    (deriveFulfillment entries).addressEvent = (acceptedAddressEvents entries).getLast? ∧
    (∀ address, (deriveFulfillment entries).addressEvent = some address →
      address.version = .integer (acceptedAddressEvents entries).length) ∧
    (acceptedAddressEvents entries).map (·.version) =
      (List.range' 1 (acceptedAddressEvents entries).length).map
        (fun n : Nat => Number.integer n) ∧
    ∀ first ∈ acceptedAddressEvents entries, ∀ second ∈ acceptedAddressEvents entries,
      first.addressId = second.addressId := by
  have grounded := Grounded.initial.run (authorizedSupportEvents entries)
  have history := AddressHistory.initial.run (authorizedSupportEvents entries)
  rw [List.nil_append] at history
  refine ⟨view_working grounded, fun tracking => view_tracking grounded,
    fun correction => view_correction grounded, ?_, ?_, history.versions, history.oneId⟩
  · exact (view_addressEvent _).trans history.current
  · intro address haddress
    exact history.version_of_last ((view_addressEvent _).symm.trans haddress)

section

/-- From a shipped state only the tracking and the correction move on. -/
structure Continues (before after : FulfillmentState) : Prop where
  addressEvent : after.addressEvent = before.addressEvent
  acknowledged : after.acknowledged = before.acknowledged
  statusEvent : after.statusEvent = before.statusEvent
  correction : ∀ event, before.addressCorrectionEvent = some event →
    ∃ later m n, after.addressCorrectionEvent = some later ∧
      event.correctionVersion = .integer m ∧ later.correctionVersion = .integer n ∧ m ≤ n

variable {before middle after : FulfillmentState}

theorem Continues.refl (grounded : Grounded before) : Continues before before where
  addressEvent := rfl
  acknowledged := rfl
  statusEvent := rfl
  correction := by
    intro event present
    obtain ⟨-, -, version, hversion⟩ := grounded.correction event present
    exact ⟨event, version, version, present, hversion, hversion, le_rfl⟩

theorem Continues.trans (first : Continues before middle) (second : Continues middle after) :
    Continues before after where
  addressEvent := second.addressEvent.trans first.addressEvent
  acknowledged := second.acknowledged.trans first.acknowledged
  statusEvent := second.statusEvent.trans first.statusEvent
  correction := by
    intro event present
    obtain ⟨later, m, n, hlater, hm, hn, hle⟩ := first.correction event present
    obtain ⟨last, n', k, hlast, hn', hk, hle'⟩ := second.correction later hlater
    obtain rfl : n = n' := Number.integer.inj (hn.symm.trans hn')
    exact ⟨last, m, k, hlast, hm, hk, hle.trans hle'⟩

theorem Continues.move (grounded : Grounded before) (shipped : before.status = some .shipped)
    (step : Move before after) : Continues before after := by
  cases step with
  | idle => exact .refl grounded
  | address event accepts => exact absurd shipped (acceptsAddress_eq_true accepts).1
  | ack pending => exact absurd shipped pending
  | status event acknowledged names pending => exact absurd shipped pending
  | tracking event names =>
    exact ⟨rfl, rfl, rfl, (Continues.refl grounded).correction⟩
  | correction event accepts =>
    refine ⟨rfl, rfl, rfl, ?_⟩
    intro earlier present
    obtain ⟨-, -, -, next⟩ := acceptsCorrection_eq_true accepts
    obtain ⟨-, -, version, hversion⟩ := grounded.correction earlier present
    refine ⟨event, version, version + 1, rfl, hversion, ?_, by omega⟩
    rw [next earlier present, hversion]
    rfl

theorem Continues.run (grounded : Grounded before) (shipped : before.status = some .shipped)
    (entries : List AuthenticatedSupportEvent) : Continues before (before.run entries) := by
  induction entries generalizing before with
  | nil => exact .refl grounded
  | cons entry entries ih =>
    have step := step_cases before entry.event
    have first := Continues.move grounded shipped step
    have shipped' : (before.step entry.event).status = some .shipped := by
      rw [FulfillmentState.status, first.statusEvent]
      exact shipped
    exact first.trans (ih (grounded.move step) shipped')

private theorem run_append (state : FulfillmentState) (xs ys : List AuthenticatedSupportEvent) :
    state.run (xs ++ ys) = (state.run xs).run ys :=
  List.foldl_append

private theorem run_authorized_append (xs ys : List AuthenticatedSupportEvent) :
    ∃ later, FulfillmentState.initial.run (authorizedSupportEvents (xs ++ ys)) =
      (FulfillmentState.initial.run (authorizedSupportEvents xs)).run later := by
  refine ⟨firstOccurrences countedEventId (xs.filterMap countedEventId ++ []) ys, ?_⟩
  rw [← run_append]
  exact congrArg _ firstOccurrences_append

private theorem shipped_of_view {state : FulfillmentState}
    (stage : state.view.stage = .shipped) :
    ∃ address event, state.addressEvent = some address ∧ state.statusEvent = some event ∧
      event.status = .shipped := by
  unfold FulfillmentState.view at stage
  cases haddress : state.addressEvent with
  | none => simp [haddress] at stage
  | some address =>
    cases hstatus : state.statusEvent with
    | none => simp [FulfillmentState.status, haddress, hstatus] at stage
    | some event =>
      cases hevent : event.status with
      | preparing => simp [FulfillmentState.status, haddress, hstatus, hevent] at stage
      | shipped => exact ⟨address, event, rfl, rfl, hevent⟩

/-- `shipped` is terminal: whatever follows, the address, the status event and the
acknowledgement stay, and the correction only moves to later versions. -/
theorem deriveFulfillment_shipped_append (xs ys : List AuthenticatedSupportEvent)
    (shipped : (deriveFulfillment xs).stage = .shipped) :
    (deriveFulfillment (xs ++ ys)).stage = .shipped ∧
      (deriveFulfillment (xs ++ ys)).addressEvent = (deriveFulfillment xs).addressEvent ∧
      (deriveFulfillment (xs ++ ys)).statusEvent = (deriveFulfillment xs).statusEvent ∧
      (deriveFulfillment (xs ++ ys)).acknowledged = true ∧
      ∀ correction, (deriveFulfillment xs).addressCorrectionEvent = some correction →
        ∃ later m n, (deriveFulfillment (xs ++ ys)).addressCorrectionEvent = some later ∧
          correction.correctionVersion = .integer m ∧ later.correctionVersion = .integer n ∧
          m ≤ n := by
  have grounded := Grounded.initial.run (authorizedSupportEvents xs)
  obtain ⟨later, hrun⟩ := run_authorized_append xs ys
  obtain ⟨address, event, haddress, hstatus, hevent⟩ := shipped_of_view shipped
  have hshipped : (FulfillmentState.initial.run (authorizedSupportEvents xs)).status =
      some .shipped := by
    rw [FulfillmentState.status, hstatus, Option.map_some, hevent]
  have continues := Continues.run grounded hshipped later
  have haddress' := continues.addressEvent.trans haddress
  have hstatus' := continues.statusEvent.trans hstatus
  unfold deriveFulfillment
  rw [hrun, view_of_status haddress hstatus, view_of_status haddress' hstatus']
  simp only [hevent, true_and]
  exact ⟨continues.acknowledged.trans (grounded.status event hstatus).1, continues.correction⟩

/-- An order that was addressed, acknowledged, prepared and shipped. -/
def shippedTranscript : List AuthenticatedSupportEvent :=
  let credential role : RoleCredential :=
    { credentialId := "credential"
      role := role
      subjectParticipantId := "participant"
      subjectDeviceId := "device" }
  let sender role : AuthenticatedEventMetadata :=
    { participantId := "participant"
      deviceId := "device"
      deviceFingerprint := "fingerprint"
      roleCredential := credential role }
  let roster : RecipientRosterBinding :=
    { rosterVersion := "roster-1"
      mlsEpoch := .integer 0
      recipientDeviceFingerprints := ["fingerprint"]
      devices := .missing }
  [ { event := .shippingAddress ⟨⟨"a", ""⟩, "address", .integer 1,
        ⟨"", "", "", "", "", "", "", ""⟩, roster⟩
      authenticated := sender .customer },
    { event := .addressAck ⟨⟨"b", ""⟩, "address", .integer 1⟩
      authenticated := sender .projectStaff },
    { event := .fulfillmentStatus ⟨⟨"c", ""⟩, .preparing, "address", .integer 1⟩
      authenticated := sender .projectStaff },
    { event := .fulfillmentStatus ⟨⟨"d", ""⟩, .shipped, "address", .integer 1⟩
      authenticated := sender .projectStaff } ]

theorem shippedTranscript_stays_shipped :
    (deriveFulfillment (shippedTranscript ++ shippedTranscript)).stage = .shipped :=
  (deriveFulfillment_shipped_append shippedTranscript shippedTranscript (by decide +kernel)).1

end

/-- The entry is unauthorized or blank, or repeats the ID of an authorized entry of `xs`. -/
def Invisible (xs : List AuthenticatedSupportEvent) (entry : AuthenticatedSupportEvent) : Prop :=
  isAuthorizedSupportEvent entry = false ∨ trim entry.event.id = "" ∨
    ∃ earlier ∈ xs, isAuthorizedSupportEvent earlier = true ∧
      trim earlier.event.id = trim entry.event.id

private theorem countedEventId_eq_some {entry : AuthenticatedSupportEvent} {eventId : String} :
    countedEventId entry = some eventId ↔
      trim entry.event.id = eventId ∧ eventId ≠ "" ∧ isAuthorizedSupportEvent entry = true := by
  unfold countedEventId
  by_cases hblank : trim entry.event.id = ""
  · have hempty : "".isEmpty = true := rfl
    simp only [hblank, hempty, Bool.true_or, if_true]
    constructor
    · intro h
      cases h
    · rintro ⟨rfl, h, -⟩
      exact absurd rfl h
  · have hblank' : (trim entry.event.id).isEmpty = false := by
      simpa [String.isEmpty_iff] using hblank
    cases hauth : isAuthorizedSupportEvent entry
    · simp [hblank']
    · simp only [hblank', Bool.not_true, Bool.or_self, Bool.false_eq_true, if_false,
        Option.some.injEq, and_true]
      constructor
      · rintro rfl
        exact ⟨rfl, hblank⟩
      · rintro ⟨rfl, -⟩
        rfl

private theorem idle_of_invisible {xs : List AuthenticatedSupportEvent}
    {entry : AuthenticatedSupportEvent} (invisible : Invisible xs entry) :
    Idle countedEventId (xs.filterMap countedEventId ++ []) entry := by
  intro eventId hid
  obtain ⟨rfl, hblank, hauth⟩ := countedEventId_eq_some.mp hid
  rw [List.append_nil, List.mem_filterMap]
  rcases invisible with unauthorized | blank | ⟨earlier, hearlier, authorized, same⟩
  · rw [unauthorized] at hauth
    cases hauth
  · exact absurd blank hblank
  · exact ⟨earlier, hearlier, countedEventId_eq_some.mpr ⟨same, hblank, authorized⟩⟩

/-- A forged or replayed entry changes nothing, wherever it stands; reducing the authorized
events alone gives the same view. -/
theorem deriveFulfillment_invisible :
    (∀ xs ys entry, Invisible xs entry →
      deriveFulfillment (xs ++ [entry] ++ ys) = deriveFulfillment (xs ++ ys)) ∧
    (∀ xs, authorizedSupportEvents (authorizedSupportEvents xs) = authorizedSupportEvents xs) ∧
    ∀ xs, deriveFulfillment xs = deriveFulfillment (authorizedSupportEvents xs) := by
  refine ⟨?_, fun xs => firstOccurrences_idem, ?_⟩
  · intro xs ys entry invisible
    have same : authorizedSupportEvents (xs ++ [entry] ++ ys) =
        authorizedSupportEvents (xs ++ ys) := by
      rw [List.append_assoc, List.singleton_append]
      exact firstOccurrences_insert (idle_of_invisible invisible)
    rw [deriveFulfillment, same, deriveFulfillment]
  · intro xs
    have same : authorizedSupportEvents (authorizedSupportEvents xs) =
        authorizedSupportEvents xs := firstOccurrences_idem
    rw [deriveFulfillment, deriveFulfillment, same]

end JbChat.Domain.FulfillmentSafety
