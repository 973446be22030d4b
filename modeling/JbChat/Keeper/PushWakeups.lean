/- source: scripts/keeper/send-push-wakeups.mjs, src/production/http/messagingHttp.ts
   digest: When the passes of the push sender wake every installation that has new mail. -/

import Mathlib.Data.List.Dedup
import JbChat.Foundation.GuardedRun
import JbChat.Foundation.HashTrace

/-!
The sender keeps a time watermark between its passes. A pass reads the clock, selects the
endpoints with mail behind the watermark, posts to each of them and moves the watermark to the
time it read; mailbox rows and endpoints are written by others at any moment in between.
-/

set_option autoImplicit false

namespace JbChat.Keeper.PushWakeups

open Foundation.HashTrace Foundation.GuardedRun

section

inductive Provider
  | webpush
  | apns
  | fcm
deriving DecidableEq

inductive EndpointStatus
  | active
  | invalid
  | deleted
deriving DecidableEq

/-- A mailbox row, with its time in milliseconds. -/
structure MailboxEntry where
  installationId : String
  mailboxPosition : Nat
  createdAt : Nat
deriving DecidableEq

structure PushEndpoint where
  endpointId : String
  installationId : String
  provider : Provider
  encryptedConfiguration : Bytes
  kmsKeyVersion : String
  status : EndpointStatus
  createdAt : Nat
  lastSuccessAt : Option Nat
  lastFailureAt : Option Nat
deriving DecidableEq

/-- A committed row beside the number of passes that had started before. -/
structure Committed (α : Type) where
  row : α
  passes : Nat
deriving DecidableEq

structure SelectedEndpoint where
  endpointId : String
  encryptedConfiguration : Bytes
  kmsKeyVersion : String
deriving DecidableEq

def PushEndpoint.selected (row : PushEndpoint) : SelectedEndpoint :=
  ⟨row.endpointId, row.encryptedConfiguration, row.kmsKeyVersion⟩

/-- A pass in flight; its endpoints are there once they are selected. -/
structure Pass where
  cutoff : Nat
  next : Nat
  endpoints : Option (List SelectedEndpoint)
deriving DecidableEq

/-- The tables and the process. An endpoint counts as active from the passes noted with it on; the
attempts name the pass that made them. -/
structure Sender where
  mailboxEntries : List (Committed MailboxEntry)
  pushEndpoints : List (Committed PushEndpoint)
  watermark : Nat
  pass : Option Pass
  started : Nat
  finished : Nat
  attempts : List (Nat × String)
deriving DecidableEq

/-- What a push service answers, or that it cannot be reached. -/
inductive PushResponse
  | accepted
  | gone
  | failed

inductive Event
  | commit (entries : List MailboxEntry)
  | putPushEndpoint (endpointId installationId : String) (configuration : Bytes)
      (kmsKeyVersion : String) (now : Nat)
  | deletePushEndpoint (endpointId installationId : String)
  | start (clock : Nat)
  | select (rows : List SelectedEndpoint)
  | send (response : PushResponse) (now : Nat)
  | finish
  | throw

/-- A process that has just started looks one minute back. -/
def boot (clock : Nat) (endpoints : List PushEndpoint) : Sender where
  mailboxEntries := []
  pushEndpoints := endpoints.map fun row => ⟨row, 0⟩
  watermark := clock - 60000
  pass := none
  started := 0
  finished := 0
  attempts := []

def selectLimit : Nat := 500

/-- The rows behind the cutoff, each once. -/
def pendingEndpoints (cutoff : Nat) (state : Sender) : List SelectedEndpoint :=
  ((state.pushEndpoints.filter fun endpoint =>
    decide (endpoint.row.status = .active) && state.mailboxEntries.any fun entry =>
      decide (entry.row.installationId = endpoint.row.installationId) &&
        decide (cutoff < entry.row.createdAt)).map fun endpoint => endpoint.row.selected).dedup

/-- A selection without an order: some of the rows, as many as the limit allows. -/
def Selects (pending rows : List SelectedEndpoint) : Prop :=
  rows.Nodup ∧ rows ⊆ pending ∧ rows.length = min pending.length selectLimit

instance (pending rows : List SelectedEndpoint) : Decidable (Selects pending rows) :=
  inferInstanceAs (Decidable (_ ∧ _ ∧ _))

/-- An endpoint is written for the first time, or again under its identifier. -/
def putEndpoint (endpointId installationId : String) (configuration : Bytes)
    (kmsKeyVersion : String) (now started : Nat) (rows : List (Committed PushEndpoint)) :
    List (Committed PushEndpoint) :=
  if rows.any fun endpoint => decide (endpoint.row.endpointId = endpointId) then
    rows.map fun endpoint =>
      if endpoint.row.endpointId = endpointId then
        { row := { endpoint.row with
            encryptedConfiguration := configuration
            kmsKeyVersion := kmsKeyVersion
            status := .active }
          passes := if endpoint.row.status = .active then endpoint.passes else started }
      else endpoint
  else
    rows ++ [⟨⟨endpointId, installationId, .webpush, configuration, kmsKeyVersion, .active, now,
      none, none⟩, started⟩]

/-- How the answer of a push service is noted. -/
def noteResponse (response : PushResponse) (now : Nat) (row : PushEndpoint) : PushEndpoint :=
  match response with
  | .accepted => { row with lastSuccessAt := some now }
  | .gone => { row with status := .invalid, lastFailureAt := some now }
  | .failed => { row with lastFailureAt := some now }

def updateEndpoint (endpointId : String) (update : PushEndpoint → PushEndpoint)
    (rows : List (Committed PushEndpoint)) : List (Committed PushEndpoint) :=
  rows.map fun endpoint =>
    if endpoint.row.endpointId = endpointId then { endpoint with row := update endpoint.row }
    else endpoint

-- The address in a sealed configuration, where there is one.
variable (opened : Bytes → String → Option String)

/-- One endpoint of a pass: a post to its address, or the failure of not having one. -/
def sendTo (endpoint : SelectedEndpoint) (response : PushResponse) (now : Nat) (state : Sender) :
    Sender :=
  match opened endpoint.encryptedConfiguration endpoint.kmsKeyVersion with
  | some _ => { state with
      pushEndpoints := updateEndpoint endpoint.endpointId (noteResponse response now)
        state.pushEndpoints
      attempts := state.attempts ++ [(state.started, endpoint.endpointId)] }
  | none => { state with
      pushEndpoints := updateEndpoint endpoint.endpointId (noteResponse .failed now)
        state.pushEndpoints }

/-- One statement of the sender, or one transaction of others. -/
def step (event : Event) (state : Sender) : Option Sender :=
  match event, state.pass with
  | .commit entries, _ => some { state with
      mailboxEntries := state.mailboxEntries ++ entries.map fun row => ⟨row, state.started⟩ }
  | .putPushEndpoint endpointId installationId configuration kmsKeyVersion now, _ =>
    some { state with
      pushEndpoints := putEndpoint endpointId installationId configuration kmsKeyVersion now
        state.started state.pushEndpoints }
  | .deletePushEndpoint endpointId installationId, _ => some { state with
      pushEndpoints := updateEndpoint endpointId (fun row =>
        if row.installationId = installationId then { row with status := .deleted } else row)
        state.pushEndpoints }
  | .start clock, none => some { state with
      pass := some ⟨state.watermark, clock, none⟩
      started := state.started + 1 }
  | .select rows, some ⟨cutoff, next, none⟩ =>
    if Selects (pendingEndpoints cutoff state) rows then
      some { state with pass := some ⟨cutoff, next, some rows⟩ }
    else none
  | .send response now, some ⟨cutoff, next, some (endpoint :: rest)⟩ =>
    some (sendTo opened endpoint response now
      { state with pass := some ⟨cutoff, next, some rest⟩ })
  | .finish, some ⟨_, next, some []⟩ => some { state with
      watermark := next
      pass := none
      finished := state.started }
  | .throw, some _ => some { state with pass := none }
  | _, _ => none

/-- Once a pass that started behind an entry has finished, each endpoint that has been active
since the entry was committed has had an attempt of such a pass. -/
def Covered (state : Sender) : Prop :=
  ∀ entry ∈ state.mailboxEntries, entry.passes < state.finished →
    ∀ endpoint ∈ state.pushEndpoints, endpoint.row.status = .active →
      endpoint.row.installationId = entry.row.installationId → endpoint.passes ≤ entry.passes →
        ∃ number, (number, endpoint.row.endpointId) ∈ state.attempts ∧ entry.passes < number

/-- A pass starts with no new entry at or before the watermark, and selects no more endpoints than
fit, each with an address. -/
def InTime (event : Event) (state : Sender) : Prop :=
  match event, state.pass with
  | .start _, _ => ∀ entry ∈ state.mailboxEntries, entry.passes = state.started →
      state.watermark < entry.row.createdAt
  | .select _, some pass => (pendingEndpoints pass.cutoff state).length ≤ selectLimit ∧
      ∀ row ∈ pendingEndpoints pass.cutoff state,
        (opened row.encryptedConfiguration row.kmsKeyVersion).isSome
  | _, _ => True

instance (event : Event) (state : Sender) : Decidable (InTime opened event state) := by
  unfold InTime
  split <;> infer_instance

end

section

variable {opened : Bytes → String → Option String} {state : Sender}

/-- The endpoint has had an attempt of a pass that started behind the entry. -/
def Attempted (state : Sender) (entry : Committed MailboxEntry)
    (endpoint : Committed PushEndpoint) : Prop :=
  ∃ number, (number, endpoint.row.endpointId) ∈ state.attempts ∧ entry.passes < number

def Owed (state : Sender) (entry : Committed MailboxEntry)
    (endpoint : Committed PushEndpoint) : Prop :=
  entry ∈ state.mailboxEntries ∧ endpoint ∈ state.pushEndpoints ∧ endpoint.row.status = .active ∧
    endpoint.row.installationId = entry.row.installationId ∧ endpoint.passes ≤ entry.passes

/-- What holds between two steps: no finished pass has started behind the entries that are still
to be noticed, they are behind the watermark, and the pass in flight has their endpoints. -/
structure Invariant (opened : Bytes → String → Option String) (state : Sender) : Prop where
  counted : ∀ entry ∈ state.mailboxEntries, entry.passes ≤ state.started
  ordered : state.finished ≤ state.started
  cutoff : ∀ pass, state.pass = some pass → pass.cutoff = state.watermark
  late : ∀ entry ∈ state.mailboxEntries, state.finished ≤ entry.passes →
    entry.passes < state.started → state.watermark < entry.row.createdAt
  addressed : ∀ pass rows, state.pass = some pass → pass.endpoints = some rows → ∀ row ∈ rows,
    (opened row.encryptedConfiguration row.kmsKeyVersion).isSome
  waiting : ∀ pass rows, state.pass = some pass → pass.endpoints = some rows →
    ∀ entry endpoint, Owed state entry endpoint → state.finished ≤ entry.passes →
      entry.passes < state.started →
        (∃ row ∈ rows, row.endpointId = endpoint.row.endpointId) ∨ Attempted state entry endpoint
  covered : ∀ entry endpoint, Owed state entry endpoint → entry.passes < state.finished →
    Attempted state entry endpoint

def Stays (started : Nat) (old rows : List (Committed PushEndpoint)) : Prop :=
  ∀ endpoint ∈ rows, endpoint.row.status = .active → endpoint.passes < started →
    ∃ before ∈ old, before.row.status = .active ∧
      before.row.endpointId = endpoint.row.endpointId ∧
        before.row.installationId = endpoint.row.installationId ∧
          before.passes = endpoint.passes

theorem updateEndpoint_stays {endpointId : String} {update : PushEndpoint → PushEndpoint}
    (started : Nat) (rows : List (Committed PushEndpoint))
    (same : ∀ row, (update row).endpointId = row.endpointId ∧
      (update row).installationId = row.installationId ∧
        ((update row).status = .active → row.status = .active)) :
    Stays started rows (updateEndpoint endpointId update rows) := by
  intro endpoint hendpoint hactive hpasses
  obtain ⟨before, hbefore, rfl⟩ := List.mem_map.mp hendpoint
  refine ⟨before, hbefore, ?_⟩
  split at hactive
  · next hid =>
      rw [if_pos hid]
      obtain ⟨hsame, hinstallation, hstatus⟩ := same before.row
      exact ⟨hstatus hactive, hsame.symm, hinstallation.symm, rfl⟩
  · next hid =>
      rw [if_neg hid]
      exact ⟨hactive, rfl, rfl, rfl⟩

theorem putEndpoint_stays (endpointId installationId : String) (configuration : Bytes)
    (kmsKeyVersion : String) (now started : Nat) (rows : List (Committed PushEndpoint)) :
    Stays started rows
      (putEndpoint endpointId installationId configuration kmsKeyVersion now started rows) := by
  intro endpoint hendpoint hactive hpasses
  unfold putEndpoint at hendpoint
  split at hendpoint
  · obtain ⟨before, hbefore, rfl⟩ := List.mem_map.mp hendpoint
    refine ⟨before, hbefore, ?_⟩
    split at hpasses
    · next hid =>
        rw [if_pos hid]
        dsimp only at hpasses ⊢
        split at hpasses
        · next hstatus =>
            rw [if_pos hstatus]
            exact ⟨hstatus, rfl, rfl, rfl⟩
        · exact absurd hpasses (lt_irrefl _)
    · next hid =>
        rw [if_neg hid] at hactive ⊢
        exact ⟨hactive, rfl, rfl, rfl⟩
  · obtain hold | hnew := List.mem_append.mp hendpoint
    · exact ⟨endpoint, hold, hactive, rfl, rfl, rfl⟩
    · rw [List.mem_singleton.mp hnew] at hpasses
      exact absurd hpasses (lt_irrefl _)

theorem noteResponse_same (response : PushResponse) (now : Nat) (row : PushEndpoint) :
    (noteResponse response now row).endpointId = row.endpointId ∧
      (noteResponse response now row).installationId = row.installationId ∧
        ((noteResponse response now row).status = .active → row.status = .active) := by
  cases response with
  | accepted => exact ⟨rfl, rfl, id⟩
  | gone => exact ⟨rfl, rfl, fun h => by cases h⟩
  | failed => exact ⟨rfl, rfl, id⟩

theorem Invariant.of_endpoints (h : Invariant opened state) {rows : List (Committed PushEndpoint)}
    (stays : Stays state.started state.pushEndpoints rows) :
    Invariant opened { state with pushEndpoints := rows } := by
  have back : ∀ entry endpoint, Owed { state with pushEndpoints := rows } entry endpoint →
      entry.passes < state.started →
        ∃ before, Owed state entry before ∧
          before.row.endpointId = endpoint.row.endpointId := by
    rintro entry endpoint ⟨hentry, hendpoint, hactive, hinstallation, hpasses⟩ hstarted
    obtain ⟨before, hbefore, hstatus, hid, hsame, hequal⟩ :=
      stays endpoint hendpoint hactive (Nat.lt_of_le_of_lt hpasses hstarted)
    exact ⟨before, ⟨hentry, hbefore, hstatus, hsame.trans hinstallation, hequal ▸ hpasses⟩, hid⟩
  refine ⟨h.counted, h.ordered, h.cutoff, h.late, h.addressed, ?_, ?_⟩
  · intro pass queue hpass hqueue entry endpoint howed hfinished hstarted
    obtain ⟨before, hbefore, hid⟩ := back entry endpoint howed hstarted
    have hwaits := h.waiting pass queue hpass hqueue entry before hbefore hfinished hstarted
    unfold Attempted at hwaits ⊢
    rwa [hid] at hwaits
  · intro entry endpoint howed hfinished
    obtain ⟨before, hbefore, hid⟩ :=
      back entry endpoint howed (Nat.lt_of_lt_of_le hfinished h.ordered)
    have hattempted := h.covered entry before hbefore hfinished
    unfold Attempted at hattempted ⊢
    rwa [hid] at hattempted

theorem commit_invariant (h : Invariant opened state) (entries : List MailboxEntry) :
    Invariant opened { state with
      mailboxEntries := state.mailboxEntries ++ entries.map fun row => ⟨row, state.started⟩ } := by
  have hordered := h.ordered
  have old : ∀ entry ∈ state.mailboxEntries ++ entries.map fun row => ⟨row, state.started⟩,
      entry.passes < state.started → entry ∈ state.mailboxEntries := by
    intro entry hentry hstarted
    obtain hold | hnew := List.mem_append.mp hentry
    · exact hold
    · obtain ⟨row, -, rfl⟩ := List.mem_map.mp hnew
      exact absurd hstarted (lt_irrefl _)
  refine ⟨?_, h.ordered, h.cutoff, ?_, h.addressed, ?_, ?_⟩
  · intro entry hentry
    obtain hold | hnew := List.mem_append.mp hentry
    · exact h.counted entry hold
    · obtain ⟨row, -, rfl⟩ := List.mem_map.mp hnew
      exact le_rfl
  · intro entry hentry hfinished hstarted
    exact h.late entry (old entry hentry hstarted) hfinished hstarted
  · intro pass queue hpass hqueue entry endpoint howed hfinished hstarted
    exact h.waiting pass queue hpass hqueue entry endpoint
      ⟨old entry howed.1 hstarted, howed.2⟩ hfinished hstarted
  · intro entry endpoint howed hfinished
    have hstarted : entry.passes < state.started := Nat.lt_of_lt_of_le hfinished hordered
    exact h.covered entry endpoint ⟨old entry howed.1 hstarted, howed.2⟩ hfinished

theorem start_invariant (h : Invariant opened state) (clock : Nat)
    (intime : ∀ entry ∈ state.mailboxEntries, entry.passes = state.started →
      state.watermark < entry.row.createdAt) :
    Invariant opened { state with
      pass := some ⟨state.watermark, clock, none⟩
      started := state.started + 1 } := by
  refine ⟨?_, ?_, ?_, ?_, ?_, ?_, h.covered⟩
  · intro entry hentry
    exact Nat.le_succ_of_le (h.counted entry hentry)
  · exact Nat.le_succ_of_le h.ordered
  · intro pass hpass
    rw [← Option.some.inj hpass]
  · intro entry hentry hfinished hstarted
    obtain hearlier | hnow := Nat.lt_or_eq_of_le (Nat.le_of_lt_succ hstarted)
    · exact h.late entry hentry hfinished hearlier
    · exact intime entry hentry hnow
  · intro pass rows hpass hrows
    rw [← Option.some.inj hpass] at hrows
    cases hrows
  · intro pass rows hpass hrows
    rw [← Option.some.inj hpass] at hrows
    cases hrows

theorem select_invariant (h : Invariant opened state) {cutoff next : Nat}
    {rows : List SelectedEndpoint} (hpass : state.pass = some ⟨cutoff, next, none⟩)
    (selects : Selects (pendingEndpoints cutoff state) rows)
    (fits : (pendingEndpoints cutoff state).length ≤ selectLimit)
    (addressed : ∀ row ∈ pendingEndpoints cutoff state,
      (opened row.encryptedConfiguration row.kmsKeyVersion).isSome) :
    Invariant opened { state with pass := some ⟨cutoff, next, some rows⟩ } := by
  obtain ⟨hnodup, hsub, hlength⟩ := selects
  have hall : pendingEndpoints cutoff state ⊆ rows := by
    refine (hnodup.subperm hsub).perm_of_length_le ?_ |>.symm.subset
    rw [hlength]
    exact Nat.le_min.mpr ⟨le_rfl, fits⟩
  have hcutoff : cutoff = state.watermark := h.cutoff _ hpass
  refine ⟨h.counted, h.ordered, ?_, h.late, ?_, ?_, h.covered⟩
  · intro pass hsame
    rw [← Option.some.inj hsame]
    exact hcutoff
  · intro pass queue hsame hqueue row hrow
    rw [← Option.some.inj hsame] at hqueue
    rw [← Option.some.inj hqueue] at hrow
    exact addressed row (hsub hrow)
  · intro pass queue hsame hqueue entry endpoint howed hfinished hstarted
    rw [← Option.some.inj hsame] at hqueue
    rw [← Option.some.inj hqueue]
    obtain ⟨hentry, hendpoint, hactive, hinstallation, -⟩ := howed
    have hlate : cutoff < entry.row.createdAt :=
      hcutoff ▸ h.late entry hentry hfinished hstarted
    refine .inl ⟨endpoint.row.selected, hall ?_, rfl⟩
    refine List.mem_dedup.mpr (List.mem_map.mpr ⟨endpoint, List.mem_filter.mpr ⟨hendpoint, ?_⟩, rfl⟩)
    refine (Bool.and_eq_true _ _).mpr ⟨decide_eq_true hactive, List.any_eq_true.mpr ?_⟩
    exact ⟨entry, hentry, (Bool.and_eq_true _ _).mpr
      ⟨decide_eq_true hinstallation.symm, decide_eq_true hlate⟩⟩

theorem send_invariant (h : Invariant opened state) {cutoff next : Nat}
    {endpoint : SelectedEndpoint} {rest : List SelectedEndpoint}
    (hpass : state.pass = some ⟨cutoff, next, some (endpoint :: rest)⟩) (response : PushResponse)
    (now : Nat) :
    Invariant opened (sendTo opened endpoint response now
      { state with pass := some ⟨cutoff, next, some rest⟩ }) := by
  obtain ⟨address, haddress⟩ := Option.isSome_iff_exists.mp
    (h.addressed _ _ hpass rfl endpoint List.mem_cons_self)
  have hcutoff : cutoff = state.watermark := h.cutoff _ hpass
  have noted : Invariant opened { state with
      pass := some ⟨cutoff, next, some rest⟩
      attempts := state.attempts ++ [(state.started, endpoint.endpointId)] } := by
    refine ⟨h.counted, h.ordered, ?_, h.late, ?_, ?_, ?_⟩
    · intro pass hsame
      rw [← Option.some.inj hsame]
      exact hcutoff
    · intro pass queue hsame hqueue row hrow
      rw [← Option.some.inj hsame] at hqueue
      rw [← Option.some.inj hqueue] at hrow
      exact h.addressed _ _ hpass rfl row (List.mem_cons_of_mem _ hrow)
    · intro pass queue hsame hqueue entry owed howed hfinished hstarted
      rw [← Option.some.inj hsame] at hqueue
      rw [← Option.some.inj hqueue]
      obtain ⟨row, hrow, hid⟩ | ⟨number, hattempt, hbehind⟩ :=
        h.waiting _ _ hpass rfl entry owed howed hfinished hstarted
      · obtain rfl | hrest := List.mem_cons.mp hrow
        · refine .inr ⟨state.started, List.mem_append_right _ ?_, hstarted⟩
          exact List.mem_singleton.mpr (by rw [hid])
        · exact .inl ⟨row, hrest, hid⟩
      · exact .inr ⟨number, List.mem_append_left _ hattempt, hbehind⟩
    · intro entry owed howed hfinished
      obtain ⟨number, hattempt, hbehind⟩ := h.covered entry owed howed hfinished
      exact ⟨number, List.mem_append_left _ hattempt, hbehind⟩
  unfold sendTo
  rw [haddress]
  exact noted.of_endpoints (updateEndpoint_stays _ _ (noteResponse_same response now))

theorem finish_invariant (h : Invariant opened state) {cutoff next : Nat}
    (hpass : state.pass = some ⟨cutoff, next, some []⟩) :
    Invariant opened { state with
      watermark := next
      pass := none
      finished := state.started } := by
  refine ⟨h.counted, le_rfl, nofun, ?_, nofun, nofun, ?_⟩
  · intro entry hentry hfinished hstarted
    exact absurd hstarted (Nat.not_lt.mpr hfinished)
  · intro entry endpoint howed hstarted
    obtain hcovered | hfinished := Nat.lt_or_ge entry.passes state.finished
    · exact h.covered entry endpoint howed hcovered
    · obtain ⟨row, hrow, -⟩ | hattempted :=
        h.waiting _ _ hpass rfl entry endpoint howed hfinished hstarted
      · exact absurd hrow List.not_mem_nil
      · exact hattempted

theorem throw_invariant (h : Invariant opened state) :
    Invariant opened { state with pass := none } :=
  ⟨h.counted, h.ordered, nofun, h.late, nofun, nofun, h.covered⟩

theorem step_invariant (event : Event) (state next : Sender) (h : Invariant opened state)
    (intime : InTime opened event state) (hstep : step opened event state = some next) :
    Invariant opened next := by
  unfold step at hstep
  unfold InTime at intime
  split at hstep
  · rw [← Option.some.inj hstep]
    exact commit_invariant h _
  · rw [← Option.some.inj hstep]
    exact h.of_endpoints (putEndpoint_stays _ _ _ _ _ _ _)
  · rw [← Option.some.inj hstep]
    refine h.of_endpoints (updateEndpoint_stays _ _ fun row => ?_)
    split
    · exact ⟨rfl, rfl, fun hdeleted => by cases hdeleted⟩
    · exact ⟨rfl, rfl, id⟩
  · rw [← Option.some.inj hstep]
    exact start_invariant h _ intime
  · next rows cutoff following hpass =>
      rw [hpass] at intime
      split at hstep
      · next selects =>
          rw [← Option.some.inj hstep]
          exact select_invariant h hpass selects intime.1 intime.2
      · cases hstep
  · next response now cutoff following endpoint rest hpass =>
      rw [← Option.some.inj hstep]
      exact send_invariant h hpass response now
  · next cutoff following hpass =>
      rw [← Option.some.inj hstep]
      exact finish_invariant h hpass
  · rw [← Option.some.inj hstep]
    exact throw_invariant h
  · cases hstep

end

section

variable (opened : Bytes → String → Option String)

theorem boot_invariant (clock : Nat) (endpoints : List PushEndpoint) :
    Invariant opened (boot clock endpoints) :=
  ⟨nofun, le_rfl, nofun, nofun, nofun, nofun,
    fun _ _ howed => absurd howed.1 List.not_mem_nil⟩

/-- In a run whose passes are all in time, every entry wakes the endpoints of its installation. -/
theorem wakeups_reach_endpoints (clock : Nat) (endpoints : List PushEndpoint)
    (events : List Event) (final : Sender)
    (intime : Guarded (step opened) (InTime opened) events (boot clock endpoints))
    (h : run (step opened) events (boot clock endpoints) = some final) : Covered final := by
  have hfinal : Invariant opened final :=
    invariant_of_run step_invariant (boot_invariant opened clock endpoints) intime h
  intro entry hentry hfinished endpoint hendpoint hactive hinstallation hpasses
  exact hfinal.covered entry endpoint ⟨hentry, hendpoint, hactive, hinstallation, hpasses⟩
    hfinished

end

/-- The address is in the configuration as it is. -/
def plainOpened (_ : Bytes) (_ : String) : Option String := some "https://push.example/1"

def sampleEndpoint : PushEndpoint :=
  ⟨"00000000-0000-4000-8000-000000000301", "00000000-0000-4000-8000-000000000302", .webpush, [1],
    "keyed-lab-v1", .active, 0, none, none⟩

def sampleEntry : MailboxEntry := ⟨"00000000-0000-4000-8000-000000000302", 1, 99000⟩

/-- The row is dated before the pass and committed behind its selection. -/
def lateEvents : List Event :=
  [.start 100000, .select [], .commit [sampleEntry], .finish, .start 130000, .select [], .finish]

/-- The sender between two passes that sent nothing, with the row behind its watermark. -/
def lateSender (watermark started : Nat) : Sender where
  mailboxEntries := [⟨sampleEntry, 1⟩]
  pushEndpoints := [⟨sampleEndpoint, 0⟩]
  watermark := watermark
  pass := none
  started := started
  finished := started
  attempts := []

def emptyPass (clock : Nat) : List Event := [.start clock, .select [], .finish]

theorem run_emptyPass {watermark started : Nat} (hlate : sampleEntry.createdAt ≤ watermark)
    (clock : Nat) :
    run (step plainOpened) (emptyPass clock) (lateSender watermark started) =
      some (lateSender clock (started + 1)) := by
  have hpending : pendingEndpoints watermark { lateSender watermark started with
      pass := some ⟨watermark, clock, none⟩
      started := started + 1 } = [] := by
    unfold pendingEndpoints lateSender
    simp only [List.any_cons, List.any_nil, decide_eq_false (Nat.not_lt.mpr hlate), Bool.and_false,
      Bool.or_self, List.filter_cons, List.filter_nil]
    rfl
  have hselects : Selects (pendingEndpoints watermark { lateSender watermark started with
      pass := some ⟨watermark, clock, none⟩
      started := started + 1 }) [] := by
    rw [hpending]
    decide
  have hselect : step plainOpened (.select []) { lateSender watermark started with
      pass := some ⟨watermark, clock, none⟩
      started := started + 1 } = some { lateSender watermark started with
        pass := some ⟨watermark, clock, some []⟩
        started := started + 1 } := if_pos hselects
  change (step plainOpened (.select []) { lateSender watermark started with
      pass := some ⟨watermark, clock, none⟩
      started := started + 1 }).bind (run (step plainOpened) [.finish]) = _
  rw [hselect]
  rfl

theorem run_emptyPasses {watermark started : Nat} (hlate : sampleEntry.createdAt ≤ watermark)
    (clocks : List Nat) (onward : ∀ clock ∈ clocks, sampleEntry.createdAt ≤ clock) :
    ∃ later, run (step plainOpened) (clocks.flatMap emptyPass) (lateSender watermark started) =
      some later ∧ later.attempts = [] := by
  induction clocks generalizing watermark started with
  | nil => exact ⟨_, rfl, rfl⟩
  | cons clock clocks ih =>
    obtain ⟨later, hlater, hnone⟩ := @ih clock (started + 1) (onward clock List.mem_cons_self)
      (fun other hother => onward other (List.mem_cons_of_mem _ hother))
    refine ⟨later, ?_, hnone⟩
    rw [List.flatMap_cons, run_append, run_emptyPass hlate]
    exact hlater

/-- The row is skipped by the next pass, and by all that follow. -/
theorem late_entry_wakes_nobody :
    (∃ final, run (step plainOpened) lateEvents (boot 100000 [sampleEndpoint]) = some final ∧
      ¬ Covered final) ∧
      ∀ clocks : List Nat, (∀ clock ∈ clocks, 99000 ≤ clock) →
        ∃ later, run (step plainOpened) (lateEvents ++ clocks.flatMap emptyPass)
          (boot 100000 [sampleEndpoint]) = some later ∧ later.attempts = [] := by
  have hrun : run (step plainOpened) lateEvents (boot 100000 [sampleEndpoint]) =
      some (lateSender 130000 2) := by decide
  refine ⟨⟨_, hrun, ?_⟩, ?_⟩
  · intro covered
    obtain ⟨number, hattempt, -⟩ := covered ⟨sampleEntry, 1⟩ List.mem_cons_self (by decide)
      ⟨sampleEndpoint, 0⟩ List.mem_cons_self rfl rfl (by decide)
    exact List.not_mem_nil hattempt
  · intro clocks onward
    rw [run_append, hrun]
    exact run_emptyPasses (by decide) clocks onward

/-- The same row, committed before the pass starts. -/
def timelyEvents : List Event :=
  [.commit [sampleEntry], .start 100000, .select [sampleEndpoint.selected], .send .accepted 100050,
    .finish]

theorem wakeups_reach_endpoint :
    Covered { mailboxEntries := [⟨sampleEntry, 0⟩]
              pushEndpoints := [⟨{ sampleEndpoint with lastSuccessAt := some 100050 }, 0⟩]
              watermark := 100000
              pass := none
              started := 1
              finished := 1
              attempts := [(1, sampleEndpoint.endpointId)] } :=
  wakeups_reach_endpoints plainOpened 100000 [sampleEndpoint] timelyEvents _ (by decide) (by decide)

end JbChat.Keeper.PushWakeups
