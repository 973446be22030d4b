/- source: none
   digest: What membership intents may do to conversations, KeyPackages and the log. -/

import JbChat.Store.Tables

/-!
A view keeps the columns that decide about a membership change. A move says which intent was
created, closed, proposed or committed; several live intents may be closed at once.
-/

set_option autoImplicit false

namespace JbChat.Store.MembershipModel

open Foundation.HashTrace Delivery.Snapshot Delivery.EnvelopeLog Tables

section

variable {α κ : Type} {selected : α → Bool} {change : α → α} {rows : List α} {column : α → κ}

theorem mem_updateWhere {row : α} :
    row ∈ updateWhere selected change rows ↔
      (∃ old ∈ rows, selected old = true ∧ change old = row) ∨
        (row ∈ rows ∧ selected row = false) := by
  unfold updateWhere
  rw [List.mem_map]
  constructor
  · rintro ⟨old, hold, rfl⟩
    by_cases h : selected old = true
    · exact Or.inl ⟨old, hold, h, by rw [if_pos h]⟩
    · rw [if_neg h]
      exact Or.inr ⟨hold, Bool.eq_false_iff.mpr h⟩
  · rintro (⟨old, hold, h, rfl⟩ | ⟨hold, h⟩)
    · exact ⟨old, hold, by rw [if_pos h]⟩
    · exact ⟨row, hold, by rw [if_neg (Bool.eq_false_iff.mp h)]⟩

theorem map_updateWhere {seen : κ → Bool} {changed : κ → κ}
    (selects : ∀ row, seen (column row) = selected row)
    (changes : ∀ row, column (change row) = changed (column row)) (rows : List α) :
    (updateWhere selected change rows).map column = updateWhere seen changed (rows.map column) := by
  unfold updateWhere
  rw [List.map_map, List.map_map]
  apply List.map_congr_left
  intro row _
  simp only [Function.comp_apply, selects]
  split
  · exact changes row
  · rfl

theorem map_updateWhere_of_same (change : α → α) (same : ∀ row, column (change row) = column row)
    (selected : α → Bool) (rows : List α) :
    (updateWhere selected change rows).map column = rows.map column := by
  unfold updateWhere
  rw [List.map_map]
  apply List.map_congr_left
  intro row _
  simp only [Function.comp_apply]
  split
  · exact same row
  · rfl

theorem nodup_updateWhere (change : α → α) (same : ∀ row, column (change row) = column row)
    (selected : α → Bool) (distinct : (rows.map column).Nodup) :
    ((updateWhere selected change rows).map column).Nodup := by
  rw [map_updateWhere_of_same change same]
  exact distinct

theorem eq_of_column_eq (distinct : (rows.map column).Nodup) {a b : α} (ha : a ∈ rows)
    (hb : b ∈ rows) (same : column a = column b) : a = b :=
  List.inj_on_of_nodup_map distinct ha hb same

theorem nodup_map_append_singleton {row : α} (distinct : (rows.map column).Nodup)
    (fresh : ∀ other ∈ rows, column other ≠ column row) :
    ((rows ++ [row]).map column).Nodup := by
  rw [List.map_append, List.nodup_append]
  refine ⟨distinct, List.nodup_singleton _, ?_⟩
  intro a ha b hb
  obtain ⟨other, hother, rfl⟩ := List.mem_map.mp ha
  rw [List.mem_singleton.mp hb]
  exact fresh other hother

end

/-- The columns of a conversation that membership changes move. -/
structure Slot where
  conversationId : String
  state : ConversationState
  epoch : Nat
  lastPosition : Nat

structure LogEntry where
  conversationId : String
  position : Nat
  envelopeClass : EnvelopeClass
  epoch : Nat

structure MembershipView where
  slots : List Slot
  intents : List MembershipIntentRow
  packages : List KeyPackageRow
  log : List LogEntry

def isIntent (intentId : String) (row : MembershipIntentRow) : Bool :=
  decide (row.intentId = intentId)

def isSlot (conversationId : String) (slot : Slot) : Bool :=
  decide (slot.conversationId = conversationId)

def withState (state : IntentState) (row : MembershipIntentRow) : MembershipIntentRow :=
  { row with state := state }

def committedWith (envelope : String × Nat) (row : MembershipIntentRow) : MembershipIntentRow :=
  { row with
    state := .committed
    committedEnvelope := some envelope }

def inState (state : ConversationState) (slot : Slot) : Slot := { slot with state := state }

def isAvailable (keyPackageRef : Bytes) (row : KeyPackageRow) : Bool :=
  decide (row.keyPackageRef = keyPackageRef ∧ row.state = .available)

def takenBy (intentId now : String) (row : KeyPackageRow) : KeyPackageRow :=
  { row with
    state := .taken
    takenAt := some now
    takenByIntentId := some intentId }

def usedAt (now : String) (row : KeyPackageRow) : KeyPackageRow :=
  { row with
    state := .used
    usedAt := some now }

namespace MembershipView

def takePackage (keyPackageRef : Option Bytes) (intentId now : String)
    (packages : List KeyPackageRow) : List KeyPackageRow :=
  match keyPackageRef with
  | none => packages
  | some ref => updateWhere (isAvailable ref) (takenBy intentId now) packages

/-- A new intent takes its KeyPackage and its conversation out of service. -/
def create (now : String) (intent : MembershipIntentRow) (view : MembershipView) :
    MembershipView :=
  { view with
    slots := updateWhere (fun slot => decide (slot.conversationId = intent.conversationId ∧
      slot.state = .active)) (inState .membershipPending) view.slots
    intents := view.intents ++ [intent]
    packages := takePackage intent.keyPackageRef intent.intentId now view.packages }

def isFreed (closed intents : List MembershipIntentRow) (slot : Slot) : Prop :=
  slot.state = .membershipPending ∧
    (∃ row ∈ closed, row.operation ≠ .remove ∧ row.conversationId = slot.conversationId) ∧
    ∀ row ∈ intents, row.conversationId = slot.conversationId → row.state.isLive = false

instance (closed intents : List MembershipIntentRow) (slot : Slot) :
    Decidable (isFreed closed intents slot) :=
  inferInstanceAs (Decidable (_ ∧ _ ∧ _))

/-- The selected intents end without a Commit. -/
def close (selected : MembershipIntentRow → Bool) (final : IntentState) (view : MembershipView) :
    MembershipView :=
  let intents := updateWhere selected (withState final) view.intents
  { view with
    slots := updateWhere (fun slot => decide (isFreed (view.intents.filter selected) intents slot))
      (inState .active) view.slots
    intents := intents }

/-- The proposal of an intent takes the next position of the log. -/
def propose (intent : MembershipIntentRow) (slot : Slot) (view : MembershipView) :
    MembershipView :=
  { view with
    slots := updateWhere (isSlot intent.conversationId)
      (fun row => { row with lastPosition := slot.lastPosition + 1 }) view.slots
    intents := updateWhere (isIntent intent.intentId) (withState .proposed) view.intents
    log := view.log ++ [⟨intent.conversationId, slot.lastPosition + 1, .externalProposal,
      slot.epoch⟩] }

/-- The Commit of an intent takes the next position and opens the next epoch. -/
def commit (intent : MembershipIntentRow) (slot : Slot) (envelope : String × Nat) (now : String)
    (view : MembershipView) : MembershipView where
  slots := updateWhere (isSlot intent.conversationId) (fun row => { row with
    state := .active
    epoch := slot.epoch + 1
    lastPosition := slot.lastPosition + 1 }) view.slots
  intents := updateWhere (isIntent intent.intentId) (committedWith envelope) view.intents
  packages := if intent.operation = .add then
      updateWhere (fun row => decide (row.takenByIntentId = some intent.intentId)) (usedAt now)
        view.packages
    else view.packages
  log := view.log ++ [⟨intent.conversationId, slot.lastPosition + 1, .mlsCommit, slot.epoch⟩]

/-- An application envelope takes the next position. -/
def append (slot : Slot) (view : MembershipView) : MembershipView :=
  { view with
    slots := updateWhere (isSlot slot.conversationId)
      (fun row => { row with lastPosition := slot.lastPosition + 1 }) view.slots
    log := view.log ++ [⟨slot.conversationId, slot.lastPosition + 1, .application, slot.epoch⟩] }

end MembershipView

inductive Move where
  | quiet
  | create (intent : MembershipIntentRow)
  | close (closed : List MembershipIntentRow)
  | propose (intent : MembershipIntentRow)
  | commit (intent : MembershipIntentRow)
  | append (conversationId : String)

inductive Step (view : MembershipView) : Move → MembershipView → Prop where
  | quiet : Step view .quiet view
  | create (now : String) {intent : MembershipIntentRow} {slot : Slot} (found : slot ∈ view.slots)
      (same : slot.conversationId = intent.conversationId) (active : slot.state = .active)
      (requested : intent.state = .requested)
      (fresh : ∀ other ∈ view.intents, other.intentId ≠ intent.intentId)
      (available : ∀ ref ∈ intent.keyPackageRef, ∃ row ∈ view.packages,
        row.keyPackageRef = ref ∧ row.state = .available ∧ row.takenAt = none) :
      Step view (.create intent) (view.create now intent)
  | close {selected : MembershipIntentRow → Bool} {final : IntentState}
      (ended : final = .cancelled ∨ final = .expired)
      (live : ∀ row ∈ view.intents, selected row = true → row.state.isLive = true) :
      Step view (.close (view.intents.filter selected)) (view.close selected final)
  | propose {intent : MembershipIntentRow} {slot : Slot} (found : intent ∈ view.intents)
      (waiting : intent.state = .requested ∨ intent.state = .authorized) (seen : slot ∈ view.slots)
      (same : slot.conversationId = intent.conversationId) :
      Step view (.propose intent) (view.propose intent slot)
  | commit (envelope : String × Nat) (now : String) {intent : MembershipIntentRow} {slot : Slot}
      (found : intent ∈ view.intents) (proposed : intent.state = .proposed)
      (seen : slot ∈ view.slots) (same : slot.conversationId = intent.conversationId)
      (pending : slot.state = .membershipPending) :
      Step view (.commit intent) (view.commit intent slot envelope now)
  | append {slot : Slot} (seen : slot ∈ view.slots) (active : slot.state = .active) :
      Step view (.append slot.conversationId) (view.append slot)

section

variable {slot : Slot} {keyPackageRef : Option Bytes} {now : String} {packages : List KeyPackageRow}
  {intent : MembershipIntentRow} {rows : List MembershipIntentRow}
  {selected : MembershipIntentRow → Bool} {after : MembershipView}

/-- What the intents of a reachable state promise. -/
structure Orderly (view : MembershipView) : Prop where
  slotsDistinct : (view.slots.map Slot.conversationId).Nodup
  intentsDistinct : (view.intents.map MembershipIntentRow.intentId).Nodup
  packagesDistinct : (view.packages.map KeyPackageRow.keyPackageRef).Nodup
  untaken : ∀ row ∈ view.packages, row.takenAt = none → row.takenByIntentId = none
  oneLive : ∀ a ∈ view.intents, ∀ b ∈ view.intents, a.state.isLive = true →
    b.state.isLive = true → a.conversationId = b.conversationId → a = b
  activeClear : ∀ slot ∈ view.slots, slot.state = .active → ∀ row ∈ view.intents,
    row.conversationId = slot.conversationId → row.state.isLive = false
  removalOwed : ∀ row ∈ view.intents, row.operation = .remove → row.state ≠ .committed →
    ∀ slot ∈ view.slots, slot.conversationId = row.conversationId → slot.state ≠ .active
  removalAlone : ∀ row ∈ view.intents, row.operation = .remove → row.state ≠ .committed →
    ∀ other ∈ view.intents, other.state.isLive = true →
      other.conversationId = row.conversationId → other = row

variable {view : MembershipView}

theorem live_ne_committed {state : IntentState} (h : state.isLive = true) : state ≠ .committed := by
  rintro rfl
  cases h

theorem Orderly.noRemoval (orderly : Orderly view) (seen : slot ∈ view.slots)
    (active : slot.state = .active) {row : MembershipIntentRow} (found : row ∈ view.intents)
    (same : row.conversationId = slot.conversationId) (removal : row.operation = .remove) :
    row.state = .committed := by
  by_contra owed
  exact orderly.removalOwed row found removal owed slot seen same.symm active

theorem takePackage_distinct {intentId : String}
    (distinct : (packages.map KeyPackageRow.keyPackageRef).Nodup) :
    ((MembershipView.takePackage keyPackageRef intentId now packages).map
      KeyPackageRow.keyPackageRef).Nodup := by
  cases keyPackageRef with
  | none => exact distinct
  | some ref => exact nodup_updateWhere (takenBy intentId now) (fun _ => rfl) _ distinct

theorem takePackage_untaken {intentId : String}
    (untaken : ∀ row ∈ packages, row.takenAt = none → row.takenByIntentId = none) :
    ∀ row ∈ MembershipView.takePackage keyPackageRef intentId now packages,
      row.takenAt = none → row.takenByIntentId = none := by
  cases keyPackageRef with
  | none => exact untaken
  | some ref =>
    intro row hrow hnone
    rcases mem_updateWhere.mp hrow with ⟨old, -, -, rfl⟩ | ⟨hold, -⟩
    · cases hnone
    · exact untaken row hold hnone

/-- The new intent is the only live one: its conversation was active. -/
theorem Orderly.create (orderly : Orderly view) (seen : slot ∈ view.slots)
    (same : slot.conversationId = intent.conversationId) (active : slot.state = .active)
    (requested : intent.state = .requested)
    (fresh : ∀ other ∈ view.intents, other.intentId ≠ intent.intentId) :
    Orderly (view.create now intent) := by
  have clear : ∀ row ∈ view.intents, row.conversationId = intent.conversationId →
      row.state.isLive = false := fun row hrow hsame =>
    orderly.activeClear slot seen active row hrow (hsame.trans same.symm)
  have live : intent.state.isLive = true := by rw [requested]; rfl
  have none_active : ∀ other ∈ (view.create now intent).slots,
      other.conversationId = intent.conversationId → other.state ≠ .active := by
    intro other hother hsame
    rcases mem_updateWhere.mp hother with ⟨old, -, -, rfl⟩ | ⟨-, hkept⟩
    · intro h
      cases h
    · intro h
      exact of_decide_eq_false hkept ⟨hsame, h⟩
  -- a slot of the new view is active only when it was before
  have was_active : ∀ other ∈ (view.create now intent).slots, other.state = .active →
      other ∈ view.slots := by
    intro other hother hactive
    rcases mem_updateWhere.mp hother with ⟨old, -, -, rfl⟩ | ⟨hold, -⟩
    · cases hactive
    · exact hold
  refine ⟨?_, ?_, ?_, ?_, ?_, ?_, ?_, ?_⟩
  · exact nodup_updateWhere (inState .membershipPending) (fun _ => rfl) _ orderly.slotsDistinct
  · exact nodup_map_append_singleton orderly.intentsDistinct fresh
  · exact takePackage_distinct orderly.packagesDistinct
  · exact takePackage_untaken orderly.untaken
  · intro a ha b hb hlivea hliveb hsame
    rcases List.mem_append.mp ha with olda | newa <;> rcases List.mem_append.mp hb with oldb | newb
    · exact orderly.oneLive a olda b oldb hlivea hliveb hsame
    · rw [List.mem_singleton.mp newb] at hsame
      rw [clear a olda hsame] at hlivea
      cases hlivea
    · rw [List.mem_singleton.mp newa] at hsame
      rw [clear b oldb hsame.symm] at hliveb
      cases hliveb
    · rw [List.mem_singleton.mp newa, List.mem_singleton.mp newb]
  · intro other hother hactive row hrow hsame
    rcases List.mem_append.mp hrow with old | new
    · exact orderly.activeClear other (was_active other hother hactive) hactive row old hsame
    · rw [List.mem_singleton.mp new] at hsame
      exact absurd hactive (none_active other hother hsame.symm)
  · intro row hrow hremove howed other hother hsame hactive
    rcases List.mem_append.mp hrow with old | new
    · exact orderly.removalOwed row old hremove howed other (was_active other hother hactive)
        hsame hactive
    · rw [List.mem_singleton.mp new] at hsame
      exact none_active other hother hsame hactive
  · intro row hrow hremove howed other hother hlive hsame
    rcases List.mem_append.mp hrow with old | new <;>
      rcases List.mem_append.mp hother with oldother | newother
    · exact orderly.removalAlone row old hremove howed other oldother hlive hsame
    · rw [List.mem_singleton.mp newother] at hsame
      exact absurd (orderly.noRemoval seen active old (hsame.symm.trans same.symm) hremove) howed
    · rw [List.mem_singleton.mp new] at hsame
      rw [clear other oldother hsame] at hlive
      cases hlive
    · rw [List.mem_singleton.mp newother, List.mem_singleton.mp new]

/-- Every intent comes from an earlier one, and none of them woke up. -/
structure Evolves (before after : List MembershipIntentRow) : Prop where
  distinct : (after.map MembershipIntentRow.intentId).Nodup
  origin : ∀ row ∈ after, ∃ old ∈ before, old.intentId = row.intentId ∧
    old.conversationId = row.conversationId ∧ old.operation = row.operation ∧
    (row.state.isLive = true → old.state.isLive = true) ∧
    (row.state ≠ .committed → old.state ≠ .committed)

theorem Evolves.updateWhere {change : MembershipIntentRow → MembershipIntentRow}
    (distinct : (rows.map MembershipIntentRow.intentId).Nodup)
    (id : ∀ row, (change row).intentId = row.intentId)
    (conversation : ∀ row, (change row).conversationId = row.conversationId)
    (operation : ∀ row, (change row).operation = row.operation)
    (live : ∀ row ∈ rows, selected row = true → row.state.isLive = true) :
    Evolves rows (Tables.updateWhere selected change rows) := by
  refine ⟨nodup_updateWhere change id selected distinct, ?_⟩
  intro row hrow
  rcases mem_updateWhere.mp hrow with ⟨old, hold, hselected, rfl⟩ | ⟨hold, -⟩
  · have hlive := live old hold hselected
    exact ⟨old, hold, (id old).symm, (conversation old).symm, (operation old).symm,
      fun _ => hlive, fun _ => live_ne_committed hlive⟩
  · exact ⟨row, hold, rfl, rfl, rfl, fun h => h, fun h => h⟩

/-- A conversation without live intents and without an uncommitted removal. -/
def Settled (intents : List MembershipIntentRow) (conversationId : String) : Prop :=
  ∀ row ∈ intents, row.conversationId = conversationId →
    row.state.isLive = false ∧ (row.operation = .remove → row.state = .committed)

theorem Orderly.evolve (orderly : Orderly view)
    (slots : (after.slots.map Slot.conversationId).Nodup)
    (packages : (after.packages.map KeyPackageRow.keyPackageRef).Nodup)
    (untaken : ∀ row ∈ after.packages, row.takenAt = none → row.takenByIntentId = none)
    (evolves : Evolves view.intents after.intents)
    (activated : ∀ slot ∈ after.slots, slot.state = .active →
      (∃ old ∈ view.slots, old.conversationId = slot.conversationId ∧ old.state = .active) ∨
        Settled after.intents slot.conversationId) : Orderly after := by
  refine ⟨slots, evolves.distinct, packages, untaken, ?_, ?_, ?_, ?_⟩
  · intro a ha b hb hlivea hliveb hsame
    obtain ⟨olda, hmema, hida, hconva, -, wasa, -⟩ := evolves.origin a ha
    obtain ⟨oldb, hmemb, hidb, hconvb, -, wasb, -⟩ := evolves.origin b hb
    have hold : olda = oldb := orderly.oneLive olda hmema oldb hmemb (wasa hlivea) (wasb hliveb)
      (hconva.trans (hsame.trans hconvb.symm))
    exact eq_of_column_eq evolves.distinct ha hb (by rw [← hida, ← hidb, hold])
  · intro slot hslot hactive row hrow hsame
    rcases activated slot hslot hactive with ⟨old, hold, hid, hwas⟩ | settled
    · obtain ⟨origin, horigin, -, hconv, -, was, -⟩ := evolves.origin row hrow
      have hdead := orderly.activeClear old hold hwas origin horigin
        (hconv.trans (hsame.trans hid.symm))
      exact Bool.eq_false_iff.mpr fun hlive => by rw [was hlive] at hdead; cases hdead
    · exact (settled row hrow hsame).1
  · intro row hrow hremove howed slot hslot hsame hactive
    rcases activated slot hslot hactive with ⟨old, hold, hid, hwas⟩ | settled
    · obtain ⟨origin, horigin, -, hconv, hop, -, was⟩ := evolves.origin row hrow
      exact orderly.removalOwed origin horigin (hop.trans hremove) (was howed) old hold
        (hid.trans (hsame.trans hconv.symm)) hwas
    · exact howed ((settled row hrow hsame.symm).2 hremove)
  · intro row hrow hremove howed other hother hlive hsame
    obtain ⟨origin, horigin, hid, hconv, hop, -, was⟩ := evolves.origin row hrow
    obtain ⟨live, hmem, hidlive, hconvlive, -, waslive, -⟩ := evolves.origin other hother
    have hold : live = origin := orderly.removalAlone origin horigin (hop.trans hremove)
      (was howed) live hmem (waslive hlive) (hconvlive.trans (hsame.trans hconv.symm))
    exact eq_of_column_eq evolves.distinct hother hrow (by rw [← hidlive, ← hid, hold])

theorem Orderly.close (orderly : Orderly view) {final : IntentState}
    (live : ∀ row ∈ view.intents, selected row = true → row.state.isLive = true) :
    Orderly (view.close selected final) := by
  have evolves : Evolves view.intents (view.close selected final).intents :=
    Evolves.updateWhere orderly.intentsDistinct (fun _ => rfl) (fun _ => rfl) (fun _ => rfl) live
  refine orderly.evolve ?_ orderly.packagesDistinct orderly.untaken evolves ?_
  · exact nodup_updateWhere (inState .active) (fun _ => rfl) _ orderly.slotsDistinct
  · intro slot hslot hactive
    rcases mem_updateWhere.mp hslot with ⟨old, hold, hfreed, rfl⟩ | ⟨hold, -⟩
    · right
      obtain ⟨hpending, ⟨closed, hclosed, hkind, hconv⟩, hclear⟩ := of_decide_eq_true hfreed
      obtain ⟨hfound, hselected⟩ := List.mem_filter.mp hclosed
      intro row hrow hsame
      refine ⟨hclear row hrow hsame, ?_⟩
      intro hremove
      by_contra howed
      obtain ⟨origin, horigin, -, horiginConv, hop, -, was⟩ := evolves.origin row hrow
      have honly : closed = origin := orderly.removalAlone origin horigin (hop.trans hremove)
        (was howed) closed hfound (live closed hfound hselected)
        (hconv.trans (hsame.symm.trans horiginConv.symm))
      exact hkind (honly ▸ hop.trans hremove)
    · exact Or.inl ⟨slot, hold, rfl, hactive⟩

theorem selects_only (distinct : (rows.map MembershipIntentRow.intentId).Nodup)
    (found : intent ∈ rows) (live : intent.state.isLive = true) :
    ∀ row ∈ rows, isIntent intent.intentId row = true → row.state.isLive = true := by
  intro row hrow hid
  rw [eq_of_column_eq distinct hrow found (of_decide_eq_true hid)]
  exact live

/-- Only the last position of slots is written, and intents go on. -/
theorem Orderly.advance (orderly : Orderly view) {selected : Slot → Bool} {position : Nat}
    (slots : after.slots =
      updateWhere selected (fun row => { row with lastPosition := position }) view.slots)
    (packages : after.packages = view.packages) (evolves : Evolves view.intents after.intents) :
    Orderly after := by
  refine orderly.evolve ?_ (packages ▸ orderly.packagesDistinct) (packages ▸ orderly.untaken)
    evolves ?_
  · rw [slots]
    exact nodup_updateWhere (fun row : Slot => { row with lastPosition := position })
      (fun _ => rfl) _ orderly.slotsDistinct
  · intro other hother hactive
    rw [slots] at hother
    rcases mem_updateWhere.mp hother with ⟨old, hold, -, rfl⟩ | ⟨hold, -⟩
    · exact Or.inl ⟨old, hold, rfl, hactive⟩
    · exact Or.inl ⟨other, hold, rfl, hactive⟩

theorem Orderly.propose (orderly : Orderly view) (found : intent ∈ view.intents)
    (waiting : intent.state = .requested ∨ intent.state = .authorized) :
    Orderly (view.propose intent slot) := by
  have live : intent.state.isLive = true := by rcases waiting with h | h <;> rw [h] <;> rfl
  exact orderly.advance rfl rfl (Evolves.updateWhere orderly.intentsDistinct (fun _ => rfl)
    (fun _ => rfl) (fun _ => rfl) (selects_only orderly.intentsDistinct found live))

theorem usedPackages_untaken {selected : KeyPackageRow → Bool}
    (untaken : ∀ row ∈ packages, row.takenAt = none → row.takenByIntentId = none) :
    ∀ row ∈ updateWhere selected (usedAt now) packages,
      row.takenAt = none → row.takenByIntentId = none := by
  intro row hrow hnone
  rcases mem_updateWhere.mp hrow with ⟨old, hold, -, rfl⟩ | ⟨hold, -⟩
  · exact untaken old hold hnone
  · exact untaken row hold hnone

theorem Orderly.commit (orderly : Orderly view) {envelope : String × Nat}
    (found : intent ∈ view.intents) (proposed : intent.state = .proposed) :
    Orderly (view.commit intent slot envelope now) := by
  have live : intent.state.isLive = true := by rw [proposed]; rfl
  have evolves : Evolves view.intents (view.commit intent slot envelope now).intents :=
    Evolves.updateWhere orderly.intentsDistinct (fun _ => rfl) (fun _ => rfl) (fun _ => rfl)
      (selects_only orderly.intentsDistinct found live)
  refine orderly.evolve ?_ ?_ ?_ evolves ?_
  · exact nodup_updateWhere (fun row : Slot => { row with
      state := .active
      epoch := slot.epoch + 1
      lastPosition := slot.lastPosition + 1 }) (fun _ => rfl) _ orderly.slotsDistinct
  · unfold MembershipView.commit
    dsimp only
    split
    · exact nodup_updateWhere (usedAt now) (fun _ => rfl) _ orderly.packagesDistinct
    · exact orderly.packagesDistinct
  · unfold MembershipView.commit
    dsimp only
    split
    · exact usedPackages_untaken orderly.untaken
    · exact orderly.untaken
  · intro other hother hactive
    rcases mem_updateWhere.mp hother with ⟨old, hold, hsame, rfl⟩ | ⟨hold, -⟩
    · right
      intro row hrow hconv
      -- a row of this conversation is the committed one, or it was neither live nor owed
      rcases mem_updateWhere.mp hrow with ⟨origin, -, -, rfl⟩ | ⟨horigin, hid⟩
      · exact ⟨rfl, fun _ => rfl⟩
      · have hne : intent ≠ row := by
          rintro rfl
          exact of_decide_eq_false hid rfl
        have hintent : row.conversationId = intent.conversationId :=
          hconv.trans (of_decide_eq_true hsame)
        constructor
        · apply Bool.eq_false_iff.mpr
          intro hlive
          exact hne (orderly.oneLive intent found row horigin live hlive hintent.symm)
        · intro hremove
          by_contra howed
          exact hne (orderly.removalAlone row horigin hremove howed intent found live hintent.symm)
    · exact Or.inl ⟨other, hold, rfl, hactive⟩

theorem Orderly.append (orderly : Orderly view) (slot : Slot) : Orderly (view.append slot) :=
  orderly.advance rfl rfl ⟨orderly.intentsDistinct, fun row hrow =>
    ⟨row, hrow, rfl, rfl, rfl, fun h => h, fun h => h⟩⟩

theorem Step.orderly {move : Move} (step : Step view move after)
    (orderly : Orderly view) : Orderly after := by
  cases step with
  | quiet => exact orderly
  | create now found same active requested fresh _ =>
    exact orderly.create found same active requested fresh
  | close _ live => exact orderly.close live
  | propose found waiting _ _ => exact orderly.propose found waiting
  | commit envelope now found proposed _ _ _ => exact orderly.commit found proposed
  | append _ _ => exact orderly.append _

end

section

variable {view after : MembershipView} {move : Move} {intent : MembershipIntentRow}
  {conversationId : String}

/-- A KeyPackage that left the pool stays out of it, with the intent that it was taken by. -/
structure KeepsReservation (old row : KeyPackageRow) : Prop where
  ref : old.keyPackageRef = row.keyPackageRef
  spent : old.state ≠ .available → row.state ≠ .available
  reserved : ∀ intentId, old.takenByIntentId = some intentId →
    row.takenByIntentId = some intentId

theorem KeepsReservation.refl (row : KeyPackageRow) : KeepsReservation row row :=
  ⟨rfl, fun h => h, fun _ h => h⟩

theorem KeepsReservation.trans {a b c : KeyPackageRow} (first : KeepsReservation a b)
    (second : KeepsReservation b c) : KeepsReservation a c :=
  ⟨first.ref.trans second.ref, fun h => second.spent (first.spent h),
    fun intentId h => second.reserved intentId (first.reserved intentId h)⟩

theorem Orderly.takePackage_keeps (orderly : Orderly view) {now : String}
    (available : ∀ ref ∈ intent.keyPackageRef, ∃ row ∈ view.packages,
      row.keyPackageRef = ref ∧ row.state = .available ∧ row.takenAt = none) :
    ∀ row ∈ MembershipView.takePackage intent.keyPackageRef intent.intentId now view.packages,
      ∃ old ∈ view.packages, KeepsReservation old row := by
  cases hpackage : intent.keyPackageRef with
  | none => exact fun row hrow => ⟨row, hrow, KeepsReservation.refl row⟩
  | some ref =>
    intro row hrow
    rcases mem_updateWhere.mp hrow with ⟨old, hold, hselected, rfl⟩ | ⟨hold, -⟩
    · obtain ⟨chosen, hchosen, hsame, -, huntaken⟩ := available ref hpackage
      obtain ⟨hid, -⟩ := of_decide_eq_true hselected
      obtain rfl := eq_of_column_eq orderly.packagesDistinct hold hchosen (hid.trans hsame.symm)
      refine ⟨old, hold, rfl, fun _ h => (by cases h), ?_⟩
      intro intentId htaken
      rw [orderly.untaken old hold huntaken] at htaken
      cases htaken
    · exact ⟨row, hold, KeepsReservation.refl row⟩

theorem Step.packages (step : Step view move after) (orderly : Orderly view) :
    ∀ row ∈ after.packages, ∃ old ∈ view.packages, KeepsReservation old row := by
  cases step with
  | create now _ _ _ _ _ available => exact orderly.takePackage_keeps available
  | commit envelope now _ _ _ _ _ =>
    intro row hrow
    unfold MembershipView.commit at hrow
    dsimp only at hrow
    split at hrow
    · rcases mem_updateWhere.mp hrow with ⟨old, hold, -, rfl⟩ | ⟨hold, -⟩
      · exact ⟨old, hold, rfl, fun _ h => (by cases h), fun _ h => h⟩
      · exact ⟨row, hold, KeepsReservation.refl row⟩
    · exact ⟨row, hrow, KeepsReservation.refl row⟩
  | quiet | close _ _ | propose _ _ _ _ | append _ _ =>
      exact fun row hrow => ⟨row, hrow, KeepsReservation.refl row⟩

/-- Every intent with a KeyPackage has it out of the pool and in its own name. -/
def Reserving (view : MembershipView) : Prop :=
  ∀ intent ∈ view.intents, ∀ ref ∈ intent.keyPackageRef, ∃ row ∈ view.packages,
    row.keyPackageRef = ref ∧ row.state ≠ .available ∧ row.takenByIntentId = some intent.intentId

theorem Reserving.updateWhere {selected : MembershipIntentRow → Bool}
    {change : MembershipIntentRow → MembershipIntentRow} (reserving : Reserving view)
    (intents : after.intents = Tables.updateWhere selected change view.intents)
    (same : ∀ row, (change row).intentId = row.intentId ∧
      (change row).keyPackageRef = row.keyPackageRef)
    (packages : ∀ old ∈ view.packages, old.state ≠ .available → ∃ row ∈ after.packages,
      row.keyPackageRef = old.keyPackageRef ∧ row.state ≠ .available ∧
        row.takenByIntentId = old.takenByIntentId) : Reserving after := by
  intro intent hintent ref href
  obtain ⟨origin, horigin, hid, hsame⟩ : ∃ origin ∈ view.intents,
      intent.intentId = origin.intentId ∧ intent.keyPackageRef = origin.keyPackageRef := by
    rw [intents] at hintent
    rcases mem_updateWhere.mp hintent with ⟨old, hold, -, rfl⟩ | ⟨hold, -⟩
    · exact ⟨old, hold, same old⟩
    · exact ⟨intent, hold, rfl, rfl⟩
  obtain ⟨old, hold, hold_ref, spent, taken⟩ := reserving origin horigin ref (hsame ▸ href)
  obtain ⟨row, hrow, hrow_ref, hspent, htaken⟩ := packages old hold spent
  exact ⟨row, hrow, hrow_ref.trans hold_ref, hspent, by rw [htaken, taken, hid]⟩

theorem Reserving.create {now : String} (reserving : Reserving view)
    (available : ∀ ref ∈ intent.keyPackageRef, ∃ row ∈ view.packages,
      row.keyPackageRef = ref ∧ row.state = .available ∧ row.takenAt = none) :
    Reserving (view.create now intent) := by
  intro other hother ref href
  rcases List.mem_append.mp hother with hold | hnew
  · obtain ⟨row, hrow, hsame, spent, taken⟩ := reserving other hold ref href
    refine ⟨row, ?_, hsame, spent, taken⟩
    change row ∈ MembershipView.takePackage intent.keyPackageRef intent.intentId now view.packages
    unfold MembershipView.takePackage
    split
    · exact hrow
    · exact mem_updateWhere.mpr (Or.inr ⟨hrow, decide_eq_false fun h => spent h.2⟩)
  · obtain rfl := List.mem_singleton.mp hnew
    obtain ⟨row, hrow, hsame, hstate, -⟩ := available ref href
    refine ⟨takenBy other.intentId now row, ?_, hsame, fun h => (by cases h), rfl⟩
    change _ ∈ MembershipView.takePackage other.keyPackageRef other.intentId now view.packages
    rw [Option.mem_def.mp href]
    exact mem_updateWhere.mpr (Or.inl ⟨row, hrow, decide_eq_true ⟨hsame, hstate⟩, rfl⟩)

theorem Step.reserving (step : Step view move after) (reserving : Reserving view) :
    Reserving after := by
  have kept : ∀ old ∈ view.packages, old.state ≠ .available → ∃ row ∈ view.packages,
      row.keyPackageRef = old.keyPackageRef ∧ row.state ≠ .available ∧
        row.takenByIntentId = old.takenByIntentId :=
    fun old hold spent => ⟨old, hold, rfl, spent, rfl⟩
  cases step with
  | quiet => exact reserving
  | append _ _ => exact reserving
  | create now _ _ _ _ _ available => exact reserving.create available
  | close _ _ => exact reserving.updateWhere rfl (fun _ => ⟨rfl, rfl⟩) kept
  | propose _ _ _ _ => exact reserving.updateWhere rfl (fun _ => ⟨rfl, rfl⟩) kept
  | @commit envelope now intent slot _ _ _ _ _ =>
    refine reserving.updateWhere rfl (fun _ => ⟨rfl, rfl⟩) fun old hold spent => ?_
    unfold MembershipView.commit
    dsimp only
    split
    · by_cases hselected : decide (old.takenByIntentId = some intent.intentId) = true
      · exact ⟨usedAt now old, mem_updateWhere.mpr (Or.inl ⟨old, hold, hselected, rfl⟩), rfl,
          nofun, rfl⟩
      · exact ⟨old, mem_updateWhere.mpr (Or.inr ⟨hold, Bool.eq_false_iff.mpr hselected⟩), rfl,
          spent, rfl⟩
    · exact kept old hold spent

def Owed (view : MembershipView) (intentId conversationId target : String) : Prop :=
  ∃ row ∈ view.intents, row.intentId = intentId ∧ row.conversationId = conversationId ∧
    row.targetInstallationId = target ∧ row.operation = .remove ∧ row.state ≠ .committed

theorem Step.creates (step : Step view (.create intent) after) : intent ∈ after.intents := by
  cases step with
  | create => exact List.mem_append_right _ (List.mem_singleton_self _)

theorem Step.owes (step : Step view (.create intent) after) (removal : intent.operation = .remove) :
    Owed after intent.intentId intent.conversationId intent.targetInstallationId := by
  cases step with
  | create now _ _ _ requested _ _ =>
    refine ⟨intent, List.mem_append_right _ (List.mem_singleton.mpr rfl), rfl, rfl, rfl, removal, ?_⟩
    rw [requested]
    decide

theorem Owed.not_active {intentId target : String} (owed : Owed view intentId conversationId target)
    (orderly : Orderly view) :
    ∀ slot ∈ view.slots, slot.conversationId = conversationId → slot.state ≠ .active := by
  obtain ⟨row, hrow, -, hconv, -, hremove, howed⟩ := owed
  exact fun slot hslot hsame =>
    orderly.removalOwed row hrow hremove howed slot hslot (hsame.trans hconv.symm)

theorem Owed.updateWhere {intentId target : String} {selected : MembershipIntentRow → Bool}
    {final : IntentState} (pending : final ≠ .committed)
    (owed : Owed view intentId conversationId target)
    (changed : after.intents = Tables.updateWhere selected (withState final) view.intents) :
    Owed after intentId conversationId target := by
  obtain ⟨row, hrow, hid, hconv, htarget, hremove, howed⟩ := owed
  unfold Owed
  rw [changed]
  by_cases h : selected row = true
  · exact ⟨withState final row, mem_updateWhere.mpr (Or.inl ⟨row, hrow, h, rfl⟩), hid, hconv,
      htarget, hremove, pending⟩
  · exact ⟨row, mem_updateWhere.mpr (Or.inr ⟨hrow, Bool.eq_false_iff.mpr h⟩), hid, hconv, htarget,
      hremove, howed⟩

theorem Owed.step {intentId target : String} (owed : Owed view intentId conversationId target)
    (step : Step view move after) :
    Owed after intentId conversationId target ∨
      ∃ intent ∈ view.intents, move = .commit intent ∧ intent.intentId = intentId := by
  cases step with
  | quiet => exact Or.inl owed
  | append _ _ => exact Or.inl owed
  | create now _ _ _ _ _ _ =>
    obtain ⟨row, hrow, rest⟩ := owed
    exact Or.inl ⟨row, List.mem_append_left _ hrow, rest⟩
  | close ended _ =>
    refine Or.inl (owed.updateWhere ?_ rfl)
    rcases ended with h | h <;> rw [h] <;> decide
  | propose _ _ _ _ => exact Or.inl (owed.updateWhere (by decide) rfl)
  | @commit envelope now intent slot found _ _ _ _ =>
    by_cases hid : intent.intentId = intentId
    · exact Or.inr ⟨intent, found, rfl, hid⟩
    · obtain ⟨row, hrow, hsame, rest⟩ := owed
      refine Or.inl ⟨row, mem_updateWhere.mpr (Or.inr ⟨hrow, ?_⟩), hsame, rest⟩
      exact decide_eq_false fun h => hid (h.symm.trans hsame)

end

section

variable {view after : MembershipView} {move : Move}

def Awaited (view : MembershipView) : Prop :=
  ∀ slot ∈ view.slots, slot.state = .membershipPending →
    ∃ row ∈ view.intents, row.conversationId = slot.conversationId ∧ row.state.isLive = true

/-- A pending conversation that waits for nothing. -/
structure Stuck (view : MembershipView) (conversationId : String) : Prop where
  pending : ∀ slot ∈ view.slots, slot.conversationId = conversationId →
    slot.state = .membershipPending
  clear : ∀ row ∈ view.intents, row.conversationId = conversationId → row.state.isLive = false

/-- The moves that give up on a removal. -/
def Move.abandonsRemoval : Move → Prop
  | .close closed => ∃ row ∈ closed, row.operation = .remove
  | _ => False

theorem Awaited.close (awaited : Awaited view) {selected : MembershipIntentRow → Bool}
    {final : IntentState} (kept : ¬ (Move.close (view.intents.filter selected)).abandonsRemoval) :
    Awaited (view.close selected final) := by
  intro slot hslot hpending
  rcases mem_updateWhere.mp hslot with ⟨old, -, -, rfl⟩ | ⟨hold, hheld⟩
  · cases hpending
  · obtain ⟨row, hrow, hsame, hlive⟩ := awaited slot hold hpending
    by_cases hselected : selected row = true
    · -- the closed intent was no removal, so another live one holds the conversation
      have hclosed : row ∈ view.intents.filter selected := List.mem_filter.mpr ⟨hrow, hselected⟩
      have hkind : row.operation ≠ .remove := fun h => kept ⟨row, hclosed, h⟩
      by_contra hnone
      refine of_decide_eq_false hheld ⟨hpending, ⟨row, hclosed, hkind, hsame⟩, ?_⟩
      intro other hother hconv
      exact Bool.eq_false_iff.mpr fun h => hnone ⟨other, hother, hconv, h⟩
    · exact ⟨row, mem_updateWhere.mpr (Or.inr ⟨hrow, Bool.eq_false_iff.mpr hselected⟩), hsame,
        hlive⟩

theorem Awaited.step (awaited : Awaited view) (orderly : Orderly view)
    (step : Step view move after) (kept : ¬ move.abandonsRemoval) : Awaited after := by
  cases step with
  | quiet => exact awaited
  | @create now intent slot _ _ _ requested _ _ =>
    intro other hother hpending
    rcases mem_updateWhere.mp hother with ⟨old, -, hselected, rfl⟩ | ⟨hold, -⟩
    · obtain ⟨hsame, -⟩ := of_decide_eq_true hselected
      exact ⟨intent, List.mem_append_right _ (List.mem_singleton.mpr rfl), hsame.symm,
        by rw [requested]; rfl⟩
    · obtain ⟨row, hrow, rest⟩ := awaited other hold hpending
      exact ⟨row, List.mem_append_left _ hrow, rest⟩
  | close _ _ => exact awaited.close kept
  | @propose intent slot _ _ _ _ =>
    intro other hother hpending
    obtain ⟨old, hold, hid, hwas⟩ : ∃ old ∈ view.slots,
        old.conversationId = other.conversationId ∧ old.state = .membershipPending := by
      rcases mem_updateWhere.mp hother with ⟨old, hold, -, rfl⟩ | ⟨hold, -⟩
      · exact ⟨old, hold, rfl, hpending⟩
      · exact ⟨other, hold, rfl, hpending⟩
    obtain ⟨row, hrow, hsame, hlive⟩ := awaited old hold hwas
    by_cases hselected : isIntent intent.intentId row = true
    · exact ⟨withState .proposed row, mem_updateWhere.mpr (Or.inl ⟨row, hrow, hselected, rfl⟩),
        hsame.trans hid, rfl⟩
    · exact ⟨row, mem_updateWhere.mpr (Or.inr ⟨hrow, Bool.eq_false_iff.mpr hselected⟩),
        hsame.trans hid, hlive⟩
  | @commit envelope now intent slot found _ _ _ _ =>
    intro other hother hpending
    rcases mem_updateWhere.mp hother with ⟨old, -, -, rfl⟩ | ⟨hold, hother⟩
    · cases hpending
    · obtain ⟨row, hrow, hsame, hlive⟩ := awaited other hold hpending
      refine ⟨row, mem_updateWhere.mpr (Or.inr ⟨hrow, ?_⟩), hsame, hlive⟩
      apply decide_eq_false
      intro hid
      obtain rfl := eq_of_column_eq orderly.intentsDistinct hrow found hid
      exact of_decide_eq_false hother hsame.symm
  | append _ _ =>
    intro other hother hpending
    rcases mem_updateWhere.mp hother with ⟨old, hold, -, rfl⟩ | ⟨hold, -⟩
    · exact awaited old hold hpending
    · exact awaited other hold hpending

/-- Nothing leads out of a stuck conversation. -/
theorem Stuck.step {conversationId : String} (stuck : Stuck view conversationId)
    (orderly : Orderly view) (step : Step view move after) : Stuck after conversationId := by
  cases step with
  | quiet => exact stuck
  | @create now intent slot found same active _ _ _ =>
    have hother : intent.conversationId ≠ conversationId := by
      intro h
      rw [stuck.pending slot found (same.trans h)] at active
      cases active
    constructor
    · intro other hmem hid
      rcases mem_updateWhere.mp hmem with ⟨old, -, -, rfl⟩ | ⟨hold, -⟩
      · rfl
      · exact stuck.pending other hold hid
    · intro row hrow hid
      rcases List.mem_append.mp hrow with old | new
      · exact stuck.clear row old hid
      · rw [List.mem_singleton.mp new] at hid
        exact absurd hid hother
  | @close selected final _ live =>
    constructor
    · intro other hmem hid
      rcases mem_updateWhere.mp hmem with ⟨old, hold, hfreed, rfl⟩ | ⟨hold, -⟩
      · obtain ⟨-, ⟨row, hrow, -, hconv⟩, -⟩ := of_decide_eq_true hfreed
        obtain ⟨hfound, hselected⟩ := List.mem_filter.mp hrow
        have hdead := stuck.clear row hfound (hconv.trans hid)
        rw [live row hfound hselected] at hdead
        cases hdead
      · exact stuck.pending other hold hid
    · intro row hrow hid
      rcases mem_updateWhere.mp hrow with ⟨old, hold, hselected, rfl⟩ | ⟨hold, -⟩
      · have hdead := stuck.clear old hold hid
        rw [live old hold hselected] at hdead
        cases hdead
      · exact stuck.clear row hold hid
  | @propose intent slot found waiting _ _ =>
    have hother : intent.conversationId ≠ conversationId := by
      intro h
      have hdead := stuck.clear intent found h
      rcases waiting with h | h <;> rw [h] at hdead <;> cases hdead
    constructor
    · intro other hmem hid
      rcases mem_updateWhere.mp hmem with ⟨old, hold, -, rfl⟩ | ⟨hold, -⟩
      · exact stuck.pending old hold hid
      · exact stuck.pending other hold hid
    · intro row hrow hid
      rcases mem_updateWhere.mp hrow with ⟨old, hold, hselected, rfl⟩ | ⟨hold, -⟩
      · obtain rfl := eq_of_column_eq orderly.intentsDistinct hold found
          (of_decide_eq_true hselected)
        exact absurd hid hother
      · exact stuck.clear row hold hid
  | @commit envelope now intent slot found proposed _ _ _ =>
    have hother : intent.conversationId ≠ conversationId := by
      intro h
      have hdead := stuck.clear intent found h
      rw [proposed] at hdead
      cases hdead
    constructor
    · intro other hmem hid
      rcases mem_updateWhere.mp hmem with ⟨old, hold, hsame, rfl⟩ | ⟨hold, -⟩
      · exact absurd ((of_decide_eq_true hsame).symm.trans hid) hother
      · exact stuck.pending other hold hid
    · intro row hrow hid
      rcases mem_updateWhere.mp hrow with ⟨old, -, -, rfl⟩ | ⟨hold, -⟩
      · rfl
      · exact stuck.clear row hold hid
  | append _ _ =>
    constructor
    · intro other hmem hid
      rcases mem_updateWhere.mp hmem with ⟨old, hold, -, rfl⟩ | ⟨hold, -⟩
      · exact stuck.pending old hold hid
      · exact stuck.pending other hold hid
    · exact stuck.clear

end

end JbChat.Store.MembershipModel
