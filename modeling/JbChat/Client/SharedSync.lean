/- source: src/shared/SharedSupportClient.ts, protocol.ts
   digest: Which syncs show the transcript that has been read, whatever requests fail. -/

import JbChat.Client.AddressShares

/-!
The server answers the request of a pass at one time and the answer arrives at another, or the
request fails. Between requests envelopes are stored and the roster changes.
-/

set_option autoImplicit false

namespace JbChat.Client.SharedSync

open AddressShares Domain.Fulfillment Domain.SharedRoom Foundation.GuardedRun

section

variable (dateParses : String → Bool)

/-- What an honest server answers: the next envelopes, as many as it likes. -/
def servedPage (room : Room) (afterCursor count : Nat) (more : Bool) : Page :=
  let envelopes :=
    (room.envelopes.filter fun envelope => afterCursor < envelope.cursor).take count
  ⟨envelopes, (envelopes.getLast?.map SharedEnvelope.cursor).getD afterCursor,
    more && !envelopes.isEmpty⟩

/-- The checks of `syncSharedEnvelopes` on a page. -/
def acceptsPage (afterCursor : Nat) (page : Page) : Bool :=
  decide ((afterCursor :: page.envelopes.map SharedEnvelope.cursor).Pairwise (· < ·)) &&
    decide (page.nextCursor =
      (page.envelopes.getLast?.map SharedEnvelope.cursor).getD afterCursor) &&
    (page.envelopes.isEmpty || decide (afterCursor < page.nextCursor)) &&
    !(page.hasMore && page.envelopes.isEmpty)

/-- The server and the client. `read`: the envelopes read, each with the conversation it was opened
with; `fetched`: the conversation fetched last; `resolved`: a pass has just resolved;
`unshown`: a pass has failed after a change, and no snapshot has been built since. -/
structure World where
  room : Room
  client : SupportClient
  read : List (SharedEnvelope × SharedConversation)
  fetched : SharedConversation
  resolved : Bool
  unshown : Bool

def World.start (actor : SharedActor) (room : Room) (conversation : SharedConversation) : World :=
  ⟨{ room with envelopes := [] }, .construct actor conversation, [], conversation, false, false⟩

inductive Event where
  | syncNow
  | serve (count : Nat) (more : Bool)
  | receive (delivered : Bool)
  | store (envelope : SharedEnvelope)
  | changeRoster (rosterVersion epoch : Nat) (memberships : List SharedRosterMember)

def openedWith (entry : SharedEnvelope × SharedConversation) : Option AuthenticatedSupportEvent :=
  openSimulatedEnvelope dateParses entry.1 (some entry.2)

namespace World

variable (world : World)

def serve (count : Nat) (more : Bool) : Option SupportClient :=
  match world.client.syncInFlight with
  | some (.conversation none) => some { world.client with
      syncInFlight := some (.conversation (some world.room.getConversation)) }
  | some (.page snapshotChanged pageCount none) => some { world.client with
      syncInFlight := some (.page snapshotChanged pageCount
        (some (servedPage world.room world.client.cursor count more))) }
  | _ => none

/-- What has arrived passes the checks of `syncSharedEnvelopes`. -/
def accepts : Bool :=
  match world.client.syncInFlight with
  | some (.page _ _ (some page)) => acceptsPage world.client.cursor page
  | _ => true

/-- The envelopes that the pass reads when its answer arrives. -/
def arriving (arrives : Bool) : List (SharedEnvelope × SharedConversation) :=
  match world.client.syncInFlight, arrives with
  | some (.page _ _ (some page)), true =>
    page.envelopes.map fun envelope => (envelope, world.client.conversation)
  | _, _ => []

def fetchedNow (arrives : Bool) : SharedConversation :=
  match world.client.syncInFlight, arrives with
  | some (.conversation (some conversation)), true => conversation
  | _, _ => world.fetched

/-- The pass has changed what a snapshot shows, with what now arrives. -/
def changed (arrives : Bool) : Bool :=
  (match world.client.syncInFlight with
    | some (.page snapshotChanged _ _) => snapshotChanged
    | _ => false) || !((world.arriving arrives).filterMap (openedWith dateParses)).isEmpty

def receive (arrives : Bool) : Option World :=
  (world.client.receiveSync dateParses arrives).map fun (client, ended) =>
    { world with
      client := client
      read := world.read ++ world.arriving arrives
      fetched := world.fetchedNow arrives
      resolved := decide (ended = some true)
      unshown := match ended with
        | none => world.unshown
        | some true => world.unshown && !world.changed dateParses arrives
        | some false => world.unshown || world.changed dateParses arrives }

end World

def step : Event → World → Option World
  | .syncNow, world => some { world with client := world.client.syncNow, resolved := false }
  | .serve count more, world =>
    (world.serve count more).map fun client => { world with client := client, resolved := false }
  | .receive delivered, world => world.receive dateParses (delivered && world.accepts)
  | .store envelope, world =>
    if 0 < envelope.cursor ∧ ∀ other ∈ world.room.envelopes, other.cursor < envelope.cursor then
      some { world with
        room := { world.room with envelopes := world.room.envelopes ++ [envelope] }
        resolved := false }
    else none
  | .changeRoster rosterVersion epoch memberships, world =>
    some { world with
      room := { world.room with rosterVersion, epoch, memberships }
      resolved := false }

/-- The pass is about to resolve without a change of its own, after a failed pass that left one. -/
def resolvesUnshown (event : Event) (world : World) : Bool :=
  match event, world.client.syncInFlight with
  | .receive delivered, some (.page _ _ (some page)) =>
    delivered && world.accepts && world.unshown && !page.hasMore && !world.changed dateParses true
  | _, _ => false

/-- The snapshot is the one of the conversation fetched last and of the opened events of all
envelopes up to the cursor, in their order and each once. -/
structure Shows (world : World) : Prop where
  read : world.read.map Prod.fst =
    world.room.envelopes.filter fun envelope => envelope.cursor ≤ world.client.cursor
  snapshot : world.client.snapshot =
    buildSnapshot world.fetched (world.read.filterMap (openedWith dateParses))

end

section

variable {dateParses : String → Bool} {world next : World} {client : SupportClient}
  {snapshotChanged : Bool} {pageCount : Nat} {page : Page}

/-- What has been read is a part of the log, up to the cursor, and what is shown of it. -/
structure Inv (dateParses : String → Bool) (world : World) : Prop where
  ordered : (world.room.envelopes.map SharedEnvelope.cursor).Pairwise (· < ·)
  split : ∃ rest, world.room.envelopes = world.read.map Prod.fst ++ rest ∧
    (∀ envelope ∈ world.read.map Prod.fst, envelope.cursor ≤ world.client.cursor) ∧
    ∀ envelope ∈ rest, world.client.cursor < envelope.cursor
  reached : world.client.cursor = 0 ∨
    ∃ envelope ∈ world.room.envelopes, envelope.cursor = world.client.cursor
  events : world.client.events = world.read.filterMap (openedWith dateParses)
  fetched : world.client.conversation = world.fetched
  page : ∀ snapshotChanged pageCount page,
    world.client.syncInFlight = some (.page snapshotChanged pageCount (some page)) →
      page.envelopes <+: (world.room.envelopes.filter fun envelope =>
        world.client.cursor < envelope.cursor) ∧
      page.nextCursor =
        (page.envelopes.getLast?.map SharedEnvelope.cursor).getD world.client.cursor
  shown : world.client.snapshot = buildSnapshot world.client.conversation world.client.events ∨
    world.unshown = true ∨
    ∃ pageCount answer, world.client.syncInFlight = some (.page true pageCount answer)

theorem Inv.read (inv : Inv dateParses world) : world.read.map Prod.fst =
    world.room.envelopes.filter fun envelope => envelope.cursor ≤ world.client.cursor := by
  obtain ⟨rest, hrooms, hread, hrest⟩ := inv.split
  have hkept : (world.read.map Prod.fst).filter
      (fun envelope => decide (envelope.cursor ≤ world.client.cursor)) =
        world.read.map Prod.fst :=
    List.filter_eq_self.mpr fun envelope hmem => decide_eq_true (hread envelope hmem)
  have hdropped : rest.filter
      (fun envelope => decide (envelope.cursor ≤ world.client.cursor)) = [] := by
    rw [List.filter_eq_nil_iff]
    intro envelope hmem
    have := hrest envelope hmem
    simp only [decide_eq_true_eq]
    omega
  rw [hrooms, List.filter_append, hkept, hdropped, List.append_nil]

theorem remaining_eq {read rest : List SharedEnvelope} {cursor : Nat}
    (hread : ∀ envelope ∈ read, envelope.cursor ≤ cursor)
    (hrest : ∀ envelope ∈ rest, cursor < envelope.cursor) :
    (read ++ rest).filter (fun envelope => decide (cursor < envelope.cursor)) = rest := by
  have hdropped : read.filter (fun envelope => decide (cursor < envelope.cursor)) = [] := by
    rw [List.filter_eq_nil_iff]
    intro envelope hmem
    have := hread envelope hmem
    simp only [decide_eq_true_eq]
    omega
  have hkept : rest.filter (fun envelope => decide (cursor < envelope.cursor)) = rest :=
    List.filter_eq_self.mpr fun envelope hmem => decide_eq_true (hrest envelope hmem)
  rw [List.filter_append, hdropped, hkept, List.nil_append]

theorem Inv.start (actor : SharedActor) (room : Room) (conversation : SharedConversation) :
    Inv dateParses (World.start actor room conversation) where
  ordered := List.Pairwise.nil
  split := ⟨[], rfl, fun _ h => absurd h List.not_mem_nil, fun _ h => absurd h List.not_mem_nil⟩
  reached := Or.inl rfl
  events := rfl
  fetched := rfl
  page := fun _ _ _ h => by cases h
  shown := Or.inl rfl

theorem Inv.syncNow (inv : Inv dateParses world) :
    Inv dateParses { world with client := world.client.syncNow, resolved := false } := by
  cases hsync : world.client.syncInFlight with
  | some sync =>
    have hsame : world.client.syncNow = world.client := by
      unfold SupportClient.syncNow
      rw [hsync]
      rfl
    rw [hsame]
    exact ⟨inv.ordered, inv.split, inv.reached, inv.events, inv.fetched, inv.page, inv.shown⟩
  | none =>
    have hbegun : world.client.syncNow =
        { world.client with syncInFlight := some (.conversation none) } := by
      unfold SupportClient.syncNow
      rw [hsync]
      rfl
    rw [hbegun]
    refine ⟨inv.ordered, inv.split, inv.reached, inv.events, inv.fetched,
      fun _ _ _ h => (by cases h), ?_⟩
    rcases inv.shown with hshown | hunshown | ⟨_, _, hchanged⟩
    · exact Or.inl hshown
    · exact Or.inr (Or.inl hunshown)
    · rw [hsync] at hchanged
      cases hchanged

theorem Inv.serve (inv : Inv dateParses world) {count : Nat} {more : Bool}
    (h : world.serve count more = some client) :
    Inv dateParses { world with client := client, resolved := false } := by
  unfold World.serve at h
  split at h
  · next hsync =>
    cases h
    refine ⟨inv.ordered, inv.split, inv.reached, inv.events, inv.fetched,
      fun _ _ _ h => (by cases h), ?_⟩
    rcases inv.shown with hshown | hunshown | ⟨_, _, hchanged⟩
    · exact Or.inl hshown
    · exact Or.inr (Or.inl hunshown)
    · rw [hsync] at hchanged
      cases hchanged
  · next snapshotChanged pageCount hsync =>
    cases h
    refine ⟨inv.ordered, inv.split, inv.reached, inv.events, inv.fetched, ?_, ?_⟩
    · rintro _ _ page ⟨⟩
      exact ⟨List.take_prefix _ _, rfl⟩
    · rcases inv.shown with hshown | hunshown | ⟨_, _, hchanged⟩
      · exact Or.inl hshown
      · exact Or.inr (Or.inl hunshown)
      · rw [hsync] at hchanged
        cases hchanged
        exact Or.inr (Or.inr ⟨_, _, rfl⟩)
  · cases h

theorem Inv.store (inv : Inv dateParses world) {envelope : SharedEnvelope}
    (hpositive : 0 < envelope.cursor)
    (hlast : ∀ other ∈ world.room.envelopes, other.cursor < envelope.cursor) :
    Inv dateParses { world with
      room := { world.room with envelopes := world.room.envelopes ++ [envelope] }
      resolved := false } := by
  have hcursor : world.client.cursor < envelope.cursor := by
    rcases inv.reached with hzero | ⟨stored, hstored, hsame⟩
    · omega
    · exact hsame ▸ hlast stored hstored
  refine ⟨?_, ?_, ?_, inv.events, inv.fetched, ?_, inv.shown⟩
  · change ((world.room.envelopes ++ [envelope]).map SharedEnvelope.cursor).Pairwise (· < ·)
    rw [List.map_append, List.pairwise_append]
    refine ⟨inv.ordered, List.pairwise_singleton _ _, ?_⟩
    intro cursor hmem other hother
    obtain ⟨stored, hstored, rfl⟩ := List.mem_map.mp hmem
    obtain rfl := List.mem_singleton.mp hother
    exact hlast stored hstored
  · obtain ⟨rest, hrooms, hread, hrest⟩ := inv.split
    refine ⟨rest ++ [envelope], ?_, hread, ?_⟩
    · change world.room.envelopes ++ [envelope] = _
      rw [hrooms, List.append_assoc]
    · intro other hother
      rcases List.mem_append.mp hother with hold | hnew
      · exact hrest other hold
      · obtain rfl := List.mem_singleton.mp hnew
        exact hcursor
  · rcases inv.reached with hzero | ⟨stored, hstored, hsame⟩
    · exact Or.inl hzero
    · exact Or.inr ⟨stored, List.mem_append_left _ hstored, hsame⟩
  · intro snapshotChanged pageCount page hsync
    obtain ⟨hserved, hnext⟩ := inv.page _ _ _ hsync
    refine ⟨hserved.trans ?_, hnext⟩
    rw [List.filter_append]
    exact List.prefix_append _ _

/-- A page moves the cursor over its own envelopes and over no other. -/
theorem advance {read page rest : List SharedEnvelope} {cursor nextCursor : Nat}
    (ordered : ((read ++ (page ++ rest)).map SharedEnvelope.cursor).Pairwise (· < ·))
    (hread : ∀ envelope ∈ read, envelope.cursor ≤ cursor)
    (hrest : ∀ envelope ∈ page ++ rest, cursor < envelope.cursor)
    (hnext : nextCursor = (page.getLast?.map SharedEnvelope.cursor).getD cursor) :
    (∀ envelope ∈ read ++ page, envelope.cursor ≤ nextCursor) ∧
      ∀ envelope ∈ rest, nextCursor < envelope.cursor := by
  rcases List.eq_nil_or_concat' page with rfl | ⟨front, last, rfl⟩
  · obtain rfl : nextCursor = cursor := hnext
    rw [List.append_nil]
    exact ⟨hread, hrest⟩
  · obtain rfl : nextCursor = last.cursor := by
      rw [hnext, List.getLast?_concat]
      rfl
    rw [List.pairwise_map, List.pairwise_append, List.pairwise_append, List.pairwise_append]
      at ordered
    obtain ⟨-, ⟨⟨-, -, hfront⟩, -, hbehind⟩, -⟩ := ordered
    refine ⟨?_, fun envelope hmem => hbehind last (by simp) envelope hmem⟩
    intro envelope hmem
    rcases List.mem_append.mp hmem with hold | hpage
    · have := hread envelope hold
      have := hrest last (by simp)
      omega
    · rcases List.mem_append.mp hpage with hfirst | hlast
      · exact Nat.le_of_lt (hfront envelope hfirst last (by simp))
      · rw [List.mem_singleton.mp hlast]

/-- What a pass reads when its page arrives. -/
theorem Inv.page_read (inv : Inv dateParses world)
    (hsync : world.client.syncInFlight = some (.page snapshotChanged pageCount (some page)))
    {resolved unshown : Bool} (hcursor : client.cursor = page.nextCursor)
    (hconversation : client.conversation = world.client.conversation)
    (hevents : client.events = world.client.events ++
      (world.arriving true).filterMap (openedWith dateParses))
    (hflight : ∀ changed count page, client.syncInFlight ≠ some (.page changed count (some page)))
    (hshown : client.snapshot = buildSnapshot client.conversation client.events ∨
      unshown = true ∨ ∃ count answer, client.syncInFlight = some (.page true count answer)) :
    Inv dateParses { world with
      client := client
      read := world.read ++ world.arriving true
      resolved := resolved
      unshown := unshown } := by
  obtain ⟨hserved, hnext⟩ := inv.page _ _ _ hsync
  obtain ⟨rest, hrooms, hread, hrest⟩ := inv.split
  rw [hrooms, remaining_eq hread hrest] at hserved
  obtain ⟨behind, rfl⟩ := hserved
  have hordered := inv.ordered
  rw [hrooms] at hordered
  obtain ⟨hupto, hbehind⟩ := advance hordered hread hrest hnext
  have harriving : (world.arriving true).map Prod.fst = page.envelopes := by
    unfold World.arriving
    rw [hsync]
    simp only [List.map_map, Function.comp_def, List.map_id']
  refine ⟨inv.ordered, ⟨behind, ?_, ?_, ?_⟩, ?_, ?_, ?_, ?_, hshown⟩
  · change world.room.envelopes = (world.read ++ world.arriving true).map Prod.fst ++ behind
    rw [List.map_append, harriving, hrooms, List.append_assoc]
  · change ∀ envelope ∈ (world.read ++ world.arriving true).map Prod.fst,
      envelope.cursor ≤ client.cursor
    rw [List.map_append, harriving, hcursor]
    exact hupto
  · change ∀ envelope ∈ behind, client.cursor < envelope.cursor
    rw [hcursor]
    exact hbehind
  · change client.cursor = 0 ∨ ∃ envelope ∈ world.room.envelopes, envelope.cursor = client.cursor
    rcases List.eq_nil_or_concat' page.envelopes with hnil | ⟨front, last, hconcat⟩
    · rw [hnil] at hnext
      rw [hcursor, hnext]
      exact inv.reached
    · refine Or.inr ⟨last, ?_, ?_⟩
      · rw [hrooms, hconcat]
        simp
      · rw [hcursor, hnext, hconcat, List.getLast?_concat]
        rfl
  · change client.events = (world.read ++ world.arriving true).filterMap (openedWith dateParses)
    rw [hevents, inv.events, List.filterMap_append]
  · exact hconversation.trans inv.fetched
  · intro changed count page hpage
    exact absurd hpage (hflight changed count page)

/-- The invariant, and what has been shown when a pass has just resolved. -/
def Good (dateParses : String → Bool) (world : World) : Prop :=
  Inv dateParses world ∧ (world.resolved = true → Shows dateParses world)

theorem Inv.good (inv : Inv dateParses world) (h : world.resolved = false) :
    Good dateParses world :=
  ⟨inv, fun hresolved => absurd (h.symm.trans hresolved) Bool.false_ne_true⟩

theorem Inv.good_of_shown (inv : Inv dateParses world) (h : world.client.snapshot =
    buildSnapshot world.client.conversation world.client.events) : Good dateParses world := by
  refine ⟨inv, fun _ => ⟨inv.read, ?_⟩⟩
  rw [h, inv.fetched, inv.events]

theorem Inv.fail (inv : Inv dateParses world) (h : world.receive dateParses false = some next) :
    Good dateParses next := by
  unfold World.receive SupportClient.receiveSync at h
  cases hsync : world.client.syncInFlight with
  | none =>
    rw [hsync] at h
    cases h
  | some sync =>
    rw [hsync] at h
    cases h
    have harriving : world.arriving false = [] := by
      unfold World.arriving
      split
      · next hdelivered => cases hdelivered
      · rfl
    have hfetched : world.fetchedNow false = world.fetched := by
      unfold World.fetchedNow
      split
      · next hdelivered => cases hdelivered
      · rfl
    refine Inv.good ⟨inv.ordered, ?_, inv.reached, ?_, ?_, fun _ _ _ h => (by cases h), ?_⟩ rfl
    · simpa only [harriving, List.append_nil] using inv.split
    · simpa only [harriving, List.append_nil] using inv.events
    · exact inv.fetched.trans hfetched.symm
    · rcases inv.shown with hshown | hunshown | ⟨_, _, hchanged⟩
      · exact Or.inl hshown
      · refine Or.inr (Or.inl ?_)
        change (world.unshown || _) = true
        rw [hunshown, Bool.true_or]
      · refine Or.inr (Or.inl ?_)
        change (world.unshown || world.changed dateParses false) = true
        unfold World.changed
        rw [hchanged, Bool.true_or, Bool.or_true]

theorem Inv.fetch (inv : Inv dateParses world) {conversation : SharedConversation}
    (hsync : world.client.syncInFlight = some (.conversation (some conversation)))
    (h : world.receive dateParses true = some next) : Good dateParses next := by
  have harriving : world.arriving true = [] := by
    unfold World.arriving
    rw [hsync]
  have hfetched : world.fetchedNow true = conversation := by
    unfold World.fetchedNow
    rw [hsync]
  unfold World.receive SupportClient.receiveSync at h
  rw [hsync] at h
  cases h
  refine Inv.good ⟨inv.ordered, ?_, inv.reached, ?_, hfetched.symm, fun _ _ _ h => (by cases h),
    ?_⟩ rfl
  · simpa only [harriving, List.append_nil, SupportClient.receiveConversation] using inv.split
  · simpa only [harriving, List.append_nil, SupportClient.receiveConversation] using inv.events
  · by_cases hsame : world.client.conversation = conversation
    · rcases inv.shown with hshown | hunshown | ⟨_, _, hchanged⟩
      · exact Or.inl (hsame ▸ hshown)
      · exact Or.inr (Or.inl hunshown)
      · rw [hsync] at hchanged
        cases hchanged
    · refine Or.inr (Or.inr ⟨1, none, ?_⟩)
      change some (Sync.page (decide (world.client.conversation ≠ conversation)) 1 none) = _
      rw [decide_eq_true hsame]

/-- The pass goes on, fails at the limit, or resolves, when its page arrives. -/
theorem Inv.readPage (inv : Inv dateParses world)
    (hsync : world.client.syncInFlight = some (.page snapshotChanged pageCount (some page)))
    (allowed : (world.unshown && !page.hasMore && !world.changed dateParses true) = false)
    (h : world.receive dateParses true = some next) : Good dateParses next := by
  have hopened : (world.arriving true).filterMap (openedWith dateParses) =
      page.envelopes.filterMap fun envelope =>
        openSimulatedEnvelope dateParses envelope (some world.client.conversation) := by
    unfold World.arriving
    rw [hsync, List.filterMap_map]
    rfl
  have hchanged : world.changed dateParses true =
      (snapshotChanged || !(page.envelopes.filterMap fun envelope => openSimulatedEnvelope
        dateParses envelope (some world.client.conversation)).isEmpty) := by
    unfold World.changed
    rw [hopened, hsync]
  have hfetched : world.fetchedNow true = world.fetched := by
    unfold World.fetchedNow
    rw [hsync]
  -- What the snapshot lacks has been changed by this pass or by one that failed.
  have hstate : world.client.snapshot = buildSnapshot world.client.conversation
      (world.client.events ++ (world.arriving true).filterMap (openedWith dateParses)) ∨
        world.unshown = true ∨ world.changed dateParses true = true := by
    rcases inv.shown with hshown | hunshown | ⟨count, answer, hflag⟩
    · by_cases hempty : (world.arriving true).filterMap (openedWith dateParses) = []
      · rw [hempty, List.append_nil]
        exact Or.inl hshown
      · refine Or.inr (Or.inr ?_)
        unfold World.changed
        simp [hempty]
    · exact Or.inr (Or.inl hunshown)
    · refine Or.inr (Or.inr ?_)
      unfold World.changed
      rw [hflag, Bool.true_or]
  unfold World.receive SupportClient.receiveSync at h
  rw [hsync] at h
  simp only [Bool.not_true, Bool.false_eq_true, if_false, SupportClient.receivePage, ← hopened,
    Option.map_some, hfetched] at h
  rw [← hopened] at hchanged
  rw [← hchanged] at h
  by_cases hmore : page.hasMore = true
  · rw [if_pos hmore] at h
    by_cases hlimit : maxSharedSyncPages ≤ pageCount
    · rw [if_pos hlimit] at h
      cases h
      refine Inv.good (inv.page_read hsync rfl rfl rfl (fun _ _ _ h => by cases h) ?_) rfl
      rcases hstate with hshown | hunshown | hpass
      · exact Or.inl hshown
      · exact Or.inr (Or.inl (by rw [hunshown, Bool.true_or]))
      · exact Or.inr (Or.inl (by rw [hpass, Bool.or_true]))
    · rw [if_neg hlimit] at h
      cases h
      refine Inv.good (inv.page_read hsync rfl rfl rfl (fun _ _ _ h => by cases h) ?_) rfl
      rcases hstate with hshown | hunshown | hpass
      · exact Or.inl hshown
      · exact Or.inr (Or.inl hunshown)
      · exact Or.inr (Or.inr ⟨pageCount + 1, none, by rw [hpass]⟩)
  · rw [if_neg hmore] at h
    cases h
    have hshown : (if world.changed dateParses true then
        buildSnapshot world.client.conversation
          (world.client.events ++ (world.arriving true).filterMap (openedWith dateParses))
        else world.client.snapshot) = buildSnapshot world.client.conversation
          (world.client.events ++ (world.arriving true).filterMap (openedWith dateParses)) := by
      cases hpass : world.changed dateParses true with
      | true => rfl
      | false =>
        simp only [hpass, hmore, Bool.not_false, Bool.and_true] at allowed
        rcases hstate with hshown | hunshown | hother
        · exact hshown
        · exact absurd (allowed.symm.trans hunshown) Bool.false_ne_true
        · exact absurd (hpass.symm.trans hother) Bool.false_ne_true
    refine Inv.good_of_shown (inv.page_read hsync rfl rfl rfl (fun _ _ _ h => by cases h)
      (Or.inl hshown)) hshown

theorem good_step {event : Event} (good : Good dateParses world)
    (allowed : resolvesUnshown dateParses event world = false)
    (h : step dateParses event world = some next) : Good dateParses next := by
  obtain ⟨inv, -⟩ := good
  cases event with
  | syncNow => exact Option.some.inj h ▸ inv.syncNow.good rfl
  | serve count more =>
    obtain ⟨client, hclient, rfl⟩ := Option.map_eq_some_iff.mp h
    exact (inv.serve hclient).good rfl
  | receive delivered =>
    change world.receive dateParses (delivered && world.accepts) = some next at h
    cases harrives : delivered && world.accepts with
    | false => exact inv.fail (harrives ▸ h)
    | true =>
      rw [harrives] at h
      match hsync : world.client.syncInFlight with
      | some (.conversation (some conversation)) => exact inv.fetch hsync h
      | some (.page snapshotChanged pageCount (some page)) =>
        refine inv.readPage hsync ?_ h
        unfold resolvesUnshown at allowed
        simpa only [hsync, harrives, Bool.true_and] using allowed
      | none | some (.conversation none) | some (.page _ _ none) =>
        unfold World.receive SupportClient.receiveSync at h
        rw [hsync] at h
        cases h
  | store envelope =>
    change (if _ then _ else _) = _ at h
    split_ifs at h with hcursor
    exact Option.some.inj h ▸ (inv.store hcursor.1 hcursor.2).good rfl
  | changeRoster rosterVersion epoch memberships =>
    cases h
    exact Inv.good ⟨inv.ordered, inv.split, inv.reached, inv.events, inv.fetched, inv.page,
      inv.shown⟩ rfl

end

/-- Where no pass resolves without a change after a failed one that left a change, every pass that
resolves shows all that has been read. -/
theorem resolved_sync_shows (dateParses : String → Bool) (actor : SharedActor) (room : Room)
    (conversation : SharedConversation) (events : List Event) (final : World)
    (guarded : Guarded (step dateParses)
      (fun event world => resolvesUnshown dateParses event world = false) events
      (World.start actor room conversation))
    (h : run (step dateParses) events (World.start actor room conversation) = some final)
    (resolved : final.resolved = true) : Shows dateParses final := by
  have good : Good dateParses final :=
    invariant_of_run (fun _ _ _ good allowed hstep => good_step good allowed hstep)
      ((Inv.start actor room conversation).good rfl) guarded h
  exact good.2 resolved

def sampleActor : SharedActor := ⟨"participant_a", .customer⟩

def sampleRoom : Room := ⟨1, 1, [], []⟩

/-- A pass in which every request is answered. -/
def wholePass : List Event :=
  [.syncNow, .serve 100 false, .receive true, .serve 100 false, .receive true]

/-- A pass whose first page does not arrive. -/
def brokenPass : List Event := [.syncNow, .serve 100 false, .receive true, .receive false]

def sampleMessage (cursor : Nat) (id : String) : SharedEnvelope :=
  ⟨cursor, id, "participant_b", .projectStaff, 1, 1,
    .simulated (.text ⟨⟨id, "2026-01-01T00:00:00.000Z"⟩, "Hello"⟩)⟩

def sampleRun : List Event :=
  .store (sampleMessage 1 "event_1") :: .changeRoster 2 2 [] :: brokenPass ++
    .store (sampleMessage 3 "event_2") :: .changeRoster 3 3 [] :: wholePass

theorem resolved_sync_shows_sample : ∃ final,
    run (step fun _ => true) sampleRun
        (World.start sampleActor sampleRoom sampleRoom.getConversation) = some final ∧
      (final.read.filterMap (openedWith fun _ => true)).length = 2 ∧
      Shows (fun _ => true) final :=
  ⟨_, rfl, rfl, resolved_sync_shows _ sampleActor sampleRoom _ sampleRun _ (by decide) rfl rfl⟩

/-- The roster changes, the pass that fetches it fails at its page, and the next one resolves
without showing it. -/
theorem resolved_sync_is_stale : ∃ final,
    run (step fun _ => true) (.changeRoster 2 2 [] :: brokenPass ++ wholePass)
        (World.start sampleActor sampleRoom sampleRoom.getConversation) = some final ∧
      final.resolved = true ∧ ¬ Shows (fun _ => true) final :=
  ⟨_, rfl, rfl, fun shows => absurd shows.snapshot (by decide)⟩

end JbChat.Client.SharedSync
