/- source: src/production/storage/conversationPageReader.ts
   digest: Pages that are read one behind the other are the visible log, cut into pieces. -/

import JbChat.Store.MembershipSafety
import JbChat.Store.PageReader

set_option autoImplicit false

namespace JbChat.Store.Paging

open Foundation.GapFree Delivery.EnvelopeLog Tables PageReader

structure ConversationPage where
  events : List ConversationPageEvent
  nextPosition : Nat
  hasMore : Bool
  snapshot : ConversationPageSnapshot

/-- The envelopes of a conversation, as they are stored. -/
def envelopesOf (db : DeliveryDb) (conversationId : String) : List EnvelopeRow :=
  keyed (fun row : EnvelopeRow => row.conversationId) conversationId db.envelopes

/-- The pages that a reader asks for until one has no more behind it; `none` when an answer is not
a page, or the fuel runs out. -/
def readPages (db : DeliveryDb) (input : ConversationPageReadInput) :
    Nat → Option (List ConversationPage)
  | 0 => none
  | fuel + 1 =>
    match readPage db input with
    | .page events nextPosition hasMore snapshot =>
      if hasMore then
        (readPages db { input with afterPosition := some nextPosition } fuel).map
          (⟨events, nextPosition, hasMore, snapshot⟩ :: ·)
      else some [⟨events, nextPosition, hasMore, snapshot⟩]
    | _ => none

structure StoredLog (db : DeliveryDb) (conversationId : String) (lastPosition : Nat) : Prop where
  gapFree : ((envelopesOf db conversationId).map fun row => row.position).Perm
    (List.range' 1 lastPosition)
  bounded : lastPosition ≤ 9223372036854775807
  pageEnds : ∀ position, 1 ≤ position → position ≤ lastPosition → ∃ row,
    db.pageEnds.filter (fun row => decide (row.conversation.conversationId = conversationId ∧
      row.position = position)) = [row]

/-- The window of a reader lies in the log. -/
structure Window (db : DeliveryDb) (input : ConversationPageReadInput) (lastPosition : Nat)
    (membership : MembershipRow) : Prop where
  member : readerMembership db input.conversationId input.installationId = some membership
  joined : 1 ≤ membership.joinedPosition ∧ membership.joinedPosition ≤ lastPosition
  removed : ∀ removedPosition ∈ membership.removedPosition,
    membership.joinedPosition ≤ removedPosition ∧ removedPosition ≤ lastPosition

/-- The last position that the reader sees. -/
def endOf (membership : MembershipRow) (lastPosition : Nat) : Nat :=
  membership.removedPosition.getD lastPosition

/-- A page stays within its limits, unless it is a single event. -/
def WithinLimits (input : ConversationPageReadInput) (events : List ConversationPageEvent) : Prop :=
  events.length ≤ input.maxEvents ∧ (events.length = 1 ∨
    (events.map ConversationPageEvent.envelopeBytes).sum ≤ input.maxSerializedBytes)

section

variable {db : DeliveryDb} {conversationId : String} {anchor : Int} {removedCap : Option Nat}
  {row : EnvelopeRow} {front back : List EnvelopeRow}

theorem mem_visibleRows_iff : row ∈ visibleRows db conversationId anchor removedCap ↔
    row ∈ envelopesOf db conversationId ∧ anchor < (row.position : Int) ∧
      row.position ≤ removedCap.getD 9223372036854775807 := by
  unfold visibleRows envelopesOf
  rw [List.mem_insertionSort, List.mem_filter, decide_eq_true_eq, mem_keyed, and_assoc]

theorem visibleRows_nodup (distinct : ((envelopesOf db conversationId).map
    fun row => row.position).Nodup) (anchor : Int) (removedCap : Option Nat) :
    ((visibleRows db conversationId anchor removedCap).map fun row => row.position).Nodup := by
  have perm := List.perm_insertionSort (fun a b : EnvelopeRow => a.position ≤ b.position)
    (db.envelopes.filter fun row => decide (row.conversationId = conversationId ∧
      anchor < (row.position : Int) ∧ row.position ≤ removedCap.getD 9223372036854775807))
  refine ((perm.map fun row => row.position).nodup_iff).mpr (distinct.sublist ?_)
  refine List.Sublist.map _ ?_
  unfold envelopesOf keyed
  refine List.monotone_filter_right _ fun row h => ?_
  exact decide_eq_true (of_decide_eq_true h).1

theorem visibleRows_sorted (distinct : ((envelopesOf db conversationId).map
    fun row => row.position).Nodup) (anchor : Int) (removedCap : Option Nat) :
    (visibleRows db conversationId anchor removedCap).Pairwise
      fun a b => a.position < b.position := by
  have ordered : (visibleRows db conversationId anchor removedCap).Pairwise
      fun a b => a.position ≤ b.position := List.pairwise_insertionSort _ _
  have apart := List.pairwise_map.mp (visibleRows_nodup distinct anchor removedCap)
  exact (ordered.and apart).imp fun h => lt_of_le_of_ne h.1 h.2

theorem visibleRows_behind (distinct : ((envelopesOf db conversationId).map
    fun row => row.position).Nodup)
    (h : visibleRows db conversationId anchor removedCap = front ++ row :: back) :
    visibleRows db conversationId row.position removedCap = back := by
  have sorted := visibleRows_sorted distinct anchor removedCap
  have nodup := (visibleRows_nodup distinct anchor removedCap).of_map
  have mem : ∀ other, other ∈ visibleRows db conversationId anchor removedCap ↔
      other ∈ front ++ row :: back := fun other => by rw [h]
  rw [h] at sorted nodup
  obtain ⟨-, behind, before⟩ := List.pairwise_append.mp sorted
  obtain ⟨behind, sortedBack⟩ := List.pairwise_cons.mp behind
  have hrow := (mem row).mpr (List.mem_append_right _ List.mem_cons_self)
  have hanchor := (mem_visibleRows_iff.mp hrow).2.1
  have perm : (visibleRows db conversationId row.position removedCap).Perm back := by
    refine (List.perm_ext_iff_of_nodup (visibleRows_nodup distinct _ _).of_map
      (List.nodup_cons.mp (List.nodup_append.mp nodup).2.1).2).mpr fun other => ?_
    constructor
    · intro hother
      obtain ⟨hstored, hbehind, hcap⟩ := mem_visibleRows_iff.mp hother
      have hvisible : other ∈ visibleRows db conversationId anchor removedCap :=
        mem_visibleRows_iff.mpr ⟨hstored, by omega, hcap⟩
      rcases List.mem_append.mp ((mem other).mp hvisible) with hfront | hback
      · have hlt := before other hfront row List.mem_cons_self
        omega
      · rcases List.mem_cons.mp hback with rfl | hback
        · exact absurd hbehind (lt_irrefl _)
        · exact hback
    · intro hback
      have hother := (mem other).mpr (List.mem_append_right _ (List.mem_cons_of_mem _ hback))
      obtain ⟨hstored, -, hcap⟩ := mem_visibleRows_iff.mp hother
      exact mem_visibleRows_iff.mpr ⟨hstored, by exact_mod_cast behind other hback, hcap⟩
  refine List.Perm.eq_of_pairwise ?_ (visibleRows_sorted distinct _ _) sortedBack perm
  intro left right _ _ hle hge
  exact absurd hle (lt_asymm hge)

end

section

variable {maxSerializedBytes : Nat} {rows before : List EnvelopeRow}

/-- Rows that a page may hold: one, or as many as their bytes allow. -/
def Fits (maxSerializedBytes : Nat) (rows : List EnvelopeRow) : Prop :=
  rows.length ≤ 1 ∨ serializedBytes rows ≤ maxSerializedBytes

theorem collectEvents_spec (fits : Fits maxSerializedBytes before) :
    ∃ taken rest, rows = taken ++ rest ∧
      collectEvents maxSerializedBytes (before.map eventOf) (serializedBytes before) rows =
        ((before ++ taken).map eventOf, !rest.isEmpty) ∧
      Fits maxSerializedBytes (before ++ taken) ∧ (before = [] → rows ≠ [] → taken ≠ []) := by
  induction rows generalizing before with
  | nil => exact ⟨[], [], rfl, by rw [List.append_nil]; rfl, by rwa [List.append_nil],
      fun _ h => absurd rfl h⟩
  | cons row rows ih =>
    unfold collectEvents
    split
    next full =>
      refine ⟨[], row :: rows, rfl, by rw [List.append_nil]; rfl, by rwa [List.append_nil], ?_⟩
      rintro rfl
      exact absurd full.1 (lt_irrefl 0)
    next room =>
      have hmap : before.map eventOf ++ [eventOf row] = (before ++ [row]).map eventOf := by
        rw [List.map_append, List.map_singleton]
      have hbytes : serializedBytes before + row.envelopeBytes.length =
          serializedBytes (before ++ [row]) := by
        unfold serializedBytes
        rw [List.map_append, List.sum_append, List.map_singleton, List.sum_singleton]
      have next : Fits maxSerializedBytes (before ++ [row]) := by
        cases before with
        | nil => exact .inl (Nat.le_refl 1)
        | cons first before =>
          have hlimit := not_and.mp room (by simp)
          rw [hbytes] at hlimit
          exact .inr (not_lt.mp hlimit)
      obtain ⟨taken, rest, hrows, hcollect, hfits, -⟩ := ih next
      refine ⟨row :: taken, rest, by rw [hrows]; rfl, ?_, ?_, fun _ _ => List.cons_ne_nil _ _⟩
      · rw [hmap, hbytes, hcollect, List.append_assoc]
        rfl
      · rw [List.append_assoc] at hfits
        exact hfits

variable {db : DeliveryDb} {input : ConversationPageReadInput} {membership : MembershipRow}

theorem readPage_spec
    (member : readerMembership db input.conversationId input.installationId = some membership)
    (room : 1 ≤ input.maxEvents)
    (hrows : visibleRows db input.conversationId (anchorOf membership input.afterPosition)
      membership.removedPosition = rows) (remaining : rows ≠ [])
    (stored : ∀ row ∈ rows, ∃ snapshot,
      snapshotAt db input.conversationId row.position = some snapshot) :
    ∃ front last back snapshot, rows = front ++ last :: back ∧
      readPage db input = .page ((front ++ [last]).map eventOf) last.position (!back.isEmpty)
        snapshot ∧
      (front ++ [last]).length ≤ input.maxEvents ∧
      Fits input.maxSerializedBytes (front ++ [last]) := by
  have start : Fits input.maxSerializedBytes [] := .inl (Nat.zero_le 1)
  obtain ⟨taken, rest, hslice, hcollect, hfits, htaken⟩ :=
    @collectEvents_spec _ (rows.take input.maxEvents) _ start
  have hsome : rows.take input.maxEvents ≠ [] := by
    intro hnone
    rcases List.take_eq_nil_iff.mp hnone with hzero | hempty
    · omega
    · exact remaining hempty
  obtain ⟨front, last, rfl⟩ := (List.eq_nil_or_concat' taken).resolve_left (htaken rfl hsome)
  have hsplit : rows = front ++ last :: (rest ++ rows.drop input.maxEvents) := by
    calc rows = rows.take input.maxEvents ++ rows.drop input.maxEvents :=
          (List.take_append_drop _ _).symm
      _ = (front ++ [last]) ++ rest ++ rows.drop input.maxEvents := by rw [hslice]
      _ = front ++ last :: (rest ++ rows.drop input.maxEvents) := by
          simp only [List.append_assoc, List.cons_append, List.nil_append]
  have hlast : last ∈ rows := by
    rw [hsplit]
    exact List.mem_append_right _ List.mem_cons_self
  obtain ⟨snapshot, hsnapshot⟩ := stored last hlast
  have hlength : (front ++ [last]).length ≤ input.maxEvents := by
    have hcount := congrArg List.length hslice
    rw [List.length_take, List.length_append] at hcount
    omega
  have hahead : decide ((rows.take (input.maxEvents + 1)).length > input.maxEvents) =
      !(rows.drop input.maxEvents).isEmpty := by
    rw [Bool.eq_iff_iff, decide_eq_true_eq, Bool.not_eq_true', List.isEmpty_eq_false_iff,
      ne_eq, List.drop_eq_nil_iff, List.length_take]
    omega
  have hmore : (decide ((rows.take (input.maxEvents + 1)).length > input.maxEvents) ||
      !rest.isEmpty) = !(rest ++ rows.drop input.maxEvents).isEmpty := by
    rw [hahead]
    cases rest with
    | nil => exact Bool.or_false _
    | cons row rest => exact Bool.or_true _
  have hloop : collectEvents input.maxSerializedBytes [] 0 (rows.take input.maxEvents) =
      ((front ++ [last]).map eventOf, !rest.isEmpty) := hcollect
  refine ⟨front, last, rest ++ rows.drop input.maxEvents, snapshot, hsplit, ?_, hlength, hfits⟩
  unfold readPage
  rw [member]
  dsimp only
  rw [hrows, List.take_take, Nat.min_eq_left (Nat.le_succ _)]
  rw [hloop]
  dsimp only
  have hend : ((front ++ [last]).map eventOf).getLast? = some (eventOf last) := by
    rw [List.map_append, List.map_singleton, List.getLast?_concat]
  have hposition : (eventOf last).position = last.position := rfl
  rw [hend]
  dsimp only
  rw [hposition, hsnapshot, hmore]

end

section

variable {db : DeliveryDb} {input : ConversationPageReadInput} {membership : MembershipRow}
  {lastPosition : Nat} {rows : List EnvelopeRow}

/-- All pages but the last have more behind them. -/
def Ends (pages : List ConversationPage) : Prop :=
  ∃ front final, pages = front ++ [final] ∧ final.hasMore = false ∧
    ∀ page ∈ front, page.hasMore = true

structure CutsInto (db : DeliveryDb) (input : ConversationPageReadInput)
    (membership : MembershipRow) (rows : List EnvelopeRow) (pages : List ConversationPage) :
    Prop where
  ends : Ends pages
  events : pages.flatMap ConversationPage.events = rows.map eventOf
  more : ∀ page ∈ pages, page.hasMore = !(visibleRows db input.conversationId page.nextPosition
    membership.removedPosition).isEmpty
  limits : ∀ page ∈ pages, WithinLimits input page.events

theorem withinLimits_of_fits (some : rows ≠ []) (few : rows.length ≤ input.maxEvents)
    (fits : Fits input.maxSerializedBytes rows) :
    WithinLimits input (rows.map eventOf) := by
  have hpositive := List.length_pos_iff.mpr some
  refine ⟨by rw [List.length_map]; exact few, ?_⟩
  rcases fits with single | small
  · exact .inl (by rw [List.length_map]; omega)
  · refine .inr ?_
    rw [List.map_map]
    exact small

/-- Enough fuel reads all visible rows. -/
theorem readPages_cuts
    (distinct : ((envelopesOf db input.conversationId).map fun row => row.position).Nodup)
    (stored : ∀ row ∈ envelopesOf db input.conversationId, ∃ snapshot,
      snapshotAt db input.conversationId row.position = some snapshot)
    (member : readerMembership db input.conversationId input.installationId = some membership)
    (room : 1 ≤ input.maxEvents) {fuel : Nat}
    (hrows : visibleRows db input.conversationId (anchorOf membership input.afterPosition)
      membership.removedPosition = rows) (remaining : rows ≠ []) (enough : rows.length ≤ fuel) :
    ∃ pages, readPages db input fuel = some pages ∧ CutsInto db input membership rows pages := by
  induction fuel generalizing input rows with
  | zero => exact absurd (List.length_eq_zero_iff.mp (Nat.le_zero.mp enough)) remaining
  | succ fuel ih =>
    have visible : ∀ row ∈ rows, ∃ snapshot,
        snapshotAt db input.conversationId row.position = some snapshot := by
      intro row hrow
      rw [← hrows] at hrow
      exact stored row (mem_visibleRows_iff.mp hrow).1
    obtain ⟨front, last, back, snapshot, hsplit, hpage, few, fits⟩ :=
      readPage_spec member room hrows remaining visible
    have hbehind : visibleRows db input.conversationId last.position
        membership.removedPosition = back := visibleRows_behind distinct (hrows.trans hsplit)
    have limits : WithinLimits input ((front ++ [last]).map eventOf) :=
      withinLimits_of_fits (by simp) few fits
    have hjoin : rows.map eventOf = (front ++ [last]).map eventOf ++ back.map eventOf := by
      rw [← List.map_append, hsplit, List.append_assoc]
      rfl
    unfold readPages
    rw [hpage]
    dsimp only
    cases back with
    | nil =>
      refine ⟨_, rfl, ⟨[], _, rfl, rfl, fun _ h => absurd h List.not_mem_nil⟩, ?_, ?_, ?_⟩
      · rw [List.flatMap_singleton, hjoin, List.map_nil, List.append_nil]
      · intro page hpage
        rw [List.mem_singleton.mp hpage, hbehind]
      · intro page hpage
        rw [List.mem_singleton.mp hpage]
        exact limits
    | cons next back =>
      have hfuel : (next :: back).length ≤ fuel := by
        rw [hsplit, List.length_append, List.length_cons] at enough
        omega
      have resumed := @ih { input with afterPosition := some last.position }
      obtain ⟨pages, hpages, ⟨before, final, rfl, hfinal, hbefore⟩, hevents, hmore, hlimits⟩ :=
        resumed distinct stored member room hbehind (List.cons_ne_nil _ _) hfuel
      have continues : (!(next :: back).isEmpty) = true := rfl
      rw [if_pos continues, hpages]
      refine ⟨_, rfl, ⟨_ :: before, final, rfl, hfinal, ?_⟩, ?_, ?_, ?_⟩
      · intro page hpage
        rcases List.mem_cons.mp hpage with rfl | hlater
        · rfl
        · exact hbefore page hlater
      · rw [List.flatMap_cons, hevents, hjoin]
      · intro page hpage
        rcases List.mem_cons.mp hpage with rfl | hlater
        · dsimp only
          rw [hbehind]
        · exact hmore page hlater
      · intro page hpage
        rcases List.mem_cons.mp hpage with rfl | hlater
        · exact limits
        · exact hlimits page hlater

end

section

variable {db : DeliveryDb} {input : ConversationPageReadInput} {pages : List ConversationPage}

theorem readPages_mono {fuel more : Nat} (h : readPages db input fuel = some pages)
    (le : fuel ≤ more) : readPages db input more = some pages := by
  induction fuel generalizing input pages more with
  | zero => cases h
  | succ fuel ih =>
    obtain ⟨more, rfl⟩ : ∃ n, more = n + 1 := ⟨more - 1, by omega⟩
    unfold readPages at h ⊢
    split at h
    next events nextPosition hasMore snapshot hpage =>
      split at h
      next continues =>
        obtain ⟨later, hlater, rfl⟩ := Option.map_eq_some_iff.mp h
        rw [if_pos continues, ih hlater (by omega)]
        rfl
      next stops =>
        rw [if_neg stops]
        exact h
    next => cases h

end

section

variable {db : DeliveryDb} {input : ConversationPageReadInput} {membership : MembershipRow}
  {lastPosition : Nat} {conversationId : String}

theorem StoredLog.distinct (log : StoredLog db conversationId lastPosition) :
    ((envelopesOf db conversationId).map fun row => row.position).Nodup :=
  log.gapFree.nodup_iff.mpr List.nodup_range'

theorem StoredLog.exists_iff (log : StoredLog db conversationId lastPosition) (position : Nat) :
    (∃ row ∈ envelopesOf db conversationId, row.position = position) ↔
      1 ≤ position ∧ position ≤ lastPosition := by
  rw [← List.mem_map (f := fun row : EnvelopeRow => row.position), log.gapFree.mem_iff,
    List.mem_range'_1]
  omega

theorem StoredLog.snapshots (log : StoredLog db conversationId lastPosition) :
    ∀ row ∈ envelopesOf db conversationId, ∃ snapshot,
      snapshotAt db conversationId row.position = some snapshot := by
  intro row hrow
  obtain ⟨hfirst, hlast⟩ := (log.exists_iff row.position).mp ⟨row, hrow, rfl⟩
  obtain ⟨pageEnd, hpageEnd⟩ := log.pageEnds row.position hfirst hlast
  unfold snapshotAt
  rw [hpageEnd]
  exact ⟨_, rfl⟩

theorem mem_visible_iff (log : StoredLog db input.conversationId lastPosition)
    (anchor : Int) (row : EnvelopeRow) :
    row ∈ visibleRows db input.conversationId anchor membership.removedPosition ↔
      row ∈ envelopesOf db input.conversationId ∧ anchor < (row.position : Int) ∧
        row.position ≤ endOf membership lastPosition := by
  rw [mem_visibleRows_iff]
  refine and_congr_right fun hrow => and_congr_right fun _ => ?_
  obtain ⟨-, hlast⟩ := (log.exists_iff row.position).mp ⟨row, hrow, rfl⟩
  have hbounded := log.bounded
  unfold endOf
  cases membership.removedPosition with
  | none => exact iff_of_true (hlast.trans hbounded) hlast
  | some removedPosition => exact Iff.rfl

theorem visible_positions (log : StoredLog db input.conversationId lastPosition)
    (window : Window db input lastPosition membership) :
    (visibleRows db input.conversationId (anchorOf membership none)
      membership.removedPosition).map (fun row => row.position) =
        List.range' membership.joinedPosition
          (endOf membership lastPosition + 1 - membership.joinedPosition) := by
  have hend : endOf membership lastPosition ≤ lastPosition := by
    unfold endOf
    cases hremoved : membership.removedPosition with
    | none => exact Nat.le_refl _
    | some removedPosition => exact (window.removed removedPosition hremoved).2
  have sorted := List.pairwise_map.mpr (visibleRows_sorted log.distinct (anchorOf membership none)
    membership.removedPosition)
  refine @List.Perm.eq_of_pairwise _ (· < ·) _ _ (fun a b _ _ hab hba => ?_) sorted
    List.pairwise_lt_range' ?_
  · exact absurd hab (lt_asymm hba)
  · refine (List.perm_ext_iff_of_nodup (visibleRows_nodup log.distinct _ _)
      List.nodup_range').mpr fun position => ?_
    have hjoined := window.joined
    rw [List.mem_range'_1]
    constructor
    · intro h
      obtain ⟨row, hrow, rfl⟩ := List.mem_map.mp h
      obtain ⟨-, hanchor, hlast⟩ := (mem_visible_iff log _ row).mp hrow
      change (membership.joinedPosition : Int) - 1 < row.position at hanchor
      omega
    · intro h
      obtain ⟨row, hrow, rfl⟩ := (log.exists_iff position).mpr ⟨by omega, by omega⟩
      refine List.mem_map_of_mem ((mem_visible_iff log _ row).mpr ⟨hrow, ?_, by omega⟩)
      change (membership.joinedPosition : Int) - 1 < row.position
      omega

/-- Reading from the start and going on behind each page ends with a page that has no more; the
pages list the envelopes of the window once and in order, each page has more exactly when an
envelope of the window is behind it, and each page keeps its limits. -/
theorem paging_reads_window (log : StoredLog db input.conversationId lastPosition)
    (window : Window db input lastPosition membership) (start : input.afterPosition = none)
    (room : 1 ≤ input.maxEvents) :
    ∃ pages, (∀ fuel, lastPosition ≤ fuel → readPages db input fuel = some pages) ∧ Ends pages ∧
      (pages.flatMap ConversationPage.events).map ConversationPageEvent.position =
        List.range' membership.joinedPosition
          (endOf membership lastPosition + 1 - membership.joinedPosition) ∧
      (∀ event ∈ pages.flatMap ConversationPage.events,
        ∃ row ∈ envelopesOf db input.conversationId, event = eventOf row) ∧
      (∀ page ∈ pages, page.hasMore = true ↔ ∃ row ∈ envelopesOf db input.conversationId,
        page.nextPosition < row.position ∧ row.position ≤ endOf membership lastPosition) ∧
      ∀ page ∈ pages, WithinLimits input page.events := by
  have positions := visible_positions log window
  have hjoined := window.joined
  have hend : membership.joinedPosition ≤ endOf membership lastPosition ∧
      endOf membership lastPosition ≤ lastPosition := by
    unfold endOf
    cases hremoved : membership.removedPosition with
    | none => exact ⟨hjoined.2, Nat.le_refl _⟩
    | some removedPosition => exact window.removed removedPosition hremoved
  rw [← start] at positions
  have hlength := congrArg List.length positions
  rw [List.length_map, List.length_range'] at hlength
  have remaining : visibleRows db input.conversationId (anchorOf membership input.afterPosition)
      membership.removedPosition ≠ [] := by
    intro hempty
    rw [hempty, List.length_nil] at hlength
    omega
  obtain ⟨pages, hpages, ends, hevents, hmore, limits⟩ := readPages_cuts log.distinct
    log.snapshots window.member room rfl remaining (Nat.le_refl _)
  refine ⟨pages, fun fuel hfuel => readPages_mono hpages (by omega), ends, ?_, ?_, ?_, limits⟩
  · rw [hevents, List.map_map]
    exact positions
  · intro event hevent
    rw [hevents] at hevent
    obtain ⟨row, hrow, rfl⟩ := List.mem_map.mp hevent
    exact ⟨row, (mem_visibleRows_iff.mp hrow).1, rfl⟩
  · intro page hpage
    rw [hmore page hpage, Bool.not_eq_true', List.isEmpty_eq_false_iff_exists_mem]
    refine exists_congr fun row => ?_
    rw [mem_visible_iff log, Nat.cast_lt]

end

section

open MembershipSafety

def pagedEnvelope (position : Nat) : EnvelopeRow where
  conversationId := sampleConversationId
  position := position
  envelopeId := "00000000-0000-4000-8000-0000000000f1"
  envelopeClass := .application
  sender := .installation staffAccountId staffInstallationId
  epoch := 2
  rosterVersion := 2
  contentType := .privateMessage
  envelopeSha256 := List.replicate 32 10
  receivedAt := "2026-08-14T16:00:00.000Z"
  transcript := none
  envelopeBytes := [1, 2, 3]
  previousHeadHash := List.replicate 32 11
  leafHash := List.replicate 32 12
  headHash := List.replicate 32 13
  logSigningKeyId := "log-1"
  logCheckpointDigest := List.replicate 32 14
  logHeadSignature := List.replicate 64 15
  expiresAt := 0

def pagedEnd (position : Nat) : PageEndRow where
  conversation := sampleConversation.toLockedConversationState
  position := position
  policyHead := JbChat.Delivery.QuotaConservation.samplePolicyHead
  createdAt := "2026-08-14T16:00:00.000Z"

/-- A customer who joined at the second of four positions and was removed at the last. -/
def pagedMember : MembershipRow :=
  { sampleMember customerAccountId customerInstallationId customerCredentialId .customer with
    joinedPosition := 2
    removedPosition := some 4 }

def pagedDb : DeliveryDb :=
  { sampleDb with
    memberships := [pagedMember]
    envelopes := [pagedEnvelope 1, pagedEnvelope 2, pagedEnvelope 3, pagedEnvelope 4]
    pageEnds := [pagedEnd 1, pagedEnd 2, pagedEnd 3, pagedEnd 4] }

def pagedInput : ConversationPageReadInput :=
  ⟨sampleConversationId, customerInstallationId, none, 2, 5⟩

/-- The customer reads the last three positions. -/
theorem customer_reads_window : ∃ pages, readPages pagedDb pagedInput 4 = some pages ∧
    (pages.flatMap ConversationPage.events).map ConversationPageEvent.position = [2, 3, 4] := by
  have log : StoredLog pagedDb pagedInput.conversationId 4 := by
    refine ⟨List.Perm.refl _, by decide, fun position first last => ?_⟩
    interval_cases position
    · exact ⟨pagedEnd 1, rfl⟩
    · exact ⟨pagedEnd 2, rfl⟩
    · exact ⟨pagedEnd 3, rfl⟩
    · exact ⟨pagedEnd 4, rfl⟩
  have window : Window pagedDb pagedInput 4 pagedMember := by
    refine ⟨rfl, by decide, fun removedPosition h => ?_⟩
    cases h
    decide
  obtain ⟨pages, hpages, -, hpositions, -⟩ := paging_reads_window log window rfl (by decide)
  exact ⟨pages, hpages 4 (Nat.le_refl 4), hpositions⟩

end

end JbChat.Store.Paging
