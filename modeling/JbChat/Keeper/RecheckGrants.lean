/- source: scripts/keeper/recheck-grants.mjs, storage/migrations/0025_relay_consent.sql
   digest: What a recheck pass makes of the grants, for all answers of the providers. -/

import Mathlib.Data.List.Dedup
import JbChat.Foundation.HexBytes

set_option autoImplicit false

namespace JbChat.Keeper.RecheckGrants

open Foundation.HexBytes

section

inductive GrantState
  | active
  | suspended
  | revoked
  | expired
deriving DecidableEq

inductive FinalityStatus
  | verifiedFinalized
  | unavailable
  | orphaned
  | notApplicable

structure FinalityAnchor where
  sourceChainId : String
  sourceBlock : Nat
  sourceBlockHash : Bytes
deriving DecidableEq

/-- A row of `eligibility_grants`; the columns of its anchor are null together. -/
structure EligibilityGrant where
  grantId : String
  anchor : Option FinalityAnchor
  finalityStatus : FinalityStatus
  state : GrantState
  validUntil : Int

/-- The JSON of an answer; `echoesId`: it carries the id of its request. -/
structure RpcBody where
  echoesId : Bool
  error : Bool
  hash : Option String

inductive RpcAnswer
  | failed
  | response (ok : Bool) (body : Option RpcBody)

namespace EligibilityGrant

variable (grant : EligibilityGrant)

def isOn (chainId : String) : Bool :=
  decide (grant.anchor.map FinalityAnchor.sourceChainId = some chainId)

/-- The row after the update that revokes the grants of an anchor. -/
def revokeAt (anchor : FinalityAnchor) : EligibilityGrant :=
  if grant.isOn anchor.sourceChainId ∧
      grant.anchor.map FinalityAnchor.sourceBlockHash = some anchor.sourceBlockHash ∧
      (grant.state = .active ∨ grant.state = .suspended) then
    { grant with state := .revoked, finalityStatus := .orphaned }
  else grant

/-- The chain of the row is one of these. -/
def isMarked (chains : List String) : Bool :=
  grant.anchor.any fun anchor => decide (anchor.sourceChainId ∈ chains)

def suspendOn (chainId : String) : EligibilityGrant :=
  if grant.isOn chainId ∧ grant.state = .active then
    { grant with state := .suspended, finalityStatus := .unavailable }
  else grant

def sweep (now : Int) : EligibilityGrant :=
  if grant.state = .active ∧ grant.validUntil ≤ now then { grant with state := .expired }
  else grant

end EligibilityGrant

def storedHash (anchor : FinalityAnchor) : String :=
  "0x" ++ String.ofList (hexChars anchor.sourceBlockHash)

/-- `String(anchor.source_chain_id)` -/
def chainIdOf : Option FinalityAnchor → String
  | some anchor => anchor.sourceChainId
  | none => "null"

variable (toLowerCase : String → String)

def blockHashAt : RpcAnswer → Option String
  | .response true (some ⟨true, false, some hash⟩) => some (toLowerCase hash)
  | _ => none

-- The providers of a chain, and what the provider at a place answers about an anchor.
variable (endpoints : String → List String) (answers : FinalityAnchor → Nat → RpcAnswer)

inductive Verdict
  | unavailable
  | confirmed
  | orphaned (anchor : FinalityAnchor)

/-- `none`: the height of a null anchor is no number, and the pass fails. -/
def recheck (anchor : Option FinalityAnchor) : Option Verdict :=
  let providers := endpoints (chainIdOf anchor)
  if providers.length < 2 then some .unavailable
  else anchor.map fun anchor =>
    match (List.range providers.length).mapM fun place =>
        blockHashAt toLowerCase (answers anchor place) with
    | none => .unavailable
    | some hashes =>
      if hashes.dedup.length ≠ 1 then .unavailable
      else if hashes.head? ≠ some (storedHash anchor) then .orphaned anchor
      else .confirmed

structure PassState where
  suspendedChains : List String
  grants : List EligibilityGrant

def step (state : PassState) (anchor : Option FinalityAnchor) : Option PassState :=
  if chainIdOf anchor ∈ state.suspendedChains then some state
  else (recheck toLowerCase endpoints answers anchor).map fun
    | .unavailable =>
      { state with suspendedChains := state.suspendedChains ++ [chainIdOf anchor] }
    | .confirmed => state
    | .orphaned anchor => { state with grants := state.grants.map (·.revokeAt anchor) }

/-- `now`: the time of the sweep at the end. -/
def pass (now : Int) (anchors : List (Option FinalityAnchor)) (grants : List EligibilityGrant) :
    Option (List EligibilityGrant) := do
  let state ← anchors.foldlM (step toLowerCase endpoints answers) ⟨[], grants⟩
  let grants := state.suspendedChains.foldl
    (fun grants chainId => grants.map (·.suspendOn chainId)) state.grants
  return grants.map (·.sweep now)

/-- The rows of `SELECT DISTINCT`, in any order. -/
structure SelectsAnchors (grants : List EligibilityGrant)
    (anchors : List (Option FinalityAnchor)) : Prop where
  nodup : anchors.Nodup
  mem_iff : ∀ anchor, anchor ∈ anchors ↔
    ∃ grant ∈ grants, grant.state = .active ∧ grant.anchor = anchor

def Numbered (grants : List EligibilityGrant) : Prop :=
  ∀ one ∈ grants, ∀ other ∈ grants, ∀ own ∈ one.anchor, ∀ anchor ∈ other.anchor,
    own.sourceChainId = anchor.sourceChainId → own.sourceBlockHash = anchor.sourceBlockHash →
      own.sourceBlock = anchor.sourceBlock

/-- All providers of the chain, two at least, return this hash for the block of the anchor. -/
def Agreed (anchor : FinalityAnchor) (hash : String) : Prop :=
  2 ≤ (endpoints anchor.sourceChainId).length ∧
    ∀ place < (endpoints anchor.sourceChainId).length,
      blockHashAt toLowerCase (answers anchor place) = some hash

/-- What becomes of a grant. -/
structure Rechecked (now : Int) (before after : EligibilityGrant) : Prop where
  grantId : after.grantId = before.grantId
  active : after.state = .active → before.state = .active ∧ now < before.validUntil ∧
    ∀ anchor ∈ before.anchor, Agreed toLowerCase endpoints answers anchor (storedHash anchor)
  revoked : after.state = .revoked → before.state = .revoked ∨ ∃ anchor ∈ before.anchor,
    ∃ hash ≠ storedHash anchor, Agreed toLowerCase endpoints answers anchor hash

end

section

variable (toLowerCase : String → String) (endpoints : String → List String)
  (answers : FinalityAnchor → Nat → RpcAnswer)

/-- What a verdict says about the answers. -/
def Sound (anchor : Option FinalityAnchor) : Verdict → Prop
  | .unavailable => True
  | .confirmed => ∀ own ∈ anchor, Agreed toLowerCase endpoints answers own (storedHash own)
  | .orphaned orphan => anchor = some orphan ∧
    ∃ hash ≠ storedHash orphan, Agreed toLowerCase endpoints answers orphan hash

def rowStep (own : Option FinalityAnchor) (row : Bool × EligibilityGrant)
    (anchor : Option FinalityAnchor) : Bool × EligibilityGrant :=
  if own.map FinalityAnchor.sourceChainId = some (chainIdOf anchor) ∧ row.1 = false then
    match recheck toLowerCase endpoints answers anchor with
    | some .confirmed => row
    | some (.orphaned anchor) => (row.1, row.2.revokeAt anchor)
    | _ => (true, row.2)
  else row

def PassState.row (state : PassState) (grant : EligibilityGrant) : Bool × EligibilityGrant :=
  (grant.isMarked state.suspendedChains, grant)

/-- What a pass makes of a row: its way through the anchors, and the last two updates. -/
def outcome (now : Int) (anchors : List (Option FinalityAnchor)) (grant : EligibilityGrant) :
    EligibilityGrant :=
  let row := anchors.foldl (rowStep toLowerCase endpoints answers grant.anchor) (false, grant)
  EligibilityGrant.sweep (if row.2.state = .active ∧ row.1 then
      { row.2 with state := .suspended, finalityStatus := .unavailable }
    else row.2) now

/-- What has become of a row, beside the mark of its chain, when some anchors are done. -/
structure Progress (done : List (Option FinalityAnchor)) (before : EligibilityGrant)
    (row : Bool × EligibilityGrant) : Prop where
  grantId : row.2.grantId = before.grantId
  anchor : row.2.anchor = before.anchor
  validUntil : row.2.validUntil = before.validUntil
  active : row.2.state = .active → before.state = .active ∧ (row.1 = false →
    ∀ own ∈ before.anchor, some own ∈ done →
      Agreed toLowerCase endpoints answers own (storedHash own))
  revoked : row.2.state = .revoked → before.state = .revoked ∨ ∃ own ∈ before.anchor,
    ∃ hash ≠ storedHash own, Agreed toLowerCase endpoints answers own hash

end

section

variable {grant : EligibilityGrant}

theorem isOn_iff {chainId : String} :
    grant.isOn chainId = true ↔ ∃ anchor ∈ grant.anchor, anchor.sourceChainId = chainId := by
  unfold EligibilityGrant.isOn
  rw [decide_eq_true_eq, Option.map_eq_some_iff]
  rfl

theorem revokeAt_cases (grant : EligibilityGrant) (anchor : FinalityAnchor) :
    grant.revokeAt anchor = { grant with state := .revoked, finalityStatus := .orphaned } ∧
        (∃ own ∈ grant.anchor, own.sourceChainId = anchor.sourceChainId ∧
          own.sourceBlockHash = anchor.sourceBlockHash) ∨
      grant.revokeAt anchor = grant ∧ ¬ (grant.state = .active ∧ grant.anchor = some anchor) := by
  unfold EligibilityGrant.revokeAt
  split_ifs with h
  · obtain ⟨hchain, hhash, -⟩ := h
    obtain ⟨own, hown, hchain⟩ := isOn_iff.mp hchain
    obtain ⟨other, hother, hhash⟩ := Option.map_eq_some_iff.mp hhash
    cases hown.symm.trans hother
    exact Or.inl ⟨rfl, own, hown, hchain, hhash⟩
  · refine Or.inr ⟨rfl, fun ⟨hactive, hanchor⟩ => h ⟨?_, ?_, Or.inl hactive⟩⟩
    · exact isOn_iff.mpr ⟨anchor, hanchor, rfl⟩
    · rw [hanchor]
      rfl

theorem revokeAt_anchor (anchor : FinalityAnchor) :
    (grant.revokeAt anchor).anchor = grant.anchor := by
  rcases revokeAt_cases grant anchor with ⟨h, -⟩ | ⟨h, -⟩ <;> rw [h]

/-- The row after the updates of all chains that are marked. -/
theorem foldl_suspendOn (chains : List String) (grant : EligibilityGrant) :
    chains.foldl EligibilityGrant.suspendOn grant =
      if grant.state = .active ∧ grant.isMarked chains then
        { grant with state := .suspended, finalityStatus := .unavailable }
      else grant := by
  induction chains generalizing grant with
  | nil => cases hanchor : grant.anchor <;> simp [EligibilityGrant.isMarked, hanchor]
  | cons chainId rest ih =>
    rw [List.foldl_cons, ih]
    unfold EligibilityGrant.suspendOn EligibilityGrant.isMarked EligibilityGrant.isOn
    cases hanchor : grant.anchor with
    | none => simp [hanchor]
    | some anchor =>
      by_cases hactive : grant.state = .active
      · by_cases hon : anchor.sourceChainId = chainId <;> simp [hanchor, hactive, hon]
      · simp [hanchor, hactive]

theorem foldl_map_suspendOn (chains : List String) (grants : List EligibilityGrant) :
    chains.foldl (fun grants chainId => grants.map (·.suspendOn chainId)) grants =
      grants.map fun grant => chains.foldl EligibilityGrant.suspendOn grant := by
  induction chains generalizing grants with
  | nil => exact (List.map_id' grants).symm
  | cons chainId rest ih =>
    rw [List.foldl_cons, ih, List.map_map]
    rfl

end

section

variable {toLowerCase : String → String} {endpoints : String → List String}
  {answers : FinalityAnchor → Nat → RpcAnswer}

theorem map_of_mapM {α β : Type} {f : α → Option β} {xs : List α} {ys : List β}
    (h : xs.mapM f = some ys) : xs.map f = ys.map some := by
  induction xs generalizing ys with
  | nil =>
    cases h
    rfl
  | cons x xs ih =>
    rw [List.mapM_cons] at h
    obtain ⟨y, hy, h⟩ := Option.bind_eq_some_iff.mp h
    obtain ⟨rest, hrest, h⟩ := Option.bind_eq_some_iff.mp h
    cases h
    rw [List.map_cons, List.map_cons, hy, ih hrest]

theorem recheck_sound {anchor : Option FinalityAnchor} {verdict : Verdict}
    (h : recheck toLowerCase endpoints answers anchor = some verdict) :
    Sound toLowerCase endpoints answers anchor verdict := by
  unfold recheck at h
  dsimp only at h
  split_ifs at h with hfew
  · exact Option.some.inj h ▸ trivial
  · obtain ⟨own, rfl, rfl⟩ := Option.map_eq_some_iff.mp h
    split
    · trivial
    · next hashes hhashes =>
      split_ifs with hsplit hstored
      · trivial
      all_goals
        obtain ⟨hash, hdedup⟩ := List.length_eq_one_iff.mp (not_not.mp hsplit)
        have hall : ∀ other ∈ hashes, other = hash := fun other hother =>
          List.mem_singleton.mp (hdedup ▸ List.mem_dedup.mpr hother)
        have hagreed : Agreed toLowerCase endpoints answers own hash := by
          refine ⟨Nat.le_of_not_lt hfew, fun place hplace => ?_⟩
          have hmem : blockHashAt toLowerCase (answers own place) ∈ hashes.map some :=
            map_of_mapM hhashes ▸ List.mem_map_of_mem (List.mem_range.mpr hplace)
          obtain ⟨other, hother, hsame⟩ := List.mem_map.mp hmem
          rw [← hsame, hall other hother]
        have hhead : hashes.head? = some hash := by
          cases hashes with
          | nil => cases hdedup
          | cons first rest => exact congrArg some (hall first List.mem_cons_self)
        rw [hhead] at hstored
      · exact ⟨rfl, hash, fun h => hstored (congrArg some h), hagreed⟩
      · cases not_not.mp hstored
        rintro _ ⟨⟩
        exact hagreed

end

section

variable {toLowerCase : String → String} {endpoints : String → List String}
  {answers others : FinalityAnchor → Nat → RpcAnswer} {grants final : List EligibilityGrant}
  {anchors : List (Option FinalityAnchor)} {now : Int} {grant before : EligibilityGrant}
  {anchor : Option FinalityAnchor} {done : List (Option FinalityAnchor)}
  {row : Bool × EligibilityGrant}

theorem isMarked_of_chain {chainId : String} (chains : List String)
    (h : grant.anchor.map FinalityAnchor.sourceChainId = some chainId) :
    grant.isMarked chains = decide (chainId ∈ chains) := by
  obtain ⟨own, hown, rfl⟩ := Option.map_eq_some_iff.mp h
  unfold EligibilityGrant.isMarked
  rw [hown, Option.any_some]

theorem step_rows {state next : PassState}
    (h : step toLowerCase endpoints answers state anchor = some next) :
    ∃ effect : EligibilityGrant → EligibilityGrant, next.grants = state.grants.map effect ∧
      ∀ grant, (effect grant).anchor = grant.anchor ∧
        rowStep toLowerCase endpoints answers grant.anchor (state.row grant) anchor =
          next.row (effect grant) := by
  unfold step at h
  split_ifs at h with hskipped
  · cases h
    refine ⟨id, (List.map_id _).symm, fun grant => ⟨rfl, if_neg fun ⟨hchain, hunmarked⟩ => ?_⟩⟩
    have hmarked := (isMarked_of_chain _ hchain).trans (decide_eq_true hskipped)
    exact Bool.false_ne_true (hunmarked.symm.trans hmarked)
  · obtain ⟨verdict, hverdict, rfl⟩ := Option.map_eq_some_iff.mp h
    unfold rowStep
    simp only [hverdict]
    cases verdict with
    | unavailable =>
      refine ⟨id, (List.map_id _).symm, fun grant => ⟨rfl, ?_⟩⟩
      by_cases hchain : grant.anchor.map FinalityAnchor.sourceChainId = some (chainIdOf anchor)
      · have hmarked : grant.isMarked (state.suspendedChains ++ [chainIdOf anchor]) = true := by
          rw [isMarked_of_chain _ hchain]
          exact decide_eq_true (List.mem_append_right _ List.mem_cons_self)
        have hunmarked : (state.row grant).1 = false :=
          (isMarked_of_chain _ hchain).trans (decide_eq_false hskipped)
        rw [if_pos ⟨hchain, hunmarked⟩]
        exact Prod.ext hmarked.symm rfl
      · rw [if_neg fun h => hchain h.1]
        refine Prod.ext ?_ rfl
        change grant.isMarked state.suspendedChains =
          grant.isMarked (state.suspendedChains ++ [chainIdOf anchor])
        unfold EligibilityGrant.isMarked
        cases howned : grant.anchor with
        | none => rfl
        | some own =>
          rw [howned] at hchain
          have hne : own.sourceChainId ≠ chainIdOf anchor := fun h => hchain (congrArg some h)
          simp [hne]
    | confirmed => exact ⟨id, (List.map_id _).symm, fun grant => ⟨rfl, ite_self _⟩⟩
    | orphaned orphan =>
      obtain ⟨rfl, -⟩ := recheck_sound hverdict
      refine ⟨(·.revokeAt orphan), rfl, fun grant => ⟨revokeAt_anchor orphan, ?_⟩⟩
      have hrow : PassState.row ⟨state.suspendedChains, state.grants.map (·.revokeAt orphan)⟩
          (grant.revokeAt orphan) = ((state.row grant).1, grant.revokeAt orphan) := by
        unfold PassState.row EligibilityGrant.isMarked
        rw [revokeAt_anchor]
      refine Eq.trans ?_ hrow.symm
      split_ifs with hcase
      · rfl
      · refine Prod.ext rfl ?_
        rcases revokeAt_cases grant orphan with ⟨-, own, hown, hchain, -⟩ | ⟨hkept, -⟩
        · refine absurd ⟨?_, ?_⟩ hcase
          · rw [hown]
            exact congrArg some hchain
          · exact (isMarked_of_chain _ (by rw [hown]; exact congrArg some hchain)).trans
              (decide_eq_false hskipped)
        · exact hkept.symm

/-- Each row goes its own way through the anchors. -/
theorem loop_rows {state next : PassState}
    (h : anchors.foldlM (step toLowerCase endpoints answers) state = some next) :
    ∃ effect : EligibilityGrant → EligibilityGrant, next.grants = state.grants.map effect ∧
      ∀ grant, (effect grant).anchor = grant.anchor ∧
        anchors.foldl (rowStep toLowerCase endpoints answers grant.anchor) (state.row grant) =
          next.row (effect grant) := by
  induction anchors generalizing state with
  | nil =>
    cases h
    exact ⟨id, (List.map_id _).symm, fun _ => ⟨rfl, rfl⟩⟩
  | cons anchor rest ih =>
    rw [List.foldlM_cons] at h
    obtain ⟨middle, hmiddle, h⟩ := Option.bind_eq_some_iff.mp h
    obtain ⟨first, hfirst, hrow⟩ := step_rows hmiddle
    obtain ⟨second, hsecond, hrows⟩ := ih h
    refine ⟨second ∘ first, by rw [hsecond, hfirst, List.map_map], fun grant => ?_⟩
    obtain ⟨hanchor, hstep⟩ := hrow grant
    obtain ⟨hanchor', hloop⟩ := hrows (first grant)
    refine ⟨hanchor'.trans hanchor, ?_⟩
    rw [List.foldl_cons, hstep, ← hanchor]
    exact hloop

theorem pass_rows (h : pass toLowerCase endpoints answers now anchors grants = some final) :
    final = grants.map (outcome toLowerCase endpoints answers now anchors) := by
  obtain ⟨state, hloop, h⟩ := Option.bind_eq_some_iff.mp h
  obtain ⟨effect, hgrants, hrows⟩ := loop_rows hloop
  rw [← Option.some.inj h, foldl_map_suspendOn, hgrants, List.map_map, List.map_map]
  refine List.map_congr_left fun grant _ => ?_
  have hstart : PassState.row ⟨[], grants⟩ grant = (false, grant) := by
    unfold PassState.row EligibilityGrant.isMarked
    cases grant.anchor <;> rfl
  unfold outcome
  rw [← hstart, (hrows grant).2, Function.comp_apply, Function.comp_apply, foldl_suspendOn]
  rfl

/-- What becomes of a row rests on the answers for its chain. -/
theorem outcome_congr (same : ∀ own ∈ grant.anchor, ∀ anchor : FinalityAnchor,
      anchor.sourceChainId = own.sourceChainId → answers anchor = others anchor) :
    outcome toLowerCase endpoints answers now anchors grant =
      outcome toLowerCase endpoints others now anchors grant := by
  have hstep : rowStep toLowerCase endpoints answers grant.anchor =
      rowStep toLowerCase endpoints others grant.anchor := by
    funext row anchor
    unfold rowStep
    refine ite_congr rfl (fun ⟨hchain, _⟩ => ?_) fun _ => rfl
    obtain ⟨own, hown, hchain⟩ := Option.map_eq_some_iff.mp hchain
    cases anchor with
    | none => rfl
    | some anchor =>
      unfold recheck
      simp only [same own hown anchor hchain.symm, Option.map_some]
  unfold outcome
  rw [hstep]

theorem Progress.step (progress : Progress toLowerCase endpoints answers done before row)
    (numbered : ∀ own ∈ before.anchor, ∀ orphan ∈ anchor,
      own.sourceChainId = orphan.sourceChainId → own.sourceBlockHash = orphan.sourceBlockHash →
        own.sourceBlock = orphan.sourceBlock) :
    Progress toLowerCase endpoints answers (done ++ [anchor]) before
      (rowStep toLowerCase endpoints answers before.anchor row anchor) := by
  obtain ⟨hid, hanchor, hvalid, hactive, hrevoked⟩ := progress
  have hdone : ∀ {own : FinalityAnchor}, some own ∈ done ++ [anchor] →
      some own ∈ done ∨ anchor = some own := fun hmem =>
    (List.mem_append.mp hmem).imp_right fun hlast => (List.mem_singleton.mp hlast).symm
  have keep (hagreed : row.1 = false → ∀ own ∈ before.anchor, anchor = some own →
      row.2.state = .active → Agreed toLowerCase endpoints answers own (storedHash own)) :
      Progress toLowerCase endpoints answers (done ++ [anchor]) before row := by
    refine ⟨hid, hanchor, hvalid, fun h => ⟨(hactive h).1, fun hunmarked own hown hmem => ?_⟩,
      hrevoked⟩
    rcases hdone hmem with hold | hnow
    · exact (hactive h).2 hunmarked own hown hold
    · exact hagreed hunmarked own hown hnow h
  unfold rowStep
  split_ifs with hcase
  · split
    · next hverdict => exact keep fun _ own _ hnow _ => recheck_sound hverdict own hnow
    · next orphan hverdict =>
      obtain ⟨rfl, hash, hdiffers, hagreed⟩ := recheck_sound hverdict
      rcases revokeAt_cases row.2 orphan with
        ⟨hrow, own, hown, hchain, hhash⟩ | ⟨hrow, hother⟩
      · have hown' : own ∈ before.anchor := hanchor ▸ hown
        have hblock := numbered own hown' orphan rfl hchain hhash
        obtain rfl : own = orphan := by
          cases own
          cases orphan
          cases hchain
          cases hhash
          cases hblock
          rfl
        rw [hrow]
        exact ⟨hid, hanchor, hvalid, nofun, fun _ => Or.inr ⟨own, hown', hash, hdiffers, hagreed⟩⟩
      · rw [hrow]
        refine keep fun _ own hown hnow h => absurd ⟨h, ?_⟩ hother
        exact hanchor.trans (hown.trans hnow.symm)
    · exact ⟨hid, hanchor, hvalid, fun h => ⟨(hactive h).1, nofun⟩, hrevoked⟩
  · refine keep fun hunmarked own hown hnow _ => absurd ⟨?_, hunmarked⟩ hcase
    rw [hnow, hown]
    rfl

theorem Progress.loop (progress : Progress toLowerCase endpoints answers done before row)
    (numbered : ∀ anchor ∈ anchors, ∀ own ∈ before.anchor, ∀ orphan ∈ anchor,
      own.sourceChainId = orphan.sourceChainId → own.sourceBlockHash = orphan.sourceBlockHash →
        own.sourceBlock = orphan.sourceBlock) :
    Progress toLowerCase endpoints answers (done ++ anchors) before
      (anchors.foldl (rowStep toLowerCase endpoints answers before.anchor) row) := by
  induction anchors generalizing done row with
  | nil => rwa [List.append_nil]
  | cons anchor rest ih =>
    have hrest := ih (progress.step (numbered anchor List.mem_cons_self))
      fun other hother => numbered other (List.mem_cons_of_mem anchor hother)
    rwa [List.append_assoc, List.singleton_append] at hrest

theorem outcome_rechecked (selects : SelectsAnchors grants anchors) (numbered : Numbered grants)
    (hgrant : grant ∈ grants) :
    Rechecked toLowerCase endpoints answers now grant
      (outcome toLowerCase endpoints answers now anchors grant) := by
  have start : Progress toLowerCase endpoints answers [] grant (false, grant) :=
    ⟨rfl, rfl, rfl, fun h => ⟨h, fun _ _ _ h => absurd h List.not_mem_nil⟩, Or.inl⟩
  obtain ⟨hid, hanchor, hvalid, hactive, hrevoked⟩ :=
    start.loop fun anchor (hmem : anchor ∈ anchors) own hown orphan horphan => by
      obtain ⟨other, hother, -, rfl⟩ := (selects.mem_iff anchor).mp hmem
      exact numbered grant hgrant other hother own hown orphan horphan
  unfold outcome
  dsimp only
  split_ifs with hmarked
  · exact ⟨hid, nofun, nofun⟩
  · unfold EligibilityGrant.sweep
    split_ifs with hexpired
    · exact ⟨hid, nofun, nofun⟩
    · refine ⟨hid, fun h => ?_, hrevoked⟩
      obtain ⟨hbefore, hagreed⟩ := hactive h
      refine ⟨hbefore, hvalid ▸ Int.lt_of_not_ge fun hpast => hexpired ⟨h, hpast⟩,
        fun own hown => hagreed (Bool.eq_false_iff.mpr fun hmark => hmarked ⟨h, hmark⟩) own hown ?_⟩
      exact (selects.mem_iff _).mpr ⟨grant, hgrant, hbefore, hown⟩

end

/-- Whatever the providers answer, a grant stays active only where all of them confirm its block,
and what becomes of it rests on the answers for its own chain. -/
theorem recheck_fails_closed (toLowerCase : String → String) (endpoints : String → List String)
    (answers : FinalityAnchor → Nat → RpcAnswer) (now : Int) (grants : List EligibilityGrant)
    (anchors : List (Option FinalityAnchor)) (final : List EligibilityGrant)
    (selects : SelectsAnchors grants anchors) (numbered : Numbered grants)
    (h : pass toLowerCase endpoints answers now anchors grants = some final) :
    ∃ outcome, final = grants.map outcome ∧
      (∀ grant ∈ grants, Rechecked toLowerCase endpoints answers now grant (outcome grant)) ∧
      ∀ others final', pass toLowerCase endpoints others now anchors grants = some final' →
        ∃ outcome', final' = grants.map outcome' ∧ ∀ grant ∈ grants,
          (∀ own ∈ grant.anchor, ∀ anchor : FinalityAnchor,
            anchor.sourceChainId = own.sourceChainId → answers anchor = others anchor) →
          outcome grant = outcome' grant :=
  ⟨_, pass_rows h, fun _ hgrant => outcome_rechecked selects numbered hgrant,
    fun _ _ h' => ⟨_, pass_rows h', fun _ _ same => outcome_congr same⟩⟩

def sampleGrants : List EligibilityGrant :=
  [⟨"grant_1", some ⟨"1", 5, [1]⟩, .verifiedFinalized, .active, 10⟩,
    ⟨"grant_2", some ⟨"1", 6, [2]⟩, .verifiedFinalized, .active, 10⟩]

def sampleAnchors : List (Option FinalityAnchor) := sampleGrants.map EligibilityGrant.anchor

def sampleAnswers (_ : FinalityAnchor) (_ : Nat) : RpcAnswer :=
  .response true (some ⟨true, false, some (storedHash ⟨"1", 5, [1]⟩)⟩)

theorem recheck_fails_closed_sample : ∃ final,
    pass id (fun _ => ["one", "two"]) sampleAnswers 0 sampleAnchors sampleGrants = some final ∧
      final.map EligibilityGrant.state = [.active, .revoked] ∧
      ∃ outcome, final = sampleGrants.map outcome ∧ ∀ grant ∈ sampleGrants,
        Rechecked id (fun _ => ["one", "two"]) sampleAnswers 0 grant (outcome grant) := by
  obtain ⟨outcome, hfinal, hrechecked, -⟩ := recheck_fails_closed id (fun _ => ["one", "two"])
    sampleAnswers 0 sampleGrants sampleAnchors _
    ⟨by decide, fun anchor => by simp [sampleAnchors, sampleGrants, eq_comm]⟩
    (by unfold Numbered sampleGrants; decide) rfl
  exact ⟨_, rfl, by decide, outcome, hfinal, hrechecked⟩

end JbChat.Keeper.RecheckGrants
