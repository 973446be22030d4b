/- source: src/production/relay/relayFormat.ts, src/production/http/messagingHttp.ts
   digest: The conversation that an inbound channel message is sent to. -/

import JbChat.Domain.Fulfillment
import JbChat.Relay.RelayDrain

/-!
A member answers several relayed conversations in one channel. A text that starts with a tag names
the conversation it is meant for; a tag is too short to tell all conversations apart.
-/

set_option autoImplicit false

namespace JbChat.Relay.InboundReplies

open Domain.Fulfillment
open RelayDrain

structure RelayedConversation where
  conversationId : String
  context : RelayEnvelopeContext
deriving DecidableEq

inductive InboundRoute where
  | send (conversationId text : String)
  | prompt (options : List RelayEnvelopeContext)
  | ignore
deriving DecidableEq

/-- `[0-9a-f]` without regard to case -/
def isTagDigit (c : Char) : Bool :=
  c.isDigit || decide ('a' ≤ c.toLower ∧ c.toLower ≤ 'f')

/-- `/^\[([0-9a-f]{4})\]\s*([\s\S]+)$/i`: the tag in lower case, and the text behind it. -/
def tagged (text : String) : Option (String × String) :=
  match text.toList with
  | '[' :: a :: b :: c :: d :: ']' :: rest =>
    if [a, b, c, d].all isTagDigit ∧ rest ≠ [] then
      some (String.ofList ([a, b, c, d].map Char.toLower), trim (String.ofList rest))
    else none
  | _ => none

def hasTag (tag : String) (candidate : RelayedConversation) : Bool :=
  decide (conversationTag candidate.conversationId = tag)

/-- The first conversation of the tag that the text starts with, and the text behind the tag. -/
def addressed (trimmed : String) (conversations : List RelayedConversation) :
    Option (RelayedConversation × String) :=
  (tagged trimmed).bind fun (tag, reply) =>
    (conversations.find? (hasTag tag)).map fun candidate => (candidate, reply)

def routeInbound (text : String) (conversations : List RelayedConversation) : InboundRoute :=
  let trimmed := trim text
  if trimmed = "" ∨ trimmed.toList.head? = some '/' then .ignore
  else
    match addressed trimmed conversations, conversations with
    | some (candidate, reply), _ => .send candidate.conversationId reply
    | none, [only] => .send only.conversationId trimmed
    | none, [] => .ignore
    | none, several => .prompt (several.map RelayedConversation.context)

def Names (text : String) (conversations : List RelayedConversation) (conversationId : String) :
    Prop :=
  ∃ tag reply, tagged (trim text) = some (tag, reply) ∧
    (∃ candidate ∈ conversations, hasTag tag candidate = true ∧
      candidate.conversationId = conversationId) ∧
    ∀ candidate ∈ conversations, hasTag tag candidate = true →
      candidate.conversationId = conversationId

/-- A text is sent to the only conversation or to the one it names; where there are several and it
names none of them, the answer is a prompt. -/
structure NeverGuesses (text : String) (conversations : List RelayedConversation) : Prop where
  sent : ∀ conversationId reply, routeInbound text conversations = .send conversationId reply →
    conversations.length = 1 ∨ Names text conversations conversationId
  prompted : 2 ≤ conversations.length → routeInbound text conversations ≠ .ignore →
    (∀ conversationId, ¬ Names text conversations conversationId) →
      routeInbound text conversations =
        .prompt (conversations.map RelayedConversation.context)

def Unambiguous (text : String) (conversations : List RelayedConversation) : Prop :=
  ∀ tag reply, tagged (trim text) = some (tag, reply) →
    ∀ candidate ∈ conversations, ∀ other ∈ conversations, hasTag tag candidate = true →
      hasTag tag other = true → candidate.conversationId = other.conversationId

section

variable {text : String} {conversations : List RelayedConversation} {reply : String}
  {candidate : RelayedConversation}

theorem addressed_eq_some {trimmed : String}
    (h : addressed trimmed conversations = some (candidate, reply)) :
    ∃ tag, tagged trimmed = some (tag, reply) ∧ candidate ∈ conversations ∧
      hasTag tag candidate = true := by
  obtain ⟨⟨tag, answer⟩, htagged, h⟩ := Option.bind_eq_some_iff.mp h
  obtain ⟨found, hfound, h⟩ := Option.map_eq_some_iff.mp h
  cases h
  exact ⟨tag, htagged, List.mem_of_find?_eq_some hfound, List.find?_some hfound⟩

theorem addressed_isSome {trimmed tag : String} (htagged : tagged trimmed = some (tag, reply))
    (hmem : candidate ∈ conversations) (htag : hasTag tag candidate = true) :
    ∃ found, addressed trimmed conversations = some (found, reply) := by
  have hsome : (conversations.find? (hasTag tag)).isSome :=
    List.find?_isSome.mpr ⟨candidate, hmem, htag⟩
  obtain ⟨found, hfound⟩ := Option.isSome_iff_exists.mp hsome
  refine ⟨found, ?_⟩
  unfold addressed
  rw [htagged, Option.bind_some]
  dsimp only
  rw [hfound]
  rfl

theorem tagged_head {trimmed tag : String} (h : tagged trimmed = some (tag, reply)) :
    trimmed.toList.head? = some '[' := by
  unfold tagged at h
  split at h
  · next heq =>
      rw [heq]
      rfl
  · cases h

theorem routeInbound_addressed {tag : String} (htagged : tagged (trim text) = some (tag, reply))
    (h : addressed (trim text) conversations = some (candidate, reply)) :
    routeInbound text conversations = .send candidate.conversationId reply := by
  have hhead := tagged_head htagged
  have hkept : ¬ (trim text = "" ∨ (trim text).toList.head? = some '/') := by
    rintro (hempty | hslash)
    · rw [hempty] at hhead
      cases hhead
    · rw [hhead] at hslash
      cases hslash
  unfold routeInbound
  dsimp only
  rw [if_neg hkept, h]

theorem routeInbound_cases (text : String) (conversations : List RelayedConversation) :
    routeInbound text conversations = .ignore ∨
      (∃ candidate reply, addressed (trim text) conversations = some (candidate, reply) ∧
        routeInbound text conversations = .send candidate.conversationId reply) ∨
      (∃ only, conversations = [only] ∧
        routeInbound text conversations = .send only.conversationId (trim text)) ∨
      routeInbound text conversations =
        .prompt (conversations.map RelayedConversation.context) := by
  unfold routeInbound
  dsimp only
  split
  · exact Or.inl rfl
  · split
    · next candidate reply haddressed => exact Or.inr (Or.inl ⟨candidate, reply, haddressed, rfl⟩)
    · next only _ => exact Or.inr (Or.inr (Or.inl ⟨only, rfl, rfl⟩))
    · exact Or.inl rfl
    · exact Or.inr (Or.inr (Or.inr rfl))

theorem names_of_addressed (unambiguous : Unambiguous text conversations)
    (h : addressed (trim text) conversations = some (candidate, reply)) :
    Names text conversations candidate.conversationId := by
  obtain ⟨tag, htagged, hmem, htag⟩ := addressed_eq_some h
  exact ⟨tag, reply, htagged, ⟨candidate, hmem, htag, rfl⟩, fun other hother hsame =>
    unambiguous tag reply htagged other hother candidate hmem hsame htag⟩

theorem neverGuesses_of_unambiguous (unambiguous : Unambiguous text conversations) :
    NeverGuesses text conversations := by
  constructor
  · intro conversationId reply hsend
    rcases routeInbound_cases text conversations with h | ⟨candidate, answer, haddressed, h⟩ |
      ⟨only, rfl, h⟩ | h
    · rw [h] at hsend
      cases hsend
    · obtain ⟨rfl, rfl⟩ := InboundRoute.send.inj (h.symm.trans hsend)
      exact Or.inr (names_of_addressed unambiguous haddressed)
    · exact Or.inl rfl
    · rw [h] at hsend
      cases hsend
  · intro several hkept hnames
    rcases routeInbound_cases text conversations with h | ⟨candidate, answer, haddressed, h⟩ |
      ⟨only, rfl, h⟩ | h
    · exact absurd h hkept
    · exact absurd (names_of_addressed unambiguous haddressed) (hnames candidate.conversationId)
    · exact absurd several (by simp only [List.length_singleton]; omega)
    · exact h

theorem unambiguous_of_neverGuesses (never : NeverGuesses text conversations) :
    Unambiguous text conversations := by
  intro tag reply htagged candidate hcandidate other hother htag hsame
  obtain ⟨found, hfound⟩ := addressed_isSome htagged hcandidate htag
  have hroute := routeInbound_addressed htagged hfound
  rcases never.sent found.conversationId reply hroute with hlength |
    ⟨tag', reply', htagged', -, hall⟩
  · obtain ⟨only, rfl⟩ := List.length_eq_one_iff.mp hlength
    rw [List.mem_singleton.mp hcandidate, List.mem_singleton.mp hother]
  · cases htagged.symm.trans htagged'
    rw [hall candidate hcandidate htag, hall other hother hsame]

/-- A reply is never guessed exactly when no two conversations have the tag it starts with. -/
theorem neverGuesses_iff (text : String) (conversations : List RelayedConversation) :
    NeverGuesses text conversations ↔ Unambiguous text conversations :=
  ⟨unambiguous_of_neverGuesses, neverGuesses_of_unambiguous⟩

end

def sampleConversation (conversationId : String) : RelayedConversation :=
  ⟨conversationId, ⟨none, "68", .customer, conversationTag conversationId⟩⟩

def sampleConversations : List RelayedConversation :=
  [sampleConversation "abcd0001-0000-4000-8000-000000000001",
    sampleConversation "abcd0002-0000-4000-8000-000000000002"]

/-- A reply with a tag that two conversations have is sent to the first of them. -/
theorem shared_tag_guesses :
    routeInbound "[abcd] on my way" sampleConversations =
        .send "abcd0001-0000-4000-8000-000000000001" "on my way" ∧
      ¬ NeverGuesses "[abcd] on my way" sampleConversations := by
  refine ⟨by decide, fun never => ?_⟩
  rcases never.sent "abcd0001-0000-4000-8000-000000000001" "on my way" (by decide) with h |
    ⟨tag, reply, htagged, -, hall⟩
  · exact absurd h (by decide)
  · have htag : tag = "abcd" := by
      have hsample : tagged (trim "[abcd] on my way") = some ("abcd", "on my way") := by decide
      exact (Prod.mk.inj (Option.some.inj (htagged.symm.trans hsample))).1
    subst htag
    have hother := hall (sampleConversation "abcd0002-0000-4000-8000-000000000002")
      (by decide) (by decide)
    exact absurd hother (by decide)

end JbChat.Relay.InboundReplies
