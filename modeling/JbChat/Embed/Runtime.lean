/- source: src/embed/runtime.ts
   digest: The three gates that window messages pass: inbound channel, host init, bootstrap. -/

import JbChat.Embed.Protocol
import JbChat.Foundation.SlidingWindow

set_option autoImplicit false

namespace JbChat.Embed.Runtime

open StructuredSize Protocol Foundation.SlidingWindow Foundation.Numbers

def embedMaxMessageBytes : Number := ofInt (8 * 1024)

def embedMaxOperationalMessageBytes : Number := ofInt (2 * 1024)

def embedRateWindowMs : Number := ofInt 10000

def embedMaxMessagesPerWindow : Number := ofInt 20

def embedMaxAcceptedMessages : Number := ofInt 256

inductive EmbedGateRejection where
  | closed
  | untrustedPeer
  | oversized
  | rateLimited
  | invalidMessage
  | invalidState
  | replayedRequest
  | channelExhausted
  deriving DecidableEq

inductive EmbedGateResult (Message : Type) where
  | accepted (message : Message)
  | rejected (reason : EmbedGateRejection)

/-- What the gate reads of a message. -/
class SequencedMessage (Message : Type) where
  sequence : Message → Number
  type : Message → String
  requestId : Message → Option String

instance : SequencedMessage HostToFrameMessage where
  sequence message := message.envelope.sequence
  type message := message.payload.type
  requestId message := message.envelope.requestId

instance : SequencedMessage FrameToHostMessage where
  sequence message := message.envelope.sequence
  type message := message.payload.type
  requestId message := message.envelope.requestId

structure BridgeEvent (Window : Type) where
  data : StructuredValue
  origin : String
  source : Option Window
  /-- How many ports came with the message. -/
  ports : Nat

section

variable {Window Message : Type} [DecidableEq Window] [SequencedMessage Message]

def isTrustedWindowEvent (event : BridgeEvent Window) (expectedWindow : Window)
    (expectedOrigin : String) : Bool :=
  event.source = some expectedWindow && event.origin = expectedOrigin

/-- The options of a gate; `parse` answers `none` where the parser throws. -/
structure EmbedInboundGateOptions (Window Message : Type) where
  expectedSource : Window
  expectedOrigin : String
  channelId : String
  initialPeerNonce : Option String
  initialType : Option String
  initialSequence : Option Number
  initialRequestIds : Option (List String)
  parse : StructuredValue → EmbedEnvelopeExpectation → Option Message
  maxMessageBytes : Option Number
  maxOperationalMessageBytes : Option Number
  maxMessagesPerWindow : Option Number
  rateWindowMs : Option Number
  maxAcceptedMessages : Option Number

/-- The fields of a gate that never change. -/
structure EmbedInboundGate (Window Message : Type) where
  expectedSource : Window
  expectedOrigin : String
  channelId : String
  initialType : Option String
  parse : StructuredValue → EmbedEnvelopeExpectation → Option Message
  maxMessageBytes : Number
  maxOperationalMessageBytes : Number
  maxMessagesPerWindow : Number
  rateWindowMs : Number
  maxAcceptedMessages : Number

structure EmbedInboundGateState where
  seenRequestIds : List String
  attemptTimes : List Number
  peerNonce : Option String
  nextSequence : Number
  acceptedMessages : Number
  closed : Bool

namespace EmbedInboundGateOptions

variable (options : EmbedInboundGateOptions Window Message)

/-- The constructor, as far as it fixes the gate. -/
def gate : EmbedInboundGate Window Message where
  expectedSource := options.expectedSource
  expectedOrigin := options.expectedOrigin
  channelId := options.channelId
  initialType := options.initialType
  parse := options.parse
  maxMessageBytes := options.maxMessageBytes.getD embedMaxMessageBytes
  maxOperationalMessageBytes :=
    options.maxOperationalMessageBytes.getD embedMaxOperationalMessageBytes
  maxMessagesPerWindow := options.maxMessagesPerWindow.getD embedMaxMessagesPerWindow
  rateWindowMs := options.rateWindowMs.getD embedRateWindowMs
  maxAcceptedMessages := options.maxAcceptedMessages.getD embedMaxAcceptedMessages

/-- The constructor, as far as it sets up what changes. -/
def state : EmbedInboundGateState where
  seenRequestIds := options.initialRequestIds.getD []
  attemptTimes := []
  peerNonce := options.initialPeerNonce
  nextSequence := options.initialSequence.getD (ofInt 0)
  acceptedMessages := ofInt 0
  closed := false

end EmbedInboundGateOptions

def countedRequestId (message : Message) : Option String :=
  match SequencedMessage.requestId message with
  | some requestId => if requestId = "" then none else some requestId
  | none => none

/-- The window that ends at `now` reaches back to the time. -/
def reaches (rateWindowMs now time : Number) : Bool := (now.sub rateWindowMs).lt time

namespace EmbedInboundGate

variable (gate : EmbedInboundGate Window Message) (state : EmbedInboundGateState)

def acceptParsed (structuredBytes : Number) (message : Message) :
    EmbedInboundGateState × EmbedGateResult Message :=
  if state.acceptedMessages = ofInt 0 ∧
      (∃ type ∈ gate.initialType, SequencedMessage.type message ≠ type) then
    (state, .rejected .invalidState)
  else if (ofInt 0).lt state.nextSequence ∧
      gate.maxOperationalMessageBytes.lt structuredBytes then
    (state, .rejected .oversized)
  else if ∃ requestId ∈ countedRequestId message, requestId ∈ state.seenRequestIds then
    (state, .rejected .replayedRequest)
  else if gate.maxAcceptedMessages.le state.acceptedMessages then
    ({ state with closed := true }, .rejected .channelExhausted)
  else
    ({ state with
        seenRequestIds := (countedRequestId message).toList ++ state.seenRequestIds
        acceptedMessages := state.acceptedMessages.add (ofInt 1)
        nextSequence := state.nextSequence.add (ofInt 1) },
      .accepted message)

def accept (event : BridgeEvent Window) (now : Number) :
    EmbedInboundGateState × EmbedGateResult Message :=
  if state.closed then (state, .rejected .closed)
  else if !isTrustedWindowEvent event gate.expectedSource gate.expectedOrigin then
    (state, .rejected .untrustedPeer)
  else if event.ports ≠ 0 then (state, .rejected .invalidMessage)
  else
    match structuredSizeWithin event.data gate.maxMessageBytes with
    | none => (state, .rejected .oversized)
    | some structuredBytes =>
      let kept := recent (reaches gate.rateWindowMs) now state.attemptTimes
      if gate.maxMessagesPerWindow.le (ofInt kept.length) then
        ({ state with attemptTimes := kept }, .rejected .rateLimited)
      else
        let attempted := { state with attemptTimes := kept ++ [now] }
        match gate.parse event.data
            { channelId := gate.channelId
              sequence := state.nextSequence
              peerNonce := state.peerNonce } with
        | none => (attempted, .rejected .invalidMessage)
        | some message => gate.acceptParsed attempted structuredBytes message

end EmbedInboundGate

namespace EmbedInboundGateState

variable (state : EmbedInboundGateState)

def destroy : EmbedInboundGateState :=
  { state with
    closed := true
    attemptTimes := []
    seenRequestIds := [] }

/-- The new state, and whether the call returned; it throws where it answers `false`. -/
def establishPeerNonce (peerNonce : String) : EmbedInboundGateState × Bool :=
  if state.closed || state.peerNonce.isSome || state.nextSequence != ofInt 1 ||
      !isValidEmbedNonce peerNonce then
    (state.destroy, false)
  else ({ state with peerNonce := some peerNonce }, true)

end EmbedInboundGateState

inductive EmbedGateCall (Window : Type) where
  | accept (event : BridgeEvent Window) (now : Number)
  | establishPeerNonce (peerNonce : String)
  | destroy

inductive EmbedGateAnswer (Message : Type) where
  | result (result : EmbedGateResult Message)
  | established
  | thrown
  | destroyed

def EmbedInboundGate.call (gate : EmbedInboundGate Window Message)
    (state : EmbedInboundGateState) :
    EmbedGateCall Window → EmbedInboundGateState × EmbedGateAnswer Message
  | .accept event now => ((gate.accept state event now).1, .result (gate.accept state event now).2)
  | .establishPeerNonce peerNonce =>
    ((state.establishPeerNonce peerNonce).1,
      if (state.establishPeerNonce peerNonce).2 then .established else .thrown)
  | .destroy => (state.destroy, .destroyed)

/-- What the two one-shot gates share: they take one message and close. -/
structure OneShotGate (Window : Type) where
  expectedSource : Window
  expectedOrigin : String

structure OneShotGateState where
  attemptTimes : List Number
  closed : Bool

def OneShotGateState.destroy (_state : OneShotGateState) : OneShotGateState where
  attemptTimes := []
  closed := true

def OneShotGate.accept {Parsed : Type} (gate : OneShotGate Window) (maximumBytes : Number)
    (parse : StructuredValue → Parse Parsed) (state : OneShotGateState)
    (event : BridgeEvent Window) (now : Number) : OneShotGateState × EmbedGateResult Parsed :=
  if state.closed then (state, .rejected .closed)
  else if !isTrustedWindowEvent event gate.expectedSource gate.expectedOrigin then
    (state, .rejected .untrustedPeer)
  else if event.ports ≠ 0 then (state, .rejected .invalidMessage)
  else if (structuredSizeWithin event.data maximumBytes).isNone then
    (state, .rejected .oversized)
  else
    let kept := state.attemptTimes.dropWhile fun attempt => attempt.le (now.sub embedRateWindowMs)
    if embedMaxMessagesPerWindow.le (ofInt kept.length) then
      ({ state with attemptTimes := kept }, .rejected .rateLimited)
    else
      match parse event.data with
      | .ok message => (state.destroy, .accepted message)
      | .error _ => ({ state with attemptTimes := kept ++ [now] }, .rejected .invalidMessage)

/-- Accepts one `host.init` before the frame knows the channel. -/
structure EmbedHostInitializationGate (Window : Type) extends OneShotGate Window where
  expectedBootstrapNonce : String

def EmbedHostInitializationGate.accept (gate : EmbedHostInitializationGate Window)
    (state : OneShotGateState) (event : BridgeEvent Window) (now : Number) :
    OneShotGateState × EmbedGateResult (BridgeEnvelope × HostInit) :=
  gate.toOneShotGate.accept embedMaxMessageBytes
    (fun data => parseHostInitialization data gate.expectedBootstrapNonce) state event now

/-- Pre-channel readiness, bound to the frame's window and origin. -/
structure EmbedFrameBootstrapGate (Window : Type) extends OneShotGate Window where

def EmbedFrameBootstrapGate.accept (gate : EmbedFrameBootstrapGate Window)
    (state : OneShotGateState) (event : BridgeEvent Window) (now : Number) :
    OneShotGateState × EmbedGateResult FrameBootstrapMessage :=
  gate.toOneShotGate.accept embedMaxOperationalMessageBytes parseFrameBootstrapMessage state
    event now

inductive OneShotCall (Window : Type) where
  | accept (event : BridgeEvent Window) (now : Number)
  | destroy

/-- The step of a one-shot gate that accepts by the given function; a `destroy` returns
nothing. -/
def oneShotCall {Parsed : Type}
    (accept : OneShotGateState → BridgeEvent Window → Number →
      OneShotGateState × EmbedGateResult Parsed) (state : OneShotGateState) :
    OneShotCall Window → OneShotGateState × Option (EmbedGateResult Parsed)
  | .accept event now => ((accept state event now).1, some (accept state event now).2)
  | .destroy => (state.destroy, none)

end

section

variable {Window : Type}

def createFrameToHostGate (expectedFrameWindow : Window)
    (expectedFrameOrigin channelId parentNonce : String) :
    EmbedInboundGateOptions Window FrameToHostMessage where
  expectedSource := expectedFrameWindow
  expectedOrigin := expectedFrameOrigin
  channelId := channelId
  initialPeerNonce := some parentNonce
  initialType := some "frame.ready"
  initialSequence := none
  initialRequestIds := none
  parse := fun value expected => (parseFrameToHostMessage value expected).toOption
  maxMessageBytes := none
  maxOperationalMessageBytes := none
  maxMessagesPerWindow := none
  rateWindowMs := none
  maxAcceptedMessages := none

end

end JbChat.Embed.Runtime
