import JbChat.Witness.MerkleComplete
import JbChat.Witness.SubmitterProgress
import JbChat.Embed.GateSafety
import JbChat.Http.DpopReplay
import JbChat.Identity.FamilyRevocation
import JbChat.Relay.RelayReseating
import JbChat.Http.EnvelopeReads
import JbChat.Http.MembershipRequests
import JbChat.Keeper.PushWakeups
import JbChat.Store.UsageLimits
import JbChat.Client.MessageCache
import JbChat.Client.Readability
import JbChat.Relay.InboundReplies
import JbChat.Store.ChannelRuns
import JbChat.Store.LockOrder
import JbChat.Chain.PayEvents
import JbChat.Chain.QuorumOrder
import JbChat.Client.AddressShares
import JbChat.Client.MlsTabs
import JbChat.Client.SessionRefresh
import JbChat.Client.WelcomeSync
import JbChat.Embed.StructuredText
import JbChat.Store.DecisionCompletion
import JbChat.Authority.AnchorHashes
import JbChat.Authority.AuthorityLoss
import JbChat.Authority.CanonicalJson
import JbChat.Authority.SplitScans
import JbChat.Http.VerifiedPrefix
import JbChat.Identity.KeyThumbprints
import JbChat.Store.DigestInputs
import JbChat.Store.Paging
import JbChat.Embed.RandomIdentifiers
import JbChat.Client.MlsSnapshots
import JbChat.Client.SharedSync
import JbChat.Domain.SupportCodec
import JbChat.Keeper.RecheckGrants
import JbChat.Witness.WitnessAnswers
