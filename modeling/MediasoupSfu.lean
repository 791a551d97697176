import MediasoupSfu.SeqManager.Manager
import MediasoupSfu.SeqManager.Contiguity
import MediasoupSfu.Feedback.RoundTrip
import MediasoupSfu.Feedback.StatusCount
import MediasoupSfu.Feedback.Size
import MediasoupSfu.Feedback.Reporting
import MediasoupSfu.Rtp.Extensions
import MediasoupSfu.Stream.Recv
import MediasoupSfu.Stream.Resend
import MediasoupSfu.Stream.Eviction
import MediasoupSfu.Stream.Retransmission
import MediasoupSfu.Stream.NackExchange
import MediasoupSfu.Stream.SequenceCount
import MediasoupSfu.Stream.FractionLost
import MediasoupSfu.Stream.LossStats
import MediasoupSfu.Stream.ScoreInputs
import MediasoupSfu.Consumer.Numbering
import MediasoupSfu.Ice.Invariant
import MediasoupSfu.Ice.Credentials
import MediasoupSfu.Ice.StunRoundTrip
import MediasoupSfu.Consumer.Switching
import MediasoupSfu.Consumer.SenderReports
import MediasoupSfu.Consumer.BaseLayer
import MediasoupSfu.Producer.Lookups
import MediasoupSfu.Rtcp.ReceiverReports
import MediasoupSfu.Library.Json
import MediasoupSfu.Ortc.RtpParameters
import MediasoupSfu.Ortc.ProfileLevelId
import MediasoupSfu.Ortc.MatchCodecs
import MediasoupSfu.Ortc.RouterCapabilities
import MediasoupSfu.Ortc.PayloadTypes
import MediasoupSfu.Ortc.Mapping
import MediasoupSfu.Ortc.MappingAgrees
import MediasoupSfu.Ortc.Consume
import MediasoupSfu.Ortc.Selection
import MediasoupSfu.Ortc.CanConsume
import MediasoupSfu.Ortc.ConsumerParameters
import MediasoupSfu.Ortc.PipeParameters
import MediasoupSfu.Controller.SctpStreamIds
import MediasoupSfu.Tcp.Connection
import MediasoupSfu.Producer.KeyFrameRequests
import MediasoupSfu.Transport.RtpListener
import MediasoupSfu.Rtcp.SdesRoundTrip
import MediasoupSfu.Rtcp.XrRoundTrip
import MediasoupSfu.Ice.StunGrammar
import MediasoupSfu.Controller.ChannelRead
import MediasoupSfu.Controller.PayloadChannel
import MediasoupSfu.Transport.Bitrate
import MediasoupSfu.Stream.RetransmissionAge
import MediasoupSfu.Sctp.Reassembly
import MediasoupSfu.Transport.PortManager
import MediasoupSfu.Stream.RateCalculator
import MediasoupSfu.Channel.ConsumerSocket
import MediasoupSfu.Channel.PayloadSocket
import MediasoupSfu.Rtp.ExtensionValues
import MediasoupSfu.Rtp.Elements
import MediasoupSfu.Rtp.Wire
import MediasoupSfu.Rtp.Message
import MediasoupSfu.Producer.Mangling
import MediasoupSfu.Rtcp.CompoundParsing
import MediasoupSfu.Router.Consistency
import MediasoupSfu.Ortc.CodecReduction
import MediasoupSfu.Ortc.MimeTypeCase
import MediasoupSfu.Ortc.Idempotence
import MediasoupSfu.Ortc.ExtendedCapabilities
import MediasoupSfu.Codecs.H265
import MediasoupSfu.Rtcp.RembRoundTrip
import MediasoupSfu.Producer.AcceptedParameters
import MediasoupSfu.Sctp.OutgoingStreams
import MediasoupSfu.Router.AudioLevelRanking
import MediasoupSfu.Codecs.H264
import MediasoupSfu.Rtcp.ItemsRoundTrip
import MediasoupSfu.Library.Sharing
import MediasoupSfu.Consumer.Simple
import MediasoupSfu.Router.Relay
import MediasoupSfu.Tcp.Writing
import MediasoupSfu.Transport.WebRtcSafety
