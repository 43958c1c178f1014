import StreamerPlus.Certificate.PathCandidates
import StreamerPlus.Channel.CastPlatformClient
import StreamerPlus.Channel.CastSocketBuffer
import StreamerPlus.Channel.ConnectionNamespaceHandler
import StreamerPlus.Discovery.ChangeSets
import StreamerPlus.Discovery.DnsDataGraphRoots
import StreamerPlus.Discovery.MdnsAssociations
import StreamerPlus.Discovery.MdnsKnownAnswers
import StreamerPlus.Discovery.MdnsQuerierEvents
import StreamerPlus.Discovery.MdnsReaderSafety
import StreamerPlus.Discovery.MdnsRecordTimers
import StreamerPlus.Discovery.MdnsRetryNames
import StreamerPlus.Discovery.MdnsTruncatedQueries
import StreamerPlus.Osp.PresentationConnections
import StreamerPlus.Osp.QuicServiceBase
import StreamerPlus.Platform.TaskRunner
import StreamerPlus.StandaloneSender.CongestionControl
import StreamerPlus.StandaloneSender.MediaWatchdog
import StreamerPlus.StandaloneSender.VideoAccounting
import StreamerPlus.Streaming.AesHexBytes
import StreamerPlus.Streaming.CaptureRecommendations
import StreamerPlus.Streaming.ExpandedValueBase
import StreamerPlus.Streaming.FlowTracker
import StreamerPlus.Streaming.FrameCrypto
import StreamerPlus.Streaming.KeyFrameRequests
import StreamerPlus.Streaming.NackMeaning
import StreamerPlus.Streaming.PacketLoss
import StreamerPlus.Streaming.ReceiverChecks
import StreamerPlus.Streaming.ReceiverConsumption
import StreamerPlus.Streaming.ReceiverDelays
import StreamerPlus.Streaming.ReceiverFeedback
import StreamerPlus.Streaming.ReceiverSending
import StreamerPlus.Streaming.ReceiverSessionAnswers
import StreamerPlus.Streaming.ReportTime
import StreamerPlus.Streaming.SenderKickstart
import StreamerPlus.Streaming.SenderRejection
import StreamerPlus.Streaming.SenderRetransmission
import StreamerPlus.Streaming.SenderRoundTrip
import StreamerPlus.Util.Alarm
