import DvmHost.Common.Correctness.RingFifo
import DvmHost.Common.Edac.BPTC19696
import DvmHost.Common.Lookups.AffiliationLookup
import DvmHost.Common.Lookups.Correctness.ChannelPool
import DvmHost.Host.Dmr.Lookups.Correctness.SlotExclusivity
import DvmHost.Common.Edac.Correctness.ProductCode
import DvmHost.Common.Edac.Trellis
import DvmHost.Common.Edac.Correctness.TrellisRepair
import DvmHost.Lib.Lfsr
import DvmHost.Common.Edac.CRC
import DvmHost.Common.Network.RTPHeader
import DvmHost.Common.Network.FrameQueue
import DvmHost.Common.Network.Correctness.FrameBounds
import DvmHost.Common.Network.Correctness.FrameRoundTrip
import DvmHost.Common.Edac.RS634717
import DvmHost.Lib.HornerCode
import DvmHost.Common.Edac.Correctness.ReedSolomon
import DvmHost.Lib.Gf2Division
import DvmHost.Common.Edac.Golay24128
import DvmHost.Common.Edac.Correctness.GolayRepair
import DvmHost.Common.P25.Lc.LC
import DvmHost.Common.P25.Lc.Correctness.FrameCoding
import DvmHost.Common.P25.Lc.Correctness.EncryptionSync
import DvmHost.Common.P25.Lc.Correctness.LinkControl
import DvmHost.Common.Edac.BCH
import DvmHost.Common.P25.NID
import DvmHost.Lib.MinDistance
import DvmHost.Common.Edac.Correctness.BchDistance
import DvmHost.Common.P25.Correctness.NetworkIdentifier
import DvmHost.Common.Edac.AMBEFEC
import DvmHost.Common.Edac.Correctness.VoiceRepair
import DvmHost.Common.Edac.Correctness.SymbolField
import DvmHost.Common.Edac.Correctness.SymbolRepair
import DvmHost.Common.Dmr.Lc.LC
import DvmHost.Common.Dmr.Data.EmbeddedData
import DvmHost.Common.Dmr.Data.Correctness.EmbeddedLc
import DvmHost.Common.P25.Data.DataHeader
import DvmHost.Common.P25.Data.Correctness.HeaderRoundTrip
import DvmHost.Common.P25.Data.DataBlock
import DvmHost.Common.P25.Data.Correctness.BlockRoundTrip
import DvmHost.Common.Dmr.Data.DataHeader
import DvmHost.Common.Dmr.Data.Correctness.HeaderRoundTrip
import DvmHost.Common.Nxdn.Lc.PacketInformation
import DvmHost.Common.Nxdn.Lc.RTCH
import DvmHost.Common.Nxdn.Lc.Correctness.RtchRoundTrip
import DvmHost.Common.Nxdn.Edac.Convolution
import DvmHost.Common.Nxdn.Edac.Correctness.ViterbiRepair
import DvmHost.Common.Nxdn.Channel.Puncture
import DvmHost.Common.Nxdn.Channel.FACCH1
import DvmHost.Common.Nxdn.Channel.SACCH
import DvmHost.Common.Nxdn.Channel.UDCH
import DvmHost.Common.Nxdn.Channel.Correctness.ChannelRepair
import DvmHost.Common.Nxdn.Channel.Correctness.ChannelRoundTrip
import DvmHost.Common.Nxdn.Channel.CAC
import DvmHost.Common.Edac.RS129
import DvmHost.Common.Dmr.Lc.FullLC
import DvmHost.Common.Dmr.Lc.Correctness.FullLcRoundTrip
import DvmHost.Common.Dmr.Correctness.CrcAcceptance
import DvmHost.Common.P25.Lc.AMBT
import DvmHost.Common.P25.Lc.Correctness.TrunkingAcceptance
import DvmHost.Common.P25.Lc.TDULC
import DvmHost.Lib.Copying
import DvmHost.Common.Correctness.CopyFidelity
import DvmHost.Common.P25.Lc.Correctness.EncryptionFlag
import DvmHost.Host.Dmr.Lookups.Correctness.AllocationCompleteness
import DvmHost.Common.Network.Correctness.StreamTiming
import DvmHost.Common.Lookups.RadioIdLookup
import DvmHost.Common.Lookups.TalkgroupRulesLookup
import DvmHost.Fne.Network.Fne.Traffic
import DvmHost.Fne.Network.Fne.TagDMRData
import DvmHost.Fne.Network.Fne.TagNXDNData
import DvmHost.Fne.Network.Fne.TagP25Data
import DvmHost.Fne.Network.FNENetwork
import DvmHost.Fne.Network.Correctness.PeerEntries
import DvmHost.Fne.Network.Correctness.LoginProtocol
import DvmHost.Fne.Network.Correctness.PeerIsolation
import DvmHost.Fne.Network.Fne.Correctness.CallArbitration
import DvmHost.Fne.Network.Fne.Correctness.AccessControl
import DvmHost.Host.Network.Network
import DvmHost.Lib.FirstMatch
import DvmHost.Host.Network.Correctness.ReceiveFraming
import DvmHost.Common.P25.Lc.Tsbk.TSBKClasses
import DvmHost.Common.Acl.AccessControl
import DvmHost.Host.P25.Packet.ControlSignaling
import DvmHost.Host.P25.Packet.Correctness.SiteSteps
import DvmHost.Host.P25.Packet.Correctness.LinkLayerAuthentication
import DvmHost.Host.P25.Packet.Correctness.GrantSignaling
import DvmHost.Common.P25.Lc.Tsbk.Correctness.BlockCarriage
import DvmHost.Common.P25.Lc.Tsbk.Correctness.CodecSymmetry
import DvmHost.Host.Modem.Modem
import DvmHost.Lib.Framing
import DvmHost.Host.Modem.Correctness.SerialFraming
import DvmHost.Host.Modem.Correctness.QueueAlignment
import DvmHost.Common.Dmr.Data.EMB
import DvmHost.Host.Dmr.Packet.Voice
import DvmHost.Host.Dmr.Packet.Correctness.VoiceSteps
import DvmHost.Host.Dmr.Packet.Correctness.SuperframeOrder
import DvmHost.Host.Dmr.Packet.Correctness.BurstMiddle
import DvmHost.Host.Dmr.Packet.Correctness.EmbeddedSignalling
import DvmHost.Common.P25.Dfsi.LC
import DvmHost.Host.P25.Packet.Voice
import DvmHost.Host.P25.Packet.Correctness.CallIdentity
import DvmHost.Host.P25.Packet.Correctness.Alternation
import DvmHost.Common.Network.NetworkWriter
import DvmHost.Fne.Network.Correctness.StreamSequence
import DvmHost.Common.Dmr.Lc.Csbk.CSBKClasses
import DvmHost.Lib.Words
import DvmHost.Common.Dmr.Lc.Csbk.Correctness.BurstCarriage
import DvmHost.Common.Dmr.Lc.Csbk.Correctness.CsbkSymmetry
import DvmHost.Common.Nxdn.Lc.RCCH
import DvmHost.Common.Nxdn.Lc.Rcch.Correctness.RcchRoundTrip
import DvmHost.Common.Nxdn.Channel.LICH
import DvmHost.Common.Nxdn.NXDNUtils
import DvmHost.Host.Nxdn.Control
import DvmHost.Host.Nxdn.Packet.Voice
import DvmHost.Host.Nxdn.Packet.Correctness.VoiceSides
import DvmHost.Host.Nxdn.Packet.Correctness.LateEntry
import DvmHost.Common.Nxdn.Channel.Correctness.FrameParts
import DvmHost.Host.Nxdn.Packet.Correctness.HeaderFrames
import DvmHost.Host.Nxdn.Packet.Correctness.ReleaseFrame
import DvmHost.Host.Nxdn.Packet.Correctness.BuiltFrames
import DvmHost.Host.Nxdn.Packet.Correctness.VoiceRelay
import DvmHost.Host.Nxdn.Packet.Correctness.RelayRuns
import DvmHost.Host.P25.Packet.Correctness.MessageIndicator
import DvmHost.Host.P25.Packet.TrunkingFrames
import DvmHost.Host.P25.Packet.Correctness.MultiBlock
import DvmHost.Host.Correctness.QueueDiscipline
import DvmHost.Common.Lookups.Correctness.RuleKeys
import DvmHost.Common.Lookups.LookupTable
import DvmHost.Lib.Run
import DvmHost.Common.Lookups.Correctness.TableReload
import DvmHost.Common.Dmr.Lc.Csbk.CSBKBroadcast
import DvmHost.Common.Dmr.Lc.Csbk.Correctness.ChannelAnnouncement
import DvmHost.Common.Edac.Correctness.VoiceFixpoint
import DvmHost.Host.Dmr.Packet.Correctness.PduAssembly
import DvmHost.Common.P25.Dfsi.Correctness.VoiceFrames
import DvmHost.Fne.Network.Fne.Correctness.RouteRewriting
import DvmHost.Common.P25.Correctness.StatusSymbols
import DvmHost.Common.P25.Audio
import DvmHost.Common.P25.Correctness.VoicePlacement
import DvmHost.Common.Edac.Correctness.RS129Distance
import DvmHost.Common.P25.Data.Correctness.LowSpeedRepair
import DvmHost.Common.Dmr.SlotType
import DvmHost.Common.Edac.Correctness.ShortCodeRepair
import DvmHost.Common.Dmr.Correctness.BurstNoise
import DvmHost.Common.Dmr.Lc.ShortLC
import DvmHost.Common.Dmr.Lc.Correctness.ShortLcRows
import DvmHost.Common.Edac.Correctness.GolayStream
import DvmHost.Common.P25.Lc.Correctness.TerminatorNoise
import DvmHost.Lib.Remainder
import DvmHost.Common.Edac.Correctness.CrcTables
import DvmHost.Common.Edac.Correctness.CrcBursts
import DvmHost.Common.P25.Data.Correctness.LengthAccounting
import DvmHost.Common.Edac.Correctness.SyndromeLoops
import DvmHost.Common.Nxdn.Channel.Correctness.PunctureLists
import DvmHost.Common.AESCrypto
import DvmHost.Lib.Mealy
import DvmHost.Common.Edac.Correctness.MessageDigest








