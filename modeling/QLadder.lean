import QLadder.PartialRun
import QLadder.Swift
import QLadder.ConfigManager
import QLadder.ProviderConfiguration
import QLadder.ConfigHistory
import QLadder.VpnManager
import QLadder.VpnSteps
import QLadder.InFlight
import QLadder.InParallel
import QLadder.VpnSingleProfile
import QLadder.VpnStatusMirror
import QLadder.VpnTunnelConfig
import QLadder.BuddhaList
import QLadder.BuddhaListPages
import QLadder.BuddhaListFailures
import QLadder.Foundation
import QLadder.QueryManager
import QLadder.QueryAttribution
import QLadder.PacketTunnelProvider
import QLadder.TunnelStart
import QLadder.NetworkSwitch
import QLadder.NEKitRules
import QLadder.IPRangeText
import QLadder.RuleFile
import QLadder.TunnelStop
import QLadder.VpnObservers
import QLadder.ListingFields
import QLadder.BuddhaDetail
import QLadder.BuddhaListLoading
import QLadder.Lookaround
import QLadder.ScriptMatch
import QLadder.ByteStream
import QLadder.StreamCrypto
import QLadder.CryptoHelper
import QLadder.ShadowsocksAdapter
import QLadder.DNSMatch
import QLadder.FreeList
import QLadder.IPPool
import QLadder.DNSServer
import QLadder.HTTPHeader
import QLadder.HTTPStream
import QLadder.Tunnel
import QLadder.TunnelFlow
import QLadder.TunnelRelay
import QLadder.TunnelClose
import QLadder.TunnelTraps
import QLadder.ProxyServer
import QLadder.BinaryDataScanner
import QLadder.DNSPacket
import QLadder.UDPDirectStack
