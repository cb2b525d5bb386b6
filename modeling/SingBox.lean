import SingBox.Box.StartOrder
import SingBox.Dns.PreFilter
import SingBox.Provider.Lifecycle
import SingBox.FakeIP.Async
import SingBox.FakeIP.Allocation
import SingBox.FakeIP.Durability
import SingBox.ClashAPI.Rules
import SingBox.Provider.MapOrder
import SingBox.Outbound.Loopback
import SingBox.Trojan.Session
import SingBox.Trojan.Service
import SingBox.Inbound.NaivePadding
import SingBox.Sniff.Schedule
import SingBox.Sniff.QuicBounds
import SingBox.Outbound.Optimality
import SingBox.Srs.IPSets
import SingBox.Srs.Allocation
import SingBox.Provider.ClashSafety
import SingBox.Libbox.Agreement
import SingBox.Dns.AddressIndependence
import SingBox.Dns.LookupStrategy
import SingBox.Provider.Overrides
import SingBox.Route.PacketReplay
import SingBox.Route.RemoteRuleSet
import SingBox.Route.HeadlessMeaning
import SingBox.Provider.LinkSafety
import SingBox.Outbound.Failover
import SingBox.Outbound.Stability
import SingBox.Provider.HotTags
import SingBox.Sniff.StreamPrefix
import SingBox.Dns.ServerOrder
import SingBox.Dns.FallbackMeaning
import SingBox.Provider.ClashFidelity
import SingBox.Provider.PluginOptions
import SingBox.FakeIP.Codec
import SingBox.Trojan.Mux
import SingBox.Convertor.AdGuardSafety
import SingBox.V2Ray.Gun
import SingBox.Inbound.Replaceable
import SingBox.Geosite.File
import SingBox.Cache.Cleanup
import SingBox.Badversion.Version
import SingBox.Common.Interrupt
