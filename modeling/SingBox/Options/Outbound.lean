import Mathlib.Data.Finmap
import SingBox.Adapter.Outbound
import SingBox.Route.Context

namespace SingBox.Options

open Adapter Route

inductive DomainStrategy where
  | asIS
  | preferIPv4
  | preferIPv6
  | useIPv4
  | useIPv6
  deriving DecidableEq, Repr

structure DialerOptions where
  detour : String := ""
  bindInterface : String := ""
  inet4BindAddress : Option IPAddr := none
  inet6BindAddress : Option IPAddr := none
  serverAddresses : List IPAddr := []
  protectPath : String := ""
  routingMark : UInt32 := 0
  reuseAddr : Bool := false
  connectTimeout : ℤ := 0
  tcpFastOpen : Bool := false
  tcpMultiPath : Bool := false
  udpFragment : Option Bool := none
  domainStrategy : DomainStrategy := .asIS
  fallbackDelay : ℤ := 0
  storeLastIP : Bool := false
  deriving DecidableEq

structure OutboundUTLSOptions where
  enabled : Bool := false
  fingerprint : String := ""
  deriving DecidableEq

structure OutboundRealityOptions where
  enabled : Bool := false
  publicKey : String := ""
  shortID : String := ""
  deriving DecidableEq

structure OutboundTLSOptions where
  enabled : Bool := false
  disableSNI : Bool := false
  serverName : String := ""
  insecure : Bool := false
  alpn : Option (List String) := none
  minVersion : String := ""
  maxVersion : String := ""
  certificate : Option (List String) := none
  certificatePath : String := ""
  utls : OutboundUTLSOptions := {}
  reality : OutboundRealityOptions := {}
  deriving DecidableEq

abbrev HTTPHeader := Finmap fun _ : String => List String

structure V2RayHTTPOptions where
  host : List String := []
  path : String := ""
  method : String := ""
  headers : HTTPHeader := ∅
  deriving DecidableEq

structure V2RayWebsocketOptions where
  path : String := ""
  headers : HTTPHeader := ∅
  maxEarlyData : UInt32 := 0
  earlyDataHeaderName : String := ""
  deriving DecidableEq

structure V2RayGRPCOptions where
  serviceName : String := ""
  deriving DecidableEq

structure V2RayHTTPUpgradeOptions where
  host : String := ""
  path : String := ""
  headers : HTTPHeader := ∅
  deriving DecidableEq

structure V2RayTransportOptions where
  type : String := ""
  httpOptions : V2RayHTTPOptions := {}
  websocketOptions : V2RayWebsocketOptions := {}
  grpcOptions : V2RayGRPCOptions := {}
  httpUpgradeOptions : V2RayHTTPUpgradeOptions := {}
  deriving DecidableEq

structure OutboundMultiplexOptions where
  enabled : Bool := false
  protocol : String := ""
  maxConnections : ℤ := 0
  minStreams : ℤ := 0
  maxStreams : ℤ := 0
  deriving DecidableEq

structure UDPOverTCPOptions where
  enabled : Bool := false
  deriving DecidableEq

structure Hysteria2Obfs where
  type : String := ""
  password : String := ""
  deriving DecidableEq

structure ShadowsocksOptions where
  method : String := ""
  password : String := ""
  plugin : String := ""
  pluginOptions : String := ""
  udpOverTCP : Option UDPOverTCPOptions := none
  multiplex : Option OutboundMultiplexOptions := none
  deriving DecidableEq

structure ShadowsocksROptions where
  method : String := ""
  password : String := ""
  obfs : String := ""
  obfsParam : String := ""
  protocol : String := ""
  protocolParam : String := ""
  deriving DecidableEq

structure TUICOptions where
  uuid : String := ""
  password : String := ""
  congestionControl : String := ""
  udpRelayMode : String := ""
  udpOverStream : Bool := false
  zeroRTTHandshake : Bool := false
  heartbeat : ℤ := 0
  tls : OutboundTLSOptions := {}
  deriving DecidableEq

structure VMessOptions where
  uuid : String := ""
  security : String := ""
  alterId : ℤ := 0
  packetEncoding : String := ""
  tls : OutboundTLSOptions := {}
  multiplex : Option OutboundMultiplexOptions := none
  transport : Option V2RayTransportOptions := none
  deriving DecidableEq

structure VLESSOptions where
  uuid : String := ""
  flow : String := ""
  tls : OutboundTLSOptions := {}
  multiplex : Option OutboundMultiplexOptions := none
  transport : Option V2RayTransportOptions := none
  deriving DecidableEq

structure TrojanOptions where
  password : String := ""
  tls : OutboundTLSOptions := {}
  multiplex : Option OutboundMultiplexOptions := none
  transport : Option V2RayTransportOptions := none
  deriving DecidableEq

structure HysteriaOptions where
  up : String := ""
  upMbps : ℤ := 0
  down : String := ""
  downMbps : ℤ := 0
  obfs : String := ""
  authString : String := ""
  receiveWindowConn : UInt64 := 0
  receiveWindow : UInt64 := 0
  disableMTUDiscovery : Bool := false
  tls : OutboundTLSOptions := {}
  deriving DecidableEq

structure Hysteria2Options where
  upMbps : ℤ := 0
  downMbps : ℤ := 0
  obfs : Option Hysteria2Obfs := none
  password : String := ""
  tls : OutboundTLSOptions := {}
  deriving DecidableEq

structure ShadowTLSOptions where
  version : ℤ := 0
  password : String := ""
  tls : OutboundTLSOptions := {}
  deriving DecidableEq

structure SocksOptions where
  version : String := ""
  username : String := ""
  password : String := ""
  udpOverTCP : Option UDPOverTCPOptions := none
  deriving DecidableEq

structure HTTPOptions where
  username : String := ""
  password : String := ""
  headers : Option HTTPHeader := none
  tls : OutboundTLSOptions := {}
  deriving DecidableEq

structure WireGuardPeer where
  server : String := ""
  serverPort : UInt16 := 0
  publicKey : String := ""
  preSharedKey : String := ""
  allowedIPs : List String := []
  reserved : List UInt8 := []
  deriving DecidableEq

structure WireGuardOptions where
  localAddress : List (Option (IPAddr × ℕ)) := []
  privateKey : String := ""
  peers : List WireGuardPeer := []
  peerPublicKey : String := ""
  preSharedKey : String := ""
  reserved : List UInt8 := []
  deriving DecidableEq

inductive ProtocolOptions where
  | shadowsocks (options : ShadowsocksOptions)
  | shadowsocksR (options : ShadowsocksROptions)
  | tuic (options : TUICOptions)
  | vmess (options : VMessOptions)
  | vless (options : VLESSOptions)
  | trojan (options : TrojanOptions)
  | hysteria (options : HysteriaOptions)
  | hysteria2 (options : Hysteria2Options)
  | shadowTLS (options : ShadowTLSOptions)
  | socks (options : SocksOptions)
  | http (options : HTTPOptions)
  | wireGuard (options : WireGuardOptions)
  | decoded (text : String)
  deriving DecidableEq

structure Outbound where
  type : OutboundType
  tag : String := ""
  server : String := ""
  serverPort : UInt16 := 0
  dialer : DialerOptions := {}
  protocol : ProtocolOptions
  deriving DecidableEq

structure OverrideDialerOptions where
  detour : Option String := none
  bindInterface : Option String := none
  inet4BindAddress : Option IPAddr := none
  inet6BindAddress : Option IPAddr := none
  protectPath : Option String := none
  routingMark : Option UInt32 := none
  reuseAddr : Option Bool := none
  connectTimeout : Option ℤ := none
  tcpFastOpen : Option Bool := none
  tcpMultiPath : Option Bool := none
  udpFragment : Option Bool := none
  domainStrategy : Option DomainStrategy := none
  fallbackDelay : Option ℤ := none
  storeLastIP : Option Bool := none
  deriving DecidableEq

structure OutboundOverrideOptions where
  tagPrefix : String := ""
  tagSuffix : String := ""
  dialer : Option OverrideDialerOptions := none

end SingBox.Options
