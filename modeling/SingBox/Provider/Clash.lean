import SingBox.Provider.Native

namespace SingBox.Provider

open SingBox.Options Lib.Maps Lib.Text Lib.Regexp
open Route (IPAddr)

/-- A value of a decoded YAML document; `other` is a number that is no `int`, a date or a map whose
keys are not strings, given by its text. -/
inductive Value where
  | null
  | bool (b : Bool)
  | int (n : ℤ)
  | str (s : String)
  | other (text : String)
  | list (l : List Value)
  | map (m : List (String × Value))

abbrev Proxy := List (String × Value)

mutual

def Value.Wellformed : Value → Prop
  | .list l => listWellformed l
  | .map m => Distinct m ∧ mapWellformed m
  | _ => True

def listWellformed : List Value → Prop
  | [] => True
  | v :: l => v.Wellformed ∧ listWellformed l

def mapWellformed : List (String × Value) → Prop
  | [] => True
  | x :: m => x.2.Wellformed ∧ mapWellformed m

end

structure Decoders extends TextDecoders where
  yaml : String → Except String (List Proxy)
  yaml_wellformed : ∀ content proxies, yaml content = .ok proxies →
    ∀ proxy ∈ proxies, (Value.map proxy).Wellformed
  sprint : Value → String
  marshal : Option Proxy → String
  jsonString : String → Option String
  parsePrefix : String → Option (IPAddr × ℕ)
  preConvert : String → Except String String
  unmarshalOutbounds : String → Except String (List Outbound)

def Value.str? : Value → Option String
  | .str s => some s
  | _ => none

def Value.bool? : Value → Option Bool
  | .bool b => some b
  | _ => none

def Value.int? : Value → Option ℤ
  | .int n => some n
  | _ => none

def Value.list? : Value → Option (List Value)
  | .list l => some l
  | _ => none

def Value.map? : Value → Option Proxy
  | .map m => some m
  | _ => none

def Value.uint32? : Value → Option UInt32
  | _ => none

def Value.strings? : Value → Option (List String)
  | _ => none

def Value.maps? : Value → Option (List Proxy)
  | _ => none

variable (proxy : Proxy) (key : String)

def getString : Option String := (proxy.lookup key).bind Value.str?

def getBool : Option Bool := (proxy.lookup key).bind Value.bool?

def getInt : Option ℤ := (proxy.lookup key).bind Value.int?

def getList : Option (List Value) := (proxy.lookup key).bind Value.list?

def getMap : Option Proxy := (proxy.lookup key).bind Value.map?

variable (d : Decoders) (order : MapOrder)

def sprint : Value → String
  | .str s => s
  | .int n => toString n
  | .bool b => toString b
  | .other text => text
  | v => d.sprint v

def getPort (proxy : Proxy) : UInt16 :=
  ((proxy.lookup "port").map fun port => stringToUint16 (sprint d port)).getD 0

def convertTLSOptions (proxy : Proxy) : OutboundTLSOptions :=
  let fingerprint := getString proxy "client-fingerprint"
  let reality := getMap proxy "reality-opts"
  { enabled := (getBool proxy "tls").getD false || getString proxy "type" == some "trojan" ||
      fingerprint.isSome || reality.isSome
    insecure := (getBool proxy "tls").isSome && (getBool proxy "skip-cert-verify").getD false
    serverName := ((getString proxy "servername").or ((getString proxy "peer").or
      (getString proxy "sni"))).getD ""
    disableSNI := (getBool proxy "disable-sni").getD false
    alpn := (getList proxy "alpn").map fun l => l.map (sprint d)
    utls := (fingerprint.map fun fingerprint => { enabled := true, fingerprint }).getD {}
    reality := (reality.map fun reality =>
      { enabled := true
        publicKey := (getString reality "public-key").getD ""
        shortID := (getString reality "short-id").getD "" }).getD {} }

def convertSMuxOptions (proxy : Proxy) : OutboundMultiplexOptions :=
  match getMap proxy "smux" with
  | none => {}
  | some smux =>
    { enabled := (getBool smux "enabled").getD false
      protocol := (getString smux "protocol").getD ""
      maxConnections := (getInt smux "max-connections").getD 0
      maxStreams := (getInt smux "max-streams").getD 0
      minStreams := (getInt smux "min-streams").getD 0 }

def headerTexts : Value → List String
  | .list l => l.map (sprint d)
  | value => [sprint d value]

def addHeaders (site : Site) (headers : Option Proxy) (init : HTTPHeader) : HTTPHeader :=
  (order.range site (headers.getD [])).foldl
    (fun headers x => headers.insert x.1 (headerTexts d x.2)) init

def withClashPath (path : Option String) (options : V2RayWebsocketOptions) :
    Except Failure V2RayWebsocketOptions :=
  match path with
  | none => .ok options
  | some path => withPath (Re.plus Char.isDigit) path options

def convertWSTransport (proxy : Proxy) : Except Failure V2RayWebsocketOptions := do
  let wsOpts := (getMap proxy "ws-opts").getD []
  let options ← withClashPath (getString wsOpts "path") {}
  let options : V2RayWebsocketOptions :=
    { options with
      headers := addHeaders d order .wsOptsHeaders (getMap wsOpts "headers") options.headers
      maxEarlyData := ((getInt wsOpts "max-early-data").map UInt32.ofInt).getD options.maxEarlyData
      earlyDataHeaderName :=
        (getString wsOpts "early-data-header-name").getD options.earlyDataHeaderName }
  let options ← withClashPath (getString proxy "ws-path") options
  .ok { options with headers := addHeaders d order .wsHeaders (getMap proxy "ws-headers") options.headers }

def upgradeHeader (options : V2RayHTTPUpgradeOptions) (x : String × Value) :
    Except Failure V2RayHTTPUpgradeOptions :=
  if d.toLower x.1 == "host" then
    match headerTexts d x.2 with
    | [] => .error .panic
    | host :: _ => .ok { options with host }
  else .ok { options with headers := options.headers.insert x.1 (headerTexts d x.2) }

def convertHTTPUpgradeTransport (proxy : Proxy) : Except Failure V2RayHTTPUpgradeOptions :=
  match getMap proxy "ws-opts" with
  | none => .error .panic
  | some wsOpts => do
    let options ← (order.range .wsOptsHeaders ((getMap wsOpts "headers").getD [])).foldlM (upgradeHeader d)
      { path := (getString wsOpts "path").getD "" }
    let options := { options with path := (getString proxy "ws-path").getD options.path }
    (order.range .wsHeaders ((getMap proxy "ws-headers").getD [])).foldlM (upgradeHeader d) options

def hosts (value : Option Value) : List String :=
  (value.bind fun value => value.strings?.or (value.str?.map ([·]))).getD []

def convertHTTPTransport (proxy : Proxy) : V2RayHTTPOptions :=
  match getMap proxy "http-opts" with
  | none => {}
  | some httpOpts =>
    { method := (getString httpOpts "method").getD ""
      path := (hosts (httpOpts.lookup "path")).headD ""
      host := hosts (httpOpts.lookup "host")
      headers := addHeaders d order .httpOptsHeaders (getMap httpOpts "headers") ∅ }

def convertH2Transport (proxy : Proxy) : V2RayHTTPOptions :=
  { host := hosts (((getMap proxy "h2-opts").getD []).lookup "host") }

def convertGRPCTransport (proxy : Proxy) : V2RayGRPCOptions :=
  { serviceName := (getString ((getMap proxy "grpc-opts").getD []) "grpc-service-name").getD "" }

def unmarshalStrategy (text : String) : DomainStrategy :=
  match d.jsonString text with
  | some "prefer_ipv4" => .preferIPv4
  | some "prefer_ipv6" => .preferIPv6
  | some "ipv4_only" => .useIPv4
  | some "ipv6_only" => .useIPv6
  | _ => .asIS

def ipVersionStrategy (version : String) : DomainStrategy :=
  match version with
  | "dual" => unmarshalStrategy d ""
  | "ipv4" => unmarshalStrategy d "ipv4_only"
  | "ipv6" => unmarshalStrategy d "ipv6_only"
  | "ipv4-prefer" => unmarshalStrategy d "prefer_ipv4"
  | "ipv6-prefer" => unmarshalStrategy d "prefer_ipv6"
  | _ => .asIS

def convertDialerOption (proxy : Proxy) : DialerOptions :=
  { tcpFastOpen := (getBool proxy "tcp-fast-open").getD false || (getBool proxy "tfo").getD false
    bindInterface := (getString proxy "interface-name").getD ""
    routingMark := ((proxy.lookup "routing-mark").bind Value.uint32?).getD 0
    detour := (getString proxy "dialer-proxy").getD ""
    domainStrategy := ((getString proxy "ip-version").map (ipVersionStrategy d)).getD .asIS }

variable (d : Decoders) (order : MapOrder)

def getName (proxy : Proxy) : String := (getString proxy "name").getD ""

def getServer (proxy : Proxy) : String := (getString proxy "server").getD ""

def getPassword (proxy : Proxy) : String := (getString proxy "password").getD ""

def obfsOption (x : String × Value) : Option String :=
  match x.1 with
  | "mode" => some ("obfs=" ++ sprint d x.2)
  | "host" => some ("obfs-host=" ++ sprint d x.2)
  | key => some (key ++ "=" ++ sprint d x.2)

def v2rayOption (proxy : Proxy) (x : String × Value) : Option String :=
  match x.1 with
  | "mode" => some ("obfs=" ++ sprint d x.2)
  | "host" => some ("host=" ++ (getString proxy "ws-host").getD (sprint d x.2))
  | "path" => some ("path=" ++ (getString proxy "ws-path").getD (sprint d x.2))
  | "headers" => some ("headers=" ++ d.marshal x.2.map?)
  | "mux" => none
  | key => some (key ++ "=" ++ sprint d x.2)

def pluginOf (proxy : Proxy) : Option (String × (String × Value → Option String)) :=
  match getString proxy "plugin" with
  | some "obfs" => some ("obfs-local", obfsOption d)
  | some "v2ray-plugin" => some ("v2ray-plugin", v2rayOption d proxy)
  | _ => none

def newSSClashParser (proxy : Proxy) : Outbound :=
  let options : ShadowsocksOptions :=
    { method := (getString proxy "cipher").getD ""
      password := getPassword proxy
      udpOverTCP := some
        { enabled := (getBool proxy "uot").getD false || (getBool proxy "udp-over-tcp").getD false }
      -- what the option mux has set is replaced here
      multiplex := some (convertSMuxOptions proxy) }
  let options := match pluginOf d proxy with
    | none => options
    | some (plugin, text) =>
      { options with
        plugin
        pluginOptions := join ";"
          ((order.range .pluginOpts ((getMap proxy "plugin-opts").getD [])).filterMap text) }
  { type := .shadowsocks
    tag := getName proxy
    server := getServer proxy
    serverPort := getPort d proxy
    dialer := convertDialerOption d proxy
    protocol := .shadowsocks options }

def newSTLSClashParser (proxy : Proxy) : Except Failure (Outbound × Outbound) :=
  match getMap proxy "plugin-opts" with
  | none => .error (.error "missing ShadowTLS")
  | some opts =>
    let tls := convertTLSOptions d proxy
    let named := (getString proxy "name").isSome
    let ss : Outbound :=
      { type := .shadowsocks
        tag := getName proxy
        dialer := { detour := if named then getName proxy ++ "-st" else "" }
        protocol := .shadowsocks
          { method := (getString proxy "cipher").getD ""
            password := getPassword proxy
            udpOverTCP := ((getBool proxy "udp-over-tcp").or (getBool proxy "uot")).map
              fun enabled => { enabled }
            multiplex := some (convertSMuxOptions proxy) } }
    let stls : Outbound :=
      { type := .shadowTLS
        tag := if named then getName proxy ++ "-st" else ""
        server := getServer proxy
        serverPort := getPort d proxy
        dialer := convertDialerOption d proxy
        protocol := .shadowTLS
          { version := (getInt opts "version").getD 0
            password := getPassword opts
            tls := { tls with
              enabled := true
              utls.enabled := true
              serverName := (getString opts "host").getD tls.serverName } } }
    .ok (ss, stls)

def newSSRClashParser (proxy : Proxy) : Outbound :=
  { type := .shadowsocksR
    tag := getName proxy
    server := getServer proxy
    serverPort := getPort d proxy
    dialer := convertDialerOption d proxy
    protocol := .shadowsocksR
      { method := (getString proxy "cipher").getD ""
        password := getPassword proxy
        obfs := (getString proxy "obfs").getD ""
        obfsParam := (getString proxy "obfs-param").getD ""
        protocol := (getString proxy "protocol").getD ""
        protocolParam := (getString proxy "protocol-param").getD "" } }

def newHTTPClashParser (proxy : Proxy) : Outbound :=
  { type := .http
    tag := getName proxy
    server := getServer proxy
    serverPort := getPort d proxy
    dialer := convertDialerOption d proxy
    protocol := .http
      { username := (getString proxy "username").getD ""
        password := getPassword proxy
        headers := (getMap proxy "headers").map fun headers => addHeaders d order .headers (some headers) ∅
        tls := convertTLSOptions d proxy } }

def milliseconds (n : ℤ) : ℤ :=
  let duration := n * 1000000
  if -2 ^ 63 ≤ duration ∧ duration < 2 ^ 63 then duration else 0

def newTUICClashParser (proxy : Proxy) : Outbound :=
  let tls := convertTLSOptions d proxy
  { type := .tuic
    tag := getName proxy
    server := getServer proxy
    serverPort := getPort d proxy
    dialer := convertDialerOption d proxy
    protocol := .tuic
      { uuid := (getString proxy "uuid").getD ""
        password := getPassword proxy
        congestionControl := if getString proxy "congestion-controller" = some "cubic" then "cubic" else ""
        udpRelayMode := if getString proxy "udp-relay-mode" = some "quic" then "quic" else ""
        zeroRTTHandshake := (getBool proxy "reduce-rtt").getD false
        udpOverStream := (getBool proxy "udp-over-stream").getD false
        heartbeat := ((getInt proxy "heartbeat-interval").map milliseconds).getD 0
        tls := { tls with utls.enabled := false } } }

def isHTTPUpgrade (proxy : Proxy) : Bool :=
  (getBool ((getMap proxy "ws-opts").getD []) "v2ray-http-upgrade").getD false

def clashWSTransport (proxy : Proxy) : Except Failure V2RayTransportOptions :=
  if isHTTPUpgrade proxy then
    (convertHTTPUpgradeTransport d order proxy).map fun options =>
      { type := "httpupgrade", httpUpgradeOptions := options }
  else
    (convertWSTransport d order proxy).map fun options => { type := "ws", websocketOptions := options }

def grpcTransport (proxy : Proxy) : V2RayTransportOptions :=
  { type := "grpc", grpcOptions := convertGRPCTransport proxy }

def vmessClashTransport (proxy : Proxy) (network : String) : Except Failure V2RayTransportOptions :=
  match network with
  | "ws" => clashWSTransport d order proxy
  | "http" => .ok { type := "http", httpOptions := convertHTTPTransport d order proxy }
  | "h2" => .ok { type := "http", httpOptions := convertH2Transport proxy }
  | "grpc" => .ok (grpcTransport proxy)
  | _ => .ok {}

def clashTransport (proxy : Proxy) (network : String) : Except Failure V2RayTransportOptions :=
  match network with
  | "ws" => clashWSTransport d order proxy
  | "grpc" => .ok (grpcTransport proxy)
  | _ => .ok {}

def networkTransport (transport : String → Except Failure V2RayTransportOptions) (proxy : Proxy) :
    Except Failure (Option V2RayTransportOptions) :=
  match getString proxy "network" with
  | none => .ok none
  | some network => (transport network).map some

def newVMessClashParser (proxy : Proxy) : Except Failure Outbound := do
  let tls := convertTLSOptions d proxy
  let transport ← networkTransport (vmessClashTransport d order proxy) proxy
  .ok
    { type := .vmess
      tag := getName proxy
      server := getServer proxy
      serverPort := getPort d proxy
      dialer := convertDialerOption d proxy
      protocol := .vmess
        { uuid := (getString proxy "uuid").getD ""
          alterId := (getInt proxy "alterId").getD 0
          security := (getString proxy "cipher").getD ""
          tls := { tls with enabled := tls.enabled || getString proxy "network" == some "h2" }
          multiplex := some (convertSMuxOptions proxy)
          transport } }

def newVLESSClashParser (proxy : Proxy) : Except Failure Outbound := do
  let transport ← networkTransport (clashTransport d order proxy) proxy
  .ok
    { type := .vless
      tag := getName proxy
      server := getServer proxy
      serverPort := getPort d proxy
      dialer := convertDialerOption d proxy
      protocol := .vless
        { uuid := (getString proxy "uuid").getD ""
          flow := if getString proxy "flow" = some "xtls-rprx-vision" then "xtls-rprx-vision" else ""
          tls := convertTLSOptions d proxy
          multiplex := some (convertSMuxOptions proxy)
          transport } }

def newSOCKS5ClashParser (proxy : Proxy) : Outbound :=
  { type := .socks
    tag := getName proxy
    server := getServer proxy
    serverPort := getPort d proxy
    dialer := convertDialerOption d proxy
    protocol := .socks
      { version := "5"
        username := (getString proxy "username").getD ""
        password := getPassword proxy
        udpOverTCP := some
          { enabled := ((getBool proxy "udp-over-tcp").or (getBool proxy "uot")).getD false } } }

def newTrojanClashParser (proxy : Proxy) : Except Failure Outbound := do
  let transport ← networkTransport (clashTransport d order proxy) proxy
  .ok
    { type := .trojan
      tag := getName proxy
      server := getServer proxy
      serverPort := getPort d proxy
      dialer := convertDialerOption d proxy
      protocol := .trojan
        { password := getPassword proxy
          tls := convertTLSOptions d proxy
          multiplex := some (convertSMuxOptions proxy)
          transport } }

def withCertificate (proxy : Proxy) (certificate : Option (List Value)) (tls : OutboundTLSOptions) :
    OutboundTLSOptions :=
  { tls with
    enabled := true
    utls.enabled := false
    certificatePath := ((proxy.lookup "ca").map (sprint d)).getD ""
    certificate := ((getList proxy "ca_str").or certificate).map fun l => l.map (sprint d) }

def newHysteriaClashParser (proxy : Proxy) : Outbound :=
  { type := .hysteria
    tag := getName proxy
    server := getServer proxy
    serverPort := getPort d proxy
    dialer := convertDialerOption d proxy
    protocol := .hysteria
      { up := (getString proxy "up").getD ""
        upMbps := (getInt proxy "up").getD 0
        down := (getString proxy "down").getD ""
        downMbps := (getInt proxy "down").getD 0
        authString := (((proxy.lookup "auth_str").or (proxy.lookup "auth-str")).map (sprint d)).getD ""
        obfs := (getString proxy "obfs").getD ""
        receiveWindowConn := .ofInt
          (((getInt proxy "recv_window_conn").or (getInt proxy "recv-window-conn")).getD 0)
        receiveWindow := .ofInt (((getInt proxy "recv_window").or (getInt proxy "recv-window")).getD 0)
        disableMTUDiscovery := (getBool proxy "disable_mtu_discovery").getD false
        -- the slice is nil if the list is empty
        tls := withCertificate d proxy ((getList proxy "ca-str").filter fun l => !l.isEmpty)
          (convertTLSOptions d proxy) } }

def newHysteria2ClashParser (proxy : Proxy) : Outbound :=
  { type := .hysteria2
    tag := getName proxy
    server := getServer proxy
    serverPort := getPort d proxy
    dialer := convertDialerOption d proxy
    protocol := .hysteria2
      { password := getPassword proxy
        upMbps := (getInt proxy "up").getD 0
        downMbps := (getInt proxy "down").getD 0
        obfs := if getString proxy "obfs" = some "salamander" then
            some { type := "salamander", password := (getString proxy "obfs-password").getD "" }
          else none
        tls := withCertificate d proxy (getList proxy "ca-str") (convertTLSOptions d proxy) } }

def reservedBytes (proxy : Proxy) : List UInt8 :=
  (((getList proxy "reserved").getD []).filterMap Value.int?).map UInt8.ofInt

def wireGuardPeer (peer : Proxy) : WireGuardPeer :=
  { server := getServer peer
    serverPort := .ofInt ((getInt peer "port").getD 0)
    publicKey := (getString peer "public-key").getD ""
    preSharedKey := (getString peer "pre-shared-key").getD ""
    allowedIPs := ((getList peer "allowed_ips").map fun l => l.map (sprint d)).getD []
    reserved := reservedBytes peer }

def newWireGuardClashParser (proxy : Proxy) : Outbound :=
  let peers := ((proxy.lookup "peers").bind Value.maps?).getD []
  { type := .wireGuard
    tag := getName proxy
    server := getServer proxy
    serverPort := getPort d proxy
    dialer := convertDialerOption d proxy
    protocol := .wireGuard
      { localAddress := ((getString proxy "ip").toList ++ (getString proxy "ipv6").toList).map d.parsePrefix
        privateKey := (getString proxy "private-key").getD ""
        peerPublicKey := (getString proxy "public-key").getD ""
        preSharedKey := (getString proxy "pre-shared-key").getD ""
        reserved := reservedBytes proxy
        peers := (peers.map (wireGuardPeer d)).filter (·.server != "") } }

/-- The outbounds of one entry: none for an entry that is passed over, or whose parser reports an
error. -/
def parseProxy (proxy : Proxy) : Except Failure (List Outbound) :=
  match getString proxy "type" with
  | some "ss" =>
    match proxy.lookup "plugin" with
    | none => .ok [newSSClashParser d order proxy]
    | some (.str "shadow-tls") => match newSTLSClashParser d proxy with
      | .ok (ss, stls) => .ok [ss, stls]
      | .error (.error _) => .ok []
      | .error .panic => .error .panic
    | some (.str "obfs") | some (.str "v2ray-plugin") => .ok [newSSClashParser d order proxy]
    | some _ => .ok []
  | some "ssr" => .ok [newSSRClashParser d proxy]
  | some "http" => .ok [newHTTPClashParser d order proxy]
  | some "tuic" => .ok (if (proxy.lookup "token").isSome then [] else [newTUICClashParser d proxy])
  | some "vmess" => (newVMessClashParser d order proxy).map ([·])
  | some "vless" =>
    if (getString proxy "flow").any fun flow => flow != "xtls-rprx-vision" && flow != "" then .ok []
    else (newVLESSClashParser d order proxy).map ([·])
  | some "socks5" => .ok [newSOCKS5ClashParser d proxy]
  | some "trojan" =>
    if (getString proxy "flow").isSome then .ok [] else (newTrojanClashParser d order proxy).map ([·])
  | some "hysteria" => .ok [newHysteriaClashParser d proxy]
  | some "hysteria2" => .ok [newHysteria2ClashParser d proxy]
  | some "wireguard" => .ok [newWireGuardClashParser d proxy]
  | _ => .ok []

/-- The loops over the maps of the entry at position `i` run in the order `order i`. -/
def newClashParser (d : Decoders) (order : ℕ → MapOrder) (content : String) :
    Except Failure (List Outbound) :=
  match d.yaml content with
  | .error err => .error (.error err)
  | .ok proxies => flatMapM (parseProxy d) order proxies

end SingBox.Provider
