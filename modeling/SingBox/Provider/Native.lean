import SingBox.Lib.Maps
import SingBox.Lib.Regexp
import SingBox.Lib.Text
import SingBox.Options.Outbound

namespace SingBox.Provider

open SingBox.Options Lib.Maps Lib.Text Lib.Regexp

/-- How a parser fails: with an error, or by an invalid index or nil pointer. -/
inductive Failure where
  | error (message : String)
  | panic
  deriving DecidableEq, Repr

inductive Site where
  | link
  | pluginOpts
  | wsOptsHeaders
  | wsHeaders
  | httpOptsHeaders
  | headers
  deriving DecidableEq

abbrev MapOrder := Ranges String Site

structure TextDecoders where
  base64Std : String → Option String
  base64RawStd : String → Option String
  base64URL : String → Option String
  base64RawURL : String → Option String
  queryUnescape : String → Option String
  toLower : String → String
  jsonStrings : String → Option (List (String × String))
  jsonStrings_distinct : ∀ content m, jsonStrings content = some m → Distinct m

section Helpers

variable (d : TextDecoders)

def decodeBase64Safe (content : String) : String :=
  ((d.base64Std content).or ((d.base64RawStd content).or
    ((d.base64URL content).or (d.base64RawURL content)))).getD content

def decodeURIComponent (content : String) : String := (d.queryUnescape content).getD ""

def trimBlank (s : String) : String :=
  [' ', '\x07', '\x08', '\x0c', '\r', '\t', '\x0b'].foldl (fun s c => trim (· == c) s) s

def stringToUint16 (content : String) : UInt16 := .ofInt (atoi content)

def stringToUint32 (content : String) : UInt32 := .ofInt (atoi content)

def splitKeyValue (sep : Char) (content : String) : String × String :=
  match splitChar sep content with
  | key :: value :: _ => (trimBlank key, trimBlank value)
  | _ => (trimBlank content, "1")

def isTrue (value : String) : Bool := value == "1" || value == "true"

def nonEmpty (proxy : List (String × String)) (key : String) : Option String :=
  (proxy.lookup key).filter (· != "")

end Helpers

section Patterns

open Re

def anyText (n : ℕ) : Re := group n (lazyStar dot)

def port (n : ℕ) : Re := group n (plus Char.isDigit)

def query (n : ℕ) : Re :=
  opt (seq (alt (char '/') (alt (char '?') (seq (char '/') (char '?')))) (anyText n))

def linkParser : Re :=
  seqs (anyText 1) [char '@', anyText 2, char ':', port 3, query 4, char '#', anyText 5]

def ssrParser : Re :=
  seqs (anyText 1) [char ':', anyText 2, char ':', anyText 3, char ':', anyText 4, char ':', anyText 5,
    char ':', anyText 6, query 7]

def tuicParser : Re :=
  seqs (anyText 1) [char ':', anyText 2, char '@', anyText 3, char ':', port 4, query 5, char '#', anyText 6]

def hysteriaParser : Re :=
  seqs (anyText 1) [char ':', port 2, query 3, opt (seq (char '#') (anyText 4))]

def hysteria2Parser : Re :=
  seqs (group 1 (lazyPlus dot)) [char '@', group 2 (lazyPlus dot), opt (seq (char ':') (port 3)), query 4,
    opt (seq (char '#') (anyText 5))]

def pathParser (digits : Re) : Re :=
  seq (anyText 1) (opt (seqs (char '?') [char 'e', char 'd', char '=', group 2 digits]))

def blank (c : Char) : Bool := c == ' ' || c == '\t'

def nonSpace (c : Char) : Bool := !(c == ' ' || c == '\t' || c == '\n' || c == '\x0c' || c == '\r')

def headerParser : Re :=
  seqs (lazyStar blank) [group 1 (lazyPlus nonSpace), char ':', lazyStar blank, group 2 (lazyPlus nonSpace),
    lazyStar blank]

end Patterns

def headerValues (value : String) : List String := (splitChar ',' value).map trimBlank

/-- The headers of lines that are read with the pattern, on which an index panics if it does not
match. -/
def patternHeaders (text : String) : Except Failure HTTPHeader :=
  (splitChar '\n' text).foldlM (fun headers header =>
    match headerParser.findStringSubmatch header with
    | none => .error .panic
    | some result => .ok (headers.insert (result 1) (headerValues (result 2)))) ∅

def colonHeaders (text : String) : HTTPHeader :=
  (splitChar '\n' text).foldl (fun headers header =>
    let (key, value) := splitKeyValue ':' header
    headers.insert key (headerValues value)) ∅

def withPath (digits : Re) (path : String) (options : V2RayWebsocketOptions) :
    Except Failure V2RayWebsocketOptions :=
  match (pathParser digits).findStringSubmatch path with
  | none => .error .panic
  | some result => .ok
    (if result 2 = "" then { options with path := result 1 }
    else { options with
      path := result 1
      earlyDataHeaderName := "Sec-WebSocket-Protocol"
      maxEarlyData := stringToUint32 (result 2) })

def withOptionalPath (proxy : List (String × String)) (options : V2RayWebsocketOptions) :
    Except Failure V2RayWebsocketOptions :=
  match nonEmpty proxy "path" with
  | none => .ok options
  | some path => withPath (Re.star Char.isDigit) path options

def vmessTransport (proxy : List (String × String)) (net : String) :
    Except Failure V2RayTransportOptions :=
  let host := nonEmpty proxy "host"
  let path := (nonEmpty proxy "path").getD ""
  match net with
  | "ws" => do
    let headers := (host.map fun host => colonHeaders ("Host:" ++ host)).getD ∅
    let options ← withOptionalPath proxy { headers }
    return { type := "ws", websocketOptions := options }
  | "h2" => .ok { type := "http", httpOptions := { host := host.toList, path } }
  | "tcp" =>
    if proxy.lookup "type" = some "http" then do
      let headers ← match proxy.lookup "headers" with
        | none => .ok ∅
        | some headers => patternHeaders headers
      let method := (proxy.lookup "method").getD ""
      return { type := "http", httpOptions := { host := host.toList, path, method, headers } }
    else .ok {}
  | "grpc" => .ok { type := "grpc", grpcOptions := { serviceName := host.getD "" } }
  | _ => .ok {}

def wsTransport (proxy : List (String × String)) : Except Failure V2RayTransportOptions := do
  let headers ← match nonEmpty proxy "host" with
    | none => .ok ∅
    | some host => patternHeaders ("Host:" ++ host)
  let options ← withOptionalPath proxy { headers }
  return { type := "ws", websocketOptions := options }

def vlessTransport (proxy : List (String × String)) (type : String) :
    Except Failure V2RayTransportOptions :=
  match type with
  | "kcp" => .error (.error "unsupported transport type: kcp")
  | "ws" => wsTransport proxy
  | "http" => .ok
    { type := "http"
      httpOptions :=
        { host := ((nonEmpty proxy "host").map (splitChar ',')).getD []
          path := (nonEmpty proxy "path").getD "" } }
  | "grpc" => .ok
    { type := "grpc", grpcOptions := { serviceName := (nonEmpty proxy "serviceName").getD "" } }
  | _ => .ok {}

def trojanTransport (proxy : List (String × String)) (type : String) :
    Except Failure V2RayTransportOptions :=
  match type with
  | "ws" => wsTransport proxy
  | "grpc" => .ok
    { type := "grpc", grpcOptions := { serviceName := (nonEmpty proxy "grpc-service-name").getD "" } }
  | _ => .ok {}

structure LinkOptions where
  tag : String := ""
  server : String := ""
  serverPort : UInt16 := 0
  uuid : String := ""
  security : String := ""
  alterId : ℤ := 0
  packetEncoding : String := ""
  flow : String := ""
  tcpFastOpen : Bool := false
  transport : Option V2RayTransportOptions := none
  tls : OutboundTLSOptions := {}

inductive Param where
  | ps
  | add
  | port
  | id
  | scy
  | aid
  | packetEncoding
  | xudp
  | tls
  | security
  | insecure
  | serverName
  | alpn
  | fp
  | flow
  | pbk
  | sid
  | tfo
  | transport
  | other
  deriving DecidableEq

def vmessParams : List (String × Param) :=
  [("ps", .ps), ("add", .add), ("port", .port), ("id", .id), ("scy", .scy), ("aid", .aid),
    ("packet_encoding", .packetEncoding), ("xudp", .xudp), ("tls", .tls), ("insecure", .insecure),
    ("skip-cert-verify", .insecure), ("fp", .fp), ("net", .transport), ("tfo", .tfo),
    ("tcp-fast-open", .tfo), ("tcp_fast_open", .tfo)]

def vlessParams : List (String × Param) :=
  [("type", .transport), ("security", .security), ("insecure", .insecure), ("skip-cert-verify", .insecure),
    ("serviceName", .serverName), ("sni", .serverName), ("peer", .serverName), ("alpn", .alpn), ("fp", .fp),
    ("flow", .flow), ("pbk", .pbk), ("sid", .sid), ("tfo", .tfo), ("tcp-fast-open", .tfo),
    ("tcp_fast_open", .tfo)]

def trojanParams : List (String × Param) :=
  [("insecure", .insecure), ("allowInsecure", .insecure), ("skip-cert-verify", .insecure),
    ("serviceName", .serverName), ("sni", .serverName), ("peer", .serverName), ("alpn", .alpn), ("fp", .fp),
    ("type", .transport), ("tfo", .tfo), ("tcp-fast-open", .tfo), ("tcp_fast_open", .tfo)]

def paramOf (params : List (String × Param)) (key : String) : Param := (params.lookup key).getD .other

def Param.apply (value : String) (o : LinkOptions) : Param → LinkOptions
  | .ps => { o with tag := value }
  | .add => { o with server := value, tls.serverName := value }
  | .port => { o with serverPort := stringToUint16 value }
  | .id => { o with uuid := value }
  | .scy => { o with security := value }
  | .aid => { o with alterId := atoi value }
  | .packetEncoding => { o with packetEncoding := value }
  | .xudp => { o with packetEncoding := if isTrue value then "xudp" else o.packetEncoding }
  | .tls => { o with tls.enabled := o.tls.enabled || isTrue value || value == "tls" }
  | .security => { o with
      tls.enabled := o.tls.enabled || value == "tls" || value == "reality"
      tls.reality.enabled := o.tls.reality.enabled || value == "reality" }
  | .insecure => { o with tls.insecure := o.tls.insecure || isTrue value }
  | .serverName => { o with tls.serverName := value }
  | .alpn => { o with tls.alpn := some (splitChar ',' value) }
  | .fp => { o with tls.utls := { enabled := true, fingerprint := value } }
  | .flow => { o with flow := if value == "xtls-rprx-vision" then value else o.flow }
  | .pbk => { o with tls.reality.publicKey := value }
  | .sid => { o with tls.reality.shortID := value }
  | .tfo => { o with tcpFastOpen := o.tcpFastOpen || isTrue value }
  | .transport | .other => o

def paramStep (params : List (String × Param)) (transport : String → Except Failure V2RayTransportOptions)
    (tls : String → Bool) (o : LinkOptions) (x : String × String) : Except Failure LinkOptions :=
  match paramOf params x.1 with
  | .transport => do
    let options ← transport x.2
    return { o with transport := some options, tls.enabled := o.tls.enabled || tls x.2 }
  | p => .ok (p.apply x.2 o)

variable (d : TextDecoders) (order : MapOrder)

def newSSNativeParser (content : String) : Except Failure Outbound :=
  match linkParser.findStringSubmatch content with
  | none => .error (.error "invalid ss uri")
  | some result =>
    match splitChar ':' (decodeBase64Safe d (result 1)) with
    | method :: password :: _ =>
      let addons := splitChar '&' (decodeURIComponent d (result 4))
      let isPlugin := fun addon => (splitKeyValue '=' addon).1 == "plugin"
      let isObfs := addons.any fun addon => isPlugin addon && contains (splitKeyValue '=' addon).2 "obfs"
      let options : ShadowsocksOptions :=
        if isObfs then
          { method, password, plugin := "obfs-local"
            pluginOptions := join ";" (addons.filter fun addon => !isPlugin addon) }
        else { method, password }
      .ok
        { type := .shadowsocks
          tag := decodeURIComponent d (result 5)
          server := result 2
          serverPort := stringToUint16 (result 3)
          protocol := .shadowsocks options }
    -- the second part is indexed without a check
    | _ => .error .panic

def ssrStep (o : Outbound × ShadowsocksROptions) (addon : String) : Outbound × ShadowsocksROptions :=
  let (key, value) := splitKeyValue '=' addon
  match key with
  | "remarks" => ({ o.1 with tag := decodeBase64Safe d value }, o.2)
  | "obfsparam" => (o.1, { o.2 with obfsParam := decodeBase64Safe d value })
  | "protoparam" => (o.1, { o.2 with protocolParam := decodeBase64Safe d value })
  | "tfo" | "tcp-fast-open" | "tcp_fast_open" =>
    ({ o.1 with dialer.tcpFastOpen := o.1.dialer.tcpFastOpen || isTrue value }, o.2)
  | _ => o

def newSSRNativeParser (content : String) : Except Failure Outbound :=
  match ssrParser.findStringSubmatch content with
  | none => .error (.error "invalid ssr uri")
  | some result =>
    let options : ShadowsocksROptions :=
      { protocol := result 3, method := result 4, obfs := result 5
        password := decodeBase64Safe d (result 6) }
    let outbound : Outbound :=
      { type := .shadowsocksR, server := result 1, serverPort := stringToUint16 (result 2)
        protocol := .shadowsocksR options }
    let o := (splitChar '&' (decodeURIComponent d (result 7))).foldl (ssrStep d) (outbound, options)
    .ok { o.1 with protocol := .shadowsocksR o.2 }

def tuicStep (o : DialerOptions × TUICOptions) (addon : String) : DialerOptions × TUICOptions :=
  let (key, value) := splitKeyValue '=' addon
  match key with
  | "congestion_control" => (o.1, if value == "cubic" then o.2 else { o.2 with congestionControl := value })
  | "udp_relay_mode" => (o.1, { o.2 with udpRelayMode := value })
  | "udp_over_stream" => (o.1, { o.2 with udpOverStream := o.2.udpOverStream || isTrue value })
  | "zero_rtt_handshake" | "reduce_rtt" =>
    (o.1, { o.2 with zeroRTTHandshake := o.2.zeroRTTHandshake || isTrue value })
  | "heartbeat_interval" => (o.1, { o.2 with heartbeat := atoi value })
  | "sni" => (o.1, { o.2 with tls.serverName := value })
  | "insecure" | "skip-cert-verify" | "allow_insecure" =>
    (o.1, { o.2 with tls.insecure := o.2.tls.insecure || isTrue value })
  | "disable_sni" => (o.1, { o.2 with tls.disableSNI := o.2.tls.disableSNI || isTrue value })
  | "tfo" | "tcp-fast-open" | "tcp_fast_open" =>
    ({ o.1 with tcpFastOpen := o.1.tcpFastOpen || isTrue value }, o.2)
  | "alpn" => (o.1, { o.2 with tls.alpn := some (splitChar ',' value) })
  | _ => o

def newTuicNativeParser (content : String) : Except Failure Outbound :=
  match tuicParser.findStringSubmatch content with
  | none => .error (.error "invalid tuic uri")
  | some result =>
    let options : TUICOptions :=
      { uuid := result 1, password := result 2, tls := { enabled := true, serverName := result 3 } }
    let o := (splitChar '&' (result 5)).foldl tuicStep ({}, options)
    .ok
      { type := .tuic
        tag := decodeURIComponent d (result 6)
        server := result 3
        serverPort := stringToUint16 (result 4)
        dialer := o.1
        protocol := .tuic (if o.2.udpOverStream then { o.2 with udpRelayMode := "" } else o.2) }

def vmessAddon (proxy : List (String × String)) (addon : String) : List (String × String) :=
  let (key, value) := splitKeyValue '=' addon
  match key with
  | "type" => if value == "http" then set "type" "http" (set "net" "tcp" proxy) else proxy
  | "encryption" => set "scy" value proxy
  | "alterId" => set "aid" value proxy
  | "key" | "alpn" | "seed" | "path" | "host" => set key (decodeURIComponent d value) proxy
  | _ => set key value proxy

def vmessMap (content : String) : Except Failure (List (String × String)) :=
  match d.jsonStrings content with
  | some proxy => .ok proxy
  | none => match linkParser.findStringSubmatch content with
    | none => .error (.error "invalid vmess uri")
    | some result =>
      let proxy := set "ps" (decodeURIComponent d (result 5)) (set "port" (decodeURIComponent d (result 3))
        (set "add" (decodeURIComponent d (result 2)) (set "id" (decodeURIComponent d (result 1)) [])))
      .ok ((splitChar '&' (result 4)).foldl (vmessAddon d) proxy)

def vmessStep (proxy : List (String × String)) :
    LinkOptions → String × String → Except Failure LinkOptions :=
  paramStep vmessParams (vmessTransport proxy) (· == "h2")

def vmessOutbound (o : LinkOptions) : Outbound :=
  { type := .vmess, tag := o.tag, server := o.server, serverPort := o.serverPort
    dialer := { tcpFastOpen := o.tcpFastOpen }
    protocol := .vmess
      { uuid := o.uuid, security := o.security, alterId := o.alterId, packetEncoding := o.packetEncoding
        tls := o.tls, transport := o.transport } }

def newVMessNativeParser (content : String) : Except Failure Outbound := do
  let proxy ← vmessMap d content
  ((order.range .link proxy).foldlM (vmessStep proxy) {}).map vmessOutbound

def vlessAddon (proxy : List (String × String)) (addon : String) : List (String × String) :=
  let (key, value) := splitKeyValue '=' addon
  match key with
  | "key" | "alpn" | "seed" | "path" | "host" => set key (decodeURIComponent d value) proxy
  | _ => set key value proxy

def vlessMap (result : Groups) : List (String × String) :=
  (splitChar '&' (result 4)).foldl (vlessAddon d) []

def vlessStep (proxy : List (String × String)) :
    LinkOptions → String × String → Except Failure LinkOptions :=
  paramStep vlessParams (vlessTransport proxy) fun _ => false

def vlessOutbound (o : LinkOptions) : Outbound :=
  { type := .vless, tag := o.tag, server := o.server, serverPort := o.serverPort
    dialer := { tcpFastOpen := o.tcpFastOpen }
    protocol := .vless { uuid := o.uuid, flow := o.flow, tls := o.tls, transport := o.transport } }

def vlessInit (result : Groups) : LinkOptions :=
  { tag := decodeURIComponent d (result 5), uuid := decodeURIComponent d (result 1), server := result 2
    serverPort := stringToUint16 (result 3), tls := { serverName := result 2 } }

def newVLESSNativeParser (content : String) : Except Failure Outbound :=
  match linkParser.findStringSubmatch content with
  | none => .error (.error "invalid vless uri")
  | some result =>
    let proxy := vlessMap d result
    ((order.range .link proxy).foldlM (vlessStep proxy) (vlessInit d result)).map vlessOutbound

def trojanMap (result : Groups) : List (String × String) :=
  (splitChar '&' (result 4)).foldl (fun proxy addon =>
    let (key, value) := splitKeyValue '=' addon
    set key (decodeURIComponent d value) proxy) []

def trojanStep (proxy : List (String × String)) :
    LinkOptions → String × String → Except Failure LinkOptions :=
  paramStep trojanParams (trojanTransport proxy) fun _ => false

def trojanOutbound (password : String) (o : LinkOptions) : Outbound :=
  { type := .trojan, tag := o.tag, server := o.server, serverPort := o.serverPort
    dialer := { tcpFastOpen := o.tcpFastOpen }
    protocol := .trojan { password, tls := o.tls, transport := o.transport } }

def trojanInit (result : Groups) : LinkOptions :=
  { tag := decodeURIComponent d (result 5), server := result 2, serverPort := stringToUint16 (result 3)
    tls := { enabled := true, serverName := result 2 } }

def newTrojanNativeParser (content : String) : Except Failure Outbound :=
  match linkParser.findStringSubmatch content with
  | none => .error (.error "invalid trojan uri")
  | some result =>
    let proxy := trojanMap d result
    ((order.range .link proxy).foldlM (trojanStep proxy) (trojanInit d result)).map
      (trojanOutbound (decodeURIComponent d (result 1)))

def hysteriaStep (o : DialerOptions × HysteriaOptions) (addon : String) : DialerOptions × HysteriaOptions :=
  let (key, value) := splitKeyValue '=' addon
  match key with
  | "auth" => (o.1, { o.2 with authString := value })
  | "peer" | "sni" => (o.1, { o.2 with tls.serverName := value })
  | "alpn" => (o.1, { o.2 with tls.alpn := some (splitChar ',' value) })
  | "ca" => (o.1, { o.2 with tls.certificatePath := value })
  | "ca_str" => (o.1, { o.2 with tls.certificate := some (splitChar '\n' value) })
  | "up" => (o.1, { o.2 with up := value })
  | "up_mbps" => (o.1, { o.2 with upMbps := atoi value })
  | "down" => (o.1, { o.2 with down := value })
  | "down_mbps" => (o.1, { o.2 with downMbps := atoi value })
  | "obfs" | "obfsParam" => (o.1, { o.2 with obfs := value })
  | "insecure" | "skip-cert-verify" =>
    (o.1, { o.2 with tls.insecure := o.2.tls.insecure || isTrue value })
  | "tfo" | "tcp-fast-open" | "tcp_fast_open" =>
    ({ o.1 with tcpFastOpen := o.1.tcpFastOpen || isTrue value }, o.2)
  | _ => o

def newHysteriaNativeParser (content : String) : Except Failure Outbound :=
  match hysteriaParser.findStringSubmatch content with
  | none => .error (.error "invalid hysteria uri")
  | some result =>
    let o := (splitChar '&' (result 3)).foldl hysteriaStep
      ({}, { tls := { enabled := true, serverName := result 1 } })
    .ok
      { type := .hysteria, tag := result 4, server := result 1, serverPort := stringToUint16 (result 2)
        dialer := o.1, protocol := .hysteria o.2 }

def hysteria2Step (o : Hysteria2Options) (addon : String) : Except Failure Hysteria2Options :=
  let (key, value) := splitKeyValue '=' addon
  match key with
  | "up" => .ok { o with upMbps := atoi value }
  | "down" => .ok { o with downMbps := atoi value }
  -- the pointer to the obfuscation options is never set
  | "obfs" => if value == "salamander" then .error .panic else .ok o
  | "obfs-password" => .error .panic
  | "insecure" | "skip-cert-verify" => .ok { o with tls.insecure := o.tls.insecure || isTrue value }
  | _ => .ok o

def newHysteria2NativeParser (content : String) : Except Failure Outbound :=
  match hysteria2Parser.findStringSubmatch content with
  | none => .error (.error "invalid hysteria2 uri")
  | some result => do
    let password := match splitChar ':' (result 1) with
      | _ :: password :: _ => password
      | _ => result 1
    let o ← (splitChar '\n' (result 4)).foldlM hysteria2Step
      { password, tls := { enabled := true, serverName := result 2 } }
    .ok
      { type := .hysteria2, tag := result 5, server := result 2
        serverPort := if result 3 = "" then 443 else stringToUint16 (result 3)
        protocol := .hysteria2 o }

def protocolParser (protocol content : String) : Option (Except Failure Outbound) :=
  match protocol with
  | "ss" => some (newSSNativeParser d content)
  | "ssr" => some (newSSRNativeParser d content)
  | "tuic" => some (newTuicNativeParser d content)
  | "vmess" => some (newVMessNativeParser d order content)
  | "vless" => some (newVLESSNativeParser d order content)
  | "trojan" => some (newTrojanNativeParser d order content)
  | "hysteria" => some (newHysteriaNativeParser content)
  | "hy2" | "hysteria2" => some (newHysteria2NativeParser content)
  | _ => none

/-- An entry whose parser reports an error is passed over. -/
def kept : Except Failure Outbound → Except Failure (List Outbound)
  | .ok outbound => .ok [outbound]
  | .error (.error _) => .ok []
  | .error .panic => .error .panic

def parseLine (line : String) : Except Failure (List Outbound) :=
  match split "://" (trimSpace line) with
  | protocol :: content :: _ =>
    match protocolParser d order (d.toLower (trimSpace protocol))
        (trimSpace (decodeBase64Safe d (trimSpace content))) with
    | none => .ok []
    | some result => kept result
  | _ => .ok []

def flatMapM {α : Type} (f : MapOrder → α → Except Failure (List Outbound)) :
    (ℕ → MapOrder) → List α → Except Failure (List Outbound)
  | _, [] => .ok []
  | order, a :: l => do
    let outbounds ← f (order 0) a
    let rest ← flatMapM f (fun i => order (i + 1)) l
    return outbounds ++ rest

/-- The loops over the map of the link in line `i` run in the order `order i`. -/
def newNativeURIParser (d : TextDecoders) (order : ℕ → MapOrder) (content : String) :
    Except Failure (List Outbound) :=
  flatMapM (parseLine d) order (splitChar '\n' content)

end SingBox.Provider
