import SingBox.Provider.Clash
import SingBox.Provider.Update

namespace SingBox.Provider

open Adapter (OutboundType)
open SingBox.Options Lib.Text Lib.Errors

section Override

variable (override : Option OutboundOverrideOptions)

/-- A detour to an outbound that is not in the list is dropped. -/
def knownDetour (tags : List String) (options : DialerOptions) : DialerOptions :=
  if options.detour != "" && !tags.contains options.detour then { options with detour := "" } else options

/-- A set strategy overrides the fragmentation option, not the strategy. -/
def applyOverride (o : OverrideDialerOptions) (options : DialerOptions) : DialerOptions :=
  { options with
    detour := if options.detour == "" then o.detour.getD "" else options.detour
    bindInterface := o.bindInterface.getD options.bindInterface
    inet4BindAddress := o.inet4BindAddress.or options.inet4BindAddress
    inet6BindAddress := o.inet6BindAddress.or options.inet6BindAddress
    protectPath := o.protectPath.getD options.protectPath
    routingMark := o.routingMark.getD options.routingMark
    reuseAddr := o.reuseAddr.getD options.reuseAddr
    connectTimeout := o.connectTimeout.getD options.connectTimeout
    tcpFastOpen := o.tcpFastOpen.getD options.tcpFastOpen
    tcpMultiPath := o.tcpMultiPath.getD options.tcpMultiPath
    udpFragment := if o.domainStrategy.isSome then o.udpFragment else o.udpFragment.or options.udpFragment
    fallbackDelay := o.fallbackDelay.getD options.fallbackDelay
    storeLastIP := o.storeLastIP.getD options.storeLastIP }

def overrideDialerOption (options : DialerOptions) (tags : List String) : DialerOptions :=
  let options := knownDetour tags options
  match override.bind OutboundOverrideOptions.dialer with
  | none => options
  | some o => if o = {} then options else applyOverride o options

def overridesDialer : OutboundType → Bool
  | .http | .socks | .tuic | .vmess | .vless | .trojan | .hysteria | .shadowTLS | .hysteria2
  | .wireGuard | .shadowsocks | .shadowsocksR => true
  | _ => false

def overrideTag (tag : String) : String :=
  match override with
  | none => tag
  | some o => o.tagPrefix ++ tag ++ o.tagSuffix

def overrideOutbound (tags : List String) (outbound : Outbound) : Outbound :=
  { outbound with
    tag := overrideTag override outbound.tag
    dialer := if overridesDialer outbound.type then overrideDialerOption override outbound.dialer tags
      else outbound.dialer }

def overrideOutbounds (outbounds : List Outbound) : List Outbound :=
  outbounds.map (overrideOutbound override (outbounds.map (·.tag)))

end Override

inductive Format where
  | singBox
  | clash
  | native
  deriving DecidableEq, Repr

def formatOf (content : String) : Format :=
  if contains content "outbounds" then .singBox
  else if contains content "proxies" then .clash
  else .native

def decodeOutbounds (d : Decoders) (content : String) : Except Failure (List Outbound) :=
  match d.preConvert content with
  | .error err => .error (.error (cause err "decode config at "))
  | .ok parsedContent => match d.unmarshalOutbounds parsedContent with
    | .error err => .error (.error (cause err "decode config at "))
    | .ok outbounds => .ok outbounds

def newParser (d : Decoders) (override : Option OutboundOverrideOptions) (order : ℕ → MapOrder)
    (content : String) : Except Failure (List Outbound) :=
  (match formatOf content with
  | .singBox => decodeOutbounds d content
  | .clash => newClashParser d order content
  | .native => newNativeURIParser d.toTextDecoders order content).map (overrideOutbounds override)

def toOptions (outbound : Outbound) : Provider.Options Outbound :=
  { type := outbound.type, tag := outbound.tag, port := outbound.serverPort, data := outbound }

end SingBox.Provider
