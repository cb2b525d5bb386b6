import Mathlib.Data.List.Basic

namespace SingBox.Adapter

inductive Network where
  | tcp
  | udp
  deriving DecidableEq, Repr

inductive OutboundType where
  | direct
  | block
  | dns
  | socks
  | http
  | shadowsocks
  | vmess
  | trojan
  | wireGuard
  | hysteria
  | tor
  | ssh
  | shadowTLS
  | shadowsocksR
  | vless
  | tuic
  | hysteria2
  | selector
  | urlTest
  deriving DecidableEq, Repr

def OutboundType.name : OutboundType → String
  | .direct => "direct"
  | .block => "block"
  | .dns => "dns"
  | .socks => "socks"
  | .http => "http"
  | .shadowsocks => "shadowsocks"
  | .vmess => "vmess"
  | .trojan => "trojan"
  | .wireGuard => "wireguard"
  | .hysteria => "hysteria"
  | .tor => "tor"
  | .ssh => "ssh"
  | .shadowTLS => "shadowtls"
  | .shadowsocksR => "shadowsocksr"
  | .vless => "vless"
  | .tuic => "tuic"
  | .hysteria2 => "hysteria2"
  | .selector => "selector"
  | .urlTest => "urltest"

/-- What the object's `Start` does: `absent` for a type without that method. -/
inductive StartMethod where
  | absent
  | succeeds
  | fails (err : String)
  deriving DecidableEq, Repr

def StartMethod.error? : StartMethod → Option String
  | .fails err => some err
  | _ => none

structure Outbound where
  id : ℕ
  tag : String
  type : OutboundType
  port : UInt16 := 0
  network : List Network := [.tcp, .udp]
  dependencies : List String := []
  start : StartMethod := .absent
  deriving DecidableEq, Repr

def Outbound.setTag (out : Outbound) (tag : String) : Outbound := { out with tag }

@[simp] lemma Outbound.setTag_tag (out : Outbound) (tag : String) : (out.setTag tag).tag = tag := rfl

end SingBox.Adapter
