import SingBox.Trojan.Protocol

namespace SingBox.Trojan

open Lib.Wire (Bytes putBigEndian)
open Lib.Stream

inductive Host where
  | ipv4 (addr : BitVec 32)
  | ipv6 (addr : BitVec 128)
  | fqdn (name : Bytes)
  deriving DecidableEq

structure Socksaddr where
  host : Host
  port : UInt16
  deriving DecidableEq

def Host.unwrap : Host → Host
  | .ipv6 addr => if addr.toNat / 2 ^ 32 = 0xffff then .ipv4 (.ofNat 32 addr.toNat) else .ipv6 addr
  | h => h

def Socksaddr.unwrap (d : Socksaddr) : Socksaddr := { d with host := d.host.unwrap }

def Host.write : Host → Except String Bytes
  | .ipv4 addr => .ok (putBigEndian 1 1 ++ putBigEndian 4 addr.toNat)
  | .ipv6 addr => .ok (putBigEndian 1 4 ++ putBigEndian 16 addr.toNat)
  | .fqdn name =>
    if name.isEmpty then .error "unsupported address"
    else if 255 < name.length then .error "domain too long"
    else .ok (putBigEndian 1 3 ++ (putBigEndian 1 name.length ++ name))

def Host.read : Reader Host := do
  let family ← readBigEndian 1
  if family = 1 then (fun n => .ipv4 (.ofNat 32 n)) <$> readBigEndian 4
  else if family = 4 then (fun n => .ipv6 (.ofNat 128 n)) <$> readBigEndian 16
  else if family = 3 then do
    let length ← readBigEndian 1
    .fqdn <$> readFull length
  else fun _ => .error "unknown address family"

def Host.length : Host → ℕ
  | .ipv4 _ => 5
  | .ipv6 _ => 17
  | .fqdn name => 2 + name.length

variable {h : Host} {b : Bytes}

lemma Host.length_write (hb : h.write = .ok b) : b.length = h.length := by
  cases h with
  | ipv4 addr =>
    cases hb
    rfl
  | ipv6 addr =>
    cases hb
    rfl
  | fqdn name =>
    rw [Host.write] at hb
    split_ifs at hb
    cases hb
    simp only [Host.length, List.length_append, Lib.Wire.length_putBigEndian]
    omega

lemma Host.takes (hb : h.write = .ok b) : Takes Host.read b h := by
  have family {n : ℕ} (hn : n < 256) := takes_readBigEndian (k := 1) (n := n) (by omega)
  cases h with
  | ipv4 addr =>
    cases hb
    have hv := (takes_readBigEndian (k := 4) (n := addr.toNat) (by omega)).map
      (f := fun n => Host.ipv4 (.ofNat 32 n))
    rw [BitVec.ofNat_toNat, BitVec.setWidth_eq] at hv
    exact (family (by decide)).bind (by rwa [if_pos rfl])
  | ipv6 addr =>
    cases hb
    have hv := (takes_readBigEndian (k := 16) (n := addr.toNat) (by omega)).map
      (f := fun n => Host.ipv6 (.ofNat 128 n))
    rw [BitVec.ofNat_toNat, BitVec.setWidth_eq] at hv
    exact (family (by decide)).bind (by rwa [if_neg (by decide), if_pos rfl])
  | fqdn name =>
    rw [Host.write] at hb
    split_ifs at hb with hempty hlong
    cases hb
    refine (family (by decide)).bind ?_
    rw [if_neg (by decide), if_neg (by decide), if_pos rfl]
    exact (family (by omega)).bind ((takes_readFull name).map (f := Host.fqdn))

def socksaddrSerializer : Serializer Socksaddr where
  addrPortLen d := d.host.length + 2
  writeAddrPort d := (· ++ putBigEndian 2 d.port.toNat) <$> d.host.write
  readAddrPort := do
    let host ← Host.read
    let port ← readBigEndian 2
    return ⟨host, .ofNat port⟩
  length_eq d addr h := by
    obtain ⟨b, hb, rfl⟩ := Lib.Errors.map_eq_ok.1 h
    rw [List.length_append, Host.length_write hb, Lib.Wire.length_putBigEndian]
  takes d addr h := by
    obtain ⟨b, hb, rfl⟩ := Lib.Errors.map_eq_ok.1 h
    rw [← List.append_nil (putBigEndian 2 _)]
    refine (Host.takes hb).bind ((takes_readBigEndian (k := 2) d.port.toNat_lt).bind ?_)
    rw [UInt16.ofNat_toNat]
    exact Takes.pure

end SingBox.Trojan
