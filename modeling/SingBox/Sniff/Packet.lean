import SingBox.Lib.Tasks
import SingBox.Sniff.Quic

namespace SingBox.Sniff

open Lib Lib.Loops Lib.Wire

structure Question where
  name : String
  qclass : UInt16

structure Env where
  unpack : Bytes → Except String (List Question)
  isDomainName : String → Bool
  crypto : Quic.Crypto

def invalid : Except String Unit := .error "invalid argument"

def domainNameQuery (env : Env) (packet : Bytes) : Except String Unit :=
  match env.unpack packet with
  | .error err => .error err
  | .ok [] => invalid
  | .ok (question :: _) =>
    if question.qclass ≠ 1 ∨ env.isDomainName question.name = false then invalid else .ok ()

def stunMessage (packet : Bytes) : Except String Unit :=
  if packet.length < 20 then invalid
  else if ofBigEndian ((packet.drop 4).take 4) ≠ 0x2112A442 then invalid
  else if packet.length < 20 + ofBigEndian ((packet.drop 2).take 2) then invalid
  else .ok ()

def extensionTurn (s : UInt8 × Bytes) : Turn (UInt8 × Bytes) (Except String Unit) :=
  if s.1 = 0 then .leave s (.ok ())
  else match s.2 with
    | extension :: length :: rest => .again (extension, rest.drop length.toNat)
    | _ => .leave s (.error "EOF")

lemma extensionTurn_descends : Descends extensionTurn fun s => s.2.length := by
  rintro ⟨extension, s⟩ s' h
  unfold extensionTurn at h
  split_ifs at h
  dsimp only at h
  split at h
  · cases h
    simp only [List.length_drop, List.length_cons]
    omega
  · cases h

def utp (packet : Bytes) : Except String Unit :=
  if packet.length < 20 then invalid
  else if packet.getD 0 0 &&& 0x0F ≠ 1 ∨ (4 : UInt8) < packet.getD 0 0 >>> 4 then invalid
  else (extensionTurn_descends.run (packet.getD 1 0, packet.drop 20)).2

def udpTracker (packet : Bytes) : Except String Unit :=
  if packet.length < 16 then invalid
  else if ofBigEndian (packet.take 8) ≠ 0x41727101980 then invalid
  else if ofBigEndian ((packet.drop 8).take 4) ≠ 0 then invalid
  else .ok ()

def dtlsRecord (packet : Bytes) : Except String Unit :=
  if packet.length < 13 then invalid
  else if packet.getD 0 0 ∉ [20, 21, 22, 23, 25] then invalid
  else if packet.getD 1 0 ≠ 0xfe then invalid
  else if packet.getD 2 0 ≠ 0xff ∧ packet.getD 2 0 ≠ 0xfd then invalid
  else .ok ()

inductive Sniffer where
  | domainNameQuery
  | quicClientHello
  | stunMessage
  | utp
  | udpTracker
  | dtlsRecord
  deriving DecidableEq

def assign (protocol : String) (check : Except String Unit) (m : Metadata) :
    Except SniffError Unit × Metadata :=
  match check with
  | .ok () => (.ok (), { m with protocol })
  | .error err => (.error (.error err), m)

def completed (m : Metadata) :
    Except Stop (Except SniffError Unit × Metadata) → Option (Except SniffError Unit × Metadata)
  | .ok x => some x
  | .error (.error err) => some (.error (.error err), m)
  | .error .panic => none
  | .error .spins => none

def Sniffer.run (env : Env) (packet : Bytes) (m : Metadata) :
    Sniffer → Option (Except SniffError Unit × Metadata)
  | .domainNameQuery => some (assign "dns" (Sniff.domainNameQuery env packet) m)
  | .quicClientHello => completed m (Quic.quicClientHello env.crypto packet m)
  | .stunMessage => some (assign "stun" (Sniff.stunMessage packet) m)
  | .utp => some (assign "bittorrent" (Sniff.utp packet) m)
  | .udpTracker => some (assign "bittorrent" (Sniff.udpTracker packet) m)
  | .dtlsRecord => some (assign "dtls" (Sniff.dtlsRecord packet) m)

def packetSniffers : List Sniffer :=
  [.domainNameQuery, .quicClientHello, .stunMessage, .utp, .udpTracker, .dtlsRecord]

def receive : List SniffError → List (Except SniffError Unit) → Except (List SniffError) Unit
  | errors, [] => if errors.isEmpty then .ok () else .error errors
  | _, .ok () :: _ => .ok ()
  | errors, .error err :: results => receive (errors ++ [err]) results

def peekPacket (env : Env) (packet : Bytes) (m : Metadata) (order : List Sniffer) :
    Option (Except (List SniffError) Unit × Metadata) :=
  (Tasks.runAll (fun s m => Sniffer.run env packet m s) order m).map fun x => (receive [] x.1, x.2)

def verdict (x : Except (List SniffError) Unit × Metadata) : Bool × String := (x.1.isOk, x.2.protocol)

def ScheduleIndependent (env : Env) (packet : Bytes) (m : Metadata) : Prop :=
  ∀ o₁ o₂ : List Sniffer, o₁.Perm packetSniffers → o₂.Perm packetSniffers →
    (peekPacket env packet m o₁).map verdict = (peekPacket env packet m o₂).map verdict

end SingBox.Sniff
