import SingBox.Lib.Stream

namespace SingBox.Trojan

open Lib.Wire (Bytes putBigEndian)
open Lib.Stream

def KeyLength : ℕ := 56

def commandTCP : UInt8 := 1

def commandUDP : UInt8 := 3

def commandMux : UInt8 := 0x7f

def crlf : Bytes := [0x0D, 0x0A]

/-- `M.SocksaddrSerializer`: it may reject a destination, and reads back what it has written. -/
structure Serializer (D : Type) where
  addrPortLen : D → ℕ
  writeAddrPort : D → Except String Bytes
  readAddrPort : Reader D
  length_eq : ∀ d addr, writeAddrPort d = .ok addr → addr.length = addrPortLen d
  takes : ∀ d addr, writeAddrPort d = .ok addr → Takes readAddrPort addr d

/-- A call ends with an error or, where the code asks for room that is not there, in a panic. -/
inductive Failure where
  | error (err : String)
  | panic
  deriving DecidableEq

inductive Outcome where
  | done
  | failed (n : ℕ) (err : String)

abbrev Written := Bytes × Except Failure Unit

def connWrite (p : Bytes) : Outcome → Written
  | .done => (p, .ok ())
  | .failed n err => (p.take n, .error (.error err))

def Written.cause (message : String) : Written → Written
  | (sent, .error (.error err)) => (sent, .error (.error (Lib.Errors.cause err message)))
  | w => w

@[simp] lemma cause_fst (message : String) (w : Written) : (w.cause message).1 = w.1 := by
  obtain ⟨sent, r⟩ := w
  cases r with
  | ok => rfl
  | error f => cases f <;> rfl

lemma cause_snd_eq_ok {message : String} {w : Written} (h : (w.cause message).2 = .ok ()) :
    w.2 = .ok () := by
  obtain ⟨sent, r⟩ := w
  cases r with
  | ok => rfl
  | error f => cases f <;> cases h

lemma connWrite_fst {p : Bytes} {o : Outcome} (h : (connWrite p o).2 = .ok ()) :
    (connWrite p o).1 = p := by
  cases o with
  | done => rfl
  | failed n err => cases h

structure Buffer where
  start : ℕ
  bytes : Bytes

variable {D : Type} (S : Serializer D) (key : Bytes)

def requestHeader (command : UInt8) (addr : Bytes) : Bytes :=
  key ++ crlf ++ [command] ++ addr ++ crlf

def packetHeader (addr : Bytes) (payloadLen : ℕ) : Bytes :=
  addr ++ putBigEndian 2 (payloadLen % 2 ^ 16) ++ crlf

def clientHandshake (d : D) (payload : Bytes) (o : Outcome) : Written :=
  match S.writeAddrPort d with
  | .error err => ([], .error (.error err))
  | .ok addr => Written.cause "write request" (connWrite (requestHeader key commandTCP addr ++ payload) o)

def clientHandshakeBuffer (d : D) (payload : Buffer) (o : Outcome) : Written :=
  if payload.start < KeyLength + S.addrPortLen d + 5 then ([], .error .panic)
  else match S.writeAddrPort d with
    | .error err => ([], .error (.error err))
    | .ok addr =>
      Written.cause "write request" (connWrite (requestHeader key commandTCP addr ++ payload.bytes) o)

/-- The header goes into the room before the payload if it fits there, and out on its own if not. -/
def clientHandshakePacket (d : D) (payload : Buffer) (o₁ o₂ : Outcome) : Written :=
  let headerLen := KeyLength + 2 * S.addrPortLen d + 9
  match S.writeAddrPort d with
  | .error err => ([], .error (.error err))
  | .ok addr =>
    let header := requestHeader key commandUDP addr ++ packetHeader addr payload.bytes.length
    if headerLen ≤ payload.start then Written.cause "write payload" (connWrite (header ++ payload.bytes) o₁)
    else match Written.cause "write request" (connWrite header o₁) with
      | (sent, .error err) => (sent, .error err)
      | (sent, .ok ()) =>
        let w := Written.cause "write payload" (connWrite payload.bytes o₂)
        (sent ++ w.1, w.2)

def writePacket (buffer : Buffer) (d : D) (o : Outcome) : Written :=
  if buffer.start < S.addrPortLen d + 4 then ([], .error .panic)
  else match S.writeAddrPort d with
    | .error err => ([], .error (.error err))
    | .ok addr =>
      Written.cause "write packet" (connWrite (packetHeader addr buffer.bytes.length ++ buffer.bytes) o)

structure Client where
  headerWritten : Bool := false
  wire : Bytes := []

inductive Write where
  | write (p : Bytes)
  | writeBuffer (buffer : Buffer)

def Write.bytes : Write → Bytes
  | .write p => p
  | .writeBuffer buffer => buffer.bytes

/-- `ClientConn.Write` and `ClientConn.WriteBuffer`: only a handshake that succeeds is remembered. -/
def clientConnWrite (d : D) (c : Client) (w : Write) (o : Outcome) : Client × Except Failure Unit :=
  if c.headerWritten then
    let written := connWrite w.bytes o
    ({ c with wire := c.wire ++ written.1 }, written.2)
  else
    let written := match w with
      | .write p => clientHandshake S key d p o
      | .writeBuffer buffer => clientHandshakeBuffer S key d buffer o
    ({ headerWritten := written.2.isOk, wire := c.wire ++ written.1 }, written.2)

structure Packet (D : Type) where
  buffer : Buffer
  destination : D
  first : Outcome := .done
  second : Outcome := .done

/-- `ClientPacketConn.WritePacket`: the handshake is remembered whether or not it succeeds. -/
def clientWritePacket (c : Client) (p : Packet D) : Client × Except Failure Unit :=
  if c.headerWritten then
    let written := writePacket S p.buffer p.destination p.first
    ({ c with wire := c.wire ++ written.1 }, written.2)
  else
    let written := clientHandshakePacket S key p.destination p.buffer p.first p.second
    ({ headerWritten := true, wire := c.wire ++ written.1 }, written.2)

variable (S : Serializer D)

def readFullFrom (free n : ℕ) : Reader Bytes :=
  if free < n then fun _ => .error "short buffer" else readFull n

/-- `ReadPacket` into a buffer with `free` bytes of room; `unwrap` is the one of destinations. -/
def readPacket (unwrap : D → D) (free : ℕ) : Reader (D × Bytes) := do
  let destination ← causing "read destination" S.readAddrPort
  let length ← causing "read chunk length" (readBigEndian 2)
  causing "skip crlf" (skipN 2)
  let payload ← readFullFrom free length
  return (unwrap destination, payload)

end SingBox.Trojan
