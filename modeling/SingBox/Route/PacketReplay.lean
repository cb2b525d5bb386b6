import SingBox.Lib.Wire
import SingBox.Route.Context

namespace SingBox.Route

open Lib.Errors Lib.Wire

structure Packet where
  payload : Bytes
  destination : Socksaddr
  deriving DecidableEq, Repr

structure PacketConn where
  packets : List Packet
  err : String
  deriving DecidableEq, Repr

def newCachedPacketConn (conn : PacketConn) (buffer : Bytes) (destination : Socksaddr) : PacketConn :=
  { conn with packets := ⟨buffer, destination⟩ :: conn.packets }

def Socksaddr.withoutPort (a : Socksaddr) : Socksaddr := { a with port := 0 }

def isUnspecified (addr : Option IPAddr) : Bool := addr == some (.v4 0) || addr == some (.v6 0 "")

structure NAT where
  origin : Socksaddr
  destination : Socksaddr
  deriving DecidableEq, Repr

def NAT.translate (nat : NAT) (a : Socksaddr) : Socksaddr :=
  if a.withoutPort = nat.origin.withoutPort then { nat.destination with port := a.port } else a

structure SniffOptions where
  sniffEnabled : Bool
  sniffOverrideDestination : Bool := false

/-- What routing a session asks of other components. The sniffers of `peekPacket` depend on whether
packets have been read before; they tell whether the client hello is fragmented. -/
structure PacketEnv where
  fakeIPContains : Option IPAddr → Bool := fun _ => false
  fakeIPLookup : Option IPAddr → Option String := fun _ => none
  dnsReverseMapping : Option IPAddr → Option String := fun _ => none
  dnsMappingOverride : Bool := false
  peekPacket : (again : Bool) → InboundContext → Bytes → InboundContext × Bool
  isDomainName : String → Bool
  matchSniffOverride : InboundContext → Bool := fun _ => false
  exactDomain : String → String := id

structure Routing where
  metadata : InboundContext
  originDestination : Socksaddr := {}
  destOverride : Bool := false

namespace Routing

variable (env : PacketEnv) (opts : SniffOptions) (r : Routing)

def isFqdn : Bool := env.isDomainName r.metadata.destination.fqdn

def override (fqdn dnsMode : String) : Routing where
  metadata := { r.metadata with
    destination := { fqdn, port := r.metadata.destination.port }
    dnsMode }
  originDestination := r.metadata.destination
  destOverride := true

def fakeIP : Except String Routing :=
  if env.fakeIPContains r.metadata.destination.addr then
    match env.fakeIPLookup r.metadata.destination.addr with
    | none => .error "missing fakeip context"
    | some domain => .ok (r.override domain "fake-ip")
  else .ok r

def reverseMapping : Routing := match env.dnsReverseMapping r.metadata.destination.addr with
  | none => r
  | some domain =>
    let r := { r with metadata := { r.metadata with dnsMode := "redir-host", domain } }
    if !r.isFqdn env && env.dnsMappingOverride then r.override domain "redir-host" else r

def settle (destination : Socksaddr) : Routing :=
  if isUnspecified r.metadata.destination.addr then { r with metadata := { r.metadata with destination } }
  else r

def peek (again : Bool) (packet : Packet) : Routing × Bool :=
  let r := r.settle packet.destination
  let result := env.peekPacket again r.metadata packet.payload
  ({ r with metadata := result.1 }, result.2)

def sniffOverride : Routing :=
  if r.metadata.protocol ≠ "" ∧ r.isFqdn env = false ∧ opts.sniffOverrideDestination = true ∧
      env.isDomainName r.metadata.sniffHost = true ∧ env.matchSniffOverride r.metadata = true then
    r.override r.metadata.sniffHost r.metadata.dnsMode
  else r

def exact : Routing :=
  if r.isFqdn env then
    { r with metadata := { r.metadata with
      destination := { r.metadata.destination with
        fqdn := env.exactDomain r.metadata.destination.fqdn } } }
  else r

def nat : Option NAT :=
  if r.destOverride then some ⟨r.originDestination, r.metadata.destination⟩ else none

end Routing

variable (env : PacketEnv) (opts : SniffOptions)

def replay (bufferList : List Bytes) (packet : Packet) (conn : PacketConn) : PacketConn :=
  bufferList.reverse.foldl (fun conn buffer => newCachedPacketConn conn buffer packet.destination)
    (newCachedPacketConn conn packet.payload packet.destination)

def sniffPackets : List Bytes → Routing → List Packet → String → Except String (Routing × PacketConn)
  | _, _, [], err => .error err
  | bufferList, r, packet :: packets, err =>
    if opts.sniffEnabled then
      let peeked := r.peek env (!bufferList.isEmpty) packet
      if peeked.2 && bufferList.isEmpty then
        sniffPackets (bufferList ++ [packet.payload]) peeked.1 packets err
      else .ok (peeked.1.sniffOverride env opts, replay bufferList packet ⟨packets, err⟩)
    else .ok (r.settle packet.destination, replay bufferList packet ⟨packets, err⟩)

structure Handed where
  conn : PacketConn
  nat : Option NAT

def overridden (nat : Option NAT) (a : Socksaddr) : Socksaddr := (nat.map fun nat => nat.translate a).getD a

def Handed.packets (h : Handed) : List Packet :=
  h.conn.packets.map fun packet => { packet with destination := overridden h.nat packet.destination }

def prepare (m : InboundContext) : Except String Routing := do
  let r ← Routing.fakeIP env { metadata := { m with network := "udp" } }
  return r.reverseMapping env

def sniffed (r : Routing) (conn : PacketConn) : Except String (Routing × PacketConn) :=
  if opts.sniffEnabled || isUnspecified r.metadata.destination.addr then
    sniffPackets env opts [] r conn.packets conn.err
  else .ok (r, conn)

def routePacketConnection (m : InboundContext) (conn : PacketConn) : Except String Handed := do
  let r ← prepare env m
  let sniffed ← sniffed env opts r conn
  return ⟨sniffed.2, (sniffed.1.exact env).nat⟩

def Replays (m : InboundContext) (conn : PacketConn) : Prop :=
  ∀ handed, routePacketConnection env opts m conn = .ok handed →
    handed.packets = conn.packets.map fun packet =>
      { packet with destination := overridden handed.nat packet.destination }

def Fragmented (r : Routing) (first : Packet) : Prop :=
  opts.sniffEnabled = true ∧ (r.peek env false first).2 = true

def overrideAfter (r : Routing) (first second : Packet) : Option NAT :=
  (((((r.peek env false first).1.peek env true second).1).sniffOverride env opts).exact env).nat

variable {env opts}
  {r : Routing} {first : Packet}

lemma sniffPackets_single (h : ¬ Fragmented env opts r first) (packets : List Packet) (err : String) :
    ∃ r', sniffPackets env opts [] r (first :: packets) err = .ok (r', ⟨first :: packets, err⟩) := by
  rw [sniffPackets]
  cases hsniff : opts.sniffEnabled with
  | false => exact ⟨_, rfl⟩
  | true =>
    have hpeek : (r.peek env false first).2 = false := by simpa [Fragmented, hsniff] using h
    refine ⟨(r.peek env false first).1.sniffOverride env opts, ?_⟩
    simp [hpeek, replay, newCachedPacketConn]

lemma sniffPackets_fragmented (h : Fragmented env opts r first) (second : Packet)
    (packets : List Packet) (err : String) :
    sniffPackets env opts [] r (first :: second :: packets) err =
      .ok (((r.peek env false first).1.peek env true second).1.sniffOverride env opts,
        ⟨{ first with destination := second.destination } :: second :: packets, err⟩) := by
  rw [sniffPackets, if_pos h.1]
  dsimp only
  rw [if_pos (by simpa using h.2), sniffPackets, if_pos h.1]
  simp [replay, newCachedPacketConn]

lemma sniffPackets_cut (h : Fragmented env opts r first) (err : String) :
    sniffPackets env opts [] r [first] err = .error err := by
  rw [sniffPackets, if_pos h.1]
  dsimp only
  rw [if_pos (by simpa using h.2), sniffPackets]

variable {m : InboundContext}

lemma routePacketConnection_cases {conn : PacketConn} {handed : Handed}
    (h : routePacketConnection env opts m conn = .ok handed) :
    ∃ r, prepare env m = .ok r ∧
      (handed.conn = conn ∧ (∀ first rest, conn.packets = first :: rest → ¬ Fragmented env opts r first) ∨
        ∃ first second rest, conn.packets = first :: second :: rest ∧ Fragmented env opts r first ∧
          handed.conn.packets = { first with destination := second.destination } :: second :: rest ∧
          handed.nat = overrideAfter env opts r first second) := by
  obtain ⟨r, hr, h⟩ := bind_eq_ok.1 h
  obtain ⟨result, hsniffed, h⟩ := bind_eq_ok.1 h
  cases h
  refine ⟨r, hr, ?_⟩
  rw [sniffed] at hsniffed
  split_ifs at hsniffed with hreads
  · rcases conn with ⟨packets, err⟩
    rcases packets with _ | ⟨first, packets⟩
    · cases hsniffed
    · by_cases hfrag : Fragmented env opts r first
      · rcases packets with _ | ⟨second, packets⟩
        · rw [sniffPackets_cut hfrag] at hsniffed
          cases hsniffed
        · rw [sniffPackets_fragmented hfrag] at hsniffed
          cases hsniffed
          exact .inr ⟨first, second, packets, rfl, hfrag, rfl, rfl⟩
      · obtain ⟨r', hsingle⟩ := sniffPackets_single hfrag packets err
        rw [hsingle] at hsniffed
        cases hsniffed
        refine .inl ⟨rfl, fun first' rest heq => ?_⟩
        cases heq
        exact hfrag
  · cases hsniffed
    refine .inl ⟨rfl, fun first rest _ hfrag => hreads ?_⟩
    rw [hfrag.1, Bool.true_or]

lemma routePacketConnection_fragmented (hr : prepare env m = .ok r)
    (hfrag : Fragmented env opts r first) (second : Packet) (rest : List Packet) (err : String) :
    routePacketConnection env opts m ⟨first :: second :: rest, err⟩ =
      .ok ⟨⟨{ first with destination := second.destination } :: second :: rest, err⟩,
        overrideAfter env opts r first second⟩ := by
  have hsniffed := sniffPackets_fragmented hfrag second rest err
  have hreads : sniffed env opts r ⟨first :: second :: rest, err⟩ =
      sniffPackets env opts [] r (first :: second :: rest) err := by
    rw [sniffed, hfrag.1, Bool.true_or, if_pos rfl]
  exact bind_eq_ok.2 ⟨r, hr, bind_eq_ok.2 ⟨_, hreads.trans hsniffed, rfl⟩⟩

variable (env opts) in
theorem packet_replay_iff (m : InboundContext) (conn : PacketConn) :
    Replays env opts m conn ↔ ∀ r first second rest, prepare env m = .ok r →
      conn.packets = first :: second :: rest → Fragmented env opts r first →
        overridden (overrideAfter env opts r first second) first.destination =
          overridden (overrideAfter env opts r first second) second.destination := by
  constructor
  · rintro h r first second rest hr hpackets hfrag
    obtain ⟨packets, err⟩ := conn
    cases hpackets
    have hdelivered := h _ (routePacketConnection_fragmented hr hfrag second rest err)
    simp only [Handed.packets, List.map_cons, List.cons.injEq, Packet.mk.injEq, true_and] at hdelivered
    exact hdelivered.1.symm
  · rintro h handed hrouted
    obtain ⟨r, hr, ⟨hconn, -⟩ | ⟨first, second, rest, hpackets, hfrag, hconn, hnat⟩⟩ :=
      routePacketConnection_cases hrouted
    · rw [Handed.packets, hconn]
    · have hsame := h r first second rest hr hpackets hfrag
      rw [Handed.packets, hconn, hpackets, hnat]
      simp only [List.map_cons, hsame]

def helloEnv : PacketEnv where
  peekPacket again m _ := (m, !again)
  isDomainName name := name != ""

theorem packet_replay_redirected :
    let near : Socksaddr := { addr := some (.v4 0x08080808), port := 443 }
    let far : Socksaddr := { addr := some (.v4 0x01010101), port := 443 }
    (routePacketConnection helloEnv ⟨true, false⟩ { destination := near }
        ⟨[⟨[1], near⟩, ⟨[2], far⟩, ⟨[3], near⟩], "EOF"⟩).map Handed.packets =
      .ok [⟨[1], far⟩, ⟨[2], far⟩, ⟨[3], near⟩] := by
  decide

end SingBox.Route
