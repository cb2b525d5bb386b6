import SingBox.Cache.File
import SingBox.Lib.Varbin

namespace SingBox.Libbox

open Lib.Wire Lib.Varbin Cache

lemma length_nil_lt : ([] : Bytes).length < 2 ^ 64 := Nat.two_pow_pos 64

def emptyBlob : Blob := ⟨[], length_nil_lt⟩

lemma consumes_blob : Consumes blob.read := by
  refine consumes_readUvarint.bind fun n => (shrinks_readFull n).bind fun b => ?_
  split_ifs
  · exact .pure _
  · exact .fail _

def string : Codec Blob := .scalar blob emptyBlob consumes_blob

def bool : Codec Bool :=
  .scalar ⟨fun b => [putBool b], readBool, readBool_putBool⟩ false
    (consumes_readByte.bind fun _ => .pure _)

def int32 : Codec Int32 :=
  .scalar (.bigEndian 4 (·.toUInt32.toNat) (fun n => (UInt32.ofNat n).toInt32)
    (fun a => a.toUInt32.toNat_lt) (fun a => by simp)) 0 (consumes_readBigEndian (by simp)).map

def int64 : Codec Int64 :=
  .scalar (.bigEndian 8 (·.toUInt64.toNat) (fun n => (UInt64.ofNat n).toInt64)
    (fun a => a.toUInt64.toNat_lt) (fun a => by simp)) 0 (consumes_readBigEndian (by simp)).map

structure OutboundGroupItem where
  tag : Blob
  type : Blob
  urlTestTime : Int64
  urlTestDelay : Int32
  deriving DecidableEq

structure OutboundGroup where
  tag : Blob
  type : Blob
  selectable : Bool
  selected : Blob
  isExpand : Bool
  itemList : Slice OutboundGroupItem
  deriving DecidableEq

structure OutboundProvider where
  tag : Blob
  type : Blob
  isExpand : Bool
  itemList : Slice OutboundGroupItem
  deriving DecidableEq

structure Connection where
  id : Blob
  inbound : Blob
  inboundType : Blob
  ipVersion : Int32
  network : Blob
  source : Blob
  destination : Blob
  domain : Blob
  protocol : Blob
  user : Blob
  fromOutbound : Blob
  createdAt : Int64
  closedAt : Int64
  uplink : Int64
  downlink : Int64
  uplinkTotal : Int64
  downlinkTotal : Int64
  rule : Blob
  outbound : Blob
  outboundType : Blob
  chainList : Slice Blob
  deriving DecidableEq

def OutboundGroupItem.codec : Codec OutboundGroupItem :=
  (string.pair (string.pair (int64.pair int32))).iso
    { toFun := fun (tag, type, urlTestTime, urlTestDelay) => { tag, type, urlTestTime, urlTestDelay }
      invFun := fun i => (i.tag, i.type, i.urlTestTime, i.urlTestDelay) }

def OutboundGroup.codec : Codec OutboundGroup :=
  (string.pair (string.pair (bool.pair (string.pair (bool.pair OutboundGroupItem.codec.slice))))).iso
    { toFun := fun (tag, type, selectable, selected, isExpand, itemList) =>
        { tag, type, selectable, selected, isExpand, itemList }
      invFun := fun g => (g.tag, g.type, g.selectable, g.selected, g.isExpand, g.itemList) }

def OutboundProvider.codec : Codec OutboundProvider :=
  (string.pair (string.pair (bool.pair OutboundGroupItem.codec.slice))).iso
    { toFun := fun (tag, type, isExpand, itemList) => { tag, type, isExpand, itemList }
      invFun := fun p => (p.tag, p.type, p.isExpand, p.itemList) }

def Connection.codec : Codec Connection :=
  (string.pair (string.pair (string.pair (int32.pair (string.pair (string.pair (string.pair (string.pair
    (string.pair (string.pair (string.pair (int64.pair (int64.pair (int64.pair (int64.pair (int64.pair
      (int64.pair (string.pair (string.pair (string.pair string.slice)))))))))))))))))))).iso
    { toFun := fun (id, inbound, inboundType, ipVersion, network, source, destination, domain, protocol,
          user, fromOutbound, createdAt, closedAt, uplink, downlink, uplinkTotal, downlinkTotal, rule,
          outbound, outboundType, chainList) =>
        { id, inbound, inboundType, ipVersion, network, source, destination, domain, protocol, user,
          fromOutbound, createdAt, closedAt, uplink, downlink, uplinkTotal, downlinkTotal, rule, outbound,
          outboundType, chainList }
      invFun := fun c => (c.id, c.inbound, c.inboundType, c.ipVersion, c.network, c.source, c.destination,
        c.domain, c.protocol, c.user, c.fromOutbound, c.createdAt, c.closedAt, c.uplink, c.downlink,
        c.uplinkTotal, c.downlinkTotal, c.rule, c.outbound, c.outboundType, c.chainList) }

abbrev UUID := { b : Bytes // b.length = 16 }

def hexDigit (n : UInt8) : UInt8 := if n < 10 then 48 + n else 87 + n

def hex (b : Bytes) : Bytes := b.flatMap fun x => [hexDigit (x / 16), hexDigit (x % 16)]

def UUID.text (u : UUID) : Bytes :=
  hex (u.1.take 4) ++ 45 :: hex ((u.1.drop 4).take 2) ++ 45 :: hex ((u.1.drop 6).take 2) ++
    45 :: hex ((u.1.drop 8).take 2) ++ 45 :: hex (u.1.drop 10)

lemma length_hex (b : Bytes) : (hex b).length = 2 * b.length := by
  induction b with
  | nil => rfl
  | cons x b ih =>
    have hcons : hex (x :: b) = hexDigit (x / 16) :: hexDigit (x % 16) :: hex b := rfl
    rw [hcons, List.length_cons, List.length_cons, ih, List.length_cons]
    omega

lemma UUID.length_text (u : UUID) : (UUID.text u).length = 36 := by
  simp [UUID.text, length_hex, u.2]

def UUID.string (u : UUID) : Blob := ⟨UUID.text u, by rw [UUID.length_text]; decide⟩

structure TrackerMetadata where
  id : UUID
  inbound : Blob
  inboundType : Blob
  ipVersion : UInt8
  network : Blob
  source : Blob
  destination : Blob
  domain : Blob
  protocol : Blob
  user : Blob
  fromOutbound : Blob
  createdAt : Int64
  closedAt : Option Int64
  upload : Int64
  download : Int64
  chain : Slice Blob
  rule : Option Blob
  outbound : Blob
  outboundType : Blob

def zeroTime : Int64 := -62135596800000

abbrev Known := UUID → Option Connection

def newConnection (connections : Known) (metadata : TrackerMetadata) (isClosed : Bool) :
    Connection × Known :=
  match connections metadata.id with
  | some old =>
    let connection :=
      if isClosed then
        if old.closedAt = 0 then
          { old with uplink := 0, downlink := 0, closedAt := metadata.closedAt.getD zeroTime }
        else old
      else
        { old with
          uplink := metadata.upload - old.uplinkTotal
          downlink := metadata.download - old.downlinkTotal
          uplinkTotal := metadata.upload
          downlinkTotal := metadata.download }
    (connection, Function.update connections metadata.id (some connection))
  | none =>
    let connection : Connection :=
      { id := metadata.id.string
        inbound := metadata.inbound
        inboundType := metadata.inboundType
        ipVersion := metadata.ipVersion.toUInt32.toInt32
        network := metadata.network
        source := metadata.source
        destination := metadata.destination
        domain := metadata.domain
        protocol := metadata.protocol
        user := metadata.user
        fromOutbound := metadata.fromOutbound
        createdAt := metadata.createdAt
        closedAt := metadata.closedAt.getD 0
        uplink := if metadata.closedAt.isSome then 0 else metadata.upload
        downlink := if metadata.closedAt.isSome then 0 else metadata.download
        uplinkTotal := metadata.upload
        downlinkTotal := metadata.download
        rule := metadata.rule.getD emptyBlob
        outbound := metadata.outbound
        outboundType := metadata.outboundType
        chainList := metadata.chain }
    (connection, Function.update connections metadata.id (some connection))

structure Snapshot where
  connections : List TrackerMetadata
  closedConnections : List TrackerMetadata
  bounded : connections.length + closedConnections.length < 2 ^ 64

def addConnection (isClosed : Bool) (x : List Connection × Known) (metadata : TrackerMetadata) :
    List Connection × Known :=
  let (connection, known) := newConnection x.2 metadata isClosed
  (x.1 ++ [connection], known)

def collect (connections : Known) (snapshot : Snapshot) : List Connection × Known :=
  snapshot.closedConnections.foldl (addConnection true)
    (snapshot.connections.foldl (addConnection false) ([], connections))

lemma length_foldl_addConnection (isClosed : Bool) (l : List TrackerMetadata)
    (x : List Connection × Known) :
    (l.foldl (addConnection isClosed) x).1.length = x.1.length + l.length := by
  induction l generalizing x with
  | nil => rfl
  | cons metadata l ih =>
    rw [List.foldl_cons, ih]
    simp [addConnection]
    omega

lemma length_collect (connections : Known) (snapshot : Snapshot) :
    (collect connections snapshot).1.length =
      snapshot.connections.length + snapshot.closedConnections.length := by
  rw [collect, length_foldl_addConnection, length_foldl_addConnection]
  simp

def outConnections (connections : Known) (snapshot : Snapshot) : Slice Connection :=
  ⟨(collect connections snapshot).1, length_collect connections snapshot ▸ snapshot.bounded⟩

def sentConnections : Known → List Snapshot → List (Slice Connection)
  | _, [] => []
  | connections, snapshot :: snapshots =>
    outConnections connections snapshot :: sentConnections (collect connections snapshot).2 snapshots

inductive Delivered where
  | groups (groups : Slice OutboundGroup)
  | providers (providers : Slice OutboundProvider)
  | connections (connections : Slice Connection)
  deriving DecidableEq

/-- What a server has at each tick of one connection; there is no list at a tick without service.
The connections are sent from the first tick with a service on. -/
inductive Session where
  | group (ticks : List (Option (Slice OutboundGroup)))
  | provider (ticks : List (Option (Slice OutboundProvider)))
  | connections (ticks : List Snapshot)

def writeTick {α : Type} (c : Codec α) : Option (Slice α) → Bytes
  | some l => c.slice.write l
  | none => putBigEndian 2 0

def Session.sent : Session → Bytes
  | .group ticks => ticks.flatMap (writeTick OutboundGroup.codec)
  | .provider ticks => ticks.flatMap (writeTick OutboundProvider.codec)
  | .connections ticks => (sentConnections (fun _ => none) ticks).flatMap Connection.codec.slice.write

def readGroups : Reader (Slice OutboundGroup) :=
  OutboundGroup.codec.slice.readInto OutboundGroup.codec.slice.zero

def handleGroupConn (stream : Bytes) : List Delivered :=
  (readAll (fun _ => readGroups) OutboundGroup.codec.slice.zero stream).map .groups

def handleProviderConn (stream : Bytes) : List Delivered :=
  (readAll (fun _ => readGroups) OutboundGroup.codec.slice.zero stream).map .groups

/-- The slice of the last message is there when the next one is read. -/
def handleConnectionsConn (stream : Bytes) : List Delivered :=
  (readAll Connection.codec.slice.readInto Connection.codec.slice.zero stream).map .connections

def Session.delivered (session : Session) : List Delivered :=
  match session with
  | .group _ => handleGroupConn session.sent
  | .provider _ => handleProviderConn session.sent
  | .connections _ => handleConnectionsConn session.sent

end SingBox.Libbox
