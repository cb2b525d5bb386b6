import Mathlib.Logic.Function.Basic

namespace SingBox.Route

inductive IPAddr where
  | v4 (bits : BitVec 32)
  | v6 (bits : BitVec 128) (zone : String)
  deriving DecidableEq, Repr

structure Socksaddr where
  addr : Option IPAddr := none
  port : UInt16 := 0
  fqdn : String := ""
  deriving DecidableEq, Repr

def Socksaddr.isIP (a : Socksaddr) : Bool := a.addr.isSome

structure ProcessInfo where
  processPath : String := ""
  packageName : String := ""
  user : String := ""
  userId : Int := -1
  deriving DecidableEq, Repr

inductive Group where
  | sourceAddress
  | sourcePort
  | destinationAddress
  | destinationPort
  deriving DecidableEq, Repr

def Group.all : List Group := [.sourceAddress, .sourcePort, .destinationAddress, .destinationPort]

@[simp] lemma Group.mem_all (g : Group) : g ∈ Group.all := by
  cases g <;> decide

/-- `matched g` is the cached flag of one group: `SourceAddressMatch`, `SourcePortMatch`,
`DestinationAddressMatch` and `DestinationPortMatch`. -/
@[ext]
structure MatchFlags where
  matched : Group → Bool := fun _ => false
  didMatch : Bool := false

def MatchFlags.set (f : MatchFlags) (g : Group) : MatchFlags :=
  { f with matched := Function.update f.matched g true }

structure InboundContext where
  inbound : String := ""
  ipVersion : UInt8 := 0
  network : String := ""
  source : Socksaddr := {}
  destination : Socksaddr := {}
  user : String := ""
  outbound : String := ""
  protocol : String := ""
  sniffHost : String := ""
  client : String := ""
  dnsMode : String := ""
  domain : String := ""
  destinationAddresses : List IPAddr := []
  sourceGeoIPCode : String := ""
  geoIPCode : String := ""
  processInfo : Option ProcessInfo := none
  queryType : UInt16 := 0
  ipcidrMatchSource : Bool := false
  ipcidrAcceptEmpty : Bool := false
  flags : MatchFlags := {}
  ignoreDestinationIPCIDRMatch : Bool := false
  isResolved : Bool := false
  dnsFallBack : Bool := false
  fakeIPFilter : Bool := false

namespace InboundContext

def resetRuleCache (m : InboundContext) : InboundContext :=
  { m with ipcidrMatchSource := false, ipcidrAcceptEmpty := false, flags := {} }

def withFlags (m : InboundContext) (f : MatchFlags) : InboundContext := { m with flags := f }

def markDidMatch (m : InboundContext) : InboundContext :=
  m.withFlags { m.flags with didMatch := true }

def setMatched (m : InboundContext) (g : Group) : InboundContext := m.withFlags (m.flags.set g)

def withCodes (m : InboundContext) (sourceGeoIPCode geoIPCode : String) : InboundContext :=
  { m with sourceGeoIPCode, geoIPCode }

def withAddresses (m : InboundContext) (destinationAddresses : List IPAddr) : InboundContext :=
  { m with destinationAddresses }

def ignoring (m : InboundContext) (ignore : Bool) : InboundContext :=
  { m with ignoreDestinationIPCIDRMatch := ignore }

def request (m : InboundContext) : InboundContext :=
  { m.resetRuleCache.withCodes "" "" with
    destinationAddresses := [], ignoreDestinationIPCIDRMatch := false }

variable (m : InboundContext) (f : MatchFlags)

@[simp] lemma withFlags_flags : (m.withFlags f).flags = f := rfl

@[simp] lemma withFlags_self : m.withFlags m.flags = m := rfl

@[simp] lemma withFlags_withFlags (f' : MatchFlags) :
    (m.withFlags f).withFlags f' = m.withFlags f' := rfl

@[simp] lemma withFlags_resetRuleCache : (m.withFlags f).resetRuleCache = m.resetRuleCache := rfl

@[simp] lemma resetRuleCache_resetRuleCache :
    m.resetRuleCache.resetRuleCache = m.resetRuleCache := rfl

@[simp] lemma resetRuleCache_flags : m.resetRuleCache.flags = {} := rfl

@[simp] lemma withFlags_ignore :
    (m.withFlags f).ignoreDestinationIPCIDRMatch = m.ignoreDestinationIPCIDRMatch := rfl

@[simp] lemma resetRuleCache_ignore :
    m.resetRuleCache.ignoreDestinationIPCIDRMatch = m.ignoreDestinationIPCIDRMatch := rfl

@[simp] lemma withAddresses_geoIPCode (addresses : List IPAddr) :
    (m.withAddresses addresses).geoIPCode = m.geoIPCode := rfl

@[simp] lemma withAddresses_addresses (addresses : List IPAddr) :
    (m.withAddresses addresses).destinationAddresses = addresses := rfl

@[simp] lemma withFlags_destination : (m.withFlags f).destination = m.destination := rfl

@[simp] lemma withCodes_destination (a b : String) :
    (m.withCodes a b).destination = m.destination := rfl

@[simp] lemma ignoring_destination (ignore : Bool) :
    (m.ignoring ignore).destination = m.destination := rfl

@[simp] lemma ignoring_geoIPCode (ignore : Bool) : (m.ignoring ignore).geoIPCode = m.geoIPCode := rfl

@[simp] lemma resetRuleCache_destination : m.resetRuleCache.destination = m.destination := rfl

@[simp] lemma resetRuleCache_request : m.resetRuleCache.request = m.request := rfl

@[simp] lemma withFlags_request : (m.withFlags f).request = m.request := rfl

@[simp] lemma withCodes_request (a b : String) : (m.withCodes a b).request = m.request := rfl

@[simp] lemma ignoring_request (ignore : Bool) : (m.ignoring ignore).request = m.request := rfl

@[simp] lemma withFlags_dnsFallBack : (m.withFlags f).dnsFallBack = m.dnsFallBack := rfl

@[simp] lemma resetRuleCache_dnsFallBack : m.resetRuleCache.dnsFallBack = m.dnsFallBack := rfl

@[simp] lemma withFlags_fakeIPFilter : (m.withFlags f).fakeIPFilter = m.fakeIPFilter := rfl

@[simp] lemma resetRuleCache_fakeIPFilter : m.resetRuleCache.fakeIPFilter = m.fakeIPFilter := rfl

end InboundContext

end SingBox.Route
