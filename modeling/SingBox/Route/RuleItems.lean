import SingBox.Route.HeadlessRules

namespace SingBox.Route

open Lib.Search Lib.LogicTree

structure RouterEnv extends Env where
  geosite : String → List HeadlessItem
  ruleSet : String → RuleSet

def RouterEnv.bare : RouterEnv where
  toEnv := .bare
  geosite _ := []
  ruleSet _ := ⟨[], false⟩

inductive PlainItem where
  | headless (item : HeadlessItem)
  | inbound (inbounds : List String)
  | ipVersion (isIPv6 : Bool)
  | queryType (typeList : List UInt16)
  | authUser (users : List String)
  | protocol (protocols : List String)
  | client (clients : List String)
  | ipIsPrivate (isSource : Bool)
  | user (users : List String)
  | userID (userIds : List Int)
  | outbound (outbounds : List String)
  | clashMode (modes : List String)
  | fakeIP

inductive RuleItem where
  | plain (item : PlainItem)
  | geosite (codes : List String)
  | geoIP (isSource : Bool) (codes : List String)
  | ruleSet (tagList : List String) (ipCidrMatchSource ipCidrAcceptEmpty : Bool)

def RuleItem.isRuleSet : RuleItem → Bool
  | .ruleSet _ _ _ => true
  | _ => false

namespace GeoIPItem

def lookupCode (env : Env) (addr : IPAddr) : String :=
  if !env.isPublicAddr addr then "private"
  else match env.geoIPReader with
    | some lookup => lookup addr
    | none => ""

def cachedCode (isSource : Bool) (m : InboundContext) : String :=
  if isSource then m.sourceGeoIPCode else m.geoIPCode

def cacheCode (isSource : Bool) (code : String) (m : InboundContext) : InboundContext :=
  if isSource then { m with sourceGeoIPCode := code } else { m with geoIPCode := code }

def matchAddr (env : Env) (isSource : Bool) (codes : List String) (addr : IPAddr)
    (m : InboundContext) : Bool × InboundContext :=
  let code := lookupCode env addr
  if code == "" then (false, m) else (codes.contains code, cacheCode isSource code m)

/-- Both kinds of item fall back to the destination addresses. -/
def matchItem (env : Env) (isSource : Bool) (codes : List String) (m : InboundContext) :
    Bool × InboundContext :=
  if cachedCode isSource m != "" then (codes.contains (cachedCode isSource m), m)
  else match if isSource then m.source.addr else m.destination.addr with
    | some addr => matchAddr env isSource codes addr m
    | none => anyS (matchAddr env isSource codes) m.destinationAddresses m

end GeoIPItem

def geositeRule (env : RouterEnv) (code : String) : DefaultRule HeadlessItem :=
  { destinationAddressItems := env.geosite code }

def geositeMatch (env : RouterEnv) (codes : List String) (m : InboundContext) :
    Bool × InboundContext :=
  anyS (fun code m => (geositeRule env code).matchRule (HeadlessItem.matchItem env.toEnv)
    (fun _ => false) m) codes m

def ipIsPrivateHolds (env : Env) (isSource : Bool) (m : InboundContext) : Bool :=
  match if isSource then m.source.addr else m.destination.addr with
  | some addr => !env.isPublicAddr addr
  | none => !isSource && m.destinationAddresses.any fun addr => !env.isPublicAddr addr

def outboundHolds (outbounds : List String) (m : InboundContext) : Bool :=
  (outbounds.contains "any" && m.outbound != "") ||
    (outbounds.filter (· != "any")).contains m.outbound

namespace RuleSetItem

def sets (env : RouterEnv) (tagList : List String) : List RuleSet := tagList.map env.ruleSet

def matchItem (env : RouterEnv) (tagList : List String)
    (ipCidrMatchSource ipCidrAcceptEmpty : Bool) (m : InboundContext) : Bool × InboundContext :=
  anyS (fun s m => s.matchSet env.toEnv m) (sets env tagList)
    { m with ipcidrMatchSource := ipCidrMatchSource, ipcidrAcceptEmpty := ipCidrAcceptEmpty }

def containsDestinationIPCIDRRule (env : RouterEnv) (tagList : List String)
    (ipCidrMatchSource : Bool) : Bool :=
  !ipCidrMatchSource && (sets env tagList).any fun s => s.containsIPCIDRRule

end RuleSetItem

namespace PlainItem

def holds (env : Env) (m : InboundContext) : PlainItem → Bool
  | headless item => item.holds env m
  | inbound inbounds => inbounds.contains m.inbound
  | ipVersion isIPv6 =>
    (m.ipVersion != 0 && (m.ipVersion == 6) == isIPv6) ||
      m.destination.addr.any fun addr => env.isIPv6 addr == isIPv6
  | queryType typeList => m.queryType != 0 && typeList.contains m.queryType
  | authUser users => users.contains m.user
  | protocol protocols => protocols.contains m.protocol
  | client clients => clients.contains m.client
  | ipIsPrivate isSource => ipIsPrivateHolds env isSource m
  | user users => m.processInfo.any fun info => info.user != "" && users.contains info.user
  | userID userIds =>
    m.processInfo.any fun info => info.userId != -1 && userIds.contains info.userId
  | outbound outbounds => outboundHolds outbounds m
  | clashMode modes => env.clashMode.any fun mode => modes.any (env.equalFold mode)
  | fakeIP => m.dnsMode == "fake-ip"

lemma holds_withFlags (env : Env) (m : InboundContext) (f : MatchFlags) (item : PlainItem) :
    item.holds env (m.withFlags f) = item.holds env m := by
  cases item with
  | headless item => exact HeadlessItem.holds_withFlags env m f item
  | _ => rfl

end PlainItem

def RuleItem.matchItem (env : RouterEnv) : RuleItem → InboundContext → Bool × InboundContext
  | .plain item, m => (item.holds env.toEnv m, m)
  | .geosite codes, m => geositeMatch env codes m
  | .geoIP isSource codes, m => GeoIPItem.matchItem env.toEnv isSource codes m
  | .ruleSet tagList ipCidrMatchSource ipCidrAcceptEmpty, m =>
    RuleSetItem.matchItem env tagList ipCidrMatchSource ipCidrAcceptEmpty m

namespace DefaultRule

def containsDestinationIPCIDRRule (env : RouterEnv) (r : DefaultRule RuleItem) : Bool :=
  !r.destinationIPCIDRItems.isEmpty || r.items.any fun item => match item with
    | .ruleSet tagList ipCidrMatchSource _ =>
      RuleSetItem.containsDestinationIPCIDRRule env tagList ipCidrMatchSource
    | _ => false

end DefaultRule

end SingBox.Route
