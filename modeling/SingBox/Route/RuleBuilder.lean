import SingBox.Lib.Errors
import SingBox.Route.RuleItems

namespace SingBox.Route

open Lib.Errors Lib.LogicTree List DefaultRule

structure IPRange where
  first : Option IPAddr
  last : Option IPAddr
  deriving DecidableEq, Repr

def IPRange.single (addr : IPAddr) : IPRange := ⟨some addr, some addr⟩

/-- The parsers and matchers the constructors of items use. An IP set is its list of ranges. -/
structure Library where
  newMatcher : List String → List String → String → Bool
  newAdGuardMatcher : List String → String → Bool
  compileRegex : String → Except String (String → Bool)
  parsePrefix : String → Except String IPRange
  parseAddr : String → Except String IPAddr
  buildIPSet : List IPRange → List IPRange
  contains : List IPRange → Option IPAddr → Bool
  parseUint16 : String → Except String UInt16

def Library.bare : Library where
  newMatcher domains _ := domains.contains
  newAdGuardMatcher _ _ := false
  compileRegex _ := .error "unsupported"
  parsePrefix _ := .error "unsupported"
  parseAddr text := if text == "127.0.0.1" then .ok (.v4 0x7F000001#32) else .error "unsupported"
  buildIPSet ranges := ranges
  contains ranges addr := addr.isSome && ranges.any fun range => range.first == addr
  parseUint16 _ := .error "unsupported"

namespace HeadlessItem

variable (lib : Library)

def newDomainRegexItem (expressions : List String) : Except String HeadlessItem := do
  let matchers ← mapFrom (fun i regex => match lib.compileRegex regex with
    | .ok matcher => .ok matcher
    | .error err => .error (cause err ("parse expression " ++ toString i))) 0 expressions
  return .domainRegex matchers

def parseIPRange (i : ℕ) (text : String) : Except String IPRange :=
  match lib.parsePrefix text with
  | .ok range => .ok range
  | .error err => match lib.parseAddr text with
    | .ok addr => .ok (.single addr)
    | .error _ => .error (cause err ("parse [" ++ toString i ++ "]"))

def parseIPSet (prefixStrings : List String) : Except String (List IPRange) := do
  let ranges ← mapFrom (parseIPRange lib) 0 prefixStrings
  return lib.buildIPSet ranges

def newIPCIDRItem (isSource : Bool) (prefixStrings : List String) : Except String HeadlessItem := do
  let ipSet ← parseIPSet lib prefixStrings
  return .ipCIDR isSource (lib.contains ipSet)

def parsePort (portRange part : String) : Except String UInt16 :=
  match lib.parseUint16 part with
  | .ok n => .ok n
  | .error err => .error (cause err (extend "bad port range" portRange))

def parsePortRange (portRange : String) : Except String PortRange :=
  let start := portRange.toList.takeWhile (· != ':')
  match portRange.toList.dropWhile (· != ':') with
  | [] => .error (extend "bad port range" portRange)
  | _ :: stop => do
    let first ← if start.isEmpty then .ok 0 else parsePort lib portRange (String.ofList start)
    let last ← if stop.isEmpty then .ok 0xFFFF else parsePort lib portRange (String.ofList stop)
    return ⟨first, last⟩

def newPortRangeItem (isSource : Bool) (rangeList : List String) : Except String HeadlessItem := do
  let ranges ← mapFrom (fun _ => parsePortRange lib) 0 rangeList
  return .portRange isSource ranges

end HeadlessItem

structure RuleConditions where
  inbound : List String := []
  ipVersion : Int := 0
  network : List String := []
  authUser : List String := []
  protocol : List String := []
  domain : List String := []
  domainSuffix : List String := []
  domainKeyword : List String := []
  domainRegex : List String := []
  geosite : List String := []
  sourceGeoIP : List String := []
  geoIP : List String := []
  sourceIPCIDR : List String := []
  sourceIPIsPrivate : Bool := false
  ipCIDR : List String := []
  ipIsPrivate : Bool := false
  sourcePort : List UInt16 := []
  sourcePortRange : List String := []
  port : List UInt16 := []
  portRange : List String := []
  processName : List String := []
  processPath : List String := []
  packageName : List String := []
  user : List String := []
  userID : List Int := []
  clashMode : List String := []
  wifiSSID : List String := []
  wifiBSSID : List String := []
  ruleSet : List String := []
  ruleSetIPCIDRMatchSource : Bool := false
  invert : Bool := false

structure DefaultRuleOptions extends RuleConditions where
  client : List String := []
  fakeIP : Bool := false
  skipResolve : Bool := false
  outbound : String := ""

inductive RuleOptions where
  | default (options : DefaultRuleOptions)
  | logical (mode : String) (rules : List RuleOptions) (invert skipResolve : Bool) (outbound : String)

def fromList {α ι : Type*} (values : List α) (item : List α → ι) : List ι :=
  if values.isEmpty then [] else [item values]

def fromFlag {ι : Type*} (flag : Bool) (item : ι) : List ι := if flag then [item] else []

def parseList {ι : Type*} (name : String) (values : List String)
    (item : List String → Except String ι) : Except String (List ι) :=
  if values.isEmpty then .ok []
  else match item values with
    | .ok item => .ok [item]
    | .error err => .error (cause err name)

def newIPVersionItem (version : Int) : Except String (List PlainItem) :=
  if version > 0 then
    if version == 4 || version == 6 then .ok [.ipVersion (version == 6)]
    else .error ("invalid ip version: " ++ toString version)
  else .ok []

def newDomainItem (lib : Library) (domains suffixes : List String) : List HeadlessItem :=
  if !domains.isEmpty || !suffixes.isEmpty then [.domain (lib.newMatcher domains suffixes)] else []

def RuleItem.ofHeadless (item : HeadlessItem) : RuleItem := .plain (.headless item)

structure ParsedItems where
  ipVersion : List PlainItem
  domainRegex : List HeadlessItem
  sourceIPCIDR : List HeadlessItem
  ipCIDR : List HeadlessItem
  sourcePortRange : List HeadlessItem
  portRange : List HeadlessItem

open HeadlessItem in
def parseItems (lib : Library) (ipCIDRName : String) (o : RuleConditions) :
    Except String ParsedItems := do
  let ipVersion ← newIPVersionItem o.ipVersion
  let domainRegex ← parseList "domain_regex" o.domainRegex (newDomainRegexItem lib)
  let sourceIPCIDR ← parseList "source_ip_cidr" o.sourceIPCIDR (newIPCIDRItem lib true)
  let ipCIDR ← parseList ipCIDRName o.ipCIDR (newIPCIDRItem lib false)
  let sourcePortRange ← parseList "source_port_range" o.sourcePortRange (newPortRangeItem lib true)
  let portRange ← parseList "port_range" o.portRange (newPortRangeItem lib false)
  return { ipVersion, domainRegex, sourceIPCIDR, ipCIDR, sourcePortRange, portRange }

def placeItems (lib : Library) (o : RuleConditions) (parsed : ParsedItems) (items : List RuleItem) :
    DefaultRule RuleItem where
  invert := o.invert
  items
  sourceAddressItems :=
    fromList o.sourceGeoIP (.geoIP true) ++ map RuleItem.ofHeadless parsed.sourceIPCIDR ++
      fromFlag o.sourceIPIsPrivate (.plain (.ipIsPrivate true))
  sourcePortItems := map RuleItem.ofHeadless
    (fromList o.sourcePort (.port true) ++ parsed.sourcePortRange)
  destinationAddressItems := map RuleItem.ofHeadless
      (newDomainItem lib o.domain o.domainSuffix ++ fromList o.domainKeyword .domainKeyword ++
        parsed.domainRegex) ++
    fromList o.geosite .geosite
  destinationIPCIDRItems :=
    fromList o.geoIP (.geoIP false) ++ map RuleItem.ofHeadless parsed.ipCIDR ++
      fromFlag o.ipIsPrivate (.plain (.ipIsPrivate false))
  destinationPortItems := map RuleItem.ofHeadless
    (fromList o.port (.port false) ++ parsed.portRange)

def routeItems (o : DefaultRuleOptions) (parsed : ParsedItems) : List RuleItem :=
  let plain : List (List PlainItem) :=
    [fromList o.inbound .inbound, parsed.ipVersion,
      fromList o.network (fun l => .headless (.network l)), fromList o.authUser .authUser,
      fromList o.protocol .protocol, fromList o.client .client,
      fromList o.processName (fun l => .headless (.processName l)),
      fromList o.processPath (fun l => .headless (.processPath l)),
      fromList o.packageName (fun l => .headless (.packageName l)),
      fromList o.user .user, fromList o.userID .userID, fromList o.clashMode .clashMode,
      fromList o.wifiSSID (fun l => .headless (.wifiSSID l)),
      fromList o.wifiBSSID (fun l => .headless (.wifiBSSID l))]
  map RuleItem.plain plain.flatten ++
    fromList o.ruleSet (fun l => .ruleSet l o.ruleSetIPCIDRMatchSource false) ++
    fromFlag o.fakeIP (.plain .fakeIP)

def newDefaultRule (lib : Library) (o : DefaultRuleOptions) :
    Except String (DefaultRule RuleItem) := do
  let parsed ← parseItems lib "ipcidr" o.toRuleConditions
  return placeItems lib o.toRuleConditions parsed (routeItems o parsed)

abbrev RuleBody := AndOrTree (DefaultRule RuleItem)

structure Rule where
  disabled : Bool := false
  outbound : String
  skipResolve : Bool
  body : RuleBody

def parseMode (mode : String) : Except String Mode :=
  if mode == "and" then .ok .and
  else if mode == "or" then .ok .or
  else .error ("unknown logical mode: " ++ mode)

namespace RuleOptions

mutual

/-- The comparison in `DefaultRule.IsValid` is between a pointer and a value and never holds. -/
def isValid : RuleOptions → Bool
  | .default _ => true
  | .logical _ rules _ _ _ => !rules.isEmpty && allValid rules

def allValid : List RuleOptions → Bool
  | [] => true
  | o :: rules => isValid o && allValid rules

end

mutual

def newRule (lib : Library) (checkOutbound : Bool) : RuleOptions → Except String Rule
  | .default o =>
    if o.outbound == "" && checkOutbound then .error "missing outbound field"
    else do
      let r ← newDefaultRule lib o
      return { outbound := o.outbound, skipResolve := o.skipResolve, body := .leaf r }
  | .logical mode rules invert skipResolve outbound =>
    if !isValid (.logical mode rules invert skipResolve outbound) then .error "missing conditions"
    else if outbound == "" && checkOutbound then .error "missing outbound field"
    else do
      let mode ← parseMode mode
      let subs ← newSubRules lib 0 rules
      return { outbound, skipResolve, body := .node mode subs invert }

def newSubRules (lib : Library) : ℕ → List RuleOptions → Except String (List RuleBody)
  | _, [] => .ok []
  | i, o :: rules =>
    match newRule lib false o with
    | .error err => .error (cause err ("sub rule[" ++ toString i ++ "]"))
    | .ok rule => do
      let subs ← newSubRules lib (i + 1) rules
      return rule.body :: subs

end

mutual

def leaves : RuleOptions → List DefaultRuleOptions
  | .default o => [o]
  | .logical _ rules _ _ _ => leavesOf rules

def leavesOf : List RuleOptions → List DefaultRuleOptions
  | [] => []
  | o :: rules => leaves o ++ leavesOf rules

end

mutual

variable {lib : Library}

lemma newRule_leaves :
    ∀ (options : RuleOptions) {checkOutbound : Bool} {rule : Rule},
      newRule lib checkOutbound options = .ok rule →
        ∀ r ∈ rule.body.leaves, ∃ o ∈ options.leaves, newDefaultRule lib o = .ok r
  | .default o, checkOutbound, rule, h, r, hr => by
    rw [newRule] at h
    split_ifs at h
    obtain ⟨r', hr', h⟩ := bind_eq_ok.1 h
    cases h
    rw [AndOrTree.leaves, mem_singleton] at hr
    exact ⟨o, by simp [leaves], hr ▸ hr'⟩
  | .logical mode rules invert skipResolve outbound, checkOutbound, rule, h, r, hr => by
    rw [newRule] at h
    split_ifs at h
    obtain ⟨mode', _, h⟩ := bind_eq_ok.1 h
    obtain ⟨subs, hsubs, h⟩ := bind_eq_ok.1 h
    cases h
    rw [leaves]
    exact newSubRules_leaves rules hsubs r hr

lemma newSubRules_leaves :
    ∀ (rules : List RuleOptions) {i : ℕ} {subs : List RuleBody},
      newSubRules lib i rules = .ok subs →
        ∀ r ∈ AndOrTree.leavesOf subs, ∃ o ∈ leavesOf rules, newDefaultRule lib o = .ok r
  | [], i, subs, h, r, hr => by
    cases h
    cases hr
  | options :: rules, i, subs, h, r, hr => by
    rw [newSubRules] at h
    split at h
    · cases h
    · rename_i rule hrule
      obtain ⟨rest, hrest, h⟩ := bind_eq_ok.1 h
      cases h
      rw [leavesOf]
      rcases mem_append.1 hr with hr | hr
      · obtain ⟨o, ho, hbuilt⟩ := newRule_leaves options hrule r hr
        exact ⟨o, mem_append_left _ ho, hbuilt⟩
      · obtain ⟨o, ho, hbuilt⟩ := newSubRules_leaves rules hrest r hr
        exact ⟨o, mem_append_right _ ho, hbuilt⟩

end

end RuleOptions

def HeadlessItem.group : HeadlessItem → Option Group
  | .domain _ | .domainKeyword _ | .domainRegex _ | .adGuardDomain _ => some .destinationAddress
  | .ipCIDR isSource _ => some (if isSource then .sourceAddress else .destinationAddress)
  | .port isSource _ | .portRange isSource _ =>
    some (if isSource then .sourcePort else .destinationPort)
  | _ => none

def RuleItem.group : RuleItem → Option Group
  | .plain (.headless item) => item.group
  | .plain (.ipIsPrivate isSource) | .geoIP isSource _ =>
    some (if isSource then .sourceAddress else .destinationAddress)
  | .geosite _ => some .destinationAddress
  | _ => none

@[simp] lemma RuleItem.ofHeadless_group (i : HeadlessItem) : (ofHeadless i).group = i.group := rfl

@[simp] lemma RuleItem.geoIP_group (isSource : Bool) (codes : List String) :
    (RuleItem.geoIP isSource codes).group =
      some (if isSource then .sourceAddress else .destinationAddress) := rfl

@[simp] lemma RuleItem.ipIsPrivate_group (isSource : Bool) :
    (RuleItem.plain (.ipIsPrivate isSource)).group =
      some (if isSource then .sourceAddress else .destinationAddress) := rfl

@[simp] lemma RuleItem.geosite_group (codes : List String) :
    (RuleItem.geosite codes).group = some .destinationAddress := rfl

@[simp] lemma HeadlessItem.port_group (isSource : Bool) (ports : List UInt16) :
    (HeadlessItem.port isSource ports).group =
      some (if isSource then .sourcePort else .destinationPort) := rfl

@[simp] lemma HeadlessItem.domainKeyword_group (keywords : List String) :
    (HeadlessItem.domainKeyword keywords).group = some .destinationAddress := rfl

variable {α ι : Type*} {P : ι → Prop} {values : List α} {item : List α → ι}

lemma forall_mem_fromList :
    (∀ i ∈ fromList values item, P i) ↔ (values.isEmpty = false → P (item values)) := by
  rw [fromList]
  cases values.isEmpty <;> simp

variable {flag : Bool} {i : ι}

lemma forall_mem_fromFlag : (∀ j ∈ fromFlag flag i, P j) ↔ (flag = true → P i) := by
  rw [fromFlag]
  cases flag <;> simp

@[simp] lemma fromList_eq_nil : fromList values item = [] ↔ values = [] := by
  cases values <;> simp [fromList]

@[simp] lemma fromFlag_eq_nil : fromFlag flag i = [] ↔ flag = false := by
  cases flag <;> simp [fromFlag]

variable {name : String} {parsed : List ι}

lemma parseList_cons {value : String} {values : List String} {item : List String → Except String ι}    :
    parseList name (value :: values) item = .ok parsed ↔
      ∃ i, item (value :: values) = .ok i ∧ parsed = [i] := by
  rw [parseList, if_neg (by simp)]
  cases item (value :: values) <;> simp [eq_comm]

lemma parseList_ok {values : List String} {item : List String → Except String ι}
    (h : parseList name values item = .ok parsed) :
    (∀ i ∈ parsed, item values = .ok i) ∧ (parsed = [] ↔ values = []) := by
  rw [parseList] at h
  split_ifs at h with he
  · cases h
    simpa using he
  · split at h
    · rename_i i hi
      cases h
      simpa [hi] using he
    · cases h

lemma newIPVersionItem_ok {version : Int} {parsed : List PlainItem}
    (h : newIPVersionItem version = .ok parsed) :
    (∀ i ∈ parsed, ∃ isIPv6, i = .ipVersion isIPv6) ∧ (parsed = [] ↔ ¬ version > 0) := by
  rw [newIPVersionItem] at h
  split_ifs at h with hv _
  · cases h
    exact ⟨fun i hi => ⟨_, mem_singleton.1 hi⟩, by simp [hv]⟩
  · cases h
    simp [hv]

variable {domains suffixes : List String}

@[simp] lemma newDomainItem_eq_nil {lib : Library} :
    newDomainItem lib domains suffixes = [] ↔ domains = [] ∧ suffixes = [] := by
  cases domains <;> cases suffixes <;> simp [newDomainItem]

lemma newDomainItem_group {lib : Library} {i : HeadlessItem}
    (h : i ∈ newDomainItem lib domains suffixes) : i.group = some .destinationAddress := by
  rw [newDomainItem] at h
  split_ifs at h
  · rw [mem_singleton.1 h, HeadlessItem.group]
  · cases h

structure WellGrouped (r : DefaultRule RuleItem) : Prop where
  ungrouped : ∀ i ∈ r.items, i.group = none
  grouped : ∀ g, ∀ i ∈ r.groupItems false g, i.group = some g

section NewDefaultRule

open HeadlessItem

variable {lib : Library} {c : RuleConditions} {o : DefaultRuleOptions} {r : DefaultRule RuleItem}
  {parsed : ParsedItems}

structure ParsedFor (o : RuleConditions) (parsed : ParsedItems) : Prop where
  ipVersion : ∀ i ∈ parsed.ipVersion, ∃ isIPv6, i = .ipVersion isIPv6
  domainRegex : ∀ i ∈ parsed.domainRegex, i.group = some .destinationAddress
  sourceIPCIDR : ∀ i ∈ parsed.sourceIPCIDR, ∃ ipSet, i = .ipCIDR true ipSet
  ipCIDR : ∀ i ∈ parsed.ipCIDR, ∃ ipSet, i = .ipCIDR false ipSet
  sourcePortRange : ∀ i ∈ parsed.sourcePortRange, i.group = some .sourcePort
  portRange : ∀ i ∈ parsed.portRange, i.group = some .destinationPort
  ipVersion_nil : parsed.ipVersion = [] ↔ ¬ o.ipVersion > 0
  domainRegex_nil : parsed.domainRegex = [] ↔ o.domainRegex = []
  sourceIPCIDR_nil : parsed.sourceIPCIDR = [] ↔ o.sourceIPCIDR = []
  ipCIDR_nil : parsed.ipCIDR = [] ↔ o.ipCIDR = []
  sourcePortRange_nil : parsed.sourcePortRange = [] ↔ o.sourcePortRange = []
  portRange_nil : parsed.portRange = [] ↔ o.portRange = []

variable {l : List String} {i : HeadlessItem}

lemma newDomainRegexItem_group (h : newDomainRegexItem lib l = .ok i) :
    i.group = some .destinationAddress := by
  obtain ⟨_, _, h⟩ := bind_eq_ok.1 h
  cases h
  rfl

variable {isSource : Bool}

lemma newIPCIDRItem_ok (h : newIPCIDRItem lib isSource l = .ok i) :
    ∃ ipSet, i = .ipCIDR isSource ipSet := by
  obtain ⟨_, _, h⟩ := bind_eq_ok.1 h
  cases h
  exact ⟨_, rfl⟩

lemma newPortRangeItem_group (h : newPortRangeItem lib isSource l = .ok i) :
    i.group = some (if isSource then .sourcePort else .destinationPort) := by
  obtain ⟨_, _, h⟩ := bind_eq_ok.1 h
  cases h
  rfl

structure ParsesTo (lib : Library) (name : String) (c : RuleConditions) (parsed : ParsedItems) : Prop where
  ipVersion : newIPVersionItem c.ipVersion = .ok parsed.ipVersion
  domainRegex : parseList "domain_regex" c.domainRegex (newDomainRegexItem lib) = .ok parsed.domainRegex
  sourceIPCIDR : parseList "source_ip_cidr" c.sourceIPCIDR (newIPCIDRItem lib true) = .ok parsed.sourceIPCIDR
  ipCIDR : parseList name c.ipCIDR (newIPCIDRItem lib false) = .ok parsed.ipCIDR
  sourcePortRange :
    parseList "source_port_range" c.sourcePortRange (newPortRangeItem lib true) = .ok parsed.sourcePortRange
  portRange : parseList "port_range" c.portRange (newPortRangeItem lib false) = .ok parsed.portRange

lemma parseItems_eq_ok : parseItems lib name c = .ok parsed ↔ ParsesTo lib name c parsed := by
  constructor
  · intro h
    obtain ⟨ipVersion, h₁, h⟩ := bind_eq_ok.1 h
    obtain ⟨domainRegex, h₂, h⟩ := bind_eq_ok.1 h
    obtain ⟨sourceIPCIDR, h₃, h⟩ := bind_eq_ok.1 h
    obtain ⟨ipCIDR, h₄, h⟩ := bind_eq_ok.1 h
    obtain ⟨sourcePortRange, h₅, h⟩ := bind_eq_ok.1 h
    obtain ⟨portRange, h₆, h⟩ := bind_eq_ok.1 h
    cases h
    exact ⟨h₁, h₂, h₃, h₄, h₅, h₆⟩
  · rintro ⟨h₁, h₂, h₃, h₄, h₅, h₆⟩
    rw [parseItems, h₁, h₂, h₃, h₄, h₅, h₆]
    rfl

lemma parseItems_ok (h : parseItems lib name c = .ok parsed) : ParsedFor c parsed := by
  obtain ⟨h₁, h₂, h₃, h₄, h₅, h₆⟩ := parseItems_eq_ok.1 h
  exact
    { ipVersion := (newIPVersionItem_ok h₁).1
      domainRegex := fun i hi => newDomainRegexItem_group ((parseList_ok h₂).1 i hi)
      sourceIPCIDR := fun i hi => newIPCIDRItem_ok ((parseList_ok h₃).1 i hi)
      ipCIDR := fun i hi => newIPCIDRItem_ok ((parseList_ok h₄).1 i hi)
      sourcePortRange := fun i hi => newPortRangeItem_group ((parseList_ok h₅).1 i hi)
      portRange := fun i hi => newPortRangeItem_group ((parseList_ok h₆).1 i hi)
      ipVersion_nil := (newIPVersionItem_ok h₁).2
      domainRegex_nil := (parseList_ok h₂).2
      sourceIPCIDR_nil := (parseList_ok h₃).2
      ipCIDR_nil := (parseList_ok h₄).2
      sourcePortRange_nil := (parseList_ok h₅).2
      portRange_nil := (parseList_ok h₆).2 }

lemma placeItems_wellGrouped (hp : ParsedFor c parsed) {items : List RuleItem}
    (hi : ∀ i ∈ items, i.group = none) : WellGrouped (placeItems lib c parsed items) := by
  refine ⟨hi, fun g => ?_⟩
  have hd : ∀ i ∈ newDomainItem lib c.domain c.domainSuffix,
      i.group = some .destinationAddress := fun i hi => newDomainItem_group hi
  have hs : ∀ i ∈ parsed.sourceIPCIDR, i.group = some .sourceAddress := by
    intro i hi
    obtain ⟨_, rfl⟩ := hp.sourceIPCIDR i hi
    rfl
  have hip : ∀ i ∈ parsed.ipCIDR, i.group = some .destinationAddress := by
    intro i hi
    obtain ⟨_, rfl⟩ := hp.ipCIDR i hi
    rfl
  cases g with
  | sourceAddress =>
    simpa [placeItems, groupItems, forall_mem_fromList, forall_mem_fromFlag, or_imp,
      forall_and] using hs
  | sourcePort =>
    simpa [placeItems, groupItems, forall_mem_fromList, or_imp, forall_and]
      using hp.sourcePortRange
  | destinationAddress =>
    simpa [placeItems, groupItems, forall_mem_fromList, forall_mem_fromFlag, or_imp,
      forall_and] using ⟨hd, hp.domainRegex, hip⟩
  | destinationPort =>
    simpa [placeItems, groupItems, forall_mem_fromList, or_imp, forall_and]
      using hp.portRange

lemma ParsedFor.ipVersion_group (hp : ParsedFor c parsed) :
    ∀ i ∈ parsed.ipVersion, (RuleItem.plain i).group = none := by
  intro i hi
  obtain ⟨_, rfl⟩ := hp.ipVersion i hi
  rfl

lemma newDefaultRule_ok (h : newDefaultRule lib o = .ok r) :
    ∃ parsed, ParsedFor o.toRuleConditions parsed ∧
      r = placeItems lib o.toRuleConditions parsed (routeItems o parsed) := by
  obtain ⟨parsed, hp, h⟩ := bind_eq_ok.1 h
  cases h
  exact ⟨parsed, parseItems_ok hp, rfl⟩

lemma newDefaultRule_wellGrouped (h : newDefaultRule lib o = .ok r) : WellGrouped r := by
  obtain ⟨parsed, hp, rfl⟩ := newDefaultRule_ok h
  apply placeItems_wellGrouped hp
  simpa [routeItems, forall_mem_append, forall_mem_fromList, forall_mem_fromFlag,
    RuleItem.group, HeadlessItem.group, or_imp, forall_and] using hp.ipVersion_group

def DefaultRuleOptions.hasCondition (o : DefaultRuleOptions) : Bool :=
  !o.inbound.isEmpty || decide (o.ipVersion > 0) || !o.network.isEmpty || !o.authUser.isEmpty ||
    !o.protocol.isEmpty || !o.client.isEmpty || !o.domain.isEmpty || !o.domainSuffix.isEmpty ||
    !o.domainKeyword.isEmpty || !o.domainRegex.isEmpty || !o.geosite.isEmpty ||
    !o.sourceGeoIP.isEmpty || !o.geoIP.isEmpty || !o.sourceIPCIDR.isEmpty || o.sourceIPIsPrivate ||
    !o.ipCIDR.isEmpty || o.ipIsPrivate || !o.sourcePort.isEmpty || !o.sourcePortRange.isEmpty ||
    !o.port.isEmpty || !o.portRange.isEmpty || !o.processName.isEmpty || !o.processPath.isEmpty ||
    !o.packageName.isEmpty || !o.user.isEmpty || !o.userID.isEmpty || !o.clashMode.isEmpty ||
    !o.wifiSSID.isEmpty || !o.wifiBSSID.isEmpty || !o.ruleSet.isEmpty || o.fakeIP

lemma newDefaultRule_isEmpty (h : newDefaultRule lib o = .ok r) (ho : o.hasCondition = true) :
    r.allItems.isEmpty = false := by
  obtain ⟨parsed, hp, rfl⟩ := newDefaultRule_ok h
  cases he : (placeItems lib o.toRuleConditions parsed (routeItems o parsed)).allItems.isEmpty with
  | false => rfl
  | true =>
    simp only [placeItems, routeItems, allItems, flatten_cons, List.isEmpty_iff,
      append_eq_nil_iff,
      map_eq_nil_iff, fromList_eq_nil, fromFlag_eq_nil, newDomainItem_eq_nil, hp.ipVersion_nil,
      hp.domainRegex_nil, hp.sourceIPCIDR_nil, hp.ipCIDR_nil, hp.sourcePortRange_nil,
      hp.portRange_nil] at he
    simp [DefaultRuleOptions.hasCondition, he] at ho

lemma newDefaultRule_ruleSets (h : newDefaultRule lib o = .ok r) (ho : o.ruleSet = []) :
    ∀ i ∈ r.items, i.isRuleSet = false := by
  obtain ⟨parsed, hp, rfl⟩ := newDefaultRule_ok h
  simp [placeItems, routeItems, ho, fromList, forall_mem_fromFlag, RuleItem.isRuleSet, or_imp, forall_and]

end NewDefaultRule

end SingBox.Route
