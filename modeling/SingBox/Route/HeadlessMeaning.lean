import SingBox.Route.HeadlessBuilder

namespace SingBox.Route

open Lib.Errors Lib.LogicTree List DefaultRule HeadlessRule

inductive Condition where
  | queryType
  | network
  | domain
  | domainKeyword
  | domainRegex
  | adGuardDomain
  | ipCIDR
  | port
  | portRange
  | sourceIPCIDR
  | sourcePort
  | sourcePortRange
  | processName
  | processPath
  | packageName
  | wifiSSID
  | wifiBSSID
  deriving DecidableEq

namespace Condition

def groups : List (List Condition) :=
  [[queryType], [network], [domain, domainKeyword, domainRegex, adGuardDomain, ipCIDR], [port, portRange],
    [sourceIPCIDR], [sourcePort, sourcePortRange], [processName], [processPath], [packageName], [wifiSSID],
    [wifiBSSID]]

def Declared (o : DefaultHeadlessOptions) : Condition → Prop
  | queryType => o.queryType.values ≠ []
  | network => o.network.values ≠ []
  | domain => o.domain.values ≠ [] ∨ o.domainSuffix.values ≠ [] ∨ o.domainMatcher.isSome
  | domainKeyword => o.domainKeyword.values ≠ []
  | domainRegex => o.domainRegex.values ≠ []
  | adGuardDomain => o.adGuardDomain.values ≠ [] ∨ o.adGuardDomainMatcher.isSome
  | ipCIDR => o.ipCIDR.values ≠ [] ∨ o.ipSet.isSome
  | port => o.port.values ≠ []
  | portRange => o.portRange.values ≠ []
  | sourceIPCIDR => o.sourceIPCIDR.values ≠ [] ∨ o.sourceIPSet.isSome
  | sourcePort => o.sourcePort.values ≠ []
  | sourcePortRange => o.sourcePortRange.values ≠ []
  | processName => o.processName.values ≠ []
  | processPath => o.processPath.values ≠ []
  | packageName => o.packageName.values ≠ []
  | wifiSSID => o.wifiSSID.values ≠ []
  | wifiBSSID => o.wifiBSSID.values ≠ []

variable (lib : Library) (env : Env) (o : DefaultHeadlessOptions) (m : InboundContext)

def domainNames : Option (String → Bool) :=
  if o.domain.values = [] ∧ o.domainSuffix.values = [] then o.domainMatcher.map DomainMatcher.accepts
  else some (lib.newMatcher o.domain.values o.domainSuffix.values)

def adGuardNames : Option (String → Bool) :=
  if o.adGuardDomain.values = [] then o.adGuardDomainMatcher
  else some (lib.newAdGuardMatcher o.adGuardDomain.values)

def addressSet (prefixStrings : List String) (ipSet : Option (List IPRange)) : Option (List IPRange) :=
  if prefixStrings = [] then ipSet else (HeadlessItem.parseIPSet lib prefixStrings).toOption

def HostIn (host : String) (names : String → Prop) : Prop := host ≠ "" ∧ names (env.toLower host)

def ProcessIn (text : ProcessInfo → String) (shown : String → String) (values : List String) : Prop :=
  ∃ info, m.processInfo = some info ∧ text info ≠ "" ∧ shown (text info) ∈ values

def InRanges (values : List String) (p : UInt16) : Prop :=
  ∃ text ∈ values, ∃ range, HeadlessItem.parsePortRange lib text = .ok range ∧
    range.start ≤ p ∧ p ≤ range.stop

def DestinationIn (ipSet : List IPRange) : Prop := match m.destination.addr with
  | some addr => lib.contains ipSet (some addr) = true
  | none => ∃ addr ∈ m.destinationAddresses, lib.contains ipSet (some addr) = true

def Holds : Condition → Prop
  | queryType => m.queryType ≠ 0 ∧ m.queryType ∈ o.queryType.values
  | network => m.network ∈ o.network.values
  | domain => ∃ names, domainNames lib o = some names ∧
      HostIn env (domainHost env m) fun host => names host = true
  | domainKeyword => HostIn env (domainHost env m) fun host =>
      ∃ keyword ∈ o.domainKeyword.values, env.containsText host keyword = true
  | domainRegex => HostIn env (domainHost env m) fun host =>
      ∃ expression ∈ o.domainRegex.values, ∃ matcher, lib.compileRegex expression = .ok matcher ∧
        matcher host = true
  | adGuardDomain => ∃ names, adGuardNames lib o = some names ∧
      HostIn env (adGuardDomainHost m) fun host => names host = true
  | ipCIDR => ∃ ipSet, addressSet lib o.ipCIDR.values o.ipSet = some ipSet ∧ DestinationIn lib m ipSet
  | port => m.destination.port ∈ o.port.values
  | portRange => InRanges lib o.portRange.values m.destination.port
  | sourceIPCIDR => ∃ ipSet, addressSet lib o.sourceIPCIDR.values o.sourceIPSet = some ipSet ∧
      lib.contains ipSet m.source.addr = true
  | sourcePort => m.source.port ∈ o.sourcePort.values
  | sourcePortRange => InRanges lib o.sourcePortRange.values m.source.port
  | processName => ProcessIn m ProcessInfo.processPath env.baseName o.processName.values
  | processPath => ProcessIn m ProcessInfo.processPath id o.processPath.values
  | packageName => ProcessIn m ProcessInfo.packageName id o.packageName.values
  | wifiSSID => env.wifiSSID ∈ o.wifiSSID.values
  | wifiBSSID => env.wifiBSSID ∈ o.wifiBSSID.values

def Tested (c : Condition) : Prop :=
  c.Declared o ∧ c ≠ queryType ∧ ¬ (c = ipCIDR ∧ m.ignoreDestinationIPCIDRMatch = true)

def Passes (T : Condition → Prop) : Prop :=
  ∀ group ∈ groups, (∃ c ∈ group, T c) → ∃ c ∈ group, T c ∧ c.Holds lib env o m

end Condition

section Items

variable {lib : Library} {env : Env} {m : InboundContext} {items : List HeadlessItem}
  {declared holds : Prop}

variable (env m items declared holds) in
structure Stands : Prop where
  single : declared → ∃ i, items = [i] ∧ (i.holds env m = true ↔ holds)
  nil : ¬ declared → items = []

lemma Stands.ne_nil (h : Stands env m items declared holds) : items ≠ [] ↔ declared := by
  by_cases hd : declared
  · obtain ⟨i, rfl, -⟩ := h.single hd
    exact iff_of_true (cons_ne_nil _ _) hd
  · exact iff_of_false (not_not.2 (h.nil hd)) hd

lemma Stands.any (h : Stands env m items declared holds) :
    (∃ i ∈ items, i.holds env m = true) ↔ declared ∧ holds := by
  by_cases hd : declared
  · obtain ⟨i, rfl, hi⟩ := h.single hd
    simp [hd, hi]
  · simp [h.nil hd, hd]

lemma Stands.all (h : Stands env m items declared holds) :
    (∀ i ∈ items, i.holds env m = true) ↔ (declared → holds) := by
  by_cases hd : declared
  · obtain ⟨i, rfl, hi⟩ := h.single hd
    simp [hd, hi]
  · simp [h.nil hd, hd]

variable {α : Type}

lemma stands_fromList (values : List α) (item : List α → HeadlessItem)
    (h : (item values).holds env m = true ↔ holds) :
    Stands env m (fromList values item) (values ≠ []) holds := by
  cases values with
  | nil => exact ⟨fun hd => absurd rfl hd, fun _ => rfl⟩
  | cons a l => exact ⟨fun _ => ⟨_, rfl, h⟩, fun hd => absurd (cons_ne_nil a l) hd⟩

variable {name : String}

lemma stands_parsed {values : List String} {item : List String → Except String HeadlessItem}
    (hparsed : parseList name values item = .ok items)
    (h : ∀ i, item values = .ok i → (i.holds env m = true ↔ holds)) :
    Stands env m items (values ≠ []) holds := by
  cases values with
  | nil =>
    cases hparsed
    exact ⟨fun hd => absurd rfl hd, fun _ => rfl⟩
  | cons a l =>
    obtain ⟨i, hi, rfl⟩ := parseList_cons.1 hparsed
    exact ⟨fun _ => ⟨i, rfl, h i hi⟩, fun hd => absurd (cons_ne_nil a l) hd⟩

open Condition HeadlessItem

lemma matchHost_iff (host : String) (matcher : String → Bool) :
    matchHost env host matcher = true ↔ HostIn env host fun host => matcher host = true := by
  simp [matchHost, HostIn]

lemma hostIn_congr {host : String} {names names' : String → Prop} (h : ∀ host, names host ↔ names' host) :
    HostIn env host names ↔ HostIn env host names' :=
  and_congr_right fun _ => h _

lemma domainKeyword_holds (keywords : List String) :
    (HeadlessItem.domainKeyword keywords).holds env m = true ↔ HostIn env (domainHost env m) fun host =>
      ∃ keyword ∈ keywords, env.containsText host keyword = true := by
  rw [HeadlessItem.holds, matchHost_iff]
  exact hostIn_congr fun host => any_eq_true

variable {i : HeadlessItem}

lemma newDomainRegexItem_holds {expressions : List String}
    (h : newDomainRegexItem lib expressions = .ok i) :
    i.holds env m = true ↔ HostIn env (domainHost env m) fun host =>
      ∃ expression ∈ expressions, ∃ matcher, lib.compileRegex expression = .ok matcher ∧
        matcher host = true := by
  obtain ⟨matchers, hmatchers, rfl⟩ := newDomainRegexItem_eq_ok.1 h
  rw [HeadlessItem.holds, matchHost_iff]
  refine hostIn_congr fun host => ?_
  rw [any_eq_true]
  exact exists_mem_forall₂ hmatchers

variable {isSource : Bool}

lemma newPortRangeItem_holds {rangeList : List String}
    (h : newPortRangeItem lib isSource rangeList = .ok i) : i.holds env m = true ↔
      InRanges lib rangeList (if isSource then m.source.port else m.destination.port) := by
  obtain ⟨ranges, hranges, hi⟩ := bind_eq_ok.1 h
  cases hi
  have hparsed := (mapFrom_eq_ok (g := parsePortRange lib) fun _ _ _ => Iff.rfl).1 hranges
  simp only [HeadlessItem.holds, any_eq_true, Bool.and_eq_true, decide_eq_true_eq]
  exact exists_mem_forall₂ hparsed

lemma processInfo_iff (text : ProcessInfo → String) (shown : String → String) (values : List String) :
    (m.processInfo.any fun info => text info != "" && values.contains (shown (text info))) = true ↔
      ProcessIn m text shown values := by
  simp [ProcessIn, Option.any_eq_true]

lemma ipCIDRHolds_reset (ipSet : List IPRange) :
    ipCIDRHolds false (lib.contains ipSet) m.resetRuleCache = true ↔ DestinationIn lib m ipSet := by
  rw [ipCIDRHolds, DestinationIn]
  cases haddr : m.destination.addr with
  | some addr => simp [InboundContext.resetRuleCache, Socksaddr.isIP, haddr]
  | none => cases haddrs : m.destinationAddresses <;>
      simp [InboundContext.resetRuleCache, Socksaddr.isIP, haddr, haddrs]

lemma stands_option {x : Option α} {item : α → HeadlessItem} {P : α → Prop}
    (hdeclared : x.isSome = true ↔ declared) (h : ∀ a, (item a).holds env m = true ↔ P a) :
    Stands env m (x.map item).toList declared (∃ a, x = some a ∧ P a) := by
  cases x with
  | none => exact ⟨fun hd => absurd (hdeclared.2 hd) (by simp), fun _ => rfl⟩
  | some a => exact ⟨fun _ => ⟨item a, rfl, by simp [h a]⟩, fun hd => absurd (hdeclared.1 rfl) hd⟩

lemma stands_domain (o : DefaultHeadlessOptions) :
    Stands env m (domainItems lib o.domain.values o.domainSuffix.values o.domainMatcher)
      (Condition.domain.Declared o) (Condition.domain.Holds lib env o m) := by
  have hitems : domainItems lib o.domain.values o.domainSuffix.values o.domainMatcher =
      ((domainNames lib o).map HeadlessItem.domain).toList := by
    rw [domainItems, domainNames]
    by_cases h : o.domain.values = [] ∧ o.domainSuffix.values = []
    · simp only [h, isEmpty_nil, Bool.not_true, Bool.or_self, Bool.false_eq_true, if_false, and_self,
        if_true, Option.map_map]
      rfl
    · simp [h, newDomainItem, ← not_and_or]
  rw [hitems]
  refine stands_option ?_ fun names => matchHost_iff _ _
  rw [domainNames]
  split_ifs with h
  · simp [Declared, h]
  · rw [not_and_or] at h
    exact iff_of_true rfl (h.imp_right .inl)

lemma stands_adGuard (o : DefaultHeadlessOptions) :
    Stands env m (adGuardItems lib o.adGuardDomain.values o.adGuardDomainMatcher)
      (Condition.adGuardDomain.Declared o) (Condition.adGuardDomain.Holds lib env o m) := by
  have hitems : adGuardItems lib o.adGuardDomain.values o.adGuardDomainMatcher =
      ((adGuardNames lib o).map HeadlessItem.adGuardDomain).toList := by
    rw [adGuardItems, adGuardNames]
    by_cases h : o.adGuardDomain.values = [] <;> simp [h]
  rw [hitems]
  refine stands_option ?_ fun names => matchHost_iff _ _
  rw [adGuardNames]
  by_cases h : o.adGuardDomain.values = [] <;> simp [Declared, h]

lemma stands_addresses {prefixStrings : List String} {ipSet : Option (List IPRange)}
    (h : ipCIDRItems lib name isSource prefixStrings ipSet = .ok items) {In : List IPRange → Prop}
    (hin : ∀ ipSet, ipCIDRHolds isSource (lib.contains ipSet) m = true ↔ In ipSet) :
    Stands env m items (prefixStrings ≠ [] ∨ ipSet.isSome)
      (∃ set, addressSet lib prefixStrings ipSet = some set ∧ In set) := by
  have hitems : items = ((addressSet lib prefixStrings ipSet).map (newRawIPCIDRItem lib isSource)).toList ∧
      ((addressSet lib prefixStrings ipSet).isSome = true ↔ prefixStrings ≠ [] ∨ ipSet.isSome = true) := by
    rw [ipCIDRItems] at h
    rw [addressSet]
    cases prefixStrings with
    | nil =>
      cases h
      simp
    | cons text rest =>
      obtain ⟨i, hi, rfl⟩ := parseList_cons.1 h
      obtain ⟨set, hset, hi⟩ := bind_eq_ok.1 hi
      cases hi
      rw [hset]
      simp [newRawIPCIDRItem, Except.toOption]
  rw [hitems.1]
  exact stands_option hitems.2 hin

end Items

section Built

open Condition

variable {lib : Library} {env : Env} {m : InboundContext} {o : DefaultHeadlessOptions}
  {r : DefaultRule HeadlessItem}

structure Placed (lib : Library) (env : Env) (o : DefaultHeadlessOptions) (m : InboundContext)
    (r : DefaultRule HeadlessItem) (built : Condition → List HeadlessItem) : Prop where
  invert : r.invert = o.invert
  items : r.items = flatten
    [built .network, built .processName, built .processPath, built .packageName, built .wifiSSID,
      built .wifiBSSID]
  sourceAddressItems : r.sourceAddressItems = built .sourceIPCIDR
  sourcePortItems : r.sourcePortItems = built .sourcePort ++ built .sourcePortRange
  destinationAddressItems : r.destinationAddressItems = flatten
    [built .domain, built .domainKeyword, built .domainRegex, built .adGuardDomain]
  destinationIPCIDRItems : r.destinationIPCIDRItems = built .ipCIDR
  destinationPortItems : r.destinationPortItems = built .port ++ built .portRange
  stands : ∀ c ≠ queryType, Stands env m.resetRuleCache (built c) (c.Declared o) (c.Holds lib env o m)

def builtItems (lib : Library) (o : DefaultHeadlessOptions)
    (domainRegex sourceIPCIDR ipCIDR sourcePortRange portRange : List HeadlessItem) :
    Condition → List HeadlessItem
  | .queryType => []
  | .network => fromList o.network.values .network
  | .domain => domainItems lib o.domain.values o.domainSuffix.values o.domainMatcher
  | .domainKeyword => fromList o.domainKeyword.values .domainKeyword
  | .domainRegex => domainRegex
  | .adGuardDomain => adGuardItems lib o.adGuardDomain.values o.adGuardDomainMatcher
  | .ipCIDR => ipCIDR
  | .port => fromList o.port.values (.port false)
  | .portRange => portRange
  | .sourceIPCIDR => sourceIPCIDR
  | .sourcePort => fromList o.sourcePort.values (.port true)
  | .sourcePortRange => sourcePortRange
  | .processName => fromList o.processName.values .processName
  | .processPath => fromList o.processPath.values .processPath
  | .packageName => fromList o.packageName.values .packageName
  | .wifiSSID => fromList o.wifiSSID.values .wifiSSID
  | .wifiBSSID => fromList o.wifiBSSID.values .wifiBSSID

variable (env m) in
lemma newDefaultHeadlessRule_placed (h : newDefaultHeadlessRule lib true o = .ok r) :
    ∃ built, Placed lib env o m r built := by
  obtain ⟨domainRegex, hregex, h⟩ := bind_eq_ok.1 h
  obtain ⟨sourceIPCIDR, hsource, h⟩ := bind_eq_ok.1 h
  obtain ⟨ipCIDR, hip, h⟩ := bind_eq_ok.1 h
  obtain ⟨sourcePortRange, hsourceRange, h⟩ := bind_eq_ok.1 h
  obtain ⟨portRange, hrange, h⟩ := bind_eq_ok.1 h
  cases h
  refine ⟨builtItems lib o domainRegex sourceIPCIDR ipCIDR sourcePortRange portRange,
    rfl, rfl, rfl, rfl, rfl, rfl, rfl, fun c hc => ?_⟩
  cases c with
  | queryType => exact absurd rfl hc
  | network => exact stands_fromList _ _ contains_iff_mem
  | domain => exact stands_domain o
  | domainKeyword => exact stands_fromList _ _ (domainKeyword_holds _)
  | domainRegex => exact stands_parsed hregex fun i hi => newDomainRegexItem_holds hi
  | adGuardDomain => exact stands_adGuard o
  | ipCIDR => exact stands_addresses hip ipCIDRHolds_reset
  | port => exact stands_fromList _ _ contains_iff_mem
  | portRange => exact stands_parsed hrange fun i hi => newPortRangeItem_holds hi
  | sourceIPCIDR => exact stands_addresses hsource fun ipSet => Iff.rfl
  | sourcePort => exact stands_fromList _ _ contains_iff_mem
  | sourcePortRange => exact stands_parsed hsourceRange fun i hi => newPortRangeItem_holds hi
  | processName => exact stands_fromList _ _ (processInfo_iff _ _ _)
  | processPath => exact stands_fromList _ _ (processInfo_iff _ id _)
  | packageName => exact stands_fromList _ _ (processInfo_iff _ id _)
  | wifiSSID => exact stands_fromList _ _ contains_iff_mem
  | wifiBSSID => exact stands_fromList _ _ contains_iff_mem

def single : List Condition :=
  [.network, .processName, .processPath, .packageName, .wifiSSID, .wifiBSSID]

def members : Group → List Condition
  | .sourceAddress => [.sourceIPCIDR]
  | .sourcePort => [.sourcePort, .sourcePortRange]
  | .destinationAddress => [.domain, .domainKeyword, .domainRegex, .adGuardDomain, .ipCIDR]
  | .destinationPort => [.port, .portRange]

lemma passes_iff {T : Condition → Prop} (hT : ¬ T .queryType) :
    Passes lib env o m T ↔ (∀ c ∈ single, T c → c.Holds lib env o m) ∧
      ∀ g, (∃ c ∈ members g, T c) → ∃ c ∈ members g, T c ∧ c.Holds lib env o m := by
  constructor
  · intro h
    refine ⟨fun c hc ht => ?_, fun g => h _ (by cases g <;> decide)⟩
    have hgroup : ∀ c ∈ single, [c] ∈ groups := by decide
    obtain ⟨c', hc', -, hholds⟩ := h [c] (hgroup c hc) ⟨c, mem_singleton_self c, ht⟩
    rwa [mem_singleton.1 hc'] at hholds
  · rintro ⟨hsingle, hgroups⟩ group hgroup hex
    have hcases : ∀ group ∈ groups, group = [.queryType] ∨ (∃ c ∈ single, group = [c]) ∨
        ∃ g ∈ Group.all, group = members g := by decide
    obtain rfl | ⟨c, hc, rfl⟩ | ⟨g, -, rfl⟩ := hcases group hgroup
    · obtain ⟨c, hc, ht⟩ := hex
      rw [mem_singleton.1 hc] at ht
      exact absurd ht hT
    · obtain ⟨c', hc', ht⟩ := hex
      rw [mem_singleton.1 hc'] at ht
      exact ⟨c, mem_singleton_self c, ht, hsingle c hc ht⟩
    · exact hgroups g hex

namespace Placed

variable {built : Condition → List HeadlessItem}

def tested (built : Condition → List HeadlessItem) (ignore : Bool) (c : Condition) : List HeadlessItem :=
  if c = .ipCIDR ∧ ignore = true then [] else built c

variable (h : Placed lib env o m r built)

include h

lemma tested_stands {c : Condition} (hc : c ≠ .queryType) :
    Stands env m.resetRuleCache (tested built m.ignoreDestinationIPCIDRMatch c) (c.Tested o m)
      (c.Holds lib env o m) := by
  by_cases hignore : c = .ipCIDR ∧ m.ignoreDestinationIPCIDRMatch = true
  · rw [tested, if_pos hignore]
    exact ⟨fun ht => absurd hignore ht.2.2, fun _ => rfl⟩
  · rw [tested, if_neg hignore]
    have hiff : c.Tested o m ↔ c.Declared o := ⟨fun ht => ht.1, fun hd => ⟨hd, hc, hignore⟩⟩
    rw [hiff]
    exact h.stands c hc

lemma items_eq : r.items = single.flatMap (tested built m.ignoreDestinationIPCIDRMatch) := by
  rw [h.items]
  simp [single, tested]

lemma groupItems_eq (g : Group) : r.groupItems m.ignoreDestinationIPCIDRMatch g =
    (members g).flatMap (tested built m.ignoreDestinationIPCIDRMatch) := by
  cases g <;> cases m.ignoreDestinationIPCIDRMatch <;>
    simp [groupItems, members, tested, h.sourceAddressItems, h.sourcePortItems,
      h.destinationAddressItems, h.destinationIPCIDRItems, h.destinationPortItems]

lemma flatMap_ne_nil {cs : List Condition} (hcs : .queryType ∉ cs) :
    cs.flatMap (tested built m.ignoreDestinationIPCIDRMatch) ≠ [] ↔ ∃ c ∈ cs, c.Tested o m := by
  simp only [ne_eq, flatMap_eq_nil_iff, not_forall]
  refine exists_congr fun c => ?_
  rw [exists_prop]
  refine and_congr_right fun hc => (h.tested_stands ?_).ne_nil
  rintro rfl
  exact hcs hc

lemma declares_iff (g : Group) :
    r.declares m.ignoreDestinationIPCIDRMatch g = true ↔ ∃ c ∈ members g, c.Tested o m := by
  rw [declares_eq, h.groupItems_eq, ← h.flatMap_ne_nil (by cases g <;> decide)]
  simp

lemma satisfies_iff (g : Group) :
    r.satisfies m.ignoreDestinationIPCIDRMatch (fun i => i.holds env m.resetRuleCache) g = true ↔
      ∃ c ∈ members g, c.Tested o m ∧ c.Holds lib env o m := by
  have hmembers : ∀ c ∈ members g, c ≠ .queryType := by cases g <;> decide
  rw [satisfies, h.groupItems_eq, any_eq_true]
  constructor
  · rintro ⟨i, hi, hholds⟩
    obtain ⟨c, hc, hi⟩ := mem_flatMap.1 hi
    exact ⟨c, hc, (h.tested_stands (hmembers c hc)).any.1 ⟨i, hi, hholds⟩⟩
  · rintro ⟨c, hc, hholds⟩
    obtain ⟨i, hi, hholds⟩ := (h.tested_stands (hmembers c hc)).any.2 hholds
    exact ⟨i, mem_flatMap.2 ⟨c, hc, hi⟩, hholds⟩

lemma items_iff : (∀ i ∈ r.items, i.holds env m.resetRuleCache = true) ↔
    ∀ c ∈ single, c.Tested o m → c.Holds lib env o m := by
  have hsingle : ∀ c ∈ single, c ≠ .queryType := by decide
  rw [h.items_eq]
  constructor
  · intro hall c hc
    exact (h.tested_stands (hsingle c hc)).all.1 fun i hi => hall i (mem_flatMap.2 ⟨c, hc, hi⟩)
  · intro hall i hi
    obtain ⟨c, hc, hi⟩ := mem_flatMap.1 hi
    exact (h.tested_stands (hsingle c hc)).all.2 (hall c hc) i hi

lemma completes_iff :
    r.completes m.ignoreDestinationIPCIDRMatch (fun i => i.holds env m.resetRuleCache) {} = true ↔
      Passes lib env o m (Tested o m) := by
  rw [DefaultRule.completes_iff, passes_iff fun ht => ht.2.1 rfl, h.items_iff]
  simp only [h.declares_iff, h.satisfies_iff, Bool.false_eq_true, false_or]

lemma idle_iff : r.idle m.ignoreDestinationIPCIDRMatch = true ↔ ¬ ∃ c, Tested o m c := by
  rw [idle, Bool.and_eq_true, List.isEmpty_iff, all_eq_true]
  constructor
  · rintro ⟨hitems, hgroups⟩ ⟨c, ht⟩
    have hcases : c ∈ single ∨ ∃ g, c ∈ members g := by
      cases c with
      | queryType => exact absurd rfl ht.2.1
      | domain | domainKeyword | domainRegex | adGuardDomain | ipCIDR =>
        exact .inr ⟨.destinationAddress, by decide⟩
      | port | portRange => exact .inr ⟨.destinationPort, by decide⟩
      | sourceIPCIDR => exact .inr ⟨.sourceAddress, by decide⟩
      | sourcePort | sourcePortRange => exact .inr ⟨.sourcePort, by decide⟩
      | network | processName | processPath | packageName | wifiSSID | wifiBSSID => exact .inl (by decide)
    obtain hc | ⟨g, hc⟩ := hcases
    · rw [h.items_eq] at hitems
      exact (h.flatMap_ne_nil (by decide)).2 ⟨c, hc, ht⟩ hitems
    · have hg := hgroups g (Group.mem_all g)
      rw [(h.declares_iff g).2 ⟨c, hc, ht⟩] at hg
      cases hg
  · intro hnone
    refine ⟨?_, fun g _ => ?_⟩
    · rw [h.items_eq]
      by_contra hne
      obtain ⟨c, -, ht⟩ := (h.flatMap_ne_nil (by decide)).1 hne
      exact hnone ⟨c, ht⟩
    · by_contra hdeclares
      obtain ⟨c, -, ht⟩ := (h.declares_iff g).1 (by simpa using hdeclares)
      exact hnone ⟨c, ht⟩

lemma verdict_iff (hfallback : m.dnsFallBack = false) (hfilter : m.fakeIPFilter = false) :
    DefaultHeadlessRule.verdict env r m.resetRuleCache = true ↔
      ((∃ c, Tested o m c) → Xor (Passes lib env o m (Tested o m)) (o.invert = true)) := by
  have hempty : r.allItems.isEmpty = true → r.idle m.ignoreDestinationIPCIDRMatch = true := by
    simp +contextual [allItems, idle, declares, Group.all]
  have hverdict : DefaultHeadlessRule.verdict env r m.resetRuleCache =
      (r.idle m.ignoreDestinationIPCIDRMatch || r.completes m.ignoreDestinationIPCIDRMatch
        (fun i => i.holds env m.resetRuleCache) {} != r.invert) := by
    rw [DefaultHeadlessRule.verdict, verdict, InboundContext.resetRuleCache_dnsFallBack, hfallback,
      InboundContext.resetRuleCache_fakeIPFilter, hfilter, InboundContext.resetRuleCache_flags,
      flagsAfter_didMatch MatchFlags.coherent_empty, InboundContext.resetRuleCache_ignore]
    cases hidle : r.idle m.ignoreDestinationIPCIDRMatch with
    | true => simp [idle_completes hidle]
    | false =>
      have hne : r.allItems.isEmpty = false := by
        rw [← Bool.not_eq_true]
        intro he
        rw [hempty he] at hidle
        cases hidle
      rw [hne]
      cases r.completes _ _ _ <;> simp
  rw [hverdict, Bool.or_eq_true, h.idle_iff, ← imp_iff_not_or, h.invert]
  refine imp_congr_right fun _ => ?_
  rw [← h.completes_iff]
  cases r.completes m.ignoreDestinationIPCIDRMatch _ _ <;> cases o.invert <;> simp [xor_def]

end Placed

end Built

open Condition in
theorem headless_rule_semantics_iff (lib : Library) (env : Env) (o : DefaultHeadlessOptions)
    (m : InboundContext) (r : HeadlessRule)
    (h : (HeadlessRuleOptions.default o).newHeadlessRule lib true = .ok r)
    (hfallback : m.dnsFallBack = false) (hfilter : m.fakeIPFilter = false) :
    ((matchRule env r m.resetRuleCache).1 = true ↔
        Xor (Passes lib env o m (Declared o)) (o.invert = true)) ↔
      ((∃ c, Tested o m c) → (Passes lib env o m (Declared o) ↔ Passes lib env o m (Tested o m))) ∧
        ((¬ ∃ c, Tested o m c) → (Passes lib env o m (Declared o) ↔ o.invert = false)) := by
  rw [HeadlessRuleOptions.newHeadlessRule] at h
  split_ifs at h
  obtain ⟨r, hbuilt, h⟩ := bind_eq_ok.1 h
  cases h
  obtain ⟨built, hplaced⟩ := newDefaultHeadlessRule_placed env m hbuilt
  rw [matchRule_eq, answer, hplaced.verdict_iff hfallback hfilter]
  by_cases htested : ∃ c, Tested o m c
  · simp only [htested, forall_true_left, not_true_eq_false, false_imp_iff, and_true]
    cases o.invert <;> simp [xor_def, iff_comm, not_iff_not]
  · simp only [htested, false_imp_iff, true_iff, true_and, not_false_eq_true, forall_true_left]
    cases o.invert <;> simp [xor_def]

def nameRule : DefaultHeadlessOptions := { domain := some ["a"] }

def nameRuleBuilt : HeadlessRule :=
  .leaf { destinationAddressItems := [.domain (Library.bare.newMatcher ["a"] [])] }

open Condition in
theorem headless_rule_semantics_name :
    (HeadlessRuleOptions.default nameRule).newHeadlessRule .bare true = .ok nameRuleBuilt ∧
      ((matchRule .bare nameRuleBuilt
          (InboundContext.resetRuleCache { domain := "a" })).1 = true ↔
        Xor (Passes .bare .bare nameRule { domain := "a" } (Declared nameRule))
          (nameRule.invert = true)) := by
  refine ⟨rfl, (headless_rule_semantics_iff .bare .bare nameRule { domain := "a" } _ rfl rfl rfl).2 ?_⟩
  have hsame : Tested nameRule { domain := "a" } = Declared nameRule := by
    ext c
    refine ⟨fun ht => ht.1, fun hd => ⟨hd, ?_, by simp⟩⟩
    rintro rfl
    exact hd rfl
  refine ⟨fun _ => by rw [hsame], fun hnone => absurd ⟨.domain, ?_⟩ hnone⟩
  rw [hsame]
  exact .inl (cons_ne_nil _ _)

theorem headless_rule_query_type_lost :
    (HeadlessRuleOptions.default { nameRule with queryType := some [1] }).newHeadlessRule .bare true =
        .ok nameRuleBuilt ∧
      (matchRule .bare nameRuleBuilt
        (InboundContext.resetRuleCache { domain := "a", queryType := 28 })).1 = true ∧
      ¬ Condition.Holds .bare .bare { nameRule with queryType := some [1] }
        { domain := "a", queryType := 28 } .queryType ∧
      (HeadlessRuleOptions.default { queryType := some [1], invert := true }).newHeadlessRule .bare true =
        .ok (.leaf { invert := true }) ∧
      (matchRule .bare (.leaf { invert := true })
        (InboundContext.resetRuleCache { queryType := 1 })).1 = true ∧
      Condition.Holds .bare .bare { queryType := some [1], invert := true } { queryType := 1 } .queryType := by
  refine ⟨rfl, by decide +kernel, ?_, rfl, by decide +kernel, ?_⟩
  · rintro ⟨-, h⟩
    cases h with
    | tail _ h => cases h
  · exact ⟨by decide, mem_cons_self⟩

end SingBox.Route
