import SingBox.Route.RuleBuilder

namespace SingBox.Route

open Lib.Errors Lib.LogicTree List

abbrev Listable (α : Type) := Option (List α)

def Listable.values {α : Type} (l : Listable α) : List α := l.getD []

/-- A compiled domain matcher stands for the names it accepts; `dump` is what `Dump` recovers. -/
structure DomainMatcher where
  accepts : String → Bool
  dump : List String × List String

structure DefaultHeadlessOptions where
  queryType : Listable UInt16 := none
  network : Listable String := none
  domain : Listable String := none
  domainSuffix : Listable String := none
  domainKeyword : Listable String := none
  domainRegex : Listable String := none
  sourceIPCIDR : Listable String := none
  ipCIDR : Listable String := none
  sourcePort : Listable UInt16 := none
  sourcePortRange : Listable String := none
  port : Listable UInt16 := none
  portRange : Listable String := none
  processName : Listable String := none
  processPath : Listable String := none
  packageName : Listable String := none
  wifiSSID : Listable String := none
  wifiBSSID : Listable String := none
  invert : Bool := false
  domainMatcher : Option DomainMatcher := none
  sourceIPSet : Option (List IPRange) := none
  ipSet : Option (List IPRange) := none
  adGuardDomain : Listable String := none
  adGuardDomainMatcher : Option (String → Bool) := none

inductive HeadlessRuleOptions where
  | default (options : DefaultHeadlessOptions)
  | logical (mode : String) (rules : List HeadlessRuleOptions) (invert : Bool)

namespace DefaultHeadlessOptions

def textLists (o : DefaultHeadlessOptions) : List (Listable String) :=
  [o.network, o.domain, o.domainSuffix, o.domainKeyword, o.domainRegex, o.sourceIPCIDR, o.ipCIDR,
    o.sourcePortRange, o.portRange, o.processName, o.processPath, o.packageName, o.wifiSSID,
    o.wifiBSSID, o.adGuardDomain]

def numberLists (o : DefaultHeadlessOptions) : List (Listable UInt16) :=
  [o.queryType, o.sourcePort, o.port]

/-- `reflect.DeepEqual` tells an empty list from a nil one. -/
def isValid (o : DefaultHeadlessOptions) : Bool :=
  o.textLists.any Option.isSome || o.numberLists.any Option.isSome || o.domainMatcher.isSome ||
    o.sourceIPSet.isSome || o.ipSet.isSome || o.adGuardDomainMatcher.isSome

def isIPCIDRHeadlessRule (o : DefaultHeadlessOptions) : Bool :=
  !o.ipCIDR.values.isEmpty || o.ipSet.isSome

def hasValues (o : DefaultHeadlessOptions) : Bool :=
  o.textLists.any (fun l => !l.values.isEmpty) || o.numberLists.any (fun l => !l.values.isEmpty)

structure Plain (o : DefaultHeadlessOptions) : Prop where
  domainMatcher : o.domainMatcher = none
  sourceIPSet : o.sourceIPSet = none
  ipSet : o.ipSet = none
  adGuardDomainMatcher : o.adGuardDomainMatcher = none

end DefaultHeadlessOptions

section Items

open HeadlessItem

def newRawDomainItem (matcher : DomainMatcher) : HeadlessItem := .domain matcher.accepts

def newRawIPCIDRItem (lib : Library) (isSource : Bool) (ipSet : List IPRange) : HeadlessItem :=
  .ipCIDR isSource (lib.contains ipSet)

def domainItems (lib : Library) (domains suffixes : List String) (matcher : Option DomainMatcher) :
    List HeadlessItem :=
  if !domains.isEmpty || !suffixes.isEmpty then newDomainItem lib domains suffixes
  else (matcher.map newRawDomainItem).toList

def ipCIDRItems (lib : Library) (name : String) (isSource : Bool) (prefixStrings : List String)
    (ipSet : Option (List IPRange)) : Except String (List HeadlessItem) :=
  if !prefixStrings.isEmpty then parseList name prefixStrings (newIPCIDRItem lib isSource)
  else .ok (ipSet.map (newRawIPCIDRItem lib isSource)).toList

def adGuardItems (lib : Library) (lines : List String) (matcher : Option (String → Bool)) :
    List HeadlessItem :=
  if !lines.isEmpty then [.adGuardDomain (lib.newAdGuardMatcher lines)]
  else (matcher.map adGuardDomain).toList

def newDefaultHeadlessRule (lib : Library) (hasRouter : Bool) (o : DefaultHeadlessOptions) :
    Except String (DefaultRule HeadlessItem) := do
  let domainRegex ← parseList "domain_regex" o.domainRegex.values (newDomainRegexItem lib)
  let sourceIPCIDR ← ipCIDRItems lib "source_ip_cidr" true o.sourceIPCIDR.values o.sourceIPSet
  let ipCIDR ← ipCIDRItems lib "ipcidr" false o.ipCIDR.values o.ipSet
  let sourcePortRange ←
    parseList "source_port_range" o.sourcePortRange.values (newPortRangeItem lib true)
  let portRange ← parseList "port_range" o.portRange.values (newPortRangeItem lib false)
  return {
    invert := o.invert
    items := flatten
      [fromList o.network.values .network, fromList o.processName.values .processName,
        fromList o.processPath.values .processPath, fromList o.packageName.values .packageName,
        if hasRouter then fromList o.wifiSSID.values .wifiSSID else [],
        if hasRouter then fromList o.wifiBSSID.values .wifiBSSID else []]
    sourceAddressItems := sourceIPCIDR
    sourcePortItems := fromList o.sourcePort.values (.port true) ++ sourcePortRange
    destinationAddressItems := flatten
      [domainItems lib o.domain.values o.domainSuffix.values o.domainMatcher,
        fromList o.domainKeyword.values .domainKeyword, domainRegex,
        adGuardItems lib o.adGuardDomain.values o.adGuardDomainMatcher]
    destinationIPCIDRItems := ipCIDR
    destinationPortItems := fromList o.port.values (.port false) ++ portRange }

lemma newDomainRegexItem_eq_ok {lib : Library} {expressions : List String} {item : HeadlessItem} :
    newDomainRegexItem lib expressions = .ok item ↔
      ∃ matchers, List.Forall₂ (fun e matcher => lib.compileRegex e = .ok matcher) expressions matchers ∧
        item = .domainRegex matchers := by
  rw [newDomainRegexItem, bind_eq_ok]
  refine exists_congr fun matchers => and_congr (mapFrom_eq_ok fun i e matcher => ?_) ?_
  · cases lib.compileRegex e <;> simp
  · exact ⟨fun h => (Except.ok.inj h).symm, fun h => h ▸ rfl⟩

end Items

namespace HeadlessRuleOptions

@[elab_as_elim]
theorem induction {P : HeadlessRuleOptions → Prop} (default : ∀ o, P (.default o))
    (logical : ∀ mode rules invert, (∀ rule ∈ rules, P rule) → P (.logical mode rules invert)) :
    ∀ rule, P rule
  | .default o => default o
  | .logical mode rules invert =>
    logical mode rules invert fun rule hrule =>
      have := sizeOf_lt_of_mem hrule
      induction default logical rule
decreasing_by
  rw [HeadlessRuleOptions.logical.sizeOf_spec]
  omega

mutual

def leaves : HeadlessRuleOptions → List DefaultHeadlessOptions
  | .default o => [o]
  | .logical _ rules _ => leavesOf rules

def leavesOf : List HeadlessRuleOptions → List DefaultHeadlessOptions
  | [] => []
  | rule :: rules => leaves rule ++ leavesOf rules

end

mutual

def isValid : HeadlessRuleOptions → Bool
  | .default o => o.isValid
  | .logical _ rules _ => !rules.isEmpty && allValid rules

def allValid : List HeadlessRuleOptions → Bool
  | [] => true
  | rule :: rules => isValid rule && allValid rules

end

mutual

def newHeadlessRule (lib : Library) (hasRouter : Bool) :
    HeadlessRuleOptions → Except String HeadlessRule
  | .default o =>
    if !o.isValid then .error "missing conditions"
    else do
      let r ← newDefaultHeadlessRule lib hasRouter o
      return .leaf r
  | .logical mode rules invert =>
    if !isValid (.logical mode rules invert) then .error "missing conditions"
    else do
      let mode ← parseMode mode
      let subs ← newSubRules lib hasRouter 0 rules
      return .node mode subs invert

def newSubRules (lib : Library) (hasRouter : Bool) :
    ℕ → List HeadlessRuleOptions → Except String (List HeadlessRule)
  | _, [] => .ok []
  | i, rule :: rules =>
    match newHeadlessRule lib hasRouter rule with
    | .error err => .error (cause err ("sub rule[" ++ toString i ++ "]"))
    | .ok r => do
      let subs ← newSubRules lib hasRouter (i + 1) rules
      return r :: subs

end

mutual

def hasRule (cond : DefaultHeadlessOptions → Bool) : HeadlessRuleOptions → Bool
  | .default o => cond o
  | .logical _ rules _ => hasHeadlessRule cond rules

def hasHeadlessRule (cond : DefaultHeadlessOptions → Bool) : List HeadlessRuleOptions → Bool
  | [] => false
  | rule :: rules => hasRule cond rule || hasHeadlessRule cond rules

end

variable {rules : List HeadlessRuleOptions}

lemma mem_leavesOf {o : DefaultHeadlessOptions} :
    o ∈ leavesOf rules ↔ ∃ rule ∈ rules, o ∈ rule.leaves := by
  induction rules with
  | nil => simp [leavesOf]
  | cons rule rules ih => simp [leavesOf, ih]

lemma allValid_eq (rules : List HeadlessRuleOptions) : allValid rules = rules.all isValid := by
  induction rules with
  | nil => rfl
  | cons rule rules ih => rw [allValid, ih, all_cons]

variable {rule : HeadlessRuleOptions}

lemma isValid_leaves (h : rule.isValid = true) : ∀ o ∈ rule.leaves, o.isValid = true := by
  induction rule using induction with
  | default o =>
    intro o' ho'
    rw [leaves, mem_singleton] at ho'
    rwa [ho']
  | logical mode rules invert ih =>
    rw [isValid, Bool.and_eq_true, allValid_eq, all_eq_true] at h
    intro o ho
    rw [leaves, mem_leavesOf] at ho
    obtain ⟨rule, hrule, ho⟩ := ho
    exact ih rule hrule (h.2 rule hrule) o ho

variable {lib : Library} {hasRouter : Bool} {r : HeadlessRule}

lemma newHeadlessRule_valid (h : newHeadlessRule lib hasRouter rule = .ok r) :
    rule.isValid = true := by
  cases rule with
  | default o =>
    rw [newHeadlessRule] at h
    split_ifs at h with hv
    simpa [isValid] using hv
  | logical mode rules invert =>
    rw [newHeadlessRule] at h
    split_ifs at h with hv
    simpa using hv

lemma newSubRules_eq_ok {i : ℕ} {subs : List HeadlessRule} :
    newSubRules lib hasRouter i rules = .ok subs ↔
      List.Forall₂ (fun rule r => newHeadlessRule lib hasRouter rule = .ok r) rules subs := by
  induction rules generalizing i subs with
  | nil => rw [newSubRules, forall₂_nil_left_iff, Except.ok.injEq, eq_comm]
  | cons rule rules ih =>
    rw [newSubRules]
    cases hrule : newHeadlessRule lib hasRouter rule with
    | error err =>
      refine iff_of_false (fun h => by cases h) ?_
      rintro (_ | ⟨h, -⟩)
      rw [hrule] at h
      cases h
    | ok r =>
      dsimp only
      rw [bind_eq_ok]
      constructor
      · rintro ⟨rest, hrest, h⟩
        cases h
        exact .cons hrule (ih.1 hrest)
      · rintro (_ | ⟨h, hrest⟩)
        cases hrule.symm.trans h
        exact ⟨_, ih.2 hrest, rfl⟩

lemma newHeadlessRule_logical {text : String} {invert : Bool} :
    newHeadlessRule lib hasRouter (.logical text rules invert) = .ok r ↔
      rules ≠ [] ∧ ∃ mode subs, parseMode text = .ok mode ∧
        List.Forall₂ (fun rule r => newHeadlessRule lib hasRouter rule = .ok r) rules subs ∧
        r = .node mode subs invert := by
  constructor
  · intro h
    have hvalid := newHeadlessRule_valid h
    rw [newHeadlessRule, hvalid] at h
    obtain ⟨mode, hmode, h⟩ := bind_eq_ok.1 h
    obtain ⟨subs, hsubs, h⟩ := bind_eq_ok.1 h
    cases h
    refine ⟨fun hnil => ?_, mode, subs, hmode, newSubRules_eq_ok.1 hsubs, rfl⟩
    rw [hnil] at hvalid
    cases hvalid
  · rintro ⟨hne, mode, subs, hmode, hsubs, rfl⟩
    have hvalid : isValid (.logical text rules invert) = true := by
      rw [isValid, allValid_eq, Bool.and_eq_true, all_eq_true]
      refine ⟨by simpa using hne, fun rule hrule => ?_⟩
      obtain ⟨r, -, hr⟩ := exists_right_of_forall₂ hsubs hrule
      exact newHeadlessRule_valid hr
    rw [newHeadlessRule, hvalid]
    exact bind_eq_ok.2 ⟨mode, hmode, bind_eq_ok.2 ⟨subs, newSubRules_eq_ok.2 hsubs, rfl⟩⟩

mutual

variable {cond : DefaultHeadlessOptions → Bool}

lemma hasRule_iff :
    ∀ rule, hasRule cond rule = true ↔ ∃ o ∈ leaves rule, cond o = true
  | .default o => by simp [hasRule, leaves]
  | .logical _ rules _ => by rw [hasRule, leaves, hasHeadlessRule_iff]

lemma hasHeadlessRule_iff :
    ∀ rules, hasHeadlessRule cond rules = true ↔ ∃ o ∈ leavesOf rules, cond o = true
  | [] => by simp [hasHeadlessRule, leavesOf]
  | rule :: rules => by
    rw [hasHeadlessRule, leavesOf, Bool.or_eq_true, hasRule_iff, hasHeadlessRule_iff]
    simp only [mem_append, or_and_right, exists_or]

end

lemma newHeadlessRule_leaves (h : newHeadlessRule lib hasRouter rule = .ok r) :
    ∀ leaf ∈ r.leaves, ∃ o ∈ rule.leaves, newDefaultHeadlessRule lib hasRouter o = .ok leaf := by
  induction rule using induction generalizing r with
  | default o =>
    rw [newHeadlessRule] at h
    split_ifs at h
    obtain ⟨leaf, hleaf, h⟩ := bind_eq_ok.1 h
    cases h
    intro leaf' hmem
    rw [AndOrTree.leaves, mem_singleton] at hmem
    exact ⟨o, by simp [leaves], hmem ▸ hleaf⟩
  | logical text rules invert ih =>
    obtain ⟨-, mode, subs, -, hsubs, rfl⟩ := newHeadlessRule_logical.1 h
    intro leaf hleaf
    rw [AndOrTree.leaves, AndOrTree.mem_leavesOf] at hleaf
    obtain ⟨sub, hsub, hleaf⟩ := hleaf
    obtain ⟨rule, hrule, hbuilt⟩ := exists_left_of_forall₂ hsubs hsub
    obtain ⟨o, ho, h⟩ := ih rule hrule hbuilt leaf hleaf
    refine ⟨o, ?_, h⟩
    rw [leaves, mem_leavesOf]
    exact ⟨rule, hrule, ho⟩

end HeadlessRuleOptions

def reloadRules (lib : Library) (headlessRules : List HeadlessRuleOptions) : Except String RuleSet := do
  let rules ← mapFrom (fun i rule => match rule.newHeadlessRule lib true with
    | .ok r => .ok r
    | .error err => .error (cause err ("parse rule_set.rules.[" ++ toString i ++ "]"))) 0 headlessRules
  return ⟨rules, HeadlessRuleOptions.hasHeadlessRule
    DefaultHeadlessOptions.isIPCIDRHeadlessRule headlessRules⟩

lemma reloadRules_ok {lib : Library} {headlessRules : List HeadlessRuleOptions} {s : RuleSet} :
    reloadRules lib headlessRules = .ok s ↔
      List.Forall₂ (fun rule r => rule.newHeadlessRule lib true = .ok r) headlessRules s.rules ∧
        s.containsIPCIDRRule = HeadlessRuleOptions.hasHeadlessRule
          DefaultHeadlessOptions.isIPCIDRHeadlessRule headlessRules := by
  rw [reloadRules, bind_eq_ok]
  constructor
  · rintro ⟨rules, hrules, h⟩
    cases h
    refine ⟨(mapFrom_eq_ok fun i rule r => ?_).1 hrules, rfl⟩
    cases rule.newHeadlessRule lib true <;> simp
  · rintro ⟨hrules, hcontains⟩
    refine ⟨s.rules, (mapFrom_eq_ok fun i rule r => ?_).2 hrules, ?_⟩
    · cases rule.newHeadlessRule lib true <;> simp
    · rw [← hcontains]
      rfl

end SingBox.Route
