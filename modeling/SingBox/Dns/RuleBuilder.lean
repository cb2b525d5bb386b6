import SingBox.Dns.Rules
import SingBox.Route.RuleAcceptance

namespace SingBox.Dns

open Route Lib.Errors Lib.LogicTree List

structure FallBackRuleOptions extends QueryOptions where
  acceptResult : Bool := false
  matchAll : Bool := false
  clashMode : List String := []
  ipCIDR : List String := []
  geoIP : List String := []
  ruleSet : List String := []
  ipIsPrivate : Bool := false
  invert : Bool := false
  server : String := ""

/-- The rule is compared with the options of another kind of rule, and no two values of different
types are equal. -/
def FallBackRuleOptions.isValid (_ : FallBackRuleOptions) : Bool := true

inductive DNSRuleOptions where
  | default (fallBackRules : List FallBackRuleOptions) (options : DefaultDNSRuleOptions)
      (query : QueryOptions) (allowFallthrough : Bool)
  | logical (fallBackRules : List FallBackRuleOptions) (mode : String) (rules : List DNSRuleOptions)
      (invert : Bool) (server : String) (query : QueryOptions) (allowFallthrough : Bool)

def newFallbackRule (lib : Library) (i : ℕ) (o : FallBackRuleOptions) :
    Except String FallbackRule :=
  if !o.isValid then .error ("fallback_rule[" ++ toString i ++ "] missing conditions")
  else do
    let ipCIDR ← parseList "ipcidr" o.ipCIDR (HeadlessItem.newIPCIDRItem lib false)
    return {
      toQueryOptions := o.toQueryOptions
      acceptResult := o.acceptResult
      matchAll := o.matchAll
      items := fromList o.clashMode fun l => .plain (.clashMode l)
      destinationAddressItems :=
        map RuleItem.ofHeadless ipCIDR ++ fromFlag o.ipIsPrivate (.plain (.ipIsPrivate false)) ++
          fromList o.geoIP (.geoIP false) ++ fromList o.ruleSet fun l => .ruleSet l false false
      invert := o.invert
      server := o.server }

def newFallbackRules (lib : Library) : List FallBackRuleOptions → Except String (List FallbackRule) :=
  mapFrom (newFallbackRule lib) 0

namespace DNSRuleOptions

mutual

/-- The options of a default rule are compared through a pointer, as those of a route rule are. -/
def isValid : DNSRuleOptions → Bool
  | .default fallBackRules _ _ _ => fallBackRules.all FallBackRuleOptions.isValid
  | .logical fallBackRules _ rules _ _ _ _ =>
    fallBackRules.all FallBackRuleOptions.isValid &&
      (!rules.isEmpty && allValid rules || !fallBackRules.isEmpty)

def allValid : List DNSRuleOptions → Bool
  | [] => true
  | o :: rules => isValid o && allValid rules

end

mutual

def newDNSRule (lib : Library) (checkServer : Bool) : DNSRuleOptions → Except String DNSRule
  | .default fallBackRules o query allowFallthrough => do
    let fallbackRules ← newFallbackRules lib fallBackRules
    if o.server == "" && checkServer then .error "missing server field"
    else
      let r ← newDefaultDNSRule lib o
      return { toQueryOptions := query, body := .leaf r, server := o.server, allowFallthrough,
               fallbackRules }
  | .logical fallBackRules mode rules invert server query allowFallthrough => do
    let fallbackRules ← newFallbackRules lib fallBackRules
    if !(!rules.isEmpty && allValid rules) then .error "missing conditions"
    else if server == "" && checkServer then .error "missing server field"
    else
      let mode ← parseMode mode
      let subs ← newSubRules lib 0 rules
      return { toQueryOptions := query, body := .node mode subs invert, server, allowFallthrough,
               fallbackRules }

def newSubRules (lib : Library) : ℕ → List DNSRuleOptions → Except String (List RuleBody)
  | _, [] => .ok []
  | i, o :: rules =>
    match newDNSRule lib false o with
    | .error err => .error (cause err ("sub rule[" ++ toString i ++ "]"))
    | .ok rule => do
      let subs ← newSubRules lib (i + 1) rules
      return rule.body :: subs

end

mutual

def leaves : DNSRuleOptions → List (List FallBackRuleOptions × DefaultDNSRuleOptions)
  | .default fallBackRules o _ _ => [(fallBackRules, o)]
  | .logical _ _ rules _ _ _ _ => leavesOf rules

def leavesOf : List DNSRuleOptions → List (List FallBackRuleOptions × DefaultDNSRuleOptions)
  | [] => []
  | o :: rules => leaves o ++ leavesOf rules

end

mutual

def fallbacks : DNSRuleOptions → List FallBackRuleOptions
  | .default fallBackRules _ _ _ => fallBackRules
  | .logical fallBackRules _ rules _ _ _ _ => fallBackRules ++ fallbacksOf rules

def fallbacksOf : List DNSRuleOptions → List FallBackRuleOptions
  | [] => []
  | o :: rules => fallbacks o ++ fallbacksOf rules

end

mutual

def Sound (lib : Library) (checkServer : Bool) : DNSRuleOptions → Prop
  | .default fallBackRules o _ _ =>
    (∀ f ∈ fallBackRules, ∀ text ∈ f.ipCIDR, IsIPRange lib text) ∧
      (o.server = "" → checkServer = false) ∧ o.Parses lib
  | .logical fallBackRules mode rules _ server _ _ =>
    (∀ f ∈ fallBackRules, ∀ text ∈ f.ipCIDR, IsIPRange lib text) ∧ rules ≠ [] ∧
      (server = "" → checkServer = false) ∧ (mode = "and" ∨ mode = "or") ∧ SoundAll lib rules

def SoundAll (lib : Library) : List DNSRuleOptions → Prop
  | [] => True
  | o :: rules => Sound lib false o ∧ SoundAll lib rules

end

variable {lib : Library}

lemma exists_newFallbackRules_iff {rules : List FallBackRuleOptions} :
    (∃ built, newFallbackRules lib rules = .ok built) ↔
      ∀ f ∈ rules, ∀ text ∈ f.ipCIDR, IsIPRange lib text := by
  refine exists_mapFrom_iff fun i f => ?_
  rw [newFallbackRule, FallBackRuleOptions.isValid, if_neg (by simp), exists_bind_pure_iff,
    exists_parseList_iff exists_newIPCIDRItem_iff]

lemma exists_newDefaultDNSRule_iff {o : DefaultDNSRuleOptions} :
    (∃ r, newDefaultDNSRule lib o = .ok r) ↔ o.Parses lib := by
  rw [newDefaultDNSRule, exists_bind_pure_iff, exists_parseItems_iff]

mutual

lemma Sound.isValid : ∀ {options : DNSRuleOptions} {checkServer : Bool},
    options.Sound lib checkServer → options.isValid = true
  | .default _ _ _ _, _, _ => by
    rw [DNSRuleOptions.isValid]
    exact all_eq_true.2 fun _ _ => rfl
  | .logical fallBackRules _ rules _ _ _ _, _, h => by
    rw [Sound] at h
    have hf : fallBackRules.all FallBackRuleOptions.isValid = true :=
      all_eq_true.2 fun _ _ => rfl
    rw [DNSRuleOptions.isValid, SoundAll.allValid h.2.2.2.2, hf]
    simpa using .inl h.2.1

lemma SoundAll.allValid : ∀ {rules : List DNSRuleOptions},
    SoundAll lib rules → allValid rules = true
  | [], _ => by rw [DNSRuleOptions.allValid]
  | o :: rules, h => by
    rw [SoundAll] at h
    rw [DNSRuleOptions.allValid, Sound.isValid h.1, SoundAll.allValid h.2]
    rfl

end

mutual

lemma exists_newDNSRule_iff : ∀ (options : DNSRuleOptions) (checkServer : Bool),
    (∃ rule, newDNSRule lib checkServer options = .ok rule) ↔ options.Sound lib checkServer
  | .default fallBackRules o query allowFallthrough, checkServer => by
    rw [Sound, ← exists_newFallbackRules_iff, ← exists_newDefaultDNSRule_iff]
    constructor
    · rintro ⟨rule, h⟩
      rw [newDNSRule] at h
      obtain ⟨built, hf, h⟩ := bind_eq_ok.1 h
      split_ifs at h with hc
      obtain ⟨r, hr, -⟩ := bind_eq_ok.1 h
      exact ⟨⟨built, hf⟩, by simpa using hc, r, hr⟩
    · rintro ⟨⟨built, hf⟩, hc, r, hr⟩
      rw [newDNSRule, exists_bind_iff]
      refine ⟨built, hf, ?_⟩
      rw [if_neg (by simpa using hc), exists_bind_pure_iff]
      exact ⟨r, hr⟩
  | .logical fallBackRules mode rules invert server query allowFallthrough, checkServer => by
    rw [Sound, ← exists_newFallbackRules_iff, ← exists_parseMode_iff,
      ← exists_newSubRules_iff rules 0]
    constructor
    · rintro ⟨rule, h⟩
      rw [newDNSRule] at h
      obtain ⟨built, hf, h⟩ := bind_eq_ok.1 h
      split_ifs at h with hv hc
      obtain ⟨parsed, hm, h⟩ := bind_eq_ok.1 h
      obtain ⟨subs, hs, -⟩ := bind_eq_ok.1 h
      refine ⟨⟨built, hf⟩, ?_, by simpa using hc, ⟨parsed, hm⟩, subs, hs⟩
      rintro rfl
      simp at hv
    · rintro ⟨⟨built, hf⟩, hne, hc, ⟨parsed, hm⟩, subs, hs⟩
      have hv : allValid rules = true := ((exists_newSubRules_iff rules 0).1 ⟨subs, hs⟩).allValid
      rw [newDNSRule, exists_bind_iff]
      refine ⟨built, hf, ?_⟩
      rw [if_neg (by simpa [hv] using hne), if_neg (by simpa using hc)]
      exact ⟨_, bind_eq_ok.2 ⟨parsed, hm, bind_eq_ok.2 ⟨subs, hs, rfl⟩⟩⟩

lemma exists_newSubRules_iff : ∀ (rules : List DNSRuleOptions) (i : ℕ),
    (∃ subs, newSubRules lib i rules = .ok subs) ↔ SoundAll lib rules
  | [], i => by simp [newSubRules, SoundAll]
  | o :: rules, i => by
    rw [newSubRules, SoundAll, ← exists_newDNSRule_iff o false, ← exists_newSubRules_iff rules (i + 1)]
    cases newDNSRule lib false o with
    | error err => simp
    | ok rule => rw [and_iff_right ⟨rule, rfl⟩, exists_bind_pure_iff]

end

def BuiltFrom (lib : Library) (o : List FallBackRuleOptions × DefaultDNSRuleOptions)
    (r : DefaultRule RuleItem) : Prop :=
  newDefaultDNSRule lib o.2 = .ok r

mutual

lemma newDNSRule_leaves : ∀ (options : DNSRuleOptions) {checkServer : Bool} {rule : DNSRule},
    newDNSRule lib checkServer options = .ok rule →
      List.Forall₂ (BuiltFrom lib) options.leaves rule.body.leaves
  | .default fallBackRules o query allowFallthrough, checkServer, rule, h => by
    rw [newDNSRule] at h
    obtain ⟨built, -, h⟩ := bind_eq_ok.1 h
    split_ifs at h
    obtain ⟨r, hr, h⟩ := bind_eq_ok.1 h
    cases h
    rw [leaves, AndOrTree.leaves]
    exact .cons hr .nil
  | .logical fallBackRules mode rules invert server query allowFallthrough, checkServer, rule, h => by
    rw [newDNSRule] at h
    obtain ⟨built, -, h⟩ := bind_eq_ok.1 h
    split_ifs at h
    obtain ⟨parsed, -, h⟩ := bind_eq_ok.1 h
    obtain ⟨subs, hs, h⟩ := bind_eq_ok.1 h
    cases h
    rw [leaves, AndOrTree.leaves]
    exact newSubRules_leaves rules hs

lemma newSubRules_leaves : ∀ (rules : List DNSRuleOptions) {i : ℕ} {subs : List RuleBody},
    newSubRules lib i rules = .ok subs →
      List.Forall₂ (BuiltFrom lib) (leavesOf rules) (AndOrTree.leavesOf subs)
  | [], i, subs, h => by
    cases h
    rw [leavesOf, AndOrTree.leavesOf]
    exact .nil
  | options :: rules, i, subs, h => by
    rw [newSubRules] at h
    split at h
    · cases h
    · rename_i rule hrule
      obtain ⟨rest, hrest, h⟩ := bind_eq_ok.1 h
      cases h
      rw [leavesOf, AndOrTree.leavesOf]
      exact rel_append (newDNSRule_leaves options hrule) (newSubRules_leaves rules hrest)

end

end DNSRuleOptions

def DefaultDNSRuleOptions.hasCondition (o : DefaultDNSRuleOptions) : Bool :=
  !o.inbound.isEmpty || decide (o.ipVersion > 0) || !o.queryType.isEmpty || !o.network.isEmpty ||
    !o.authUser.isEmpty || !o.protocol.isEmpty || !o.domain.isEmpty || !o.domainSuffix.isEmpty ||
    !o.domainKeyword.isEmpty || !o.domainRegex.isEmpty || !o.geosite.isEmpty ||
    !o.sourceGeoIP.isEmpty || !o.geoIP.isEmpty || !o.sourceIPCIDR.isEmpty || o.sourceIPIsPrivate ||
    !o.ipCIDR.isEmpty || o.ipIsPrivate || !o.sourcePort.isEmpty || !o.sourcePortRange.isEmpty ||
    !o.port.isEmpty || !o.portRange.isEmpty || !o.processName.isEmpty || !o.processPath.isEmpty ||
    !o.packageName.isEmpty || !o.user.isEmpty || !o.userID.isEmpty || !o.outbound.isEmpty ||
    !o.clashMode.isEmpty || !o.wifiSSID.isEmpty || !o.wifiBSSID.isEmpty || !o.ruleSet.isEmpty

def FallBackRuleOptions.hasCondition (o : FallBackRuleOptions) : Bool :=
  o.matchAll || !o.clashMode.isEmpty || !o.ipCIDR.isEmpty || !o.geoIP.isEmpty ||
    !o.ruleSet.isEmpty || o.ipIsPrivate

variable {lib : Library}

lemma newDefaultDNSRule_isEmpty {o : DefaultDNSRuleOptions} {r : DefaultRule RuleItem}
    (h : newDefaultDNSRule lib o = .ok r) (ho : o.hasCondition = true) :
    r.allItems.isEmpty = false := by
  obtain ⟨parsed, hp, rfl⟩ := newDefaultDNSRule_ok h
  have hp := parseItems_ok hp
  cases he : (placeItems lib o.toRuleConditions parsed (dnsItems o parsed)).allItems.isEmpty with
  | false => rfl
  | true =>
    simp only [placeItems, dnsItems, DefaultRule.allItems, flatten_cons, List.isEmpty_iff,
      append_eq_nil_iff, map_eq_nil_iff, fromList_eq_nil, fromFlag_eq_nil,
      newDomainItem_eq_nil, hp.ipVersion_nil, hp.domainRegex_nil, hp.sourceIPCIDR_nil,
      hp.ipCIDR_nil, hp.sourcePortRange_nil, hp.portRange_nil] at he
    simp [DefaultDNSRuleOptions.hasCondition, he] at ho

def RouteConditions (options : RuleOptions) : Prop :=
  ∀ o ∈ options.leaves, o.hasCondition = true

def DNSConditions (options : DNSRuleOptions) : Prop :=
  (∀ o ∈ options.leaves, o.2.hasCondition = true ∨ o.1 ≠ []) ∧
    ∀ f ∈ options.fallbacks, f.hasCondition = true

lemma newRule_items {options : RuleOptions} {checkOutbound : Bool} {rule : Rule}
    (h : options.newRule lib checkOutbound = .ok rule) (hc : RouteConditions options) :
    ∀ r ∈ rule.body.leaves, r.allItems.isEmpty = false := by
  intro r hr
  obtain ⟨o, ho, hbuilt⟩ := RuleOptions.newRule_leaves options h r hr
  exact newDefaultRule_isEmpty hbuilt (hc o ho)

lemma newDNSRule_items {options : DNSRuleOptions} {checkServer : Bool} {rule : DNSRule}
    (h : options.newDNSRule lib checkServer = .ok rule) (hc : DNSConditions options) :
    List.Forall₂ (fun o r => o.1 = [] → r.allItems.isEmpty = false) options.leaves
      rule.body.leaves := by
  have hleaves := (forall₂_and_left _ _).2 ⟨hc.1, DNSRuleOptions.newDNSRule_leaves options h⟩
  refine hleaves.imp ?_
  intro o r ⟨ho, hbuilt⟩ hf
  exact newDefaultDNSRule_isEmpty hbuilt (ho.resolve_right (not_not_intro hf))

theorem conditionless_rules_rejected_iff (lib : Library) (check : Bool) (route : RuleOptions)
    (dns : DNSRuleOptions) :
    ((∀ rule, route.newRule lib check = .ok rule →
        RouteConditions route ∧ ∀ r ∈ rule.body.leaves, r.allItems.isEmpty = false) ↔
      (¬ route.Sound lib check ∨ RouteConditions route)) ∧
    ((∀ rule, dns.newDNSRule lib check = .ok rule →
        DNSConditions dns ∧
          List.Forall₂ (fun o r => o.1 = [] → r.allItems.isEmpty = false) dns.leaves
            rule.body.leaves) ↔
      (¬ dns.Sound lib check ∨ DNSConditions dns)) := by
  rw [← imp_iff_not_or, ← imp_iff_not_or, ← RuleOptions.exists_newRule_iff, ← DNSRuleOptions.exists_newDNSRule_iff]
  refine ⟨⟨?_, ?_⟩, ?_, ?_⟩
  · rintro h ⟨rule, hrule⟩
    exact (h rule hrule).1
  · intro h rule hrule
    exact ⟨h ⟨rule, hrule⟩, newRule_items hrule (h ⟨rule, hrule⟩)⟩
  · rintro h ⟨rule, hrule⟩
    exact (h rule hrule).1
  · intro h rule hrule
    exact ⟨h ⟨rule, hrule⟩, newDNSRule_items hrule (h ⟨rule, hrule⟩)⟩

theorem conditionless_rules_accepted :
    RuleOptions.newRule .bare true (.default { outbound := "direct", invert := true }) =
        .ok { outbound := "direct", skipResolve := false, body := .leaf { invert := true } } ∧
      ¬ RouteConditions (.default { outbound := "direct", invert := true }) ∧
      (∀ env m, DefaultRule.matchRule (RuleItem.matchItem env) RuleItem.isRuleSet
        { invert := true } m = (true, m)) ∧
      DNSRuleOptions.newDNSRule .bare true (.default [] { server := "local" } {} false) =
        .ok { body := .leaf {}, server := "local" } ∧
      ¬ DNSConditions (.default [] { server := "local" } {} false) ∧
      DNSRuleOptions.newDNSRule .bare true (.default [{}] { server := "local" } {} false) =
        .ok { body := .leaf {}, server := "local", fallbackRules := [{}] } ∧
      ¬ DNSConditions (.default [{}] { server := "local" } {} false) := by
  refine ⟨rfl, ?_, fun _ _ => rfl, rfl, ?_, rfl, ?_⟩
  · exact fun h => Bool.false_ne_true (h _ mem_cons_self)
  · rintro ⟨h, -⟩
    simpa [DefaultDNSRuleOptions.hasCondition] using h _ mem_cons_self
  · rintro ⟨-, h⟩
    exact Bool.false_ne_true (h _ mem_cons_self)

end SingBox.Dns
