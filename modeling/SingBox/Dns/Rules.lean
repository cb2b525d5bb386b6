import SingBox.Options.Outbound
import SingBox.Route.ItemEffects
import SingBox.Route.RuleSets

namespace SingBox.Dns

open Options (DomainStrategy)
open Route Lib.Search Lib.LogicTree Lib.Errors

structure DefaultDNSRuleOptions extends RuleConditions where
  queryType : List UInt16 := []
  outbound : List String := []
  ruleSetIPCIDRAcceptEmpty : Bool := false
  server : String := ""

def dnsItems (o : DefaultDNSRuleOptions) (parsed : ParsedItems) : List RuleItem :=
  let plain : List (List PlainItem) :=
    [fromList o.inbound .inbound, parsed.ipVersion, fromList o.queryType .queryType,
      fromList o.network (fun l => .headless (.network l)), fromList o.authUser .authUser,
      fromList o.protocol .protocol,
      fromList o.processName (fun l => .headless (.processName l)),
      fromList o.processPath (fun l => .headless (.processPath l)),
      fromList o.packageName (fun l => .headless (.packageName l)),
      fromList o.user .user, fromList o.userID .userID, fromList o.outbound .outbound,
      fromList o.clashMode .clashMode,
      fromList o.wifiSSID (fun l => .headless (.wifiSSID l)),
      fromList o.wifiBSSID (fun l => .headless (.wifiBSSID l))]
  List.map RuleItem.plain plain.flatten ++
    fromList o.ruleSet
      (fun l => .ruleSet l o.ruleSetIPCIDRMatchSource o.ruleSetIPCIDRAcceptEmpty)

def newDefaultDNSRule (lib : Library) (o : DefaultDNSRuleOptions) :
    Except String (DefaultRule RuleItem) := do
  let parsed ← parseItems lib "ip_cidr" o.toRuleConditions
  return placeItems lib o.toRuleConditions parsed (dnsItems o parsed)

variable {lib : Library} {o : DefaultDNSRuleOptions} {r : DefaultRule RuleItem}

lemma newDefaultDNSRule_ok (h : newDefaultDNSRule lib o = .ok r) :
    ∃ parsed, parseItems lib "ip_cidr" o.toRuleConditions = .ok parsed ∧
      r = placeItems lib o.toRuleConditions parsed (dnsItems o parsed) := by
  obtain ⟨parsed, hp, h⟩ := bind_eq_ok.1 h
  cases h
  exact ⟨parsed, hp, rfl⟩

structure WellPlaced (r : DefaultRule RuleItem) : Prop extends WellGrouped r where
  geoIP : ∀ i ∈ r.destinationAddressItems, ∀ codes, i ≠ .geoIP false codes

lemma newDefaultDNSRule_wellPlaced (h : newDefaultDNSRule lib o = .ok r) : WellPlaced r := by
  obtain ⟨parsed, hp, rfl⟩ := newDefaultDNSRule_ok h
  refine ⟨placeItems_wellGrouped (parseItems_ok hp) ?_, ?_⟩
  · simpa [dnsItems, forall_mem_fromList, RuleItem.group, HeadlessItem.group,
      or_imp, forall_and] using (parseItems_ok hp).ipVersion_group
  · simp [placeItems, forall_mem_fromList, RuleItem.ofHeadless, or_imp, forall_and]

lemma newDefaultDNSRule_ruleSets (h : newDefaultDNSRule lib o = .ok r) (ho : o.ruleSet = []) :
    ∀ i ∈ r.items, i.isRuleSet = false := by
  obtain ⟨parsed, hp, rfl⟩ := newDefaultDNSRule_ok h
  simp [placeItems, dnsItems, ho, fromList, RuleItem.isRuleSet, or_imp, forall_and]

namespace DefaultDNSRule

variable (env : RouterEnv) (r : DefaultRule RuleItem) (m : InboundContext)

def matchRule : Bool × InboundContext :=
  let result := r.matchRule (RuleItem.matchItem env) RuleItem.isRuleSet (m.ignoring true)
  (result.1, result.2.ignoring false)

def matchAddressLimit : Bool × InboundContext :=
  r.matchRule (RuleItem.matchItem env) RuleItem.isRuleSet m

def withAddressLimit : Bool :=
  !r.destinationIPCIDRItems.isEmpty || r.items.any fun item => match item with
    | .ruleSet tagList ipCidrMatchSource _ =>
      RuleSetItem.containsDestinationIPCIDRRule env tagList ipCidrMatchSource
    | _ => false

variable {r m}

lemma matchRule_kept (hr : WellPlaced r) :
    (matchRule env r m).2.destination = m.destination ∧
      (matchRule env r m).2.geoIPCode = m.geoIPCode := by
  have h : kept (r.matchRule (RuleItem.matchItem env) RuleItem.isRuleSet (m.ignoring true)).2 =
      kept (m.ignoring true) := by
    apply DefaultRule.matchRule_invariant
      (fun _ _ h => h) (fun m' h => kept_ignore h) _ _ rfl
    · intro i hi m' hm'
      rw [← hm']
      apply RuleItem.matchItem_kept env
      rintro codes rfl
      cases hr.ungrouped _ hi
    · intro g i hi m' hm'
      rw [← hm']
      apply RuleItem.matchItem_kept env
      rintro codes rfl
      cases g with
      | destinationAddress =>
        rw [DefaultRule.groupItems, InboundContext.ignoring, if_pos rfl, List.append_nil] at hi
        exact hr.geoIP _ hi codes rfl
      | sourceAddress => cases hr.grouped .sourceAddress _ hi
      | sourcePort => cases hr.grouped .sourcePort _ hi
      | destinationPort => cases hr.grouped .destinationPort _ hi
  have hd := kept_destination h
  have hg := kept_geoIPCode h
  exact ⟨hd, hg⟩

end DefaultDNSRule

namespace DNSRuleBody

variable (env : RouterEnv)

def matchRule : RuleBody → InboundContext → Bool × InboundContext :=
  AndOrTree.eval (DefaultDNSRule.matchRule env) InboundContext.resetRuleCache fun _ => false

def matchAddressLimit : RuleBody → InboundContext → Bool × InboundContext :=
  AndOrTree.eval (DefaultDNSRule.matchAddressLimit env) InboundContext.resetRuleCache fun _ => false

def withAddressLimit (body : RuleBody) : Bool :=
  body.leaves.any (DefaultDNSRule.withAddressLimit env)

variable {m : InboundContext}

lemma matchRule_kept {body : RuleBody} (hb : ∀ r ∈ body.leaves, WellPlaced r) :
    (matchRule env body m).2.destination = m.destination ∧
      (matchRule env body m).2.geoIPCode = m.geoIPCode := by
  refine AndOrTree.eval_invariant (I := fun m' : InboundContext =>
    m'.destination = m.destination ∧ m'.geoIPCode = m.geoIPCode) body ?_ ?_ ⟨rfl, rfl⟩
  · exact fun _ h => h
  · intro r hr m' hm'
    have h := DefaultDNSRule.matchRule_kept env (m := m') (hb r hr)
    exact ⟨h.1.trans hm'.1, h.2.trans hm'.2⟩

end DNSRuleBody

structure QueryOptions where
  disableCache : Bool := false
  rewriteTTL : Option UInt32 := none
  clientSubnet : Option (IPAddr × ℕ) := none
  deriving DecidableEq, Repr

structure FallbackRule extends QueryOptions where
  acceptResult : Bool := false
  matchAll : Bool := false
  items : List RuleItem := []
  destinationAddressItems : List RuleItem := []
  invert : Bool := false
  server : String := ""

structure DNSRule extends QueryOptions where
  body : RuleBody
  server : String
  disabled : Bool := false
  allowFallthrough : Bool := false
  fallbackRules : List FallbackRule := []

structure Transport where
  isFakeIP : Bool
  excludes : Option (InboundContext → Bool)
  name : String := ""
  isRCode : Bool := false
  domainStrategy : Option DomainStrategy := none

structure Router where
  dnsRules : List DNSRule
  transportMap : String → Option Transport
  defaultTransport : Transport := { isFakeIP := false, excludes := none }
  defaultDomainStrategy : DomainStrategy := .asIS

structure Selected where
  rule : DNSRule
  ruleIndex : ℕ
  transport : Transport

def Transport.refused (transport : Transport) (allowFakeIP : Bool) (m : InboundContext) : Bool :=
  transport.isFakeIP && (!allowFakeIP ||
    transport.excludes.any fun excludes => excludes { domain := m.domain, fakeIPFilter := true })

variable (env : RouterEnv) (rt : Router) (allowFakeIP isAddressQuery : Bool)

def usable (rule : DNSRule) (m : InboundContext) : Option Transport :=
  match rt.transportMap rule.server with
  | none => none
  | some transport => if transport.refused allowFakeIP m then none else some transport

def selectFrom : ℕ → List DNSRule → InboundContext → Option Selected × InboundContext
  | _, [], m => (none, m)
  | i, rule :: rules, m =>
    if DNSRuleBody.withAddressLimit env rule.body && !isAddressQuery then
      selectFrom (i + 1) rules m
    else
      let result := DNSRuleBody.matchRule env rule.body m.resetRuleCache
      match if result.1 then usable rt allowFakeIP rule result.2 else none with
      | some transport => (some ⟨rule, i, transport⟩, result.2)
      | none => selectFrom (i + 1) rules result.2

/-- `Router.matchDNS` after the rule at `index`, or from the first rule; `none` stands for the
default transport. -/
def matchDNS (index : Option ℕ) (m : InboundContext) : Option Selected × InboundContext :=
  let first := match index with
    | none => 0
    | some index => index + 1
  selectFrom env rt allowFakeIP isAddressQuery first (rt.dnsRules.drop first) m

variable {env rt allowFakeIP isAddressQuery}
  {rules : List DNSRule} {i : ℕ} {m m' : InboundContext} {sel : Selected}

lemma selectFrom_index (h : selectFrom env rt allowFakeIP isAddressQuery i rules m = (some sel, m')) :
    i ≤ sel.ruleIndex ∧ rules[sel.ruleIndex - i]? = some sel.rule := by
  induction rules generalizing i m with
  | nil => cases h
  | cons rule rules ih =>
    have hrest : ∀ {m}, selectFrom env rt allowFakeIP isAddressQuery (i + 1) rules m = (some sel, m') →
        i ≤ sel.ruleIndex ∧ (rule :: rules)[sel.ruleIndex - i]? = some sel.rule := by
      intro m hm
      obtain ⟨hle, hget⟩ := ih hm
      refine ⟨Nat.le_of_succ_le hle, ?_⟩
      rw [show sel.ruleIndex - i = sel.ruleIndex - (i + 1) + 1 by omega]
      exact hget
    rw [selectFrom] at h
    split_ifs at h
    · exact hrest h
    · dsimp only at h
      split at h
      · cases h
        exact ⟨Nat.le_refl i, by rw [Nat.sub_self]; rfl⟩
      · exact hrest h

def firstAfter : Option ℕ → ℕ
  | none => 0
  | some index => index + 1

variable (env rt allowFakeIP isAddressQuery) in
lemma matchDNS_eq (index : Option ℕ) (m : InboundContext) :
    matchDNS env rt allowFakeIP isAddressQuery index m = selectFrom env rt allowFakeIP isAddressQuery
      (firstAfter index) (rt.dnsRules.drop (firstAfter index)) m := by
  cases index <;> rfl

variable {index : Option ℕ}

lemma matchDNS_index (h : matchDNS env rt allowFakeIP isAddressQuery index m = (some sel, m')) :
    firstAfter index ≤ sel.ruleIndex ∧ rt.dnsRules[sel.ruleIndex]? = some sel.rule := by
  obtain ⟨hle, hget⟩ := selectFrom_index h
  rw [List.getElem?_drop, Nat.add_sub_cancel' hle] at hget
  exact ⟨hle, hget⟩

lemma selectFrom_server
    (h : selectFrom env rt allowFakeIP isAddressQuery i rules m = (some sel, m')) :
    rt.transportMap sel.rule.server = some sel.transport := by
  induction rules generalizing i m with
  | nil => cases h
  | cons rule rules ih =>
    rw [selectFrom] at h
    split_ifs at h
    · exact ih h
    · dsimp only at h
      split at h
      · rename_i transport hused
        cases h
        split_ifs at hused
        rw [usable] at hused
        split at hused
        · cases hused
        · rename_i hserver
          split_ifs at hused
          exact hserver.trans hused
      · exact ih h

lemma matchDNS_server (h : matchDNS env rt allowFakeIP isAddressQuery index m = (some sel, m')) :
    rt.transportMap sel.rule.server = some sel.transport :=
  selectFrom_server h

lemma selectFrom_inv (hr : ∀ rule ∈ rules, ∀ r ∈ rule.body.leaves, WellPlaced r)
    (h : selectFrom env rt allowFakeIP isAddressQuery i rules m = (some sel, m')) :
    ∃ m₀ : InboundContext, m₀.destination = m.destination ∧ m₀.geoIPCode = m.geoIPCode ∧
      DNSRuleBody.matchRule env sel.rule.body m₀.resetRuleCache = (true, m') := by
  induction rules generalizing i m with
  | nil => cases h
  | cons rule rules ih =>
    have hrules : ∀ rule ∈ rules, ∀ r ∈ rule.body.leaves, WellPlaced r :=
      fun rule hmem => hr rule (List.mem_cons_of_mem _ hmem)
    rw [selectFrom] at h
    split_ifs at h
    · exact ih hrules h
    · have hkept := DNSRuleBody.matchRule_kept env (m := m.resetRuleCache) (hr rule (by simp))
      cases hres : DNSRuleBody.matchRule env rule.body m.resetRuleCache with
      | mk matched m₁ =>
        simp only [hres] at h hkept
        split at h
        · rename_i transport hused
          cases h
          cases matched with
          | true => exact ⟨m, rfl, rfl, hres⟩
          | false => cases hused
        · obtain ⟨m₀, hd, hg, hm⟩ := ih hrules h
          exact ⟨m₀, hd.trans hkept.1, hg.trans hkept.2, hm⟩

def Built (lib : Library) (rt : Router) : Prop :=
  ∀ rule ∈ rt.dnsRules, ∀ r ∈ rule.body.leaves, ∃ o, newDefaultDNSRule lib o = .ok r

lemma matchDNS_inv (hb : Built lib rt)
    (h : matchDNS env rt allowFakeIP isAddressQuery index m = (some sel, m')) :
    ∃ m₀ : InboundContext, m₀.destination = m.destination ∧ m₀.geoIPCode = m.geoIPCode ∧
      DNSRuleBody.matchRule env sel.rule.body m₀.resetRuleCache = (true, m') := by
  refine selectFrom_inv (fun rule hrule r hr => ?_) h
  obtain ⟨o, ho⟩ := hb rule (List.mem_of_mem_drop hrule) r hr
  exact newDefaultDNSRule_wellPlaced ho

end SingBox.Dns
