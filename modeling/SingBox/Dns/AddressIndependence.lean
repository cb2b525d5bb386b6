import SingBox.Dns.RuleBuilder
import SingBox.Route.AddressIndependence

namespace SingBox.Dns

open Route Lib.Errors Lib.Search Lib.LogicTree DefaultRule RuleItem InboundContext AndOrTree
open DefaultRule (AlikeIn)

section Agreement

variable {lib : Library} {env : RouterEnv} {u : Loopholes} {body : RuleBody}

variable {r : DefaultRule RuleItem}

lemma newDefaultDNSRule_apart {o : DefaultDNSRuleOptions} (h : newDefaultDNSRule lib o = .ok r) :
    AddressesApart readsAddresses r := by
  have hgrouped := (newDefaultDNSRule_wellPlaced h).toWellGrouped
  obtain ⟨parsed, hp, rfl⟩ := newDefaultDNSRule_ok h
  exact placeItems_apart hp fun i hi => ungrouped_reads (hgrouped.ungrouped i hi)

variable (hl : Loaded lib env) (hb : ∀ r ∈ body.leaves, ∃ o, newDefaultDNSRule lib o = .ok r)
  (hcovers : ∀ r ∈ body.leaves, ∀ i ∈ r.allItems, u.Covers env i)
  (hlimit : DNSRuleBody.withAddressLimit env body = false)

include hl hb hcovers hlimit

lemma DefaultDNSRule.matchAddressLimit_agree (hr : r ∈ body.leaves) :
    Agree (AlikeIn (u.Shut env.toEnv)) (DefaultDNSRule.matchAddressLimit env r)
      (DefaultDNSRule.matchAddressLimit env r) := by
  obtain ⟨o, ho⟩ := hb r hr
  refine matchItems_agree hl (newDefaultDNSRule_wellPlaced ho).toWellGrouped
    (newDefaultDNSRule_apart ho) (hcovers r hr) ?_
  exact Bool.not_eq_true _ ▸ List.any_eq_false.1 hlimit r hr

lemma DefaultDNSRule.matchRule_agree (hr : r ∈ body.leaves) :
    Agree (AlikeIn (u.Shut env.toEnv)) (DefaultDNSRule.matchRule env r)
      (DefaultDNSRule.matchAddressLimit env r) := by
  intro m m' h
  have hm : AlikeIn (u.Shut env.toEnv) (m.ignoring true) m' := ⟨h.1, h.2.ignoring true⟩
  obtain ⟨hanswer, halike, hshut⟩ :=
    DefaultDNSRule.matchAddressLimit_agree hl hb hcovers hlimit hr _ _ hm
  exact ⟨hanswer, halike, hshut.ignoring false⟩

lemma DNSRuleBody.matchRule_agree :
    Agree (AlikeIn (u.Shut env.toEnv)) (DNSRuleBody.matchRule env body)
      (DNSRuleBody.matchAddressLimit env body) := by
  apply eval_agree
  · exact fun m m' h => ⟨h.1.resetRuleCache, h.2.resetRuleCache⟩
  · exact fun _ _ _ => rfl
  · exact fun r hr => DefaultDNSRule.matchRule_agree hl hb hcovers hlimit hr

end Agreement

def presented (m : InboundContext) (addresses : List IPAddr) : InboundContext :=
  ((m.withAddresses addresses).ignoring false).resetRuleCache

/-- What is selected does not depend on the addresses, and the check of a response that is skipped
would pass. -/
def DNSIndependent (env : RouterEnv) (body : RuleBody) (m : InboundContext) : Prop :=
  ∀ addresses addresses',
    (DNSRuleBody.matchRule env body (presented m addresses)).1 =
      (DNSRuleBody.matchRule env body (presented m addresses')).1 ∧
    ((DNSRuleBody.matchRule env body (presented m addresses)).1 = true →
      (DNSRuleBody.matchAddressLimit env body (presented m addresses')).1 = true)

def RouteIndependent (env : RouterEnv) (body : RuleBody) (m : InboundContext) : Prop :=
  ∀ addresses addresses', (body.matchRule (matchItem env) (presented m addresses)).1 =
    (body.matchRule (matchItem env) (presented m addresses')).1

structure AddressIndependent (lib : Library) (host : Env) (u : Loopholes) (m : InboundContext) : Prop where
  dns : ∀ env : RouterEnv, env.toEnv = host → Loaded lib env →
    ∀ (options : DNSRuleOptions) (checkServer : Bool) (rule : DNSRule),
      options.newDNSRule lib checkServer = .ok rule →
      (∀ r ∈ rule.body.leaves, ∀ i ∈ r.allItems, u.Covers env i) →
      DNSRuleBody.withAddressLimit env rule.body = false → DNSIndependent env rule.body m
  route : ∀ env : RouterEnv, env.toEnv = host → Loaded lib env →
    ∀ (options : RuleOptions) (checkOutbound : Bool) (rule : Rule),
      options.newRule lib checkOutbound = .ok rule →
      (∀ r ∈ rule.body.leaves, ∀ i ∈ r.allItems, u.Covers env i) →
      rule.containsDestinationIPCIDRRule env = false → RouteIndependent env rule.body m

variable {lib : Library} {host : Env} {u : Loopholes} {m : InboundContext}

lemma presented_alike (hm : u.Shut host m) (addresses addresses' : List IPAddr) :
    AlikeIn (u.Shut host) (presented m addresses) (presented m addresses') := ⟨rfl, hm⟩

section Shut

variable {env : RouterEnv} (hl : Loaded lib env) (hm : u.Shut env.toEnv m)
include hl hm

lemma dnsIndependent_of_shut {options : DNSRuleOptions} {checkServer : Bool} {rule : DNSRule}
    (hrule : options.newDNSRule lib checkServer = .ok rule)
    (hcovers : ∀ r ∈ rule.body.leaves, ∀ i ∈ r.allItems, u.Covers env i)
    (hlimit : DNSRuleBody.withAddressLimit env rule.body = false) : DNSIndependent env rule.body m := by
  intro addresses addresses'
  have hb : ∀ r ∈ rule.body.leaves, ∃ o, newDefaultDNSRule lib o = .ok r := by
    intro r hr
    obtain ⟨o, -, ho⟩ := exists_left_of_forall₂ (DNSRuleOptions.newDNSRule_leaves options hrule) hr
    exact ⟨o.2, ho⟩
  have hagree := DNSRuleBody.matchRule_agree hl hb hcovers hlimit
  have h := fun addresses => (hagree _ _ (presented_alike hm addresses addresses')).1
  exact ⟨(h addresses).trans (h addresses').symm, fun hmatch => (h addresses).symm.trans hmatch⟩

lemma routeIndependent_of_shut {options : RuleOptions} {checkOutbound : Bool} {rule : Rule}
    (hrule : options.newRule lib checkOutbound = .ok rule)
    (hcovers : ∀ r ∈ rule.body.leaves, ∀ i ∈ r.allItems, u.Covers env i)
    (hlimit : rule.containsDestinationIPCIDRRule env = false) : RouteIndependent env rule.body m := by
  intro addresses addresses'
  refine (RuleBody.matchRule_agree hl (fun r hr => ?_) _ _
    (presented_alike hm addresses addresses')).1
  obtain ⟨o, -, ho⟩ := RuleOptions.newRule_leaves options hrule r hr
  exact ⟨newDefaultRule_wellGrouped ho, newDefaultRule_apart ho, hcovers r hr,
    Bool.not_eq_true _ ▸ List.any_eq_false.1 hlimit r hr⟩

end Shut

lemma AddressIndependent.of_shut (hm : u.Shut host m) : AddressIndependent lib host u m where
  dns := by
    rintro env rfl hl options checkServer rule hrule hcovers hlimit
    exact dnsIndependent_of_shut hl hm hrule hcovers hlimit
  route := by
    rintro env rfl hl options checkOutbound rule hrule hcovers hlimit
    exact routeIndependent_of_shut hl hm hrule hcovers hlimit

def onlyRuleSet (host : Env) (s : RuleSet) : RouterEnv where
  toEnv := host
  geosite _ := []
  ruleSet _ := s

lemma onlyRuleSet_loaded (rules : List HeadlessRuleOptions) {s : RuleSet}
    (h : reloadRules lib rules = .ok s) : Loaded lib (onlyRuleSet host s) :=
  ⟨fun _ => ⟨[], [], [], [], rfl⟩, fun _ => ⟨rules, h⟩⟩

def sourceCodeRule (codes : List String) : DefaultRule RuleItem where
  sourceAddressItems := [.geoIP true codes]

variable {env : RouterEnv}

lemma sourceCodeRule_match {codes : List String} (hm : m.flags = {}) :
    ((sourceCodeRule codes).matchRule (matchItem env) isRuleSet m).1 =
      (GeoIPItem.matchItem env.toEnv true codes m.markDidMatch).1 := by
  have hflags : (GeoIPItem.matchItem env.toEnv true codes m.markDidMatch).2.flags.matched .sourceAddress =
      false := by
    rw [(geoIP_touches (fun _ => False) true codes).matched _ id]
    simp [markDidMatch, hm]
  cases hfound : (GeoIPItem.matchItem env.toEnv true codes m.markDidMatch).1 <;>
    simp [sourceCodeRule, matchRule, allItems, checkGroups,
      checkGroup, anyS_singleton, matchItem, hm, hfound, hflags, conclude,
      missing, declares, setMatched, MatchFlags.set]

lemma AddressIndependent.sourceGeoIP (h : AddressIndependent lib host u m) (hu : u.sourceGeoIP = true) :
    m.source.addr.isSome = true ∨ m.sourceGeoIPCode ≠ "" ∨
      ∀ addr, GeoIPItem.lookupCode host addr = "" := by
  by_contra hnot
  simp only [not_or, not_forall] at hnot
  obtain ⟨hsource, hcode, addr, haddr⟩ := hnot
  have hindep := h.route (onlyRuleSet host ⟨[], false⟩) rfl (onlyRuleSet_loaded [] rfl)
    (.default { sourceGeoIP := [GeoIPItem.lookupCode host addr], outbound := "direct" }) true
    { outbound := "direct", skipResolve := false,
      body := .leaf (sourceCodeRule [GeoIPItem.lookupCode host addr]) } rfl
    (by simp [leaves, sourceCodeRule, allItems, Loopholes.Covers, hu]) rfl [] [addr]
  simp only [RuleBody.matchRule, eval] at hindep
  rw [sourceCodeRule_match rfl, sourceCodeRule_match rfl] at hindep
  have hnone : m.source.addr = none := by simpa using hsource
  simp [GeoIPItem.matchItem, GeoIPItem.cachedCode, presented, markDidMatch,
    withFlags, resetRuleCache, ignoring,
    withAddresses, hcode, hnone, anyS_singleton, GeoIPItem.matchAddr, onlyRuleSet, haddr] at hindep

def emptySetRule (lib : Library) (invert : Bool) : RuleSet :=
  ⟨[.leaf { destinationIPCIDRItems := [.ipCIDR false (lib.contains [])], invert }], true⟩

lemma emptySetRule_loaded (invert : Bool) :
    reloadRules lib [.default { ipSet := some [], invert }] = .ok (emptySetRule lib invert) := rfl

def sourceSetRule : DefaultRule RuleItem where
  items := [.ruleSet ["set"] true false]

lemma sourceSetRule_match :
    (sourceSetRule.matchRule (matchItem env) isRuleSet m).1 =
      ((env.ruleSet "set").matchSet env.toEnv (enterRuleSet true false m)).1 := by
  have hitem : matchItem env (.ruleSet ["set"] true false) m =
      (env.ruleSet "set").matchSet env.toEnv (enterRuleSet true false m) := anyS_singleton _
  cases hfound : ((env.ruleSet "set").matchSet env.toEnv (enterRuleSet true false m)).1 <;>
    simp [sourceSetRule, matchRule, allItems, checkGroups,
      checkGroup, allS_cons, visitItem, isRuleSet, hitem, hfound,
      conclude, missing, declares]

variable (lib host) in
lemma emptySetRule_match (invert : Bool) (hback : m.dnsFallBack = false) (hfake : m.fakeIPFilter = false)
    (hm : m.flags = {}) :
    ((emptySetRule lib invert).matchSet host (enterRuleSet true false m)).1 =
      (m.ignoreDestinationIPCIDRMatch || (lib.contains [] m.source.addr != invert)) := by
  rw [RuleSet.matchSet, emptySetRule, anyS_singleton, HeadlessRule.matchRule_eq]
  cases hignore : m.ignoreDestinationIPCIDRMatch <;> cases hc : lib.contains [] m.source.addr <;>
    simp [HeadlessRule.answer, DefaultHeadlessRule.verdict, verdict, allItems,
      completes, flagsAfter, declares, satisfies,
      groupItems, Group.all, HeadlessItem.holds, ipCIDRHolds, enterRuleSet, hback, hfake, hm,
      hignore, hc]

lemma AddressIndependent.matchSource (h : AddressIndependent lib host u m) (hu : u.matchSource = true) :
    m.dnsFallBack = true ∨ m.fakeIPFilter = true := by
  by_contra hnot
  simp only [not_or, Bool.not_eq_true] at hnot
  have hcheck := (h.dns _ rfl (onlyRuleSet_loaded _ (emptySetRule_loaded (lib.contains [] m.source.addr)))
    (.default [] { ruleSet := ["set"], ruleSetIPCIDRMatchSource := true, server := "local" } {} false) true
    { body := .leaf sourceSetRule, server := "local" } rfl
    (by simp [leaves, sourceSetRule, allItems, Loopholes.Covers, hu]) rfl [] []).2
  simp only [DNSRuleBody.matchRule, DNSRuleBody.matchAddressLimit, eval,
    DefaultDNSRule.matchRule, DefaultDNSRule.matchAddressLimit, sourceSetRule_match] at hcheck
  -- The pre-match skips the rule of the set; the check of a response would apply it to the source.
  have hpre := emptySetRule_match lib host (m := (presented m []).ignoring true)
    (lib.contains [] m.source.addr) hnot.1 hnot.2 rfl
  have hpost := emptySetRule_match lib host (m := presented m []) (lib.contains [] m.source.addr)
    hnot.1 hnot.2 rfl
  have hsame : (lib.contains [] m.source.addr != lib.contains [] m.source.addr) = true :=
    hpost.symm.trans (hcheck hpre)
  simp at hsame

def localOnly : RouterEnv :=
  onlyRuleSet { Env.bare with isPublicAddr := fun _ => false } (emptySetRule .bare false)

end SingBox.Dns
