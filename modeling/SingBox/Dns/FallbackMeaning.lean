import SingBox.Dns.Exchange
import SingBox.Dns.RuleBuilder
import SingBox.Route.GeoIPCache

namespace SingBox.Dns

open Route Lib.Search Lib.Errors RuleItem FallbackRule List

def responseContext (addrs : List IPAddr) (code : String) : InboundContext :=
  { destinationAddresses := addrs, geoIPCode := code, dnsFallBack := true }

namespace FallBackRuleOptions

variable (env : RouterEnv) (lib : Library) (rt : Router) (domain : String) (allowFakeIP : Bool)
  (o : FallBackRuleOptions) (addrs : List IPAddr)

def modeHolds : Bool :=
  o.clashMode.isEmpty || env.clashMode.any fun mode => o.clashMode.any (env.equalFold mode)

def cidrMatches (addr : IPAddr) : Bool :=
  match HeadlessItem.parseIPSet lib o.ipCIDR with
  | .ok ipSet => !o.ipCIDR.isEmpty && lib.contains ipSet (some addr)
  | .error _ => false

def privateMatches (addr : IPAddr) : Bool := o.ipIsPrivate && !env.isPublicAddr addr

def setsMatch : Bool :=
  o.ruleSet.any fun tag =>
    (env.ruleSet tag).rules.any (HeadlessRule.answer env.toEnv (responseContext addrs ""))

def declared : Bool := !o.ipCIDR.isEmpty || !o.geoIP.isEmpty || o.ipIsPrivate || !o.ruleSet.isEmpty

def matchesAddr (addr : IPAddr) : Bool :=
  o.cidrMatches lib addr || o.privateMatches env addr || geoIPMatches env.toEnv o.geoIP addr ||
    o.setsMatch env [addr]

def holds : Bool :=
  o.matchAll || xor (o.modeHolds env && (!o.declared || addrs.any (o.matchesAddr env lib))) o.invert

def usable : Bool :=
  o.acceptResult || o.server == "" ||
    (rt.transportMap o.server).any fun transport => !transport.refused allowFakeIP { domain }

def earlyMatch : Bool := addrs.any fun addr => o.cidrMatches lib addr || o.privateMatches env addr

def answer (code : String) : Bool :=
  o.matchAll || xor (o.modeHolds env && (o.earlyMatch env lib addrs ||
    (if code != "" then o.geoIP.contains code else addrs.any (geoIPMatches env.toEnv o.geoIP)) ||
      o.setsMatch env addrs)) o.invert

def consultsGeoIP : Bool :=
  !o.matchAll && o.modeHolds env && !o.earlyMatch env lib addrs && !o.geoIP.isEmpty

def codeAfter (code : String) : String :=
  if o.consultsGeoIP env lib addrs && code == "" then GeoIPItem.foundCode env.toEnv o.geoIP addrs
  else code

end FallBackRuleOptions

variable (env : RouterEnv) (lib : Library) (rt : Router) (domain : String) (allowFakeIP : Bool)
  (addrs : List IPAddr) (options : List FallBackRuleOptions)

def codeLeft : String := options.foldl (fun code o => o.codeAfter env lib addrs code) ""

def FallbackRule.usable (rule : FallbackRule) : Bool :=
  rule.acceptResult || rule.server == "" ||
    (rt.transportMap rule.server).any fun transport => !transport.refused allowFakeIP { domain }

def FallbackRule.taken (rule : FallbackRule) : Option (FallbackRule × Option Transport) :=
  if rule.acceptResult then none
  else some (rule, if rule.server == "" then none else rt.transportMap rule.server)

def fallbackIndex : List FallbackRule → InboundContext → Option ℕ
  | [], _ => none
  | rule :: rules, m =>
    let result := rule.matchRule env m.resetRuleCache
    if result.1 && rule.usable rt domain allowFakeIP then some 0
    else (fallbackIndex rules result.2).map (· + 1)

def firstFallback : Option (List FallBackRuleOptions × FallBackRuleOptions) :=
  first (fun _ o => o.holds env lib addrs && o.usable rt domain allowFakeIP) [] options

structure FallbackMeaning (rules : List FallbackRule) : Prop where
  matches_eq : List.Forall₂ (fun o rule =>
    (matchRule env rule (responseContext addrs "")).1 = o.holds env lib addrs) options rules
  index_eq : fallbackIndex env rt domain allowFakeIP rules (responseContext addrs "") =
    (firstFallback env lib rt domain allowFakeIP addrs options).map fun x => x.1.length
  result_eq : matchFallbackRules env rt domain addrs rules allowFakeIP =
    (firstFallback env lib rt domain allowFakeIP addrs options).bind fun x =>
      rules[x.1.length]?.bind (taken rt)

/-- A rule that gets past its mode has an address condition, and none of its rule-sets matches the
empty response. A code left in the metadata says of a later rule what the addresses say. -/
structure FallbackRegular : Prop where
  conditions : ∀ o ∈ options, o.matchAll = false → o.modeHolds env = true →
    o.declared = true ∧ (addrs = [] → o.setsMatch env [] = false)
  codes : ∀ passed o after, options = passed ++ o :: after →
    (∀ b ∈ passed, (b.holds env lib addrs && b.usable rt domain allowFakeIP) = false) →
    o.usable rt domain allowFakeIP = true → o.consultsGeoIP env lib addrs = true →
    o.setsMatch env addrs = false → codeLeft env lib addrs passed ≠ "" →
    o.geoIP.contains (codeLeft env lib addrs passed) = addrs.any (geoIPMatches env.toEnv o.geoIP)

variable {env : RouterEnv} {addrs : List IPAddr} {code : String}

lemma HeadlessItem.holds_response (h : addrs ≠ []) (item : HeadlessItem) :
    item.holds env.toEnv (responseContext addrs code) =
      addrs.any fun addr => item.holds env.toEnv (responseContext [addr] code) := by
  cases item with
  | ipCIDR isSource ipSet =>
    cases isSource with
    | true => exact (any_const h _).symm
    | false =>
      cases addrs with
      | nil => exact absurd rfl h
      | cons addr addrs =>
        simp [HeadlessItem.holds, ipCIDRHolds, responseContext, Socksaddr.isIP]
  | _ => exact (any_const h _).symm

lemma HeadlessRule.answer_response_code (rule : HeadlessRule) :
    rule.answer env.toEnv (responseContext addrs code) =
      rule.answer env.toEnv (responseContext addrs "") := by
  cases rule with
  | leaf r =>
    exact DefaultHeadlessRule.verdict_withCodes env.toEnv (responseContext addrs "") "" code r
  | node mode rules invert => rfl

lemma HeadlessRule.answer_response (h : addrs ≠ []) (rule : HeadlessRule) :
    rule.answer env.toEnv (responseContext addrs code) =
      addrs.any fun addr => rule.answer env.toEnv (responseContext [addr] code) := by
  cases rule with
  | leaf r =>
    cases he : r.allItems.isEmpty with
    | true => simpa [HeadlessRule.answer, DefaultHeadlessRule.verdict, he] using (any_const h true).symm
    | false =>
      have hverdict : ∀ addrs, HeadlessRule.answer env.toEnv (responseContext addrs code) (.leaf r) =
          r.destinationIPCIDRItems.any fun i => i.holds env.toEnv (responseContext addrs code) := by
        intro addrs
        simp [HeadlessRule.answer, DefaultHeadlessRule.verdict, he, responseContext]
      rw [hverdict, funext fun i => HeadlessItem.holds_response h i, Bool.eq_iff_iff]
      simp only [hverdict, any_eq_true]
      tauto
  | node mode rules invert => exact (any_const h false).symm

lemma HeadlessRule.leave_response (rule : HeadlessRule) :
    rule.leave env.toEnv (responseContext addrs code) = responseContext addrs code := by
  cases rule with
  | leaf r =>
    rw [HeadlessRule.leave, DefaultHeadlessRule.leave, DefaultHeadlessRule.groupwise]
    simp [responseContext]
  | node mode rules invert => cases mode <;> rfl

lemma matchSet_response (s : RuleSet) :
    s.matchSet env.toEnv (responseContext addrs code) =
      (s.rules.any (HeadlessRule.answer env.toEnv (responseContext addrs "")),
        responseContext addrs code) := by
  apply anyS_pure
  intro rule _
  rw [HeadlessRule.matchRule_eq, HeadlessRule.answer_response_code, HeadlessRule.leave_response]

lemma ruleSet_response (tags : List String) :
    matchItem env (.ruleSet tags false false) (responseContext addrs code) =
      (tags.any fun tag =>
        (env.ruleSet tag).rules.any (HeadlessRule.answer env.toEnv (responseContext addrs "")),
        responseContext addrs code) := by
  have hsets : anyS (fun s m => RuleSet.matchSet env.toEnv s m) (tags.map env.ruleSet)
      (responseContext addrs code) =
        ((tags.map env.ruleSet).any fun s =>
          s.rules.any (HeadlessRule.answer env.toEnv (responseContext addrs "")),
          responseContext addrs code) := anyS_pure fun s _ => matchSet_response s
  rw [any_map] at hsets
  exact hsets

@[simp] lemma any_geoIPMatches_nil : addrs.any (geoIPMatches env.toEnv []) = false := by
  simp [geoIPMatches]

lemma geoIP_response (codes : List String) :
    matchItem env (.geoIP false codes) (responseContext addrs code) =
      (if code != "" then codes.contains code else addrs.any (geoIPMatches env.toEnv codes),
        responseContext addrs
          (if code == "" then GeoIPItem.foundCode env.toEnv codes addrs else code)) := by
  by_cases hcode : code = ""
  · subst hcode
    exact GeoIPItem.anyS_matchAddr addrs
  · simp [matchItem, GeoIPItem.matchItem, GeoIPItem.cachedCode, responseContext, hcode]

section Rules

open FallBackRuleOptions

variable {env : RouterEnv} {lib : Library} {addrs : List IPAddr} {code : String}
  {o : FallBackRuleOptions} {rule : FallbackRule}

lemma newFallbackRules_ok {options : List FallBackRuleOptions} {rules : List FallbackRule} :
    newFallbackRules lib options = .ok rules ↔
      List.Forall₂ (fun o rule => newFallbackRule lib 0 o = .ok rule) options rules :=
  mapFrom_eq_ok (g := newFallbackRule lib 0) fun _ _ _ => .rfl

variable {ipCIDR : List HeadlessItem}

lemma cidrItems_response
    (h : parseList "ipcidr" o.ipCIDR (HeadlessItem.newIPCIDRItem lib false) = .ok ipCIDR) :
    anyS (matchItem env) (ipCIDR.map ofHeadless) (responseContext addrs code) =
      (addrs.any (o.cidrMatches lib), responseContext addrs code) := by
  rw [parseList] at h
  split_ifs at h with he
  · cases h
    have hnone : o.cidrMatches lib = fun _ => false := by
      funext addr
      rw [cidrMatches]
      split <;> simp [he]
    simp [hnone]
  · rw [HeadlessItem.newIPCIDRItem] at h
    cases hset : HeadlessItem.parseIPSet lib o.ipCIDR with
    | error err =>
      rw [hset] at h
      cases h
    | ok ipSet =>
      rw [hset] at h
      cases h
      have hmatches : o.cidrMatches lib = fun addr => lib.contains ipSet (some addr) := by
        funext addr
        simp [cidrMatches, hset, he]
      rw [map_singleton, anyS_singleton, hmatches]
      refine Prod.ext ?_ rfl
      cases addrs <;> rfl

lemma privateItems_response :
    anyS (matchItem env) (fromFlag o.ipIsPrivate (.plain (.ipIsPrivate false)))
      (responseContext addrs code) = (addrs.any (o.privateMatches env), responseContext addrs code) := by
  have hmatches : o.privateMatches env = fun addr => o.ipIsPrivate && !env.isPublicAddr addr := rfl
  rw [hmatches, fromFlag]
  cases o.ipIsPrivate with
  | true => exact anyS_singleton _
  | false => simp

lemma geoIPItems_response :
    anyS (matchItem env) (fromList o.geoIP (.geoIP false)) (responseContext addrs code) =
      (if code != "" then o.geoIP.contains code else addrs.any (geoIPMatches env.toEnv o.geoIP),
        responseContext addrs (if !o.geoIP.isEmpty && code == "" then
          GeoIPItem.foundCode env.toEnv o.geoIP addrs else code)) := by
  rw [fromList]
  cases hcodes : o.geoIP with
  | nil => simp
  | cons c codes => simpa using (anyS_singleton _).trans (geoIP_response (c :: codes))

lemma ruleSetItems_response :
    anyS (matchItem env) (fromList o.ruleSet fun l => .ruleSet l false false)
      (responseContext addrs code) = (o.setsMatch env addrs, responseContext addrs code) := by
  rw [setsMatch]
  cases o.ruleSet with
  | nil => rfl
  | cons tag tags => exact (anyS_singleton _).trans (ruleSet_response (tag :: tags))

lemma modeItems_response {m : InboundContext} :
    allS (matchItem env) (fromList o.clashMode fun l => .plain (.clashMode l)) m =
      (o.modeHolds env, m) := by
  rw [modeHolds, fromList]
  cases o.clashMode with
  | nil => rfl
  | cons mode modes =>
    rw [if_neg (by simp), allS_cons]
    split_ifs with h
    · exact Prod.ext h.symm rfl
    · exact Prod.ext (Bool.eq_false_of_not_eq_true h).symm rfl

lemma addressItems_response
    (h : parseList "ipcidr" o.ipCIDR (HeadlessItem.newIPCIDRItem lib false) = .ok ipCIDR) :
    anyS (matchItem env) (map ofHeadless ipCIDR ++
        fromFlag o.ipIsPrivate (.plain (.ipIsPrivate false)) ++ fromList o.geoIP (.geoIP false) ++
          fromList o.ruleSet fun l => .ruleSet l false false) (responseContext addrs code) =
      (o.earlyMatch env lib addrs ||
        (if code != "" then o.geoIP.contains code else addrs.any (geoIPMatches env.toEnv o.geoIP)) ||
          o.setsMatch env addrs,
        responseContext addrs (if !o.earlyMatch env lib addrs && !o.geoIP.isEmpty && code == "" then
          GeoIPItem.foundCode env.toEnv o.geoIP addrs else code)) := by
  have hearly : anyS (matchItem env) (map ofHeadless ipCIDR ++
      fromFlag o.ipIsPrivate (.plain (.ipIsPrivate false))) (responseContext addrs code) =
        (o.earlyMatch env lib addrs, responseContext addrs code) := by
    have hany : o.earlyMatch env lib addrs =
        (addrs.any (o.cidrMatches lib) || addrs.any (o.privateMatches env)) := by
      rw [earlyMatch, Bool.eq_iff_iff]
      simp only [any_eq_true, Bool.or_eq_true, and_or_left, exists_or]
    rw [anyS_append, cidrItems_response h, privateItems_response, hany]
    cases addrs.any (o.cidrMatches lib) <;> rfl
  rw [anyS_append, anyS_append, hearly, geoIPItems_response]
  cases o.earlyMatch env lib addrs with
  | true => simp
  | false =>
    generalize (if code != "" then o.geoIP.contains code else
      addrs.any (geoIPMatches env.toEnv o.geoIP)) = found
    cases found <;> simp [ruleSetItems_response]

lemma matchRule_response (h : newFallbackRule lib 0 o = .ok rule) :
    rule.matchRule env (responseContext addrs code) =
      (o.answer env lib addrs code, responseContext addrs (o.codeAfter env lib addrs code)) := by
  obtain ⟨ipCIDR, hparse, hrule⟩ := bind_eq_ok.1 h
  cases hrule
  rw [matchRule, answer, codeAfter,
    consultsGeoIP]
  cases o.matchAll with
  | true => rfl
  | false =>
    simp only [modeItems_response, addressItems_response hparse]
    cases o.modeHolds env <;> simp

lemma usable_response {rt : Router} {domain : String} {allowFakeIP : Bool}
    (h : newFallbackRule lib 0 o = .ok rule) :
    rule.usable rt domain allowFakeIP = o.usable rt domain allowFakeIP := by
  obtain ⟨ipCIDR, -, hrule⟩ := bind_eq_ok.1 h
  cases hrule
  rfl

lemma setsMatch_response (h : addrs ≠ []) :
    o.setsMatch env addrs = addrs.any fun addr => o.setsMatch env [addr] := by
  rw [Bool.eq_iff_iff]
  simp only [setsMatch, any_eq_true, HeadlessRule.answer_response h]
  tauto

variable (env lib addrs) in
lemma not_declared (h : o.declared = false) :
    o.earlyMatch env lib addrs = false ∧ addrs.any (geoIPMatches env.toEnv o.geoIP) = false ∧
      o.setsMatch env addrs = false := by
  simp only [declared, Bool.or_eq_false_iff, Bool.not_eq_false', List.isEmpty_iff] at h
  obtain ⟨⟨⟨hcidr, hgeo⟩, hprivate⟩, hsets⟩ := h
  refine ⟨?_, by simp [hgeo], by simp [setsMatch, hsets]⟩
  have hnone : ∀ addr, o.cidrMatches lib addr = false := by
    intro addr
    rw [cidrMatches]
    split <;> simp [hcidr]
  simp [earlyMatch, hnone, privateMatches, hprivate]

lemma matchesAddr_response (h : addrs ≠ []) :
    addrs.any (o.matchesAddr env lib) = (o.earlyMatch env lib addrs ||
      addrs.any (geoIPMatches env.toEnv o.geoIP) || o.setsMatch env addrs) := by
  rw [setsMatch_response h, Bool.eq_iff_iff]
  simp only [earlyMatch, matchesAddr, any_eq_true,
    Bool.or_eq_true, and_or_left, exists_or]

lemma answer_eq_holds_iff :
    o.answer env lib addrs "" = o.holds env lib addrs ↔
      (o.matchAll = false → o.modeHolds env = true →
        o.declared = true ∧ (addrs = [] → o.setsMatch env [] = false)) := by
  have hcond : ((o.earlyMatch env lib addrs || addrs.any (geoIPMatches env.toEnv o.geoIP) ||
      o.setsMatch env addrs) = (!o.declared || addrs.any (o.matchesAddr env lib))) ↔
        o.declared = true ∧ (addrs = [] → o.setsMatch env [] = false) := by
    cases hd : o.declared with
    | false =>
      obtain ⟨hearly, hgeo, hsets⟩ := not_declared env lib addrs hd
      simp [hearly, hgeo, hsets]
    | true =>
      by_cases hne : addrs = []
      · subst hne
        simp [earlyMatch]
      · simp [matchesAddr_response hne, hne]
  rw [← hcond, answer, holds]
  cases o.matchAll <;> cases o.modeHolds env <;> simp

lemma answer_eq_fresh_iff :
    o.answer env lib addrs code = o.answer env lib addrs "" ↔
      (o.consultsGeoIP env lib addrs = true → o.setsMatch env addrs = false → code ≠ "" →
        o.geoIP.contains code = addrs.any (geoIPMatches env.toEnv o.geoIP)) := by
  rw [answer, answer, consultsGeoIP]
  by_cases hcode : code = ""
  · simp [hcode]
  · cases hgeo : o.geoIP with
    | nil => simp
    | cons c codes =>
      cases o.matchAll <;> cases o.modeHolds env <;> cases o.earlyMatch env lib addrs <;>
        cases o.setsMatch env addrs <;> simp

end Rules

variable {env : RouterEnv} {lib : Library} {rt : Router} {domain : String} {allowFakeIP : Bool}
  {addrs : List IPAddr} {options : List FallBackRuleOptions} {rules : List FallbackRule}

variable (env rt domain allowFakeIP rules) in
lemma fallbackFrom_eq (m : InboundContext) :
    fallbackFrom env rt domain allowFakeIP rules m =
      (fallbackIndex env rt domain allowFakeIP rules m).bind fun i =>
        rules[i]?.bind (taken rt) := by
  induction rules generalizing m with
  | nil => rfl
  | cons rule rules ih =>
    rw [fallbackFrom, fallbackIndex]
    cases (rule.matchRule env m.resetRuleCache).1 with
    | false => simp [ih, Option.bind_map]
    | true =>
      cases haccept : rule.acceptResult with
      | true => simp [FallbackRule.usable, taken, haccept]
      | false =>
        by_cases hserver : rule.server = ""
        · simp [FallbackRule.usable, taken, haccept, hserver]
        · cases htransport : rt.transportMap rule.server with
          | none =>
            simp [FallbackRule.usable, haccept, hserver, htransport, ih, Option.bind_map]
          | some transport =>
            cases hrefused : transport.refused allowFakeIP { domain } <;>
              simp [FallbackRule.usable, taken, haccept, hserver, htransport, hrefused,
                ih, Option.bind_map]

variable (env rt domain allowFakeIP addrs) in
lemma fallbackIndex_eq
    (h : List.Forall₂ (fun o rule => newFallbackRule lib 0 o = .ok rule) options rules)
    (passed : List FallBackRuleOptions) :
    (fallbackIndex env rt domain allowFakeIP rules
        (responseContext addrs (codeLeft env lib addrs passed))).map (· + passed.length) =
      (first (fun before o => o.answer env lib addrs (codeLeft env lib addrs before) &&
        o.usable rt domain allowFakeIP) passed options).map fun x => x.1.length := by
  induction h generalizing passed with
  | nil => rfl
  | @cons o rule options rules ho _ ih =>
    have hcode : o.codeAfter env lib addrs (codeLeft env lib addrs passed) =
        codeLeft env lib addrs (passed ++ [o]) := by
      rw [codeLeft, codeLeft, foldl_append]
      rfl
    have hreset : (responseContext addrs (codeLeft env lib addrs passed)).resetRuleCache =
        responseContext addrs (codeLeft env lib addrs passed) := rfl
    rw [fallbackIndex, first, hreset, matchRule_response ho, usable_response ho, hcode]
    dsimp only
    split_ifs
    · simp
    · rw [← ih, Option.map_map, length_append]
      congr 1
      funext i
      simp only [Function.comp_apply, length_singleton]
      omega

lemma fallbackIndex_response
    (h : List.Forall₂ (fun o rule => newFallbackRule lib 0 o = .ok rule) options rules) :
    fallbackIndex env rt domain allowFakeIP rules (responseContext addrs "") =
      (first (fun before o => o.answer env lib addrs (codeLeft env lib addrs before) &&
        o.usable rt domain allowFakeIP) [] options).map fun x => x.1.length := by
  have hloop := fallbackIndex_eq env rt domain allowFakeIP addrs h []
  rwa [length_nil, funext Nat.add_zero, Option.map_id_fun'] at hloop

variable (env addrs) in
lemma forall₂_answers_iff
    (h : List.Forall₂ (fun o rule => newFallbackRule lib 0 o = .ok rule) options rules) :
    List.Forall₂ (fun o rule => (matchRule env rule (responseContext addrs "")).1 =
        o.holds env lib addrs) options rules ↔
      ∀ o ∈ options, o.answer env lib addrs "" = o.holds env lib addrs := by
  induction h with
  | nil => simp
  | cons ho _ ih =>
    rw [forall₂_cons, ih, forall_mem_cons, matchRule_response ho]

theorem fallback_rules_iff (h : newFallbackRules lib options = .ok rules) :
    FallbackMeaning env lib rt domain allowFakeIP addrs options rules ↔
      FallbackRegular env lib rt domain allowFakeIP addrs options := by
  have hbuilt := newFallbackRules_ok.1 h
  have hmatches := (forall₂_answers_iff env addrs hbuilt).trans
    (forall₂_congr fun o _ => answer_eq_holds_iff)
  have hindex : (∀ o ∈ options, o.answer env lib addrs "" = o.holds env lib addrs) →
      (fallbackIndex env rt domain allowFakeIP rules (responseContext addrs "") =
        (firstFallback env lib rt domain allowFakeIP addrs options).map (fun x => x.1.length) ↔
      ∀ passed o after, options = passed ++ o :: after →
        (∀ b ∈ passed, (b.holds env lib addrs && b.usable rt domain allowFakeIP) = false) →
        o.usable rt domain allowFakeIP = true → o.consultsGeoIP env lib addrs = true →
        o.setsMatch env addrs = false → codeLeft env lib addrs passed ≠ "" →
        o.geoIP.contains (codeLeft env lib addrs passed) =
          addrs.any (geoIPMatches env.toEnv o.geoIP)) := by
    intro hfresh
    rw [fallbackIndex_response hbuilt]
    refine .trans ⟨first_eq_of_length_eq, fun h => congrArg _ h⟩ (first_eq_iff.trans ?_)
    refine forall₃_congr fun passed o after => forall₂_congr fun hsplit _ => ?_
    have ho : o ∈ options := by simp [hsplit]
    rw [← hfresh o ho]
    cases o.usable rt domain allowFakeIP with
    | false => simp
    | true => simpa using answer_eq_fresh_iff
  constructor
  · rintro ⟨hanswers, hfirst, -⟩
    have hfresh := (forall₂_answers_iff env addrs hbuilt).1 hanswers
    exact ⟨hmatches.1 hanswers, (hindex hfresh).1 hfirst⟩
  · rintro ⟨hconditions, hcodes⟩
    have hanswers := hmatches.2 hconditions
    have hfirst := (hindex ((forall₂_answers_iff env addrs hbuilt).1 hanswers)).2 hcodes
    refine ⟨hanswers, hfirst, ?_⟩
    have hresult := fallbackFrom_eq env rt domain allowFakeIP rules (responseContext addrs "")
    rw [hfirst, Option.bind_map] at hresult
    exact hresult

def noServers : Router := { dnsRules := [], transportMap := fun _ => none }

theorem fallback_rules_loopback : ∃ rules, newFallbackRules .bare [{ ipCIDR := ["127.0.0.1"] }] = .ok rules ∧
    FallbackMeaning .bare .bare noServers "" false [.v4 0x7F000001#32] [{ ipCIDR := ["127.0.0.1"] }] rules := by
  refine ⟨_, rfl, (fallback_rules_iff rfl).2 ⟨by simp [FallBackRuleOptions.declared], ?_⟩⟩
  intro passed o after hsplit _ _ hgeo
  have ho : o ∈ passed ++ o :: after := by simp
  rw [← hsplit, mem_singleton] at ho
  rw [ho] at hgeo
  exact absurd hgeo (by decide +kernel)

theorem fallback_rules_misread :
    (∃ rules, newFallbackRules .bare [{ clashMode := ["rule"] }] = .ok rules ∧
      ¬ FallbackMeaning { RouterEnv.bare with clashMode := some "rule" } .bare noServers "" false []
        [{ clashMode := ["rule"] }] rules) ∧
    ∃ rules, newFallbackRules .bare [{ geoIP := ["jp"] }, { geoIP := ["cn"] }] = .ok rules ∧
      ¬ FallbackMeaning { RouterEnv.bare with toEnv := GeoIPItem.twoCountries } .bare noServers "" false
        [.v4 0x01000001#32, .v4 0x02000001#32] [{ geoIP := ["jp"] }, { geoIP := ["cn"] }] rules :=
  ⟨⟨_, rfl, fun h => absurd h.index_eq (by decide +kernel)⟩,
    ⟨_, rfl, fun h => absurd h.index_eq (by decide +kernel)⟩⟩

end SingBox.Dns
