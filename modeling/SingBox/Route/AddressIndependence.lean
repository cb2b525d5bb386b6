import SingBox.Route.HeadlessBuilder
import SingBox.Route.ItemEffects
import SingBox.Route.RouteMatch

namespace SingBox.Route

open Lib.Errors Lib.Search Lib.LogicTree InboundContext GeoIPItem List AndOrTree RuleSetItem

namespace InboundContext

def blind (m : InboundContext) : InboundContext := (m.withAddresses []).ignoring false

end InboundContext

def Alike (m m' : InboundContext) : Prop := m.blind = m'.blind

namespace Alike

variable {m m' : InboundContext}

lemma iff_exists : Alike m m' ↔ ∃ addresses ignore, m' = (m.withAddresses addresses).ignoring ignore := by
  constructor
  · intro h
    refine ⟨m'.destinationAddresses, m'.ignoreDestinationIPCIDRMatch, ?_⟩
    calc m' = (m'.blind.withAddresses m'.destinationAddresses).ignoring
          m'.ignoreDestinationIPCIDRMatch := rfl
      _ = (m.withAddresses m'.destinationAddresses).ignoring
          m'.ignoreDestinationIPCIDRMatch := by
        rw [← h]
        rfl
  · rintro ⟨addresses, ignore, rfl⟩
    rfl

lemma field {α : Type*} {g : InboundContext → α} (hg : ∀ m, g m.blind = g m) (h : Alike m m') :
    g m = g m' := by
  rw [← hg m, h, hg m']

lemma update {f : InboundContext → InboundContext} (hf : ∀ m, (f m).blind = (f m.blind).blind)
    (h : Alike m m') : Alike (f m) (f m') := by
  rw [Alike, hf m, h, ← hf m']

lemma flags (h : Alike m m') : m.flags = m'.flags := h.field (g := (·.flags)) fun _ => rfl

lemma dnsFallBack (h : Alike m m') : m.dnsFallBack = m'.dnsFallBack :=
  h.field (g := (·.dnsFallBack)) fun _ => rfl

lemma fakeIPFilter (h : Alike m m') : m.fakeIPFilter = m'.fakeIPFilter :=
  h.field (g := (·.fakeIPFilter)) fun _ => rfl

lemma withFlags (h : Alike m m') (f : MatchFlags) : Alike (m.withFlags f) (m'.withFlags f) :=
  h.update (f := (·.withFlags f)) fun _ => rfl

lemma resetRuleCache (h : Alike m m') : Alike m.resetRuleCache m'.resetRuleCache :=
  h.update fun _ => rfl

end Alike

namespace DefaultRule

variable {ι : Type*} {sem : ι → InboundContext → Bool × InboundContext} {isRuleSet : ι → Bool}
  {r : DefaultRule ι} {m m' : InboundContext} {K : InboundContext → Prop}

def AlikeIn (K : InboundContext → Prop) (m m' : InboundContext) : Prop := Alike m m' ∧ K m

lemma declares_noAddress (hip : r.destinationIPCIDRItems = []) (ignore ignore' : Bool) (g : Group) :
    r.declares ignore g = r.declares ignore' g := by
  cases g <;> simp [declares, hip]

lemma conclude_alike (hip : r.destinationIPCIDRItems = []) (h : Alike m m') :
    r.conclude m = r.conclude m' := by
  have hmissing : r.missing m = r.missing m' := by
    funext g
    rw [missing, missing, h.flags, declares_noAddress hip]
  rw [conclude_eq, conclude_eq, hmissing, h.flags]

lemma checkGroup_noItems (g : Group) (m : InboundContext) : checkGroup sem g [] m = m :=
  checkGroup_idle (.inl rfl)

variable (hK : ∀ m f, K m → K (m.withFlags f))

include hK

lemma checkGroup_alike {g : Group} {items : List ι}
    (hi : ∀ i ∈ items, Agree (AlikeIn K) (sem i) (sem i)) (h : AlikeIn K m m') :
    AlikeIn K (checkGroup sem g items m) (checkGroup sem g items m') := by
  have hmark : AlikeIn K m.markDidMatch m'.markDidMatch := by
    rw [markDidMatch, markDidMatch, h.1.flags]
    exact ⟨h.1.withFlags _, hK _ _ h.2⟩
  obtain ⟨hfound, halike, hin⟩ := anyS_agree hi _ _ hmark
  rw [checkGroup, checkGroup, h.1.flags]
  split_ifs
  · dsimp only
    rw [hfound]
    split_ifs
    · rw [setMatched, setMatched, halike.flags]
      exact ⟨halike.withFlags _, hK _ _ hin⟩
    · exact ⟨halike, hin⟩
  · exact h

theorem matchRule_agree (hip : r.destinationIPCIDRItems = [])
    (hitems : ∀ i ∈ r.items, Agree (AlikeIn K) (sem i) (sem i))
    (hgroups : ∀ g, ∀ i ∈ r.groupItems true g, Agree (AlikeIn K) (sem i) (sem i)) :
    Agree (AlikeIn K) (r.matchRule sem isRuleSet) (r.matchRule sem isRuleSet) := by
  intro m m' h
  have hchecked : AlikeIn K (r.checkGroups sem m) (r.checkGroups sem m') := by
    rw [checkGroups, checkGroups, hip]
    simp only [checkGroup_noItems, ite_self]
    apply checkGroup_alike hK (hgroups .destinationPort)
    apply checkGroup_alike hK fun i hi => hgroups .destinationAddress i (mem_append_left _ hi)
    apply checkGroup_alike hK (hgroups .sourcePort)
    exact checkGroup_alike hK (hgroups .sourceAddress) h
  have hvisit : ∀ i ∈ r.items,
      Agree (AlikeIn K) (visitItem sem isRuleSet i) (visitItem sem isRuleSet i) := by
    intro i hi m m' h
    rw [visitItem, visitItem]
    apply hitems i hi
    split_ifs
    · exact h
    · rw [markDidMatch, markDidMatch, h.1.flags]
      exact ⟨h.1.withFlags _, hK _ _ h.2⟩
  obtain ⟨hvisited, hleft⟩ := allS_agree hvisit _ _ hchecked
  rw [matchRule, matchRule]
  split_ifs
  · exact ⟨rfl, h⟩
  · dsimp only
    rw [hvisited, conclude_alike hip hleft.1]
    split_ifs
    · exact ⟨rfl, hleft⟩
    · exact ⟨rfl, hleft⟩

end DefaultRule

open DefaultRule (AlikeIn)

def HeadlessItem.readsAddresses : HeadlessItem → Bool
  | .ipCIDR isSource _ => !isSource
  | _ => false

namespace HeadlessItem

variable {env : Env} {m m' : InboundContext} {K : InboundContext → Prop} {i : HeadlessItem}

lemma holds_alike (hi : i.readsAddresses = false) (h : Alike m m') : i.holds env m = i.holds env m' := by
  obtain ⟨addresses, ignore, rfl⟩ := Alike.iff_exists.1 h
  cases i with
  | ipCIDR isSource ipSet =>
    cases isSource with
    | true => rfl
    | false => cases hi
  | _ => rfl

lemma holds_matchSource (hm : m.ipcidrMatchSource = true) (h : Alike m m') :
    i.holds env m = i.holds env m' := by
  obtain ⟨addresses, ignore, rfl⟩ := Alike.iff_exists.1 h
  cases i with
  | ipCIDR isSource ipSet => simp [holds, ipCIDRHolds, hm, withAddresses, ignoring]
  | _ => rfl

lemma matchItem_agree (hi : ∀ m m', AlikeIn K m m' → i.holds env m = i.holds env m') :
    Agree (AlikeIn K) (matchItem env i) (matchItem env i) :=
  fun m m' h => ⟨hi m m' h, h⟩

end HeadlessItem

def Shielded (m : InboundContext) : Prop :=
  (m.dnsFallBack = true ∧ m.ipcidrMatchSource = true) ∨ (m.dnsFallBack = false ∧ m.fakeIPFilter = true)

lemma Shielded.withFlags {m : InboundContext} (h : Shielded m) (f : MatchFlags) :
    Shielded (m.withFlags f) := h

structure AddressesApart {ι : Type*} (reads : ι → Bool) (r : DefaultRule ι) : Prop where
  items : ∀ i ∈ r.items, reads i = false
  groups : ∀ g, ∀ i ∈ r.groupItems true g, reads i = false

section Headless

variable {env : Env} {K : InboundContext → Prop} (hK : ∀ m f, K m → K (m.withFlags f))

include hK

lemma DefaultHeadlessRule.matchRule_agree {r : DefaultRule HeadlessItem}
    (hr : AddressesApart HeadlessItem.readsAddresses r)
    (hip : r.destinationIPCIDRItems = [] ∨ ∀ m, K m → Shielded m) :
    Agree (AlikeIn K) (matchRule env r) (matchRule env r) := by
  intro m m' h
  have hsearch : ∀ items : List HeadlessItem,
      (∀ i ∈ items, ∀ m₁ m₂, AlikeIn (· = m) m₁ m₂ → i.holds env m₁ = i.holds env m₂) →
      (anyS (HeadlessItem.matchItem env) items m).1 = (anyS (HeadlessItem.matchItem env) items m').1 ∧
        AlikeIn K (anyS (HeadlessItem.matchItem env) items m).2
          (anyS (HeadlessItem.matchItem env) items m').2 := by
    intro items hitems
    obtain ⟨hfound, halike, hm⟩ :=
      anyS_agree (fun i hi => HeadlessItem.matchItem_agree (hitems i hi)) m m' ⟨h.1, rfl⟩
    exact ⟨hfound, halike, hm.symm ▸ h.2⟩
  rw [matchRule, matchRule, ← h.1.dnsFallBack, ← h.1.fakeIPFilter]
  split_ifs with _ hback hfake
  · exact ⟨rfl, h⟩
  · apply hsearch
    rintro i hi m₁ m₂ ⟨halike, rfl⟩
    rcases hip with hip | hip
    · rw [hip] at hi
      cases hi
    · rcases hip m₁ h.2 with hs | hs
      · exact HeadlessItem.holds_matchSource hs.2 halike
      · simp [hback] at hs
  · apply hsearch
    rintro i hi m₁ m₂ ⟨halike, -⟩
    exact HeadlessItem.holds_alike (hr.groups .destinationAddress i (mem_append_left _ hi)) halike
  · have hnil : r.destinationIPCIDRItems = [] := by
      rcases hip with hip | hip
      · exact hip
      · rcases hip m h.2 with hs | hs
        · exact (hback hs.1).elim
        · exact (hfake hs.2).elim
    apply DefaultRule.matchRule_agree hK hnil
    · exact fun i hi => HeadlessItem.matchItem_agree fun m m' h => HeadlessItem.holds_alike (hr.items i hi) h.1
    · exact fun g i hi =>
        HeadlessItem.matchItem_agree fun m m' h => HeadlessItem.holds_alike (hr.groups g i hi) h.1
    · exact h

lemma HeadlessRule.matchRule_agree (hreset : ∀ m, m.dnsFallBack = false → K m → K m.resetRuleCache)
    {rule : HeadlessRule} (hrule : ∀ r ∈ rule.leaves, AddressesApart HeadlessItem.readsAddresses r ∧
      (r.destinationIPCIDRItems = [] ∨ ∀ m, K m → Shielded m)) :
    Agree (AlikeIn K) (matchRule env rule) (matchRule env rule) := by
  intro m m' h
  cases hback : m.dnsFallBack with
  | true =>
    have hback' := hback
    rw [h.1.dnsFallBack] at hback'
    cases rule with
    | leaf r =>
      rw [matchRule, eval, eval]
      have hr := hrule r (by simp [leaves])
      exact DefaultHeadlessRule.matchRule_agree hK hr.1 hr.2 m m' h
    | node mode rules invert =>
      cases mode with
      | and => simpa [matchRule_and, hback, hback'] using h
      | or => simpa [matchRule_or, hback, hback'] using h
  | false =>
    have hK' : ∀ m f, (K m ∧ m.dnsFallBack = false) →
        K (m.withFlags f) ∧ (m.withFlags f).dnsFallBack = false := fun m f h => ⟨hK m f h.1, h.2⟩
    have hagree : Agree (AlikeIn fun m => K m ∧ m.dnsFallBack = false) (matchRule env rule)
        (matchRule env rule) := by
      apply eval_agree
      · exact fun m m' h => ⟨h.1.resetRuleCache, hreset m h.2.2 h.2.1, h.2.2⟩
      · exact fun m m' h => h.1.dnsFallBack
      · exact fun r hr => DefaultHeadlessRule.matchRule_agree hK' (hrule r hr).1
          ((hrule r hr).2.imp_right fun h m hm => h m hm.1)
    obtain ⟨hanswer, halike, hin⟩ := hagree m m' ⟨h.1, h.2, hback⟩
    exact ⟨hanswer, halike, hin.1⟩

end Headless

section Built

open HeadlessItem

variable {lib : Library}
  {l : List String} {i : HeadlessItem}

lemma newDomainRegexItem_reads (h : newDomainRegexItem lib l = .ok i) :
    i.readsAddresses = false := by
  obtain ⟨_, _, h⟩ := bind_eq_ok.1 h
  cases h
  rfl

variable {isSource : Bool}

lemma newPortRangeItem_reads (h : newPortRangeItem lib isSource l = .ok i) :
    i.readsAddresses = false := by
  obtain ⟨_, _, h⟩ := bind_eq_ok.1 h
  cases h
  rfl

lemma newIPCIDRItem_reads (h : newIPCIDRItem lib isSource l = .ok i) :
    i.readsAddresses = !isSource := by
  obtain ⟨_, rfl⟩ := newIPCIDRItem_ok h
  rfl

variable {domains suffixes : List String}

lemma newDomainItem_reads : ∀ i ∈ newDomainItem lib domains suffixes, i.readsAddresses = false := by
  intro i hi
  rw [newDomainItem] at hi
  split_ifs at hi
  · rw [mem_singleton.1 hi]
    rfl
  · cases hi

lemma domainItems_reads {matcher : Option DomainMatcher} :
    ∀ i ∈ domainItems lib domains suffixes matcher, i.readsAddresses = false := by
  rw [domainItems]
  split_ifs
  · exact newDomainItem_reads
  · cases matcher <;> simp [newRawDomainItem, readsAddresses]

lemma adGuardItems_reads {lines : List String} {matcher : Option (String → Bool)} :
    ∀ i ∈ adGuardItems lib lines matcher, i.readsAddresses = false := by
  rw [adGuardItems]
  split_ifs
  · simp [readsAddresses]
  · cases matcher <;> simp [readsAddresses]

lemma ipCIDRItems_reads {name : String} {ipSet : Option (List IPRange)} {items : List HeadlessItem}
    (h : ipCIDRItems lib name isSource l ipSet = .ok items) :
    ∀ i ∈ items, i.readsAddresses = !isSource := by
  rw [ipCIDRItems] at h
  split_ifs at h
  · exact fun i hi => newIPCIDRItem_reads ((parseList_ok h).1 i hi)
  · cases h
    cases ipSet <;> simp [newRawIPCIDRItem, readsAddresses]

lemma newDefaultHeadlessRule_apart {hasRouter : Bool} {o : DefaultHeadlessOptions}
    {r : DefaultRule HeadlessItem} (h : newDefaultHeadlessRule lib hasRouter o = .ok r) :
    AddressesApart readsAddresses r ∧
      (o.isIPCIDRHeadlessRule = false → r.destinationIPCIDRItems = []) := by
  obtain ⟨domainRegex, h₁, h⟩ := bind_eq_ok.1 h
  obtain ⟨sourceIPCIDR, h₂, h⟩ := bind_eq_ok.1 h
  obtain ⟨ipCIDR, h₃, h⟩ := bind_eq_ok.1 h
  obtain ⟨sourcePortRange, h₄, h⟩ := bind_eq_ok.1 h
  obtain ⟨portRange, h₅, h⟩ := bind_eq_ok.1 h
  cases h
  have hregex : ∀ i ∈ domainRegex, i.readsAddresses = false :=
    fun i hi => newDomainRegexItem_reads ((parseList_ok h₁).1 i hi)
  have hsource : ∀ i ∈ sourceIPCIDR, i.readsAddresses = false := ipCIDRItems_reads h₂
  have hsourceRange : ∀ i ∈ sourcePortRange, i.readsAddresses = false :=
    fun i hi => newPortRangeItem_reads ((parseList_ok h₄).1 i hi)
  have hrange : ∀ i ∈ portRange, i.readsAddresses = false :=
    fun i hi => newPortRangeItem_reads ((parseList_ok h₅).1 i hi)
  refine ⟨⟨?_, fun g => ?_⟩, fun ho => ?_⟩
  · cases hasRouter <;>
      simp [forall_mem_fromList, readsAddresses, or_imp, forall_and]
  · cases g with
    | sourceAddress => exact hsource
    | sourcePort =>
      simpa [DefaultRule.groupItems, forall_mem_fromList, or_imp, forall_and] using ⟨fun _ => rfl, hsourceRange⟩
    | destinationAddress =>
      simpa [DefaultRule.groupItems, forall_mem_fromList, or_imp, forall_and]
        using ⟨domainItems_reads, fun _ => rfl, hregex, adGuardItems_reads⟩
    | destinationPort =>
      simpa [DefaultRule.groupItems, forall_mem_fromList, or_imp, forall_and] using ⟨fun _ => rfl, hrange⟩
  · rw [DefaultHeadlessOptions.isIPCIDRHeadlessRule, Bool.or_eq_false_iff] at ho
    have hset : o.ipSet = none := by simpa using ho.2
    rw [ipCIDRItems, if_neg (by simp [ho.1]), hset] at h₃
    cases h₃
    rfl

def loadGeosite (lib : Library) (domain domainSuffix domainKeyword domainRegex : List String) :
    Except String (List HeadlessItem) := do
  let parsed ← parseList "domain_regex" domainRegex (newDomainRegexItem lib)
  return newDomainItem lib domain domainSuffix ++ fromList domainKeyword .domainKeyword ++ parsed

structure Loaded (lib : Library) (env : RouterEnv) : Prop where
  geosite : ∀ code, ∃ domain domainSuffix domainKeyword domainRegex,
    loadGeosite lib domain domainSuffix domainKeyword domainRegex = .ok (env.geosite code)
  ruleSet : ∀ tag, ∃ rules, reloadRules lib rules = .ok (env.ruleSet tag)

variable {env : RouterEnv}

lemma Loaded.geosite_reads (hl : Loaded lib env) (code : String) :
    ∀ i ∈ env.geosite code, i.readsAddresses = false := by
  obtain ⟨domain, domainSuffix, domainKeyword, domainRegex, h⟩ := hl.geosite code
  obtain ⟨parsed, hparsed, h⟩ := bind_eq_ok.1 h
  have hregex : ∀ i ∈ parsed, i.readsAddresses = false :=
    fun i hi => newDomainRegexItem_reads ((parseList_ok hparsed).1 i hi)
  rw [← Except.ok.inj h]
  simpa [forall_mem_fromList, or_imp, forall_and] using ⟨newDomainItem_reads, fun _ => rfl, hregex⟩

lemma Loaded.leaves_apart (hl : Loaded lib env) {tag : String} {rule : HeadlessRule}
    (hrule : rule ∈ (env.ruleSet tag).rules) :
    ∀ r ∈ rule.leaves, AddressesApart readsAddresses r ∧
      ((env.ruleSet tag).containsIPCIDRRule = false → r.destinationIPCIDRItems = []) := by
  intro r hr
  obtain ⟨rules, h⟩ := hl.ruleSet tag
  obtain ⟨hbuilt, hcontains⟩ := reloadRules_ok.1 h
  obtain ⟨options, hoptions, hrule⟩ := exists_left_of_forall₂ hbuilt hrule
  obtain ⟨o, ho, hleaf⟩ := HeadlessRuleOptions.newHeadlessRule_leaves hrule r hr
  obtain ⟨hapart, hnil⟩ := newDefaultHeadlessRule_apart hleaf
  refine ⟨hapart, fun hfalse => hnil ?_⟩
  rw [hcontains, ← Bool.not_eq_true, HeadlessRuleOptions.hasHeadlessRule_iff] at hfalse
  rw [← Bool.not_eq_true]
  exact fun hcond => hfalse ⟨o, HeadlessRuleOptions.mem_leavesOf.2 ⟨options, hoptions, ho⟩, hcond⟩

end Built

def RuleItem.readsAddresses : RuleItem → Bool
  | .plain (.headless item) => item.readsAddresses
  | .plain (.ipIsPrivate isSource) | .geoIP isSource _ => !isSource
  | _ => false

/-- The conditions by which a rule without address conditions can come to the addresses after all:
source GeoIP codes, and rule-sets whose address conditions are meant for the source. -/
structure Loopholes where
  sourceGeoIP : Bool
  matchSource : Bool

namespace Loopholes

variable (u : Loopholes)

def Covers (env : RouterEnv) : RuleItem → Prop
  | .geoIP isSource _ => isSource = true → u.sourceGeoIP = true
  | .ruleSet tagList ipCidrMatchSource _ => ipCidrMatchSource = true →
    ((sets env tagList).any fun s => s.containsIPCIDRRule) = true → u.matchSource = true
  | _ => True

def ofItem (env : RouterEnv) : RuleItem → Loopholes
  | .geoIP isSource _ => ⟨isSource, false⟩
  | .ruleSet tagList ipCidrMatchSource _ =>
    ⟨false, ipCidrMatchSource && (sets env tagList).any fun s => s.containsIPCIDRRule⟩
  | _ => ⟨false, false⟩

def ofBody (env : RouterEnv) (body : RuleBody) : Loopholes where
  sourceGeoIP := body.leaves.any fun r => r.allItems.any fun i => (ofItem env i).sourceGeoIP
  matchSource := body.leaves.any fun r => r.allItems.any fun i => (ofItem env i).matchSource

lemma ofBody_covers (env : RouterEnv) (body : RuleBody) :
    ∀ r ∈ body.leaves, ∀ i ∈ r.allItems, (ofBody env body).Covers env i := by
  intro r hr i hi
  cases i with
  | geoIP isSource codes =>
    exact fun h => any_eq_true.2 ⟨r, hr, any_eq_true.2 ⟨_, hi, h⟩⟩
  | ruleSet tagList ipCidrMatchSource accept =>
    intro hsource hcontains
    exact any_eq_true.2 ⟨r, hr, any_eq_true.2 ⟨_, hi, Bool.and_eq_true_iff.2 ⟨hsource, hcontains⟩⟩⟩
  | _ => trivial

def Shut (env : Env) (m : InboundContext) : Prop :=
  (u.sourceGeoIP = true → m.source.addr.isSome = true ∨ m.sourceGeoIPCode ≠ "" ∨
    ∀ addr, lookupCode env addr = "") ∧
  (u.matchSource = true → m.dnsFallBack = true ∨ m.fakeIPFilter = true)

variable {u} {env : Env} {m : InboundContext}

lemma Shut.withFlags (h : u.Shut env m) (f : MatchFlags) : u.Shut env (m.withFlags f) := h

lemma Shut.resetRuleCache (h : u.Shut env m) : u.Shut env m.resetRuleCache := h

lemma Shut.ignoring (h : u.Shut env m) (ignore : Bool) : u.Shut env (m.ignoring ignore) := h

end Loopholes

variable {lib : Library} {env : RouterEnv} {u : Loopholes}

lemma PlainItem.holds_alike {m m' : InboundContext} {i : PlainItem}
    (hi : (RuleItem.plain i).readsAddresses = false) (h : Alike m m') :
    i.holds env.toEnv m = i.holds env.toEnv m' := by
  cases i with
  | headless item => exact HeadlessItem.holds_alike hi h
  | ipIsPrivate isSource =>
    obtain ⟨addresses, ignore, rfl⟩ := Alike.iff_exists.1 h
    cases isSource with
    | true => rfl
    | false => cases hi
  | _ =>
    obtain ⟨addresses, ignore, rfl⟩ := Alike.iff_exists.1 h
    rfl

lemma geositeMatch_agree (hl : Loaded lib env) (codes : List String) :
    Agree (AlikeIn (u.Shut env.toEnv)) (geositeMatch env codes) (geositeMatch env codes) := by
  refine anyS_agree fun code _ => DefaultRule.matchRule_agree (fun _ f h => h.withFlags f) rfl ?_ ?_
  · exact fun i hi => absurd hi not_mem_nil
  · intro g i hi
    cases g with
    | destinationAddress =>
      rw [DefaultRule.groupItems, if_pos rfl, append_nil] at hi
      exact HeadlessItem.matchItem_agree fun m m' h =>
        HeadlessItem.holds_alike (hl.geosite_reads code i hi) h.1
    | _ => cases hi

lemma sourceGeoIP_agree (hu : u.sourceGeoIP = true) (codes : List String) :
    Agree (AlikeIn (u.Shut env.toEnv)) (GeoIPItem.matchItem env.toEnv true codes)
      (GeoIPItem.matchItem env.toEnv true codes) := by
  rintro m m' ⟨h, hshut⟩
  have hcode : m.sourceGeoIPCode = m'.sourceGeoIPCode := h.field (g := (·.sourceGeoIPCode)) fun _ => rfl
  have hsource : m.source = m'.source := h.field (g := (·.source)) fun _ => rfl
  rw [GeoIPItem.matchItem, GeoIPItem.matchItem, cachedCode, cachedCode, if_pos rfl,
    if_pos rfl, if_pos rfl, if_pos rfl, ← hcode, ← hsource]
  split_ifs with hcached
  · exact ⟨rfl, h, hshut⟩
  · cases haddr : m.source.addr with
    | some addr =>
      dsimp only
      rw [matchAddr, matchAddr]
      split_ifs
      · exact ⟨rfl, h, hshut⟩
      · refine ⟨rfl, h.update (f := cacheCode true _) fun _ => rfl, ?_, hshut.2⟩
        exact fun _ => .inl (by simp [cacheCode, haddr])
    | none =>
      have hlookup : ∀ addr, lookupCode env.toEnv addr = "" := by
        rcases hshut.1 hu with hs | hs | hs
        · simp [haddr] at hs
        · simp [hs] at hcached
        · exact hs
      have hpure : ∀ addrs m, anyS (matchAddr env.toEnv true codes) addrs m = (false, m) := by
        intro addrs m
        rw [anyS_pure (p := fun _ => false) fun a _ => by simp [matchAddr, hlookup a],
          any_eq_false.2 fun _ _ => Bool.false_ne_true]
      dsimp only
      rw [hpure, hpure]
      exact ⟨rfl, h, hshut⟩

lemma RuleSet.matchSet_agree {env : Env} {K : InboundContext → Prop}
    (hK : ∀ m f, K m → K (m.withFlags f))
    (hreset : ∀ m, m.dnsFallBack = false → K m → K m.resetRuleCache) {s : RuleSet}
    (hs : ∀ rule ∈ s.rules, ∀ r ∈ rule.leaves, AddressesApart HeadlessItem.readsAddresses r ∧
      (r.destinationIPCIDRItems = [] ∨ ∀ m, K m → Shielded m)) :
    Agree (AlikeIn K) (s.matchSet env) (s.matchSet env) :=
  anyS_agree fun rule hrule => HeadlessRule.matchRule_agree hK hreset (hs rule hrule)

def enterRuleSet (ipCidrMatchSource ipCidrAcceptEmpty : Bool) (m : InboundContext) : InboundContext :=
  { m with ipcidrMatchSource := ipCidrMatchSource, ipcidrAcceptEmpty := ipCidrAcceptEmpty }

lemma ruleSet_agree (hl : Loaded lib env) {tagList : List String} {matchSource acceptEmpty : Bool}
    (hcovers : u.Covers env (.ruleSet tagList matchSource acceptEmpty))
    (hset : RuleSetItem.containsDestinationIPCIDRRule env tagList matchSource = false) :
    Agree (AlikeIn (u.Shut env.toEnv)) (RuleSetItem.matchItem env tagList matchSource acceptEmpty)
      (RuleSetItem.matchItem env tagList matchSource acceptEmpty) := by
  rintro m m' ⟨h, hshut⟩
  have hstart := h.update (f := enterRuleSet matchSource acceptEmpty) fun _ => rfl
  have hsets : ∀ s ∈ sets env tagList, ∃ tag, s = env.ruleSet tag := by
    intro s hs
    obtain ⟨tag, -, rfl⟩ := mem_map.1 hs
    exact ⟨tag, rfl⟩
  cases hany : (sets env tagList).any fun s => s.containsIPCIDRRule with
  | false =>
    refine anyS_agree (fun s hs => ?_) _ _ ⟨hstart, hshut⟩
    obtain ⟨tag, rfl⟩ := hsets s hs
    refine RuleSet.matchSet_agree (fun _ f h => h.withFlags f) (fun _ _ h => h.resetRuleCache)
      fun rule hrule r hr => ?_
    obtain ⟨hapart, hnil⟩ := hl.leaves_apart hrule r hr
    exact ⟨hapart, .inl (hnil (by simpa using any_eq_false.1 hany _ hs))⟩
  | true =>
    rw [RuleSetItem.containsDestinationIPCIDRRule, hany, Bool.and_true] at hset
    have hsource : matchSource = true := by simpa using hset
    have hmode : m.dnsFallBack = true ∨ m.fakeIPFilter = true := hshut.2 (hcovers hsource hany)
    have hshield : Shielded (enterRuleSet matchSource acceptEmpty m) := by
      cases hback : m.dnsFallBack with
      | true => exact .inl ⟨hback, hsource⟩
      | false => exact .inr ⟨hback, hmode.resolve_left (by simp [hback])⟩
    have hagree : ∀ s ∈ sets env tagList,
        Agree (AlikeIn fun m => u.Shut env.toEnv m ∧ Shielded m) (s.matchSet env.toEnv)
          (s.matchSet env.toEnv) := by
      intro s hs
      obtain ⟨tag, rfl⟩ := hsets s hs
      refine RuleSet.matchSet_agree (fun _ f h => ⟨h.1.withFlags f, h.2.withFlags f⟩) ?_
        fun rule hrule r hr => ⟨(hl.leaves_apart hrule r hr).1, .inr fun _ h => h.2⟩
      rintro m hback ⟨hs, hs' | hs'⟩
      · simp [hback] at hs'
      · exact ⟨hs.resetRuleCache, .inr hs'⟩
    obtain ⟨hanswer, halike, hin⟩ := anyS_agree hagree _ _ ⟨hstart, hshut, hshield⟩
    exact ⟨hanswer, halike, hin.1⟩

def RuleItem.limitsAddresses (env : RouterEnv) : RuleItem → Bool
  | .ruleSet tagList ipCidrMatchSource _ =>
    RuleSetItem.containsDestinationIPCIDRRule env tagList ipCidrMatchSource
  | _ => false

variable {i : RuleItem}

lemma RuleItem.limitsAddresses_of_group {g : Group} (h : i.group = some g) :
    i.limitsAddresses env = false := by
  cases i with
  | ruleSet _ _ _ => cases h
  | _ => rfl

lemma RuleItem.ungrouped_reads (h : i.group = none) : i.readsAddresses = false := by
  cases i with
  | plain item =>
    cases item with
    | headless item =>
      cases item with
      | ipCIDR _ _ => cases h
      | _ => rfl
    | ipIsPrivate _ => cases h
    | _ => rfl
  | geoIP _ _ => cases h
  | _ => rfl

lemma RuleItem.matchItem_agree (hl : Loaded lib env) (hi : i.readsAddresses = false)
    (hcovers : u.Covers env i) (hset : i.limitsAddresses env = false) :
    Agree (AlikeIn (u.Shut env.toEnv)) (i.matchItem env) (i.matchItem env) := by
  cases i with
  | plain item => exact fun m m' h => ⟨PlainItem.holds_alike hi h.1, h⟩
  | geosite codes => exact geositeMatch_agree hl codes
  | geoIP isSource codes =>
    cases isSource with
    | true => exact sourceGeoIP_agree (hcovers rfl) codes
    | false => cases hi
  | ruleSet tagList matchSource acceptEmpty => exact ruleSet_agree hl hcovers hset

lemma placeItems_apart {name : String} {c : RuleConditions} {parsed : ParsedItems}
    (h : parseItems lib name c = .ok parsed) {items : List RuleItem}
    (hitems : ∀ i ∈ items, i.readsAddresses = false) :
    AddressesApart RuleItem.readsAddresses (placeItems lib c parsed items) := by
  have hp := parseItems_eq_ok.1 h
  have hregex : ∀ i ∈ parsed.domainRegex, i.readsAddresses = false :=
    fun i hi => newDomainRegexItem_reads ((parseList_ok hp.domainRegex).1 i hi)
  have hsource : ∀ i ∈ parsed.sourceIPCIDR, i.readsAddresses = false :=
    fun i hi => newIPCIDRItem_reads ((parseList_ok hp.sourceIPCIDR).1 i hi)
  have hsourceRange : ∀ i ∈ parsed.sourcePortRange, i.readsAddresses = false :=
    fun i hi => newPortRangeItem_reads ((parseList_ok hp.sourcePortRange).1 i hi)
  have hrange : ∀ i ∈ parsed.portRange, i.readsAddresses = false :=
    fun i hi => newPortRangeItem_reads ((parseList_ok hp.portRange).1 i hi)
  refine ⟨hitems, fun g => ?_⟩
  cases g with
  | sourceAddress =>
    simpa [placeItems, DefaultRule.groupItems, forall_mem_fromList, forall_mem_fromFlag, or_imp,
      forall_and] using ⟨fun _ => rfl, hsource, fun _ => rfl⟩
  | sourcePort =>
    simpa [placeItems, DefaultRule.groupItems, forall_mem_fromList, or_imp, forall_and]
      using ⟨fun _ => rfl, hsourceRange⟩
  | destinationAddress =>
    simpa [placeItems, DefaultRule.groupItems, forall_mem_fromList, or_imp, forall_and]
      using ⟨newDomainItem_reads, fun _ => rfl, hregex, fun _ => rfl⟩
  | destinationPort =>
    simpa [placeItems, DefaultRule.groupItems, forall_mem_fromList, or_imp, forall_and]
      using ⟨fun _ => rfl, hrange⟩

variable {r : DefaultRule RuleItem}

lemma newDefaultRule_apart {o : DefaultRuleOptions} (h : newDefaultRule lib o = .ok r) :
    AddressesApart RuleItem.readsAddresses r := by
  have hgrouped := newDefaultRule_wellGrouped h
  obtain ⟨parsed, hp, h⟩ := bind_eq_ok.1 h
  cases h
  exact placeItems_apart hp fun i hi => RuleItem.ungrouped_reads (hgrouped.ungrouped i hi)

lemma DefaultRule.containsDestinationIPCIDRRule_iff : r.containsDestinationIPCIDRRule env = false ↔
      r.destinationIPCIDRItems = [] ∧ ∀ i ∈ r.items, i.limitsAddresses env = false := by
  rw [containsDestinationIPCIDRRule, Bool.or_eq_false_iff, Bool.not_eq_false', List.isEmpty_iff,
    any_eq_false]
  refine and_congr_right fun _ => forall₂_congr fun i _ => ?_
  cases i <;> simp [RuleItem.limitsAddresses]

lemma DefaultRule.matchItems_agree (hl : Loaded lib env) (hgrouped : WellGrouped r)
    (hr : AddressesApart RuleItem.readsAddresses r) (hcovers : ∀ i ∈ r.allItems, u.Covers env i)
    (hlimit : r.containsDestinationIPCIDRRule env = false) :
    Agree (AlikeIn (u.Shut env.toEnv)) (r.matchRule (RuleItem.matchItem env) RuleItem.isRuleSet)
      (r.matchRule (RuleItem.matchItem env) RuleItem.isRuleSet) := by
  obtain ⟨hip, hsets⟩ := containsDestinationIPCIDRRule_iff.1 hlimit
  refine DefaultRule.matchRule_agree (fun _ f h => h.withFlags f) hip ?_ ?_
  · intro i hi
    exact RuleItem.matchItem_agree hl (hr.items i hi) (hcovers i (mem_allItems.2 (.inl hi))) (hsets i hi)
  · intro g i hi
    have hmem : i ∈ r.groupItems false g := by
      cases g with
      | destinationAddress => simpa [groupItems, hip] using hi
      | _ => exact hi
    refine RuleItem.matchItem_agree hl (hr.groups g i hi) (hcovers i (mem_allItems.2 (.inr ⟨g, hmem⟩))) ?_
    exact RuleItem.limitsAddresses_of_group (hgrouped.grouped g i hmem)

theorem RuleBody.matchRule_agree (hl : Loaded lib env) {body : RuleBody}
    (hb : ∀ r ∈ body.leaves, WellGrouped r ∧ AddressesApart RuleItem.readsAddresses r ∧
      (∀ i ∈ r.allItems, u.Covers env i) ∧ r.containsDestinationIPCIDRRule env = false) :
    Agree (AlikeIn (u.Shut env.toEnv)) (RuleBody.matchRule (RuleItem.matchItem env) body)
      (RuleBody.matchRule (RuleItem.matchItem env) body) := by
  apply eval_agree
  · exact fun m m' h => ⟨h.1.resetRuleCache, h.2.resetRuleCache⟩
  · exact fun _ _ _ => rfl
  · intro r hr
    obtain ⟨hgrouped, hapart, hcovers, hlimit⟩ := hb r hr
    exact DefaultRule.matchItems_agree hl hgrouped hapart hcovers hlimit

end SingBox.Route
