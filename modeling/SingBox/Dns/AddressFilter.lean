import Mathlib.Data.Set.List
import SingBox.Dns.Rules
import SingBox.Route.ItemValues

namespace SingBox.Dns

open Route Lib.Search Lib.LogicTree Lib.Errors DefaultRule RuleItem InboundContext List DefaultDNSRule

def checkResponse (env : RouterEnv) (body : RuleBody) (response : Option (List IPAddr))
    (m : InboundContext) : Bool × InboundContext :=
  match response with
  | none => (false, m)
  | some addresses => DNSRuleBody.matchAddressLimit env body (m.withAddresses addresses)

def checkResponses (env : RouterEnv) (body : RuleBody) :
    List (Option (List IPAddr)) → InboundContext → List Bool
  | [], _ => []
  | response :: responses, m =>
    let result := checkResponse env body response m
    result.1 :: checkResponses env body responses result.2

variable (env : RouterEnv) (r : DefaultRule RuleItem)

def itemMatches (addr : IPAddr) (item : RuleItem) : Bool :=
  item.value env { destinationAddresses := [addr] }

def matchesSome (fresh : Bool) (addresses : List IPAddr) : Bool :=
  addresses.any fun addr =>
    r.destinationIPCIDRItems.any fun item => (fresh || !item.isGeoIP) && itemMatches env addr item

def Sound (responses : List (Option (List IPAddr))) (m : InboundContext) : Prop :=
  ∀ p ∈ responses.zip (checkResponses env (.leaf r) responses m), p.2 = true →
    p.1.any (matchesSome env r true) = true

def allMatch (responses : List (Option (List IPAddr))) : Bool :=
  responses.all fun response => response.all (matchesSome env r true)

def laterMatch : Bool → List (Option (List IPAddr)) → Bool
  | _, [] => true
  | fresh, none :: responses => laterMatch fresh responses
  | fresh, some addresses :: responses =>
    if matchesSome env r fresh addresses then allMatch env r responses
    else laterMatch (fresh && addresses.all fun addr => GeoIPItem.lookupCode env.toEnv addr == "")
      responses

def listsCode (code : String) : Bool :=
  r.destinationIPCIDRItems.any fun item => match item with
    | .geoIP _ codes => codes.contains code
    | _ => false

def passesAll (code : String) : Bool :=
  !r.destinationAddressItems.isEmpty || (code != "" && listsCode r code)

def filterHolds (code : String) (responses : List (Option (List IPAddr))) : Bool :=
  if passesAll r code then allMatch env r responses else laterMatch env r (code == "") responses

structure FilterRule where
  rule : DefaultRule RuleItem
  geoIP : List String
  ipSets : List (Option IPAddr → Bool)
  ipIsPrivate : Bool
  addressItems : rule.destinationIPCIDRItems =
    fromList geoIP (.geoIP false) ++
      (map (fun ipSet => .plain (.headless (.ipCIDR false ipSet))) ipSets ++
        fromFlag ipIsPrivate (.plain (.ipIsPrivate false)))
  addressItems_ne : rule.destinationIPCIDRItems.isEmpty = false
  wellPlaced : WellPlaced rule
  ruleSets : ∀ i ∈ rule.items, i.isRuleSet = false
  not_inverted : rule.invert = false

namespace FilterRule

variable (q : FilterRule) (env : RouterEnv) {m : InboundContext} {addresses : List IPAddr}

lemma ungrouped : Ungrouped q.rule.items :=
  fun i hi => ⟨q.wellPlaced.ungrouped i hi, q.ruleSets i hi⟩

lemma addressItems_group :
    ∀ i ∈ q.rule.destinationIPCIDRItems, i.group = some .destinationAddress := fun i hi =>
  q.wellPlaced.grouped .destinationAddress i (mem_append_right _ hi)

def plainMatches (addr : IPAddr) : Bool :=
  q.ipSets.any (fun ipSet => ipSet (some addr)) || (q.ipIsPrivate && !env.isPublicAddr addr)

lemma searchCodes (codes : List String) (addresses : List IPAddr) (m : InboundContext) :
    ∃ code, anyS (GeoIPItem.matchAddr env.toEnv false codes) addresses m =
        (addresses.any (geoIPMatches env.toEnv codes), m.withCodes m.sourceGeoIPCode code) ∧
      (addresses.any (geoIPMatches env.toEnv codes) = false →
        if addresses.all fun addr => GeoIPItem.lookupCode env.toEnv addr == "" then code = m.geoIPCode
        else code ≠ "" ∧ codes.contains code = false) := by
  induction addresses generalizing m with
  | nil => exact ⟨m.geoIPCode, rfl, fun _ => rfl⟩
  | cons addr addresses ih =>
    rw [anyS_cons, GeoIPItem.matchAddr, any_cons, all_cons, geoIPMatches, bne]
    cases hc : GeoIPItem.lookupCode env.toEnv addr == "" with
    | true => exact ih m
    | false =>
      cases hl : codes.contains (GeoIPItem.lookupCode env.toEnv addr) with
      | true => exact ⟨GeoIPItem.lookupCode env.toEnv addr, rfl, fun h => by cases h⟩
      | false =>
        obtain ⟨code, hs, hcode⟩ := ih (GeoIPItem.cacheCode false (GeoIPItem.lookupCode env.toEnv addr) m)
        refine ⟨code, hs, fun hany => ?_⟩
        have hcode := hcode hany
        split_ifs at hcode
        · rw [hcode]
          exact ⟨beq_eq_false_iff_ne.1 hc, hl⟩
        · exact hcode

lemma itemMatches_geoIP (codes : List String) (addr : IPAddr) :
    itemMatches env addr (.geoIP false codes) = geoIPMatches env.toEnv codes addr := by
  rw [itemMatches, value, matchItem, geoIP_value]
  simp [geoIPHolds, GeoIPItem.cachedCode]

lemma itemMatches_ipCIDR (ipSet : Option IPAddr → Bool) (addr : IPAddr) :
    itemMatches env addr (.plain (.headless (.ipCIDR false ipSet))) = ipSet (some addr) := by
  simp [itemMatches, value, matchItem, PlainItem.holds, HeadlessItem.holds, ipCIDRHolds,
    Socksaddr.isIP]

lemma itemMatches_ipIsPrivate (addr : IPAddr) :
    itemMatches env addr (.plain (.ipIsPrivate false)) = !env.isPublicAddr addr := by
  simp [itemMatches, value, matchItem, PlainItem.holds, ipIsPrivateHolds]

lemma any_or {α : Type*} (p p' : α → Bool) (l : List α) :
    (l.any fun a => p a || p' a) = (l.any p || l.any p') := by
  induction l with
  | nil => rfl
  | cons a l ih =>
    rw [any_cons, any_cons, any_cons, ih]
    cases p a <;> cases p' a <;> simp

lemma matchesSome_eq (fresh : Bool) (addresses : List IPAddr) :
    matchesSome env q.rule fresh addresses =
      ((fresh && addresses.any (geoIPMatches env.toEnv q.geoIP)) || addresses.any (q.plainMatches env)) := by
  have hgeo : ∀ addr, ((fromList q.geoIP (.geoIP false)).any fun item =>
      (fresh || !item.isGeoIP) && itemMatches env addr item) =
        (fresh && geoIPMatches env.toEnv q.geoIP addr) := by
    intro addr
    cases hq : q.geoIP with
    | nil => simp [fromList, geoIPMatches]
    | cons code codes => simp [fromList, isGeoIP, itemMatches_geoIP]
  have hitem : ∀ addr, (q.rule.destinationIPCIDRItems.any fun item =>
      (fresh || !item.isGeoIP) && itemMatches env addr item) =
        ((fresh && geoIPMatches env.toEnv q.geoIP addr) || q.plainMatches env addr) := by
    intro addr
    rw [q.addressItems, any_append, hgeo addr, plainMatches]
    cases q.ipIsPrivate <;> simp [fromFlag, isGeoIP, itemMatches_ipCIDR, itemMatches_ipIsPrivate,
      Function.comp_def]
  simp only [matchesSome, hitem, any_or]
  cases fresh <;> simp

structure Ready (m : InboundContext) : Prop where
  declared : ∀ g, q.rule.declares true g = true → m.flags.matched g = true
  items : (q.rule.items.all fun i => (i.matchItem env m).1) = true
  destination : m.destination = {}
  ipcidrMatchSource : m.ipcidrMatchSource = false
  ipcidrAcceptEmpty : m.ipcidrAcceptEmpty = false
  ignore : m.ignoreDestinationIPCIDRMatch = false

def searched (m : InboundContext) : InboundContext :=
  checkGroup (matchItem env) .destinationAddress q.rule.destinationIPCIDRItems m

variable {q env}

lemma Ready.idle (hm : Ready q env m) (g : Group) :
    (q.rule.groupItems true g).isEmpty = true ∨ m.flags.matched g = true := by
  have h := hm.declared g
  rw [declares_eq] at h
  cases he : (q.rule.groupItems true g).isEmpty with
  | true => exact .inl rfl
  | false => exact .inr (h (by rw [he]; rfl))

variable (env) in
lemma searched_touches : Touches (· = .destinationAddress) m (q.searched env m) := by
  apply (checkGroup_touches env q.addressItems_group m).mono
  rintro _ ⟨rfl, _⟩
  rfl

variable {m' : InboundContext}

lemma Ready.of_flags (hm : Ready q env m)
    (hflags : ∀ g, m.flags.matched g = true → m'.flags.matched g = true)
    (hrest : ∃ addresses a b f, m' = ((m.withAddresses addresses).withCodes a b).withFlags f) :
    Ready q env m' := by
  obtain ⟨addresses, a, b, f, rfl⟩ := hrest
  refine ⟨fun g hg => hflags g (hm.declared g hg), ?_, hm.destination, hm.ipcidrMatchSource,
    hm.ipcidrAcceptEmpty, hm.ignore⟩
  refine .trans (ungrouped_all env q.ungrouped ?_) hm.items
  rfl

lemma Ready.checkGroups_eq (hm : Ready q env m) :
    q.rule.checkGroups (matchItem env) m = q.searched env m := by
  have hsa : q.rule.sourceAddressItems.isEmpty = true ∨ m.flags.matched .sourceAddress = true :=
    hm.idle .sourceAddress
  have hsp : q.rule.sourcePortItems.isEmpty = true ∨ m.flags.matched .sourcePort = true :=
    hm.idle .sourcePort
  have hd : q.rule.destinationAddressItems.isEmpty = true ∨
      m.flags.matched .destinationAddress = true := by
    simpa [groupItems] using hm.idle .destinationAddress
  have hdp : q.rule.destinationPortItems.isEmpty = true ∨
      (q.searched env m).flags.matched .destinationPort = true := by
    rw [(searched_touches env).matched .destinationPort (by simp)]
    exact hm.idle .destinationPort
  rw [checkGroups, checkGroup_idle hsa, checkGroup_idle hsp,
    checkGroup_idle hd]
  simp only [hm.ignore]
  exact checkGroup_idle hdp

lemma Ready.conclude_eq (hm : Ready q env m) (hig : m'.ignoreDestinationIPCIDRMatch = false)
    (h : ∀ g, g ≠ .destinationAddress → m'.flags.matched g = m.flags.matched g) :
    q.rule.conclude m' = m'.flags.matched .destinationAddress := by
  have hmissing : ∀ g, q.rule.missing m' g =
      (decide (g = .destinationAddress) && !m'.flags.matched .destinationAddress) := by
    intro g
    rw [missing, hig]
    by_cases hg : g = .destinationAddress
    · subst hg
      simp [declares, q.addressItems_ne]
    · have hdecl : q.rule.declares false g = q.rule.declares true g := by
        cases g with
        | destinationAddress => exact absurd rfl hg
        | _ => rfl
      rw [hdecl, h g hg]
      cases hd : q.rule.declares true g with
      | true => simp [hm.declared g hd, hg]
      | false => simp [hg]
  rw [Bool.eq_iff_iff, conclude_iff q.not_inverted]
  refine ⟨fun hall => ?_, fun hflag g => ?_⟩
  · simpa [hmissing] using hall .destinationAddress
  · simp [hmissing, hflag]

lemma allItems_ne (q : FilterRule) : q.rule.allItems.isEmpty = false := by
  have h := q.addressItems_ne
  cases hl : q.rule.destinationIPCIDRItems <;> simp_all [allItems]

lemma Ready.matchAddressLimit_eq (hm : Ready q env m) :
    ∃ did, matchAddressLimit env q.rule m =
      ((q.searched env m).flags.matched .destinationAddress,
        (q.searched env m).withFlags { (q.searched env m).flags with didMatch := did }) := by
  have htouch := searched_touches env (q := q) (m := m)
  refine ⟨(q.searched env m).flags.didMatch || !q.rule.items.isEmpty, ?_⟩
  rw [matchAddressLimit, matchRule_ungrouped env
    q.wellPlaced.toWellGrouped q.ruleSets q.allItems_ne, hm.items, visited,
    hm.checkGroups_eq]
  congr 1
  apply hm.conclude_eq
  · obtain ⟨a, b, f, hrest⟩ := htouch.rest
    rw [hrest]
    exact hm.ignore
  · exact fun g hg => htouch.matched g hg

section Search

variable (q env)

structure CodeAfter (code code' : String) (addresses : List IPAddr) : Prop where
  unlisted : code' = "" ∨ q.geoIP.contains code' = false
  fresh : q.geoIP = [] ∨ (code' == "") =
    ((code == "") && addresses.all fun addr => GeoIPItem.lookupCode env.toEnv addr == "")

variable {q env} (hd : m.destination = {})
  (hcode : m.geoIPCode = "" ∨ q.geoIP.contains m.geoIPCode = false)

include hd hcode

variable (env) in
lemma anyS_geoIP :
    ∃ code, anyS (matchItem env) (fromList q.geoIP (.geoIP false)) m =
        ((m.geoIPCode == "") && m.destinationAddresses.any (geoIPMatches env.toEnv q.geoIP),
          m.withCodes m.sourceGeoIPCode code) ∧
      (((m.geoIPCode == "") && m.destinationAddresses.any (geoIPMatches env.toEnv q.geoIP)) = false →
        CodeAfter q env m.geoIPCode code m.destinationAddresses) := by
  cases hq : q.geoIP.isEmpty with
  | true =>
    have hnil := List.isEmpty_iff.1 hq
    refine ⟨m.geoIPCode, ?_, fun _ => ⟨hcode, .inl hnil⟩⟩
    simp [hnil, fromList, geoIPMatches, withCodes]
  | false =>
    rw [fromList, hq, if_neg Bool.false_ne_true, anyS_singleton, matchItem,
      GeoIPItem.matchItem]
    simp only [GeoIPItem.cachedCode, Bool.false_eq_true, if_false, hd, bne]
    cases hc : m.geoIPCode == "" with
    | false =>
      have hun := hcode.resolve_left (beq_eq_false_iff_ne.1 hc)
      refine ⟨m.geoIPCode, ?_, fun _ => ⟨hcode, .inr ?_⟩⟩
      · rw [hun]
        rfl
      · rw [hc, Bool.false_and]
    | true =>
      obtain ⟨code, hs, hafter⟩ := searchCodes env q.geoIP m.destinationAddresses m
      refine ⟨code, hs, fun hnone => ?_⟩
      have hafter := hafter hnone
      cases hall : m.destinationAddresses.all fun addr => GeoIPItem.lookupCode env.toEnv addr == "" with
      | true =>
        rw [hall, if_pos rfl] at hafter
        refine ⟨.inl (hafter.trans (beq_iff_eq.1 hc)), .inr ?_⟩
        rw [hafter, hc, hall]
        rfl
      | false =>
        rw [hall, if_neg Bool.false_ne_true] at hafter
        refine ⟨.inr hafter.2, .inr ?_⟩
        rw [hall, Bool.and_false]
        exact beq_eq_false_iff_ne.2 hafter.1

variable (hms : m.ipcidrMatchSource = false) (hae : m.ipcidrAcceptEmpty = false)

include hms hae

omit hcode in
lemma ipCIDRHolds_eq (code : String) (ipSet : Option IPAddr → Bool) :
    ipCIDRHolds false ipSet (m.withCodes m.sourceGeoIPCode code) =
      m.destinationAddresses.any fun addr => ipSet (some addr) := by
  cases hl : m.destinationAddresses <;>
    simp [ipCIDRHolds, withCodes, hd, hms, hae, hl, Socksaddr.isIP]

omit hcode in
lemma anyS_plain (code : String) :
    anyS (matchItem env)
        (map (fun ipSet => .plain (.headless (.ipCIDR false ipSet))) q.ipSets ++
          fromFlag q.ipIsPrivate (.plain (.ipIsPrivate false)))
        (m.withCodes m.sourceGeoIPCode code) =
      (m.destinationAddresses.any (q.plainMatches env), m.withCodes m.sourceGeoIPCode code) := by
  have hswap : (q.ipSets.any fun ipSet => m.destinationAddresses.any fun addr => ipSet (some addr)) =
      m.destinationAddresses.any fun addr => q.ipSets.any fun ipSet => ipSet (some addr) := by
    rw [Bool.eq_iff_iff]
    simp only [any_eq_true]
    exact ⟨fun ⟨s, hs, a, ha, h⟩ => ⟨a, ha, s, hs, h⟩, fun ⟨a, ha, s, hs, h⟩ => ⟨s, hs, a, ha, h⟩⟩
  have hprivate : ipIsPrivateHolds env.toEnv false (m.withCodes m.sourceGeoIPCode code) =
      m.destinationAddresses.any fun addr => !env.isPublicAddr addr := by
    simp [ipIsPrivateHolds, withCodes, hd]
  rw [anyS_pure (p := fun i => (i.matchItem env (m.withCodes m.sourceGeoIPCode code)).1)]
  · have hplain : q.plainMatches env = fun addr => (q.ipSets.any fun ipSet => ipSet (some addr)) ||
        (q.ipIsPrivate && !env.isPublicAddr addr) := rfl
    rw [hplain, any_or, ← hswap, any_append, any_map]
    congr 2
    · simp only [Function.comp_def, matchItem, PlainItem.holds, HeadlessItem.holds,
        ipCIDRHolds_eq hd hms hae]
    · cases q.ipIsPrivate with
      | true => simp [fromFlag, matchItem, PlainItem.holds, hprivate]
      | false => simp [fromFlag]
  · intro i hi
    simp only [mem_append, mem_map] at hi
    rcases hi with ⟨_, _, rfl⟩ | hi
    · rfl
    · cases hp : q.ipIsPrivate with
      | true =>
        rw [hp, fromFlag, if_pos rfl, mem_singleton] at hi
        rw [hi]
        rfl
      | false => simp [hp, fromFlag] at hi

variable (env) in
lemma anyS_addressItems :
    ∃ code, anyS (matchItem env) q.rule.destinationIPCIDRItems m =
        (matchesSome env q.rule (m.geoIPCode == "") m.destinationAddresses,
          m.withCodes m.sourceGeoIPCode code) ∧
      (matchesSome env q.rule (m.geoIPCode == "") m.destinationAddresses = false →
        CodeAfter q env m.geoIPCode code m.destinationAddresses) := by
  obtain ⟨code, hgeo, hafter⟩ := anyS_geoIP env hd hcode
  refine ⟨code, ?_, fun hnone => hafter ?_⟩
  · rw [q.addressItems, anyS_append, hgeo, anyS_plain hd hms hae, matchesSome_eq]
    cases (m.geoIPCode == "") && m.destinationAddresses.any (geoIPMatches env.toEnv q.geoIP) <;> rfl
  · rw [matchesSome_eq, Bool.or_eq_false_iff] at hnone
    exact hnone.1

end Search

def Passing (q : FilterRule) (m : InboundContext) : Prop :=
  m.flags.matched .destinationAddress = true ∨
    m.geoIPCode ≠ "" ∧ q.geoIP.contains m.geoIPCode = true

lemma searched_passing (h : Passing q m) :
    (q.searched env m).flags.matched .destinationAddress = true := by
  cases hflag : m.flags.matched .destinationAddress with
  | true => rw [searched, checkGroup_idle (.inr hflag), hflag]
  | false =>
    obtain ⟨hne, hlist⟩ := h.resolve_left (by simp [hflag])
    have hq : q.geoIP.isEmpty = false := by
      cases hq : q.geoIP <;> simp_all
    have hfirst : matchItem env (.geoIP false q.geoIP) m.markDidMatch =
        (true, m.markDidMatch) := by
      have hcode : (GeoIPItem.cachedCode false m.markDidMatch != "") = true := bne_iff_ne.2 hne
      rw [matchItem, GeoIPItem.matchItem, if_pos hcode]
      exact congrArg (·, m.markDidMatch) hlist
    have hs : anyS (matchItem env) q.rule.destinationIPCIDRItems m.markDidMatch =
        (true, m.markDidMatch) := by
      rw [q.addressItems, anyS_append, fromList, hq, if_neg Bool.false_ne_true, anyS_singleton, hfirst]
      rfl
    rw [searched, checkGroup, q.addressItems_ne, hflag, hs]
    simp [setMatched, MatchFlags.set]

namespace Ready

variable (hm : Ready q env m)

include hm

lemma searched_eq (hflag : m.flags.matched .destinationAddress = false)
    (hcode : m.geoIPCode = "" ∨ q.geoIP.contains m.geoIPCode = false) :
    (q.searched env m).flags.matched .destinationAddress =
        matchesSome env q.rule (m.geoIPCode == "") m.destinationAddresses ∧
      (matchesSome env q.rule (m.geoIPCode == "") m.destinationAddresses = false →
        CodeAfter q env m.geoIPCode (q.searched env m).geoIPCode m.destinationAddresses) := by
  obtain ⟨code, hs, hafter⟩ := anyS_addressItems env (m := m.markDidMatch)
    hm.destination hcode hm.ipcidrMatchSource hm.ipcidrAcceptEmpty
  have hs' : q.searched env m =
      if matchesSome env q.rule (m.geoIPCode == "") m.destinationAddresses then
        (m.markDidMatch.withCodes m.sourceGeoIPCode code).setMatched .destinationAddress
      else m.markDidMatch.withCodes m.sourceGeoIPCode code := by
    rw [searched, checkGroup, q.addressItems_ne, hflag, hs]
    rfl
  cases hsome : matchesSome env q.rule (m.geoIPCode == "") m.destinationAddresses with
  | true =>
    rw [hsome] at hs'
    refine ⟨?_, fun h => by cases h⟩
    rw [hs']
    simp [setMatched, MatchFlags.set]
  | false =>
    rw [hsome] at hs'
    rw [hs']
    exact ⟨hflag, fun _ => hafter hsome⟩

lemma arrive (addresses : List IPAddr) : Ready q env (m.withAddresses addresses) :=
  hm.of_flags (fun _ h => h) ⟨addresses, m.sourceGeoIPCode, m.geoIPCode, m.flags, rfl⟩

lemma step : ∃ m', matchAddressLimit env q.rule m =
      ((q.searched env m).flags.matched .destinationAddress, m') ∧ Ready q env m' ∧
    m'.flags.matched .destinationAddress = (q.searched env m).flags.matched .destinationAddress ∧
    m'.geoIPCode = (q.searched env m).geoIPCode := by
  obtain ⟨did, h⟩ := hm.matchAddressLimit_eq
  refine ⟨_, h, hm.of_flags (fun g hg => ?_) ?_, rfl, rfl⟩
  · by_cases hd : g = .destinationAddress
    · subst hd
      exact searched_passing (.inl hg)
    · exact ((searched_touches env).matched g hd).trans hg
  · obtain ⟨a, b, f, hrest⟩ := (searched_touches env).rest
    exact ⟨m.destinationAddresses, a, b, { f with didMatch := did }, by rw [hrest]; rfl⟩

end Ready

lemma sound_nil (env : RouterEnv) (r : DefaultRule RuleItem) (m : InboundContext) :
    Sound env r [] m := by
  simp [Sound]

lemma sound_cons (env : RouterEnv) (r : DefaultRule RuleItem) (response : Option (List IPAddr))
    (responses : List (Option (List IPAddr))) (m : InboundContext) :
    Sound env r (response :: responses) m ↔
      ((checkResponse env (.leaf r) response m).1 = true →
        response.any (matchesSome env r true) = true) ∧
      Sound env r responses (checkResponse env (.leaf r) response m).2 := by
  simp only [Sound, checkResponses, zip_cons_cons, forall_mem_cons]

lemma allMatch_cons (env : RouterEnv) (r : DefaultRule RuleItem) (response : Option (List IPAddr))
    (responses : List (Option (List IPAddr))) :
    allMatch env r (response :: responses) =
      (response.all (matchesSome env r true) && allMatch env r responses) := rfl

lemma checkResponse_some (env : RouterEnv) (r : DefaultRule RuleItem) (addresses : List IPAddr)
    (m : InboundContext) :
    checkResponse env (.leaf r) (some addresses) m =
      matchAddressLimit env r (m.withAddresses addresses) := by
  rw [checkResponse, DNSRuleBody.matchAddressLimit, AndOrTree.eval]

lemma sound_passing (hm : Ready q env m) (h : Passing q m) (responses : List (Option (List IPAddr))) :
    Sound env q.rule responses m ↔ allMatch env q.rule responses = true := by
  induction responses generalizing m with
  | nil => simp [sound_nil, allMatch]
  | cons response responses ih =>
    rw [sound_cons, allMatch_cons]
    cases response with
    | none => simpa [checkResponse] using ih hm h
    | some addresses =>
      obtain ⟨m', hstep, hm', hflag, _⟩ := (hm.arrive addresses).step
      have hpass : (q.searched env (m.withAddresses addresses)).flags.matched .destinationAddress =
          true := searched_passing h
      rw [checkResponse_some, hstep, hpass, ih hm' (.inl (hflag.trans hpass))]
      simp

variable {fresh : Bool}

lemma matchesSome_mono (h : matchesSome env q.rule fresh addresses = true) :
    matchesSome env q.rule true addresses = true := by
  rw [matchesSome_eq] at h ⊢
  cases fresh <;> simp_all

lemma matchesSome_congr {fresh' : Bool} (h : q.geoIP = [] ∨ fresh = fresh') :
    matchesSome env q.rule fresh addresses = matchesSome env q.rule fresh' addresses := by
  rcases h with h | h
  · have hnone : addresses.any (geoIPMatches env.toEnv q.geoIP) = false := by
      rw [any_eq_false]
      intro addr _
      simp [geoIPMatches, h]
    rw [matchesSome_eq, matchesSome_eq, hnone, Bool.and_false, Bool.and_false]
  · rw [h]

lemma sound_unflagged (hm : Ready q env m) (hflag : m.flags.matched .destinationAddress = false)
    (hcode : m.geoIPCode = "" ∨ q.geoIP.contains m.geoIPCode = false)
    (hfresh : q.geoIP = [] ∨ (m.geoIPCode == "") = fresh) (responses : List (Option (List IPAddr))) :
    Sound env q.rule responses m ↔ laterMatch env q.rule fresh responses = true := by
  induction responses generalizing m fresh with
  | nil => simp [sound_nil, laterMatch]
  | cons response responses ih =>
    rw [sound_cons]
    cases response with
    | none => simpa [checkResponse, laterMatch] using ih hm hflag hcode hfresh
    | some addresses =>
      obtain ⟨m', hstep, hm', hflag', hcode'⟩ := (hm.arrive addresses).step
      have hcongr : matchesSome env q.rule (m.geoIPCode == "") addresses =
          matchesSome env q.rule fresh addresses := matchesSome_congr hfresh
      obtain ⟨hfound, hafter⟩ := (hm.arrive addresses).searched_eq hflag hcode
      simp only [withAddresses_geoIPCode, withAddresses_addresses,
        hcongr] at hfound hafter
      rw [checkResponse_some, hstep, hfound, laterMatch]
      cases hsome : matchesSome env q.rule fresh addresses with
      | true =>
        rw [hsome] at hfound
        rw [if_pos rfl, ← sound_passing hm' (.inl (hflag'.trans hfound))]
        simp [matchesSome_mono hsome]
      | false =>
        rw [hsome] at hfound
        have hcode := hafter hsome
        rw [← hcode'] at hcode
        rw [if_neg Bool.false_ne_true]
        have hfresh' : q.geoIP = [] ∨ (m'.geoIPCode == "") =
            (fresh && addresses.all fun addr => GeoIPItem.lookupCode env.toEnv addr == "") := by
          rcases hfresh with hnil | rfl
          · exact .inl hnil
          · exact hcode.fresh
        rw [← ih hm' (hflag'.trans hfound) hcode.unlisted hfresh']
        simp

lemma ready_of_match (hd : m.destination = {})
    (h : DefaultDNSRule.matchRule env q.rule m.resetRuleCache = (true, m')) :
    Ready q env m' ∧
      m'.flags.matched .destinationAddress = !q.rule.destinationAddressItems.isEmpty := by
  rw [DefaultDNSRule.matchRule, matchRule_ungrouped env q.wellPlaced.toWellGrouped
    q.ruleSets q.allItems_ne] at h
  obtain ⟨hmatched, rfl⟩ := Prod.mk.inj h
  have htouch := visited_touches env q.wellPlaced.toWellGrouped
    (m.resetRuleCache.ignoring true)
  generalize visited env q.rule (m.resetRuleCache.ignoring true) = m₂ at htouch hmatched ⊢
  obtain ⟨a, b, f, rfl⟩ := htouch.rest
  split_ifs at hmatched with hitems
  · have hmissing := (conclude_iff q.not_inverted _).1 hmatched
    have hdecl : ∀ g, q.rule.declares true g = true → f.matched g = true := fun g hg => by
      simpa [missing, ignoring, withCodes, hg] using hmissing g
    refine ⟨⟨hdecl, ?_, by simpa using hd, rfl, rfl, rfl⟩, ?_⟩
    · have hsame : SameRequest ((((m.resetRuleCache.ignoring true).withCodes a b).withFlags f).ignoring
          false) (m.resetRuleCache.ignoring true) := by
        simp [SameRequest]
      rw [ungrouped_all env q.ungrouped hsame, hitems]
    · cases he : q.rule.destinationAddressItems.isEmpty with
      | true => exact htouch.matched .destinationAddress (by simp [declares, he,
          ignoring])
      | false => exact hdecl .destinationAddress (by simp [declares, he])
  · rw [q.not_inverted] at hmatched
    cases hmatched

lemma listsCode_eq (q : FilterRule) (code : String) : listsCode q.rule code = q.geoIP.contains code := by
  rw [listsCode, q.addressItems, any_append]
  have hplain : ((map (fun ipSet => plain (.headless (.ipCIDR false ipSet))) q.ipSets ++
      fromFlag q.ipIsPrivate (plain (.ipIsPrivate false))).any fun item => match item with
        | .geoIP _ codes => codes.contains code
        | _ => false) = false := by
    cases q.ipIsPrivate <;> simp [fromFlag]
  rw [hplain]
  cases hq : q.geoIP <;> simp [fromList]

lemma sound_iff (hd : m.destination = {}) (hcode : m.geoIPCode = m'.geoIPCode)
    (h : DefaultDNSRule.matchRule env q.rule m.resetRuleCache = (true, m'))
    (responses : List (Option (List IPAddr))) :
    Sound env q.rule responses m' ↔ filterHolds env q.rule m.geoIPCode responses = true := by
  obtain ⟨hready, hflag⟩ := ready_of_match hd h
  rw [filterHolds, passesAll, listsCode_eq, hcode]
  cases he : q.rule.destinationAddressItems.isEmpty with
  | false =>
    rw [he] at hflag
    exact sound_passing hready (.inl hflag) responses
  | true =>
    rw [he] at hflag
    by_cases hpass : m'.geoIPCode ≠ "" ∧ q.geoIP.contains m'.geoIPCode = true
    · rw [bne_iff_ne.2 hpass.1, hpass.2]
      exact sound_passing hready (.inr hpass) responses
    · have hun : m'.geoIPCode = "" ∨ q.geoIP.contains m'.geoIPCode = false := by
        by_cases hc : m'.geoIPCode = ""
        · exact .inl hc
        · exact .inr (by simpa [hc] using hpass)
      have hif : (m'.geoIPCode != "" && q.geoIP.contains m'.geoIPCode) = false := by
        rcases hun with h | h
        · rw [h, bne_self_eq_false, Bool.false_and]
        · rw [h, Bool.and_false]
      rw [hif]
      exact sound_unflagged hready hflag hun (.inr rfl) responses

end FilterRule

def DefaultDNSRuleOptions.filtersAddresses (o : DefaultDNSRuleOptions) : Bool :=
  !o.geoIP.isEmpty || !o.ipCIDR.isEmpty || o.ipIsPrivate

variable {lib : Library} {o : DefaultDNSRuleOptions} {r : DefaultRule RuleItem}

lemma FilterRule.ofOptions (h : newDefaultDNSRule lib o = .ok r) (hinv : o.invert = false)
    (hset : o.ruleSet = []) (hip : o.filtersAddresses = true) : ∃ q : FilterRule, q.rule = r := by
  have hplaced := newDefaultDNSRule_wellPlaced h
  have hsets := newDefaultDNSRule_ruleSets h hset
  obtain ⟨parsed, hp, rfl⟩ := newDefaultDNSRule_ok h
  obtain ⟨ipSets, hipSets⟩ : parsed.ipCIDR ∈ Set.range (map (.ipCIDR false)) := by
    rw [Set.range_list_map]
    exact fun i hi => ((parseItems_ok hp).ipCIDR i hi).imp fun _ h => h.symm
  have hnil := (parseItems_ok hp).ipCIDR_nil
  refine ⟨⟨_, o.geoIP, ipSets, o.ipIsPrivate, ?_, ?_, hplaced, hsets, hinv⟩, rfl⟩
  · simp [placeItems, ← hipSets, ofHeadless]
  · cases he : (placeItems lib o.toRuleConditions parsed (dnsItems o parsed)).destinationIPCIDRItems.isEmpty with
    | false => rfl
    | true =>
      simp only [placeItems, List.isEmpty_iff, append_eq_nil_iff, map_eq_nil_iff,
        fromList_eq_nil, fromFlag_eq_nil, hnil] at he
      simp [DefaultDNSRuleOptions.filtersAddresses, he] at hip

theorem address_filter_sound_iff {env : RouterEnv} {rt : Router} (hb : Built lib rt)
    (hr : newDefaultDNSRule lib o = .ok r) (hinv : o.invert = false) (hset : o.ruleSet = [])
    (hip : o.filtersAddresses = true) {m m' : InboundContext} (hd : m.destination = {})
    (allowFakeIP isAddressQuery : Bool) (index : Option ℕ) (sel : Selected)
    (hsel : matchDNS env rt allowFakeIP isAddressQuery index m = (some sel, m'))
    (hbody : sel.rule.body = .leaf r) (responses : List (Option (List IPAddr))) :
    Sound env r responses m' ↔ filterHolds env r m.geoIPCode responses = true := by
  obtain ⟨q, rfl⟩ := FilterRule.ofOptions hr hinv hset hip
  obtain ⟨m₀, hd₀, hg₀, hmatch⟩ := matchDNS_inv hb hsel
  rw [hbody, DNSRuleBody.matchRule, AndOrTree.eval] at hmatch
  have hkept := (matchRule_kept env (m := m₀.resetRuleCache) q.wellPlaced).2
  rw [hmatch] at hkept
  rw [← hg₀]
  exact FilterRule.sound_iff (hd₀.trans hd) hkept.symm hmatch responses

def loopbackRule (domain : List String) : DefaultDNSRuleOptions :=
  { domain, ipCIDR := ["127.0.0.1"], server := "local" }

def loopbackBody (domain : List String) : DefaultRule RuleItem :=
  placeItems .bare (loopbackRule domain).toRuleConditions
    { ipVersion := [], domainRegex := [], sourceIPCIDR := []
      ipCIDR := [.ipCIDR false (Library.bare.contains [.single (.v4 0x7F000001#32)])]
      sourcePortRange := [], portRange := [] } []

def loopbackRouter (domain : List String) : Router where
  dnsRules := [{ body := .leaf (loopbackBody domain), server := "local" }]
  transportMap _ := some { isFakeIP := false, excludes := none }

lemma loopbackRule_built (domain : List String) :
    newDefaultDNSRule .bare (loopbackRule domain) = .ok (loopbackBody domain) := rfl

lemma loopbackRouter_built (domain : List String) : Built .bare (loopbackRouter domain) := by
  intro rule hrule r hr
  rw [loopbackRouter, mem_singleton] at hrule
  rw [hrule, AndOrTree.leaves, mem_singleton] at hr
  exact ⟨_, hr ▸ loopbackRule_built domain⟩

theorem address_filter_sound_loopback :
    let m : InboundContext := { domain := "a.com" }
    Sound .bare (loopbackBody []) [some [.v4 0x0A000001#32], some [.v4 0x7F000001#32]]
      (matchDNS .bare (loopbackRouter []) true true none m).2 := by
  intro m
  exact (address_filter_sound_iff (loopbackRouter_built []) (loopbackRule_built []) rfl rfl rfl
    rfl true true none
    ⟨{ body := .leaf (loopbackBody []), server := "local" }, 0, { isFakeIP := false, excludes := none }⟩
    rfl rfl _).2 (by decide)

theorem address_filter_flag_cached :
    let m := (matchDNS .bare (loopbackRouter ["a.com"]) true true none { domain := "a.com" }).2
    checkResponses .bare (.leaf (loopbackBody ["a.com"])) [some [.v4 0x0A000001#32]] m = [true] ∧
      matchesSome .bare (loopbackBody ["a.com"]) true [.v4 0x0A000001#32] = false ∧
      ¬ Sound .bare (loopbackBody ["a.com"]) [some [.v4 0x0A000001#32]] m := by
  refine ⟨by decide, by decide, fun h => ?_⟩
  have hmatch := h (some [.v4 0x0A000001#32], true) (by decide) rfl
  revert hmatch
  decide

end SingBox.Dns
