import SingBox.Dns.AddressIndependence
import SingBox.Lib.Comparison
import SingBox.Route.SettledCodes

namespace SingBox.Dns

open Route Lib.Search Lib.LogicTree Lib.Comparison RuleItem List DefaultRule DNSRuleBody AndOrTree
open InboundContext

variable {lib : Library} {o : DefaultDNSRuleOptions} {r : DefaultRule RuleItem}

lemma filter_isRuleSet_append {plain sets : List RuleItem} (hp : ∀ i ∈ plain, i.isRuleSet = false)
    (hs : ∀ i ∈ sets, i.isRuleSet = true) :
    plain ++ sets = (plain ++ sets).filter (fun i => !i.isRuleSet) ++
      (plain ++ sets).filter isRuleSet := by
  have h₁ : plain.filter (fun i => !i.isRuleSet) = plain :=
    filter_eq_self.2 fun i hi => by simp [hp i hi]
  have h₂ : sets.filter (fun i => !i.isRuleSet) = [] :=
    filter_eq_nil_iff.2 fun i hi => by simp [hs i hi]
  have h₃ : plain.filter isRuleSet = [] :=
    filter_eq_nil_iff.2 fun i hi => by simp [hp i hi]
  have h₄ : sets.filter isRuleSet = sets := filter_eq_self.2 hs
  rw [filter_append, filter_append, h₁, h₂, h₃, h₄, append_nil, nil_append]

lemma newDefaultDNSRule_arranged (h : newDefaultDNSRule lib o = .ok r) : DefaultRule.Arranged r := by
  have hplaced := newDefaultDNSRule_wellPlaced h
  obtain ⟨parsed, hp, rfl⟩ := newDefaultDNSRule_ok h
  have htail : ∀ (codes : List String) (b : Bool) (rest : List RuleItem),
      (∀ i ∈ rest, i.isGeoIP = false) →
        ∀ i ∈ (fromList codes (geoIP b) ++ rest).tail, i.isGeoIP = false := by
    intro codes b rest hrest i hi
    cases codes with
    | nil => exact hrest i (mem_of_mem_tail hi)
    | cons code codes => exact hrest i hi
  refine ⟨hplaced.toWellGrouped, ?_, ?_, ?_, ?_⟩
  · simp only [placeItems, append_assoc]
    apply htail
    simp [forall_mem_fromFlag, ofHeadless, isGeoIP, or_imp, forall_and]
  · simp [placeItems, forall_mem_fromList, ofHeadless, isGeoIP, or_imp, forall_and]
  · simp only [placeItems, append_assoc]
    apply htail
    simp [forall_mem_fromFlag, ofHeadless, isGeoIP, or_imp, forall_and]
  · apply filter_isRuleSet_append
    · intro i hi
      obtain ⟨p, _, rfl⟩ := mem_map.1 hi
      rfl
    · simp [forall_mem_fromList, isRuleSet]

variable (env : RouterEnv) (r : DefaultRule RuleItem) (n : InboundContext)

def othersMet : Bool :=
  r.plainItems.all (value env n) &&
    [Group.sourceAddress, .sourcePort, .destinationPort].all fun g =>
      !r.declares true g || r.satisfies true (value env n) g

def hasOthers : Bool :=
  !r.plainItems.isEmpty || [Group.sourceAddress, .sourcePort, .destinationPort].any (r.declares true)

variable {env r n} {n' : InboundContext}

lemma met_eq (hset : r.setItems = []) :
    met env n r = (othersMet env r n &&
      (!r.declares n.ignoreDestinationIPCIDRMatch .destinationAddress ||
        r.satisfies n.ignoreDestinationIPCIDRMatch (value env n) .destinationAddress)) := by
  simp only [met, matchSets, hset, allS_nil, othersMet, Group.all, all_cons, all_nil, Bool.and_true, Bool.and_assoc]
  congr 3
  exact Bool.and_comm _ _

lemma tested_eq (hset : r.setItems = []) :
    tested env n r =
      (hasOthers r || r.declares n.ignoreDestinationIPCIDRMatch .destinationAddress) := by
  simp only [tested, matchSets, hset, startFlags, hasOthers, Group.all, any_cons, declares]
  ac_rfl

lemma allItems_isEmpty (hset : r.setItems = []) :
    r.allItems.isEmpty = !(hasOthers r || r.declares false .destinationAddress) := by
  have hplain : r.plainItems = r.items := by
    apply filter_eq_self.2
    intro i hi
    cases hs : i.isRuleSet with
    | false => rfl
    | true =>
      have hmem : i ∈ r.setItems := mem_filter.2 ⟨hi, hs⟩
      simp [hset] at hmem
  have happend : ∀ l l' : List RuleItem, (l ++ l').isEmpty = (l.isEmpty && l'.isEmpty) := fun l l' => by
    cases l <;> rfl
  simp only [allItems, happend, hasOthers, hplain, declares,
    any_cons, Bool.not_or, Bool.not_not, Bool.not_false, Bool.true_and]
  ac_rfl

lemma othersMet_congr (hsame : ∀ i, (i ∈ r.plainItems ∨ ∃ g, i ∈ r.groupItems true g) →
    value env n' i = value env n i) : othersMet env r n' = othersMet env r n := by
  have hplain : r.plainItems.all (value env n') = r.plainItems.all (value env n) :=
    all_congr_mem fun i hi => hsame i (.inl hi)
  have hgroup : ∀ g, r.satisfies true (value env n') g =
      r.satisfies true (value env n) g :=
    fun g => any_congr_mem fun i hi => hsame i (.inr ⟨g, hi⟩)
  simp only [othersMet, hplain, hgroup]


def setsMet (env : RouterEnv) (n : InboundContext) (r : DefaultRule RuleItem) : Bool :=
  (matchSets env n r).1 && Group.all.all fun g =>
    !r.declares n.ignoreDestinationIPCIDRMatch g || (matchSets env n r).2.flags.matched g

/-- How the answer of a rule without rule-sets changes when its address conditions are dropped. -/
def ownChange (env : RouterEnv) (n : InboundContext) (r : DefaultRule RuleItem) : Change :=
  let domains := r.destinationAddressItems
  let domain := domains.any (value env n)
  let address := r.destinationIPCIDRItems.any (value env n)
  let change : Change :=
    if !othersMet env r n then .rejected
    else if r.destinationIPCIDRItems.isEmpty then
      if domains.isEmpty || domain then .accepted else .rejected
    -- a rule with both kinds of condition takes an address for a domain
    else if domains.isEmpty then if address then .accepted else .gained
    else if domain then .accepted
    else if address then .lost else .rejected
  if !r.invert then change
  else if hasOthers r || !domains.isEmpty then change.invert
  -- nothing is tested once the addresses are left out
  else if address then .gained else .accepted

/-- The same for a rule with rule-sets, in which the address conditions of the sets are dropped too. -/
def setChange (env : RouterEnv) (n n' : InboundContext) (r : DefaultRule RuleItem) : Change :=
  if !r.plainItems.all (value env n) then if r.invert then .accepted else .rejected
  else if !r.invert then .of (setsMet env n r) (setsMet env n' r)
  else .of (!setsMet env n r || !tested env n r) (!setsMet env n' r || !tested env n' r)

def leafChange (env : RouterEnv) (n n' : InboundContext) (r : DefaultRule RuleItem) : Change :=
  if r.setItems.isEmpty then ownChange env n r else setChange env n n' r

section Leaf

variable {env : RouterEnv} {r : DefaultRule RuleItem} {n n' : InboundContext}
  (hsame : ∀ i, (i ∈ r.plainItems ∨ ∃ g, i ∈ r.groupItems true g) → value env n' i = value env n i)

include hsame

lemma ownChange_eq (hset : r.setItems = []) (hig : n.ignoreDestinationIPCIDRMatch = false)
    (hig' : n'.ignoreDestinationIPCIDRMatch = true) :
    ownChange env n r = .of (answer env n r) (answer env n' r) := by
  have hdomain : r.destinationAddressItems.any (value env n') =
      r.destinationAddressItems.any (value env n) :=
    any_congr_mem fun i hi => hsame i (.inr ⟨.destinationAddress, by simpa [groupItems] using hi⟩)
  rw [ownChange, answer, answer, allItems_isEmpty hset, met_eq hset, met_eq hset, tested_eq hset,
    tested_eq hset, othersMet_congr hsame, hig, hig']
  have hnone : ∀ l : List RuleItem, l.isEmpty = true → l.any (value env n) = false :=
    fun l hl => by simp [List.isEmpty_iff.1 hl]
  have hd := hnone r.destinationAddressItems
  have hi := hnone r.destinationIPCIDRItems
  have ho : hasOthers r = false → othersMet env r n = true := by
    intro h
    rw [hasOthers, Bool.or_eq_false_iff, Bool.not_eq_false', List.isEmpty_iff, any_eq_false] at h
    rw [othersMet, h.1, all_nil, Bool.true_and, all_eq_true]
    intro g hg
    simp [h.2 g hg]
  simp only [declares, satisfies, groupItems, if_true,
    Bool.false_eq_true, if_false, append_nil, any_append, hdomain]
  -- what remains is a statement about the truth values of the conditions
  generalize othersMet env r n = others, hasOthers r = some, r.invert = invert,
    r.destinationAddressItems.isEmpty = noDomain, r.destinationIPCIDRItems.isEmpty = noAddress,
    r.destinationAddressItems.any (value env n) = domain,
    r.destinationIPCIDRItems.any (value env n) = address at hd hi ho ⊢
  cases invert with
  | true =>
    revert others some noDomain noAddress domain address
    decide
  | false =>
    revert others some noDomain noAddress domain address
    decide

lemma setChange_eq (hset : r.setItems ≠ []) :
    setChange env n n' r = .of (answer env n r) (answer env n' r) := by
  have hne : r.allItems.isEmpty = false := by
    obtain ⟨i, hi⟩ := exists_mem_of_ne_nil _ hset
    have hmem : i ∈ r.allItems := mem_allItems.2 (.inl (mem_filter.1 hi).1)
    cases he : r.allItems with
    | nil => simp [he] at hmem
    | cons _ _ => rfl
  have hplain : r.plainItems.all (value env n') = r.plainItems.all (value env n) :=
    all_congr_mem fun i hi => hsame i (.inl hi)
  rw [setChange, answer, answer, hne, met, met, hplain, Bool.and_assoc, Bool.and_assoc]
  change _ = Change.of (if false = true then true else if (_ && setsMet env n r) = true then _ else _)
    (if false = true then true else if (_ && setsMet env n' r) = true then _ else _)
  cases r.plainItems.all (value env n) <;> cases r.invert <;> cases setsMet env n r <;>
    cases setsMet env n' r <;> simp [Change.of]

lemma leafChange_eq (hig : n.ignoreDestinationIPCIDRMatch = false)
    (hig' : n'.ignoreDestinationIPCIDRMatch = true) :
    leafChange env n n' r = .of (answer env n r) (answer env n' r) := by
  rw [leafChange]
  split_ifs with h
  · exact ownChange_eq hsame (List.isEmpty_iff.1 h) hig hig'
  · exact setChange_eq hsame fun hnil => h (List.isEmpty_iff.2 hnil)

end Leaf

/-- Which code a GeoIP condition reads does not depend on the conditions evaluated before it. -/
def geoIPSettled (m : InboundContext) (addresses : List IPAddr) : RuleItem → Bool
  | .geoIP true _ => m.sourceGeoIPCode != "" || m.source.addr.isSome
  | .geoIP false _ => m.geoIPCode != "" || m.destination.addr.isSome || addresses.length ≤ 1
  | _ => true

def withResponse (m : InboundContext) (addresses : List IPAddr) : InboundContext :=
  (m.withAddresses addresses).resetRuleCache

def withoutResponse (m : InboundContext) : InboundContext := (m.withAddresses []).resetRuleCache

section PreFilter

variable {env : RouterEnv} {body : RuleBody} {m : InboundContext} {addresses : List IPAddr}
  {i : RuleItem}

lemma settled_withResponse (h : geoIPSettled m addresses i = true) :
    i.settled (withResponse m addresses) = true := by
  cases i with
  | geoIP isSource codes =>
    cases isSource with
    | true =>
      have hlooked : m.source.addr.isSome = true → (looked true (withResponse m addresses)).length ≤ 1 := by
        intro hsome
        obtain ⟨addr, haddr⟩ := Option.isSome_iff_exists.1 hsome
        simp [looked, withResponse, withAddresses, resetRuleCache, haddr]
      rw [geoIPSettled, Bool.or_eq_true] at h
      rw [settled, Bool.or_eq_true, decide_eq_true_iff]
      exact h.imp id hlooked
    | false =>
      rw [geoIPSettled, Bool.or_eq_true, Bool.or_eq_true, decide_eq_true_iff, or_assoc] at h
      rw [settled, Bool.or_eq_true, decide_eq_true_iff]
      refine h.imp id fun h => ?_
      cases haddr : m.destination.addr with
      | some addr => simp [looked, withResponse, withAddresses, resetRuleCache, haddr]
      | none => simpa [looked, withResponse, withAddresses, resetRuleCache, haddr] using h
  | _ => rfl

lemma geoIPSettled_nil (h : geoIPSettled m addresses i = true) : geoIPSettled m [] i = true := by
  cases i with
  | geoIP isSource codes =>
    cases isSource with
    | true => exact h
    | false => simp [geoIPSettled]
  | _ => rfl

lemma value_withoutResponse (hl : Loaded lib env) (hi : i.readsAddresses = false)
    (hs : i.isRuleSet = false) (h : geoIPSettled m addresses i = true) :
    value env ((withoutResponse m).ignoring true) i = value env (withResponse m addresses) i := by
  have hcovers : (Loopholes.mk i.isGeoIP false).Covers env i := by
    cases i with
    | ruleSet _ _ _ => cases hs
    | geoIP _ _ => exact fun _ => rfl
    | _ => trivial
  have hlimit : i.limitsAddresses env = false := by
    cases i with
    | ruleSet _ _ _ => cases hs
    | _ => rfl
  have hshut : (Loopholes.mk i.isGeoIP false).Shut env.toEnv m := by
    refine ⟨fun hgeo => ?_, fun h => by cases h⟩
    cases i with
    | geoIP isSource codes =>
      cases isSource with
      | true =>
        rw [geoIPSettled, Bool.or_eq_true, bne_iff_ne] at h
        exact h.symm.imp_right .inl
      | false => cases hi
    | _ => cases hgeo
  exact (matchItem_agree hl hi hcovers hlimit ((withoutResponse m).ignoring true)
    (withResponse m addresses) ⟨rfl, hshut⟩).1

variable (hl : Loaded lib env) (hb : ∀ r ∈ body.leaves, ∃ o, newDefaultDNSRule lib o = .ok r)
  (hm : m.ignoreDestinationIPCIDRMatch = false)
  (hg : ∀ r ∈ body.leaves, ∀ i ∈ r.allItems, geoIPSettled m addresses i = true)

include hb hg

lemma matchAddressLimit_eq :
    (matchAddressLimit env body (withResponse m addresses)).1 =
      body.holds (answer env (withResponse m addresses)) := by
  rw [matchAddressLimit]
  refine (eval_eq_holds (I := Along env.toEnv (withResponse m addresses))
    (J := fun s => Along env.toEnv (withResponse m addresses) s ∧ s.resetRuleCache = s) body
    ?_ (fun s h => h.1) (fun _ _ => rfl) ?_ ⟨Along.refl _ _, rfl⟩).1
  · exact fun s h => ⟨h.congr rfl, rfl⟩
  · rintro r hr s ⟨h, hs⟩
    obtain ⟨o, ho⟩ := hb r hr
    have hset := fun i hi => settled_withResponse (hg r hr i hi)
    exact ⟨matchRule_settled env (newDefaultDNSRule_arranged ho) hset rfl h hs, matchRule_along env hset h⟩

include hm in
lemma matchRule_eq_holds :
    (matchRule env body (withoutResponse m)).1 =
      body.holds (answer env ((withoutResponse m).ignoring true)) := by
  rw [DNSRuleBody.matchRule]
  refine (eval_eq_holds (I := Along env.toEnv (withoutResponse m))
    (J := fun s => Along env.toEnv (withoutResponse m) s ∧ s.resetRuleCache = s) body
    ?_ (fun s h => h.1) (fun _ _ => rfl) ?_ ⟨Along.refl _ _, rfl⟩).1
  · exact fun s h => ⟨h.congr rfl, rfl⟩
  · rintro r hr s ⟨h, hs⟩
    obtain ⟨o, ho⟩ := hb r hr
    have hset : ∀ i ∈ r.allItems, i.settled ((withoutResponse m).ignoring true) = true := fun i hi =>
      settled_withResponse (geoIPSettled_nil (hg r hr i hi))
    refine ⟨?_, ?_⟩
    · exact matchRule_settled env (newDefaultDNSRule_arranged ho) hset rfl (h.ignoring true)
        (congrArg (·.ignoring true) hs)
    · have hafter := (matchRule_along env hset (h.ignoring true)).ignoring false
      have hn : ((withoutResponse m).ignoring true).ignoring false = withoutResponse m := by
        rw [← hm]
        rfl
      rw [hn] at hafter
      exact hafter

include hl hm

end PreFilter

def networkRule (invert : Bool) : DefaultDNSRuleOptions :=
  { network := ["udp"], ipCIDR := ["127.0.0.1"], invert, server := "local" }

def networkBody (invert : Bool) : DefaultRule RuleItem :=
  { invert
    items := [.plain (.headless (.network ["udp"]))]
    destinationIPCIDRItems :=
      [.ofHeadless (.ipCIDR false (Library.bare.contains [.single (.v4 0x7F000001#32)]))] }

lemma networkRule_built (invert : Bool) :
    newDefaultDNSRule .bare (networkRule invert) = .ok (networkBody invert) := rfl

lemma bare_loaded : Loaded .bare .bare :=
  ⟨fun _ => ⟨[], [], [], [], rfl⟩, fun _ => ⟨[], rfl⟩⟩

end SingBox.Dns
