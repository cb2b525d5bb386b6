import SingBox.Route.RuleSetMerge

namespace SingBox.Route

open Lib.Search GeoIPItem RuleItem List DefaultRule

namespace RuleItem

def value (env : RouterEnv) (m : InboundContext) (i : RuleItem) : Bool := (i.matchItem env m).1

def isGeoIP : RuleItem → Bool
  | .geoIP _ _ => true
  | _ => false

def isGeosite : RuleItem → Bool
  | .geosite _ => true
  | _ => false

end RuleItem

variable {env : RouterEnv} {n m : InboundContext} {i : RuleItem} {items : List RuleItem}

def geositeHolds (env : RouterEnv) (n : InboundContext) (code : String) : Bool :=
  (env.geosite code).isEmpty || (env.geosite code).any fun i => i.holds env.toEnv n

def Near (n m : InboundContext) : Prop := ∃ a b f, m = (n.withCodes a b).withFlags f

lemma Near.refl (n : InboundContext) : Near n n := ⟨n.sourceGeoIPCode, n.geoIPCode, n.flags, rfl⟩

lemma Near.touches {G : Group → Prop} {m' : InboundContext} (h : Near n m) (h' : Touches G m m') :
    Near n m' := by
  obtain ⟨a, b, f, rfl⟩ := h
  obtain ⟨a', b', f', rfl⟩ := h'.rest
  exact ⟨a', b', f', rfl⟩

lemma HeadlessItem.holds_near (h : Near n m) (item : HeadlessItem) :
    item.holds env.toEnv m = item.holds env.toEnv n := by
  obtain ⟨a, b, f, rfl⟩ := h
  rw [HeadlessItem.holds_withFlags, HeadlessItem.holds_withCodes]

lemma PlainItem.holds_near (h : Near n m) (item : PlainItem) :
    item.holds env.toEnv m = item.holds env.toEnv n := by
  cases item with
  | headless item => exact HeadlessItem.holds_near h item
  | _ =>
    obtain ⟨a, b, f, rfl⟩ := h
    rfl

variable (env) in
lemma geositeRule_match (hm : m.flags.matched .destinationAddress = false) (code : String) :
    let result := (geositeRule env code).matchRule (HeadlessItem.matchItem env.toEnv)
      (fun _ => false) m
    result.1 = geositeHolds env m code ∧
      (geositeHolds env m code = false → result.2.flags.matched .destinationAddress = false) := by
  intro result
  have hitems : (geositeRule env code).allItems = env.geosite code := by
    simp [geositeRule, allItems]
  cases he : (env.geosite code).isEmpty with
  | true =>
    refine ⟨?_, fun h => by simp [geositeHolds, he] at h⟩
    simp [result, DefaultRule.matchRule, hitems, he, geositeHolds]
  | false =>
    have hpure := matchRule_pure (f := m.flags)
      (HeadlessItem.pureOn env.toEnv m (geositeRule env code).allItems)
      (fun _ _ => rfl : ∀ i ∈ (geositeRule env code).items, (fun _ => false) i = false)
      (by rw [hitems, he])
    rw [InboundContext.withFlags_self] at hpure
    have hsat : ∀ ignore, (geositeRule env code).satisfies ignore (fun i => i.holds env.toEnv m)
        .destinationAddress = geositeHolds env m code := by
      intro ignore
      cases ignore <;>
        simp [DefaultRule.satisfies, DefaultRule.groupItems, geositeRule, geositeHolds, he]
    have hcomp : (geositeRule env code).completes m.ignoreDestinationIPCIDRMatch
        (fun i => i.holds env.toEnv m) m.flags = geositeHolds env m code := by
      rw [← hsat m.ignoreDestinationIPCIDRMatch]
      simp [completes, Group.all, hm, declares, geositeRule, he]
    simp only [result]
    rw [hpure]
    refine ⟨?_, fun hno => ?_⟩
    · rw [verdict, hitems, he, hcomp]
      cases geositeHolds env m code <;> simp [geositeRule]
    · rw [InboundContext.withFlags_flags]
      change (m.flags.matched .destinationAddress || _) = false
      rw [hm, hsat, hno]
      rfl

variable (env) in
lemma geositeMatch_eq (hm : m.flags.matched .destinationAddress = false) (codes : List String) :
    (geositeMatch env codes m).1 = codes.any (geositeHolds env m) ∧
      (codes.any (geositeHolds env m) = false →
        (geositeMatch env codes m).2.flags.matched .destinationAddress = false) := by
  have h := anyS_fst_eq_any (l := codes) (p := geositeHolds env m)
    (I := fun s => Near m s ∧ s.flags.matched .destinationAddress = false) (s := m)
    (f := fun code m => (geositeRule env code).matchRule (HeadlessItem.matchItem env.toEnv)
      (fun _ => false) m) ?_ ⟨Near.refl m, hm⟩
  · exact ⟨h.1, fun hno => (h.2 hno).2⟩
  · intro code _ s ⟨hs, hflag⟩
    obtain ⟨hval, hafter⟩ := geositeRule_match env hflag code
    have hholds : geositeHolds env s code = geositeHolds env m code := by
      simp only [geositeHolds, HeadlessItem.holds_near hs]
    rw [hholds] at hval hafter
    exact ⟨hval, fun hno => ⟨hs.touches (geositeRule_touches code), hafter hno⟩⟩

def geoIPMatches (env : Env) (codes : List String) (addr : IPAddr) : Bool :=
  lookupCode env addr != "" && codes.contains (lookupCode env addr)

def geoIPHolds (env : Env) (isSource : Bool) (codes : List String) (cached : String)
    (n : InboundContext) : Bool :=
  if cached != "" then codes.contains cached
  else match if isSource then n.source.addr else n.destination.addr with
    | some addr => geoIPMatches env codes addr
    | none => n.destinationAddresses.any (geoIPMatches env codes)

lemma matchAddr_fst (env : Env) (isSource : Bool) (codes : List String) (addr : IPAddr)
    (m : InboundContext) :
    (matchAddr env isSource codes addr m).1 = geoIPMatches env codes addr := by
  rw [matchAddr, geoIPMatches, bne]
  cases lookupCode env addr == "" <;> rfl

lemma geoIP_value (env : Env) (isSource : Bool) (codes : List String) (m : InboundContext) :
    (GeoIPItem.matchItem env isSource codes m).1 =
      geoIPHolds env isSource codes (cachedCode isSource m) m := by
  rw [GeoIPItem.matchItem, geoIPHolds]
  cases cachedCode isSource m != "" with
  | true => rfl
  | false =>
    simp only [Bool.false_eq_true, if_false]
    cases if isSource then m.source.addr else m.destination.addr with
    | some addr => exact matchAddr_fst env isSource codes addr m
    | none =>
      exact (anyS_fst_eq_any (I := fun _ => True)
        (fun addr _ s _ => ⟨matchAddr_fst env isSource codes addr s, fun _ => trivial⟩) trivial).1

namespace RuleItem

structure Undisturbed (n m : InboundContext) (i : RuleItem) : Prop where
  near : Near n m
  geosite : i.isGeosite = true → m.flags.matched .destinationAddress = false
  geoIP : ∀ isSource codes, i = .geoIP isSource codes →
    cachedCode isSource m = cachedCode isSource n

lemma value_undisturbed (hs : i.isRuleSet = false) (hn : n.flags.matched .destinationAddress = false)
    (h : Undisturbed n m i) : (i.matchItem env m).1 = i.value env n := by
  cases i with
  | plain item => exact PlainItem.holds_near h.near item
  | geosite codes =>
    have hm := geositeMatch_eq env (h.geosite rfl) codes
    have hn := geositeMatch_eq env hn codes
    have hholds : geositeHolds env m = geositeHolds env n := by
      funext code
      simp only [geositeHolds, HeadlessItem.holds_near h.near]
    rw [hholds] at hm
    exact hm.1.trans hn.1.symm
  | geoIP isSource codes =>
    rw [value, matchItem, matchItem, geoIP_value, geoIP_value, h.geoIP isSource codes rfl]
    obtain ⟨a, b, f, rfl⟩ := h.near
    rfl
  | ruleSet _ _ _ => cases hs

lemma failed_flags (hs : i.isRuleSet = false)
    (hm : m.flags.matched .destinationAddress = false ∨ i.isGeosite = false)
    (hno : (i.matchItem env m).1 = false) : (i.matchItem env m).2.flags.matched = m.flags.matched := by
  cases i with
  | plain item => rfl
  | geosite codes =>
    have hm := hm.resolve_right (by simp [isGeosite])
    obtain ⟨hval, hflag⟩ := geositeMatch_eq env hm codes
    funext g
    by_cases hg : g = .destinationAddress
    · rw [hg, hm]
      exact hflag (hval.symm.trans hno)
    · exact (geosite_touches codes).matched g hg
  | geoIP isSource codes =>
    funext g
    exact (geoIP_touches (fun _ => False) isSource codes).matched g id
  | ruleSet _ _ _ => cases hs

lemma anyS_failed_flags (hs : ∀ i ∈ items, i.isRuleSet = false)
    (hm : m.flags.matched .destinationAddress = false ∨ ∀ i ∈ items, i.isGeosite = false)
    (hno : (anyS (matchItem env) items m).1 = false) :
    (anyS (matchItem env) items m).2.flags.matched = m.flags.matched := by
  induction items generalizing m with
  | nil => rfl
  | cons i items ih =>
    rw [anyS_cons] at hno ⊢
    cases hi : (i.matchItem env m).1 with
    | true => simp [hi] at hno
    | false =>
      rw [hi, if_neg Bool.false_ne_true] at hno
      rw [if_neg Bool.false_ne_true]
      have hstep := failed_flags (hs i (by simp)) (hm.imp_right fun h => h i (by simp)) hi
      rw [ih (fun j hj => hs j (mem_cons_of_mem _ hj)) _ hno, hstep]
      rw [hstep]
      exact hm.imp_right fun h j hj => h j (mem_cons_of_mem _ hj)

end RuleItem

section Block

structure Block (items : List RuleItem) : Prop where
  ruleSets : ∀ i ∈ items, i.isRuleSet = false
  geoIP : ∀ i ∈ items.tail, i.isGeoIP = false

variable (hn : n.flags.matched .destinationAddress = false)

include hn

variable (env) in
lemma anyS_block (hb : Block items) (hnear : Near n m)
    (hflag : m.flags.matched .destinationAddress = false ∨ ∀ i ∈ items, i.isGeosite = false)
    (hcode : ∀ isSource codes, .geoIP isSource codes ∈ items →
      cachedCode isSource m = cachedCode isSource n) :
    (anyS (RuleItem.matchItem env) items m).1 = items.any (RuleItem.value env n) := by
  cases items with
  | nil => rfl
  | cons i rest =>
    have hs := hb.ruleSets i (by simp)
    have hval : (i.matchItem env m).1 = i.value env n := by
      apply RuleItem.value_undisturbed hs hn
      refine ⟨hnear, fun hgeo => ?_, fun isSource codes hi => hcode isSource codes (by simp [hi])⟩
      exact hflag.resolve_right fun h => by simp [h i (by simp)] at hgeo
    rw [anyS_cons, any_cons, hval]
    cases hv : i.value env n with
    | true => rfl
    | false =>
      -- no item of the rest reads a cached code, and those before it have failed
      apply (anyS_fst_eq_any (I := fun s => Near n s ∧ (s.flags.matched .destinationAddress = false ∨
        ∀ j ∈ rest, j.isGeosite = false)) _ _).1
      · intro j hj s ⟨hnear, hflag⟩
        have hs := hb.ruleSets j (mem_cons_of_mem _ hj)
        have hjval : (j.matchItem env s).1 = j.value env n := by
          apply RuleItem.value_undisturbed hs hn
          refine ⟨hnear, fun hgeo => ?_, fun isSource codes hi => ?_⟩
          · exact hflag.resolve_right fun h => by simp [h j hj] at hgeo
          · have hno := hb.geoIP j hj
            rw [hi] at hno
            cases hno
        refine ⟨hjval, fun hno => ⟨hnear.touches (matchItem_touches hs), ?_⟩⟩
        rw [RuleItem.failed_flags hs (hflag.imp_right fun h => h j hj) (hjval.trans hno)]
        exact hflag
      · refine ⟨hnear.touches (matchItem_touches hs), ?_⟩
        rw [RuleItem.failed_flags hs (hflag.imp_right fun h => h i (by simp)) (hval.trans hv)]
        exact hflag.imp_right fun h j hj => h j (mem_cons_of_mem _ hj)

variable (env) in
lemma checkGroup_matched {g : Group} (hb : Block items) (hnear : Near n m)
    (hflag : m.flags.matched .destinationAddress = false ∨ ∀ i ∈ items, i.isGeosite = false)
    (hcode : ∀ isSource codes, .geoIP isSource codes ∈ items →
      cachedCode isSource m = cachedCode isSource n) :
    (DefaultRule.checkGroup (RuleItem.matchItem env) g items m).flags.matched g =
      (m.flags.matched g || items.any (RuleItem.value env n)) := by
  have hval := anyS_block env (m := m.markDidMatch) hn hb
    (hnear.touches (Touches.markDidMatch (fun _ => False) m)) hflag hcode
  rw [DefaultRule.checkGroup]
  cases hm : m.flags.matched g with
  | true => simp [hm]
  | false =>
    cases he : items.isEmpty with
    | true => simp [List.isEmpty_iff.1 he, hm]
    | false =>
      simp only [Bool.not_false, Bool.and_self, if_true, Bool.false_or, hval]
      cases hany : items.any (RuleItem.value env n) with
      | true => simp [InboundContext.setMatched, MatchFlags.set]
      | false =>
        rw [if_neg Bool.false_ne_true, RuleItem.anyS_failed_flags (m := m.markDidMatch) hb.ruleSets hflag
          (hval.trans hany)]
        exact hm

end Block

namespace DefaultRule

def plainItems (r : DefaultRule RuleItem) : List RuleItem := r.items.filter fun i => !i.isRuleSet

def setItems (r : DefaultRule RuleItem) : List RuleItem := r.items.filter isRuleSet

structure Arranged (r : DefaultRule RuleItem) : Prop extends WellGrouped r where
  sourceGeoIP : ∀ i ∈ r.sourceAddressItems.tail, i.isGeoIP = false
  domains : ∀ i ∈ r.destinationAddressItems, i.isGeoIP = false
  geoIP : ∀ i ∈ r.destinationIPCIDRItems.tail, i.isGeoIP = false
  items_eq : r.items = r.plainItems ++ r.setItems

variable {r : DefaultRule RuleItem}
  {g : Group}

lemma block_of_group (hg : ∀ i ∈ items, i.group = some g)
    (hgeo : ∀ i ∈ items.tail, i.isGeoIP = false) : Block items :=
  ⟨fun i hi => isRuleSet_of_group (hg i hi), hgeo⟩

lemma isGeoIP_of_group (hg : ∀ i ∈ items, i.group = some g) (h₁ : g ≠ .sourceAddress)
    (h₂ : g ≠ .destinationAddress) : ∀ i ∈ items, i.isGeoIP = false := by
  intro i hi
  cases i with
  | geoIP isSource codes =>
    have h := hg _ hi
    cases isSource
    · exact absurd (Option.some.inj h).symm h₂
    · exact absurd (Option.some.inj h).symm h₁
  | _ => rfl

lemma isGeosite_of_group (hg : ∀ i ∈ items, i.group = some g) (h : g ≠ .destinationAddress) :
    ∀ i ∈ items, i.isGeosite = false := by
  intro i hi
  cases i with
  | geosite codes => exact absurd (Option.some.inj (hg _ hi)).symm h
  | _ => rfl

variable (env) in
lemma checkGroup_touches_group (hg : ∀ i ∈ items, i.group = some g)
    (m : InboundContext) : Touches (· = g) m (checkGroup (RuleItem.matchItem env) g items m) := by
  apply (checkGroup_touches env hg m).mono
  rintro _ ⟨rfl, _⟩
  rfl

lemma checkGroup_kept (hi : ∀ i ∈ items, ∀ codes, i ≠ .geoIP false codes) (m : InboundContext) :
    kept (checkGroup (RuleItem.matchItem env) g items m) = kept m := by
  apply checkGroup_invariant (I := fun m' => kept m' = kept m) (fun _ _ h => h) _ rfl
  intro i hmem m' hm'
  rw [matchItem_kept env (hi i hmem), hm']

section Groups

variable (env) (n) (r)

def afterSource : InboundContext :=
  checkGroup (RuleItem.matchItem env) .sourcePort r.sourcePortItems
    (checkGroup (RuleItem.matchItem env) .sourceAddress r.sourceAddressItems n)

def afterDomains : InboundContext :=
  checkGroup (RuleItem.matchItem env) .destinationAddress r.destinationAddressItems
    (afterSource env n r)

def afterAddresses : InboundContext :=
  if !n.ignoreDestinationIPCIDRMatch then
    checkGroup (RuleItem.matchItem env) .destinationAddress r.destinationIPCIDRItems
      (afterDomains env n r)
  else afterDomains env n r

variable {n r} (hr : Arranged r)

include hr

lemma source_group : ∀ i ∈ r.sourceAddressItems, i.group = some .sourceAddress :=
  hr.grouped .sourceAddress

lemma sourcePort_group : ∀ i ∈ r.sourcePortItems, i.group = some .sourcePort :=
  hr.grouped .sourcePort

lemma port_group : ∀ i ∈ r.destinationPortItems, i.group = some .destinationPort :=
  hr.grouped .destinationPort

lemma domain_group : ∀ i ∈ r.destinationAddressItems, i.group = some .destinationAddress :=
  fun i hi => hr.grouped .destinationAddress i (mem_append_left _ hi)

lemma address_group : ∀ i ∈ r.destinationIPCIDRItems, i.group = some .destinationAddress :=
  fun i hi => hr.grouped .destinationAddress i (mem_append_right _ hi)

lemma afterSource_touches :
    Touches (fun g => g = .sourceAddress ∨ g = .sourcePort) n (afterSource env n r) := by
  apply ((checkGroup_touches_group env (source_group hr) n).mono fun _ => .inl).trans
  exact (checkGroup_touches_group env (sourcePort_group hr) _).mono fun _ => .inr

lemma afterDomains_touches :
    Touches (· = .destinationAddress) (afterSource env n r) (afterDomains env n r) :=
  checkGroup_touches_group env (domain_group hr) _

lemma afterAddresses_touches :
    Touches (· = .destinationAddress) (afterSource env n r) (afterAddresses env n r) := by
  rw [afterAddresses]
  split_ifs
  · apply (afterDomains_touches env hr).trans
    exact checkGroup_touches_group env (address_group hr) _
  · exact afterDomains_touches env hr

lemma afterDomains_kept : kept (afterDomains env n r) = kept n := by
  have hno : ∀ {g : Group}, g ≠ .destinationAddress → ∀ {items : List RuleItem},
      (∀ i ∈ items, i.group = some g) → ∀ i ∈ items, ∀ codes, i ≠ .geoIP false codes := by
    rintro g hg items hi i hmem codes rfl
    exact hg (Option.some.inj (hi _ hmem)).symm
  have hd : ∀ i ∈ r.destinationAddressItems, ∀ codes, i ≠ .geoIP false codes := by
    rintro i hi codes rfl
    cases hr.domains _ hi
  rw [afterDomains, checkGroup_kept hd, afterSource,
    checkGroup_kept (hno (by simp) (sourcePort_group hr)),
    checkGroup_kept (hno (by simp) (source_group hr))]

variable (hn : n.flags = {})

include hn

lemma afterSource_matched :
    (afterSource env n r).flags.matched .sourceAddress =
        r.sourceAddressItems.any (RuleItem.value env n) ∧
      (afterSource env n r).flags.matched .sourcePort =
        r.sourcePortItems.any (RuleItem.value env n) := by
  have hflag : ∀ g, n.flags.matched g = false := fun g => by rw [hn]
  have htouch := checkGroup_touches_group env (source_group hr) n
  have hsp := isGeoIP_of_group (sourcePort_group hr) (by simp) (by simp)
  refine ⟨?_, ?_⟩
  · rw [afterSource, (checkGroup_touches_group env (sourcePort_group hr) _).matched _ (by simp)]
    have h := checkGroup_matched env (hflag _)
      (block_of_group (source_group hr) hr.sourceGeoIP) (g := .sourceAddress) (Near.refl n)
      (.inl (hflag _)) (fun _ _ _ => rfl)
    rw [hflag, Bool.false_or] at h
    exact h
  · have h := checkGroup_matched env (hflag _) (g := .sourcePort)
      (block_of_group (sourcePort_group hr) fun i hi => hsp i (mem_of_mem_tail hi))
      ((Near.refl n).touches htouch) (.inr (isGeosite_of_group (sourcePort_group hr) (by simp)))
      (fun isSource codes hi => by cases hsp _ hi)
    rw [htouch.matched _ (by simp), hflag, Bool.false_or] at h
    exact h

lemma afterDomains_matched :
    (afterDomains env n r).flags.matched .destinationAddress =
      r.destinationAddressItems.any (RuleItem.value env n) := by
  have hflag : ∀ g, n.flags.matched g = false := fun g => by rw [hn]
  have htouch := afterSource_touches (n := n) env hr
  have hdest : (afterSource env n r).flags.matched .destinationAddress = false :=
    (htouch.matched _ (by simp)).trans (hflag _)
  have h := checkGroup_matched env (hflag _) (g := .destinationAddress)
    (block_of_group (domain_group hr) fun i hi => hr.domains i (mem_of_mem_tail hi))
    ((Near.refl n).touches htouch) (.inl hdest) (fun isSource codes hi => by cases hr.domains _ hi)
  rw [hdest, Bool.false_or] at h
  exact h

lemma afterAddresses_matched :
    (afterAddresses env n r).flags.matched .destinationAddress =
      r.satisfies n.ignoreDestinationIPCIDRMatch (RuleItem.value env n) .destinationAddress := by
  have hflag : ∀ g, n.flags.matched g = false := fun g => by rw [hn]
  rw [afterAddresses, satisfies, groupItems]
  cases n.ignoreDestinationIPCIDRMatch with
  | true => simpa using afterDomains_matched env hr hn
  | false =>
    have htouch := afterDomains_touches (n := n) env hr
    have hcode := kept_geoIPCode (afterDomains_kept (n := n) env hr)
    have hmatched := afterDomains_matched env hr hn
    simp only [Bool.not_false, if_true, Bool.false_eq_true, if_false, any_append]
    rw [← hmatched]
    cases hdest : (afterDomains env n r).flags.matched .destinationAddress with
    | true => rw [checkGroup_idle (.inr hdest), hdest, Bool.true_or]
    | false =>
      rw [checkGroup_matched env (hflag _) (block_of_group (address_group hr) hr.geoIP)
        (((Near.refl n).touches (afterSource_touches env hr)).touches htouch) (.inl hdest), hdest]
      intro isSource codes hi
      cases isSource with
      | true => cases address_group hr _ hi
      | false => exact hcode

end Groups

variable (env) in
lemma checkGroups_matched (hr : Arranged r) (hn : n.flags = {}) (g : Group) :
    (r.checkGroups (RuleItem.matchItem env) n).flags.matched g =
      r.satisfies n.ignoreDestinationIPCIDRMatch (RuleItem.value env n) g := by
  have hflag : ∀ g, n.flags.matched g = false := fun g => by rw [hn]
  have hig : (afterDomains env n r).ignoreDestinationIPCIDRMatch = n.ignoreDestinationIPCIDRMatch :=
    kept_ignore (afterDomains_kept env hr)
  have hgroups : r.checkGroups (RuleItem.matchItem env) n =
      checkGroup (RuleItem.matchItem env) .destinationPort r.destinationPortItems
        (afterAddresses env n r) := by
    rw [afterAddresses, ← hig]
    rfl
  have hlast := checkGroup_touches_group env (port_group hr) (afterAddresses env n r)
  have hdp := isGeoIP_of_group (port_group hr) (by simp) (by simp)
  rw [hgroups]
  cases g with
  | sourceAddress =>
    rw [hlast.matched _ (by simp), (afterAddresses_touches env hr).matched _ (by simp)]
    exact (afterSource_matched env hr hn).1
  | sourcePort =>
    rw [hlast.matched _ (by simp), (afterAddresses_touches env hr).matched _ (by simp)]
    exact (afterSource_matched env hr hn).2
  | destinationAddress =>
    rw [hlast.matched _ (by simp)]
    exact afterAddresses_matched env hr hn
  | destinationPort =>
    have hnear : Near n (afterAddresses env n r) :=
      ((Near.refl n).touches (afterSource_touches env hr)).touches (afterAddresses_touches env hr)
    have hbefore : (afterAddresses env n r).flags.matched .destinationPort = false := by
      rw [(afterAddresses_touches env hr).matched _ (by simp),
        (afterSource_touches env hr).matched _ (by simp), hflag]
    rw [checkGroup_matched env (hflag _) (block_of_group (port_group hr) fun i hi =>
      hdp i (mem_of_mem_tail hi)) hnear (.inr (isGeosite_of_group (port_group hr) (by simp)))
      (fun _ _ hi => by cases hdp _ hi), hbefore, Bool.false_or]
    rfl

variable (env) (r) (n)

def startFlags : MatchFlags where
  matched := r.satisfies n.ignoreDestinationIPCIDRMatch (RuleItem.value env n)
  didMatch := Group.all.any (r.declares n.ignoreDestinationIPCIDRMatch) || !r.plainItems.isEmpty

def matchSets : Bool × InboundContext :=
  allS (RuleItem.matchItem env) r.setItems (n.withFlags (startFlags env n r))

def met : Bool :=
  r.plainItems.all (RuleItem.value env n) && (matchSets env n r).1 &&
    Group.all.all fun g =>
      !r.declares n.ignoreDestinationIPCIDRMatch g || (matchSets env n r).2.flags.matched g

def tested : Bool := (matchSets env n r).2.flags.didMatch

def answer : Bool :=
  if r.allItems.isEmpty then true
  else if met env n r then !tested env n r || !r.invert else r.invert

variable {n r}

lemma checkGroups_startFlags (hr : Arranged r) (hn : n.flags = {}) :
    ∃ a b, r.checkGroups (RuleItem.matchItem env) n = (n.withCodes a b).withFlags
      { startFlags env n r with didMatch := Group.all.any (r.declares n.ignoreDestinationIPCIDRMatch) } := by
  obtain ⟨a, b, f, h⟩ := (checkGroups_touches env hr.toWellGrouped n).rest
  refine ⟨a, b, ?_⟩
  have hmatched := fun g => checkGroups_matched env hr hn g
  have hdid := checkGroups_didMatch env hr.toWellGrouped hn
  rw [h] at hmatched hdid ⊢
  congr 1
  ext g
  · exact hmatched g
  · exact hdid

lemma plainItems_ungrouped (hr : Arranged r) : Ungrouped r.plainItems := by
  intro i hi
  obtain ⟨hmem, hs⟩ := mem_filter.1 hi
  exact ⟨hr.ungrouped i hmem, by simpa using hs⟩

lemma setItems_isRuleSet : ∀ i ∈ r.setItems, i.isRuleSet = true :=
  fun _ hi => (mem_filter.1 hi).2

lemma matchSets_withCodes (a b : String) :
    allS (RuleItem.matchItem env) r.setItems ((n.withFlags (startFlags env n r)).withCodes a b) =
      ((matchSets env n r).1, (matchSets env n r).2.withCodes a b) := by
  apply allS_comm (φ := fun m : InboundContext => m.withCodes a b)
  intro i hi m
  cases i with
  | ruleSet tagList src emp => exact RuleSetItem.matchItem_withCodes m a b env tagList src emp
  | _ => cases setItems_isRuleSet _ hi

lemma visit_setItems (m : InboundContext) :
    allS (visitItem (RuleItem.matchItem env) isRuleSet) r.setItems m =
      allS (RuleItem.matchItem env) r.setItems m := by
  refine allS_congr fun i hi m => ?_
  rw [visitItem, setItems_isRuleSet i hi, if_pos rfl]

lemma matchSets_ignore :
    (matchSets env n r).2.ignoreDestinationIPCIDRMatch = n.ignoreDestinationIPCIDRMatch := by
  have hkept : kept (matchSets env n r).2 = kept n := by
    apply allS_invariant (I := fun m => kept m = kept n)
    · intro i hi m hm
      rw [← hm]
      apply matchItem_kept
      rintro codes rfl
      cases setItems_isRuleSet _ hi
    · rfl
  exact kept_ignore hkept

lemma conclude_met (a b : String) :
    r.conclude ((matchSets env n r).2.withCodes a b) =
      if Group.all.all fun g => !r.declares n.ignoreDestinationIPCIDRMatch g ||
          (matchSets env n r).2.flags.matched g
      then !tested env n r || !r.invert else r.invert := by
  have hmissing : ∀ g, r.missing ((matchSets env n r).2.withCodes a b) g =
      (r.declares n.ignoreDestinationIPCIDRMatch g && !(matchSets env n r).2.flags.matched g) := by
    intro g
    rw [missing, ← matchSets_ignore env (n := n) (r := r)]
    rfl
  simp only [conclude_eq, hmissing, Bool.not_and, Bool.not_not]
  rfl

lemma matchRule_answer (hr : Arranged r) (hn : n.flags = {}) :
    (r.matchRule (RuleItem.matchItem env) isRuleSet n).1 = answer env n r := by
  obtain ⟨a, b, hg⟩ := checkGroups_startFlags env hr hn
  have hsame : SameRequest (r.checkGroups (RuleItem.matchItem env) n) n := by
    rw [hg]
    simp [SameRequest]
  have hplain : allS (visitItem (RuleItem.matchItem env) isRuleSet) r.plainItems
      (r.checkGroups (RuleItem.matchItem env) n) =
      (r.plainItems.all (RuleItem.value env n), (n.withFlags (startFlags env n r)).withCodes a b) := by
    rw [visit_ungrouped env (plainItems_ungrouped hr) hsame, hg]
    rfl
  have hvisit : allS (visitItem (RuleItem.matchItem env) isRuleSet) r.items
      (r.checkGroups (RuleItem.matchItem env) n) =
      if r.plainItems.all (RuleItem.value env n) then
        ((matchSets env n r).1, (matchSets env n r).2.withCodes a b)
      else (false, (n.withFlags (startFlags env n r)).withCodes a b) := by
    rw [hr.items_eq, allS_append, hplain]
    cases r.plainItems.all (RuleItem.value env n) with
    | true => rw [if_pos rfl, if_pos rfl, visit_setItems, matchSets_withCodes env a b]
    | false => rfl
  rw [matchRule, answer, met, hvisit]
  cases r.allItems.isEmpty with
  | true => rfl
  | false =>
    cases r.plainItems.all (RuleItem.value env n) with
    | false => rfl
    | true =>
      cases hs : (matchSets env n r).1 with
      | false => rfl
      | true => exact conclude_met env a b

end DefaultRule

end SingBox.Route
