import SingBox.Route.RouteRules

namespace SingBox.Route

open Lib.Search InboundContext GeoIPItem DefaultRule List

structure Touches (G : Group → Prop) (m m' : InboundContext) : Prop where
  rest : ∃ a b f, m' = (m.withCodes a b).withFlags f
  matched : ∀ g, ¬ G g → m'.flags.matched g = m.flags.matched g
  didMatch : m.flags.didMatch = true → m'.flags.didMatch = true

namespace Touches

variable {G H : Group → Prop} {m m' m'' : InboundContext}

lemma refl (G : Group → Prop) (m : InboundContext) : Touches G m m :=
  ⟨⟨m.sourceGeoIPCode, m.geoIPCode, m.flags, rfl⟩, fun _ _ => rfl, id⟩

lemma trans (h : Touches G m m') (h' : Touches G m' m'') : Touches G m m'' := by
  obtain ⟨a, b, f, rfl⟩ := h.rest
  obtain ⟨a', b', f', rfl⟩ := h'.rest
  exact ⟨⟨a', b', f', rfl⟩, fun g hg => (h'.matched g hg).trans (h.matched g hg),
    fun hd => h'.didMatch (h.didMatch hd)⟩

lemma mono (h : Touches G m m') (hGH : ∀ g, G g → H g) : Touches H m m' :=
  ⟨h.rest, fun g hg => h.matched g fun hG => hg (hGH g hG), h.didMatch⟩

lemma markDidMatch (G : Group → Prop) (m : InboundContext) : Touches G m m.markDidMatch :=
  ⟨⟨m.sourceGeoIPCode, m.geoIPCode, _, rfl⟩, fun _ _ => rfl, fun _ => rfl⟩

lemma setMatched {g : Group} (hg : G g) (m : InboundContext) : Touches G m (m.setMatched g) := by
  refine ⟨⟨m.sourceGeoIPCode, m.geoIPCode, _, rfl⟩, fun g' hg' => ?_, fun h => h⟩
  have hne : g' ≠ g := fun h => hg' (h ▸ hg)
  simp [InboundContext.setMatched, MatchFlags.set, Function.update_of_ne hne]

end Touches

namespace RuleItem

variable {env : RouterEnv} {m : InboundContext} {i : RuleItem}

lemma geoIP_invariant {I : InboundContext → Prop} {isSource : Bool} {codes : List String}
    (hcache : ∀ code m, I m → I (cacheCode isSource code m)) (hm : I m) :
    I (GeoIPItem.matchItem env.toEnv isSource codes m).2 := by
  have haddr : ∀ addr m, I m → I (matchAddr env.toEnv isSource codes addr m).2 := by
    intro addr m hm
    rw [matchAddr]
    split_ifs
    · exact hm
    · exact hcache _ m hm
  rw [GeoIPItem.matchItem]
  by_cases hc : (cachedCode isSource m != "") = true
  · rw [if_pos hc]
    exact hm
  · rw [if_neg hc]
    cases if isSource then m.source.addr else m.destination.addr with
    | some addr => exact haddr addr m hm
    | none => exact anyS_invariant (fun addr _ m' h => haddr addr m' h) hm

lemma geoIP_touches (G : Group → Prop) (isSource : Bool) (codes : List String) :
    Touches G m (GeoIPItem.matchItem env.toEnv isSource codes m).2 := by
  apply geoIP_invariant (I := fun m' => Touches G m m') _ (Touches.refl G m)
  intro code m' h
  apply h.trans
  rw [cacheCode]
  split_ifs
  · exact ⟨⟨code, m'.geoIPCode, m'.flags, rfl⟩, fun _ _ => rfl, id⟩
  · exact ⟨⟨m'.sourceGeoIPCode, code, m'.flags, rfl⟩, fun _ _ => rfl, id⟩

lemma geositeRule_touches (code : String) :
    Touches (· = .destinationAddress) m ((geositeRule env code).matchRule
      (HeadlessItem.matchItem env.toEnv) (fun _ => false) m).2 := by
  cases he : (geositeRule env code).allItems.isEmpty with
  | true =>
    rw [DefaultRule.matchRule, he]
    exact Touches.refl _ m
  | false =>
    have hm := matchRule_pure (f := m.flags)
      (HeadlessItem.pureOn env.toEnv m (geositeRule env code).allItems)
      (fun _ _ => rfl : ∀ i ∈ (geositeRule env code).items, (fun _ => false) i = false) he
    rw [withFlags_self] at hm
    rw [hm]
    refine ⟨⟨m.sourceGeoIPCode, m.geoIPCode, _, rfl⟩, fun g hg => ?_, fun hd => ?_⟩
    · cases g with
      | destinationAddress => exact (hg rfl).elim
      | _ => simp [flagsAfter, satisfies, DefaultRule.groupItems, geositeRule]
    · simp [flagsAfter, hd]

lemma geosite_touches (codes : List String) :
    Touches (· = .destinationAddress) m (geositeMatch env codes m).2 := by
  apply anyS_invariant (I := fun m' => Touches (· = .destinationAddress) m m')
  · exact fun code _ m' h => h.trans (geositeRule_touches code)
  · exact Touches.refl _ m

lemma matchItem_touches (hi : i.isRuleSet = false) :
    Touches (i.group = some ·) m (i.matchItem env m).2 := by
  cases i with
  | plain item => exact Touches.refl _ m
  | geosite codes =>
    apply (geosite_touches codes).mono
    rintro _ rfl
    rfl
  | geoIP isSource codes => exact geoIP_touches _ isSource codes
  | ruleSet _ _ _ => cases hi

lemma isRuleSet_of_group {g : Group} (h : i.group = some g) : i.isRuleSet = false := by
  cases i with
  | ruleSet _ _ _ => cases h
  | _ => rfl

end RuleItem

namespace DefaultRule

variable (env : RouterEnv) {m : InboundContext} {r : DefaultRule RuleItem}
  {ι : Type*} {g : Group} {sem : ι → InboundContext → Bool × InboundContext}

lemma checkGroup_idle {items : List ι} (h : items.isEmpty = true ∨ m.flags.matched g = true) :
    checkGroup sem g items m = m := by
  rw [checkGroup]
  rcases h with h | h <;> simp [h]

variable {items : List RuleItem}

lemma checkGroup_cases (hi : ∀ i ∈ items, i.group = some g) (m : InboundContext) :
    (checkGroup (RuleItem.matchItem env) g items m = m ∧
        (items.isEmpty = true ∨ m.flags.matched g = true)) ∨
      (items.isEmpty = false ∧
        Touches (· = g) m.markDidMatch (checkGroup (RuleItem.matchItem env) g items m)) := by
  rw [checkGroup]
  by_cases hc : (!items.isEmpty && !m.flags.matched g) = true
  · have hfound : Touches (· = g) m.markDidMatch
        (anyS (RuleItem.matchItem env) items m.markDidMatch).2 := by
      apply anyS_invariant (I := fun m' => Touches (· = g) m.markDidMatch m')
      · intro i hmem m' h
        apply h.trans
        apply (RuleItem.matchItem_touches (RuleItem.isRuleSet_of_group (hi i hmem))).mono
        intro g' hg'
        rw [hi i hmem] at hg'
        exact (Option.some.inj hg').symm
      · exact Touches.refl _ _
    refine .inr ⟨by simp_all, ?_⟩
    rw [if_pos hc]
    dsimp only
    split_ifs
    · apply hfound.trans
      refine Touches.setMatched ?_ _
      rfl
    · exact hfound
  · refine .inl ⟨if_neg hc, ?_⟩
    cases he : items.isEmpty <;> cases hm : m.flags.matched g <;> simp_all

lemma checkGroup_touches (hi : ∀ i ∈ items, i.group = some g) (m : InboundContext) :
    Touches (fun g' => g = g' ∧ items.isEmpty = false) m
      (checkGroup (RuleItem.matchItem env) g items m) := by
  rcases checkGroup_cases env hi m with ⟨h, _⟩ | ⟨hne, h⟩
  · rw [h]
    exact Touches.refl _ m
  · apply (Touches.markDidMatch _ m).trans
    apply h.mono
    rintro _ rfl
    exact ⟨rfl, hne⟩

lemma checkGroup_didMatch (hi : ∀ i ∈ items, i.group = some g) (hne : items.isEmpty = false)
    (hm : m.flags.matched g = false) :
    (checkGroup (RuleItem.matchItem env) g items m).flags.didMatch = true := by
  rcases checkGroup_cases env hi m with ⟨_, h | h⟩ | ⟨_, h⟩
  · simp [h] at hne
  · simp [h] at hm
  · exact h.didMatch rfl

def blocks (r : DefaultRule RuleItem) (ignore : Bool) : List (Group × List RuleItem) :=
  [(.sourceAddress, r.sourceAddressItems), (.sourcePort, r.sourcePortItems),
    (.destinationAddress, r.destinationAddressItems),
    (.destinationAddress, if ignore then [] else r.destinationIPCIDRItems),
    (.destinationPort, r.destinationPortItems)]

def checkBlocks (env : RouterEnv) (bs : List (Group × List RuleItem)) (m : InboundContext) :
    InboundContext :=
  bs.foldl (fun m b => checkGroup (RuleItem.matchItem env) b.1 b.2 m) m

variable {bs : List (Group × List RuleItem)}

lemma checkBlocks_touches (hb : ∀ b ∈ bs, ∀ i ∈ b.2, i.group = some b.1) :
    Touches (fun g => ∃ b ∈ bs, b.1 = g ∧ b.2.isEmpty = false) m (checkBlocks env bs m) := by
  induction bs generalizing m with
  | nil => exact Touches.refl _ m
  | cons b bs ih =>
    have hstep := checkGroup_touches env (hb b (by simp)) m
    have hrest := ih (m := checkGroup (RuleItem.matchItem env) b.1 b.2 m)
      fun b hb' => hb b (mem_cons_of_mem _ hb')
    apply (hstep.mono ?_).trans (hrest.mono ?_)
    · exact fun g hg => ⟨b, by simp, hg⟩
    · rintro g ⟨b', hb', hg⟩
      exact ⟨b', mem_cons_of_mem _ hb', hg⟩

lemma checkBlocks_didMatch (hb : ∀ b ∈ bs, ∀ i ∈ b.2, i.group = some b.1)
    (hm : ∀ b ∈ bs, m.flags.matched b.1 = false) :
    (checkBlocks env bs m).flags.didMatch =
      (m.flags.didMatch || bs.any fun b => !b.2.isEmpty) := by
  induction bs generalizing m with
  | nil => simp [checkBlocks]
  | cons b bs ih =>
    have hbs : ∀ b ∈ bs, ∀ i ∈ b.2, i.group = some b.1 := fun b h => hb b (mem_cons_of_mem _ h)
    change (checkBlocks env bs (checkGroup (RuleItem.matchItem env) b.1 b.2 m)).flags.didMatch = _
    cases he : b.2.isEmpty with
    | true =>
      have hid : checkGroup (RuleItem.matchItem env) b.1 b.2 m = m := by simp [checkGroup, he]
      rw [hid, ih hbs fun b h => hm b (mem_cons_of_mem _ h)]
      simp [he]
    | false =>
      have hdid := checkGroup_didMatch env (hb b (by simp)) he (hm b (by simp))
      rw [(checkBlocks_touches env hbs).didMatch hdid]
      simp [he]

lemma blocks_group (hr : WellGrouped r) (ignore : Bool) :
    ∀ b ∈ r.blocks ignore, ∀ i ∈ b.2, i.group = some b.1 := by
  have hsa := hr.grouped .sourceAddress
  have hsp := hr.grouped .sourcePort
  have hd := hr.grouped .destinationAddress
  have hdp := hr.grouped .destinationPort
  simp only [groupItems, Bool.false_eq_true, if_false, mem_append] at hsa hsp hd hdp
  intro b hb
  simp only [blocks, mem_cons, not_mem_nil, or_false] at hb
  rcases hb with rfl | rfl | rfl | rfl | rfl
  · exact hsa
  · exact hsp
  · exact fun i hi => hd i (.inl hi)
  · cases ignore with
    | true => simp
    | false => exact fun i hi => hd i (.inr hi)
  · exact hdp

lemma blocks_declares (r : DefaultRule RuleItem) (ignore : Bool) (g : Group) :
    (∃ b ∈ r.blocks ignore, b.1 = g ∧ b.2.isEmpty = false) ↔ r.declares ignore g = true := by
  cases g <;> cases ignore <;> simp [blocks, declares, or_comm]

lemma checkGroups_eq (hr : WellGrouped r) (m : InboundContext) :
    r.checkGroups (RuleItem.matchItem env) m =
      checkBlocks env (r.blocks m.ignoreDestinationIPCIDRMatch) m := by
  have htake : ∀ b ∈ (r.blocks true).take 3, ∀ i ∈ b.2, i.group = some b.1 :=
    fun b hb => blocks_group hr true b (mem_of_mem_take hb)
  obtain ⟨a, b, f, h⟩ := (checkBlocks_touches env (m := m) htake).rest
  have hig := congrArg ignoreDestinationIPCIDRMatch h
  simp only [blocks, take, checkBlocks, foldl] at hig
  simp only [checkGroups, checkBlocks, blocks, foldl, hig]
  cases hm : m.ignoreDestinationIPCIDRMatch with
  | true => simp [withCodes, hm, checkGroup]
  | false => simp [withCodes, hm]

lemma checkGroups_touches (hr : WellGrouped r) (m : InboundContext) :
    Touches (fun g => r.declares m.ignoreDestinationIPCIDRMatch g = true) m
      (r.checkGroups (RuleItem.matchItem env) m) := by
  rw [checkGroups_eq env hr]
  apply (checkBlocks_touches env (blocks_group hr _)).mono
  exact fun g => (blocks_declares r _ g).1

def ownFlags (r : DefaultRule RuleItem) : MatchFlags where
  matched := r.declares false
  didMatch := Group.all.any (r.declares false)

lemma checkGroups_didMatch (hr : WellGrouped r) (hm : m.flags = {}) :
    (r.checkGroups (RuleItem.matchItem env) m).flags.didMatch =
      Group.all.any (r.declares m.ignoreDestinationIPCIDRMatch) := by
  have hdid := checkBlocks_didMatch env (m := m) (blocks_group hr m.ignoreDestinationIPCIDRMatch)
    fun _ _ => by rw [hm]
  rw [checkGroups_eq env hr, hdid, hm, Bool.false_or, Bool.eq_iff_iff, any_eq_true,
    any_eq_true]
  refine ⟨fun ⟨b, hb, hne⟩ => ⟨b.1, Group.mem_all _, ?_⟩, fun ⟨g, _, hg⟩ => ?_⟩
  · exact (blocks_declares r _ b.1).1 ⟨b, hb, rfl, by simpa using hne⟩
  · obtain ⟨b, hb, _, hne⟩ := (blocks_declares r _ g).2 hg
    exact ⟨b, hb, by simp [hne]⟩

lemma checkGroups_flags (hr : WellGrouped r) (hm : m.ignoreDestinationIPCIDRMatch = false)
    (hsat : ∀ g, r.missing (r.checkGroups (RuleItem.matchItem env) m.resetRuleCache) g = false) :
    ∃ a b, r.checkGroups (RuleItem.matchItem env) m.resetRuleCache =
      (m.resetRuleCache.withCodes a b).withFlags r.ownFlags := by
  have htouch := checkGroups_touches env hr m.resetRuleCache
  have hdid := checkGroups_didMatch env (m := m.resetRuleCache) hr rfl
  rw [resetRuleCache_ignore, hm] at htouch hdid
  obtain ⟨a, b, f, hf⟩ := htouch.rest
  refine ⟨a, b, ?_⟩
  rw [hf] at htouch hdid hsat ⊢
  congr 1
  ext g
  · cases hd : r.declares false g with
    | true =>
      have hg := hsat g
      simp only [missing, withFlags_ignore, withFlags_flags] at hg
      rw [show (m.resetRuleCache.withCodes a b).ignoreDestinationIPCIDRMatch = false from hm, hd] at hg
      simp only [ownFlags, hd]
      simpa using hg
    | false =>
      have hg := htouch.matched g (by simp [hd])
      simp only [ownFlags, hd]
      exact hg
  · exact hdid

lemma conclude_iff {r : DefaultRule ι} (hinv : r.invert = false) (m : InboundContext) :
    r.conclude m = true ↔ ∀ g, r.missing m g = false := by
  have hall : (Group.all.all fun g => !r.missing m g) = true ↔ ∀ g, r.missing m g = false := by
    rw [all_eq_true]
    exact ⟨fun h g => by simpa using h g (Group.mem_all g), fun h g _ => by simp [h g]⟩
  rw [conclude_eq, hinv, ← hall]
  cases Group.all.all fun g => !r.missing m g <;> simp

lemma matchRule_iff {isRuleSet : ι → Bool} {r : DefaultRule ι} (hinv : r.invert = false)
    (hne : r.allItems.isEmpty = false) (m : InboundContext) :
    (r.matchRule sem isRuleSet m).1 = true ↔
      ∃ m', allS (visitItem sem isRuleSet) r.items (r.checkGroups sem m) = (true, m') ∧
        ∀ g, r.missing m' g = false := by
  rw [matchRule, hne]
  cases h : allS (visitItem sem isRuleSet) r.items (r.checkGroups sem m) with
  | mk visited m' =>
    cases visited with
    | true => simpa using conclude_iff hinv m'
    | false => simp [hinv]

end DefaultRule

def SameRequest (m m' : InboundContext) : Prop := m.request = m'.request

def Ungrouped (items : List RuleItem) : Prop := ∀ i ∈ items, i.group = none ∧ i.isRuleSet = false

namespace RuleItem

variable (env : RouterEnv) {m m' : InboundContext} {i : RuleItem} {items : List RuleItem}

lemma ungrouped_matchItem (hg : i.group = none) (hs : i.isRuleSet = false) :
    i.matchItem env m = ((i.matchItem env m.request).1, m) := by
  cases i with
  | plain item =>
    rw [matchItem, matchItem]
    congr 1
    cases item with
    | headless item =>
      cases item with
      | network | processName | processPath | packageName | wifiSSID | wifiBSSID => rfl
      | _ => cases hg
    | ipIsPrivate isSource => cases hg
    | _ => rfl
  | geosite codes => cases hg
  | geoIP isSource codes => cases hg
  | ruleSet _ _ _ => cases hs

lemma ungrouped_all (h : Ungrouped items) (hm : SameRequest m m') :
    (items.all fun i => (i.matchItem env m).1) = items.all fun i => (i.matchItem env m').1 := by
  apply all_congr_mem
  intro i hi
  obtain ⟨hg, hs⟩ := h i hi
  rw [ungrouped_matchItem env hg hs, ungrouped_matchItem env (m := m') hg hs, hm]

lemma ungrouped_pureOn (h : Ungrouped items) (hm : SameRequest m m') :
    DefaultRule.PureOn (matchItem env) (fun i => (i.matchItem env m').1) m items := by
  intro i hi f
  have hf : (m.withFlags f).request = m'.request := hm
  rw [ungrouped_matchItem env (h i hi).1 (h i hi).2, hf]
  simp only [ungrouped_matchItem env (m := m') (h i hi).1 (h i hi).2]

lemma visit_ungrouped (h : Ungrouped items) (hm : SameRequest m m') :
    allS (DefaultRule.visitItem (matchItem env) isRuleSet) items m =
      (items.all fun i => (i.matchItem env m').1,
        m.withFlags { m.flags with didMatch := m.flags.didMatch || !items.isEmpty }) := by
  have hv := visitItems_pure (f := m.flags) (ungrouped_pureOn env h hm)
    fun i hi => (h i hi).2
  rwa [withFlags_self] at hv

end RuleItem

namespace DefaultRule

variable (env : RouterEnv) {m : InboundContext} {r : DefaultRule RuleItem}

def visited (r : DefaultRule RuleItem) (m : InboundContext) : InboundContext :=
  (r.checkGroups (RuleItem.matchItem env) m).withFlags
    { (r.checkGroups (RuleItem.matchItem env) m).flags with
      didMatch := (r.checkGroups (RuleItem.matchItem env) m).flags.didMatch || !r.items.isEmpty }

lemma visited_touches (hr : WellGrouped r) (m : InboundContext) :
    Touches (fun g => r.declares m.ignoreDestinationIPCIDRMatch g = true) m (visited env r m) := by
  have h := checkGroups_touches env hr m
  obtain ⟨a, b, f, hrest⟩ := h.rest
  refine ⟨⟨a, b, { f with didMatch := f.didMatch || !r.items.isEmpty }, ?_⟩, h.matched, fun hd => ?_⟩
  · rw [visited, hrest]
    rfl
  · simp [visited, h.didMatch hd]

lemma matchRule_ungrouped (hr : WellGrouped r) (hset : ∀ i ∈ r.items, i.isRuleSet = false)
    (hne : r.allItems.isEmpty = false) (m : InboundContext) :
    r.matchRule (RuleItem.matchItem env) RuleItem.isRuleSet m =
      (if r.items.all fun i => (i.matchItem env m).1 then r.conclude (visited env r m) else r.invert,
        visited env r m) := by
  have hsame : SameRequest (r.checkGroups (RuleItem.matchItem env) m) m := by
    obtain ⟨a, b, f, hrest⟩ := (checkGroups_touches env hr m).rest
    rw [hrest]
    rfl
  have hitems : Ungrouped r.items := fun i hi => ⟨hr.ungrouped i hi, hset i hi⟩
  rw [matchRule, hne, RuleItem.visit_ungrouped env hitems hsame, visited]
  cases r.items.all fun i => (i.matchItem env m).1 <;> rfl

end DefaultRule

def kept (m : InboundContext) : InboundContext := m.resetRuleCache.withCodes "" m.geoIPCode

lemma kept_of_reset {m m' : InboundContext} (h : m.resetRuleCache = m'.resetRuleCache) :
    kept m = kept m' :=
  congrArg (fun m => m.withCodes "" m.geoIPCode) h

section Kept

variable {m m' : InboundContext} (h : kept m = kept m')

include h

lemma kept_ignore : m.ignoreDestinationIPCIDRMatch = m'.ignoreDestinationIPCIDRMatch :=
  (congrArg ignoreDestinationIPCIDRMatch h : (kept m).ignoreDestinationIPCIDRMatch = _)

lemma kept_destination : m.destination = m'.destination :=
  (congrArg destination h : (kept m).destination = _)

lemma kept_geoIPCode : m.geoIPCode = m'.geoIPCode :=
  (congrArg geoIPCode h : (kept m).geoIPCode = _)

end Kept

namespace RuleItem

variable (env : RouterEnv) {m : InboundContext} {i : RuleItem}

lemma geosite_kept (codes : List String) : kept (geositeMatch env codes m).2 = kept m := by
  apply anyS_invariant (I := fun m' => kept m' = kept m) _ rfl
  intro code _ m' hm'
  apply matchRule_invariant (I := fun m' => kept m' = kept m) _
    (fun m'' => kept_ignore) _ _ hm'
  · exact fun m' f hm' => hm'
  · intro i hi
    cases hi
  · exact fun _ i _ m' hm' => hm'

lemma ruleSet_kept (tagList : List String) (ipCidrMatchSource ipCidrAcceptEmpty : Bool) :
    kept (RuleSetItem.matchItem env tagList ipCidrMatchSource ipCidrAcceptEmpty m).2 = kept m := by
  have hset : ∀ s ∈ RuleSetItem.sets env tagList, ∀ m', kept m' = kept m →
      kept (s.matchSet env.toEnv m').2 = kept m := by
    intro s _ m' hm'
    apply anyS_invariant (I := fun m' => kept m' = kept m) _ hm'
    intro r _ m' hm'
    rw [HeadlessRule.matchRule_eq, kept_of_reset (HeadlessRule.leave_reset r m'), hm']
  rw [RuleSetItem.matchItem]
  apply anyS_invariant (I := fun m' => kept m' = kept m) hset
  rfl

lemma matchItem_kept (hi : ∀ codes, i ≠ .geoIP false codes) : kept (i.matchItem env m).2 = kept m := by
  cases i with
  | plain item => rfl
  | geosite codes => exact geosite_kept env codes
  | ruleSet tagList src emp => exact ruleSet_kept env tagList src emp
  | geoIP isSource codes =>
    cases isSource with
    | false => exact absurd rfl (hi codes)
    | true => exact geoIP_invariant (I := fun m' => kept m' = kept m) (fun _ _ h => h) rfl

end RuleItem

end SingBox.Route
