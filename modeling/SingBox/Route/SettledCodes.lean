import SingBox.Route.ItemValues

/-! The GeoIP codes cached in the course of an evaluation, and when they decide nothing. -/

namespace SingBox.Route

open Lib.Search InboundContext GeoIPItem RuleItem DefaultRule List

def looked (isSource : Bool) (n : InboundContext) : List IPAddr :=
  match if isSource then n.source.addr else n.destination.addr with
  | some addr => [addr]
  | none => n.destinationAddresses

/-- A GeoIP condition reads a code that is already cached, or has at most one address to look up. -/
def RuleItem.settled (n : InboundContext) : RuleItem → Bool
  | .geoIP isSource _ => cachedCode isSource n != "" || (looked isSource n).length ≤ 1
  | _ => true

def CodeFrom (env : Env) (isSource : Bool) (n s : InboundContext) : Prop :=
  cachedCode isSource s = cachedCode isSource n ∨
    cachedCode isSource n = "" ∧
      ∃ addr, looked isSource n = [addr] ∧ cachedCode isSource s = lookupCode env addr

/-- The context `s` occurs in the course of an evaluation that begins with `n`. -/
structure Along (env : Env) (n s : InboundContext) : Prop where
  rest : ∃ a b, s.resetRuleCache = n.resetRuleCache.withCodes a b
  code : ∀ isSource, CodeFrom env isSource n s

variable {env : Env} {n s : InboundContext} {isSource : Bool} {codes : List String}

namespace Along

lemma refl (env : Env) (n : InboundContext) : Along env n n :=
  ⟨⟨n.sourceGeoIPCode, n.geoIPCode, rfl⟩, fun _ => .inl rfl⟩

lemma congr {s' : InboundContext} (h : Along env n s) (hs : s'.resetRuleCache = s.resetRuleCache) :
    Along env n s' := by
  refine ⟨?_, fun isSource => ?_⟩
  · rw [hs]
    exact h.rest
  · have hcode : cachedCode isSource s'.resetRuleCache = cachedCode isSource s.resetRuleCache := by
      rw [hs]
    have hcode : cachedCode isSource s' = cachedCode isSource s := hcode
    rw [CodeFrom, hcode]
    exact h.code isSource

lemma looked_eq (h : Along env n s) (isSource : Bool) : looked isSource s = looked isSource n := by
  obtain ⟨a, b, hrest⟩ := h.rest
  have hlooked : looked isSource s.resetRuleCache = looked isSource (n.resetRuleCache.withCodes a b) := by
    rw [hrest]
  exact hlooked

lemma ignore_eq (h : Along env n s) :
    s.ignoreDestinationIPCIDRMatch = n.ignoreDestinationIPCIDRMatch := by
  obtain ⟨a, b, hrest⟩ := h.rest
  exact (congrArg ignoreDestinationIPCIDRMatch hrest : s.resetRuleCache.ignoreDestinationIPCIDRMatch = _)

lemma uncached (h : Along env n s) (hs : cachedCode isSource s = "") : cachedCode isSource n = "" := by
  rcases h.code isSource with hcode | ⟨hn, -⟩
  · exact hcode.symm.trans hs
  · exact hn

lemma ignoring (h : Along env n s) (ignore : Bool) : Along env (n.ignoring ignore) (s.ignoring ignore) := by
  obtain ⟨a, b, hrest⟩ := h.rest
  exact ⟨⟨a, b, congrArg (·.ignoring ignore) hrest⟩, h.code⟩

end Along

lemma matchItem_uncached (hs : cachedCode isSource s = "") :
    GeoIPItem.matchItem env isSource codes s =
      anyS (matchAddr env isSource codes) (looked isSource s) s := by
  rw [GeoIPItem.matchItem, hs, looked, if_neg (by simp)]
  cases if isSource then s.source.addr else s.destination.addr with
  | some addr =>
    dsimp only
    rw [anyS_singleton]
  | none => rfl

lemma matchItem_cached_code (hs : cachedCode isSource s ≠ "") :
    GeoIPItem.matchItem env isSource codes s = (codes.contains (cachedCode isSource s), s) := by
  rw [GeoIPItem.matchItem, if_pos (by simpa using hs)]

lemma matchAddr_along {addr : IPAddr} (h : Along env n s) (hn : cachedCode isSource n = "")
    (hlooked : looked isSource n = [addr]) : Along env n (matchAddr env isSource codes addr s).2 := by
  rw [matchAddr]
  split_ifs
  · exact h
  · obtain ⟨a, b, hrest⟩ := h.rest
    refine ⟨?_, fun src => ?_⟩
    · cases isSource with
      | true => exact ⟨_, b, congrArg (fun m => m.withCodes (lookupCode env addr) m.geoIPCode) hrest⟩
      | false =>
        exact ⟨a, _, congrArg (fun m => m.withCodes m.sourceGeoIPCode (lookupCode env addr)) hrest⟩
    · by_cases hsrc : src = isSource
      · subst hsrc
        refine .inr ⟨hn, addr, hlooked, ?_⟩
        cases src <;> rfl
      · have hother : cachedCode src (cacheCode isSource (lookupCode env addr) s) = cachedCode src s := by
          cases src <;> cases isSource <;> first | rfl | exact absurd rfl hsrc
        rw [CodeFrom, hother]
        exact h.code src

lemma geoIP_along (h : Along env n s) (hset : settled n (.geoIP isSource codes) = true) :
    (GeoIPItem.matchItem env isSource codes s).1 = (GeoIPItem.matchItem env isSource codes n).1 ∧
      Along env n (GeoIPItem.matchItem env isSource codes s).2 := by
  by_cases hs : cachedCode isSource s = ""
  · have hn := h.uncached hs
    have hlen : (looked isSource n).length ≤ 1 := by simpa [settled, hn] using hset
    rw [matchItem_uncached hs, matchItem_uncached hn, h.looked_eq]
    cases hlooked : looked isSource n with
    | nil => exact ⟨rfl, h⟩
    | cons addr rest =>
      obtain rfl : rest = [] := by
        rw [hlooked, length_cons] at hlen
        exact length_eq_zero_iff.1 (by omega)
      rw [anyS_singleton, anyS_singleton, matchAddr_fst, matchAddr_fst]
      exact ⟨rfl, matchAddr_along h hn hlooked⟩
  · rw [matchItem_cached_code hs]
    refine ⟨?_, h⟩
    rcases h.code isSource with hcode | ⟨hn, addr, hlooked, hcode⟩
    · rw [hcode] at hs ⊢
      rw [matchItem_cached_code hs]
    · -- the cached code is that of the only address which `n` would look up
      rw [matchItem_uncached hn, hlooked, anyS_singleton, matchAddr_fst, geoIPMatches, hcode]
      rw [hcode] at hs
      simp [hs]

section Items

variable (env : RouterEnv) {n s : InboundContext} {i : RuleItem} {r : DefaultRule RuleItem}

lemma geosite_reset (codes : List String) :
    (geositeMatch env codes s).2.resetRuleCache = s.resetRuleCache := by
  refine anyS_invariant (I := fun m : InboundContext => m.resetRuleCache = s.resetRuleCache) ?_ rfl
  intro code _ m hm
  apply matchRule_invariant (I := fun m => m.resetRuleCache = s.resetRuleCache) _
    (fun m h => (congrArg ignoreDestinationIPCIDRMatch h : m.resetRuleCache.ignoreDestinationIPCIDRMatch = _))
    _ _ hm
  · exact fun m f h => h
  · intro i hi
    cases hi
  · exact fun _ i _ m h => h

lemma ruleSet_reset (tagList : List String) (src emp : Bool) :
    (RuleSetItem.matchItem env tagList src emp s).2.resetRuleCache = s.resetRuleCache := by
  refine anyS_invariant (I := fun m : InboundContext => m.resetRuleCache = s.resetRuleCache) ?_ rfl
  intro set _ m hm
  refine anyS_invariant (I := fun m : InboundContext => m.resetRuleCache = s.resetRuleCache) ?_ hm
  intro r _ m hm
  rw [HeadlessRule.matchRule_eq, HeadlessRule.leave_reset, hm]

lemma groupItems_subset (ignore : Bool) (g : Group) : r.groupItems ignore g ⊆ r.groupItems false g := by
  cases g with
  | destinationAddress =>
    cases ignore with
    | true => simp [groupItems]
    | false => exact Subset.refl _
  | _ => exact Subset.refl _

lemma matchItem_along (hset : i.settled n = true) (h : Along env.toEnv n s) :
    Along env.toEnv n (i.matchItem env s).2 := by
  cases i with
  | plain item => exact h
  | geosite codes => exact h.congr (geosite_reset env codes)
  | ruleSet tagList src emp => exact h.congr (ruleSet_reset env tagList src emp)
  | geoIP isSource codes => exact (geoIP_along h hset).2

lemma matchRule_along (hset : ∀ i ∈ r.allItems, i.settled n = true) (h : Along env.toEnv n s) :
    Along env.toEnv n (r.matchRule (RuleItem.matchItem env) isRuleSet s).2 := by
  apply matchRule_invariant (fun m f hm => hm.congr rfl) (fun m hm => hm.ignore_eq) _ _ h
  · exact fun i hi m hm => matchItem_along env (hset i (mem_allItems.2 (.inl hi))) hm
  · intro g i hi m hm
    exact matchItem_along env (hset i (mem_allItems.2 (.inr ⟨g, groupItems_subset _ g hi⟩))) hm

variable {a b : String} (hn : n.flags = {}) (h : Along env.toEnv n (n.withCodes a b))
include hn h

lemma value_along (hs : i.isRuleSet = false) (hset : i.settled n = true) :
    value env (n.withCodes a b) i = value env n i := by
  by_cases hgeo : ∃ isSource codes, i = .geoIP isSource codes
  · obtain ⟨isSource, codes, rfl⟩ := hgeo
    exact (geoIP_along h hset).1
  · refine value_undisturbed hs (by rw [hn]) ⟨⟨a, b, n.flags, rfl⟩, fun _ => ?_, ?_⟩
    · change n.flags.matched .destinationAddress = false
      rw [hn]
    · exact fun isSource codes hi => absurd ⟨isSource, codes, hi⟩ hgeo

lemma answer_along (hr : Arranged r) (hset : ∀ i ∈ r.allItems, i.settled n = true) :
    answer env (n.withCodes a b) r = answer env n r := by
  have hplain : r.plainItems.all (value env (n.withCodes a b)) = r.plainItems.all (value env n) :=
    all_congr_mem fun i hi => value_along env hn h (plainItems_ungrouped hr i hi).2
      (hset i (mem_allItems.2 (.inl (mem_filter.1 hi).1)))
  have hgroups : r.satisfies n.ignoreDestinationIPCIDRMatch (value env (n.withCodes a b)) =
      r.satisfies n.ignoreDestinationIPCIDRMatch (value env n) := by
    funext g
    refine any_congr_mem fun i hi => ?_
    have hmem := groupItems_subset _ g hi
    exact value_along env hn h (isRuleSet_of_group (hr.grouped g i hmem))
      (hset i (mem_allItems.2 (.inr ⟨g, hmem⟩)))
  have hstart : startFlags env (n.withCodes a b) r = startFlags env n r := by
    rw [startFlags, startFlags]
    exact congrArg (fun f => MatchFlags.mk f _) hgroups
  have hsets : matchSets env (n.withCodes a b) r =
      ((matchSets env n r).1, (matchSets env n r).2.withCodes a b) := by
    rw [matchSets, hstart]
    exact matchSets_withCodes env a b
  simp only [answer, met, tested, hplain, hsets]
  rfl

omit hn h in
lemma matchRule_settled (hr : Arranged r) (hset : ∀ i ∈ r.allItems, i.settled n = true)
    (hn : n.resetRuleCache = n) (h : Along env.toEnv n s) (hs : s.resetRuleCache = s) :
    (r.matchRule (RuleItem.matchItem env) isRuleSet s).1 = answer env n r := by
  obtain ⟨a, b, hrest⟩ := h.rest
  obtain rfl : s = n.withCodes a b := by rw [← hs, hrest, hn]
  have hflags : n.flags = {} := congrArg InboundContext.flags hn.symm
  rw [matchRule_answer env hr (n := n.withCodes a b) hflags, answer_along env hflags h hr hset]

end Items

end SingBox.Route
