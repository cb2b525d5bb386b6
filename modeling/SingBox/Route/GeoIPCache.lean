import SingBox.Route.ItemValues

namespace SingBox.Route

open Lib.Search List

namespace GeoIPItem

inductive Access where
  | evaluate (isSource : Bool) (codes : List String)
  | resetRuleCache
  | respond (addresses : List IPAddr)

def ownAddr (isSource : Bool) (m : InboundContext) : Option IPAddr :=
  if isSource then m.source.addr else m.destination.addr

variable (env : Env)

def reference (isSource : Bool) (codes : List String) (m : InboundContext) : Bool :=
  match ownAddr isSource m with
  | some addr => geoIPMatches env codes addr
  | none => !isSource && m.destinationAddresses.any (geoIPMatches env codes)

def Transparent : List Access → InboundContext → Prop
  | [], _ => True
  | .evaluate isSource codes :: rest, m =>
    (matchItem env isSource codes m).1 = reference env isSource codes m ∧
      Transparent rest (matchItem env isSource codes m).2
  | .resetRuleCache :: rest, m => Transparent rest m.resetRuleCache
  | .respond addresses :: rest, m => Transparent rest (m.withAddresses addresses)

def evaluations (isSource : Bool) : List IPAddr → List Access → List (List String × List IPAddr)
  | _, [] => []
  | addresses, .evaluate s codes :: rest =>
    if s = isSource then (codes, addresses) :: evaluations isSource addresses rest
    else evaluations isSource addresses rest
  | addresses, .resetRuleCache :: rest => evaluations isSource addresses rest
  | _, .respond addresses :: rest => evaluations isSource addresses rest

def foundFrom (codes : List String) : String → List IPAddr → String
  | cached, [] => cached
  | cached, addr :: addresses =>
    if lookupCode env addr == "" then foundFrom codes cached addresses
    else if codes.contains (lookupCode env addr) then lookupCode env addr
    else foundFrom codes (lookupCode env addr) addresses

def foundCode (codes : List String) (addresses : List IPAddr) : String :=
  foundFrom env codes "" addresses

def uncoded (e : List String × List IPAddr) : Bool := e.2.all fun addr => lookupCode env addr == ""

def expected (isSource : Bool) (e : List String × List IPAddr) : Bool :=
  !isSource && e.2.any (geoIPMatches env e.1)

def Steady (isSource : Bool) (evals : List (List String × List IPAddr)) : Prop :=
  match evals.dropWhile (uncoded env) with
  | [] => True
  | e :: later =>
    e.2.any (geoIPMatches env e.1) = expected env isSource e ∧
      ∀ e' ∈ later, e'.1.contains (foundCode env e.1 e.2) = expected env isSource e'

def SteadyFrom (isSource : Bool) (cached : String) (evals : List (List String × List IPAddr)) : Prop :=
  if cached = "" then Steady env isSource evals
  else ∀ e ∈ evals, e.1.contains cached = expected env isSource e

variable {env : Env} {isSource : Bool} {codes : List String} {m : InboundContext}

@[simp] lemma cachedCode_cacheCode (code : String) :
    cachedCode isSource (cacheCode isSource code m) = code := by
  cases isSource <;> rfl

lemma cachedCode_cacheCode_ne {s : Bool} (h : s ≠ isSource) (code : String) :
    cachedCode s (cacheCode isSource code m) = cachedCode s m := by
  cases s <;> cases isSource <;> first | rfl | exact absurd rfl h

@[simp] lemma cacheCode_cacheCode (code code' : String) :
    cacheCode isSource code (cacheCode isSource code' m) = cacheCode isSource code m := by
  cases isSource <;> rfl

variable (isSource m) in
@[simp] lemma cacheCode_self : cacheCode isSource (cachedCode isSource m) m = m := by
  cases isSource <;> rfl

@[simp] lemma ownAddr_cacheCode (s : Bool) (code : String) :
    ownAddr s (cacheCode isSource code m) = ownAddr s m := by
  cases isSource <;> rfl

@[simp] lemma cacheCode_addresses (code : String) :
    (cacheCode isSource code m).destinationAddresses = m.destinationAddresses := by
  cases isSource <;> rfl

lemma anyS_matchAddr (addresses : List IPAddr) :
    anyS (matchAddr env isSource codes) addresses m =
      (addresses.any (geoIPMatches env codes),
        cacheCode isSource (foundFrom env codes (cachedCode isSource m) addresses) m) := by
  induction addresses generalizing m with
  | nil => rw [anyS_nil, foundFrom, cacheCode_self, any_nil]
  | cons addr addresses ih =>
    rw [anyS_cons, matchAddr, any_cons, geoIPMatches, foundFrom, bne]
    cases hcode : lookupCode env addr == "" with
    | true => simpa using ih
    | false =>
      cases hlisted : codes.contains (lookupCode env addr) with
      | true => simp
      | false => simpa using ih (m := cacheCode isSource (lookupCode env addr) m)

variable {cached : String} {addresses : List IPAddr}

lemma foundFrom_uncoded (h : uncoded env (codes, addresses) = true) :
    foundFrom env codes cached addresses = cached := by
  induction addresses with
  | nil => rfl
  | cons addr addresses ih =>
    rw [uncoded, all_cons, Bool.and_eq_true] at h
    rw [foundFrom, if_pos h.1]
    exact ih h.2

lemma foundFrom_ne (hcached : cached ≠ "") : foundFrom env codes cached addresses ≠ "" := by
  induction addresses generalizing cached with
  | nil => exact hcached
  | cons addr addresses ih =>
    rw [foundFrom]
    split_ifs with hcode hlisted
    · exact ih hcached
    · simpa using hcode
    · exact ih (by simpa using hcode)

lemma foundCode_ne (h : uncoded env (codes, addresses) = false) :
    foundCode env codes addresses ≠ "" := by
  rw [foundCode]
  induction addresses with
  | nil => cases h
  | cons addr addresses ih =>
    rw [foundFrom]
    split_ifs with hcode hlisted
    · refine ih ?_
      rw [uncoded, all_cons, hcode, Bool.true_and] at h
      exact h
    · simpa using hcode
    · exact foundFrom_ne (by simpa using hcode)

lemma any_uncoded {e : List String × List IPAddr} (h : uncoded env e = true) :
    e.2.any (geoIPMatches env e.1) = false := by
  rw [uncoded, all_eq_true] at h
  rw [any_eq_false]
  intro addr haddr
  simp [geoIPMatches, h addr haddr, bne]

lemma steadyFrom_cons (e : List String × List IPAddr) (evals : List (List String × List IPAddr)) :
    SteadyFrom env isSource "" (e :: evals) ↔
      e.2.any (geoIPMatches env e.1) = expected env isSource e ∧
        SteadyFrom env isSource (foundCode env e.1 e.2) evals := by
  rw [SteadyFrom, if_pos rfl, Steady]
  cases huncoded : uncoded env e with
  | true =>
    have hanswer : e.2.any (geoIPMatches env e.1) = expected env isSource e := by
      rw [expected, any_uncoded huncoded, Bool.and_false]
    have hcode : foundCode env e.1 e.2 = "" := foundFrom_uncoded huncoded
    rw [dropWhile_cons_of_pos huncoded, hcode, SteadyFrom, if_pos rfl, Steady]
    exact (and_iff_right hanswer).symm
  | false =>
    rw [dropWhile_cons_of_neg (by simp [huncoded]), SteadyFrom, if_neg (foundCode_ne huncoded)]

lemma steadyFrom_cached (hcached : cached ≠ "") (e : List String × List IPAddr)
    (evals : List (List String × List IPAddr)) : SteadyFrom env isSource cached (e :: evals) ↔
      e.1.contains cached = expected env isSource e ∧ SteadyFrom env isSource cached evals := by
  rw [SteadyFrom, if_neg hcached, SteadyFrom, if_neg hcached, forall_mem_cons]

def CachesOwn (env : Env) (m : InboundContext) : Prop :=
  ∀ isSource addr, ownAddr isSource m = some addr →
    cachedCode isSource m = "" ∨ cachedCode isSource m = lookupCode env addr

def SteadyFor (env : Env) (accesses : List Access) (m : InboundContext) : Prop :=
  ∀ isSource, ownAddr isSource m = none → SteadyFrom env isSource (cachedCode isSource m)
    (evaluations isSource m.destinationAddresses accesses)

lemma matchItem_own {addr : IPAddr} (hm : CachesOwn env m) (haddr : ownAddr isSource m = some addr) :
    matchItem env isSource codes m =
      (reference env isSource codes m, cacheCode isSource (lookupCode env addr) m) := by
  rw [reference, haddr]
  dsimp only
  rcases hm isSource addr haddr with hcached | hcached
  · rw [ownAddr] at haddr
    rw [matchItem, hcached, if_neg (by simp), haddr]
    dsimp only
    rw [matchAddr, geoIPMatches, bne]
    cases hcode : lookupCode env addr == "" with
    | true =>
      have hself := cacheCode_self isSource m
      rw [hcached] at hself
      simp [beq_iff_eq.1 hcode, hself]
    | false => simp
  · by_cases hcode : lookupCode env addr = ""
    · rw [ownAddr] at haddr
      rw [matchItem, hcached, hcode, if_neg (by simp), haddr]
      have hself := cacheCode_self isSource m
      rw [hcached, hcode] at hself
      simp [matchAddr, geoIPMatches, hcode, hself]
    · rw [matchItem, hcached, if_pos (by simpa using hcode), geoIPMatches]
      have hself := cacheCode_self isSource m
      rw [hcached] at hself
      simp [hcode, hself]

lemma matchItem_scan (haddr : ownAddr isSource m = none) (hcached : cachedCode isSource m = "") :
    matchItem env isSource codes m =
      (m.destinationAddresses.any (geoIPMatches env codes),
        cacheCode isSource (foundCode env codes m.destinationAddresses) m) := by
  rw [ownAddr] at haddr
  rw [matchItem, hcached, if_neg (by simp), haddr, foundCode, ← hcached]
  exact anyS_matchAddr _

lemma matchItem_cached (hcached : cachedCode isSource m ≠ "") : matchItem env isSource codes m =
      (codes.contains (cachedCode isSource m), cacheCode isSource (cachedCode isSource m) m) := by
  rw [matchItem, if_pos (by simpa using hcached), cacheCode_self]

lemma cachesOwn_cacheCode (isSource : Bool) (code : String) (hm : CachesOwn env m)
    (hcode : ∀ addr, ownAddr isSource m = some addr → code = lookupCode env addr) :
    CachesOwn env (cacheCode isSource code m) := by
  intro s addr haddr
  rw [ownAddr_cacheCode] at haddr
  by_cases hs : s = isSource
  · subst hs
    rw [cachedCode_cacheCode]
    exact .inr (hcode addr haddr)
  · rw [cachedCode_cacheCode_ne hs]
    exact hm s addr haddr

lemma steadyFor_evaluate {rest : List Access} (code : String) {P : Prop}
    (hother : ownAddr isSource m = none →
      (SteadyFrom env isSource (cachedCode isSource m)
          ((codes, m.destinationAddresses) :: evaluations isSource m.destinationAddresses rest) ↔
        P ∧ SteadyFrom env isSource code (evaluations isSource m.destinationAddresses rest)))
    (hown : ownAddr isSource m ≠ none → P) : SteadyFor env (.evaluate isSource codes :: rest) m ↔
      P ∧ SteadyFor env rest (cacheCode isSource code m) := by
  have hkind : ∀ s, ownAddr s m = none →
      (SteadyFrom env s (cachedCode s m)
          (evaluations s m.destinationAddresses (.evaluate isSource codes :: rest)) ↔
        (s = isSource → P) ∧ SteadyFrom env s (cachedCode s (cacheCode isSource code m))
          (evaluations s m.destinationAddresses rest)) := by
    intro s hs
    by_cases hkind : s = isSource
    · subst hkind
      rw [evaluations, if_pos rfl, cachedCode_cacheCode, hother hs]
      simp
    · rw [evaluations, if_neg (Ne.symm hkind), cachedCode_cacheCode_ne hkind]
      simp [hkind]
  simp only [SteadyFor, ownAddr_cacheCode, cacheCode_addresses]
  constructor
  · intro h
    refine ⟨?_, fun s hs => ((hkind s hs).1 (h s hs)).2⟩
    by_cases hown' : ownAddr isSource m = none
    · exact ((hkind isSource hown').1 (h isSource hown')).1 rfl
    · exact hown hown'
  · rintro ⟨hP, h⟩ s hs
    exact (hkind s hs).2 ⟨fun _ => hP, h s hs⟩

lemma transparent_iff_steadyFor {accesses : List Access} (hm : CachesOwn env m) :
    Transparent env accesses m ↔ SteadyFor env accesses m := by
  induction accesses generalizing m with
  | nil =>
    refine iff_of_true trivial fun isSource _ => ?_
    rw [SteadyFrom]
    split_ifs <;> simp [evaluations, Steady]
  | cons access rest ih =>
    cases access with
    | resetRuleCache => exact ih (m := m.resetRuleCache) hm
    | respond addresses => exact ih (m := m.withAddresses addresses) hm
    | evaluate isSource codes =>
      rw [Transparent]
      cases haddr : ownAddr isSource m with
      | some addr =>
        rw [matchItem_own hm haddr]
        have hm' := cachesOwn_cacheCode isSource (lookupCode env addr) hm (by
          intro addr' haddr'
          rw [haddr] at haddr'
          cases haddr'
          rfl)
        rw [ih hm', steadyFor_evaluate (lookupCode env addr) (P := True)]
        · simp
        · simp [haddr]
        · exact fun _ => trivial
      | none =>
        have hreference : reference env isSource codes m =
            expected env isSource (codes, m.destinationAddresses) := by
          rw [reference, haddr, expected]
        have hkeeps : ∀ code, CachesOwn env (cacheCode isSource code m) := fun code =>
          cachesOwn_cacheCode isSource code hm fun addr haddr' => by
            rw [haddr] at haddr'
            cases haddr'
        rw [hreference]
        by_cases hcached : cachedCode isSource m = ""
        · rw [matchItem_scan haddr hcached, ih (hkeeps _)]
          refine (steadyFor_evaluate _ (fun _ => ?_) (absurd haddr)).symm
          rw [hcached]
          exact steadyFrom_cons (codes, m.destinationAddresses) _
        · rw [matchItem_cached hcached, ih (hkeeps _)]
          refine (steadyFor_evaluate _ (fun _ => ?_) (absurd haddr)).symm
          exact steadyFrom_cached hcached (codes, m.destinationAddresses) _

theorem geoip_cache_transparent_iff (env : Env) (m : InboundContext) (accesses : List Access) :
    Transparent env accesses (m.withCodes "" "") ↔
      (m.destination.addr = none →
        Steady env false (evaluations false m.destinationAddresses accesses)) ∧
      (m.source.addr = none →
        Steady env true (evaluations true m.destinationAddresses accesses)) := by
  have hfresh : ∀ isSource, cachedCode isSource (m.withCodes "" "") = "" := by
    rintro (_ | _) <;> rfl
  rw [transparent_iff_steadyFor fun isSource _ _ => .inl (hfresh isSource), SteadyFor, Bool.forall_bool]
  simp only [hfresh, SteadyFrom, if_true]
  rfl

def twoCountries : Env :=
  { Env.bare with
    geoIPReader := some fun addr => match addr with
      | .v4 bits => if bits.toNat / 0x1000000 = 1 then "cn" else if bits.toNat / 0x1000000 = 2 then "us" else ""
      | .v6 _ _ => "" }

theorem geoip_cache_noticed :
    ¬ Transparent twoCountries
        [.respond [.v4 0x01000001#32], .evaluate false ["cn"], .respond [.v4 0x02000001#32],
          .resetRuleCache, .evaluate false ["cn"]] {} ∧
      ¬ Transparent twoCountries [.evaluate true ["cn"]] { destinationAddresses := [.v4 0x01000001#32] } := by
  constructor
  · rintro ⟨-, hsecond, -⟩
    revert hsecond
    decide
  · rintro ⟨hsource, -⟩
    revert hsource
    decide

end GeoIPItem

end SingBox.Route
