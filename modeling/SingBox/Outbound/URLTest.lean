import SingBox.Outbound.Groups

namespace SingBox.Groups

open Adapter Lib.Errors List

structure View where
  supports : Outbound → Network → Bool
  realTag : Outbound → String
  delay : String → Option UInt16

def View.delayOf (v : View) (out : Outbound) : Option UInt16 := v.delay (v.realTag out)

def defaultInterval : Int := 180000000000

def defaultIdleTimeout : Int := 1800000000000

/-- Durations are in nanoseconds; `history` names the storage the group was given. -/
structure URLTest extends GroupAdapter where
  interval : Int := 0
  tolerance : UInt16 := 0
  idleTimeout : Int := 0
  history : ℕ := 0
  outbounds : List Outbound := []
  selectedOutboundTCP : Option Outbound := none
  selectedOutboundUDP : Option Outbound := none

namespace URLTest

def selectedOn (g : URLTest) : Network → Option Outbound
  | .tcp => g.selectedOutboundTCP
  | .udp => g.selectedOutboundUDP

def choose (g : URLTest) (out : Outbound) : Network → URLTest
  | .tcp => { g with selectedOutboundTCP := some out }
  | .udp => { g with selectedOutboundUDP := some out }

def pickOutbounds (r : Lookup) (g : URLTest) : Except String (List Outbound) := do
  let tagged ← pickTagged r g.tags
  let provided ← pickProvided r "provider" g.filter g.uses
  return if (tagged ++ provided).isEmpty then [r.outboundless] else tagged ++ provided

def newURLTestGroup (v : View) (outbounds : List Outbound) (g : URLTest) : Except String URLTest :=
  let interval := if g.interval = 0 then defaultInterval else g.interval
  let idleTimeout := if g.idleTimeout = 0 then defaultIdleTimeout else g.idleTimeout
  if idleTimeout < interval then .error "interval must be less or equal than idle_timeout"
  else .ok { g with
    interval, idleTimeout, outbounds
    tolerance := if g.tolerance = 0 then 50 else g.tolerance
    selectedOutboundTCP := outbounds.find? fun detour => v.supports detour .tcp
    selectedOutboundUDP := outbounds.find? fun detour => v.supports detour .udp }

def start (r : Lookup) (v : View) (g : URLTest) : Except String URLTest := do
  let g := { g with uses := g.resolveUses r }
  let outbounds ← pickOutbounds r g
  newURLTestGroup v outbounds { g with providers := g.uses }

def selectStep (v : View) (tolerance : UInt16) (network : Network)
    (best : UInt16 × Option Outbound) (detour : Outbound) : UInt16 × Option Outbound :=
  if v.supports detour network then
    match v.delayOf detour with
    | none => best
    | some d => if best.1 = 0 ∨ d + tolerance < best.1 then (d, some detour) else best
  else best

def current (v : View) (network : Network) (g : URLTest) : UInt16 × Option Outbound :=
  match g.selectedOn network with
  | none => (0, none)
  | some out => match v.delayOf out with
    | none => (0, none)
    | some d => (d, some out)

def select (v : View) (network : Network) (g : URLTest) : Option Outbound × Bool :=
  match (g.outbounds.foldl (selectStep v g.tolerance network) (g.current v network)).2 with
  | some out => (some out, true)
  | none => (g.outbounds.find? fun detour => v.supports detour network, false)

def checkNetwork (v : View) (network : Network) (g : URLTest) : URLTest :=
  match g.select v network with
  | (none, _) => g
  | (some out, found) =>
    if g.selectedOn network = none ∨ (found ∧ g.selectedOn network ≠ some out) then
      g.choose out network
    else g

def performUpdateCheck (view : URLTest → View) (g : URLTest) : URLTest :=
  let g := g.checkNetwork (view g) .tcp
  g.checkNetwork (view g) .udp

def updateOutbounds (r : Lookup) (view : URLTest → View) (tag : String) (g : URLTest) :
    Except String URLTest :=
  if g.providers.contains tag then
    match pickOutbounds r g with
    | .ok outbounds => .ok (performUpdateCheck view { g with outbounds })
    | .error err =>
      .error ("update outbounds failed: " ++ g.tag ++ ", with reason: " ++ err)
  else .ok g

def now (g : URLTest) : String :=
  match g.selectedOutboundTCP, g.selectedOutboundUDP with
  | some out, _ => out.tag
  | none, some out => out.tag
  | none, none => ""

def ConsistentOn (g : URLTest) (network : Network) : Prop :=
  ∀ out, g.selectedOn network = some out → out ∈ g.outbounds

def Consistent (g : URLTest) : Prop := ∀ network, g.ConsistentOn network

def Beats (v : View) (tolerance : UInt16) (network : Network) (d : UInt16) (out : Outbound) : Prop :=
  v.supports out network = true ∧ ∃ e, v.delayOf out = some e ∧ (d = 0 ∨ e + tolerance < d)

variable {v : View} {network : Network} {g : URLTest} {r : Lookup}

@[simp] lemma choose_outbounds (out : Outbound) : (g.choose out network).outbounds = g.outbounds := by
  cases network <;> rfl

@[simp] lemma choose_adapter (out : Outbound) :
    (g.choose out network).toGroupAdapter = g.toGroupAdapter := by
  cases network <;> rfl

@[simp] lemma choose_tolerance (out : Outbound) :
    (g.choose out network).tolerance = g.tolerance := by
  cases network <;> rfl

@[simp] lemma choose_selectedOn (out : Outbound) :
    (g.choose out network).selectedOn network = some out := by
  cases network <;> rfl

variable {network' : Network}

lemma choose_selectedOn_ne (out : Outbound) (h : network' ≠ network) :
    (g.choose out network).selectedOn network' = g.selectedOn network' := by
  cases network <;> cases network' <;> first | rfl | exact absurd rfl h

lemma foldl_selectStep (v : View) (network : Network) (tolerance : UInt16) (outs : List Outbound)
    (best : UInt16 × Option Outbound) :
    (∃ out ∈ outs, Beats v tolerance network best.1 out) ∧
        (∃ out ∈ outs, (outs.foldl (selectStep v tolerance network) best).2 = some out) ∨
      (¬∃ out ∈ outs, Beats v tolerance network best.1 out) ∧
        outs.foldl (selectStep v tolerance network) best = best := by
  induction outs generalizing best with
  | nil => exact .inr ⟨by simp, rfl⟩
  | cons detour outs ih =>
    rw [foldl_cons]
    by_cases hbeats : Beats v tolerance network best.1 detour
    · obtain ⟨hsupports, d, hd, hless⟩ := hbeats
      have hstep : selectStep v tolerance network best detour = (d, some detour) := by
        rw [selectStep, if_pos hsupports, hd]
        exact if_pos hless
      refine .inl ⟨⟨detour, mem_cons_self, hsupports, d, hd, hless⟩, ?_⟩
      rw [hstep]
      rcases ih (d, some detour) with ⟨_, out, hout, hlast⟩ | ⟨_, hlast⟩
      · exact ⟨out, mem_cons_of_mem _ hout, hlast⟩
      · exact ⟨detour, mem_cons_self, by rw [hlast]⟩
    · have hstep : selectStep v tolerance network best detour = best := by
        rw [selectStep]
        split_ifs with hsupports
        · split
          · rfl
          · rename_i d hd
            exact if_neg fun hless => hbeats ⟨hsupports, d, hd, hless⟩
        · rfl
      rw [hstep]
      rcases ih best with ⟨⟨out, hout, hb⟩, out', hout', hlast⟩ | ⟨hnone, hlast⟩
      · exact .inl ⟨⟨out, mem_cons_of_mem _ hout, hb⟩, out', mem_cons_of_mem _ hout', hlast⟩
      · refine .inr ⟨?_, hlast⟩
        rintro ⟨out, hout, hb⟩
        rcases mem_cons.1 hout with rfl | hout
        · exact hbeats hb
        · exact hnone ⟨out, hout, hb⟩

lemma current_snd {out : Outbound} (h : (g.current v network).2 = some out) :
    g.selectedOn network = some out := by
  rw [current] at h
  split at h
  · cases h
  · rename_i out' hout'
    split at h
    · cases h
    · rw [hout']
      exact h

lemma select_cases (v : View) (network : Network) (g : URLTest) :
    (∃ out ∈ g.outbounds, Beats v g.tolerance network (g.current v network).1 out) ∧
        (∃ out ∈ g.outbounds, g.select v network = (some out, true)) ∨
      (¬∃ out ∈ g.outbounds, Beats v g.tolerance network (g.current v network).1 out) ∧
        ((∃ out, g.selectedOn network = some out ∧ g.select v network = (some out, true)) ∨
          g.select v network = (g.outbounds.find? fun detour => v.supports detour network, false)) := by
  rw [select]
  rcases foldl_selectStep v network g.tolerance g.outbounds (g.current v network)
    with ⟨hex, out, hout, hlast⟩ | ⟨hnone, hlast⟩
  · refine .inl ⟨hex, out, hout, ?_⟩
    rw [hlast]
  · refine .inr ⟨hnone, ?_⟩
    rw [hlast]
    cases hc : (g.current v network).2 with
    | none => exact .inr rfl
    | some out => exact .inl ⟨out, current_snd hc, rfl⟩

lemma checkNetwork_cases (v : View) (network : Network) (g : URLTest) :
    g.checkNetwork v network = g ∨
      ∃ out ∈ g.outbounds, g.checkNetwork v network = g.choose out network := by
  rw [checkNetwork]
  rcases select_cases v network g with ⟨_, out, hout, hs⟩ | ⟨_, hs | hs⟩
  · rw [hs]
    dsimp only
    split_ifs
    · exact .inr ⟨out, hout, rfl⟩
    · exact .inl rfl
  · obtain ⟨out, hsel, hs⟩ := hs
    rw [hs]
    dsimp only
    rw [if_neg (by simp [hsel])]
    exact .inl rfl
  · rw [hs]
    split
    · exact .inl rfl
    · rename_i out found heq
      rw [Prod.mk.injEq] at heq
      split_ifs
      · exact .inr ⟨out, mem_of_find?_eq_some heq.1, rfl⟩
      · exact .inl rfl

lemma checkNetwork_consistentOn :
    (g.checkNetwork v network).ConsistentOn network ↔
      g.ConsistentOn network ∨
        ∃ out ∈ g.outbounds, Beats v g.tolerance network (g.current v network).1 out := by
  have hmem : ∀ out ∈ g.outbounds, (g.choose out network).ConsistentOn network := by
    intro out hout out' hout'
    rw [choose_selectedOn] at hout'
    cases hout'
    rwa [choose_outbounds]
  rw [checkNetwork]
  rcases select_cases v network g with ⟨hex, out, hout, hs⟩ | ⟨hnone, hs | hs⟩
  · refine iff_of_true ?_ (.inr hex)
    rw [hs]
    dsimp only
    split_ifs with hc
    · exact hmem out hout
    · -- the selection is the preferred outbound itself
      intro out' hout'
      simp only [hout', not_or] at hc
      have heq : out' = out := by simpa using hc.2
      rwa [heq]
  · obtain ⟨out, hsel, hs⟩ := hs
    rw [hs]
    dsimp only
    rw [if_neg (by simp [hsel])]
    exact ⟨.inl, fun h => h.resolve_right hnone⟩
  · rw [hs]
    split
    · exact ⟨.inl, fun h => h.resolve_right hnone⟩
    · rename_i out found heq
      rw [Prod.mk.injEq] at heq
      obtain ⟨hfind, rfl⟩ := heq
      by_cases hsel : g.selectedOn network = none
      · rw [if_pos (Or.inl hsel)]
        refine iff_of_true (hmem out (mem_of_find?_eq_some hfind)) (.inl ?_)
        intro out' hout'
        rw [hsel] at hout'
        cases hout'
      · rw [if_neg (by simp [hsel])]
        exact ⟨.inl, fun h => h.resolve_right hnone⟩

@[simp] lemma checkNetwork_outbounds : (g.checkNetwork v network).outbounds = g.outbounds := by
  rcases checkNetwork_cases v network g with h | ⟨out, _, h⟩
  · rw [h]
  · rw [h, choose_outbounds]

@[simp] lemma checkNetwork_adapter :
    (g.checkNetwork v network).toGroupAdapter = g.toGroupAdapter := by
  rcases checkNetwork_cases v network g with h | ⟨out, _, h⟩
  · rw [h]
  · rw [h, choose_adapter]

@[simp] lemma checkNetwork_tolerance : (g.checkNetwork v network).tolerance = g.tolerance := by
  rcases checkNetwork_cases v network g with h | ⟨out, _, h⟩
  · rw [h]
  · rw [h, choose_tolerance]

lemma checkNetwork_selectedOn_ne (h : network' ≠ network) :
    (g.checkNetwork v network).selectedOn network' = g.selectedOn network' := by
  rcases checkNetwork_cases v network g with hc | ⟨out, _, hc⟩
  · rw [hc]
  · rw [hc, choose_selectedOn_ne out h]

lemma checkNetwork_consistentOn_ne (h : network' ≠ network) :
    (g.checkNetwork v network).ConsistentOn network' ↔ g.ConsistentOn network' := by
  rw [ConsistentOn, ConsistentOn, checkNetwork_selectedOn_ne h, checkNetwork_outbounds]

@[simp] lemma performUpdateCheck_outbounds (view : URLTest → View) (g : URLTest) :
    (performUpdateCheck view g).outbounds = g.outbounds := by
  rw [performUpdateCheck, checkNetwork_outbounds, checkNetwork_outbounds]

@[simp] lemma performUpdateCheck_adapter (view : URLTest → View) (g : URLTest) :
    (performUpdateCheck view g).toGroupAdapter = g.toGroupAdapter := by
  rw [performUpdateCheck, checkNetwork_adapter, checkNetwork_adapter]

def Renewed (v : View) (g : URLTest) (network : Network) : Prop :=
  g.ConsistentOn network ∨ ∃ out ∈ g.outbounds, Beats v g.tolerance network (g.current v network).1 out

def Steady (view : URLTest → View) (g : URLTest) : Prop :=
  ∀ out ∈ g.outbounds, ∀ v', v' = view (g.choose out .tcp) →
    (∀ o ∈ g.outbounds ++ (g.selectedOn .udp).toList, (view g).supports o = v'.supports o ∧
      (view g).delayOf o = v'.delayOf o)

variable {g' : URLTest}

lemma current_congr {v' : View} (hsel : g'.selectedOn network = g.selectedOn network)
    (hv : ∀ o, g.selectedOn network = some o → v'.delayOf o = v.delayOf o) :
    g'.current v' network = g.current v network := by
  rw [current, current, hsel]
  cases hg : g.selectedOn network with
  | none => rfl
  | some o =>
    dsimp only
    rw [hv o hg]

lemma performUpdateCheck_consistent {view : URLTest → View} (hsteady : Steady view g) :
    (performUpdateCheck view g).Consistent ↔ ∀ network, Renewed (view g) g network := by
  have htcp : (performUpdateCheck view g).ConsistentOn .tcp ↔ Renewed (view g) g .tcp := by
    rw [performUpdateCheck, checkNetwork_consistentOn_ne (by decide), checkNetwork_consistentOn]
    rfl
  have hudp : (performUpdateCheck view g).ConsistentOn .udp ↔ Renewed (view g) g .udp := by
    rw [performUpdateCheck, checkNetwork_consistentOn, checkNetwork_tolerance, Renewed]
    rcases checkNetwork_cases (view g) .tcp g with h | ⟨out, hout, h⟩
    · rw [h]
    · -- the check of the first network may have changed what the second one sees
      have hs := hsteady out hout _ rfl
      have hcur : (g.choose out .tcp).current (view (g.choose out .tcp)) .udp =
          g.current (view g) .udp :=
        current_congr rfl fun o ho => (hs o (by simp [ho])).2.symm
      rw [h, hcur]
      refine or_congr_right (exists_congr fun o => and_congr_right fun ho => ?_)
      obtain ⟨hsup, hdel⟩ := hs o (mem_append_left _ ho)
      rw [Beats, Beats, hsup, hdel]
  constructor
  · intro h network
    cases network with
    | tcp => exact htcp.1 (h .tcp)
    | udp => exact hudp.1 (h .udp)
  · intro h network
    cases network with
    | tcp => exact htcp.2 (h .tcp)
    | udp => exact hudp.2 (h .udp)

lemma performUpdateCheck_keeps (view : URLTest → View) (h : g.Consistent) :
    (performUpdateCheck view g).Consistent := by
  have hstep : ∀ (g : URLTest) (v : View) (n : Network), g.Consistent → (g.checkNetwork v n).Consistent := by
    intro g v n hg n'
    by_cases hn : n' = n
    · subst hn
      exact checkNetwork_consistentOn.2 (.inl (hg n'))
    · exact (checkNetwork_consistentOn_ne hn).2 (hg n')
  exact hstep _ _ _ (hstep _ _ _ h)

variable {outs : List Outbound}

lemma pickOutbounds_pickable (h : pickOutbounds r g = .ok outs) :
    ∀ out ∈ outs, Pickable r g.tags out := by
  obtain ⟨tagged, htagged, h⟩ := bind_eq_ok.1 h
  obtain ⟨provided, hprovided, h⟩ := bind_eq_ok.1 h
  cases h
  intro out hout
  split_ifs at hout
  · exact .inr (.inr (mem_singleton.1 hout))
  · rcases mem_append.1 hout with hout | hout
    · exact pickTagged_pickable htagged out hout
    · exact pickProvided_pickable hprovided out hout

lemma newURLTestGroup_consistent (h : newURLTestGroup v outs g = .ok g') :
    g'.Consistent ∧ g'.outbounds = outs ∧
      g'.toGroupAdapter = g.toGroupAdapter := by
  rw [newURLTestGroup] at h
  by_cases hlt : (if g.idleTimeout = 0 then defaultIdleTimeout else g.idleTimeout) <
      if g.interval = 0 then defaultInterval else g.interval
  · rw [if_pos hlt] at h
    cases h
  rw [if_neg hlt] at h
  cases h
  refine ⟨?_, rfl, rfl⟩
  intro network out hout
  cases network with
  | tcp => exact mem_of_find?_eq_some hout
  | udp => exact mem_of_find?_eq_some hout

end URLTest

end SingBox.Groups
