import SingBox.Provider.Parser

namespace SingBox.Provider

open Option List

open Adapter (OutboundType)
open SingBox.Options

def Sets {α : Type} (set : Option α) (before after : α) : Prop :=
  (∀ a, set = some a → after = a) ∧ (set = none → after = before)

variable {α : Type} {set : Option α} {before after : α}

lemma sets_iff : Sets set before after ↔ after = set.getD before := by
  cases set <;> simp [Sets]

lemma sets_getD : Sets set before (set.getD before) := sets_iff.2 rfl

lemma sets_or {before : Option α} : Sets (set.map some) before (set.or before) := by
  rw [sets_iff]
  cases set <;> rfl

def usableDetour (tags : List String) (detour : String) : String :=
  if detour ∈ tags then detour else ""

structure DialerOverridden (o : OverrideDialerOptions) (tags : List String)
    (before after : DialerOptions) : Prop where
  detour : Sets (if usableDetour tags before.detour = "" then o.detour else none)
    (usableDetour tags before.detour) after.detour
  bindInterface : Sets o.bindInterface before.bindInterface after.bindInterface
  inet4BindAddress : Sets (o.inet4BindAddress.map some) before.inet4BindAddress after.inet4BindAddress
  inet6BindAddress : Sets (o.inet6BindAddress.map some) before.inet6BindAddress after.inet6BindAddress
  serverAddresses : after.serverAddresses = before.serverAddresses
  protectPath : Sets o.protectPath before.protectPath after.protectPath
  routingMark : Sets o.routingMark before.routingMark after.routingMark
  reuseAddr : Sets o.reuseAddr before.reuseAddr after.reuseAddr
  connectTimeout : Sets o.connectTimeout before.connectTimeout after.connectTimeout
  tcpFastOpen : Sets o.tcpFastOpen before.tcpFastOpen after.tcpFastOpen
  tcpMultiPath : Sets o.tcpMultiPath before.tcpMultiPath after.tcpMultiPath
  udpFragment : Sets (o.udpFragment.map some) before.udpFragment after.udpFragment
  domainStrategy : Sets o.domainStrategy before.domainStrategy after.domainStrategy
  fallbackDelay : Sets o.fallbackDelay before.fallbackDelay after.fallbackDelay
  storeLastIP : Sets o.storeLastIP before.storeLastIP after.storeLastIP

def dialerOverride (override : Option OutboundOverrideOptions) : OverrideDialerOptions :=
  (override.bind OutboundOverrideOptions.dialer).getD {}

def StrategyIdle (o : OverrideDialerOptions) (options : DialerOptions) : Prop :=
  ∀ strategy, o.domainStrategy = some strategy →
    options.domainStrategy = strategy ∧ (o.udpFragment = none → options.udpFragment = none)

variable {override : Option OutboundOverrideOptions} {tags : List String} {options : DialerOptions}

lemma knownDetour_detour : (knownDetour tags options).detour = usableDetour tags options.detour := by
  rw [knownDetour, usableDetour]
  by_cases hempty : options.detour = ""
  · simp [hempty]
  · by_cases htag : options.detour ∈ tags <;> simp [hempty, htag]

lemma knownDetour_eq :
    knownDetour tags options = { options with detour := usableDetour tags options.detour } := by
  rw [← knownDetour_detour, knownDetour]
  split_ifs <;> rfl

lemma overrideDialerOption_eq :
    overrideDialerOption override options tags =
      applyOverride (dialerOverride override) (knownDetour tags options) := by
  have hnone : ∀ options : DialerOptions, applyOverride {} options = options := by
    intro options
    cases options
    simp only [applyOverride, getD_none, none_or, isSome_none, Bool.false_eq_true,
      if_false, beq_iff_eq]
    congr 1
    split_ifs with hempty
    · exact hempty.symm
    · rfl
  rw [overrideDialerOption, dialerOverride]
  cases override.bind OutboundOverrideOptions.dialer with
  | none => exact (hnone _).symm
  | some o =>
    dsimp only [getD_some]
    split_ifs with ho
    · rw [ho, hnone]
    · rfl

lemma dialerOverridden_applyOverride {o : OverrideDialerOptions} :
    DialerOverridden o tags options (applyOverride o (knownDetour tags options)) ↔
      StrategyIdle o options := by
  rw [knownDetour_eq]
  have hdetour : Sets (if usableDetour tags options.detour = "" then o.detour else none)
      (usableDetour tags options.detour)
      (applyOverride o { options with detour := usableDetour tags options.detour }).detour := by
    rw [sets_iff, applyOverride]
    by_cases hempty : usableDetour tags options.detour = "" <;> simp [hempty]
  constructor
  · intro h strategy hstrategy
    have hset : options.domainStrategy = strategy := h.domainStrategy.1 strategy hstrategy
    refine ⟨hset, fun hfragment => ?_⟩
    have hkept := h.udpFragment.2 (by rw [hfragment, map_none])
    simpa [applyOverride, hstrategy, hfragment] using hkept.symm
  · intro h
    refine ⟨hdetour, sets_getD, sets_or, sets_or, rfl, sets_getD, sets_getD, sets_getD, sets_getD,
      sets_getD, sets_getD, ?_, ⟨fun strategy hstrategy => (h strategy hstrategy).1, fun _ => rfl⟩,
      sets_getD, sets_getD⟩
    cases hstrategy : o.domainStrategy with
    | none =>
      simp only [applyOverride, hstrategy, isSome_none, Bool.false_eq_true, if_false]
      exact sets_or
    | some strategy =>
      simp only [applyOverride, hstrategy, isSome_some, if_true]
      cases hfragment : o.udpFragment with
      | none => exact ⟨by simp, fun _ => ((h strategy hstrategy).2 hfragment).symm⟩
      | some fragment => exact ⟨fun _ ha => Option.some.inj ha, by simp⟩

variable (override) (outbounds : List Outbound)

structure Overridden (tags : List String) (before after : Outbound) : Prop where
  dialer : isSkipped before.type = false →
    DialerOverridden (dialerOverride override) tags before.dialer after.dialer
  type : after.type = before.type
  server : after.server = before.server
  serverPort : after.serverPort = before.serverPort
  protocol : after.protocol = before.protocol

def Overridable (tags : List String) (outbound : Outbound) : Prop :=
  isSkipped outbound.type = false →
    if overridesDialer outbound.type then StrategyIdle (dialerOverride override) outbound.dialer
    else DialerOverridden (dialerOverride override) tags outbound.dialer outbound.dialer

variable {override outbounds} {outbound : Outbound}

lemma overridden_overrideOutbound :
    Overridden override tags outbound (overrideOutbound override tags outbound) ↔
      Overridable override tags outbound := by
  have hdialer : (isSkipped outbound.type = false → DialerOverridden (dialerOverride override) tags
      outbound.dialer (overrideOutbound override tags outbound).dialer) ↔
        Overridable override tags outbound := by
    refine forall_congr' fun _ => ?_
    rw [overrideOutbound]
    split_ifs with htype
    · rw [overrideDialerOption_eq, dialerOverridden_applyOverride]
    · rfl
  rw [← hdialer]
  exact ⟨fun h => h.dialer, fun h => ⟨h, rfl, rfl, rfl, rfl⟩⟩

theorem override_outbounds_iff :
    List.Forall₂ (Overridden override (outbounds.map (·.tag))) outbounds
        (overrideOutbounds override outbounds) ↔
      ∀ outbound ∈ outbounds, Overridable override (outbounds.map (·.tag)) outbound := by
  rw [overrideOutbounds, forall₂_map_right_iff, forall₂_same]
  exact forall₂_congr fun _ _ => overridden_overrideOutbound

def socksOutbound (dialer : DialerOptions) : Outbound :=
  { type := .socks, tag := "A", dialer, protocol := .socks {} }

def sshOutbound (dialer : DialerOptions) : Outbound :=
  { type := .ssh, tag := "A", dialer, protocol := .decoded "" }

theorem override_outbounds_lost :
    ¬ List.Forall₂ (Overridden (some { dialer := some { domainStrategy := some .useIPv4 } }) ["A"])
        [socksOutbound { udpFragment := some true }]
        (overrideOutbounds (some { dialer := some { domainStrategy := some .useIPv4 } })
          [socksOutbound { udpFragment := some true }]) ∧
      ¬ List.Forall₂ (Overridden (some { dialer := some { bindInterface := some "eth0" } }) ["A"])
        [sshOutbound {}]
        (overrideOutbounds (some { dialer := some { bindInterface := some "eth0" } })
          [sshOutbound {}]) := by
  constructor
  · rintro (_ | ⟨h, -⟩)
    exact absurd ((h.dialer rfl).domainStrategy.1 .useIPv4 rfl) (by decide)
  · rintro (_ | ⟨h, -⟩)
    exact absurd ((h.dialer rfl).bindInterface.1 "eth0" rfl) (by decide)

variable (override outbounds)

def DetoursFollow (before after : List Outbound) : Prop :=
  ∀ (i : ℕ) outbound, before[i]? = some outbound → ∀ (j : ℕ) target, before[j]? = some target →
    outbound.dialer.detour ≠ "" → outbound.dialer.detour = target.tag →
      ∃ outbound' target', after[i]? = some outbound' ∧ after[j]? = some target' ∧
        outbound'.dialer.detour = target'.tag

def KeepsTags : Prop := ∀ o, override = some o → o.tagPrefix = "" ∧ o.tagSuffix = ""

variable {override outbounds}

lemma overrideTag_eq_self {tag : String} : overrideTag override tag = tag ↔ KeepsTags override := by
  cases override with
  | none => simp [overrideTag, KeepsTags]
  | some o =>
    simp only [KeepsTags, Option.some.injEq, forall_eq', overrideTag]
    constructor
    · intro h
      have hlength := congrArg String.length h
      simp only [String.length_append] at hlength
      exact ⟨String.length_eq_zero_iff.1 (by omega), String.length_eq_zero_iff.1 (by omega)⟩
    · rintro ⟨hbefore, hafter⟩
      rw [hbefore, hafter, String.empty_append, String.append_empty]

lemma overrideOutbound_detour (hdetour : outbound.dialer.detour ≠ "")
    (hmem : outbound.dialer.detour ∈ tags) :
    (overrideOutbound override tags outbound).dialer.detour = outbound.dialer.detour := by
  have husable : usableDetour tags outbound.dialer.detour = outbound.dialer.detour := if_pos hmem
  rw [overrideOutbound]
  split_ifs
  · rw [overrideDialerOption_eq, knownDetour_eq, husable]
    exact if_neg (by simpa using hdetour)
  · rfl

theorem detours_follow_iff :
    DetoursFollow outbounds (overrideOutbounds override outbounds) ↔
      KeepsTags override ∨
        ∀ outbound ∈ outbounds, outbound.dialer.detour ≠ "" →
          outbound.dialer.detour ∉ outbounds.map (·.tag) := by
  have hafter : ∀ (i : ℕ) outbound, outbounds[i]? = some outbound →
      (overrideOutbounds override outbounds)[i]? =
        some (overrideOutbound override (outbounds.map (·.tag)) outbound) := by
    intro i outbound hi
    rw [overrideOutbounds, getElem?_map, hi, map_some]
  constructor
  · intro h
    by_contra hc
    push Not at hc
    obtain ⟨hkeeps, outbound, hout, hdetour, hmem⟩ := hc
    obtain ⟨i, hi⟩ := mem_iff_getElem?.1 hout
    obtain ⟨target, htarget, htag⟩ := mem_map.1 hmem
    obtain ⟨j, hj⟩ := mem_iff_getElem?.1 htarget
    obtain ⟨_, _, hi', hj', hfollows⟩ := h i outbound hi j target hj hdetour htag.symm
    rw [hafter i outbound hi] at hi'
    rw [hafter j target hj] at hj'
    cases hi'
    cases hj'
    rw [overrideOutbound_detour hdetour hmem, ← htag] at hfollows
    exact hkeeps (overrideTag_eq_self.1 hfollows.symm)
  · intro h i outbound hi j target hj hdetour htag
    have hmem : outbound.dialer.detour ∈ outbounds.map (·.tag) :=
      mem_map.2 ⟨target, mem_of_getElem? hj, htag.symm⟩
    have hkeeps := h.resolve_right fun hno => hno outbound (mem_of_getElem? hi) hdetour hmem
    refine ⟨_, _, hafter i outbound hi, hafter j target hj, ?_⟩
    rw [overrideOutbound_detour hdetour hmem, htag]
    exact (overrideTag_eq_self.2 hkeeps).symm

def shadowTLSPair : List Outbound :=
  [{ type := .shadowsocks, tag := "A", dialer := { detour := "A-st" }, protocol := .shadowsocks {} },
    { type := .shadowTLS, tag := "A-st", protocol := .shadowTLS {} }]

theorem detours_left_behind :
    ¬ DetoursFollow shadowTLSPair (overrideOutbounds (some { tagPrefix := "p/" }) shadowTLSPair) := by
  intro h
  obtain ⟨_, _, hi, hj, hfollows⟩ := h 0 _ rfl 1 _ rfl (by decide) rfl
  cases hi
  cases hj
  exact absurd hfollows (by decide)

end SingBox.Provider
