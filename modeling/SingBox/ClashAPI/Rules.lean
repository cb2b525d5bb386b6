import Mathlib.Algebra.Ring.Parity
import Mathlib.Logic.Function.Iterate
import SingBox.Dns.AddressFilter
import SingBox.Route.RouteMatch

namespace SingBox.ClashAPI

open Route Dns Lib.Search Lib.LogicTree DNSRuleBody Option RuleItem

variable {ω : Type}

structure Rules (ω : Type) where
  dns : Dns.Router
  route : Route.Router ω
  dnsRuleByUUID : String → Option ℕ
  routeRuleByUUID : String → Option ℕ

inductive Found where
  | dnsRule (index : ℕ)
  | routeRule (index : ℕ)
  deriving DecidableEq

def changeDNSStatus (rule : DNSRule) : DNSRule := { rule with disabled := !rule.disabled }

def changeRouteStatus (rule : Rule) : Rule := { rule with disabled := !rule.disabled }

namespace Rules

variable (rules : Rules ω)

def findRuleByUUID (uuid : String) : Option Found :=
  match rules.dnsRuleByUUID uuid with
  | some index => some (.dnsRule index)
  | none => (rules.routeRuleByUUID uuid).map .routeRule

def changeRuleStatus (uuid : String) : Rules ω :=
  match rules.findRuleByUUID uuid with
  | none => rules
  | some (.dnsRule index) =>
    { rules with dns.dnsRules := rules.dns.dnsRules.modify index changeDNSStatus }
  | some (.routeRule index) =>
    { rules with route.rules := rules.route.rules.modify index changeRouteStatus }

def changeStatuses (uuids : List String) : Rules ω := uuids.foldl changeRuleStatus rules

def toggles (uuids : List String) (rule : Found) : ℕ :=
  uuids.countP fun uuid => rules.findRuleByUUID uuid == some rule

structure Fresh : Prop where
  dns : ∀ rule ∈ rules.dns.dnsRules, rule.disabled = false
  route : ∀ rule ∈ rules.route.rules, rule.disabled = false

end Rules

lemma changeDNSStatus_involutive : Function.Involutive changeDNSStatus := by
  intro rule
  simp [changeDNSStatus]

lemma changeRouteStatus_involutive : Function.Involutive changeRouteStatus := by
  intro rule
  simp [changeRouteStatus]

section Toggles

variable (rules : Rules ω)

lemma findRuleByUUID_changeRuleStatus (uuid uuid' : String) :
    (rules.changeRuleStatus uuid).findRuleByUUID uuid' = rules.findRuleByUUID uuid' := by
  rw [Rules.changeRuleStatus]
  split <;> rfl

lemma toggles_changeRuleStatus (uuid : String) (uuids : List String) (rule : Found) :
    (rules.changeRuleStatus uuid).toggles uuids rule = rules.toggles uuids rule := by
  simp only [Rules.toggles, findRuleByUUID_changeRuleStatus]

lemma changeRuleStatus_dnsRules (uuid : String) (i : ℕ) :
    (rules.changeRuleStatus uuid).dns.dnsRules[i]? = rules.dns.dnsRules[i]?.map
      (changeDNSStatus^[if rules.findRuleByUUID uuid = some (.dnsRule i) then 1 else 0]) := by
  rw [Rules.changeRuleStatus]
  split
  next h => simp [h]
  next index h =>
    by_cases hi : index = i <;> simp [h, hi]
  next index h => simp [h]

lemma changeRuleStatus_routeRules (uuid : String) (i : ℕ) :
    (rules.changeRuleStatus uuid).route.rules[i]? = rules.route.rules[i]?.map
      (changeRouteStatus^[if rules.findRuleByUUID uuid = some (.routeRule i) then 1 else 0]) := by
  rw [Rules.changeRuleStatus]
  split
  next h => simp [h]
  next index h => simp [h]
  next index h =>
    by_cases hi : index = i <;> simp [h, hi]

lemma changeStatuses_outboundByTag (uuids : List String) :
    (rules.changeStatuses uuids).route.outboundByTag = rules.route.outboundByTag := by
  induction uuids generalizing rules with
  | nil => rfl
  | cons uuid uuids ih =>
    refine (ih (rules.changeRuleStatus uuid)).trans ?_
    rw [Rules.changeRuleStatus]
    split <;> rfl

lemma toggles_cons (uuid : String) (uuids : List String) (rule : Found) :
    rules.toggles (uuid :: uuids) rule =
      rules.toggles uuids rule + if rules.findRuleByUUID uuid = some rule then 1 else 0 := by
  simp [Rules.toggles, List.countP_cons]

lemma changeStatuses_dnsRules (uuids : List String) (i : ℕ) :
    (rules.changeStatuses uuids).dns.dnsRules[i]? =
      rules.dns.dnsRules[i]?.map (changeDNSStatus^[rules.toggles uuids (.dnsRule i)]) := by
  induction uuids generalizing rules with
  | nil => exact map_id.symm ▸ rfl
  | cons uuid uuids ih =>
    have h := ih (rules.changeRuleStatus uuid)
    rw [toggles_changeRuleStatus, changeRuleStatus_dnsRules, map_map,
      ← Function.iterate_add, ← toggles_cons] at h
    exact h

lemma changeStatuses_routeRules (uuids : List String) (i : ℕ) :
    (rules.changeStatuses uuids).route.rules[i]? =
      rules.route.rules[i]?.map (changeRouteStatus^[rules.toggles uuids (.routeRule i)]) := by
  induction uuids generalizing rules with
  | nil => exact map_id.symm ▸ rfl
  | cons uuid uuids ih =>
    have h := ih (rules.changeRuleStatus uuid)
    rw [toggles_changeRuleStatus, changeRuleStatus_routeRules, map_map,
      ← Function.iterate_add, ← toggles_cons] at h
    exact h

variable {rules} {uuids : List String} {i : ℕ}

lemma dnsRule_disabled_iff (h : rules.Fresh) {rule : DNSRule}
    (hrule : (rules.changeStatuses uuids).dns.dnsRules[i]? = some rule) :
    rule.disabled = true ↔ Odd (rules.toggles uuids (.dnsRule i)) := by
  rw [changeStatuses_dnsRules, map_eq_some_iff] at hrule
  obtain ⟨rule₀, hrule₀, rfl⟩ := hrule
  have hfresh := h.dns rule₀ (List.mem_of_getElem? hrule₀)
  rcases Nat.even_or_odd (rules.toggles uuids (.dnsRule i)) with heven | hodd
  · rw [changeDNSStatus_involutive.iterate_even heven, id_eq, hfresh]
    simpa using heven
  · rw [changeDNSStatus_involutive.iterate_odd hodd, changeDNSStatus, hfresh]
    simpa using hodd

lemma routeRule_disabled_iff (h : rules.Fresh) {rule : Rule}
    (hrule : (rules.changeStatuses uuids).route.rules[i]? = some rule) :
    rule.disabled = true ↔ Odd (rules.toggles uuids (.routeRule i)) := by
  rw [changeStatuses_routeRules, map_eq_some_iff] at hrule
  obtain ⟨rule₀, hrule₀, rfl⟩ := hrule
  have hfresh := h.route rule₀ (List.mem_of_getElem? hrule₀)
  rcases Nat.even_or_odd (rules.toggles uuids (.routeRule i)) with heven | hodd
  · rw [changeRouteStatus_involutive.iterate_even heven, id_eq, hfresh]
    simpa using heven
  · rw [changeRouteStatus_involutive.iterate_odd hodd, changeRouteStatus, hfresh]
    simpa using hodd

end Toggles

section RouteRules

variable (env : RouterEnv) (rt : Route.Router ω)

def routePass (s : ResolveStatus × InboundContext) (rule : Rule) : ResolveStatus × InboundContext :=
  if rule.disabled then s
  else
    let ready := rt.resolve env rule s.1 s.2.resetRuleCache
    (ready.1, (rule.body.matchRule (matchItem env) ready.2).2)

def routePassed (status : ResolveStatus) (m : InboundContext) (before : List Rule) :
    ResolveStatus × InboundContext :=
  before.foldl (routePass env rt) (status, m)

def routeMatches (status : ResolveStatus) (m : InboundContext) (before : List Rule) (rule : Rule) : Bool :=
  let s := routePassed env rt status m before
  (rule.body.matchRule (matchItem env) (rt.resolve env rule s.1 s.2.resetRuleCache).2).1

variable {env rt} in
lemma tryRules_eq_first {status₀ status : ResolveStatus} {m₀ m : InboundContext}
    {before rules : List Rule} (h : routePassed env rt status₀ m₀ before = (status, m)) :
    (rt.tryRules env (matchItem env) rules status m).1.map Prod.fst =
      (first (fun before rule => (!rule.disabled && routeMatches env rt status₀ m₀ before rule) &&
        (rt.outboundByTag rule.outbound).isSome) before rules).map Prod.snd := by
  induction rules generalizing status m before with
  | nil => rfl
  | cons rule rules ih =>
    have hpassed : routePassed env rt status₀ m₀ (before ++ [rule]) =
        routePass env rt (status, m) rule := by
      rw [← h]
      exact List.foldl_append
    rw [routePass] at hpassed
    rw [Route.Router.tryRules, first, routeMatches, h]
    by_cases hd : rule.disabled = true
    · rw [if_pos hd, hd, Bool.not_true, Bool.false_and, Bool.false_and, if_neg Bool.false_ne_true]
      exact ih (hpassed.trans (if_pos hd))
    · rw [if_neg hd]
      rw [Bool.not_eq_true] at hd
      have hrest := ih (hpassed.trans (if_neg (by rw [hd]; exact Bool.false_ne_true)))
      dsimp only
      rw [hd, Bool.not_false, Bool.true_and]
      cases hm : (rule.body.matchRule (matchItem env)
        (rt.resolve env rule status m.resetRuleCache).2).1 with
      | false => exact hrest
      | true =>
        cases hout : rt.outboundByTag rule.outbound with
        | none => simpa [hout] using hrest
        | some outbound => simp

lemma match0_eq_first (m : InboundContext) (defaultOutbound : ω) :
    (rt.match0 env (matchItem env) m defaultOutbound).1.1 =
      (first (fun before rule => (!rule.disabled && routeMatches env rt
        (Route.Router.initialStatus env (rt.findProcess m)) (rt.findProcess m) before rule) &&
        (rt.outboundByTag rule.outbound).isSome) [] rt.rules).map Prod.snd :=
  tryRules_eq_first rfl

end RouteRules

section DNSRules

variable (env : RouterEnv) (rt : Dns.Router) (allowFakeIP isAddressQuery : Bool)

def dnsPass (m : InboundContext) (rule : DNSRule) : InboundContext :=
  if withAddressLimit env rule.body && !isAddressQuery then m
  else (matchRule env rule.body m.resetRuleCache).2

def dnsPassed (m : InboundContext) (before : List DNSRule) : InboundContext :=
  before.foldl (dnsPass env isAddressQuery) m

def dnsMatches (m : InboundContext) (before : List DNSRule) (rule : DNSRule) : Bool :=
  !(withAddressLimit env rule.body && !isAddressQuery) &&
    let result := matchRule env rule.body (dnsPassed env isAddressQuery m before).resetRuleCache
    result.1 && (usable rt allowFakeIP rule result.2).isSome

variable {env rt allowFakeIP isAddressQuery} in
lemma selectFrom_eq_first {i j : ℕ} {m₀ m : InboundContext} {before rules : List DNSRule}
    (h : dnsPassed env isAddressQuery m₀ before = m) (hj : j = i + before.length) :
    (selectFrom env rt allowFakeIP isAddressQuery j rules m).1.map
        (fun sel => (sel.ruleIndex, sel.rule)) =
      (first (dnsMatches env rt allowFakeIP isAddressQuery m₀) before rules).map
        fun x => (i + x.1.length, x.2) := by
  induction rules generalizing m before j with
  | nil => rfl
  | cons rule rules ih =>
    have hpassed : dnsPassed env isAddressQuery m₀ (before ++ [rule]) =
        dnsPass env isAddressQuery m rule := by
      rw [← h]
      exact List.foldl_append
    rw [dnsPass] at hpassed
    have hlength : j + 1 = i + (before ++ [rule]).length := by
      rw [hj, List.length_append, List.length_singleton, Nat.add_assoc]
    rw [selectFrom, first, dnsMatches, h]
    by_cases hl : (withAddressLimit env rule.body && !isAddressQuery) = true
    · rw [if_pos hl, hl, Bool.not_true, Bool.false_and, if_neg Bool.false_ne_true]
      exact ih (hpassed.trans (if_pos hl)) hlength
    · have hrest := ih (hpassed.trans (if_neg hl)) hlength
      rw [if_neg hl]
      rw [Bool.not_eq_true] at hl
      dsimp only
      rw [hl, Bool.not_false, Bool.true_and]
      cases hm : (matchRule env rule.body m.resetRuleCache).1 with
      | false => exact hrest
      | true =>
        cases hused : usable rt allowFakeIP rule
          (matchRule env rule.body m.resetRuleCache).2 with
        | none => simpa [hused] using hrest
        | some transport => simp [hj]

lemma matchDNS_eq_first (index : Option ℕ) (m : InboundContext) :
    (matchDNS env rt allowFakeIP isAddressQuery index m).1.map (fun sel => (sel.ruleIndex, sel.rule)) =
      (first (dnsMatches env rt allowFakeIP isAddressQuery m) []
        (rt.dnsRules.drop (firstAfter index))).map fun x => (firstAfter index + x.1.length, x.2) := by
  exact selectFrom_eq_first rfl rfl

def firstRouteRule (env : RouterEnv) (rt : Route.Router ω) (m : InboundContext) :
    Option (List Rule × Rule) :=
  let m := rt.findProcess m
  first (fun before rule => !rule.disabled &&
    routeMatches env rt (Route.Router.initialStatus env m) m before rule) [] rt.rules

def firstDNSRule (env : RouterEnv) (rt : Dns.Router) (allowFakeIP isAddressQuery : Bool)
    (index : Option ℕ) (m : InboundContext) : Option (List DNSRule × DNSRule) :=
  first (dnsMatches env rt allowFakeIP isAddressQuery m) [] (rt.dnsRules.drop (firstAfter index))

end DNSRules

variable (env : RouterEnv) (rules : Rules ω) (uuids : List String)

def RouteSelectsEnabled (m : InboundContext) (defaultOutbound : ω) : Prop :=
  let rt := (rules.changeStatuses uuids).route
  (rt.match0 env (matchItem env) m defaultOutbound).1.1 =
    (firstRouteRule env rt m).map Prod.snd

def DNSSelectsEnabled (allowFakeIP isAddressQuery : Bool) (index : Option ℕ) (m : InboundContext) : Prop :=
  let rt := (rules.changeStatuses uuids).dns
  (matchDNS env rt allowFakeIP isAddressQuery index m).1.map (fun sel => (sel.ruleIndex, sel.rule)) =
    (first (fun before rule => dnsMatches env rt allowFakeIP isAddressQuery m before rule &&
      !rule.disabled) [] (rt.dnsRules.drop (firstAfter index))).map
      fun x => (firstAfter index + x.1.length, x.2)

def NoneToggledSelected (allowFakeIP isAddressQuery : Bool) (index : Option ℕ) (m : InboundContext)
    (defaultOutbound : ω) : Prop :=
  let s := rules.changeStatuses uuids
  (∀ i rule, Odd (rules.toggles uuids (.routeRule i)) → s.route.rules[i]? = some rule →
    (s.route.match0 env (matchItem env) m defaultOutbound).1.1 ≠ some rule) ∧
  ∀ i sel, Odd (rules.toggles uuids (.dnsRule i)) →
    (matchDNS env s.dns allowFakeIP isAddressQuery index m).1 = some sel → sel.ruleIndex ≠ i

variable {env rules uuids} {m : InboundContext} {defaultOutbound : ω}

lemma routeSelectsEnabled_iff : RouteSelectsEnabled env rules uuids m defaultOutbound ↔
      ∀ x, firstRouteRule env (rules.changeStatuses uuids).route m = some x →
        ((rules.changeStatuses uuids).route.outboundByTag x.2.outbound).isSome = true := by
  rw [RouteSelectsEnabled, match0_eq_first]
  apply first_and_map_eq_iff
  intro x y hxy
  rw [hxy]

variable {allowFakeIP isAddressQuery : Bool} {index : Option ℕ}

lemma dnsSelectsEnabled_iff : DNSSelectsEnabled env rules uuids allowFakeIP isAddressQuery index m ↔
      ∀ x, firstDNSRule env (rules.changeStatuses uuids).dns allowFakeIP isAddressQuery index m = some x →
        x.2.disabled = false := by
  rw [DNSSelectsEnabled, matchDNS_eq_first, eq_comm, first_and_map_eq_iff]
  · simp only [Bool.not_eq_true']
    rfl
  · intro x y hxy
    rw [(Prod.mk.inj hxy).2]

lemma firstRouteRule_enabled {rt : Route.Router ω} {x : List Rule × Rule}
    (h : firstRouteRule env rt m = some x) : x.2.disabled = false := by
  have hx := Bool.and_eq_true_iff.1 (first_satisfies h)
  simpa using hx.1

lemma firstDNSRule_index {rt : Dns.Router} {x : List DNSRule × DNSRule}
    (h : firstDNSRule env rt allowFakeIP isAddressQuery index m = some x) :
    rt.dnsRules[firstAfter index + x.1.length]? = some x.2 := by
  obtain ⟨after, hafter⟩ := first_split h
  rw [List.nil_append] at hafter
  rw [← List.getElem?_drop, hafter, List.getElem?_append_right (Nat.le_refl _), Nat.sub_self]
  rfl

lemma noneToggledSelected (hfresh : rules.Fresh)
    (hroute : RouteSelectsEnabled env rules uuids m defaultOutbound)
    (hdns : DNSSelectsEnabled env rules uuids allowFakeIP isAddressQuery index m) :
    NoneToggledSelected env rules uuids allowFakeIP isAddressQuery index m defaultOutbound := by
  constructor
  · intro i rule hodd hrule hselected
    have hdisabled := (routeRule_disabled_iff hfresh hrule).2 hodd
    obtain ⟨x, hx, rfl⟩ := map_eq_some_iff.1 (hroute.symm.trans hselected)
    rw [firstRouteRule_enabled hx] at hdisabled
    cases hdisabled
  · rintro i sel hodd hsel rfl
    have hrule := (matchDNS_index (Prod.ext hsel rfl)).2
    have hdisabled := (dnsRule_disabled_iff hfresh hrule).2 hodd
    rw [DNSSelectsEnabled, hsel, map_some, eq_comm, map_eq_some_iff] at hdns
    obtain ⟨x, hx, hxsel⟩ := hdns
    have henabled := (Bool.and_eq_true_iff.1 (first_satisfies hx)).2
    rw [(Prod.mk.inj hxsel).2, hdisabled] at henabled
    cases henabled

theorem disabled_rules_unselected_iff (hfresh : rules.Fresh) (allowFakeIP isAddressQuery : Bool)
    (index : Option ℕ) (m : InboundContext) (defaultOutbound : ω) :
    (RouteSelectsEnabled env rules uuids m defaultOutbound ∧
      DNSSelectsEnabled env rules uuids allowFakeIP isAddressQuery index m ∧
      NoneToggledSelected env rules uuids allowFakeIP isAddressQuery index m defaultOutbound) ↔
    (∀ x, firstRouteRule env (rules.changeStatuses uuids).route m = some x →
      (rules.route.outboundByTag x.2.outbound).isSome = true) ∧
    ∀ x, firstDNSRule env (rules.changeStatuses uuids).dns allowFakeIP isAddressQuery index m = some x →
      Even (rules.toggles uuids (.dnsRule (firstAfter index + x.1.length))) := by
  have hdns : DNSSelectsEnabled env rules uuids allowFakeIP isAddressQuery index m ↔
      ∀ x, firstDNSRule env (rules.changeStatuses uuids).dns allowFakeIP isAddressQuery index m = some x →
        Even (rules.toggles uuids (.dnsRule (firstAfter index + x.1.length))) := by
    refine dnsSelectsEnabled_iff.trans (forall₂_congr fun x hx => ?_)
    rw [← Nat.not_odd_iff_even, ← dnsRule_disabled_iff hfresh (firstDNSRule_index hx),
      Bool.not_eq_true]
  rw [← hdns, ← changeStatuses_outboundByTag rules uuids, ← routeSelectsEnabled_iff]
  constructor
  · exact fun h => ⟨h.1, h.2.1⟩
  · exact fun h => ⟨h.1, h.2, noneToggledSelected hfresh h.1 h.2⟩

def loopbackRules : Rules Unit where
  dns := loopbackRouter []
  route :=
    { rules := [], outboundByTag := fun _ => none, lookupDefault := fun _ _ => none,
      processSearcher := none, mustUseIP := fun _ _ => false }
  dnsRuleByUUID uuid := if uuid = "1" then some 0 else none
  routeRuleByUUID _ := none

lemma loopbackRules_fresh : loopbackRules.Fresh :=
  ⟨by simp [loopbackRules, loopbackRouter], by simp [loopbackRules]⟩

theorem disabled_rules_unselected_twice :
    RouteSelectsEnabled .bare loopbackRules ["1", "1"] {} () ∧
      DNSSelectsEnabled .bare loopbackRules ["1", "1"] true true none {} ∧
      NoneToggledSelected .bare loopbackRules ["1", "1"] true true none {} () := by
  refine (disabled_rules_unselected_iff loopbackRules_fresh true true none {} ()).2 ⟨nofun, ?_⟩
  intro x hx
  cases hx
  decide

theorem disabled_dns_rule_selected :
    loopbackRules.Fresh ∧ loopbackRules.toggles ["1"] (.dnsRule 0) = 1 ∧
      (matchDNS .bare (loopbackRules.changeStatuses ["1"]).dns true true none {}).1.map
        (fun sel => (sel.ruleIndex, sel.rule.disabled)) = some (0, true) ∧
      ¬ DNSSelectsEnabled .bare loopbackRules ["1"] true true none {} := by
  refine ⟨loopbackRules_fresh, by decide, by decide, fun h => ?_⟩
  have hdisabled := dnsSelectsEnabled_iff.1 h _ rfl
  revert hdisabled
  decide

end SingBox.ClashAPI
