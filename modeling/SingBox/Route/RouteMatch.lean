import SingBox.Route.RouteRules

namespace SingBox.Route

open Lib.LogicTree RouterEnv

inductive ResolveStatus where
  | unneeded
  | pending
  | resolved
  | failed
  deriving DecidableEq, Repr

structure Router (ω : Type*) where
  rules : List Rule
  outboundByTag : String → Option ω
  lookupDefault : InboundContext → String → Option (List IPAddr)
  processSearcher : Option (InboundContext → Option ProcessInfo)
  mustUseIP : ω → InboundContext → Bool

def Rule.containsDestinationIPCIDRRule (env : RouterEnv) (rule : Rule) : Bool :=
  rule.body.leaves.any (DefaultRule.containsDestinationIPCIDRRule env)

def Rule.asks (env : RouterEnv) (rule : Rule) : Bool :=
  !rule.skipResolve && rule.containsDestinationIPCIDRRule env

namespace Router

variable {ω : Type*} (env : RouterEnv) (sem : RuleItem → InboundContext → Bool × InboundContext)
  (rt : Router ω)

def lookup (m : InboundContext) : ResolveStatus × InboundContext :=
  match rt.lookupDefault m m.destination.fqdn with
  | some addresses =>
    (.resolved,
      { m with isResolved := true, destinationAddresses := addresses }.resetRuleCache)
  | none => (.failed, m.resetRuleCache)

def resolve (rule : Rule) (status : ResolveStatus) (m : InboundContext) :
    ResolveStatus × InboundContext :=
  if !rule.skipResolve && status == .pending && rule.containsDestinationIPCIDRRule env then
    rt.lookup m
  else (status, m)

def tryRules : List Rule → ResolveStatus → InboundContext →
    Option (Rule × ω) × ResolveStatus × InboundContext
  | [], status, m => (none, status, m)
  | rule :: rules, status, m =>
    if rule.disabled then tryRules rules status m
    else
      let ready := rt.resolve env rule status m.resetRuleCache
      let matched := rule.body.matchRule sem ready.2
      match if matched.1 then rt.outboundByTag rule.outbound else none with
      | some outbound => (some (rule, outbound), ready.1, matched.2)
      | none => tryRules rules ready.1 matched.2

def initialStatus (m : InboundContext) : ResolveStatus :=
  if env.isDomainName m.destination.fqdn && m.destinationAddresses.isEmpty then .pending
  else .unneeded

def findProcess (m : InboundContext) : InboundContext :=
  match rt.processSearcher with
  | none => m
  | some search => match search m with
    | none => m
    | some info => { m with processInfo := some info }

def match0 (m : InboundContext) (defaultOutbound : ω) : (Option Rule × ω) × InboundContext :=
  let m := rt.findProcess m
  let tried := tryRules env sem rt rt.rules (initialStatus env m) m
  let outbound := (tried.1.map Prod.snd).getD defaultOutbound
  let m := tried.2.2
  ((tried.1.map Prod.fst, outbound),
    if tried.2.1 == .resolved && !rt.mustUseIP outbound m then { m with destinationAddresses := [] }
    else m)

def asked (m : InboundContext) (rules : List Rule) : Bool :=
  initialStatus env m == .pending && rules.any fun rule => !rule.disabled && rule.asks env

def seen (m : InboundContext) (rules : List Rule) : InboundContext :=
  if asked env m rules then (rt.lookup m.resetRuleCache).2 else m.resetRuleCache

def answerAfter (p : RuleItem → InboundContext → Bool) (m : InboundContext) (before : List Rule)
    (rule : Rule) : Bool :=
  documented (fun i => p i (rt.seen env m (before ++ [rule]))) rule.body

def firstAnswer (p : RuleItem → InboundContext → Bool) (m : InboundContext) :
    List Rule → List Rule → Option (Rule × ω)
  | _, [] => none
  | before, rule :: rules =>
    match if !rule.disabled && rt.answerAfter env p m before rule then
        rt.outboundByTag rule.outbound else none with
    | some outbound => some (rule, outbound)
    | none => firstAnswer p m (before ++ [rule]) rules

def statusAfter (m : InboundContext) (rules : List Rule) : ResolveStatus :=
  if asked env m rules then (rt.lookup m.resetRuleCache).1 else initialStatus env m

variable {env sem rt} {m : InboundContext} {before : List Rule} {rule : Rule}

lemma lookup_reset (rt : Router ω) (m : InboundContext) :
    (rt.lookup m).2.resetRuleCache = (rt.lookup m).2 := by
  rw [lookup]
  split <;> rfl

lemma lookup_ignore (rt : Router ω) (m : InboundContext) :
    (rt.lookup m).2.ignoreDestinationIPCIDRMatch = m.ignoreDestinationIPCIDRMatch := by
  rw [lookup]
  split <;> rfl

lemma lookup_ne_pending (rt : Router ω) (m : InboundContext) : (rt.lookup m).1 ≠ .pending := by
  rw [lookup]
  split <;> simp

lemma seen_reset (env : RouterEnv) (rt : Router ω) (m : InboundContext) (rules : List Rule) :
    (rt.seen env m rules).resetRuleCache = rt.seen env m rules := by
  rw [seen]
  split_ifs
  · exact lookup_reset rt _
  · rfl

lemma seen_ignore (env : RouterEnv) (rt : Router ω) (m : InboundContext) (rules : List Rule) :
    (rt.seen env m rules).ignoreDestinationIPCIDRMatch = m.ignoreDestinationIPCIDRMatch := by
  rw [seen]
  split_ifs
  · exact lookup_ignore rt _
  · rfl

lemma asked_concat (env : RouterEnv) (m : InboundContext) (before : List Rule) (rule : Rule) :
    asked env m (before ++ [rule]) = (asked env m before ||
      initialStatus env m == .pending && !rule.disabled && rule.asks env) := by
  simp only [asked, List.any_append, List.any_cons, List.any_nil, Bool.or_false]
  cases initialStatus env m == .pending <;> simp

lemma asked_disabled (h : rule.disabled = true) :
    asked env m (before ++ [rule]) = asked env m before := by
  simp [asked_concat, h]

lemma resolve_eq (h : rule.disabled = false) :
    rt.resolve env rule (rt.statusAfter env m before) (rt.seen env m before) =
      (rt.statusAfter env m (before ++ [rule]), rt.seen env m (before ++ [rule])) := by
  have hc := asked_concat env m before rule
  rw [resolve, seen, seen, statusAfter, statusAfter, hc, h]
  cases ha : asked env m before with
  | true => simp [lookup_ne_pending]
  | false =>
    cases hi : initialStatus env m == .pending with
    | false => simp [hi]
    | true =>
      have hasks : (!rule.skipResolve && true && rule.containsDestinationIPCIDRRule env) =
          rule.asks env := by rw [Bool.and_true, Rule.asks]
      simp only [Bool.false_eq_true, if_false, hi, hasks, Bool.not_false, Bool.true_and,
        Bool.false_or]
      cases rule.asks env <;> simp

variable {p : RuleItem → InboundContext → Bool}

theorem tryRules_eq (hp : PureItems p sem) (hm : m.ignoreDestinationIPCIDRMatch = false)
    {rules : List Rule} (hr : ∀ rule ∈ rules, WellFormed rule.body) {m' : InboundContext}
    (hm' : m'.resetRuleCache = rt.seen env m before) :
    (tryRules env sem rt rules (rt.statusAfter env m before) m').1 =
      rt.firstAnswer env p m before rules := by
  induction rules generalizing before m' with
  | nil => rfl
  | cons rule rules ih =>
    have hrest : ∀ rule ∈ rules, WellFormed rule.body := fun r h => hr r (List.mem_cons_of_mem _ h)
    rw [tryRules, firstAnswer]
    cases hd : rule.disabled with
    | true =>
      have hsame : rt.seen env m (before ++ [rule]) = rt.seen env m before := by
        rw [seen, seen, asked_disabled hd]
      have hstatus : rt.statusAfter env m (before ++ [rule]) = rt.statusAfter env m before := by
        rw [statusAfter, statusAfter, asked_disabled hd]
      rw [if_pos rfl, ← hstatus]
      exact ih hrest (hm'.trans hsame.symm)
    | false =>
      obtain ⟨hans, hstate⟩ := hp.matchRule_eq (m := rt.seen env m (before ++ [rule]))
        (hr rule (by simp)) ((seen_ignore env rt m _).trans hm)
      rw [seen_reset] at hans hstate
      simp only [Bool.false_eq_true, if_false, hm', resolve_eq hd, hans, Bool.not_false,
        Bool.true_and]
      rw [show documented (fun i => p i (rt.seen env m (before ++ [rule]))) rule.body =
        rt.answerAfter env p m before rule from rfl]
      cases hout : if rt.answerAfter env p m before rule then rt.outboundByTag rule.outbound
          else none with
      | some outbound => rfl
      | none => exact ih hrest hstate

lemma answerAfter_congr {before' : List Rule}
    (h : asked env m (before ++ [rule]) = asked env m (before' ++ [rule])) :
    rt.answerAfter env p m before rule = rt.answerAfter env p m before' rule := by
  rw [answerAfter, answerAfter, seen, seen, h]

lemma match0_rule (hp : PureItems p sem) (hm : m.ignoreDestinationIPCIDRMatch = false)
    (hr : ∀ rule ∈ rt.rules, WellFormed rule.body) (defaultOutbound : ω) :
    (match0 env sem rt m defaultOutbound).1.1 =
      (rt.firstAnswer env p (rt.findProcess m) [] rt.rules).map Prod.fst := by
  have hf : (rt.findProcess m).ignoreDestinationIPCIDRMatch = false := by
    rw [← hm, findProcess]
    split
    · rfl
    · split <;> rfl
  have hseen : (rt.findProcess m).resetRuleCache = rt.seen env (rt.findProcess m) [] := by
    simp [seen, asked]
  have hstatus : initialStatus env (rt.findProcess m) = rt.statusAfter env (rt.findProcess m) [] := by
    simp [statusAfter, asked]
  rw [match0, hstatus, tryRules_eq hp hf hr hseen]

def Built (lib : Library) (rule : Rule) : Prop :=
  ∃ options checkOutbound,
    RuleOptions.newRule lib checkOutbound options = .ok { rule with disabled := false } ∧
      ∀ o ∈ options.leaves, o.hasCondition = true ∧ o.ruleSet = []

lemma Built.wellFormed {lib : Library} (h : Built lib rule) : WellFormed rule.body := by
  obtain ⟨options, checkOutbound, hnew, hc⟩ := h
  have hb := RuleOptions.newRule_wellFormed hnew hc
  exact hb

lemma answerAfter_stable (h : ∀ r ∈ rule.body.leaves, ∀ i ∈ r.allItems,
      p i (rt.lookup m.resetRuleCache).2 = p i m.resetRuleCache) (before : List Rule) :
    rt.answerAfter env p m before rule = documented (fun i => p i m.resetRuleCache) rule.body := by
  rw [answerAfter, seen]
  split_ifs
  · exact documented_congr h
  · rfl

theorem route_rules_documented (env : RouterEnv) (lib : Library) (rt : Router ω)
    {p : RuleItem → InboundContext → Bool}
    {sem : RuleItem → InboundContext → Bool × InboundContext} (hp : PureItems p sem)
    {m : InboundContext} (hm : m.ignoreDestinationIPCIDRMatch = false) :
    (∀ rule, Built lib rule →
      (rule.body.matchRule sem m.resetRuleCache).1 =
        documented (fun i => p i m.resetRuleCache) rule.body) ∧
    ((∀ rule ∈ rt.rules, Built lib rule) → ∀ defaultOutbound,
      (match0 env sem rt m defaultOutbound).1.1 =
        (rt.firstAnswer env p (rt.findProcess m) [] rt.rules).map Prod.fst) ∧
    ∀ rule before before',
      (initialStatus env m ≠ .pending ∨ (rule.disabled = false ∧ rule.asks env = true) ∨
          (before.any fun r => !r.disabled && r.asks env) =
            (before'.any fun r => !r.disabled && r.asks env) ∨
          ∀ r ∈ rule.body.leaves, ∀ i ∈ r.allItems,
            p i (rt.lookup m.resetRuleCache).2 = p i m.resetRuleCache) →
        rt.answerAfter env p m before rule = rt.answerAfter env p m before' rule := by
  refine ⟨fun rule hb => (hp.matchRule_eq hb.wellFormed hm).1,
    fun hr d => match0_rule hp hm (fun rule h => (hr rule h).wellFormed) d, ?_⟩
  rintro rule before before' (h | ⟨hd, ha⟩ | h | h)
  · apply answerAfter_congr
    simp [asked, beq_eq_false_iff_ne.2 h]
  · apply answerAfter_congr
    simp [asked, hd, ha]
  · apply answerAfter_congr
    simp only [asked, List.any_append, h]
  · rw [answerAfter_stable h, answerAfter_stable h]

def plainValue (i : RuleItem) (m : InboundContext) : Bool :=
  match i with
  | .plain item => item.holds .bare m
  | _ => false

lemma plainValue_pure : PureItems plainValue fun i m => (plainValue i m, m) := by
  refine ⟨fun _ _ => rfl, fun i m f => ?_⟩
  cases i with
  | plain item => exact item.holds_withFlags .bare m f
  | _ => rfl

def siteRule : Rule where
  outbound := "proxy"
  skipResolve := false
  body := .leaf
    { invert := true
      destinationAddressItems := [.ofHeadless (.domain ["a.com"].contains)]
      destinationPortItems := [.ofHeadless (.port false [80])] }

lemma siteRule_built : Built Library.bare siteRule := by
  refine ⟨.default { domain := ["a.com"], port := [80], invert := true, outbound := "proxy" }, true,
    rfl, ?_⟩
  simp [RuleOptions.leaves, DefaultRuleOptions.hasCondition]

def siteRouter : Router String where
  rules := [siteRule]
  outboundByTag tag := some tag
  lookupDefault _ _ := none
  processSearcher := none
  mustUseIP _ _ := false

theorem route_rules_documented_site :
    let m : InboundContext := { domain := "a.com", destination := { port := 443 } }
    (match0 bare (fun i m => (plainValue i m, m)) siteRouter m "direct").1.1 =
      (siteRouter.firstAnswer bare plainValue m [] [siteRule]).map Prod.fst :=
  (route_rules_documented bare Library.bare siteRouter plainValue_pure rfl).2.1
    (by simpa [siteRouter] using siteRule_built) "direct"

def onlyAddress (addr : IPAddr) : RuleItem := .ofHeadless (.ipCIDR false (· == some addr))

def addressRule (addr : IPAddr) (skipResolve : Bool) (outbound : String) : Rule where
  outbound := outbound
  skipResolve := skipResolve
  body := .leaf { destinationIPCIDRItems := [onlyAddress addr] }

def lookupRouter (rules : List Rule) : Router String where
  rules := rules
  outboundByTag tag := some tag
  lookupDefault _ _ := some [.v4 0xC0A80101#32]
  processSearcher := none
  mustUseIP _ _ := false

theorem route_rule_after_lookup :
    let m : InboundContext := { destination := { fqdn := "a.com", port := 443 } }
    let asking := addressRule (.v4 0x0A000001#32) false "first"
    let skipping := addressRule (.v4 0xC0A80101#32) true "second"
    let outboundOf (rules : List Rule) :=
      ((match0 bare (RuleItem.matchItem bare) (lookupRouter rules) m
        "direct").1.1).map Rule.outbound
    outboundOf [skipping] = none ∧ outboundOf [asking, skipping] = some "second" := by
  decide

end Router

end SingBox.Route
