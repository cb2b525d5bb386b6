import SingBox.Dns.Exchange

namespace SingBox.Dns

open List Option

open Options (DomainStrategy)
open Route Lib.Search Lib.LogicTree Lib.Loops

variable (env : RouterEnv) (rt : Router)

def Router.chosen (strategy : DomainStrategy) (transport : Transport) : DomainStrategy :=
  if strategy = .asIS then rt.strategyOf transport else strategy

def Router.usableServer (server : String) : Option Transport :=
  (rt.transportMap server).filter fun transport => !transport.isFakeIP

def Router.From (first : ℕ) (transport : Transport) : Prop :=
  transport = rt.defaultTransport ∨
    ∃ (j : ℕ) (rule : DNSRule), first ≤ j ∧ rt.dnsRules[j]? = some rule ∧
      rt.usableServer rule.server = some transport

structure Router.Continues (index : ℕ) (rule : DNSRule) (transport : Transport) : Prop where
  listed : rt.dnsRules[index]? = some rule
  server : rt.usableServer rule.server = some transport
  code : transport.isRCode = false

/-- The next rule is asked if the response is rejected, or if it is empty and may fall through. -/
def PassedOn (rule : DNSRule) : Prop :=
  DNSRuleBody.withAddressLimit env rule.body = true ∨ rule.allowFallthrough = true

structure Router.Uniform (strategy : DomainStrategy) : Prop where
  next : ∀ {index rule transport}, rt.Continues index rule transport → PassedOn env rule →
    ∀ later, rt.From (index + 1) later →
      rt.chosen (rt.chosen strategy transport) later = rt.chosen strategy later
  reset : ∀ {index rule transport}, rt.Continues index rule transport →
    ∀ fb ∈ rule.fallbackRules, fb.acceptResult = false → fb.server = "" →
      ∀ later, rt.From (index + 1) later → rt.strategyOf later = rt.chosen strategy later
  fallback : ∀ {index rule transport}, rt.Continues index rule transport →
    ∀ fb ∈ rule.fallbackRules, fb.acceptResult = false → fb.server ≠ "" →
      ∀ server, rt.usableServer fb.server = some server →
        rt.strategyOf server = rt.chosen strategy server

def StrategyRespected (strategy : DomainStrategy) : Prop :=
  ∀ {μ ε : Type} (client : Client μ ε) (ctx : QueryOptions) (isCacheUpdate : Bool) (fuel : ℕ)
    (m : InboundContext) (domain : String) (w : Walk) (r : List IPAddr × Option ε),
    lookupFunc env rt client ctx isCacheUpdate fuel m domain strategy = some (w, r) →
      ∀ q ∈ w.queries, q.strategy = rt.chosen strategy q.transport

variable {env : RouterEnv} {rt : Router}

variable {μ ε : Type} {client : Client μ ε} {ctx : QueryOptions} {isCacheUpdate : Bool}
  {strategy : DomainStrategy}

lemma refused_lookup (transport : Transport) (m : InboundContext) :
    transport.refused false m = transport.isFakeIP := by
  rw [Transport.refused, Bool.not_false, Bool.true_or, Bool.and_true]

variable {m : InboundContext}

lemma selectFrom_usable {rules : List DNSRule} {i : ℕ} {m' : InboundContext} {sel : Selected}
    (h : selectFrom env rt false true i rules m = (some sel, m')) :
    rt.usableServer sel.rule.server = some sel.transport := by
  induction rules generalizing i m with
  | nil => cases h
  | cons rule rules ih =>
    rw [selectFrom, Bool.not_true, Bool.and_false, if_neg Bool.false_ne_true] at h
    dsimp only at h
    split at h
    · rename_i transport hused
      cases h
      split_ifs at hused
      rw [usable] at hused
      split at hused
      · cases hused
      · rename_i hserver
        split_ifs at hused with hrefused
        cases hused
        rw [refused_lookup] at hrefused
        rw [Router.usableServer, hserver, filter_some, if_pos (by simpa using hrefused)]
    · exact ih h

lemma fallbackFrom_result {domain : String} {rules : List FallbackRule} {rule : FallbackRule}
    {server : Option Transport} (h : fallbackFrom env rt domain false rules m = some (rule, server)) :
    rule ∈ rules ∧ rule.acceptResult = false ∧
      (server = none ∧ rule.server = "" ∨
        rule.server ≠ "" ∧ server = rt.usableServer rule.server ∧ server ≠ none) := by
  induction rules generalizing m with
  | nil => cases h
  | cons rule' rules ih =>
    have hrest : ∀ {m}, fallbackFrom env rt domain false rules m = some (rule, server) →
        rule ∈ rule' :: rules ∧ rule.acceptResult = false ∧
          (server = none ∧ rule.server = "" ∨
            rule.server ≠ "" ∧ server = rt.usableServer rule.server ∧ server ≠ none) :=
      fun hm => ⟨mem_cons_of_mem _ (ih hm).1, (ih hm).2⟩
    rw [fallbackFrom] at h
    split_ifs at h with _ hresult hempty
    · exact hrest h
    · cases h
      exact ⟨mem_cons_self, by simpa using hresult, .inl ⟨rfl, by simpa using hempty⟩⟩
    · split at h
      · exact hrest h
      · rename_i transport hserver
        split_ifs at h with hrefused
        · exact hrest h
        · cases h
          refine ⟨mem_cons_self, by simpa using hresult, .inr ⟨by simpa using hempty, ?_, by simp⟩⟩
          rw [refused_lookup] at hrefused
          rw [Router.usableServer, hserver, filter_some, if_pos (by simpa using hrefused)]

variable (rt strategy) in
structure Suits (w : Walk) : Prop where
  asked : ∀ q ∈ w.queries, q.strategy = rt.chosen strategy q.transport
  ahead : ∀ transport, rt.From (firstAfter w.ruleIndex) transport →
    rt.chosen w.strategy transport = rt.chosen strategy transport

variable {w : Walk}

lemma Suits.append (h : Suits rt strategy w) {q : Query}
    (hq : q.strategy = rt.chosen strategy q.transport) :
    ∀ q' ∈ w.queries ++ [q], q'.strategy = rt.chosen strategy q'.transport := by
  simpa [or_imp, forall_and] using ⟨h.asked, hq⟩

variable (rt strategy) in
inductive Fits {ρ : Type} : Turn Walk ρ → Prop
  | again {w : Walk} : Suits rt strategy w → Fits (.again w)
  | leave {w : Walk} {r : ρ} : (∀ q ∈ w.queries, q.strategy = rt.chosen strategy q.transport) →
      Fits (.leave w r)

lemma lookupTurn_fits (hu : rt.Uniform env strategy) (hw : Suits rt strategy w) :
    Fits rt strategy (lookupTurn env rt client ctx isCacheUpdate w) := by
  rw [lookupTurn]
  split
  next m hm => exact .leave (hw.append (hw.ahead _ (.inl rfl)))
  next sel m hm =>
    obtain ⟨hindex, hrule⟩ := matchDNS_index hm
    have hserver := selectFrom_usable hm
    have hchosen := hw.ahead sel.transport (.inr ⟨sel.ruleIndex, sel.rule, hindex, hrule, hserver⟩)
    rw [Router.chosen] at hchosen
    dsimp only
    generalize (if w.strategy = .asIS then rt.strategyOf sel.transport else w.strategy) = carried at *
    have hq := hw.append (q := ruleQuery env ctx isCacheUpdate sel carried) hchosen
    split
    next => exact .leave hq
    next hcode =>
      have hc : rt.Continues sel.ruleIndex sel.rule sel.transport :=
        ⟨hrule, hserver, by simpa using hcode⟩
      have hnext : PassedOn env sel.rule → ∀ m', Suits rt strategy ⟨some sel.ruleIndex, m', carried,
          w.queries ++ [ruleQuery env ctx isCacheUpdate sel carried]⟩ := by
        intro hpassed m'
        refine ⟨hq, fun later hlater => ?_⟩
        rw [hchosen]
        exact hu.next hc hpassed later hlater
      split_ifs with hrejected hempty
      · exact .again (hnext (.inl (by simp_all)) _)
      · exact .again (hnext (.inr (by simp_all)) _)
      · exact .leave hq
      · split
        next => exact .leave hq
        next fb hfb =>
          obtain ⟨hmem, hresult, hreset⟩ := fallbackFrom_result hfb
          have hempty : fb.server = "" := by simpa using hreset
          exact .again ⟨hq, fun later hlater => hu.reset hc fb hmem hresult hempty later hlater⟩
        next fb transport hfb =>
          obtain ⟨hmem, hresult, hserver⟩ := fallbackFrom_result hfb
          obtain ⟨hne, hused, -⟩ := hserver.resolve_left (by simp)
          have hlast := hu.fallback hc fb hmem hresult hne transport hused.symm
          refine .leave ?_
          simpa [or_imp, forall_and] using ⟨hw.asked, hchosen, hlast⟩

def limitedRule : DefaultRule RuleItem where
  items := [.plain (.headless (.network ["tcp"]))]
  destinationIPCIDRItems := [.plain (.ipIsPrivate false)]

/-- One rule with an address filter and a fallback to a second server. -/
def oneRule (own : String → DomainStrategy) : Router where
  dnsRules := [{ body := .leaf limitedRule, server := "local"
                 fallbackRules := [{ matchAll := true, server := "backup" }] }]
  transportMap server :=
    some { isFakeIP := false, excludes := none, name := server, domainStrategy := some (own server) }
  defaultTransport :=
    { isFakeIP := false, excludes := none, name := "remote", domainStrategy := some (own "remote") }

def onceAnswered (first : LookupOutcome Bool) : Client Unit Bool where
  isFqdn _ := false
  rcode _ := 0
  messageToAddresses _ := none
  responseRejected rejected := rejected
  rCodeNameError := false
  exchange _ := { result := .ok none }
  lookup queries := if queries.length = 1 then first else { addresses := [], err := some false }

/-- The servers asked, with the strategies they are asked with. -/
def asked (own : String → DomainStrategy) (first : LookupOutcome Bool) (strategy : DomainStrategy) :
    Option (List (String × DomainStrategy)) :=
  (lookupFunc .bare (oneRule own) (onceAnswered first) {} false 2 { network := "tcp" } "a.com" strategy).map
    fun run => run.1.queries.map fun q => (q.transport.name, q.strategy)

def mixedOwn (server : String) : DomainStrategy := if server = "local" then .useIPv4 else .useIPv6

end SingBox.Dns
