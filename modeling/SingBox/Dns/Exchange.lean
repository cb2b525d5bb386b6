import SingBox.Dns.AddressFilter
import SingBox.Lib.Loops

namespace SingBox.Dns

open DNSRuleBody List

open Options (DomainStrategy)
open Route Lib.Search Lib.LogicTree Lib.Loops

namespace FallbackRule

variable (env : RouterEnv) (rule : FallbackRule)

def matchRule (m : InboundContext) : Bool × InboundContext :=
  if rule.matchAll then (true, m)
  else
    let items := allS (RuleItem.matchItem env) rule.items m
    if !items.1 then (rule.invert, items.2)
    else
      let addresses := anyS (RuleItem.matchItem env) rule.destinationAddressItems items.2
      (xor addresses.1 rule.invert, addresses.2)

end FallbackRule

def QueryOptions.add (ctx : QueryOptions) (isFakeIP : Bool) (o : QueryOptions) : QueryOptions where
  disableCache := ctx.disableCache || isFakeIP || o.disableCache
  rewriteTTL := o.rewriteTTL.or (if isFakeIP then some 1 else ctx.rewriteTTL)
  clientSubnet := o.clientSubnet.or ctx.clientSubnet

def Router.strategyOf (rt : Router) (transport : Transport) : DomainStrategy :=
  transport.domainStrategy.getD rt.defaultDomainStrategy

inductive Asker where
  | rule (index : ℕ)
  | noRule
  | fallback (index : ℕ)
  deriving DecidableEq, Repr

structure Query where
  asker : Asker
  transport : Transport
  strategy : DomainStrategy
  context : QueryOptions
  checked : Bool
  isCacheUpdate : Bool

structure ExchangeOutcome (μ ε : Type) where
  checked : List μ := []
  result : Except ε (Option μ)

structure LookupOutcome (ε : Type) where
  checked : List (List IPAddr) := []
  addresses : List IPAddr
  err : Option ε

/-- The DNS client with its messages `μ` and errors `ε`; its answer to a query, the last of the list,
may depend on all the queries of the request. -/
structure Client (μ ε : Type) where
  isFqdn : String → Bool
  rcode : μ → ℕ
  messageToAddresses : μ → Option (List IPAddr)
  responseRejected : ε → Bool
  rCodeNameError : ε
  exchange : List Query → ExchangeOutcome μ ε
  lookup : List Query → LookupOutcome ε

structure Question where
  name : String
  qtype : UInt16

def typeA : UInt16 := 1
def typeAAAA : UInt16 := 28
def typeHTTPS : UInt16 := 65

def isAddressQuery (message : List Question) : Bool :=
  message.any fun question =>
    question.qtype == typeA || question.qtype == typeAAAA || question.qtype == typeHTTPS

structure Walk where
  ruleIndex : Option ℕ
  metadata : InboundContext
  strategy : DomainStrategy
  queries : List Query

variable {μ ε : Type} (env : RouterEnv) (rt : Router) (client : Client μ ε) (ctx : QueryOptions)
  (isCacheUpdate : Bool)

def fallbackFrom (domain : String) (allowFakeIP : Bool) :
    List FallbackRule → InboundContext → Option (FallbackRule × Option Transport)
  | [], _ => none
  | rule :: rules, m =>
    let result := rule.matchRule env m.resetRuleCache
    if !result.1 then fallbackFrom domain allowFakeIP rules result.2
    else if rule.acceptResult then none
    else if rule.server == "" then some (rule, none)
    else match rt.transportMap rule.server with
      | none => fallbackFrom domain allowFakeIP rules result.2
      | some transport =>
        if transport.refused allowFakeIP { domain } then fallbackFrom domain allowFakeIP rules result.2
        else some (rule, some transport)

def matchFallbackRules (domain : String) (addrs : List IPAddr) (rules : List FallbackRule)
    (allowFakeIP : Bool) : Option (FallbackRule × Option Transport) :=
  fallbackFrom env rt domain allowFakeIP rules { destinationAddresses := addrs, dnsFallBack := true }

def defaultQuery (strategy : DomainStrategy) : Query :=
  ⟨.noRule, rt.defaultTransport, strategy, ctx, false, isCacheUpdate⟩

def ruleQuery (sel : Selected) (strategy : DomainStrategy) : Query where
  asker := .rule sel.ruleIndex
  transport := sel.transport
  strategy
  context := ctx.add sel.transport.isFakeIP sel.rule.toQueryOptions
  checked := withAddressLimit env sel.rule.body
  isCacheUpdate

def fallbackQuery (sel : Selected) (rule : FallbackRule) (transport : Transport) : Query where
  asker := .fallback sel.ruleIndex
  transport
  strategy := rt.strategyOf transport
  context := ctx.add transport.isFakeIP rule.toQueryOptions
  checked := false
  isCacheUpdate

def afterChecks (sel : Selected) (responses : List (Option (List IPAddr))) (m : InboundContext) :
    InboundContext :=
  if withAddressLimit env sel.rule.body then
    responses.foldl (fun m response => (checkResponse env sel.rule.body response m).2) m
  else m

def exchangeTurn (addressQuery : Bool) (w : Walk) : Turn Walk (Except ε (Option μ × Bool)) :=
  match matchDNS env rt true addressQuery w.ruleIndex w.metadata with
  | (none, m) =>
    let strategy := rt.strategyOf rt.defaultTransport
    let queries := w.queries ++ [defaultQuery rt ctx isCacheUpdate strategy]
    .leave ⟨none, m, strategy, queries⟩ ((client.exchange queries).result.map (·, false))
  | (some sel, m) =>
    let strategy := rt.strategyOf sel.transport
    let queries := w.queries ++ [ruleQuery env ctx isCacheUpdate sel strategy]
    let outcome := client.exchange queries
    let m := afterChecks env sel (outcome.checked.map client.messageToAddresses) m
    let w' : Walk := ⟨some sel.ruleIndex, m, strategy, queries⟩
    if !addressQuery || sel.transport.isFakeIP || sel.transport.isRCode then
      .leave w' (outcome.result.map (·, sel.transport.isFakeIP))
    else match outcome.result with
      | .error err =>
        if withAddressLimit env sel.rule.body && client.responseRejected err then .again w'
        else .leave w' (.error err)
      | .ok none => .leave w' (.ok (none, false))
      | .ok (some response) =>
        let addrs := (client.messageToAddresses response).getD []
        if client.rcode response != 0 || addrs.isEmpty then
          if sel.rule.allowFallthrough then .again w' else .leave w' (.ok (some response, false))
        else match matchFallbackRules env rt m.domain addrs sel.rule.fallbackRules true with
          | none => .leave w' (.ok (some response, false))
          | some (_, none) => .again w'
          | some (rule, some transport) =>
            let query := fallbackQuery rt ctx isCacheUpdate sel rule transport
            let queries := queries ++ [query]
            .leave ⟨some sel.ruleIndex, m, query.strategy, queries⟩
              ((client.exchange queries).result.map (·, transport.isFakeIP))

def reported (outcome : LookupOutcome ε) : List IPAddr × Option ε :=
  (outcome.addresses, outcome.err.or
    (if outcome.addresses.isEmpty then some client.rCodeNameError else none))

def lookupTurn (w : Walk) : Turn Walk (List IPAddr × Option ε) :=
  match matchDNS env rt false true w.ruleIndex w.metadata with
  | (none, m) =>
    let strategy := if w.strategy = .asIS then rt.strategyOf rt.defaultTransport else w.strategy
    let queries := w.queries ++ [defaultQuery rt ctx isCacheUpdate strategy]
    .leave ⟨none, m, strategy, queries⟩ (reported client (client.lookup queries))
  | (some sel, m) =>
    let strategy := if w.strategy = .asIS then rt.strategyOf sel.transport else w.strategy
    let queries := w.queries ++ [ruleQuery env ctx isCacheUpdate sel strategy]
    let outcome := client.lookup queries
    let m := afterChecks env sel (outcome.checked.map some) m
    let w' : Walk := ⟨some sel.ruleIndex, m, strategy, queries⟩
    if sel.transport.isRCode then .leave w' (reported client outcome)
    else if withAddressLimit env sel.rule.body && outcome.err.any client.responseRejected then
      .again w'
    else if outcome.err.isNone && outcome.addresses.isEmpty && sel.rule.allowFallthrough then .again w'
    else if (reported client outcome).2.isSome then .leave w' (reported client outcome)
    else match matchFallbackRules env rt m.domain outcome.addresses sel.rule.fallbackRules false with
      | none => .leave ⟨some sel.ruleIndex, m, .asIS, queries⟩ (reported client outcome)
      -- a fallback rule without server resets the strategy to the one of the next server
      | some (_, none) => .again ⟨some sel.ruleIndex, m, .asIS, queries⟩
      | some (rule, some transport) =>
        let query := fallbackQuery rt ctx isCacheUpdate sel rule transport
        let queries := queries ++ [query]
        .leave ⟨some sel.ruleIndex, m, query.strategy, queries⟩ (reported client (client.lookup queries))

def fqdnToDomain (fqdn : String) : String :=
  if client.isFqdn fqdn then String.ofList fqdn.toList.dropLast else fqdn

def exchangeMetadata (m : InboundContext) : List Question → InboundContext
  | [] => { m with destination := {} }
  | question :: _ =>
    { m with
      destination := {}
      queryType := question.qtype
      ipVersion := if question.qtype = typeA then 4 else if question.qtype = typeAAAA then 6 else m.ipVersion
      domain := fqdnToDomain client question.name }

def exchangeFunc (fuel : ℕ) (m : InboundContext) (message : List Question) :
    Option (Walk × Except ε (Option μ × Bool)) :=
  loop (exchangeTurn env rt client ctx isCacheUpdate (isAddressQuery message)) fuel
    ⟨none, exchangeMetadata client m message, .asIS, []⟩

def lookupFunc (fuel : ℕ) (m : InboundContext) (domain : String) (strategy : DomainStrategy) :
    Option (Walk × (List IPAddr × Option ε)) :=
  loop (lookupTurn env rt client ctx isCacheUpdate) fuel
    ⟨none, { m with destination := {}, domain }, strategy, []⟩

def Query.ruleIndex (q : Query) : Option ℕ := match q.asker with
  | .rule index => some index
  | _ => none

def Query.Addressed (rt : Router) (q : Query) : Prop := match q.asker with
  | .rule index => ∃ rule, rt.dnsRules[index]? = some rule ∧
      rt.transportMap rule.server = some q.transport
  | .noRule => q.transport = rt.defaultTransport
  | .fallback index => ∃ rule fb, rt.dnsRules[index]? = some rule ∧ fb ∈ rule.fallbackRules ∧
      rt.transportMap fb.server = some q.transport

structure InOrder (rt : Router) (queries : List Query) : Prop where
  nonempty : queries ≠ []
  addressed : ∀ q ∈ queries, q.Addressed rt
  increasing : (queries.filterMap Query.ruleIndex).Pairwise (· < ·)
  final : ∀ q ∈ queries.dropLast, ∃ index, q.asker = .rule index

structure Ongoing (rt : Router) (index : Option ℕ) (queries : List Query) : Prop where
  addressed : ∀ q ∈ queries, q.Addressed rt
  increasing : (queries.filterMap Query.ruleIndex).Pairwise (· < ·)
  before : ∀ i ∈ queries.filterMap Query.ruleIndex, i < firstAfter index
  ruled : ∀ q ∈ queries, ∃ i, q.asker = .rule i

variable {rt} {index : Option ℕ} {queries : List Query}

lemma Ongoing.start : Ongoing rt none [] :=
  ⟨by simp, .nil, by simp, by simp⟩

variable {q : Query}

lemma Ongoing.rule (h : Ongoing rt index queries) {i : ℕ} (hi : firstAfter index ≤ i)
    (hq : q.asker = .rule i) (ha : q.Addressed rt) : Ongoing rt (some i) (queries ++ [q]) := by
  have hmap : (queries ++ [q]).filterMap Query.ruleIndex =
      queries.filterMap Query.ruleIndex ++ [i] := by
    rw [filterMap_append, filterMap_cons_some (by rw [Query.ruleIndex, hq]),
      filterMap_nil]
  have hlt : ∀ j ∈ queries.filterMap Query.ruleIndex, j < i :=
    fun j hj => Nat.lt_of_lt_of_le (h.before j hj) hi
  constructor
  · simpa [or_imp, forall_and] using ⟨h.addressed, ha⟩
  · rw [hmap, pairwise_append]
    exact ⟨h.increasing, pairwise_singleton _ _, by simpa using hlt⟩
  · rw [hmap]
    intro j hj
    rcases mem_append.1 hj with hj | hj
    · exact Nat.lt_succ_of_lt (hlt j hj)
    · rw [mem_singleton.1 hj]
      exact Nat.lt_succ_self i
  · intro q' hq'
    rcases mem_append.1 hq' with hq' | hq'
    · exact h.ruled q' hq'
    · rw [mem_singleton.1 hq']
      exact ⟨i, hq⟩

lemma Ongoing.inOrder (h : Ongoing rt index queries) (hne : queries ≠ []) : InOrder rt queries :=
  ⟨hne, h.addressed, h.increasing, fun q hq => h.ruled q (dropLast_subset queries hq)⟩

lemma Ongoing.final (h : Ongoing rt index queries) (hq : q.ruleIndex = none) (ha : q.Addressed rt) :
    InOrder rt (queries ++ [q]) := by
  constructor
  · simp
  · simpa [or_imp, forall_and] using ⟨h.addressed, ha⟩
  · rw [filterMap_append, filterMap_cons_none hq, filterMap_nil, append_nil]
    exact h.increasing
  · rw [dropLast_concat]
    exact h.ruled

inductive Move {ρ : Type} (rt : Router) (Answers : List Query → ρ → Prop) (w : Walk) :
    Turn Walk ρ → Prop
  | next {i : ℕ} {q : Query} {w' : Walk} (hi : firstAfter w.ruleIndex ≤ i) (hq : q.asker = .rule i)
      (ha : q.Addressed rt) (hindex : w'.ruleIndex = some i) (hqueries : w'.queries = w.queries ++ [q]) :
      Move rt Answers w (.again w')
  | ruled {i : ℕ} {q : Query} {w' : Walk} {r : ρ} (hi : firstAfter w.ruleIndex ≤ i)
      (hq : q.asker = .rule i) (ha : q.Addressed rt) (hqueries : w'.queries = w.queries ++ [q])
      (hr : Answers w'.queries r) : Move rt Answers w (.leave w' r)
  | unruled {q : Query} {w' : Walk} {r : ρ} (hq : q.asker = .noRule) (ha : q.Addressed rt)
      (hqueries : w'.queries = w.queries ++ [q]) (hr : Answers w'.queries r) :
      Move rt Answers w (.leave w' r)
  | fellBack {i : ℕ} {q q' : Query} {w' : Walk} {r : ρ} (hi : firstAfter w.ruleIndex ≤ i)
      (hq : q.asker = .rule i) (ha : q.Addressed rt) (hq' : q'.asker = .fallback i)
      (ha' : q'.Addressed rt) (hqueries : w'.queries = w.queries ++ [q] ++ [q'])
      (hr : Answers w'.queries r) : Move rt Answers w (.leave w' r)

variable {ρ : Type} {Answers : List Query → ρ → Prop}

lemma Query.Addressed.lt {i : ℕ} (h : q.Addressed rt) (hq : q.asker = .rule i) :
    i < rt.dnsRules.length := by
  rw [Query.Addressed, hq] at h
  obtain ⟨rule, hrule, -⟩ := h
  exact (List.getElem?_eq_some_iff.1 hrule).1

variable {w : Walk}

lemma Move.leave_inOrder {w' : Walk} {r : ρ} (h : Move rt Answers w (.leave w' r))
    (hw : Ongoing rt w.ruleIndex w.queries) : InOrder rt w'.queries ∧ Answers w'.queries r := by
  cases h with
  | ruled hi hq ha hqueries hr =>
    refine ⟨?_, hr⟩
    rw [hqueries]
    exact (hw.rule hi hq ha).inOrder (by simp)
  | unruled hq ha hqueries hr =>
    refine ⟨?_, hr⟩
    rw [hqueries]
    exact hw.final (by rw [Query.ruleIndex, hq]) ha
  | fellBack hi hq ha hq' ha' hqueries hr =>
    refine ⟨?_, hr⟩
    rw [hqueries]
    exact (hw.rule hi hq ha).final (by rw [Query.ruleIndex, hq']) ha'

lemma loop_inOrder {turn : Walk → Turn Walk ρ} (h : ∀ w, Move rt Answers w (turn w))
    (hw : Ongoing rt w.ruleIndex w.queries) {fuel : ℕ} (hfuel : rt.dnsRules.length < fuel) :
    ∃ w' r, loop turn fuel w = some (w', r) ∧ InOrder rt w'.queries ∧ Answers w'.queries r := by
  have hstep : ∀ w w', Ongoing rt w.ruleIndex w.queries → turn w = .again w' →
      Ongoing rt w'.ruleIndex w'.queries ∧
        rt.dnsRules.length - firstAfter w'.ruleIndex < rt.dnsRules.length - firstAfter w.ruleIndex := by
    intro w w' hw hturn
    have hmove := h w
    rw [hturn] at hmove
    cases hmove with
    | next hi hq ha hindex hqueries =>
      have hlt := ha.lt hq
      rw [hindex, hqueries, firstAfter]
      exact ⟨hw.rule hi hq ha, by omega⟩
  obtain ⟨w₁, w₂, r, hw₁, hturn, hloop⟩ := loop_of_rank hstep hw
    (Nat.lt_of_le_of_lt (Nat.sub_le _ _) hfuel)
  exact ⟨w₂, r, hloop, (hturn ▸ h w₁).leave_inOrder hw₁⟩

variable (rt) {domain : String} {allowFakeIP : Bool} {m : InboundContext}
  {rule : FallbackRule} {transport : Transport}

variable {env rt} in
lemma fallbackFrom_server {rules : List FallbackRule}
    (h : fallbackFrom env rt domain allowFakeIP rules m = some (rule, some transport)) :
    rule ∈ rules ∧ rt.transportMap rule.server = some transport := by
  induction rules generalizing m with
  | nil => cases h
  | cons rule' rules ih =>
    have hrest : ∀ {m}, fallbackFrom env rt domain allowFakeIP rules m = some (rule, some transport) →
        rule ∈ rule' :: rules ∧ rt.transportMap rule.server = some transport :=
      fun hm => ⟨mem_cons_of_mem _ (ih hm).1, (ih hm).2⟩
    rw [fallbackFrom] at h
    split_ifs at h
    · exact hrest h
    · cases h
    · split at h
      · exact hrest h
      · rename_i hserver
        split_ifs at h
        · exact hrest h
        · cases h
          exact ⟨mem_cons_self, hserver⟩

variable {sel : Selected}

variable {env rt} in
lemma ruleQuery_addressed {addressQuery : Bool} {index : Option ℕ} {m' : InboundContext}
    (h : matchDNS env rt allowFakeIP addressQuery index m = (some sel, m')) (strategy : DomainStrategy) : (ruleQuery env ctx isCacheUpdate sel strategy).Addressed rt :=
  ⟨sel.rule, (matchDNS_index h).2, matchDNS_server h⟩

variable {rt} in
lemma fallbackQuery_addressed (hsel : rt.dnsRules[sel.ruleIndex]? = some sel.rule) {addrs : List IPAddr}
    (h : matchFallbackRules env rt domain addrs sel.rule.fallbackRules allowFakeIP =
      some (rule, some transport)) :
    (fallbackQuery rt ctx isCacheUpdate sel rule transport).Addressed rt :=
  ⟨sel.rule, rule, hsel, fallbackFrom_server h⟩

lemma exchangeTurn_move (addressQuery : Bool) (w : Walk) :
    Move rt (fun queries r => r.map Prod.fst = (client.exchange queries).result) w
      (exchangeTurn env rt client ctx isCacheUpdate addressQuery w) := by
  have hfst : ∀ (r : Except ε (Option μ)) (b : Bool), (r.map (·, b)).map Prod.fst = r := by
    rintro (e | r) b <;> rfl
  rw [exchangeTurn]
  split
  next m hm => exact .unruled (q := defaultQuery rt ctx isCacheUpdate _) rfl rfl rfl (hfst _ _)
  next sel m hm =>
    have hi := (matchDNS_index hm).1
    have ha := ruleQuery_addressed ctx isCacheUpdate hm (rt.strategyOf sel.transport)
    dsimp only
    split
    next => exact .ruled hi rfl ha rfl (hfst _ _)
    next =>
    split
    next err herr =>
      split
      next => exact .next hi rfl ha rfl rfl
      next => exact .ruled hi rfl ha rfl herr.symm
    next hnone => exact .ruled hi rfl ha rfl hnone.symm
    next response hresponse =>
      split
      next =>
        split
        next => exact .next hi rfl ha rfl rfl
        next => exact .ruled hi rfl ha rfl hresponse.symm
      next =>
        split
        next => exact .ruled hi rfl ha rfl hresponse.symm
        next => exact .next hi rfl ha rfl rfl
        next rule transport hfb =>
          exact .fellBack hi rfl ha rfl
            (fallbackQuery_addressed env ctx isCacheUpdate (matchDNS_index hm).2 hfb) rfl (hfst _ _)

lemma lookupTurn_move (w : Walk) :
    Move rt (fun queries r => r = reported client (client.lookup queries)) w
      (lookupTurn env rt client ctx isCacheUpdate w) := by
  rw [lookupTurn]
  split
  next m hm => exact .unruled (q := defaultQuery rt ctx isCacheUpdate _) rfl rfl rfl rfl
  next sel m hm =>
    have hi := (matchDNS_index hm).1
    dsimp only
    generalize (if w.strategy = .asIS then rt.strategyOf sel.transport else w.strategy) = strategy
    have ha := ruleQuery_addressed ctx isCacheUpdate hm strategy
    split_ifs
    · exact .ruled hi rfl ha rfl rfl
    · exact .next hi rfl ha rfl rfl
    · exact .next hi rfl ha rfl rfl
    · exact .ruled hi rfl ha rfl rfl
    · split
      next => exact .ruled hi rfl ha rfl rfl
      next => exact .next hi rfl ha rfl rfl
      next rule transport hfb =>
        exact .fellBack hi rfl ha rfl
          (fallbackQuery_addressed env ctx isCacheUpdate (matchDNS_index hm).2 hfb) rfl rfl

theorem dns_walk_in_order (m : InboundContext) :
    (∀ message, ∃ w r,
      exchangeFunc env rt client ctx isCacheUpdate (rt.dnsRules.length + 1) m message = some (w, r) ∧
        InOrder rt w.queries ∧ r.map Prod.fst = (client.exchange w.queries).result) ∧
    (∀ domain strategy, ∃ w r,
      lookupFunc env rt client ctx isCacheUpdate (rt.dnsRules.length + 1) m domain strategy = some (w, r) ∧
        InOrder rt w.queries ∧ r = reported client (client.lookup w.queries)) := by
  constructor
  · intro message
    exact loop_inOrder (exchangeTurn_move env rt client ctx isCacheUpdate (isAddressQuery message))
      .start (Nat.lt_succ_self _)
  · intro domain strategy
    exact loop_inOrder (lookupTurn_move env rt client ctx isCacheUpdate) .start (Nat.lt_succ_self _)

def emptyClient : Client Unit String where
  isFqdn _ := false
  rcode _ := 0
  messageToAddresses _ := none
  responseRejected err := err == "response rejected"
  rCodeNameError := "NXDOMAIN"
  exchange _ := { result := .ok none }
  lookup queries :=
    if queries.length = 1 then { addresses := [], err := some "response rejected" }
    else { addresses := [], err := none }

def twiceRouter : Router where
  dnsRules := [{ body := .leaf (loopbackBody []), server := "local" },
    { body := .leaf (loopbackBody []), server := "local" }]
  transportMap server := some { isFakeIP := false, excludes := none, name := server }

theorem dns_walk_same_server_twice :
    let request := lookupFunc .bare twiceRouter emptyClient {} false 3 {} "a.com" .asIS
    request.map (fun r => r.1.queries.map (·.transport.name)) = some ["local", "local"] ∧
      request.map (fun r => r.2) = some ([], some "NXDOMAIN") ∧
      request.map (fun r => (emptyClient.lookup r.1.queries).err) = some none := by
  decide

end SingBox.Dns
