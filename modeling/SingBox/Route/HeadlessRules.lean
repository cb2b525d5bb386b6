import SingBox.Lib.LogicTree
import SingBox.Route.DefaultRules

namespace SingBox.Route

open Lib.Search Lib.LogicTree AndOrTree

structure Env where
  isDomainName : String → Bool
  isIPv6 : IPAddr → Bool
  isPublicAddr : IPAddr → Bool
  toLower : String → String
  equalFold : String → String → Bool
  containsText : String → String → Bool
  baseName : String → String
  wifiSSID : String
  wifiBSSID : String
  geoIPReader : Option (IPAddr → String)
  clashMode : Option String

def Env.bare : Env where
  isDomainName name := name != ""
  isIPv6 addr := match addr with
    | .v4 _ => false
    | .v6 _ _ => true
  isPublicAddr _ := true
  toLower name := name
  equalFold a b := a == b
  containsText text part := text.toList.tails.any fun rest => part.toList.isPrefixOf rest
  baseName path := path
  wifiSSID := ""
  wifiBSSID := ""
  geoIPReader := none
  clashMode := none

structure PortRange where
  start : UInt16
  stop : UInt16
  deriving DecidableEq, Repr

/-- Domain matchers, expressions and address sets stand for the sets they accept. -/
inductive HeadlessItem where
  | network (networks : List String)
  | domain (matcher : String → Bool)
  | domainKeyword (keywords : List String)
  | domainRegex (matchers : List (String → Bool))
  | ipCIDR (isSource : Bool) (ipSet : Option IPAddr → Bool)
  | port (isSource : Bool) (ports : List UInt16)
  | portRange (isSource : Bool) (portRangeList : List PortRange)
  | processName (processes : List String)
  | processPath (processes : List String)
  | packageName (packageNames : List String)
  | wifiSSID (ssidList : List String)
  | wifiBSSID (bssidList : List String)
  | adGuardDomain (matcher : String → Bool)

def domainHost (env : Env) (m : InboundContext) : String :=
  if env.isDomainName m.destination.fqdn then m.destination.fqdn
  else if m.sniffHost != "" then m.sniffHost
  else m.domain

def adGuardDomainHost (m : InboundContext) : String :=
  if m.domain != "" then m.domain else m.destination.fqdn

def matchHost (env : Env) (host : String) (matcher : String → Bool) : Bool :=
  host != "" && matcher (env.toLower host)

def ipCIDRHolds (isSource : Bool) (ipSet : Option IPAddr → Bool) (m : InboundContext) : Bool :=
  if isSource || m.ipcidrMatchSource then ipSet m.source.addr
  else if m.destination.isIP then ipSet m.destination.addr
  else if !m.destinationAddresses.isEmpty then m.destinationAddresses.any fun a => ipSet (some a)
  else m.ipcidrAcceptEmpty

namespace HeadlessItem

def holds (env : Env) (m : InboundContext) : HeadlessItem → Bool
  | network networks => networks.contains m.network
  | domain matcher => matchHost env (domainHost env m) matcher
  | domainKeyword keywords =>
    matchHost env (domainHost env m) fun host => keywords.any (env.containsText host)
  | domainRegex matchers =>
    matchHost env (domainHost env m) fun host => matchers.any fun matcher => matcher host
  | ipCIDR isSource ipSet => ipCIDRHolds isSource ipSet m
  | port isSource ports => ports.contains (if isSource then m.source.port else m.destination.port)
  | portRange isSource portRangeList =>
    let port := if isSource then m.source.port else m.destination.port
    portRangeList.any fun range => range.start ≤ port && port ≤ range.stop
  | processName processes =>
    m.processInfo.any fun info =>
      info.processPath != "" && processes.contains (env.baseName info.processPath)
  | processPath processes =>
    m.processInfo.any fun info => info.processPath != "" && processes.contains info.processPath
  | packageName packageNames =>
    m.processInfo.any fun info => info.packageName != "" && packageNames.contains info.packageName
  | wifiSSID ssidList => ssidList.contains env.wifiSSID
  | wifiBSSID bssidList => bssidList.contains env.wifiBSSID
  | adGuardDomain matcher => matchHost env (adGuardDomainHost m) matcher

def matchItem (env : Env) (item : HeadlessItem) (m : InboundContext) : Bool × InboundContext :=
  (item.holds env m, m)

lemma holds_withFlags (env : Env) (m : InboundContext) (f : MatchFlags) (item : HeadlessItem) :
    item.holds env (m.withFlags f) = item.holds env m := by
  cases item <;> rfl

lemma pureOn (env : Env) (m : InboundContext) (items : List HeadlessItem) :
    DefaultRule.PureOn (matchItem env) (fun i => i.holds env m) m items := by
  intro i _ f
  rw [matchItem, holds_withFlags]

end HeadlessItem

namespace DefaultHeadlessRule

open HeadlessItem

def matchRule (env : Env) (r : DefaultRule HeadlessItem) (m : InboundContext) :
    Bool × InboundContext :=
  if r.allItems.isEmpty then (true, m)
  else if m.dnsFallBack then anyS (matchItem env) r.destinationIPCIDRItems m
  else if m.fakeIPFilter then anyS (matchItem env) r.destinationAddressItems m
  else r.matchRule (matchItem env) (fun _ => false) m

def groupwise (r : DefaultRule HeadlessItem) (m : InboundContext) : Bool :=
  !r.allItems.isEmpty && !m.dnsFallBack && !m.fakeIPFilter

def verdict (env : Env) (r : DefaultRule HeadlessItem) (m : InboundContext) : Bool :=
  if r.allItems.isEmpty then true
  else if m.dnsFallBack then r.destinationIPCIDRItems.any fun i => i.holds env m
  else if m.fakeIPFilter then r.destinationAddressItems.any fun i => i.holds env m
  else r.verdict m.ignoreDestinationIPCIDRMatch (fun i => i.holds env m) m.flags

def leave (env : Env) (r : DefaultRule HeadlessItem) (m : InboundContext) : InboundContext :=
  if groupwise r m then
    m.withFlags (r.flagsAfter m.ignoreDestinationIPCIDRMatch (fun i => i.holds env m) m.flags)
  else m

variable (env : Env) (r : DefaultRule HeadlessItem) (m : InboundContext)

lemma matchRule_eq : matchRule env r m = (verdict env r m, leave env r m) := by
  have hany : ∀ items, anyS (matchItem env) items m = (items.any fun i => i.holds env m, m) :=
    fun items => anyS_pure fun _ _ => rfl
  rw [matchRule, verdict, leave, groupwise]
  cases he : r.allItems.isEmpty with
  | true => rfl
  | false =>
    cases hb : m.dnsFallBack with
    | true => exact hany _
    | false =>
      cases hk : m.fakeIPFilter with
      | true => exact hany _
      | false =>
        exact DefaultRule.matchRule_pure (f := m.flags) (pureOn env m r.allItems) (by simp) he

lemma leave_reset : (leave env r m).resetRuleCache = m.resetRuleCache := by
  rw [leave]
  split_ifs <;> rfl

end DefaultHeadlessRule

abbrev HeadlessRule := AndOrTree (DefaultRule HeadlessItem)

namespace HeadlessRule

/-- `LogicalHeadlessRule.Match` answers `false` during a DNS fallback; every sub-rule starts from
a reset cache. -/
def matchRule (env : Env) : HeadlessRule → InboundContext → Bool × InboundContext :=
  eval (DefaultHeadlessRule.matchRule env) InboundContext.resetRuleCache
    InboundContext.dnsFallBack

lemma matchRule_and (env : Env) (rules : List HeadlessRule) (invert : Bool) (m : InboundContext) :
    matchRule env (.node .and rules invert) m =
      if m.dnsFallBack then (false, m)
      else ((allS (fun r m => matchRule env r m.resetRuleCache) rules m).1 != invert,
        (allS (fun r m => matchRule env r m.resetRuleCache) rules m).2) := by
  rw [matchRule, eval, AndOrTree.evalAll_eq]

lemma matchRule_or (env : Env) (rules : List HeadlessRule) (invert : Bool) (m : InboundContext) :
    matchRule env (.node .or rules invert) m =
      if m.dnsFallBack then (false, m)
      else ((anyS (fun r m => matchRule env r m.resetRuleCache) rules m).1 != invert,
        (anyS (fun r m => matchRule env r m.resetRuleCache) rules m).2) := by
  rw [matchRule, eval, AndOrTree.evalAny_eq]

def answer (env : Env) (m : InboundContext) : HeadlessRule → Bool
  | .leaf r => DefaultHeadlessRule.verdict env r m
  | .node mode rules invert =>
    !m.dnsFallBack &&
      (AndOrTree.node mode rules invert).holds fun r =>
        DefaultHeadlessRule.verdict env r m.resetRuleCache

mutual

def leave (env : Env) : HeadlessRule → InboundContext → InboundContext
  | .leaf r, m => DefaultHeadlessRule.leave env r m
  | .node .and rules _, m => if m.dnsFallBack then m else leaveAll env rules m
  | .node .or rules _, m => if m.dnsFallBack then m else leaveAny env rules m

def leaveAll (env : Env) : List HeadlessRule → InboundContext → InboundContext
  | [], m => m
  | r :: rules, m =>
    if answer env m.resetRuleCache r then leaveAll env rules (leave env r m.resetRuleCache)
    else leave env r m.resetRuleCache

def leaveAny (env : Env) : List HeadlessRule → InboundContext → InboundContext
  | [], m => m
  | r :: rules, m =>
    if answer env m.resetRuleCache r then leave env r m.resetRuleCache
    else leaveAny env rules (leave env r m.resetRuleCache)

end

variable {env : Env} {m : InboundContext} {rules : List HeadlessRule}

section Invariant

variable {I : InboundContext → Prop} (hreset : ∀ m, I m → I m.resetRuleCache)

include hreset

lemma leaveAll_invariant (h : ∀ r ∈ rules, ∀ m, I m → I (leave env r m)) (hm : I m) :
    I (leaveAll env rules m) := by
  induction rules generalizing m with
  | nil => exact hm
  | cons r rules ih =>
    have hr := h r (by simp) _ (hreset m hm)
    rw [leaveAll]
    split_ifs
    · apply ih (fun r hr => h r (List.mem_cons_of_mem _ hr)) hr
    · exact hr

lemma leaveAny_invariant (h : ∀ r ∈ rules, ∀ m, I m → I (leave env r m)) (hm : I m) :
    I (leaveAny env rules m) := by
  induction rules generalizing m with
  | nil => exact hm
  | cons r rules ih =>
    have hr := h r (by simp) _ (hreset m hm)
    rw [leaveAny]
    split_ifs
    · exact hr
    · apply ih (fun r hr => h r (List.mem_cons_of_mem _ hr)) hr

lemma leave_invariant (hleaf : ∀ r m, I m → I (DefaultHeadlessRule.leave env r m))
    (r : HeadlessRule) (hm : I m) : I (leave env r m) := by
  induction r using AndOrTree.induction generalizing m with
  | leaf r => exact hleaf r m hm
  | node mode rules invert ih =>
    cases mode with
    | and =>
      rw [leave]
      split_ifs
      · exact hm
      · apply leaveAll_invariant hreset (fun r hr m hm => ih r hr hm) hm
    | or =>
      rw [leave]
      split_ifs
      · exact hm
      · apply leaveAny_invariant hreset (fun r hr m hm => ih r hr hm) hm

end Invariant

lemma leave_reset (r : HeadlessRule) (m : InboundContext) :
    (leave env r m).resetRuleCache = m.resetRuleCache := by
  apply leave_invariant (I := fun m' => m'.resetRuleCache = m.resetRuleCache)
  · exact fun m' hm' => hm'
  · intro r m' hm'
    rw [DefaultHeadlessRule.leave_reset, hm']
  · rfl

lemma answer_reset (hb : m.dnsFallBack = false) (r : HeadlessRule) :
    answer env m.resetRuleCache r =
      r.holds fun r => DefaultHeadlessRule.verdict env r m.resetRuleCache := by
  cases r with
  | leaf r => rw [answer, AndOrTree.holds]
  | node mode rules invert => simp [answer, hb]

lemma evalAll_eq
    (h : ∀ r ∈ rules, ∀ m, matchRule env r m = (answer env m r, leave env r m)) :
    allS (fun r m => matchRule env r m.resetRuleCache) rules m =
      (rules.all (answer env m.resetRuleCache), leaveAll env rules m) := by
  induction rules generalizing m with
  | nil => rfl
  | cons r rules ih =>
    rw [allS_cons, h r (by simp), leaveAll, List.all_cons]
    cases answer env m.resetRuleCache r with
    | true =>
      rw [if_pos rfl, if_pos rfl, ih fun r hr => h r (List.mem_cons_of_mem _ hr), leave_reset]
      rfl
    | false => rfl

lemma evalAny_eq
    (h : ∀ r ∈ rules, ∀ m, matchRule env r m = (answer env m r, leave env r m)) :
    anyS (fun r m => matchRule env r m.resetRuleCache) rules m =
      (rules.any (answer env m.resetRuleCache), leaveAny env rules m) := by
  induction rules generalizing m with
  | nil => rfl
  | cons r rules ih =>
    rw [anyS_cons, h r (by simp), leaveAny, List.any_cons]
    cases answer env m.resetRuleCache r with
    | true => rfl
    | false =>
      rw [if_neg Bool.false_ne_true, if_neg Bool.false_ne_true,
        ih fun r hr => h r (List.mem_cons_of_mem _ hr), leave_reset]
      rfl

theorem matchRule_eq (r : HeadlessRule) (m : InboundContext) :
    matchRule env r m = (answer env m r, leave env r m) := by
  induction r using AndOrTree.induction generalizing m with
  | leaf r =>
    rw [matchRule, eval, answer, leave]
    exact DefaultHeadlessRule.matchRule_eq env r m
  | node mode rules invert ih =>
    cases hb : m.dnsFallBack with
    | true => cases mode <;> simp [matchRule_and, matchRule_or, answer, leave, hb]
    | false =>
      have hans : answer env m.resetRuleCache = AndOrTree.holds fun r =>
          DefaultHeadlessRule.verdict env r m.resetRuleCache := funext (answer_reset hb)
      cases mode with
      | and =>
        have hall := evalAll_eq (m := m) ih
        rw [hans] at hall
        rw [matchRule_and, hall, answer, leave, AndOrTree.holds, holdsAll_eq, hb]
        rfl
      | or =>
        have hany := evalAny_eq (m := m) ih
        rw [hans] at hany
        rw [matchRule_or, hany, answer, leave, AndOrTree.holds, holdsAny_eq, hb]
        rfl

end HeadlessRule

structure RuleSet where
  rules : List HeadlessRule
  containsIPCIDRRule : Bool

def RuleSet.matchSet (env : Env) (s : RuleSet) (m : InboundContext) : Bool × InboundContext :=
  anyS (HeadlessRule.matchRule env) s.rules m

end SingBox.Route
