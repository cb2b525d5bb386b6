import SingBox.Route.ItemEffects
import SingBox.Route.RuleSets

namespace SingBox.Route

open Lib.Search Lib.LogicTree List RuleItem DefaultRule

variable (env : Env) (m : InboundContext) (a b : String)

lemma HeadlessItem.holds_withCodes (item : HeadlessItem) :
    item.holds env (m.withCodes a b) = item.holds env m := by
  cases item <;> rfl

lemma DefaultHeadlessRule.verdict_withCodes (r : DefaultRule HeadlessItem) :
    verdict env r (m.withCodes a b) = verdict env r m := by
  simp only [verdict, HeadlessItem.holds_withCodes]
  rfl

lemma DefaultHeadlessRule.leave_withCodes (r : DefaultRule HeadlessItem) :
    leave env r (m.withCodes a b) = (leave env r m).withCodes a b := by
  simp only [leave, HeadlessItem.holds_withCodes]
  rw [show groupwise r (m.withCodes a b) = groupwise r m from rfl]
  split_ifs <;> rfl

namespace HeadlessRule

lemma answer_withCodes (r : HeadlessRule) : answer env (m.withCodes a b) r = answer env m r := by
  have hreset : (m.withCodes a b).resetRuleCache = m.resetRuleCache.withCodes a b := rfl
  cases r with
  | leaf r => exact DefaultHeadlessRule.verdict_withCodes env m a b r
  | node mode rules invert =>
    simp only [answer, hreset, DefaultHeadlessRule.verdict_withCodes]
    rfl

variable {rules : List HeadlessRule}

lemma leaveAll_withCodes {m : InboundContext}
    (h : ∀ r ∈ rules, ∀ m, leave env r (m.withCodes a b) = (leave env r m).withCodes a b) :
    leaveAll env rules (m.withCodes a b) = (leaveAll env rules m).withCodes a b := by
  induction rules generalizing m with
  | nil => rfl
  | cons r rules ih =>
    have hreset : (m.withCodes a b).resetRuleCache = m.resetRuleCache.withCodes a b := rfl
    rw [leaveAll, leaveAll, hreset, answer_withCodes, h r (by simp)]
    split_ifs
    · exact ih fun r hr => h r (mem_cons_of_mem _ hr)
    · rfl

lemma leaveAny_withCodes {m : InboundContext}
    (h : ∀ r ∈ rules, ∀ m, leave env r (m.withCodes a b) = (leave env r m).withCodes a b) :
    leaveAny env rules (m.withCodes a b) = (leaveAny env rules m).withCodes a b := by
  induction rules generalizing m with
  | nil => rfl
  | cons r rules ih =>
    have hreset : (m.withCodes a b).resetRuleCache = m.resetRuleCache.withCodes a b := rfl
    rw [leaveAny, leaveAny, hreset, answer_withCodes, h r (by simp)]
    split_ifs
    · rfl
    · exact ih fun r hr => h r (mem_cons_of_mem _ hr)

lemma leave_withCodes (r : HeadlessRule) :
    leave env r (m.withCodes a b) = (leave env r m).withCodes a b := by
  induction r using AndOrTree.induction generalizing m with
  | leaf r => exact DefaultHeadlessRule.leave_withCodes env m a b r
  | node mode rules invert ih =>
    have hb : (m.withCodes a b).dnsFallBack = m.dnsFallBack := rfl
    cases mode with
    | and =>
      rw [leave, leave, hb]
      split_ifs
      · rfl
      · apply leaveAll_withCodes
        exact fun r hr m => ih r hr m
    | or =>
      rw [leave, leave, hb]
      split_ifs
      · rfl
      · apply leaveAny_withCodes
        exact fun r hr m => ih r hr m

lemma walk_withCodes (rules : List HeadlessRule) :
    walk env rules (m.withCodes a b) = (walk env rules m).withCodes a b := by
  induction rules generalizing m with
  | nil => rfl
  | cons r rules ih =>
    change walk env rules (leave env r (m.withCodes a b)) = _
    rw [leave_withCodes, ih]
    rfl

lemma matchRule_withCodes (r : HeadlessRule) :
    matchRule env r (m.withCodes a b) = ((matchRule env r m).1, (matchRule env r m).2.withCodes a b) := by
  rw [matchRule_eq, matchRule_eq, answer_withCodes, leave_withCodes]

end HeadlessRule

lemma RuleSetItem.matchItem_withCodes (env : RouterEnv) (tagList : List String) (src emp : Bool) :
    matchItem env tagList src emp (m.withCodes a b) =
      ((matchItem env tagList src emp m).1, (matchItem env tagList src emp m).2.withCodes a b) := by
  have hset : ∀ s ∈ sets env tagList, ∀ m : InboundContext, s.matchSet env.toEnv (m.withCodes a b) =
      ((s.matchSet env.toEnv m).1, (s.matchSet env.toEnv m).2.withCodes a b) := by
    intro s _ m
    rw [RuleSet.matchSet, RuleSet.matchSet]
    apply anyS_comm (φ := fun m : InboundContext => m.withCodes a b)
    exact fun r _ m => HeadlessRule.matchRule_withCodes env.toEnv m a b r
  rw [matchItem, matchItem]
  exact anyS_comm (φ := fun m : InboundContext => m.withCodes a b) hset
    (s := { m with ipcidrMatchSource := src, ipcidrAcceptEmpty := emp })

section Establishing

namespace HeadlessRule

mutual

/-- A match of the rule leaves every group of `G` flagged, whatever was flagged before. -/
def establishes (G : Group → Bool) : HeadlessRule → Bool
  | .leaf r => !r.invert && Group.all.all fun g => !G g || r.declares false g
  | .node .and rules invert => !invert && establishesLast G rules
  | .node .or rules invert => !invert && establishesEach G rules

def establishesLast (G : Group → Bool) : List HeadlessRule → Bool
  | [] => false
  | r :: rules => if rules.isEmpty then establishes G r else establishesLast G rules

def establishesEach (G : Group → Bool) : List HeadlessRule → Bool
  | [] => true
  | r :: rules => establishes G r && establishesEach G rules

end

def isPlain : HeadlessRule → Bool
  | .leaf r => !r.invert
  | .node _ _ _ => false

structure Ordinary (m : InboundContext) : Prop where
  ignore : m.ignoreDestinationIPCIDRMatch = false
  dnsFallBack : m.dnsFallBack = false
  fakeIPFilter : m.fakeIPFilter = false

variable {env : Env} {m s t : InboundContext} {G : Group → Bool} {r : HeadlessRule}
  {rules : List HeadlessRule}

lemma Ordinary.congr (h : Ordinary m) (hreset : t.resetRuleCache = m.resetRuleCache) : Ordinary t :=
  ⟨(congrArg InboundContext.ignoreDestinationIPCIDRMatch hreset).trans h.ignore,
    (congrArg InboundContext.dnsFallBack hreset).trans h.dnsFallBack,
    (congrArg InboundContext.fakeIPFilter hreset).trans h.fakeIPFilter⟩

lemma Ordinary.leave (h : Ordinary m) (r : HeadlessRule) : Ordinary (leave env r m) :=
  h.congr (leave_reset r m)

lemma establishesEach_iff : establishesEach G rules = true ↔ ∀ r ∈ rules, establishes G r = true := by
  induction rules with
  | nil => simp [establishesEach]
  | cons r rules ih => simp [establishesEach, ih]

lemma leaf_flagged {r : DefaultRule HeadlessItem} (hm : Ordinary m)
    (hr : establishes G (.leaf r) = true) (hans : answer env m (.leaf r) = true) (g : Group)
    (hg : G g = true) : (leave env (.leaf r) m).flags.matched g = true := by
  simp only [establishes, Bool.and_eq_true, Bool.not_eq_true', all_eq_true] at hr
  have hdecl : r.declares false g = true := by simpa [hg] using hr.2 g (Group.mem_all g)
  have hne : r.allItems.isEmpty = false := by
    cases he : r.allItems.isEmpty with
    | false => rfl
    | true =>
      rw [declares_eq, Bool.not_eq_true', List.isEmpty_eq_false_iff] at hdecl
      obtain ⟨i, hi⟩ := exists_mem_of_ne_nil _ hdecl
      have hmem : i ∈ r.allItems := mem_allItems.2 (.inr ⟨g, hi⟩)
      rw [List.isEmpty_iff.1 he] at hmem
      cases hmem
  rw [answer, DefaultHeadlessRule.verdict, hne, hm.dnsFallBack, hm.fakeIPFilter] at hans
  simp only [Bool.false_eq_true, if_false, DefaultRule.verdict, hne, hr.1, hm.ignore] at hans
  have hcomp : r.completes false (fun i => i.holds env m) m.flags = true := by
    by_contra h
    simp [h] at hans
  rw [leave, DefaultHeadlessRule.leave, DefaultHeadlessRule.groupwise, hne, hm.dnsFallBack,
    hm.fakeIPFilter, hm.ignore]
  have h := (completes_iff.1 hcomp).2 g hdecl
  simpa [flagsAfter] using h

lemma leaveAll_flagged {g : Group} (hm : Ordinary m)
    (ih : ∀ r ∈ rules, ∀ m, Ordinary m → establishes G r = true → answer env m r = true →
      (leave env r m).flags.matched g = true)
    (hlast : establishesLast G rules = true)
    (hall : ∀ r ∈ rules, answer env m.resetRuleCache r = true) :
    (leaveAll env rules m).flags.matched g = true := by
  induction rules generalizing m with
  | nil => cases hlast
  | cons r rules ihr =>
    have hreset : Ordinary m.resetRuleCache := hm.congr rfl
    have hr := hall r (by simp)
    rw [leaveAll, if_pos hr]
    rw [establishesLast] at hlast
    cases rules with
    | nil => exact ih r (by simp) _ hreset hlast hr
    | cons r' rules =>
      refine ihr (hreset.leave r) (fun x hx => ih x (mem_cons_of_mem _ hx)) hlast fun x hx => ?_
      rw [leave_reset]
      exact hall x (mem_cons_of_mem _ hx)

lemma leaveAny_flagged {g : Group} (hm : Ordinary m)
    (ih : ∀ r ∈ rules, ∀ m, Ordinary m → establishes G r = true → answer env m r = true →
      (leave env r m).flags.matched g = true)
    (heach : ∀ r ∈ rules, establishes G r = true)
    (hany : ∃ r ∈ rules, answer env m.resetRuleCache r = true) :
    (leaveAny env rules m).flags.matched g = true := by
  induction rules generalizing m with
  | nil => simp at hany
  | cons r rules ihr =>
    have hreset : Ordinary m.resetRuleCache := hm.congr rfl
    rw [leaveAny]
    cases hr : answer env m.resetRuleCache r with
    | true => exact ih r (by simp) _ hreset (heach r (by simp)) hr
    | false =>
      refine ihr (hreset.leave r) (fun x hx => ih x (mem_cons_of_mem _ hx))
        (fun x hx => heach x (mem_cons_of_mem _ hx)) ?_
      obtain ⟨x, hx, hans⟩ := hany
      obtain rfl | hx := mem_cons.1 hx
      · rw [hr] at hans
        cases hans
      · refine ⟨x, hx, ?_⟩
        rw [leave_reset]
        exact hans

lemma leave_flagged {g : Group} (hg : G g = true) (r : HeadlessRule) (hm : Ordinary m)
    (hr : establishes G r = true) (hans : answer env m r = true) :
    (leave env r m).flags.matched g = true := by
  induction r using AndOrTree.induction generalizing m with
  | leaf r => exact leaf_flagged hm hr hans g hg
  | node mode rules invert ih =>
    have hsubs : (AndOrTree.holds fun r => DefaultHeadlessRule.verdict env r m.resetRuleCache) =
        answer env m.resetRuleCache := funext fun r => (answer_reset hm.dnsFallBack r).symm
    cases mode with
    | and =>
      rw [establishes, Bool.and_eq_true, Bool.not_eq_true'] at hr
      obtain ⟨rfl, hlast⟩ := hr
      rw [answer, AndOrTree.holds, AndOrTree.holdsAll_eq, hsubs, hm.dnsFallBack] at hans
      rw [leave, hm.dnsFallBack]
      exact leaveAll_flagged hm (fun r hr m hm hest hans => ih r hr hm hest hans) hlast
        (by simpa using hans)
    | or =>
      rw [establishes, Bool.and_eq_true, Bool.not_eq_true'] at hr
      obtain ⟨rfl, heach⟩ := hr
      rw [answer, AndOrTree.holds, AndOrTree.holdsAny_eq, hsubs, hm.dnsFallBack] at hans
      rw [leave, hm.dnsFallBack]
      exact leaveAny_flagged hm (fun r hr m hm hest hans => ih r hr hm hest hans)
        (establishesEach_iff.1 heach) (by simpa using hans)

/-- `s` is `t` with more groups flagged. -/
structure Above (t s : InboundContext) : Prop where
  same : t.withFlags {} = s.withFlags {}
  flags : ∀ g, t.flags.matched g = true → s.flags.matched g = true

def notInverted : HeadlessRule → Bool
  | .leaf r => !r.invert
  | .node _ _ _ => true

lemma Above.eq (h : Above t s) : t = s.withFlags t.flags :=
  congrArg (fun m => m.withFlags t.flags) h.same

lemma Above.reset (h : Above t s) : t.resetRuleCache = s.resetRuleCache := by
  rw [h.eq]
  rfl

lemma Above.refl (m : InboundContext) : Above m m := ⟨rfl, fun _ h => h⟩

lemma completes_above {r : DefaultRule HeadlessItem} {ignore : Bool} {p : HeadlessItem → Bool}
    {f f' : MatchFlags} (hf : ∀ g, f.matched g = true → f'.matched g = true)
    (h : r.completes ignore p f = true) : r.completes ignore p f' = true := by
  rw [completes_iff] at h ⊢
  exact ⟨h.1, fun g hd => (h.2 g hd).imp_left (hf g)⟩

lemma Above.answer (h : Above t s) (hr : notInverted r = true) (hans : answer env t r = true) :
    answer env s r = true := by
  have heq := h.eq
  have hflags := h.flags
  generalize t.flags = f at heq hflags
  subst heq
  cases r with
  | node mode rules invert => exact hans
  | leaf r =>
    have hinv : r.invert = false := by simpa [notInverted] using hr
    have hp : (fun i : HeadlessItem => i.holds env (s.withFlags f)) = fun i => i.holds env s :=
      funext (HeadlessItem.holds_withFlags env s f)
    simp only [HeadlessRule.answer, DefaultHeadlessRule.verdict, hp, InboundContext.withFlags_dnsFallBack,
      InboundContext.withFlags_fakeIPFilter, InboundContext.withFlags_ignore,
      InboundContext.withFlags_flags, DefaultRule.verdict, hinv] at hans ⊢
    split_ifs at hans ⊢ with h₁ h₂ h₃ h₄ h₅ <;>
      simp_all [completes_above hflags]

lemma Above.leave (h : Above t s) (r : HeadlessRule) : Above (leave env r t) (leave env r s) := by
  have hreset := h.reset
  have hdns : t.dnsFallBack = s.dnsFallBack := by
    rw [h.eq]
    rfl
  cases r with
  | node mode rules invert =>
    cases mode with
    | and =>
      rw [HeadlessRule.leave, HeadlessRule.leave, hdns]
      split_ifs
      · exact h
      · cases rules with
        | nil => exact h
        | cons r rules =>
          rw [leaveAll, leaveAll, hreset]
          exact Above.refl _
    | or =>
      rw [HeadlessRule.leave, HeadlessRule.leave, hdns]
      split_ifs
      · exact h
      · cases rules with
        | nil => exact h
        | cons r rules =>
          rw [leaveAny, leaveAny, hreset]
          exact Above.refl _
  | leaf r =>
    have heq := h.eq
    have hflags := h.flags
    generalize t.flags = f at heq hflags
    subst heq
    have hp : (fun i : HeadlessItem => i.holds env (s.withFlags f)) = fun i => i.holds env s :=
      funext (HeadlessItem.holds_withFlags env s f)
    simp only [HeadlessRule.leave, DefaultHeadlessRule.leave, hp]
    change Above (if DefaultHeadlessRule.groupwise r s then _ else _) _
    split_ifs
    · refine ⟨rfl, fun g hg => ?_⟩
      simp only [InboundContext.withFlags_flags, InboundContext.withFlags_ignore, flagsAfter,
        Bool.or_eq_true] at hg ⊢
      exact hg.imp_left (hflags g)
    · exact ⟨rfl, hflags⟩

/-- The search from the context with more flags stops at a match too, no later. -/
lemma search_established (hs : Ordinary s) (h : Above t s)
    (hr : ∀ r ∈ rules, establishes G r = true)
    (hfound : (anyS (matchRule env) rules t).1 = true) :
    ∃ m', anyS (matchRule env) rules s = (true, m') ∧
      ∀ g, G g = true → m'.flags.matched g = true := by
  induction rules generalizing s t with
  | nil => cases hfound
  | cons r rules ih =>
    have hest := hr r (by simp)
    have hinv : notInverted r = true := by
      cases r with
      | leaf r =>
        rw [establishes, Bool.and_eq_true] at hest
        exact hest.1
      | node _ _ _ => rfl
    rw [anyS_cons, matchRule_eq] at hfound ⊢
    cases hans : HeadlessRule.answer env s r with
    | true => exact ⟨_, rfl, fun g hg => leave_flagged hg r hs hest hans⟩
    | false =>
      have hno : HeadlessRule.answer env t r = false := by
        by_contra hyes
        rw [h.answer hinv (by simpa using hyes)] at hans
        cases hans
      rw [hno] at hfound
      exact ih (hs.leave r) (h.leave r) (fun x hx => hr x (mem_cons_of_mem _ hx)) hfound

/-- Rules that are not logical only add to the flags, so those at the start last until the match. -/
lemma search_carried {back : List HeadlessRule} (h : Above t s)
    (hflags : ∀ g, G g = true → s.flags.matched g = true) (hplain : ∀ r ∈ rules, isPlain r = true)
    (hback : back ≠ [] → Ordinary s) (hr : ∀ r ∈ back, establishes G r = true)
    (hfound : (anyS (matchRule env) (rules ++ back) t).1 = true) :
    ∃ m', anyS (matchRule env) (rules ++ back) s = (true, m') ∧
      ∀ g, G g = true → m'.flags.matched g = true := by
  induction rules generalizing s t with
  | nil =>
    cases back with
    | nil => cases hfound
    | cons r back => exact search_established (hback (cons_ne_nil r back)) h hr hfound
  | cons r rules ih =>
    have hstep : ∀ g, G g = true → (leave env r s).flags.matched g = true := by
      intro g hg
      cases r with
      | node mode subs invert => cases hplain (.node mode subs invert) (by simp)
      | leaf r =>
        rw [HeadlessRule.leave, DefaultHeadlessRule.leave]
        split_ifs
        · simp [flagsAfter, hflags g hg]
        · exact hflags g hg
    have hinv : notInverted r = true := by
      have hr := hplain r (by simp)
      cases r with
      | leaf r => exact hr
      | node _ _ _ => rfl
    rw [cons_append, anyS_cons, matchRule_eq] at hfound ⊢
    cases hans : HeadlessRule.answer env s r with
    | true => exact ⟨_, rfl, hstep⟩
    | false =>
      have hno : HeadlessRule.answer env t r = false := by
        by_contra hyes
        rw [h.answer hinv (by simpa using hyes)] at hans
        cases hans
      rw [hno] at hfound
      exact ih (h.leave r) hstep (fun x hx => hplain x (mem_cons_of_mem _ hx))
        (fun hb => (hback hb).leave r) hfound

end HeadlessRule

end Establishing

structure IncludingRule where
  rule : DefaultRule RuleItem
  before : List RuleItem
  tagList : List String
  ipCidrMatchSource : Bool
  ipCidrAcceptEmpty : Bool
  after : List RuleItem
  items_eq : rule.items = before ++ .ruleSet tagList ipCidrMatchSource ipCidrAcceptEmpty :: after
  wellGrouped : WellGrouped rule
  own_items : ∀ i ∈ before ++ after, i.isRuleSet = false
  not_inverted : rule.invert = false

namespace IncludingRule

def own (q : IncludingRule) : DefaultRule RuleItem := { q.rule with items := q.before ++ q.after }

def matchSets (q : IncludingRule) (env : RouterEnv) (m : InboundContext) : Bool × InboundContext :=
  RuleSetItem.matchItem env q.tagList q.ipCidrMatchSource q.ipCidrAcceptEmpty m

def setRules (q : IncludingRule) (env : RouterEnv) : List HeadlessRule :=
  (RuleSetItem.sets env q.tagList).flatMap RuleSet.rules

def start (q : IncludingRule) (m : InboundContext) : InboundContext :=
  { m.resetRuleCache with
    ipcidrMatchSource := q.ipCidrMatchSource
    ipcidrAcceptEmpty := q.ipCidrAcceptEmpty
    flags := { q.rule.ownFlags with
      didMatch := q.rule.ownFlags.didMatch || !q.before.isEmpty } }

open HeadlessRule in
def Kept (q : IncludingRule) (env : RouterEnv) (m : InboundContext) : Prop :=
  ∃ before r after, q.setRules env = before ++ r :: after ∧
    (∀ b₁ x b₂, before = b₁ ++ x :: b₂ → answer env.toEnv (walk env.toEnv b₁ (q.start m)) x = false) ∧
    answer env.toEnv (walk env.toEnv before (q.start m)) r = true ∧
    ∀ g, q.rule.declares false g = true →
      (walk env.toEnv (before ++ [r]) (q.start m)).flags.matched g = true

variable (q : IncludingRule) (env : RouterEnv) {m : InboundContext}

lemma ungrouped : Ungrouped (q.before ++ q.after) := by
  intro i hi
  refine ⟨q.wellGrouped.ungrouped i ?_, q.own_items i hi⟩
  rw [q.items_eq]
  rcases mem_append.1 hi with h | h
  · exact mem_append_left _ h
  · exact mem_append_right _ (mem_cons_of_mem _ h)

lemma before_ungrouped : Ungrouped q.before := fun i hi => q.ungrouped i (mem_append_left _ hi)

lemma after_ungrouped : Ungrouped q.after := fun i hi => q.ungrouped i (mem_append_right _ hi)

lemma checkGroups_sameRequest :
    SameRequest (q.rule.checkGroups (RuleItem.matchItem env) m.resetRuleCache) m := by
  obtain ⟨a, b, f, h⟩ := (checkGroups_touches env q.wellGrouped m.resetRuleCache).rest
  rw [h]
  simp [SameRequest]

lemma own_iff (hne : q.own.allItems.isEmpty = false) :
    (q.own.matchRule (RuleItem.matchItem env) isRuleSet m.resetRuleCache).1 = true ↔
      ((q.before ++ q.after).all fun i => (i.matchItem env m).1) = true ∧
        ∀ g, q.rule.missing (q.rule.checkGroups (RuleItem.matchItem env) m.resetRuleCache) g =
          false := by
  have hvisit := visit_ungrouped env q.ungrouped (q.checkGroups_sameRequest env (m := m))
  rw [matchRule_iff (r := q.own) q.not_inverted hne]
  change (∃ m', allS _ (q.before ++ q.after) (q.rule.checkGroups _ m.resetRuleCache) = (true, m') ∧ _) ↔ _
  rw [hvisit]
  refine ⟨?_, fun ⟨hall, hg⟩ => ⟨_, Prod.ext hall rfl, hg⟩⟩
  rintro ⟨m', h, hg⟩
  obtain ⟨hall, rfl⟩ := Prod.mk.inj h
  exact ⟨hall, hg⟩

lemma matchSets_eq (m : InboundContext) :
    q.matchSets env m = anyS (HeadlessRule.matchRule env.toEnv) (q.setRules env)
      { m with ipcidrMatchSource := q.ipCidrMatchSource, ipcidrAcceptEmpty := q.ipCidrAcceptEmpty } :=
  anyS_flatMap

lemma walk_start_reset (rules : List HeadlessRule) :
    (HeadlessRule.walk env.toEnv rules (q.start m)).resetRuleCache = m.resetRuleCache := by
  apply HeadlessRule.walk_invariant (I := fun m' => m'.resetRuleCache = m.resetRuleCache)
  · intro r m' h
    rw [HeadlessRule.leave_reset, h]
  · rfl

lemma walk_start_sameRequest (rules : List HeadlessRule) (a b : String) :
    SameRequest ((HeadlessRule.walk env.toEnv rules (q.start m)).withCodes a b) m := by
  have h := congrArg InboundContext.request (q.walk_start_reset env (m := m) rules)
  exact h

lemma search_iff (a b : String) {m' : InboundContext} :
    anyS (HeadlessRule.matchRule env.toEnv) (q.setRules env) ((q.start m).withCodes a b) = (true, m') ↔
      ∃ before r after, q.setRules env = before ++ r :: after ∧
        (∀ b₁ x b₂, before = b₁ ++ x :: b₂ →
          HeadlessRule.answer env.toEnv (HeadlessRule.walk env.toEnv b₁ (q.start m)) x = false) ∧
        HeadlessRule.answer env.toEnv (HeadlessRule.walk env.toEnv before (q.start m)) r = true ∧
        m' = (HeadlessRule.walk env.toEnv (before ++ [r]) (q.start m)).withCodes a b := by
  simp only [HeadlessRule.search_eq_true_iff, HeadlessRule.walk_withCodes,
    HeadlessRule.answer_withCodes]

lemma missing_after (hm : m.ignoreDestinationIPCIDRMatch = false) (rules : List HeadlessRule)
    (a b : String) (d : Bool) (g : Group) :
    q.rule.missing (((HeadlessRule.walk env.toEnv rules (q.start m)).withCodes a b).withFlags
      { (HeadlessRule.walk env.toEnv rules (q.start m)).flags with didMatch := d }) g = false ↔
      (q.rule.declares false g = true →
        (HeadlessRule.walk env.toEnv rules (q.start m)).flags.matched g = true) := by
  have hreset := congrArg InboundContext.ignoreDestinationIPCIDRMatch
    (q.walk_start_reset env (m := m) rules)
  have hig : ((HeadlessRule.walk env.toEnv rules (q.start m)).withCodes a
    b).ignoreDestinationIPCIDRMatch = false := hreset.trans hm
  simp only [missing, InboundContext.withFlags_ignore, hig]
  cases q.rule.declares false g <;> simp

lemma rule_iff (hm : m.ignoreDestinationIPCIDRMatch = false) (hne : q.own.allItems.isEmpty = false)
    (hown : (q.own.matchRule (RuleItem.matchItem env) isRuleSet m.resetRuleCache).1 = true) :
    (q.rule.matchRule (RuleItem.matchItem env) isRuleSet m.resetRuleCache).1 = true ↔
      q.Kept env m := by
  obtain ⟨hall, hsat⟩ := (q.own_iff env hne).1 hown
  obtain ⟨a, b, hgroups⟩ := checkGroups_flags env q.wellGrouped hm hsat
  rw [all_append, Bool.and_eq_true] at hall
  have hrule : q.rule.allItems.isEmpty = false := by
    simp [allItems, q.items_eq]
  have hbefore := visit_ungrouped env q.before_ungrouped (q.checkGroups_sameRequest env (m := m))
  rw [hall.1] at hbefore
  have hsets : visitItem (RuleItem.matchItem env) isRuleSet
      (.ruleSet q.tagList q.ipCidrMatchSource q.ipCidrAcceptEmpty)
      ((q.rule.checkGroups (RuleItem.matchItem env) m.resetRuleCache).withFlags
        { (q.rule.checkGroups (RuleItem.matchItem env) m.resetRuleCache).flags with
          didMatch := (q.rule.checkGroups (RuleItem.matchItem env) m.resetRuleCache).flags.didMatch ||
            !q.before.isEmpty }) =
      anyS (HeadlessRule.matchRule env.toEnv) (q.setRules env) ((q.start m).withCodes a b) := by
    rw [hgroups]
    exact q.matchSets_eq env _
  have hafter := fun rules => visit_ungrouped env q.after_ungrouped
    (q.walk_start_sameRequest env (m := m) rules a b)
  rw [matchRule_iff q.not_inverted hrule, q.items_eq, allS_append, hbefore]
  simp only [if_true, allS_cons, hsets]
  refine ⟨?_, ?_⟩
  · rintro ⟨m', h, hg⟩
    cases hres : anyS (HeadlessRule.matchRule env.toEnv) (q.setRules env)
        ((q.start m).withCodes a b) with
    | mk found m₃ =>
      cases found with
      | false => simp [hres] at h
      | true =>
        obtain ⟨before, r, after, hl, hno, hr, rfl⟩ := (q.search_iff env a b).1 hres
        simp only [hres, if_true, hafter] at h
        obtain ⟨_, rfl⟩ := Prod.mk.inj h
        exact ⟨before, r, after, hl, hno, hr,
          fun g => (q.missing_after env hm _ a b _ g).1 (hg g)⟩
  · rintro ⟨before, r, after, hl, hno, hr, hkept⟩
    have hres := (q.search_iff env a b).2 ⟨before, r, after, hl, hno, hr, rfl⟩
    simp only [hres, if_true, hafter, hall.2]
    exact ⟨_, rfl, fun g => (q.missing_after env hm _ a b _ g).2 (hkept g)⟩

/-- Up to some point the rules of the sets are neither logical nor inverted; from there on each of
them flags the groups of the including rule anew when it matches. -/
def Carries (m : InboundContext) : Prop :=
  ∃ front back, q.setRules env = front ++ back ∧ (∀ r ∈ front, r.isPlain = true) ∧
    (∀ r ∈ back, r.establishes (q.rule.declares false) = true) ∧
    (back ≠ [] → m.dnsFallBack = false ∧ m.fakeIPFilter = false)

def nestedEnv : RouterEnv where
  toEnv := .bare
  geosite _ := []
  ruleSet _ :=
    ⟨[.node .or [.leaf { destinationAddressItems := [.domain (· == "a.com")] }] false], false⟩

def groupedEnv : RouterEnv where
  toEnv := .bare
  geosite _ := []
  ruleSet _ :=
    ⟨[.leaf { destinationAddressItems := [.domain (· == "b.com")] },
      .node .or [.leaf
        { destinationAddressItems := [.domain (· == "a.com")]
          destinationPortItems := [.port false [80, 443]] }] false], false⟩

def portAndSet : IncludingRule where
  rule :=
    { items := [.ruleSet ["sites"] false false]
      destinationPortItems := [.ofHeadless (.port false [443])] }
  before := []
  tagList := ["sites"]
  ipCidrMatchSource := false
  ipCidrAcceptEmpty := false
  after := []
  items_eq := rfl
  wellGrouped := by
    refine ⟨by simp [group], fun g => ?_⟩
    cases g <;> simp [groupItems]
  own_items := by simp
  not_inverted := rfl

def siteRequest : InboundContext := { domain := "a.com", destination := { port := 443 } }

end IncludingRule

end SingBox.Route
