import SingBox.Route.RuleBuilder

namespace SingBox.Route

open Lib.Search Lib.LogicTree List

variable (sem : RuleItem → InboundContext → Bool × InboundContext)

def RuleBody.matchRule (body : RuleBody) (m : InboundContext) : Bool × InboundContext :=
  AndOrTree.eval (fun r m => r.matchRule sem RuleItem.isRuleSet m) InboundContext.resetRuleCache
    (fun _ => false) body m

def documentedDefault (p : RuleItem → Bool) (r : DefaultRule RuleItem) : Bool :=
  ((Group.all.all fun g =>
      let alternatives := r.allItems.filter fun i => i.group == some g
      alternatives.isEmpty || alternatives.any p) &&
    (r.allItems.filter fun i => i.group == none).all p) != r.invert

def documented (p : RuleItem → Bool) (body : RuleBody) : Bool := body.holds (documentedDefault p)

lemma documented_congr {p q : RuleItem → Bool} {body : RuleBody}
    (h : ∀ r ∈ body.leaves, ∀ i ∈ r.allItems, p i = q i) : documented p body = documented q body := by
  apply AndOrTree.holds_congr
  intro r hr
  have hall : ∀ i ∈ r.allItems, p i = q i := h r hr
  have hany : ∀ g : Option Group, ∀ i ∈ r.allItems.filter (fun i => i.group == g), p i = q i :=
    fun g i hi => hall i (mem_filter.1 hi).1
  rw [documentedDefault, documentedDefault]
  simp only [all_congr_mem (hany none), fun g => any_congr_mem (hany (some g))]

namespace DefaultRule

variable {r : DefaultRule RuleItem} {p : RuleItem → Bool}

lemma mem_groupItems_iff (hr : WellGrouped r) (g : Group) (i : RuleItem) :
    i ∈ r.groupItems false g ↔ i ∈ r.allItems ∧ i.group = some g := by
  refine ⟨fun hi => ⟨mem_allItems.2 (.inr ⟨g, hi⟩), hr.grouped g i hi⟩, fun ⟨hi, hg⟩ => ?_⟩
  rcases mem_allItems.1 hi with h | ⟨g', h⟩
  · simp [hr.ungrouped i h] at hg
  · have hg' := hr.grouped g' i h
    rw [hg] at hg'
    cases hg'
    exact h

lemma mem_items_iff (hr : WellGrouped r) (i : RuleItem) :
    i ∈ r.items ↔ i ∈ r.allItems ∧ i.group = none := by
  refine ⟨fun hi => ⟨mem_allItems.2 (.inl hi), hr.ungrouped i hi⟩, fun ⟨hi, hg⟩ => ?_⟩
  rcases mem_allItems.1 hi with h | ⟨g, h⟩
  · exact h
  · simp [hr.grouped g i h] at hg

lemma mem_alternatives (hr : WellGrouped r) (g : Group) (i : RuleItem) :
    (i ∈ r.allItems.filter fun i => i.group == some g) ↔ i ∈ r.groupItems false g := by
  rw [mem_filter, beq_iff_eq, mem_groupItems_iff hr]

lemma alternatives_isEmpty (hr : WellGrouped r) (g : Group) :
    (r.allItems.filter fun i => i.group == some g).isEmpty = !r.declares false g := by
  rw [declares_eq, Bool.not_not, Bool.eq_iff_iff, List.isEmpty_iff, List.isEmpty_iff,
    eq_nil_iff_forall_not_mem, eq_nil_iff_forall_not_mem]
  exact forall_congr' fun i => not_congr (mem_alternatives hr g i)

lemma alternatives_any (hr : WellGrouped r) (g : Group) :
    (r.allItems.filter fun i => i.group == some g).any p = r.satisfies false p g := by
  rw [satisfies, Bool.eq_iff_iff, any_eq_true, any_eq_true]
  exact exists_congr fun i => and_congr_left fun _ => mem_alternatives hr g i

lemma documentedDefault_eq (hr : WellGrouped r) :
    documentedDefault p r = (r.completes false p {} != r.invert) := by
  rw [documentedDefault]
  congr 1
  rw [Bool.eq_iff_iff, completes_iff, Bool.and_eq_true, and_comm]
  refine and_congr ?_ ?_
  · simp only [all_eq_true, mem_filter, beq_iff_eq, mem_items_iff hr]
  · rw [all_eq_true]
    refine ⟨fun h g hd => ?_, fun h g _ => ?_⟩
    · have hg := h g (Group.mem_all g)
      simp only [alternatives_isEmpty hr, alternatives_any hr, hd] at hg
      exact .inr hg
    · simp only [alternatives_isEmpty hr, alternatives_any hr]
      cases hd : r.declares false g with
      | false => rfl
      | true => simpa using h g hd

end DefaultRule

def PureItems (p : RuleItem → InboundContext → Bool)
    (sem : RuleItem → InboundContext → Bool × InboundContext) : Prop :=
  (∀ i m, sem i m = (p i m, m)) ∧ ∀ i m f, p i (m.withFlags f) = p i m

def WellFormed (body : RuleBody) : Prop :=
  ∀ r ∈ body.leaves, WellGrouped r ∧ r.allItems.isEmpty = false ∧ ∀ i ∈ r.items, i.isRuleSet = false

lemma RuleOptions.newRule_wellFormed {lib : Library} {options : RuleOptions} {checkOutbound : Bool}
    {rule : Rule} (h : newRule lib checkOutbound options = .ok rule)
    (hc : ∀ o ∈ options.leaves, o.hasCondition = true ∧ o.ruleSet = []) : WellFormed rule.body := by
  intro r hr
  obtain ⟨o, ho, hbuilt⟩ := newRule_leaves options h r hr
  exact ⟨newDefaultRule_wellGrouped hbuilt, newDefaultRule_isEmpty hbuilt (hc o ho).1,
    newDefaultRule_ruleSets hbuilt (hc o ho).2⟩

variable {p : RuleItem → InboundContext → Bool}
  {sem : RuleItem → InboundContext → Bool × InboundContext} {m : InboundContext}
  {body : RuleBody}

lemma PureItems.leaf (hp : PureItems p sem) {r : DefaultRule RuleItem}
    (hr : WellGrouped r ∧ r.allItems.isEmpty = false ∧ ∀ i ∈ r.items, i.isRuleSet = false)
    (hm : m.ignoreDestinationIPCIDRMatch = false) :
    ∃ f, r.matchRule sem RuleItem.isRuleSet m.resetRuleCache =
      (documentedDefault (fun i => p i m.resetRuleCache) r, m.resetRuleCache.withFlags f) := by
  have hpure : DefaultRule.PureOn sem (fun i => p i m.resetRuleCache) m.resetRuleCache r.allItems := by
    intro i _ f
    rw [hp.1, hp.2]
  have hmatch := DefaultRule.matchRule_pure (f := {}) hpure hr.2.2 hr.2.1
  rw [InboundContext.resetRuleCache_ignore, hm, DefaultRule.verdict_alone hr.2.1,
    ← DefaultRule.documentedDefault_eq hr.1] at hmatch
  exact ⟨_, hmatch⟩

theorem PureItems.matchRule_eq (hp : PureItems p sem) (hb : WellFormed body)
    (hm : m.ignoreDestinationIPCIDRMatch = false) :
    (body.matchRule sem m.resetRuleCache).1 = documented (fun i => p i m.resetRuleCache) body ∧
      (body.matchRule sem m.resetRuleCache).2.resetRuleCache = m.resetRuleCache := by
  apply AndOrTree.eval_eq_holds (I := fun m' => m'.resetRuleCache = m.resetRuleCache)
    (J := fun m' => m' = m.resetRuleCache)
  · exact fun _ h => h
  · rintro _ rfl
    rfl
  · exact fun _ _ => rfl
  · rintro r hr _ rfl
    obtain ⟨f, hf⟩ := hp.leaf (hb r hr) hm
    rw [hf]
    exact ⟨rfl, rfl⟩
  · rfl

end SingBox.Route
