import SingBox.Route.HeadlessRules

namespace SingBox.Route

open Lib.Search Lib.LogicTree InboundContext

namespace DefaultRule

variable {ι : Type*} {r : DefaultRule ι} {ignore : Bool} {p : ι → Bool} {f : MatchFlags}

def borrows (r : DefaultRule ι) (ignore : Bool) (p : ι → Bool) (f : MatchFlags) : Bool :=
  r.completes ignore p f && !r.completes ignore p {}

lemma verdict_flags (hf : f.Coherent) (hne : r.allItems.isEmpty = false) :
    r.verdict ignore p f =
      (r.verdict ignore p {} && !(r.invert && (r.borrows ignore p f || r.idle ignore && f.didMatch)) ||
        !r.invert && r.borrows ignore p f) := by
  have hm : r.completes ignore p {} = true → r.completes ignore p f = true := completes_mono
  have hi : r.idle ignore = true → r.completes ignore p {} = true := idle_completes
  rw [verdict, verdict, hne, flagsAfter_didMatch hf, flagsAfter_didMatch MatchFlags.coherent_empty,
    borrows]
  cases hc : r.completes ignore p f <;> cases hc₀ : r.completes ignore p {} <;>
    cases hv : r.invert <;> cases hd : f.didMatch <;> cases hl : r.idle ignore <;> simp_all

end DefaultRule

namespace HeadlessRule

variable {env : Env} {m : InboundContext} {r : HeadlessRule} {rules : List HeadlessRule}

def gains (env : Env) (m : InboundContext) : HeadlessRule → Bool
  | .leaf r =>
    DefaultHeadlessRule.groupwise r m && !r.invert &&
      r.borrows m.ignoreDestinationIPCIDRMatch (fun i => i.holds env m) m.flags
  | .node _ _ _ => false

def loses (env : Env) (m : InboundContext) : HeadlessRule → Bool
  | .leaf r =>
    DefaultHeadlessRule.groupwise r m && r.invert &&
      (r.borrows m.ignoreDestinationIPCIDRMatch (fun i => i.holds env m) m.flags ||
        r.idle m.ignoreDestinationIPCIDRMatch && m.flags.didMatch)
  | .node _ _ _ => false

lemma answer_flags (hm : m.flags.Coherent) (r : HeadlessRule) :
    answer env m r = (answer env (m.withFlags {}) r && !loses env m r || gains env m r) := by
  cases r with
  | node mode rules invert => simp [answer, loses, gains]
  | leaf r =>
    have hp : (fun i : HeadlessItem => i.holds env (m.withFlags {})) = fun i => i.holds env m :=
      funext (HeadlessItem.holds_withFlags env m {})
    simp only [answer, loses, gains, DefaultHeadlessRule.verdict, DefaultHeadlessRule.groupwise, hp,
      withFlags_dnsFallBack, withFlags_fakeIPFilter,
      withFlags_ignore, withFlags_flags]
    cases he : r.allItems.isEmpty with
    | true => simp
    | false =>
      cases m.dnsFallBack with
      | true => simp
      | false =>
        cases m.fakeIPFilter with
        | true => simp
        | false => simpa using DefaultRule.verdict_flags hm he

lemma leave_coherent (hm : m.flags.Coherent) (r : HeadlessRule) :
    (leave env r m).flags.Coherent := by
  apply leave_invariant (I := fun m => m.flags.Coherent)
  · exact fun _ _ => MatchFlags.coherent_empty
  · intro r m hm
    rw [DefaultHeadlessRule.leave]
    split_ifs
    · exact DefaultRule.flagsAfter_coherent hm
    · exact hm
  · exact hm

def walk (env : Env) (rules : List HeadlessRule) (m : InboundContext) : InboundContext :=
  rules.foldl (fun m r => leave env r m) m

lemma through_eq_walk (env : Env) (rules : List HeadlessRule) (m : InboundContext) :
    through (matchRule env) rules m = walk env rules m := by
  induction rules generalizing m with
  | nil => rfl
  | cons r rules ih =>
    rw [through, matchRule_eq, ih]
    rfl

lemma walk_invariant {I : InboundContext → Prop} (h : ∀ r m, I m → I (leave env r m)) (hm : I m) :
    I (walk env rules m) := by
  induction rules generalizing m with
  | nil => exact hm
  | cons r rules ih => exact ih (h r m hm)

lemma walk_unflagged (env : Env) (rules : List HeadlessRule) (m : InboundContext) :
    (walk env rules m.resetRuleCache).withFlags {} = m.resetRuleCache := by
  apply walk_invariant (I := fun m' => m'.withFlags {} = m.resetRuleCache)
  · intro r m' hm'
    apply leave_invariant (I := fun m' => m'.withFlags {} = m.resetRuleCache)
    · intro m'' h
      have hr := congrArg resetRuleCache h
      exact hr
    · intro r m'' h
      rw [DefaultHeadlessRule.leave]
      split_ifs
      · exact h
      · exact h
    · exact hm'
  · rfl

lemma walk_coherent (env : Env) (rules : List HeadlessRule) (m : InboundContext) :
    (walk env rules m.resetRuleCache).flags.Coherent := by
  apply walk_invariant (I := fun m => m.flags.Coherent)
  · exact fun r m hm => leave_coherent hm r
  · exact MatchFlags.coherent_empty

lemma walk_concat (env : Env) (rules : List HeadlessRule) (r : HeadlessRule) (m : InboundContext) :
    walk env (rules ++ [r]) m = leave env r (walk env rules m) := by
  simp [walk]

lemma search_eq_true_iff {m' : InboundContext} :
    anyS (matchRule env) rules m = (true, m') ↔
      ∃ before r after, rules = before ++ r :: after ∧
        (∀ b₁ x b₂, before = b₁ ++ x :: b₂ → answer env (walk env b₁ m) x = false) ∧
        answer env (walk env before m) r = true ∧ m' = walk env (before ++ [r]) m := by
  rw [anyS_eq_true_iff]
  refine exists_congr fun before => exists_congr fun r => exists_congr fun after =>
    and_congr_right fun _ => and_congr ?_ ?_
  · rw [← Bool.not_eq_true, anyS_iff_split]
    simp only [through_eq_walk, matchRule_eq, not_exists, not_and, Bool.not_eq_true]
  · rw [through_eq_walk, matchRule_eq, walk_concat, Prod.mk.injEq]
    exact and_congr_right fun _ => eq_comm

end HeadlessRule

namespace RuleSet

open HeadlessRule

def AtTurn (env : Env) (rules : List HeadlessRule) (m : InboundContext)
    (P : InboundContext → HeadlessRule → Prop) : Prop :=
  ∃ before r after, rules = before ++ r :: after ∧ P (walk env before m) r

def Independent (env : Env) (rules : List HeadlessRule) (m : InboundContext) : Prop :=
  (AtTurn env rules m (fun m' r => gains env m' r = true) → ∃ r ∈ rules, answer env m r = true) ∧
    ((∃ r ∈ rules, answer env m r = true) →
      AtTurn env rules m fun m' r =>
        gains env m' r = true ∨ (answer env m r = true ∧ loses env m' r = false))

lemma matchSet_iff (env : Env) (s : RuleSet) (m : InboundContext) :
    (s.matchSet env m.resetRuleCache).1 = true ↔
      AtTurn env s.rules m.resetRuleCache fun m' r =>
        gains env m' r = true ∨ (answer env m.resetRuleCache r = true ∧ loses env m' r = false) := by
  rw [matchSet, anyS_iff_split]
  refine exists_congr fun before => exists_congr fun r => exists_congr fun after =>
    and_congr_right fun _ => ?_
  rw [through_eq_walk, matchRule_eq, answer_flags (walk_coherent env before m), walk_unflagged]
  simp [or_comm]

theorem matchSet_disjunction_iff (env : Env) (s : RuleSet) (m : InboundContext) :
    ((s.matchSet env m.resetRuleCache).1 = true ↔
        ∃ r ∈ s.rules, (HeadlessRule.matchRule env r m.resetRuleCache).1 = true) ↔
      Independent env s.rules m.resetRuleCache := by
  simp only [matchSet_iff, matchRule_eq, Independent]
  refine ⟨fun h => ⟨fun hg => h.1 ?_, h.2⟩, fun h => ⟨fun ht => ?_, h.2⟩⟩
  · obtain ⟨before, r, after, hl, hr⟩ := hg
    exact ⟨before, r, after, hl, .inl hr⟩
  · obtain ⟨before, r, after, hl, hr | hr⟩ := ht
    · exact h.1 ⟨before, r, after, hl, hr⟩
    · exact ⟨r, by simp [hl], hr.1⟩

def siteOnPort (site : String) (port : UInt16) : HeadlessRule :=
  .leaf
    { destinationAddressItems := [.domain (· == site)]
      destinationPortItems := [.port false [port]] }

theorem matchSet_crosses_rules :
    let s : RuleSet := ⟨[siteOnPort "a.com" 80, siteOnPort "b.com" 443], false⟩
    let m : InboundContext := { domain := "a.com", destination := { port := 443 } }
    (s.matchSet .bare m.resetRuleCache).1 = true ∧
      ∀ r ∈ s.rules, (HeadlessRule.matchRule .bare r m.resetRuleCache).1 = false := by
  simp only [List.mem_cons, List.not_mem_nil, or_false, forall_eq_or_imp, forall_eq]
  decide

end RuleSet

end SingBox.Route
