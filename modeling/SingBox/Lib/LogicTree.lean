import SingBox.Lib.Search

/-! Trees of conjunctions and disjunctions whose leaves read and write a shared state. -/

namespace SingBox.Lib.LogicTree

open Search List

inductive Mode where
  | and
  | or
  deriving DecidableEq, Repr

inductive AndOrTree (α : Type*) where
  | leaf (a : α)
  | node (mode : Mode) (subs : List (AndOrTree α)) (invert : Bool)

namespace AndOrTree

variable {α σ : Type*}

@[elab_as_elim, induction_eliminator]
theorem induction {P : AndOrTree α → Prop} (leaf : ∀ a, P (.leaf a))
    (node : ∀ mode subs invert, (∀ t ∈ subs, P t) → P (.node mode subs invert)) :
    ∀ t, P t
  | .leaf a => leaf a
  | .node mode subs invert => node mode subs invert fun t ht =>
    have := sizeOf_lt_of_mem ht
    induction leaf node t
decreasing_by
  rw [AndOrTree.node.sizeOf_spec]
  omega

variable (leaf : α → σ → Bool × σ) (enter : σ → σ) (closed : σ → Bool)

mutual

def eval : AndOrTree α → σ → Bool × σ
  | .leaf a, s => leaf a s
  | .node .and subs invert, s =>
    if closed s then (false, s) else ((evalAll subs s).1 != invert, (evalAll subs s).2)
  | .node .or subs invert, s =>
    if closed s then (false, s) else ((evalAny subs s).1 != invert, (evalAny subs s).2)

def evalAll : List (AndOrTree α) → σ → Bool × σ
  | [], s => (true, s)
  | t :: ts, s =>
    if (eval t (enter s)).1 then evalAll ts (eval t (enter s)).2 else (false, (eval t (enter s)).2)

def evalAny : List (AndOrTree α) → σ → Bool × σ
  | [], s => (false, s)
  | t :: ts, s =>
    if (eval t (enter s)).1 then (true, (eval t (enter s)).2) else evalAny ts (eval t (enter s)).2

end

variable {leaf enter closed} {ts : List (AndOrTree α)} {s : σ}

lemma evalAll_eq :
    evalAll leaf enter closed ts s = allS (fun t s => eval leaf enter closed t (enter s)) ts s := by
  induction ts generalizing s with
  | nil => simp [evalAll]
  | cons t ts ih => rw [evalAll, allS_cons, ih]

lemma evalAny_eq :
    evalAny leaf enter closed ts s = anyS (fun t s => eval leaf enter closed t (enter s)) ts s := by
  induction ts generalizing s with
  | nil => simp [evalAny]
  | cons t ts ih => rw [evalAny, anyS_cons, ih]

mutual

def holds (p : α → Bool) : AndOrTree α → Bool
  | .leaf a => p a
  | .node .and subs invert => holdsAll p subs != invert
  | .node .or subs invert => holdsAny p subs != invert

def holdsAll (p : α → Bool) : List (AndOrTree α) → Bool
  | [] => true
  | t :: ts => holds p t && holdsAll p ts

def holdsAny (p : α → Bool) : List (AndOrTree α) → Bool
  | [] => false
  | t :: ts => holds p t || holdsAny p ts

end

lemma holdsAll_eq (p : α → Bool) (ts : List (AndOrTree α)) : holdsAll p ts = ts.all (holds p) := by
  induction ts with
  | nil => rfl
  | cons t ts ih => rw [holdsAll, all_cons, ih]

lemma holdsAny_eq (p : α → Bool) (ts : List (AndOrTree α)) : holdsAny p ts = ts.any (holds p) := by
  induction ts with
  | nil => rfl
  | cons t ts ih => rw [holdsAny, any_cons, ih]

mutual

def leaves : AndOrTree α → List α
  | .leaf a => [a]
  | .node _ subs _ => leavesOf subs

def leavesOf : List (AndOrTree α) → List α
  | [] => []
  | t :: ts => leaves t ++ leavesOf ts

end

lemma mem_leavesOf {a : α} : a ∈ leavesOf ts ↔ ∃ t ∈ ts, a ∈ leaves t := by
  induction ts with
  | nil => simp [leavesOf]
  | cons t ts ih => simp [leavesOf, ih]

lemma leaves_subset {t : AndOrTree α} (h : t ∈ ts) : leaves t ⊆ leavesOf ts :=
  fun _ ha => mem_leavesOf.2 ⟨t, h, ha⟩

lemma holds_congr {p q : α → Bool} (t : AndOrTree α) (h : ∀ a ∈ t.leaves, p a = q a) :
    holds p t = holds q t := by
  induction t with
  | leaf a =>
    exact h a (by simp [leaves])
  | node mode subs invert ih =>
    have hsub : ∀ t ∈ subs, holds p t = holds q t := fun t ht =>
      ih t ht fun a ha => h a (by exact leaves_subset ht ha)
    cases mode with
    | and => rw [holds, holds, holdsAll_eq, holdsAll_eq, all_congr_mem hsub]
    | or => rw [holds, holds, holdsAny_eq, holdsAny_eq, any_congr_mem hsub]

variable {leaf : α → σ → Bool × σ} {enter : σ → σ} {closed : σ → Bool} {I J : σ → Prop}
  {p : α → Bool}

lemma eval_invariant (t : AndOrTree α) (henter : ∀ s, I s → I (enter s))
    (hleaf : ∀ a ∈ t.leaves, ∀ s, I s → I (leaf a s).2) (hs : I s) :
    I (eval leaf enter closed t s).2 := by
  induction t generalizing s with
  | leaf a =>
    exact hleaf a (by simp [leaves]) s hs
  | node mode subs invert ih =>
    have hsub : ∀ t ∈ subs, ∀ s, I s → I (eval leaf enter closed t (enter s)).2 := fun t ht s hs =>
      ih t ht (fun a ha => hleaf a (by exact leaves_subset ht ha)) (henter s hs)
    cases mode with
    | and =>
      rw [eval, evalAll_eq]
      split_ifs
      · exact hs
      · exact allS_invariant hsub hs
    | or =>
      rw [eval, evalAny_eq]
      split_ifs
      · exact hs
      · exact anyS_invariant hsub hs

lemma eval_agree {τ : Type*} {leaf' : α → τ → Bool × τ} {enter' : τ → τ} {closed' : τ → Bool}
    {R : σ → τ → Prop} (t : AndOrTree α) (henter : ∀ s s', R s s' → R (enter s) (enter' s'))
    (hclosed : ∀ s s', R s s' → closed s = closed' s')
    (hleaf : ∀ a ∈ t.leaves, Agree R (leaf a) (leaf' a)) :
    Agree R (eval leaf enter closed t) (eval leaf' enter' closed' t) := by
  induction t with
  | leaf a =>
    intro s s' hs
    exact hleaf a (by simp [leaves]) s s' hs
  | node mode subs invert ih =>
    have hsub : ∀ t ∈ subs, Agree R (fun s => eval leaf enter closed t (enter s))
        (fun s => eval leaf' enter' closed' t (enter' s)) := fun t ht s s' hs =>
      ih t ht (fun a ha => hleaf a (by exact leaves_subset ht ha)) _ _ (henter s s' hs)
    intro s s' hs
    cases mode with
    | and =>
      obtain ⟨hfound, hleft⟩ := allS_agree hsub s s' hs
      rw [eval, eval, evalAll_eq, evalAll_eq, hclosed s s' hs, hfound]
      split_ifs
      · exact ⟨rfl, hs⟩
      · exact ⟨rfl, hleft⟩
    | or =>
      obtain ⟨hfound, hleft⟩ := anyS_agree hsub s s' hs
      rw [eval, eval, evalAny_eq, evalAny_eq, hclosed s s' hs, hfound]
      split_ifs
      · exact ⟨rfl, hs⟩
      · exact ⟨rfl, hleft⟩

theorem eval_eq_holds (t : AndOrTree α) (henter : ∀ s, I s → J (enter s)) (hJ : ∀ s, J s → I s)
    (hclosed : ∀ s, I s → closed s = false)
    (hleaf : ∀ a ∈ t.leaves, ∀ s, J s → (leaf a s).1 = p a ∧ I (leaf a s).2) (hs : J s) :
    (eval leaf enter closed t s).1 = holds p t ∧ I (eval leaf enter closed t s).2 := by
  induction t generalizing s with
  | leaf a =>
    exact hleaf a (by simp [leaves]) s hs
  | node mode subs invert ih =>
    have hsub : ∀ t ∈ subs, ∀ s, I s →
        (eval leaf enter closed t (enter s)).1 = holds p t ∧
          I (eval leaf enter closed t (enter s)).2 := fun t ht s hs =>
      ih t ht (fun a ha => hleaf a (by exact leaves_subset ht ha)) (henter s hs)
    cases mode with
    | and =>
      rw [eval, hclosed s (hJ s hs), evalAll_eq, holds, holdsAll_eq]
      obtain ⟨h₁, h₂⟩ := allS_eq_all hsub (hJ s hs)
      exact ⟨by simp [h₁], by simpa using h₂⟩
    | or =>
      rw [eval, hclosed s (hJ s hs), evalAny_eq, holds, holdsAny_eq]
      obtain ⟨h₁, h₂⟩ := anyS_eq_any hsub (hJ s hs)
      exact ⟨by simp [h₁], by simpa using h₂⟩

end AndOrTree

end SingBox.Lib.LogicTree
