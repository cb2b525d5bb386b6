import SingBox.Lib.LogicTree

/-! How a change in the values of its leaves changes the value of a logic tree. -/

namespace SingBox.Lib.Comparison

open LogicTree Search AndOrTree

inductive Change where
  | accepted
  | rejected
  | lost
  | gained
  deriving DecidableEq, Repr

namespace Change

def of : Bool → Bool → Change
  | true, true => accepted
  | false, false => rejected
  | true, false => lost
  | false, true => gained

def before : Change → Bool
  | accepted | lost => true
  | rejected | gained => false

def after : Change → Bool
  | accepted | gained => true
  | rejected | lost => false

def invert : Change → Change
  | accepted => rejected
  | rejected => accepted
  | lost => gained
  | gained => lost

def all (l : List Change) : Change :=
  if l.all before then if l.contains lost then lost else accepted
  else if l.all after then gained else rejected

def any (l : List Change) : Change :=
  if l.any before then if l.any after then accepted else lost
  else if l.contains gained then gained else rejected

@[simp] lemma before_of (b c : Bool) : (of b c).before = b := by
  cases b <;> cases c <;> rfl

@[simp] lemma after_of (b c : Bool) : (of b c).after = c := by
  cases b <;> cases c <;> rfl

lemma before_invert (c : Change) : c.invert.before = !c.before := by
  cases c <;> rfl

lemma after_invert (c : Change) : c.invert.after = !c.after := by
  cases c <;> rfl

lemma ne_lost_iff (c : Change) : c ≠ lost ↔ (c.before = true → c.after = true) := by
  cases c <;> simp [before, after]

lemma before_all (l : List Change) : (all l).before = l.all before := by
  rw [all]
  cases l.all before with
  | true => cases l.contains lost <;> rfl
  | false => cases l.all after <;> rfl

lemma after_all (l : List Change) : (all l).after = l.all after := by
  rw [all]
  cases hb : l.all before with
  | false => cases l.all after <;> rfl
  | true =>
    cases hl : l.contains lost with
    | true =>
      have hafter : l.all after = false :=
        List.all_eq_false.2 ⟨lost, List.contains_iff_mem.1 hl, by simp [after]⟩
      rw [hafter]
      rfl
    | false =>
      have hafter : l.all after = true := by
        refine List.all_eq_true.2 fun c hc => (ne_lost_iff c).1 ?_ (List.all_eq_true.1 hb c hc)
        rintro rfl
        simp [hc] at hl
      rw [hafter]
      rfl

lemma before_any (l : List Change) : (any l).before = l.any before := by
  rw [any]
  cases l.any before with
  | true => cases l.any after <;> rfl
  | false => cases l.contains gained <;> rfl

lemma after_any (l : List Change) : (any l).after = l.any after := by
  rw [any]
  cases hb : l.any before with
  | true => cases l.any after <;> rfl
  | false =>
    cases hg : l.contains gained with
    | true =>
      have hafter : l.any after = true :=
        List.any_eq_true.2 ⟨gained, List.contains_iff_mem.1 hg, rfl⟩
      rw [hafter]
      rfl
    | false =>
      have hafter : l.any after = false := by
        refine List.any_eq_false.2 fun c hc => ?_
        have hc' := List.any_eq_false.1 hb c hc
        cases c with
        | gained => simp [hc] at hg
        | _ => simp_all [before, after]
      rw [hafter]
      rfl

end Change

open Change

variable {α : Type*} (c : α → Change)

mutual

def change : AndOrTree α → Change
  | .leaf a => c a
  | .node .and subs invert => if invert then (all (changes subs)).invert else all (changes subs)
  | .node .or subs invert => if invert then (any (changes subs)).invert else any (changes subs)

def changes : List (AndOrTree α) → List Change
  | [] => []
  | t :: ts => change t :: changes ts

end

lemma changes_eq (ts : List (AndOrTree α)) : changes c ts = ts.map (change c) := by
  induction ts with
  | nil => rw [changes, List.map_nil]
  | cons t ts ih => rw [changes, List.map_cons, ih]

lemma before_change (t : AndOrTree α) : (change c t).before = t.holds fun a => (c a).before := by
  induction t with
  | leaf a => rw [change, holds]
  | node mode subs invert ih =>
    cases mode with
    | and =>
      have hall := all_congr_mem ih
      rw [change, holds, holdsAll_eq, ← hall]
      cases invert <;>
        simp [before_invert, before_all, changes_eq, Function.comp_def]
    | or =>
      have hany := any_congr_mem ih
      rw [change, holds, holdsAny_eq, ← hany]
      cases invert <;>
        simp [before_invert, before_any, changes_eq, Function.comp_def]

lemma after_change (t : AndOrTree α) : (change c t).after = t.holds fun a => (c a).after := by
  induction t with
  | leaf a => rw [change, holds]
  | node mode subs invert ih =>
    cases mode with
    | and =>
      have hall := all_congr_mem ih
      rw [change, holds, holdsAll_eq, ← hall]
      cases invert <;>
        simp [after_invert, after_all, changes_eq, Function.comp_def]
    | or =>
      have hany := any_congr_mem ih
      rw [change, holds, holdsAny_eq, ← hany]
      cases invert <;>
        simp [after_invert, after_any, changes_eq, Function.comp_def]

lemma holds_imp_iff (t : AndOrTree α) :
    ((t.holds fun a => (c a).before) = true → (t.holds fun a => (c a).after) = true) ↔
      change c t ≠ .lost := by
  rw [ne_lost_iff, before_change, after_change]

end SingBox.Lib.Comparison
