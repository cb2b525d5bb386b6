import Mathlib.Data.List.Nodup
import Mathlib.Data.List.Perm.Basic

/-! Tasks on a shared state, each run to its end, in any order; the last write to a register stays. -/

namespace SingBox.Lib.Tasks

open List Option

variable {ι σ ρ α β : Type*}

def runAll (run : ι → σ → Option (ρ × σ)) : List ι → σ → Option (List ρ × σ)
  | [], s => some ([], s)
  | i :: order, s =>
    (run i s).bind fun x => (runAll run order x.2).map fun y => (x.1 :: y.1, y.2)

def lastWrite (write : ι → Option α) (order : List ι) (d : α) : α :=
  (order.filterMap write).getLast?.getD d

section Writes

variable {write : ι → Option α} {order : List ι} {d : α}

lemma lastWrite_cons (i : ι) :
    lastWrite write (i :: order) d = lastWrite write order ((write i).getD d) := by
  unfold lastWrite
  cases hw : write i with
  | none => rw [filterMap_cons_none hw, getD_none]
  | some w =>
    rw [filterMap_cons_some hw, getD_some, getLast?_cons]
    rfl

lemma lastWrite_concat {i : ι} {w : α} (hw : write i = some w) :
    lastWrite write (order ++ [i]) d = w := by
  simp [lastWrite, filterMap_append, hw]

lemma lastWrite_eq_of_mem {i : ι} {w : α} (hi : i ∈ order) (hw : write i = some w)
    (h : ∀ j ∈ order, ∀ w', write j = some w' → w' = w) : lastWrite write order d = w := by
  have hne : order.filterMap write ≠ [] :=
    ne_nil_of_mem (mem_filterMap.2 ⟨i, hi, hw⟩)
  obtain ⟨j, hj, hlast⟩ := mem_filterMap.1 (getLast_mem hne)
  rw [lastWrite, getLast?_eq_some_getLast hne, getD_some]
  exact h j hj _ hlast

lemma lastWrite_of_none (h : ∀ i ∈ order, write i = none) : lastWrite write order d = d := by
  rw [lastWrite, filterMap_eq_nil_iff.2 h]
  rfl

lemma lastWrite_perm_iff [DecidableEq ι] :
    (∀ o₁ o₂ : List ι, o₁.Perm order → o₂.Perm order → lastWrite write o₁ d = lastWrite write o₂ d) ↔
      ∀ i ∈ order, ∀ j ∈ order, ∀ w w', write i = some w → write j = some w' → w = w' := by
  constructor
  · intro h i hi j hj w w' hw hw'
    -- each of the two tasks can be the last one
    have hperm : ∀ k ∈ order, (order.erase k ++ [k]).Perm order := fun k hk =>
      perm_append_comm.trans (perm_cons_erase hk).symm
    have heq := h _ _ (hperm i hi) (hperm j hj)
    rwa [lastWrite_concat hw, lastWrite_concat hw'] at heq
  · intro h o₁ o₂ h₁ h₂
    by_cases hnone : ∀ i ∈ order, write i = none
    · rw [lastWrite_of_none fun i hi => hnone i (h₁.mem_iff.1 hi),
        lastWrite_of_none fun i hi => hnone i (h₂.mem_iff.1 hi)]
    · push Not at hnone
      obtain ⟨i, hi, hw⟩ := hnone
      obtain ⟨w, hw⟩ := ne_none_iff_exists'.1 hw
      have heq : ∀ o : List ι, o.Perm order → lastWrite write o d = w := fun o ho =>
        lastWrite_eq_of_mem (ho.mem_iff.2 hi) hw fun j hj w' hw' =>
          h j (ho.mem_iff.1 hj) i hi w' w hw' hw
      rw [heq o₁ h₁, heq o₂ h₂]

end Writes

structure Apart (run : ι → σ → Option (ρ × σ)) (reg : σ → α) (view : ι → σ → β)
    (outcome : ι → σ → Option (ρ × Option α)) : Prop where
  congr : ∀ {i s s'}, view i s = view i s' → outcome i s = outcome i s'
  stuck : ∀ {i s}, outcome i s = none → run i s = none
  done : ∀ {i s r w}, outcome i s = some (r, w) →
    ∃ s', run i s = some (r, s') ∧ reg s' = w.getD (reg s) ∧ ∀ j, j ≠ i → view j s' = view j s

namespace Apart

variable {run : ι → σ → Option (ρ × σ)} {reg : σ → α} {view : ι → σ → β}
  {outcome : ι → σ → Option (ρ × Option α)} {order : List ι} {s₀ s : σ}

def result (outcome : ι → σ → Option (ρ × Option α)) (s : σ) (i : ι) : Option ρ :=
  (outcome i s).map Prod.fst

def write (outcome : ι → σ → Option (ρ × Option α)) (s : σ) (i : ι) : Option α :=
  (outcome i s).bind Prod.snd

lemma runAll_eq_some (h : Apart run reg view outcome) (hnodup : order.Nodup)
    (hview : ∀ i ∈ order, view i s = view i s₀) (hdone : ∀ i ∈ order, outcome i s₀ ≠ none) :
    ∃ s', runAll run order s = some (order.filterMap (result outcome s₀), s') ∧
      reg s' = lastWrite (write outcome s₀) order (reg s) := by
  induction order generalizing s with
  | nil => exact ⟨s, rfl, rfl⟩
  | cons i order ih =>
    obtain ⟨⟨r, w⟩, hout⟩ := ne_none_iff_exists'.1 (hdone i mem_cons_self)
    have hout' : outcome i s = some (r, w) := (h.congr (hview i mem_cons_self)).trans hout
    obtain ⟨s₁, hrun, hreg, hframe⟩ := h.done hout'
    obtain ⟨hi, hnodup⟩ := nodup_cons.1 hnodup
    have hview₁ : ∀ j ∈ order, view j s₁ = view j s₀ := fun j hj =>
      (hframe j (ne_of_mem_of_not_mem hj hi)).trans (hview j (mem_cons_of_mem _ hj))
    obtain ⟨s', hall, hlast⟩ := ih hnodup hview₁ fun j hj => hdone j (mem_cons_of_mem _ hj)
    have hres : result outcome s₀ i = some r := by rw [result, hout, map_some]
    refine ⟨s', ?_, ?_⟩
    · rw [runAll, hrun, bind_some, hall, map_some, filterMap_cons_some hres]
    · rw [hlast, hreg, lastWrite_cons, write, hout, bind_some]

lemma runAll_eq_none (h : Apart run reg view outcome) (hnodup : order.Nodup)
    (hview : ∀ i ∈ order, view i s = view i s₀) {i : ι} (hi : i ∈ order) (hstuck : outcome i s₀ = none) :
    runAll run order s = none := by
  induction order generalizing s with
  | nil => exact absurd hi not_mem_nil
  | cons j order ih =>
    obtain ⟨hj, hnodup⟩ := nodup_cons.1 hnodup
    have hout : outcome j s = outcome j s₀ := h.congr (hview j mem_cons_self)
    cases hcase : outcome j s with
    | none => rw [runAll, h.stuck hcase, bind_none]
    | some x =>
      obtain ⟨s₁, hrun, -, hframe⟩ := h.done hcase
      have hij : i ≠ j := fun heq => by rw [heq, ← hout, hcase] at hstuck; cases hstuck
      have hview₁ : ∀ k ∈ order, view k s₁ = view k s₀ := fun k hk =>
        (hframe k (ne_of_mem_of_not_mem hk hj)).trans (hview k (mem_cons_of_mem _ hk))
      rw [runAll, hrun, bind_some, ih hnodup hview₁ ((mem_cons.1 hi).resolve_left hij),
        map_none]

end Apart

end SingBox.Lib.Tasks
