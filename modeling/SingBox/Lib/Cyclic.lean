import Mathlib.Logic.Function.Iterate
import Mathlib.Tactic.Common

/-! The successor on an interval of natural numbers that wraps around at its end. -/

namespace SingBox.Lib.Cyclic

variable {lo hi x : ℕ}

def cyc (lo hi x : ℕ) : ℕ := if x + 1 ≤ hi then x + 1 else lo

def OnCycle (lo hi x : ℕ) : Prop := lo ≤ x ∧ (x ≤ hi ∨ x = lo)

lemma onCycle_self : OnCycle lo hi lo := ⟨Nat.le_refl lo, .inr rfl⟩

lemma onCycle_cyc (h : OnCycle lo hi x) : OnCycle lo hi (cyc lo hi x) := by
  rw [cyc]
  split_ifs with hx
  · exact ⟨Nat.le_succ_of_le h.1, .inl hx⟩
  · exact onCycle_self

lemma iterate_cyc (hlo : lo ≤ x) (hhi : x ≤ hi) (k : ℕ) :
    (cyc lo hi)^[k] x = lo + (x - lo + k) % (hi + 1 - lo) := by
  induction k with
  | zero =>
    rw [Function.iterate_zero_apply, Nat.mod_eq_of_lt (by omega)]
    omega
  | succ k ih =>
    have hlt := Nat.mod_lt (x - lo + k) (show 0 < hi + 1 - lo by omega)
    rw [Function.iterate_succ_apply', cyc, ← Nat.add_assoc, ← Nat.mod_add_mod (x - lo + k)]
    split_ifs with hle
    · rw [Nat.mod_eq_of_lt (show (x - lo + k) % (hi + 1 - lo) + 1 < hi + 1 - lo by omega)]
      omega
    · rw [show (x - lo + k) % (hi + 1 - lo) + 1 = hi + 1 - lo by omega, Nat.mod_self,
        Nat.add_zero]

lemma le_of_iterate_cyc_eq (h : OnCycle lo hi x) {k : ℕ} (hk : 0 < k)
    (heq : (cyc lo hi)^[k] x = x) : hi + 1 - lo ≤ k := by
  by_cases hlo : hi < lo
  · omega
  · have hhi : x ≤ hi := by
      rcases h.2 with hx | hx
      · exact hx
      · omega
    rw [iterate_cyc h.1 hhi] at heq
    by_contra hlt
    have hr : (x - lo + k) % (hi + 1 - lo) = x - lo := by omega
    by_cases hsmall : x - lo + k < hi + 1 - lo
    · rw [Nat.mod_eq_of_lt hsmall] at hr
      omega
    · rw [Nat.mod_eq_sub_mod (by omega), Nat.mod_eq_of_lt (by omega)] at hr
      omega

end SingBox.Lib.Cyclic
