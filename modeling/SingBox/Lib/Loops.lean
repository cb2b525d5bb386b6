import Mathlib.Logic.Basic
import Mathlib.Tactic.Common

/-! Loops whose body either goes round again or leaves with a result. -/

namespace SingBox.Lib.Loops

open Option

variable {σ ρ : Type*}

inductive Turn (σ ρ : Type*) where
  | again (s : σ)
  | leave (s : σ) (r : ρ)

def loop (turn : σ → Turn σ ρ) : ℕ → σ → Option (σ × ρ)
  | 0, _ => none
  | fuel + 1, s => match turn s with
    | .again s' => loop turn fuel s'
    | .leave s' r => some (s', r)

variable {I : σ → Prop} {s : σ} {fuel : ℕ}

lemma loop_of_rank {turn : σ → Turn σ ρ} {μ : σ → ℕ}
    (h : ∀ s s', I s → turn s = .again s' → I s' ∧ μ s' < μ s) (hs : I s) (hfuel : μ s < fuel) :
    ∃ s₁ s₂ r, I s₁ ∧ turn s₁ = .leave s₂ r ∧ loop turn fuel s = some (s₂, r) := by
  induction fuel generalizing s with
  | zero => exact absurd hfuel (Nat.not_lt_zero _)
  | succ fuel ih =>
    rw [loop]
    cases hturn : turn s with
    | leave s' r => exact ⟨s, s', r, hs, hturn, rfl⟩
    | again s' =>
      obtain ⟨hs', hlt⟩ := h s s' hs hturn
      exact ih hs' (by omega)

lemma loop_spec {turn : σ → Turn σ ρ} {Q : σ → ρ → Prop}
    (hagain : ∀ s s', I s → turn s = .again s' → I s')
    (hleave : ∀ s s' r, I s → turn s = .leave s' r → Q s' r) {s' : σ} {r : ρ} (hs : I s)
    (h : loop turn fuel s = some (s', r)) : Q s' r := by
  induction fuel generalizing s with
  | zero => cases h
  | succ fuel ih =>
    rw [loop] at h
    cases hturn : turn s with
    | leave s₁ r₁ =>
      rw [hturn] at h
      cases h
      exact hleave s s' r hs hturn
    | again s₁ =>
      rw [hturn] at h
      exact ih (hagain s s₁ hs hturn) h

lemma loop_mono {turn : σ → Turn σ ρ} {fuel' : ℕ} (hle : fuel ≤ fuel') {x : σ × ρ}
    (h : loop turn fuel s = some x) : loop turn fuel' s = some x := by
  induction fuel generalizing fuel' s with
  | zero => cases h
  | succ fuel ih =>
    obtain ⟨k, rfl⟩ : ∃ k, fuel' = k + 1 := ⟨fuel' - 1, by omega⟩
    rw [loop] at h ⊢
    cases hturn : turn s with
    | leave s' r =>
      rw [hturn] at h
      exact h
    | again s' =>
      rw [hturn] at h
      exact ih (by omega) h

lemma loop_congr {turn turn' : σ → Turn σ ρ} (h : ∀ s, I s → turn s = turn' s)
    (hI : ∀ s s', I s → turn' s = .again s' → I s') (hs : I s) (fuel : ℕ) :
    loop turn fuel s = loop turn' fuel s := by
  induction fuel generalizing s with
  | zero => rfl
  | succ fuel ih =>
    rw [loop, loop, h s hs]
    cases hturn : turn' s with
    | leave s' r => rfl
    | again s' => exact ih (hI s s' hs hturn)

variable {turn : σ → Turn σ ρ} {μ : σ → ℕ}

def Descends (turn : σ → Turn σ ρ) (μ : σ → ℕ) : Prop := ∀ s s', turn s = .again s' → μ s' < μ s

lemma Descends.isSome (h : Descends turn μ) (s : σ) : (loop turn (μ s + 1) s).isSome := by
  obtain ⟨-, s', r, -, -, heq⟩ :=
    loop_of_rank (fun s s' _ hturn => ⟨trivial, h s s' hturn⟩) trivial
      (Nat.lt_succ_self (μ s))
  rw [heq, isSome_some]

def Descends.run (h : Descends turn μ) (s : σ) : σ × ρ := (loop turn (μ s + 1) s).get (h.isSome s)

lemma Descends.loop_eq (h : Descends turn μ) (s : σ) : loop turn (μ s + 1) s = some (h.run s) :=
  (some_get _).symm

variable {s' : σ}

lemma Descends.run_leave (h : Descends turn μ) {r : ρ} (hturn : turn s = .leave s' r) :
    h.run s = (s', r) := by
  have hloop : loop turn (μ s + 1) s = some (s', r) := by rw [loop, hturn]
  exact get_of_eq_some _ hloop

lemma Descends.run_again (h : Descends turn μ) (hturn : turn s = .again s') :
    h.run s = h.run s' := by
  obtain ⟨x, hx⟩ := isSome_iff_exists.1 (h.isSome s)
  have hx' : loop turn (μ s) s' = some x := by rw [loop, hturn] at hx; exact hx
  obtain ⟨y, hy⟩ := isSome_iff_exists.1 (h.isSome s')
  have hxy : x = y := by
    have hmore := loop_mono (h s s' hturn) hy
    exact Option.some.inj (hx'.symm.trans hmore)
  unfold Descends.run
  rw [get_of_eq_some _ hx, get_of_eq_some _ hy, hxy]

variable {T : σ → Prop}

lemma loop_of_trap (hT : ∀ s, T s → ∃ s', turn s = .again s' ∧ T s') (hs : T s) (fuel : ℕ) :
    loop turn fuel s = none := by
  induction fuel generalizing s with
  | zero => rfl
  | succ fuel ih =>
    obtain ⟨s', hturn, hs'⟩ := hT s hs
    rw [loop, hturn]
    exact ih hs'

end SingBox.Lib.Loops
