import Mathlib.Data.List.Basic

namespace SingBox.Lib.Runs

variable {σ ε : Type*} (step : σ → ε → Option σ)

def run : σ → List ε → Option σ
  | s, [] => some s
  | s, e :: es => (step s e).bind fun s' => run s' es

def Always (P : σ → Prop) : σ → List ε → Prop
  | s, [] => P s
  | s, e :: es => P s ∧ ∀ s', step s e = some s' → Always P s' es

def Throughout (C : σ → ε → Prop) : σ → List ε → Prop
  | _, [] => True
  | s, e :: es => ∀ s', step s e = some s' → C s e ∧ Throughout C s' es

variable {step} {I J : σ → Prop} {C : σ → ε → Prop}
  {s : σ}

lemma always_of_step (hJ : ∀ s e s', J s → step s e = some s' → J s') (hs : J s) (es : List ε) :
    Always step J s es := by
  induction es generalizing s with
  | nil => exact hs
  | cons e es ih => exact ⟨hs, fun s' hs' => ih (hJ s e s' hs hs')⟩

variable {s' : σ} {es : List ε}

lemma always_run {P : σ → Prop} (h : Always step P s es) (hrun : run step s es = some s') :
    P s' := by
  induction es generalizing s with
  | nil =>
    cases hrun
    exact h
  | cons e es ih =>
    obtain ⟨s₁, hs₁, hrun⟩ := Option.bind_eq_some_iff.1 hrun
    exact ih (h.2 s₁ hs₁) hrun

lemma throughout_congr {D : σ → ε → Prop} (hJ : ∀ s e s', J s → step s e = some s' → J s')
    (h : ∀ s e s', J s → step s e = some s' → (C s e ↔ D s e)) (hs : J s) (es : List ε) :
    Throughout step C s es ↔ Throughout step D s es := by
  induction es generalizing s with
  | nil => rfl
  | cons e es ih =>
    refine forall_congr' fun s' => forall_congr' fun hs' => ?_
    rw [h s e s' hs hs', ih (hJ s e s' hs hs')]

lemma always_iff_throughout (hJ : ∀ s e s', J s → step s e = some s' → J s')
    (hI : ∀ s e s', J s → I s → step s e = some s' → (I s' ↔ C s e)) (hs : J s) (hi : I s)
    (es : List ε) : Always step I s es ↔ Throughout step C s es := by
  induction es generalizing s with
  | nil => exact ⟨fun _ => trivial, fun _ => hi⟩
  | cons e es ih =>
    constructor
    · rintro ⟨_, h⟩ s' hs'
      have hi' : I s' := by
        cases es with
        | nil => exact h s' hs'
        | cons _ _ => exact (h s' hs').1
      exact ⟨(hI s e s' hs hi hs').1 hi', (ih (hJ s e s' hs hs') hi').1 (h s' hs')⟩
    · intro h
      refine ⟨hi, fun s' hs' => ?_⟩
      obtain ⟨hc, ht⟩ := h s' hs'
      exact (ih (hJ s e s' hs hs') ((hI s e s' hs hi hs').2 hc)).2 ht

lemma run_iff_throughout (hJ : ∀ s e s', J s → step s e = some s' → J s')
    (hI : ∀ s e s', J s → step s e = some s' → (I s' ↔ I s ∧ C s e)) (hs : J s)
    (hrun : run step s es = some s') : I s' ↔ I s ∧ Throughout step C s es := by
  induction es generalizing s with
  | nil =>
    cases hrun
    exact (and_iff_left trivial).symm
  | cons e es ih =>
    obtain ⟨s₁, hs₁, hrun⟩ := Option.bind_eq_some_iff.1 hrun
    rw [ih (hJ s e s₁ hs hs₁) hrun, hI s e s₁ hs hs₁, and_assoc]
    refine and_congr_right fun _ => ⟨fun h s₂ hs₂ => ?_, fun h => h s₁ hs₁⟩
    rw [hs₁, Option.some.injEq] at hs₂
    exact hs₂ ▸ h

end SingBox.Lib.Runs
