import SingBox.Lib.Text
import Mathlib.Data.Prod.Lex
import Mathlib.Data.Set.Basic

namespace SingBox.Badversion

structure Version where
  major : ℤ
  minor : ℤ
  patch : ℤ
  commit : String := ""
  preReleaseIdentifier : String := ""
  preReleaseVersion : ℤ := 0
  deriving DecidableEq

namespace Version

def after (v w : Version) : Bool :=
  if v.major > w.major then true
  else if v.major < w.major then false
  else if v.minor > w.minor then true
  else if v.minor < w.minor then false
  else if v.patch > w.patch then true
  else if v.patch < w.patch then false
  else if v.preReleaseIdentifier = "" ∧ w.preReleaseIdentifier ≠ "" then true
  else if v.preReleaseIdentifier ≠ "" ∧ w.preReleaseIdentifier = "" then false
  else if v.preReleaseIdentifier ≠ "" ∧ w.preReleaseIdentifier ≠ "" then
    if v.preReleaseIdentifier = w.preReleaseIdentifier then v.preReleaseVersion > w.preReleaseVersion
    else if v.preReleaseIdentifier = "rc" ∧ w.preReleaseIdentifier = "beta" then true
    else if v.preReleaseIdentifier = "beta" ∧ w.preReleaseIdentifier = "rc" then false
    else if v.preReleaseIdentifier = "beta" ∧ w.preReleaseIdentifier = "alpha" then true
    else false
  else false

def stages : List String := ["alpha", "beta", "rc", ""]

abbrev Staged := { v : Version // v.preReleaseIdentifier ∈ stages }

def stage (v : Version) : ℕ := stages.idxOf v.preReleaseIdentifier

def SameNumbers (v w : Version) : Prop := v.major = w.major ∧ v.minor = w.minor ∧ v.patch = w.patch

/-- The order of the versions in `S` by their numbers, their stages and the numbers of the stages. -/
structure Ordered (S : Set Staged) : Prop where
  irrefl : ∀ v ∈ S, v.1.after v.1 = false
  trans : ∀ u ∈ S, ∀ v ∈ S, ∀ w ∈ S, u.1.after v.1 = true → v.1.after w.1 = true → u.1.after w.1 = true
  incomparable : ∀ u ∈ S, ∀ v ∈ S, ∀ w ∈ S, u.1.after v.1 = false → v.1.after u.1 = false →
    v.1.after w.1 = false → w.1.after v.1 = false → u.1.after w.1 = false
  stage : ∀ v ∈ S, ∀ w ∈ S, SameNumbers v.1 w.1 → w.1.stage < v.1.stage → v.1.after w.1 = true
  number : ∀ v ∈ S, ∀ w ∈ S, SameNumbers v.1 w.1 →
    v.1.preReleaseIdentifier = w.1.preReleaseIdentifier → v.1.preReleaseIdentifier ≠ "" →
      (v.1.after w.1 = true ↔ w.1.preReleaseVersion < v.1.preReleaseVersion)

/-- The pair of stages that `After` does not list. -/
def Unlisted (v w : Version) : Prop :=
  SameNumbers v w ∧ v.preReleaseIdentifier = "rc" ∧ w.preReleaseIdentifier = "alpha"

def key (v : Version) : ℤ ×ₗ ℤ ×ₗ ℤ ×ₗ ℕ ×ₗ ℤ :=
  toLex (v.major, toLex (v.minor, toLex (v.patch, toLex (v.stage,
    if v.preReleaseIdentifier = "" then 0 else v.preReleaseVersion))))

lemma after_iff (v w : Staged) : v.1.after w.1 = true ↔ w.1.key < v.1.key ∧ ¬ Unlisted v.1 w.1 := by
  obtain ⟨⟨a, b, c, _, i, n⟩, hi⟩ := v
  obtain ⟨⟨a', b', c', _, i', n'⟩, hi'⟩ := w
  simp only [stages, List.mem_cons, List.not_mem_nil, or_false] at hi hi'
  simp only [key, Prod.Lex.toLex_lt_toLex, after, stage, Unlisted, SameNumbers]
  rcases hi with rfl | rfl | rfl | rfl <;> rcases hi' with rfl | rfl | rfl | rfl <;>
    simp [stages] <;> omega

theorem version_order_iff (S : Set Staged) :
    Ordered S ↔ ∀ v ∈ S, ∀ w ∈ S, ¬ Unlisted v.1 w.1 := by
  constructor
  · intro h v hv w hw hu
    have hafter := h.stage v hv w hw hu.1 (by rw [stage, stage, hu.2.1, hu.2.2]; decide)
    exact ((after_iff v w).1 hafter).2 hu
  · intro h
    have hkey : ∀ v ∈ S, ∀ w ∈ S, (v.1.after w.1 = true ↔ w.1.key < v.1.key) := fun v hv w hw =>
      (after_iff v w).trans (and_iff_left (h v hv w hw))
    have hkey' : ∀ v ∈ S, ∀ w ∈ S, (v.1.after w.1 = false ↔ v.1.key ≤ w.1.key) := fun v hv w hw => by
      rw [← Bool.not_eq_true, hkey v hv w hw, not_lt]
    refine ⟨fun v hv => (hkey' v hv v hv).2 le_rfl, ?_, ?_, ?_, ?_⟩
    · intro u hu v hv w hw huv hvw
      exact (hkey u hu w hw).2 (((hkey v hv w hw).1 hvw).trans ((hkey u hu v hv).1 huv))
    · intro u hu v hv w hw huv _ hvw _
      exact (hkey' u hu w hw).2 (((hkey' u hu v hv).1 huv).trans ((hkey' v hv w hw).1 hvw))
    · intro v hv w hw ⟨h₁, h₂, h₃⟩ hstage
      refine (hkey v hv w hw).2 ?_
      simp only [key, Prod.Lex.toLex_lt_toLex, h₁, h₂, h₃]
      simp [hstage]
    · intro v hv w hw ⟨h₁, h₂, h₃⟩ hid hne
      rw [hkey v hv w hw]
      simp only [key, Prod.Lex.toLex_lt_toLex, stage, h₁, h₂, h₃, hid, if_neg (hid ▸ hne)]
      simp

def candidate (identifier : String) : Version := ⟨1, 0, 0, "", identifier, 1⟩

theorem version_order_not_transitive : (candidate "rc").after (candidate "beta") = true ∧
    (candidate "beta").after (candidate "alpha") = true ∧
    (candidate "rc").after (candidate "alpha") = false := by
  decide

end Version

end SingBox.Badversion
