import Mathlib.Data.List.Nodup
import Mathlib.Logic.Relation

/-! Orders in which every entry comes after all the entries it depends on. -/

namespace SingBox.Lib.ReadyOrder

open List

variable {α : Type} (deps : α → List α)

inductive Ready : List α → Prop
  | nil : Ready []
  | snoc {order : List α} {a : α} : Ready order → a ∉ order → (∀ d ∈ deps a, d ∈ order) →
      Ready (order ++ [a])

variable {deps}
  {order : List α}

lemma Ready.nodup (h : Ready deps order) : order.Nodup := by
  induction h with
  | nil => exact nodup_nil
  | snoc _ ha _ ih => simpa using ih.concat ha

lemma Ready.before (h : Ready deps order) (l r : List α) (a : α) (hs : order = l ++ a :: r) (d : α)
    (hd : d ∈ deps a) : d ∈ l := by
  induction h generalizing r with
  | nil => simp at hs
  | @snoc order b _ _ hb ih =>
    rcases eq_nil_or_concat r with rfl | ⟨r, c, rfl⟩
    · obtain ⟨rfl, hab⟩ := append_inj' hs rfl
      obtain rfl : b = a := by simpa using hab
      exact hb d hd
    · have hs' : order ++ [b] = (l ++ a :: r) ++ [c] := by simpa using hs
      exact ih r (append_inj' hs' rfl).1

variable {a : α}

lemma Ready.closed (h : Ready deps order) (ha : a ∈ order) {d : α} (hd : d ∈ deps a) :
    d ∈ order := by
  obtain ⟨l, r, rfl⟩ := append_of_mem ha
  exact mem_append_left _ (h.before l r a rfl d hd)

lemma Ready.acyclic (h : Ready deps order) (ha : a ∈ order) :
    ¬ Relation.TransGen (fun x y => y ∈ deps x) a a := by
  induction h with
  | nil => simp at ha
  | @snoc order b ho hb hd ih =>
    have hclosed : ∀ x y, Relation.TransGen (fun x y => y ∈ deps x) x y →
        x ∈ order ++ [b] → y ∈ order := by
      intro x y hxy hx
      have hin : ∀ y, y ∈ deps x → y ∈ order := by
        intro y hy
        rcases mem_append.mp hx with hx | hx
        · exact ho.closed hx hy
        · obtain rfl := mem_singleton.mp hx
          exact hd y hy
      induction hxy with
      | single hy => exact hin _ hy
      | tail _ hz hy => exact ho.closed hy hz
    intro hc
    exact ih (hclosed a a hc ha) hc

end SingBox.Lib.ReadyOrder
