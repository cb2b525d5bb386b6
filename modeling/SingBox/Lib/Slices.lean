import Mathlib.Data.List.Basic
import Mathlib.Tactic.Common

namespace SingBox.Lib.Slices

open List

variable {α β ε : Type} {oob : ε}

section Access

variable (oob)

def index (s : List α) (i : ℕ) : Except ε α :=
  match s[i]? with
  | some a => .ok a
  | none => .error oob

def slice (s : List α) (i j : ℕ) : Except ε (List α) :=
  if i ≤ j ∧ j ≤ s.length then .ok ((s.take j).drop i) else .error oob

def sliceFrom (s : List α) (i : ℕ) : Except ε (List α) :=
  if i ≤ s.length then .ok (s.drop i) else .error oob

end Access

variable {s : List α} {i : ℕ}

lemma index_eq_ok (h : i < s.length) (d : α) : index oob s i = .ok (s.getD i d) := by
  rw [index, getD_eq_getElem?_getD, getElem?_eq_getElem h]
  rfl

lemma index_eq_error (h : s.length ≤ i) : index oob s i = .error oob := by
  rw [index, getElem?_eq_none h]

lemma slice_eq_ok {n : ℕ} (h : i + n ≤ s.length) :
    slice oob s i (i + n) = .ok ((s.drop i).take n) := by
  rw [slice, if_pos ⟨Nat.le_add_right i n, h⟩, drop_take, Nat.add_sub_cancel_left]

lemma sliceFrom_eq_ok (h : i ≤ s.length) : sliceFrom oob s i = .ok (s.drop i) :=
  if_pos h

lemma sliceFrom_eq_error (h : s.length < i) : sliceFrom oob s i = .error oob :=
  if_neg (Nat.not_le.2 h)

variable {f : α → Except ε β} {g : α → β} {l : List α}

lemma mapM_eq_ok (h : ∀ a ∈ l, f a = .ok (g a)) : l.mapM f = .ok (l.map g) := by
  induction l with
  | nil => rfl
  | cons a l ih =>
    rw [mapM_cons, h a mem_cons_self, ih fun a ha => h a (mem_cons_of_mem _ ha)]
    rfl

lemma mapM_eq_error (h : ∀ a ∈ l, f a = .ok (g a) ∨ f a = .error oob) (hl : ∃ a ∈ l, f a = .error oob) :
    l.mapM f = .error oob := by
  induction l with
  | nil =>
    obtain ⟨a, ha, -⟩ := hl
    exact absurd ha not_mem_nil
  | cons a l ih =>
    rw [mapM_cons]
    rcases h a mem_cons_self with ha | ha
    · have hl' : ∃ b ∈ l, f b = .error oob := by
        obtain ⟨b, hb, hfb⟩ := hl
        rcases mem_cons.1 hb with rfl | hb
        · rw [ha] at hfb
          cases hfb
        · exact ⟨b, hb, hfb⟩
      rw [ha, ih (fun b hb => h b (mem_cons_of_mem _ hb)) hl']
      rfl
    · rw [ha]
      rfl

end SingBox.Lib.Slices
