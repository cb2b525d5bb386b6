import Mathlib.Data.List.Induction
import Mathlib.Data.List.Nodup
import Mathlib.Logic.Function.Basic

namespace SingBox.Lib.Table

open Function List

variable {κ ν : Type} [DecidableEq κ]

def fill (key : ν → κ) (xs : List ν) : κ → Option ν :=
  xs.foldl (fun table x => update table (key x) (some x)) (fun _ => none)

@[simp] lemma fill_nil (key : ν → κ) (k : κ) : fill key [] k = none := rfl

@[simp] lemma fill_concat (key : ν → κ) (xs : List ν) (x : ν) :
    fill key (xs ++ [x]) = update (fill key xs) (key x) (some x) := by
  simp [fill]

lemma fill_map {key : ν → κ} {f : ν → ν} (hf : ∀ x, key (f x) = key x) (xs : List ν) (k : κ) :
    fill key (xs.map f) k = (fill key xs k).map f := by
  induction xs using reverseRecOn with
  | nil => rfl
  | append_singleton xs x ih =>
    rw [map_append, map_singleton, fill_concat, fill_concat, hf]
    by_cases hk : k = key x
    · rw [hk, update_self, update_self, Option.map_some]
    · rw [update_of_ne hk, update_of_ne hk, ih]

lemma fill_mem (key : ν → κ) (xs : List ν) (k : κ) (x : ν) (h : fill key xs k = some x) :
    x ∈ xs ∧ key x = k := by
  induction xs using reverseRecOn with
  | nil => simp at h
  | append_singleton xs y ih =>
    rw [fill_concat] at h
    by_cases hk : k = key y
    · subst hk
      rw [update_self, Option.some.injEq] at h
      exact ⟨by simp [h], by rw [h]⟩
    · rw [update_of_ne hk] at h
      exact ⟨mem_append_left _ (ih h).1, (ih h).2⟩

variable {xs : List ν} {x : ν}

lemma exists_fill (key : ν → κ) (hx : x ∈ xs) : ∃ y, fill key xs (key x) = some y := by
  induction xs using reverseRecOn with
  | nil => simp at hx
  | append_singleton xs y ih =>
    rw [fill_concat]
    by_cases hk : key x = key y
    · exact ⟨y, by rw [hk, update_self]⟩
    · rw [update_of_ne hk]
      refine ih ((mem_append.1 hx).resolve_right fun hxy => hk ?_)
      rw [mem_singleton.1 hxy]

lemma fill_of_unique (key : ν → κ) (h : ∀ x ∈ xs, ∀ y ∈ xs, key x = key y → x = y) (hx : x ∈ xs) :
    fill key xs (key x) = some x := by
  obtain ⟨y, hy⟩ := exists_fill key hx
  obtain ⟨hmem, hkey⟩ := fill_mem key xs _ y hy
  rw [hy, h y hmem x hx hkey]

lemma fill_nodup (key : ν → κ) (xs : List ν) (hn : (xs.map key).Nodup) (x : ν) (hx : x ∈ xs) :
    fill key xs (key x) = some x :=
  fill_of_unique key (fun _ hy _ hz => inj_on_of_nodup_map hn hy hz) hx

lemma find?_of_nodup (key : ν → κ) (hn : (xs.map key).Nodup) (hx : x ∈ xs) :
    xs.find? (fun y => key y == key x) = some x := by
  cases hfind : xs.find? (fun y => key y == key x) with
  | none =>
    rw [find?_eq_none] at hfind
    exact absurd (beq_self_eq_true (key x)) (hfind x hx)
  | some y =>
    have hkey : key y = key x := by simpa using find?_some hfind
    rw [inj_on_of_nodup_map hn (mem_of_find?_eq_some hfind) hx hkey]

end SingBox.Lib.Table
