import Mathlib.Data.List.Nodup
import Mathlib.Data.List.Perm.Basic

/-! Maps that a program ranges over, in an order it does not know. -/

namespace SingBox.Lib.Maps

open List

variable {κ β : Type} [DecidableEq κ] {m m' : List (κ × β)} {k : κ} {v : β}

def Distinct (m : List (κ × β)) : Prop := (m.map Prod.fst).Nodup

def set (k : κ) (v : β) (m : List (κ × β)) : List (κ × β) := (k, v) :: m.filter (·.1 ≠ k)

omit [DecidableEq κ] in
lemma distinct_nil : Distinct ([] : List (κ × β)) := nodup_nil

omit [DecidableEq κ] in
lemma Distinct.filter (h : Distinct m) (p : κ × β → Bool) : Distinct (m.filter p) :=
  h.sublist (filter_sublist.map Prod.fst)

lemma Distinct.set (h : Distinct m) (k : κ) (v : β) : Distinct (set k v m) := by
  refine nodup_cons.2 ⟨?_, h.filter _⟩
  simp

omit [DecidableEq κ] in
lemma Distinct.eq_of_key (h : Distinct m) {x y : κ × β} (hx : x ∈ m) (hy : y ∈ m) (hkey : x.1 = y.1) :
    x = y :=
  inj_on_of_nodup_map h hx hy hkey

omit [DecidableEq κ] in
lemma Distinct.perm (h : Distinct m) (hp : m.Perm m') : Distinct m' :=
  (hp.map Prod.fst).nodup_iff.1 h

lemma Distinct.filter_key (h : Distinct m) (hx : (k, v) ∈ m) : m.filter (·.1 = k) = [(k, v)] := by
  induction m with
  | nil => cases hx
  | cons x m ih =>
    obtain ⟨hnot, hm⟩ := nodup_cons.1 h
    rcases mem_cons.1 hx with rfl | hx
    · have hnone : m.filter (·.1 = k) = [] := by
        rw [filter_eq_nil_iff]
        intro y hy hkey
        exact hnot (mem_map.2 ⟨y, hy, by simpa using hkey⟩)
      rw [filter_cons_of_pos (by simp), hnone]
    · have hne : x.1 ≠ k := fun hkey => hnot (hkey ▸ mem_map.2 ⟨(k, v), hx, rfl⟩)
      rw [filter_cons_of_neg (by simpa using hne)]
      exact ih hm hx

lemma lookup_filter_ne {k' : κ} (h : k' ≠ k) (m : List (κ × β)) :
    (m.filter (·.1 ≠ k)).lookup k' = m.lookup k' := by
  induction m with
  | nil => rfl
  | cons x m ih =>
    by_cases hx : x.1 = k
    · have hne : (k' == x.1) = false := beq_false_of_ne (hx ▸ h)
      rw [filter_cons_of_neg (by simpa using hx), ih, lookup_cons, hne]
    · rw [filter_cons_of_pos (by simpa using hx), lookup_cons, lookup_cons, ih]

lemma lookup_set (k k' : κ) (v : β) (m : List (κ × β)) :
    (set k v m).lookup k' = if k' = k then some v else m.lookup k' := by
  rw [set, lookup_cons]
  split_ifs with h
  · rw [h, beq_self_eq_true]
  · rw [beq_false_of_ne h, lookup_filter_ne h]

def Agrees (k : κ) (m : List (κ × β)) : Prop := ∀ x ∈ m, ∀ y ∈ m, x.1 = k → y.1 = k → x.2 = y.2

omit [DecidableEq κ] in
lemma Distinct.agrees (h : Distinct m) (k : κ) : Agrees k m := fun _ hx _ hy hk hk' =>
  congrArg Prod.snd (h.eq_of_key hx hy (hk.trans hk'.symm))

omit [DecidableEq κ] in
lemma Agrees.perm (h : Agrees k m) (hp : m.Perm m') : Agrees k m' := fun x hx y hy =>
  h x (hp.mem_iff.2 hx) y (hp.mem_iff.2 hy)

lemma Agrees.lookup_eq_some (h : Agrees k m) : m.lookup k = some v ↔ (k, v) ∈ m := by
  constructor
  · intro hl
    obtain ⟨before, after, rfl, -⟩ := lookup_eq_some_iff.1 hl
    exact mem_append_right _ mem_cons_self
  · intro hx
    cases hl : m.lookup k with
    | none => exact absurd rfl (bne_iff_ne.1 (lookup_eq_none_iff.1 hl _ hx))
    | some w =>
      obtain ⟨before, after, rfl, -⟩ := lookup_eq_some_iff.1 hl
      exact congrArg some (h (k, w) (by simp) (k, v) hx rfl rfl)

lemma Agrees.lookup_perm (h : Agrees k m) (hp : m.Perm m') : m.lookup k = m'.lookup k := by
  ext v
  rw [h.lookup_eq_some, (h.perm hp).lookup_eq_some, hp.mem_iff]

lemma Distinct.lookup_eq_some (h : Distinct m) : m.lookup k = some v ↔ (k, v) ∈ m :=
  (h.agrees k).lookup_eq_some

lemma Distinct.lookup_perm (h : Distinct m) (hp : m.Perm m') : m.lookup k = m'.lookup k :=
  (h.agrees k).lookup_perm hp

lemma Distinct.perm_of_lookup (h : Distinct m) (h' : Distinct m') (hl : ∀ k, m.lookup k = m'.lookup k) :
    m.Perm m' := by
  refine (perm_ext_iff_of_nodup h.of_map h'.of_map).2 fun x => ?_
  rw [← h.lookup_eq_some, ← h'.lookup_eq_some, hl]

def setAll (entries : List (κ × β)) (m : List (κ × β)) : List (κ × β) :=
  entries.foldl (fun m x => set x.1 x.2 m) m

lemma Distinct.setAll (h : Distinct m) (entries : List (κ × β)) : Distinct (setAll entries m) := by
  induction entries generalizing m with
  | nil => exact h
  | cons x entries ih => exact ih (h.set x.1 x.2)

lemma lookup_setAll (entries m : List (κ × β)) (k : κ) :
    (setAll entries m).lookup k = (entries.reverse.lookup k).or (m.lookup k) := by
  induction entries generalizing m with
  | nil => rfl
  | cons x entries ih =>
    rw [setAll, foldl_cons, ← setAll, ih, lookup_set, reverse_cons, lookup_append, Option.or_assoc,
      lookup_cons]
    by_cases hk : k = x.1
    · rw [if_pos hk, hk, beq_self_eq_true]
      rfl
    · rw [if_neg hk, beq_false_of_ne hk]
      rfl

lemma Distinct.setAll_nil (h : Distinct m) : (Maps.setAll m []).Perm m := by
  refine (distinct_nil.setAll m).perm_of_lookup h fun k => ?_
  rw [lookup_setAll, ((h.perm m.reverse_perm.symm).lookup_perm m.reverse_perm)]
  simp

variable {ε σ : Type}

omit [DecidableEq κ] in
lemma foldlM_eq_foldl (step : σ → κ × β → Except ε σ) (m : List (κ × β)) (r : Except ε σ) :
    (r >>= fun s => m.foldlM step s) = m.foldl (fun r x => r >>= fun s => step s x) r := by
  induction m generalizing r with
  | nil => cases r <;> rfl
  | cons x m ih =>
    rw [foldl_cons, ← ih]
    cases r <;> rfl

lemma foldlM_perm {step : σ → κ × β → Except ε σ} (hd : Distinct m) (hp : m.Perm m')
    (hcomm : ∀ x ∈ m, ∀ y ∈ m, x.1 ≠ y.1 → ∀ s,
      (step s x >>= fun s => step s y) = step s y >>= fun s => step s x) (s : σ) :
    m.foldlM step s = m'.foldlM step s := by
  refine (foldlM_eq_foldl step m (.ok s)).trans (.trans ?_ (foldlM_eq_foldl step m' (.ok s)).symm)
  refine hp.foldl_eq' (fun x hx y hy r => ?_) _
  cases r with
  | error err => rfl
  | ok s =>
    by_cases hkey : x.1 = y.1
    · rw [hd.eq_of_key hx hy hkey]
    · exact hcomm x hx y hy hkey s

lemma foldl_perm {step : σ → κ × β → σ} (hd : Distinct m) (hp : m.Perm m')
    (hcomm : ∀ x ∈ m, ∀ y ∈ m, x.1 ≠ y.1 → ∀ s, step (step s x) y = step (step s y) x) (s : σ) :
    m.foldl step s = m'.foldl step s := by
  refine hp.foldl_eq' (fun x hx y hy s => ?_) s
  by_cases hkey : x.1 = y.1
  · rw [hd.eq_of_key hx hy hkey]
  · exact hcomm x hx y hy hkey s

omit [DecidableEq κ] in
lemma flatMap_perm {γ : Type} {f : κ × β → List γ} (hp : m.Perm m')
    (hcomm : ∀ x ∈ m, ∀ y ∈ m, f x ++ f y = f y ++ f x) : m.flatMap f = m'.flatMap f := by
  have hloop : ∀ l : List (κ × β), l.flatMap f = l.foldl (fun s x => s ++ f x) [] := fun l => by
    rw [foldl_append_eq_append, nil_append, flatMap_def]
  rw [hloop, hloop]
  refine hp.foldl_eq' (fun x hx y hy s => ?_) []
  rw [append_assoc, append_assoc, hcomm x hx y hy]

variable {α γ : Type}
  {l : List α}

/-- The orders in which the loops at the sites `ι` of a program run. -/
structure Ranges (κ ι : Type) where
  range : ∀ {β : Type}, ι → List (κ × β) → List (κ × β)
  perm : ∀ {β : Type} (site : ι) (m : List (κ × β)), (range site m).Perm m

namespace Ranges

variable {ι : Type}

def asListed : Ranges κ ι := ⟨fun _ m => m, fun _ m => .refl m⟩

def andLast (r : Ranges κ ι) (k : κ) : Ranges κ ι where
  range site m := (r.range site m).filter (·.1 ≠ k) ++ (r.range site m).filter (·.1 = k)
  perm site m := by
    refine List.Perm.trans ?_ (r.perm site m)
    refine perm_append_comm.trans ?_
    simpa using filter_append_perm (fun x => decide (x.1 = k)) (r.range site m)

lemma andLast_range (r : Ranges κ ι) (site : ι) (hd : Distinct m) (hx : (k, v) ∈ m) :
    (r.andLast k).range site m = (r.range site m).filter (·.1 ≠ k) ++ [(k, v)] := by
  change _ ++ _ = _
  rw [(hd.perm (r.perm site m).symm).filter_key ((r.perm site m).mem_iff.2 hx)]

end Ranges

namespace Ranges

variable {ι : Type}

lemma exists_last_two (site : ι) (hd : Distinct m) {x y : κ × β} (hx : x ∈ m) (hy : y ∈ m)
    (hne : x.1 ≠ y.1) : ∃ (r r' : Ranges κ ι) (rest : List (κ × β)),
      r.range site m = rest ++ [x, y] ∧ r'.range site m = rest ++ [y, x] := by
  refine ⟨(asListed.andLast x.1).andLast y.1, (asListed.andLast y.1).andLast x.1,
    (m.filter (·.1 ≠ x.1)).filter (·.1 ≠ y.1), ?_, ?_⟩
  · rw [andLast_range _ _ hd hy, andLast_range _ _ hd hx]
    simp [asListed, hne]
  · rw [andLast_range _ _ hd hx, andLast_range _ _ hd hy]
    simp [asListed, hne.symm, Bool.and_comm]

end Ranges

end SingBox.Lib.Maps
