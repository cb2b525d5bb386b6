import Mathlib.Order.Lattice
import Mathlib.Data.List.Pairwise

namespace SingBox.Lib.Ranges

def searchFrom (f : ℕ → Bool) : ℕ → ℕ → ℕ → ℕ
  | 0, lo, _ => lo
  | turns + 1, lo, hi =>
    if lo < hi then
      if f ((lo + hi) / 2) then searchFrom f turns lo ((lo + hi) / 2)
      else searchFrom f turns ((lo + hi) / 2 + 1) hi
    else lo

def search (n : ℕ) (f : ℕ → Bool) : ℕ := searchFrom f n 0 n

variable {f : ℕ → Bool} {n : ℕ}

def Separates (f : ℕ → Bool) (n i : ℕ) : Prop :=
  i ≤ n ∧ (∀ j < i, f j = false) ∧ ∀ j, i ≤ j → j < n → f j = true

lemma searchFrom_separates (hf : ∀ i j, i ≤ j → j < n → f i = true → f j = true) {turns lo hi : ℕ}
    (hle : lo ≤ hi) (hn : hi ≤ n) (hturns : hi - lo ≤ turns) (hlo : ∀ j < lo, f j = false)
    (hhi : ∀ j, hi ≤ j → j < n → f j = true) : Separates f n (searchFrom f turns lo hi) := by
  induction turns generalizing lo hi with
  | zero =>
    obtain rfl : lo = hi := by omega
    exact ⟨hn, hlo, hhi⟩
  | succ turns ih =>
    rw [searchFrom]
    split_ifs with hlt hmid
    · refine ih (by omega) (by omega) (by omega) hlo fun j hj hjn => ?_
      exact hf _ j hj hjn hmid
    · refine ih (by omega) hn (by omega) (fun j hj => ?_) hhi
      by_contra hfj
      exact hmid (hf j _ (by omega) (by omega) (by simpa using hfj))
    · obtain rfl : lo = hi := by omega
      exact ⟨hn, hlo, hhi⟩

lemma search_separates (hf : ∀ i j, i ≤ j → j < n → f i = true → f j = true) :
    Separates f n (search n f) :=
  searchFrom_separates hf (Nat.zero_le n) (Nat.le_refl n) (by omega) (by omega) (by omega)

variable {α : Type*} [LinearOrder α]

def Ordered (l : List (α × α)) : Prop :=
  (∀ r ∈ l, r.1 ≤ r.2) ∧ l.Pairwise fun r r' => r.2 < r'.1

def startsAfter (l : List (α × α)) (a : α) (i : ℕ) : Bool := l[i]?.any fun r => decide (a < r.1)

def contains (l : List (α × α)) (a : α) : Bool :=
  let n := search l.length (startsAfter l a)
  decide (0 < n) && l[n - 1]?.any fun r => decide (r.1 ≤ a) && decide (a ≤ r.2)

variable {l : List (α × α)} {a : α}
  {i j : ℕ}

lemma Ordered.lt (h : Ordered l) (hij : i < j) (hi : i < l.length) (hj : j < l.length) :
    l[i].2 < l[j].1 :=
  List.pairwise_iff_getElem.1 h.2 i j hi hj hij

lemma startsAfter_getElem (hi : i < l.length) : startsAfter l a i = decide (a < l[i].1) := by
  rw [startsAfter, List.getElem?_eq_getElem hi, Option.any_some]

lemma Ordered.startsAfter_mono (h : Ordered l) (hij : i ≤ j) (hj : j < l.length)
    (hi : startsAfter l a i = true) : startsAfter l a j = true := by
  rcases Nat.eq_or_lt_of_le hij with rfl | hij
  · exact hi
  · have hil : i < l.length := by omega
    rw [startsAfter_getElem hil] at hi
    rw [startsAfter_getElem hj]
    have hle := h.1 l[i] (List.getElem_mem hil)
    exact decide_eq_true ((of_decide_eq_true hi).trans (hle.trans_lt (h.lt hij hil hj)))

lemma contains_iff (h : Ordered l) : contains l a = true ↔ ∃ r ∈ l, r.1 ≤ a ∧ a ≤ r.2 := by
  rw [contains]
  obtain ⟨hle, hbelow, habove⟩ :=
    search_separates (f := startsAfter l a) fun i j hij hj hi => h.startsAfter_mono hij hj hi
  generalize search l.length (startsAfter l a) = n at hle hbelow habove
  constructor
  · intro hc
    obtain ⟨-, hc⟩ := Bool.and_eq_true_iff.1 hc
    obtain ⟨r, hr, hra⟩ := (Option.any_eq_true _ _).1 hc
    exact ⟨r, List.mem_of_getElem? hr, by simpa using hra⟩
  · rintro ⟨r, hr, hfirst, hlast⟩
    obtain ⟨i, hi, rfl⟩ := List.getElem_of_mem hr
    -- The search has passed `i`, and a range after it that begins at or before `a` ends the list.
    have hin : i < n := by
      by_contra hni
      have hfi := habove i (by omega) hi
      rw [startsAfter_getElem hi] at hfi
      exact absurd hfirst (not_le.2 (of_decide_eq_true hfi))
    have hn : n - 1 < l.length := by omega
    obtain rfl : i = n - 1 := by
      by_contra hne
      have hlt := h.lt (by omega : i < n - 1) hi hn
      have hfn := hbelow (n - 1) (by omega)
      rw [startsAfter_getElem hn] at hfn
      exact absurd hlast (not_le.2 (hlt.trans_le (not_lt.1 (of_decide_eq_false hfn))))
    rw [List.getElem?_eq_getElem hi]
    simpa using ⟨by omega, hfirst, hlast⟩

end SingBox.Lib.Ranges
