import Mathlib.Data.List.Basic

/-! Searches through a list that hand a state on from one element to the next. -/

namespace SingBox.Lib.Search

open List

variable {α σ : Type*} {f : α → σ → Bool × σ} {l : List α} {s : σ}

def anyS (f : α → σ → Bool × σ) : List α → σ → Bool × σ
  | [], s => (false, s)
  | a :: l, s => if (f a s).1 then (true, (f a s).2) else anyS f l (f a s).2

def allS (f : α → σ → Bool × σ) : List α → σ → Bool × σ
  | [], s => (true, s)
  | a :: l, s => if (f a s).1 then allS f l (f a s).2 else (false, (f a s).2)

def through (f : α → σ → Bool × σ) : List α → σ → σ
  | [], s => s
  | a :: l, s => through f l (f a s).2

@[simp] lemma anyS_nil : anyS f [] s = (false, s) := rfl

@[simp] lemma allS_nil : allS f [] s = (true, s) := rfl

lemma anyS_cons (a : α) :
    anyS f (a :: l) s = if (f a s).1 then (true, (f a s).2) else anyS f l (f a s).2 := rfl

lemma allS_cons (a : α) :
    allS f (a :: l) s = if (f a s).1 then allS f l (f a s).2 else (false, (f a s).2) := rfl

lemma anyS_singleton (a : α) : anyS f [a] s = f a s := by
  rw [anyS_cons, anyS_nil]
  cases h : f a s with
  | mk found s' => cases found <;> rfl

lemma anyS_iff_split :
    (anyS f l s).1 = true ↔
      ∃ before a after, l = before ++ a :: after ∧ (f a (through f before s)).1 = true := by
  induction l generalizing s with
  | nil => simp
  | cons b l ih =>
    rw [anyS_cons]
    split_ifs with hb
    · exact ⟨fun _ => ⟨[], b, l, rfl, hb⟩, fun _ => rfl⟩
    · rw [ih]
      refine ⟨?_, ?_⟩
      · rintro ⟨before, a, after, rfl, ha⟩
        exact ⟨b :: before, a, after, rfl, ha⟩
      · rintro ⟨before, a, after, hl, ha⟩
        cases before with
        | nil =>
          obtain ⟨rfl, rfl⟩ := cons_eq_cons.1 hl
          exact (hb ha).elim
        | cons c before =>
          obtain ⟨rfl, rfl⟩ := cons_eq_cons.1 hl
          exact ⟨before, a, after, rfl, ha⟩

variable {I : σ → Prop} {p : α → Bool}

lemma anyS_invariant (h : ∀ a ∈ l, ∀ s, I s → I (f a s).2) (hs : I s) : I (anyS f l s).2 := by
  induction l generalizing s with
  | nil => exact hs
  | cons b l ih =>
    have hb := h b (by simp) s hs
    rw [anyS_cons]
    split_ifs
    · exact hb
    · exact ih (fun a ha => h a (mem_cons_of_mem _ ha)) hb

lemma allS_invariant (h : ∀ a ∈ l, ∀ s, I s → I (f a s).2) (hs : I s) : I (allS f l s).2 := by
  induction l generalizing s with
  | nil => exact hs
  | cons b l ih =>
    have hb := h b (by simp) s hs
    rw [allS_cons]
    split_ifs
    · exact ih (fun a ha => h a (mem_cons_of_mem _ ha)) hb
    · exact hb

lemma anyS_eq_true_iff {s' : σ} :
    anyS f l s = (true, s') ↔ ∃ before a after, l = before ++ a :: after ∧
      (anyS f before s).1 = false ∧ f a (through f before s) = (true, s') := by
  induction l generalizing s with
  | nil => simp
  | cons b l ih =>
    rw [anyS_cons]
    split_ifs with hb
    · refine ⟨fun h => ⟨[], b, l, rfl, rfl, ?_⟩, ?_⟩
      · cases h
        exact Prod.ext hb rfl
      · rintro ⟨before, a, after, hl, hno, ha⟩
        cases before with
        | nil =>
          obtain ⟨rfl, rfl⟩ := cons_eq_cons.1 hl
          exact congrArg (fun x => (true, x.2)) ha
        | cons c before =>
          obtain ⟨rfl, rfl⟩ := cons_eq_cons.1 hl
          simp [anyS_cons, hb] at hno
    · rw [ih]
      refine ⟨?_, ?_⟩
      · rintro ⟨before, a, after, rfl, hno, ha⟩
        exact ⟨b :: before, a, after, rfl, by rw [anyS_cons, if_neg hb, hno], ha⟩
      · rintro ⟨before, a, after, hl, hno, ha⟩
        cases before with
        | nil =>
          obtain ⟨rfl, rfl⟩ := cons_eq_cons.1 hl
          rw [through] at ha
          simp [ha] at hb
        | cons c before =>
          obtain ⟨rfl, rfl⟩ := cons_eq_cons.1 hl
          rw [anyS_cons, if_neg hb] at hno
          exact ⟨before, a, after, rfl, hno, ha⟩

lemma anyS_append (l' : List α) :
    anyS f (l ++ l') s = if (anyS f l s).1 then anyS f l s else anyS f l' (anyS f l s).2 := by
  induction l generalizing s with
  | nil => simp
  | cons b l ih =>
    rw [cons_append, anyS_cons, anyS_cons]
    by_cases hb : (f b s).1 = true
    · simp [hb]
    · simp only [hb, Bool.false_eq_true, if_false, ih]

lemma allS_append (l' : List α) :
    allS f (l ++ l') s = if (allS f l s).1 then allS f l' (allS f l s).2 else allS f l s := by
  induction l generalizing s with
  | nil => simp
  | cons b l ih =>
    rw [cons_append, allS_cons, allS_cons]
    by_cases hb : (f b s).1 = true
    · simp only [hb, if_true, ih]
    · simp [hb]

section Agree

variable {τ : Type*} {R : σ → τ → Prop} {g : α → τ → Bool × τ}

def Agree (R : σ → τ → Prop) (f : σ → Bool × σ) (g : τ → Bool × τ) : Prop :=
  ∀ s t, R s t → (f s).1 = (g t).1 ∧ R (f s).2 (g t).2

lemma anyS_agree (h : ∀ a ∈ l, Agree R (f a) (g a)) : Agree R (anyS f l) (anyS g l) := by
  induction l with
  | nil => exact fun s t hst => ⟨rfl, hst⟩
  | cons a l ih =>
    intro s t hst
    obtain ⟨hfound, hleft⟩ := h a (by simp) s t hst
    rw [anyS_cons, anyS_cons, ← hfound]
    split_ifs
    · exact ⟨rfl, hleft⟩
    · exact ih (fun b hb => h b (mem_cons_of_mem _ hb)) _ _ hleft

lemma allS_agree (h : ∀ a ∈ l, Agree R (f a) (g a)) : Agree R (allS f l) (allS g l) := by
  induction l with
  | nil => exact fun s t hst => ⟨rfl, hst⟩
  | cons a l ih =>
    intro s t hst
    obtain ⟨hfound, hleft⟩ := h a (by simp) s t hst
    rw [allS_cons, allS_cons, ← hfound]
    split_ifs
    · exact ih (fun b hb => h b (mem_cons_of_mem _ hb)) _ _ hleft
    · exact ⟨rfl, hleft⟩

variable {φ : σ → σ}

lemma agree_comm {f : σ → Bool × σ} :
    Agree (fun s t => φ s = t) f f ↔ ∀ s, f (φ s) = ((f s).1, φ (f s).2) := by
  refine ⟨fun h s => ?_, ?_⟩
  · obtain ⟨hfound, hleft⟩ := h s _ rfl
    exact Prod.ext hfound.symm hleft.symm
  · rintro h s _ rfl
    rw [h s]
    exact ⟨rfl, rfl⟩

lemma anyS_comm (h : ∀ a ∈ l, ∀ s, f a (φ s) = ((f a s).1, φ (f a s).2)) :
    anyS f l (φ s) = ((anyS f l s).1, φ (anyS f l s).2) :=
  agree_comm.1 (anyS_agree fun a ha => agree_comm.2 (h a ha)) s

lemma allS_comm (h : ∀ a ∈ l, ∀ s, f a (φ s) = ((f a s).1, φ (f a s).2)) :
    allS f l (φ s) = ((allS f l s).1, φ (allS f l s).2) :=
  agree_comm.1 (allS_agree fun a ha => agree_comm.2 (h a ha)) s

end Agree

lemma allS_congr {f' : α → σ → Bool × σ} (h : ∀ a ∈ l, ∀ s, f a s = f' a s) :
    allS f l s = allS f' l s := by
  induction l generalizing s with
  | nil => rfl
  | cons a l ih => rw [allS_cons, allS_cons, h a (by simp), ih fun b hb => h b (mem_cons_of_mem _ hb)]

lemma anyS_flatMap {β : Type*} {g : β → List α} {ls : List β} :
    anyS (fun b s => anyS f (g b) s) ls s = anyS f (ls.flatMap g) s := by
  induction ls generalizing s with
  | nil => rfl
  | cons b ls ih =>
    rw [anyS_cons, flatMap_cons, anyS_append, ih]
    split_ifs with hb
    · exact Prod.ext hb.symm rfl
    · rfl

lemma any_congr_mem {q : α → Bool} (h : ∀ a ∈ l, p a = q a) : l.any p = l.any q := by
  rw [Bool.eq_iff_iff, any_eq_true, any_eq_true]
  exact exists_congr fun a => and_congr_right fun ha => by rw [h a ha]

lemma all_congr_mem {q : α → Bool} (h : ∀ a ∈ l, p a = q a) : l.all p = l.all q := by
  rw [Bool.eq_iff_iff, all_eq_true, all_eq_true]
  exact forall₂_congr fun a ha => by rw [h a ha]

lemma any_const (h : l ≠ []) (b : Bool) : (l.any fun _ => b) = b := by
  cases l with
  | nil => exact absurd rfl h
  | cons a l => cases b <;> simp

lemma anyS_eq_any (h : ∀ a ∈ l, ∀ s, I s → (f a s).1 = p a ∧ I (f a s).2) (hs : I s) :
    (anyS f l s).1 = l.any p ∧ I (anyS f l s).2 := by
  induction l generalizing s with
  | nil => exact ⟨rfl, hs⟩
  | cons b l ih =>
    obtain ⟨hb, hI⟩ := h b (by simp) s hs
    rw [anyS_cons, any_cons, hb]
    cases p b with
    | true => exact ⟨rfl, hI⟩
    | false => simpa using ih (fun a ha => h a (mem_cons_of_mem _ ha)) hI

lemma anyS_fst_eq_any (h : ∀ a ∈ l, ∀ s, I s → (f a s).1 = p a ∧ (p a = false → I (f a s).2))
    (hs : I s) : (anyS f l s).1 = l.any p ∧ (l.any p = false → I (anyS f l s).2) := by
  induction l generalizing s with
  | nil => exact ⟨rfl, fun _ => hs⟩
  | cons a l ih =>
    obtain ⟨hval, hI⟩ := h a (by simp) s hs
    rw [anyS_cons, any_cons, hval]
    cases hp : p a with
    | true => simp
    | false => exact ih (fun b hb => h b (mem_cons_of_mem _ hb)) (hI hp)

lemma allS_eq_all (h : ∀ a ∈ l, ∀ s, I s → (f a s).1 = p a ∧ I (f a s).2) (hs : I s) :
    (allS f l s).1 = l.all p ∧ I (allS f l s).2 := by
  induction l generalizing s with
  | nil => exact ⟨rfl, hs⟩
  | cons b l ih =>
    obtain ⟨hb, hI⟩ := h b (by simp) s hs
    rw [allS_cons, all_cons, hb]
    cases p b with
    | true => simpa using ih (fun a ha => h a (mem_cons_of_mem _ ha)) hI
    | false => exact ⟨rfl, hI⟩

lemma anyS_pure (h : ∀ a ∈ l, f a s = (p a, s)) : anyS f l s = (l.any p, s) := by
  have hI : ∀ a ∈ l, ∀ t, t = s → (f a t).1 = p a ∧ (f a t).2 = s := by
    rintro a ha t rfl
    simp [h a ha]
  exact Prod.ext (anyS_eq_any hI rfl).1 (anyS_eq_any hI rfl).2

variable {p q : List α → α → Bool} {before : List α}

def first (p : List α → α → Bool) : List α → List α → Option (List α × α)
  | _, [] => none
  | before, a :: l => if p before a then some (before, a) else first p (before ++ [a]) l

variable {x : List α × α}

lemma first_split (h : first p before l = some x) : ∃ after, before ++ l = x.1 ++ x.2 :: after := by
  induction l generalizing before with
  | nil => cases h
  | cons a l ih =>
    rw [first] at h
    split_ifs at h
    · cases h
      exact ⟨l, rfl⟩
    · obtain ⟨after, hafter⟩ := ih h
      exact ⟨after, by rw [← hafter, append_assoc]; rfl⟩

lemma first_satisfies (h : first p before l = some x) : p x.1 x.2 = true := by
  induction l generalizing before with
  | nil => cases h
  | cons a l ih =>
    rw [first] at h
    split_ifs at h with ha
    · cases h
      exact ha
    · exact ih h

lemma first_and_eq (h : ∀ x, first p before l = some x → q x.1 x.2 = true) :
    first (fun b a => p b a && q b a) before l = first p before l := by
  induction l generalizing before with
  | nil => rfl
  | cons a l ih =>
    rw [first, first]
    rw [first] at h
    by_cases hp : p before a
    · have hq := h (before, a) (if_pos hp)
      rw [if_pos hp, if_pos (Bool.and_eq_true_iff.2 ⟨hp, hq⟩)]
    · rw [if_neg hp] at h ⊢
      rw [if_neg fun hpq => hp (Bool.and_eq_true_iff.1 hpq).1]
      exact ih h

lemma first_and_map_eq_iff {β : Type*} {g : List α × α → β}
    (hg : ∀ x y, g x = g y → q x.1 x.2 = q y.1 y.2) :
    (first (fun b a => p b a && q b a) before l).map g = (first p before l).map g ↔
      ∀ x, first p before l = some x → q x.1 x.2 = true := by
  refine ⟨fun h x hx => ?_, fun h => congrArg (Option.map g) (first_and_eq h)⟩
  rw [hx, Option.map_some, Option.map_eq_some_iff] at h
  obtain ⟨y, hy, hgy⟩ := h
  rw [← hg y x hgy]
  exact (Bool.and_eq_true_iff.1 (first_satisfies hy)).2

lemma first_length_le (h : first p before l = some x) : before.length ≤ x.1.length := by
  induction l generalizing before with
  | nil => cases h
  | cons a l ih =>
    rw [first] at h
    split_ifs at h
    · cases h
      exact Nat.le_refl _
    · have hle := ih h
      rw [length_append] at hle
      omega

lemma first_ne_some (a : α) : first p (before ++ [a]) l ≠ some (before, a) := by
  intro h
  have hle : (before ++ [a]).length ≤ before.length := first_length_le h
  rw [length_append, length_singleton] at hle
  omega

lemma first_eq_iff {r : α → Bool} :
    first p before l = first (fun _ => r) before l ↔
      ∀ passed a after, l = passed ++ a :: after → (∀ b ∈ passed, r b = false) →
        p (before ++ passed) a = r a := by
  induction l generalizing before with
  | nil => simp [first]
  | cons a l ih =>
    have hsplit : (∀ passed b after, a :: l = passed ++ b :: after → (∀ c ∈ passed, r c = false) →
        p (before ++ passed) b = r b) ↔ p before a = r a ∧ (r a = false →
          ∀ passed b after, l = passed ++ b :: after → (∀ c ∈ passed, r c = false) →
            p (before ++ [a] ++ passed) b = r b) := by
      refine ⟨fun h => ⟨by simpa using h [] a l rfl (by simp), ?_⟩, ?_⟩
      · rintro ha passed b after rfl hpassed
        simpa using h (a :: passed) b after rfl (by simpa [ha] using hpassed)
      · rintro ⟨ha, h⟩ passed b after hl hpassed
        cases passed with
        | nil =>
          obtain ⟨rfl, -⟩ := cons_eq_cons.1 hl
          simpa using ha
        | cons c passed =>
          obtain ⟨rfl, rfl⟩ := cons_eq_cons.1 hl
          obtain ⟨hc, hpassed⟩ := forall_mem_cons.1 hpassed
          simpa using h hc passed b after rfl hpassed
    rw [hsplit, first, first]
    cases hp : p before a <;> cases hr : r a
    · simpa using @ih (before ++ [a])
    · simpa using first_ne_some a
    · simpa using (first_ne_some a).symm
    · simp

lemma first_eq_of_length_eq
    (h : (first p [] l).map (fun x => x.1.length) = (first q [] l).map fun x => x.1.length) :
    first p [] l = first q [] l := by
  cases hp : first p [] l with
  | none => rw [hp, Option.map_none, eq_comm, Option.map_eq_none_iff] at h; exact h.symm
  | some x =>
    rw [hp, Option.map_some, eq_comm, Option.map_eq_some_iff] at h
    obtain ⟨y, hq, hlen⟩ := h
    obtain ⟨after, hx⟩ := first_split hp
    obtain ⟨after', hy⟩ := first_split hq
    obtain ⟨hpassed, hrest⟩ := append_inj (hx.symm.trans hy) hlen.symm
    rw [hq, Prod.ext hpassed (cons_eq_cons.1 hrest).1]

end SingBox.Lib.Search
