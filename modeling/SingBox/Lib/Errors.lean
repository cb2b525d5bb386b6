import Mathlib.Data.List.Basic
import Mathlib.Data.List.Forall2

namespace SingBox.Lib.Errors

open List

def cause (err message : String) : String := message ++ ": " ++ err

def extend (err message : String) : String := err ++ ": " ++ message

variable {α β : Type*}

def mapFrom (f : ℕ → α → Except String β) : ℕ → List α → Except String (List β)
  | _, [] => .ok []
  | i, a :: l => do
    let b ← f i a
    let bs ← mapFrom f (i + 1) l
    return b :: bs

lemma bind_eq_ok {ε α β : Type} {x : Except ε α} {f : α → Except ε β} {b : β} :
    (x >>= f) = .ok b ↔ ∃ a, x = .ok a ∧ f a = .ok b := by
  cases x with
  | error err => simp [bind, Except.bind]
  | ok a => simp [bind, Except.bind]

lemma bind_eq_error {ε α β : Type} {x : Except ε α} {f : α → Except ε β} {err : ε} :
    (x >>= f) = .error err ↔ x = .error err ∨ ∃ a, x = .ok a ∧ f a = .error err := by
  cases x <;> simp [bind, Except.bind]

lemma exists_bind_iff {ε α β : Type} {x : Except ε α} {f : α → Except ε β} :
    (∃ b, (x >>= f) = .ok b) ↔ ∃ a, x = .ok a ∧ ∃ b, f a = .ok b := by
  cases x <;> simp [bind, Except.bind]

lemma exists_bind_pure_iff {ε α β : Type} {x : Except ε α} {g : α → β} :
    (∃ b, (x >>= fun a => pure (g a)) = .ok b) ↔ ∃ a, x = .ok a := by
  cases x <;> simp [bind, Except.bind, pure, Except.pure]

lemma map_eq_ok {ε α β : Type} {x : Except ε α} {f : α → β} {b : β} :
    f <$> x = .ok b ↔ ∃ a, x = .ok a ∧ f a = b := by
  cases x with
  | error err => simp [Functor.map, Except.map]
  | ok a => simp [Functor.map, Except.map]

lemma map_eq_error {ε α β : Type} {x : Except ε α} {f : α → β} {err : ε} :
    f <$> x = .error err ↔ x = .error err := by
  cases x with
  | error err => simp [Functor.map, Except.map]
  | ok a => simp [Functor.map, Except.map]

variable {R : α → β → Prop} {l : List α} {l' : List β}

lemma exists_right_of_forall₂ (h : List.Forall₂ R l l') {a : α} (ha : a ∈ l) : ∃ b ∈ l', R a b := by
  induction h with
  | nil => exact absurd ha not_mem_nil
  | cons hab _ ih =>
    rcases mem_cons.1 ha with rfl | ha
    · exact ⟨_, mem_cons_self, hab⟩
    · obtain ⟨b, hb, hab⟩ := ih ha
      exact ⟨b, mem_cons_of_mem _ hb, hab⟩

lemma exists_first {P : α → Prop} (h : ∃ a ∈ l, P a) :
    ∃ before a after, l = before ++ a :: after ∧ (∀ b ∈ before, ¬ P b) ∧ P a := by
  classical
  obtain ⟨a, ha⟩ := Option.isSome_iff_exists.1 ((find?_isSome (p := (P ·))).2 (by simpa using h))
  obtain ⟨hP, before, after, hl, hbefore⟩ := find?_eq_some_iff_append.1 ha
  exact ⟨before, a, after, hl, fun b hb => by simpa using hbefore b hb, by simpa using hP⟩

lemma exists_left_of_forall₂ (h : List.Forall₂ R l l') {b : β} (hb : b ∈ l') : ∃ a ∈ l, R a b :=
  exists_right_of_forall₂ h.flip hb

lemma exists_forall₂ (h : ∀ a ∈ l, ∃ b, R a b) : ∃ l', List.Forall₂ R l l' := by
  induction l with
  | nil => exact ⟨[], .nil⟩
  | cons a l ih =>
    obtain ⟨b, hb⟩ := h a mem_cons_self
    obtain ⟨l', hl'⟩ := ih fun a ha => h a (mem_cons_of_mem _ ha)
    exact ⟨b :: l', .cons hb hl'⟩

lemma exists_mem_forall₂ {ε : Type*} {g : α → Except ε β} {P : β → Prop}
    (h : List.Forall₂ (fun a b => g a = .ok b) l l') :
    (∃ b ∈ l', P b) ↔ ∃ a ∈ l, ∃ b, g a = .ok b ∧ P b := by
  constructor
  · rintro ⟨b, hb, hP⟩
    obtain ⟨a, ha, hab⟩ := exists_left_of_forall₂ h hb
    exact ⟨a, ha, b, hab, hP⟩
  · rintro ⟨a, ha, b, hab, hP⟩
    obtain ⟨b', hb', hab'⟩ := exists_right_of_forall₂ h ha
    cases hab.symm.trans hab'
    exact ⟨b, hb', hP⟩

lemma mapFrom_eq_ok {α β ε : Type} {f : ℕ → α → Except String β} {g : α → Except ε β}
    (hf : ∀ i a b, f i a = .ok b ↔ g a = .ok b) {i : ℕ} {l : List α} {bs : List β} :
    mapFrom f i l = .ok bs ↔ List.Forall₂ (fun a b => g a = .ok b) l bs := by
  induction l generalizing i bs with
  | nil =>
    rw [mapFrom, forall₂_nil_left_iff, Except.ok.injEq, eq_comm]
  | cons a l ih =>
    rw [mapFrom, bind_eq_ok]
    constructor
    · rintro ⟨b, hb, h⟩
      obtain ⟨rest, hrest, h⟩ := bind_eq_ok.1 h
      cases h
      exact .cons ((hf i a b).1 hb) (ih.1 hrest)
    · rintro (_ | ⟨hb, hrest⟩)
      exact ⟨_, (hf i a _).2 hb, bind_eq_ok.2 ⟨_, ih.2 hrest, rfl⟩⟩

lemma exists_mapFrom_iff {α β : Type} {f : ℕ → α → Except String β} {P : α → Prop}
    (hf : ∀ i a, (∃ b, f i a = .ok b) ↔ P a) {i : ℕ} {l : List α} :
    (∃ bs, mapFrom f i l = .ok bs) ↔ ∀ a ∈ l, P a := by
  induction l generalizing i with
  | nil => simp [mapFrom]
  | cons a l ih =>
    rw [forall_mem_cons, ← hf i a, ← ih]
    constructor
    · rintro ⟨bs, h⟩
      obtain ⟨b, hb, h⟩ := bind_eq_ok.1 h
      obtain ⟨rest, hrest, -⟩ := bind_eq_ok.1 h
      exact ⟨⟨b, hb⟩, rest, hrest⟩
    · rintro ⟨⟨b, hb⟩, rest, hrest⟩
      exact ⟨b :: rest, bind_eq_ok.2 ⟨b, hb, bind_eq_ok.2 ⟨rest, hrest, rfl⟩⟩⟩

lemma mapFrom_eq_nil {α β : Type} {f : ℕ → α → Except String β} {i : ℕ} {l : List α}
    (h : mapFrom f i l = .ok []) : l = [] := by
  cases l with
  | nil => rfl
  | cons a l =>
    obtain ⟨b, -, h⟩ := bind_eq_ok.1 h
    obtain ⟨bs, -, h⟩ := bind_eq_ok.1 h
    cases h

lemma exists_error {ε α : Type*} {x : Except ε α} (h : ¬ ∃ a, x = .ok a) : ∃ err, x = .error err := by
  cases x with
  | error err => exact ⟨err, rfl⟩
  | ok a => exact absurd ⟨a, rfl⟩ h

variable {ε α σ : Type} {step : σ → α → Except ε σ} {l l' : List α} {s s' : σ}

lemma foldlM_append_eq_ok : (l ++ l').foldlM step s = .ok s' ↔
    ∃ s₁, l.foldlM step s = .ok s₁ ∧ l'.foldlM step s₁ = .ok s' := by
  rw [foldlM_append, bind_eq_ok]

lemma foldlM_singleton {a : α} : [a].foldlM step s = step s a := by
  rw [foldlM_cons]
  cases step s a <;> rfl

lemma foldlM_invariant {P : σ → Prop} (hstep : ∀ s a s', a ∈ l → P s → step s a = .ok s' → P s') (hs : P s)
    (h : l.foldlM step s = .ok s') : P s' := by
  induction l generalizing s with
  | nil =>
    cases h
    exact hs
  | cons a l ih =>
    obtain ⟨s₁, hs₁, h⟩ := bind_eq_ok.1 h
    exact ih (fun s a s' ha => hstep s a s' (mem_cons_of_mem _ ha))
      (hstep s a s₁ mem_cons_self hs hs₁) h

lemma foldlM_turn (h : l.foldlM step s = .ok s') {a : α} (ha : a ∈ l) :
    ∃ before after s₁ s₂, l = before ++ a :: after ∧ before.foldlM step s = .ok s₁ ∧ step s₁ a = .ok s₂ ∧
      after.foldlM step s₂ = .ok s' := by
  obtain ⟨before, after, rfl⟩ := append_of_mem ha
  obtain ⟨s₁, hs₁, h⟩ := foldlM_append_eq_ok.1 h
  obtain ⟨s₂, hs₂, h⟩ := bind_eq_ok.1 h
  exact ⟨before, after, s₁, s₂, rfl, hs₁, hs₂, h⟩

lemma foldlM_eq_error {err : ε} : l.foldlM step s = .error err ↔
    ∃ before a after s₁, l = before ++ a :: after ∧ before.foldlM step s = .ok s₁ ∧ step s₁ a = .error err := by
  constructor
  · intro h
    induction l generalizing s with
    | nil => cases h
    | cons a l ih =>
      rcases bind_eq_error.1 h with hstep | ⟨s₁, hs₁, h⟩
      · exact ⟨[], a, l, s, rfl, rfl, hstep⟩
      · obtain ⟨before, b, after, s₂, rfl, hbefore, hb⟩ := ih h
        refine ⟨a :: before, b, after, s₂, rfl, ?_, hb⟩
        exact bind_eq_ok.2 ⟨s₁, hs₁, hbefore⟩
  · rintro ⟨before, a, after, s₁, rfl, hbefore, ha⟩
    rw [foldlM_append]
    refine bind_eq_error.2 (.inr ⟨s₁, hbefore, ?_⟩)
    exact bind_eq_error.2 (.inl ha)

variable {β : Type} {err : ε} {bad bad' : Prop} {x : Except ε α}

def FailsIff (err : ε) (bad : Prop) (x : Except ε α) : Prop :=
  bad ∧ x = .error err ∨ ¬ bad ∧ ∃ a, x = .ok a

namespace FailsIff

lemma ok (a : α) : FailsIff err False (.ok a) := .inr ⟨not_false, a, rfl⟩

lemma congr (h : FailsIff err bad x) (hbad : bad' ↔ bad) : FailsIff err bad' x := by
  rwa [hbad]

lemma error_iff (h : FailsIff err bad x) : x = .error err ↔ bad := by
  obtain ⟨hbad, rfl⟩ | ⟨hgood, a, rfl⟩ := h
  · exact ⟨fun _ => hbad, fun _ => rfl⟩
  · exact ⟨nofun, fun hbad => absurd hbad hgood⟩

lemma map (h : FailsIff err bad x) (f : α → β) : FailsIff err bad (x.map f) := by
  obtain ⟨hbad, rfl⟩ | ⟨hgood, a, rfl⟩ := h
  · exact .inl ⟨hbad, rfl⟩
  · exact .inr ⟨hgood, f a, rfl⟩

lemma bind (h : FailsIff err bad x) {f : α → Except ε β} (hf : ∀ a, FailsIff err bad' (f a)) :
    FailsIff err (bad ∨ bad') (x >>= f) := by
  obtain ⟨hbad, rfl⟩ | ⟨hgood, a, rfl⟩ := h
  · exact .inl ⟨.inl hbad, rfl⟩
  · exact (hf a).congr (or_iff_right hgood)

lemma bind_ok (h : FailsIff err bad x) (f : α → β) : FailsIff err bad (x >>= fun a => .ok (f a)) :=
  (h.bind fun a => .ok (f a)).congr (or_false bad).symm.to_iff

lemma foldlM {σ : Type} {step : σ → α → Except ε σ} {isBad : α → Prop}
    (hstep : ∀ s a, FailsIff err (isBad a) (step s a)) (l : List α) (s : σ) :
    FailsIff err (∃ a ∈ l, isBad a) (l.foldlM step s) := by
  induction l generalizing s with
  | nil => exact (ok s).congr (by simp)
  | cons a l ih =>
    exact ((hstep s a).bind ih).congr (by simp)

end FailsIff

end SingBox.Lib.Errors
