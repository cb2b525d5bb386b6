import Mathlib.Data.Nat.Notation
import Mathlib.Logic.Function.Basic

/-! Anchored regular expressions with groups, matched by backtracking: of several ways to match,
the one preferred by the greedy and lazy operators counts. -/

namespace SingBox.Lib.Regexp

open List Function

inductive Re where
  | one (p : Char → Bool)
  | many (p : Char → Bool) (isLazy : Bool)
  | seq (r r' : Re)
  | alt (r r' : Re)
  | opt (r : Re)
  | group (n : ℕ) (r : Re)

abbrev Groups := ℕ → String

abbrev Cont := List Char → Groups → Option Groups

def orElse (r : Option Groups) (r' : Unit → Option Groups) : Option Groups :=
  match r with
  | some g => some g
  | none => r' ()

def runMany (p : Char → Bool) (isLazy : Bool) : List Char → Groups → Cont → Option Groups
  | [], g, k => k [] g
  | c :: s, g, k =>
    let longer := fun _ => if p c then runMany p isLazy s g k else none
    if isLazy then orElse (k (c :: s) g) longer else orElse (longer ()) fun _ => k (c :: s) g

def Re.run : Re → List Char → Groups → Cont → Option Groups
  | .one p, s, g, k => match s with
    | [] => none
    | c :: s => if p c then k s g else none
  | .many p isLazy, s, g, k => runMany p isLazy s g k
  | .seq r r', s, g, k => r.run s g fun s g => r'.run s g k
  | .alt r r', s, g, k => orElse (r.run s g k) fun _ => r'.run s g k
  | .opt r, s, g, k => orElse (r.run s g k) fun _ => k s g
  | .group n r, s, g, k => r.run s g fun rest g =>
    k rest (update g n (String.ofList (s.take (s.length - rest.length))))

def Re.findStringSubmatch (r : Re) (s : String) : Option Groups :=
  r.run s.toList (fun _ => "") fun rest g => if rest.isEmpty then some g else none

namespace Re

def char (c : Char) : Re := one (· == c)

def seqs : Re → List Re → Re
  | r, [] => r
  | r, r' :: rs => seq r (seqs r' rs)

def dot (c : Char) : Bool := c != '\n'

def lazyStar (p : Char → Bool) : Re := many p true

def lazyPlus (p : Char → Bool) : Re := seq (one p) (many p true)

def star (p : Char → Bool) : Re := many p false

def plus (p : Char → Bool) : Re := seq (one p) (many p false)

end Re

def Re.Accepts : Re → List Char → Prop
  | .one p, s => ∃ c, p c = true ∧ s = [c]
  | .many p _, s => ∀ c ∈ s, p c = true
  | .seq r r', s => ∃ u v, s = u ++ v ∧ r.Accepts u ∧ r'.Accepts v
  | .alt r r', s => r.Accepts s ∨ r'.Accepts s
  | .opt r, s => r.Accepts s ∨ s = []
  | .group _ r, s => r.Accepts s

variable {s : List Char} {g : Groups} {k : Cont} {K : List Char → Prop}
  {r' : Unit → Option Groups}

lemma orElse_isSome {r : Option Groups} :
    (orElse r r').isSome = true ↔ r.isSome = true ∨ (r' ()).isSome = true := by
  cases r <;> simp [orElse]

variable {p : Char → Bool} {isLazy : Bool}

lemma runMany_isSome_iff (hk : ∀ s g, (k s g).isSome = true ↔ K s) :
    (runMany p isLazy s g k).isSome = true ↔
      ∃ u v, s = u ++ v ∧ (∀ c ∈ u, p c = true) ∧ K v := by
  induction s with
  | nil =>
    rw [runMany, hk]
    constructor
    · exact fun h => ⟨[], [], rfl, fun _ hc => absurd hc not_mem_nil, h⟩
    · rintro ⟨u, v, huv, -, hv⟩
      obtain ⟨-, rfl⟩ := append_eq_nil_iff.1 huv.symm
      exact hv
  | cons c s ih =>
    have hlonger : (if p c = true then runMany p isLazy s g k else none).isSome = true ↔
        p c = true ∧ (runMany p isLazy s g k).isSome = true := by
      cases p c <;> simp
    have hsplit : (runMany p isLazy (c :: s) g k).isSome = true ↔
        K (c :: s) ∨ p c = true ∧ (runMany p isLazy s g k).isSome = true := by
      rw [runMany]
      cases isLazy
      · rw [if_neg (by simp), orElse_isSome, hlonger, hk, or_comm]
      · rw [if_pos rfl, orElse_isSome, hlonger, hk]
    rw [hsplit, ih]
    constructor
    · rintro (h | ⟨hc, u, v, rfl, hu, hv⟩)
      · exact ⟨[], c :: s, rfl, fun _ hc => absurd hc not_mem_nil, h⟩
      · exact ⟨c :: u, v, rfl, forall_mem_cons.2 ⟨hc, hu⟩, hv⟩
    · rintro ⟨_ | ⟨c', u⟩, v, huv, hu, hv⟩
      · exact .inl (huv ▸ hv)
      · obtain ⟨rfl, rfl⟩ := List.cons.inj huv
        obtain ⟨hc, hu⟩ := forall_mem_cons.1 hu
        exact .inr ⟨hc, u, v, rfl, hu, hv⟩

lemma run_isSome_iff (r : Re) (hk : ∀ s g, (k s g).isSome = true ↔ K s) :
    (r.run s g k).isSome = true ↔ ∃ u v, s = u ++ v ∧ r.Accepts u ∧ K v := by
  induction r generalizing s g k K with
  | one p =>
    cases s with
    | nil => simp [Re.run, Re.Accepts]
    | cons c s =>
      have hrun : ((Re.one p).run (c :: s) g k).isSome = true ↔ p c = true ∧ K s := by
        rw [Re.run, ← hk s g]
        cases p c <;> simp
      rw [hrun]
      constructor
      · rintro ⟨hc, hs⟩
        exact ⟨[c], s, rfl, ⟨c, hc, rfl⟩, hs⟩
      · rintro ⟨_, v, huv, ⟨c', hc, rfl⟩, hv⟩
        obtain ⟨rfl, rfl⟩ := List.cons.inj huv
        exact ⟨hc, hv⟩
  | many p isLazy => exact runMany_isSome_iff hk
  | seq r r' ih ih' =>
    have hrest : ∀ s g, (r'.run s g k).isSome = true ↔ ∃ u v, s = u ++ v ∧ r'.Accepts u ∧ K v :=
      fun s g => ih' hk
    rw [Re.run, ih hrest]
    constructor
    · rintro ⟨u, _, rfl, hu, v, w, rfl, hv, hw⟩
      exact ⟨u ++ v, w, (append_assoc u v w).symm, ⟨u, v, rfl, hu, hv⟩, hw⟩
    · rintro ⟨_, w, rfl, ⟨u, v, rfl, hu, hv⟩, hw⟩
      exact ⟨u, v ++ w, append_assoc u v w, hu, v, w, rfl, hv, hw⟩
  | alt r r' ih ih' =>
    rw [Re.run, orElse_isSome, ih hk, ih' hk]
    constructor
    · rintro (⟨u, v, rfl, hu, hv⟩ | ⟨u, v, rfl, hu, hv⟩)
      · exact ⟨u, v, rfl, .inl hu, hv⟩
      · exact ⟨u, v, rfl, .inr hu, hv⟩
    · rintro ⟨u, v, rfl, hu | hu, hv⟩
      · exact .inl ⟨u, v, rfl, hu, hv⟩
      · exact .inr ⟨u, v, rfl, hu, hv⟩
  | opt r ih =>
    rw [Re.run, orElse_isSome, ih hk, hk]
    constructor
    · rintro (⟨u, v, rfl, hu, hv⟩ | h)
      · exact ⟨u, v, rfl, .inl hu, hv⟩
      · exact ⟨[], s, rfl, .inr rfl, h⟩
    · rintro ⟨u, v, rfl, hu | rfl, hv⟩
      · exact .inl ⟨u, v, rfl, hu, hv⟩
      · exact .inr hv
  | group n r ih => exact ih fun s g => hk s _

lemma findStringSubmatch_isSome_iff (r : Re) (s : String) :
    (r.findStringSubmatch s).isSome = true ↔ r.Accepts s.toList := by
  have hend : ∀ (rest : List Char) (g : Groups),
      (if rest.isEmpty then some g else none).isSome = true ↔ rest = [] := by
    intro rest g
    cases rest <;> simp
  rw [Re.findStringSubmatch, run_isSome_iff r hend]
  simp

def Re.avoids (c : Char) : Re → Bool
  | .one p => !p c
  | .many p _ => !p c
  | .seq r r' => r.avoids c && r'.avoids c
  | .alt r r' => r.avoids c && r'.avoids c
  | .opt r => r.avoids c
  | .group _ r => r.avoids c

variable {r : Re} {c : Char}

lemma not_mem_of_accepts (h : r.avoids c = true) (hs : r.Accepts s) : c ∉ s := by
  induction r generalizing s with
  | one p =>
    obtain ⟨c', hc', rfl⟩ := hs
    rintro hmem
    rw [mem_singleton.1 hmem] at h
    simp [Re.avoids, hc'] at h
  | many p isLazy =>
    intro hmem
    simp [Re.avoids, hs c hmem] at h
  | seq r r' ih ih' =>
    obtain ⟨u, v, rfl, hu, hv⟩ := hs
    rw [Re.avoids, Bool.and_eq_true] at h
    rw [mem_append, not_or]
    exact ⟨ih h.1 hu, ih' h.2 hv⟩
  | alt r r' ih ih' =>
    rw [Re.avoids, Bool.and_eq_true] at h
    rcases hs with hs | hs
    · exact ih h.1 hs
    · exact ih' h.2 hs
  | opt r ih =>
    rcases hs with hs | rfl
    · exact ih h hs
    · exact not_mem_nil
  | group n r ih => exact ih h hs

lemma mem_of_accepts_seqs {rs : List Re} (h : (Re.seqs r rs).Accepts s) (hc : Re.char c ∈ r :: rs) :
    c ∈ s := by
  have hchar : ∀ {t : List Char}, (Re.char c).Accepts t → c ∈ t := by
    rintro t ⟨e, he, rfl⟩
    rw [beq_iff_eq.1 he]
    exact mem_singleton_self c
  induction rs generalizing r s with
  | nil =>
    rw [mem_singleton] at hc
    exact hchar (hc ▸ h)
  | cons r' rs ih =>
    obtain ⟨u, v, rfl, hu, hv⟩ := h
    rcases mem_cons.1 hc with rfl | hc
    · exact mem_append_left _ (hchar hu)
    · exact mem_append_right _ (ih hv hc)

variable {result : Groups}

variable {u v : List Char} {r : Groups}

lemma runMany_lazy (hu : ∀ c ∈ u, p c = true)
    (hk : ∀ u₁ c u₂, u = u₁ ++ c :: u₂ → k (c :: (u₂ ++ v)) g = none) (hv : k v g = some r) :
    runMany p true (u ++ v) g k = some r := by
  induction u with
  | nil =>
    rw [nil_append]
    cases v with
    | nil => exact hv
    | cons c v =>
      rw [runMany, hv]
      rfl
  | cons c u ih =>
    obtain ⟨hc, hu⟩ := forall_mem_cons.1 hu
    have hrest := ih hu fun u₁ c' u₂ h => hk (c :: u₁) c' u₂ (by rw [h, cons_append])
    rw [cons_append, runMany, if_pos rfl, hk [] c u rfl, orElse, if_pos hc, hrest]

lemma runMany_greedy (hu : ∀ c ∈ u, p c = true) (hstop : ∀ c ∈ v.head?, p c = false)
    (hv : k v g = some r) : runMany p false (u ++ v) g k = some r := by
  induction u with
  | nil =>
    rw [nil_append]
    cases v with
    | nil => exact hv
    | cons c v =>
      have hc : p c = false := hstop c rfl
      rw [runMany, hc, hv]
      rfl
  | cons c u ih =>
    obtain ⟨hc, hu⟩ := forall_mem_cons.1 hu
    rw [cons_append, runMany, if_pos hc, ih hu]
    rfl

lemma take_append_sub (u v : List Char) : (u ++ v).take ((u ++ v).length - v.length) = u := by
  rw [length_append, Nat.add_sub_cancel, take_left]

lemma run_seq (r₁ r₂ : Re) (s : List Char) (g : Groups) (k : Cont) :
    (Re.seq r₁ r₂).run s g k = r₁.run s g fun s g => r₂.run s g k := rfl

lemma run_char_self (c : Char) (s : List Char) (g : Groups) (k : Cont) :
    (Re.char c).run (c :: s) g k = k s g := by
  rw [Re.char, Re.run, if_pos (beq_self_eq_true c)]

lemma run_char_of_ne {c' : Char} (h : c' ≠ c) (s : List Char) (g : Groups) (k : Cont) :
    (Re.char c).run (c' :: s) g k = none := by
  rw [Re.char, Re.run, if_neg (by simpa using h)]

variable {r' : Re} {n : ℕ}

lemma run_seq_lazyStar (hu : ∀ c ∈ u, p c = true)
    (hk : ∀ u₁ c u₂, u = u₁ ++ c :: u₂ → ∀ g, r'.run (c :: (u₂ ++ v)) g k = none)
    (hv : r'.run v (update g n (String.ofList u)) k = some r) :
    (Re.seq (Re.group n (Re.lazyStar p)) r').run (u ++ v) g k = some r := by
  refine runMany_lazy hu (fun u₁ c u₂ h => hk u₁ c u₂ h _) ?_
  rwa [take_append_sub]

lemma run_seq_plus (hu : ∀ c ∈ u, p c = true) (hne : u ≠ []) (hstop : ∀ c ∈ v.head?, p c = false)
    (hv : r'.run v (update g n (String.ofList u)) k = some r) :
    (Re.seq (Re.group n (Re.plus p)) r').run (u ++ v) g k = some r := by
  obtain ⟨c, u, rfl⟩ := exists_cons_of_ne_nil hne
  obtain ⟨hc, hu⟩ := forall_mem_cons.1 hu
  rw [run_seq, Re.run, Re.plus, Re.run, cons_append, Re.run, if_pos hc]
  refine runMany_greedy hu hstop ?_
  rwa [← cons_append, take_append_sub]

lemma run_seq_lazyPlus (hu : ∀ c ∈ u, p c = true) (hne : u ≠ [])
    (hk : ∀ u₁ c u₂, u = u₁ ++ c :: u₂ → u₁ ≠ [] → ∀ g, r'.run (c :: (u₂ ++ v)) g k = none)
    (hv : r'.run v (update g n (String.ofList u)) k = some r) :
    (Re.seq (Re.group n (Re.lazyPlus p)) r').run (u ++ v) g k = some r := by
  obtain ⟨c, u, rfl⟩ := exists_cons_of_ne_nil hne
  obtain ⟨hc, hu⟩ := forall_mem_cons.1 hu
  rw [run_seq, Re.run, Re.lazyPlus, Re.run, cons_append, Re.run, if_pos hc]
  refine runMany_lazy hu (fun u₁ c' u₂ h => hk (c :: u₁) c' u₂ (by rw [h, cons_append]) (by simp) _) ?_
  rwa [← cons_append, take_append_sub]

lemma run_lazyStar_end (hu : ∀ c ∈ u, p c = true) :
    ((Re.group n (Re.lazyStar p)).run u g fun rest g => if rest.isEmpty then some g else none) =
      some (update g n (String.ofList u)) := by
  have hend := runMany_lazy (v := []) (g := g) (r := update g n (.ofList u))
    (k := fun rest g => if rest.isEmpty then
      some (update g n (.ofList (u.take (u.length - rest.length)))) else none)
    hu (fun u₁ c u₂ h => rfl) (by simp)
  rwa [append_nil] at hend

lemma run_opt_of_some (h : r'.run s g k = some r) : (Re.opt r').run s g k = some r := by
  rw [Re.run, h]
  rfl

lemma run_opt_of_none (h : r'.run s g k = none) : (Re.opt r').run s g k = k s g := by
  rw [Re.run, h]
  rfl

end SingBox.Lib.Regexp
