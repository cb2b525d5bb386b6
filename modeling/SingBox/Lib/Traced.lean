import SingBox.Lib.Wire

namespace SingBox.Lib.Traced

open Wire List

inductive Stop where
  | error (err : String)
  | panic
  deriving DecidableEq, Repr

def Stop.mapError (f : String → String) : Stop → Stop
  | .error err => .error (f err)
  | .panic => .panic

def Tracer (ε α : Type) : Type := Bytes → List ε × Except Stop (α × Bytes)

variable {ε α β : Type}

def andThen (p : Tracer ε α) (q : α → Tracer ε β) : Tracer ε β := fun s =>
  match p s with
  | (log, .error stop) => (log, .error stop)
  | (log, .ok (a, rest)) => (log ++ (q a rest).1, (q a rest).2)

instance : Monad (Tracer ε) where
  pure a := fun s => ([], .ok (a, s))
  bind := andThen

def lift (p : Reader α) : Tracer ε α := fun s => ([], (p s).mapError .error)

def announce (allowed : ε → Bool) (event : ℕ → ε) : Tracer ε Unit := fun s =>
  ([event s.length], if allowed (event s.length) then .ok ((), s) else .error .panic)

def withError (f : String → String) (p : Tracer ε α) : Tracer ε α := fun s =>
  ((p s).1, (p s).2.mapError (Stop.mapError f))

def readMany (p : Tracer ε α) (err : ℕ → String → String) : ℕ → ℕ → Tracer ε (List α)
  | _, 0 => pure []
  | i, n + 1 => do
    let a ← withError (err i) p
    let l ← readMany p err (i + 1) n
    return a :: l

variable {p : Tracer ε α} {q : α → Tracer ε β} {s rest : Bytes} {log : List ε} {a : α} {stop : Stop}

lemma bind_error (h : p s = (log, .error stop)) : (p >>= q) s = (log, .error stop) := by
  change andThen p q s = _
  rw [andThen, h]

lemma bind_ok (h : p s = (log, .ok (a, rest))) :
    (p >>= q) s = (log ++ (q a rest).1, (q a rest).2) := by
  change andThen p q s = _
  rw [andThen, h]

lemma bind_eq_ok {t : Bytes} {log' : List ε} {b : β} (h : (p >>= q) s = (log', .ok (b, t))) :
    ∃ log a rest log'', p s = (log, .ok (a, rest)) ∧ q a rest = (log'', .ok (b, t)) ∧
      log' = log ++ log'' := by
  cases hp : p s with
  | mk log result =>
    cases result with
    | error stop =>
      rw [bind_error hp] at h
      cases h
    | ok x =>
      rw [bind_ok hp] at h
      have hlog : log ++ (q x.1 x.2).1 = log' := congrArg Prod.fst h
      have hresult : (q x.1 x.2).2 = .ok (b, t) := congrArg Prod.snd h
      exact ⟨log, x.1, x.2, (q x.1 x.2).1, rfl, Prod.ext rfl hresult, hlog.symm⟩

structure Models (p : (ε → Bool) → Tracer ε α) (r : Reader α) : Prop where
  result : ∀ s, (p (fun _ => true) s).2 = (r s).mapError .error
  allowed : ∀ ok s, (∀ e ∈ (p (fun _ => true) s).1, ok e = true) → p ok s = p (fun _ => true) s
  refused : ∀ ok s, (∃ e ∈ (p (fun _ => true) s).1, ok e = false) → (p ok s).2 = .error .panic

namespace Models

variable {p : (ε → Bool) → Tracer ε α} {r : Reader α}

lemma pure (a : α) : Models (fun _ : ε → Bool => Pure.pure a) (Pure.pure a) where
  result _ := rfl
  allowed _ _ _ := rfl
  refused _ _ h := by
    obtain ⟨_, h, -⟩ := h
    cases h

lemma lift (r : Reader α) : Models (fun _ : ε → Bool => Traced.lift r) r where
  result _ := rfl
  allowed _ _ _ := rfl
  refused _ _ h := by
    obtain ⟨_, h, -⟩ := h
    cases h

lemma eq_of_error (hp : Models p r) {err : String} (h : r s = .error err) :
    p (fun _ => true) s = ((p (fun _ => true) s).1, .error (.error err)) := by
  refine Prod.ext rfl ?_
  rw [hp.result, h]
  rfl

lemma eq_of_ok (hp : Models p r) (h : r s = .ok (a, rest)) :
    p (fun _ => true) s = ((p (fun _ => true) s).1, .ok (a, rest)) := by
  refine Prod.ext rfl ?_
  rw [hp.result, h]
  rfl

lemma reads (hp : Models p r) (h : p (fun _ => true) s = (log, .ok (a, rest))) :
    Reads r s a rest := by
  have hresult := hp.result s
  rw [h] at hresult
  cases hr : r s with
  | error err =>
    rw [hr] at hresult
    cases hresult
  | ok x =>
    rw [hr] at hresult
    cases hresult
    exact hr

lemma bind {q : (ε → Bool) → α → Tracer ε β} {t : α → Reader β} (hp : Models p r)
    (hq : ∀ a, Models (fun ok => q ok a) (t a)) : Models (fun ok => p ok >>= q ok) (r >>= t) where
  result s := by
    change _ = Except.mapError _ (r s >>= fun x => t x.1 x.2)
    cases hr : r s with
    | error err =>
      rw [bind_error (hp.eq_of_error hr)]
      rfl
    | ok x =>
      rw [bind_ok (hp.eq_of_ok hr)]
      exact (hq x.1).result x.2
  allowed ok s h := by
    cases hr : r s with
    | error err =>
      have hall := hp.eq_of_error hr
      rw [bind_error hall] at h ⊢
      exact bind_error ((hp.allowed ok s h).trans hall)
    | ok x =>
      have hall := hp.eq_of_ok hr
      rw [bind_ok hall] at h ⊢
      obtain ⟨hfirst, hrest⟩ := forall_mem_append.1 h
      rw [bind_ok ((hp.allowed ok s hfirst).trans hall), (hq x.1).allowed ok x.2 hrest]
  refused ok s h := by
    -- An event that is refused early keeps the later ones from being announced.
    by_cases hfirst : ∃ e ∈ (p (fun _ => true) s).1, ok e = false
    · have hpanic : p ok s = ((p ok s).1, .error .panic) := Prod.ext rfl (hp.refused ok s hfirst)
      rw [bind_error hpanic]
    · have hok : ∀ e ∈ (p (fun _ => true) s).1, ok e = true := by simpa using hfirst
      cases hr : r s with
      | error err =>
        rw [bind_error (hp.eq_of_error hr)] at h
        exact absurd h hfirst
      | ok x =>
        have hall := hp.eq_of_ok hr
        rw [bind_ok hall] at h
        obtain ⟨e, he, hbad⟩ := h
        rw [bind_ok ((hp.allowed ok s hok).trans hall)]
        rcases mem_append.1 he with he | he
        · exact absurd ⟨e, he, hbad⟩ hfirst
        · exact (hq x.1).refused ok x.2 ⟨e, he, hbad⟩

lemma announce (event : ℕ → ε) (hp : Models p r) :
    Models (fun ok => do Traced.announce ok event; p ok) r := by
  have h : Models (fun ok => Traced.announce ok event) (Pure.pure ()) :=
    { result := fun _ => rfl
      allowed := fun ok s h => by
        rw [Traced.announce, if_pos (h _ mem_cons_self)]
        rfl
      refused := fun ok s h => by
        obtain ⟨e, he, hbad⟩ := h
        obtain rfl := mem_singleton.1 he
        rw [Traced.announce, if_neg (by simp [hbad])] }
  exact h.bind fun _ => hp

lemma withError (f : String → String) (hp : Models p r) :
    Models (fun ok => Traced.withError f (p ok)) fun s => (r s).mapError f where
  result s := by
    rw [Traced.withError, hp.result]
    cases r s <;> rfl
  allowed ok s h := by
    rw [Traced.withError, Traced.withError, hp.allowed ok s h]
  refused ok s h := by
    rw [Traced.withError, hp.refused ok s h]
    rfl

lemma readMany (err : ℕ → String → String) (hp : Models p r) (i n : ℕ) :
    Models (fun ok => Traced.readMany (p ok) err i n) (Wire.readMany r err i n) := by
  induction n generalizing i with
  | zero => exact .pure []
  | succ n ih => exact (hp.withError (err i)).bind fun a => (ih (i + 1)).bind fun l => .pure (a :: l)

end Models

def Fitting (fits : ε → Prop) (p : Tracer ε α) : Prop :=
  ∀ s log a rest, p s = (log, .ok (a, rest)) → ∀ e ∈ log, fits e

namespace Fitting

variable {fits : ε → Prop}

lemma pure (a : α) : Fitting fits (Pure.pure a) := by
  intro s log b rest h
  cases h
  exact fun _ he => absurd he not_mem_nil

lemma lift (r : Reader α) : Fitting fits (Traced.lift r) := by
  intro s log b rest h
  obtain rfl : [] = log := congrArg Prod.fst h
  exact fun _ he => absurd he not_mem_nil

lemma bind (hp : Fitting fits p) (hq : ∀ a, Fitting fits (q a)) : Fitting fits (p >>= q) := by
  intro s log b t h
  obtain ⟨log₁, a, rest, log₂, hfirst, hsecond, rfl⟩ := bind_eq_ok h
  exact forall_mem_append.2 ⟨hp s _ a rest hfirst, hq a rest _ b t hsecond⟩

lemma announce {event : ℕ → ε} (hp : Fitting fits p)
    (he : ∀ s log a rest, p s = (log, .ok (a, rest)) → fits (event s.length)) :
    Fitting fits (do Traced.announce (fun _ => true) event; p) := by
  intro s log a rest h
  obtain ⟨log₁, _, _, log₂, hfirst, hsecond, rfl⟩ := bind_eq_ok h
  cases hfirst
  refine forall_mem_append.2 ⟨fun e hmem => ?_, hp _ _ _ _ hsecond⟩
  rw [mem_singleton.1 hmem]
  exact he _ _ _ _ hsecond

lemma withError (f : String → String) (hp : Fitting fits p) : Fitting fits (withError f p) := by
  intro s log a rest h
  have hlog : (p s).1 = log := congrArg Prod.fst h
  have hresult : (p s).2.mapError (Stop.mapError f) = .ok (a, rest) := congrArg Prod.snd h
  cases hp' : (p s).2 with
  | error stop =>
    rw [hp'] at hresult
    cases hresult
  | ok x =>
    exact hp s log x.1 x.2 (Prod.ext hlog hp')

lemma readMany {err : ℕ → String → String} (hp : Fitting fits p) (i n : ℕ) :
    Fitting fits (readMany p err i n) := by
  induction n generalizing i with
  | zero => exact .pure []
  | succ n ih => exact (hp.withError (err i)).bind fun a => (ih (i + 1)).bind fun l => .pure (a :: l)

end Fitting

end SingBox.Lib.Traced
