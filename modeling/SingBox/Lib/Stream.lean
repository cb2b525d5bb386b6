import SingBox.Lib.Wire

/-! Streams that arrive in pieces, and readers whose result does not depend on the pieces. -/

namespace SingBox.Lib.Stream

open List

open Wire (Bytes)

abbrev Pieces := List Bytes

abbrev Reader := StateT Pieces (Except String)

/-- One read into a buffer of `n` bytes; an empty buffer is filled at once. -/
def read : ℕ → Reader Bytes
  | 0, s => .ok ([], s)
  | _ + 1, [] => .error "EOF"
  | n + 1, c :: s => .ok (c.take (n + 1), if c.length ≤ n + 1 then s else c.drop (n + 1) :: s)

def left (s : Pieces) : ℕ := s.flatten.length + s.length

variable {n : ℕ} {b rest : Bytes} {s s' : Pieces}

lemma read_flatten (h : read n s = .ok (b, s')) : s.flatten = b ++ s'.flatten := by
  cases n with
  | zero =>
    cases h
    rfl
  | succ n =>
    cases s with
    | nil => cases h
    | cons c s =>
      cases h
      split_ifs with hle
      · rw [take_of_length_le hle, flatten_cons]
      · rw [flatten_cons, flatten_cons, ← append_assoc, take_append_drop]

lemma length_le_of_read (h : read n s = .ok (b, s')) : b.length ≤ n := by
  cases n with
  | zero =>
    cases h
    exact le_rfl
  | succ n =>
    cases s with
    | nil => cases h
    | cons c s =>
      cases h
      rw [length_take]
      exact min_le_left _ _

lemma read_cons (b : Bytes) (hb : b ≠ []) (s : Pieces) : read b.length (b :: s) = .ok (b, s) := by
  obtain ⟨x, b, rfl⟩ := exists_cons_of_ne_nil hb
  rw [length_cons, read, ← length_cons (a := x), take_length, if_pos le_rfl]

lemma read_cases (hn : 0 < n) (s : Pieces) :
    s = [] ∧ read n s = .error "EOF" ∨ ∃ b s', read n s = .ok (b, s') ∧ left s' < left s := by
  obtain ⟨n, rfl⟩ := Nat.exists_eq_succ_of_ne_zero hn.ne'
  cases s with
  | nil => exact .inl ⟨rfl, rfl⟩
  | cons c s =>
    refine .inr ⟨_, _, rfl, ?_⟩
    split_ifs with hle
    · simp [left]
      omega
    · simp [left]
      omega

def Ready (n : ℕ) (s : Pieces) : Prop := ∃ c s', s = c :: s' ∧ n ≤ c.length

lemma read_of_ready (hs : s.flatten = b ++ rest) (hready : Ready b.length s) :
    ∃ s', read b.length s = .ok (b, s') ∧ s'.flatten = rest := by
  obtain ⟨c, s, rfl, hlen⟩ := hready
  obtain ⟨t, rfl⟩ : b <+: c :=
    prefix_of_prefix_length_le (hs ▸ prefix_append b rest) (prefix_append c _) hlen
  cases b with
  | nil => exact ⟨t :: s, rfl, hs⟩
  | cons x b =>
    rw [flatten_cons, append_assoc, append_cancel_left_eq] at hs
    rw [length_cons, read, ← length_cons (a := x), take_left, drop_left]
    by_cases ht : (x :: b ++ t).length ≤ (x :: b).length
    · obtain rfl : t = [] := eq_nil_of_length_eq_zero (by rw [length_append] at ht; omega)
      exact ⟨s, by rw [if_pos ht], hs⟩
    · exact ⟨t :: s, by rw [if_neg ht], hs⟩

lemma ready_of_read (hread : read (n + 1) s = .ok (b, s')) (hlen : b.length = n + 1) :
    Ready (n + 1) s := by
  cases s with
  | nil => cases hread
  | cons c s =>
    cases hread
    exact ⟨c, s, rfl, by rw [length_take] at hlen; omega⟩

def readFull : ℕ → Reader Bytes
  | 0, s => .ok ([], s)
  | _ + 1, [] => .error "EOF"
  | n + 1, c :: s =>
    if n + 1 < c.length then .ok (c.take (n + 1), c.drop (n + 1) :: s)
    else match readFull (n + 1 - c.length) s with
      | .ok (b, s') => .ok (c ++ b, s')
      | .error err => .error (if c.isEmpty then err else "unexpected EOF")
  termination_by structural _ s => s

def Takes {α : Type} (p : Reader α) (b : Bytes) (a : α) : Prop :=
  ∀ s rest, s.flatten = b ++ rest → ∃ s', p s = .ok (a, s') ∧ s'.flatten = rest

variable {α β : Type} {p : Reader α} {q : α → Reader β} {b' : Bytes} {a : α} {a' : β}

lemma Takes.pure : Takes (pure a) [] a := fun s _ h => ⟨s, rfl, h⟩

lemma Takes.bind (hp : Takes p b a) (hq : Takes (q a) b' a') : Takes (p >>= q) (b ++ b') a' := by
  intro s rest hs
  rw [append_assoc] at hs
  obtain ⟨s₁, hs₁, hrest⟩ := hp s _ hs
  obtain ⟨s₂, hs₂, hrest⟩ := hq s₁ rest hrest
  refine ⟨s₂, ?_, hrest⟩
  change (p s >>= fun x => q x.1 x.2) = _
  rw [hs₁]
  exact hs₂

lemma Takes.map {f : α → β} (hp : Takes p b a) : Takes (f <$> p) b (f a) := by
  intro s rest hs
  obtain ⟨s₁, hs₁, hrest⟩ := hp s rest hs
  refine ⟨s₁, ?_, hrest⟩
  change Except.map _ (p s) = _
  rw [hs₁]
  rfl

def causing (message : String) (p : Reader α) : Reader α := fun s =>
  (p s).mapError (Errors.cause · message)

lemma Takes.causing (hp : Takes p b a) (message : String) : Takes (causing message p) b a := by
  intro s rest hs
  obtain ⟨s', hs', hrest⟩ := hp s rest hs
  exact ⟨s', by rw [Stream.causing, hs']; rfl, hrest⟩

lemma takes_readFull (b : Bytes) : Takes (readFull b.length) b b := by
  intro s
  -- one piece after the other; the last one may reach beyond what is wanted
  induction s generalizing b with
  | nil =>
    intro rest hs
    obtain ⟨rfl, rfl⟩ := append_eq_nil_iff.1 hs.symm
    exact ⟨[], by rw [length_nil, readFull], rfl⟩
  | cons c s ih =>
    intro rest hs
    cases b with
    | nil => exact ⟨c :: s, by rw [length_nil, readFull], hs⟩
    | cons x b =>
      rw [length_cons, readFull, ← length_cons (a := x)]
      rw [flatten_cons] at hs
      by_cases hlt : (x :: b).length < c.length
      · rw [if_pos hlt]
        obtain ⟨c', hc, hrest⟩ | ⟨c', hc, -⟩ := append_eq_append_iff.1 hs.symm
        · refine ⟨c' :: s, ?_, hrest.symm⟩
          rw [hc, take_left, drop_left]
        · rw [hc, length_append] at hlt
          omega
      · rw [if_neg hlt]
        obtain ⟨b', hb, hrest⟩ : ∃ b', x :: b = c ++ b' ∧ s.flatten = b' ++ rest := by
          obtain ⟨b', hb, hrest⟩ | ⟨c', hc, hrest⟩ := append_eq_append_iff.1 hs
          · exact ⟨b', hb, hrest⟩
          · have hc' : c' = [] := by
              rw [hc, length_append] at hlt
              exact eq_nil_of_length_eq_zero (by omega)
            subst hc'
            exact ⟨[], by simpa using hc.symm, by simpa using hrest.symm⟩
        obtain ⟨s', hs', hrest'⟩ := ih b' rest hrest
        have hlen : (x :: b).length - c.length = b'.length := by
          rw [hb, length_append]
          omega
        refine ⟨s', ?_, hrest'⟩
        rw [hlen, hs', hb]

lemma readFull_cons_append (hb : b ≠ []) (t : Bytes) (s : Pieces) :
    readFull b.length ((b ++ t) :: s) = .ok (b, if t = [] then s else t :: s) := by
  have hzero : readFull 0 s = .ok ([], s) := by
    rw [readFull]
  obtain ⟨x, b, rfl⟩ := exists_cons_of_ne_nil hb
  rw [length_cons, readFull, ← length_cons (a := x)]
  by_cases ht : t = []
  · rw [ht, append_nil, if_neg (lt_irrefl _), Nat.sub_self, hzero, if_pos rfl]
    dsimp only
    rw [append_nil]
  · have hpos := length_pos_iff.2 ht
    rw [if_pos (by rw [length_append]; omega), take_left, drop_left, if_neg ht]

lemma readFull_flatten (h : readFull n s = .ok (b, s')) :
    s.flatten = b ++ s'.flatten ∧ b.length = n ∧ s'.length ≤ s.length := by
  induction s generalizing n b with
  | nil =>
    cases n with
    | zero =>
      cases h
      exact ⟨rfl, rfl, le_rfl⟩
    | succ n => cases h
  | cons c s ih =>
    cases n with
    | zero =>
      cases h
      exact ⟨rfl, rfl, le_rfl⟩
    | succ n =>
      rw [readFull] at h
      by_cases hlt : n + 1 < c.length
      · rw [if_pos hlt] at h
        cases h
        refine ⟨?_, ?_, by simp⟩
        · rw [flatten_cons, flatten_cons, ← append_assoc, take_append_drop]
        · rw [length_take]
          omega
      · rw [if_neg hlt] at h
        cases hrest : readFull (n + 1 - c.length) s with
        | error err =>
          rw [hrest] at h
          cases h
        | ok x =>
          rw [hrest] at h
          cases h
          obtain ⟨hflat, hlen, hle⟩ := ih hrest
          refine ⟨?_, ?_, by rw [length_cons]; omega⟩
          · rw [flatten_cons, hflat, append_assoc]
          · rw [length_append, hlen]
            omega

lemma readFull_of_flatten_eq_nil (hs : s.flatten = []) : readFull (n + 1) s = .error "EOF" := by
  induction s with
  | nil => rfl
  | cons c s ih =>
    rw [flatten_cons, append_eq_nil_iff] at hs
    rw [readFull, hs.1, if_neg (by simp), length_nil, Nat.sub_zero, ih hs.2]
    rfl

lemma left_le_of_readFull (h : readFull n s = .ok (b, s')) : left s' + n ≤ left s := by
  obtain ⟨hflat, hlen, hle⟩ := readFull_flatten h
  rw [left, left, hflat, length_append]
  omega

def skipN (n : ℕ) : Reader Unit := do
  let _ ← readFull n

lemma skipN_eq (n : ℕ) (s : Pieces) : skipN n s = (fun x => ((), x.2)) <$> readFull n s := by
  change (readFull n s >>= fun _ => pure _) = _
  cases readFull n s <;> rfl

lemma left_le_of_skipN (h : skipN n s = .ok ((), s')) : left s' + n ≤ left s := by
  rw [skipN_eq] at h
  obtain ⟨x, hx, heq⟩ := Errors.map_eq_ok.1 h
  cases heq
  exact left_le_of_readFull hx

lemma takes_skipN (b : Bytes) : Takes (skipN b.length) b () := by
  have h := (takes_readFull b).bind (q := fun _ => pure ()) Takes.pure
  rwa [append_nil] at h

def readBigEndian (k : ℕ) : Reader ℕ := Wire.ofBigEndian <$> readFull k

lemma takes_readBigEndian {k : ℕ} (hn : n < 256 ^ k) :
    Takes (readBigEndian k) (Wire.putBigEndian k n) n := by
  have h := (takes_readFull (Wire.putBigEndian k n)).map (f := Wire.ofBigEndian)
  rwa [Wire.length_putBigEndian, Wire.ofBigEndian_putBigEndian hn] at h

end SingBox.Lib.Stream
