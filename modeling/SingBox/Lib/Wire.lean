import Mathlib.Tactic.Ring
import SingBox.Lib.Errors

/-! Readers of byte streams, and formats whose readers undo their writers. -/

namespace SingBox.Lib.Wire

open Errors List

abbrev Bytes := List UInt8

abbrev Reader := StateT Bytes (Except String)

variable {α β : Type}

def Reads (p : Reader α) (s : Bytes) (a : α) (rest : Bytes) : Prop := p s = .ok (a, rest)

def fail (err : String) : Reader α := fun _ => .error err

variable {p : Reader α} {q : α → Reader β} {s s' rest : Bytes} {a : α} {b : β}

lemma Reads.pure : Reads (pure a) s a s := rfl

lemma Reads.bind (hp : Reads p s a s') (hq : Reads (q a) s' b rest) :
    Reads (p >>= q) s b rest := by
  change (p s >>= fun x => q x.1 x.2) = _
  rw [hp]
  exact hq

lemma Reads.of_bind (h : Reads (p >>= q) s b rest) :
    ∃ a s', Reads p s a s' ∧ Reads (q a) s' b rest := by
  change (p s >>= fun x => q x.1 x.2) = _ at h
  cases hread : p s with
  | error err =>
    rw [hread] at h
    cases h
  | ok x =>
    rw [hread] at h
    exact ⟨x.1, x.2, hread, h⟩

lemma Reads.map {f : α → β} (hp : Reads p s a rest) : Reads (f <$> p) s (f a) rest := by
  change Except.map _ (p s) = _
  rw [hp]
  rfl

lemma Reads.unique {a' : α} {rest' : Bytes} (h : Reads p s a rest) (h' : Reads p s a' rest') :
    a = a' ∧ rest = rest' := by
  rw [Reads, h] at h'
  exact ⟨congrArg Prod.fst (Except.ok.inj h'), congrArg Prod.snd (Except.ok.inj h')⟩

def readByte : Reader UInt8
  | [] => .error "EOF"
  | b :: rest => .ok (b, rest)

lemma readByte_cons (b : UInt8) (rest : Bytes) : Reads readByte (b :: rest) b rest := rfl

lemma eq_cons_of_readByte {b : UInt8} (h : Reads readByte s b rest) : s = b :: rest := by
  cases s with
  | nil => cases h
  | cons c s =>
    cases h
    rfl

def readFull (n : ℕ) : Reader Bytes := fun s =>
  if s.length < n then .error (if s.isEmpty then "EOF" else "unexpected EOF")
  else .ok (s.take n, s.drop n)

lemma eq_append_of_readFull {n : ℕ} {b : Bytes} (h : Reads (readFull n) s b rest) :
    b.length = n ∧ s = b ++ rest := by
  unfold Reads readFull at h
  split_ifs at h
  cases h
  exact ⟨by simp; omega, (take_append_drop n s).symm⟩

lemma readFull_append (s rest : Bytes) : Reads (readFull s.length) (s ++ rest) s rest := by
  rw [Reads, readFull, if_neg (by simp)]
  simp

def putBool (b : Bool) : UInt8 := if b then 1 else 0

def readBool : Reader Bool := do
  let b ← readByte
  return b != 0

lemma readBool_putBool (b : Bool) (rest : Bytes) : Reads readBool (putBool b :: rest) b rest := by
  cases b <;> rfl

def Shrinks (p : Reader α) : Prop := ∀ s a rest, Reads p s a rest → rest.length ≤ s.length

lemma Shrinks.pure (a : α) : Shrinks (pure a : Reader α) := by
  rintro s a rest ⟨⟩
  exact le_rfl

lemma Shrinks.bind (hp : Shrinks p) (hq : ∀ a, Shrinks (q a)) : Shrinks (p >>= q) := by
  intro s b rest h
  obtain ⟨a, s', hread, h⟩ := h.of_bind
  exact (hq a s' b rest h).trans (hp s a s' hread)

variable {f : α → β}

lemma Shrinks.map (hp : Shrinks p) : Shrinks (f <$> p) := by
  intro s b rest h
  obtain ⟨x, hread, h⟩ := map_eq_ok.1 h
  cases h
  exact hp s x.1 x.2 hread

lemma Shrinks.fail (err : String) : Shrinks (fail err : Reader α) := by
  rintro s a rest ⟨⟩

lemma shrinks_readFull (n : ℕ) : Shrinks (readFull n) := by
  intro s b rest h
  unfold Reads readFull at h
  split_ifs at h
  cases h
  rw [length_drop]
  exact Nat.sub_le _ _

lemma shrinks_readByte : Shrinks readByte := by
  intro s b rest h
  rw [eq_cons_of_readByte h]
  exact Nat.le_succ _

lemma shrinks_readBool : Shrinks readBool := shrinks_readByte.bind fun _ => .pure _

def Consumes (p : Reader α) : Prop := ∀ s a rest, Reads p s a rest → rest.length < s.length

lemma consumes_readByte : Consumes readByte := by
  intro s b rest h
  rw [eq_cons_of_readByte h]
  exact Nat.lt_succ_self _

lemma Consumes.shrinks (hp : Consumes p) : Shrinks p := fun s a rest h => (hp s a rest h).le

lemma Consumes.bind (hp : Consumes p) (hq : ∀ a, Shrinks (q a)) : Consumes (p >>= q) := by
  intro s b rest h
  obtain ⟨a, s', hread, h⟩ := h.of_bind
  exact (hq a s' b rest h).trans_lt (hp s a s' hread)

lemma Consumes.map (hp : Consumes p) : Consumes (f <$> p) := by
  intro s b rest h
  obtain ⟨x, hread, h⟩ := map_eq_ok.1 h
  cases h
  exact hp s x.1 x.2 hread

def putBigEndian : ℕ → ℕ → Bytes
  | 0, _ => []
  | k + 1, n => putBigEndian k (n / 256) ++ [UInt8.ofNat (n % 256)]

def ofBigEndian (s : Bytes) : ℕ := s.foldl (fun n b => n * 256 + b.toNat) 0

lemma ofBigEndian_cons_lt (b : UInt8) (s : Bytes) :
    ofBigEndian (b :: s) < (b.toNat + 1) * 256 ^ s.length := by
  have hfold : ∀ (s : Bytes) (n : ℕ),
      s.foldl (fun n b => n * 256 + b.toNat) n < (n + 1) * 256 ^ s.length := by
    intro s
    induction s with
    | nil => simp
    | cons b s ih =>
      intro n
      have hb := b.toNat_lt
      refine (ih (n * 256 + b.toNat)).trans_le ?_
      rw [length_cons, pow_succ', ← mul_assoc]
      exact Nat.mul_le_mul_right _ (by omega)
  simpa [ofBigEndian] using hfold s b.toNat

lemma ofBigEndian_lt (s : Bytes) : ofBigEndian s < 256 ^ s.length := by
  cases s with
  | nil => simp [ofBigEndian]
  | cons b s =>
    have hb := b.toNat_lt
    refine (ofBigEndian_cons_lt b s).trans_le ?_
    rw [length_cons, pow_succ']
    exact Nat.mul_le_mul_right _ (by omega)

def readBigEndian (k : ℕ) : Reader ℕ := do
  let s ← readFull k
  return ofBigEndian s

variable {k n : ℕ}

lemma eq_of_readBigEndian (h : Reads (readBigEndian k) s n rest) :
    k ≤ s.length ∧ n = ofBigEndian (s.take k) := by
  obtain ⟨b, s', hread, h⟩ := h.of_bind
  cases h
  unfold Reads readFull at hread
  split_ifs at hread with hlen
  · cases hread
    exact ⟨by omega, rfl⟩

lemma length_putBigEndian (k n : ℕ) : (putBigEndian k n).length = k := by
  induction k generalizing n with
  | zero => rfl
  | succ k ih => simp [putBigEndian, ih]

lemma ofBigEndian_putBigEndian (hn : n < 256 ^ k) : ofBigEndian (putBigEndian k n) = n := by
  induction k generalizing n with
  | zero =>
    have h0 : n = 0 := by simpa using hn
    rw [h0]
    rfl
  | succ k ih =>
    have hq : n / 256 < 256 ^ k := by
      rw [pow_succ] at hn
      exact Nat.div_lt_of_lt_mul (by rw [mul_comm]; exact hn)
    have hr : (UInt8.ofNat (n % 256)).toNat = n % 256 := by
      simp
    have hstep : ofBigEndian (putBigEndian (k + 1) n) =
        ofBigEndian (putBigEndian k (n / 256)) * 256 + (UInt8.ofNat (n % 256)).toNat := by
      simp [ofBigEndian, putBigEndian, foldl_append]
    rw [hstep, ih hq, hr]
    omega

lemma readBigEndian_putBigEndian (hn : n < 256 ^ k) (rest : Bytes) :
    Reads (readBigEndian k) (putBigEndian k n ++ rest) n rest := by
  have h := readFull_append (putBigEndian k n) rest
  rw [length_putBigEndian] at h
  refine h.bind ?_
  rw [ofBigEndian_putBigEndian hn]
  exact Reads.pure

def putUvarint : ℕ → ℕ → Bytes
  | 0, n => [UInt8.ofNat n]
  | k + 1, n =>
    if n < 128 then [UInt8.ofNat n] else UInt8.ofNat (n % 128 + 128) :: putUvarint k (n / 128)

def writeUvarint (n : ℕ) : Bytes := putUvarint 9 n

def readContinued : Reader UInt8
  | [] => .error "unexpected EOF"
  | b :: rest => .ok (b, rest)

def getUvarint : ℕ → Reader ℕ
  | 0 => fail "binary: varint overflows a 64-bit integer"
  | k + 1 => do
    let b ← if k = 9 then readByte else readContinued
    if b < 128 then
      if k = 0 ∧ 1 < b then fail "binary: varint overflows a 64-bit integer" else return b.toNat
    else do
      let n ← getUvarint k
      return b.toNat % 128 + 128 * n

def readUvarint : Reader ℕ := getUvarint 10

lemma getUvarint_cons (k : ℕ) (b : UInt8) (rest : Bytes) :
    getUvarint (k + 1) (b :: rest) =
      (if b < 128 then
        if k = 0 ∧ 1 < b then fail "binary: varint overflows a 64-bit integer" else pure b.toNat
      else do
        let n ← getUvarint k
        return b.toNat % 128 + 128 * n : Reader ℕ) rest := by
  rw [getUvarint]
  split <;> rfl

lemma getUvarint_putUvarint (hn : n < 2 ^ (7 * k + 1)) (rest : Bytes) :
    Reads (getUvarint (k + 1)) (putUvarint k n ++ rest) n rest := by
  induction k generalizing n with
  | zero =>
    obtain rfl | rfl : n = 0 ∨ n = 1 := by omega
    · rfl
    · rfl
  | succ k ih =>
    rw [putUvarint]
    split_ifs with hsmall
    · have hb : (UInt8.ofNat n).toNat = n := by
        simp
        omega
      have hlt : UInt8.ofNat n < 128 := by
        rw [UInt8.lt_iff_toNat_lt, hb]
        exact hsmall
      rw [singleton_append, Reads, getUvarint_cons, if_pos hlt, if_neg (by simp), hb]
      rfl
    · have hb : (UInt8.ofNat (n % 128 + 128)).toNat = n % 128 + 128 := by
        simp
        omega
      have hge : ¬UInt8.ofNat (n % 128 + 128) < 128 := by
        rw [UInt8.lt_iff_toNat_lt, hb]
        simp
      have hq : n / 128 < 2 ^ (7 * k + 1) := by
        have hpow : 2 ^ (7 * (k + 1) + 1) = 128 * 2 ^ (7 * k + 1) := by
          ring
        exact Nat.div_lt_of_lt_mul (hpow ▸ hn)
      rw [cons_append, Reads, getUvarint_cons, if_neg hge, hb]
      refine (ih hq).bind ?_
      have hsum : (n % 128 + 128) % 128 + 128 * (n / 128) = n := by
        omega
      rw [hsum]
      exact Reads.pure

lemma readUvarint_writeUvarint (hn : n < 2 ^ 64) (rest : Bytes) :
    Reads readUvarint (writeUvarint n ++ rest) n rest :=
  getUvarint_putUvarint hn rest

/-- A shortest encoding of a number other than zero ends within such bytes. -/
structure Steady (s : Bytes) : Prop where
  ne_zero : ∀ b ∈ s, b ≠ 0
  ends : ∃ b ∈ s, b < 128

lemma Steady.perm {s s' : Bytes} (h : Steady s) (hperm : s.Perm s') : Steady s' :=
  ⟨fun b hb => h.ne_zero b (hperm.mem_iff.2 hb), h.ends.imp fun _ hb => ⟨hperm.mem_iff.1 hb.1, hb.2⟩⟩

lemma steady_putUvarint (hpos : 0 < n) (hn : n < 2 ^ (7 * k + 1)) : Steady (putUvarint k n) := by
  have hsmall : ∀ n, 0 < n → n < 128 → Steady [UInt8.ofNat n] := by
    intro n hpos hn
    have hb : (UInt8.ofNat n).toNat = n := by
      rw [UInt8.toNat_ofNat']
      omega
    refine ⟨fun b hb0 hzero => ?_, _, mem_singleton_self _, ?_⟩
    · rw [mem_singleton.1 hb0, ← UInt8.toNat_inj, hb] at hzero
      exact absurd hzero (Nat.ne_of_gt hpos)
    · rw [UInt8.lt_iff_toNat_lt, hb]
      exact hn
  induction k generalizing n with
  | zero => exact hsmall n hpos (by omega)
  | succ k ih =>
    rw [putUvarint]
    split_ifs with h
    · exact hsmall n hpos h
    · have hb : (UInt8.ofNat (n % 128 + 128)).toNat = n % 128 + 128 := by
        rw [UInt8.toNat_ofNat']
        omega
      have hq : n / 128 < 2 ^ (7 * k + 1) := by
        have hpow : 2 ^ (7 * (k + 1) + 1) = 128 * 2 ^ (7 * k + 1) := by ring
        exact Nat.div_lt_of_lt_mul (hpow ▸ hn)
      obtain ⟨hne, b, hmem, hlt⟩ := ih (by omega) hq
      refine ⟨fun c hc => ?_, b, mem_cons_of_mem _ hmem, hlt⟩
      rcases mem_cons.1 hc with rfl | hc
      · intro hzero
        rw [← UInt8.toNat_inj, hb] at hzero
        simp at hzero
      · exact hne c hc

lemma steady_writeUvarint (hpos : 0 < n) (hn : n < 2 ^ 64) : Steady (writeUvarint n) :=
  steady_putUvarint hpos hn

lemma eq_putUvarint_of_steady {q s rest : Bytes} (hq : Steady q)
    (h : Reads (getUvarint (k + 1)) (q ++ s) n rest) : q ++ s = putUvarint k n ++ rest ∧ n ≠ 0 := by
  induction k generalizing q n with
  | zero =>
    obtain ⟨_ | ⟨b, q⟩, hne, c, hc, hlt⟩ := q, hq
    · cases hc
    · rw [cons_append, Reads, getUvarint_cons] at h
      split_ifs at h with hb h1
      · cases h
      · cases h
        refine ⟨?_, fun h0 => hne b mem_cons_self (UInt8.toNat_inj.1 h0)⟩
        rw [putUvarint, UInt8.ofNat_toNat]
        rfl
      · cases h
  | succ k ih =>
    obtain ⟨_ | ⟨b, q⟩, hne, c, hc, hlt⟩ := q, hq
    · cases hc
    · rw [cons_append, Reads, getUvarint_cons] at h
      split_ifs at h with hb h1
      · exact h1.1.elim
      · cases h
        have hb' : b.toNat < 128 := UInt8.lt_iff_toNat_lt.1 hb
        refine ⟨?_, fun h0 => hne b mem_cons_self (UInt8.toNat_inj.1 h0)⟩
        rw [putUvarint, if_pos hb', UInt8.ofNat_toNat]
        rfl
      · obtain ⟨m, s', hm, h⟩ := Reads.of_bind h
        cases h
        have hb' : 128 ≤ b.toNat := by
          rw [UInt8.lt_iff_toNat_lt] at hb
          exact Nat.le_of_not_lt hb
        have hc' : c ∈ q := (mem_cons.1 hc).resolve_left fun heq => hb (heq ▸ hlt)
        obtain ⟨heq, hm0⟩ := ih ⟨fun x hx => hne x (mem_cons_of_mem _ hx), c, hc', hlt⟩ hm
        have hbyte : (b.toNat % 128 + 128 * m) % 128 + 128 = b.toNat := by
          have := b.toNat_lt
          omega
        have hdiv : (b.toNat % 128 + 128 * m) / 128 = m := by omega
        refine ⟨?_, by omega⟩
        rw [putUvarint, if_neg (by omega), hbyte, hdiv, UInt8.ofNat_toNat, cons_append, heq, cons_append]

lemma shrinks_readBigEndian (k : ℕ) : Shrinks (readBigEndian k) :=
  (shrinks_readFull k).bind fun _ => .pure _

lemma shrinks_afterByte (hk : Shrinks (getUvarint k)) (b : UInt8) :
    Shrinks (if b < 128 then
      if k = 0 ∧ 1 < b then fail "binary: varint overflows a 64-bit integer" else pure b.toNat
    else do
      let n ← getUvarint k
      return b.toNat % 128 + 128 * n : Reader ℕ) := by
  split_ifs
  · exact .fail _
  · exact .pure _
  · exact hk.bind fun _ => .pure _

lemma shrinks_getUvarint (k : ℕ) : Shrinks (getUvarint k) := by
  induction k with
  | zero => exact .fail _
  | succ k ih =>
    have hcontinued : Shrinks readContinued := by
      rintro (_ | ⟨b, s⟩) a rest h
      · cases h
      · cases h
        exact Nat.le_succ _
    rw [getUvarint]
    split
    · exact shrinks_readByte.bind (shrinks_afterByte ih)
    · exact hcontinued.bind (shrinks_afterByte ih)

lemma shrinks_readUvarint : Shrinks readUvarint := shrinks_getUvarint 10

lemma consumes_readUvarint : Consumes readUvarint :=
  consumes_readByte.bind (shrinks_afterByte (shrinks_getUvarint 9))

lemma consumes_readBigEndian (hk : 0 < k) : Consumes (readBigEndian k) := by
  refine Consumes.bind (fun s b rest h => ?_) fun _ => .pure _
  obtain ⟨hlen, rfl⟩ := eq_append_of_readFull h
  simp
  omega

def readMany (p : Reader α) (err : ℕ → String → String) : ℕ → ℕ → Reader (List α)
  | _, 0 => pure []
  | i, n + 1 => do
    let a ← fun s => (p s).mapError (err i)
    let l ← readMany p err (i + 1) n
    return a :: l

variable {err : ℕ → String → String} {l : List α}

lemma readMany_flatten {chunks : List Bytes}
    (h : List.Forall₂ (fun chunk a => ∀ rest, Reads p (chunk ++ rest) a rest) chunks l) (i : ℕ)
    (rest : Bytes) : Reads (readMany p err i l.length) (chunks.flatten ++ rest) l rest := by
  induction h generalizing i with
  | nil => exact Reads.pure
  | @cons chunk a chunks l ha _ ih =>
    rw [flatten_cons, append_assoc]
    have hfirst : Reads (fun s => (p s).mapError (err i)) (chunk ++ (chunks.flatten ++ rest)) a
        (chunks.flatten ++ rest) := by
      rw [Reads, ha]
      rfl
    exact hfirst.bind ((ih (i + 1)).bind Reads.pure)

lemma le_of_readMany (hp : Consumes p) {i : ℕ} (h : Reads (readMany p err i n) s l rest) :
    n + rest.length ≤ s.length := by
  induction n generalizing i s l with
  | zero =>
    cases h
    omega
  | succ n ih =>
    rw [readMany] at h
    obtain ⟨a, s', hfirst, h⟩ := h.of_bind
    obtain ⟨l', s'', hrest, h⟩ := h.of_bind
    cases h
    have hlt : s'.length < s.length := by
      refine hp s a s' ?_
      cases hps : p s with
      | error err => simp [Reads, hps, Except.mapError] at hfirst
      | ok x => simpa [Reads, hps, Except.mapError] using hfirst
    have hle := ih hrest
    omega

lemma shrinks_readMany (hp : Consumes p) (err : ℕ → String → String) (i n : ℕ) :
    Shrinks (readMany p err i n) := fun s l rest h => by
  have hle := le_of_readMany hp h
  omega

structure Format (α : Type) where
  write : α → Bytes
  read : Reader α
  reads : ∀ a rest, Reads read (write a ++ rest) a rest

namespace Format

def bigEndian (k : ℕ) (toNat : α → ℕ) (ofNat : ℕ → α) (hlt : ∀ a, toNat a < 256 ^ k)
    (hinv : ∀ a, ofNat (toNat a) = a) : Format α where
  write a := putBigEndian k (toNat a)
  read := ofNat <$> readBigEndian k
  reads a rest := by
    have h := (readBigEndian_putBigEndian (hlt a) rest).map (f := ofNat)
    rwa [hinv] at h

def byte : Format UInt8 where
  write b := [b]
  read := readByte
  reads b rest := readByte_cons b rest

def uint16 : Format UInt16 :=
  bigEndian 2 UInt16.toNat UInt16.ofNat (fun a => a.toNat_lt) (fun a => by simp)

def char : Format Char :=
  bigEndian 4 Char.toNat Char.ofNat (fun c => c.val.toNat_lt)
    (fun c => Char.ofNat_toNat c)

def pair (f : Format α) (g : Format β) : Format (α × β) where
  write x := f.write x.1 ++ g.write x.2
  read := do
    let a ← f.read
    let b ← g.read
    return (a, b)
  reads x rest := by
    rw [append_assoc]
    exact (f.reads x.1 _).bind ((g.reads x.2 rest).bind Reads.pure)

def iso (f : Format α) (code : β → α) (inv : α → β) (hinv : ∀ b, inv (code b) = b) : Format β where
  write b := f.write (code b)
  read := inv <$> f.read
  reads b rest := by
    have h := (f.reads (code b) rest).map (f := inv)
    rwa [hinv] at h

def putList (f : Format α) (l : List α) : Bytes := l.flatMap (fun a => 1 :: f.write a) ++ [0]

def getList (f : Format α) : ℕ → Reader (List α)
  | 0 => fail "EOF"
  | k + 1 => do
    let b ← readByte
    if b = 0 then return []
    else do
      let a ← f.read
      let l ← getList f k
      return a :: l

lemma getList_putList (f : Format α) (hk : l.length < k) (rest : Bytes) :
    Reads (getList f k) (putList f l ++ rest) l rest := by
  induction l generalizing k with
  | nil =>
    obtain ⟨k, rfl⟩ := Nat.exists_eq_succ_of_ne_zero (Nat.ne_of_gt hk)
    exact (readByte_cons 0 rest).bind Reads.pure
  | cons a l ih =>
    obtain ⟨k, rfl⟩ := Nat.exists_eq_succ_of_ne_zero (Nat.ne_of_gt (Nat.zero_lt_of_lt hk))
    have hsplit : putList f (a :: l) ++ rest = 1 :: (f.write a ++ (putList f l ++ rest)) := by
      simp [putList]
    rw [hsplit]
    refine (readByte_cons 1 _).bind ?_
    exact (f.reads a _).bind ((ih (by simpa using hk)).bind Reads.pure)

lemma length_lt_putList (f : Format α) (l : List α) : l.length < (putList f l).length := by
  induction l with
  | nil => simp [putList]
  | cons a l ih =>
    simp only [putList, flatMap_cons, cons_append, append_assoc, length_cons,
      length_append] at ih ⊢
    omega

def list (f : Format α) : Format (List α) where
  write := putList f
  read := fun s => getList f s.length s
  reads l rest := by
    have hlt := length_lt_putList f l
    refine getList_putList f ?_ rest
    rw [length_append]
    omega

def string : Format String :=
  iso (list char) String.toList String.ofList (fun _ => String.ofList_toList)

end Format

end SingBox.Lib.Wire
