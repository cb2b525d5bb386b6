import Mathlib.Logic.Equiv.Defs
import SingBox.Lib.Wire

/-! Values that are read in place: what a reader does depends on the value it overwrites. -/

namespace SingBox.Lib.Varbin

open Wire List

structure Codec (α : Type) where
  zero : α
  write : α → Bytes
  readInto : α → Reader α
  reads : ∀ a rest, Reads (readInto zero) (write a ++ rest) a rest
  consumes : ∀ a, Consumes (readInto a)

abbrev Slice (α : Type) := { l : List α // l.length < 2 ^ 64 }

namespace Codec

variable {α β : Type}

def scalar (f : Format α) (zero : α) (h : Consumes f.read) : Codec α where
  zero := zero
  write := f.write
  readInto _ := f.read
  reads := f.reads
  consumes _ := h

def pair (c : Codec α) (e : Codec β) : Codec (α × β) where
  zero := (c.zero, e.zero)
  write x := c.write x.1 ++ e.write x.2
  readInto x := do
    let a ← c.readInto x.1
    let b ← e.readInto x.2
    return (a, b)
  reads x rest := by
    rw [append_assoc]
    exact (c.reads x.1 _).bind ((e.reads x.2 rest).bind Reads.pure)
  consumes x := (c.consumes x.1).bind fun _ => (e.consumes x.2).shrinks.bind fun _ => .pure _

variable {c : Codec α} {s rest : Bytes}

lemma pair_first {e : Codec β} {x y : α × β} (h : Reads ((c.pair e).readInto x) s y rest) :
    ∃ s', Reads (c.readInto x.1) s y.1 s' := by
  obtain ⟨a, s', ha, h⟩ := h.of_bind
  obtain ⟨b, s'', -, h⟩ := h.of_bind
  cases h
  exact ⟨s', ha⟩

def iso (c : Codec α) (e : α ≃ β) : Codec β where
  zero := e c.zero
  write b := c.write (e.symm b)
  readInto b := e <$> c.readInto (e.symm b)
  reads b rest := by
    have h := (c.reads (e.symm b) rest).map (f := e)
    rwa [e.apply_symm_apply, ← e.symm_apply_apply c.zero] at h
  consumes b := (c.consumes (e.symm b)).map

lemma reads_of_iso {e : α ≃ β} {b b' : β} (h : Reads ((c.iso e).readInto b) s b' rest) :
    Reads (c.readInto (e.symm b)) s (e.symm b') rest := by
  obtain ⟨x, hx, h⟩ := Errors.map_eq_ok.1 h
  cases h
  rw [e.symm_apply_apply]
  exact hx

def fillAll (c : Codec α) : List α → Reader (List α)
  | [] => pure []
  | a :: l => do
    let a ← c.readInto a
    let l ← fillAll c l
    return a :: l

lemma fillAll_zero (c : Codec α) (l : List α) (rest : Bytes) :
    Reads (fillAll c (replicate l.length c.zero)) (l.flatMap c.write ++ rest) l rest := by
  induction l with
  | nil => exact Reads.pure
  | cons a l ih =>
    rw [flatMap_cons, append_assoc]
    exact (c.reads a _).bind (ih.bind Reads.pure)

lemma shrinks_fillAll (c : Codec α) (l : List α) : Shrinks (fillAll c l) := by
  induction l with
  | nil => exact .pure _
  | cons a l ih => exact (c.consumes a).shrinks.bind fun _ => ih.bind fun _ => .pure _

variable {l : List α}

lemma fillAll_cons {a : α} {l' : List α} (h : Reads (fillAll c (a :: l)) s l' rest) :
    ∃ a' s', Reads (c.readInto a) s a' s' ∧ ∃ l'', l' = a' :: l'' := by
  obtain ⟨a', s', ha, h⟩ := h.of_bind
  obtain ⟨l'', s'', -, h⟩ := h.of_bind
  cases h
  exact ⟨a', s', ha, l'', rfl⟩

def bounded (l : List α) : Reader (Slice α) :=
  if h : l.length < 2 ^ 64 then pure ⟨l, h⟩ else fail "makeslice: len out of range"

lemma bounded_eq (s : Slice α) : bounded s.1 = pure s := dif_pos s.2

lemma shrinks_bounded (l : List α) : Shrinks (bounded l) := by
  rw [bounded]
  split_ifs
  · exact .pure _
  · exact .fail _

variable {a : Slice α}

lemma eq_of_bounded (h : Reads (bounded l) s a rest) : a.1 = l := by
  rw [bounded] at h
  split_ifs at h
  · cases h
    rfl
  · cases h

/-- The length is read only if the slice that is there is empty; otherwise as many elements are read
as it has. -/
def slice (c : Codec α) : Codec (Slice α) where
  zero := ⟨[], Nat.two_pow_pos 64⟩
  write s := writeUvarint s.1.length ++ s.1.flatMap c.write
  readInto s :=
    if s.1.isEmpty then do
      let n ← readUvarint
      let l ← fillAll c (replicate n c.zero)
      bounded l
    else do
      let l ← fillAll c s.1
      bounded l
  reads s rest := by
    rw [append_assoc]
    refine (readUvarint_writeUvarint s.2 _).bind ((fillAll_zero c s.1 rest).bind ?_)
    rw [bounded_eq]
    exact Reads.pure
  consumes s := by
    obtain ⟨_ | ⟨a, l⟩, hs⟩ := s
    · exact consumes_readUvarint.bind fun n => (shrinks_fillAll c _).bind fun _ => shrinks_bounded _
    · have hfill : Consumes (fillAll c (a :: l)) :=
        (c.consumes a).bind fun _ => (shrinks_fillAll c l).bind fun _ => .pure _
      exact hfill.bind fun _ => shrinks_bounded _

lemma slice_first {s : Slice α} (hs : s.1 ≠ []) {input : Bytes}
    (h : Reads (c.slice.readInto s) input a rest) :
    ∃ old new l s', a.1 = new :: l ∧ Reads (c.readInto old) input new s' := by
  obtain ⟨_ | ⟨old, l⟩, hlen⟩ := s
  · exact absurd rfl hs
  · obtain ⟨l', s', hfill, h⟩ := h.of_bind
    obtain ⟨new, s'', hnew, l'', rfl⟩ := fillAll_cons hfill
    exact ⟨old, new, l'', s'', eq_of_bounded h, hnew⟩

end Codec

variable {σ : Type} (read : σ → Reader σ)

def readFor : ℕ → σ → Bytes → List σ
  | 0, _, _ => []
  | fuel + 1, a, s => match read a s with
    | .error _ => []
    | .ok (b, rest) => b :: readFor fuel b rest

def readAll (a : σ) (s : Bytes) : List σ := readFor read (s.length + 1) a s

variable {read} {a b : σ} {s rest : Bytes}

lemma readFor_of_lt (hread : ∀ a, Consumes (read a)) {fuel fuel' : ℕ} (h : s.length < fuel)
    (h' : s.length < fuel') : readFor read fuel a s = readFor read fuel' a s := by
  induction fuel generalizing fuel' a s with
  | zero => omega
  | succ fuel ih =>
    obtain ⟨fuel', rfl⟩ := Nat.exists_eq_succ_of_ne_zero (Nat.ne_of_gt (Nat.zero_lt_of_lt h'))
    rw [readFor, readFor]
    cases hr : read a s with
    | error err => rfl
    | ok x =>
      have hlt : x.2.length < s.length := hread a s x.1 x.2 hr
      exact congrArg (x.1 :: ·) (ih (by omega) (by omega))

lemma readAll_of_reads (hread : ∀ a, Consumes (read a)) (h : Reads (read a) s b rest) :
    readAll read a s = b :: readAll read b rest := by
  have hlt : rest.length < s.length := hread a s b rest h
  rw [readAll, readFor, h]
  exact congrArg (b :: ·) (readFor_of_lt hread hlt (Nat.lt_succ_self _))

lemma readAll_nil (hread : ∀ a, Consumes (read a)) : readAll read a [] = [] := by
  rw [readAll, readFor]
  cases hr : read a [] with
  | error err => rfl
  | ok x => exact absurd (hread a [] x.1 x.2 hr) (Nat.not_lt_zero _)

lemma reads_of_readAll {l : List σ} (h : readAll read a s = b :: l) :
    ∃ rest, Reads (read a) s b rest := by
  rw [readAll, readFor] at h
  cases hr : read a s with
  | error err =>
    rw [hr] at h
    cases h
  | ok x =>
    rw [hr] at h
    cases h
    exact ⟨x.2, hr⟩

variable {α : Type}

lemma readAll_flatMap (c : Codec σ) (l : List σ) (a : σ) :
    readAll (fun _ => c.readInto c.zero) a (l.flatMap c.write) = l := by
  have hread : ∀ _ : σ, Consumes (c.readInto c.zero) := fun _ => c.consumes _
  induction l generalizing a with
  | nil => exact readAll_nil hread
  | cons b l ih =>
    rw [flatMap_cons, readAll_of_reads hread (c.reads b _), ih]

lemma readAll_inPlace_iff {c : Codec α} {P : Slice α → Prop}
    (hmisread : ∀ s a, s.1 ≠ [] → P a → ∀ input rest,
      ¬ Reads (c.slice.readInto s) (c.slice.write a ++ input) a rest)
    {l : List (Slice α)} (hl : ∀ a ∈ l, P a) :
    readAll c.slice.readInto c.slice.zero (l.flatMap c.slice.write) = l ↔
      ∀ a ∈ l.dropLast, a.1 = [] := by
  induction l with
  | nil => simp [readAll_nil c.slice.consumes]
  | cons a l ih =>
    have htail : ∀ b ∈ l, P b := fun b hb => hl b (mem_cons_of_mem _ hb)
    rw [flatMap_cons, readAll_of_reads c.slice.consumes (c.slice.reads a _), cons_inj_right]
    by_cases hempty : a.1 = []
    · obtain rfl : a = c.slice.zero := Subtype.ext hempty
      rw [ih htail]
      cases l with
      | nil => simp
      | cons b l => simp [hempty]
    · cases l with
      | nil => simp [readAll_nil c.slice.consumes]
      | cons b l =>
        refine iff_of_false (fun h => ?_) fun h => hempty (h a (by simp))
        obtain ⟨rest, hreads⟩ := reads_of_readAll h
        exact hmisread a b hempty (htail b mem_cons_self) _ rest hreads

end SingBox.Lib.Varbin
