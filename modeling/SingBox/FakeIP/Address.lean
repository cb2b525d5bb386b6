import Mathlib.Data.Nat.Bitwise
import SingBox.Lib.Cyclic
import SingBox.Route.Context

namespace SingBox.FakeIP

open Option

open Route (IPAddr)
open Lib.Cyclic

inductive Family where
  | v4
  | v6
  deriving DecidableEq, Repr

def Family.width : Family → ℕ
  | .v4 => 32
  | .v6 => 128

def Family.of (isIPv6 : Bool) : Family := if isIPv6 then .v6 else .v4

def family : IPAddr → Family
  | .v4 _ => .v4
  | .v6 _ _ => .v6

def value : IPAddr → ℕ
  | .v4 bits => bits.toNat
  | .v6 bits _ => bits.toNat

def zone : IPAddr → String
  | .v4 _ => ""
  | .v6 _ zone => zone

def next : IPAddr → Option IPAddr
  | .v4 bits => if bits = BitVec.allOnes 32 then none else some (.v4 (bits + 1))
  | .v6 bits zone => if bits = BitVec.allOnes 128 then none else some (.v6 (bits + 1) zone)

lemma value_lt (a : IPAddr) : value a < 2 ^ (family a).width := by
  cases a with
  | v4 bits => exact bits.isLt
  | v6 bits _ => exact bits.isLt

lemma next_eq_none_iff (a : IPAddr) : next a = none ↔ value a + 1 = 2 ^ (family a).width := by
  have h32 : (BitVec.allOnes 32).toNat = 2 ^ 32 - 1 := BitVec.toNat_allOnes
  have h128 : (BitVec.allOnes 128).toNat = 2 ^ 128 - 1 := BitVec.toNat_allOnes
  cases a with
  | v4 bits =>
    rw [next, ite_eq_left_iff, family, value, Family.width, ← BitVec.toNat_inj]
    simp only [reduceCtorEq, imp_false]
    omega
  | v6 bits zone =>
    rw [next, ite_eq_left_iff, family, value, Family.width, ← BitVec.toNat_inj]
    simp only [reduceCtorEq, imp_false]
    omega

lemma next_spec {a b : IPAddr} (h : next a = some b) :
    family b = family a ∧ value b = value a + 1 ∧ zone b = zone a := by
  have hlt := value_lt a
  have hne : value a + 1 ≠ 2 ^ (family a).width := by
    rw [Ne, ← next_eq_none_iff, h]
    exact some_ne_none b
  cases a with
  | v4 bits =>
    rw [next] at h
    split_ifs at h
    cases h
    refine ⟨rfl, ?_, rfl⟩
    simp only [value, family, Family.width] at hlt hne ⊢
    exact Nat.mod_eq_of_lt (show bits.toNat + 1 < 2 ^ 32 by omega)
  | v6 bits zone =>
    rw [next] at h
    split_ifs at h
    cases h
    refine ⟨rfl, ?_, rfl⟩
    simp only [value, family, Family.width] at hlt hne ⊢
    exact Nat.mod_eq_of_lt (show bits.toNat + 1 < 2 ^ 128 by omega)

structure Prefix (f : Family) where
  bits : BitVec f.width
  length : ℕ
  length_le : length ≤ f.width
  deriving DecidableEq

namespace Prefix

variable {f : Family} (p : Prefix f)

def addr : IPAddr := match f, p with
  | .v4, p => .v4 p.bits
  | .v6, p => .v6 p.bits ""

def contains (a : IPAddr) : Bool :=
  family a == f && zone a == "" &&
    value a >>> (f.width - p.length) == p.bits.toNat >>> (f.width - p.length)

def start : Option IPAddr := (next p.addr).bind next

def first : ℕ := p.bits.toNat + 2

def last : ℕ := (p.bits.toNat / 2 ^ (f.width - p.length) + 1) * 2 ^ (f.width - p.length) - 1

def size : ℕ := p.last + 1 - p.first

lemma addr_spec : family p.addr = f ∧ value p.addr = p.bits.toNat ∧ zone p.addr = "" := by
  cases f <;> exact ⟨rfl, rfl, rfl⟩

lemma last_lt : p.last < 2 ^ f.width := by
  have hpos : 0 < 2 ^ (f.width - p.length) := Nat.two_pow_pos _
  have hsplit : 2 ^ f.width = 2 ^ p.length * 2 ^ (f.width - p.length) := by
    rw [← Nat.pow_add, Nat.add_sub_cancel' p.length_le]
  have hdiv : p.bits.toNat / 2 ^ (f.width - p.length) < 2 ^ p.length := by
    rw [Nat.div_lt_iff_lt_mul hpos, ← hsplit]
    exact p.bits.isLt
  have hmul := Nat.mul_le_mul_right (2 ^ (f.width - p.length)) (Nat.succ_le_of_lt hdiv)
  rw [last]
  have := Nat.mul_pos (Nat.two_pow_pos p.length) hpos
  rw [Nat.succ_eq_add_one] at hmul
  omega

lemma contains_iff {a : IPAddr} (hf : family a = f) (hz : zone a = "")
    (hle : p.bits.toNat ≤ value a) : p.contains a ↔ value a ≤ p.last := by
  have hpos : 0 < 2 ^ (f.width - p.length) := Nat.two_pow_pos _
  simp only [contains, hf, hz, beq_self_eq_true, Bool.true_and, beq_iff_eq, last]
  have hmono := Nat.div_le_div_right (c := 2 ^ (f.width - p.length)) hle
  have hiff : value a / 2 ^ (f.width - p.length) < p.bits.toNat / 2 ^ (f.width - p.length) + 1 ↔
      value a < (p.bits.toNat / 2 ^ (f.width - p.length) + 1) * 2 ^ (f.width - p.length) :=
    Nat.div_lt_iff_lt_mul hpos
  have := Nat.mul_pos (Nat.succ_pos (p.bits.toNat / 2 ^ (f.width - p.length))) hpos
  rw [Nat.succ_eq_add_one] at this
  omega

lemma start_spec {a : IPAddr} (h : p.start = some a) :
    family a = f ∧ value a = p.first ∧ zone a = "" := by
  obtain ⟨hf, hv, hz⟩ := p.addr_spec
  obtain ⟨b, hb, hab⟩ := bind_eq_some_iff.1 h
  obtain ⟨hf₁, hv₁, hz₁⟩ := next_spec hb
  obtain ⟨hf₂, hv₂, hz₂⟩ := next_spec hab
  refine ⟨by rw [hf₂, hf₁, hf], ?_, by rw [hz₂, hz₁, hz]⟩
  rw [hv₂, hv₁, hv, first]

lemma start_eq_none_iff : p.start = none ↔ 2 ^ f.width ≤ p.first := by
  obtain ⟨hf, hv, -⟩ := p.addr_spec
  rw [start, first]
  cases hb : next p.addr with
  | none =>
    rw [next_eq_none_iff, hf] at hb
    refine iff_of_true rfl ?_
    omega
  | some b =>
    obtain ⟨hf₁, hv₁, -⟩ := next_spec hb
    have hb' : next p.addr ≠ none := hb ▸ some_ne_none b
    rw [Ne, next_eq_none_iff, hf] at hb'
    rw [bind_some, next_eq_none_iff, hf₁, hf]
    omega

end Prefix

variable {f : Family}

def nextAddress (range : Option (Prefix f)) (current : IPAddr) : Option IPAddr :=
  if (next current).any fun a => range.any fun p => p.contains a then next current
  else range.bind Prefix.start

structure Cursor (p : Prefix f) (a : IPAddr) : Prop where
  family : family a = f
  zone : zone a = ""
  onCycle : OnCycle p.first p.last (value a)

variable {p : Prefix f} {a : IPAddr}

lemma cursor_start (h : p.start = some a) : Cursor p a := by
  obtain ⟨hf, hv, hz⟩ := p.start_spec h
  exact ⟨hf, hz, hv ▸ onCycle_self⟩

lemma nextAddress_spec (h : Cursor p a) :
    ∃ b, nextAddress (some p) a = some b ∧ Cursor p b ∧ value b = cyc p.first p.last (value a) := by
  have hlt : value a < 2 ^ f.width := h.family ▸ value_lt a
  have hfirst := h.onCycle.1
  have hlast := p.last_lt
  have hbase : p.bits.toNat + 2 = p.first := rfl
  have hstart : ∃ c, p.start = some c := by
    rw [← ne_none_iff_exists', Ne, p.start_eq_none_iff]
    omega
  obtain ⟨c, hc⟩ := hstart
  have hcycle := onCycle_cyc h.onCycle
  rw [nextAddress, cyc] at *
  cases hb : next a with
  | none =>
    rw [next_eq_none_iff, h.family] at hb
    refine ⟨c, hc, cursor_start hc, ?_⟩
    rw [(p.start_spec hc).2.1, if_neg (by omega)]
  | some b =>
    obtain ⟨hf, hv, hz⟩ := next_spec hb
    have hcontains : p.contains b ↔ value b ≤ p.last :=
      p.contains_iff (hf.trans h.family) (hz.trans h.zone) (by omega)
    simp only [any_some]
    rw [hv] at hcontains
    by_cases hle : value a + 1 ≤ p.last
    · rw [if_pos (hcontains.2 hle), if_pos hle]
      refine ⟨b, rfl, ⟨hf.trans h.family, hz.trans h.zone, ?_⟩, hv⟩
      rw [hv]
      rwa [if_pos hle] at hcycle
    · rw [if_neg (fun hh => hle (hcontains.1 hh)), if_neg hle]
      exact ⟨c, hc, cursor_start hc, (p.start_spec hc).2.1⟩

end SingBox.FakeIP
