import Mathlib.Data.List.Pairwise
import Mathlib.Order.Interval.Finset.Nat
import SingBox.Sniff.Reassembly

namespace SingBox.Sniff

open Lib Lib.Loops Lib.Wire

namespace Fragment

variable {f g : Fragment} {stream : Bytes} {i : ℕ}

def Covers (f : Fragment) (i : ℕ) : Prop := f.offset ≤ i ∧ i < f.offset + f.length

structure PartOf (f : Fragment) (stream : Bytes) : Prop where
  nonempty : f.length ≠ 0
  inside : f.offset + f.length ≤ stream.length
  payload_eq : f.payload = (stream.drop f.offset).take f.length

def Apart (f g : Fragment) : Prop := ∀ i, ¬ (f.Covers i ∧ g.Covers i)

instance : Std.Symm Apart := ⟨fun _ _ h i hi => h i ⟨hi.2, hi.1⟩⟩

lemma PartOf.covers_last (h : f.PartOf stream) : f.Covers (f.offset + f.length - 1) := by
  have hpos := h.nonempty
  constructor <;> omega

lemma PartOf.append_payload (h : f.PartOf stream) :
    stream.take f.offset ++ f.payload = stream.take (f.offset + f.length) := by
  rw [h.payload_eq, ← List.take_add]

end Fragment

namespace Quic

structure Divides (stream : Bytes) (fragments : List Fragment) : Prop where
  part : ∀ f ∈ fragments, f.PartOf stream
  apart : fragments.Pairwise Fragment.Apart

def Covered (fragments : List Fragment) (i : ℕ) : Prop := ∃ f ∈ fragments, f.Covers i

structure CoveredUpTo (fragments : List Fragment) (n : ℕ) : Prop where
  covered : ∀ i < n, Covered fragments i
  gap : ¬ Covered fragments n

variable {stream : Bytes} {fragments : List Fragment} {k n : ℕ} {bytes : Bytes} {f g : Fragment}

lemma Divides.eq_of_covers {i : ℕ} (h : Divides stream fragments) (hf : f ∈ fragments)
    (hg : g ∈ fragments) (hfi : f.Covers i) (hgi : g.Covers i) : f = g := by
  by_contra hne
  exact h.apart.forall hf hg hne i ⟨hfi, hgi⟩

lemma card_le_frameLen {s : Finset ℕ} (h : ∀ i ∈ s, Covered fragments i) : s.card ≤ frameLen fragments := by
  induction fragments generalizing s with
  | nil =>
    have hempty : s = ∅ := Finset.eq_empty_of_forall_notMem fun i hi => by
      obtain ⟨f, hf, -⟩ := h i hi
      cases hf
    simp [hempty]
  | cons f fragments ih =>
    let own := s.filter fun i => i ∈ Finset.Ico f.offset (f.offset + f.length)
    let others := s.filter fun i => i ∉ Finset.Ico f.offset (f.offset + f.length)
    have hown : own.card ≤ f.length := by
      calc own.card ≤ (Finset.Ico f.offset (f.offset + f.length)).card :=
            Finset.card_le_card fun i hi => (Finset.mem_filter.1 hi).2
        _ = f.length := by rw [Nat.card_Ico, Nat.add_sub_cancel_left]
    have hothers : others.card ≤ frameLen fragments := by
      refine ih fun i hi => ?_
      obtain ⟨his, hnot⟩ := Finset.mem_filter.1 hi
      obtain ⟨g, hg, hcovers⟩ := h i his
      rcases List.mem_cons.1 hg with rfl | hg
      · exact absurd (Finset.mem_Ico.2 hcovers) hnot
      · exact ⟨g, hg, hcovers⟩
    calc s.card = own.card + others.card := (Finset.card_filter_add_card_filter_not _).symm
      _ ≤ f.length + frameLen fragments := Nat.add_le_add hown hothers
      _ = frameLen (f :: fragments) := by simp [frameLen]

lemma CoveredUpTo.le_frameLen (h : CoveredUpTo fragments n) : n ≤ frameLen fragments := by
  simpa using card_le_frameLen (s := Finset.range n) fun i hi => h.covered i (Finset.mem_range.1 hi)

structure Frontier (fragments : List Fragment) (k : ℕ) : Prop where
  covered : ∀ i < k, Covered fragments i
  ends : k = 0 ∨ ∃ f ∈ fragments, f.offset + f.length = k

lemma Frontier.next (h : Frontier fragments k) (hat : fragmentAt fragments k = some f) :
    Frontier fragments (k + f.length) := by
  have hmem : f ∈ fragments := List.mem_of_find?_eq_some hat
  have hoffset := offset_of_fragmentAt hat
  refine ⟨fun i hi => ?_, .inr ⟨f, hmem, by rw [hoffset]⟩⟩
  by_cases hik : i < k
  · exact h.covered i hik
  · exact ⟨f, hmem, by omega, by omega⟩

lemma Frontier.coveredUpTo (h : Frontier fragments k) (hdiv : Divides stream fragments)
    (hat : fragmentAt fragments k = none) : CoveredUpTo fragments k := by
  refine ⟨h.covered, ?_⟩
  rintro ⟨g, hg, hle, hlt⟩
  have hne : g.offset ≠ k := by simpa using List.find?_eq_none.1 hat g hg
  rcases h.ends with rfl | ⟨f, hf, hend⟩
  · omega
  · have hlast : f.Covers (k - 1) := hend ▸ (hdiv.part f hf).covers_last
    have heq := hdiv.eq_of_covers hf hg hlast ⟨by omega, by omega⟩
    rw [heq] at hend
    omega

lemma chain_of_divides (hdiv : Divides stream fragments) (h : Chain fragments k bytes)
    (hk : Frontier fragments k) :
    ∃ n, CoveredUpTo fragments n ∧ stream.take k ++ bytes = stream.take n := by
  induction h with
  | @stop k hat => exact ⟨k, hk.coveredUpTo hdiv hat, List.append_nil _⟩
  | @next k f bytes hat _ ih =>
    obtain ⟨n, hn, htake⟩ := ih (hk.next hat)
    have hpart := hdiv.part f (List.mem_of_find?_eq_some hat)
    refine ⟨n, hn, ?_⟩
    rw [← htake, ← List.append_assoc, ← offset_of_fragmentAt hat, hpart.append_payload]

lemma Divides.advances (h : Divides stream fragments) : Advances fragments :=
  fun _ f _ hat => (h.part f (List.mem_of_find?_eq_some hat)).nonempty

lemma assemble_of_divides (h : Divides stream fragments) :
    ∃ n, CoveredUpTo fragments n ∧ assemble fragments = .ok (recordHeader fragments ++ stream.take n) := by
  have hends := assemble_ne_spins_iff.2 h.advances
  obtain ⟨record, hrecord⟩ := (assemble_cases fragments).resolve_right hends
  obtain ⟨bytes, hchain, rfl⟩ := assemble_eq_ok.1 hrecord
  have hstart : Frontier fragments 0 := ⟨fun i hi => absurd hi (Nat.not_lt_zero i), .inl rfl⟩
  obtain ⟨n, hn, hbytes⟩ := chain_of_divides h hchain hstart
  rw [List.take_zero, List.nil_append] at hbytes
  have hfits : (recordHeader fragments ++ stream.take n).length ≤ 5 + frameLen fragments := by
    have hle := hn.le_frameLen
    simp only [recordHeader, List.length_append, length_putBigEndian, List.length_cons, List.length_nil,
      List.length_take]
    omega
  refine ⟨n, hn, ?_⟩
  rw [hrecord, hbytes, List.take_of_length_le hfits]

variable {c : Crypto} {packet : Bytes} {packets : List Bytes} {m m' : Metadata} {types : List UInt8}
  {received : List Fragment}

def parserInput (c : Crypto) (packet : Bytes) (m : Metadata) : Except Stop Bytes := do
  let (_, fragments) ← readPacket c packet
  assemble (fragments ++ m.sniffContext.getD [])

inductive Receives (c : Crypto) : List Bytes → List Fragment → Metadata → Prop where
  | start {m : Metadata} (h : m.sniffContext = none) : Receives c [] [] m
  | next {packets : List Bytes} {received fragments : List Fragment} {m m' : Metadata} {packet : Bytes}
      {types : List UInt8} (h : Receives c packets received m)
      (hread : readPacket c packet = .ok (types, fragments))
      (hleft : quicClientHello c packet m = .ok (.error .clientHelloFragmented, m')) :
      Receives c (packets ++ [packet]) (fragments ++ received) m'

lemma sniffContext_of_fragmented (hread : readPacket c packet = .ok (types, fragments))
    (hleft : quicClientHello c packet m = .ok (.error .clientHelloFragmented, m')) :
    m'.sniffContext = some (fragments ++ m.sniffContext.getD []) := by
  rw [quicClientHello_ok hread] at hleft
  cases hassemble : assemble (fragments ++ m.sniffContext.getD []) with
  | error stop =>
    rw [hassemble] at hleft
    cases hleft
  | ok record =>
    rw [hassemble] at hleft
    change identify types _ m (ClientHello.compute record) = _ at hleft
    cases hcompute : ClientHello.compute record with
    | ok fingerprint =>
      rw [hcompute, identify] at hleft
      cases hclient : sniffClient m.client types fingerprint <;> rw [hclient] at hleft <;> cases hleft
    | error stop =>
      rw [hcompute] at hleft
      cases stop <;> cases hleft
      rfl

lemma Receives.getD_sniffContext (h : Receives c packets received m) :
    m.sniffContext.getD [] = received := by
  induction h with
  | start h => rw [h, Option.getD_none]
  | next _ hread hleft ih => rw [sniffContext_of_fragmented hread hleft, ih, Option.getD_some]

theorem quic_stream_prefix (c : Crypto) (stream : Bytes) (packets : List Bytes)
    (received : List Fragment) (m : Metadata) (packet : Bytes) (types : List UInt8)
    (fragments : List Fragment) (hrun : Receives c packets received m)
    (hread : readPacket c packet = .ok (types, fragments))
    (hdiv : Divides stream (fragments ++ received)) :
    ∃ header n, header.length = 5 ∧ CoveredUpTo (fragments ++ received) n ∧
      parserInput c packet m = .ok (header ++ stream.take n) ∧
      quicClientHello c packet m =
        identify types (fragments ++ received) m (ClientHello.compute (header ++ stream.take n)) := by
  obtain ⟨n, hn, hassemble⟩ := assemble_of_divides hdiv
  refine ⟨recordHeader (fragments ++ received), n, ?_, hn, ?_, ?_⟩
  · simp [recordHeader, length_putBigEndian]
  · rw [parserInput, hread, ← hassemble, ← hrun.getD_sniffContext]
    rfl
  · rw [quicClientHello_ok hread, hrun.getD_sniffContext, hassemble]
    rfl

def identityCrypto : Crypto where
  extract _ _ := []
  expand _ _ _ := []
  encrypt _ _ := Vector.replicate 16 0
  openGCM _ _ ciphertext _ := some ciphertext

def twoBytesAt (offset b b' : UInt8) : Bytes :=
  [0xc0, 0, 0, 0, 1, 1, 0, 0, 0, 26, 0] ++ ([0x06, offset, 2, b, b'] ++ List.replicate 20 0)

def firstTwo : Fragment := { offset := 0, length := 2, payload := [10, 20] }

def lastTwo : Fragment := { offset := 2, length := 2, payload := [30, 40] }

lemma divides_two : Divides [10, 20, 30, 40] [firstTwo, lastTwo] := by
  refine ⟨?_, ?_⟩
  · intro f hf
    rcases List.mem_pair.1 hf with rfl | rfl <;> exact ⟨by decide, by decide, rfl⟩
  · refine List.pairwise_pair.2 ?_
    rintro i ⟨⟨-, hlt⟩, hle, -⟩
    simp only [firstTwo, lastTwo] at hlt hle
    omega

theorem quic_stream_prefix_two_packets : ∃ m header n, header.length = 5 ∧
    quicClientHello identityCrypto (twoBytesAt 2 30 40) {} = .ok (.error .clientHelloFragmented, m) ∧
    CoveredUpTo [firstTwo, lastTwo] n ∧
    parserInput identityCrypto (twoBytesAt 0 10 20) m = .ok (header ++ [10, 20, 30, 40].take n) := by
  have hleft : quicClientHello identityCrypto (twoBytesAt 2 30 40) {} = .ok (.error .clientHelloFragmented,
      { protocol := "quic", client := "chromium", sniffContext := some [lastTwo] }) := rfl
  have hread : readPacket identityCrypto (twoBytesAt 2 30 40) =
      .ok (0x06 :: List.replicate 20 0, [lastTwo]) := rfl
  have hrun : Receives identityCrypto [twoBytesAt 2 30 40] [lastTwo] _ := .next (.start rfl) hread hleft
  obtain ⟨header, n, hheader, hn, hinput, -⟩ :=
    quic_stream_prefix identityCrypto [10, 20, 30, 40] _ [lastTwo] _ (twoBytesAt 0 10 20) _ [firstTwo] hrun
      rfl divides_two
  exact ⟨_, header, n, hheader, hleft, hn, hinput⟩

end Quic

end SingBox.Sniff
