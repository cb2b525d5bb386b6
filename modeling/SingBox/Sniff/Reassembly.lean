import SingBox.Sniff.HelloLayout
import SingBox.Sniff.Frames

namespace SingBox.Sniff.Quic

open Lib Lib.Loops Lib.Wire ClientHello

variable {fragments : List Fragment} {capacity : ℕ} {k : ℕ} {bytes bytes' buffer : Bytes}

def fragmentAt (fragments : List Fragment) (k : ℕ) : Option Fragment :=
  fragments.find? fun fragment => fragment.offset = k

inductive Reached (fragments : List Fragment) : ℕ → Prop where
  | start : Reached fragments 0
  | next {k : ℕ} {fragment : Fragment} (hk : Reached fragments k)
      (h : fragmentAt fragments k = some fragment) : Reached fragments (k + fragment.length)

def Advances (fragments : List Fragment) : Prop :=
  ∀ k fragment, Reached fragments k → fragmentAt fragments k = some fragment → fragment.length ≠ 0

variable {fragment : Fragment}

lemma offset_of_fragmentAt (h : fragmentAt fragments k = some fragment) : fragment.offset = k := by
  simpa using List.find?_some h

lemma findTurn_some (h : fragmentAt fragments k = some fragment) :
    findTurn fragments capacity (k, buffer) =
      .again (k + fragment.length, (buffer ++ fragment.payload).take capacity) := by
  unfold fragmentAt at h
  rw [findTurn, h, ← offset_of_fragmentAt h]

lemma findTurn_none (h : fragmentAt fragments k = none) :
    findTurn fragments capacity (k, buffer) = .leave (k, buffer) () := by
  unfold fragmentAt at h
  rw [findTurn, h]

variable {s : ℕ × Bytes}

lemma findTurn_again {s' : ℕ × Bytes} (h : findTurn fragments capacity s = .again s') :
    ∃ fragment, fragmentAt fragments s.1 = some fragment ∧ s'.1 = s.1 + fragment.length := by
  cases hat : fragmentAt fragments s.1 with
  | none =>
    rw [findTurn_none hat] at h
    cases h
  | some fragment =>
    rw [findTurn_some hat] at h
    cases h
    exact ⟨fragment, rfl, rfl⟩

lemma isSome_loop_of_advances (h : Advances fragments) (capacity : ℕ) (buffer : Bytes) :
    (loop (findTurn fragments capacity) (fragments.length + 1) (0, buffer)).isSome := by
  have hrank : ∀ s s' : ℕ × Bytes, Reached fragments s.1 → findTurn fragments capacity s = .again s' →
      Reached fragments s'.1 ∧ ahead fragments s' < ahead fragments s := by
    intro s s' hs hturn
    obtain ⟨fragment, hat, hs'⟩ := findTurn_again hturn
    refine ⟨hs' ▸ hs.next hat, ahead_lt ?_ hturn⟩
    rintro ⟨fragment', hat', hempty⟩
    exact h s.1 fragment' hs hat' hempty
  have hfuel : ahead fragments (0, buffer) < fragments.length + 1 :=
    Nat.lt_succ_of_le List.countP_le_length
  obtain ⟨-, s', r, -, -, heq⟩ := loop_of_rank hrank (.start : Reached fragments 0) hfuel
  rw [heq, Option.isSome_some]

variable {fuel : ℕ} {x : (ℕ × Bytes) × Unit}

lemma loop_through (h : loop (findTurn fragments capacity) fuel (0, buffer) = some x)
    (hk : Reached fragments k) :
    ∃ fuel' buffer', loop (findTurn fragments capacity) fuel' (k, buffer') = some x := by
  induction hk with
  | start => exact ⟨fuel, buffer, h⟩
  | next _ hat ih =>
    obtain ⟨fuel', buffer', h'⟩ := ih
    cases fuel' with
    | zero => cases h'
    | succ fuel' =>
      rw [loop, findTurn_some hat] at h'
      exact ⟨fuel', _, h'⟩

lemma advances_of_loop (h : loop (findTurn fragments capacity) fuel (0, buffer) = some x) :
    Advances fragments := by
  intro k fragment hk hat hempty
  obtain ⟨fuel', buffer', h'⟩ := loop_through h hk
  have hstuck : Stuck fragments (k, buffer') := ⟨fragment, hat, hempty⟩
  rw [loop_of_trap (fun _ => findTurn_stuck) hstuck] at h'
  cases h'

lemma assemble_ne_spins_iff : assemble fragments ≠ .error .spins ↔ Advances fragments := by
  unfold assemble
  dsimp only
  constructor
  · intro h
    split at h
    · rename_i hloop
      exact advances_of_loop hloop
    · exact absurd rfl h
  · intro h
    obtain ⟨x, hx⟩ := Option.isSome_iff_exists.1 (isSome_loop_of_advances h (5 + frameLen fragments)
      ([0x16] ++ putBigEndian 2 0x0303 ++ putBigEndian 2 (frameLen fragments)))
    rw [hx]
    simp

inductive Chain (fragments : List Fragment) : ℕ → Bytes → Prop where
  | stop {k : ℕ} (h : fragmentAt fragments k = none) : Chain fragments k []
  | next {k : ℕ} {fragment : Fragment} {bytes : Bytes} (h : fragmentAt fragments k = some fragment)
      (hrest : Chain fragments (k + fragment.length) bytes) :
      Chain fragments k (fragment.payload ++ bytes)

def recordHeader (fragments : List Fragment) : Bytes :=
  [0x16] ++ putBigEndian 2 0x0303 ++ putBigEndian 2 (frameLen fragments)

def Assembled (fragments : List Fragment) (record : Bytes) : Prop :=
  ∃ bytes, Chain fragments 0 bytes ∧
    record = (recordHeader fragments ++ bytes).take (5 + frameLen fragments)

lemma take_append_take (n : ℕ) (l l' : Bytes) : (l.take n ++ l').take n = (l ++ l').take n := by
  rw [List.take_append, List.take_append, List.take_take, Nat.min_self, List.length_take]
  congr 2
  omega

lemma chain_of_loop (h : loop (findTurn fragments capacity) fuel (k, buffer) = some (s, ()))
    (hbuffer : buffer.length ≤ capacity) :
    ∃ bytes, Chain fragments k bytes ∧ s.2 = (buffer ++ bytes).take capacity := by
  induction fuel generalizing k buffer with
  | zero => cases h
  | succ fuel ih =>
    cases hat : fragmentAt fragments k with
    | none =>
      rw [loop, findTurn_none hat] at h
      cases h
      refine ⟨[], .stop hat, ?_⟩
      rw [List.append_nil, List.take_of_length_le hbuffer]
    | some fragment =>
      rw [loop, findTurn_some hat] at h
      obtain ⟨bytes, hchain, hs⟩ := ih h (by rw [List.length_take]; exact Nat.min_le_left _ _)
      refine ⟨_, .next hat hchain, ?_⟩
      rw [hs, take_append_take, List.append_assoc]

lemma loop_of_chain (h : Chain fragments k bytes) (hbuffer : buffer.length ≤ capacity) :
    ∃ fuel k', loop (findTurn fragments capacity) fuel (k, buffer) =
      some ((k', (buffer ++ bytes).take capacity), ()) := by
  induction h generalizing buffer with
  | @stop k hat =>
    refine ⟨1, k, ?_⟩
    rw [loop, findTurn_none hat, List.append_nil, List.take_of_length_le hbuffer]
  | @next _ fragment bytes hat _ ih =>
    have hle : ((buffer ++ fragment.payload).take capacity).length ≤ capacity := by
      rw [List.length_take]
      exact Nat.min_le_left _ _
    obtain ⟨fuel, k', hloop⟩ := ih hle
    refine ⟨fuel + 1, k', ?_⟩
    rw [take_append_take, List.append_assoc] at hloop
    rw [loop, findTurn_some hat]
    exact hloop

lemma length_recordHeader (fragments : List Fragment) :
    (recordHeader fragments).length ≤ 5 + frameLen fragments := by
  simp [recordHeader, length_putBigEndian]

lemma assemble_of_loop
    (h : loop (findTurn fragments (5 + frameLen fragments)) (fragments.length + 1)
      (0, recordHeader fragments) = some (s, ())) : assemble fragments = .ok s.2 := by
  unfold recordHeader at h
  rw [assemble, h]

lemma assemble_eq_ok {record : Bytes} : assemble fragments = .ok record ↔ Assembled fragments record := by
  have hheader := length_recordHeader fragments
  constructor
  · intro h
    have hends : Advances fragments := assemble_ne_spins_iff.1 (by simp [h])
    obtain ⟨⟨s, _⟩, hloop⟩ := Option.isSome_iff_exists.1
      (isSome_loop_of_advances hends (5 + frameLen fragments) (recordHeader fragments))
    obtain ⟨bytes, hchain, hs⟩ := chain_of_loop hloop hheader
    rw [assemble_of_loop hloop] at h
    cases h
    exact ⟨bytes, hchain, hs⟩
  · rintro ⟨bytes, hchain, rfl⟩
    obtain ⟨fuel, k', hloop⟩ := loop_of_chain hchain hheader
    obtain ⟨x, hx⟩ := Option.isSome_iff_exists.1
      (isSome_loop_of_advances (advances_of_loop hloop) (5 + frameLen fragments) (recordHeader fragments))
    have heq := (loop_mono (Nat.le_max_left fuel (fragments.length + 1)) hloop).symm.trans
      (loop_mono (Nat.le_max_right fuel (fragments.length + 1)) hx)
    cases heq
    exact assemble_of_loop hx

lemma assemble_cases (fragments : List Fragment) :
    (∃ record, assemble fragments = .ok record) ∨ assemble fragments = .error .spins := by
  unfold assemble
  dsimp only
  split
  · exact .inl ⟨_, rfl⟩
  · exact .inr rfl

variable {c : Crypto} {packet : Bytes} {m : Metadata} {types : List UInt8}

lemma readPacket_ne_spins : readPacket c packet ≠ .error .spins := by
  unfold readPacket
  split
  · exact readFrames_ne_spins
  · simp

lemma sniffClient_ne_spins {client : String} {fingerprint : ClientHello} :
    sniffClient client types fingerprint ≠ .error .spins := by
  unfold sniffClient guessClient
  split_ifs <;> simp

lemma identify_ne_spins {record : Bytes} :
    identify types fragments m (compute record) ≠ .error .spins := by
  intro h
  cases hcompute : compute record with
  | ok fingerprint =>
    rw [hcompute] at h
    exact sniffClient_ne_spins (Errors.map_eq_error.1 h)
  | error stop =>
    rw [hcompute] at h
    cases stop with
    | error err => cases h
    | panic => cases h
    | spins => exact Ja3.compute_ne_spins record hcompute

lemma quicClientHello_ok (h : readPacket c packet = .ok (types, fragments)) :
    quicClientHello c packet m =
      assemble (fragments ++ m.sniffContext.getD []) >>= fun record =>
        identify types (fragments ++ m.sniffContext.getD []) m (compute record) := by
  rw [quicClientHello, h]
  rfl

lemma quicClientHello_error {stop : Stop} (h : readPacket c packet = .error stop) :
    quicClientHello c packet m = .error stop := by
  rw [quicClientHello, h]
  rfl

lemma bind_identify_ne_spins_iff :
    (assemble fragments >>= fun record => identify types fragments m (compute record)) ≠
      .error .spins ↔ Advances fragments := by
  rw [← assemble_ne_spins_iff]
  cases hassemble : assemble fragments with
  | error stop => simp [bind, Except.bind]
  | ok record => exact iff_of_true identify_ne_spins (by simp)

theorem quic_reassembly_ends_iff (c : Crypto) (packet : Bytes) (m : Metadata)
    (fragments : List Fragment) (capacity : ℕ) (buffer : Bytes) :
    ((∃ fuel x, loop (findTurn fragments capacity) fuel (0, buffer) = some x) ↔ Advances fragments) ∧
      (quicClientHello c packet m ≠ .error .spins ↔
        ∀ types fragments, readPacket c packet = .ok (types, fragments) →
          Advances (fragments ++ m.sniffContext.getD [])) := by
  refine ⟨⟨?_, ?_⟩, ?_⟩
  · rintro ⟨fuel, x, h⟩
    exact advances_of_loop h
  · intro h
    obtain ⟨x, hx⟩ := Option.isSome_iff_exists.1 (isSome_loop_of_advances h capacity buffer)
    exact ⟨_, x, hx⟩
  · cases hread : readPacket c packet with
    | error stop =>
      rw [quicClientHello_error hread]
      refine iff_of_true ?_ ?_
      · rintro ⟨⟩
        exact readPacket_ne_spins hread
      · rintro types fragments ⟨⟩
    | ok x =>
      obtain ⟨types, fragments⟩ := x
      rw [quicClientHello_ok hread, bind_identify_ne_spins_iff]
      constructor
      · rintro h _ _ ⟨⟩
        exact h
      · exact fun h => h types fragments rfl

def initialPacket : Bytes := [0xc0, 0, 0, 0, 1, 1, 0, 0, 0, 20] ++ List.replicate 20 0

def decryptsTo (plaintext : Bytes) : Crypto where
  extract _ _ := []
  expand _ _ _ := []
  encrypt _ _ := Vector.replicate 16 0
  openGCM _ _ _ _ := some plaintext

theorem empty_fragment_spins :
    readPacket (decryptsTo [0x06, 0, 0]) initialPacket =
        .ok ([0x06], [{ offset := 0, length := 0, payload := [] }]) ∧
      quicClientHello (decryptsTo [0x06, 0, 0]) initialPacket {} = .error .spins ∧
      ¬ ∃ fuel x, loop (findTurn [{ offset := 0, length := 0, payload := [] }] 5) fuel
        (0, [0x16, 3, 3, 0, 0]) = some x := by
  refine ⟨rfl, rfl, ?_⟩
  rintro ⟨fuel, x, h⟩
  have hstuck : Stuck [{ offset := 0, length := 0, payload := [] }] (0, [0x16, 3, 3, 0, 0]) :=
    ⟨_, rfl, rfl⟩
  rw [loop_of_trap (fun _ => findTurn_stuck) hstuck] at h
  cases h

end SingBox.Sniff.Quic
