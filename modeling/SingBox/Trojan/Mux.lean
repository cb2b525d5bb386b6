import SingBox.Trojan.Protocol

namespace SingBox.Trojan

open List

open Lib.Wire (Bytes)
open Lib.Stream

variable {D : Type} {S : Serializer D} {n : ℕ} {s : Pieces}

/-- The bytes that the buffered reader has taken from the connection when `n` have been read from it;
each piece is what one read of the connection returns. -/
def fetched : ℕ → Pieces → ℕ
  | 0, _ => 0
  | _, [] => 0
  | n + 1, c :: s => c.length + fetched (n + 1 - c.length) s

inductive Accepted (D : Type) where
  | connection (destination : D) (conn : Bytes)
  | packetConnection (destination : D) (conn : Bytes)

/-- The buffer for what is left in the reader has room for it, but is filled up to its own length. -/
def newMuxConnection0 (S : Serializer D) (s : Pieces) : Except String (Accepted D) := do
  let command ← causing "read command" (readFull 1) s
  let destination ← causing "read destination" S.readAddrPort command.2
  let read := s.flatten.length - destination.2.flatten.length
  let buffered := (s.flatten.take (fetched read s)).drop read
  let buffer : Bytes := []
  let cached ← readFullFrom (buffered.length - buffer.length) buffer.length [buffered]
  let conn := cached.1 ++ s.flatten.drop (fetched read s)
  if command.1 = [commandTCP] then return .connection destination.1 conn
  else if command.1 = [commandUDP] then return .packetConnection destination.1 conn
  else throw ("unknown command " ++ toString (Lib.Wire.ofBigEndian command.1))

lemma fetched_bounds (h : n ≤ s.flatten.length) : n ≤ fetched n s ∧ fetched n s ≤ s.flatten.length := by
  induction s generalizing n with
  | nil =>
    obtain rfl : n = 0 := Nat.le_zero.1 h
    exact ⟨le_rfl, le_rfl⟩
  | cons c s ih =>
    cases n with
    | zero => exact ⟨le_rfl, Nat.zero_le _⟩
    | succ n =>
      rw [flatten_cons, length_append] at h ⊢
      have hbounds := ih (n := n + 1 - c.length) (by omega)
      rw [fetched]
      omega

/-- The connection that is handed on lacks what has come in one read with the end of the header. -/
lemma newMuxConnection0_eq {command : UInt8} {d : D} {addr payload : Bytes}
    (hs : s.flatten = command :: (addr ++ payload)) (haddr : S.writeAddrPort d = .ok addr) :
    newMuxConnection0 S s =
      let conn := payload.drop (fetched (addr.length + 1) s - (addr.length + 1))
      if command = commandTCP then .ok (.connection d conn)
      else if command = commandUDP then .ok (.packetConnection d conn)
      else .error ("unknown command " ++ toString (Lib.Wire.ofBigEndian [command])) := by
  obtain ⟨s₁, hcommand, hs₁⟩ := (takes_readFull [command]).causing "read command" s _ hs
  obtain ⟨s₂, hdest, hs₂⟩ := (S.takes d addr haddr).causing "read destination" s₁ payload hs₁
  have hread : s.flatten.length - s₂.flatten.length = addr.length + 1 := by
    rw [hs, hs₂]
    simp
    omega
  have hle : addr.length + 1 ≤ fetched (addr.length + 1) s := (fetched_bounds (by rw [hs]; simp)).1
  have hconn : s.flatten.drop (fetched (addr.length + 1) s) =
      payload.drop (fetched (addr.length + 1) s - (addr.length + 1)) := by
    obtain ⟨k, hk⟩ := Nat.exists_eq_add_of_le hle
    rw [hk, hs, Nat.add_sub_cancel_left, ← cons_append, ← length_cons (a := command),
      drop_length_add_append]
  rw [newMuxConnection0, show readFull 1 = readFull [command].length from rfl, hcommand]
  change (causing "read destination" S.readAddrPort s₁ >>= _) = _
  rw [hdest]
  dsimp only [bind, Except.bind]
  rw [hread, hconn]
  simp only [readFullFrom, length_nil, not_lt_zero, if_false, readFull, nil_append, List.cons.injEq,
    and_true]
  rfl

def HandsOver (S : Serializer D) (s : Pieces) (command : UInt8) (d : D) (payload : Bytes) : Prop :=
  newMuxConnection0 S s = .ok (if command = commandTCP then .connection d payload else .packetConnection d payload)

theorem mux_stream_iff {command : UInt8} (hcommand : command ∈ [commandTCP, commandUDP]) {d : D}
    {addr payload : Bytes} (haddr : S.writeAddrPort d = .ok addr)
    (hs : s.flatten = command :: (addr ++ payload)) :
    HandsOver S s command d payload ↔ fetched (addr.length + 1) s = addr.length + 1 := by
  have hbounds : addr.length + 1 ≤ fetched (addr.length + 1) s ∧
      fetched (addr.length + 1) s ≤ s.flatten.length := fetched_bounds (by rw [hs]; simp)
  rw [hs, length_cons, length_append] at hbounds
  have hdrop : payload.drop (fetched (addr.length + 1) s - (addr.length + 1)) = payload ↔
      fetched (addr.length + 1) s = addr.length + 1 := by
    constructor
    · intro h
      have hlen := congrArg length h
      rw [length_drop] at hlen
      omega
    · intro h
      rw [h, Nat.sub_self, drop_zero]
  rw [HandsOver, newMuxConnection0_eq hs haddr, ← hdrop]
  simp only [mem_cons, not_mem_nil, or_false] at hcommand
  rcases hcommand with rfl | rfl
  · simp
  · simp [commandTCP, commandUDP]

def byteSerializer : Serializer Unit where
  addrPortLen _ := 1
  writeAddrPort _ := .ok [7]
  readAddrPort := do let _ ← readFull 1
  length_eq _ _ h := by cases h; rfl
  takes _ _ h := by
    cases h
    exact takes_skipN [7]

theorem mux_stream_in_two_reads : HandsOver byteSerializer [[1, 7], [2]] commandTCP () [2] :=
  (mux_stream_iff (by decide) (show byteSerializer.writeAddrPort () = .ok [7] from rfl) rfl).2 rfl

theorem mux_stream_loses_payload :
    newMuxConnection0 byteSerializer [[1, 7, 2]] = .ok (.connection () []) ∧
      ¬ HandsOver byteSerializer [[1, 7, 2]] commandTCP () [2] := by
  have h : newMuxConnection0 byteSerializer [[1, 7, 2]] = .ok (.connection () []) := rfl
  refine ⟨h, fun hover => ?_⟩
  rw [HandsOver, h] at hover
  simp at hover

end SingBox.Trojan
