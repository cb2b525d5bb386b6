import SingBox.Lib.Runs
import SingBox.Trojan.Address

namespace SingBox.Trojan

open List

open Lib.Wire (Bytes)
open Lib.Runs Lib.Stream

variable {D : Type} (S : Serializer D) (key : Bytes)

def step (c : Client) (p : Packet D) : Option Client := some (clientWritePacket S key c p).1

def HasHeader (wire : Bytes) : Prop :=
  ∃ d addr, S.writeAddrPort d = .ok addr ∧ requestHeader key commandUDP addr <+: wire

def Begins (wire : Bytes) : Prop :=
  wire = [] ∨ HasHeader S key wire ∨
    ∃ d addr, S.writeAddrPort d = .ok addr ∧ wire <+: requestHeader key commandUDP addr

def PutsFrame (c : Client) (p : Packet D) : Prop :=
  c.headerWritten = true ∧ (clientWritePacket S key c p).1.wire ≠ c.wire

def HeaderFirst (calls : List (Packet D)) : Prop :=
  Always (step S key) (fun c => Begins S key c.wire) {} calls ∧
    Throughout (step S key) (fun c p => PutsFrame S key c p → HasHeader S key c.wire) {} calls

def Outcome.Reaches (n : ℕ) : Outcome → Prop
  | .done => True
  | .failed k _ => n ≤ k

def Packet.Sends (p : Packet D) : Prop :=
  S.addrPortLen p.destination + 4 ≤ p.buffer.start ∧
    (∃ addr, S.writeAddrPort p.destination = .ok addr) ∧ p.first.Reaches 1

def HeaderDelivered : List (Packet D) → Prop
  | [] => True
  | p :: ps =>
    (∃ addr, S.writeAddrPort p.destination = .ok addr ∧
      p.first.Reaches (requestHeader key commandUDP addr).length) ∨
    ∀ q ∈ ps, ¬ q.Sends S

variable {o : Outcome} {h t : Bytes}

lemma isPrefix_connWrite (ho : o.Reaches h.length) : h <+: (connWrite (h ++ t) o).1 := by
  cases o with
  | done => exact prefix_append h t
  | failed n err => exact prefix_take_iff.2 ⟨prefix_append h t, ho⟩

lemma connWrite_eq_take (ho : ¬ o.Reaches h.length) :
    ∃ n < h.length, (connWrite (h ++ t) o).1 = h.take n := by
  cases o with
  | done => exact absurd trivial ho
  | failed n err =>
    have hlt : n < h.length := not_le.1 ho
    exact ⟨n, hlt, take_append_of_le_length hlt.le⟩

lemma connWrite_ne_nil (hh : h ≠ []) : (connWrite h o).1 ≠ [] ↔ o.Reaches 1 := by
  cases o with
  | done => exact iff_of_true hh trivial
  | failed n err =>
    rw [connWrite, Ne, take_eq_nil_iff, or_iff_left hh]
    exact Nat.one_le_iff_ne_zero.symm

variable {S key} {d : D} {addr : Bytes} {buffer : Buffer} {o₁ o₂ : Outcome}

lemma clientHandshakePacket_rejected {err : String} (hd : S.writeAddrPort d = .error err) :
    (clientHandshakePacket S key d buffer o₁ o₂).1 = [] := by
  rw [clientHandshakePacket, hd]

variable (key buffer o₁ o₂) in
lemma clientHandshakePacket_eq (hd : S.writeAddrPort d = .ok addr) :
    ∃ t u, (clientHandshakePacket S key d buffer o₁ o₂).1 =
        (connWrite (requestHeader key commandUDP addr ++ t) o₁).1 ++ u ∧
      (∀ n err, o₁ = .failed n err → u = []) := by
  rw [clientHandshakePacket, hd]
  dsimp only
  split_ifs with hroom
  · refine ⟨packetHeader addr buffer.bytes.length ++ buffer.bytes, [], ?_, fun _ _ _ => rfl⟩
    rw [cause_fst, append_nil, append_assoc]
  · refine ⟨packetHeader addr buffer.bytes.length, ?_⟩
    cases o₁ with
    | done => exact ⟨_, rfl, fun _ _ h => by cases h⟩
    | failed n err => exact ⟨[], (append_nil _).symm, fun _ _ _ => rfl⟩

variable (buffer o₂) in
lemma clientHandshakePacket_complete (hd : S.writeAddrPort d = .ok addr)
    (ho : o₁.Reaches (requestHeader key commandUDP addr).length) :
    requestHeader key commandUDP addr <+: (clientHandshakePacket S key d buffer o₁ o₂).1 := by
  obtain ⟨t, u, heq, -⟩ := clientHandshakePacket_eq key buffer o₁ o₂ hd
  rw [heq]
  exact (isPrefix_connWrite ho).trans (prefix_append _ u)

variable (buffer o₂) in
lemma clientHandshakePacket_cut (hd : S.writeAddrPort d = .ok addr)
    (ho : ¬ o₁.Reaches (requestHeader key commandUDP addr).length) :
    ∃ n < (requestHeader key commandUDP addr).length,
      (clientHandshakePacket S key d buffer o₁ o₂).1 = (requestHeader key commandUDP addr).take n := by
  obtain ⟨t, u, heq, hu⟩ := clientHandshakePacket_eq key buffer o₁ o₂ hd
  obtain ⟨n, hn, hcut⟩ := connWrite_eq_take (t := t) ho
  refine ⟨n, hn, ?_⟩
  cases o₁ with
  | done => exact absurd trivial ho
  | failed k err => rw [heq, hu k err rfl, hcut, append_nil]

variable {p : Packet D}

lemma writePacket_ne_nil : (writePacket S p.buffer p.destination p.first).1 ≠ [] ↔ p.Sends S := by
  rw [writePacket, Packet.Sends]
  split_ifs with hroom
  · exact iff_of_false (fun h => h rfl) fun h => by omega
  · cases hd : S.writeAddrPort p.destination with
    | error err => exact iff_of_false (fun h => h rfl) (by simp)
    | ok addr =>
      dsimp only
      rw [cause_fst, connWrite_ne_nil (by simp [packetHeader, crlf])]
      exact ⟨fun h => ⟨by omega, ⟨addr, rfl⟩, h⟩, fun h => h.2.2⟩

variable {c : Client} {wire : Bytes}

lemma HasHeader.append (h : HasHeader S key wire) (t : Bytes) : HasHeader S key (wire ++ t) := by
  obtain ⟨d, addr, hd, hheader⟩ := h
  exact ⟨d, addr, hd, hheader.trans (prefix_append wire t)⟩

lemma not_hasHeader_take (hd : S.writeAddrPort d = .ok addr) {n : ℕ}
    (hn : n < (requestHeader key commandUDP addr).length) :
    ¬ HasHeader S key ((requestHeader key commandUDP addr).take n) := by
  rintro ⟨d', addr', hd', hheader⟩
  have hlen := hheader.length_le
  obtain ⟨t, ht⟩ := hheader.trans (List.take_prefix n _)
  simp only [requestHeader, append_assoc, append_cancel_left_eq] at ht
  -- both addresses begin the same bytes, and the reader takes one of them only
  obtain ⟨s, hs, hrest⟩ := S.takes d' addr' hd' [addr ++ crlf] (crlf ++ t) (by simpa using ht.symm)
  obtain ⟨s', hs', hrest'⟩ := S.takes d addr hd [addr ++ crlf] crlf (by simp)
  rw [hs, Except.ok.injEq, Prod.mk.injEq] at hs'
  have ht' : t = [] := by
    have hsame : crlf ++ t = crlf ++ [] := by
      rw [← hrest, hs'.2, hrest', append_nil]
    exact append_cancel_left hsame
  have heq : addr'.length = addr.length := by
    have := congrArg length ht
    simp only [ht', append_nil, length_append] at this
    omega
  simp only [requestHeader, length_take, length_append] at hlen hn
  omega

lemma step_of_written (hc : c.headerWritten = true) (p : Packet D) :
    step S key c p = some { c with wire := c.wire ++ (writePacket S p.buffer p.destination p.first).1 } := by
  rw [step, clientWritePacket, if_pos hc]

lemma putsFrame_iff (hc : c.headerWritten = true) (p : Packet D) :
    PutsFrame S key c p ↔ p.Sends S := by
  rw [PutsFrame, clientWritePacket, if_pos hc, ← writePacket_ne_nil]
  simp [hc]

variable (key) in
lemma step_of_not_sends (hc : c.headerWritten = true) (hp : ¬ p.Sends S) :
    step S key c p = some c := by
  rw [step_of_written hc, not_not.1 (mt writePacket_ne_nil.1 hp), append_nil]

lemma headerFirst_of_hasHeader (hc : c.headerWritten = true) (hw : HasHeader S key c.wire)
    (ps : List (Packet D)) :
    Always (step S key) (fun c => Begins S key c.wire) c ps ∧
      Throughout (step S key) (fun c p => PutsFrame S key c p → HasHeader S key c.wire) c ps := by
  induction ps generalizing c with
  | nil => exact ⟨.inr (.inl hw), trivial⟩
  | cons p ps ih =>
    have hnext := ih (c := { c with wire := c.wire ++ (writePacket S p.buffer p.destination p.first).1 })
      hc (hw.append _)
    constructor
    · refine ⟨.inr (.inl hw), fun c' hstep => ?_⟩
      rw [step_of_written hc] at hstep
      cases hstep
      exact hnext.1
    · intro c' hstep
      rw [step_of_written hc] at hstep
      cases hstep
      exact ⟨fun _ => hw, hnext.2⟩

lemma headerFirst_of_incomplete (hc : c.headerWritten = true) (hb : Begins S key c.wire)
    (hw : ¬ HasHeader S key c.wire) (ps : List (Packet D)) :
    (Always (step S key) (fun c => Begins S key c.wire) c ps ∧
      Throughout (step S key) (fun c p => PutsFrame S key c p → HasHeader S key c.wire) c ps) ↔
    ∀ q ∈ ps, ¬ q.Sends S := by
  induction ps with
  | nil => exact iff_of_true ⟨hb, trivial⟩ (by simp)
  | cons p ps ih =>
    rw [forall_mem_cons]
    constructor
    · rintro ⟨halways, hthrough⟩
      have hp : ¬ p.Sends S := fun hp =>
        hw ((hthrough _ (step_of_written hc p)).1 ((putsFrame_iff hc p).2 hp))
      have hstep := step_of_not_sends key hc hp
      exact ⟨hp, ih.1 ⟨halways.2 c hstep, (hthrough c hstep).2⟩⟩
    · rintro ⟨hp, hps⟩
      obtain ⟨halways, hthrough⟩ := ih.2 hps
      have hstep := step_of_not_sends key hc hp
      refine ⟨⟨hb, fun c' hc' => ?_⟩, fun c' hc' => ?_⟩
      · cases hstep.symm.trans hc'
        exact halways
      · cases hstep.symm.trans hc'
        exact ⟨fun h => absurd ((putsFrame_iff hc p).1 h) hp, hthrough⟩

lemma headerFirst_cons (p : Packet D) (ps : List (Packet D))
    (hwire : (clientHandshakePacket S key p.destination p.buffer p.first p.second).1 = wire) :
    HeaderFirst S key (p :: ps) ↔
      Always (step S key) (fun c => Begins S key c.wire) ⟨true, wire⟩ ps ∧
        Throughout (step S key) (fun c p => PutsFrame S key c p → HasHeader S key c.wire)
          ⟨true, wire⟩ ps := by
  have hstep : step S key {} p = some ⟨true, wire⟩ := by
    rw [step, clientWritePacket, if_neg (by simp), ← hwire]
    rfl
  constructor
  · rintro ⟨halways, hthrough⟩
    exact ⟨halways.2 _ hstep, (hthrough _ hstep).2⟩
  · rintro ⟨halways, hthrough⟩
    refine ⟨⟨.inl rfl, fun c' hc' => ?_⟩, fun c' hc' => ?_⟩
    · cases hstep.symm.trans hc'
      exact halways
    · cases hstep.symm.trans hc'
      exact ⟨fun h => absurd h.1 (by simp), hthrough⟩

theorem header_first_iff {D : Type} (S : Serializer D) (key : Bytes) (calls : List (Packet D)) :
    HeaderFirst S key calls ↔ HeaderDelivered S key calls := by
  cases calls with
  | nil => exact iff_of_true ⟨.inl rfl, trivial⟩ trivial
  | cons p ps =>
    rw [headerFirst_cons p ps rfl, HeaderDelivered]
    cases hd : S.writeAddrPort p.destination with
    | error err =>
      rw [clientHandshakePacket_rejected hd, or_iff_right (by simp)]
      refine headerFirst_of_incomplete rfl (.inl rfl) ?_ ps
      rintro ⟨d, addr, -, hheader⟩
      simpa [requestHeader] using hheader.length_le
    | ok addr =>
      by_cases ho : p.first.Reaches (requestHeader key commandUDP addr).length
      · have hheader := clientHandshakePacket_complete p.buffer p.second hd ho
        exact iff_of_true (headerFirst_of_hasHeader rfl ⟨_, addr, hd, hheader⟩ ps)
          (.inl ⟨addr, rfl, ho⟩)
      · obtain ⟨n, hn, hcut⟩ := clientHandshakePacket_cut p.buffer p.second hd ho
        rw [hcut, or_iff_right (by rintro ⟨addr', heq, h⟩; cases heq; exact ho h)]
        exact headerFirst_of_incomplete rfl
          (.inr (.inr ⟨_, addr, hd, List.take_prefix n _⟩)) (not_hasHeader_take hd hn) ps

def longDomain : Host := .fqdn (replicate 256 0x61)

lemma longDomain_rejected : longDomain.write = .error "domain too long" := by
  rw [longDomain, Host.write, if_neg (by rw [isEmpty_replicate]; decide),
    if_pos (by rw [length_replicate]; decide)]

def toLongDomain : Packet Socksaddr := { buffer := ⟨100, [1]⟩, destination := ⟨longDomain, 53⟩ }

def toResolver : Packet Socksaddr :=
  { buffer := ⟨100, [1]⟩, destination := ⟨.ipv4 0x08080808#32, 53⟩ }

theorem frame_after_rejected_destination :
    ¬ HeaderFirst socksaddrSerializer (replicate 56 0x61) [toLongDomain, toResolver] := by
  have hrejected : socksaddrSerializer.writeAddrPort toLongDomain.destination =
      .error "domain too long" := by
    simp only [socksaddrSerializer, toLongDomain, longDomain_rejected]
    rfl
  rw [headerFirst_cons _ _ (clientHandshakePacket_rejected hrejected)]
  rintro ⟨-, hthrough⟩
  obtain ⟨d, addr, -, hheader⟩ := (hthrough _ rfl).1
    ((putsFrame_iff rfl _).2 ⟨by decide, ⟨_, rfl⟩, trivial⟩)
  have hlen : (requestHeader (replicate 56 0x61) commandUDP addr).length ≤ 0 := hheader.length_le
  simp [requestHeader] at hlen

end SingBox.Trojan
