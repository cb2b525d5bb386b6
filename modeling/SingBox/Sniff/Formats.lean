import SingBox.Sniff.Packet

namespace SingBox.Sniff

open Lib Lib.Loops Lib.Wire List Quic ClientHello Errors

variable {env : Env} {packet : Bytes} {m : Metadata}

def IsQuery (env : Env) (packet : Bytes) : Prop :=
  ∃ question rest, env.unpack packet = .ok (question :: rest) ∧ question.qclass = 1 ∧
    env.isDomainName question.name = true

lemma domainNameQuery_iff : domainNameQuery env packet = .ok () ↔ IsQuery env packet := by
  unfold domainNameQuery IsQuery
  cases env.unpack packet with
  | error err => simp
  | ok questions =>
    cases questions with
    | nil => simp [invalid]
    | cons question rest =>
      dsimp only
      split_ifs with hbad
      · simp only [invalid, reduceCtorEq, false_iff]
        rintro ⟨q, r, heq, hclass, hname⟩
        obtain ⟨rfl, -⟩ := List.cons.inj (Except.ok.inj heq)
        exact hbad.elim (· hclass) fun h => by rw [h] at hname; cases hname
      · refine iff_of_true rfl ⟨question, rest, rfl, ?_, ?_⟩
        · exact not_not.1 fun h => hbad (.inl h)
        · exact Bool.eq_true_of_not_eq_false fun h => hbad (.inr h)

structure IsSTUN (packet : Bytes) : Prop where
  cookie : ofBigEndian ((packet.drop 4).take 4) = 0x2112A442
  attributes : 20 + ofBigEndian ((packet.drop 2).take 2) ≤ packet.length

lemma stunMessage_iff : stunMessage packet = .ok () ↔ IsSTUN packet := by
  unfold stunMessage
  split_ifs with hlen hcookie hattr
  · exact iff_of_false (by simp [invalid]) fun h => by have := h.attributes; omega
  · exact iff_of_false (by simp [invalid]) fun h => hcookie h.cookie
  · exact iff_of_false (by simp [invalid]) fun h => by have := h.attributes; omega
  · exact iff_of_true rfl ⟨not_not.1 hcookie, not_lt.1 hattr⟩

inductive Extensions : UInt8 → Bytes → Prop where
  | done (s : Bytes) : Extensions 0 s
  | more {e : UInt8} {next length : UInt8} {rest : Bytes} (he : e ≠ 0)
      (hrest : Extensions next (rest.drop length.toNat)) : Extensions e (next :: length :: rest)

structure IsUTP (packet : Bytes) : Prop where
  size : 20 ≤ packet.length
  first : packet.getD 0 0 ∈ ([0x01, 0x11, 0x21, 0x31, 0x41] : List UInt8)
  extensions : Extensions (packet.getD 1 0) (packet.drop 20)

lemma type_version_iff (b : UInt8) :
    ¬(b &&& 0x0F ≠ 1 ∨ (4 : UInt8) < b >>> 4) ↔ b ∈ ([0x01, 0x11, 0x21, 0x31, 0x41] : List UInt8) := by
  obtain ⟨⟨n⟩⟩ := b
  revert n
  decide +kernel

lemma run_extensionTurn (s : UInt8 × Bytes) :
    (extensionTurn_descends.run s).2 = .ok () ↔ Extensions s.1 s.2 := by
  -- the induction is on the bytes that are left, as the loop's rank is
  induction hn : s.2.length using Nat.strongRecOn generalizing s with
  | ind n ih =>
    obtain ⟨e, left⟩ := s
    by_cases he : e = 0
    · subst he
      have hturn : extensionTurn (0, left) = .leave (0, left) (.ok ()) := rfl
      rw [extensionTurn_descends.run_leave hturn]
      exact iff_of_true rfl (.done left)
    · have hstop : ∀ left : Bytes, extensionTurn (e, left) = .leave (e, left) (.error "EOF") →
          ¬ Extensions e left → ((extensionTurn_descends.run (e, left)).2 = .ok () ↔ Extensions e left) := by
        intro left hturn hno
        rw [extensionTurn_descends.run_leave hturn]
        exact iff_of_false (by simp) hno
      rcases left with _ | ⟨next, _ | ⟨length, rest⟩⟩
      · refine hstop [] (by rw [extensionTurn, if_neg he]) ?_
        rintro (_ | _)
        exact he rfl
      · refine hstop [next] (by rw [extensionTurn, if_neg he]) ?_
        rintro (_ | _)
        exact he rfl
      · have hturn : extensionTurn (e, next :: length :: rest) = .again (next, rest.drop length.toNat) := by
          rw [extensionTurn, if_neg he]
        have hlt : (rest.drop length.toNat).length < n := by
          rw [← hn, length_drop, length_cons, length_cons]
          omega
        rw [extensionTurn_descends.run_again hturn, ih _ hlt (next, rest.drop length.toNat) rfl]
        constructor
        · exact .more he
        · rintro (_ | ⟨-, hrest⟩)
          · exact absurd rfl he
          · exact hrest

lemma utp_iff : utp packet = .ok () ↔ IsUTP packet := by
  unfold utp
  split_ifs with hlen hfirst
  · exact iff_of_false (by simp [invalid]) fun h => by have := h.size; omega
  · exact iff_of_false (by simp [invalid]) fun h => (type_version_iff _).2 h.first hfirst
  · rw [run_extensionTurn]
    exact ⟨fun h => ⟨not_lt.1 hlen, (type_version_iff _).1 hfirst, h⟩, fun h => h.extensions⟩

inductive Chain : UInt8 → Bytes → Prop where
  | done (s : Bytes) : Chain 0 s
  | more {e next length : UInt8} {body rest : Bytes} (he : e ≠ 0) (hbody : body.length = length.toNat)
      (hrest : Chain next rest) : Chain e (next :: length :: (body ++ rest))

inductive Overruns : UInt8 → Bytes → Prop where
  | last {e length : UInt8} {rest : Bytes} (he : e ≠ 0) (hrest : rest.length < length.toNat) :
      Overruns e (0 :: length :: rest)
  | more {e next length : UInt8} {body rest : Bytes} (he : e ≠ 0) (hbody : body.length = length.toNat)
      (hrest : Overruns next rest) : Overruns e (next :: length :: (body ++ rest))

variable {e : UInt8} {s : Bytes}

lemma Chain.extensions (h : Chain e s) : Extensions e s := by
  induction h with
  | done s => exact .done s
  | more he hbody _ ih => exact .more he (by rwa [← hbody, drop_left])

lemma Overruns.extensions (h : Overruns e s) : Extensions e s := by
  induction h with
  | last he hrest => exact .more he (.done _)
  | more he hbody _ ih => exact .more he (by rwa [← hbody, drop_left])

lemma Extensions.chain_or_overruns (h : Extensions e s) : Chain e s ∨ Overruns e s := by
  induction h with
  | done s => exact .inl (.done s)
  | @more e next length rest he hrest ih =>
    by_cases hlength : length.toNat ≤ rest.length
    · -- the extension lies inside, and the rest decides
      have hbody : (rest.take length.toNat).length = length.toNat := by simp [hlength]
      rw [← take_append_drop length.toNat rest]
      exact ih.imp (.more he hbody) (.more he hbody)
    · -- nothing is left, so that the next type can only be zero
      rw [drop_eq_nil_of_le (by omega)] at hrest
      cases hrest with
      | done => exact .inr (.last he (by omega))

lemma Chain.not_overruns (h : Chain e s) : ¬ Overruns e s := by
  induction h with
  | done s =>
    intro h
    cases h with
    | last he => exact he rfl
    | more he => exact he rfl
  | @more e next length body rest he hbody hrest ih =>
    intro h
    generalize hs : body ++ rest = left at h
    cases h with
    | last _ hshort =>
      rw [← hs, length_append] at hshort
      omega
    | more _ hbody' hrest' =>
      obtain ⟨-, rfl⟩ := append_inj hs (hbody.trans hbody'.symm)
      exact ih hrest'

structure IsWholeUTP (packet : Bytes) : Prop where
  size : 20 ≤ packet.length
  version : packet.getD 0 0 &&& 0x0F = 1
  type : packet.getD 0 0 >>> 4 ≤ 4
  chain : Chain (packet.getD 1 0) (packet.drop 20)

structure RecognisesUTP (packet : Bytes) : Prop where
  terminates : ∃ fuel, (loop extensionTurn fuel (packet.getD 1 0, packet.drop 20)).isSome = true
  accepts : utp packet = .ok () ↔ IsWholeUTP packet

theorem utp_recognition_iff (packet : Bytes) : RecognisesUTP packet ↔
    ¬ (20 ≤ packet.length ∧ packet.getD 0 0 &&& 0x0F = 1 ∧ packet.getD 0 0 >>> 4 ≤ 4 ∧
      Overruns (packet.getD 1 0) (packet.drop 20)) := by
  have hfirst : packet.getD 0 0 ∈ ([0x01, 0x11, 0x21, 0x31, 0x41] : List UInt8) ↔
      packet.getD 0 0 &&& 0x0F = 1 ∧ packet.getD 0 0 >>> 4 ≤ 4 := by
    rw [← type_version_iff]
    simp
  constructor
  · rintro ⟨-, haccepts⟩ ⟨hsize, hversion, htype, hover⟩
    have hutp : IsUTP packet := ⟨hsize, hfirst.2 ⟨hversion, htype⟩, hover.extensions⟩
    exact (haccepts.1 (utp_iff.2 hutp)).chain.not_overruns hover
  · intro hno
    refine ⟨⟨_, extensionTurn_descends.isSome _⟩, utp_iff.trans ⟨fun h => ?_, fun h => ?_⟩⟩
    · obtain ⟨hversion, htype⟩ := hfirst.1 h.first
      refine ⟨h.size, hversion, htype, h.extensions.chain_or_overruns.resolve_right fun hover => ?_⟩
      exact hno ⟨h.size, hversion, htype, hover⟩
    · exact ⟨h.size, hfirst.2 ⟨h.version, h.type⟩, h.chain.extensions⟩

def overrunPacket : Bytes := 0x01 :: 0x01 :: replicate 18 0 ++ [0, 5]

theorem utp_accepts_overrun : utp overrunPacket = .ok () ∧ ¬ IsWholeUTP overrunPacket := by
  have hover : Overruns 1 [0, 5] := .last (by decide) (by decide)
  exact ⟨utp_iff.2 ⟨by decide, by decide, hover.extensions⟩, fun h => h.chain.not_overruns hover⟩

structure IsTracker (packet : Bytes) : Prop where
  size : 16 ≤ packet.length
  protocolID : ofBigEndian (packet.take 8) = 0x41727101980
  connect : ofBigEndian ((packet.drop 8).take 4) = 0

lemma udpTracker_iff : udpTracker packet = .ok () ↔ IsTracker packet := by
  unfold udpTracker
  split_ifs with hlen hid hflag
  · exact iff_of_false (by simp [invalid]) fun h => by have := h.size; omega
  · exact iff_of_false (by simp [invalid]) fun h => hid h.protocolID
  · exact iff_of_false (by simp [invalid]) fun h => hflag h.connect
  · exact iff_of_true rfl ⟨not_lt.1 hlen, not_not.1 hid, not_not.1 hflag⟩

structure IsDTLS (packet : Bytes) : Prop where
  size : 13 ≤ packet.length
  contentType : packet.getD 0 0 ∈ ([20, 21, 22, 23, 25] : List UInt8)
  major : packet.getD 1 0 = 0xfe
  minor : packet.getD 2 0 = 0xff ∨ packet.getD 2 0 = 0xfd

lemma dtlsRecord_iff : dtlsRecord packet = .ok () ↔ IsDTLS packet := by
  unfold dtlsRecord
  split_ifs with hlen htype hmajor hminor
  · exact iff_of_false (by simp [invalid]) fun h => by have := h.size; omega
  · exact iff_of_false (by simp [invalid]) fun h => hmajor h.major
  · exact iff_of_false (by simp [invalid]) fun h => h.minor.elim hminor.1 hminor.2
  · exact iff_of_true rfl ⟨not_lt.1 hlen, htype, not_not.1 hmajor, by tauto⟩
  · exact iff_of_false (by simp [invalid]) fun h => htype h.contentType

def CarriesRecord (env : Env) (packet : Bytes) (m : Metadata) (frameTypeList : List UInt8)
    (record : Bytes) : Prop :=
  ∃ fragments, readPacket env.crypto packet = .ok (frameTypeList, fragments) ∧
    assemble (fragments ++ m.sniffContext.getD []) = .ok record

def CarriesHello (env : Env) (packet : Bytes) (m : Metadata) : Prop :=
  ∃ frameTypeList record hello, CarriesRecord env packet m frameTypeList record ∧
    compute record = .ok hello ∧ (m.client = "" → frameTypeList ≠ [])

def CarriesPart (env : Env) (packet : Bytes) (m : Metadata) : Prop :=
  ∃ frameTypeList record err, CarriesRecord env packet m frameTypeList record ∧
    compute record = .error (.error err)

lemma quicClientHello_eq_ok {x : Except SniffError Unit × Metadata} :
    quicClientHello env.crypto packet m = .ok x ↔
      ∃ frameTypeList fragments record,
        readPacket env.crypto packet = .ok (frameTypeList, fragments) ∧
        assemble (fragments ++ m.sniffContext.getD []) = .ok record ∧
        identify frameTypeList (fragments ++ m.sniffContext.getD []) m
          (compute record) = .ok x := by
  constructor
  · intro h
    obtain ⟨⟨frameTypeList, fragments⟩, hread, h⟩ := bind_eq_ok.1 h
    obtain ⟨record, hrecord, h⟩ := bind_eq_ok.1 h
    exact ⟨frameTypeList, fragments, record, hread, hrecord, h⟩
  · rintro ⟨frameTypeList, fragments, record, hread, hrecord, h⟩
    exact bind_eq_ok.2 ⟨_, hread, bind_eq_ok.2 ⟨_, hrecord, h⟩⟩

lemma exists_quicClientHello_iff :
    (∃ m', quicClientHello env.crypto packet m = .ok (.ok (), m')) ↔ CarriesHello env packet m := by
  constructor
  · rintro ⟨m', h⟩
    obtain ⟨types, fragments, record, hread, hrecord, h⟩ := quicClientHello_eq_ok.1 h
    cases hello : compute record with
    | error stop =>
      rw [hello] at h
      cases stop <;> cases h
    | ok fingerprint =>
      rw [hello] at h
      obtain ⟨client, hclient, -⟩ := map_eq_ok.1 h
      exact ⟨types, record, fingerprint, ⟨fragments, hread, hrecord⟩, hello,
        sniffClient_eq_ok.1 ⟨client, hclient⟩⟩
  · rintro ⟨types, record, hello, ⟨fragments, hread, hrecord⟩, hcompute, hclient⟩
    obtain ⟨client, hclient⟩ := sniffClient_eq_ok.2 hclient
    obtain ⟨m', hm'⟩ : ∃ m', identify types (fragments ++ m.sniffContext.getD []) m
        (compute record) = .ok (.ok (), m') := by
      rw [hcompute]
      exact ⟨_, map_eq_ok.2 ⟨client, hclient, rfl⟩⟩
    exact ⟨m', quicClientHello_eq_ok.2 ⟨types, fragments, record, hread, hrecord, hm'⟩⟩

lemma exists_quicFragment_iff :
    (∃ err m', quicClientHello env.crypto packet m = .ok (.error err, m')) ↔
      CarriesPart env packet m := by
  constructor
  · rintro ⟨err, m', h⟩
    obtain ⟨types, fragments, record, hread, hrecord, h⟩ := quicClientHello_eq_ok.1 h
    cases hello : compute record with
    | error stop =>
      rw [hello] at h
      cases stop with
      | error err => exact ⟨types, record, err, ⟨fragments, hread, hrecord⟩, hello⟩
      | panic => cases h
      | spins => cases h
    | ok fingerprint =>
      rw [hello] at h
      obtain ⟨client, -, h⟩ := map_eq_ok.1 h
      cases h
  · rintro ⟨types, record, err, ⟨fragments, hread, hrecord⟩, hcompute⟩
    obtain ⟨m', hm'⟩ : ∃ m', identify types (fragments ++ m.sniffContext.getD []) m
        (compute record) = .ok (.error .clientHelloFragmented, m') := by
      rw [hcompute]
      exact ⟨_, rfl⟩
    exact ⟨_, m', quicClientHello_eq_ok.2 ⟨types, fragments, record, hread, hrecord, hm'⟩⟩

structure IsInitial (packet : Bytes) : Prop where
  size : 5 ≤ packet.length
  fixedBit : packet.getD 0 0 &&& 0x40 ≠ 0
  version : ofBigEndian ((packet.drop 1).take 4) ∈
    [versionDraft29, version1, version2]

lemma isInitial_of_readVersion {v : ℕ} {rest : Bytes} (h : Reads readVersion packet v rest) :
    IsInitial packet := by
  obtain ⟨b, s, hbyte, h⟩ := h.of_bind
  rw [eq_cons_of_readByte hbyte]
  split_ifs at h with hbit
  · cases h
  · obtain ⟨version, s', hversion, h⟩ := h.of_bind
    obtain ⟨hlen, rfl⟩ := eq_of_readBigEndian hversion
    dsimp only at h
    split_ifs at h with hbad
    · cases h
    · cases h
    · refine ⟨Nat.succ_le_succ hlen, hbit, ?_⟩
      rw [drop_one, tail_cons]
      simp only [mem_cons, not_mem_nil, or_false]
      tauto

lemma CarriesRecord.isInitial {types : List UInt8} {record : Bytes}
    (h : CarriesRecord env packet m types record) : IsInitial packet := by
  obtain ⟨fragments, hread, -⟩ := h
  unfold readPacket at hread
  split at hread
  · rename_i decrypted after hdecrypt
    obtain ⟨header, hheader, -⟩ := bind_eq_ok.1 hdecrypt
    obtain ⟨⟨v, rest⟩, hversion, -⟩ := bind_eq_ok.1 hheader
    exact isInitial_of_readVersion hversion
  · cases hread

lemma exists_eight (h : 8 ≤ packet.length) :
    ∃ b₀ b₁ b₂ b₃ b₄ b₅ b₆ b₇ rest, packet = b₀ :: b₁ :: b₂ :: b₃ :: b₄ :: b₅ :: b₆ :: b₇ :: rest := by
  rcases packet with
    _ | ⟨b₀, _ | ⟨b₁, _ | ⟨b₂, _ | ⟨b₃, _ | ⟨b₄, _ | ⟨b₅, _ | ⟨b₆, _ | ⟨b₇, rest⟩⟩⟩⟩⟩⟩⟩⟩
  on_goal 9 => exact ⟨b₀, b₁, b₂, b₃, b₄, b₅, b₆, b₇, rest, rfl⟩
  all_goals simp at h

lemma IsSTUN.not_isTracker (h : IsSTUN packet) : ¬ IsTracker packet := by
  intro h'
  have hlen : 8 ≤ packet.length := le_trans (by decide) h'.size
  obtain ⟨b₀, b₁, b₂, b₃, b₄, b₅, b₆, b₇, rest, rfl⟩ := exists_eight hlen
  have hcookie := h.cookie
  have hid := h'.protocolID
  simp [ofBigEndian] at hcookie hid
  omega

lemma IsSTUN.not_isInitial (h : IsSTUN packet) : ¬ IsInitial packet := by
  intro h'
  have hlen : 8 ≤ packet.length := le_trans (by omega) h.attributes
  obtain ⟨b₀, b₁, b₂, b₃, b₄, b₅, b₆, b₇, rest, rfl⟩ := exists_eight hlen
  have hcookie := h.cookie
  have hversion := h'.version
  -- the byte at offset four ends the version and begins the cookie
  have h₄ := b₄.toNat_lt
  have h₅ := b₅.toNat_lt
  have h₆ := b₆.toNat_lt
  have h₇ := b₇.toNat_lt
  simp [ofBigEndian, versionDraft29, version1, version2] at hcookie hversion
  omega

lemma IsTracker.first (h : IsTracker packet) : packet.getD 0 0 = 0 := by
  have hlen : 8 ≤ packet.length := le_trans (by decide) h.size
  obtain ⟨b₀, b₁, b₂, b₃, b₄, b₅, b₆, b₇, rest, rfl⟩ := exists_eight hlen
  have hid := h.protocolID
  simp [ofBigEndian] at hid
  have hzero : b₀.toNat = 0 := by omega
  exact UInt8.toNat_inj.1 hzero

lemma IsTracker.not_isInitial (h : IsTracker packet) : ¬ IsInitial packet := fun h' =>
  h'.fixedBit (by rw [h.first]; rfl)

lemma IsDTLS.not_isUTP (h : IsDTLS packet) : ¬ IsUTP packet := by
  intro h'
  have htype := h.contentType
  have hfirst := h'.first
  simp only [mem_cons, not_mem_nil, or_false] at htype hfirst
  rcases htype with h₀ | h₀ | h₀ | h₀ | h₀ <;> rw [h₀] at hfirst <;> revert hfirst <;> decide

lemma IsDTLS.not_isInitial (h : IsDTLS packet) : ¬ IsInitial packet := by
  intro h'
  have htype := h.contentType
  have hbit := h'.fixedBit
  simp only [mem_cons, not_mem_nil, or_false] at htype
  rcases htype with h₀ | h₀ | h₀ | h₀ | h₀ <;> rw [h₀] at hbit <;> exact hbit rfl

lemma IsDTLS.not_isTracker (h : IsDTLS packet) : ¬ IsTracker packet := by
  intro h'
  have htype := h.contentType
  rw [h'.first] at htype
  revert htype
  decide

end SingBox.Sniff
