import SingBox.Sniff.Formats

namespace SingBox.Sniff

open Lib Lib.Wire Sniffer Tasks.Apart Quic

variable {env : Env} {packet : Bytes} {m m' : Metadata}

def assigned (protocol : String) : Except String Unit → Except SniffError Unit × Option String
  | .ok () => (.ok (), some protocol)
  | .error err => (.error (.error err), none)

def quicOutcome : Except Stop (Except SniffError Unit) → Option (Except SniffError Unit × Option String)
  | .ok r => some (r, some "quic")
  | .error (.error err) => some (.error (.error err), none)
  | .error .panic => none
  | .error .spins => none

def Sniffer.outcome (env : Env) (packet : Bytes) :
    Sniffer → Metadata → Option (Except SniffError Unit × Option String)
  | .domainNameQuery, _ => some (assigned "dns" (Sniff.domainNameQuery env packet))
  | .quicClientHello, m =>
    quicOutcome ((Quic.quicClientHello env.crypto packet m).map Prod.fst)
  | .stunMessage, _ => some (assigned "stun" (Sniff.stunMessage packet))
  | .utp, _ => some (assigned "bittorrent" (Sniff.utp packet))
  | .udpTracker, _ => some (assigned "bittorrent" (Sniff.udpTracker packet))
  | .dtlsRecord, _ => some (assigned "dtls" (Sniff.dtlsRecord packet))

def Sniffer.view : Sniffer → Metadata → Option (String × Option (List Fragment))
  | .quicClientHello, m => some (m.client, m.sniffContext)
  | _, _ => none

lemma identify_congr (frameTypeList : List UInt8) (fragments : List Fragment)
    (r : Except Stop ClientHello) (hclient : m.client = m'.client) :
    (identify frameTypeList fragments m r).map Prod.fst =
      (identify frameTypeList fragments m' r).map Prod.fst := by
  cases r with
  | error stop => cases stop <;> rfl
  | ok fingerprint =>
    simp only [identify, hclient]
    cases sniffClient m'.client frameTypeList fingerprint <;> rfl

lemma quicClientHello_congr (c : Quic.Crypto) (packet : Bytes) (hclient : m.client = m'.client)
    (hcontext : m.sniffContext = m'.sniffContext) :
    (Quic.quicClientHello c packet m).map Prod.fst = (Quic.quicClientHello c packet m').map Prod.fst := by
  unfold Quic.quicClientHello
  rw [hcontext]
  cases readPacket c packet with
  | error stop => rfl
  | ok x =>
    change (assemble (x.2 ++ m'.sniffContext.getD []) >>= _).map _ =
      (assemble (x.2 ++ m'.sniffContext.getD []) >>= _).map _
    cases assemble (x.2 ++ m'.sniffContext.getD []) with
    | error stop => rfl
    | ok buffer => exact identify_congr x.1 _ _ hclient

lemma protocol_of_quicClientHello {c : Quic.Crypto} {x : Except SniffError Unit × Metadata}
    (h : Quic.quicClientHello c packet m = .ok x) : x.2.protocol = "quic" := by
  obtain ⟨y, -, h⟩ := Errors.bind_eq_ok.1 h
  obtain ⟨buffer, -, h⟩ := Errors.bind_eq_ok.1 h
  cases hello : ClientHello.compute buffer with
  | error stop =>
    rw [hello] at h
    cases stop <;> cases h
    rfl
  | ok fingerprint =>
    rw [hello] at h
    obtain ⟨client, -, rfl⟩ := Errors.map_eq_ok.1 h
    rfl

lemma assign_eq (protocol : String) (check : Except String Unit) (m : Metadata) :
    (assign protocol check m).1 = (assigned protocol check).1 ∧
      (assign protocol check m).2.protocol = (assigned protocol check).2.getD m.protocol ∧
      ∀ s : Sniffer, s.view (assign protocol check m).2 = s.view m := by
  cases check with
  | error err => exact ⟨rfl, rfl, fun _ => rfl⟩
  | ok u => exact ⟨rfl, rfl, fun s => by cases s <;> rfl⟩

lemma outcome_quic (env : Env) (packet : Bytes) (m : Metadata) :
    outcome env packet .quicClientHello m =
      quicOutcome ((Quic.quicClientHello env.crypto packet m).map Prod.fst) :=
  rfl

lemma run_quic (env : Env) (packet : Bytes) (m : Metadata) :
    run env packet m .quicClientHello =
      completed m (Quic.quicClientHello env.crypto packet m) :=
  rfl

variable {r : Except SniffError Unit}

lemma run_of_outcome_quic {w : Option String}
    (h : outcome env packet .quicClientHello m = some (r, w)) :
    ∃ m', run env packet m .quicClientHello = some (r, m') ∧
      m'.protocol = w.getD m.protocol := by
  rw [outcome_quic] at h
  rw [run_quic]
  cases hread : Quic.quicClientHello env.crypto packet m with
  | ok x =>
    rw [hread] at h
    cases h
    exact ⟨x.2, rfl, protocol_of_quicClientHello hread⟩
  | error stop =>
    rw [hread] at h
    cases stop <;> cases h
    exact ⟨m, rfl, rfl⟩

lemma run_of_outcome_quic_none (h : outcome env packet .quicClientHello m = none) :
    run env packet m .quicClientHello = none := by
  rw [outcome_quic] at h
  rw [run_quic]
  cases hread : Quic.quicClientHello env.crypto packet m with
  | ok x =>
    rw [hread] at h
    cases h
  | error stop =>
    rw [hread] at h
    cases stop with
    | error err => cases h
    | panic => rfl
    | spins => rfl

lemma view_of_ne_quic {s : Sniffer} (hs : s ≠ .quicClientHello) (m m' : Metadata) :
    s.view m = s.view m' := by
  cases s <;> first | rfl | exact absurd rfl hs

lemma apart (env : Env) (packet : Bytes) :
    Tasks.Apart (fun s m => run env packet m s) (fun m => m.protocol) view
      (outcome env packet) where
  congr := by
    intro s m m' h
    cases s with
    | quicClientHello =>
      obtain ⟨hclient, hcontext⟩ := Prod.mk.inj (Option.some.inj h)
      rw [outcome_quic, outcome_quic, quicClientHello_congr env.crypto packet hclient hcontext]
    | _ => rfl
  stuck := by
    intro s m h
    cases s with
    | quicClientHello => exact run_of_outcome_quic_none h
    | _ => cases h
  done := by
    intro s m r w h
    have simple : ∀ protocol check, assigned protocol check = (r, w) →
        ∃ m', some (assign protocol check m) = some (r, m') ∧ m'.protocol = w.getD m.protocol ∧
          ∀ j : Sniffer, j ≠ s → j.view m' = j.view m := by
      intro protocol check hout
      obtain ⟨hr, hw, hview⟩ := assign_eq protocol check m
      rw [hout] at hr hw
      exact ⟨_, congrArg some (Prod.ext hr rfl), hw, fun j _ => hview j⟩
    cases s with
    | quicClientHello =>
      obtain ⟨m', hrun, hw⟩ := run_of_outcome_quic h
      exact ⟨m', hrun, hw, fun j hj => view_of_ne_quic hj m' m⟩
    | domainNameQuery => exact simple _ _ (Option.some.inj h)
    | stunMessage => exact simple _ _ (Option.some.inj h)
    | utp => exact simple _ _ (Option.some.inj h)
    | udpTracker => exact simple _ _ (Option.some.inj h)
    | dtlsRecord => exact simple _ _ (Option.some.inj h)

def Sniffer.writes (env : Env) (packet : Bytes) (m : Metadata) : Sniffer → Option String :=
  write (outcome env packet) m

lemma isOk_receive (errors : List SniffError) (results : List (Except SniffError Unit)) :
    (receive errors results).isOk = (results.any Except.isOk || errors.isEmpty && results.isEmpty) := by
  induction results generalizing errors with
  | nil => cases errors <;> rfl
  | cons r results ih =>
    cases r with
    | ok u => rfl
    | error err =>
      rw [receive, ih, List.any_cons, List.isEmpty_cons, Bool.and_false, Bool.or_false]
      simp [Except.isOk, Except.toBool]

lemma isOk_receive_perm {l l' : List (Except SniffError Unit)} (h : l.Perm l') :
    (receive [] l).isOk = (receive [] l').isOk := by
  have hany : l.any Except.isOk = l'.any Except.isOk := by
    rw [Bool.eq_iff_iff, List.any_eq_true, List.any_eq_true]
    exact exists_congr fun r => and_congr_left fun _ => h.mem_iff
  have hempty : l.isEmpty = l'.isEmpty := by
    rw [Bool.eq_iff_iff, List.isEmpty_iff, List.isEmpty_iff]
    exact ⟨fun hl => (hl ▸ h.symm).eq_nil, fun hl => (hl ▸ h).eq_nil⟩
  rw [isOk_receive, isOk_receive, hany, hempty]

lemma nodup_packetSniffers : packetSniffers.Nodup := by decide

lemma mem_packetSniffers (s : Sniffer) : s ∈ packetSniffers := by cases s <;> decide

lemma outcome_ne_none {s : Sniffer} (hs : s ≠ .quicClientHello) :
    outcome env packet s m ≠ none := by
  cases s <;> first | exact absurd rfl hs | exact Option.some_ne_none _

variable {order : List Sniffer}

lemma verdict_peekPacket (horder : order.Perm packetSniffers)
    (hquic : outcome env packet .quicClientHello m ≠ none) :
    (peekPacket env packet m order).map verdict =
      some ((receive [] (packetSniffers.filterMap
          (result (outcome env packet) m))).isOk,
        Tasks.lastWrite (writes env packet m) order m.protocol) := by
  have hdone : ∀ s ∈ order, outcome env packet s m ≠ none := fun s _ => by
    by_cases hs : s = .quicClientHello
    · exact hs ▸ hquic
    · exact outcome_ne_none hs
  obtain ⟨m', hrun, hlast⟩ := (apart env packet).runAll_eq_some (horder.nodup_iff.2 nodup_packetSniffers)
    (fun s _ => rfl) hdone
  rw [peekPacket, hrun, Option.map_some, Option.map_some]
  exact congrArg some (Prod.ext (isOk_receive_perm (horder.filterMap _)) hlast)

lemma peekPacket_eq_none (horder : order.Perm packetSniffers)
    (hquic : outcome env packet .quicClientHello m = none) :
    peekPacket env packet m order = none := by
  rw [peekPacket, (apart env packet).runAll_eq_none (horder.nodup_iff.2 nodup_packetSniffers)
    (fun s _ => rfl) (horder.mem_iff.2 (mem_packetSniffers _)) hquic]
  rfl

def WritesAgree (env : Env) (packet : Bytes) (m : Metadata) : Prop :=
  ∀ s s' w w', writes env packet m s = some w → writes env packet m s' = some w' → w = w'

lemma scheduleIndependent_iff (env : Env) (packet : Bytes) (m : Metadata) :
    ScheduleIndependent env packet m ↔
      (outcome env packet .quicClientHello m ≠ none → WritesAgree env packet m) := by
  by_cases hquic : outcome env packet .quicClientHello m = none
  · refine iff_of_true ?_ fun h => absurd hquic h
    intro o₁ o₂ h₁ h₂
    rw [peekPacket_eq_none h₁ hquic, peekPacket_eq_none h₂ hquic]
  · have hlast : ScheduleIndependent env packet m ↔ ∀ o₁ o₂ : List Sniffer, o₁.Perm packetSniffers →
        o₂.Perm packetSniffers → Tasks.lastWrite (writes env packet m) o₁ m.protocol =
          Tasks.lastWrite (writes env packet m) o₂ m.protocol := by
      refine forall₂_congr fun o₁ o₂ => forall₂_congr fun h₁ h₂ => ?_
      rw [verdict_peekPacket h₁ hquic, verdict_peekPacket h₂ hquic, Option.some_inj, Prod.mk.injEq]
      exact and_iff_right rfl
    rw [hlast, Tasks.lastWrite_perm_iff, imp_iff_right hquic]
    exact forall_congr' fun s => by simp only [mem_packetSniffers, true_implies]

def Sniffer.protocol : Sniffer → String
  | .domainNameQuery => "dns"
  | .quicClientHello => "quic"
  | .stunMessage => "stun"
  | .utp => "bittorrent"
  | .udpTracker => "bittorrent"
  | .dtlsRecord => "dtls"

def Sniffer.Detects (env : Env) (packet : Bytes) (m : Metadata) : Sniffer → Prop
  | .domainNameQuery => IsQuery env packet
  | .quicClientHello => CarriesHello env packet m ∨ CarriesPart env packet m
  | .stunMessage => IsSTUN packet
  | .utp => IsUTP packet
  | .udpTracker => IsTracker packet
  | .dtlsRecord => IsDTLS packet

variable {w : String}

lemma assigned_eq_some {protocol : String} {check : Except String Unit} :
    (assigned protocol check).2 = some w ↔ check = .ok () ∧ w = protocol := by
  cases check with
  | error err => simp [assigned]
  | ok u => simp [assigned, eq_comm]

lemma exists_quic_iff :
    (∃ x, Quic.quicClientHello env.crypto packet m = .ok x) ↔
      CarriesHello env packet m ∨ CarriesPart env packet m := by
  rw [← exists_quicClientHello_iff, ← exists_quicFragment_iff]
  constructor
  · rintro ⟨⟨r, m'⟩, h⟩
    cases r with
    | ok u => exact .inl ⟨m', h⟩
    | error err => exact .inr ⟨err, m', h⟩
  · rintro (⟨m', h⟩ | ⟨err, m', h⟩)
    · exact ⟨_, h⟩
    · exact ⟨_, h⟩

lemma writes_quic_iff : writes env packet m .quicClientHello = some w ↔
      (CarriesHello env packet m ∨ CarriesPart env packet m) ∧ w = "quic" := by
  rw [← exists_quic_iff, writes, write, outcome_quic]
  cases Quic.quicClientHello env.crypto packet m with
  | ok x => simp [quicOutcome, Except.map, eq_comm]
  | error stop => cases stop <;> simp [quicOutcome, Except.map]

variable {s : Sniffer}

lemma writes_iff :
    writes env packet m s = some w ↔ s.Detects env packet m ∧ w = s.protocol := by
  cases s with
  | quicClientHello => exact writes_quic_iff
  | domainNameQuery => exact assigned_eq_some.trans (and_congr_left fun _ => domainNameQuery_iff)
  | stunMessage => exact assigned_eq_some.trans (and_congr_left fun _ => stunMessage_iff)
  | utp => exact assigned_eq_some.trans (and_congr_left fun _ => utp_iff)
  | udpTracker => exact assigned_eq_some.trans (and_congr_left fun _ => udpTracker_iff)
  | dtlsRecord => exact assigned_eq_some.trans (and_congr_left fun _ => dtlsRecord_iff)

def clashes : List (Sniffer × Sniffer) :=
  [(.domainNameQuery, .quicClientHello), (.domainNameQuery, .stunMessage), (.domainNameQuery, .utp),
    (.domainNameQuery, .udpTracker), (.domainNameQuery, .dtlsRecord), (.utp, .quicClientHello),
    (.utp, .stunMessage), (.stunMessage, .dtlsRecord)]

def exclusive : List (Sniffer × Sniffer) :=
  [(.stunMessage, .udpTracker), (.stunMessage, .quicClientHello), (.udpTracker, .quicClientHello),
    (.dtlsRecord, .utp), (.dtlsRecord, .udpTracker), (.dtlsRecord, .quicClientHello)]

lemma protocol_ne_of_mem_clashes : ∀ p ∈ clashes, p.1.protocol ≠ p.2.protocol := by decide

lemma mem_clashes_or_exclusive (s s' : Sniffer) (h : s.protocol ≠ s'.protocol) :
    ((s, s') ∈ clashes ∨ (s', s) ∈ clashes) ∨ (s, s') ∈ exclusive ∨ (s', s) ∈ exclusive := by
  cases s <;> cases s' <;> first | decide | exact absurd rfl h

def OneFormat (env : Env) (packet : Bytes) (m : Metadata) : Prop :=
  ∀ p ∈ clashes, p.1.Detects env packet m → ¬ p.2.Detects env packet m

lemma isInitial_of_carries (h : CarriesHello env packet m ∨ CarriesPart env packet m) :
    IsInitial packet := by
  rcases h with ⟨_, _, _, h, -⟩ | ⟨_, _, _, h, -⟩
  · exact h.isInitial
  · exact h.isInitial

lemma not_detects_of_exclusive {p : Sniffer × Sniffer} (hp : p ∈ exclusive)
    (h : p.1.Detects env packet m) : ¬ p.2.Detects env packet m := by
  simp only [exclusive, List.mem_cons, List.not_mem_nil, or_false] at hp
  rcases hp with rfl | rfl | rfl | rfl | rfl | rfl
  · exact IsSTUN.not_isTracker h
  · exact fun hquic => IsSTUN.not_isInitial h (isInitial_of_carries hquic)
  · exact fun hquic => IsTracker.not_isInitial h (isInitial_of_carries hquic)
  · exact IsDTLS.not_isUTP h
  · exact IsDTLS.not_isTracker h
  · exact fun hquic => IsDTLS.not_isInitial h (isInitial_of_carries hquic)

lemma OneFormat.protocol_eq (h : OneFormat env packet m) {s' : Sniffer}
    (hs : s.Detects env packet m) (hs' : s'.Detects env packet m) : s.protocol = s'.protocol := by
  by_contra hne
  rcases mem_clashes_or_exclusive s s' hne with (hp | hp) | hp | hp
  · exact h _ hp hs hs'
  · exact h _ hp hs' hs
  · exact not_detects_of_exclusive hp hs hs'
  · exact not_detects_of_exclusive hp hs' hs

lemma writesAgree_iff : WritesAgree env packet m ↔ OneFormat env packet m := by
  constructor
  · intro h p hp hs hs'
    exact protocol_ne_of_mem_clashes p hp
      (h _ _ _ _ (writes_iff.2 ⟨hs, rfl⟩) (writes_iff.2 ⟨hs', rfl⟩))
  · intro h s s' w w' hw hw'
    obtain ⟨hs, rfl⟩ := writes_iff.1 hw
    obtain ⟨hs', rfl⟩ := writes_iff.1 hw'
    exact h.protocol_eq hs hs'

def AcceptedApart (env : Env) (packet : Bytes) (m : Metadata) : Prop :=
  ∀ (s s' : Sniffer) m₁ m₂, s.run env packet m = some (.ok (), m₁) →
    s'.run env packet m = some (.ok (), m₂) → m₁.protocol = m₂.protocol

def ErrorsKeepProtocol (env : Env) (packet : Bytes) (m : Metadata) : Prop :=
  ∀ (s : Sniffer) err m', s.run env packet m = some (.error err, m') → m'.protocol = m.protocol

lemma outcome_of_run (h : s.run env packet m = some (r, m')) :
    ∃ w, outcome env packet s m = some (r, w) ∧ m'.protocol = w.getD m.protocol := by
  cases hout : outcome env packet s m with
  | none =>
    have hnone : s.run env packet m = none := (apart env packet).stuck hout
    rw [hnone] at h
    cases h
  | some x =>
    obtain ⟨m'', hrun, hprotocol, -⟩ := (apart env packet).done hout
    have heq : some (x.1, m'') = some (r, m') := hrun.symm.trans h
    cases heq
    exact ⟨x.2, rfl, hprotocol⟩

lemma outcome_ok {w : Option String} (h : outcome env packet s m = some (.ok (), w)) :
    w = some s.protocol := by
  have simple : ∀ {protocol check}, assigned protocol check = (.ok (), w) → w = some protocol := by
    intro protocol check hout
    cases check with
    | error err => cases hout
    | ok u => exact (Prod.mk.inj hout).2.symm
  cases s with
  | quicClientHello =>
    rw [outcome_quic] at h
    cases hread : Quic.quicClientHello env.crypto packet m with
    | ok x =>
      rw [hread] at h
      exact (Prod.mk.inj (Option.some.inj h)).2.symm
    | error stop =>
      rw [hread] at h
      cases stop <;> cases h
  | domainNameQuery => exact simple (Option.some.inj h)
  | stunMessage => exact simple (Option.some.inj h)
  | utp => exact simple (Option.some.inj h)
  | udpTracker => exact simple (Option.some.inj h)
  | dtlsRecord => exact simple (Option.some.inj h)

lemma outcome_error {err : SniffError}
    (h : outcome env packet s m = some (.error err, some w)) :
    s = .quicClientHello ∧ CarriesPart env packet m ∧ w = "quic" := by
  have simple : ∀ {protocol check}, assigned protocol check ≠ (.error err, some w) := by
    intro protocol check hout
    cases check <;> cases hout
  cases s with
  | quicClientHello =>
    rw [outcome_quic] at h
    cases hread : Quic.quicClientHello env.crypto packet m with
    | ok x =>
      rw [hread] at h
      obtain ⟨r, m'⟩ := x
      cases h
      exact ⟨rfl, exists_quicFragment_iff.1 ⟨err, m', hread⟩, rfl⟩
    | error stop =>
      rw [hread] at h
      cases stop <;> cases h
  | domainNameQuery => exact absurd (Option.some.inj h) simple
  | stunMessage => exact absurd (Option.some.inj h) simple
  | utp => exact absurd (Option.some.inj h) simple
  | udpTracker => exact absurd (Option.some.inj h) simple
  | dtlsRecord => exact absurd (Option.some.inj h) simple

lemma acceptedApart_of_writesAgree (h : WritesAgree env packet m) : AcceptedApart env packet m := by
  have hwrite : ∀ {s : Sniffer} {m₁}, s.run env packet m = some (.ok (), m₁) →
      writes env packet m s = some m₁.protocol := by
    intro s m₁ hrun
    obtain ⟨w, hout, hprotocol⟩ := outcome_of_run hrun
    rw [hprotocol, writes, write, hout, outcome_ok hout]
    rfl
  exact fun s s' m₁ m₂ h₁ h₂ => h s s' _ _ (hwrite h₁) (hwrite h₂)

lemma run_of_writes (hs : s ≠ .quicClientHello) (h : writes env packet m s = some w) :
    ∃ m₁, s.run env packet m = some (.ok (), m₁) ∧ m₁.protocol = w := by
  obtain ⟨⟨r, w'⟩, hout, rfl⟩ := Option.bind_eq_some_iff.1 h
  obtain ⟨m₁, hrun, hprotocol, -⟩ := (apart env packet).done hout
  cases r with
  | ok u => exact ⟨m₁, hrun, hprotocol⟩
  | error err => exact absurd (outcome_error hout).1 hs

lemma writesAgree_of_acceptedApart (hquic : outcome env packet .quicClientHello m = none)
    (h : AcceptedApart env packet m) : WritesAgree env packet m := by
  have hne : ∀ {s w}, writes env packet m s = some w → s ≠ .quicClientHello := by
    rintro s w hw rfl
    rw [writes, write, hquic] at hw
    cases hw
  intro s s' w w' hw hw'
  obtain ⟨m₁, hrun, rfl⟩ := run_of_writes (hne hw) hw
  obtain ⟨m₂, hrun', rfl⟩ := run_of_writes (hne hw') hw'
  exact h s s' m₁ m₂ hrun hrun'

lemma errorsKeepProtocol_iff :
    ErrorsKeepProtocol env packet m ↔ (CarriesPart env packet m → m.protocol = "quic") := by
  constructor
  · intro h hpart
    obtain ⟨err, m', hread⟩ := exists_quicFragment_iff.2 hpart
    have hrun : run env packet m .quicClientHello = some (.error err, m') := by
      rw [run_quic, hread, completed]
    rw [← h _ err m' hrun]
    exact protocol_of_quicClientHello hread
  · intro h s err m' hrun
    obtain ⟨w, hout, hprotocol⟩ := outcome_of_run hrun
    cases w with
    | none => exact hprotocol
    | some w =>
      obtain ⟨-, hpart, rfl⟩ := outcome_error hout
      exact hprotocol.trans (h hpart).symm

theorem sniffing_verdict_iff (env : Env) (packet : Bytes) (m : Metadata) :
    (ScheduleIndependent env packet m ∧ AcceptedApart env packet m ∧ ErrorsKeepProtocol env packet m) ↔
      OneFormat env packet m ∧ (CarriesPart env packet m → m.protocol = "quic") := by
  rw [errorsKeepProtocol_iff, ← writesAgree_iff, scheduleIndependent_iff, ← and_assoc]
  refine and_congr_left fun _ => ⟨?_, fun h => ⟨fun _ => h, acceptedApart_of_writesAgree h⟩⟩
  rintro ⟨hschedule, haccepted⟩
  by_cases hquic : outcome env packet .quicClientHello m = none
  · exact writesAgree_of_acceptedApart hquic haccepted
  · exact hschedule hquic

def stunOrUTP : Bytes :=
  [0x01, 0x00, 0x00, 0x00, 0x21, 0x12, 0xa4, 0x42, 0, 0, 0, 0, 0, 0, 0, 0, 0, 0, 0, 0]

def noEnv : Env where
  unpack _ := .error "dns: overflow unpacking uint16"
  isDomainName _ := false
  crypto :=
    { extract _ _ := [], expand _ _ _ := [], encrypt _ _ := Vector.replicate 16 0, openGCM _ _ _ _ := none }

theorem sniffed_protocol_depends_on_order :
    (peekPacket noEnv stunOrUTP {} packetSniffers).map verdict = some (true, "bittorrent") ∧
      (peekPacket noEnv stunOrUTP {} packetSniffers.reverse).map verdict = some (true, "stun") ∧
      ¬ ScheduleIndependent noEnv stunOrUTP {} := by
  have hfirst : (peekPacket noEnv stunOrUTP {} packetSniffers).map verdict = some (true, "bittorrent") := by
    decide +kernel
  have hreverse : (peekPacket noEnv stunOrUTP {} packetSniffers.reverse).map verdict =
      some (true, "stun") := by
    decide +kernel
  refine ⟨hfirst, hreverse, fun h => ?_⟩
  have heq := h packetSniffers packetSniffers.reverse (.refl _) (List.reverse_perm _)
  rw [hfirst, hreverse] at heq
  revert heq
  decide

end SingBox.Sniff
