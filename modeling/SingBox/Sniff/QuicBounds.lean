import SingBox.Sniff.Reassembly

namespace SingBox.Sniff.Quic

open Lib Lib.Loops Lib.Wire Lib.Slices Errors ClientHello

namespace Checked

def modify (s : Bytes) (i : ℕ) (f : UInt8 → UInt8) : Except Stop Bytes :=
  if i < s.length then .ok (s.modify i f) else .error .panic

def unmask (mask : Vector UInt8 16) (hdrLen : ℕ) (packet : Bytes) : Except Stop Bytes := do
  let newPacket ← modify packet 0 (· ^^^ (mask.get 0 &&& 0xf))
  let _ ← slice .panic newPacket hdrLen (hdrLen + 4)
  let newPacket ← modify newPacket hdrLen (· ^^^ mask.get 1)
  let newPacket ← modify newPacket (hdrLen + 1) (· ^^^ mask.get 2)
  let newPacket ← modify newPacket (hdrLen + 2) (· ^^^ mask.get 3)
  modify newPacket (hdrLen + 3) (· ^^^ mask.get 4)

def readPacketNumber (newPacket : Bytes) (hdrLen packetNumberLength : ℕ) : Except Stop ℕ := do
  let bytes ← (List.range packetNumberLength).mapM fun i => index .panic newPacket (hdrLen + i)
  return ofBigEndian bytes

def restore (newPacket packet : Bytes) (i j : ℕ) : Except Stop Bytes := do
  let target ← slice .panic newPacket i j
  let original ← sliceFrom .panic packet i
  let n := min target.length original.length
  return newPacket.take i ++ original.take n ++ newPacket.drop (i + n)

def decrypt (c : Crypto) (h : Header) (packet : Bytes) : Except Stop (Bytes × Bytes) := do
  let unmasked ← unmask (headerMask c h) h.hdrLen packet
  let first ← index .panic unmasked 0
  let packetNumberLength := ((first &&& 0x3) + 1).toNat
  if h.packetLen + h.hdrLen < h.hdrLen + packetNumberLength then .error (.error "invalid argument")
  else do
    let packetNumber ← readPacketNumber unmasked h.hdrLen packetNumberLength
    let extHdrLen := h.hdrLen + packetNumberLength
    let newPacket ← restore unmasked packet extHdrLen (h.hdrLen + 4)
    let data ← slice .panic newPacket extHdrLen (h.packetLen + h.hdrLen)
    let additionalData ← slice .panic newPacket 0 extHdrLen
    let decrypted ← (openPacket c h packetNumber data additionalData).mapError Stop.error
    return (decrypted, newPacket.drop (extHdrLen + decrypted.length))

def readPacket (c : Crypto) (packet : Bytes) : Except Stop (List UInt8 × List Fragment) := do
  let h ← (readHeader packet).mapError Stop.error
  let (decrypted, after) ← decrypt c h packet
  readFrames decrypted after

def isGrease (l : List UInt16) : Except Stop Bool := do
  let first ← index .panic l 0
  return first &&& 0x0F0F == 0x0A0A

def isGreaseSafari (fingerprint : ClientHello) : Except Stop Bool :=
  if fingerprint.versions.length = 2 then do
    let versions ← isGrease fingerprint.versions
    if versions ∧ fingerprint.ellipticCurves.length = 5 then isGrease fingerprint.ellipticCurves
    else return false
  else return false

def isSuiteSafari (fingerprint : ClientHello) : Except Stop Bool :=
  if fingerprint.cipherSuites.length = 1 then do
    let cipherSuite ← index .panic fingerprint.cipherSuites 0
    if cipherSuite = 0x1302 ∧ fingerprint.ellipticCurves.length = 1 then do
      let ellipticCurve ← index .panic fingerprint.ellipticCurves 0
      if ellipticCurve = 29 ∧ fingerprint.signatureAlgorithms.length = 1 then do
        let algorithm ← index .panic fingerprint.signatureAlgorithms 0
        return algorithm == 0x0403
      else return false
    else return false
  else return false

def isSafari (fingerprint : ClientHello) : Except Stop Bool := do
  let grease ← isGreaseSafari fingerprint
  if grease then return true else isSuiteSafari fingerprint

def zerosAfterCrypto (frameTypeList : List UInt8) : Except Stop Bool := do
  let first ← index .panic frameTypeList 0
  if first = 0x06 then do
    let rest ← sliceFrom .panic frameTypeList 1
    return isZero rest
  else return false

def cryptoAfterZeros (frameTypeList : List UInt8) : Except Stop Bool := do
  let last ← index .panic frameTypeList (frameTypeList.length - 1)
  if last = 0x06 then do
    let before ← slice .panic frameTypeList 0 (frameTypeList.length - 1)
    return isZero before
  else return false

def guessClient (frameTypeList : List UInt8) (fingerprint : ClientHello) : Except Stop String :=
  if frameTypeList.length = 1 then .ok "firefox"
  else do
    let zeros ← zerosAfterCrypto frameTypeList
    let safari ← if zeros then isSafari fingerprint else pure false
    if safari then return "safari"
    else do
      let quicGo ← cryptoAfterZeros frameTypeList
      if quicGo then return "quic-go"
      else if 1 < frameTypeList.count 0x06 || 0 < frameTypeList.count 0x01 then
        return if maybeUQUIC fingerprint then "quic-go" else "chromium"
      else return "unknown"

def sniffClient (client : String) (frameTypeList : List UInt8) (fingerprint : ClientHello) :
    Except Stop String :=
  if client = "" then guessClient frameTypeList fingerprint else .ok client

def identify (frameTypeList : List UInt8) (fragments : List Fragment) (m : Metadata) :
    Except Stop ClientHello → Except Stop (Except SniffError Unit × Metadata)
  | .ok fingerprint =>
    (sniffClient m.client frameTypeList fingerprint).map fun client =>
      (.ok (), { m with
        protocol := "quic", sniffHost := fingerprint.serverName, client, sniffContext := none })
  | .error (.error _) =>
    .ok (.error .clientHelloFragmented,
      { m with protocol := "quic", client := "chromium", sniffContext := some fragments })
  | .error stop => .error stop

def quicClientHello (c : Crypto) (packet : Bytes) (m : Metadata) :
    Except Stop (Except SniffError Unit × Metadata) := do
  let (frameTypeList, fragments) ← readPacket c packet
  let fragments := fragments ++ m.sniffContext.getD []
  let buffer ← assemble fragments
  identify frameTypeList fragments m (Ja3.compute buffer)

end Checked

variable {types : List UInt8} {fingerprint : ClientHello} {l : List UInt16}

lemma isGrease_checked (h : l ≠ []) : Checked.isGrease l = .ok (isGrease l) := by
  cases l with
  | nil => exact absurd rfl h
  | cons a l => rfl

lemma isGreaseSafari_checked (fingerprint : ClientHello) :
    Checked.isGreaseSafari fingerprint =
      .ok (fingerprint.versions.length == 2 && isGrease fingerprint.versions &&
        fingerprint.ellipticCurves.length == 5 && isGrease fingerprint.ellipticCurves) := by
  unfold Checked.isGreaseSafari
  by_cases hversions : fingerprint.versions.length = 2
  · have hne : fingerprint.versions ≠ [] := by
      rintro h
      rw [h] at hversions
      cases hversions
    rw [if_pos hversions, isGrease_checked hne, hversions]
    by_cases hcurves : isGrease fingerprint.versions ∧ fingerprint.ellipticCurves.length = 5
    · have hne' : fingerprint.ellipticCurves ≠ [] := by
        rintro h
        rw [h] at hcurves
        cases hcurves.2
      refine (if_pos hcurves).trans ?_
      rw [isGrease_checked hne', hcurves.1, hcurves.2]
      rfl
    · refine (if_neg hcurves).trans ?_
      cases hg : isGrease fingerprint.versions with
      | false => rfl
      | true =>
        have hlen : ¬ fingerprint.ellipticCurves.length = 5 := fun h => hcurves ⟨hg, h⟩
        simp [hlen, pure, Except.pure]
  · rw [if_neg hversions]
    simp [hversions, pure, Except.pure]

lemma length_one_of_index (h : l.length = 1) : ∃ a, l = [a] ∧ index Stop.panic l 0 = .ok a := by
  obtain ⟨a, rfl⟩ := List.length_eq_one_iff.1 h
  exact ⟨a, rfl, rfl⟩

lemma isSuiteSafari_checked (fingerprint : ClientHello) :
    Checked.isSuiteSafari fingerprint =
      .ok (fingerprint.cipherSuites == [0x1302] && fingerprint.ellipticCurves == [29] &&
        fingerprint.signatureAlgorithms == [0x0403]) := by
  have hne : ∀ {l : List UInt16} {a : UInt16}, ¬ l.length = 1 → (l == [a]) = false := by
    rintro l a h
    rw [beq_eq_false_iff_ne]
    rintro rfl
    exact h rfl
  unfold Checked.isSuiteSafari
  by_cases hsuites : fingerprint.cipherSuites.length = 1
  swap
  · rw [if_neg hsuites, hne hsuites]
    rfl
  obtain ⟨suite, hsuite, hindex⟩ := length_one_of_index hsuites
  rw [if_pos hsuites, hindex, hsuite]
  refine Eq.trans (b := ite _ _ _) rfl ?_
  by_cases hfirst : suite = 0x1302 ∧ fingerprint.ellipticCurves.length = 1
  swap
  · rw [if_neg hfirst]
    by_cases heq : suite = 0x1302
    · rw [hne fun h => hfirst ⟨heq, h⟩]
      simp [pure, Except.pure]
    · simp [heq, pure, Except.pure]
  obtain ⟨curve, hcurve, hindex⟩ := length_one_of_index hfirst.2
  rw [if_pos hfirst, hindex, hcurve, hfirst.1]
  refine Eq.trans (b := ite _ _ _) rfl ?_
  by_cases hsecond : curve = 29 ∧ fingerprint.signatureAlgorithms.length = 1
  swap
  · rw [if_neg hsecond]
    by_cases heq : curve = 29
    · rw [hne fun h => hsecond ⟨heq, h⟩]
      simp [pure, Except.pure]
    · simp [heq, pure, Except.pure]
  obtain ⟨algorithm, halgorithm, hindex⟩ := length_one_of_index hsecond.2
  rw [if_pos hsecond, hindex, halgorithm, hsecond.1]
  simp [pure, Except.pure, bind, Except.bind]

lemma isSafari_checked (fingerprint : ClientHello) :
    Checked.isSafari fingerprint = .ok (isSafari fingerprint) := by
  unfold Checked.isSafari isSafari
  rw [isGreaseSafari_checked, isSuiteSafari_checked]
  refine Eq.trans (b := ite _ _ _) rfl ?_
  split_ifs with h
  · rw [h]
    rfl
  · rw [Bool.not_eq_true] at h
    rw [h, Bool.false_or]

lemma zerosAfterCrypto_checked (t : UInt8) (l : List UInt8) :
    Checked.zerosAfterCrypto (t :: l) = .ok ((t :: l).head? == some 0x06 && isZero (t :: l).tail) := by
  refine Eq.trans (b := ite (t = 0x06) _ _) rfl ?_
  by_cases h : t = 0x06
  · rw [if_pos h, sliceFrom_eq_ok (by simp), h]
    rfl
  · rw [if_neg h]
    simp [h, pure, Except.pure]

lemma cryptoAfterZeros_checked (h : types ≠ []) :
    Checked.cryptoAfterZeros types = .ok (types.getLast? == some 0x06 && isZero types.dropLast) := by
  have hpos : 0 < types.length := List.length_pos_iff.2 h
  have hlast : index Stop.panic types (types.length - 1) = .ok (types.getLast h) := by
    rw [index_eq_ok (by omega) 0, List.getLast_eq_getElem, List.getD_eq_getElem?_getD,
      List.getElem?_eq_getElem (by omega)]
    rfl
  rw [Checked.cryptoAfterZeros, hlast, List.getLast?_eq_some_getLast h]
  refine Eq.trans (b := ite (types.getLast h = 0x06) _ _) rfl ?_
  by_cases hcrypto : types.getLast h = 0x06
  · have hslice : slice Stop.panic types 0 (types.length - 1) =
        .ok ((types.drop 0).take (types.length - 1)) := by
      simpa using slice_eq_ok (s := types) (i := 0) (n := types.length - 1) (by omega)
    rw [if_pos hcrypto, hslice, List.drop_zero, ← List.dropLast_eq_take, hcrypto]
    rfl
  · rw [if_neg hcrypto]
    simp [hcrypto, pure, Except.pure]

lemma guessClient_checked (types : List UInt8) (fingerprint : ClientHello) :
    Checked.guessClient types fingerprint = guessClient types fingerprint := by
  unfold Checked.guessClient guessClient
  by_cases hone : types.length = 1
  · rw [if_pos hone, if_pos hone]
  rw [if_neg hone, if_neg hone]
  cases types with
  | nil => rfl
  | cons t l =>
    rw [zerosAfterCrypto_checked, cryptoAfterZeros_checked (List.cons_ne_nil t l), isSafari_checked,
      if_neg (by simp : ¬ (t :: l).isEmpty = true)]
    cases (t :: l).head? == some 0x06 && isZero (t :: l).tail with
    | true =>
      cases isSafari fingerprint with
      | true => rfl
      | false =>
        cases (t :: l).getLast? == some 0x06 && isZero (t :: l).dropLast with
        | true => rfl
        | false => rfl
    | false =>
      cases (t :: l).getLast? == some 0x06 && isZero (t :: l).dropLast with
      | true => rfl
      | false => rfl

variable {c : Crypto} {h : Header} {packet s : Bytes} {i : ℕ}

lemma modify_checked {f : UInt8 → UInt8} (hi : i < s.length) :
    Checked.modify s i f = .ok (s.modify i f) := if_pos hi

lemma length_unmask (mask : Vector UInt8 16) (hdrLen : ℕ) (packet : Bytes) :
    (unmask mask hdrLen packet).length = packet.length := by
  simp [unmask]

variable {mask : Vector UInt8 16} {hdrLen : ℕ}

lemma unmask_checked (hlen : hdrLen + 4 ≤ packet.length) :
    Checked.unmask mask hdrLen packet = .ok (unmask mask hdrLen packet) := by
  unfold Checked.unmask
  rw [modify_checked (by omega)]
  refine Eq.trans (b := slice Stop.panic _ hdrLen (hdrLen + 4) >>= _) rfl ?_
  rw [slice_eq_ok (by simpa using hlen)]
  refine Eq.trans (b := Checked.modify _ hdrLen _ >>= _) rfl ?_
  rw [modify_checked (by simp; omega)]
  refine Eq.trans (b := Checked.modify _ (hdrLen + 1) _ >>= _) rfl ?_
  rw [modify_checked (by simp; omega)]
  refine Eq.trans (b := Checked.modify _ (hdrLen + 2) _ >>= _) rfl ?_
  rw [modify_checked (by simp; omega)]
  refine Eq.trans (b := Checked.modify _ (hdrLen + 3) _) rfl ?_
  rw [modify_checked (by simp; omega)]
  rfl

lemma unmask_drop (packet : Bytes) :
    (unmask mask hdrLen packet).drop (hdrLen + 4) = packet.drop (hdrLen + 4) := by
  apply List.ext_getElem?
  intro i
  have h₀ : ¬ 0 = hdrLen + 4 + i := by omega
  have h₁ : ¬ hdrLen = hdrLen + 4 + i := by omega
  have h₂ : ¬ hdrLen + 1 = hdrLen + 4 + i := by omega
  have h₃ : ¬ hdrLen + 2 = hdrLen + 4 + i := by omega
  have h₄ : ¬ hdrLen + 3 = hdrLen + 4 + i := by omega
  simp only [unmask, List.getElem?_drop, List.getElem?_modify, h₀, h₁, h₂, h₃, h₄, if_false]
  cases packet[hdrLen + 4 + i]? <;> rfl

lemma readPacketNumber_checked {n : ℕ} (hlen : hdrLen + n ≤ s.length) :
    Checked.readPacketNumber s hdrLen n = .ok (ofBigEndian ((s.drop hdrLen).take n)) := by
  have hmap : (List.range n).mapM (fun i => index Stop.panic s (hdrLen + i)) =
      .ok ((List.range n).map fun i => s.getD (hdrLen + i) 0) :=
    mapM_eq_ok fun i hi => index_eq_ok (by have := List.mem_range.1 hi; omega) 0
  rw [Checked.readPacketNumber, hmap]
  have heq : ((List.range n).map fun i => s.getD (hdrLen + i) 0) = (s.drop hdrLen).take n := by
    apply List.ext_getElem
    · simp
      omega
    · intro i h₁ h₂
      simp at h₁
      simp [List.getD_eq_getElem?_getD, List.getElem?_eq_getElem (by omega : hdrLen + i < s.length)]
  rw [heq]
  rfl

lemma restore_checked {j : ℕ} (hij : i ≤ j) (hj : j ≤ s.length) (hlen : s.length = packet.length)
    (hdrop : s.drop j = packet.drop j) :
    Checked.restore s packet i j = .ok (s.take i ++ packet.drop i) := by
  obtain ⟨n, rfl⟩ := Nat.exists_eq_add_of_le hij
  rw [Checked.restore, slice_eq_ok hj, sliceFrom_eq_ok (by omega)]
  have hn : min ((s.drop i).take n).length (packet.drop i).length = n := by
    simp
    omega
  refine Eq.trans (b := .ok (s.take i ++ (packet.drop i).take (min _ _) ++ s.drop (i + min _ _))) rfl ?_
  rw [hn, List.append_assoc, hdrop, ← List.drop_drop, List.take_append_drop]

structure Header.Fits (h : Header) (packet : Bytes) : Prop where
  sample : h.hdrLen + 20 ≤ packet.length
  payload : h.hdrLen + h.packetLen ≤ packet.length

lemma decrypt_checked (hfits : h.Fits packet) :
    Checked.decrypt c h packet = (decrypt c h packet).mapError Stop.error := by
  have hsample := hfits.sample
  have hpayload := hfits.payload
  have hlength := length_unmask (headerMask c h) h.hdrLen packet
  unfold Checked.decrypt decrypt
  rw [unmask_checked (by omega)]
  generalize hu : unmask (headerMask c h) h.hdrLen packet = unmasked at hlength
  refine Eq.trans (b := index Stop.panic unmasked 0 >>= _) rfl ?_
  rw [index_eq_ok (by omega) 0]
  have hnumber : ((unmasked.getD 0 0 &&& 0x3) + 1).toNat ≤ 4 := by
    generalize unmasked.getD 0 0 = b
    obtain ⟨⟨n⟩⟩ := b
    revert n
    decide +kernel
  dsimp only
  refine Eq.trans (b := ite (h.packetLen + h.hdrLen < h.hdrLen +
    ((unmasked.getD 0 0 &&& 0x3) + 1).toNat) _ _) rfl ?_
  generalize ((unmasked.getD 0 0 &&& 0x3) + 1).toNat = n at hnumber
  by_cases hshort : h.packetLen + h.hdrLen < h.hdrLen + n
  · rw [if_pos hshort, if_pos hshort]
    rfl
  have hdrop : unmasked.drop (h.hdrLen + 4) = packet.drop (h.hdrLen + 4) := hu ▸ unmask_drop packet
  have hrestored : (unmasked.take (h.hdrLen + n) ++ packet.drop (h.hdrLen + n)).length = packet.length := by
    simp
    omega
  rw [if_neg hshort, if_neg hshort, readPacketNumber_checked (by omega)]
  refine Eq.trans (b := Checked.restore unmasked packet (h.hdrLen + n) (h.hdrLen + 4) >>= _) rfl ?_
  rw [restore_checked (by omega) (by omega) hlength hdrop]
  generalize unmasked.take (h.hdrLen + n) ++ packet.drop (h.hdrLen + n) = newPacket at hrestored
  refine Eq.trans (b := slice Stop.panic newPacket (h.hdrLen + n) (h.packetLen + h.hdrLen) >>= _) rfl ?_
  have hdata : slice Stop.panic newPacket (h.hdrLen + n) (h.packetLen + h.hdrLen) =
      .ok ((newPacket.take (h.packetLen + h.hdrLen)).drop (h.hdrLen + n)) := if_pos (by omega)
  have hheader : slice Stop.panic newPacket 0 (h.hdrLen + n) = .ok (newPacket.take (h.hdrLen + n)) :=
    if_pos (by omega)
  rw [hdata]
  refine Eq.trans (b := slice Stop.panic newPacket 0 (h.hdrLen + n) >>= _) rfl ?_
  rw [hheader]
  refine Eq.trans (b := (openPacket c h _ _ _).mapError Stop.error >>= _) rfl ?_
  cases openPacket c h (ofBigEndian ((unmasked.drop h.hdrLen).take n))
      ((newPacket.take (h.packetLen + h.hdrLen)).drop (h.hdrLen + n)) (newPacket.take (h.hdrLen + n)) with
  | error err => rfl
  | ok decrypted => rfl

lemma shrinks_readVersion : Shrinks readVersion := by
  refine shrinks_readByte.bind fun typeByte => ?_
  split_ifs
  · exact .fail _
  · refine ((shrinks_readFull 4).bind fun _ => .pure _).bind fun version => ?_
    dsimp only
    split_ifs
    · exact .fail _
    · exact .fail _
    · exact .pure _

lemma shrinks_discard (n : ℕ) : Shrinks (discard n) := by
  intro s _ rest h
  unfold Reads discard at h
  split_ifs at h
  cases h
  rw [List.length_drop]
  exact Nat.sub_le _ _

lemma shrinks_readConnID : Shrinks readConnID := by
  refine shrinks_readByte.bind fun destConnIDLen => ?_
  split_ifs
  · exact .fail _
  · exact (shrinks_readFull _).bind fun _ => shrinks_readByte.bind fun _ =>
      (shrinks_discard _).bind fun _ => .pure _

lemma fits_of_readHeader (hread : readHeader packet = .ok h) : h.Fits packet := by
  obtain ⟨⟨version, r₁⟩, hversion, hread⟩ := bind_eq_ok.1 hread
  obtain ⟨⟨connID, r₂⟩, hconnID, hread⟩ := bind_eq_ok.1 hread
  obtain ⟨⟨tokenLen, r₃⟩, htokenLen, hread⟩ := bind_eq_ok.1 hread
  obtain ⟨⟨_, r₄⟩, htoken, hread⟩ := bind_eq_ok.1 hread
  obtain ⟨⟨packetLen, r₅⟩, hpacketLen, hread⟩ := bind_eq_ok.1 hread
  dsimp only at hread
  split_ifs at hread with hlong
  obtain ⟨⟨_, r₆⟩, hdiscard, hread⟩ := bind_eq_ok.1 hread
  obtain ⟨⟨pnBytes, r₇⟩, hpn, hread⟩ := bind_eq_ok.1 hread
  cases hread
  have h₁ := shrinks_readVersion _ _ _ hversion
  have h₂ := shrinks_readConnID _ _ _ hconnID
  have h₃ := shrinks_readUvarint _ _ _ htokenLen
  have h₄ := shrinks_discard _ _ _ _ htoken
  have h₅ := shrinks_readUvarint _ _ _ hpacketLen
  unfold discard at hdiscard
  split_ifs at hdiscard with hdiscarded
  cases hdiscard
  unfold readFull at hpn
  split_ifs at hpn with hsample
  rw [List.length_drop] at hsample
  refine ⟨?_, ?_⟩
  · dsimp only
    omega
  · exact not_lt.1 hlong

lemma readPacket_checked (c : Crypto) (packet : Bytes) :
    Checked.readPacket c packet = readPacket c packet := by
  unfold Checked.readPacket readPacket
  cases hheader : readHeader packet with
  | error err => rfl
  | ok h =>
    refine Eq.trans (b := Checked.decrypt c h packet >>= _) rfl ?_
    rw [decrypt_checked (fits_of_readHeader hheader)]
    refine Eq.trans ?_ (b := (decrypt c h packet).mapError Stop.error >>= fun x => readFrames x.1 x.2) ?_
    · rfl
    · cases hdecrypt : decrypt c h packet with
      | error err => simp [bind, Except.bind, hdecrypt, Except.mapError]
      | ok x => simp [bind, Except.bind, hdecrypt, Except.mapError]

lemma identify_checked {fragments : List Fragment} {m : Metadata} (x : Except Stop ClientHello) :
    Checked.identify types fragments m x = identify types fragments m x := by
  cases x with
  | error stop => cases stop <;> rfl
  | ok fingerprint =>
    rw [Checked.identify, identify, Checked.sniffClient, sniffClient, guessClient_checked]

lemma quicClientHello_checked (c : Crypto) (packet : Bytes) (m : Metadata) :
    Checked.quicClientHello c packet m = quicClientHello c packet m := by
  unfold Checked.quicClientHello quicClientHello
  simp only [readPacket_checked, identify_checked, Ja3.compute_eq]

variable {n : ℕ} {rest : Bytes}

lemma length_of_readEach {l : Bytes} (h : Reads (readEach n) s l rest) : l.length = n := by
  induction n generalizing s l with
  | zero =>
    cases h
    rfl
  | succ n ih =>
    obtain ⟨b, s', -, h⟩ := h.of_bind
    obtain ⟨l', s'', hl', h⟩ := h.of_bind
    cases h
    rw [List.length_cons, ih hl']

lemma uvarint_first (b : UInt8) : (b >>> 6).toNat ≤ 3 ∧ (b &&& 0x3f).toNat + 1 ≤ 64 := by
  obtain ⟨⟨n⟩⟩ := b
  revert n
  decide +kernel

lemma readUvarint_lt (h : Reads readUvarint s n rest) : n < 2 ^ 62 := by
  obtain ⟨b, s', -, h⟩ := h.of_bind
  obtain ⟨l, s'', hl, h⟩ := h.of_bind
  cases h
  obtain ⟨hsize, hfirst⟩ := uvarint_first b
  have hpow : 2 ^ (b >>> 6).toNat ≤ 2 ^ 3 := Nat.pow_le_pow_right (by decide) hsize
  have hlen : l.length ≤ 7 := by
    rw [length_of_readEach hl]
    omega
  calc ofBigEndian ((b &&& 0x3f) :: l)
    _ < ((b &&& 0x3f).toNat + 1) * 256 ^ l.length := ofBigEndian_cons_lt _ _
    _ ≤ 64 * 256 ^ 7 := Nat.mul_le_mul hfirst (Nat.pow_le_pow_right (by decide) hlen)
    _ = 2 ^ 62 := by norm_num

lemma packetLen_lt (hread : readHeader packet = .ok h) : h.packetLen < 2 ^ 62 := by
  obtain ⟨x₁, -, hread⟩ := bind_eq_ok.1 hread
  obtain ⟨x₂, -, hread⟩ := bind_eq_ok.1 hread
  obtain ⟨x₃, -, hread⟩ := bind_eq_ok.1 hread
  obtain ⟨x₄, -, hread⟩ := bind_eq_ok.1 hread
  obtain ⟨⟨packetLen, r₅⟩, hpacketLen, hread⟩ := bind_eq_ok.1 hread
  dsimp only at hread
  split_ifs at hread
  obtain ⟨x₆, -, hread⟩ := bind_eq_ok.1 hread
  obtain ⟨x₇, -, hread⟩ := bind_eq_ok.1 hread
  cases hread
  exact readUvarint_lt hpacketLen

lemma nextFrame_lt {s' : Bytes} {offset length : ℕ}
    (h : nextFrame s = some (.crypto offset length, s')) : offset < 2 ^ 62 ∧ length < 2 ^ 62 := by
  cases s with
  | nil => cases h
  | cons b s =>
    rw [nextFrame] at h
    split_ifs at h
    · cases h
    · obtain ⟨x, -, heq⟩ := Option.map_eq_some_iff.1 h
      cases heq
    · cases hread : readOffsetLength s with
      | error err =>
        rw [hread] at h
        cases h
      | ok x =>
        obtain ⟨⟨offset', length'⟩, rest⟩ := x
        rw [hread] at h
        cases h
        obtain ⟨offset, s₁, hoffset, hrest⟩ := Reads.of_bind hread
        obtain ⟨length, s₂, hlength, hrest⟩ := hrest.of_bind
        cases hrest
        exact ⟨readUvarint_lt hoffset, readUvarint_lt hlength⟩
    · obtain ⟨x, -, heq⟩ := Option.map_eq_some_iff.1 h
      cases heq

lemma FrameList.lt {after decrypted : Bytes} {fragments : List Fragment}
    (h : FrameList after decrypted types fragments) :
    ∀ f ∈ fragments, f.offset < 2 ^ 62 ∧ f.length < 2 ^ 62 := by
  induction h with
  | nil => simp
  | other _ _ ih => exact ih
  | crypto hnext _ _ ih => exact List.forall_mem_cons.2 ⟨nextFrame_lt hnext, ih⟩

variable {decrypted after : Bytes} {m m' : Metadata} {fragments : List Fragment}

lemma readPacket_cases (c : Crypto) (packet : Bytes) :
    (∃ h decrypted after, readHeader packet = .ok h ∧ decrypt c h packet = .ok (decrypted, after) ∧
        readPacket c packet = readFrames decrypted after) ∨
      (∀ h decrypted after, readHeader packet = .ok h → decrypt c h packet ≠ .ok (decrypted, after)) ∧
        ∃ err, readPacket c packet = .error (.error err) := by
  unfold readPacket
  cases hheader : readHeader packet with
  | error err =>
    refine .inr ⟨?_, err, rfl⟩
    rintro h decrypted after ⟨⟩
  | ok h =>
    cases hdecrypt : decrypt c h packet with
    | error err =>
      refine .inr ⟨?_, err, ?_⟩
      · rintro _ decrypted after ⟨⟩
        rw [hdecrypt]
        simp
      · simp [bind, Except.bind, hdecrypt]
    | ok x =>
      refine .inl ⟨h, x.1, x.2, rfl, hdecrypt, ?_⟩
      simp [bind, Except.bind, hdecrypt]

def Whole (f : Fragment) : Prop := f.payload.length = f.length

lemma FrameList.whole (h : FrameList after decrypted types fragments) : ∀ f ∈ fragments, Whole f := by
  induction h with
  | nil => simp
  | other _ _ ih => exact ih
  | crypto _ hlen _ ih =>
    refine List.forall_mem_cons.2 ⟨?_, ih⟩
    rw [Whole, List.length_take]
    exact Nat.min_eq_left hlen

structure Kept (m : Metadata) : Prop where
  client : m.client = "" → m.sniffContext = none
  whole : ∀ f ∈ m.sniffContext.getD [], Whole f

inductive Left (c : Crypto) : Metadata → Prop where
  | fresh (m : Metadata) (h : m.sniffContext = none) : Left c m
  | call {m m' : Metadata} {packet : Bytes} {result : Except SniffError Unit} (hm : Left c m)
      (h : Checked.quicClientHello c packet m = .ok (result, m')) : Left c m'

lemma frameList_of_readPacket (h : readPacket c packet = .ok (types, fragments)) :
    ∃ decrypted after, FrameList after decrypted types fragments := by
  rcases readPacket_cases c packet with ⟨_, decrypted, after, -, -, heq⟩ | ⟨-, err, heq⟩
  · exact ⟨decrypted, after, readFrames_eq_ok.1 (heq.symm.trans h)⟩
  · rw [heq] at h
    cases h

lemma Kept.call (hm : Kept m) {result : Except SniffError Unit}
    (h : quicClientHello c packet m = .ok (result, m')) : Kept m' := by
  obtain ⟨⟨types, fragments⟩, hread, h⟩ := bind_eq_ok.1 h
  obtain ⟨record, -, h⟩ := bind_eq_ok.1 h
  obtain ⟨decrypted, after, hlist⟩ := frameList_of_readPacket hread
  cases hcompute : compute record with
  | ok fingerprint =>
    rw [hcompute] at h
    obtain ⟨client, -, heq⟩ := map_eq_ok.1 h
    cases heq
    exact ⟨fun _ => rfl, by simp⟩
  | error stop =>
    rw [hcompute] at h
    cases stop with
    | error err =>
      cases h
      have hclient : "chromium" ≠ "" := by decide
      refine ⟨fun h => absurd h hclient, fun f hf => ?_⟩
      rcases List.mem_append.1 hf with hf | hf
      · exact hlist.whole f hf
      · exact hm.whole f hf
    | panic => cases h
    | spins => cases h

lemma Left.kept (h : Left c m) : Kept m := by
  induction h with
  | fresh m h => exact ⟨fun _ => h, by simp [h]⟩
  | call _ h ih =>
    rw [quicClientHello_checked] at h
    exact ih.call h

lemma sum_length_of_whole (h : ∀ f ∈ fragments, Whole f) :
    frameLen fragments = (fragments.map fun f => f.payload.length).sum := by
  rw [frameLen, List.map_congr_left fun f hf => (h f hf).symm]

structure Returns (c : Crypto) (packet : Bytes) (m : Metadata) : Prop where
  packetLen : ∀ h, readHeader packet = .ok h → h.packetLen < 2 ^ 62
  fragments : ∀ types fragments, Checked.readPacket c packet = .ok (types, fragments) →
    ∀ f ∈ fragments, f.offset < 2 ^ 62 ∧ f.length < 2 ^ 62
  result : ∀ stop, Checked.quicClientHello c packet m = .error stop → ∃ err, stop = .error err
  allocation : ∀ types fragments, Checked.readPacket c packet = .ok (types, fragments) →
    frameLen (fragments ++ m.sniffContext.getD []) =
      ((fragments ++ m.sniffContext.getD []).map fun f => f.payload.length).sum

lemma allocation_of_kept (hm : Kept m) (h : readPacket c packet = .ok (types, fragments)) :
    frameLen (fragments ++ m.sniffContext.getD []) =
      ((fragments ++ m.sniffContext.getD []).map fun f => f.payload.length).sum := by
  obtain ⟨decrypted, after, hlist⟩ := frameList_of_readPacket h
  exact sum_length_of_whole (List.forall_mem_append.2 ⟨hlist.whole, hm.whole⟩)

variable {record : Bytes}

lemma types_ne_nil (hm : Kept m) (hlist : FrameList after decrypted types fragments)
    (hrecord : Assembled (fragments ++ m.sniffContext.getD []) record)
    (hcompute : compute record = .ok fingerprint) (hclient : m.client = "") :
    types ≠ [] := by
  rintro rfl
  cases hlist with
  | nil =>
    rw [hm.client hclient] at hrecord
    obtain ⟨bytes, hchain, rfl⟩ := hrecord
    cases hchain with
    | stop _ => cases hcompute
    | next hat _ => cases hat

lemma identify_stop (hm : Kept m) (hlist : FrameList after decrypted types fragments)
    (hrecord : Assembled (fragments ++ m.sniffContext.getD []) record) :
    (∀ stop, identify types (fragments ++ m.sniffContext.getD []) m (compute record) =
        .error stop → ∃ err, stop = .error err) ↔
      compute record ≠ .error .panic := by
  cases hcompute : compute record with
  | ok fingerprint =>
    refine iff_of_true ?_ (by simp)
    intro stop hstop
    obtain ⟨client, hok⟩ : ∃ client, sniffClient m.client types fingerprint = .ok client :=
      sniffClient_eq_ok.2 (types_ne_nil hm hlist hrecord hcompute)
    rw [identify, hok] at hstop
    cases hstop
  | error stop =>
    cases stop with
    | error err => exact iff_of_true (by rintro stop ⟨⟩) (by simp)
    | panic =>
      refine iff_of_false (fun h => ?_) (by simp)
      obtain ⟨err, herr⟩ := h .panic rfl
      cases herr
    | spins => exact absurd hcompute (Ja3.compute_ne_spins record)

def Readable (m : Metadata) (decrypted after : Bytes) : Prop :=
  ¬ FrameOverrun after decrypted ∧
    ∀ types fragments, FrameList after decrypted types fragments →
      ∃ record, Assembled (fragments ++ m.sniffContext.getD []) record ∧
        ∀ n block, Ja3.Block record n block → ¬ Ja3.Overrun block

lemma stop_of_frames (hm : Kept m) (hread : readPacket c packet = readFrames decrypted after) :
    (∀ stop, quicClientHello c packet m = .error stop → ∃ err, stop = .error err) ↔
      Readable m decrypted after := by
  cases hframes : readFrames decrypted after with
  | error stop =>
    rw [quicClientHello_error (hread.trans hframes)]
    have hnone : ∀ types fragments, ¬ FrameList after decrypted types fragments := by
      intro types fragments hlist
      rw [readFrames_eq_ok.2 hlist] at hframes
      cases hframes
    cases stop with
    | error err =>
      refine iff_of_true ?_ ⟨fun hover => ?_, fun types fragments hlist => absurd hlist (hnone _ _)⟩
      · rintro stop ⟨⟩
        exact ⟨err, rfl⟩
      · rw [readFrames_eq_panic.2 hover] at hframes
        cases hframes
    | panic =>
      refine iff_of_false (fun h => ?_) fun h => h.1 (readFrames_eq_panic.1 hframes)
      obtain ⟨err, herr⟩ := h .panic rfl
      cases herr
    | spins => exact absurd hframes readFrames_ne_spins
  | ok x =>
    obtain ⟨types, fragments⟩ := x
    have hlist := readFrames_eq_ok.1 hframes
    have hover : ¬ FrameOverrun after decrypted := fun h => by
      rw [readFrames_eq_panic.2 h] at hframes
      cases hframes
    rw [quicClientHello_ok (hread.trans hframes), Readable, and_iff_right hover]
    rcases assemble_cases (fragments ++ m.sniffContext.getD []) with ⟨record, hrecord⟩ | hspins
    · rw [hrecord]
      refine (identify_stop hm hlist (assemble_eq_ok.1 hrecord)).trans ?_
      rw [Ne, Ja3.compute_panic_iff]
      constructor
      · intro h types' fragments' hlist'
        have heq := (readFrames_eq_ok.2 hlist').symm.trans hframes
        cases heq
        exact ⟨record, assemble_eq_ok.1 hrecord, fun n block hb ho => h ⟨n, block, hb, ho⟩⟩
      · rintro h ⟨n, block, hb, ho⟩
        obtain ⟨record', hrecord', hno⟩ := h types fragments hlist
        have heq := (assemble_eq_ok.2 hrecord').symm.trans hrecord
        cases heq
        exact hno n block hb ho
    · rw [hspins]
      refine iff_of_false (fun h => ?_) fun h => ?_
      · obtain ⟨err, herr⟩ := h .spins rfl
        cases herr
      · obtain ⟨record, hrecord, -⟩ := h types fragments hlist
        rw [assemble_eq_ok.2 hrecord] at hspins
        cases hspins

theorem quic_sniffing_returns_iff (c : Crypto) (packet : Bytes) (m : Metadata) (hm : Left c m) :
    Returns c packet m ↔
      ∀ h decrypted after, readHeader packet = .ok h → decrypt c h packet = .ok (decrypted, after) →
        Readable m decrypted after := by
  have hkept := hm.kept
  have hreturns : Returns c packet m ↔
      ∀ stop, quicClientHello c packet m = .error stop → ∃ err, stop = .error err := by
    constructor
    · intro h
      rw [← quicClientHello_checked]
      exact h.result
    · intro h
      refine ⟨fun _ => packetLen_lt, fun types fragments hread => ?_, by rwa [quicClientHello_checked],
        fun types fragments hread => ?_⟩
      · rw [readPacket_checked] at hread
        obtain ⟨decrypted, after, hlist⟩ := frameList_of_readPacket hread
        exact hlist.lt
      · rw [readPacket_checked] at hread
        exact allocation_of_kept hkept hread
  rw [hreturns]
  rcases readPacket_cases c packet with ⟨h, decrypted, after, hheader, hdecrypt, hread⟩ | ⟨hno, err, hread⟩
  · rw [stop_of_frames hkept hread]
    constructor
    · intro hreadable h' decrypted' after' hheader' hdecrypt'
      cases hheader.symm.trans hheader'
      cases hdecrypt.symm.trans hdecrypt'
      exact hreadable
    · exact fun hall => hall h decrypted after hheader hdecrypt
  · refine iff_of_true ?_ fun h decrypted after hheader hdecrypt => absurd hdecrypt (hno _ _ _ hheader)
    rw [quicClientHello_error hread]
    rintro stop ⟨⟩
    exact ⟨err, rfl⟩

def unencrypted : Crypto :=
  { decryptsTo [] with openGCM := fun _ _ data _ => some (data.take (data.length - 16)) }

def packetOf (plaintext : Bytes) : Bytes :=
  [0xc0, 0, 0, 0, 1, 1, 0, 0, 0, UInt8.ofNat (plaintext.length + 17), 0] ++ plaintext ++ List.replicate 16 0

/-- What the packet with the second byte of a handshake message leaves when it comes first. -/
def secondByteFirst : Metadata :=
  { protocol := "quic", client := "chromium", sniffContext := some [{ offset := 1, length := 1, payload := [0] }] }

theorem quic_sniffing_returns_reordered :
    Left unencrypted secondByteFirst ∧
      Checked.quicClientHello unencrypted (packetOf [0x06, 0, 1, 1]) secondByteFirst =
        .ok (.error .clientHelloFragmented, { secondByteFirst with
          sniffContext := some [{ offset := 0, length := 1, payload := [1] },
            { offset := 1, length := 1, payload := [0] }] }) ∧
      Readable secondByteFirst [0x06, 0, 1, 1] (List.replicate 16 0) := by
  have hfirst : Checked.quicClientHello unencrypted (packetOf [0x06, 1, 1, 0]) {} =
      .ok (.error .clientHelloFragmented, secondByteFirst) := rfl
  have hleft : Left unencrypted secondByteFirst := .call (.fresh {} rfl) hfirst
  have hreturns : Returns unencrypted (packetOf [0x06, 0, 1, 1]) secondByteFirst := by
    refine ⟨fun _ => packetLen_lt, ?_, ?_, ?_⟩
    · rintro types fragments ⟨⟩ f hf
      rw [List.mem_singleton.1 hf]
      decide
    · rintro stop ⟨⟩
    · rintro types fragments ⟨⟩
      rfl
  exact ⟨hleft, rfl, (quic_sniffing_returns_iff _ _ _ hleft).1 hreturns _ _ _ rfl rfl⟩

theorem long_crypto_frame_panics :
    Left (decryptsTo [0x06, 0, 0x3f]) {} ∧
      Checked.quicClientHello (decryptsTo [0x06, 0, 0x3f]) initialPacket {} = .error .panic ∧
      ¬ Returns (decryptsTo [0x06, 0, 0x3f]) initialPacket {} := by
  have hpanic : Checked.quicClientHello (decryptsTo [0x06, 0, 0x3f]) initialPacket {} = .error .panic :=
    rfl
  refine ⟨.fresh {} rfl, hpanic, fun h => ?_⟩
  obtain ⟨err, herr⟩ := h.result .panic hpanic
  cases herr

end SingBox.Sniff.Quic
