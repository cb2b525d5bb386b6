import SingBox.Route.Context
import SingBox.Sniff.Ja3

namespace SingBox.Sniff

open Lib.Loops Lib.Wire

structure Fragment where
  offset : ℕ
  length : ℕ
  payload : Bytes

structure Metadata extends Route.InboundContext where
  sniffContext : Option (List Fragment) := none

inductive SniffError where
  | error (err : String)
  | clientHelloFragmented

namespace Quic

def readEach : ℕ → Reader Bytes
  | 0 => pure []
  | n + 1 => do
    let b ← readByte
    let rest ← readEach n
    return b :: rest

def readUvarint : Reader ℕ := do
  let first ← readByte
  let rest ← readEach (2 ^ (first >>> 6).toNat - 1)
  return ofBigEndian ((first &&& 0x3f) :: rest)

def discard (n : ℕ) : Reader Unit := fun s => if s.length < n then .error "EOF" else .ok ((), s.drop n)

def versionDraft29 : ℕ := 0xff00001d
def version1 : ℕ := 0x1
def version2 : ℕ := 0x6b3343cf

structure Header where
  version : ℕ
  destConnID : Bytes
  hdrLen : ℕ
  packetLen : ℕ
  pnBytes : Bytes

def readVersion : Reader ℕ := do
  let typeByte ← readByte
  if typeByte &&& 0x40 = 0 then fail "bad type byte"
  else do
    let version ← readBigEndian 4
    let packetType := (typeByte &&& 0x30) >>> 4
    if version ≠ versionDraft29 ∧ version ≠ version1 ∧ version ≠ version2 then fail "bad version"
    else if packetType = 0 ∧ version = version2 ∨ packetType = 2 ∧ version ≠ version2 ∨ 2 < packetType then
      fail "bad packet type"
    else return version

def readConnID : Reader Bytes := do
  let destConnIDLen ← readByte
  if destConnIDLen = 0 ∨ 20 < destConnIDLen then fail "bad destination connection id length"
  else do
    let destConnID ← readFull destConnIDLen.toNat
    let srcConnIDLen ← readByte
    discard srcConnIDLen.toNat
    return destConnID

def readHeader (packet : Bytes) : Except String Header := do
  let (version, rest) ← readVersion packet
  let (destConnID, rest) ← readConnID rest
  let (tokenLen, rest) ← readUvarint rest
  let ((), rest) ← discard tokenLen rest
  let (packetLen, rest) ← readUvarint rest
  let hdrLen := packet.length - rest.length
  if packet.length < hdrLen + packetLen then .error "invalid argument"
  else do
    let ((), rest) ← discard 4 rest
    let (pnBytes, _) ← readFull 16 rest
    return { version, destConnID, hdrLen, packetLen, pnBytes }

structure Crypto where
  extract (secret salt : Bytes) : Bytes
  expand (secret info : Bytes) (length : ℕ) : Bytes
  encrypt (key block : Bytes) : Vector UInt8 16
  openGCM (key nonce ciphertext additionalData : Bytes) : Option Bytes

def saltOld : Bytes :=
  [0xaf, 0xbf, 0xec, 0x28, 0x99, 0x93, 0xd2, 0x4c, 0x9e, 0x97, 0x86, 0xf1, 0x9c, 0x61, 0x11, 0xe0, 0x43,
    0x90, 0xa8, 0x99]

def saltV1 : Bytes :=
  [0x38, 0x76, 0x2c, 0xf7, 0xf5, 0x59, 0x34, 0xb3, 0x4d, 0x17, 0x9a, 0xe6, 0xa4, 0xc8, 0x0c, 0xad, 0xcc,
    0xbb, 0x7f, 0x0a]

def saltV2 : Bytes :=
  [0x0d, 0xed, 0xe3, 0xde, 0xf7, 0x00, 0xa6, 0xdb, 0x81, 0x93, 0x81, 0xbe, 0x6e, 0x26, 0x9d, 0xcb, 0xf9,
    0xbd, 0x2e, 0xd9]

def salt (version : ℕ) : Bytes :=
  if version = version1 then saltV1 else if version = version2 then saltV2 else saltOld

def label (version : ℕ) (name : String) : String :=
  (if version = version2 then "quicv2 " else "quic ") ++ name

def utf8 (s : String) : Bytes := s.toUTF8.data.toList

def hkdfExpandLabel (c : Crypto) (secret context : Bytes) (label : String) (length : ℕ) : Bytes :=
  c.expand secret
    (putBigEndian 2 length ++ [UInt8.ofNat (6 + label.utf8ByteSize)] ++ utf8 "tls13 " ++ utf8 label ++
      [UInt8.ofNat context.length] ++ context) length

def clientSecret (c : Crypto) (h : Header) : Bytes :=
  hkdfExpandLabel c (c.extract h.destConnID (salt h.version)) [] "client in" 32

def headerMask (c : Crypto) (h : Header) : Vector UInt8 16 :=
  c.encrypt (hkdfExpandLabel c (clientSecret c h) [] (label h.version "hp") 16) h.pnBytes

def unmask (mask : Vector UInt8 16) (hdrLen : ℕ) (packet : Bytes) : Bytes :=
  ((((packet.modify 0 (· ^^^ (mask[0] &&& 0xf))).modify hdrLen (· ^^^ mask[1])).modify (hdrLen + 1)
    (· ^^^ mask[2])).modify (hdrLen + 2) (· ^^^ mask[3])).modify (hdrLen + 3) (· ^^^ mask[4])

def openPacket (c : Crypto) (h : Header) (packetNumber : ℕ) (data additionalData : Bytes) :
    Except String Bytes :=
  let key := hkdfExpandLabel c (clientSecret c h) [] (label h.version "key") 16
  let iv := hkdfExpandLabel c (clientSecret c h) [] (label h.version "iv") 12
  let nonce := List.zipWith (· ^^^ ·) iv (List.replicate 4 0 ++ putBigEndian 8 packetNumber)
  match c.openGCM key nonce data additionalData with
  | some decrypted => .ok decrypted
  | none => .error "cipher: message authentication failed"

/-- The decrypted payload, and the bytes of the packet that follow it in the array in which it has
been decrypted. -/
def decrypt (c : Crypto) (h : Header) (packet : Bytes) : Except String (Bytes × Bytes) := do
  let unmasked := unmask (headerMask c h) h.hdrLen packet
  let packetNumberLength := ((unmasked.getD 0 0 &&& 0x3) + 1).toNat
  if h.packetLen + h.hdrLen < h.hdrLen + packetNumberLength then .error "invalid argument"
  else do
    let packetNumber := ofBigEndian ((unmasked.drop h.hdrLen).take packetNumberLength)
    let extHdrLen := h.hdrLen + packetNumberLength
    let newPacket := unmasked.take extHdrLen ++ packet.drop extHdrLen
    let data := (newPacket.take (h.packetLen + h.hdrLen)).drop extHdrLen
    let decrypted ← openPacket c h packetNumber data (newPacket.take extHdrLen)
    return (decrypted, newPacket.drop (extHdrLen + decrypted.length))

def readTimes (p : Reader Unit) : ℕ → Reader Unit
  | 0 => pure ()
  | n + 1 => do
    p
    readTimes p n

def skipUvarints (n : ℕ) : Reader Unit := readTimes (do let _ ← readUvarint) n

def readAck (frameType : UInt8) : Reader Unit := do
  skipUvarints 2
  let ackRangeCount ← readUvarint
  skipUvarints 1
  readTimes (skipUvarints 2) ackRangeCount
  if frameType = 0x03 then skipUvarints 3 else pure ()

def readConnectionClose : Reader Unit := do
  skipUvarints 2
  let length ← readUvarint
  fun s => .ok ((), s.drop length)

def readOffsetLength : Reader (ℕ × ℕ) := do
  let offset ← readUvarint
  let length ← readUvarint
  return (offset, length)

structure FrameState where
  left : Bytes
  frameTypeList : List UInt8 := []
  fragments : List Fragment := []

def FrameState.skip (s : FrameState) : Except String (Unit × Bytes) → Turn FrameState (Except Stop Unit)
  | .ok ((), left) => .again { s with left }
  | .error err => .leave s (.error (.error err))

def FrameState.crypto (s : FrameState) (after : Bytes) :
    Except String ((ℕ × ℕ) × Bytes) → Turn FrameState (Except Stop Unit)
  | .ok ((offset, length), left) =>
    if (left ++ after).length < length then .leave s (.error .panic)
    else .again { s with
      left := left.drop length
      fragments := s.fragments ++ [{ offset, length, payload := (left ++ after).take length }] }
  | .error err => .leave s (.error (.error err))

def frameTurn (after : Bytes) (s : FrameState) : Turn FrameState (Except Stop Unit) :=
  match s.left with
  | [] => .leave s (.ok ())
  | frameType :: left =>
    let s' := { s with left, frameTypeList := s.frameTypeList ++ [frameType] }
    if frameType = 0x00 ∨ frameType = 0x01 then .again s'
    else if frameType = 0x02 ∨ frameType = 0x03 then s'.skip (readAck frameType left)
    else if frameType = 0x06 then s'.crypto after (readOffsetLength left)
    else if frameType = 0x1c then s'.skip (readConnectionClose left)
    else .leave s' (.error (.error "invalid argument"))

lemma shrinks_readEach (n : ℕ) : Shrinks (readEach n) := by
  induction n with
  | zero => exact .pure _
  | succ n ih => exact shrinks_readByte.bind fun _ => ih.bind fun _ => .pure _

lemma shrinks_readUvarint : Shrinks readUvarint :=
  shrinks_readByte.bind fun _ => (shrinks_readEach _).bind fun _ => .pure _

variable {p : Reader Unit}

lemma shrinks_readTimes (hp : Shrinks p) (n : ℕ) : Shrinks (readTimes p n) := by
  induction n with
  | zero => exact .pure _
  | succ n ih => exact hp.bind fun _ => ih

lemma shrinks_skipUvarints (n : ℕ) : Shrinks (skipUvarints n) :=
  shrinks_readTimes (shrinks_readUvarint.bind fun _ => .pure _) n

lemma shrinks_readAck (frameType : UInt8) : Shrinks (readAck frameType) := by
  refine (shrinks_skipUvarints 2).bind fun _ => shrinks_readUvarint.bind fun _ =>
    (shrinks_skipUvarints 1).bind fun _ =>
    (shrinks_readTimes (shrinks_skipUvarints 2) _).bind fun _ => ?_
  split_ifs
  · exact shrinks_skipUvarints 3
  · exact .pure _

lemma shrinks_readConnectionClose : Shrinks readConnectionClose := by
  refine (shrinks_skipUvarints 2).bind fun _ => shrinks_readUvarint.bind fun length => ?_
  rintro s a rest ⟨⟩
  rw [List.length_drop]
  exact Nat.sub_le _ _

lemma shrinks_readOffsetLength : Shrinks readOffsetLength :=
  shrinks_readUvarint.bind fun _ => shrinks_readUvarint.bind fun _ => .pure _

variable {s s' : FrameState} {left : Bytes}

lemma skip_again (hp : Shrinks p) (h : s.skip (p left) = .again s') :
    s'.left.length ≤ left.length := by
  cases hread : p left with
  | error err =>
    rw [hread] at h
    cases h
  | ok x =>
    rw [hread] at h
    cases h
    exact hp left _ _ hread

lemma crypto_again {after : Bytes} (h : s.crypto after (readOffsetLength left) = .again s') :
    s'.left.length ≤ left.length := by
  cases hread : readOffsetLength left with
  | error err =>
    rw [hread] at h
    cases h
  | ok x =>
    obtain ⟨⟨offset, length⟩, rest⟩ := x
    rw [hread, FrameState.crypto] at h
    split_ifs at h
    cases h
    have hle := shrinks_readOffsetLength left _ _ hread
    rw [List.length_drop]
    omega

lemma frameTurn_descends (after : Bytes) : Descends (frameTurn after) fun s => s.left.length := by
  intro s s' h
  unfold frameTurn at h
  split at h
  · cases h
  · rename_i frameType left hleft
    change s'.left.length < s.left.length
    rw [hleft, List.length_cons, Nat.lt_succ_iff]
    dsimp only at h
    split_ifs at h
    · cases h
      exact le_rfl
    · exact skip_again (shrinks_readAck frameType) h
    · exact crypto_again h
    · exact skip_again shrinks_readConnectionClose h

def readFrames (decrypted after : Bytes) : Except Stop (List UInt8 × List Fragment) :=
  let (s, result) := (frameTurn_descends after).run { left := decrypted }
  result.map fun _ => (s.frameTypeList, s.fragments)

def findTurn (fragments : List Fragment) (capacity : ℕ) (s : ℕ × Bytes) : Turn (ℕ × Bytes) Unit :=
  match fragments.find? fun fragment => fragment.offset = s.1 with
  | some fragment =>
    .again (fragment.offset + fragment.length, (s.2 ++ fragment.payload).take capacity)
  | none => .leave s ()

def frameLen (fragments : List Fragment) : ℕ := (fragments.map Fragment.length).sum

def assemble (fragments : List Fragment) : Except Stop Bytes :=
  let record := [0x16] ++ putBigEndian 2 0x0303 ++ putBigEndian 2 (frameLen fragments)
  match loop (findTurn fragments (5 + frameLen fragments)) (fragments.length + 1) (0, record) with
  | some ((_, buffer), ()) => .ok buffer
  | none => .error .spins

def Stuck (fragments : List Fragment) (s : ℕ × Bytes) : Prop :=
  ∃ fragment, (fragments.find? fun fragment => fragment.offset = s.1) = some fragment ∧
    fragment.length = 0

variable {fragments : List Fragment} {capacity : ℕ} {s : ℕ × Bytes}

lemma findTurn_stuck (h : Stuck fragments s) :
    ∃ s', findTurn fragments capacity s = .again s' ∧ Stuck fragments s' := by
  obtain ⟨fragment, hfind, hlength⟩ := h
  have hoffset : fragment.offset = s.1 := by simpa using List.find?_some hfind
  refine ⟨_, by rw [findTurn, hfind], fragment, ?_, hlength⟩
  rw [hlength, hoffset, Nat.add_zero]
  exact hfind

def ahead (fragments : List Fragment) (s : ℕ × Bytes) : ℕ :=
  fragments.countP fun fragment => s.1 ≤ fragment.offset

lemma ahead_lt {s' : ℕ × Bytes} (hs : ¬ Stuck fragments s)
    (h : findTurn fragments capacity s = .again s') : ahead fragments s' < ahead fragments s := by
  unfold findTurn at h
  split at h
  · rename_i fragment hfind
    cases h
    have hoffset : fragment.offset = s.1 := by simpa using List.find?_some hfind
    have hpos : 0 < fragment.length := Nat.pos_of_ne_zero fun h0 => hs ⟨fragment, hfind, h0⟩
    obtain ⟨l₁, l₂, hl⟩ := List.append_of_mem (List.mem_of_find?_eq_some hfind)
    have hmono : ∀ l : List Fragment,
        l.countP (fun x => fragment.offset + fragment.length ≤ x.offset) ≤
          l.countP (fun x => s.1 ≤ x.offset) := fun l =>
      List.countP_mono_left fun x _ hx => by
        simp only [decide_eq_true_eq] at hx ⊢
        omega
    unfold ahead
    rw [hl, List.countP_append, List.countP_append, List.countP_cons_of_neg (by simpa using hpos.ne'),
      List.countP_cons_of_pos (by simp [hoffset])]
    have h₁ := hmono l₁
    have h₂ := hmono l₂
    dsimp only
    omega
  · cases h

def isZero (l : List UInt8) : Bool := l.all (· == 0)

def uQUICChrome115 : ClientHello where
  version := 0x0303
  cipherSuites := [4865, 4866, 4867]
  extensions := [0, 10, 13, 16, 27, 43, 45, 51, 57, 17513]
  ellipticCurves := [29, 23, 24]
  signatureAlgorithms := [1027, 2052, 1025, 1283, 2053, 1281, 2054, 1537, 513]

def maybeUQUIC (fingerprint : ClientHello) : Bool := uQUICChrome115.equalsSorted fingerprint

def isGrease (l : List UInt16) : Bool := l.headD 0 &&& 0x0F0F == 0x0A0A

def isSafari (fingerprint : ClientHello) : Bool :=
  fingerprint.versions.length == 2 && isGrease fingerprint.versions &&
      fingerprint.ellipticCurves.length == 5 && isGrease fingerprint.ellipticCurves ||
    fingerprint.cipherSuites == [0x1302] && fingerprint.ellipticCurves == [29] &&
      fingerprint.signatureAlgorithms == [0x0403]

/-- The index of the first frame type panics if there is no frame. -/
def guessClient (frameTypeList : List UInt8) (fingerprint : ClientHello) : Except Stop String :=
  if frameTypeList.length = 1 then .ok "firefox"
  else if frameTypeList.isEmpty then .error .panic
  else if frameTypeList.head? == some 0x06 && isZero frameTypeList.tail && isSafari fingerprint then
    .ok "safari"
  else if frameTypeList.getLast? == some 0x06 && isZero frameTypeList.dropLast then .ok "quic-go"
  else if 1 < frameTypeList.count 0x06 || 0 < frameTypeList.count 0x01 then
    .ok (if maybeUQUIC fingerprint then "quic-go" else "chromium")
  else .ok "unknown"

def sniffClient (client : String) (frameTypeList : List UInt8) (fingerprint : ClientHello) :
    Except Stop String :=
  if client = "" then guessClient frameTypeList fingerprint else .ok client

lemma sniffClient_eq_ok {client : String} {frameTypeList : List UInt8} {hello : ClientHello} :
    (∃ client', sniffClient client frameTypeList hello = .ok client') ↔
      (client = "" → frameTypeList ≠ []) := by
  unfold sniffClient guessClient
  by_cases hclient : client = ""
  · cases frameTypeList with
    | nil => simp [hclient]
    | cons t l =>
      rw [if_pos hclient, if_neg (by simp : ¬ (t :: l).isEmpty = true)]
      split_ifs <;> simp
  · simp [hclient]

def readPacket (c : Crypto) (packet : Bytes) : Except Stop (List UInt8 × List Fragment) :=
  match (do let h ← readHeader packet; decrypt c h packet : Except String (Bytes × Bytes)) with
  | .ok (decrypted, after) => readFrames decrypted after
  | .error err => .error (.error err)

/-- What the sniffer makes of the assembled record; a record that is no client hello is taken for
the first part of one, and the fragments are kept. -/
def identify (frameTypeList : List UInt8) (fragments : List Fragment) (m : Metadata) :
    Except Stop ClientHello → Except Stop (Except SniffError Unit × Metadata)
  | .ok fingerprint =>
    (sniffClient m.client frameTypeList fingerprint).map fun client =>
      (.ok (), { m with
        protocol := "quic", sniffHost := fingerprint.serverName, client, sniffContext := none })
  | .error (.error _) =>
    .ok (.error .clientHelloFragmented,
      { m with protocol := "quic", client := "chromium", sniffContext := some fragments })
  | .error stop => .error stop

def quicClientHello (c : Crypto) (packet : Bytes) (m : Metadata) :
    Except Stop (Except SniffError Unit × Metadata) := do
  let (frameTypeList, fragments) ← readPacket c packet
  let fragments := fragments ++ m.sniffContext.getD []
  let buffer ← assemble fragments
  identify frameTypeList fragments m (ClientHello.compute buffer)

end Quic

end SingBox.Sniff
