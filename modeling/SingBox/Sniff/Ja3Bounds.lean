import SingBox.Lib.Slices
import SingBox.Sniff.Ja3

namespace SingBox.Sniff.Ja3

open Lib.Loops Lib.Wire Lib.Slices ClientHello List

def uint16 (s : Bytes) (i : ℕ) : Except Stop UInt16 := do
  let high ← index .panic s i
  let low ← index .panic s (i + 1)
  return high.toUInt16 <<< 8 ||| low.toUInt16

def uint16sBelow (s : Bytes) (n : ℕ) : Except Stop (List UInt16) :=
  (range ((n + 1) / 2)).mapM fun i => do
    let rest ← sliceFrom .panic s (2 * i)
    uint16 rest 0

def parseServerName (j : ClientHello) (sex : Bytes) : Except Stop ClientHello :=
  if sex.length < 5 then lengthErr 13
  else do
    let sniType ← index .panic sex 2
    let sniLen ← uint16 sex 3
    let sex ← sliceFrom .panic sex 5
    if sex.length ≠ sniLen.toNat then lengthErr 14
    else if sniType ≠ 0 then .error (.error "SNI type not supported")
    else return { j with serverName := text sex }

def parseSupportedGroups (j : ClientHello) (sex : Bytes) : Except Stop ClientHello :=
  if sex.length < 2 then lengthErr 15
  else do
    let ecsLen ← uint16 sex 0
    let sex ← sliceFrom .panic sex 2
    if sex.length ≠ ecsLen.toNat then lengthErr 16
    else do
      let ellipticCurves ← (range (ecsLen.toNat / 2)).mapM fun i => uint16 sex (2 * i)
      return { j with ellipticCurves }

def parsePointFormats (j : ClientHello) (sex : Bytes) : Except Stop ClientHello :=
  if sex.length < 1 then lengthErr 17
  else do
    let numPF ← index .panic sex 0
    let sex ← sliceFrom .panic sex 1
    if sex.length ≠ numPF.toNat then lengthErr 18
    else do
      let ellipticCurvePF ← (range numPF.toNat).mapM fun i => index .panic sex i
      return { j with ellipticCurvePF }

def parseVersions (j : ClientHello) (sex : Bytes) : Except Stop ClientHello :=
  if sex.length < 1 then lengthErr 19
  else do
    let versionsLen ← index .panic sex 0
    let sex ← sliceFrom .panic sex 1
    let versions ← uint16sBelow sex versionsLen.toNat
    return { j with versions := j.versions ++ versions }

def parseSignatureAlgorithms (j : ClientHello) (sex : Bytes) : Except Stop ClientHello :=
  if sex.length < 2 then lengthErr 20
  else do
    let ssaLen ← uint16 sex 0
    let sex ← sliceFrom .panic sex 2
    let algorithms ← uint16sBelow sex ssaLen.toNat
    return { j with signatureAlgorithms := j.signatureAlgorithms ++ algorithms }

def parseExtension (j : ClientHello) (exType : UInt16) (sex : Bytes) : Except Stop ClientHello :=
  if exType = 0 then parseServerName j sex
  else if exType = 10 then parseSupportedGroups j sex
  else if exType = 11 then parsePointFormats j sex
  else if exType = 43 then parseVersions j sex
  else if exType = 13 then parseSignatureAlgorithms j sex
  else .ok j

/-- The body of the loop; the length of the extension with its header is added in sixteen bits. -/
def extensionBody (exs : Bytes) (j : ClientHello) : Except Stop (Bytes × ClientHello) :=
  if exs.length < 4 then lengthErr 11
  else do
    let exType ← uint16 exs 0
    let exLen ← uint16 exs 2
    if exs.length < 4 + exLen.toNat then lengthErr 12
    else do
      let sex ← slice .panic exs 4 (4 + exLen.toNat)
      let j ← parseExtension { j with extensions := j.extensions ++ [exType] } exType sex
      let exs ← sliceFrom .panic exs (4 + exLen).toNat
      return (exs, j)

def extensionTurn (s : Bytes × ClientHello) : Turn (Bytes × ClientHello) (Except Stop Unit) :=
  if s.1.length = 0 then .leave s (.ok ())
  else match extensionBody s.1 s.2 with
    | .ok s' => .again s'
    | .error stop => .leave s (.error stop)

/-- An extension that reaches the end of sixteen bits is found again where it was found. -/
def parseExtensions (j : ClientHello) (exs : Bytes) : Except Stop ClientHello :=
  if exs.length = 0 then .ok j
  else if exs.length < 2 then lengthErr 9
  else do
    let exsLen ← uint16 exs 0
    let exs ← sliceFrom .panic exs 2
    if exs.length < exsLen.toNat then lengthErr 10
    else match loop extensionTurn (exs.length + 1) (exs, j) with
      | some (s, result) => result.map fun _ => s.2
      | none => .error .spins

def parseCipherSuites (j : ClientHello) (cs : Bytes) : Except Stop ClientHello :=
  if cs.length < 2 then lengthErr 6
  else do
    let csLen ← uint16 cs 0
    if cs.length < 2 + csLen.toNat + 1 then lengthErr 7
    else do
      let cipherSuites ← (range (csLen.toNat / 2)).mapM fun i => uint16 cs (2 + 2 * i)
      let compressMethodLen ← index .panic cs (2 + csLen.toNat)
      if cs.length < 2 + csLen.toNat + 1 + compressMethodLen.toNat then lengthErr 8
      else do
        let exs ← sliceFrom .panic cs (2 + csLen.toNat + 1 + compressMethodLen.toNat)
        parseExtensions { j with cipherSuites } exs

def parseHandshake (j : ClientHello) (hs : Bytes) : Except Stop ClientHello :=
  if hs.length < 6 + 32 + 1 then lengthErr 3
  else do
    let handshType ← index .panic hs 0
    if handshType ≠ 1 then .error (.error "handshake type not matching")
    else do
      let high ← index .panic hs 1
      let middle ← index .panic hs 2
      let low ← index .panic hs 3
      let body ← sliceFrom .panic hs 4
      if body.length ≠ ofBigEndian [high, middle, low] then lengthErr 4
      else do
        let tlsVersion ← uint16 hs 4
        if !supported tlsVersion then versionErr 2
        else do
          let sessionIDLen ← index .panic hs 38
          if hs.length < 6 + 32 + 1 + sessionIDLen.toNat then lengthErr 5
          else do
            let cs ← sliceFrom .panic hs (6 + 32 + 1 + sessionIDLen.toNat)
            parseCipherSuites { j with version := tlsVersion } cs

def parseSegment (j : ClientHello) (segment : Bytes) : Except Stop ClientHello :=
  if segment.length < 5 then lengthErr 1
  else do
    let contType ← index .panic segment 0
    if contType ≠ 22 then .error (.error "content type not matching")
    else do
      let tlsRecordVersion ← uint16 segment 1
      if !supported tlsRecordVersion then versionErr 1
      else do
        let segmentLen ← uint16 segment 3
        let following ← sliceFrom .panic segment 5
        if following.length < segmentLen.toNat then lengthErr 2
        else do
          let hs ← slice .panic segment 5 (5 + segmentLen.toNat)
          parseHandshake j hs

def compute (payload : Bytes) : Except Stop ClientHello := parseSegment {} payload

variable {s : Bytes} {j : ClientHello} {i n : ℕ}

lemma index_byte (h : i < s.length) : index Stop.panic s i = .ok (s.getD i 0) := index_eq_ok h 0

lemma uint16_eq (h : i + 1 < s.length) : uint16 s i = .ok (uint16At s i) := by
  rw [uint16, index_byte (Nat.lt_of_succ_lt h), index_byte h]
  rfl

lemma uint16_drop (k : ℕ) (h : k + i + 1 < s.length) : uint16 (s.drop k) i = .ok (uint16At s (k + i)) := by
  rw [uint16_eq (by rw [length_drop]; omega)]
  simp [uint16At, getD_eq_getElem?_getD, Nat.add_assoc]

lemma uint16sBelow_eq (s : Bytes) (n : ℕ) : uint16sBelow s n = ClientHello.uint16sBelow s n := by
  unfold uint16sBelow ClientHello.uint16sBelow
  have hfits : ∀ i, 2 * i + 2 ≤ s.length →
      (sliceFrom Stop.panic s (2 * i) >>= fun rest => uint16 rest 0) = .ok (uint16At s (2 * i)) := by
    intro i hi
    rw [sliceFrom_eq_ok (by omega)]
    exact uint16_drop (2 * i) (by omega)
  have hshort : ∀ i, s.length < 2 * i + 2 →
      (sliceFrom Stop.panic s (2 * i) >>= fun rest => uint16 rest 0) = .error .panic := by
    intro i hi
    by_cases hle : 2 * i ≤ s.length
    · rw [sliceFrom_eq_ok hle]
      have hlen : (s.drop (2 * i)).length ≤ 1 := by rw [length_drop]; omega
      change uint16 (s.drop (2 * i)) 0 = .error .panic
      rw [uint16]
      rcases Nat.le_one_iff_eq_zero_or_eq_one.1 hlen with h0 | h1
      · rw [index_eq_error (Nat.le_of_eq h0)]
        rfl
      · rw [index_byte (by omega), index_eq_error (Nat.le_of_eq h1)]
        rfl
    · rw [sliceFrom_eq_error (by omega)]
      rfl
  split_ifs with hlen
  · have hlast : (n + 1) / 2 - 1 ∈ range ((n + 1) / 2) := mem_range.2 (by omega)
    refine mapM_eq_error (g := fun i => uint16At s (2 * i)) (fun i _ => ?_)
      ⟨_, hlast, hshort _ (by omega)⟩
    rcases Nat.lt_or_ge s.length (2 * i + 2) with h | h
    · exact .inr (hshort i h)
    · exact .inl (hfits i h)
  · refine mapM_eq_ok fun i hi => hfits i ?_
    have := mem_range.1 hi
    omega

lemma mapM_uint16 (k : ℕ) (h : k + 2 * n ≤ s.length) :
    (range n).mapM (fun i => uint16 s (k + 2 * i)) = .ok (uint16s (s.drop k) n) := by
  refine mapM_eq_ok fun i hi => ?_
  have hlt := mem_range.1 hi
  rw [uint16_eq (by omega)]
  simp [uint16At, getD_eq_getElem?_getD, Nat.add_assoc]

lemma mapM_index (s : Bytes) : (range s.length).mapM (index Stop.panic s) = .ok s := by
  rw [mapM_eq_ok fun i hi => index_byte (mem_range.1 hi)]
  congr 1
  apply ext_getElem
  · simp
  · intro i h₁ h₂
    simp [getD_eq_getElem?_getD, h₂]

lemma parseServerName_eq (j : ClientHello) (sex : Bytes) :
    parseServerName j sex = j.parseServerName sex := by
  unfold parseServerName ClientHello.parseServerName
  by_cases hlen : sex.length < 5
  · rw [if_pos hlen, if_pos hlen]
  · rw [if_neg hlen, if_neg hlen, index_byte (by omega), uint16_eq (by omega),
      sliceFrom_eq_ok (by omega)]
    rfl

lemma parseSupportedGroups_eq (j : ClientHello) (sex : Bytes) :
    parseSupportedGroups j sex = j.parseSupportedGroups sex := by
  unfold parseSupportedGroups ClientHello.parseSupportedGroups
  by_cases hlen : sex.length < 2
  · rw [if_pos hlen, if_pos hlen]
  · rw [if_neg hlen, if_neg hlen, uint16_eq (by omega), sliceFrom_eq_ok (by omega)]
    change ite _ _ _ = ite _ _ _
    by_cases hecs : (sex.drop 2).length = (uint16At sex 0).toNat
    · have hmap := mapM_uint16 (s := sex.drop 2) (n := (uint16At sex 0).toNat / 2) 0 (by omega)
      simp only [Nat.zero_add, drop_zero] at hmap
      rw [if_neg (not_not.2 hecs), if_neg (not_not.2 hecs), hmap]
      rfl
    · rw [if_pos hecs, if_pos hecs]

lemma parsePointFormats_eq (j : ClientHello) (sex : Bytes) :
    parsePointFormats j sex = j.parsePointFormats sex := by
  unfold parsePointFormats ClientHello.parsePointFormats
  by_cases hlen : sex.length < 1
  · rw [if_pos hlen, if_pos hlen]
  · rw [if_neg hlen, if_neg hlen, index_byte (by omega), sliceFrom_eq_ok (by omega)]
    change ite _ _ _ = ite _ _ _
    by_cases hpf : (sex.drop 1).length = (sex.getD 0 0).toNat
    · rw [if_neg (not_not.2 hpf), if_neg (not_not.2 hpf), ← hpf, mapM_index]
      rfl
    · rw [if_pos hpf, if_pos hpf]

lemma parseVersions_eq (j : ClientHello) (sex : Bytes) : parseVersions j sex = j.parseVersions sex := by
  unfold parseVersions ClientHello.parseVersions
  by_cases hlen : sex.length < 1
  · rw [if_pos hlen, if_pos hlen]
  · rw [if_neg hlen, if_neg hlen, index_byte (by omega), sliceFrom_eq_ok (by omega),
      ← uint16sBelow_eq]
    rfl

lemma parseSignatureAlgorithms_eq (j : ClientHello) (sex : Bytes) :
    parseSignatureAlgorithms j sex = j.parseSignatureAlgorithms sex := by
  unfold parseSignatureAlgorithms ClientHello.parseSignatureAlgorithms
  by_cases hlen : sex.length < 2
  · rw [if_pos hlen, if_pos hlen]
  · rw [if_neg hlen, if_neg hlen, uint16_eq (by omega), sliceFrom_eq_ok (by omega),
      ← uint16sBelow_eq]
    rfl

lemma parseExtension_eq (j : ClientHello) (exType : UInt16) (sex : Bytes) :
    parseExtension j exType sex = j.parseExtension exType sex := by
  simp only [parseExtension, ClientHello.parseExtension, parseServerName_eq, parseSupportedGroups_eq,
    parsePointFormats_eq, parseVersions_eq, parseSignatureAlgorithms_eq]

lemma toNat_advance {exLen : UInt16} (hs : s.length < 65536) (h : 4 + exLen.toNat ≤ s.length) :
    (4 + exLen).toNat = 4 + exLen.toNat := by
  rw [UInt16.toNat_add]
  exact Nat.mod_eq_of_lt (by change 4 + exLen.toNat < 65536; omega)

variable {exs : Bytes}

lemma extensionBody_header (h : exs.length < 4) : extensionBody exs j = lengthErr 11 := if_pos h

lemma extensionBody_short (h₄ : 4 ≤ exs.length) (h : exs.length < 4 + (uint16At exs 2).toNat) :
    extensionBody exs j = lengthErr 12 := by
  rw [extensionBody, if_neg (not_lt.2 h₄), uint16_eq (by omega), uint16_eq (by omega)]
  exact if_pos h

lemma extensionBody_whole (hexs : exs.length < 65536) (h : 4 + (uint16At exs 2).toNat ≤ exs.length) :
    extensionBody exs j = Prod.mk (exs.drop (4 + (uint16At exs 2).toNat)) <$>
      ClientHello.parseExtension { j with extensions := j.extensions ++ [uint16At exs 0] }
        (uint16At exs 0) ((exs.drop 4).take (uint16At exs 2).toNat) := by
  rw [extensionBody, if_neg (by omega), uint16_eq (by omega), uint16_eq (by omega)]
  refine (if_neg (not_lt.2 h)).trans ?_
  rw [slice_eq_ok h, toNat_advance hexs h, sliceFrom_eq_ok h, ← parseExtension_eq]
  change (parseExtension _ _ _ >>= _) = _
  cases parseExtension { j with extensions := j.extensions ++ [uint16At exs 0] } (uint16At exs 0)
      ((exs.drop 4).take (uint16At exs 2).toNat) with
  | error stop => rfl
  | ok j' => rfl

lemma extensionTurn_eq {x : Bytes × ClientHello} (hx : x.1.length < 65536) :
    extensionTurn x = ClientHello.extensionTurn x := by
  unfold extensionTurn ClientHello.extensionTurn
  by_cases hempty : x.1.length = 0
  · rw [if_pos hempty, if_pos hempty]
  rw [if_neg hempty, if_neg hempty]
  by_cases hheader : x.1.length < 4
  · rw [if_pos hheader, extensionBody_header hheader]
    rfl
  rw [if_neg hheader]
  by_cases hshort : x.1.length < 4 + (uint16At x.1 2).toNat
  · rw [if_pos hshort, extensionBody_short (not_lt.1 hheader) hshort]
    rfl
  rw [if_neg hshort, extensionBody_whole hx (not_lt.1 hshort)]
  dsimp only
  cases ClientHello.parseExtension { x.2 with extensions := x.2.extensions ++ [uint16At x.1 0] }
      (uint16At x.1 0) ((x.1.drop 4).take (uint16At x.1 2).toNat) with
  | error stop => rfl
  | ok j' => rfl

lemma length_of_extensionTurn {x y : Bytes × ClientHello} (hx : x.1.length < 65536)
    (h : ClientHello.extensionTurn x = .again y) : y.1.length < 65536 :=
  (extensionTurn_descends x y h).trans hx

lemma parseExtensions_eq (hexs : exs.length < 65536) :
    parseExtensions j exs = j.parseExtensions exs := by
  unfold parseExtensions ClientHello.parseExtensions
  by_cases hempty : exs.length = 0
  · rw [if_pos hempty, if_pos hempty]
  rw [if_neg hempty, if_neg hempty]
  by_cases hheader : exs.length < 2
  · rw [if_pos hheader, if_pos hheader]
  rw [if_neg hheader, if_neg hheader, uint16_eq (by omega), sliceFrom_eq_ok (by omega)]
  change ite _ _ _ = ite _ _ _
  have hshort : (exs.drop 2).length < 65536 := by
    rw [length_drop]
    omega
  rw [loop_congr (fun x hx => extensionTurn_eq hx) (fun x y => length_of_extensionTurn) hshort,
    extensionTurn_descends.loop_eq (exs.drop 2, j)]

lemma parseCipherSuites_eq {cs : Bytes} (hcs : cs.length < 65536) :
    parseCipherSuites j cs = j.parseCipherSuites cs := by
  unfold parseCipherSuites ClientHello.parseCipherSuites
  dsimp only
  by_cases hheader : cs.length < 2
  · rw [if_pos hheader, if_pos hheader]
  rw [if_neg hheader, if_neg hheader, uint16_eq (by omega)]
  refine Eq.trans (b := ite _ _ _) rfl ?_
  by_cases hsuites : cs.length < 2 + (uint16At cs 0).toNat + 1
  · rw [if_pos hsuites, if_pos hsuites]
  rw [if_neg hsuites, if_neg hsuites, mapM_uint16 2 (by omega), index_byte (by omega)]
  refine Eq.trans (b := ite _ _ _) rfl ?_
  by_cases hmethods : cs.length < 2 + (uint16At cs 0).toNat + 1 + (cs.getD (2 + (uint16At cs 0).toNat) 0).toNat
  · rw [if_pos hmethods, if_pos hmethods]
  rw [if_neg hmethods, if_neg hmethods, sliceFrom_eq_ok (not_lt.1 hmethods)]
  refine parseExtensions_eq ?_
  rw [length_drop]
  omega

lemma parseHandshake_eq {hs : Bytes} (hhs : hs.length < 65536) :
    parseHandshake j hs = j.parseHandshake hs := by
  unfold parseHandshake ClientHello.parseHandshake
  by_cases hheader : hs.length < 6 + 32 + 1
  · rw [if_pos hheader, if_pos hheader]
  rw [if_neg hheader, if_neg hheader, index_byte (by omega)]
  refine Eq.trans (b := ite _ _ _) rfl ?_
  by_cases htype : hs.getD 0 0 = 1
  swap
  · rw [if_pos htype, if_pos htype]
  have hlength : [hs.getD 1 0, hs.getD 2 0, hs.getD 3 0] = (hs.drop 1).take 3 := by
    rcases hs with _ | ⟨b₀, _ | ⟨b₁, _ | ⟨b₂, _ | ⟨b₃, hs⟩⟩⟩⟩
    all_goals simp at hheader ⊢
  rw [if_neg (not_not.2 htype), if_neg (not_not.2 htype), index_byte (by omega), index_byte (by omega),
    index_byte (by omega), sliceFrom_eq_ok (by omega), ← hlength]
  refine Eq.trans (b := ite _ _ _) rfl ?_
  by_cases hlen : (hs.drop 4).length = ofBigEndian [hs.getD 1 0, hs.getD 2 0, hs.getD 3 0]
  swap
  · rw [if_pos hlen, if_pos hlen]
  rw [if_neg (not_not.2 hlen), if_neg (not_not.2 hlen), uint16_eq (by omega)]
  refine Eq.trans (b := ite _ _ _) rfl ?_
  by_cases hversion : (!supported (uint16At hs 4)) = true
  · rw [if_pos hversion, if_pos hversion]
  rw [if_neg hversion, if_neg hversion, index_byte (by omega)]
  refine Eq.trans (b := ite _ _ _) rfl ?_
  by_cases hsession : hs.length < 6 + 32 + 1 + (hs.getD 38 0).toNat
  · rw [if_pos hsession, if_pos hsession]
  rw [if_neg hsession, if_neg hsession, sliceFrom_eq_ok (not_lt.1 hsession)]
  refine parseCipherSuites_eq ?_
  rw [length_drop]
  omega

lemma parseSegment_eq (j : ClientHello) (segment : Bytes) :
    parseSegment j segment = j.parseSegment segment := by
  unfold parseSegment ClientHello.parseSegment
  by_cases hheader : segment.length < 5
  · rw [if_pos hheader, if_pos hheader]
  rw [if_neg hheader, if_neg hheader, index_byte (by omega)]
  refine Eq.trans (b := ite _ _ _) rfl ?_
  by_cases htype : segment.getD 0 0 = 22
  swap
  · rw [if_pos htype, if_pos htype]
  rw [if_neg (not_not.2 htype), if_neg (not_not.2 htype), uint16_eq (by omega)]
  refine Eq.trans (b := ite _ _ _) rfl ?_
  by_cases hversion : (!supported (uint16At segment 1)) = true
  · rw [if_pos hversion, if_pos hversion]
  rw [if_neg hversion, if_neg hversion, uint16_eq (by omega), sliceFrom_eq_ok (by omega)]
  refine Eq.trans (b := ite _ _ _) rfl ?_
  by_cases hlen : (segment.drop 5).length < (uint16At segment 3).toNat
  · rw [if_pos hlen, if_pos hlen]
  have hle : 5 + (uint16At segment 3).toNat ≤ segment.length := by
    rw [length_drop] at hlen
    omega
  rw [if_neg hlen, if_neg hlen, slice_eq_ok hle]
  refine parseHandshake_eq ?_
  rw [length_take]
  exact lt_of_le_of_lt (Nat.min_le_left _ _) (uint16At segment 3).toNat_lt

lemma compute_eq (payload : Bytes) : compute payload = ClientHello.compute payload :=
  parseSegment_eq {} payload

end SingBox.Sniff.Ja3
