import SingBox.Lib.Loops
import SingBox.Lib.Wire

namespace SingBox.Sniff

open Lib.Loops Lib.Wire

inductive Stop where
  | error (err : String)
  | panic
  | spins

structure ClientHello where
  version : UInt16 := 0
  cipherSuites : List UInt16 := []
  extensions : List UInt16 := []
  ellipticCurves : List UInt16 := []
  ellipticCurvePF : List UInt8 := []
  versions : List UInt16 := []
  signatureAlgorithms : List UInt16 := []
  serverName : String := ""

namespace ClientHello

variable {α : Type}

def lengthErr (check : ℕ) : Except Stop α :=
  .error (.error ("length check " ++ toString check ++ " failed"))

def versionErr (check : ℕ) : Except Stop α :=
  .error (.error ("version check " ++ toString check ++ " failed"))

def uint16At (s : Bytes) (i : ℕ) : UInt16 :=
  (s.getD i 0).toUInt16 <<< 8 ||| (s.getD (i + 1) 0).toUInt16

def uint16s (s : Bytes) (n : ℕ) : List UInt16 := (List.range n).map fun i => uint16At s (2 * i)

/-- The values at the even offsets below `n`; unlike the other lists, `s` may be too short for them. -/
def uint16sBelow (s : Bytes) (n : ℕ) : Except Stop (List UInt16) :=
  if s.length < 2 * ((n + 1) / 2) then .error .panic else .ok (uint16s s ((n + 1) / 2))

def text (s : Bytes) : String := String.ofList (s.map fun b => Char.ofNat b.toNat)

def supported (v : UInt16) : Bool := v &&& 0xFFFC == 0x0300 || v == 0x0304

def parseServerName (j : ClientHello) (sex : Bytes) : Except Stop ClientHello :=
  if sex.length < 5 then lengthErr 13
  else if (sex.drop 5).length ≠ (uint16At sex 3).toNat then lengthErr 14
  else if sex.getD 2 0 ≠ 0 then .error (.error "SNI type not supported")
  else .ok { j with serverName := text (sex.drop 5) }

def parseSupportedGroups (j : ClientHello) (sex : Bytes) : Except Stop ClientHello :=
  if sex.length < 2 then lengthErr 15
  else if (sex.drop 2).length ≠ (uint16At sex 0).toNat then lengthErr 16
  else .ok { j with ellipticCurves := uint16s (sex.drop 2) ((uint16At sex 0).toNat / 2) }

def parsePointFormats (j : ClientHello) (sex : Bytes) : Except Stop ClientHello :=
  if sex.length < 1 then lengthErr 17
  else if (sex.drop 1).length ≠ (sex.getD 0 0).toNat then lengthErr 18
  else .ok { j with ellipticCurvePF := sex.drop 1 }

def parseVersions (j : ClientHello) (sex : Bytes) : Except Stop ClientHello :=
  if sex.length < 1 then lengthErr 19
  else do
    let versions ← uint16sBelow (sex.drop 1) (sex.getD 0 0).toNat
    return { j with versions := j.versions ++ versions }

def parseSignatureAlgorithms (j : ClientHello) (sex : Bytes) : Except Stop ClientHello :=
  if sex.length < 2 then lengthErr 20
  else do
    let algorithms ← uint16sBelow (sex.drop 2) (uint16At sex 0).toNat
    return { j with signatureAlgorithms := j.signatureAlgorithms ++ algorithms }

def parseExtension (j : ClientHello) (exType : UInt16) (sex : Bytes) : Except Stop ClientHello :=
  if exType = 0 then j.parseServerName sex
  else if exType = 10 then j.parseSupportedGroups sex
  else if exType = 11 then j.parsePointFormats sex
  else if exType = 43 then j.parseVersions sex
  else if exType = 13 then j.parseSignatureAlgorithms sex
  else .ok j

def extensionTurn (s : Bytes × ClientHello) : Turn (Bytes × ClientHello) (Except Stop Unit) :=
  if s.1.length = 0 then .leave s (.ok ())
  else if s.1.length < 4 then .leave s (lengthErr 11)
  else if s.1.length < 4 + (uint16At s.1 2).toNat then .leave s (lengthErr 12)
  else
    let exType := uint16At s.1 0
    let sex := (s.1.drop 4).take (uint16At s.1 2).toNat
    match parseExtension { s.2 with extensions := s.2.extensions ++ [exType] } exType sex with
    | .ok j => .again (s.1.drop (4 + (uint16At s.1 2).toNat), j)
    | .error stop => .leave s (.error stop)

lemma extensionTurn_descends : Descends extensionTurn fun s => s.1.length := by
  intro s s' h
  unfold extensionTurn at h
  split_ifs at h with hempty
  dsimp only at h
  split at h
  · cases h
    dsimp only
    rw [List.length_drop]
    omega
  · cases h

def parseExtensions (j : ClientHello) (exs : Bytes) : Except Stop ClientHello :=
  if exs.length = 0 then .ok j
  else if exs.length < 2 then lengthErr 9
  else if (exs.drop 2).length < (uint16At exs 0).toNat then lengthErr 10
  else
    let (s, result) := extensionTurn_descends.run (exs.drop 2, j)
    result.map fun _ => s.2

def parseCipherSuites (j : ClientHello) (cs : Bytes) : Except Stop ClientHello :=
  let csLen := (uint16At cs 0).toNat
  if cs.length < 2 then lengthErr 6
  else if cs.length < 2 + csLen + 1 then lengthErr 7
  else if cs.length < 2 + csLen + 1 + (cs.getD (2 + csLen) 0).toNat then lengthErr 8
  else parseExtensions { j with cipherSuites := uint16s (cs.drop 2) (csLen / 2) }
    (cs.drop (2 + csLen + 1 + (cs.getD (2 + csLen) 0).toNat))

def parseHandshake (j : ClientHello) (hs : Bytes) : Except Stop ClientHello :=
  if hs.length < 6 + 32 + 1 then lengthErr 3
  else if hs.getD 0 0 ≠ 1 then .error (.error "handshake type not matching")
  else if (hs.drop 4).length ≠ ofBigEndian ((hs.drop 1).take 3) then lengthErr 4
  else if !supported (uint16At hs 4) then versionErr 2
  else if hs.length < 6 + 32 + 1 + (hs.getD 38 0).toNat then lengthErr 5
  else parseCipherSuites { j with version := uint16At hs 4 }
    (hs.drop (6 + 32 + 1 + (hs.getD 38 0).toNat))

def parseSegment (j : ClientHello) (segment : Bytes) : Except Stop ClientHello :=
  if segment.length < 5 then lengthErr 1
  else if segment.getD 0 0 ≠ 22 then .error (.error "content type not matching")
  else if !supported (uint16At segment 1) then versionErr 1
  else if (segment.drop 5).length < (uint16At segment 3).toNat then lengthErr 2
  else parseHandshake j ((segment.drop 5).take (uint16At segment 3).toNat)

def compute (payload : Bytes) : Except Stop ClientHello := parseSegment {} payload

def equalsSorted (j another : ClientHello) : Bool :=
  j.version == another.version && j.cipherSuites == another.cipherSuites &&
    j.extensions == another.extensions.mergeSort && j.ellipticCurves == another.ellipticCurves &&
    j.ellipticCurvePF == another.ellipticCurvePF &&
    j.signatureAlgorithms == another.signatureAlgorithms

end ClientHello

end SingBox.Sniff
