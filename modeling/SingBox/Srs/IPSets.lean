import Mathlib.Data.Prod.Lex
import Mathlib.Data.String.Basic
import SingBox.Lib.Ranges
import SingBox.Srs.RoundTrip

namespace SingBox.Srs

open Lib.Wire Route Formats List

def addrKey : IPAddr → ℕ ×ₗ ℕ ×ₗ String
  | .v4 bits => toLex (32, toLex (bits.toNat, ""))
  | .v6 bits zone => toLex (128, toLex (bits.toNat, zone))

def bitLen : IPAddr → ℕ
  | .v4 _ => 32
  | .v6 _ _ => 128

def addrFromSlice (data : Bytes) : Option IPAddr :=
  if data.length = 4 then some (.v4 (BitVec.ofNat 32 (ofBigEndian data)))
  else if data.length = 16 then some (.v6 (BitVec.ofNat 128 (ofBigEndian data)) "")
  else none

def zone : IPAddr → String
  | .v4 _ => ""
  | .v6 _ zone => zone

def IsRange (range : IPRange) : Prop :=
  ∃ first last, range.first = some first ∧ range.last = some last ∧ bitLen first = bitLen last ∧
    zone first = "" ∧ zone last = "" ∧ addrKey first ≤ addrKey last

/-- Ranges and prefixes hold no address with a zone. -/
def Holds (range : IPRange) (addr : IPAddr) : Prop :=
  zone addr = "" ∧ ∃ first last, range.first = some first ∧ range.last = some last ∧
    addrKey first ≤ addrKey addr ∧ addrKey addr ≤ addrKey last

def Precedes (range range' : IPRange) : Prop :=
  ∃ last first, range.last = some last ∧ range'.first = some first ∧ addrKey last < addrKey first

def WellFormed (ipSet : List IPRange) : Prop :=
  (∀ range ∈ ipSet, IsRange range) ∧ ipSet.Pairwise Precedes

structure IPSetLaws {lib : Library} (w : Formats lib) : Prop where
  addrFromIP : ∀ data, w.addrFromIP data = addrFromSlice data
  contains : ∀ ipSet, WellFormed ipSet → ∀ addr,
    lib.contains ipSet (some addr) = true ↔ ∃ range ∈ ipSet, Holds range addr
  prefixes : ∀ ipSet, WellFormed ipSet → ∀ addr,
    (∃ text ∈ w.prefixes ipSet, ∃ range, lib.parsePrefix text = .ok range ∧ Holds range addr) ↔
      ∃ range ∈ ipSet, Holds range addr

def IsRangeData (data : Bytes × Bytes) : Prop :=
  (data.1.length = 4 ∨ data.1.length = 16) ∧ data.2.length = data.1.length ∧
    ofBigEndian data.1 ≤ ofBigEndian data.2

def PrecedesData (data data' : Bytes × Bytes) : Prop :=
  data.2.length < data'.1.length ∨
    data.2.length = data'.1.length ∧ ofBigEndian data.2 < ofBigEndian data'.1

def InOrder (ranges : List (Bytes × Bytes)) : Prop :=
  (∀ data ∈ ranges, IsRangeData data) ∧ ranges.Pairwise PrecedesData

def rangeOf (data : Bytes × Bytes) : IPRange := ⟨addrFromSlice data.1, addrFromSlice data.2⟩

variable {data data' : Bytes × Bytes}

lemma exists_addrFromSlice {data : Bytes} (h : data.length = 4 ∨ data.length = 16) :
    ∃ addr, addrFromSlice data = some addr := by
  rcases h with h | h <;> exact ⟨_, by rw [addrFromSlice]; simp [h]; rfl⟩

lemma of_addrFromSlice {data : Bytes} {addr : IPAddr} (h : addrFromSlice data = some addr) :
    (data.length = 4 ∨ data.length = 16) ∧ bitLen addr = 8 * data.length ∧ zone addr = "" ∧
      addrKey addr = toLex (8 * data.length, toLex (ofBigEndian data, "")) := by
  have hlt := ofBigEndian_lt data
  unfold addrFromSlice at h
  split_ifs at h with h4 h16
  · cases h
    rw [h4] at hlt
    simpa [h4, bitLen, zone, addrKey] using hlt
  · cases h
    rw [h16] at hlt
    simpa [h16, bitLen, zone, addrKey] using hlt

variable {bits bits' value value' : ℕ}

lemma addrKey_le :
    (toLex (bits, toLex (value, "")) : ℕ ×ₗ ℕ ×ₗ String) ≤ toLex (bits', toLex (value', "")) ↔
      bits < bits' ∨ bits = bits' ∧ value ≤ value' := by
  rw [Prod.Lex.toLex_le_toLex, Prod.Lex.toLex_le_toLex]
  simp [le_iff_lt_or_eq]

lemma addrKey_lt :
    (toLex (bits, toLex (value, "")) : ℕ ×ₗ ℕ ×ₗ String) < toLex (bits', toLex (value', "")) ↔
      bits < bits' ∨ bits = bits' ∧ value < value' := by
  simp [Prod.Lex.toLex_lt_toLex]

lemma isRange_rangeOf : IsRange (rangeOf data) ↔ IsRangeData data := by
  constructor
  · rintro ⟨first, last, hfirst, hlast, hbits, -, -, hle⟩
    obtain ⟨hlen, hbits₁, -, hkey₁⟩ := of_addrFromSlice hfirst
    obtain ⟨-, hbits₂, -, hkey₂⟩ := of_addrFromSlice hlast
    rw [hkey₁, hkey₂, addrKey_le] at hle
    exact ⟨hlen, by omega, by omega⟩
  · rintro ⟨hlen, heq, hle⟩
    obtain ⟨first, hfirst⟩ := exists_addrFromSlice hlen
    obtain ⟨last, hlast⟩ := exists_addrFromSlice (heq ▸ hlen)
    obtain ⟨-, hbits₁, hzone₁, hkey₁⟩ := of_addrFromSlice hfirst
    obtain ⟨-, hbits₂, hzone₂, hkey₂⟩ := of_addrFromSlice hlast
    refine ⟨first, last, hfirst, hlast, by omega, hzone₁, hzone₂, ?_⟩
    rw [hkey₁, hkey₂, addrKey_le]
    exact .inr ⟨by omega, hle⟩

lemma precedes_rangeOf (h : IsRangeData data) (h' : IsRangeData data') :
    Precedes (rangeOf data) (rangeOf data') ↔ PrecedesData data data' := by
  obtain ⟨last, hlast⟩ := exists_addrFromSlice (h.2.1 ▸ h.1)
  obtain ⟨first, hfirst⟩ := exists_addrFromSlice h'.1
  have hkey₁ := (of_addrFromSlice hlast).2.2.2
  have hkey₂ := (of_addrFromSlice hfirst).2.2.2
  have hiff : addrKey last < addrKey first ↔ PrecedesData data data' := by
    rw [hkey₁, hkey₂, addrKey_lt, PrecedesData]
    omega
  rw [← hiff]
  constructor
  · rintro ⟨last', first', hlast', hfirst', hlt⟩
    cases hlast.symm.trans hlast'
    cases hfirst.symm.trans hfirst'
    exact hlt
  · intro hlt
    exact ⟨last, first, hlast, hfirst, hlt⟩

variable {ranges : List (Bytes × Bytes)}

lemma wellFormed_map_rangeOf : WellFormed (ranges.map rangeOf) ↔ InOrder ranges := by
  rw [WellFormed, InOrder, pairwise_map, forall_mem_map]
  simp only [isRange_rangeOf]
  refine and_congr_right fun h => ?_
  exact List.Pairwise.iff_of_mem fun hd hd' => precedes_rangeOf (h _ hd) (h _ hd')

variable {lib : Library} {w : Formats lib} {data rest : Bytes}

def EncodesRanges (w : Formats lib) (data : Bytes) (ranges : List (Bytes × Bytes)) (rest : Bytes) :
    Prop :=
  ∃ count body, data = 1 :: (count ++ body) ∧ count.length = 8 ∧
    Reads (w.readRanges (ofBigEndian count)) body ranges rest

variable {ipSet : List IPRange}

lemma reads_readIPSet (hw : IPSetLaws w) : Reads (readIPSet w) data ipSet rest ↔
      ∃ ranges, EncodesRanges w data ranges rest ∧ ipSet = ranges.map rangeOf := by
  have hdecode : (fun data : Bytes × Bytes =>
      (⟨w.addrFromIP data.1, w.addrFromIP data.2⟩ : IPRange)) = rangeOf := by
    funext data
    rw [hw.addrFromIP, hw.addrFromIP, rangeOf]
  constructor
  · intro h
    rw [readIPSet] at h
    obtain ⟨version, s, hversion, h⟩ := h.of_bind
    split_ifs at h with hv
    · cases h
    obtain ⟨length, body, hlength, h⟩ := h.of_bind
    obtain ⟨ranges, _, hranges, h⟩ := h.of_bind
    cases h
    rw [readBigEndian] at hlength
    obtain ⟨count, _, hcount, hlength⟩ := hlength.of_bind
    cases hlength
    obtain ⟨hlen, rfl⟩ := eq_append_of_readFull hcount
    rw [not_not] at hv
    refine ⟨ranges, ⟨count, body, ?_, hlen, hranges⟩, by rw [hdecode]⟩
    rw [eq_cons_of_readByte hversion, hv]
  · rintro ⟨ranges, ⟨count, body, rfl, hlen, hranges⟩, rfl⟩
    refine (readByte_cons 1 _).bind ?_
    rw [if_neg (by decide), ← hdecode]
    have hcount := readFull_append count body
    rw [hlen] at hcount
    have hlength : Reads (readBigEndian 8) (count ++ body) (ofBigEndian count) body :=
      hcount.bind Reads.pure
    exact hlength.bind (hranges.bind Reads.pure)

def Faithful (w : Formats lib) (ranges : List (Bytes × Bytes)) (ipSet : List IPRange) : Prop :=
  WellFormed ipSet ∧
    (∀ addr, lib.contains ipSet (some addr) = true ↔ ∃ data ∈ ranges, Holds (rangeOf data) addr) ∧
    ∀ addr,
      (∃ text ∈ w.prefixes ipSet, ∃ range, lib.parsePrefix text = .ok range ∧ Holds range addr) ↔
        ∃ data ∈ ranges, Holds (rangeOf data) addr

theorem decoded_ip_set_iff (hw : IPSetLaws w) (data : Bytes) :
    (∀ ipSet rest, Reads (readIPSet w) data ipSet rest →
        ∃ ranges, EncodesRanges w data ranges rest ∧ Faithful w ranges ipSet) ↔
      ∀ ranges rest, EncodesRanges w data ranges rest → InOrder ranges := by
  constructor
  · intro h ranges rest hranges
    obtain ⟨_, _, hwf, -⟩ := h _ rest ((reads_readIPSet hw).2 ⟨ranges, hranges, rfl⟩)
    exact wellFormed_map_rangeOf.1 hwf
  · intro h ipSet rest hread
    obtain ⟨ranges, hranges, rfl⟩ := (reads_readIPSet hw).1 hread
    have hwf := wellFormed_map_rangeOf.2 (h ranges rest hranges)
    have hmap : ∀ addr, (∃ range ∈ ranges.map rangeOf, Holds range addr) ↔
        ∃ data ∈ ranges, Holds (rangeOf data) addr := fun addr => by simp
    refine ⟨ranges, hranges, hwf, fun addr => ?_, fun addr => ?_⟩
    · rw [hw.contains _ hwf, hmap]
    · rw [hw.prefixes _ hwf, hmap]

lemma EncodesRanges.unique {ranges' : List (Bytes × Bytes)} {rest' : Bytes}
    (h : EncodesRanges w data ranges rest) (h' : EncodesRanges w data ranges' rest') :
    ranges = ranges' ∧ rest = rest' := by
  obtain ⟨count, body, rfl, hlen, hread⟩ := h
  obtain ⟨count', body', hdata, hlen', hread'⟩ := h'
  obtain ⟨rfl, rfl⟩ := append_inj (List.cons.inj hdata).2 (hlen.trans hlen'.symm)
  exact hread.unique hread'

def addrAsSlice : Option IPAddr → Bytes
  | none => []
  | some (.v4 bits) => putBigEndian 4 bits.toNat
  | some (.v6 bits _) => putBigEndian 16 bits.toNat

def withoutZone : IPAddr → IPAddr
  | .v4 bits => .v4 bits
  | .v6 bits _ => .v6 bits ""

lemma addrFromSlice_addrAsSlice (addr : Option IPAddr) :
    addrFromSlice (addrAsSlice (addr.map withoutZone)) = addr.map withoutZone := by
  rcases addr with _ | bits | ⟨bits, zone⟩
  · rfl
  · have hlt : bits.toNat < 256 ^ 4 := bits.isLt
    simp [withoutZone, addrAsSlice, addrFromSlice, length_putBigEndian, ofBigEndian_putBigEndian hlt]
  · have hlt : bits.toNat < 256 ^ 16 := bits.isLt
    simp [withoutZone, addrAsSlice, addrFromSlice, length_putBigEndian, ofBigEndian_putBigEndian hlt]

def textOf (data : Bytes) : String := String.ofList (data.map fun b => Char.ofNat b.toNat)

def bytesOf (text : String) : Bytes := text.toList.map fun c => UInt8.ofNat c.toNat

lemma bytesOf_textOf (data : Bytes) : bytesOf (textOf data) = data := by
  have hbyte : ∀ b : UInt8, UInt8.ofNat (Char.ofNat b.toNat).toNat = b := by
    rintro ⟨⟨n⟩⟩
    revert n
    decide +kernel
  rw [bytesOf, textOf, String.toList_ofList, map_map]
  exact (map_congr_left fun b _ => hbyte b).trans (map_id data)

def boundsFormat : Format (Option IPAddr × Option IPAddr) := .pair addrFormat addrFormat

def rangeText (range : IPRange) : String := textOf (boundsFormat.write (range.first, range.last))

def parseRangeText (text : String) : Except String IPRange :=
  (fun bounds => ⟨bounds.1.1, bounds.1.2⟩) <$> boundsFormat.read (bytesOf text)

lemma parseRangeText_rangeText (range : IPRange) :
    parseRangeText (rangeText range) = .ok range := by
  have hread : Reads boundsFormat.read (boundsFormat.write (range.first, range.last))
      (range.first, range.last) [] := by
    simpa using boundsFormat.reads (range.first, range.last) []
  rw [parseRangeText, rangeText, bytesOf_textOf, hread]
  rfl

def boundKey (addr : Option IPAddr) : ℕ ×ₗ ℕ ×ₗ String :=
  (addr.map addrKey).getD (toLex (0, toLex (0, "")))

def boundKeys (range : IPRange) : (ℕ ×ₗ ℕ ×ₗ String) × (ℕ ×ₗ ℕ ×ₗ String) :=
  (boundKey range.first, boundKey range.last)

lemma WellFormed.ordered (h : WellFormed ipSet) : Lib.Ranges.Ordered (ipSet.map boundKeys) := by
  refine ⟨forall_mem_map.2 fun range hrange => ?_, pairwise_map.2 (h.2.imp ?_)⟩
  · obtain ⟨first, last, hfirst, hlast, -, -, -, hle⟩ := h.1 range hrange
    simpa [boundKeys, boundKey, hfirst, hlast] using hle
  · rintro range range' ⟨last, first, hlast, hfirst, hlt⟩
    simpa [boundKeys, boundKey, hfirst, hlast] using hlt

lemma IsRange.holds_iff {range : IPRange} (h : IsRange range) (addr : IPAddr) :
    Holds range addr ↔
      zone addr = "" ∧ (boundKeys range).1 ≤ addrKey addr ∧ addrKey addr ≤ (boundKeys range).2 := by
  obtain ⟨first, last, hfirst, hlast, -⟩ := h
  simp [Holds, boundKeys, boundKey, hfirst, hlast]

def Library.textual : Library where
  __ := Library.bare
  parsePrefix := parseRangeText
  buildIPSet ranges := ranges.map fun range =>
    ⟨range.first.map withoutZone, range.last.map withoutZone⟩
  contains ipSet addr := addr.any fun addr =>
    zone addr == "" && Lib.Ranges.contains (ipSet.map boundKeys) (addrKey addr)

def Formats.textual : Formats Library.textual where
  strings := bare.strings
  uint16s := bare.uint16s
  writeMatcher := bare.writeMatcher
  readMatcher := bare.readMatcher
  reads_matcher := bare.reads_matcher
  writeAdGuardMatcher := bare.writeAdGuardMatcher
  readAdGuardMatcher := bare.readAdGuardMatcher
  reads_adGuardMatcher := bare.reads_adGuardMatcher
  writeRange := bare.writeRange
  readRanges := bare.readRanges
  reads_ranges := bare.reads_ranges
  buildIPSet_ne_nil _ hne := by simpa [Library.textual] using hne
  asSlice := addrAsSlice
  addrFromIP := addrFromSlice
  addrFromIP_asSlice ranges range hrange := by
    obtain ⟨range, -, rfl⟩ := mem_map.1 hrange
    exact ⟨addrFromSlice_addrAsSlice _, addrFromSlice_addrAsSlice _⟩
  prefixes ipSet := ipSet.map rangeText
  compress := bare.compress
  delivers := bare.delivers
  delivers_compress := bare.delivers_compress

lemma ipSetLaws_textual : IPSetLaws textual where
  addrFromIP _ := rfl
  contains ipSet h addr := by
    have hcontains : Library.textual.contains ipSet (some addr) = true ↔
        zone addr = "" ∧ Lib.Ranges.contains (ipSet.map boundKeys) (addrKey addr) = true := by
      simp [Library.textual]
    rw [hcontains, Lib.Ranges.contains_iff h.ordered]
    simp only [mem_map, exists_exists_and_eq_and, ← exists_and_left]
    refine exists_congr fun range => and_left_comm.trans (and_congr_right fun hrange => ?_)
    exact ((h.1 range hrange).holds_iff addr).symm
  prefixes ipSet _ addr := by
    have htext : ∀ range : IPRange, ∀ range', Library.textual.parsePrefix (rangeText range) = .ok range' ↔
        range = range' := fun range range' => by
      rw [show Library.textual.parsePrefix (rangeText range) = .ok range from
        parseRangeText_rangeText range, Except.ok.injEq]
    simp [textual, htext]

def encodedPair (a b c d : UInt8) : Bytes :=
  1 :: (putBigEndian 8 2 ++ (rangeFormat.write ([10, 0, 0, a], [10, 0, 0, b]) ++
    rangeFormat.write ([10, 0, 0, c], [10, 0, 0, d])))

lemma encodesRanges_encodedPair (a b c d : UInt8) :
    EncodesRanges textual (encodedPair a b c d)
      [([10, 0, 0, a], [10, 0, 0, b]), ([10, 0, 0, c], [10, 0, 0, d])] [] := by
  refine ⟨putBigEndian 8 2, _, rfl, rfl, ?_⟩
  have h := textual.reads_ranges
    [([10, 0, 0, a], [10, 0, 0, b]), ([10, 0, 0, c], [10, 0, 0, d])] (by simp) []
  rw [flatMap_cons, flatMap_cons, flatMap_nil, append_nil, append_nil] at h
  rw [ofBigEndian_putBigEndian (by decide)]
  exact h

theorem decoded_ip_set_in_order :
    Reads (readIPSet textual) (encodedPair 1 4 5 9)
        [rangeOf ([10, 0, 0, 1], [10, 0, 0, 4]), rangeOf ([10, 0, 0, 5], [10, 0, 0, 9])] [] ∧
      ∃ ranges, EncodesRanges textual (encodedPair 1 4 5 9) ranges [] ∧
        Faithful textual ranges
          [rangeOf ([10, 0, 0, 1], [10, 0, 0, 4]), rangeOf ([10, 0, 0, 5], [10, 0, 0, 9])] := by
  have henc := encodesRanges_encodedPair 1 4 5 9
  have hread := (reads_readIPSet ipSetLaws_textual).2 ⟨_, henc, rfl⟩
  refine ⟨hread, (decoded_ip_set_iff ipSetLaws_textual _).2 ?_ _ _ hread⟩
  intro ranges rest hranges
  obtain ⟨rfl, -⟩ := henc.unique hranges
  simp [InOrder, IsRangeData, PrecedesData, ofBigEndian]

theorem unordered_ip_set_decoded :
    Reads (readIPSet textual) (encodedPair 2 2 1 1)
        [rangeOf ([10, 0, 0, 2], [10, 0, 0, 2]), rangeOf ([10, 0, 0, 1], [10, 0, 0, 1])] [] ∧
      Holds (rangeOf ([10, 0, 0, 2], [10, 0, 0, 2])) (.v4 0x0A000002#32) ∧
      Library.textual.contains
        [rangeOf ([10, 0, 0, 2], [10, 0, 0, 2]), rangeOf ([10, 0, 0, 1], [10, 0, 0, 1])]
        (some (.v4 0x0A000002#32)) = false ∧
      ¬ WellFormed
        [rangeOf ([10, 0, 0, 2], [10, 0, 0, 2]), rangeOf ([10, 0, 0, 1], [10, 0, 0, 1])] := by
  refine ⟨(reads_readIPSet ipSetLaws_textual).2 ⟨_, encodesRanges_encodedPair 2 2 1 1, rfl⟩,
    ⟨rfl, _, _, rfl, rfl, le_rfl, le_rfl⟩, by decide +kernel, fun h => ?_⟩
  have horder : InOrder [([10, 0, 0, 2], [10, 0, 0, 2]), ([10, 0, 0, 1], [10, 0, 0, 1])] :=
    wellFormed_map_rangeOf.1 h
  simp [InOrder, IsRangeData, PrecedesData, ofBigEndian] at horder

end SingBox.Srs
