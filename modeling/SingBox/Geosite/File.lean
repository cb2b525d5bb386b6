import SingBox.Lib.Maps
import SingBox.Lib.Varbin

namespace SingBox.Geosite

open Lib.Wire Lib.Varbin Lib.Maps List

def byteCodec : Codec UInt8 := .scalar .byte 0 consumes_readByte

abbrev Text := Slice UInt8

def textCodec : Codec Text := byteCodec.slice

structure Item where
  type : UInt8
  value : Text

def itemCodec : Codec Item :=
  (byteCodec.pair textCodec).iso ⟨fun x => ⟨x.1, x.2⟩, fun x => (x.type, x.value), fun _ => rfl, fun _ => rfl⟩

abbrev Items := Slice Item

/-- The list of a code, in the content of the file. -/
def writeItems : Items → Bytes := itemCodec.slice.write

/-- The codes are distinct, as keys of a map, and what is counted fits into an `int`. -/
structure Domains where
  entries : List (Text × Items)
  distinct : Distinct entries
  fits : entries.length < 2 ^ 63 ∧ (entries.flatMap fun x => writeItems x.2).length < 2 ^ 63

def indexed : ℕ → List (Text × Items) → List (Text × ℕ × ℕ)
  | _, [] => []
  | index, x :: l => (x.1, index, x.2.1.length) :: indexed (index + (writeItems x.2).length) l

def writeEntry (x : Text × ℕ × ℕ) : Bytes :=
  textCodec.write x.1 ++ (writeUvarint x.2.1 ++ writeUvarint x.2.2)

def sortKeys (l : List (Text × Items)) : List (Text × Items) := l.mergeSort fun x y => !decide (y.1.1 < x.1.1)

def Domains.keys (domains : Domains) : List (Text × Items) := sortKeys domains.entries

def write (domains : Domains) : Bytes :=
  0 :: (writeUvarint domains.keys.length ++ ((indexed 0 domains.keys).flatMap writeEntry ++
    domains.keys.flatMap fun x => writeItems x.2))

def readEntry : Lib.Wire.Reader (Text × ℕ × ℕ) := do
  let code ← textCodec.readInto textCodec.zero
  let codeIndex ← readUvarint
  let codeLength ← readUvarint
  return (code, codeIndex, codeLength)

def readMetadata : Lib.Wire.Reader (List (Text × ℕ × ℕ)) := do
  let version ← readByte
  if version ≠ 0 then fail "unknown version"
  else do
    let entryLength ← readUvarint
    readMany readEntry (fun _ err => err) 0 entryLength

structure Reader where
  file : Bytes
  metadataIndex : ℕ
  domainIndex : List (Text × ℕ × ℕ)

/-- The buffered reader has taken up to `ahead` bytes from the file that no read has asked for. -/
def openFile (ahead : ℕ) (file : Bytes) : Except String Reader :=
  (readMetadata file).map fun x =>
    let buffered := min ahead x.2.length
    let count := file.length - x.2.length + buffered
    ⟨file, count - buffered, setAll x.1 []⟩

/-- A length is read only into an empty slice. -/
def readItems (length : ℕ) : Lib.Wire.Reader (List Item) :=
  if length = 0 then do
    let n ← readUvarint
    itemCodec.fillAll (replicate n itemCodec.zero)
  else itemCodec.fillAll (replicate length itemCodec.zero)

def find {κ β : Type} [DecidableEq κ] (m : List (κ × β)) (k : κ) : Option β := m.lookup k

/-- Every call seeks the list anew, so that a call does not depend on those before it. -/
def Reader.read (r : Reader) (code : Text) : Except String (List Item) :=
  match find r.domainIndex code with
  | none => .error ("code " ++ String.ofList (code.1.map fun b => Char.ofNat b.toNat) ++ " not exists!")
  | some (index, length) => (readItems length (r.file.drop (r.metadataIndex + index))).map Prod.fst

def content (l : List (Text × Items)) : Bytes := l.flatMap fun x => writeItems x.2

variable {l : List (Text × Items)} {x : Text × Items}

lemma indexed_codes (l : List (Text × Items)) (i : ℕ) : (indexed i l).map Prod.fst = l.map Prod.fst := by
  induction l generalizing i with
  | nil => rfl
  | cons x l ih => rw [indexed, map_cons, map_cons, ih]

lemma reads_entries (l : List (Text × Items)) (i : ℕ) (hi : i + (content l).length < 2 ^ 64) :
    List.Forall₂ (fun chunk a => ∀ rest, Reads readEntry (chunk ++ rest) a rest)
      ((indexed i l).map writeEntry) (indexed i l) := by
  induction l generalizing i with
  | nil => exact .nil
  | cons x l ih =>
    rw [content, flatMap_cons, length_append, ← content] at hi
    refine .cons (fun rest => ?_) (ih _ (by omega))
    rw [writeEntry, append_assoc, append_assoc]
    exact (textCodec.reads _ _).bind ((readUvarint_writeUvarint (by dsimp only; omega) _).bind
      ((readUvarint_writeUvarint x.2.2 _).bind .pure))

lemma exists_place (hx : x ∈ l) (i : ℕ) : ∃ before after, l = before ++ x :: after ∧
    (x.1, i + (content before).length, x.2.1.length) ∈ indexed i l := by
  induction l generalizing i with
  | nil => cases hx
  | cons y l ih =>
    rcases mem_cons.1 hx with rfl | hx
    · exact ⟨[], l, rfl, mem_cons_self⟩
    · obtain ⟨before, after, rfl, hmem⟩ := ih hx (i + (writeItems y.2).length)
      refine ⟨y :: before, after, rfl, mem_cons_of_mem _ ?_⟩
      rwa [content, flatMap_cons, length_append, ← Nat.add_assoc]

variable (domains : Domains)

lemma keys_perm : domains.keys.Perm domains.entries := mergeSort_perm _ _

lemma readMetadata_write : Reads readMetadata (write domains) (indexed 0 domains.keys) (content domains.keys) := by
  have hperm := keys_perm domains
  have hkeys : (content domains.keys).length < 2 ^ 63 := (hperm.flatMap_right _).length_eq ▸ domains.fits.2
  refine (readByte_cons 0 _).bind ((readUvarint_writeUvarint ?_ _).bind ?_)
  · rw [hperm.length_eq]
    exact domains.fits.1.trans (by decide)
  · have hlen : (indexed 0 domains.keys).length = domains.keys.length := by
      rw [← length_map Prod.fst, indexed_codes, length_map]
    rw [← hlen]
    exact readMany_flatten (reads_entries _ 0 (by omega)) 0 _

def opened : Reader :=
  ⟨write domains, (write domains).length - (content domains.keys).length, setAll (indexed 0 domains.keys) []⟩

lemma indexed_distinct : Distinct (indexed 0 domains.keys) := by
  rw [Distinct, indexed_codes]
  exact domains.distinct.perm (keys_perm domains).symm

lemma opened_read (hx : x ∈ domains.entries) : ∃ before after, domains.keys = before ++ x :: after ∧
    (opened domains).read x.1 = (readItems x.2.1.length (writeItems x.2 ++ content after)).map Prod.fst := by
  have hperm := keys_perm domains
  obtain ⟨before, after, hkeys, hmem⟩ := exists_place (hperm.mem_iff.2 hx) 0
  refine ⟨before, after, hkeys, ?_⟩
  have hlookup : find (opened domains).domainIndex x.1 = some (0 + (content before).length, x.2.1.length) :=
    (distinct_nil.setAll _).lookup_eq_some.2 ((indexed_distinct domains).setAll_nil.mem_iff.2 hmem)
  have hdrop : (opened domains).file.drop ((opened domains).metadataIndex + (0 + (content before).length)) =
      writeItems x.2 ++ content after := by
    have hcontent : content domains.keys = content before ++ (writeItems x.2 ++ content after) := by
      simp [hkeys, content]
    dsimp only [opened]
    rw [write, ← content, ← append_assoc, ← cons_append, length_append, Nat.add_sub_cancel,
      ← drop_drop, drop_left, hcontent, Nat.zero_add, drop_left]
  rw [Reader.read, hlookup]
  dsimp only
  rw [hdrop]

lemma openFile_write (ahead : ℕ) : openFile ahead (write domains) = .ok (opened domains) := by
  rw [openFile, readMetadata_write domains]
  simp [Except.map, opened]

/-- The elements are read from the length of the list on, not from the first of them. -/
def Survives (l : List Item) : Prop := l.flatMap itemCodec.write <+: writeUvarint l.length ++ l.flatMap itemCodec.write

lemma fillAll_byte {l l' : List UInt8} {s rest : Bytes} (h : Reads (byteCodec.fillAll l) s l' rest) :
    s = l' ++ rest ∧ l'.length = l.length := by
  induction l generalizing s l' with
  | nil =>
    cases h
    exact ⟨rfl, rfl⟩
  | cons b l ih =>
    obtain ⟨c, s', hc, h⟩ := h.of_bind
    obtain ⟨l'', s'', hl, h⟩ := h.of_bind
    cases h
    obtain ⟨rfl, hlength⟩ := ih hl
    exact ⟨eq_cons_of_readByte hc, congrArg (· + 1) hlength⟩

lemma write_item (item : Item) :
    itemCodec.write item = item.type :: (writeUvarint item.value.1.length ++ item.value.1) :=
  congrArg (fun s => item.type :: (writeUvarint item.value.1.length ++ s)) (flatMap_singleton' item.value.1)

/-- Only a shortest length can be read from steady bytes, so that the bytes read are those written. -/
lemma eq_write_of_steady {item : Item} {q s rest : Bytes} (hq : Steady q)
    (h : Reads (itemCodec.readInto itemCodec.zero) (q ++ item.type :: s) item rest) :
    q ++ item.type :: s = itemCodec.write item ++ rest := by
  obtain ⟨type, value⟩ := item
  obtain ⟨type', s', htype, h⟩ := (Codec.reads_of_iso h).of_bind
  obtain ⟨value', s'', hvalue, h⟩ := h.of_bind
  cases h
  rw [eq_cons_of_readByte htype]
  have hrotated : ∃ q', Steady q' ∧ s' = q' ++ s := by
    obtain ⟨b, hb, -⟩ := hq.ends
    cases q with
    | nil => cases hb
    | cons c q =>
      obtain ⟨rfl, rfl⟩ := cons.inj (eq_cons_of_readByte htype)
      exact ⟨q ++ [c], hq.perm (perm_append_singleton c q).symm, append_cons q c s⟩
  obtain ⟨q', hq', rfl⟩ := hrotated
  obtain ⟨n, s₁, hn, hvalue⟩ := Reads.of_bind hvalue
  obtain ⟨l, s₂, hl, hbounded⟩ := hvalue.of_bind
  obtain ⟨rfl, hlength⟩ := fillAll_byte hl
  rw [Codec.bounded] at hbounded
  split_ifs at hbounded
  · cases hbounded
    rw [length_replicate] at hlength
    rw [(eq_putUvarint_of_steady hq' hn).1, ← hlength, write_item, cons_append, append_assoc]
    rfl
  · cases hbounded

lemma rotated {q w g s : Bytes} (h : q ++ (w ++ g) = w ++ s) : ∃ q', q.Perm q' ∧ s = q' ++ g := by
  rw [← append_assoc, append_eq_append_iff] at h
  obtain ⟨a, hw, rfl⟩ | ⟨q', hq', rfl⟩ := h
  · have hlength := congrArg length hw
    simp only [length_append] at hlength
    obtain rfl : q = [] := eq_nil_of_length_eq_zero (by omega)
    obtain rfl : a = [] := eq_nil_of_length_eq_zero (by omega)
    exact ⟨[], .refl _, rfl⟩
  · refine ⟨q', (perm_append_left_iff w).1 ?_, rfl⟩
    exact perm_append_comm.trans (.of_eq hq')

lemma fillAll_steady {l : List Item} {q following rest : Bytes} (hq : Steady q)
    (h : Reads (itemCodec.fillAll (replicate l.length itemCodec.zero))
      (q ++ (l.flatMap itemCodec.write ++ following)) l rest) :
    q ++ (l.flatMap itemCodec.write ++ following) = l.flatMap itemCodec.write ++ rest := by
  induction l generalizing q with
  | nil =>
    cases h
    rfl
  | cons item l ih =>
    obtain ⟨item', s, hitem, h⟩ := h.of_bind
    obtain ⟨l', s', hl, h⟩ := h.of_bind
    cases h
    rw [flatMap_cons, append_assoc] at hitem ⊢
    rw [append_assoc]
    have hwrite : q ++ (itemCodec.write item ++ (l.flatMap itemCodec.write ++ following)) =
        itemCodec.write item ++ s := by
      rw [write_item, cons_append] at hitem ⊢
      rw [eq_write_of_steady hq hitem, write_item, cons_append]
    obtain ⟨q', hperm, rfl⟩ := rotated hwrite
    rw [← ih (hq.perm hperm) hl]
    exact hwrite

lemma map_fst_eq_ok {α β : Type} {r : Except String (α × β)} {a : α} :
    r.map Prod.fst = .ok a ↔ ∃ b, r = .ok (a, b) := by
  cases r <;> simp [Except.map, Prod.ext_iff]

lemma readItems_iff (items : Items) (following : Bytes) :
    (readItems items.1.length (writeItems items ++ following)).map Prod.fst = .ok items.1 ↔
      items.1 = [] ∨ Survives items.1 := by
  rw [map_fst_eq_ok, readItems]
  split_ifs with hlen
  · have hnil := eq_nil_of_length_eq_zero hlen
    refine iff_of_true ⟨following, ?_⟩ (.inl hnil)
    have hreads := (readUvarint_writeUvarint items.2 _).bind
      (q := fun n => itemCodec.fillAll (replicate n itemCodec.zero)) (itemCodec.fillAll_zero items.1 following)
    rwa [← append_assoc] at hreads
  · rw [or_iff_right fun h => hlen (length_eq_zero_iff.2 h), writeItems, Codec.slice, append_assoc]
    constructor
    · rintro ⟨rest, h⟩
      have heq := fillAll_steady (steady_writeUvarint (Nat.pos_of_ne_zero hlen) items.2) h
      rw [← append_assoc] at heq
      exact prefix_of_prefix_length_le ⟨rest, heq.symm⟩ (prefix_append _ following) (by simp)
    · rintro ⟨rest, h⟩
      refine ⟨rest ++ following, ?_⟩
      rw [← append_assoc, ← h, append_assoc]
      exact itemCodec.fillAll_zero items.1 _

lemma prefix_cons_self_iff {b : UInt8} {s : Bytes} : s <+: b :: s ↔ ∀ c ∈ s, c = b := by
  induction s with
  | nil => simp
  | cons c s ih =>
    rw [cons_prefix_cons, forall_mem_cons]
    refine and_congr_right fun h => ?_
    rw [h, ih]

/-- A list of fewer items than 128 has its own length for all that is in it. -/
lemma survives_iff_of_lt {l : List Item} (h : l.length < 128) : Survives l ↔
    ∀ item ∈ l, item.type = UInt8.ofNat l.length ∧ item.value.1 = replicate l.length (UInt8.ofNat l.length) := by
  have hlength : writeUvarint l.length = [UInt8.ofNat l.length] := if_pos h
  have hshort : ∀ m : ℕ, (∀ c ∈ writeUvarint m, c = UInt8.ofNat l.length) ↔ m = l.length := by
    intro m
    refine ⟨fun hall => ?_, fun hm c hc => by simpa [hm, hlength] using hc⟩
    by_cases hm : m < 128
    · have hbyte := hall (UInt8.ofNat m) (by rw [show writeUvarint m = [_] from if_pos hm]; exact mem_singleton_self _)
      rw [← UInt8.toNat_inj, UInt8.toNat_ofNat', UInt8.toNat_ofNat'] at hbyte
      omega
    · have hbyte := hall (UInt8.ofNat (m % 128 + 128)) (by
        rw [show writeUvarint m = _ :: putUvarint 8 (m / 128) from if_neg hm]
        exact mem_cons_self)
      rw [← UInt8.toNat_inj, UInt8.toNat_ofNat', UInt8.toNat_ofNat'] at hbyte
      omega
  rw [Survives, hlength, singleton_append, prefix_cons_self_iff]
  simp only [mem_flatMap, forall_exists_index, and_imp, write_item]
  constructor
  · intro hall item hitem
    have hsame := fun c hc => hall c item hitem hc
    rw [forall_mem_cons, forall_mem_append] at hsame
    have hm := (hshort _).1 hsame.2.1
    exact ⟨hsame.1, eq_replicate_iff.2 ⟨hm, hsame.2.2⟩⟩
  · intro hall c item hitem
    obtain ⟨htype, hvalue⟩ := hall item hitem
    revert c
    rw [forall_mem_cons, forall_mem_append, hvalue, length_replicate]
    exact ⟨htype, (hshort _).2 rfl, fun c hc => eq_of_mem_replicate hc⟩

theorem geosite_round_trip_iff : (∀ ahead, openFile ahead (write domains) = .ok (opened domains)) ∧
    (∀ x ∈ domains.entries, (opened domains).read x.1 = .ok x.2.1 ↔ x.2.1 = [] ∨ Survives x.2.1) ∧
    ∀ l : List Item, l.length < 128 → (Survives l ↔
      ∀ item ∈ l, item.type = UInt8.ofNat l.length ∧
        item.value.1 = replicate l.length (UInt8.ofNat l.length)) := by
  refine ⟨openFile_write domains, fun x hx => ?_, fun l => survives_iff_of_lt⟩
  obtain ⟨before, after, -, hread⟩ := opened_read domains hx
  exact hread ▸ readItems_iff x.2 _

theorem opened_codes (ahead : ℕ) : ∃ r, openFile ahead (write domains) = .ok r ∧
    (r.domainIndex.map Prod.fst).Perm (domains.entries.map Prod.fst) := by
  refine ⟨opened domains, openFile_write domains ahead, ?_⟩
  refine ((indexed_distinct domains).setAll_nil.map Prod.fst).trans ?_
  rw [indexed_codes]
  exact (keys_perm domains).map _

def letterA : Text := ⟨[97], by decide⟩

def oneDomain : Domains where
  entries := [(letterA, ⟨[⟨0, letterA⟩], by decide⟩)]
  distinct := nodup_singleton _
  fits := by decide +kernel

theorem geosite_misreads_domain :
    ∃ r, openFile 4096 (write oneDomain) = .ok r ∧ r.read letterA = .ok [⟨1, textCodec.zero⟩] := by
  have hkeys : oneDomain.keys = oneDomain.entries := mergeSort_singleton _
  rw [write, hkeys]
  exact ⟨_, rfl, rfl⟩

end SingBox.Geosite
