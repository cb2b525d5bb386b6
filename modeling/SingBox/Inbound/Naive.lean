import SingBox.Lib.Stream

namespace SingBox.Naive

open List

open Lib.Wire (Bytes putBigEndian ofBigEndian)
open Lib.Stream

def kFirstPaddings : ℕ := 8

abbrev Padding := { b : Bytes // b.length < 256 }

def paddingHdr (size paddingSize : ℕ) : Bytes := putBigEndian 2 size ++ putBigEndian 1 paddingSize

-- the frame with number `i` is padded with `pad i`
variable (pad : ℕ → Padding)

/-- The inner `write`, after `writePadding` frames: room for the padding is taken, but not sent. -/
def write (writePadding : ℕ) (p : Bytes) : Bytes × ℕ :=
  if writePadding < kFirstPaddings then
    (paddingHdr p.length (pad writePadding).1.length ++ p, writePadding + 1)
  else (p, writePadding)

def writeSplit (writePadding : ℕ) (p : Bytes) : Bytes × ℕ :=
  if _h : p = [] then ([], writePadding)
  else
    let first := write pad writePadding (p.take 65535)
    let rest := writeSplit first.2 (p.drop 65535)
    (first.1 ++ rest.1, rest.2)
  termination_by p.length
  decreasing_by
    rw [length_drop]
    have := length_pos_iff.2 _h
    omega

def writeBuffer (writePadding : ℕ) (p : Bytes) : Bytes × ℕ :=
  if writePadding < kFirstPaddings then
    if 65535 < p.length then writeSplit pad writePadding p
    else
      let padding := (pad writePadding).1
      (paddingHdr p.length padding.length ++ (p ++ padding), writePadding + 1)
  else (p, writePadding)

inductive Call where
  | write (p : Bytes)
  | writeBuffer (p : Bytes)

def Call.payload : Call → Bytes
  | .write p => p
  | .writeBuffer p => p

def emit (writePadding : ℕ) : Call → Bytes × ℕ
  | .write p => writeSplit pad writePadding p
  | .writeBuffer p => writeBuffer pad writePadding p

def emitAll : ℕ → List Call → Bytes
  | _, [] => []
  | k, call :: calls => (emit pad k call).1 ++ emitAll (emit pad k call).2 calls

structure Conn where
  readPadding : ℕ := 0
  readRemaining : ℕ := 0
  paddingRemaining : ℕ := 0

def readConn (n : ℕ) (c : Conn) : Reader (Bytes × Conn) :=
  if 0 < c.readRemaining then do
    let b ← read (min n c.readRemaining)
    return (b, { c with readRemaining := c.readRemaining - b.length })
  else do
    if 0 < c.paddingRemaining then skipN c.paddingRemaining
    if c.readPadding < kFirstPaddings then do
      let hdr ← readFull 3
      let originalDataSize := ofBigEndian (hdr.take 2)
      let paddingSize := ofBigEndian (hdr.drop 2)
      let b ← read (min n originalDataSize)
      return (b, ⟨c.readPadding + 1, originalDataSize - b.length, paddingSize⟩)
    else do
      let b ← read n
      return (b, { c with paddingRemaining := 0 })

def reads : List ℕ → Conn → Pieces → Bytes × Option String
  | [], _, _ => ([], none)
  | n :: ns, c, s =>
    match readConn n c s with
    | .error err => ([], some err)
    | .ok ((b, c'), s') => (b ++ (reads ns c' s').1, (reads ns c' s').2)

def Transparent (c : Conn) (wire data : Bytes) : Prop :=
  ∀ s : Pieces, s.flatten = wire →
    (∀ ns : List ℕ, (∀ n ∈ ns, 0 < n) → (reads ns c s).1 <+: data ∧
      ∀ err, (reads ns c s).2 = some err → err = "EOF" ∧ (reads ns c s).1 = data) ∧
    ∃ N, ∀ ns : List ℕ, (∀ n ∈ ns, 0 < n) → N ≤ ns.length → (reads ns c s).2.isSome

variable {n k m size : ℕ} {c c' : Conn} {s s' : Pieces}

lemma reads_of_ok {b : Bytes} (h : readConn n c s = .ok ((b, c'), s')) (ns : List ℕ) :
    reads (n :: ns) c s = (b ++ (reads ns c' s').1, (reads ns c' s').2) := by
  rw [reads, h]

lemma readConn_remaining (hm : 0 < m) :
    readConn n ⟨k, m, size⟩ s =
      (fun x => ((x.1, ⟨k, m - x.1.length, size⟩), x.2)) <$> read (min n m) s := by
  rw [readConn, if_pos hm]
  change (read (min n m) s >>= fun x => pure _) = _
  cases read (min n m) s <;> rfl

lemma readConn_skip (hsize : 0 < size) :
    readConn n ⟨k, 0, size⟩ s = skipN size s >>= fun x => readConn n ⟨k, 0, 0⟩ x.2 := by
  rw [readConn]
  rw [if_pos hsize]
  congr 1

lemma readConn_frame (hk : k < kFirstPaddings) :
    readConn n ⟨k, 0, 0⟩ s = readFull 3 s >>= fun x =>
      (fun y => ((y.1, ⟨k + 1, ofBigEndian (x.1.take 2) - y.1.length, ofBigEndian (x.1.drop 2)⟩), y.2)) <$>
        read (min n (ofBigEndian (x.1.take 2))) x.2 := by
  rw [readConn]
  rw [if_pos hk]
  congr 1

lemma readConn_header (hk : k < kFirstPaddings) (hm : m < 2 ^ 16) (hsize : size < 2 ^ 8)
    (hread : readFull 3 s = .ok (paddingHdr m size, s')) :
    readConn n ⟨k, 0, 0⟩ s =
      (fun y => ((y.1, ⟨k + 1, m - y.1.length, size⟩), y.2)) <$> read (min n m) s' := by
  have hsize' : ofBigEndian ((paddingHdr m size).take 2) = m := by
    rw [paddingHdr, take_left' (Lib.Wire.length_putBigEndian 2 m)]
    exact Lib.Wire.ofBigEndian_putBigEndian (by omega)
  have hpadding : ofBigEndian ((paddingHdr m size).drop 2) = size := by
    exact Lib.Wire.ofBigEndian_putBigEndian (by omega)
  rw [readConn_frame hk, hread]
  change (fun y => ((y.1, Conn.mk _ (ofBigEndian _ - _) (ofBigEndian _)), y.2)) <$>
    read (min n (ofBigEndian _)) s' = _
  rw [hsize', hpadding]

lemma readConn_raw (hk : kFirstPaddings ≤ k) :
    readConn n ⟨k, 0, 0⟩ s = (fun x => ((x.1, ⟨k, 0, 0⟩), x.2)) <$> read n s := by
  rw [readConn]
  rw [if_neg hk.not_gt]
  change (read n s >>= fun x => pure _) = _
  cases read n s <;> rfl

inductive Expects : Conn → Bytes → Bytes → Prop
  | ended {k size : ℕ} : Expects ⟨k, 0, size⟩ [] []
  | data {k size : ℕ} {d wire data : Bytes} (h : Expects ⟨k, 0, size⟩ wire data) :
      Expects ⟨k, d.length, size⟩ (d ++ wire) (d ++ data)
  | padding {k : ℕ} {p wire data : Bytes} (h : Expects ⟨k, 0, 0⟩ wire data) :
      Expects ⟨k, 0, p.length⟩ (p ++ wire) data
  | frame {k m size : ℕ} {wire data : Bytes} (hk : k < kFirstPaddings) (hm : m < 2 ^ 16)
      (hsize : size < 2 ^ 8) (h : Expects ⟨k + 1, m, size⟩ wire data) :
      Expects ⟨k, 0, 0⟩ (paddingHdr m size ++ wire) data
  | raw {k : ℕ} {wire : Bytes} (hk : kFirstPaddings ≤ k) : Expects ⟨k, 0, 0⟩ wire wire

def Steps (n : ℕ) (c : Conn) (s : Pieces) (data : Bytes) : Prop :=
  data = [] ∧ readConn n c s = .error "EOF" ∨
    ∃ b c' s' data', readConn n c s = .ok ((b, c'), s') ∧ data = b ++ data' ∧
      Expects c' s'.flatten data' ∧ left s' < left s

variable {d wire data : Bytes}

lemma steps_raw (hn : 0 < n) (hk : kFirstPaddings ≤ k) : Steps n ⟨k, 0, 0⟩ s s.flatten := by
  rcases read_cases hn s with ⟨rfl, hread⟩ | ⟨b, s', hread, hleft⟩
  · exact .inl ⟨rfl, by rw [readConn_raw hk, hread]; rfl⟩
  · refine .inr ⟨b, ⟨k, 0, 0⟩, s', s'.flatten, ?_, read_flatten hread, .raw hk, hleft⟩
    rw [readConn_raw hk, hread]
    rfl

lemma steps_ended (hn : 0 < n) (hs : s.flatten = []) : Steps n ⟨k, 0, size⟩ s [] := by
  cases size with
  | succ size =>
    refine .inl ⟨rfl, ?_⟩
    rw [readConn_skip size.succ_pos, skipN_eq, readFull_of_flatten_eq_nil hs]
    rfl
  | zero =>
    by_cases hk : k < kFirstPaddings
    · refine .inl ⟨rfl, ?_⟩
      rw [readConn_frame hk, readFull_of_flatten_eq_nil hs]
      rfl
    · have h := steps_raw (s := s) hn (not_lt.1 hk)
      rwa [hs] at h

lemma steps_data (hn : 0 < n) (h : Expects ⟨k, 0, size⟩ wire data) (hs : s.flatten = d ++ wire)
    (hd : d ≠ []) : Steps n ⟨k, d.length, size⟩ s (d ++ data) := by
  have hpos := length_pos_iff.2 hd
  rcases read_cases (n := min n d.length) (by omega) s with ⟨rfl, -⟩ | ⟨b, s', hread, hleft⟩
  · exact absurd (append_eq_nil_iff.1 hs.symm).1 hd
  · have hlen := length_le_of_read hread
    obtain ⟨d', rfl, hs'⟩ : ∃ d', d = b ++ d' ∧ s'.flatten = d' ++ wire := by
      have heq := hs.symm.trans (read_flatten hread)
      obtain ⟨d', hb, hs'⟩ | ⟨d', hd, hs'⟩ := append_eq_append_iff.1 heq
      · obtain rfl : d' = [] := by
          rw [hb, length_append] at hlen
          exact eq_nil_of_length_eq_zero (by omega)
        exact ⟨[], by simpa using hb.symm, hs'.symm⟩
      · exact ⟨d', hd, hs'⟩
    refine .inr ⟨b, ⟨k, d'.length, size⟩, s', d' ++ data, ?_, append_assoc .., ?_, hleft⟩
    · have hrest : (b ++ d').length - b.length = d'.length := by
        rw [length_append, Nat.add_sub_cancel_left]
      rw [readConn_remaining hpos, hread, ← hrest]
      rfl
    · rw [hs']
      exact .data h

lemma steps_of_left_le (hsame : readConn n c s = readConn n c' s') (hleft : left s' ≤ left s)
    (h : Steps n c' s' data) : Steps n c s data := by
  rcases h with ⟨hdata, hend⟩ | ⟨b, c₁, s₁, data', hread, hdata, hexp, hlt⟩
  · exact .inl ⟨hdata, hsame.trans hend⟩
  · exact .inr ⟨b, c₁, s₁, data', hsame.trans hread, hdata, hexp, hlt.trans_le hleft⟩

lemma readConn_step (hn : 0 < n) (h : Expects c wire data) (hs : s.flatten = wire) :
    Steps n c s data := by
  induction h generalizing s with
  | ended => exact steps_ended hn hs
  | @data k size d wire data h ih =>
    by_cases hd : d = []
    · subst hd
      exact ih hs
    · exact steps_data hn h hs hd
  | @padding k p wire data h ih =>
    by_cases hp : 0 < p.length
    · obtain ⟨s', hskip, hs'⟩ := takes_skipN p s wire hs
      have hleft := left_le_of_skipN hskip
      refine steps_of_left_le ?_ (by omega) (ih hs')
      rw [readConn_skip hp, hskip]
      rfl
    · obtain rfl : p = [] := eq_nil_of_length_eq_zero (by omega)
      exact ih hs
  | @frame k m size wire data hk hm hsize h ih =>
    have hlen : (paddingHdr m size).length = 3 := rfl
    obtain ⟨s', hread, hs'⟩ := takes_readFull (paddingHdr m size) s wire hs
    have hleft := left_le_of_readFull hread
    have hframe := readConn_header (n := n) hk hm hsize hread
    cases m with
    | zero =>
      rw [Nat.min_zero] at hframe
      exact .inr ⟨[], ⟨k + 1, 0, size⟩, s', data, hframe, rfl, hs' ▸ h, by omega⟩
    | succ m =>
      refine steps_of_left_le ?_ (by omega) (ih hs')
      rw [hframe, readConn_remaining m.succ_pos]
  | @raw k wire hk =>
    rw [← hs]
    exact steps_raw hn hk

lemma Expects.reads (h : Expects c wire data) (hs : s.flatten = wire) {ns : List ℕ}
    (hns : ∀ n ∈ ns, 0 < n) :
    (reads ns c s).1 <+: data ∧
      (∀ err, (reads ns c s).2 = some err → err = "EOF" ∧ (reads ns c s).1 = data) ∧
      (left s < ns.length → (reads ns c s).2.isSome) := by
  induction ns generalizing c s wire data with
  | nil => exact ⟨List.nil_prefix, by simp [Naive.reads], fun hlt => absurd hlt (Nat.not_lt_zero _)⟩
  | cons n ns ih =>
    rw [forall_mem_cons] at hns
    rcases readConn_step hns.1 h hs with ⟨rfl, hread⟩ | ⟨b, c', s', data', hread, rfl, hexp, hleft⟩
    · rw [Naive.reads, hread]
      exact ⟨List.nil_prefix, fun err herr => ⟨(Option.some.inj herr).symm, rfl⟩, fun _ => rfl⟩
    · obtain ⟨hpre, hend, hlong⟩ := ih hexp rfl hns.2
      rw [reads_of_ok hread]
      refine ⟨(prefix_append_right_inj b).2 hpre, fun err herr => ?_, fun hlt => ?_⟩
      · obtain ⟨heof, hdata⟩ := hend err herr
        exact ⟨heof, congrArg (b ++ ·) hdata⟩
      · exact hlong (by rw [length_cons] at hlt; omega)

lemma Expects.transparent (h : Expects c wire data) : Transparent c wire data := by
  intro s hs
  refine ⟨fun ns hns => ⟨(h.reads hs hns).1, (h.reads hs hns).2.1⟩, left s + 1, fun ns hns hlen => ?_⟩
  exact (h.reads hs hns).2.2 hlen

variable (pad : ℕ → Padding)

lemma writeSplit_nil : writeSplit pad k [] = ([], k) := by
  rw [writeSplit, dif_pos rfl]

variable {p : Bytes}

lemma writeSplit_of_ne_nil (hp : p ≠ []) : writeSplit pad k p =
      ((write pad k (p.take 65535)).1 ++ (writeSplit pad (write pad k (p.take 65535)).2 (p.drop 65535)).1,
        (writeSplit pad (write pad k (p.take 65535)).2 (p.drop 65535)).2) := by
  rw [writeSplit, dif_neg hp]

lemma writeSplit_short (hp : p ≠ []) (hlen : p.length ≤ 65535) :
    writeSplit pad k p = write pad k p := by
  rw [writeSplit_of_ne_nil pad hp, take_of_length_le hlen, drop_of_length_le hlen,
    writeSplit_nil, append_nil]

lemma writeSplit_raw (hk : kFirstPaddings ≤ k) (p : Bytes) : writeSplit pad k p = (p, k) := by
  induction hlen : p.length using Nat.strong_induction_on generalizing p with
  | _ len ih =>
    by_cases hp : p = []
    · rw [hp, writeSplit_nil]
    · have hpos := length_pos_iff.2 hp
      have hwrite : write pad k (p.take 65535) = (p.take 65535, k) := by
        rw [write, if_neg hk.not_gt]
      have hrest := ih _ (by rw [length_drop]; omega) (p.drop 65535) rfl
      rw [writeSplit_of_ne_nil pad hp, hwrite, hrest, take_append_drop]

lemma emit_raw (hk : kFirstPaddings ≤ k) (call : Call) : emit pad k call = (call.payload, k) := by
  cases call with
  | write p => exact writeSplit_raw pad hk p
  | writeBuffer p => rw [emit, writeBuffer, if_neg hk.not_gt, Call.payload]

lemma emitAll_raw (hk : kFirstPaddings ≤ k) (calls : List Call) :
    emitAll pad k calls = calls.flatMap Call.payload := by
  induction calls with
  | nil => rfl
  | cons call calls ih => rw [emitAll, emit_raw pad hk, ih, flatMap_cons]

def Call.Silent (k : ℕ) : Call → Prop
  | .write p => p = []
  | .writeBuffer p => p = [] ∧ kFirstPaddings ≤ k

lemma emit_silent {call : Call} (h : call.Silent k) : emit pad k call = ([], k) := by
  cases call with
  | write p =>
    obtain rfl : p = [] := h
    exact writeSplit_nil pad
  | writeBuffer p =>
    obtain ⟨rfl, hk⟩ := h
    exact emit_raw pad hk _

variable {calls : List Call}

lemma emitAll_silent (h : ∀ call ∈ calls, call.Silent k) :
    emitAll pad k calls = [] ∧ calls.flatMap Call.payload = [] := by
  induction calls with
  | nil => exact ⟨rfl, rfl⟩
  | cons call calls ih =>
    rw [forall_mem_cons] at h
    obtain ⟨hemit, hpayload⟩ := ih h.2
    have hempty : call.payload = [] := by
      cases call with
      | write p => exact h.1
      | writeBuffer p => exact h.1.1
    rw [emitAll, emit_silent pad h.1, hemit, flatMap_cons, hempty, hpayload]
    exact ⟨rfl, rfl⟩

def WritesLast : ℕ → List Call → Prop
  | _, [] => True
  | k, .write p :: calls =>
    kFirstPaddings ≤ k ∨ p = [] ∧ WritesLast k calls ∨
      p ≠ [] ∧ p.length ≤ 65535 ∧ ∀ call ∈ calls, call.Silent (k + 1)
  | k, .writeBuffer p :: calls => kFirstPaddings ≤ k ∨ p.length ≤ 65535 ∧ WritesLast (k + 1) calls

lemma expects_emitAll (h : WritesLast k calls) :
    Expects ⟨k, 0, 0⟩ (emitAll pad k calls) (calls.flatMap Call.payload) := by
  induction calls generalizing k with
  | nil => exact .ended
  | cons call calls ih =>
    by_cases hk : kFirstPaddings ≤ k
    · rw [emitAll_raw pad hk]
      exact .raw hk
    have hlt : k < kFirstPaddings := not_le.1 hk
    rw [emitAll, flatMap_cons]
    cases call with
    | write p =>
      rcases h with h | ⟨rfl, h⟩ | ⟨hp, hlen, h⟩
      · exact absurd h hk
      · rw [emit_silent pad (show (Call.write []).Silent k from rfl)]
        exact ih h
      · -- nothing comes after this frame that the reader could take for its padding
        rw [emit, writeSplit_short pad hp hlen, write, if_pos hlt]
        obtain ⟨hemit, hpayload⟩ := emitAll_silent pad h
        rw [hemit, hpayload]
        exact .frame hlt (by omega) (pad k).2 (.data .ended)
    | writeBuffer p =>
      rcases h with h | ⟨hlen, h⟩
      · exact absurd h hk
      · rw [emit, writeBuffer, if_pos hlt, if_neg (by omega), append_assoc, append_assoc]
        exact .frame hlt (by omega) (pad k).2 (.data (.padding (ih h)))

end SingBox.Naive
