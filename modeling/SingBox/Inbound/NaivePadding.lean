import SingBox.Inbound.Naive

namespace SingBox.Naive

open List Function Call

open Lib.Wire (Bytes putBigEndian ofBigEndian)
open Lib.Stream

variable {n k m size : ℕ} {c c' : Conn} {s s' : Pieces} {b : Bytes}

lemma readConn_length (h : readConn n ⟨k, m, size⟩ s = .ok ((b, c'), s')) :
    b.length + (if m = 0 then size else 0) + s'.flatten.length ≤ s.flatten.length := by
  have hboundary {s : Pieces} (h : readConn n ⟨k, 0, 0⟩ s = .ok ((b, c'), s')) :
      b.length + s'.flatten.length ≤ s.flatten.length := by
    by_cases hk : k < kFirstPaddings
    · rw [readConn_frame hk] at h
      obtain ⟨x, hx, h⟩ := Lib.Errors.bind_eq_ok.1 h
      obtain ⟨y, hy, h⟩ := Lib.Errors.map_eq_ok.1 h
      cases h
      rw [(readFull_flatten hx).1, read_flatten hy, length_append, length_append]
      omega
    · rw [readConn_raw (not_lt.1 hk)] at h
      obtain ⟨y, hy, h⟩ := Lib.Errors.map_eq_ok.1 h
      cases h
      rw [read_flatten hy, length_append]
  by_cases hm : 0 < m
  · rw [readConn_remaining hm] at h
    obtain ⟨y, hy, h⟩ := Lib.Errors.map_eq_ok.1 h
    cases h
    rw [read_flatten hy, if_neg hm.ne', length_append]
    omega
  · obtain rfl : m = 0 := by omega
    rw [if_pos rfl]
    by_cases hsize : 0 < size
    · rw [readConn_skip hsize] at h
      obtain ⟨x, hx, h⟩ := Lib.Errors.bind_eq_ok.1 h
      obtain ⟨y, hy, hxy⟩ := Lib.Errors.map_eq_ok.1 hx
      cases hxy
      have hle : _ ≤ y.2.flatten.length := hboundary h
      obtain ⟨hflat, hlen, -⟩ := readFull_flatten hy
      rw [hflat, length_append]
      omega
    · obtain rfl : size = 0 := by omega
      exact hboundary h

lemma reads_length (ns : List ℕ) (c : Conn) (s : Pieces) :
    (reads ns c s).1.length ≤ s.flatten.length := by
  induction ns generalizing c s with
  | nil => exact Nat.zero_le _
  | cons n ns ih =>
    rw [reads]
    cases hread : readConn n c s with
    | error err => exact Nat.zero_le _
    | ok x =>
      obtain ⟨⟨b, c'⟩, s'⟩ := x
      have hle := readConn_length hread
      have hrest := ih c' s'
      rw [length_append]
      omega

variable (k size s) in
lemma reads_skip_length (ns : List ℕ) :
    (reads ns ⟨k, 0, size⟩ s).1 = [] ∨ (reads ns ⟨k, 0, size⟩ s).1.length + size ≤ s.flatten.length := by
  cases ns with
  | nil => exact .inl rfl
  | cons n ns =>
    rw [reads]
    cases hread : readConn n ⟨k, 0, size⟩ s with
    | error err => exact .inl rfl
    | ok x =>
      right
      obtain ⟨⟨b, c'⟩, s'⟩ := x
      have hle := readConn_length hread
      have hrest := reads_length ns c' s'
      rw [if_pos rfl] at hle
      dsimp only
      rw [length_append]
      omega

variable {d wire data : Bytes}

lemma readConn_whole_frame (hk : k < kFirstPaddings) (hd : d.length < 2 ^ 16) (hsize : size < 2 ^ 8) :
    readConn (d.length + 1) ⟨k, 0, 0⟩ ((paddingHdr d.length size ++ d) :: s) =
      .ok ((d, ⟨k + 1, 0, size⟩), s) := by
  obtain ⟨s', hread, hs'⟩ : ∃ s', readFull 3 ((paddingHdr d.length size ++ d) :: s) =
      .ok (paddingHdr d.length size, s') ∧ read d.length s' = .ok (d, s) := by
    refine ⟨_, readFull_cons_append (b := paddingHdr d.length size) (by simp [paddingHdr, putBigEndian])
      d s, ?_⟩
    by_cases hnil : d = []
    · rw [hnil]
      rfl
    · rw [if_neg hnil, read_cons d hnil]
  rw [readConn_header hk hd hsize hread, min_eq_right (Nat.le_succ _), hs', ← Nat.sub_self d.length]
  rfl

lemma Transparent.tail (hk : k < kFirstPaddings) (hd : d.length < 2 ^ 16) (hsize : size < 2 ^ 8)
    (h : Transparent ⟨k, 0, 0⟩ (paddingHdr d.length size ++ (d ++ wire)) (d ++ data)) :
    Transparent ⟨k + 1, 0, size⟩ wire data := by
  intro s hs
  obtain ⟨hreads, N, hN⟩ := h ((paddingHdr d.length size ++ d) :: s) (by
    rw [flatten_cons, hs, append_assoc])
  have hpos {ns : List ℕ} (hns : ∀ n ∈ ns, 0 < n) : ∀ n ∈ (d.length + 1) :: ns, 0 < n :=
    forall_mem_cons.2 ⟨Nat.succ_pos _, hns⟩
  have hfirst (ns : List ℕ) : reads ((d.length + 1) :: ns) ⟨k, 0, 0⟩ ((paddingHdr d.length size ++ d) :: s) =
      (d ++ (reads ns ⟨k + 1, 0, size⟩ s).1, (reads ns ⟨k + 1, 0, size⟩ s).2) := by
    rw [reads_of_ok (readConn_whole_frame hk hd hsize)]
  refine ⟨fun ns hns => ?_, N, fun ns hns hlen => ?_⟩
  · obtain ⟨hpre, hend⟩ := hreads _ (hpos hns)
    rw [hfirst] at hpre hend
    refine ⟨(prefix_append_right_inj d).1 hpre, fun err herr => ?_⟩
    obtain ⟨heof, hdata⟩ := hend err herr
    exact ⟨heof, append_cancel_left hdata⟩
  · have hsome := hN _ (hpos hns) (by rw [length_cons]; omega)
    rwa [hfirst] at hsome

variable {pad pad' : ℕ → Padding} {k : ℕ}

lemma write_congr (h : ∀ i, k ≤ i → pad i = pad' i) (p : Bytes) : write pad k p = write pad' k p := by
  rw [write, write, h k le_rfl]

variable (pad k) in
lemma le_write_snd (p : Bytes) : k ≤ (write pad k p).2 := by
  rw [write]
  split_ifs
  · exact Nat.le_succ k
  · exact le_rfl

lemma writeSplit_congr (h : ∀ i, k ≤ i → pad i = pad' i) (p : Bytes) :
    writeSplit pad k p = writeSplit pad' k p ∧ k ≤ (writeSplit pad k p).2 := by
  induction hlen : p.length using Nat.strong_induction_on generalizing k p with
  | _ len ih =>
    by_cases hp : p = []
    · rw [hp, writeSplit_nil, writeSplit_nil]
      exact ⟨rfl, le_rfl⟩
    · have hpos := length_pos_iff.2 hp
      have hle := le_write_snd pad k (p.take 65535)
      obtain ⟨hsame, hcount⟩ := ih _ (by rw [length_drop]; omega)
        (fun i hi => h i (hle.trans hi)) (p.drop 65535) rfl
      rw [writeSplit_of_ne_nil pad hp, writeSplit_of_ne_nil pad' hp, ← write_congr h, hsame]
      exact ⟨rfl, hle.trans (hsame ▸ hcount)⟩

lemma emit_congr (h : ∀ i, k ≤ i → pad i = pad' i) (call : Call) :
    emit pad k call = emit pad' k call ∧ k ≤ (emit pad k call).2 := by
  cases call with
  | write p => exact writeSplit_congr h p
  | writeBuffer p =>
    rw [emit, emit, writeBuffer, writeBuffer]
    split_ifs
    · exact writeSplit_congr h p
    · rw [h k le_rfl]
      exact ⟨rfl, Nat.le_succ k⟩
    · exact ⟨rfl, le_rfl⟩

lemma emitAll_congr (h : ∀ i, k ≤ i → pad i = pad' i) (calls : List Call) :
    emitAll pad k calls = emitAll pad' k calls := by
  induction calls generalizing k with
  | nil => rfl
  | cons call calls ih =>
    obtain ⟨hsame, hle⟩ := emit_congr h call
    rw [emitAll, emitAll, ← hsame, ih fun i hi => h i (hle.trans hi)]

lemma emitAll_update (padding : Padding) (calls : List Call) :
    emitAll (update pad k padding) (k + 1) calls = emitAll pad (k + 1) calls := by
  refine emitAll_congr (fun i hi => ?_) calls
  have hne : i ≠ k := by omega
  rw [update_of_ne hne]

lemma length_writeSplit (p : Bytes) :
    (writeSplit pad k p).1.length + 3 * (kFirstPaddings - (writeSplit pad k p).2) ≤
      p.length + 3 * (kFirstPaddings - k) := by
  induction hlen : p.length using Nat.strong_induction_on generalizing k p with
  | _ len ih =>
    by_cases hp : p = []
    · rw [hp, writeSplit_nil]
      exact Nat.add_le_add_right (Nat.zero_le _) _
    · have hpos := length_pos_iff.2 hp
      have hrest := ih _ (by rw [length_drop]; omega) (k := (write pad k (p.take 65535)).2)
        (p.drop 65535) rfl
      have hfirst : (write pad k (p.take 65535)).1.length +
          3 * (kFirstPaddings - (write pad k (p.take 65535)).2) ≤
            (p.take 65535).length + 3 * (kFirstPaddings - k) := by
        rw [write]
        split_ifs with hk
        · rw [length_append, show (paddingHdr _ _).length = 3 from rfl]
          omega
        · exact le_rfl
      rw [writeSplit_of_ne_nil pad hp]
      rw [length_append]
      rw [length_take] at hfirst
      rw [length_drop] at hrest
      omega

lemma length_emit (h : ∀ i, (pad i).1 = []) (call : Call) :
    (emit pad k call).1.length + 3 * (kFirstPaddings - (emit pad k call).2) ≤
      call.payload.length + 3 * (kFirstPaddings - k) := by
  cases call with
  | write p => exact length_writeSplit p
  | writeBuffer p =>
    rw [emit, writeBuffer]
    split_ifs with hk
    · exact length_writeSplit p
    · dsimp only
      rw [h k, append_nil, length_append, show (paddingHdr _ _).length = 3 from rfl,
        payload]
      omega
    · exact le_rfl

lemma length_emitAll (h : ∀ i, (pad i).1 = []) (calls : List Call) :
    (emitAll pad k calls).length ≤
      (calls.flatMap payload).length + 3 * (kFirstPaddings - k) := by
  induction calls generalizing k with
  | nil => exact Nat.zero_le _
  | cons call calls ih =>
    have hfirst := length_emit (k := k) h call
    have hrest := ih (k := (emit pad k call).2)
    rw [emitAll, flatMap_cons, length_append, length_append]
    omega

variable {calls : List Call}

def noPadding : Padding := ⟨[], by decide⟩

lemma exists_empty_frame (hempty : calls.flatMap payload = [])
    (h : ¬ ∀ call ∈ calls, call.Silent k) :
    k < kFirstPaddings ∧ ∃ calls', ∀ pad, emitAll pad k calls =
      paddingHdr 0 (pad k).1.length ++ ((pad k).1 ++ emitAll pad (k + 1) calls') := by
  induction calls with
  | nil => exact absurd (by simp) h
  | cons call calls ih =>
    rw [flatMap_cons, append_eq_nil_iff] at hempty
    by_cases hsilent : call.Silent k
    · obtain ⟨hk, calls', hcalls'⟩ := ih hempty.2 fun hall => h (forall_mem_cons.2 ⟨hsilent, hall⟩)
      refine ⟨hk, calls', fun pad => ?_⟩
      rw [emitAll, emit_silent pad hsilent, nil_append, hcalls']
    · cases call with
      | write p => exact absurd hempty.1 hsilent
      | writeBuffer p =>
        obtain rfl : p = [] := hempty.1
        have hk : k < kFirstPaddings := not_le.1 fun hk => hsilent ⟨rfl, hk⟩
        refine ⟨hk, calls, fun pad => ?_⟩
        rw [emitAll, emit, writeBuffer, if_pos hk]
        rfl

lemma reads_late (hk : k < kFirstPaddings) (t : Bytes) :
    (reads [1] ⟨k, 0, 1⟩ [paddingHdr 0 2 ++ ([0, 7] ++ t)]).1 = [7] := by
  have hread : readFull 3 [paddingHdr 2 0 ++ 7 :: t] = .ok (paddingHdr 2 0, [7 :: t]) :=
    readFull_cons_append (b := paddingHdr 2 0) (by decide) (7 :: t) []
  obtain ⟨c', s', hconn⟩ : ∃ c' s', readConn 1 ⟨k, 0, 1⟩ [paddingHdr 0 2 ++ ([0, 7] ++ t)] =
      .ok (([7], c'), s') := by
    refine ⟨⟨k + 1, 1, 0⟩, if t.length + 1 ≤ 1 then [] else [t], ?_⟩
    exact readConn_header hk (by decide) (by decide) hread
  rw [reads_of_ok hconn]
  rfl

lemma silent_of_transparent
    (h : ∀ pad size, size < 2 ^ 8 →
      Transparent ⟨k, 0, size⟩ (emitAll pad k calls) (calls.flatMap payload)) :
    ∀ call ∈ calls, call.Silent k := by
  by_cases hempty : calls.flatMap payload = []
  · by_contra hsilent
    obtain ⟨hk, calls', hcalls'⟩ := exists_empty_frame hempty hsilent
    have hwire := hcalls' fun _ => ⟨[0, 7], by decide⟩
    have hreads := (h (fun _ => ⟨[0, 7], by decide⟩) 1 (by decide) [_] flatten_singleton).1 [1]
      (by simp)
    rw [hwire, hempty] at hreads
    have hnil := prefix_nil.1 hreads.1
    cases (reads_late hk _).symm.trans hnil
  · exfalso
    -- more is lost than the headers of the frames amount to
    have hnone (i : ℕ) : ((fun _ => noPadding : ℕ → Padding) i).1 = [] := rfl
    have hlen := length_emitAll (k := k) hnone calls
    obtain ⟨hreads, N, hN⟩ := h (fun _ => noPadding) 255 (by decide) [_] flatten_singleton
    have hpos : ∀ n ∈ replicate N 1, 0 < n := fun n hn => by
      rw [eq_of_mem_replicate hn]
      exact Nat.one_pos
    obtain ⟨err, herr⟩ := Option.isSome_iff_exists.1 (hN _ hpos (by simp))
    have hall := ((hreads _ hpos).2 err herr).2
    rcases reads_skip_length k 255 [emitAll (fun _ => noPadding) k calls] (replicate N 1) with hnone | hle
    · exact hempty (hall.symm.trans hnone)
    · rw [hall, flatten_singleton] at hle
      have : kFirstPaddings = 8 := rfl
      omega

lemma transparent_after_write {p : Bytes} (hk : k < kFirstPaddings) (hp : p ≠ [])
    (h : ∀ pad, Transparent ⟨k, 0, 0⟩ ((writeSplit pad k p).1 ++ emitAll pad (writeSplit pad k p).2 calls)
      (p ++ calls.flatMap payload)) :
    p.length ≤ 65535 ∧ ∀ call ∈ calls, call.Silent (k + 1) := by
  have hsilent : ∀ call ∈ .write (p.drop 65535) :: calls, call.Silent (k + 1) := by
    refine silent_of_transparent fun pad size hsize => ?_
    let padding : Padding := ⟨replicate size 0, by rw [length_replicate]; exact hsize⟩
    have hwrite : write (update pad k padding) k (p.take 65535) =
        (paddingHdr (p.take 65535).length size ++ p.take 65535, k + 1) := by
      rw [write, if_pos hk, update_self, length_replicate]
    have htrans := h (update pad k padding)
    rw [writeSplit_of_ne_nil _ hp, hwrite] at htrans
    rw [← emitAll_update padding]
    refine .tail hk (d := p.take 65535) ?_ hsize ?_
    · rw [length_take]
      omega
    · rw [flatMap_cons, ← append_assoc _ _ (calls.flatMap _), payload,
        take_append_drop]
      simpa only [append_assoc, emitAll, emit] using htrans
  rw [forall_mem_cons] at hsilent
  exact ⟨drop_eq_nil_iff.1 hsilent.1, hsilent.2⟩

lemma writesLast_of_transparent
    (h : ∀ pad, Transparent ⟨k, 0, 0⟩ (emitAll pad k calls) (calls.flatMap payload)) :
    WritesLast k calls := by
  induction calls generalizing k with
  | nil => trivial
  | cons call calls ih =>
    by_cases hk : kFirstPaddings ≤ k
    · cases call with
      | write p => exact .inl hk
      | writeBuffer p => exact .inl hk
    have hlt : k < kFirstPaddings := not_le.1 hk
    cases call with
    | write p =>
      right
      by_cases hp : p = []
      · refine .inl ⟨hp, ih fun pad => ?_⟩
        have htrans := h pad
        rwa [emitAll, emit_silent pad (show (Call.write p).Silent k from hp),
          hp] at htrans
      · exact .inr ⟨hp, transparent_after_write hlt hp h⟩
    | writeBuffer p =>
      right
      have hlen : p.length ≤ 65535 := by
        by_contra hlong
        have hwrite (pad : ℕ → Padding) : Transparent ⟨k, 0, 0⟩
            ((writeSplit pad k p).1 ++ emitAll pad (writeSplit pad k p).2 calls)
            (p ++ calls.flatMap payload) := by
          have htrans := h pad
          rwa [emitAll, emit, writeBuffer, if_pos hlt, if_pos (not_le.1 hlong)] at htrans
        exact hlong (transparent_after_write hlt (by rintro rfl; simp at hlong) hwrite).1
      refine ⟨hlen, ih fun pad => ?_⟩
      have htrans := h (update pad k noPadding)
      rw [emitAll, emit, writeBuffer, if_pos hlt, if_neg (by omega)] at htrans
      rw [← emitAll_update noPadding]
      refine .tail hlt (d := p) (by omega) (by decide) ?_
      simpa [noPadding, payload] using htrans

theorem padding_transparent_iff (calls : List Call) (pad : ℕ → Padding) (k : ℕ) (p : Bytes) :
    ((∀ pad, Transparent {} (emitAll pad 0 calls) (calls.flatMap payload)) ↔ WritesLast 0 calls) ∧
    ((emit pad k (.write p)).1 = (emit pad k (.writeBuffer p)).1 ↔
      kFirstPaddings ≤ k ∨ 65535 < p.length ∨ p ≠ [] ∧ (pad k).1 = []) := by
  refine ⟨⟨writesLast_of_transparent, fun h pad => (expects_emitAll pad h).transparent⟩, ?_⟩
  by_cases hk : kFirstPaddings ≤ k
  · rw [emit_raw pad hk, emit_raw pad hk]
    exact iff_of_true rfl (.inl hk)
  rw [or_iff_right hk, emit, emit, writeBuffer, if_pos (not_le.1 hk)]
  split_ifs with hlong
  · exact iff_of_true rfl (.inl hlong)
  rw [or_iff_right hlong]
  by_cases hp : p = []
  · rw [hp, writeSplit_nil]
    exact iff_of_false (by simp [paddingHdr, putBigEndian]) (by simp)
  · rw [writeSplit_short pad hp (not_lt.1 hlong), write, if_pos (not_le.1 hk), and_iff_right hp]
    simp

theorem padding_not_sent :
    ¬ Transparent {} (emitAll (fun _ => ⟨[0], by decide⟩) 0 [.write [65], .write [66]]) [65, 66] ∧
    (emit (fun _ => ⟨[0], by decide⟩) 0 (.write [65])).1 ≠
      (emit (fun _ => ⟨[0], by decide⟩) 0 (.writeBuffer [65])).1 ∧
    (emit (fun _ => noPadding) 0 (.write [])).1 ≠ (emit (fun _ => noPadding) 0 (.writeBuffer [])).1 := by
  have hwire : emitAll (fun _ => ⟨[0], by decide⟩) 0 [.write [65], .write [66]] =
      [0, 1, 1, 65, 0, 1, 1, 66] := by
    simp [emitAll, emit, writeSplit_short, write, kFirstPaddings, paddingHdr, putBigEndian]
  refine ⟨fun h => ?_, ?_, ?_⟩
  · rw [hwire] at h
    have hreads := ((h [[0, 1, 1, 65, 0, 1, 1, 66]] rfl).1 [1, 1] (by simp)).2 "EOF" (by decide)
    exact absurd hreads.2 (by decide)
  · rw [emit, writeSplit_short _ (by simp) (by simp)]
    decide
  · rw [emit, writeSplit_nil]
    decide

end SingBox.Naive
