import SingBox.Inbound.Naive
import SingBox.Lib.Delivery

namespace SingBox

open List

open Lib.Wire (Bytes Reader)

namespace Naive

open Lib.Stream

def Conn.readerReplaceable (c : Conn) : Bool := c.readPadding == kFirstPaddings

variable {c : Conn} {wire data data' : Bytes}

lemma Transparent.unique (h : Transparent c wire data) (h' : Transparent c wire data') : data = data' := by
  obtain ⟨hend, N, hlong⟩ := h [wire] (by simp)
  obtain ⟨hend', -⟩ := h' [wire] (by simp)
  have hpos : ∀ n ∈ replicate N 1, 0 < n := by simp
  obtain ⟨err, herr⟩ := Option.isSome_iff_exists.1 (hlong _ hpos (by simp))
  exact ((hend _ hpos).2 err herr).2.symm.trans ((hend' _ hpos).2 err herr).2

lemma Expects.eq_wire_iff (h : Expects c wire data) (hc : c.readPadding = kFirstPaddings) :
    data = wire ↔ c.paddingRemaining = 0 ∨ wire.length ≤ c.readRemaining := by
  induction h with
  | ended => simp
  | data h ih => simpa using ih hc
  | @padding k p wire data h ih =>
    obtain rfl := (ih hc).2 (.inl rfl)
    simpa using fun h _ => h
  | frame hk => exact absurd hc hk.ne
  | raw => simp

def after : List ℕ → Conn → Pieces → Option (Conn × Pieces)
  | [], c, s => some (c, s)
  | n :: ns, c, s =>
    match readConn n c s with
    | .error _ => none
    | .ok ((_, c'), s') => after ns c' s'

variable {c' : Conn} {s s' : Pieces} {b : Bytes}

lemma Expects.readConn_zero (h : Expects c wire data) (hs : s.flatten = wire)
    (hread : readConn 0 c s = .ok ((b, c'), s')) : Expects c' s'.flatten data := by
  induction h generalizing s with
  | @ended k size =>
    cases size with
    | succ size =>
      rw [readConn_skip size.succ_pos, skipN_eq, readFull_of_flatten_eq_nil hs] at hread
      cases hread
    | zero =>
      by_cases hk : k < kFirstPaddings
      · rw [readConn_frame hk, readFull_of_flatten_eq_nil hs] at hread
        cases hread
      · rw [readConn_raw (not_lt.1 hk)] at hread
        cases hread
        rw [hs]
        exact .ended
  | @data k size d wire data h ih =>
    cases d with
    | nil => exact ih hs hread
    | cons x d =>
      cases hread
      rw [hs]
      exact .data h
  | @padding k p wire data h ih =>
    cases p with
    | nil => exact ih hs hread
    | cons x p =>
      obtain ⟨s₁, hskip, hs₁⟩ := takes_skipN (x :: p) s wire hs
      rw [readConn_skip (length_pos_of_mem mem_cons_self), hskip] at hread
      exact ih hs₁ hread
  | @frame k m size wire data hk hm hsize h ih =>
    obtain ⟨s₁, hhdr, hs₁⟩ := takes_readFull (paddingHdr m size) s wire hs
    rw [readConn_header hk hm hsize hhdr] at hread
    cases hread
    exact hs₁ ▸ h
  | @raw k wire hk =>
    rw [readConn_raw hk] at hread
    cases hread
    rw [hs]
    exact .raw hk

lemma Expects.after {ns : List ℕ} (h : Expects c s.flatten data) (hafter : after ns c s = some (c', s')) :
    ∃ data', Expects c' s'.flatten data' := by
  induction ns generalizing c s data with
  | nil =>
    cases hafter
    exact ⟨data, h⟩
  | cons n ns ih =>
    rw [Naive.after] at hafter
    cases hread : readConn n c s with
    | error err =>
      rw [hread] at hafter
      cases hafter
    | ok x =>
      rw [hread] at hafter
      rcases Nat.eq_zero_or_pos n with rfl | hn
      · exact ih (h.readConn_zero rfl hread) hafter
      · rcases readConn_step hn h rfl with ⟨-, heof⟩ | ⟨_, _, _, _, hok, -, hexp, -⟩
        · cases hread.symm.trans heof
        · cases hread.symm.trans hok
          exact ih hexp hafter

end Naive

structure HTTPConn where
  conn : Bytes
  responseRead : Bool := false
  responseCache : Bytes := []

namespace HTTPConn

def readerReplaceable (c : HTTPConn) : Bool := c.responseRead

/-- `Read` once the response is read: no bytes fit into an empty buffer, then the cache is left alone. -/
def readData (x : ℕ × ℕ) (c : HTTPConn) : Except String (Bytes × HTTPConn) :=
  if 0 < x.1 ∧ c.responseCache ≠ [] then
    .ok (c.responseCache.take x.1, { c with responseCache := c.responseCache.drop x.1 })
  else if 0 < x.1 ∧ c.conn = [] then .error "EOF"
  else .ok (c.conn.take (min x.1 x.2), { c with conn := c.conn.drop (min x.1 x.2) })

/-- When the response ends, the buffered reader holds `buffered` bytes of what follows it. -/
def read (readResponse : Reader (ℕ × String)) (buffered : ℕ) (x : ℕ × ℕ) (c : HTTPConn) :
    Except String (Bytes × HTTPConn) :=
  if c.responseRead then c.readData x
  else match readResponse c.conn with
    | .error err => .error ("read response: " ++ err)
    | .ok ((statusCode, status), rest) =>
      if statusCode ≠ 200 then .error ("v2ray-http: unexpected status: " ++ status)
      else readData x ⟨rest.drop buffered, true, rest.take buffered⟩

variable (readResponse : Reader (ℕ × String)) (buffered : ℕ)

open Lib.Delivery

lemma delivers {c : HTTPConn} (hc : c.responseRead = true) :
    Delivers (read readResponse buffered) "EOF" c (c.responseCache ++ c.conn) := by
  refine delivers_of_step (I := fun c data k => c.responseRead = true ∧ data = c.responseCache ++ c.conn ∧
    k = data.length) ?_ ⟨hc, rfl, rfl⟩
  rintro x c _ _ ⟨hc, rfl, rfl⟩
  have hread : c.read readResponse buffered x = c.readData x := if_pos hc
  rw [hread, readData]
  split_ifs with hcache hconn
  · refine .inr ⟨_, _, _, _, rfl, ?_, ⟨hc, rfl, rfl⟩, fun _ _ => ?_⟩
    · rw [← append_assoc, take_append_drop]
    · have := length_pos_iff.2 hcache.2
      simp only [length_append, length_drop]
      omega
  · have hnil : c.responseCache = [] := by_contra fun h => hcache ⟨hconn.1, h⟩
    exact .inl ⟨rfl, by rw [hnil, hconn.2]; rfl⟩
  · rcases Nat.eq_zero_or_pos x.1 with hzero | hpos
    · exact .inr ⟨_, _, _, _, rfl, by simp [hzero], ⟨hc, rfl, rfl⟩, fun h => absurd h (by omega)⟩
    · have hnil : c.responseCache = [] := by_contra fun h => hcache ⟨hpos, h⟩
      have hne : 0 < c.conn.length := length_pos_iff.2 fun h => hconn ⟨hpos, h⟩
      refine .inr ⟨_, _, _, _, rfl, by simp [hnil], ⟨hc, rfl, rfl⟩, fun _ _ => ?_⟩
      simp only [hnil, nil_append, length_drop]
      omega

end HTTPConn

theorem replaceable_iff (readResponse : Reader (ℕ × String)) (buffered : ℕ) :
    (∀ (s s' : Lib.Stream.Pieces) (data : Bytes) (ns : List ℕ) (c : Naive.Conn),
      Naive.Expects {} s.flatten data → Naive.after ns {} s = some (c, s') → c.readerReplaceable = true →
        (Naive.Transparent c s'.flatten s'.flatten ↔
          c.paddingRemaining = 0 ∨ s'.flatten.length ≤ c.readRemaining)) ∧
    ∀ c : HTTPConn, c.readerReplaceable = true →
      (Lib.Delivery.Delivers (HTTPConn.read readResponse buffered) "EOF" c c.conn ↔ c.responseCache = []) := by
  constructor
  · intro s s' data ns c h hafter hc
    obtain ⟨data', h⟩ := h.after hafter
    rw [← h.eq_wire_iff (beq_iff_eq.1 hc)]
    exact ⟨h.transparent.unique, fun heq => heq ▸ h.transparent⟩
  · intro c hc
    have h := HTTPConn.delivers readResponse buffered hc
    refine ⟨fun hd => ?_, fun hnil => ?_⟩
    · simpa using h.unique hd
    · rwa [hnil] at h

set_option maxRecDepth 4000 in
theorem replaceable_too_early :
    (Naive.after (replicate 8 1) {} [(replicate 8 [0, 1, 1, 9, 0]).flatten ++ [5]] =
        some (⟨8, 0, 1⟩, [[0, 5]]) ∧
      ¬ Naive.Transparent ⟨8, 0, 1⟩ [0, 5] [0, 5]) ∧
    HTTPConn.read (fun s => .ok ((200, "200 OK"), s.drop 1)) 2 (1, 1) ⟨[0, 7, 8], false, []⟩ =
        .ok ([7], ⟨[], true, [8]⟩) ∧
      ¬ Lib.Delivery.Delivers (HTTPConn.read (fun s => .ok ((200, "200 OK"), s.drop 1)) 2) "EOF"
        ⟨[], true, [8]⟩ [] := by
  have hraw : Naive.Expects ⟨8, 0, 0⟩ [5] [5] := .raw le_rfl
  refine ⟨⟨rfl, fun h => ?_⟩, rfl, fun h => ?_⟩
  · have heq := h.unique (Naive.Expects.padding (p := [0]) hraw).transparent
    simp at heq
  · have heq := h.unique (HTTPConn.delivers _ _ rfl)
    simp at heq

end SingBox
