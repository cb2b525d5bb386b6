import SingBox.Lib.Delivery

namespace SingBox.Gun

open Lib.Wire Lib.Delivery List

abbrev Payload := { b : Bytes // b.length < 2 ^ 63 }

def frame (b : Bytes) : Bytes :=
  let varLen := (writeUvarint b.length).length
  0 :: putBigEndian 4 (1 + varLen + b.length) ++ [10] ++ writeUvarint b.length ++ b

inductive Call where
  | write (b : Payload)
  | writeBuffer (b : Payload)

def Call.payload : Call → Bytes
  | .write b => b
  | .writeBuffer b => b

def Call.emit : Call → Bytes
  | .write b => frame b
  | .writeBuffer b => frame b

structure Conn where
  reader : Bytes
  readRemaining : ℕ := 0

inductive Stop where
  | error (err : String)
  | panic

def discard (n : ℕ) : Reader Unit := fun s => if s.length < n then .error "EOF" else .ok ((), s.drop n)

def header : Reader ℕ := do
  discard 6
  readUvarint

def Conn.readData (size short : ℕ) (c : Conn) : Except Stop (Bytes × Conn) :=
  let size := min size c.readRemaining
  if 0 < size ∧ c.reader = [] then .error (.error "EOF")
  else
    let n := min (min size short) c.reader.length
    .ok (c.reader.take n, ⟨c.reader.drop n, c.readRemaining - n⟩)

def Conn.read (x : ℕ × ℕ) (c : Conn) : Except Stop (Bytes × Conn) :=
  if 0 < c.readRemaining then c.readData x.1 x.2
  else match header c.reader with
    | .error err => .error (.error err)
    | .ok (dataLen, reader) =>
      -- as an `int` the length is negative, and so is the bound of the slice
      if 2 ^ 63 ≤ dataLen then .error .panic
      else Conn.readData x.1 x.2 ⟨reader, dataLen⟩

def Conn.pending (cur : Bytes) (calls : List Call) : Conn :=
  ⟨cur ++ calls.flatMap Call.emit, cur.length⟩

variable {size short : ℕ} {cur : Bytes} {calls : List Call} {c c' : Conn} {b : Bytes}

lemma readData_pending (size short : ℕ) (cur : Bytes) (calls : List Call) :
    ∃ n, (0 < size → 0 < short → cur ≠ [] → 0 < n) ∧
      (Conn.pending cur calls).readData size short = .ok (cur.take n, Conn.pending (cur.drop n) calls) := by
  refine ⟨min (min size cur.length) short, fun hsize hshort hcur => ?_, ?_⟩
  · have := length_pos_iff.2 hcur
    omega
  · have hn : min (min (min size cur.length) short) (cur ++ calls.flatMap Call.emit).length =
        min (min size cur.length) short := by
      rw [length_append]
      omega
    unfold Conn.readData Conn.pending
    dsimp only
    rw [if_neg, hn, take_append_of_le_length (by omega), drop_append_of_le_length (by omega),
      length_drop]
    rintro ⟨hpos, hnil⟩
    rw [(append_eq_nil_iff.1 hnil).1] at hpos
    simp at hpos

lemma header_emit (call : Call) (rest : Bytes) :
    header (call.emit ++ rest) = .ok (call.payload.length, call.payload ++ rest) ∧
      call.payload.length < 2 ^ 63 := by
  have hframe (b : Payload) : header (frame b ++ rest) = .ok (b.1.length, b.1 ++ rest) := by
    have hsix : frame b = (0 :: putBigEndian 4 (1 + (writeUvarint b.1.length).length + b.1.length) ++ [10]) ++
        (writeUvarint b.1.length ++ b.1) := by
      simp [frame]
    have hdiscard (t : Bytes) (ht : t.length = 6) (u : Bytes) : Reads (discard 6) (t ++ u) () u := by
      rw [Reads, discard, if_neg (by simp [ht]), drop_left' ht]
    rw [hsix, append_assoc]
    refine (hdiscard _ (by simp [length_putBigEndian]) _).bind ?_
    rw [append_assoc]
    exact readUvarint_writeUvarint (b.2.trans (by decide)) _
  cases call with
  | write b => exact ⟨hframe b, b.2⟩
  | writeBuffer b => exact ⟨hframe b, b.2⟩

def Awaits (c : Conn) (data : Bytes) (k : ℕ) : Prop :=
  ∃ cur calls, c = Conn.pending cur calls ∧ data = cur ++ calls.flatMap Call.payload ∧
    k = data.length + calls.length

lemma read_awaits (x : ℕ × ℕ) (c : Conn) (data : Bytes) (k : ℕ) (h : Awaits c data k) :
    (c.read x = .error (.error "EOF") ∧ data = []) ∨
    ∃ b c' data' k', c.read x = .ok (b, c') ∧ data = b ++ data' ∧ Awaits c' data' k' ∧
      (0 < x.1 → 0 < x.2 → k' < k) := by
  obtain ⟨cur, calls, rfl, rfl, rfl⟩ := h
  cases cur with
  | cons y cur =>
    obtain ⟨n, hpos, hread⟩ := readData_pending x.1 x.2 (y :: cur) calls
    refine .inr ⟨_, _, _, _, (if_pos (Nat.succ_pos _)).trans hread, ?_, ⟨_, calls, rfl, rfl, rfl⟩, fun h₁ h₂ => ?_⟩
    · rw [← append_assoc, take_append_drop]
    · have := hpos h₁ h₂ (cons_ne_nil _ _)
      simp only [length_append, length_drop, length_cons]
      omega
  | nil =>
    cases calls with
    | nil => exact .inl ⟨rfl, rfl⟩
    | cons call calls =>
      obtain ⟨hheader, hlen⟩ := header_emit call (calls.flatMap Call.emit)
      obtain ⟨n, -, hread⟩ := readData_pending x.1 x.2 call.payload calls
      refine .inr ⟨_, _, _, _, Eq.trans ?_ hread, ?_, ⟨_, calls, rfl, rfl, rfl⟩, fun _ _ => ?_⟩
      · rw [Conn.read]
        rw [show (Conn.pending [] (call :: calls)).reader = call.emit ++ calls.flatMap Call.emit from
          flatMap_cons, hheader]
        exact if_neg hlen.not_ge
      · simp [← append_assoc]
      · simp
        omega

lemma length_readData (h : c.readData size short = .ok (b, c')) : b.length ≤ size := by
  unfold Conn.readData at h
  dsimp only at h
  split_ifs at h
  cases h
  rw [length_take]
  omega

lemma readData_ne_panic : c.readData size short ≠ .error .panic := by
  unfold Conn.readData
  dsimp only
  split_ifs <;> simp

/-- The next frame is about to be read, and its length does not fit into an `int`. -/
def Conn.Overlong (c : Conn) : Prop :=
  c.readRemaining = 0 ∧ ∃ dataLen reader, header c.reader = .ok (dataLen, reader) ∧ 2 ^ 63 ≤ dataLen

theorem gun_framing (calls : List Call) :
    Delivers Conn.read (.error "EOF") ⟨calls.flatMap Call.emit, 0⟩ (calls.flatMap Call.payload) ∧
    ∀ (c : Conn) (x : ℕ × ℕ), (c.read x = .error .panic ↔ c.Overlong) ∧
      ∀ b c', c.read x = .ok (b, c') → b.length ≤ x.1 := by
  refine ⟨delivers_of_step read_awaits ⟨[], calls, rfl, rfl, rfl⟩, fun c x => ?_⟩
  unfold Conn.read Conn.Overlong
  split_ifs with hremaining
  · exact ⟨iff_of_false readData_ne_panic fun h => hremaining.ne' h.1, fun _ _ => length_readData⟩
  · rw [and_iff_right (Nat.eq_zero_of_not_pos hremaining)]
    cases header c.reader with
    | error err => simp
    | ok x =>
      dsimp only
      split_ifs with hlen
      · exact ⟨iff_of_true rfl ⟨_, _, rfl, hlen⟩, fun _ _ h => by cases h⟩
      · refine ⟨iff_of_false readData_ne_panic ?_, fun _ _ => length_readData⟩
        rintro ⟨_, _, ⟨⟩, h⟩
        exact hlen h

theorem gun_read_panics :
    Conn.read (1, 1) ⟨replicate 6 0 ++ replicate 9 128 ++ [1], 0⟩ = .error .panic :=
  rfl

end SingBox.Gun
