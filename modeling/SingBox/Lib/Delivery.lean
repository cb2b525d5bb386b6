import SingBox.Lib.Wire

/-! Connections that are read piece by piece: what all their reads together deliver. -/

namespace SingBox.Lib.Delivery

open Wire

-- the numbers are the size of the buffer and the most that the stream below returns at once
variable {σ ε : Type} {read : ℕ × ℕ → σ → Except ε (Bytes × σ)}

def reads (read : ℕ × ℕ → σ → Except ε (Bytes × σ)) : List (ℕ × ℕ) → σ → Bytes × Option ε
  | [], _ => ([], none)
  | x :: schedule, c =>
    match read x c with
    | .error err => ([], some err)
    | .ok (b, c') => (b ++ (reads read schedule c').1, (reads read schedule c').2)

def Ample (schedule : List (ℕ × ℕ)) : Prop := ∀ x ∈ schedule, 0 < x.1 ∧ 0 < x.2

/-- Reads never give anything else than `data`, the end is found only after it, and is found. -/
def Delivers (read : ℕ × ℕ → σ → Except ε (Bytes × σ)) (eof : ε) (c : σ) (data : Bytes) : Prop :=
  ∃ bound, ∀ schedule, (reads read schedule c).1 <+: data ∧
    (∀ err, (reads read schedule c).2 = some err → err = eof ∧ (reads read schedule c).1 = data) ∧
    (Ample schedule → bound < schedule.length → (reads read schedule c).2.isSome)

variable {eof : ε} {c : σ} {data data' : Bytes}

lemma Delivers.unique (h : Delivers read eof c data) (h' : Delivers read eof c data') : data = data' := by
  obtain ⟨bound, h⟩ := h
  obtain ⟨bound', h'⟩ := h'
  obtain ⟨-, hend, hlong⟩ := h (.replicate (bound + bound' + 1) (1, 1))
  obtain ⟨err, herr⟩ := Option.isSome_iff_exists.1 (hlong (by simp [Ample]) (by rw [List.length_replicate]; omega))
  exact (hend err herr).2.symm.trans ((h' _).2.1 err herr).2

/-- In every state that `I` describes a read ends the data or takes something from them. -/
lemma delivers_of_step {I : σ → Bytes → ℕ → Prop}
    (hstep : ∀ x c data k, I c data k → (read x c = .error eof ∧ data = []) ∨
      ∃ b c' data' k', read x c = .ok (b, c') ∧ data = b ++ data' ∧ I c' data' k' ∧
        (0 < x.1 → 0 < x.2 → k' < k))
    {k : ℕ} (h : I c data k) : Delivers read eof c data := by
  refine ⟨k, fun schedule => ?_⟩
  induction schedule generalizing c data k with
  | nil => exact ⟨List.nil_prefix, nofun, fun _ h => absurd h (Nat.not_lt_zero _)⟩
  | cons x schedule ih =>
    obtain ⟨hread, rfl⟩ | ⟨b, c', data', k', hread, rfl, hI, hless⟩ := hstep x c data k h
    · rw [reads, hread]
      exact ⟨List.nil_prefix, fun err herr => ⟨(Option.some.inj herr).symm, rfl⟩, fun _ _ => rfl⟩
    · obtain ⟨hdata, hend, hlong⟩ := ih hI
      rw [reads, hread]
      refine ⟨(List.prefix_append_right_inj b).2 hdata, fun err herr => ?_, fun hx hlen => ?_⟩
      · exact ⟨(hend err herr).1, congrArg (b ++ ·) (hend err herr).2⟩
      · obtain ⟨hpos, hx⟩ := List.forall_mem_cons.1 hx
        rw [List.length_cons] at hlen
        exact hlong hx (by omega)

end SingBox.Lib.Delivery
