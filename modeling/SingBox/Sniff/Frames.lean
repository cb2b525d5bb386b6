import SingBox.Sniff.Quic

namespace SingBox.Sniff.Quic

open Lib.Loops Lib.Wire

inductive Frame where
  | other (type : UInt8)
  | crypto (offset length : ℕ)

/-- The frame with which the bytes begin, and the bytes after it; those after a crypto frame are the
data that it declares and what follows them. -/
def nextFrame : Bytes → Option (Frame × Bytes)
  | [] => none
  | frameType :: s =>
    if frameType = 0x00 ∨ frameType = 0x01 then some (.other frameType, s)
    else if frameType = 0x02 ∨ frameType = 0x03 then
      (readAck frameType s).toOption.map fun x => (.other frameType, x.2)
    else if frameType = 0x06 then
      (readOffsetLength s).toOption.map fun x => (.crypto x.1.1 x.1.2, x.2)
    else if frameType = 0x1c then
      (readConnectionClose s).toOption.map fun x => (.other frameType, x.2)
    else none

inductive FrameList (after : Bytes) : Bytes → List UInt8 → List Fragment → Prop where
  | nil : FrameList after [] [] []
  | other {s s' : Bytes} {frameType : UInt8} {types : List UInt8} {fragments : List Fragment}
      (h : nextFrame s = some (.other frameType, s')) (hs : FrameList after s' types fragments) :
      FrameList after s (frameType :: types) fragments
  | crypto {s s' : Bytes} {offset length : ℕ} {types : List UInt8} {fragments : List Fragment}
      (h : nextFrame s = some (.crypto offset length, s')) (hlen : length ≤ (s' ++ after).length)
      (hs : FrameList after (s'.drop length) types fragments) :
      FrameList after s (0x06 :: types)
        ({ offset, length, payload := (s' ++ after).take length } :: fragments)

inductive FrameOverrun (after : Bytes) : Bytes → Prop where
  | here {s s' : Bytes} {offset length : ℕ} (h : nextFrame s = some (.crypto offset length, s'))
      (hlen : (s' ++ after).length < length) : FrameOverrun after s
  | other {s s' : Bytes} {frameType : UInt8} (h : nextFrame s = some (.other frameType, s'))
      (hs : FrameOverrun after s') : FrameOverrun after s
  | crypto {s s' : Bytes} {offset length : ℕ} (h : nextFrame s = some (.crypto offset length, s'))
      (hlen : length ≤ (s' ++ after).length) (hs : FrameOverrun after (s'.drop length)) :
      FrameOverrun after s

variable {after s s' : Bytes} {frameType : UInt8} {offset length : ℕ}

inductive FrameTurn (after : Bytes) (st : FrameState) : Prop where
  | done (h : st.left = []) (hturn : frameTurn after st = .leave st (.ok ()))
  | bad (h : nextFrame st.left = none) (hne : st.left ≠ []) (st' : FrameState) (err : String)
      (hturn : frameTurn after st = .leave st' (.error (.error err)))
  | other (frameType : UInt8) (s' : Bytes) (h : nextFrame st.left = some (.other frameType, s'))
      (hturn : frameTurn after st =
        .again { st with left := s', frameTypeList := st.frameTypeList ++ [frameType] })
  | overrun (offset length : ℕ) (s' : Bytes) (h : nextFrame st.left = some (.crypto offset length, s'))
      (hlen : (s' ++ after).length < length) (st' : FrameState)
      (hturn : frameTurn after st = .leave st' (.error .panic))
  | crypto (offset length : ℕ) (s' : Bytes) (h : nextFrame st.left = some (.crypto offset length, s'))
      (hlen : length ≤ (s' ++ after).length)
      (hturn : frameTurn after st = .again
        { left := s'.drop length
          frameTypeList := st.frameTypeList ++ [0x06]
          fragments := st.fragments ++ [{ offset, length, payload := (s' ++ after).take length }] })

def FrameState.seen (st : FrameState) (frameType : UInt8) (left : Bytes) : FrameState :=
  { st with left, frameTypeList := st.frameTypeList ++ [frameType] }

variable (after) in
lemma frameTurn_cons {st : FrameState} (h : st.left = frameType :: s) :
    frameTurn after st =
      if frameType = 0x00 ∨ frameType = 0x01 then .again (st.seen frameType s)
      else if frameType = 0x02 ∨ frameType = 0x03 then
        (st.seen frameType s).skip (readAck frameType s)
      else if frameType = 0x06 then (st.seen frameType s).crypto after (readOffsetLength s)
      else if frameType = 0x1c then (st.seen frameType s).skip (readConnectionClose s)
      else .leave (st.seen frameType s) (.error (.error "invalid argument")) := by
  rw [frameTurn, h]
  rfl

lemma frameTurn_cases (after : Bytes) (st : FrameState) : FrameTurn after st := by
  cases hleft : st.left with
  | nil =>
    refine .done hleft ?_
    rw [frameTurn, hleft]
  | cons b s =>
    have hne : st.left ≠ [] := by simp [hleft]
    have hturn := frameTurn_cons after hleft
    have hnext : nextFrame st.left = nextFrame (b :: s) := by rw [hleft]
    rw [nextFrame] at hnext
    split_ifs at hturn hnext with h₀ hack hcrypto hclose
    · exact .other b s hnext hturn
    · cases hread : readAck b s with
      | error err =>
        rw [hread] at hturn hnext
        exact .bad hnext hne _ err hturn
      | ok x =>
        rw [hread] at hturn hnext
        exact .other b x.2 hnext hturn
    · subst hcrypto
      cases hread : readOffsetLength s with
      | error err =>
        rw [hread] at hturn hnext
        exact .bad hnext hne _ err hturn
      | ok x =>
        obtain ⟨⟨offset, length⟩, s'⟩ := x
        rw [hread] at hturn hnext
        by_cases hlen : (s' ++ after).length < length
        · exact .overrun offset length s' hnext hlen _ (hturn.trans (if_pos hlen))
        · exact .crypto offset length s' hnext (not_lt.1 hlen) (hturn.trans (if_neg hlen))
    · cases hread : readConnectionClose s with
      | error err =>
        rw [hread] at hturn hnext
        exact .bad hnext hne _ err hturn
      | ok x =>
        rw [hread] at hturn hnext
        exact .other b x.2 hnext hturn
    · exact .bad hnext hne _ _ hturn

variable {types : List UInt8} {fragments : List Fragment}

lemma frameList_other (h : nextFrame s = some (.other frameType, s')) :
    FrameList after s types fragments ↔
      ∃ types', types = frameType :: types' ∧ FrameList after s' types' fragments := by
  constructor
  · rintro (_ | ⟨h', hs⟩ | ⟨h', hlen, hs⟩)
    · cases h
    · rw [h] at h'
      cases h'
      exact ⟨_, rfl, hs⟩
    · rw [h] at h'
      cases h'
  · rintro ⟨types', rfl, hs⟩
    exact .other h hs

lemma frameList_crypto (h : nextFrame s = some (.crypto offset length, s')) :
    FrameList after s types fragments ↔
      length ≤ (s' ++ after).length ∧ ∃ types' fragments', types = 0x06 :: types' ∧
        fragments = { offset, length, payload := (s' ++ after).take length } :: fragments' ∧
        FrameList after (s'.drop length) types' fragments' := by
  constructor
  · rintro (_ | ⟨h', hs⟩ | ⟨h', hlen, hs⟩)
    · cases h
    · rw [h] at h'
      cases h'
    · rw [h] at h'
      cases h'
      exact ⟨hlen, _, _, rfl, rfl, hs⟩
  · rintro ⟨hlen, types', fragments', rfl, rfl, hs⟩
    exact .crypto h hlen hs

lemma frameOverrun_other (h : nextFrame s = some (.other frameType, s')) :
    FrameOverrun after s ↔ FrameOverrun after s' := by
  constructor
  · rintro (⟨h', -⟩ | ⟨h', hs⟩ | ⟨h', -, -⟩)
    · rw [h] at h'
      cases h'
    · rw [h] at h'
      cases h'
      exact hs
    · rw [h] at h'
      cases h'
  · exact .other h

lemma frameOverrun_crypto (h : nextFrame s = some (.crypto offset length, s')) :
    FrameOverrun after s ↔
      (s' ++ after).length < length ∨
        length ≤ (s' ++ after).length ∧ FrameOverrun after (s'.drop length) := by
  constructor
  · rintro (⟨h', hlen⟩ | ⟨h', -⟩ | ⟨h', hlen, hs⟩)
    · rw [h] at h'
      cases h'
      exact .inl hlen
    · rw [h] at h'
      cases h'
    · rw [h] at h'
      cases h'
      exact .inr ⟨hlen, hs⟩
  · rintro (hlen | ⟨hlen, hs⟩)
    · exact .here h hlen
    · exact .crypto h hlen hs

structure FramesWalked (after : Bytes) (st : FrameState)
    (result : FrameState × Except Stop Unit) : Prop where
  of_list : ∀ types fragments, FrameList after st.left types fragments → result =
    ({ left := [], frameTypeList := st.frameTypeList ++ types, fragments := st.fragments ++ fragments },
      .ok ())
  list_of_ok : result.2 = .ok () → ∃ types fragments, FrameList after st.left types fragments
  panic_iff : result.2 = .error .panic ↔ FrameOverrun after st.left
  ne_spins : result.2 ≠ .error .spins

lemma framesWalked_run (after : Bytes) (st : FrameState) :
    FramesWalked after st ((frameTurn_descends after).run st) := by
  induction hn : st.left.length using Nat.strongRecOn generalizing st with
  | ind n ih =>
    have hstep : ∀ st', frameTurn after st = .again st' →
        FramesWalked after st' ((frameTurn_descends after).run st') := by
      intro st' hturn
      have hlt : st'.left.length < st.left.length := frameTurn_descends after st st' hturn
      exact ih _ (hn ▸ hlt) st' rfl
    cases frameTurn_cases after st with
    | done h hturn =>
      rw [(frameTurn_descends after).run_leave hturn]
      obtain ⟨left, types₀, fragments₀⟩ := st
      subst h
      refine ⟨?_, fun _ => ⟨[], [], .nil⟩, iff_of_false (by simp) ?_, by simp⟩
      · rintro types fragments (_ | ⟨h, -⟩ | ⟨h, -, -⟩)
        · simp
        · cases h
        · cases h
      · rintro (⟨h, -⟩ | ⟨h, -⟩ | ⟨h, -, -⟩) <;> cases h
    | bad h hne st' err hturn =>
      rw [(frameTurn_descends after).run_leave hturn]
      refine ⟨?_, by simp, iff_of_false (by simp) ?_, by simp⟩
      · intro types fragments hlist
        generalize hleft : st.left = left at hlist h hne
        cases hlist with
        | nil => exact absurd rfl hne
        | other h' _ => rw [h] at h'; cases h'
        | crypto h' _ _ => rw [h] at h'; cases h'
      · rintro (⟨h', -⟩ | ⟨h', -⟩ | ⟨h', -, -⟩) <;> rw [h] at h' <;> cases h'
    | other frameType s' h hturn =>
      have hwalk := hstep _ hturn
      rw [(frameTurn_descends after).run_again hturn]
      refine ⟨?_, ?_, hwalk.panic_iff.trans (frameOverrun_other h).symm, hwalk.ne_spins⟩
      · intro types fragments hlist
        obtain ⟨types', rfl, hs⟩ := (frameList_other h).1 hlist
        rw [hwalk.of_list types' fragments hs, List.append_assoc]
        rfl
      · intro hok
        obtain ⟨types, fragments, hs⟩ := hwalk.list_of_ok hok
        exact ⟨_, fragments, .other h hs⟩
    | overrun offset length s' h hlen st' hturn =>
      rw [(frameTurn_descends after).run_leave hturn]
      refine ⟨?_, by simp, iff_of_true rfl (.here h hlen), by simp⟩
      intro types fragments hlist
      exact absurd ((frameList_crypto h).1 hlist).1 (not_le.2 hlen)
    | crypto offset length s' h hlen hturn =>
      have hwalk := hstep _ hturn
      rw [(frameTurn_descends after).run_again hturn]
      refine ⟨?_, ?_, hwalk.panic_iff.trans ?_, hwalk.ne_spins⟩
      · intro types fragments hlist
        obtain ⟨-, types', fragments', rfl, rfl, hs⟩ := (frameList_crypto h).1 hlist
        rw [hwalk.of_list types' fragments' hs, List.append_assoc, List.append_assoc]
        rfl
      · intro hok
        obtain ⟨types, fragments, hs⟩ := hwalk.list_of_ok hok
        exact ⟨_, _, .crypto h hlen hs⟩
      · rw [frameOverrun_crypto h, or_iff_right (not_lt.2 hlen), and_iff_right hlen]

variable {decrypted : Bytes}

lemma readFrames_eq_ok :
    readFrames decrypted after = .ok (types, fragments) ↔ FrameList after decrypted types fragments := by
  have hwalk := framesWalked_run after { left := decrypted }
  unfold readFrames
  dsimp only
  constructor
  · intro h
    obtain ⟨_, hok, heq⟩ := Lib.Errors.map_eq_ok.1 h
    obtain ⟨types', fragments', hlist⟩ := hwalk.list_of_ok hok
    rw [hwalk.of_list types' fragments' hlist] at heq
    cases heq
    exact hlist
  · intro hlist
    rw [hwalk.of_list types fragments hlist]
    rfl

lemma readFrames_eq_panic : readFrames decrypted after = .error .panic ↔ FrameOverrun after decrypted :=
  Lib.Errors.map_eq_error.trans (framesWalked_run after { left := decrypted }).panic_iff

lemma readFrames_ne_spins : readFrames decrypted after ≠ .error .spins := fun h =>
  (framesWalked_run after { left := decrypted }).ne_spins (Lib.Errors.map_eq_error.1 h)

end SingBox.Sniff.Quic
