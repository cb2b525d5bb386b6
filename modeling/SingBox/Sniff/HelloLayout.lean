import Mathlib.Tactic.MkIffOfInductiveProp
import SingBox.Sniff.Ja3Bounds

namespace SingBox.Sniff.Ja3

open Lib Lib.Loops Lib.Wire Lib.Slices ClientHello List

structure Extension where
  type : UInt16
  body : Bytes

def nextExtension (s : Bytes) : Option (Extension × Bytes) :=
  if s.length < 4 ∨ s.length < 4 + (uint16At s 2).toNat then none
  else some (⟨uint16At s 0, (s.drop 4).take (uint16At s 2).toNat⟩, s.drop (4 + (uint16At s 2).toNat))

inductive ExtensionList : Bytes → List Extension → Prop where
  | nil : ExtensionList [] []
  | cons {s s' : Bytes} {e : Extension} {l : List Extension} (h : nextExtension s = some (e, s'))
      (hl : ExtensionList s' l) : ExtensionList s (e :: l)

def listSize (n : ℕ) : ℕ := 2 * ((n + 1) / 2)

@[mk_iff]
structure Extension.Sound (e : Extension) : Prop where
  serverName : e.type = 0 →
    5 ≤ e.body.length ∧ (e.body.drop 5).length = (uint16At e.body 3).toNat ∧ e.body.getD 2 0 = 0
  supportedGroups : e.type = 10 →
    2 ≤ e.body.length ∧ (e.body.drop 2).length = (uint16At e.body 0).toNat
  pointFormats : e.type = 11 →
    1 ≤ e.body.length ∧ (e.body.drop 1).length = (e.body.getD 0 0).toNat
  versions : e.type = 43 →
    1 ≤ e.body.length ∧ listSize (e.body.getD 0 0).toNat ≤ (e.body.drop 1).length
  signatureAlgorithms : e.type = 13 →
    2 ≤ e.body.length ∧ listSize (uint16At e.body 0).toNat ≤ (e.body.drop 2).length

def Extension.Overruns (e : Extension) : Prop :=
  (e.type = 43 ∧ 1 ≤ e.body.length ∧ (e.body.drop 1).length < listSize (e.body.getD 0 0).toNat) ∨
    (e.type = 13 ∧ 2 ≤ e.body.length ∧ (e.body.drop 2).length < listSize (uint16At e.body 0).toNat)

inductive Overrun : Bytes → Prop where
  | here {s s' : Bytes} {e : Extension} (h : nextExtension s = some (e, s')) (he : e.Overruns) : Overrun s
  | later {s s' : Bytes} {e : Extension} (h : nextExtension s = some (e, s')) (he : e.Sound)
      (hs : Overrun s') : Overrun s

structure SuitesLayout (cs exs : Bytes) : Prop where
  suites : 2 + (uint16At cs 0).toNat + 1 ≤ cs.length
  methods : 2 + (uint16At cs 0).toNat + 1 + (cs.getD (2 + (uint16At cs 0).toNat) 0).toNat ≤ cs.length
  exs_eq : exs =
    cs.drop (2 + (uint16At cs 0).toNat + 1 + (cs.getD (2 + (uint16At cs 0).toNat) 0).toNat)

structure HandshakeLayout (hs exs : Bytes) : Prop where
  size : 6 + 32 + 1 ≤ hs.length
  type : hs.getD 0 0 = 1
  length : (hs.drop 4).length = ofBigEndian ((hs.drop 1).take 3)
  version : supported (uint16At hs 4) = true
  sessionID : 6 + 32 + 1 + (hs.getD 38 0).toNat ≤ hs.length
  rest : SuitesLayout (hs.drop (6 + 32 + 1 + (hs.getD 38 0).toNat)) exs

structure SegmentLayout (segment exs : Bytes) : Prop where
  size : 5 ≤ segment.length
  type : segment.getD 0 0 = 22
  version : supported (uint16At segment 1) = true
  length : (uint16At segment 3).toNat ≤ (segment.drop 5).length
  rest : HandshakeLayout ((segment.drop 5).take (uint16At segment 3).toNat) exs

def Block (segment : Bytes) (n : ℕ) (block : Bytes) : Prop :=
  ∃ exs, SegmentLayout segment exs ∧ 2 ≤ exs.length ∧ n = (uint16At exs 0).toNat ∧
    block = exs.drop 2 ∧ n ≤ block.length

def HasTypes (segment : Bytes) (types : List UInt16) : Prop :=
  SegmentLayout segment [] ∧ types = [] ∨
    ∃ n block l, Block segment n block ∧ ExtensionList (block.take n) l ∧ types = l.map Extension.type

structure Judged (x : Except Stop ClientHello) (sound overruns : Prop) : Prop where
  ok_iff : (∃ j, x = .ok j) ↔ sound
  panic_iff : x = .error .panic ↔ overruns
  ne_spins : x ≠ .error .spins

variable {sound overruns : Prop}

lemma Judged.ok (j : ClientHello) (h : sound) (h' : ¬ overruns) : Judged (.ok j) sound overruns :=
  ⟨iff_of_true ⟨j, rfl⟩ h, iff_of_false (by simp) h', by simp⟩

lemma Judged.error (err : String) (h : ¬ sound) (h' : ¬ overruns) :
    Judged (.error (.error err)) sound overruns :=
  ⟨iff_of_false (by simp) h, iff_of_false (by simp) h', by simp⟩

lemma Judged.panic (h : ¬ sound) (h' : overruns) : Judged (.error .panic) sound overruns :=
  ⟨iff_of_false (by simp) h, iff_of_true rfl h', by simp⟩

variable (j : ClientHello) (b : Bytes)

lemma judged_parseServerName :
    Judged (j.parseServerName b)
      (5 ≤ b.length ∧ (b.drop 5).length = (uint16At b 3).toNat ∧ b.getD 2 0 = 0) False := by
  unfold ClientHello.parseServerName
  split_ifs with hlen hname htype
  · exact .error _ (fun h => absurd h.1 (not_le.2 hlen)) id
  · exact .error _ (fun h => hname h.2.1) id
  · exact .error _ (fun h => htype h.2.2) id
  · exact .ok _ ⟨not_lt.1 hlen, not_not.1 hname, not_not.1 htype⟩ id

lemma judged_parseSupportedGroups :
    Judged (j.parseSupportedGroups b) (2 ≤ b.length ∧ (b.drop 2).length = (uint16At b 0).toNat) False := by
  unfold ClientHello.parseSupportedGroups
  split_ifs with hlen hgroups
  · exact .error _ (fun h => absurd h.1 (not_le.2 hlen)) id
  · exact .error _ (fun h => hgroups h.2) id
  · exact .ok _ ⟨not_lt.1 hlen, not_not.1 hgroups⟩ id

lemma judged_parsePointFormats :
    Judged (j.parsePointFormats b) (1 ≤ b.length ∧ (b.drop 1).length = (b.getD 0 0).toNat) False := by
  unfold ClientHello.parsePointFormats
  split_ifs with hlen hformats
  · exact .error _ (fun h => absurd h.1 (not_le.2 hlen)) id
  · exact .error _ (fun h => hformats h.2) id
  · exact .ok _ ⟨not_lt.1 hlen, not_not.1 hformats⟩ id

lemma judged_uint16sBelow (n : ℕ) (f : List UInt16 → ClientHello) {size : Prop} (hsize : size) :
    Judged (do let l ← ClientHello.uint16sBelow b n; return f l)
      (size ∧ listSize n ≤ b.length) (size ∧ b.length < listSize n) := by
  unfold ClientHello.uint16sBelow
  split_ifs with hlen
  · exact .panic (fun h => absurd h.2 (not_le.2 hlen)) ⟨hsize, hlen⟩
  · exact .ok _ ⟨hsize, not_lt.1 hlen⟩ (fun h => hlen h.2)

lemma judged_parseVersions :
    Judged (j.parseVersions b) (1 ≤ b.length ∧ listSize (b.getD 0 0).toNat ≤ (b.drop 1).length)
      (1 ≤ b.length ∧ (b.drop 1).length < listSize (b.getD 0 0).toNat) := by
  unfold ClientHello.parseVersions
  split_ifs with hlen
  · exact .error _ (fun h => absurd h.1 (not_le.2 hlen)) (fun h => absurd h.1 (not_le.2 hlen))
  · exact judged_uint16sBelow _ _ _ (not_lt.1 hlen)

lemma judged_parseSignatureAlgorithms :
    Judged (j.parseSignatureAlgorithms b)
      (2 ≤ b.length ∧ listSize (uint16At b 0).toNat ≤ (b.drop 2).length)
      (2 ≤ b.length ∧ (b.drop 2).length < listSize (uint16At b 0).toNat) := by
  unfold ClientHello.parseSignatureAlgorithms
  split_ifs with hlen
  · exact .error _ (fun h => absurd h.1 (not_le.2 hlen)) (fun h => absurd h.1 (not_le.2 hlen))
  · exact judged_uint16sBelow _ _ _ (not_lt.1 hlen)

lemma judged_parseExtension (e : Extension) :
    Judged (j.parseExtension e.type e.body) e.Sound e.Overruns := by
  obtain ⟨t, b⟩ := e
  unfold ClientHello.parseExtension
  rw [Extension.sound_iff, Extension.Overruns]
  dsimp only
  split_ifs with h₀ h₁₀ h₁₁ h₄₃ h₁₃
  · subst h₀
    simpa using judged_parseServerName j b
  · subst h₁₀
    simpa using judged_parseSupportedGroups j b
  · subst h₁₁
    simpa using judged_parsePointFormats j b
  · subst h₄₃
    simpa using judged_parseVersions j b
  · subst h₁₃
    simpa using judged_parseSignatureAlgorithms j b
  · refine .ok j ?_ ?_
    · simp [h₀, h₁₀, h₁₁, h₄₃, h₁₃]
    · simp [h₄₃, h₁₃]

lemma extensions_of_parseExtension {t : UInt16} {j' : ClientHello}
    (h : j.parseExtension t b = .ok j') : j'.extensions = j.extensions := by
  unfold ClientHello.parseExtension ClientHello.parseServerName ClientHello.parseSupportedGroups
    ClientHello.parsePointFormats ClientHello.parseVersions ClientHello.parseSignatureAlgorithms
    ClientHello.uint16sBelow at h
  split_ifs at h <;> cases h <;> rfl

variable {s s' : Bytes} {j : ClientHello} {e : Extension} {l l' : List Extension}

lemma nextExtension_lt (h : nextExtension s = some (e, s')) : s'.length < s.length := by
  unfold nextExtension at h
  split_ifs at h with hlen
  cases h
  rw [length_drop]
  omega

lemma extensionTurn_next (h : nextExtension s = some (e, s')) :
    (∃ j', { j with extensions := j.extensions ++ [e.type] }.parseExtension e.type e.body = .ok j' ∧
        ClientHello.extensionTurn (s, j) = .again (s', j')) ∨
      ∃ stop, { j with extensions := j.extensions ++ [e.type] }.parseExtension e.type e.body =
          .error stop ∧ ClientHello.extensionTurn (s, j) = .leave (s, j) (.error stop) := by
  unfold nextExtension at h
  split_ifs at h with hlen
  cases h
  unfold ClientHello.extensionTurn
  dsimp only
  rw [if_neg (by omega), if_neg (by omega), if_neg (by omega)]
  cases { j with extensions := j.extensions ++ [uint16At s 0] }.parseExtension (uint16At s 0)
      ((s.drop 4).take (uint16At s 2).toNat) with
  | ok j' => exact .inl ⟨j', rfl, rfl⟩
  | error stop => exact .inr ⟨stop, rfl, rfl⟩

lemma extensionTurn_none (h : nextExtension s = none) (hs : s ≠ []) :
    ∃ err, ClientHello.extensionTurn (s, j) = .leave (s, j) (.error (.error err)) := by
  have hpos : s.length ≠ 0 := fun h0 => hs (eq_nil_of_length_eq_zero h0)
  unfold nextExtension at h
  split_ifs at h with hlen
  unfold ClientHello.extensionTurn
  dsimp only
  rw [if_neg hpos]
  by_cases hheader : s.length < 4
  · rw [if_pos hheader]
    exact ⟨_, rfl⟩
  · rw [if_neg hheader, if_pos (hlen.resolve_left hheader)]
    exact ⟨_, rfl⟩

lemma ExtensionList.unique (h : ExtensionList s l) (h' : ExtensionList s l') : l = l' := by
  induction h generalizing l' with
  | nil =>
    cases h' with
    | nil => rfl
    | cons h _ => cases h
  | cons h _ ih =>
    cases h' with
    | nil => cases h
    | cons h' hl' =>
      rw [h] at h'
      cases h'
      rw [ih hl']

lemma ExtensionList.of_cons (h : ExtensionList s (e :: l)) :
    ∃ s', nextExtension s = some (e, s') ∧ ExtensionList s' l := by
  cases h with
  | cons hnext hl => exact ⟨_, hnext, hl⟩

lemma ExtensionList.of_nil (h : ExtensionList s []) : s = [] := by
  cases h
  rfl

lemma extensionList_next (h : nextExtension s = some (e, s')) :
    ExtensionList s l ↔ ∃ l', l = e :: l' ∧ ExtensionList s' l' := by
  constructor
  · rintro (_ | ⟨h', hl⟩)
    · cases h
    · rw [h] at h'
      cases h'
      exact ⟨_, rfl, hl⟩
  · rintro ⟨l', rfl, hl⟩
    exact .cons h hl

lemma overrun_next (h : nextExtension s = some (e, s')) :
    Overrun s ↔ e.Overruns ∨ e.Sound ∧ Overrun s' := by
  constructor
  · rintro (⟨h', he⟩ | ⟨h', he, hs⟩)
    · rw [h] at h'
      cases h'
      exact .inl he
    · rw [h] at h'
      cases h'
      exact .inr ⟨he, hs⟩
  · rintro (he | ⟨he, hs⟩)
    · exact .here h he
    · exact .later h he hs

structure Walked (s : Bytes) (j : ClientHello) (result : (Bytes × ClientHello) × Except Stop Unit) :
    Prop where
  ok_iff : result.2 = .ok () ↔ ∃ l, ExtensionList s l ∧ ∀ e ∈ l, e.Sound
  panic_iff : result.2 = .error .panic ↔ Overrun s
  ne_spins : result.2 ≠ .error .spins
  types : result.2 = .ok () → ∀ l, ExtensionList s l →
    result.1.2.extensions = j.extensions ++ l.map Extension.type

lemma walked_run (s : Bytes) (j : ClientHello) : Walked s j (extensionTurn_descends.run (s, j)) := by
  induction hn : s.length using Nat.strongRecOn generalizing s j with
  | ind n ih =>
    cases hnext : nextExtension s with
    | none =>
      have hno : ¬ Overrun s := by
        rintro (⟨h, -⟩ | ⟨h, -, -⟩) <;> rw [hnext] at h <;> cases h
      by_cases hs : s = []
      · subst hs
        have hturn : ClientHello.extensionTurn ([], j) = .leave ([], j) (.ok ()) := rfl
        rw [extensionTurn_descends.run_leave hturn]
        refine ⟨iff_of_true rfl ⟨[], .nil, by simp⟩, iff_of_false (by simp) hno, by simp, ?_⟩
        intro _ l hl
        cases hl.unique .nil
        simp
      · obtain ⟨err, hturn⟩ := extensionTurn_none (j := j) hnext hs
        rw [extensionTurn_descends.run_leave hturn]
        refine ⟨iff_of_false (by simp) ?_, iff_of_false (by simp) hno, by simp, by simp⟩
        rintro ⟨l, hl, -⟩
        cases hl with
        | nil => exact hs rfl
        | cons h _ => rw [hnext] at h; cases h
    | some x =>
      obtain ⟨e, s'⟩ := x
      have hjudged := judged_parseExtension { j with extensions := j.extensions ++ [e.type] } e
      rcases extensionTurn_next (j := j) hnext with ⟨j', hparse, hturn⟩ | ⟨stop, hparse, hturn⟩
      · have hsound : e.Sound := hjudged.ok_iff.1 ⟨j', hparse⟩
        have hnot : ¬ e.Overruns := fun h => by
          rw [hjudged.panic_iff.2 h] at hparse
          cases hparse
        have hwalk := ih s'.length (hn ▸ nextExtension_lt hnext) s' j' rfl
        rw [extensionTurn_descends.run_again hturn]
        refine ⟨hwalk.ok_iff.trans ?_, hwalk.panic_iff.trans ?_, hwalk.ne_spins, ?_⟩
        · constructor
          · rintro ⟨l, hl, hall⟩
            exact ⟨e :: l, .cons hnext hl, forall_mem_cons.2 ⟨hsound, hall⟩⟩
          · rintro ⟨l, hl, hall⟩
            obtain ⟨l', rfl, hl'⟩ := (extensionList_next hnext).1 hl
            exact ⟨l', hl', (forall_mem_cons.1 hall).2⟩
        · rw [overrun_next hnext, or_iff_right hnot, and_iff_right hsound]
        · intro hok l hl
          obtain ⟨l', rfl, hl'⟩ := (extensionList_next hnext).1 hl
          rw [hwalk.types hok l' hl', extensions_of_parseExtension _ _ hparse]
          simp
      · have hnot : ¬ e.Sound := fun h => by
          obtain ⟨j', hj'⟩ := hjudged.ok_iff.2 h
          rw [hj'] at hparse
          cases hparse
        rw [extensionTurn_descends.run_leave hturn]
        refine ⟨iff_of_false (by simp) ?_, ?_, ?_, by simp⟩
        · rintro ⟨l, hl, hall⟩
          obtain ⟨l', rfl, -⟩ := (extensionList_next hnext).1 hl
          exact hnot (forall_mem_cons.1 hall).1
        · rw [overrun_next hnext, ← hjudged.panic_iff, hparse]
          simp [hnot]
        · have hspins := hjudged.ne_spins
          rw [hparse] at hspins
          simpa using hspins

variable {cs hs segment exs exs' block block' : Bytes} {n n' : ℕ}

lemma parseCipherSuites_cases (j : ClientHello) (cs : Bytes) :
    (∃ (exs : Bytes) (j' : ClientHello), SuitesLayout cs exs ∧ j'.extensions = j.extensions ∧
        j.parseCipherSuites cs = j'.parseExtensions exs) ∨
      (∀ exs, ¬ SuitesLayout cs exs) ∧ ∃ err, j.parseCipherSuites cs = .error (.error err) := by
  unfold ClientHello.parseCipherSuites
  dsimp only
  split_ifs with hheader hsuites hmethods
  · exact .inr ⟨fun exs h => by have := h.suites; omega, _, rfl⟩
  · exact .inr ⟨fun exs h => by have := h.suites; omega, _, rfl⟩
  · exact .inr ⟨fun exs h => by have := h.methods; omega, _, rfl⟩
  · exact .inl ⟨_, { j with cipherSuites := uint16s (cs.drop 2) ((uint16At cs 0).toNat / 2) },
      ⟨not_lt.1 hsuites, not_lt.1 hmethods, rfl⟩, rfl, rfl⟩

lemma parseHandshake_cases (j : ClientHello) (hs : Bytes) :
    (∃ (exs : Bytes) (j' : ClientHello), HandshakeLayout hs exs ∧ j'.extensions = j.extensions ∧
        j.parseHandshake hs = j'.parseExtensions exs) ∨
      (∀ exs, ¬ HandshakeLayout hs exs) ∧ ∃ err, j.parseHandshake hs = .error (.error err) := by
  unfold ClientHello.parseHandshake
  split_ifs with hsize htype hlength hversion hsession
  · exact .inr ⟨fun exs h => by have := h.size; omega, _, rfl⟩
  · exact .inr ⟨fun exs h => htype h.type, _, rfl⟩
  · exact .inr ⟨fun exs h => hlength h.length, _, rfl⟩
  · exact .inr ⟨fun exs h => by simp [h.version] at hversion, _, rfl⟩
  · exact .inr ⟨fun exs h => by have := h.sessionID; omega, _, rfl⟩
  · rcases parseCipherSuites_cases { j with version := uint16At hs 4 }
      (hs.drop (6 + 32 + 1 + (hs.getD 38 0).toNat)) with ⟨exs, j', hrest, hj, h⟩ | ⟨hno, err, h⟩
    · refine .inl ⟨exs, j', ⟨not_lt.1 hsize, not_not.1 htype, not_not.1 hlength, ?_,
        not_lt.1 hsession, hrest⟩, hj, h⟩
      simpa using hversion
    · exact .inr ⟨fun exs h => hno exs h.rest, err, h⟩

lemma parseSegment_cases (segment : Bytes) :
    (∃ (exs : Bytes) (j : ClientHello), SegmentLayout segment exs ∧ j.extensions = [] ∧
        ClientHello.compute segment = j.parseExtensions exs) ∨
      (∀ exs, ¬ SegmentLayout segment exs) ∧ ∃ err, ClientHello.compute segment = .error (.error err) := by
  unfold ClientHello.compute ClientHello.parseSegment
  split_ifs with hsize htype hversion hlength
  · exact .inr ⟨fun exs h => by have := h.size; omega, _, rfl⟩
  · exact .inr ⟨fun exs h => htype h.type, _, rfl⟩
  · exact .inr ⟨fun exs h => by simp [h.version] at hversion, _, rfl⟩
  · exact .inr ⟨fun exs h => by have := h.length; omega, _, rfl⟩
  · rcases parseHandshake_cases {} ((segment.drop 5).take (uint16At segment 3).toNat) with
      ⟨exs, j, hrest, hj, h⟩ | ⟨hno, err, h⟩
    · refine .inl ⟨exs, j, ⟨not_lt.1 hsize, not_not.1 htype, ?_, not_lt.1 hlength, hrest⟩, hj, h⟩
      simpa using hversion
    · exact .inr ⟨fun exs h => hno exs h.rest, err, h⟩

lemma SegmentLayout.unique (h : SegmentLayout segment exs) (h' : SegmentLayout segment exs') :
    exs = exs' := by
  rw [h.rest.rest.exs_eq, h'.rest.rest.exs_eq]

lemma Block.unique (h : Block segment n block) (h' : Block segment n' block') :
    n = n' ∧ block = block' := by
  obtain ⟨exs, hexs, -, rfl, rfl, -⟩ := h
  obtain ⟨exs', hexs', -, rfl, rfl, -⟩ := h'
  cases hexs.unique hexs'
  exact ⟨rfl, rfl⟩

lemma Block.ne_nil (h : Block segment n block) : ¬ SegmentLayout segment [] := by
  obtain ⟨exs, hexs, hlen, -⟩ := h
  intro hnil
  cases hexs.unique hnil
  cases hlen

lemma compute_of_block (h : Block segment n block) :
    ∃ j : ClientHello, j.extensions = [] ∧ ClientHello.compute segment =
      (extensionTurn_descends.run (block, j)).2.map fun _ => (extensionTurn_descends.run (block, j)).1.2 := by
  obtain ⟨exs, hexs, hlen, rfl, rfl, hle⟩ := h
  rcases parseSegment_cases segment with ⟨exs', j, hexs', hj, h⟩ | ⟨hno, -⟩
  · cases hexs.unique hexs'
    refine ⟨j, hj, h.trans ?_⟩
    rw [ClientHello.parseExtensions, if_neg (by omega), if_neg (by omega), if_neg (not_lt.2 hle)]
  · exact absurd hexs (hno exs)

lemma compute_cases (segment : Bytes) :
    (∃ n block, Block segment n block) ∨ (∃ err, ClientHello.compute segment = .error (.error err)) ∨
      SegmentLayout segment [] ∧ ∃ j : ClientHello, j.extensions = [] ∧ ClientHello.compute segment = .ok j := by
  rcases parseSegment_cases segment with ⟨exs, j, hexs, hj, hcompute⟩ | ⟨-, herr⟩
  · rw [ClientHello.parseExtensions] at hcompute
    split_ifs at hcompute with hempty hheader hlen
    · rw [length_eq_zero_iff] at hempty
      subst hempty
      exact .inr (.inr ⟨hexs, j, hj, hcompute⟩)
    · exact .inr (.inl ⟨_, hcompute⟩)
    · exact .inr (.inl ⟨_, hcompute⟩)
    · exact .inl ⟨_, _, exs, hexs, not_lt.1 hheader, rfl, rfl, not_lt.1 hlen⟩
  · exact .inr (.inl herr)

lemma compute_panic_iff :
    ClientHello.compute segment = .error .panic ↔ ∃ n block, Block segment n block ∧ Overrun block := by
  constructor
  · intro h
    rcases compute_cases segment with ⟨n, block, hblock⟩ | ⟨err, hcompute⟩ | ⟨-, j, -, hcompute⟩
    · obtain ⟨j, -, hcompute⟩ := compute_of_block hblock
      exact ⟨n, block, hblock, (walked_run block j).panic_iff.1 (Errors.map_eq_error.1 (hcompute ▸ h))⟩
    all_goals
      rw [h] at hcompute
      cases hcompute
  · rintro ⟨n, block, hblock, hover⟩
    obtain ⟨j, -, hcompute⟩ := compute_of_block hblock
    exact hcompute.trans (Errors.map_eq_error.2 ((walked_run block j).panic_iff.2 hover))

lemma compute_ne_spins (segment : Bytes) : ClientHello.compute segment ≠ .error .spins := by
  rcases compute_cases segment with ⟨n, block, hblock⟩ | ⟨err, hcompute⟩ | ⟨-, j, -, hcompute⟩
  · obtain ⟨j, -, hcompute⟩ := compute_of_block hblock
    rw [hcompute]
    exact fun h => (walked_run block j).ne_spins (Errors.map_eq_error.1 h)
  all_goals
    rw [hcompute]
    rintro ⟨⟩

lemma uint16At_take {i : ℕ} (h : i + 2 ≤ n) : uint16At (s.take n) i = uint16At s i := by
  have h₁ : i < n := by omega
  have h₂ : i + 1 < n := by omega
  simp [uint16At, getD_eq_getElem?_getD, h₁, h₂]

lemma nextExtension_take {t : Bytes} (h : nextExtension (s.take n) = some (e, t)) :
    ∃ k, k ≤ n ∧ nextExtension s = some (e, s.drop k) ∧ t = (s.drop k).take (n - k) := by
  unfold nextExtension at h
  split_ifs at h with hlen
  rw [length_take, not_or, not_lt, not_lt, le_min_iff, le_min_iff] at hlen
  obtain ⟨⟨h₄, h₄'⟩, hlen, hlen'⟩ := hlen
  rw [uint16At_take (by omega)] at hlen hlen' h
  rw [uint16At_take (by omega)] at h
  cases h
  refine ⟨4 + (uint16At s 2).toNat, hlen, ?_, drop_take⟩
  rw [nextExtension, if_neg (by omega), drop_take, take_take, Nat.min_eq_left (by omega)]

lemma length_le_of_types (h : ExtensionList (block.take n) l) (h' : ExtensionList block l')
    (hl : l.length = l'.length) : block.length ≤ n := by
  induction l generalizing block n l' with
  | nil =>
    cases l' with
    | nil =>
      rw [h'.of_nil]
      exact Nat.zero_le n
    | cons e l' => cases hl
  | cons e l ih =>
    obtain ⟨t, hnext, ht⟩ := h.of_cons
    obtain ⟨k, hk, hnext', rfl⟩ := nextExtension_take hnext
    obtain ⟨l'', rfl, hl''⟩ := (extensionList_next hnext').1 h'
    have hle := ih ht hl'' (by simpa using hl)
    rw [length_drop] at hle
    omega

def SafelyParsed (segment : Bytes) : Prop :=
  (∀ stop, compute segment = .error stop → ∃ err, stop = .error err) ∧
    ∀ j, compute segment = .ok j → HasTypes segment j.extensions

theorem client_hello_safe_iff (segment : Bytes) :
    SafelyParsed segment ↔
      ∀ n block, Block segment n block →
        ¬ Overrun block ∧ ∀ l, ExtensionList block l → (∀ e ∈ l, e.Sound) → block.length = n := by
  rw [SafelyParsed, compute_eq]
  constructor
  · rintro ⟨hstop, htypes⟩ n block hblock
    obtain ⟨j, hj, hcompute⟩ := compute_of_block hblock
    have hwalk := walked_run block j
    refine ⟨fun hover => ?_, fun l hl hsound => ?_⟩
    · rw [hwalk.panic_iff.2 hover] at hcompute
      obtain ⟨err, herr⟩ := hstop .panic hcompute
      cases herr
    · have hok := hwalk.ok_iff.2 ⟨l, hl, hsound⟩
      have hrecorded := hwalk.types hok l hl
      rw [hok] at hcompute
      rcases htypes _ hcompute with ⟨hnil, -⟩ | ⟨n', block', l', hblock', hl', heq⟩
      · exact absurd hnil hblock.ne_nil
      · obtain ⟨rfl, rfl⟩ := hblock.unique hblock'
        have hlen : l'.length = l.length := by
          have := congrArg List.length (heq.symm.trans hrecorded)
          simpa [hj] using this
        obtain ⟨exs, -, -, -, -, hle⟩ := hblock
        exact Nat.le_antisymm (length_le_of_types hl' hl hlen) hle
  · intro h
    constructor
    · intro stop hstop
      cases stop with
      | error err => exact ⟨err, rfl⟩
      | panic =>
        obtain ⟨n, block, hblock, hover⟩ := compute_panic_iff.1 hstop
        exact absurd hover (h n block hblock).1
      | spins => exact absurd hstop (compute_ne_spins segment)
    · intro j' hj'
      rcases compute_cases segment with ⟨n, block, hblock⟩ | ⟨err, hcompute⟩ | ⟨hnil, j, hj, hcompute⟩
      · obtain ⟨j, hj, hcompute⟩ := compute_of_block hblock
        have hwalk := walked_run block j
        rw [hcompute] at hj'
        obtain ⟨_, hok, rfl⟩ := Errors.map_eq_ok.1 hj'
        obtain ⟨l, hl, hsound⟩ := hwalk.ok_iff.1 hok
        refine .inr ⟨n, block, l, hblock, ?_, ?_⟩
        · rwa [take_of_length_le (Nat.le_of_eq ((h n block hblock).2 l hl hsound))]
        · rw [hwalk.types hok l hl, hj, nil_append]
      · rw [hcompute] at hj'
        cases hj'
      · rw [hcompute] at hj'
        cases hj'
        exact .inl ⟨hnil, hj⟩

def truncatedVersions : Bytes :=
  [22, 3, 1, 0, 49, 1, 0, 0, 45, 3, 3] ++ replicate 32 0 ++ [0, 0, 0, 0, 0, 5, 0, 43, 0, 1, 2]

theorem truncated_versions_panic :
    compute truncatedVersions = .error .panic ∧ ¬ SafelyParsed truncatedVersions := by
  have hpanic : compute truncatedVersions = .error .panic := rfl
  refine ⟨hpanic, fun h => ?_⟩
  obtain ⟨err, herr⟩ := h.1 .panic hpanic
  cases herr

end SingBox.Sniff.Ja3
