import SingBox.FakeIP.Address

namespace SingBox.FakeIP

open Function

open Route (IPAddr)
open Lib.Cyclic

@[ext]
structure FakeIPMetadata where
  range : (f : Family) → Option (Prefix f)
  current : Family → Option IPAddr
  valid : ∀ f, (current f).isSome → ((range f).bind Prefix.start).isSome

namespace FakeIPMetadata

def initial (range : (f : Family) → Option (Prefix f)) : FakeIPMetadata where
  range := range
  current f := (range f).bind Prefix.start
  valid _ h := h

@[simp] lemma initial_current (range : (f : Family) → Option (Prefix f)) (f : Family) :
    (initial range).current f = (range f).bind Prefix.start := rfl

def advance (m : FakeIPMetadata) (f : Family) : FakeIPMetadata where
  range := m.range
  current := update m.current f ((m.current f).bind (nextAddress (m.range f)))
  valid g h := by
    apply m.valid g
    by_cases hg : g = f
    · subst hg
      rw [update_self] at h
      exact Option.isSome_of_isSome_bind h
    · rwa [update_of_ne hg] at h

variable (m : FakeIPMetadata) {f g : Family}

lemma nextAddress_isSome (h : (m.current f).isSome) (current : IPAddr) :
    (nextAddress (m.range f) current).isSome := by
  rw [nextAddress]
  split_ifs with hany
  · cases hn : next current with
    | none => simp [hn] at hany
    | some a => rfl
  · exact m.valid f h

lemma advance_current_self :
    (m.advance f).current f = (m.current f).bind (nextAddress (m.range f)) :=
  update_self ..

lemma advance_current_of_ne (h : g ≠ f) : (m.advance f).current g = m.current g :=
  update_of_ne h ..

lemma advance_isSome : ((m.advance f).current f).isSome = (m.current f).isSome := by
  rw [advance_current_self]
  cases h : m.current f with
  | none => rfl
  | some current => exact m.nextAddress_isSome (h ▸ rfl) current

def Sound : Prop := ∀ f a, m.current f = some a → ∃ p, m.range f = some p ∧ Cursor p a

lemma sound_initial (range : (f : Family) → Option (Prefix f)) : (initial range).Sound := by
  intro f a h
  obtain ⟨p, hp, ha⟩ := Option.bind_eq_some_iff.1 h
  exact ⟨p, hp, cursor_start ha⟩

variable {m}

lemma Sound.advance_self (h : m.Sound) {p : Prefix f} (hp : m.range f = some p) {a : IPAddr}
    (ha : m.current f = some a) :
    ∃ b, (m.advance f).current f = some b ∧ Cursor p b ∧ value b = cyc p.first p.last (value a) := by
  obtain ⟨p', hp', hcursor⟩ := h f a ha
  rw [hp, Option.some.injEq] at hp'
  subst hp'
  rw [advance_current_self, ha, hp]
  exact nextAddress_spec hcursor

lemma Sound.advance (h : m.Sound) (f : Family) : (m.advance f).Sound := by
  intro g a ha
  by_cases hg : g = f
  · subst hg
    have hsome : (m.current g).isSome := by
      rw [← advance_isSome, ha]
      rfl
    obtain ⟨c, hc⟩ := Option.isSome_iff_exists.1 hsome
    obtain ⟨p, hp, -⟩ := h g c hc
    obtain ⟨b, hb, hcursor, -⟩ := h.advance_self hp hc
    rw [hb, Option.some.injEq] at ha
    exact ⟨p, hp, ha ▸ hcursor⟩
  · rw [advance_current_of_ne m hg] at ha
    exact h g a ha

end FakeIPMetadata

structure Tables where
  domain : IPAddr → Option String := fun _ => none
  address : Family → String → Option IPAddr := fun _ _ => none

namespace Tables

def setAddress (t : Tables) (f : Family) (domain : String) (address : Option IPAddr) : Tables :=
  { t with address := update t.address f (update (t.address f) domain address) }

def setDomain (t : Tables) (address : IPAddr) (domain : Option String) : Tables :=
  { t with domain := update t.domain address domain }

def assign (t : Tables) (address : IPAddr) (domain : String) : Tables :=
  let released := match t.domain address with
    | some oldDomain => t.setAddress (family address) oldDomain none
    | none => t
  (released.setDomain address (some domain)).setAddress (family address) domain (some address)

variable (t : Tables) (a b : IPAddr) (f : Family) (d e : String)

@[simp] lemma assign_domain :
    (t.assign a d).domain = update t.domain a (some d) := by
  rw [assign]
  cases t.domain a <;> rfl

lemma assign_address_self : (t.assign a d).address (family a) d = some a := by
  simp [assign, setAddress]

lemma assign_address_of_family (hf : f ≠ family a) : (t.assign a d).address f = t.address f := by
  rw [assign]
  cases t.domain a with
  | none => simp [setAddress, setDomain, hf]
  | some old => simp [setAddress, setDomain, hf]

lemma assign_address_old (he : t.domain a = some e) (hne : e ≠ d) :
    (t.assign a d).address (family a) e = none := by
  simp [assign, he, setAddress, setDomain, hne]

lemma assign_address_other (he : t.domain a ≠ some e) (hne : e ≠ d) :
    (t.assign a d).address (family a) e = t.address (family a) e := by
  rw [assign]
  cases hd : t.domain a with
  | none => simp [setAddress, setDomain, hne]
  | some old =>
    have hold : e ≠ old := fun h => he (h ▸ hd)
    simp [setAddress, setDomain, hne, hold]

variable {t a f d e} in
lemma assign_address_cases (h : (t.assign a d).address f e = some b) :
    f = family a ∧ e = d ∨ t.address f e = some b := by
  by_cases hf : f = family a
  · subst hf
    by_cases hed : e = d
    · exact .inl ⟨rfl, hed⟩
    · by_cases hold : t.domain a = some e
      · rw [t.assign_address_old a d e hold hed] at h
        cases h
      · rw [t.assign_address_other a d e hold hed] at h
        exact .inr h
  · rw [t.assign_address_of_family a f d hf] at h
    exact .inr h

end Tables

structure FakeIPStorage (σ : Type) where
  fakeIPMetadata : σ → Option FakeIPMetadata × σ
  fakeIPSaveMetadata : FakeIPMetadata → σ → Option String × σ
  fakeIPSaveMetadataAsync : FakeIPMetadata → σ → σ
  fakeIPStoreAsync : IPAddr → String → σ → σ
  fakeIPLoad : IPAddr → σ → Option String
  fakeIPLoadDomain : String → Family → σ → Option IPAddr
  fakeIPReset : σ → Option String × σ

structure ExcludeRule where
  start : Option String := none
  close : Option String := none

structure Store (σ : Type) extends FakeIPMetadata where
  storage : σ
  excludeRule : Option ExcludeRule := none

namespace Store

variable {σ : Type} (S : FakeIPStorage σ)

def sameRanges (m : FakeIPMetadata) (range : (f : Family) → Option (Prefix f)) : Prop :=
  m.range .v4 = range .v4 ∧ m.range .v6 = range .v6

instance (m : FakeIPMetadata) (range : (f : Family) → Option (Prefix f)) :
    Decidable (sameRanges m range) := inferInstanceAs (Decidable (_ ∧ _))

def renewed (range : (f : Family) → Option (Prefix f)) (excludeRule : Option ExcludeRule)
    (storage : σ) : Store σ where
  toFakeIPMetadata := FakeIPMetadata.initial range
  storage := (S.fakeIPReset storage).2
  excludeRule := excludeRule

def start (range : (f : Family) → Option (Prefix f)) (excludeRule : Option ExcludeRule) (storage : σ) :
    Option String × Store σ :=
  let loaded := S.fakeIPMetadata storage
  let store : Store σ := match loaded.1 with
    | some metadata =>
      if sameRanges metadata range then
        { toFakeIPMetadata := metadata, storage := loaded.2, excludeRule }
      else renewed S range excludeRule loaded.2
    | none => renewed S range excludeRule loaded.2
  (excludeRule.bind ExcludeRule.start, store)

section Start

variable {S} {range : (f : Family) → Option (Prefix f)} {excludeRule : Option ExcludeRule} {storage : σ}

lemma start_of_same {m : FakeIPMetadata} (hm : (S.fakeIPMetadata storage).1 = some m)
    (hsame : sameRanges m range) :
    (start S range excludeRule storage).2 =
      { toFakeIPMetadata := m, storage := (S.fakeIPMetadata storage).2, excludeRule } := by
  simp only [start, hm, if_pos hsame]

lemma start_of_other (h : ∀ m, (S.fakeIPMetadata storage).1 = some m → ¬ sameRanges m range) :
    (start S range excludeRule storage).2 = renewed S range excludeRule (S.fakeIPMetadata storage).2 := by
  cases hm : (S.fakeIPMetadata storage).1 with
  | none => simp only [start, hm]
  | some m => simp only [start, hm, if_neg (h m hm)]

end Start

def contains (s : Store σ) (address : IPAddr) : Bool :=
  (s.range .v4).any (fun p => p.contains address) || (s.range .v6).any fun p => p.contains address

def close (s : Store σ) : Option String × Store σ :=
  match s.excludeRule.bind ExcludeRule.close with
  | some err => (some err, s)
  | none =>
    let saved := S.fakeIPSaveMetadata s.toFakeIPMetadata s.storage
    (saved.1, { s with storage := saved.2 })

def missingRange : Family → String
  | .v4 => "missing IPv4 fakeip address range"
  | .v6 => "missing IPv6 fakeip address range"

def create (s : Store σ) (domain : String) (f : Family) : Except String IPAddr × Store σ :=
  match S.fakeIPLoadDomain domain f s.storage with
  | some address => (.ok address, s)
  | none =>
    let metadata := s.advance f
    match metadata.current f with
    | none => (.error (missingRange f), s)
    | some address => (.ok address, { s with
        toFakeIPMetadata := metadata
        storage := S.fakeIPSaveMetadataAsync metadata (S.fakeIPStoreAsync address domain s.storage) })

lemma create_of_loaded {s : Store σ} {domain : String} {f : Family} {a : IPAddr}
    (h : S.fakeIPLoadDomain domain f s.storage = some a) : s.create S domain f = (.ok a, s) := by
  rw [create, h]

lemma create_cases (s : Store σ) (domain : String) (f : Family) :
    (∃ a, S.fakeIPLoadDomain domain f s.storage = some a ∧ s.create S domain f = (.ok a, s)) ∨
      S.fakeIPLoadDomain domain f s.storage = none ∧
        (s.current f = none ∧ s.create S domain f = (.error (missingRange f), s) ∨
          ∃ a, (s.advance f).current f = some a ∧ s.create S domain f = (.ok a, { s with
            toFakeIPMetadata := s.advance f
            storage := S.fakeIPSaveMetadataAsync (s.advance f)
              (S.fakeIPStoreAsync a domain s.storage) })) := by
  rw [create]
  cases hload : S.fakeIPLoadDomain domain f s.storage with
  | some a => exact .inl ⟨a, rfl, rfl⟩
  | none =>
    refine .inr ⟨rfl, ?_⟩
    dsimp only
    cases hcur : (s.advance f).current f with
    | none =>
      have hnone : s.current f = none := by
        rw [← Option.not_isSome_iff_eq_none, ← FakeIPMetadata.advance_isSome, hcur]
        exact Bool.false_ne_true
      exact .inl ⟨hnone, rfl⟩
    | some a => exact .inr ⟨a, rfl, rfl⟩

def isNew (s : Store σ) (domain : String) (f : Family) : Bool :=
  (S.fakeIPLoadDomain domain f s.storage).isNone && (s.create S domain f).1.isOk

variable {S} {s s' : Store σ} {f g : Family} {a : IPAddr} {d : String}

lemma create_range : (s.create S d f).2.range = s.range := by
  rcases create_cases S s d f with ⟨a, -, heq⟩ | ⟨-, ⟨-, heq⟩ | ⟨a, -, heq⟩⟩
  · rw [heq]
  · rw [heq]
  · rw [heq]
    rfl

lemma create_sound (h : s.Sound) : (s.create S d f).2.Sound := by
  rcases create_cases S s d f with ⟨a, -, heq⟩ | ⟨-, ⟨-, heq⟩ | ⟨a, -, heq⟩⟩
  · rw [heq]
    exact h
  · rw [heq]
    exact h
  · rw [heq]
    exact h.advance f

lemma create_new (hload : S.fakeIPLoadDomain d f s.storage = none)
    (h : (s.create S d f).1 = .ok a) :
    (s.advance f).current f = some a ∧ (s.create S d f).2.current f = some a := by
  rcases create_cases S s d f with ⟨b, hb, -⟩ | ⟨-, ⟨-, heq⟩ | ⟨b, hb, heq⟩⟩
  · rw [hload] at hb
    cases hb
  · rw [heq] at h
    cases h
  · rw [heq] at h ⊢
    cases h
    exact ⟨hb, hb⟩

lemma current_create (h : s.Sound) {p : Prefix f} (hp : s.range f = some p)
    (ha : s.current f = some a) (d : String) (g : Family) :
    ∃ b, (s.create S d g).2.current f = some b ∧
      value b = (cyc p.first p.last)^[if g = f ∧ s.isNew S d g then 1 else 0] (value a) := by
  rcases create_cases S s d g with ⟨b, hb, heq⟩ | ⟨hb, ⟨hnone, heq⟩ | ⟨b, -, heq⟩⟩
  · have hnew : s.isNew S d g = false := by simp [isNew, hb]
    rw [heq, hnew]
    exact ⟨a, ha, by simp⟩
  · have hnew : s.isNew S d g = false := by simp [isNew, heq, Except.toBool]
    rw [heq, hnew]
    exact ⟨a, ha, by simp⟩
  · have hnew : s.isNew S d g = true := by simp [isNew, hb, heq, Except.toBool]
    rw [heq, hnew]
    by_cases hg : g = f
    · subst hg
      obtain ⟨c, hc, -, hv⟩ := h.advance_self hp ha
      exact ⟨c, hc, by simpa using hv⟩
    · refine ⟨a, (FakeIPMetadata.advance_current_of_ne _ (.symm hg)).trans ha, ?_⟩
      simp [hg]

lemma size_le_of_create (h : s.Sound) {p : Prefix f} (hp : s.range f = some p)
    {c : IPAddr} {k : ℕ} (hc : s.current f = some c)
    (hv : value c = (cyc p.first p.last)^[k] (value a))
    (hload : S.fakeIPLoadDomain d f s.storage = none) (ha : (s.create S d f).1 = .ok a) :
    p.size ≤ k + 1 := by
  obtain ⟨b, hb, hcursor, hvb⟩ := h.advance_self hp hc
  obtain rfl : b = a := Option.some.inj (hb.symm.trans (create_new hload ha).1)
  apply le_of_iterate_cyc_eq hcursor.onCycle (Nat.succ_pos k)
  rw [iterate_succ_apply', ← hv, ← hvb]

variable (S)

def lookup (s : Store σ) (address : IPAddr) : Option String := S.fakeIPLoad address s.storage

def reset (s : Store σ) : Option String × Store σ :=
  let result := S.fakeIPReset s.storage
  (result.1, { s with storage := result.2 })

end Store

def inet4Only (p : Prefix .v4) : (f : Family) → Option (Prefix f)
  | .v4 => some p
  | .v6 => none

def tenNet : Prefix .v4 := ⟨0x0A000000#32, 8, by decide⟩

end SingBox.FakeIP
