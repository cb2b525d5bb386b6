import SingBox.FakeIP.Store

namespace SingBox.FakeIP

open Function Store

open Route (IPAddr)
open Lib.Cyclic

def memoryStorage : FakeIPStorage Tables where
  fakeIPMetadata t := (none, t)
  fakeIPSaveMetadata _ t := (none, t)
  fakeIPSaveMetadataAsync _ t := t
  fakeIPStoreAsync address domain t := t.assign address domain
  fakeIPLoad address t := t.domain address
  fakeIPLoadDomain domain f t := t.address f domain
  fakeIPReset _ := (none, {})

structure Tables.Inverse (t : Tables) : Prop where
  address : ∀ a d, t.domain a = some d → t.address (family a) d = some a
  domain : ∀ f d a, t.address f d = some a → family a = f ∧ t.domain a = some d

lemma Tables.inverse_empty : ({} : Tables).Inverse :=
  ⟨fun _ _ h => (nomatch h), fun _ _ _ h => (nomatch h)⟩

lemma Tables.Inverse.assign {t : Tables} (h : t.Inverse) {a : IPAddr} {d : String}
    (hfree : t.address (family a) d = none) : (t.assign a d).Inverse := by
  constructor
  · intro b e hb
    rw [assign_domain] at hb
    by_cases hba : b = a
    · subst hba
      rw [update_self, Option.some.injEq] at hb
      rw [← hb]
      exact t.assign_address_self b d
    · rw [update_of_ne hba] at hb
      have haddr := h.address b e hb
      by_cases hf : family b = family a
      · rw [hf] at haddr ⊢
        have hed : e ≠ d := by
          rintro rfl
          rw [hfree] at haddr
          cases haddr
        have hold : t.domain a ≠ some e := by
          intro ha
          rw [h.address a e ha, Option.some.injEq] at haddr
          exact hba haddr.symm
        rw [t.assign_address_other a d e hold hed]
        exact haddr
      · rw [t.assign_address_of_family a (family b) d hf]
        exact haddr
  · intro f e b hb
    rw [assign_domain]
    by_cases hf : f = family a
    · subst hf
      by_cases hed : e = d
      · subst hed
        rw [assign_address_self, Option.some.injEq] at hb
        subst hb
        exact ⟨rfl, update_self ..⟩
      · have hold : t.domain a ≠ some e := by
          intro ha
          rw [t.assign_address_old a d e ha hed] at hb
          cases hb
        rw [t.assign_address_other a d e hold hed] at hb
        obtain ⟨hfam, hdom⟩ := h.domain _ e b hb
        have hba : b ≠ a := fun heq => hold (heq ▸ hdom)
        exact ⟨hfam, (update_of_ne hba ..).trans hdom⟩
    · rw [t.assign_address_of_family a f d hf] at hb
      obtain ⟨hfam, hdom⟩ := h.domain _ e b hb
      have hba : b ≠ a := fun heq => hf (heq ▸ hfam.symm)
      exact ⟨hfam, (update_of_ne hba ..).trans hdom⟩

inductive Call where
  | create (domain : String) (f : Family)
  | lookup (address : IPAddr)

def call (s : Store Tables) : Call → Store Tables
  | .create domain f => (s.create memoryStorage domain f).2
  | .lookup _ => s

def calls (s : Store Tables) (cs : List Call) : Store Tables := cs.foldl call s

def memoryStore (range : (f : Family) → Option (Prefix f)) : Store Tables :=
  (start memoryStorage range none {}).2

def NotTaken (a : IPAddr) (d : String) : Store Tables → List Call → Prop
  | _, [] => True
  | s, c :: cs => (∀ e f, c = .create e f → (s.create memoryStorage e f).1 = .ok a → e = d) ∧
      NotTaken a d (call s c) cs

def news (f : Family) : Store Tables → List Call → ℕ
  | _, [] => 0
  | s, .create d g :: cs => (if g = f ∧ s.isNew memoryStorage d g then 1 else 0) +
      news f (call s (.create d g)) cs
  | s, .lookup a :: cs => news f (call s (.lookup a)) cs

structure Promises (range : (f : Family) → Option (Prefix f)) (s : Store Tables) : Prop where
  inverse : s.storage.Inverse
  unchanged : ∀ f d a, s.storage.address f d = some a → s.create memoryStorage d f = (.ok a, s)
  lookup : ∀ f d a s' later, s.create memoryStorage d f = (.ok a, s') → NotTaken a d s' later →
    (calls s' later).lookup memoryStorage a = some d
  recycled : ∀ f p d a s' later e, range f = some p → s.storage.address f d = none →
    s.create memoryStorage d f = (.ok a, s') → (calls s' later).storage.address f e = none →
    ((calls s' later).create memoryStorage e f).1 = .ok a → p.size ≤ news f s' later + 1

structure Reached (range : (f : Family) → Option (Prefix f)) (s : Store Tables) : Prop where
  inverse : s.storage.Inverse
  sound : s.Sound
  range : s.range = range

variable {range : (f : Family) → Option (Prefix f)} {s s' : Store Tables} {f : Family} {a : IPAddr}

lemma reached_memoryStore (range : (f : Family) → Option (Prefix f)) : Reached range (memoryStore range) :=
  ⟨Tables.inverse_empty, FakeIPMetadata.sound_initial range, rfl⟩

lemma Reached.create (h : Reached range s) (d : String) (f : Family) :
    Reached range (s.create memoryStorage d f).2 := by
  refine ⟨?_, create_sound h.sound, create_range.trans h.range⟩
  rcases create_cases memoryStorage s d f with ⟨a, -, heq⟩ | ⟨hnone, ⟨-, heq⟩ | ⟨a, ha, heq⟩⟩
  · rw [heq]
    exact h.inverse
  · rw [heq]
    exact h.inverse
  · rw [heq]
    obtain ⟨p, -, hcursor⟩ := h.sound.advance f f a ha
    exact h.inverse.assign (hcursor.family.symm ▸ hnone)

lemma Reached.call (h : Reached range s) (c : Call) : Reached range (FakeIP.call s c) := by
  cases c with
  | create d f => exact h.create d f
  | lookup a => exact h

lemma Reached.calls (h : Reached range s) (cs : List Call) : Reached range (FakeIP.calls s cs) := by
  induction cs generalizing s with
  | nil => exact h
  | cons c cs ih => exact ih (h.call c)

lemma Reached.domain_calls (h : Reached range s) {d : String} (hd : s.storage.domain a = some d)
    {cs : List Call} (hcs : NotTaken a d s cs) : (FakeIP.calls s cs).storage.domain a = some d := by
  induction cs generalizing s with
  | nil => exact hd
  | cons c cs ih =>
    refine ih (h.call c) ?_ hcs.2
    cases c with
    | lookup b => exact hd
    | create e f =>
      rcases create_cases memoryStorage s e f with ⟨b, -, heq⟩ | ⟨-, ⟨-, heq⟩ | ⟨b, -, heq⟩⟩
      · rw [FakeIP.call, heq]
        exact hd
      · rw [FakeIP.call, heq]
        exact hd
      · have hsame : b = a → e = d := by
          rintro rfl
          exact hcs.1 e f rfl (congrArg Prod.fst heq)
        rw [FakeIP.call, heq]
        change (s.storage.assign b e).domain a = some d
        rw [Tables.assign_domain]
        by_cases hb : a = b
        · rw [hb, update_self, hsame hb.symm]
        · rw [update_of_ne hb]
          exact hd

lemma Reached.current_calls (h : Reached range s) {p : Prefix f} (hp : range f = some p)
    (ha : s.current f = some a) (cs : List Call) :
    ∃ b, (FakeIP.calls s cs).current f = some b ∧
      value b = (cyc p.first p.last)^[news f s cs] (value a) := by
  induction cs generalizing s a with
  | nil => exact ⟨a, ha, rfl⟩
  | cons c cs ih =>
    cases c with
    | lookup b => exact ih h ha
    | create d g =>
      obtain ⟨b, hb, hv⟩ := current_create h.sound (h.range ▸ hp) ha d g
      obtain ⟨c, hc, hv'⟩ := ih (h.create d g) hb
      refine ⟨c, hc, ?_⟩
      rw [hv', hv, ← iterate_add_apply, Nat.add_comm]
      rfl

theorem memory_store_promises (range : (f : Family) → Option (Prefix f)) (cs : List Call) :
    Promises range (calls (memoryStore range) cs) := by
  have hreached := (reached_memoryStore range).calls cs
  generalize calls (memoryStore range) cs = s at hreached
  have hcreated : ∀ f d a s', s.create memoryStorage d f = (.ok a, s') →
      s'.storage.domain a = some d := by
    intro f d a s' h
    rcases create_cases memoryStorage s d f with ⟨b, hb, heq⟩ | ⟨-, ⟨-, heq⟩ | ⟨b, -, heq⟩⟩
    · rw [heq] at h
      cases h
      exact (hreached.inverse.domain f d a hb).2
    · rw [heq] at h
      cases h
    · rw [heq] at h
      cases h
      change (s.storage.assign a d).domain a = some d
      rw [Tables.assign_domain, update_self]
  refine ⟨hreached.inverse, ?_, ?_, ?_⟩
  · intro f d a h
    exact create_of_loaded memoryStorage h
  · intro f d a s' later h hlater
    have hs' : Reached range s' := by simpa only [h] using hreached.create d f
    exact hs'.domain_calls (hcreated f d a s' h) hlater
  · intro f p d a s' later e hp hfree h hfree' h'
    have hs' : Reached range s' := by simpa only [h] using hreached.create d f
    -- the cursor stands at `a` now, and comes to stand there again
    have hcur : s'.current f = some a := by
      have hnew := (create_new hfree (congrArg Prod.fst h)).2
      rwa [h] at hnew
    obtain ⟨c, hc, hv⟩ := hs'.current_calls hp hcur later
    have hlater := hs'.calls later
    exact size_le_of_create hlater.sound (hlater.range ▸ hp) hc hv hfree' h'

theorem memory_store_promises_first :
    ∃ s', (memoryStore (inet4Only tenNet)).create memoryStorage "a.com" .v4 = (.ok (.v4 0x0A000003#32), s') ∧
      s'.lookup memoryStorage (.v4 0x0A000003#32) = some "a.com" :=
  ⟨_, rfl, (memory_store_promises (inet4Only tenNet) []).lookup .v4 "a.com" _ _ [] rfl trivial⟩

end SingBox.FakeIP
