import SingBox.FakeIP.Memory
import SingBox.FakeIP.Restart

namespace SingBox.FakeIP

open FakeIPMetadata Store

open Route (IPAddr)

variable {σ : Type} {S : FakeIPStorage σ} {range : (f : Family) → Option (Prefix f)} {s : Store σ}

inductive Saved (range : (f : Family) → Option (Prefix f)) : FakeIPMetadata → Prop
  | initial : Saved range (.initial range)
  | advance {m : FakeIPMetadata} (f : Family) : Saved range m → Saved range (m.advance f)

lemma Saved.sound {m : FakeIPMetadata} (h : Saved range m) : m.Sound := by
  induction h with
  | initial => exact sound_initial range
  | advance f _ ih => exact ih.advance f

def Usable (range : (f : Family) → Option (Prefix f)) (f : Family) (a : IPAddr) : Prop :=
  ∃ p, range f = some p ∧ p.contains a ∧ a ≠ p.addr ∧ next p.addr ≠ some a

def createAll (S : FakeIPStorage σ) (s : Store σ) (calls : List (String × Family)) : Store σ :=
  calls.foldl (fun s call => (s.create S call.1 call.2).2) s

def GivesUsable (S : FakeIPStorage σ) (range : (f : Family) → Option (Prefix f)) (s : Store σ) : Prop :=
  ∀ calls domain f a, S.fakeIPLoadDomain domain f (createAll S s calls).storage = none →
    ((createAll S s calls).create S domain f).1 = .ok a → Usable range f a

lemma start_sound {excludeRule : Option ExcludeRule} {storage : σ}
    (h : ∀ m, (S.fakeIPMetadata storage).1 = some m → sameRanges m range → Saved range m) :
    (start S range excludeRule storage).2.range = range ∧
      (start S range excludeRule storage).2.Sound := by
  by_cases hsame : ∃ m, (S.fakeIPMetadata storage).1 = some m ∧ sameRanges m range
  · obtain ⟨m, hm, hsame⟩ := hsame
    rw [start_of_same hm hsame]
    refine ⟨funext fun f => ?_, (h m hm hsame).sound⟩
    cases f with
    | v4 => exact hsame.1
    | v6 => exact hsame.2
  · rw [start_of_other fun m hm hsame' => hsame ⟨m, hm, hsame'⟩]
    exact ⟨rfl, sound_initial range⟩

lemma createAll_sound (hrange : s.range = range) (hs : s.Sound) (calls : List (String × Family)) :
    (createAll S s calls).range = range ∧ (createAll S s calls).Sound := by
  induction calls generalizing s with
  | nil => exact ⟨hrange, hs⟩
  | cons call calls ih => exact ih (create_range.trans hrange) (create_sound hs)

lemma Cursor.usable {f : Family} {p : Prefix f} {a : IPAddr} (h : Cursor p a) :
    a ≠ p.addr ∧ next p.addr ≠ some a := by
  have hle : p.bits.toNat + 2 ≤ value a := h.onCycle.1
  have haddr := p.addr_spec.2.1
  refine ⟨fun heq => ?_, fun heq => ?_⟩
  · rw [heq] at hle
    omega
  · have hnext := (next_spec heq).2.1
    omega

theorem new_addresses_in_range_iff (range : (f : Family) → Option (Prefix f)) :
    (∀ (σ : Type) (S : FakeIPStorage σ) (excludeRule : Option ExcludeRule) (storage : σ),
      (∀ m, (S.fakeIPMetadata storage).1 = some m → sameRanges m range → Saved range m) →
        GivesUsable S range (start S range excludeRule storage).2) ↔ Roomy range := by
  constructor
  · intro h f p a hp ha
    have hcur : (FakeIPMetadata.initial range).current f = some a := by
      rw [initial_current, hp]
      exact ha
    obtain ⟨b, hb, hcursor, -⟩ := (sound_initial range).advance_self hp hcur
    -- the first address of a store in memory shows whether there is room
    have hstart := h Tables memoryStorage none {} (fun _ hm => by cases hm)
    obtain ⟨p', hp', hcontains, -⟩ := hstart [] "a.com" f b rfl (by
      rw [start_of_other fun _ hm => by cases hm]
      simp only [createAll, List.foldl_nil, create, renewed]
      rw [hb]
      rfl)
    obtain rfl : p = p' := Option.some.inj (hp.symm.trans hp')
    rw [contains_of_cursor hcursor] at hcontains
    exact (contains_of_cursor (cursor_start ha)).2 hcontains
  · intro hroomy σ S excludeRule storage hsaved calls domain f a hnew ha
    obtain ⟨hrange, hsound⟩ := start_sound hsaved
    obtain ⟨hrange, hsound⟩ := createAll_sound hrange hsound calls
    obtain ⟨p, hp, hcursor⟩ := hsound.advance f f a (create_new hnew ha).1
    obtain ⟨p', hp', hcontains⟩ := hroomy.inRange (hrange ▸ hp) hcursor
    obtain rfl : p = p' := Option.some.inj ((hrange ▸ hp).symm.trans hp')
    exact ⟨p, hp', hcontains, hcursor.usable⟩

theorem new_addresses_in_ten_net : GivesUsable memoryStorage (inet4Only tenNet)
    (start memoryStorage (inet4Only tenNet) none {}).2 :=
  (new_addresses_in_range_iff _).2 roomy_tenNet _ _ _ _ fun _ hm => by cases hm

def lastOfTenNet : Prefix .v4 := ⟨0x0AFFFFFE#32, 8, tenNet.length_le⟩

theorem new_address_out_of_range :
    ((start memoryStorage (inet4Only lastOfTenNet) none {}).2.create memoryStorage "a.com" .v4).1 =
        .ok (.v4 0x0B000000#32) ∧
      lastOfTenNet.contains (.v4 0x0B000000#32) = false ∧
      ¬ GivesUsable memoryStorage (inet4Only lastOfTenNet)
        (start memoryStorage (inet4Only lastOfTenNet) none {}).2 := by
  refine ⟨rfl, by decide, fun h => ?_⟩
  obtain ⟨p, hp, hcontains, -⟩ := h [] "a.com" .v4 (.v4 0x0B000000#32) rfl rfl
  cases hp
  exact absurd hcontains (by decide)

end SingBox.FakeIP
