import SingBox.FakeIP.CacheFile
import SingBox.Lib.Runs

namespace SingBox.FakeIP

open Store FakeIPMetadata Function

open Route (IPAddr)
open Lib.Cyclic Lib.Runs

inductive StoreEvent where
  | create (domain : String) (f : Family)
  | commit (i : ℕ)
  | finish (i : ℕ)
  | fire

def storeStep (s : Store CacheFile) : StoreEvent → Option (Store CacheFile)
  | .create domain f => some (s.create cacheFileStorage domain f).2
  | .commit i => (s.storage.commit i).map fun storage => { s with storage }
  | .finish i => (s.storage.finish i).map fun storage => { s with storage }
  | .fire => s.storage.fire.map fun storage => { s with storage }

def startFrom (range : (f : Family) → Option (Prefix f)) (db : Db) : Store CacheFile :=
  (start cacheFileStorage range none { db }).2

def InRange (range : (f : Family) → Option (Prefix f)) (f : Family) (a : IPAddr) : Prop :=
  ∃ p, range f = some p ∧ p.contains a

structure Forgets (range : (f : Family) → Option (Prefix f)) (s : Store CacheFile) : Prop where
  load : ∀ a, s.lookup cacheFileStorage a = none
  loadDomain : ∀ d f, s.storage.fakeIPLoadDomain d f = none
  inRange : ∀ es s', run storeStep s es = some s' → ∀ d f a,
    (s'.create cacheFileStorage d f).1 = .ok a → InRange range f a

def Db.Resettable (db : Db) : Prop :=
  db.address.isSome ∧ (db.domain .v4).isSome ∧ (db.domain .v6).isSome

def Db.NoMappings (db : Db) : Prop :=
  (∀ a, db.fakeIPLoad a = none) ∧ ∀ d f, db.fakeIPLoadDomain d f = none

def Roomy (range : (f : Family) → Option (Prefix f)) : Prop :=
  ∀ f p a, range f = some p → p.start = some a → p.contains a

variable {range : (f : Family) → Option (Prefix f)} {db : Db} {s s' : Store CacheFile}

lemma metadata_loads (db : Db) :
    (∀ a, db.fakeIPMetadata.2.fakeIPLoad a = db.fakeIPLoad a) ∧
      db.fakeIPMetadata.2.domain = db.domain ∧
      db.fakeIPMetadata.2.address.isSome = db.address.isSome := by
  rw [Db.fakeIPMetadata]
  cases hb : db.address with
  | none => exact ⟨fun _ => rfl, rfl, by rw [hb]⟩
  | some bucket =>
    dsimp only
    cases hm : bucket.metadata with
    | none => exact ⟨fun _ => rfl, rfl, by rw [hb]⟩
    | some m =>
      refine ⟨fun a => ?_, rfl, rfl⟩
      rw [Db.fakeIPLoad, Db.fakeIPLoad, Db.oldDomain, Db.oldDomain, hb]
      rfl

def begun (range : (f : Family) → Option (Prefix f)) (db : Db) : Store CacheFile where
  toFakeIPMetadata := initial range
  storage := { db }

lemma startFrom_eq (hdiff : ∀ m, db.fakeIPMetadata.1 = some m → ¬ sameRanges m range) :
    startFrom range db = begun range db.fakeIPMetadata.2.fakeIPReset.2 :=
  start_of_other hdiff

lemma reset_noMappings (db : Db) :
    db.fakeIPMetadata.2.fakeIPReset.2.NoMappings ↔ db.Resettable ∨ db.NoMappings := by
  obtain ⟨hload, hdomain, hsome⟩ := metadata_loads db
  rw [Db.fakeIPReset, hdomain, hsome]
  by_cases hall : db.Resettable
  · obtain ⟨h₁, h₂, h₃⟩ := hall
    rw [h₁, h₂, h₃]
    exact iff_of_true ⟨fun _ => rfl, fun _ _ => rfl⟩ (.inl ⟨h₁, h₂, h₃⟩)
  · rw [if_neg (by simpa [Db.Resettable] using hall), or_iff_right hall]
    have hdom : ∀ d f, db.fakeIPMetadata.2.fakeIPLoadDomain d f = db.fakeIPLoadDomain d f := by
      intro d f
      rw [Db.fakeIPLoadDomain, Db.addresses, hdomain]
      rfl
    simp only [Db.NoMappings, hload, hdom]

variable {a : IPAddr}

lemma contains_of_cursor {f : Family} {p : Prefix f} (h : Cursor p a) :
    p.contains a ↔ p.first ≤ p.last := by
  have hbase : p.bits.toNat + 2 = p.first := rfl
  have hlo := h.onCycle.1
  rw [p.contains_iff h.family h.zone (by omega)]
  rcases h.onCycle.2 with hle | heq
  · exact iff_of_true hle (hlo.trans hle)
  · rw [heq]

lemma asSlice_of_contains {f : Family} {p : Prefix f} (h : p.contains a) : asSlice a = a := by
  cases a with
  | v4 bits => rfl
  | v6 bits zone =>
    rw [Prefix.contains, Bool.and_eq_true, Bool.and_eq_true, beq_iff_eq, beq_iff_eq] at h
    rw [asSlice, show zone = "" from h.1.2]

structure Within (range : (f : Family) → Option (Prefix f)) (s : Store CacheFile) : Prop where
  sameRange : s.range = range
  sound : s.Sound
  save : ∀ f d a, s.storage.save.address f d = some a → InRange range f a
  db : ∀ f d a, s.storage.db.fakeIPLoadDomain d f = some a → InRange range f a
  writers : ∀ w ∈ s.storage.writers, InRange range (family w.address) w.address

lemma InRange.family {f : Family} (h : InRange range f a) : family a = f := by
  obtain ⟨p, -, hp⟩ := h
  rw [Prefix.contains, Bool.and_eq_true, Bool.and_eq_true, beq_iff_eq] at hp
  exact hp.1.1

lemma Roomy.inRange (h : Roomy range) {f : Family} {p : Prefix f} (hp : range f = some p)
    (ha : Cursor p a) : InRange range f a := by
  have hstart : p.start ≠ none := by
    have hlt := value_lt a
    have hlo := ha.onCycle.1
    rw [ha.family] at hlt
    rw [Ne, p.start_eq_none_iff]
    omega
  obtain ⟨b, hb⟩ := Option.ne_none_iff_exists'.1 hstart
  refine ⟨p, hp, (contains_of_cursor ha).2 ?_⟩
  exact (contains_of_cursor (cursor_start hb)).1 (h f p b hp hb)

lemma Within.create_inRange (hroomy : Roomy range) (h : Within range s) {d : String} {f : Family}
    (ha : (s.create cacheFileStorage d f).1 = .ok a) : InRange range f a := by
  rcases create_cases cacheFileStorage s d f with ⟨b, hb, heq⟩ | ⟨-, ⟨-, heq⟩ | ⟨b, hb, heq⟩⟩
  · rw [heq] at ha
    cases ha
    change s.storage.fakeIPLoadDomain d f = some a at hb
    rw [CacheFile.fakeIPLoadDomain] at hb
    split at hb
    · rename_i hsave
      exact h.save f d a (hsave.trans hb)
    · exact h.db f d a hb
  · rw [heq] at ha
    cases ha
  · rw [heq] at ha
    cases ha
    obtain ⟨p, hp, hcursor⟩ := h.sound.advance f f a hb
    exact hroomy.inRange (h.sameRange ▸ hp) hcursor

lemma Within.create (hroomy : Roomy range) (h : Within range s) (d : String) (f : Family) :
    Within range (s.create cacheFileStorage d f).2 := by
  have hrange := create_range (S := cacheFileStorage) (s := s) (d := d) (f := f)
  have hsound := create_sound (S := cacheFileStorage) (d := d) (f := f) h.sound
  rcases create_cases cacheFileStorage s d f with ⟨b, hb, heq⟩ | ⟨-, ⟨-, heq⟩ | ⟨b, hb, heq⟩⟩
  · rw [heq]
    exact h
  · rw [heq]
    exact h
  · have hbin : InRange range f b := h.create_inRange hroomy (congrArg Prod.fst heq)
    rw [heq] at hrange hsound ⊢
    refine ⟨hrange.trans h.sameRange, hsound, ?_, h.db, ?_⟩
    · intro g e a ha
      change (s.storage.save.assign b d).address g e = some a at ha
      rcases Tables.assign_address_cases a ha with ⟨hg, he⟩ | ha
      · subst hg he
        rw [Tables.assign_address_self] at ha
        cases ha
        rwa [hbin.family]
      · exact h.save g e a ha
    · intro w hw
      rcases List.mem_append.1 hw with hw | hw
      · exact h.writers w hw
      · rw [List.mem_singleton.1 hw]
        rwa [hbin.family]

lemma Within.step (hroomy : Roomy range) (h : Within range s) {e : StoreEvent}
    (hstep : storeStep s e = some s') : Within range s' := by
  cases e with
  | create d f =>
    cases hstep
    exact h.create hroomy d f
  | commit i =>
    obtain ⟨c, hc, rfl⟩ := Option.map_eq_some_iff.1 hstep
    obtain ⟨w, hw, -, hsave, -, hwriters, hdb⟩ := commit_eq hc
    have hwin := h.writers w (List.mem_of_getElem? hw)
    refine ⟨h.sameRange, h.sound, fun f d a ha => h.save f d a (hsave ▸ ha), ?_, ?_⟩
    · intro f d a ha
      rcases hdb with ⟨hsame, -⟩ | hstore
      · exact h.db f d a (hsame ▸ ha)
      · rw [Db.fakeIPLoadDomain_store hstore] at ha
        split_ifs at ha with hf hd
        · obtain ⟨p, hp, hcontains⟩ := hwin
          rw [asSlice_of_contains hcontains] at ha
          cases ha
          exact hf ▸ ⟨p, hp, hcontains⟩
        · exact h.db f d a ha
        · exact h.db f d a ha
    · intro v hv
      rw [hwriters] at hv
      rcases List.mem_or_eq_of_mem_set hv with hv | rfl
      · exact h.writers v hv
      · exact hwin
  | finish i =>
    obtain ⟨c, hc, rfl⟩ := Option.map_eq_some_iff.1 hstep
    obtain ⟨w, hw, hdb, -, hsave, hwriters⟩ := finish_eq hc
    refine ⟨h.sameRange, h.sound, ?_, fun f d a ha => h.db f d a (hdb ▸ ha), ?_⟩
    · intro f d a ha
      apply h.save f d a
      rw [hsave] at ha
      change update s.storage.save.address _ _ f d = some a at ha
      by_cases hf : f = FakeIP.family w.address
      · subst hf
        rw [update_self] at ha
        by_cases hd : d = w.domain
        · subst hd
          rw [update_self] at ha
          cases ha
        · rwa [update_of_ne hd] at ha
      · rwa [update_of_ne hf] at ha
    · intro v hv
      rw [hwriters] at hv
      rcases List.mem_or_eq_of_mem_set hv with hv | rfl
      · exact h.writers v hv
      · exact h.writers w (List.mem_of_getElem? hw)
  | fire =>
    obtain ⟨c, hc, rfl⟩ := Option.map_eq_some_iff.1 hstep
    rw [CacheFile.fire] at hc
    split at hc
    · cases hc
      exact ⟨h.sameRange, h.sound, h.save, h.db, h.writers⟩
    · cases hc

lemma Within.run (hroomy : Roomy range) (h : Within range s) {es : List StoreEvent}
    (hrun : Lib.Runs.run storeStep s es = some s') : Within range s' :=
  always_run (always_of_step (fun _ _ _ hw hs => .step hroomy hw hs) h es) hrun

theorem range_change_forgets_iff
    (hdiff : ∀ m, db.fakeIPMetadata.1 = some m → ¬ sameRanges m range) :
    Forgets range (startFrom range db) ↔ (db.Resettable ∨ db.NoMappings) ∧ Roomy range := by
  rw [← reset_noMappings, startFrom_eq hdiff]
  constructor
  · intro h
    have hnone : db.fakeIPMetadata.2.fakeIPReset.2.NoMappings :=
      ⟨h.load, fun d f => h.loadDomain d f⟩
    refine ⟨hnone, fun f p a hp ha => ?_⟩
    -- the first address that is given out shows whether there is room
    have hcur : (initial range).current f = some a := by
      rw [initial_current, hp]
      exact ha
    obtain ⟨b, hb, hcursor, -⟩ := (sound_initial range).advance_self hp hcur
    rcases create_cases cacheFileStorage (begun range db.fakeIPMetadata.2.fakeIPReset.2) "a.com" f
      with ⟨x, hx, -⟩ | ⟨-, ⟨hx, -⟩ | ⟨x, hx, heq⟩⟩
    · cases hx.symm.trans (hnone.2 "a.com" f)
    · cases hx.symm.trans hcur
    · obtain rfl : x = b := Option.some.inj (hx.symm.trans hb)
      obtain ⟨p', hp', hcontains⟩ := h.inRange [] _ rfl "a.com" f x (congrArg Prod.fst heq)
      rw [hp, Option.some.injEq] at hp'
      subst hp'
      rw [contains_of_cursor hcursor] at hcontains
      exact (contains_of_cursor (cursor_start ha)).2 hcontains
  · rintro ⟨hnone, hroomy⟩
    refine ⟨hnone.1, hnone.2, fun es s' hrun d f a ha => ?_⟩
    have hwithin : Within range (begun range db.fakeIPMetadata.2.fakeIPReset.2) := by
      refine ⟨rfl, sound_initial range, fun _ _ _ h => (nomatch h), ?_,
        fun _ h => (nomatch h)⟩
      intro f d a ha
      change db.fakeIPMetadata.2.fakeIPReset.2.fakeIPLoadDomain d f = some a at ha
      rw [hnone.2] at ha
      cases ha
    exact (hwithin.run hroomy hrun).create_inRange hroomy ha

def twoAddresses : Prefix .v4 := ⟨0x0A000000#32, 31, by decide⟩

lemma roomy_tenNet : Roomy (inet4Only tenNet) := by
  intro f p a hp ha
  cases f with
  | v4 =>
    cases hp
    obtain rfl : .v4 0x0A000002#32 = a := Option.some.inj ha
    decide
  | v6 => cases hp

def benchmarkNet : Prefix .v4 := ⟨0xC6120000#32, 15, by decide⟩

def savedDb : Db where
  address := some {
    domain := fun a => if a = .v4 0xC6120003#32 then some "a.com" else none
    metadata := some (initial (inet4Only benchmarkNet)) }
  domain
    | .v4 => some fun d => if d = "a.com" then some (.v4 0xC6120003#32) else none
    | .v6 => some fun _ => none

theorem range_change_forgets_saved :
    savedDb.fakeIPLoad (.v4 0xC6120003#32) = some "a.com" ∧
      savedDb.fakeIPLoadDomain "a.com" .v4 = some (.v4 0xC6120003#32) ∧
      savedDb.fakeIPMetadata.1 = some (initial (inet4Only benchmarkNet)) ∧
      Forgets (inet4Only tenNet) (startFrom (inet4Only tenNet) savedDb) := by
  have hdiff : ∀ m, savedDb.fakeIPMetadata.1 = some m → ¬ sameRanges m (inet4Only tenNet) := by
    rintro m ⟨⟩
    decide
  exact ⟨rfl, rfl, rfl, (range_change_forgets_iff hdiff).2 ⟨.inl ⟨rfl, rfl, rfl⟩, roomy_tenNet⟩⟩

def inet4Db : Db where
  address := some { domain := fun a => if a = .v4 0xC6120003#32 then some "a.com" else none }
  domain
    | .v4 => some fun d => if d = "a.com" then some (.v4 0xC6120003#32) else none
    | .v6 => none

theorem old_mapping_outlives_range :
    ((startFrom (inet4Only tenNet) inet4Db).create cacheFileStorage "a.com" .v4).1 =
        .ok (.v4 0xC6120003#32) ∧
      tenNet.contains (.v4 0xC6120003#32) = false ∧
      ¬ Forgets (inet4Only tenNet) (startFrom (inet4Only tenNet) inet4Db) ∧
      ((startFrom (inet4Only twoAddresses) {}).create cacheFileStorage "a.com" .v4).1 =
        .ok (.v4 0x0A000002#32) ∧
      twoAddresses.contains (.v4 0x0A000002#32) = false ∧
      ¬ Forgets (inet4Only twoAddresses) (startFrom (inet4Only twoAddresses) {}) := by
  refine ⟨rfl, by decide, fun h => ?_, rfl, by decide, fun h => ?_⟩
  · cases h.loadDomain "a.com" .v4
  · obtain ⟨p, hp, hcontains⟩ := h.inRange [] _ rfl "a.com" .v4 (.v4 0x0A000002#32) rfl
    cases hp
    exact absurd hcontains (by decide)

end SingBox.FakeIP
