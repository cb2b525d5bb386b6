import SingBox.FakeIP.Restart

namespace SingBox.FakeIP

open Store List Option

open Route (IPAddr)
open Lib.Cyclic Lib.Runs

def Db.metadata (db : Db) : Option FakeIPMetadata := db.address.bind AddressBucket.metadata

def SavesLatest (s : Store CacheFile) : StoreEvent → Prop
  | .fire => ∀ c ∈ s.storage.fire, c.db.metadata = s.storage.asked.head?
  | _ => True

def FirstIsLatest (s : Store CacheFile) : StoreEvent → Prop
  | .fire => s.storage.asked.head? = s.storage.asked.getLast?
  | _ => True

def StoreEvent.isCreate : StoreEvent → Bool
  | .create _ _ => true
  | _ => false

def newOf (f : Family) (s : Store CacheFile) : StoreEvent → ℕ
  | .create d g => if g = f ∧ s.isNew cacheFileStorage d g then 1 else 0
  | _ => 0

def newsOf (f : Family) : Store CacheFile → List StoreEvent → ℕ
  | _, [] => 0
  | s, e :: es => newOf f s e + (storeStep s e).elim 0 fun s' => newsOf f s' es

structure Resumes (range : (f : Family) → Option (Prefix f)) (s : Store CacheFile) : Prop where
  cursor : (startFrom range s.storage.db).current = s.current
  recycled : ∀ f p d a (s₁ s₂ s₃ : Store CacheFile) earlier later e,
    range f = some p → s₁.Sound → s₁.range = range →
    s₁.storage.fakeIPLoadDomain d f = none →
    s₁.create cacheFileStorage d f = (.ok a, s₂) → run storeStep s₂ earlier = some s →
    run storeStep (startFrom range s.storage.db) later = some s₃ →
    s₃.storage.fakeIPLoadDomain e f = none → (s₃.create cacheFileStorage e f).1 = .ok a →
    p.size ≤ newsOf f s₂ earlier + newsOf f (startFrom range s.storage.db) later + 1

structure Remembers (range : (f : Family) → Option (Prefix f)) (s : Store CacheFile) : Prop where
  sameRange : s.range = range
  sound : s.Sound
  timer : s.storage.saveMetadataTimer.map Timer.metadata = s.storage.asked.getLast?
  asked : ∀ m ∈ s.storage.asked, m.range = range ∧ m.Sound
  latest : ∀ m ∈ s.storage.asked.head?, s.toFakeIPMetadata = m

variable {range : (f : Family) → Option (Prefix f)} {db : Db} {s s' : Store CacheFile}
  {a : IPAddr}

lemma Db.metadata_store {d : String} {db' : Db} (h : db.fakeIPStore a d = .ok db') :
    db'.metadata = db.metadata := by
  rw [Db.fakeIPStore] at h
  cases hk : Db.keyError d with
  | some err =>
    rw [hk] at h
    cases h
  | none =>
    rw [hk] at h
    cases h
    rw [metadata, metadata]
    cases db.address <;> rfl

variable {c c' : CacheFile} {i : ℕ}

lemma commit_db (h : c.commit i = some c') :
    c'.db.metadata = c.db.metadata ∧ c'.saveMetadataTimer = c.saveMetadataTimer ∧
      c'.asked = c.asked := by
  obtain ⟨w, -, -, -, -, -, hdb⟩ := commit_eq h
  refine ⟨?_, ?_⟩
  · rcases hdb with ⟨hsame, -⟩ | hstore
    · rw [hsame]
    · exact Db.metadata_store hstore
  · rw [CacheFile.commit] at h
    split at h
    · cases h
      exact ⟨rfl, rfl⟩
    · cases h

lemma finish_db (h : c.finish i = some c') :
    c'.db = c.db ∧ c'.saveMetadataTimer = c.saveMetadataTimer ∧ c'.asked = c.asked := by
  rw [CacheFile.finish] at h
  split at h
  · cases h
    exact ⟨rfl, rfl, rfl⟩
  · cases h

lemma fire_eq (h : c.fire = some c') :
    ∃ metadata, c.saveMetadataTimer = some ⟨metadata, true⟩ ∧
      c' = { c with
        db := c.db.fakeIPSaveMetadata metadata
        saveMetadataTimer := some ⟨metadata, false⟩ } := by
  rw [CacheFile.fire] at h
  split at h
  · rename_i metadata htimer
    cases h
    exact ⟨metadata, htimer, rfl⟩
  · cases h

variable {e : StoreEvent}

lemma remembers_step (h : Remembers range s) (hstep : storeStep s e = some s') :
    Remembers range s' := by
  cases e with
  | create d f =>
    cases hstep
    rcases create_cases cacheFileStorage s d f with ⟨a, -, heq⟩ | ⟨-, ⟨-, heq⟩ | ⟨a, -, heq⟩⟩
    · rw [heq]
      exact h
    · rw [heq]
      exact h
    rw [heq]
    have hsound := h.sound.advance f
    refine ⟨h.sameRange, hsound, ?_, ?_, ?_⟩
    · have htimer : s.storage.saveMetadataTimer.map Timer.metadata = s.storage.asked.getLast? := h.timer
      refine (CacheFile.fakeIPSaveMetadataAsync_timer _ _).trans ?_
      change some ((s.storage.saveMetadataTimer.map Timer.metadata).getD _) =
        (s.advance f :: s.storage.asked).getLast?
      rw [htimer, getLast?_cons]
    · intro m hm
      rcases mem_cons.1 hm with rfl | hm
      · exact ⟨h.sameRange, hsound⟩
      · exact h.asked m hm
    · rintro m ⟨⟩
      rfl
  | commit i =>
    obtain ⟨c, hc, rfl⟩ := map_eq_some_iff.1 hstep
    obtain ⟨-, htimer, hasked⟩ := commit_db hc
    exact ⟨h.sameRange, h.sound, by rw [htimer, hasked]; exact h.timer,
      fun m hm => h.asked m (hasked ▸ hm), fun m hm => h.latest m (hasked ▸ hm)⟩
  | finish i =>
    obtain ⟨c, hc, rfl⟩ := map_eq_some_iff.1 hstep
    obtain ⟨-, htimer, hasked⟩ := finish_db hc
    exact ⟨h.sameRange, h.sound, by rw [htimer, hasked]; exact h.timer,
      fun m hm => h.asked m (hasked ▸ hm), fun m hm => h.latest m (hasked ▸ hm)⟩
  | fire =>
    obtain ⟨c, hc, rfl⟩ := map_eq_some_iff.1 hstep
    obtain ⟨metadata, htimer, rfl⟩ := fire_eq hc
    have := h.timer
    rw [htimer] at this
    exact ⟨h.sameRange, h.sound, this, h.asked, h.latest⟩

lemma fire_metadata (h : Remembers range s) (hfire : s.storage.fire = some c) :
    c.db.metadata = s.storage.asked.getLast? := by
  obtain ⟨metadata, htimer, rfl⟩ := fire_eq hfire
  rw [← h.timer, htimer]
  rfl

lemma savesLatest_iff (h : Remembers range s) (hstep : storeStep s e = some s') :
    SavesLatest s e ↔ FirstIsLatest s e := by
  cases e with
  | fire =>
    obtain ⟨c, hc, rfl⟩ := map_eq_some_iff.1 hstep
    have hwritten := fire_metadata h hc
    constructor
    · intro hsaves
      rw [FirstIsLatest, ← hwritten]
      exact (hsaves c hc).symm
    · intro hfirst c' hc'
      rw [mem_def, hc, Option.some.injEq] at hc'
      rw [← hc', hwritten]
      exact hfirst.symm
  | create => rfl
  | commit => rfl
  | finish => rfl

lemma fakeIPMetadata_fst (db : Db) : db.fakeIPMetadata.1 = db.metadata := by
  rw [Db.fakeIPMetadata, Db.metadata]
  cases db.address with
  | none => rfl
  | some bucket =>
    dsimp only [bind_some]
    cases hm : bucket.metadata <;> rfl

lemma startFrom_metadata {m : FakeIPMetadata} (hm : db.metadata = some m) (hrange : m.range = range) :
    (startFrom range db).toFakeIPMetadata = m := by
  have hloaded : (cacheFileStorage.fakeIPMetadata { db }).1 = some m := by
    rw [← hm, ← fakeIPMetadata_fst]
    rfl
  rw [startFrom, start_of_same hloaded ⟨congrFun hrange .v4, congrFun hrange .v6⟩]

lemma remembers_startFrom (range : (f : Family) → Option (Prefix f)) (hdb : ∀ m, db.metadata = some m → m.Sound) :
    Remembers range (startFrom range db) := by
  rw [← fakeIPMetadata_fst] at hdb
  by_cases h : ∃ m, db.fakeIPMetadata.1 = some m ∧ sameRanges m range
  · obtain ⟨m, hm, hsame⟩ := h
    have hstart : startFrom range db = _ := start_of_same hm hsame
    rw [hstart]
    refine ⟨?_, hdb m hm, rfl, by simp [cacheFileStorage], by simp [cacheFileStorage]⟩
    funext f
    cases f
    · exact hsame.1
    · exact hsame.2
  · rw [startFrom_eq fun m hm hsame => h ⟨m, hm, hsame⟩]
    exact ⟨rfl, FakeIPMetadata.sound_initial range, rfl, by simp [begun], by simp [begun]⟩

lemma step_metadata (he : e.isCreate = false) (hstep : storeStep s e = some s') :
    s'.toFakeIPMetadata = s.toFakeIPMetadata := by
  cases e with
  | create => cases he
  | commit i =>
    obtain ⟨c, -, rfl⟩ := map_eq_some_iff.1 hstep
    rfl
  | finish i =>
    obtain ⟨c, -, rfl⟩ := map_eq_some_iff.1 hstep
    rfl
  | fire =>
    obtain ⟨c, -, rfl⟩ := map_eq_some_iff.1 hstep
    rfl

lemma current_run {f : Family} {p : Prefix f} (hs : s.Sound) (hp : s.range f = some p)
    (ha : s.current f = some a) {es : List StoreEvent} (hrun : run storeStep s es = some s') :
    s'.Sound ∧ s'.range = s.range ∧ ∃ b, s'.current f = some b ∧
      value b = (cyc p.first p.last)^[newsOf f s es] (value a) := by
  induction es generalizing s a with
  | nil =>
    cases hrun
    exact ⟨hs, rfl, a, ha, rfl⟩
  | cons e es ih =>
    obtain ⟨s₁, hstep, hrun⟩ := bind_eq_some_iff.1 hrun
    rw [newsOf, hstep]
    cases he : e.isCreate with
    | false =>
      have hmeta := step_metadata he hstep
      have hzero : newOf f s e = 0 := by
        cases e with
        | create => cases he
        | _ => rfl
      rw [hzero, Nat.zero_add]
      obtain ⟨hsound, hrange, hb⟩ := ih (hmeta ▸ hs) (hmeta ▸ hp) (hmeta ▸ ha) hrun
      exact ⟨hsound, hrange.trans (congrArg FakeIPMetadata.range hmeta), hb⟩
    | true =>
      cases e with
      | create d g =>
        cases hstep
        obtain ⟨b, hb, hv⟩ := current_create hs hp ha d g
        have hp' : (s.create cacheFileStorage d g).2.range f = some p := by
          rw [create_range]
          exact hp
        obtain ⟨hsound, hrange, c, hc, hv'⟩ := ih (create_sound hs) hp' hb hrun
        refine ⟨hsound, hrange.trans create_range, c, hc, ?_⟩
        rw [hv', hv, ← Function.iterate_add_apply, Nat.add_comm]
        rfl
      | commit => cases he
      | finish => cases he
      | fire => cases he

lemma later_metadata (h : Remembers range s) (hm : s.storage.db.metadata = s.storage.asked.getLast?)
    {later : List StoreEvent} (hlater : ∀ e ∈ later, e.isCreate = false)
    (hrun : run storeStep s later = some s') :
    Remembers range s' ∧ s'.storage.db.metadata = s.storage.asked.getLast? ∧
      s'.storage.asked = s.storage.asked ∧ s'.toFakeIPMetadata = s.toFakeIPMetadata := by
  induction later generalizing s with
  | nil =>
    cases hrun
    exact ⟨h, hm, rfl, rfl⟩
  | cons e es ih =>
    obtain ⟨s₁, hstep, hrun⟩ := bind_eq_some_iff.1 hrun
    have he := hlater e mem_cons_self
    have hstored : s₁.storage.db.metadata = s.storage.asked.getLast? ∧
        s₁.storage.asked = s.storage.asked := by
      cases e with
      | create => cases he
      | commit i =>
        obtain ⟨c, hc, rfl⟩ := map_eq_some_iff.1 hstep
        obtain ⟨hmeta, -, hasked⟩ := commit_db hc
        exact ⟨hmeta.trans hm, hasked⟩
      | finish i =>
        obtain ⟨c, hc, rfl⟩ := map_eq_some_iff.1 hstep
        obtain ⟨hdb, -, hasked⟩ := finish_db hc
        exact ⟨(congrArg Db.metadata hdb).trans hm, hasked⟩
      | fire =>
        obtain ⟨c, hc, rfl⟩ := map_eq_some_iff.1 hstep
        have hwritten := fire_metadata h hc
        obtain ⟨metadata, -, rfl⟩ := fire_eq hc
        exact ⟨hwritten, rfl⟩
    obtain ⟨hr, hm', hasked, hmeta⟩ := ih (remembers_step h hstep) (hstored.1.trans
      (congrArg getLast? hstored.2).symm) (fun e he => hlater e (mem_cons_of_mem _ he)) hrun
    exact ⟨hr, hm'.trans (congrArg getLast? hstored.2), hasked.trans hstored.2,
      hmeta.trans (step_metadata he hstep)⟩

variable {stopped : Store CacheFile}

lemma resumes_of_metadata (hsound : stopped.Sound) (hrange : stopped.range = range)
    (hmeta : stopped.storage.db.metadata = some stopped.toFakeIPMetadata) :
    Resumes range stopped := by
  have hstart := startFrom_metadata hmeta hrange
  refine ⟨congrArg FakeIPMetadata.current hstart, ?_⟩
  intro f p d a s₁ s₂ s₃ earlier later e hp hs₁ hr₁ hfree hcreate hearlier hlater hfree' ha
  have hs₂ : s₂.Sound := by
    have hs := create_sound (S := cacheFileStorage) (d := d) (f := f) hs₁
    rwa [hcreate] at hs
  have hr₂ : s₂.range f = some p := by
    have hr := create_range (S := cacheFileStorage) (s := s₁) (d := d) (f := f)
    rw [hcreate] at hr
    rw [hr, hr₁]
    exact hp
  have hcur : s₂.current f = some a := by
    have hnew := (create_new hfree (congrArg Prod.fst hcreate)).2
    rwa [hcreate] at hnew
  obtain ⟨-, -, b, hb, hv⟩ := current_run hs₂ hr₂ hcur hearlier
  obtain ⟨hs₃, hr₃, c, hc, hv'⟩ := current_run
    (hstart ▸ hsound) (hstart ▸ hrange ▸ hp) (hstart ▸ hb) hlater
  rw [hv, ← Function.iterate_add_apply] at hv'
  have hle := size_le_of_create hs₃ (by
    rw [hr₃, hstart, hrange]
    exact hp) hc hv' hfree' ha
  omega

lemma resumes_iff (h : Remembers range stopped) (hne : stopped.storage.asked ≠ [])
    (hm : stopped.storage.db.metadata = stopped.storage.asked.getLast?) :
    Resumes range stopped ↔ stopped.storage.asked.head? = stopped.storage.asked.getLast? := by
  obtain ⟨m, hlast⟩ : ∃ m, stopped.storage.asked.getLast? = some m :=
    ne_none_iff_exists'.1 fun hnone => hne (getLast?_eq_none_iff.1 hnone)
  obtain ⟨m', hhead⟩ : ∃ m', stopped.storage.asked.head? = some m' :=
    ne_none_iff_exists'.1 fun hnone => hne (head?_eq_none_iff.1 hnone)
  have hlatest := h.latest m' hhead
  obtain ⟨hmr, -⟩ := h.asked m (mem_of_getLast? hlast)
  rw [hlast] at hm
  constructor
  · intro hr
    have hcur := hr.cursor
    rw [startFrom_metadata hm hmr] at hcur
    have heq : m = stopped.toFakeIPMetadata := FakeIPMetadata.ext (hmr.trans h.sameRange.symm) hcur
    rw [hlast, hhead, heq, hlatest]
  · intro hfirst
    apply resumes_of_metadata h.sound h.sameRange
    rw [hm, ← hlast, ← hfirst, hhead, hlatest]

theorem metadata_timer_durable_iff (hdb : ∀ m, db.metadata = some m → m.Sound)
    (events : List StoreEvent) :
    (Throughout storeStep SavesLatest (startFrom range db) events ↔
      Throughout storeStep FirstIsLatest (startFrom range db) events) ∧
    ∀ s fired stopped later, run storeStep (startFrom range db) events = some s →
      storeStep s .fire = some fired → (∀ e ∈ later, e.isCreate = false) →
      run storeStep fired later = some stopped → (Resumes range stopped ↔ FirstIsLatest s .fire) := by
  have hstart := remembers_startFrom range hdb
  refine ⟨throughout_congr (fun _ _ _ h hs => remembers_step h hs)
    (fun _ _ _ h hs => savesLatest_iff h hs) hstart events, ?_⟩
  intro s fired stopped later hrun hfire hlater hstop
  have hs : Remembers range s :=
    always_run (always_of_step (fun _ _ _ h hs => remembers_step h hs) hstart events) hrun
  obtain ⟨c, hc, rfl⟩ := map_eq_some_iff.1 hfire
  have hwritten := fire_metadata hs hc
  have hfired := remembers_step hs hfire
  obtain ⟨metadata, htimer, rfl⟩ := fire_eq hc
  obtain ⟨hr, hm, hasked, -⟩ := later_metadata hfired hwritten hlater hstop
  have hne : s.storage.asked ≠ [] := by
    intro hnil
    have := hs.timer
    rw [htimer, hnil] at this
    cases this
  rw [resumes_iff hr (hasked ▸ hne) (hm.trans (congrArg getLast? hasked).symm), hasked]
  rfl

def twoDomains : List StoreEvent := [.create "a.com" .v4, .create "b.com" .v4]

theorem metadata_timer_durable_single :
    ∃ s fired, run storeStep (startFrom (inet4Only tenNet) {}) [.create "a.com" .v4] = some s ∧
      storeStep s .fire = some fired ∧ Resumes (inet4Only tenNet) fired := by
  have hdb : ∀ m, ({} : Db).metadata = some m → m.Sound := fun m h => by cases h
  refine ⟨_, _, rfl, rfl, ?_⟩
  refine ((metadata_timer_durable_iff hdb [.create "a.com" .v4]).2 _ _ _ [] rfl rfl
    (fun e he => absurd he not_mem_nil) rfl).2 ?_
  exact rfl

theorem stale_metadata_saved :
    ∃ s fired, run storeStep (startFrom (inet4Only tenNet) {}) twoDomains = some s ∧
      storeStep s .fire = some fired ∧
      (s.create cacheFileStorage "b.com" .v4).1 = .ok (.v4 0x0A000004#32) ∧
      fired.storage.db.metadata.bind (fun m => m.current .v4) = some (.v4 0x0A000003#32) ∧
      ((startFrom (inet4Only tenNet) fired.storage.db).create cacheFileStorage "c.com" .v4).1 =
        .ok (.v4 0x0A000004#32) ∧
      ¬ SavesLatest s .fire ∧ ¬ Resumes (inet4Only tenNet) fired := by
  refine ⟨_, _, rfl, rfl, rfl, rfl, rfl, fun h => ?_, fun h => ?_⟩
  · have hsaved := congrArg (bind · fun m => m.current .v4) (h _ rfl)
    exact absurd hsaved (by decide)
  · have hcursor := congrFun h.cursor .v4
    exact absurd hcursor (by decide)

theorem cursor_after_run {db : Db} (hdb : ∀ m, db.metadata = some m → m.Sound) {f : Family} {p : Prefix f}
    (hp : range f = some p) (hroom : p.first ≤ p.last) {a : IPAddr} (ha : (startFrom range db).current f = some a)
    {es : List StoreEvent} {s' : Store CacheFile} (hrun : run storeStep (startFrom range db) es = some s') :
    ∃ b, s'.current f = some b ∧
      value b = p.first + (value a - p.first + newsOf f (startFrom range db) es) % p.size := by
  have hr := remembers_startFrom range hdb
  obtain ⟨-, -, b, hb, hv⟩ := current_run hr.sound (hr.sameRange ▸ hp) ha hrun
  obtain ⟨p', hp', hcursor⟩ := hr.sound f a ha
  obtain rfl : p = p' := Option.some.inj (hp.symm.trans (hr.sameRange ▸ hp'))
  obtain ⟨hlo, hhi⟩ := hcursor.onCycle
  exact ⟨b, hb, hv.trans (iterate_cyc hlo (by omega) _)⟩

theorem cursor_after_one_domain : ∃ s b, run storeStep (startFrom (inet4Only tenNet) {}) [.create "a.com" .v4] = some s ∧
    s.current .v4 = some b ∧ value b = 0x0A000003 := by
  have hdb : ∀ m, ({} : Db).metadata = some m → m.Sound := fun m h => by cases h
  obtain ⟨b, hb, hv⟩ := cursor_after_run hdb (p := tenNet) rfl (by decide) rfl
    (show run storeStep (startFrom (inet4Only tenNet) {}) [.create "a.com" .v4] = some _ from rfl)
  exact ⟨_, b, rfl, hb, hv⟩

end SingBox.FakeIP
