import SingBox.FakeIP.CacheFile
import SingBox.Lib.Runs

namespace SingBox.FakeIP

open List Option CacheFile Function

open Route (IPAddr)
open Lib.Runs

def latestDomain (calls : List (IPAddr × String)) (a : IPAddr) : Option String :=
  (calls.find? fun c => c.1 == a).map Prod.snd

def isFor (f : Family) (d : String) (c : IPAddr × String) : Bool := c.2 == d && family c.1 == f

def Stored (calls : List (IPAddr × String)) (f : Family) (d : String) (a : IPAddr) : Prop :=
  (calls.find? (isFor f d)).map Prod.fst = some a ∧
    ∀ c ∈ calls.takeWhile fun c => !isFor f d c, c.1 = a → c.2 = d

variable {calls : List (IPAddr × String)} {f : Family} {d e : String} {a b : IPAddr}

lemma latestDomain_cons :
    latestDomain ((a, d) :: calls) b = if b = a then some d else latestDomain calls b := by
  rw [latestDomain]
  by_cases hb : b = a
  · simp [hb]
  · have hab : (a == b) = false := by simpa using Ne.symm hb
    simp [hab, hb, latestDomain]

lemma Stored.family (h : Stored calls f d a) : family a = f := by
  obtain ⟨c, hc, rfl⟩ := map_eq_some_iff.1 h.1
  have hfor := find?_some hc
  rw [isFor, Bool.and_eq_true, beq_iff_eq, beq_iff_eq] at hfor
  exact hfor.2

lemma stored_cons_self : Stored ((a, d) :: calls) (FakeIP.family a) d b ↔ b = a := by
  have hfor : isFor (FakeIP.family a) d (a, d) = true := by simp [isFor]
  rw [Stored, find?_cons_of_pos hfor, takeWhile_cons_of_neg (by simp [hfor])]
  simp [eq_comm]

lemma stored_cons_other (h : isFor f e (a, d) = false) :
    Stored ((a, d) :: calls) f e b ↔ Stored calls f e b ∧ b ≠ a := by
  have hne : ∀ b, Stored calls f e b → (a = b → d = e) → b ≠ a := by
    rintro b hb himp rfl
    rw [isFor, himp rfl, hb.family] at h
    simp at h
  rw [Stored, find?_cons_of_neg (by simp [h]), takeWhile_cons_of_pos (by simp [h])]
  simp only [forall_mem_cons]
  constructor
  · rintro ⟨hfind, hhead, htail⟩
    have hb : Stored calls f e b := ⟨hfind, htail⟩
    exact ⟨hb, hne b hb hhead⟩
  · rintro ⟨⟨hfind, htail⟩, hba⟩
    exact ⟨hfind, fun hab => absurd hab.symm hba, htail⟩

namespace CacheFile

variable (c : CacheFile)

structure Consistent : Prop where
  load : ∀ a d, latestDomain c.calls a = some d → c.fakeIPLoad a = some d
  loadDomain : ∀ f d a, Stored c.calls f d a → c.fakeIPLoadDomain d f = some a
  database : (∀ w ∈ c.writers, w.stage = .finished) →
    (∀ a d, latestDomain c.calls a = some d → c.db.fakeIPLoad a = some d) ∧
      ∀ f d a, Stored c.calls f d a → c.db.fakeIPLoadDomain d f = some a

end CacheFile

inductive AsyncEvent where
  | store (address : IPAddr) (domain : String)
  | commit (i : ℕ)
  | finish (i : ℕ)

def asyncStep (c : CacheFile) : AsyncEvent → Option CacheFile
  | .store address domain => some (c.fakeIPStoreAsync address domain)
  | .commit i => c.commit i
  | .finish i => c.finish i

def UndisturbedStore (c : CacheFile) (a : IPAddr) (d : String) : Prop :=
  ∀ old, c.save.domain a = some old → old ≠ d → ∀ b, Stored c.calls (family a) old b → b ≠ a →
    c.db.fakeIPLoadDomain old (family a) = some b

structure UndisturbedCommit (c : CacheFile) (a : IPAddr) (d : String) : Prop where
  load : ∀ b e, asSlice b = asSlice a → c.save.domain b = none → latestDomain c.calls b = some e → e = d
  loadDomain : c.save.address (family a) d = none → ∀ b, Stored c.calls (family a) d b → b = asSlice a
  released : ∀ old, c.db.oldDomain a = some old → old ≠ d → c.save.address (family a) old = none →
    ∀ b, ¬ Stored c.calls (family a) old b

structure UndisturbedFinish (c : CacheFile) (a : IPAddr) (d : String) : Prop where
  load : ∀ e, latestDomain c.calls a = some e → c.db.fakeIPLoad a = some e
  loadDomain : ∀ b, Stored c.calls (family a) d b → c.db.fakeIPLoadDomain d (family a) = some b

def Undisturbed (c : CacheFile) : AsyncEvent → Prop
  | .store a d => UndisturbedStore c a d
  | .commit i => ∀ w ∈ c.writers[i]?, (c.db.fakeIPStore w.address w.domain).isOk →
      UndisturbedCommit c w.address w.domain
  | .finish i => ∀ w ∈ c.writers[i]?, UndisturbedFinish c w.address w.domain

structure Tracked (c : CacheFile) : Prop where
  domain : ∀ a d, c.save.domain a = some d →
    ∃ (i : ℕ) (w : Writer), c.writers[i]? = some w ∧ w.address = a ∧ w.stage ≠ .finished
  address : ∀ f d a, c.save.address f d = some a →
    ∃ (i : ℕ) (w : Writer), c.writers[i]? = some w ∧ w.domain = d ∧ family w.address = f ∧ w.stage ≠ .finished

structure Loads (c : CacheFile) : Prop where
  load : ∀ a d, latestDomain c.calls a = some d → c.fakeIPLoad a = some d
  loadDomain : ∀ f d a, Stored c.calls f d a → c.fakeIPLoadDomain d f = some a

variable {c c' : CacheFile} {i : ℕ}

lemma Tracked.consistent_iff (h : Tracked c) : c.Consistent ↔ Loads c := by
  refine ⟨fun hc => ⟨hc.load, hc.loadDomain⟩, fun hl => ⟨hl.load, hl.loadDomain, fun hfin => ⟨?_, ?_⟩⟩⟩
  · intro a d hd
    have hnone : c.save.domain a = none := by
      by_contra hne
      obtain ⟨d', hd'⟩ := ne_none_iff_exists'.1 hne
      obtain ⟨i, w, hw, -, hstage⟩ := h.domain a d' hd'
      exact hstage (hfin w (mem_of_getElem? hw))
    have hload := hl.load a d hd
    rwa [fakeIPLoad, hnone] at hload
  · intro f d a hd
    have hnone : c.save.address f d = none := by
      by_contra hne
      obtain ⟨a', ha'⟩ := ne_none_iff_exists'.1 hne
      obtain ⟨i, w, hw, -, -, hstage⟩ := h.address f d a' ha'
      exact hstage (hfin w (mem_of_getElem? hw))
    have hload := hl.loadDomain f d a hd
    rwa [fakeIPLoadDomain, hnone] at hload

lemma calls_store : (c.fakeIPStoreAsync a d).calls = (a, d) :: c.calls := by
  simp [CacheFile.calls, fakeIPStoreAsync]

lemma loads_store_iff (h : Loads c) : Loads (c.fakeIPStoreAsync a d) ↔ UndisturbedStore c a d := by
  have hdomain : (c.fakeIPStoreAsync a d).save.domain = update c.save.domain a (some d) :=
    Tables.assign_domain ..
  have hload : ∀ b, (c.fakeIPStoreAsync a d).fakeIPLoad b = if b = a then some d else c.fakeIPLoad b := by
    intro b
    rw [fakeIPLoad, hdomain]
    split_ifs with hb
    · rw [hb, update_self]
    · rw [update_of_ne hb]
      rfl
  constructor
  · intro h' old hold hne b hb hba
    have hfor : isFor (family a) old (a, d) = false := by simp [isFor, Ne.symm hne]
    have hstored : Stored (c.fakeIPStoreAsync a d).calls (family a) old b := by
      rw [calls_store, stored_cons_other hfor]
      exact ⟨hb, hba⟩
    have := h'.loadDomain _ _ _ hstored
    rwa [fakeIPLoadDomain, fakeIPStoreAsync,
      c.save.assign_address_old a d old hold hne] at this
  · intro hu
    constructor
    · intro b e hb
      rw [calls_store, latestDomain_cons] at hb
      rw [hload]
      split_ifs at hb ⊢ with hba
      · exact hb
      · exact h.load b e hb
    · intro f e b hb
      rw [calls_store] at hb
      cases hfor : isFor f e (a, d) with
      | true =>
        rw [isFor, Bool.and_eq_true, beq_iff_eq, beq_iff_eq] at hfor
        obtain ⟨rfl, rfl⟩ := hfor
        rw [stored_cons_self] at hb
        rw [fakeIPLoadDomain, fakeIPStoreAsync, Tables.assign_address_self, hb]
      | false =>
        rw [stored_cons_other hfor] at hb
        have hold := h.loadDomain f e b hb.1
        rw [fakeIPLoadDomain, fakeIPStoreAsync]
        by_cases hf : f = family a
        · subst hf
          have hed : e ≠ d := by
            rintro rfl
            simp [isFor] at hfor
          by_cases hpend : c.save.domain a = some e
          · rw [c.save.assign_address_old a d e hpend hed]
            exact hu e hpend hed b hb.1 hb.2
          · rw [c.save.assign_address_other a d e hpend hed]
            exact hold
        · rw [c.save.assign_address_of_family a f d hf]
          exact hold

lemma loads_commit_iff (h : Loads c) {db : Db} (hdb : c.db.fakeIPStore a d = .ok db)
    (hc' : c'.db = db ∧ c'.save = c.save ∧ c'.calls = c.calls) :
    Loads c' ↔ UndisturbedCommit c a d := by
  obtain ⟨hdb', hsave, hcalls⟩ := hc'
  constructor
  · intro h'
    refine ⟨fun b e hb hnone he => ?_, fun hnone b hb => ?_, fun old hold hne hnone b hb => ?_⟩
    · have hl := h'.load b e (hcalls ▸ he)
      rw [fakeIPLoad, hsave, hnone] at hl
      simp only [hdb', Db.fakeIPLoad_store hdb, if_pos hb] at hl
      exact (Option.some.inj hl).symm
    · have hl := h'.loadDomain _ d b (hcalls ▸ hb)
      rw [fakeIPLoadDomain, hsave, hnone] at hl
      simp only [hdb', Db.fakeIPLoadDomain_store hdb] at hl
      exact (Option.some.inj hl).symm
    · have hl := h'.loadDomain _ old b (hcalls ▸ hb)
      rw [fakeIPLoadDomain, hsave, hnone] at hl
      simp only [hdb', Db.fakeIPLoadDomain_store hdb, if_neg hne, if_pos hold] at hl
      cases hl
  · intro hu
    constructor
    · intro b e hb
      rw [hcalls] at hb
      have hold := h.load b e hb
      rw [fakeIPLoad] at hold ⊢
      rw [hsave]
      cases hpend : c.save.domain b with
      | some x =>
        rw [hpend] at hold
        exact hold
      | none =>
        rw [hpend] at hold
        simp only [hdb', Db.fakeIPLoad_store hdb]
        split_ifs with hslice
        · rw [hu.load b e hslice hpend hb]
        · exact hold
    · intro f e b hb
      rw [hcalls] at hb
      have hold := h.loadDomain f e b hb
      rw [fakeIPLoadDomain] at hold ⊢
      rw [hsave]
      cases hpend : c.save.address f e with
      | some x =>
        rw [hpend] at hold
        exact hold
      | none =>
        rw [hpend] at hold
        simp only [hdb', Db.fakeIPLoadDomain_store hdb]
        split_ifs with hf he hrel
        · subst hf he
          rw [hu.loadDomain hpend b hb]
        · subst hf
          exact absurd hb (hu.released e hrel he hpend b)
        · exact hold
        · exact hold

lemma loads_finish_iff (h : Loads c)
    (hsave : c'.save = (c.save.setDomain a none).setAddress (family a) d none)
    (hdb : c'.db = c.db) (hcalls : c'.calls = c.calls) : Loads c' ↔ UndisturbedFinish c a d := by
  have hdomain : c'.save.domain = update c.save.domain a none := by rw [hsave]; rfl
  have haddress : c'.save.address = update c.save.address (family a)
      (update (c.save.address (family a)) d none) := by rw [hsave]; rfl
  constructor
  · intro h'
    refine ⟨fun e he => ?_, fun b hb => ?_⟩
    · have hl := h'.load a e (hcalls ▸ he)
      rwa [fakeIPLoad, hdomain, update_self, hdb] at hl
    · have hl := h'.loadDomain _ d b (hcalls ▸ hb)
      rwa [fakeIPLoadDomain, haddress, update_self, update_self, hdb] at hl
  · intro hu
    constructor
    · intro b e hb
      rw [hcalls] at hb
      rw [fakeIPLoad, hdomain, hdb]
      by_cases hba : b = a
      · subst hba
        rw [update_self]
        exact hu.load e hb
      · rw [update_of_ne hba]
        exact h.load b e hb
    · intro f e b hb
      rw [hcalls] at hb
      rw [fakeIPLoadDomain, haddress, hdb]
      by_cases hf : f = family a
      · subst hf
        rw [update_self]
        by_cases he : e = d
        · subst he
          rw [update_self]
          exact hu.loadDomain b hb
        · rw [update_of_ne he]
          exact h.loadDomain _ e b hb
      · rw [update_of_ne hf]
        exact h.loadDomain f e b hb

lemma loads_step_iff (h : Loads c) {ev : AsyncEvent} (hstep : asyncStep c ev = some c') :
    Loads c' ↔ Undisturbed c ev := by
  cases ev with
  | store a d =>
    cases hstep
    exact loads_store_iff h
  | commit i =>
    obtain ⟨w, hw, -, hsave, hcalls, -, ⟨hdb, herr⟩ | hdb⟩ := commit_eq hstep
    · have hloads : Loads c' := by
        refine ⟨fun a d hd => ?_, fun f d a ha => ?_⟩
        · rw [fakeIPLoad, hsave, hdb]
          exact h.load a d (hcalls ▸ hd)
        · rw [fakeIPLoadDomain, hsave, hdb]
          exact h.loadDomain f d a (hcalls ▸ ha)
      refine iff_of_true hloads ?_
      intro w' hw' hok
      rw [mem_def, hw, Option.some.injEq] at hw'
      rw [← hw', herr] at hok
      cases hok
    · rw [loads_commit_iff h hdb ⟨rfl, hsave, hcalls⟩]
      constructor
      · intro hu w' hw' _
        rw [mem_def, hw, Option.some.injEq] at hw'
        exact hw' ▸ hu
      · intro hu
        exact hu w hw (by rw [hdb]; rfl)
  | finish i =>
    obtain ⟨w, hw, hdb, hcalls, hsave, -⟩ := finish_eq hstep
    rw [loads_finish_iff h hsave hdb hcalls]
    constructor
    · intro hu w' hw'
      rw [mem_def, hw, Option.some.injEq] at hw'
      exact hw' ▸ hu
    · exact fun hu => hu w hw

lemma tracked_store (h : Tracked c) : Tracked (c.fakeIPStoreAsync a d) := by
  have hold : ∀ {i : ℕ} {w : Writer}, c.writers[i]? = some w →
      (c.fakeIPStoreAsync a d).writers[i]? = some w := by
    intro i w hw
    rw [fakeIPStoreAsync, getElem?_append_left (List.getElem?_eq_some_iff.1 hw).1]
    exact hw
  have hnew : (c.fakeIPStoreAsync a d).writers[c.writers.length]? = some { address := a, domain := d } :=
    getElem?_concat_length ..
  constructor
  · intro b e hb
    by_cases hba : b = a
    · exact ⟨_, _, hnew, hba.symm, Stage.noConfusion⟩
    · rw [fakeIPStoreAsync, Tables.assign_domain, update_of_ne hba] at hb
      obtain ⟨i, w, hw, hrest⟩ := h.domain b e hb
      exact ⟨i, w, hold hw, hrest⟩
  · intro f e b hb
    rcases Tables.assign_address_cases b hb with ⟨hf, he⟩ | hb
    · exact ⟨_, _, hnew, he.symm, hf.symm, Stage.noConfusion⟩
    · obtain ⟨i, w, hw, hrest⟩ := h.address f e b hb
      exact ⟨i, w, hold hw, hrest⟩

lemma tracked_step (h : Tracked c) {ev : AsyncEvent} (hstep : asyncStep c ev = some c') :
    Tracked c' := by
  cases ev with
  | store a d =>
    cases hstep
    exact tracked_store h
  | commit i =>
    obtain ⟨w, hw, -, hsave, -, hwriters, -⟩ := commit_eq hstep
    -- the writer is still there, in a later stage
    have hkept : ∀ {j : ℕ} {v : Writer}, c.writers[j]? = some v → v.stage ≠ .finished →
        ∃ v', c'.writers[j]? = some v' ∧ v'.address = v.address ∧ v'.domain = v.domain ∧
          v'.stage ≠ .finished := by
      intro j v hv hstage
      rw [hwriters, getElem?_set]
      split_ifs with hij hlt
      · subst hij
        rw [hw, Option.some.injEq] at hv
        subst hv
        exact ⟨_, rfl, rfl, rfl, Stage.noConfusion⟩
      · exact absurd (List.getElem?_eq_some_iff.1 hw).1 hlt
      · exact ⟨v, hv, rfl, rfl, hstage⟩
    constructor
    · intro a d hd
      obtain ⟨j, v, hv, haddr, hstage⟩ := h.domain a d (hsave ▸ hd)
      obtain ⟨v', hv', haddr', -, hstage'⟩ := hkept hv hstage
      exact ⟨j, v', hv', haddr'.trans haddr, hstage'⟩
    · intro f d a ha
      obtain ⟨j, v, hv, hdom, hfam, hstage⟩ := h.address f d a (hsave ▸ ha)
      obtain ⟨v', hv', haddr', hdom', hstage'⟩ := hkept hv hstage
      exact ⟨j, v', hv', hdom'.trans hdom, haddr' ▸ hfam, hstage'⟩
  | finish i =>
    obtain ⟨w, hw, -, -, hsave, hwriters⟩ := finish_eq hstep
    -- what is still pending is pending for another writer
    have hkept : ∀ {j : ℕ} {v : Writer}, c.writers[j]? = some v → v ≠ w → c'.writers[j]? = some v := by
      intro j v hv hne
      have hij : i ≠ j := by
        rintro rfl
        rw [hw, Option.some.injEq] at hv
        exact hne hv.symm
      rw [hwriters, getElem?_set, if_neg hij]
      exact hv
    constructor
    · intro a d hd
      have hdomain : c'.save.domain a = update c.save.domain w.address none a := by
        rw [hsave]
        rfl
      rw [hdomain] at hd
      have hne : a ≠ w.address := by
        rintro rfl
        rw [update_self] at hd
        cases hd
      rw [update_of_ne hne] at hd
      obtain ⟨j, v, hv, haddr, hstage⟩ := h.domain a d hd
      exact ⟨j, v, hkept hv fun heq => hne (heq ▸ haddr.symm), haddr, hstage⟩
    · intro f d a ha
      have haddress : c'.save.address = update c.save.address (family w.address)
          (update (c.save.address (family w.address)) w.domain none) := by
        rw [hsave]
        rfl
      rw [haddress] at ha
      have hne : ¬ (f = family w.address ∧ d = w.domain) := by
        rintro ⟨rfl, rfl⟩
        rw [update_self, update_self] at ha
        cases ha
      have hold : c.save.address f d = some a := by
        by_cases hf : f = family w.address
        · subst hf
          rwa [update_self, update_of_ne fun hd => hne ⟨rfl, hd⟩] at ha
        · rwa [update_of_ne hf] at ha
      obtain ⟨j, v, hv, hdom, hfam, hstage⟩ := h.address f d a hold
      refine ⟨j, v, hkept hv ?_, hdom, hfam, hstage⟩
      rintro rfl
      exact hne ⟨hfam.symm, hdom.symm⟩

theorem async_persistence_consistent_iff (db : Db) (events : List AsyncEvent) :
    Always asyncStep CacheFile.Consistent { db } events ↔
      Throughout asyncStep Undisturbed { db } events := by
  have htracked : Tracked { db } := ⟨fun _ _ h => (nomatch h), fun _ _ _ h => (nomatch h)⟩
  have hconsistent : CacheFile.Consistent { db } := by
    rw [htracked.consistent_iff]
    exact ⟨fun _ _ h => (nomatch h), fun _ _ _ h => (nomatch h.1)⟩
  refine always_iff_throughout (fun _ _ _ h hs => tracked_step h hs) ?_ htracked
    hconsistent events
  intro c ev c' h hc hstep
  rw [(tracked_step h hstep).consistent_iff]
  exact loads_step_iff (h.consistent_iff.1 hc) hstep

def sharedAddress : IPAddr := .v4 0xC6120003#32

theorem early_writer_uncovers_old_domain :
    ∃ c, run asyncStep {} [.store sharedAddress "a.com", .store sharedAddress "b.com", .commit 0,
        .finish 0] = some c ∧
      latestDomain c.calls sharedAddress = some "b.com" ∧
      c.fakeIPLoad sharedAddress = some "a.com" ∧ c.fakeIPLoadDomain "b.com" .v4 = some sharedAddress ∧
      ¬ Always asyncStep CacheFile.Consistent {} [.store sharedAddress "a.com",
        .store sharedAddress "b.com", .commit 0, .finish 0] := by
  refine ⟨_, rfl, by decide, by decide, by decide, fun h => ?_⟩
  have hend := always_run h rfl
  have hload := hend.load sharedAddress "b.com" (by decide)
  exact absurd hload (by decide)

end SingBox.FakeIP
