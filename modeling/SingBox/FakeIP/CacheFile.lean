import SingBox.FakeIP.Store

namespace SingBox.FakeIP

open Function

open Route (IPAddr)

def asSlice : IPAddr → IPAddr
  | .v4 bits => .v4 bits
  | .v6 bits _ => .v6 bits ""

structure AddressBucket where
  metadata : Option FakeIPMetadata := none
  domain : IPAddr → Option String := fun _ => none

structure Db where
  address : Option AddressBucket := none
  domain : Family → Option (String → Option IPAddr) := fun _ => none

namespace Db

def keyError (key : String) : Option String :=
  if key = "" then some "key required"
  else if 32768 < key.utf8ByteSize then some "key too large"
  else none

def oldDomain (db : Db) (address : IPAddr) : Option String :=
  db.address.bind fun bucket => bucket.domain (asSlice address)

def addresses (db : Db) (f : Family) : String → Option IPAddr := (db.domain f).getD fun _ => none

def fakeIPStore (address : IPAddr) (domain : String) (db : Db) : Except String Db :=
  let bucket := db.address.getD {}
  let released := match db.oldDomain address with
    | some oldDomain => update (db.addresses (family address)) oldDomain none
    | none => db.addresses (family address)
  match keyError domain with
  | some err => .error err
  | none => .ok {
      address := some { bucket with
        domain := update bucket.domain (asSlice address) (some domain) }
      domain := update db.domain (family address)
        (some (update released domain (some (asSlice address)))) }

def fakeIPLoad (address : IPAddr) (db : Db) : Option String :=
  (db.oldDomain address).filter fun domain => domain ≠ ""

def fakeIPLoadDomain (domain : String) (f : Family) (db : Db) : Option IPAddr := db.addresses f domain

/-- The metadata is removed as it is read. -/
def fakeIPMetadata (db : Db) : Option FakeIPMetadata × Db :=
  match db.address with
  | none => (none, db)
  | some bucket => match bucket.metadata with
    | none => (none, db)
    | some metadata => (some metadata, { db with address := some { bucket with metadata := none } })

def fakeIPSaveMetadata (metadata : FakeIPMetadata) (db : Db) : Db :=
  { db with address := some { db.address.getD {} with metadata := some metadata } }

/-- Deleting a bucket that is missing is an error, on which everything is rolled back. -/
def fakeIPReset (db : Db) : Option String × Db :=
  if db.address.isSome && (db.domain .v4).isSome && (db.domain .v6).isSome then (none, {})
  else (some "bucket not found", db)

end Db

inductive Stage where
  | writing
  | written
  | finished
  deriving DecidableEq, Repr

structure Writer where
  address : IPAddr
  domain : String
  stage : Stage := .writing
  deriving DecidableEq

structure Timer where
  metadata : FakeIPMetadata
  armed : Bool

/-- `save` are the maps `saveDomain`, `saveAddress4` and `saveAddress6`. All writers are kept, in the
order of the calls; `asked` are the metadata that were to be saved, the latest first. -/
structure CacheFile where
  db : Db := {}
  save : Tables := {}
  saveMetadataTimer : Option Timer := none
  writers : List Writer := []
  asked : List FakeIPMetadata := []

namespace CacheFile

def fakeIPStoreAsync (address : IPAddr) (domain : String) (c : CacheFile) : CacheFile :=
  { c with
    save := c.save.assign address domain
    writers := c.writers ++ [{ address, domain }] }

def commit (i : ℕ) (c : CacheFile) : Option CacheFile :=
  match c.writers[i]? with
  | some ⟨address, domain, .writing⟩ => some { c with
      db := match c.db.fakeIPStore address domain with
        | .ok db => db
        | .error _ => c.db
      writers := c.writers.set i ⟨address, domain, .written⟩ }
  | _ => none

def finish (i : ℕ) (c : CacheFile) : Option CacheFile :=
  match c.writers[i]? with
  | some ⟨address, domain, .written⟩ => some { c with
      save := (c.save.setDomain address none).setAddress (family address) domain none
      writers := c.writers.set i ⟨address, domain, .finished⟩ }
  | _ => none

def fakeIPLoad (address : IPAddr) (c : CacheFile) : Option String :=
  match c.save.domain address with
  | some cachedDomain => some cachedDomain
  | none => c.db.fakeIPLoad address

def fakeIPLoadDomain (domain : String) (f : Family) (c : CacheFile) : Option IPAddr :=
  match c.save.address f domain with
  | some cachedAddress => some cachedAddress
  | none => c.db.fakeIPLoadDomain domain f

/-- The metadata of a later call is not seen by the timer. -/
def fakeIPSaveMetadataAsync (metadata : FakeIPMetadata) (c : CacheFile) : CacheFile :=
  { c with
    saveMetadataTimer := match c.saveMetadataTimer with
      | none => some ⟨metadata, true⟩
      | some timer => some { timer with armed := true }
    asked := metadata :: c.asked }

lemma fakeIPSaveMetadataAsync_timer (metadata : FakeIPMetadata) (c : CacheFile) :
    (c.fakeIPSaveMetadataAsync metadata).saveMetadataTimer.map Timer.metadata =
      some ((c.saveMetadataTimer.map Timer.metadata).getD metadata) := by
  rw [fakeIPSaveMetadataAsync]
  cases c.saveMetadataTimer <;> rfl

def calls (c : CacheFile) : List (IPAddr × String) :=
  (c.writers.map fun w => (w.address, w.domain)).reverse

def fire (c : CacheFile) : Option CacheFile :=
  match c.saveMetadataTimer with
  | some ⟨metadata, true⟩ => some { c with
      db := c.db.fakeIPSaveMetadata metadata
      saveMetadataTimer := some ⟨metadata, false⟩ }
  | _ => none

end CacheFile

def cacheFileStorage : FakeIPStorage CacheFile where
  fakeIPMetadata c := (c.db.fakeIPMetadata.1, { c with db := c.db.fakeIPMetadata.2 })
  fakeIPSaveMetadata metadata c := (none, { c with db := c.db.fakeIPSaveMetadata metadata })
  fakeIPSaveMetadataAsync := CacheFile.fakeIPSaveMetadataAsync
  fakeIPStoreAsync := CacheFile.fakeIPStoreAsync
  fakeIPLoad := CacheFile.fakeIPLoad
  fakeIPLoadDomain := CacheFile.fakeIPLoadDomain
  fakeIPReset c := (c.db.fakeIPReset.1, { c with db := c.db.fakeIPReset.2 })

variable {db db' : Db} {a b : IPAddr} {d e : String} {f : Family}

lemma Db.fakeIPStore_ok (h : db.fakeIPStore a d = .ok db') : d ≠ "" := by
  rintro rfl
  cases h

lemma Db.fakeIPLoad_store (h : db.fakeIPStore a d = .ok db') :
    db'.fakeIPLoad b = if asSlice b = asSlice a then some d else db.fakeIPLoad b := by
  have hd := fakeIPStore_ok h
  rw [fakeIPStore] at h
  cases hk : keyError d with
  | some err =>
    rw [hk] at h
    cases h
  | none =>
    rw [hk] at h
    cases h
    simp only [fakeIPLoad, oldDomain, Option.bind_some]
    split_ifs with hb
    · rw [hb]
      simp [hd]
    · rw [update_of_ne hb]
      cases db.address <;> rfl

lemma Db.fakeIPLoadDomain_store (h : db.fakeIPStore a d = .ok db') :
    db'.fakeIPLoadDomain e f =
      if f = family a then
        if e = d then some (asSlice a)
        else if db.oldDomain a = some e then none
        else db.fakeIPLoadDomain e f
      else db.fakeIPLoadDomain e f := by
  rw [fakeIPStore] at h
  cases hk : keyError d with
  | some err =>
    rw [hk] at h
    cases h
  | none =>
    rw [hk] at h
    cases h
    simp only [fakeIPLoadDomain, addresses]
    by_cases hf : f = family a
    · subst hf
      rw [update_self, Option.getD_some, if_pos rfl]
      by_cases he : e = d
      · rw [he, update_self, if_pos rfl]
      · rw [update_of_ne he, if_neg he]
        cases ho : db.oldDomain a with
        | none => rfl
        | some old =>
          by_cases heo : e = old
          · rw [heo, if_pos rfl]
            exact update_self ..
          · rw [if_neg (fun h => heo (Option.some.inj h).symm)]
            exact update_of_ne heo ..
    · rw [update_of_ne hf, if_neg hf]

variable {c c' : CacheFile} {i : ℕ}

lemma calls_set {w : Writer} (hw : c.writers[i]? = some w) (stage : Stage) :
    ((c.writers.set i { w with stage }).map fun w => (w.address, w.domain)).reverse = c.calls := by
  rw [List.map_set]
  congr 1
  apply List.ext_getElem?
  intro j
  rw [List.getElem?_set]
  split_ifs with hij hlt
  · subst hij
    rw [List.getElem?_map, hw]
    rfl
  · subst hij
    rw [List.getElem?_eq_none (by simpa using hlt)]
  · rfl

lemma commit_eq (h : c.commit i = some c') :
    ∃ w, c.writers[i]? = some w ∧ w.stage = .writing ∧ c'.save = c.save ∧ c'.calls = c.calls ∧
      c'.writers = c.writers.set i { w with stage := .written } ∧
      (c'.db = c.db ∧ (c.db.fakeIPStore w.address w.domain).isOk = false ∨
        c.db.fakeIPStore w.address w.domain = .ok c'.db) := by
  rw [CacheFile.commit] at h
  split at h
  · rename_i a d hw
    cases h
    refine ⟨⟨a, d, .writing⟩, hw, rfl, rfl, calls_set hw .written, rfl, ?_⟩
    cases hdb : c.db.fakeIPStore a d with
    | ok db => exact .inr rfl
    | error err => exact .inl ⟨rfl, rfl⟩
  · cases h

lemma finish_eq (h : c.finish i = some c') :
    ∃ w, c.writers[i]? = some w ∧ c'.db = c.db ∧ c'.calls = c.calls ∧
      c'.save = (c.save.setDomain w.address none).setAddress (family w.address) w.domain none ∧
      c'.writers = c.writers.set i { w with stage := .finished } := by
  rw [CacheFile.finish] at h
  split at h
  · rename_i a d hw
    cases h
    exact ⟨⟨a, d, .written⟩, hw, rfl, calls_set hw .finished, rfl, rfl⟩
  · cases h

end SingBox.FakeIP
