import SingBox.Cache.File
import SingBox.Lib.Runs

namespace SingBox.Cache

open Lib.Wire Item
open Lib.Buckets
open Lib.Runs

section Paths

inductive Twins : Item → Item → Prop
  | group (name : Bytes) : Twins (.groupExpand name) (.providerExpand name)
  | provider (name : Bytes) : Twins (.providerExpand name) (.groupExpand name)

def Item.fullPath (cacheID : Bytes) (item : Item) : List Bytes :=
  (item.path cacheID).1 ++ [(item.path cacheID).2]

inductive Kind where
  | selected
  | expand
  | mode
  | ruleSet
  | rdrc
  deriving DecidableEq

def Kind.bucket : Kind → Bytes
  | .selected => bucketSelected
  | .expand => bucketExpand
  | .mode => bucketMode
  | .ruleSet => bucketRuleSet
  | .rdrc => bucketRDRC

lemma Kind.bucket_inj {k k' : Kind} (h : k.bucket = k'.bucket) : k = k' := by
  revert h
  cases k <;> cases k' <;> decide

def Item.kind : Item → Kind
  | .mode => .mode
  | .selected _ => .selected
  | .groupExpand _ => .expand
  | .providerExpand _ => .expand
  | .ruleSet _ => .ruleSet
  | .rdrc .. => .rdrc

def Item.rest : Item → List Bytes
  | .mode => []
  | .selected group => [group]
  | .groupExpand group => [group]
  | .providerExpand provider => [provider]
  | .ruleSet tag => [tag]
  | .rdrc transportName qName qType => [transportName, rdrcKey qName qType]

variable {cacheID cacheID' : Bytes} {item item' : Item}

lemma rdrcKey_inj {qName qName' : Bytes} {qType qType' : UInt16}
    (h : rdrcKey qName qType = rdrcKey qName' qType') : qName = qName' ∧ qType = qType' := by
  have hread := Format.uint16.reads qType qName
  have hread' := Format.uint16.reads qType' qName'
  rw [show Format.uint16.write qType ++ qName = Format.uint16.write qType' ++ qName' from h] at hread
  obtain ⟨htype, hname⟩ := hread.unique hread'
  exact ⟨hname, htype⟩

lemma kind_rest_inj (hkind : item.kind = item'.kind) (hrest : item.rest = item'.rest) :
    item = item' ∨ Twins item item' := by
  cases item with
  | mode =>
    cases item' with
    | mode => exact .inl rfl
    | _ => cases hkind
  | selected group =>
    cases item' with
    | selected group' =>
      cases hrest
      exact .inl rfl
    | _ => cases hkind
  | groupExpand group =>
    cases item' with
    | groupExpand group' =>
      cases hrest
      exact .inl rfl
    | providerExpand provider =>
      cases hrest
      exact .inr (.group _)
    | _ => cases hkind
  | providerExpand provider =>
    cases item' with
    | groupExpand group =>
      cases hrest
      exact .inr (.provider _)
    | providerExpand provider' =>
      cases hrest
      exact .inl rfl
    | _ => cases hkind
  | ruleSet tag =>
    cases item' with
    | ruleSet tag' =>
      cases hrest
      exact .inl rfl
    | _ => cases hkind
  | rdrc transportName qName qType =>
    cases item' with
    | rdrc transportName' qName' qType' =>
      simp only [rest, List.cons.injEq, and_true] at hrest
      obtain ⟨rfl, hkey⟩ := hrest
      obtain ⟨rfl, rfl⟩ := rdrcKey_inj hkey
      exact .inl rfl
    | _ => cases hkind

lemma fullPath_eq (h : item ≠ .mode) :
    item.fullPath cacheID = (cacheIDBytes cacheID).toList ++ item.kind.bucket :: item.rest := by
  cases item with
  | mode => exact absurd rfl h
  | _ => simp [fullPath, Item.path, bucketPath, kind, rest, Kind.bucket]

lemma fullPath_mode :
    fullPath cacheID .mode = [bucketMode, (cacheIDBytes cacheID).getD cacheIDDefault] := rfl

lemma Kind.bucket_mem (k : Kind) : k.bucket ∈ bucketNameList := by
  cases k <;> simp [Kind.bucket, bucketNameList]

lemma head_ne_zero {name : Bytes} (h : name ∈ bucketNameList) : name.head? ≠ some 0 := by
  revert name
  decide

lemma cacheIDBytes_inj (h : (cacheIDBytes cacheID).toList = (cacheIDBytes cacheID').toList) :
    cacheID = cacheID' := by
  unfold cacheIDBytes at h
  split_ifs at h with hid hid' hid'
  · rw [hid, hid']
  · simp at h
  · simp at h
  · simpa using h

lemma fullPath_cases (cacheID : Bytes) (item : Item) :
    (∃ name ∈ bucketNameList, ∃ t, item.fullPath cacheID = name :: t) ∨
      ∃ name ∈ bucketNameList, ∃ t, item.fullPath cacheID = (0 :: cacheID) :: name :: t := by
  by_cases hmode : item = .mode
  · exact .inl ⟨bucketMode, by simp [bucketNameList], _, hmode ▸ fullPath_mode⟩
  · rw [fullPath_eq hmode, cacheIDBytes]
    split_ifs
    · exact .inl ⟨_, item.kind.bucket_mem, item.rest, rfl⟩
    · exact .inr ⟨_, item.kind.bucket_mem, item.rest, rfl⟩

lemma cacheIDBytes_eq_some {b : Bytes} (h : cacheIDBytes cacheID = some b) : b = 0 :: cacheID := by
  unfold cacheIDBytes at h
  split_ifs at h
  exact (Option.some.inj h).symm

lemma Kind.bucket_ne_cacheID (k : Kind) : k.bucket ≠ 0 :: cacheID :=
  fun h => head_ne_zero k.bucket_mem (by rw [h]; rfl)

lemma fullPath_mode_ne (h : item' ≠ .mode) :
    fullPath cacheID .mode ≠ item'.fullPath cacheID' := by
  rw [fullPath_eq h]
  cases hid : cacheIDBytes cacheID' with
  | none =>
    intro heq
    have hkind : .mode = item'.kind := Kind.bucket_inj (List.cons.inj heq).1
    cases item' with
    | mode => exact h rfl
    | _ => cases hkind
  | some b =>
    obtain rfl := cacheIDBytes_eq_some hid
    intro heq
    exact Kind.mode.bucket_ne_cacheID (List.cons.inj heq).1

lemma fullPath_mode_inj (h : fullPath cacheID .mode = fullPath cacheID' .mode) :
    cacheID = cacheID' := by
  have hkey : (cacheIDBytes cacheID).getD cacheIDDefault = (cacheIDBytes cacheID').getD cacheIDDefault := by
    simpa [fullPath_mode] using h
  have hdefault (id : Bytes) : cacheIDDefault ≠ 0 :: id :=
    fun heq => (by decide : cacheIDDefault.head? ≠ some 0) (congrArg List.head? heq)
  refine cacheIDBytes_inj ?_
  cases hid : cacheIDBytes cacheID with
  | none =>
    cases hid' : cacheIDBytes cacheID' with
    | none => rfl
    | some b' =>
      rw [hid, hid', cacheIDBytes_eq_some hid'] at hkey
      exact absurd hkey (hdefault _)
  | some b =>
    cases hid' : cacheIDBytes cacheID' with
    | none =>
      rw [hid, hid', cacheIDBytes_eq_some hid] at hkey
      exact absurd hkey.symm (hdefault _)
    | some b' =>
      rw [hid, hid'] at hkey
      exact congrArg _ (congrArg some hkey)

lemma fullPath_inj (h : item.fullPath cacheID = item'.fullPath cacheID') :
    cacheID = cacheID' ∧ (item = item' ∨ Twins item item') := by
  by_cases hmode : item = .mode
  · subst hmode
    by_cases hmode' : item' = .mode
    · subst hmode'
      exact ⟨fullPath_mode_inj h, .inl rfl⟩
    · exact absurd h (fullPath_mode_ne hmode')
  by_cases hmode' : item' = .mode
  · subst hmode'
    exact absurd h.symm (fullPath_mode_ne hmode)
  rw [fullPath_eq hmode, fullPath_eq hmode'] at h
  have hinj (hids : (cacheIDBytes cacheID).toList = (cacheIDBytes cacheID').toList)
      (hkind : item.kind.bucket = item'.kind.bucket) (hrest : item.rest = item'.rest) :
      cacheID = cacheID' ∧ (item = item' ∨ Twins item item') :=
    ⟨cacheIDBytes_inj hids, kind_rest_inj (Kind.bucket_inj hkind) hrest⟩
  cases hid : cacheIDBytes cacheID with
  | none =>
    cases hid' : cacheIDBytes cacheID' with
    | none =>
      rw [hid, hid'] at h
      exact hinj (by rw [hid, hid']) (List.cons.inj h).1 (List.cons.inj h).2
    | some b' =>
      rw [hid, hid', cacheIDBytes_eq_some hid'] at h
      exact absurd (List.cons.inj h).1 item.kind.bucket_ne_cacheID
  | some b =>
    cases hid' : cacheIDBytes cacheID' with
    | none =>
      rw [hid, hid', cacheIDBytes_eq_some hid] at h
      exact absurd (List.cons.inj h).1.symm item'.kind.bucket_ne_cacheID
    | some b' =>
      rw [hid, hid'] at h
      obtain ⟨hb, h⟩ := List.cons.inj h
      exact hinj (by rw [hid, hid', hb]) (List.cons.inj h).1 (List.cons.inj h).2

end Paths

section Opening

variable {cacheID : Bytes} {item : Item} {db : Db}
  {name key : Bytes} {path : List Bytes} {b : Db}

lemma get_deleteBucket (h : (path ++ [key]).head? ≠ some name) :
    get path key (deleteBucket name b) = get path key b := by
  unfold deleteBucket
  split
  · exact get_erase_of_ne h
  · rfl

lemma get_cleanCacheID (h : (path ++ [key]).head? ≠ some name) :
    get path key (cleanCacheID name b) = get path key b := by
  refine List.foldlRecOn (motive := fun b' => get path key b' = get path key b) b (cleanEntry name) rfl
    fun b' hb entry _ => ?_
  unfold cleanEntry
  split
  · split_ifs
    · exact hb
    · rw [get_deleteBucket h, hb]
  · exact hb

lemma get_cleanBucket (hpath : (∃ name' ∈ bucketNameList, ∃ t, path ++ [key] = name' :: t) ∨
      ∃ name' ∈ bucketNameList, ∃ t, path ++ [key] = (0 :: cacheID) :: name' :: t) :
    get path key (cleanBucket db name) = get path key db := by
  unfold cleanBucket
  split
  · next b hfind =>
    split_ifs with hzero hknown
    · by_cases hhead : (path ++ [key]).head? = some name
      · rcases hpath with ⟨name', hmem, t, ht⟩ | ⟨name', hmem, t, ht⟩
        · obtain rfl : name' = name := by simpa [ht] using hhead
          exact absurd hzero (head_ne_zero hmem)
        · -- the bucket of a cache ID: the next name is a known one
          obtain rfl : 0 :: cacheID = name := by simpa [ht] using hhead
          cases path with
          | nil => cases ht
          | cons name path =>
            obtain ⟨rfl, htail⟩ := List.cons.inj ht
            have hne : (path ++ [key]).head? ≠ some (0 :: cacheID) := by
              rw [show path ++ [key] = name' :: t from htail]
              exact fun heq => head_ne_zero hmem (by rw [Option.some.inj heq]; rfl)
            rw [get_set_bucket, get_cleanCacheID hne, Lib.Buckets.get, hfind]
      · exact get_set_of_ne hhead
    · rfl
    · refine get_erase_of_ne fun hhead => ?_
      rcases hpath with ⟨name', hmem, t, ht⟩ | ⟨name', -, t, ht⟩
      · obtain rfl : name' = name := by simpa [ht] using hhead
        exact hknown (.inl hmem)
      · obtain rfl : 0 :: cacheID = name := by simpa [ht] using hhead
        exact hzero rfl
  · rfl

lemma getItem_start : getItem cacheID item (start db) = getItem cacheID item db :=
  List.foldlRecOn (motive := fun db' => getItem cacheID item db' = getItem cacheID item db) _ cleanBucket
    rfl fun _ hb _ _ => (get_cleanBucket (fullPath_cases cacheID item)).trans hb

end Opening

inductive Loaded where
  | text (s : Bytes)
  | expand (isExpand loaded : Bool)
  | ruleSet (savedSet : Option SavedRuleSet)
  | rdrc (rejected : Bool)
  | panic
  deriving DecidableEq

inductive Entry where
  | mode (m : Bytes)
  | selected (group tag : Bytes)
  | groupExpand (group : Bytes) (isExpand : Bool)
  | providerExpand (provider : Bytes) (isExpand : Bool)
  | ruleSet (tag : Bytes) (set : SavedRuleSet)
  | rdrc (transportName qName : Bytes) (qType : UInt16)

def Entry.item : Entry → Item
  | .mode _ => .mode
  | .selected group _ => .selected group
  | .groupExpand group _ => .groupExpand group
  | .providerExpand provider _ => .providerExpand provider
  | .ruleSet tag _ => .ruleSet tag
  | .rdrc transportName qName qType => .rdrc transportName qName qType

def Rejection.loaded : Rejection → Loaded
  | .rejected => .rdrc true
  | .notRejected => .rdrc false
  | .expired => .rdrc false
  | .panic => .panic

def load (cacheID : Bytes) (now : ℕ) (db : Db) : Item → Loaded
  | .mode => .text (loadMode cacheID db)
  | .selected group => .text (loadSelected cacheID group db)
  | .groupExpand group =>
    .expand (loadGroupExpand cacheID group db).1 (loadGroupExpand cacheID group db).2
  | .providerExpand provider =>
    .expand (loadProviderExpand cacheID provider db).1 (loadProviderExpand cacheID provider db).2
  | .ruleSet tag => .ruleSet (loadRuleSet cacheID tag db)
  | .rdrc transportName qName qType => (loadRDRC cacheID now transportName qName qType db).1.loaded

def Entry.store (cacheID : Bytes) (rdrcTimeout now : ℕ) (db : Db) : Entry → Except String Db
  | .mode m => storeMode cacheID m db
  | .selected group tag => storeSelected cacheID group tag db
  | .groupExpand group isExpand => storeGroupExpand cacheID group isExpand db
  | .providerExpand provider isExpand => storeProviderExpand cacheID provider isExpand db
  | .ruleSet tag set => saveRuleSet cacheID tag set db
  | .rdrc transportName qName qType => saveRDRC cacheID rdrcTimeout now transportName qName qType db

def Entry.loaded (rdrcTimeout saved now : ℕ) : Entry → Loaded
  | .mode m => .text m
  | .selected _ tag => .text tag
  | .groupExpand _ isExpand => .expand isExpand true
  | .providerExpand _ isExpand => .expand isExpand true
  | .ruleSet _ set => .ruleSet (some set)
  | .rdrc .. => .rdrc (now ≤ (unix (saved + rdrcTimeout)).toInt64.toInt * 10 ^ 9)

def Entry.encode (rdrcTimeout now : ℕ) : Entry → Bytes
  | .mode m => m
  | .selected _ tag => tag
  | .groupExpand _ isExpand => expandBytes isExpand
  | .providerExpand _ isExpand => expandBytes isExpand
  | .ruleSet _ set => set.marshalBinary
  | .rdrc .. => uint64.write (unix (now + rdrcTimeout))

variable {cacheID cacheID' : Bytes} {rdrcTimeout saved now : ℕ} {db db' : Db} {item : Item} {e : Entry}

lemma store_eq : e.store cacheID rdrcTimeout now db =
    storeItem cacheID e.item (e.encode rdrcTimeout now) db := by
  cases e <;> rfl

lemma load_congr (h : getItem cacheID item db = getItem cacheID item db') :
    load cacheID now db item = load cacheID now db' item := by
  cases item <;>
    simp only [load, loadMode, loadSelected, loadGroupExpand, loadProviderExpand, loadRuleSet, loadRDRC, h]

lemma put_of_store (h : e.store cacheID rdrcTimeout now db = .ok db') :
    put (e.item.path cacheID).1 (e.item.path cacheID).2 (e.encode rdrcTimeout now) db = .ok db' := by
  rw [store_eq, storeItem] at h
  dsimp only at h
  split_ifs at h
  exact h

lemma getItem_store_self (h : e.store cacheID rdrcTimeout now db = .ok db') :
    getItem cacheID e.item db' = some (e.encode rdrcTimeout now) :=
  get_put_self (put_of_store h)

lemma getItem_store_of_ne (h : e.store cacheID rdrcTimeout now db = .ok db')
    (hne : item.fullPath cacheID' ≠ e.item.fullPath cacheID) :
    getItem cacheID' item db' = getItem cacheID' item db :=
  get_put_of_ne (put_of_store h) hne

lemma load_of_getItem (h : getItem cacheID e.item db = some (e.encode rdrcTimeout saved)) :
    load cacheID now db e.item = e.loaded rdrcTimeout saved now ↔
      ∀ tag set, e = .ruleSet tag set → set.lastUpdated.nsec = 0 := by
  cases e with
  | mode m =>
    refine iff_of_true ?_ (by simp)
    rw [Entry.item, load, loadMode, show getItem cacheID .mode db = _ from h]
    rfl
  | selected group tag =>
    refine iff_of_true ?_ (by simp)
    rw [Entry.item, load, loadSelected, show getItem cacheID (.selected group) db = _ from h]
    rfl
  | groupExpand group isExpand =>
    refine iff_of_true ?_ (by simp)
    rw [Entry.item, load, loadGroupExpand, show getItem cacheID (.groupExpand group) db = _ from h]
    cases isExpand <;> rfl
  | providerExpand provider isExpand =>
    refine iff_of_true ?_ (by simp)
    rw [Entry.item, load, loadProviderExpand, show getItem cacheID (.providerExpand provider) db = _ from h]
    cases isExpand <;> rfl
  | ruleSet tag set =>
    have hload : loadRuleSet cacheID tag db =
        some { set with lastUpdated := { set.lastUpdated with nsec := 0 } } := by
      rw [loadRuleSet, show getItem cacheID (.ruleSet tag) db = some set.marshalBinary from h]
      dsimp only
      rw [if_neg (by simp [SavedRuleSet.marshalBinary]), unmarshal_marshal]
    rw [Entry.item, load, hload, Entry.loaded]
    obtain ⟨content, ⟨unix, nsec⟩, lastEtag⟩ := set
    simp [eq_comm]
  | rdrc transportName qName qType =>
    refine iff_of_true ?_ (by simp)
    have hexpires : expiresAt (uint64.write (unix (saved + rdrcTimeout))) =
        some ((unix (saved + rdrcTimeout)).toInt64.toInt * 10 ^ 9) := by
      have hlen : (uint64.write (unix (saved + rdrcTimeout))).length = 8 := length_putBigEndian 8 _
      have hbytes : ofBigEndian (uint64.write (unix (saved + rdrcTimeout))) =
          (unix (saved + rdrcTimeout)).toNat := ofBigEndian_putBigEndian (unix _).toNat_lt
      rw [expiresAt, List.take_of_length_le hlen.le, hbytes, UInt64.ofNat_toNat, hlen]
      rfl
    have hload : (loadRDRC cacheID now transportName qName qType db).1 =
        if (unix (saved + rdrcTimeout)).toInt64.toInt * 10 ^ 9 < now then .expired else .rejected := by
      rw [loadRDRC, show getItem cacheID (.rdrc transportName qName qType) db = some _ from h]
      rw [Entry.encode, rejection, hexpires]
    rw [Entry.item, load, hload, Entry.loaded]
    split_ifs with hlt
    · rw [decide_eq_false hlt.not_ge]
      rfl
    · rw [decide_eq_true (not_lt.1 hlt)]
      rfl

variable {saved' now' : ℕ} {item' : Item}

lemma Twins.symm (h : Twins item item') : Twins item' item := by
  cases h with
  | group name => exact .provider name
  | provider name => exact .group name

lemma Twins.ne (h : Twins item item') : item ≠ item' := by
  cases h <;> simp

lemma Twins.load_eq (h : Twins item item') (now now' : ℕ) :
    load cacheID now db item' = load cacheID now' db item' := by
  cases h <;> rfl

lemma Twins.loaded_eq (h : Twins e.item item) (saved now saved' now' : ℕ) :
    e.loaded rdrcTimeout saved now = e.loaded rdrcTimeout saved' now' := by
  cases e with
  | groupExpand group isExpand => rfl
  | providerExpand provider isExpand => rfl
  | _ => cases h

lemma load_store_twin (h : e.store cacheID rdrcTimeout saved db = .ok db') (ht : Twins e.item item) :
    load cacheID now db' item = e.loaded rdrcTimeout saved now := by
  have hget := getItem_store_self h
  cases e with
  | groupExpand group isExpand =>
    cases ht
    change load cacheID now db' (Entry.providerExpand group isExpand).item =
      (Entry.providerExpand group isExpand).loaded rdrcTimeout saved now
    refine (load_of_getItem ?_).2 (by simp)
    exact hget
  | providerExpand provider isExpand =>
    cases ht
    change load cacheID now db' (Entry.groupExpand provider isExpand).item =
      (Entry.groupExpand provider isExpand).loaded rdrcTimeout saved now
    refine (load_of_getItem ?_).2 (by simp)
    exact hget
  | _ => cases ht

structure System where
  db : Db
  cacheID : Bytes := []
  rdrcTimeout : ℕ := 0
  clock : ℕ := 0
  last : Bytes → Item → Option (Entry × ℕ × ℕ) := fun _ _ => none

inductive Event where
  | open (cacheID : Bytes) (rdrcTimeout : ℕ)
  | store (now : ℕ) (e : Entry)
  | loadRDRC (now : ℕ) (transportName qName : Bytes) (qType : UInt16)

def System.stored (s : System) (now : ℕ) (e : Entry) (db : Db) : System :=
  { s with
    db
    clock := now
    last := fun cacheID item =>
      if cacheID = s.cacheID ∧ item = e.item then some (e, s.rdrcTimeout, now) else s.last cacheID item }

def step (s : System) : Event → Option System
  | .open cacheID rdrcTimeout => some { s with db := start s.db, cacheID, rdrcTimeout }
  | .store now e =>
    if now < s.clock then none
    else match e.store s.cacheID s.rdrcTimeout now s.db with
      | .ok db => some (s.stored now e db)
      | .error _ => some { s with clock := now }
  | .loadRDRC now transportName qName qType =>
    if now < s.clock then none
    else some { s with db := (loadRDRC s.cacheID now transportName qName qType s.db).2, clock := now }

def expected (db₀ : Db) (s : System) (cacheID : Bytes) (now : ℕ) (item : Item) : Loaded :=
  match s.last cacheID item with
  | some (e, rdrcTimeout, saved) => e.loaded rdrcTimeout saved now
  | none => load cacheID now db₀ item

def Faithful (db₀ : Db) (s : System) : Prop :=
  ∀ cacheID item now, s.clock ≤ now → load cacheID now s.db item = expected db₀ s cacheID now item

def Harmless (s : System) : Event → Prop
  | .store now e =>
    (∃ db, e.store s.cacheID s.rdrcTimeout now s.db = .ok db) →
      (∀ item, Twins e.item item →
        load s.cacheID now s.db item = e.loaded s.rdrcTimeout now now) ∧
      ∀ tag set, e = .ruleSet tag set → set.lastUpdated.nsec = 0
  | _ => True

variable {db₀ : Db} {s s' : System}

lemma faithful_stored_iff (hclock : s.clock ≤ now)
    (hstore : e.store s.cacheID s.rdrcTimeout now s.db = .ok db) (hf : Faithful db₀ s) :
    Faithful db₀ (s.stored now e db) ↔
      (∀ item, Twins e.item item → load s.cacheID now s.db item = e.loaded s.rdrcTimeout now now) ∧
      ∀ tag set, e = .ruleSet tag set → set.lastUpdated.nsec = 0 := by
  have hself := getItem_store_self hstore
  have hexpected {cacheID : Bytes} {item : Item} (now' : ℕ) (hne : ¬(cacheID = s.cacheID ∧ item = e.item)) :
      expected db₀ (s.stored now e db) cacheID now' item = expected db₀ s cacheID now' item := by
    rw [expected, expected, System.stored]
    dsimp only
    rw [if_neg hne]
  have hnew (now' : ℕ) : expected db₀ (s.stored now e db) s.cacheID now' e.item =
      e.loaded s.rdrcTimeout now now' := by
    rw [expected, System.stored]
    dsimp only
    rw [if_pos ⟨rfl, rfl⟩]
  constructor
  · intro hf'
    refine ⟨fun item ht => ?_, ?_⟩
    · calc load s.cacheID now s.db item
          = expected db₀ s s.cacheID now item := hf _ _ _ hclock
        _ = expected db₀ (s.stored now e db) s.cacheID now item := (hexpected now fun h => ht.ne h.2.symm).symm
        _ = load s.cacheID now db item := (hf' _ _ _ le_rfl).symm
        _ = e.loaded s.rdrcTimeout now now := load_store_twin hstore ht
    · exact (load_of_getItem hself).1 ((hf' s.cacheID e.item now le_rfl).trans (hnew now))
  · rintro ⟨htwin, hset⟩ cacheID item now' hnow
    by_cases hkey : cacheID = s.cacheID ∧ item = e.item
    · obtain ⟨rfl, rfl⟩ := hkey
      exact ((load_of_getItem hself).2 hset).trans (hnew now').symm
    rw [hexpected now' hkey, ← hf cacheID item now' (hclock.trans hnow)]
    by_cases hpath : item.fullPath cacheID = e.item.fullPath s.cacheID
    · obtain ⟨rfl, rfl | ht⟩ := fullPath_inj hpath
      · exact absurd ⟨rfl, rfl⟩ hkey
      · calc load s.cacheID now' db item
            = e.loaded s.rdrcTimeout now now' := load_store_twin hstore ht.symm
          _ = e.loaded s.rdrcTimeout now now := ht.symm.loaded_eq ..
          _ = load s.cacheID now s.db item := (htwin item ht.symm).symm
          _ = load s.cacheID now' s.db item := ht.symm.load_eq ..
    · exact load_congr (getItem_store_of_ne hstore hpath)

lemma rejection_expired (hnow : now ≤ now') {content : Option Bytes}
    (h : rejection now content = .expired) : rejection now' content = .expired := by
  unfold rejection at *
  split at h
  · cases h
  · split at h
    · cases h
    · split_ifs at h with hlt
      exact if_pos (hlt.trans_le (Int.ofNat_le.2 hnow))

lemma load_loadRDRC (hnow : now ≤ now') {transportName qName : Bytes} {qType : UInt16} :
    load cacheID' now' (loadRDRC cacheID now transportName qName qType db).2 item =
      load cacheID' now' db item := by
  rw [loadRDRC]
  split_ifs with hexpired
  · by_cases hpath : item.fullPath cacheID' = (Item.rdrc transportName qName qType).fullPath cacheID
    · obtain ⟨rfl, rfl | ht⟩ := fullPath_inj hpath
      · have hgone : getItem cacheID' (.rdrc transportName qName qType)
            (delete ((Item.rdrc transportName qName qType).path cacheID').1
              ((Item.rdrc transportName qName qType).path cacheID').2 db) = none := get_delete_self
        rw [load, load, loadRDRC, loadRDRC, hgone]
        rw [rejection_expired hnow hexpired]
        rfl
      · cases ht
    · exact load_congr (get_delete_of_ne hpath)
  · rfl

lemma faithful_step_iff {event : Event} (hf : Faithful db₀ s) (hstep : step s event = some s') :
    Faithful db₀ s' ↔ Harmless s event := by
  cases event with
  | «open» cacheID rdrcTimeout =>
    cases hstep
    refine iff_of_true (fun cacheID' item now hnow => ?_) trivial
    exact (load_congr getItem_start).trans (hf cacheID' item now hnow)
  | store now e =>
    rw [step] at hstep
    split_ifs at hstep with hclock
    cases hstore : e.store s.cacheID s.rdrcTimeout now s.db with
    | error err =>
      rw [hstore] at hstep
      cases hstep
      refine iff_of_true (fun cacheID item now' hnow => ?_) (by simp [Harmless, hstore])
      exact hf cacheID item now' ((not_lt.1 hclock).trans hnow)
    | ok db =>
      rw [hstore] at hstep
      cases hstep
      rw [faithful_stored_iff (not_lt.1 hclock) hstore hf, Harmless, hstore]
      exact ⟨fun h _ => h, fun h => h ⟨db, rfl⟩⟩
  | loadRDRC now transportName qName qType =>
    rw [step] at hstep
    split_ifs at hstep with hclock
    cases hstep
    refine iff_of_true (fun cacheID item now' hnow => ?_) trivial
    exact (load_loadRDRC hnow).trans (hf cacheID item now' ((not_lt.1 hclock).trans hnow))

theorem cache_items_isolated_iff (db₀ : Db) (events : List Event) :
    Always step (Faithful db₀) { db := db₀ } events ↔ Throughout step Harmless { db := db₀ } events :=
  always_iff_throughout (fun _ _ _ _ _ => trivial)
    (fun _ _ _ _ hf hstep => faithful_step_iff hf hstep) trivial (fun _ _ _ _ => rfl) events

def sampleName : Bytes := [0x61]

theorem expand_flags_shared :
    ¬ Always step (Faithful []) { db := [] } [.store 0 (.groupExpand sampleName true)] ∧
    ¬ Always step (Faithful []) { db := [] }
      [.store 0 (.ruleSet sampleName ⟨⟨[], by decide⟩, ⟨0, 1⟩, ⟨[], by decide⟩⟩)] := by
  constructor
  · intro h
    have hf := always_run h rfl [] (.providerExpand sampleName) 0 le_rfl
    exact absurd hf (by decide)
  · intro h
    have hf := always_run h rfl [] (.ruleSet sampleName) 0 le_rfl
    exact absurd hf (by decide)

end SingBox.Cache
