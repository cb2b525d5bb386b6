import SingBox.Lib.Buckets
import SingBox.Lib.Wire

namespace SingBox.Cache

open Lib.Wire
open Lib.Buckets

abbrev Db := Bucket Bytes Bytes

def ascii (s : String) : Bytes := s.toList.map fun c => UInt8.ofNat c.toNat

def bucketSelected : Bytes := ascii "selected"

def bucketExpand : Bytes := ascii "group_expand"

def bucketMode : Bytes := ascii "clash_mode"

def bucketRuleSet : Bytes := ascii "rule_set"

def bucketRDRC : Bytes := ascii "rdrc2"

def bucketNameList : List Bytes :=
  [bucketSelected, bucketExpand, bucketMode, bucketRuleSet, bucketRDRC]

def cacheIDDefault : Bytes := ascii "default"

def fakeipBucketPrefix : Bytes := ascii "fakeip_"

def cacheIDBytes (cacheID : Bytes) : Option Bytes := if cacheID = [] then none else some (0 :: cacheID)

def bucketPath (cacheID key : Bytes) : List Bytes := (cacheIDBytes cacheID).toList ++ [key]

def deleteBucket (name : Bytes) (b : Db) : Db :=
  match find name b with
  | some (.bucket _) => erase name b
  | _ => b

/-- Below a cache ID an unknown bucket has the bucket with the name of the cache ID deleted. -/
def cleanEntry (name : Bytes) (b : Db) (entry : Bytes × Node Bytes Bytes) : Db :=
  match entry.2 with
  | .bucket _ => if entry.1 ∈ bucketNameList then b else deleteBucket name b
  | .value _ => b

def cleanCacheID (name : Bytes) (b : Db) : Db := b.foldl (cleanEntry name) b

def cleanBucket (db : Db) (name : Bytes) : Db :=
  match find name db with
  | some (.bucket b) =>
    if name.head? = some 0 then Lib.Maps.set name (.bucket (cleanCacheID name b)) db
    else if name ∈ bucketNameList ∨ fakeipBucketPrefix.isPrefixOf name then db
    else erase name db
  | _ => db

def start (db : Db) : Db := (db.map Prod.fst).foldl cleanBucket db

structure Time where
  unix : UInt64
  nsec : ℕ
  deriving DecidableEq

abbrev Blob := { b : Bytes // b.length < 2 ^ 64 }

structure SavedRuleSet where
  content : Blob
  lastUpdated : Time
  lastEtag : Blob
  deriving DecidableEq

def blob : Format Blob where
  write b := writeUvarint b.1.length ++ b.1
  read := do
    let n ← readUvarint
    let b ← readFull n
    if h : b.length < 2 ^ 64 then return ⟨b, h⟩ else fail "EOF"
  reads b rest := by
    rw [List.append_assoc]
    refine (readUvarint_writeUvarint b.2 _).bind ((readFull_append b.1 rest).bind ?_)
    rw [dif_pos b.2]
    exact Reads.pure

def uint64 : Format UInt64 :=
  Format.bigEndian 8 UInt64.toNat UInt64.ofNat (fun a => a.toNat_lt) (fun a => by simp)

def SavedRuleSet.marshalBinary (s : SavedRuleSet) : Bytes :=
  1 :: (blob.write s.content ++ (uint64.write s.lastUpdated.unix ++ blob.write s.lastEtag))

def readSavedRuleSet : Reader SavedRuleSet := do
  let _version ← readByte
  let content ← blob.read
  let lastUpdated ← uint64.read
  let lastEtag ← blob.read
  return ⟨content, ⟨lastUpdated, 0⟩, lastEtag⟩

def SavedRuleSet.unmarshalBinary (data : Bytes) : Except String SavedRuleSet :=
  Prod.fst <$> readSavedRuleSet data

lemma unmarshal_marshal (s : SavedRuleSet) :
    SavedRuleSet.unmarshalBinary s.marshalBinary =
      .ok { s with lastUpdated := { s.lastUpdated with nsec := 0 } } := by
  have hetag : Reads blob.read (blob.write s.lastEtag) s.lastEtag [] := by
    have h := blob.reads s.lastEtag []
    rwa [List.append_nil] at h
  have h : Reads readSavedRuleSet s.marshalBinary
      { s with lastUpdated := { s.lastUpdated with nsec := 0 } } [] :=
    (readByte_cons 1 _).bind ((blob.reads s.content _).bind
      ((uint64.reads s.lastUpdated.unix _).bind (hetag.bind .pure)))
  rw [SavedRuleSet.unmarshalBinary, h]
  rfl

inductive Item where
  | mode
  | selected (group : Bytes)
  | groupExpand (group : Bytes)
  | providerExpand (provider : Bytes)
  | ruleSet (tag : Bytes)
  | rdrc (transportName qName : Bytes) (qType : UInt16)
  deriving DecidableEq

def rdrcKey (qName : Bytes) (qType : UInt16) : Bytes := Format.uint16.write qType ++ qName

def Item.path (cacheID : Bytes) : Item → List Bytes × Bytes
  | .mode => ([bucketMode], (cacheIDBytes cacheID).getD cacheIDDefault)
  | .selected group => (bucketPath cacheID bucketSelected, group)
  | .groupExpand group => (bucketPath cacheID bucketExpand, group)
  | .providerExpand provider => (bucketPath cacheID bucketExpand, provider)
  | .ruleSet tag => (bucketPath cacheID bucketRuleSet, tag)
  | .rdrc transportName qName qType =>
    (bucketPath cacheID bucketRDRC ++ [transportName], rdrcKey qName qType)

variable (cacheID : Bytes)

def storeItem (item : Item) (value : Bytes) (db : Db) : Except String Db :=
  let (path, key) := item.path cacheID
  if [] ∈ path then .error "bucket name required"
  else if key = [] then .error "key required"
  else if 32768 < key.length then .error "key too large"
  else put path key value db

def getItem (item : Item) (db : Db) : Option Bytes :=
  get (item.path cacheID).1 (item.path cacheID).2 db

def storeMode (mode : Bytes) : Db → Except String Db := storeItem cacheID .mode mode

def loadMode (db : Db) : Bytes := (getItem cacheID .mode db).getD []

def storeSelected (group selected : Bytes) : Db → Except String Db :=
  storeItem cacheID (.selected group) selected

def loadSelected (group : Bytes) (db : Db) : Bytes := (getItem cacheID (.selected group) db).getD []

def expandBytes (isExpand : Bool) : Bytes := if isExpand then [1] else [0]

def loadExpand : Option Bytes → Bool × Bool
  | some [b] => (b = 1, true)
  | _ => (false, false)

def storeGroupExpand (group : Bytes) (isExpand : Bool) : Db → Except String Db :=
  storeItem cacheID (.groupExpand group) (expandBytes isExpand)

def loadGroupExpand (group : Bytes) (db : Db) : Bool × Bool :=
  loadExpand (getItem cacheID (.groupExpand group) db)

def storeProviderExpand (provider : Bytes) (isExpand : Bool) : Db → Except String Db :=
  storeItem cacheID (.providerExpand provider) (expandBytes isExpand)

def loadProviderExpand (provider : Bytes) (db : Db) : Bool × Bool :=
  loadExpand (getItem cacheID (.providerExpand provider) db)

def saveRuleSet (tag : Bytes) (set : SavedRuleSet) : Db → Except String Db :=
  storeItem cacheID (.ruleSet tag) set.marshalBinary

def loadRuleSet (tag : Bytes) (db : Db) : Option SavedRuleSet :=
  match getItem cacheID (.ruleSet tag) db with
  | none => none
  | some setBinary =>
    if setBinary = [] then none
    else match SavedRuleSet.unmarshalBinary setBinary with
      | .ok savedSet => some savedSet
      | .error _ => none

def unix (t : ℕ) : UInt64 := UInt64.ofNat (t / 10 ^ 9)

def saveRDRC (rdrcTimeout now : ℕ) (transportName qName : Bytes) (qType : UInt16) : Db → Except String Db :=
  storeItem cacheID (.rdrc transportName qName qType) (uint64.write (unix (now + rdrcTimeout)))

/-- The time after which a record is expired, from a signed number of seconds; reading fewer than
eight bytes panics. -/
def expiresAt (content : Bytes) : Option ℤ :=
  if content.length < 8 then none
  else some ((UInt64.ofNat (ofBigEndian (content.take 8))).toInt64.toInt * 10 ^ 9)

inductive Rejection where
  | rejected
  | notRejected
  | expired
  | panic
  deriving DecidableEq

def rejection (now : ℕ) : Option Bytes → Rejection
  | none => .notRejected
  | some content =>
    match expiresAt content with
    | none => .panic
    | some t => if t < now then .expired else .rejected

def loadRDRC (now : ℕ) (transportName qName : Bytes) (qType : UInt16) (db : Db) : Rejection × Db :=
  let item := Item.rdrc transportName qName qType
  let r := rejection now (getItem cacheID item db)
  (r, if r = .expired then delete (item.path cacheID).1 (item.path cacheID).2 db else db)

end SingBox.Cache
