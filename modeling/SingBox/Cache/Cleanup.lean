import SingBox.Cache.Isolation

namespace SingBox.Cache

open Lib.Wire Lib.Buckets List

def cacheIDName (name : Bytes) : Prop := name.head? = some 0

def keptName (name : Bytes) : Prop := name ∈ bucketNameList ∨ fakeipBucketPrefix.isPrefixOf name = true

/-- What the start of a cache file is to leave of a database. -/
structure CleanedUp (db db' : Db) : Prop where
  unknown : ∀ name b, find name db = some (.bucket b) → ¬ cacheIDName name → ¬ keptName name →
    find name db' = none
  nested : ∀ name b, find name db = some (.bucket b) → cacheIDName name →
    ∃ b', find name db' = some (.bucket b') ∧
      (∀ key inner, find key b = some (.bucket inner) → key ∉ bucketNameList → find key b' = none) ∧
      ∀ key, (∀ inner, find key b = some (.bucket inner) → key ∈ bucketNameList) → find key b' = find key b
  kept : ∀ name, ¬ cacheIDName name → keptName name → find name db' = find name db

variable {name key : Bytes} {b db : Db}

lemma not_mem_bucketNameList (h : cacheIDName name) : name ∉ bucketNameList := by
  intro hmem
  simp only [bucketNameList, mem_cons, not_mem_nil, or_false] at hmem
  unfold cacheIDName at h
  rcases hmem with rfl | rfl | rfl | rfl | rfl <;> revert h <;> decide

lemma find_deleteBucket_self {inner : Db} (h : find name b = some (.bucket inner)) :
    find name (deleteBucket name b) = none := by
  rw [deleteBucket, h]
  exact find_erase_self

lemma find_deleteBucket_of_ne (h : key = name → ∀ inner, find name b ≠ some (.bucket inner)) :
    find key (deleteBucket name b) = find key b := by
  unfold deleteBucket
  split
  · next inner hfind => exact find_erase_of_ne fun hkey => h hkey inner hfind
  · rfl

lemma deleteBucket_of_find (h : ∀ inner, find name b ≠ some (.bucket inner)) : deleteBucket name b = b := by
  unfold deleteBucket
  split
  · next inner hfind => exact absurd hfind (h inner)
  · rfl

lemma deleteBucket_deleteBucket : deleteBucket name (deleteBucket name b) = deleteBucket name b := by
  by_cases h : ∃ inner, find name b = some (.bucket inner)
  · obtain ⟨inner, h⟩ := h
    exact deleteBucket_of_find fun _ => by rw [find_deleteBucket_self h]; nofun
  · have hname := deleteBucket_of_find fun inner hfind => h ⟨inner, hfind⟩
    rw [hname, hname]

def unknownBucket (entry : Bytes × Node Bytes Bytes) : Prop :=
  entry.1 ∉ bucketNameList ∧ ∃ inner, entry.2 = .bucket inner

lemma foldl_cleanEntry (l : Db) : l.foldl (cleanEntry name) b = b ∧ (∀ entry ∈ l, ¬ unknownBucket entry) ∨
    l.foldl (cleanEntry name) b = deleteBucket name b ∧ ∃ entry ∈ l, unknownBucket entry := by
  induction l generalizing b with
  | nil => exact .inl ⟨rfl, by simp⟩
  | cons entry l ih =>
    rw [foldl_cons]
    by_cases h : unknownBucket entry
    · obtain ⟨hname, inner, hinner⟩ := h
      have hentry : cleanEntry name b entry = deleteBucket name b := by rw [cleanEntry, hinner, if_neg hname]
      rw [hentry]
      refine .inr ⟨?_, entry, mem_cons_self, hname, inner, hinner⟩
      rcases ih with ⟨heq, -⟩ | ⟨heq, -⟩
      · exact heq
      · exact heq.trans deleteBucket_deleteBucket
    · have hentry : cleanEntry name b entry = b := by
        unfold cleanEntry
        split
        · next inner hinner => exact if_pos (not_not.1 fun hname => h ⟨hname, inner, hinner⟩)
        · rfl
      rw [hentry]
      rcases ih with ⟨heq, hall⟩ | ⟨heq, e, he, hu⟩
      · exact .inl ⟨heq, by simpa [h] using hall⟩
      · exact .inr ⟨heq, e, mem_cons_of_mem _ he, hu⟩

lemma mem_of_find {n : Node Bytes Bytes} (h : find name b = some n) : (name, n) ∈ b := by
  obtain ⟨entry, hfind, rfl⟩ := Option.map_eq_some_iff.1 h
  have hname : entry.1 = name := by simpa using find?_some hfind
  exact hname ▸ mem_of_find?_eq_some hfind

/-- Of the buckets below a cache ID only one with the name of the cache ID itself is deleted. -/
lemma cleanCacheID_eq (h : cacheIDName name) : cleanCacheID name b = deleteBucket name b := by
  rcases foldl_cleanEntry b with ⟨heq, hall⟩ | ⟨heq, -⟩
  · refine heq.trans (deleteBucket_of_find fun inner hfind => ?_).symm
    exact hall _ (mem_of_find hfind) ⟨not_mem_bucketNameList h, inner, rfl⟩
  · exact heq

open Classical in
noncomputable def cleanNode (name : Bytes) : Option (Node Bytes Bytes) → Option (Node Bytes Bytes)
  | some (.bucket b) =>
    if cacheIDName name then some (.bucket (deleteBucket name b))
    else if keptName name then some (.bucket b) else none
  | n => n

lemma cleanNode_cleanNode (n : Option (Node Bytes Bytes)) :
    cleanNode name (cleanNode name n) = cleanNode name n := by
  obtain _ | _ | b := n
  · rfl
  · rfl
  · simp only [cleanNode]
    split_ifs
    · simp only [deleteBucket_deleteBucket]
    · rfl
    · rfl

lemma find_cleanBucket_self : find name (cleanBucket db name) = cleanNode name (find name db) := by
  unfold cleanBucket
  cases hfind : find name db with
  | none => exact hfind
  | some n =>
    cases n with
    | value v => exact hfind
    | bucket b =>
      by_cases h₁ : cacheIDName name
      · exact (congrArg _ (if_pos h₁)).trans (find_set_self.trans (by simp [cleanNode, h₁, cleanCacheID_eq]))
      · by_cases h₂ : keptName name
        · exact (congrArg _ ((if_neg h₁).trans (if_pos h₂))).trans (hfind.trans (by simp [cleanNode, h₁, h₂]))
        · exact (congrArg _ ((if_neg h₁).trans (if_neg h₂))).trans
            (find_erase_self.trans (by simp [cleanNode, h₁, h₂]))

lemma find_cleanBucket_of_ne (h : key ≠ name) : find key (cleanBucket db name) = find key db := by
  unfold cleanBucket
  split
  · split_ifs
    · exact find_set_of_ne h
    · rfl
    · exact find_erase_of_ne h
  · rfl

lemma find_foldl_cleanBucket (names : List Bytes) : find key (names.foldl cleanBucket db) =
    if key ∈ names then cleanNode key (find key db) else find key db := by
  induction names generalizing db with
  | nil => rfl
  | cons name names ih =>
    rw [foldl_cons, ih]
    by_cases hname : key = name
    · subst hname
      rw [find_cleanBucket_self, cleanNode_cleanNode, ite_self, if_pos mem_cons_self]
    · rw [find_cleanBucket_of_ne hname]
      simp [hname]

lemma find_start : find key (start db) = cleanNode key (find key db) := by
  rw [start, find_foldl_cleanBucket]
  split_ifs with h
  · rfl
  · cases hfind : find key db with
    | none => rfl
    | some n => exact absurd (mem_map.2 ⟨_, mem_of_find hfind, rfl⟩) h

theorem cleaned_up_iff (db : Db) : CleanedUp db (start db) ↔
    ∀ name b, find name db = some (.bucket b) → cacheIDName name →
      ∀ key inner, find key b = some (.bucket inner) → key ∈ bucketNameList ∨ key = name := by
  have hnested : ∀ name b, find name db = some (.bucket b) → cacheIDName name →
      find name (start db) = some (.bucket (deleteBucket name b)) := by
    intro name b hfind hname
    rw [find_start, hfind]
    exact if_pos hname
  constructor
  · intro h name b hfind hname key inner hkey
    obtain ⟨b', hb', hgone, -⟩ := h.nested name b hfind hname
    obtain rfl : deleteBucket name b = b' := by simpa using (hnested name b hfind hname).symm.trans hb'
    by_contra hne
    rw [not_or] at hne
    have hnone := hgone key inner hkey hne.1
    rw [find_deleteBucket_of_ne fun h => absurd h hne.2, hkey] at hnone
    cases hnone
  · intro h
    refine ⟨?_, ?_, ?_⟩
    · intro name b hfind hname hkept
      rw [find_start, hfind]
      exact (if_neg hname).trans (if_neg hkept)
    · intro name b hfind hname
      refine ⟨_, hnested name b hfind hname, fun key inner hkey hunknown => ?_, fun key hknown => ?_⟩
      · obtain rfl := (h name b hfind hname key inner hkey).resolve_left hunknown
        exact find_deleteBucket_self hkey
      · refine find_deleteBucket_of_ne ?_
        rintro rfl inner hkey
        exact not_mem_bucketNameList hname (hknown inner hkey)
    · intro name hname hkept
      rw [find_start]
      unfold cleanNode
      split
      · next b hfind =>
        rw [hfind]
        exact (if_neg hname).trans (if_pos hkept)
      · rfl

def nestedBucket : Db := [([0, 1], .bucket [([9], .bucket [])])]

theorem nested_bucket_left_behind :
    start nestedBucket = nestedBucket ∧ ¬ CleanedUp nestedBucket (start nestedBucket) := by
  refine ⟨rfl, fun h => ?_⟩
  obtain ⟨b', hb', hgone, -⟩ := h.nested [0, 1] _ rfl rfl
  cases hb'
  cases hgone [9] [] rfl (by decide)

theorem start_keeps_items (db : Db) : (∀ name, find name (start (start db)) = find name (start db)) ∧
    ∀ cacheID now item, load cacheID now (start db) item = load cacheID now db item :=
  ⟨fun _ => by rw [find_start, find_start, cleanNode_cleanNode], fun _ _ _ => load_congr getItem_start⟩

end SingBox.Cache
