import SingBox.Lib.Errors
import SingBox.Lib.Maps

/-! Stores of nested maps: an entry of a bucket is a value or a bucket again. -/

namespace SingBox.Lib.Buckets

inductive Node (ν β : Type) where
  | value (v : β)
  | bucket (entries : List (ν × Node ν β))

abbrev Bucket (ν β : Type) := List (ν × Node ν β)

variable {ν β : Type} [DecidableEq ν]

def find (name : ν) (b : Bucket ν β) : Option (Node ν β) :=
  (b.find? fun entry => entry.1 = name).map Prod.snd

def erase (name : ν) (b : Bucket ν β) : Bucket ν β := b.filter (·.1 ≠ name)

def put : List ν → ν → β → Bucket ν β → Except String (Bucket ν β)
  | [], key, v, b =>
    match find key b with
    | some (.bucket _) => .error "incompatible value"
    | _ => .ok (Maps.set key (.value v) b)
  | name :: path, key, v, b =>
    match find name b with
    | some (.value _) => .error "incompatible value"
    | some (.bucket inner) => (fun inner' => Maps.set name (.bucket inner') b) <$> put path key v inner
    | none => (fun inner' => Maps.set name (.bucket inner') b) <$> put path key v []

def get : List ν → ν → Bucket ν β → Option β
  | [], key, b =>
    match find key b with
    | some (.value v) => some v
    | _ => none
  | name :: path, key, b =>
    match find name b with
    | some (.bucket inner) => get path key inner
    | _ => none

def delete : List ν → ν → Bucket ν β → Bucket ν β
  | [], key, b =>
    match find key b with
    | some (.bucket _) => b
    | _ => erase key b
  | name :: path, key, b =>
    match find name b with
    | some (.bucket inner) => Maps.set name (.bucket (delete path key inner)) b
    | _ => b

variable {name name' key key' : ν} {n : Node ν β} {b b' : Bucket ν β} {v : β} {path path' : List ν}

lemma find_cons {x : ν × Node ν β} :
    find name (x :: b) = if x.1 = name then some x.2 else find name b := by
  unfold find
  by_cases h : x.1 = name
  · simp [h]
  · simp [h]

lemma find_erase_of_ne (h : name' ≠ name) : find name' (erase name b) = find name' b := by
  induction b with
  | nil => rfl
  | cons x b ih =>
    unfold erase at *
    by_cases hx : x.1 = name
    · rw [List.filter_cons_of_neg (by simp [hx]), ih, find_cons, if_neg (hx ▸ h.symm)]
    · rw [List.filter_cons_of_pos (by simp [hx]), find_cons, find_cons, ih]

lemma find_erase_self : find name (erase name b) = none := by
  unfold find erase
  rw [Option.map_eq_none_iff, List.find?_eq_none]
  intro x hx
  simpa using (List.mem_filter.1 hx).2

lemma find_set_self : find name (Maps.set name n b) = some n := by
  rw [Maps.set, find_cons, if_pos rfl]

lemma find_set_of_ne (h : name' ≠ name) : find name' (Maps.set name n b) = find name' b := by
  rw [Maps.set, find_cons, if_neg h.symm]
  exact find_erase_of_ne h

lemma get_nil : get path key ([] : Bucket ν β) = none := by
  cases path <;> rfl

lemma get_put_self (h : put path key v b = .ok b') : get path key b' = some v := by
  induction path generalizing b b' with
  | nil =>
    unfold put at h
    split at h
    · cases h
    · cases h
      rw [get, find_set_self]
  | cons name path ih =>
    unfold put at h
    split at h
    · cases h
    · obtain ⟨inner', hput, rfl⟩ := Errors.map_eq_ok.1 h
      rw [get, find_set_self]
      exact ih hput
    · obtain ⟨inner', hput, rfl⟩ := Errors.map_eq_ok.1 h
      rw [get, find_set_self]
      exact ih hput

lemma get_set_of_ne (h : (path' ++ [key']).head? ≠ some name) :
    get path' key' (Maps.set name n b) = get path' key' b := by
  cases path' with
  | nil =>
    have hne : key' ≠ name := fun heq => h (by simp [heq])
    rw [get, get, find_set_of_ne hne]
  | cons name' path' =>
    have hne : name' ≠ name := fun heq => h (by simp [heq])
    rw [get, get, find_set_of_ne hne]

lemma get_erase_of_ne (h : (path' ++ [key']).head? ≠ some name) :
    get path' key' (erase name b) = get path' key' b := by
  cases path' with
  | nil =>
    have hne : key' ≠ name := fun heq => h (by simp [heq])
    rw [get, get, find_erase_of_ne hne]
  | cons name' path' =>
    have hne : name' ≠ name := fun heq => h (by simp [heq])
    rw [get, get, find_erase_of_ne hne]

lemma get_set_bucket {inner : Bucket ν β} :
    get (name :: path') key' (Maps.set name (.bucket inner) b) = get path' key' inner := by
  rw [get, find_set_self]

lemma get_put_of_ne (h : put path key v b = .ok b') (hne : path' ++ [key'] ≠ path ++ [key]) :
    get path' key' b' = get path' key' b := by
  induction path generalizing b b' path' with
  | nil =>
    unfold put at h
    split at h
    · cases h
    · next hfind =>
      cases h
      by_cases hhead : (path' ++ [key']).head? = some key
      · -- only a longer path can begin with the key, and there was no bucket
        cases path' with
        | nil => exact absurd (by simpa using hhead) hne
        | cons name path' =>
          obtain rfl : name = key := by simpa using hhead
          rw [get, find_set_self, get]
          cases hold : find name b with
          | none => rfl
          | some n =>
            cases n with
            | value v => rfl
            | bucket inner => exact absurd hold (hfind inner)
      · exact get_set_of_ne hhead
  | cons name path ih =>
    have hstep {inner inner' : Bucket ν β} (hput : put path key v inner = .ok inner')
        (hold : ∀ p k, get (name :: p) k b = get p k inner) (hvalue : get [] name b = none) :
        get path' key' (Maps.set name (.bucket inner') b) = get path' key' b := by
      by_cases hhead : (path' ++ [key']).head? = some name
      · cases path' with
        | nil =>
          obtain rfl : key' = name := by simpa using hhead
          rw [get, find_set_self, hvalue]
        | cons name' path' =>
          obtain rfl : name' = name := by simpa using hhead
          rw [get_set_bucket, hold]
          exact ih hput (by simpa using hne)
      · exact get_set_of_ne hhead
    unfold put at h
    split at h
    · cases h
    · next inner hfind =>
      obtain ⟨inner', hput, rfl⟩ := Errors.map_eq_ok.1 h
      exact hstep hput (fun p k => by rw [get, hfind]) (by rw [get, hfind])
    · next hfind =>
      obtain ⟨inner', hput, rfl⟩ := Errors.map_eq_ok.1 h
      exact hstep hput (fun p k => by rw [get, hfind, get_nil]) (by rw [get, hfind])

lemma get_delete_self : get path key (delete path key b) = none := by
  induction path generalizing b with
  | nil =>
    rw [delete]
    split
    · next inner hfind => rw [get, hfind]
    · rw [get, find_erase_self]
  | cons name path ih =>
    rw [delete]
    cases hfind : find name b with
    | none => rw [get, hfind]
    | some n =>
      cases n with
      | value v => rw [get, hfind]
      | bucket inner => rw [get_set_bucket, ih]

lemma get_delete_of_ne (hne : path' ++ [key'] ≠ path ++ [key]) :
    get path' key' (delete path key b) = get path' key' b := by
  induction path generalizing b path' with
  | nil =>
    rw [delete]
    split
    · rfl
    · next hfind =>
      cases path' with
      | nil =>
        have hne' : key' ≠ key := fun heq => hne (by simp [heq])
        rw [get, get, find_erase_of_ne hne']
      | cons name path' =>
        by_cases hname : name = key
        · subst hname
          rw [get, find_erase_self, get]
          cases hold : find name b with
          | none => rfl
          | some n =>
            cases n with
            | value v => rfl
            | bucket inner => exact absurd hold (hfind inner)
        · rw [get, get, find_erase_of_ne hname]
  | cons name path ih =>
    rw [delete]
    cases hfind : find name b with
    | none => rfl
    | some n =>
      cases n with
      | value v => rfl
      | bucket inner =>
        by_cases hhead : (path' ++ [key']).head? = some name
        · cases path' with
          | nil =>
            obtain rfl : key' = name := by simpa using hhead
            rw [get, find_set_self, get, hfind]
          | cons name' path' =>
            obtain rfl : name' = name := by simpa using hhead
            rw [get_set_bucket, ih (by simpa using hne), get, hfind]
        · exact get_set_of_ne hhead

end SingBox.Lib.Buckets
