import SingBox.Outbound.Groups

namespace SingBox.Groups

open Adapter Lib.Errors Lib.Table List

structure CacheFile where
  loadSelected : String → String
  writable : Bool := true

def CacheFile.storeSelected (c : CacheFile) (group selected : String) : CacheFile :=
  if c.writable then { c with loadSelected := Function.update c.loadSelected group selected } else c

structure Selector extends GroupAdapter where
  defaultTag : String := ""
  fallbackByDelayTest : Bool := false
  outbounds : List Outbound := []
  outboundByTag : String → Option Outbound := fun _ => none
  selected : Option Outbound := none

namespace Selector

def table (entries : List (String × Outbound)) (tag : String) : Option Outbound :=
  (fill Prod.fst entries tag).map Prod.snd

def cached (cacheFile : Option CacheFile) (s : Selector) (byTag : String → Option Outbound) :
    Option Outbound := do
  let cacheFile ← cacheFile
  if s.tag = "" ∨ cacheFile.loadSelected s.tag = "" then none
  else byTag (cacheFile.loadSelected s.tag)

def pickSelected (cacheFile : Option CacheFile) (s : Selector) (byTag : String → Option Outbound)
    (first : Outbound) : Except String Outbound :=
  match cached cacheFile s byTag with
  | some detour => .ok detour
  | none =>
    if s.defaultTag = "" then .ok first
    else match byTag s.defaultTag with
      | some detour => .ok detour
      | none => .error ("default outbound not found: " ++ s.defaultTag)

def pickOutbounds (r : Lookup) (cacheFile : Option CacheFile) (s : Selector) :
    Except String Selector := do
  let tagged ← pickTagged r s.tags
  let provided ← pickProvided r "outbound provider" s.filter s.uses
  match tagged ++ provided with
  | [] => return { s with
      outbounds := [r.outboundless]
      outboundByTag := table [("OUTBOUNDLESS", r.outboundless)]
      selected := some r.outboundless }
  | first :: rest => do
    let byTag := table (s.tags.zip tagged ++ provided.map fun out => (out.tag, out))
    let selected ← s.pickSelected cacheFile byTag first
    return { s with outbounds := first :: rest, outboundByTag := byTag, selected := some selected }

def start (r : Lookup) (cacheFile : Option CacheFile) (s : Selector) : Except String Selector :=
  let s := { s with uses := s.resolveUses r }
  pickOutbounds r cacheFile { s with providers := s.uses }

def updateOutbounds (r : Lookup) (cacheFile : Option CacheFile) (tag : String) (s : Selector) :
    Except String Selector :=
  if s.providers.contains tag then
    match pickOutbounds r cacheFile s with
    | .ok s => .ok s
    | .error _ => .error ("update oubounds failed: " ++ s.tag)
  else .ok s

def setSelected (cacheFile : Option CacheFile) (detour : Outbound) (s : Selector) :
    Selector × Option CacheFile :=
  if s.selected = some detour then (s, cacheFile)
  else
    ({ s with selected := some detour },
      if s.tag = "" then cacheFile else cacheFile.map fun c => c.storeSelected s.tag detour.tag)

def selectOutbound (cacheFile : Option CacheFile) (tag : String) (s : Selector) :
    Bool × Selector × Option CacheFile :=
  match s.outboundByTag tag with
  | none => (false, s, cacheFile)
  | some detour => (true, s.setSelected cacheFile detour)

def minDelayStep (delay : Outbound → Option UInt16) (best : Outbound × Option UInt16)
    (detour : Outbound) : Outbound × Option UInt16 :=
  match delay detour with
  | none => best
  | some d => if best.2.all (fun m => d < m) then (detour, some d) else best

/-- No value stands for the panic on an empty list. -/
def getMinDelayDetour (delay : Outbound → Option UInt16) (s : Selector) : Option (Outbound × Bool) :=
  match s.outbounds with
  | [] => none
  | first :: rest =>
    let best := (first :: rest).foldl (minDelayStep delay) (first, none)
    some (best.1, best.2.isSome)

def now (s : Selector) : String := (s.selected.map Outbound.tag).getD ""

structure Consistent (s : Selector) : Prop where
  selected : ∀ out, s.selected = some out → out ∈ s.outbounds
  outboundByTag : ∀ tag out, s.outboundByTag tag = some out → out ∈ s.outbounds

variable {r : Lookup} {cacheFile : Option CacheFile} {s s' : Selector}

lemma table_mem {entries : List (String × Outbound)} {tag : String} {out : Outbound}
    (h : table entries tag = some out) : out ∈ entries.map Prod.snd := by
  obtain ⟨entry, hentry, rfl⟩ := Option.map_eq_some_iff.1 h
  exact mem_map_of_mem (fill_mem Prod.fst entries tag entry hentry).1

variable {outs : List Outbound}

lemma pickSelected_mem {byTag : String → Option Outbound} {first selected : Outbound}
    (hby : ∀ tag out, byTag tag = some out → out ∈ outs) (hfirst : first ∈ outs)
    (h : s.pickSelected cacheFile byTag first = .ok selected) : selected ∈ outs := by
  rw [pickSelected] at h
  split at h
  · rename_i detour hcached
    cases h
    obtain ⟨c, _, hc⟩ := Option.bind_eq_some_iff.1 hcached
    split_ifs at hc
    exact hby _ _ hc
  · split_ifs at h
    · cases h
      exact hfirst
    · split at h
      · rename_i detour hdetour
        cases h
        exact hby _ _ hdetour
      · cases h

lemma pickOutbounds_spec (h : pickOutbounds r cacheFile s = .ok s') :
    s'.Consistent ∧ s'.outbounds ≠ [] ∧ s'.toGroupAdapter = s.toGroupAdapter ∧
      ∀ out ∈ s'.outbounds, Pickable r s.tags out := by
  obtain ⟨tagged, htagged, h⟩ := bind_eq_ok.1 h
  obtain ⟨provided, hprovided, h⟩ := bind_eq_ok.1 h
  have hpick : ∀ out ∈ tagged ++ provided, Pickable r s.tags out := by
    intro out hout
    rcases mem_append.1 hout with hout | hout
    · exact pickTagged_pickable htagged out hout
    · exact pickProvided_pickable hprovided out hout
  split at h
  · cases h
    refine ⟨⟨?_, ?_⟩, by simp, rfl, ?_⟩
    · rintro out hout
      cases hout
      exact mem_singleton.2 rfl
    · intro tag out hout
      exact table_mem hout
    · intro out hout
      exact .inr (.inr (mem_singleton.1 hout))
  · rename_i first rest hlist
    obtain ⟨selected, hselected, h⟩ := bind_eq_ok.1 h
    cases h
    have hby : ∀ tag out, table (s.tags.zip tagged ++ provided.map fun out => (out.tag, out)) tag =
        some out → out ∈ first :: rest := by
      intro tag out hout
      have hmem := table_mem hout
      rw [map_append, map_map, mem_append] at hmem
      rw [← hlist, mem_append]
      rcases hmem with hmem | hmem
      · obtain ⟨⟨key, out'⟩, hzip, rfl⟩ := mem_map.1 hmem
        exact .inl (of_mem_zip hzip).2
      · obtain ⟨out', hout', rfl⟩ := mem_map.1 hmem
        exact .inr hout'
    refine ⟨⟨?_, hby⟩, by simp, rfl, ?_⟩
    · rintro out hout
      cases hout
      exact pickSelected_mem hby mem_cons_self hselected
    · rw [← hlist]
      exact hpick

variable {detour : Outbound}

lemma Consistent.setSelected (h : s.Consistent) (hd : detour ∈ s.outbounds) :
    (s.setSelected cacheFile detour).1.Consistent := by
  rw [Selector.setSelected]
  by_cases hsel : s.selected = some detour
  · rwa [if_pos hsel]
  · rw [if_neg hsel]
    refine ⟨?_, h.outboundByTag⟩
    rintro out hout
    cases hout
    exact hd

@[simp] lemma setSelected_outbounds (detour : Outbound) :
    (s.setSelected cacheFile detour).1.outbounds = s.outbounds := by
  rw [Selector.setSelected]
  split_ifs <;> rfl

@[simp] lemma setSelected_adapter (detour : Outbound) :
    (s.setSelected cacheFile detour).1.toGroupAdapter = s.toGroupAdapter := by
  rw [Selector.setSelected]
  split_ifs <;> rfl

variable {delay : Outbound → Option UInt16}

lemma minDelayStep_mem {l : List Outbound} {best : Outbound × Option UInt16} (hbest : best.1 ∈ outs)
    (hl : ∀ out ∈ l, out ∈ outs) : (l.foldl (minDelayStep delay) best).1 ∈ outs := by
  induction l generalizing best with
  | nil => exact hbest
  | cons detour l ih =>
    refine ih ?_ fun out hout => hl out (mem_cons_of_mem _ hout)
    rw [minDelayStep]
    split
    · exact hbest
    · split_ifs
      · exact hl detour mem_cons_self
      · exact hbest

lemma getMinDelayDetour_mem {ok : Bool} (h : s.getMinDelayDetour delay = some (detour, ok)) :
    detour ∈ s.outbounds := by
  rw [getMinDelayDetour] at h
  split at h
  · cases h
  · rename_i first rest hlist
    cases h
    rw [hlist]
    exact minDelayStep_mem mem_cons_self fun _ hout => hout

end Selector

end SingBox.Groups
