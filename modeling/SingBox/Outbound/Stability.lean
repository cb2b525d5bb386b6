import SingBox.Outbound.Selector

namespace SingBox.Groups.Selector

open Adapter Lib.Errors Lib.Table List

variable {r : Lookup} {cacheFile : Option CacheFile} {s : Selector} {first sel : Outbound}
  {entries : List (String × Outbound)}

def stored (cacheFile : Option CacheFile) (s : Selector) : Option String :=
  cacheFile.bind fun c =>
    if s.tag = "" ∨ c.loadSelected s.tag = "" then none else some (c.loadSelected s.tag)

def candidates (r : Lookup) (s : Selector) : Except String (List (String × Outbound)) := do
  let tagged ← pickTagged r s.tags
  let provided ← pickProvided r "outbound provider" s.filter s.uses
  return s.tags.zip tagged ++ provided.map fun out => (out.tag, out)

structure Favours (cacheFile : Option CacheFile) (s : Selector) (entries : List (String × Outbound))
    (sel : Outbound) : Prop where
  stored : ∀ out, (stored cacheFile s).bind (table entries) = some out → out.tag = sel.tag
  default : (Selector.stored cacheFile s).bind (table entries) = none → s.defaultTag ≠ "" →
    ∀ out, table entries s.defaultTag = some out → out.tag = sel.tag
  first : (Selector.stored cacheFile s).bind (table entries) = none → s.defaultTag = "" →
    ∀ entry, entries.head? = some entry → entry.2.tag = sel.tag

def Stable (r : Lookup) (cacheFile : Option CacheFile) (provider : String) (s : Selector) : Prop :=
  ∀ s' sel, s.updateOutbounds r cacheFile provider = .ok s' → s.selected = some sel →
    (∃ out ∈ s'.outbounds, out.tag = sel.tag) →
      ∃ out, s'.selected = some out ∧ out.tag = sel.tag

lemma cached_eq (byTag : String → Option Outbound) :
    cached cacheFile s byTag = (stored cacheFile s).bind byTag := by
  cases cacheFile with
  | none => rfl
  | some c =>
    change (if _ then _ else _) = Option.bind (if _ then _ else _) _
    split_ifs <;> rfl

lemma pickSelected_eq_ok {byTag : String → Option Outbound} :
    s.pickSelected cacheFile byTag first = .ok sel ↔
      (stored cacheFile s).bind byTag = some sel ∨
        (stored cacheFile s).bind byTag = none ∧
          (s.defaultTag = "" ∧ first = sel ∨ s.defaultTag ≠ "" ∧ byTag s.defaultTag = some sel) := by
  rw [pickSelected, cached_eq]
  cases (stored cacheFile s).bind byTag with
  | some detour => simp
  | none =>
    by_cases hdefault : s.defaultTag = ""
    · simp [hdefault]
    · cases hby : byTag s.defaultTag <;> simp [hdefault]

lemma length_mapFrom {α β : Type} {f : ℕ → α → Except String β} {i : ℕ} {l : List α} {bs : List β}
    (h : mapFrom f i l = .ok bs) : l.length = bs.length := by
  induction l generalizing i bs with
  | nil =>
    cases h
    rfl
  | cons a l ih =>
    obtain ⟨b, -, h⟩ := bind_eq_ok.1 h
    obtain ⟨rest, hrest, h⟩ := bind_eq_ok.1 h
    cases h
    rw [length_cons, length_cons, ih hrest]

lemma candidates_eq_ok : candidates r s = .ok entries ↔ ∃ tagged provided,
    pickTagged r s.tags = .ok tagged ∧ pickProvided r "outbound provider" s.filter s.uses = .ok provided ∧
      entries = s.tags.zip tagged ++ provided.map fun out => (out.tag, out) := by
  rw [candidates, bind_eq_ok]
  constructor
  · rintro ⟨tagged, htagged, h⟩
    obtain ⟨provided, hprovided, h⟩ := bind_eq_ok.1 h
    cases h
    exact ⟨tagged, provided, htagged, hprovided, rfl⟩
  · rintro ⟨tagged, provided, htagged, hprovided, rfl⟩
    exact ⟨tagged, htagged, bind_eq_ok.2 ⟨provided, hprovided, rfl⟩⟩

lemma outbounds_of_candidates {tagged provided : List Outbound} (h : pickTagged r s.tags = .ok tagged) :
    (s.tags.zip tagged ++ provided.map fun out => (out.tag, out)).map Prod.snd = tagged ++ provided := by
  rw [map_append, map_snd_zip (Nat.le_of_eq (length_mapFrom h).symm), map_map]
  exact congrArg _ (map_id _)

def withCandidates (entries : List (String × Outbound)) (selected : Outbound) (s : Selector) : Selector :=
  { s with outbounds := entries.map Prod.snd, outboundByTag := table entries, selected := some selected }

lemma pickOutbounds_nil (h : candidates r s = .ok []) :
    pickOutbounds r cacheFile s = .ok (s.withCandidates [("OUTBOUNDLESS", r.outboundless)] r.outboundless) := by
  obtain ⟨tagged, provided, htagged, hprovided, hnil⟩ := candidates_eq_ok.1 h
  have houts : tagged ++ provided = [] := by rw [← outbounds_of_candidates htagged, ← hnil, map_nil]
  refine bind_eq_ok.2 ⟨tagged, htagged, bind_eq_ok.2 ⟨provided, hprovided, ?_⟩⟩
  rw [houts]
  rfl

variable {entry : String × Outbound}

lemma pickOutbounds_cons (h : candidates r s = .ok (entry :: entries)) :
    pickOutbounds r cacheFile s = (s.pickSelected cacheFile (table (entry :: entries)) entry.2).map
      fun selected => s.withCandidates (entry :: entries) selected := by
  obtain ⟨tagged, provided, htagged, hprovided, hcons⟩ := candidates_eq_ok.1 h
  have houts : tagged ++ provided = entry.2 :: entries.map Prod.snd := by
    rw [← outbounds_of_candidates htagged, ← hcons, map_cons]
  rw [pickOutbounds, htagged, hprovided]
  simp only [bind, Except.bind]
  rw [houts, ← hcons]
  dsimp only
  cases s.pickSelected cacheFile (table (entry :: entries)) entry.2 <;> rfl

variable {s' : Selector}

lemma candidates_of_pickOutbounds (h : pickOutbounds r cacheFile s = .ok s') :
    ∃ entries, candidates r s = .ok entries := by
  obtain ⟨tagged, htagged, h⟩ := bind_eq_ok.1 h
  obtain ⟨provided, hprovided, -⟩ := bind_eq_ok.1 h
  exact ⟨_, candidates_eq_ok.2 ⟨tagged, provided, htagged, hprovided, rfl⟩⟩

variable {provider : String}

lemma updateOutbounds_eq_ok (h : s.providers.contains provider) :
    s.updateOutbounds r cacheFile provider = .ok s' ↔ pickOutbounds r cacheFile s = .ok s' := by
  rw [updateOutbounds, if_pos h]
  cases pickOutbounds r cacheFile s <;> simp

lemma stable_iff_of_candidates (hprovider : s.providers.contains provider)
    (hcandidates : candidates r s = .ok (entry :: entries)) (hsel : s.selected = some sel)
    (htag : ∃ out ∈ (entry :: entries).map Prod.snd, out.tag = sel.tag) :
    Stable r cacheFile provider s ↔ ∀ selected,
      s.pickSelected cacheFile (table (entry :: entries)) entry.2 = .ok selected → selected.tag = sel.tag := by
  constructor
  · intro h selected hselected
    have hupdate : s.updateOutbounds r cacheFile provider =
        .ok (s.withCandidates (entry :: entries) selected) := by
      rw [updateOutbounds_eq_ok hprovider, pickOutbounds_cons hcandidates, hselected]
      rfl
    obtain ⟨out, hout, heq⟩ := h _ sel hupdate hsel htag
    cases hout
    exact heq
  · intro h s' sel' hupdate hsel' _
    rw [hsel] at hsel'
    cases hsel'
    rw [updateOutbounds_eq_ok hprovider] at hupdate
    rw [pickOutbounds_cons hcandidates] at hupdate
    obtain ⟨selected, hselected, rfl⟩ := map_eq_ok.1 hupdate
    exact ⟨selected, rfl, h selected hselected⟩

lemma forall_pickSelected_iff :
    (∀ selected, s.pickSelected cacheFile (table (entry :: entries)) entry.2 = .ok selected →
      selected.tag = sel.tag) ↔ Favours cacheFile s (entry :: entries) sel := by
  simp only [pickSelected_eq_ok]
  constructor
  · intro h
    refine ⟨fun out hout => h out (.inl hout), fun hnone hdefault out hout => ?_, ?_⟩
    · exact h out (.inr ⟨hnone, .inr ⟨hdefault, hout⟩⟩)
    · rintro hnone hdefault _ ⟨⟩
      exact h entry.2 (.inr ⟨hnone, .inl ⟨hdefault, rfl⟩⟩)
  · rintro h selected (hstored | ⟨hnone, ⟨hdefault, rfl⟩ | ⟨hdefault, hout⟩⟩)
    · exact h.stored selected hstored
    · exact h.first hnone hdefault entry rfl
    · exact h.default hnone hdefault selected hout

theorem selection_stable_iff (r : Lookup) (cacheFile : Option CacheFile) (provider : String) (s : Selector) :
    Stable r cacheFile provider s ↔ ∀ entries sel, s.providers.contains provider →
      candidates r s = .ok entries → s.selected = some sel →
      (∃ out ∈ entries.map Prod.snd, out.tag = sel.tag) → Favours cacheFile s entries sel := by
  constructor
  · intro h entries sel hprovider hcandidates hsel htag
    cases entries with
    | nil =>
      obtain ⟨out, hout, -⟩ := htag
      cases hout
    | cons entry entries =>
      rw [← forall_pickSelected_iff, ← stable_iff_of_candidates hprovider hcandidates hsel htag]
      exact h
  · intro h s' sel hupdate hsel htag
    by_cases hprovider : s.providers.contains provider
    · have hpick := (updateOutbounds_eq_ok hprovider).1 hupdate
      obtain ⟨entries, hcandidates⟩ := candidates_of_pickOutbounds hpick
      cases entries with
      | nil =>
        rw [pickOutbounds_nil hcandidates] at hpick
        cases hpick
        obtain ⟨out, hout, heq⟩ := htag
        rw [mem_singleton.1 hout] at heq
        exact ⟨_, rfl, heq⟩
      | cons entry entries =>
        have houts := hpick
        rw [pickOutbounds_cons hcandidates] at houts
        obtain ⟨selected, -, rfl⟩ := map_eq_ok.1 houts
        have hfavours := h _ sel hprovider hcandidates hsel htag
        rw [← forall_pickSelected_iff, ← stable_iff_of_candidates hprovider hcandidates hsel htag] at hfavours
        exact hfavours _ sel hupdate hsel htag
    · rw [updateOutbounds, if_neg hprovider] at hupdate
      cases hupdate
      exact ⟨sel, hsel, rfl⟩

def fallenBack : Selector where
  id := 0
  tag := "proxy"
  uses := ["p"]
  providers := ["p"]
  defaultTag := "a"
  selected := some { id := 2, tag := "b", type := .trojan }

def twoOutbounds : Lookup where
  outbound _ := none
  outboundless := { id := 9, tag := "OUTBOUNDLESS", type := .direct }
  providerTags := ["p"]
  provider _ := some [{ id := 3, tag := "a", type := .trojan }, { id := 4, tag := "b", type := .trojan }]

theorem selection_reverts :
    (∃ s', fallenBack.updateOutbounds twoOutbounds none "p" = .ok s' ∧
      s'.outbounds = [{ id := 3, tag := "a", type := .trojan }, { id := 4, tag := "b", type := .trojan }] ∧
      s'.selected = some { id := 3, tag := "a", type := .trojan }) ∧
    ¬ Stable twoOutbounds none "p" fallenBack := by
  have hupdate : ∃ s', fallenBack.updateOutbounds twoOutbounds none "p" = .ok s' ∧
      s'.outbounds = [{ id := 3, tag := "a", type := .trojan }, { id := 4, tag := "b", type := .trojan }] ∧
      s'.selected = some { id := 3, tag := "a", type := .trojan } := ⟨_, rfl, rfl, rfl⟩
  refine ⟨hupdate, fun h => ?_⟩
  obtain ⟨s', hok, houts, hselected⟩ := hupdate
  obtain ⟨out, hout, htag⟩ := h s' _ hok rfl ⟨{ id := 4, tag := "b", type := .trojan }, by simp [houts], rfl⟩
  rw [hselected] at hout
  cases hout
  exact absurd htag (by decide)

end SingBox.Groups.Selector
