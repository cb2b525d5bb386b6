import SingBox.Lib.Runs
import SingBox.Outbound.System

namespace SingBox.Groups

open Adapter Lib.Errors Lib.Runs Lib.Table URLTest List State

def State.Consistent (s : State) : Prop := ∀ g ∈ s.groups, g.Consistent

def NotSelf (id : ℕ) (out : Outbound) : Prop := isGroup out = true → out.id ≠ id

structure State.WellFormed (s : State) : Prop where
  ids : (s.groups.map Group.id).Nodup
  outboundless : isGroup s.outboundless = false
  providers : ∀ p ∈ s.providers, ∀ out ∈ p.outbounds, isGroup out = false
  tags : ∀ g ∈ s.groups, ∀ tag ∈ g.adapter.tags, ∀ out, s.outboundByTag tag = some out →
    NotSelf g.id out
  members : ∀ g ∈ s.groups, ∀ out ∈ g.outbounds, NotSelf g.id out
  byTag : ∀ sel, Group.selector sel ∈ s.groups → ∀ tag out, sel.outboundByTag tag = some out →
    out ∈ sel.outbounds

namespace State

variable {s : State} {g g₀ : Group} {id : ℕ}

lemma find_mem (h : s.find id = some g) : g ∈ s.groups ∧ g.id = id :=
  ⟨mem_of_find?_eq_some h, by simpa using find?_some h⟩

lemma mem_put {h : Group} (hmem : h ∈ (s.put g).groups) : h = g ∨ h ∈ s.groups := by
  obtain ⟨h', hh', rfl⟩ := mem_map.1 hmem
  split_ifs
  · exact .inl rfl
  · exact .inr hh'

lemma self_mem_put (h₀ : g₀ ∈ s.groups) (hid : g₀.id = g.id) : g ∈ (s.put g).groups :=
  mem_map.2 ⟨g₀, h₀, if_pos hid⟩

lemma ids_put : (s.put g).groups.map Group.id = s.groups.map Group.id := by
  rw [put, map_map]
  refine map_congr_left fun h _ => ?_
  rw [Function.comp_apply]
  split_ifs with hid
  · exact hid.symm
  · rfl

lemma find_put (id : ℕ) :
    (s.put g).find id = (s.find id).map fun h => if h.id = g.id then g else h := by
  rw [find, put, find?_map]
  congr 2
  funext h
  rw [Function.comp_apply]
  split_ifs with hid
  · rw [hid]
  · rfl

lemma consistent_put (hs : s.Consistent) (h₀ : g₀ ∈ s.groups) (hid : g₀.id = g.id) :
    (s.put g).Consistent ↔ g.Consistent := by
  constructor
  · intro h
    exact h g (self_mem_put h₀ hid)
  · intro h h' hmem
    rcases mem_put hmem with rfl | hmem
    · exact h
    · exact hs h' hmem

lemma WellFormed.put (hs : s.WellFormed) (h₀ : g₀ ∈ s.groups) (hadapter : g.adapter = g₀.adapter)
    (hmem : ∀ out ∈ g.outbounds, NotSelf g₀.id out)
    (hby : ∀ sel, g = .selector sel → ∀ tag out, sel.outboundByTag tag = some out →
      out ∈ sel.outbounds) : (s.put g).WellFormed where
  ids := by
    rw [ids_put]
    exact hs.ids
  outboundless := hs.outboundless
  providers := hs.providers
  tags h hh := by
    rcases mem_put hh with rfl | hh
    · rw [Group.id, hadapter]
      exact hs.tags g₀ h₀
    · exact hs.tags h hh
  members h hh := by
    rcases mem_put hh with rfl | hh
    · rw [Group.id, hadapter]
      exact hmem
    · exact hs.members h hh
  byTag sel hsel := by
    rcases mem_put hsel with heq | hsel
    · exact hby sel heq.symm
    · exact hs.byTag sel hsel

lemma realTag_put {out : Outbound} (hout : NotSelf g.id out) :
    (s.put g).realTag out = s.realTag out := by
  have hgroup : (s.put g).groupOf out = s.groupOf out := by
    rw [groupOf, groupOf]
    split_ifs with hg
    · rw [find_put]
      cases hf : s.find out.id with
      | none => rfl
      | some h =>
        rw [Option.map_some, if_neg]
        rw [(find_mem hf).2]
        exact hout hg
    · rfl
  rw [realTag, realTag, hgroup]

lemma network_put {u u₀ : URLTest} (hf : s.find u.id = some (.urlTest u₀)) (depth : ℕ)
    (out : Outbound) : (s.put (.urlTest u)).network depth out = s.network depth out := by
  induction depth generalizing out with
  | zero => rfl
  | succ depth ih =>
    have hgroup : (s.put (.urlTest u)).groupOf out =
        (s.groupOf out).map fun h => if h.id = u.id then .urlTest u else h := by
      rw [groupOf, groupOf]
      split_ifs
      · exact find_put out.id
      · rfl
    rw [network, network, hgroup]
    cases hout : s.groupOf out with
    | none => rfl
    | some h =>
      rw [Option.map_some]
      by_cases hid : h.id = u.id
      · rw [if_pos hid]
        rw [groupOf] at hout
        split_ifs at hout
        obtain ⟨_, hh⟩ := find_mem hout
        rw [← hh, hid, hf] at hout
        cases hout
        rfl
      · rw [if_neg hid]
        cases h with
        | urlTest u' => rfl
        | selector sel =>
          dsimp only
          cases sel.selected with
          | none => rfl
          | some out => exact ih out

variable {u u₀ : URLTest}

lemma viewAs_supports (hf : s.find u.id = some (.urlTest u₀)) :
    (s.viewAs u).supports = (s.view u.history).supports := by
  funext out n
  change ((s.put (.urlTest u)).network ((s.put (.urlTest u)).groups.length + 1) out).contains n = _
  rw [network_put hf, State.put, length_map]
  rfl

lemma viewAs_delayOf {out : Outbound} (hout : NotSelf u.id out) :
    (s.viewAs u).delayOf out = (s.view u.history).delayOf out := by
  change (s.put (.urlTest u)).histories u.history ((s.put (.urlTest u)).realTag out) = _
  rw [realTag_put (g := .urlTest u) hout]
  rfl

end State

namespace URLTest

variable {v v' : View} {g : URLTest}

lemma renewed_congr {network : Network}
    (h : ∀ o ∈ g.outbounds ++ (g.selectedOn network).toList,
      v.supports o = v'.supports o ∧ v.delayOf o = v'.delayOf o) :
    Renewed v g network ↔ Renewed v' g network := by
  have hcur : g.current v network = g.current v' network :=
    current_congr rfl fun o ho => (h o (by simp [ho])).2
  rw [Renewed, hcur]
  refine or_congr_right (exists_congr fun o => and_congr_right fun ho => ?_)
  obtain ⟨hsup, hdel⟩ := h o (mem_append_left _ ho)
  rw [Beats, Beats, hsup, hdel]

end URLTest

section Steps

variable {s s' : State} {g : Group}

lemma State.WellFormed.pickable (hs : s.WellFormed) (hg : g ∈ s.groups) {out : Outbound}
    (h : Pickable s.lookup g.adapter.tags out) : NotSelf g.id out := by
  rcases h with ⟨tag, htag, hout⟩ | ⟨tag, outs, hprovider, hout⟩ | rfl
  · exact hs.tags g hg tag htag out hout
  · obtain ⟨p, hp, rfl⟩ := Option.map_eq_some_iff.1 hprovider
    intro hgroup
    rw [hs.providers p (fill_mem _ _ _ _ hp).1 out hout] at hgroup
    cases hgroup
  · intro hgroup
    rw [show isGroup s.lookup.outboundless = false from hs.outboundless] at hgroup
    cases hgroup

variable {tag : String} {g' : Group}

lemma updateOutbounds_cases (h : s.updateOutbounds tag g = .ok g') :
    (g' = g ∧ g.adapter.providers.contains tag = false) ∨
      (∃ sel sel', g = .selector sel ∧ g' = .selector sel' ∧ sel.providers.contains tag = true ∧
        sel.pickOutbounds s.lookup s.cacheFile = .ok sel') ∨
      ∃ u outs, g = .urlTest u ∧ u.providers.contains tag = true ∧
        u.pickOutbounds s.lookup = .ok outs ∧
        g' = .urlTest (URLTest.performUpdateCheck s.viewAs { u with outbounds := outs }) := by
  cases g with
  | selector sel =>
    obtain ⟨sel', hsel', h⟩ := bind_eq_ok.1 h
    cases h
    rw [Selector.updateOutbounds] at hsel'
    split_ifs at hsel' with hc
    · split at hsel'
      · rename_i sel'' hpick
        cases hsel'
        exact .inr (.inl ⟨sel, sel', rfl, rfl, hc, hpick⟩)
      · cases hsel'
    · cases hsel'
      exact .inl ⟨rfl, Bool.eq_false_iff.2 hc⟩
  | urlTest u =>
    obtain ⟨u', hu', h⟩ := bind_eq_ok.1 h
    cases h
    rw [URLTest.updateOutbounds] at hu'
    split_ifs at hu' with hc
    · split at hu'
      · rename_i outs hpick
        cases hu'
        exact .inr (.inr ⟨u, outs, rfl, hc, hpick, rfl⟩)
      · cases hu'
    · cases hu'
      exact .inl ⟨rfl, Bool.eq_false_iff.2 hc⟩

lemma wellFormed_put_updated (hs : s.WellFormed) (hg : g ∈ s.groups)
    (h : s.updateOutbounds tag g = .ok g') : (s.put g').WellFormed ∧ g.id = g'.id := by
  rcases updateOutbounds_cases h with
    ⟨rfl, _⟩ | ⟨sel, sel', rfl, rfl, _, hpick⟩ | ⟨u, outs, rfl, _, hpick, rfl⟩
  · refine ⟨hs.put hg rfl (hs.members _ hg) ?_, rfl⟩
    rintro sel rfl
    exact hs.byTag sel hg
  · obtain ⟨hcons, _, hadapter, hmem⟩ := Selector.pickOutbounds_spec hpick
    refine ⟨hs.put hg hadapter (fun out hout => hs.pickable hg (hmem out hout)) ?_, ?_⟩
    · rintro _ ⟨⟩
      exact hcons.outboundByTag
    · rw [Group.id, Group.id, Group.adapter, Group.adapter, hadapter]
  · refine ⟨hs.put hg ?_ ?_ ?_, ?_⟩
    · rw [Group.adapter, performUpdateCheck_adapter]
      rfl
    · intro out hout
      rw [Group.outbounds, performUpdateCheck_outbounds] at hout
      exact hs.pickable hg (pickOutbounds_pickable hpick out hout)
    · exact fun _ h => nomatch h
    · rw [Group.id, Group.id, Group.adapter, Group.adapter, performUpdateCheck_adapter]

def Renewable (s : State) (u : URLTest) (outs : List Outbound) : Prop :=
  ∀ network, URLTest.Renewed (s.view u.history) { u with outbounds := outs } network

variable {u : URLTest}

lemma consistent_urlTest_updated (hs : s.WellFormed) {outs : List Outbound}
    (hg : .urlTest u ∈ s.groups) (hf : s.find u.id = some (.urlTest u)) (hu : u.Consistent)
    (hpick : u.pickOutbounds s.lookup = .ok outs) :
    (URLTest.performUpdateCheck s.viewAs { u with outbounds := outs }).Consistent ↔
      Renewable s u outs := by
  -- the group looks at its new outbounds and at its old selections, none of which is itself
  have hself : ∀ network, ∀ o ∈ outs ++ (u.selectedOn network).toList, NotSelf u.id o := by
    intro network o ho
    rcases mem_append.1 ho with ho | ho
    · exact hs.pickable hg (pickOutbounds_pickable hpick o ho)
    · exact hs.members _ hg o (hu network o (Option.mem_toList.1 ho))
  have hview : ∀ u' : URLTest, u'.toGroupAdapter = u.toGroupAdapter → u'.history = u.history →
      ∀ o, NotSelf u.id o → (s.viewAs u').supports o = (s.view u.history).supports o ∧
        (s.viewAs u').delayOf o = (s.view u.history).delayOf o := by
    intro u' hadapter hhist o ho
    have hid : u'.id = u.id := congrArg GroupAdapter.id hadapter
    rw [State.viewAs_supports (hid ▸ hf), State.viewAs_delayOf (hid ▸ ho), hhist]
    exact ⟨rfl, rfl⟩
  rw [performUpdateCheck_consistent]
  · refine forall_congr' fun network => URLTest.renewed_congr fun o ho => ?_
    exact hview { u with outbounds := outs } rfl rfl o
      (hself network o (by cases network <;> exact ho))
  · rintro out _ _ rfl o ho
    have hns := hself .udp o ho
    obtain ⟨h₁, h₂⟩ := hview { u with outbounds := outs } rfl rfl o hns
    obtain ⟨h₃, h₄⟩ := hview (choose { u with outbounds := outs } out .tcp) rfl rfl o hns
    exact ⟨h₁.trans h₃.symm, h₂.trans h₄.symm⟩

lemma State.WellFormed.withCacheFile (hs : s.WellFormed) (cacheFile : Option CacheFile) :
    ({ s with cacheFile } : State).WellFormed :=
  ⟨hs.ids, hs.outboundless, hs.providers, hs.tags, hs.members, hs.byTag⟩

def Kept (s s' : State) : Prop := s'.WellFormed ∧ (s.Consistent → s'.Consistent)

variable {sel : Selector}

lemma kept_setSelected {detour : Outbound} (hs : s.WellFormed) (hg : .selector sel ∈ s.groups)
    (hd : detour ∈ sel.outbounds) :
    Kept s { s.put (.selector (sel.setSelected s.cacheFile detour).1) with
      cacheFile := (sel.setSelected s.cacheFile detour).2 } := by
  have hid : (Group.selector sel).id =
      (Group.selector (sel.setSelected s.cacheFile detour).1).id := by
    rw [Group.id, Group.id, Group.adapter, Group.adapter, Selector.setSelected_adapter]
  constructor
  · refine (hs.put hg ?_ ?_ ?_).withCacheFile _
    · exact Selector.setSelected_adapter detour
    · intro out hout
      rw [Group.outbounds, Selector.setSelected_outbounds] at hout
      exact hs.members _ hg out hout
    · rintro _ ⟨⟩
      intro tag out hout
      rw [Selector.setSelected_outbounds]
      refine hs.byTag sel hg tag out ?_
      rw [Selector.setSelected] at hout
      split_ifs at hout <;> exact hout
  · intro hcons
    have hsel : sel.Consistent := ⟨hcons _ hg, hs.byTag sel hg⟩
    exact (State.consistent_put hcons hg hid).2 (hsel.setSelected hd).selected

variable {id : ℕ} {ok : Bool}

lemma kept_fallBack {storage : ℕ} (hs : s.WellFormed) (h : fallBack storage id s = some (ok, s')) :
    Kept s s' := by
  rw [fallBack] at h
  split at h
  · rename_i sel hf
    obtain ⟨⟨detour, found⟩, hmin, h⟩ := Option.bind_eq_some_iff.1 h
    dsimp only at h
    split_ifs at h
    · cases h
      exact kept_setSelected hs (State.find_mem hf).1 (Selector.getMinDelayDetour_mem hmin)
    · cases h
      exact ⟨hs, fun hc => hc⟩
  · cases h

lemma Kept.trans {s'' : State} (h : Kept s s') (h' : Kept s' s'') : Kept s s'' :=
  ⟨h'.1, fun hc => h'.2 (h.2 hc)⟩

lemma kept_updateSelected {depth : ℕ} (hs : s.WellFormed)
    (h : updateSelected depth id tag s = some (ok, s')) : Kept s s' := by
  induction depth generalizing id tag ok s s' with
  | zero => cases h
  | succ depth ih =>
    have hrefl : Kept s s := ⟨hs, fun hc => hc⟩
    rw [updateSelected] at h
    split at h
    · split at h
      · cases h
        exact hrefl
      · split at h
        · cases h
        · rename_i last hlast
          split at h
          · cases h
            exact hrefl
          · split at h
            · cases h
            · rename_i storage _
              split at h
              · cases h
                exact hrefl
              · -- the selector in the place of the selection goes first
                obtain ⟨⟨updated, s₁⟩, hnested, h⟩ := Option.bind_eq_some_iff.1 h
                have hkept : Kept s s₁ := by
                  split at hnested
                  · exact ih hs hnested
                  · cases hnested
                    exact hrefl
                split at h
                · cases h
                  exact hkept
                · exact hkept.trans (kept_fallBack hkept.1 h)
    · cases h

def Safe (s : State) : Event → Prop
  | .updateOutbounds group provider =>
    ∀ u, Group.urlTest u ∈ s.groups → u.id = group → u.providers.contains provider = true →
      ∀ outs, u.pickOutbounds s.lookup = .ok outs → Renewable s u outs
  | _ => True

lemma State.find_eq (hs : s.WellFormed) (hg : g ∈ s.groups) : s.find g.id = some g := by
  have hsome : (s.find g.id).isSome := by
    rw [State.find, find?_isSome]
    exact ⟨g, hg, by simp⟩
  obtain ⟨g', hg'⟩ := Option.isSome_iff_exists.1 hsome
  obtain ⟨hmem, hid⟩ := State.find_mem hg'
  rw [hg', inj_on_of_nodup_map hs.ids hmem hg hid]

lemma kept_performUpdateCheck (hs : s.WellFormed) (hg : .urlTest u ∈ s.groups) :
    Kept s (s.put (.urlTest (u.performUpdateCheck s.viewAs))) := by
  have hadapter : (Group.urlTest (u.performUpdateCheck s.viewAs)).adapter =
      (Group.urlTest u).adapter :=
    performUpdateCheck_adapter _ _
  constructor
  · refine hs.put hg hadapter ?_ fun _ h => nomatch h
    intro out hout
    rw [Group.outbounds, performUpdateCheck_outbounds] at hout
    exact hs.members _ hg out hout
  · intro hc
    have hid := congrArg GroupAdapter.id hadapter
    exact (State.consistent_put hc hg hid.symm).2 (performUpdateCheck_keeps _ (hc _ hg))

lemma kept_selectOutbound (hs : s.WellFormed) (hg : .selector sel ∈ s.groups) (tag : String) :
    Kept s { s.put (.selector (sel.selectOutbound s.cacheFile tag).2.1) with
      cacheFile := (sel.selectOutbound s.cacheFile tag).2.2 } := by
  rw [Selector.selectOutbound]
  split
  · constructor
    · refine (hs.put hg rfl (hs.members _ hg) ?_).withCacheFile _
      rintro _ ⟨⟩
      exact hs.byTag sel hg
    · intro hc
      exact (State.consistent_put hc hg rfl).2 (hc _ hg)
  · rename_i detour hdetour
    exact kept_setSelected hs hg (hs.byTag sel hg tag detour hdetour)

variable {provider : String}

lemma kept_installOutbounds {outbounds : List Outbound} (hs : s.WellFormed)
    (hplain : ¬outbounds.any isGroup = true) :
    Kept s { s with
      providers := s.providers.map fun p => if p.tag = provider then { p with outbounds } else p } := by
  refine ⟨⟨hs.ids, hs.outboundless, ?_, hs.tags, hs.members, hs.byTag⟩, fun hc => hc⟩
  intro p hp out hout
  obtain ⟨p', hp', rfl⟩ := mem_map.1 hp
  split_ifs at hout
  · exact Bool.eq_false_iff.2 fun hgroup => hplain (any_eq_true.2 ⟨out, hout, hgroup⟩)
  · exact hs.providers p' hp' out hout

lemma kept_step {e : Event} (hs : s.WellFormed) (h : s.step e = some s')
    (he : ∀ group provider, e ≠ .updateOutbounds group provider) : Kept s s' := by
  have hrefl : Kept s s := ⟨hs, fun hc => hc⟩
  cases e with
  | installOutbounds provider outbounds =>
    rw [step] at h
    split_ifs at h with hplain
    cases h
    exact kept_installOutbounds hs hplain
  | updateOutbounds group provider => exact absurd rfl (he group provider)
  | recordDelay storage tag delay =>
    cases h
    exact ⟨⟨hs.ids, hs.outboundless, hs.providers, hs.tags, hs.members, hs.byTag⟩, fun hc => hc⟩
  | performUpdateCheck group provider force =>
    rw [step] at h
    split at h
    · rename_i u hf
      split_ifs at h
      · cases h
        exact kept_performUpdateCheck hs (State.find_mem hf).1
      · cases h
        exact hrefl
    · cases h
  | updateSelected group provider =>
    obtain ⟨⟨ok, s₁⟩, hs₁, rfl⟩ := Option.map_eq_some_iff.1 h
    exact kept_updateSelected hs hs₁
  | selectOutbound group tag =>
    rw [step] at h
    split at h
    · rename_i sel hf
      cases h
      exact kept_selectOutbound hs (State.find_mem hf).1 tag
    · cases h

variable {group : ℕ}

lemma safe_of_find (hs : s.WellFormed) (hf : s.find group = some g) :
    Safe s (.updateOutbounds group provider) ↔
      ∀ u, g = .urlTest u → u.providers.contains provider = true →
        ∀ outs, u.pickOutbounds s.lookup = .ok outs → Renewable s u outs := by
  constructor
  · rintro h u rfl
    obtain ⟨hg, hid⟩ := State.find_mem hf
    exact h u hg hid
  · intro h u hu hid
    refine h u ?_
    have hfu := find_eq hs hu
    rw [show (Group.urlTest u).id = group from hid, hf] at hfu
    exact Option.some.inj hfu

lemma updateOutbounds_step (hs : s.WellFormed)
    (h : s.step (.updateOutbounds group provider) = some s') :
    s'.WellFormed ∧
      (s.Consistent → (s'.Consistent ↔ Safe s (.updateOutbounds group provider))) := by
  obtain ⟨g, hf, rfl⟩ := Option.map_eq_some_iff.1 h
  obtain ⟨hg, -⟩ := State.find_mem hf
  rw [safe_of_find hs hf]
  split
  · rename_i g' hg'
    obtain ⟨hwf, hid⟩ := wellFormed_put_updated hs hg hg'
    refine ⟨hwf, fun hc => ?_⟩
    rw [State.consistent_put hc hg hid]
    rcases updateOutbounds_cases hg' with
      ⟨rfl, hunused⟩ | ⟨sel, sel', rfl, rfl, _, hpick⟩ | ⟨u, outs, rfl, hcon, hpick, rfl⟩
    · refine iff_of_true (hc _ hg) ?_
      rintro u rfl hcon
      rw [show u.providers.contains provider = false from hunused] at hcon
      cases hcon
    · exact iff_of_true (Selector.pickOutbounds_spec hpick).1.selected fun _ h => nomatch h
    · rw [Group.Consistent,
        consistent_urlTest_updated hs hg (find_eq hs hg) (hc _ hg) hpick]
      constructor
      · rintro hr _ ⟨⟩ _ outs' hpick'
        rw [hpick] at hpick'
        cases hpick'
        exact hr
      · intro hr
        exact hr u rfl hcon outs hpick
  · rename_i err herr
    refine ⟨hs, fun hc => iff_of_true hc ?_⟩
    rintro u rfl hcon outs hpick
    rw [State.updateOutbounds, URLTest.updateOutbounds, if_pos hcon, hpick] at herr
    cases herr

end Steps

structure Earlier (s : State) (r : Lookup) : Prop where
  outbound : r.outbound = s.outboundByTag
  outboundless : r.outboundless = s.outboundless
  provider : ∀ tag outs, r.provider tag = some outs → ∀ out ∈ outs, isGroup out = false

def StartedGroup (s : State) : Group → Prop
  | .selector sel => ∃ r cacheFile sel₀, Earlier s r ∧ Selector.start r cacheFile sel₀ = .ok sel
  | .urlTest u => ∃ r v u₀, Earlier s r ∧ start r v u₀ = .ok u

structure Started (s : State) : Prop where
  ids : (s.groups.map Group.id).Nodup
  outboundless : isGroup s.outboundless = false
  providers : ∀ p ∈ s.providers, ∀ out ∈ p.outbounds, isGroup out = false
  tags : ∀ g ∈ s.groups, ∀ tag ∈ g.adapter.tags, ∀ out, s.outboundByTag tag = some out →
    NotSelf g.id out
  groups : ∀ g ∈ s.groups, StartedGroup s g

variable {s : State}
  {g : Group}

lemma Started.pickable (hs : Started s) (hg : g ∈ s.groups) {r : Lookup} (hr : Earlier s r)
    {out : Outbound} (h : Pickable r g.adapter.tags out) : NotSelf g.id out := by
  rcases h with ⟨tag, htag, hout⟩ | ⟨tag, outs, hprovider, hout⟩ | rfl
  · rw [hr.outbound] at hout
    exact hs.tags g hg tag htag out hout
  · intro hgroup
    rw [hr.provider tag outs hprovider out hout] at hgroup
    cases hgroup
  · intro hgroup
    rw [hr.outboundless, hs.outboundless] at hgroup
    cases hgroup

lemma Started.group (hs : Started s) (hg : g ∈ s.groups) :
    g.Consistent ∧ (∀ out ∈ g.outbounds, NotSelf g.id out) ∧
      ∀ sel, g = .selector sel → ∀ tag out, sel.outboundByTag tag = some out →
        out ∈ sel.outbounds := by
  have hstart := hs.groups g hg
  cases g with
  | selector sel =>
    obtain ⟨r, cacheFile, sel₀, hr, hpick⟩ := hstart
    obtain ⟨hcons, _, hadapter, hmem⟩ := Selector.pickOutbounds_spec hpick
    refine ⟨hcons.selected, fun out hout => hs.pickable hg hr ?_, ?_⟩
    · have htags : sel.tags = sel₀.tags := (congrArg GroupAdapter.tags hadapter).trans rfl
      rw [Group.adapter, htags]
      exact hmem out hout
    · rintro _ ⟨⟩
      exact hcons.outboundByTag
  | urlTest u =>
    obtain ⟨r, v, u₀, hr, h⟩ := hstart
    obtain ⟨outs, hpick, h⟩ := bind_eq_ok.1 h
    obtain ⟨hcons, houts, hadapter⟩ := newURLTestGroup_consistent h
    refine ⟨hcons, fun out hout => hs.pickable hg hr ?_, fun _ h => nomatch h⟩
    have htags : u.tags = u₀.tags := (congrArg GroupAdapter.tags hadapter).trans rfl
    rw [Group.outbounds, houts] at hout
    rw [Group.adapter, htags]
    exact pickOutbounds_pickable hpick out hout

lemma Started.wellFormed (hs : Started s) : s.WellFormed where
  ids := hs.ids
  outboundless := hs.outboundless
  providers := hs.providers
  tags := hs.tags
  members _ hg := (hs.group hg).2.1
  byTag sel hsel := (hs.group hsel).2.2 sel rfl

theorem selection_in_outbounds_iff {s : State} (hs : Started s) (events : List Event) :
    Always step State.Consistent s events ↔ Throughout step Safe s events := by
  have hwf : ∀ s e s', State.WellFormed s → s.step e = some s' → s'.WellFormed := by
    intro s e s' hs h
    by_cases he : ∃ group provider, e = .updateOutbounds group provider
    · obtain ⟨group, provider, rfl⟩ := he
      exact (updateOutbounds_step hs h).1
    · exact (kept_step hs h fun group provider heq => he ⟨group, provider, heq⟩).1
  refine always_iff_throughout hwf ?_ hs.wellFormed (fun g hg => (hs.group hg).1) events
  intro s e s' hs hc h
  by_cases he : ∃ group provider, e = .updateOutbounds group provider
  · obtain ⟨group, provider, rfl⟩ := he
    exact (updateOutbounds_step hs h).2 hc
  · refine iff_of_true ((kept_step hs h fun group provider heq => he ⟨group, provider, heq⟩).2 hc) ?_
    cases e with
    | updateOutbounds group provider => exact absurd ⟨group, provider, rfl⟩ he
    | _ => trivial

def proxy (id : ℕ) (tag : String) : Outbound := { id, tag, type := .socks }

def autoGroup : URLTest := { id := 0, tag := "auto", uses := ["p"] }

def autoState : State where
  outboundByTag _ := none
  outboundless := { id := 1, tag := "OUTBOUNDLESS", type := .direct }
  providers := [{ tag := "p", outbounds := [proxy 2 "A"] }]
  groups := [.urlTest { autoGroup with
    providers := ["p"], interval := defaultInterval, idleTimeout := defaultIdleTimeout
    tolerance := 50, outbounds := [proxy 2 "A"]
    selectedOutboundTCP := some (proxy 2 "A"), selectedOutboundUDP := some (proxy 2 "A") }]
  histories _ _ := none

lemma autoState_started : Started autoState where
  ids := by decide
  outboundless := rfl
  providers := by decide
  tags g hg tag htag := by
    rw [mem_singleton.1 hg] at htag
    cases htag
  groups g hg := by
    rw [mem_singleton.1 hg]
    refine ⟨autoState.lookup, autoState.view 0, autoGroup, ⟨rfl, rfl, ?_⟩, rfl⟩
    intro tag outs hprovider out hout
    obtain ⟨p, hp, rfl⟩ := Option.map_eq_some_iff.1 hprovider
    rw [mem_singleton.1 (fill_mem _ _ _ _ hp).1] at hout
    rw [mem_singleton.1 hout]
    rfl

theorem selection_in_outbounds_replaced :
    Always step State.Consistent autoState
      [.recordDelay 0 "B" (some 30), .installOutbounds "p" [proxy 3 "B"],
        .updateOutbounds 0 "p"] := by
  refine (selection_in_outbounds_iff autoState_started _).2 ?_
  rintro _ ⟨⟩
  refine ⟨trivial, ?_⟩
  rintro _ ⟨⟩
  refine ⟨trivial, ?_⟩
  rintro _ ⟨⟩
  refine ⟨?_, trivial⟩
  intro u hu _ _ outs hpick network
  cases mem_singleton.1 hu
  cases hpick
  refine .inr ⟨proxy 3 "B", by decide, ?_, 30, by decide, .inl ?_⟩
  · cases network <;> decide
  · cases network <;> decide

theorem selection_outlives_outbound :
    Started autoState ∧
      ∃ s, run step autoState
        [.recordDelay 0 "A" (some 100), .installOutbounds "p" [proxy 3 "A"],
          .updateOutbounds 0 "p"] = some s ∧ ¬s.Consistent := by
  refine ⟨autoState_started, _, rfl, fun h => ?_⟩
  have hmem := h _ mem_cons_self .tcp (proxy 2 "A") (by decide)
  revert hmem
  decide

end SingBox.Groups
