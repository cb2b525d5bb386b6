import SingBox.Outbound.Selection
import SingBox.Provider.Outcomes

namespace SingBox.Provider

open Adapter Groups Lib.Table Lib.Errors List Function

def snapshot : Group → List Outbound × List (Option Outbound)
  | .selector s => (s.outbounds, [s.selected])
  | .urlTest g => (g.outbounds, [g.selectedOutboundTCP, g.selectedOutboundUDP])

/-- A group without the map that only `SelectOutbound` reads. -/
def core : Group → Group
  | .selector s => .selector { s with outboundByTag := fun _ => none }
  | .urlTest g => .urlTest g

@[simp] lemma core_id (g : Group) : (core g).id = g.id := by cases g <;> rfl

section Updates

variable {s s' : State} {p : String} {g g' : Group}

lemma checkNetwork_eq (v : View) (network : Network) (u : URLTest) : ∃ tcp udp,
    u.checkNetwork v network = { u with selectedOutboundTCP := tcp, selectedOutboundUDP := udp } := by
  unfold URLTest.checkNetwork
  split
  · exact ⟨_, _, rfl⟩
  · split_ifs
    · cases network <;> exact ⟨_, _, rfl⟩
    · exact ⟨_, _, rfl⟩

lemma core_of_snapshot (h : s.updateOutbounds p g = .ok g') (hsnap : snapshot g' = snapshot g) :
    core g' = core g := by
  cases g with
  | selector sel =>
    obtain ⟨sel', hsel, h⟩ := bind_eq_ok.1 h
    cases h
    rw [Selector.updateOutbounds] at hsel
    split_ifs at hsel
    · split at hsel
      · next hpick =>
        cases hsel
        obtain ⟨tagged, -, hpick⟩ := bind_eq_ok.1 hpick
        obtain ⟨provided, -, hpick⟩ := bind_eq_ok.1 hpick
        simp only [snapshot, Prod.mk.injEq, cons.injEq, and_true] at hsnap
        split at hpick
        · cases hpick
          simp [core, ← hsnap.1, ← hsnap.2]
        · obtain ⟨selected, -, hpick⟩ := bind_eq_ok.1 hpick
          cases hpick
          simp [core, ← hsnap.1, ← hsnap.2]
      · cases hsel
    · cases hsel
      rfl
  | urlTest u =>
    obtain ⟨u', hu, h⟩ := bind_eq_ok.1 h
    cases h
    rw [URLTest.updateOutbounds] at hu
    split_ifs at hu
    · split at hu
      · next outbounds _ =>
        cases hu
        unfold URLTest.performUpdateCheck at hsnap ⊢
        dsimp only at hsnap ⊢
        obtain ⟨tcp, udp, heq⟩ := checkNetwork_eq (s.viewAs { u with outbounds }) .tcp { u with outbounds }
        rw [heq] at hsnap ⊢
        generalize s.viewAs _ = v at hsnap ⊢
        obtain ⟨tcp', udp', heq'⟩ := checkNetwork_eq v .udp
          { u with outbounds, selectedOutboundTCP := tcp, selectedOutboundUDP := udp }
        rw [heq'] at hsnap ⊢
        simp only [snapshot, Prod.mk.injEq, cons.injEq, and_true] at hsnap
        simp [core, hsnap]
      · cases hu
    · cases hu
      rfl

lemma groupOf_core (h : s.groups.map core = s'.groups.map core) (out : Outbound) :
    (s.groupOf out).map core = (s'.groupOf out).map core := by
  have hfind : ∀ s : State, (s.find out.id).map core = (s.groups.map core).find? fun g => g.id == out.id := by
    intro s
    rw [find?_map, State.find]
    congr 2
    funext g
    simp
  unfold State.groupOf
  split_ifs
  · rw [hfind, hfind, h]
  · rfl

lemma network_congr (h : s.groups.map core = s'.groups.map core) (n : ℕ) (out : Outbound) :
    s.network n out = s'.network n out := by
  induction n generalizing out with
  | zero => rfl
  | succ n ih =>
    have hcore := groupOf_core h out
    unfold State.network
    cases hs : s.groupOf out with
    | none =>
      rw [hs, Option.map_none, eq_comm, Option.map_eq_none_iff] at hcore
      rw [hcore]
    | some g =>
      rw [hs, Option.map_some, eq_comm, Option.map_eq_some_iff] at hcore
      obtain ⟨g', hs', hcore⟩ := hcore
      rw [hs']
      cases g with
      | urlTest u =>
        cases g' with
        | urlTest => rfl
        | selector => cases hcore
      | selector sel =>
        cases g' with
        | urlTest => cases hcore
        | selector sel' =>
          have hselected : sel'.selected = sel.selected := by
            simpa [core, snapshot] using congrArg (fun g => (snapshot g).2) hcore
          dsimp only
          rw [hselected]
          cases sel.selected with
          | none => rfl
          | some next => exact ih next

lemma realTag_congr (h : s.groups.map core = s'.groups.map core) (out : Outbound) :
    s.realTag out = s'.realTag out := by
  have htag : ∀ s : State, s.realTag out = (((s.groupOf out).map core).map Group.now).getD out.tag := by
    intro s
    unfold State.realTag
    rcases s.groupOf out with _ | ⟨_ | _⟩ <;> rfl
  rw [htag, htag, groupOf_core h]

lemma viewAs_congr (hgroups : s.groups.map core = s'.groups.map core) (hhistories : s.histories = s'.histories) :
    s.viewAs = s'.viewAs := by
  funext u
  have hput : (s.put (.urlTest u)).groups.map core = (s'.put (.urlTest u)).groups.map core := by
    have hmap : ∀ l : List Group, (l.map fun h => if h.id = u.id then .urlTest u else h).map core =
        (l.map core).map fun h => if h.id = u.id then .urlTest u else h := by
      intro l
      rw [map_map, map_map]
      refine map_congr_left fun h _ => ?_
      simp only [comp_apply, core_id]
      split_ifs <;> rfl
    exact (hmap _).trans ((congrArg _ hgroups).trans (hmap _).symm)
  have hlength : (s.put (.urlTest u)).groups.length = (s'.put (.urlTest u)).groups.length := by
    simpa using congrArg length hput
  simp only [State.viewAs, State.view, network_congr hput, funext (realTag_congr hput), hlength]
  exact congrArg (View.mk _ _) (congrFun hhistories _)

lemma updateOutbounds_congr (hgroups : s.groups.map core = s'.groups.map core) (hlookup : s.lookup = s'.lookup)
    (hhistories : s.histories = s'.histories) (hcache : s.cacheFile = s'.cacheFile) (g : Group) :
    s.updateOutbounds p g = s'.updateOutbounds p g := by
  have hview : s.viewAs = s'.viewAs := viewAs_congr hgroups hhistories
  cases g <;> simp only [State.updateOutbounds, hlookup, hcache, hview]

def Refuses (s : State) (p : String) (g : Group) : Prop := ∃ err, s.updateOutbounds p g = .error err

def CalmUpdate (s : State) (p : String) (g : Group) : Prop :=
  ∃ g', s.updateOutbounds p g = .ok g' ∧ snapshot g' = snapshot g

lemma refuses_groups (l : List Group) : Refuses { s with groups := l } p g ↔ Refuses s p g := by
  unfold Refuses
  cases g with
  | selector sel => rfl
  | urlTest u =>
    simp only [State.updateOutbounds, URLTest.updateOutbounds]
    split_ifs
    · have hlookup : ({ s with groups := l } : State).lookup = s.lookup := rfl
      rw [hlookup]
      cases u.pickOutbounds s.lookup <;> simp [bind, Except.bind, pure, Except.pure]
    · rfl

lemma adapter_updated (h : s.updateOutbounds p g = .ok g') : g'.adapter = g.adapter := by
  rcases updateOutbounds_cases h with ⟨rfl, -⟩ | ⟨sel, sel', rfl, rfl, -, hpick⟩ | ⟨u, outs, rfl, -, -, rfl⟩
  · rfl
  · exact (Selector.pickOutbounds_spec hpick).2.2.1
  · exact URLTest.performUpdateCheck_adapter ..

variable {done done' before after l : List Group}

lemma find_split (hnodup : ((done ++ g :: l).map Group.id).Nodup) :
    ({ s with groups := done ++ g :: l } : State).find g.id = some g := by
  rw [map_append, map_cons, nodup_append] at hnodup
  rw [State.find, find?_append, find?_eq_none.2, Option.none_or, find?_cons_of_pos (by simp)]
  intro h hh hid
  exact hnodup.2.2 _ (mem_map_of_mem hh) _ mem_cons_self (by simpa using hid)

lemma put_split (hnodup : ((done ++ g :: l).map Group.id).Nodup) (hid : g'.id = g.id) :
    ({ s with groups := done ++ g :: l } : State).put g' = { s with groups := (done ++ [g']) ++ l } := by
  rw [map_append, map_cons, nodup_append, nodup_cons] at hnodup
  have hkeep : ∀ k : List Group, (∀ h ∈ k, h.id ≠ g.id) →
      k.map (fun h => if h.id = g'.id then g' else h) = k := by
    intro k hk
    refine (map_congr_left fun h hh => if_neg ?_).trans (map_id k)
    rw [hid]
    exact hk h hh
  rw [State.put, map_append, map_cons, if_pos hid.symm]
  congr 1
  rw [hkeep done fun h hh => hnodup.2.2 _ (mem_map_of_mem hh) _ mem_cons_self,
    hkeep l fun h hh heq => hnodup.2.1.1 (heq ▸ mem_map_of_mem hh), append_cons]

lemma updateEach_keeps (p : String) (ids : List ℕ) (s : State) {i : ℕ} (h : s.groups[i]? = some g)
    (hid : g.id ∉ ids) : (updateEach p ids s).1.groups[i]? = some g := by
  induction ids generalizing s with
  | nil => exact h
  | cons id ids ih =>
    rw [mem_cons, not_or] at hid
    rw [updateEach]
    split
    · exact ih s h hid.2
    · next k hk =>
      split
      · next k' hk' =>
        refine ih _ ?_ hid.2
        have hne : ¬ g.id = k'.id := by
          rw [show k'.id = k.id from congrArg GroupAdapter.id (adapter_updated hk'), (State.find_mem hk).2]
          exact hid.1
        rw [State.put, getElem?_map, h, Option.map_some, if_neg hne]
      · exact h

variable (done done') in
/-- Whether a group refuses does not depend on the updates before. -/
lemma updateEach_err_iff (hgroups : s.groups = done ++ l) (hnodup : (s.groups.map Group.id).Nodup)
    (hdone : done'.map Group.id = done.map Group.id) :
    (updateEach p (l.map Group.id) { s with groups := done' ++ l }).2 ≠ none ↔ ∃ h ∈ l, Refuses s p h := by
  induction l generalizing done done' with
  | nil => simp [updateEach]
  | cons h l ih =>
    have hnodup' : ((done' ++ h :: l).map Group.id).Nodup := by
      rwa [map_append, hdone, ← map_append, ← hgroups]
    rw [map_cons, updateEach, find_split hnodup', exists_mem_cons_iff]
    dsimp only
    split
    · next h' hh' =>
      have hid : h'.id = h.id := congrArg GroupAdapter.id (adapter_updated hh')
      have haccepts : ¬ Refuses s p h := by
        rw [← refuses_groups (done' ++ h :: l)]
        rintro ⟨err, herr⟩
        cases hh'.symm.trans herr
      rw [put_split hnodup' hid, ih _ _ (by rw [hgroups, append_cons]) (by simp [hdone, hid]), or_iff_right haccepts]
    · next err herr => exact iff_of_true (Option.some_ne_none _) (.inl (refuses_groups _ |>.1 ⟨err, herr⟩))

variable (done done') in
/-- Up to the refusal every group was updated as in the state at the beginning, as long as the
updates changed nothing: a group that did change keeps what it was given. -/
lemma updateEach_snapshots (hgroups : s.groups = done ++ (before ++ g :: after))
    (hnodup : (s.groups.map Group.id).Nodup) (hdone : done'.map core = done.map core)
    (hbefore : ∀ h ∈ before, ¬ Refuses s p h) (hg : Refuses s p g) :
    (updateEach p ((before ++ g :: after).map Group.id)
      { s with groups := done' ++ (before ++ g :: after) }).1.groups.map snapshot = s.groups.map snapshot ↔
      ∀ h ∈ before, CalmUpdate s p h := by
  have hids : ∀ {k k' : List Group}, k'.map core = k.map core → k'.map Group.id = k.map Group.id := by
    intro k k' h
    simpa [comp_def] using congrArg (map Group.id) h
  induction before generalizing done done' with
  | nil =>
    have hnodup' : ((done' ++ g :: after).map Group.id).Nodup := by
      rwa [map_append, hids hdone, ← map_append, ← nil_append (g :: after), ← hgroups]
    obtain ⟨err, herr⟩ := (refuses_groups (done' ++ g :: after)).2 hg
    rw [nil_append, map_cons, updateEach, find_split hnodup']
    dsimp only
    rw [herr]
    refine iff_of_true ?_ (fun _ h => absurd h not_mem_nil)
    dsimp only
    rw [hgroups, nil_append, map_append, map_append]
    congr 1
    have hsnap : snapshot ∘ core = snapshot := funext fun g => by cases g <;> rfl
    simpa [hsnap] using congrArg (map snapshot) hdone
  | cons h before ih =>
    have hnodup' : ((done' ++ h :: (before ++ g :: after)).map Group.id).Nodup := by
      rwa [map_append, hids hdone, ← map_append, ← cons_append, ← hgroups]
    have hsame : ({ s with groups := done' ++ h :: (before ++ g :: after) } : State).updateOutbounds p h =
        s.updateOutbounds p h := by
      have hcore : (done' ++ h :: (before ++ g :: after)).map core = s.groups.map core := by
        simp [hgroups, hdone]
      exact updateOutbounds_congr (s := { s with groups := _ }) hcore rfl rfl rfl h
    rw [cons_append, map_cons, updateEach, find_split hnodup']
    dsimp only
    rw [hsame]
    cases hh' : s.updateOutbounds p h with
    | error err => exact absurd ⟨err, hh'⟩ (hbefore h mem_cons_self)
    | ok h' =>
      have hid : h'.id = h.id := congrArg GroupAdapter.id (adapter_updated hh')
      dsimp only
      rw [put_split hnodup' hid]
      by_cases hsnap : snapshot h' = snapshot h
      · have hdone' : (done' ++ [h']).map core = (done ++ [h]).map core := by
          simp [hdone, core_of_snapshot hh' hsnap]
        rw [forall_mem_cons, and_iff_right ⟨h', hh', hsnap⟩]
        exact ih _ _ (by rw [hgroups, cons_append, append_cons]) hdone' fun k hk => hbefore k (mem_cons_of_mem _ hk)
      · have hlength : done'.length = done.length := by simpa using congrArg length hdone
        refine iff_of_false (fun heq => hsnap ?_) fun hcalm => ?_
        · have hkept := updateEach_keeps (g := h') (i := done'.length) p
            ((before ++ g :: after).map Group.id) { s with groups := done' ++ [h'] ++ (before ++ g :: after) }
            (by simp) (by
              rw [map_append, map_cons, nodup_append, nodup_cons] at hnodup'
              rw [hid]
              exact hnodup'.2.1.1)
          have hat := congrArg (·[done'.length]?) heq
          rw [getElem?_map, getElem?_map, hkept, hgroups, hlength, getElem?_append_right (Nat.le_refl _),
            Nat.sub_self] at hat
          exact Option.some.inj hat
        · obtain ⟨h'', hh'', hsnap'⟩ := hcalm h mem_cons_self
          cases hh'.symm.trans hh''
          exact hsnap hsnap'

end Updates

variable {δ : Type} {p : String} {w : World δ} {outs : List Outbound} {g g' : Group}

lemma lookup_provider (byTag : String → Option Outbound) (tag : String) :
    (w.setLists p outs byTag).net.lookup.provider tag =
      if tag = p then (w.net.lookup.provider tag).map fun _ => outs else w.net.lookup.provider tag := by
  have hfill := fill_map (f := fun q : Startup.Provider =>
    if q.tag = p then { q with outbounds := outs, outboundByTag := byTag } else q)
    (fun q => (by split_ifs <;> rfl : Startup.Provider.tag _ = q.tag)) w.net.providers tag
  change (fill _ (map _ _) tag).map _ = if _ then ((fill _ _ tag).map _).map _ else (fill _ _ tag).map _
  rw [hfill]
  cases hq : fill Startup.Provider.tag w.net.providers tag with
  | none => simp
  | some q =>
    obtain rfl := (fill_mem _ _ _ _ hq).2
    by_cases h : q.tag = p <;> simp [h]

lemma updateOutbounds_rejected (h : ∀ out ∈ outs, g.adapter.filter.outboundFilter out = false)
    (byTag byTag' : String → Option Outbound) : (w.setLists p outs byTag).net.updateOutbounds p g =
      (w.setLists p [] byTag').net.updateOutbounds p g := by
  have hview : (w.setLists p outs byTag).net.viewAs = (w.setLists p [] byTag').net.viewAs :=
    viewAs_congr rfl rfl
  have hnone : outs.filter g.adapter.filter.outboundFilter = [] :=
    filter_eq_nil_iff.2 fun out hout => by simp [h out hout]
  have hprovided : ∀ what uses, pickProvided (w.setLists p outs byTag).net.lookup what g.adapter.filter uses =
      pickProvided (w.setLists p [] byTag').net.lookup what g.adapter.filter uses := by
    intro what uses
    unfold pickProvided
    congr 2
    funext i tag
    rw [lookup_provider, lookup_provider]
    split_ifs
    · cases w.net.lookup.provider tag with
      | none => rfl
      | some l => simp [hnone]
    · rfl
  cases g with
  | selector sel =>
    simp only [State.updateOutbounds, Selector.updateOutbounds, Selector.pickOutbounds]
    rw [show sel.filter = (Group.selector sel).adapter.filter from rfl, hprovided]
    rfl
  | urlTest u =>
    simp only [State.updateOutbounds, URLTest.updateOutbounds, URLTest.pickOutbounds]
    rw [show u.filter = (Group.urlTest u).adapter.filter from rfl, hprovided, hview]
    rfl

/-- The network once the provider holds the list. -/
def World.holding (p : String) (outs : List Outbound) (w : World δ) : State :=
  (w.setLists p outs (fill Outbound.tag outs)).net

/-- Outbounds are numbered in the order of their creation, and what a group was started with it
still uses. -/
structure Numbered (w : World δ) : Prop where
  groups : (w.net.groups.map Group.id).Nodup
  outbounds : ∀ g ∈ w.net.groups, ∀ out ∈ g.outbounds, out.id < w.nextId
  uses : ∀ g ∈ w.net.groups, g.adapter.providers ⊆ g.adapter.uses

/-- A group with this provider takes none of the new outbounds, and its lists are what it would pick
without the provider. -/
def Untouched (p : String) (outs : List Outbound) (w : World δ) (g : Group) : Prop :=
  p ∈ g.adapter.providers →
    (∀ out ∈ outs, g.adapter.filter.outboundFilter out = false) ∧ CalmUpdate (w.holding p []) p g

lemma mem_pickProvided {r : Lookup} {what : String} {filter : Filter} {uses : List String}
    {provided : List Outbound} {out : Outbound} (h : pickProvided r what filter uses = .ok provided)
    (hp : p ∈ uses) (houts : ∀ l, r.provider p = some l → out ∈ l) (hout : filter.outboundFilter out = true) :
    out ∈ provided := by
  obtain ⟨lists, hlists, h⟩ := bind_eq_ok.1 h
  cases h
  rw [mapFrom_eq_ok (g := fun tag => (r.provider tag).elim (.error ()) fun outbounds =>
    .ok (outbounds.filter filter.outboundFilter)) (fun i tag b => by cases r.provider tag <;> simp)] at hlists
  obtain ⟨l, hl, heq⟩ := exists_right_of_forall₂ hlists hp
  refine mem_flatten.2 ⟨l, hl, ?_⟩
  cases hr : r.provider p with
  | none => simp [hr] at heq
  | some outbounds =>
    simp only [hr, Option.elim_some, Except.ok.injEq] at heq
    exact heq ▸ mem_filter.2 ⟨houts _ hr, hout⟩

lemma mem_updated {s : State} {out : Outbound} (h : s.updateOutbounds p g = .ok g')
    (hp : p ∈ g.adapter.providers) (huses : p ∈ g.adapter.uses)
    (houts : ∀ l, s.lookup.provider p = some l → out ∈ l)
    (hout : g.adapter.filter.outboundFilter out = true) : out ∈ g'.outbounds := by
  rcases updateOutbounds_cases h with
    ⟨-, hnot⟩ | ⟨sel, sel', rfl, rfl, -, hpick⟩ | ⟨u, outs, rfl, -, hpick, rfl⟩
  · simp [hp] at hnot
  · obtain ⟨tagged, -, hpick⟩ := bind_eq_ok.1 hpick
    obtain ⟨provided, hprovided, hpick⟩ := bind_eq_ok.1 hpick
    have hmem := mem_append_right tagged (mem_pickProvided hprovided huses houts hout)
    split at hpick
    · next hnil => exact absurd (hnil ▸ hmem) not_mem_nil
    · next hcons =>
      obtain ⟨selected, -, hpick⟩ := bind_eq_ok.1 hpick
      cases hpick
      exact hcons ▸ hmem
  · obtain ⟨tagged, -, hpick⟩ := bind_eq_ok.1 hpick
    obtain ⟨provided, hprovided, hpick⟩ := bind_eq_ok.1 hpick
    have hmem := mem_append_right tagged (mem_pickProvided hprovided huses houts hout)
    cases hpick
    change out ∈ (URLTest.performUpdateCheck _ _).outbounds
    rw [URLTest.performUpdateCheck_outbounds]
    dsimp only
    split_ifs with hnil
    · exact absurd hmem (by simp_all)
    · exact hmem

lemma calmUpdate_holding (hw : Numbered w) (hg : g ∈ w.net.groups) (houts : ∀ out ∈ outs, w.nextId ≤ out.id) :
    CalmUpdate (w.holding p outs) p g ↔ Untouched p outs w g := by
  by_cases hp : p ∈ g.adapter.providers
  · have hrejected : (∀ out ∈ outs, g.adapter.filter.outboundFilter out = false) →
        (CalmUpdate (w.holding p outs) p g ↔ CalmUpdate (w.holding p []) p g) := by
      intro h
      unfold CalmUpdate World.holding
      rw [updateOutbounds_rejected h]
    have hnew : CalmUpdate (w.holding p outs) p g →
        ∀ out ∈ outs, g.adapter.filter.outboundFilter out = false := by
      rintro ⟨g', hg', hsnap⟩ out hout
      by_contra haccepted
      have hheld : ∀ l, (w.holding p outs).lookup.provider p = some l → out ∈ l := by
        intro l hl
        rw [World.holding, lookup_provider, if_pos rfl, Option.map_eq_some_iff] at hl
        obtain ⟨_, -, rfl⟩ := hl
        exact hout
      have hmem := mem_updated hg' hp (hw.uses g hg hp) hheld (by simpa using haccepted)
      have hlists : ∀ g : Group, (snapshot g).1 = g.outbounds := fun g => by cases g <;> rfl
      rw [← hlists, hsnap, hlists] at hmem
      exact absurd (houts out hout) (Nat.not_le_of_lt (hw.outbounds g hg out hmem))
    constructor
    · exact fun hcalm _ => ⟨hnew hcalm, (hrejected (hnew hcalm)).1 hcalm⟩
    · exact fun h => (hrejected (h hp).1).2 (h hp).2
  · refine iff_of_true ⟨g, ?_, rfl⟩ fun h => absurd h hp
    cases g with
    | selector sel =>
      exact bind_eq_ok.2 ⟨sel, if_neg (by simpa [Group.adapter] using hp), rfl⟩
    | urlTest u =>
      exact bind_eq_ok.2 ⟨u, if_neg (by simpa [Group.adapter] using hp), rfl⟩

end SingBox.Provider
