import SingBox.Provider.GroupRound

namespace SingBox.Provider

open Adapter Groups Lib.Errors Lib.Table List Function

variable {δ : Type}

def World.snapshots (w : World δ) : List (List Outbound × List (Option Outbound)) :=
  w.net.groups.map snapshot

structure Restored (p : String) (w w' : World δ) : Prop where
  outbounds : w'.outbounds p = w.outbounds p
  outboundByTag : w'.outboundByTag p = w.outboundByTag p
  lastOuts : w'.lastOuts p = w.lastOuts p
  lastEtag : w'.lastEtag p = w.lastEtag p
  groups : w'.snapshots = w.snapshots

def AllClosed (w w' : World δ) : Prop :=
  ∀ id, LogEntry.start id true ∈ w'.log.drop w.log.length →
    ∃ listed, LogEntry.close id listed ∈ w'.log.drop w.log.length

section Definitions

variable (env : Env δ) (p : String) (starts : ℕ → StartMethod) (w : World δ)

def startRun (final : List (Options δ)) : StartRun := startOutbounds p (made env starts w final) w

/-- The groups in the order in which the router updates them. -/
def World.updatedGroups (w : World δ) : List Group := if w.routerStarted then w.net.groups else []

def GroupRefuses (final : List (Options δ)) (g : Group) : Prop :=
  Refuses (w.holding p (startRun env p starts w final).outbounds) p g

end Definitions

variable [DecidableEq δ]

def Reinstalls (env : Env δ) (p content : String) (w : World δ) : Prop :=
  ∀ starts changed w', updateProviderFromContent env p content starts w = (.ok changed, w') →
    changed = true

def AtomicUpdate (env : Env δ) (p content : String) (starts : ℕ → StartMethod) (w : World δ) : Prop :=
  ∀ err w', updateProviderFromContent env p content starts w = (.error err, w') →
    Restored p w w' ∧ AllClosed w w' ∧ Reinstalls env p content w'

def Response.content (env : Env δ) : Response → Option String
  | .body _ subInfo raw => if raw = "" then none else some (strippedContent env subInfo raw)
  | _ => none

def AtomicFetch (env : Env δ) (p : String) (response : Response) (starts : ℕ → StartMethod)
    (w : World δ) : Prop :=
  ∀ err w', fetchOnce env p response starts w = (some err, w') →
    Restored p w w' ∧ AllClosed w w' ∧
      ∀ content, response.content env = some content → Reinstalls env p content w'

def StartFails (outs : List Outbound) : Prop := ∃ out ∈ outs, ∃ err, out.start = .fails err

def FirstStartFails (outs : List Outbound) : Prop :=
  ∃ before out after err, outs = before ++ out :: after ∧ (∀ o ∈ before, o.start = .absent) ∧
    out.start = .fails err

variable (env : Env δ) (p : String) (starts : ℕ → StartMethod) (w : World δ)

def Installs (content : String) (final : List (Options δ)) : Prop :=
  Yields env p content w final ∧ checkChange (w.lastOuts p) final = true ∧
    made env starts w final ≠ []

def Fails (content : String) : Prop :=
  (∃ err, env.newParser p (env.decodeBase64Safe content) = .error err) ∨
    ∃ final, Installs env p starts w content final ∧
      (StartFails (made env starts w final) ∨
        ¬ StartFails (made env starts w final) ∧ ∃ g ∈ w.updatedGroups, GroupRefuses env p starts w final g)

/-- The options the constructors leave are those of the last update, and a failure comes before
anything else was touched: before the first successful start, or, once all have started, before the
first group that a new outbound or the missing old ones change. -/
def Harmless (content : String) : Prop :=
  ∀ final, Installs env p starts w content final →
    (StartFails (made env starts w final) →
      final.map (Options.left env.leaves) = w.lastOuts p ∧ FirstStartFails (made env starts w final)) ∧
    (¬ StartFails (made env starts w final) → ∀ before g after, w.updatedGroups = before ++ g :: after →
      (∀ h ∈ before, ¬ GroupRefuses env p starts w final h) → GroupRefuses env p starts w final g →
        final.map (Options.left env.leaves) = w.lastOuts p ∧
          ∀ h ∈ before, Untouched p (startRun env p starts w final).outbounds w h)

def HarmlessFetch (response : Response) : Prop :=
  ∀ etag subInfo raw, response = .body etag subInfo raw → raw ≠ "" →
    Harmless env p starts w (strippedContent env subInfo raw) ∧
      (Fails env p starts w (strippedContent env subInfo raw) → etag = "" ∨ etag = w.lastEtag p)

section Starts

variable {pTag : String} {outs : List Outbound} {out : Outbound}

@[simp] lemma startFails_nil : ¬ StartFails [] := fun ⟨_, hout, _⟩ => not_mem_nil hout

lemma startFails_cons :
    StartFails (out :: outs) ↔ (∃ err, out.start = .fails err) ∨ StartFails outs := by
  simp only [StartFails, mem_cons, exists_eq_or_imp]

lemma startEach_err_iff (i : ℕ) (used : List String) :
    (startEach pTag i used outs).err ≠ none ↔ StartFails outs := by
  induction outs generalizing i used with
  | nil => simp [startEach]
  | cons out rest ih =>
    rw [startEach, startFails_cons]
    simp only [ite_setTag_start]
    cases hout : out.start with
    | fails err => simp
    | succeeds => simpa using ih _ _
    | absent => simpa using ih _ _

lemma firstStartFails_cons : FirstStartFails (out :: outs) ↔
      (∃ err, out.start = .fails err) ∨ out.start = .absent ∧ FirstStartFails outs := by
  constructor
  · rintro ⟨before, o, after, err, heq, hbefore, ho⟩
    cases before with
    | nil =>
      cases heq
      exact .inl ⟨err, ho⟩
    | cons b before =>
      cases heq
      exact .inr ⟨hbefore _ mem_cons_self, before, o, after, err, rfl,
        fun x hx => hbefore x (mem_cons_of_mem _ hx), ho⟩
  · rintro (⟨err, herr⟩ | ⟨habsent, before, o, after, err, rfl, hbefore, ho⟩)
    · exact ⟨[], out, outs, err, rfl, fun _ h => absurd h not_mem_nil, herr⟩
    · refine ⟨out :: before, o, after, err, rfl, ?_, ho⟩
      intro x hx
      rcases mem_cons.1 hx with rfl | hx
      · exact habsent
      · exact hbefore x hx

lemma firstStartFails_iff (hfails : StartFails outs) (i : ℕ) (used : List String) :
    FirstStartFails outs ↔ ∀ id, LogEntry.start id true ∉ (startEach pTag i used outs).log := by
  induction outs generalizing i used with
  | nil => exact absurd hfails startFails_nil
  | cons out rest ih =>
    rw [startFails_cons] at hfails
    rw [startEach, firstStartFails_cons]
    simp only [ite_setTag_start]
    cases hout : out.start with
    | fails err => simp
    | succeeds =>
      simp only [reduceCtorEq, exists_false, false_and, or_self, false_iff, not_forall, not_not]
      exact ⟨_, mem_cons_self⟩
    | absent =>
      have hrest : StartFails rest := by simpa [hout] using hfails
      simpa using ih hrest _ _

end Starts

section Failures

variable {env : Env δ} {p content : String} {starts : ℕ → StartMethod} {w w' : World δ}
  {final : List (Options δ)} {started : StartRun}

lemma reinstalls_of_change (starts : ℕ → StartMethod) (hfinal : Yields env p content w final)
    (hcheck : checkChange (w.lastOuts p) final = true) (hmade : made env starts w final ≠ []) :
    Reinstalls env p content w := by
  intro starts' changed w' h
  cases outcome_of_eq env p content starts' w h with
  | same hfinal' hcheck' =>
    rw [hfinal'.unique hfinal, hcheck] at hcheck'
    cases hcheck'
  | empty hfinal' _ hmade' =>
    rw [hfinal'.unique hfinal, made_eq_nil_iff, ← made_eq_nil_iff starts w] at hmade'
    exact absurd hmade' hmade
  | installed => rfl

omit [DecidableEq δ] in
lemma drop_log (w : World δ) (entries : List LogEntry) :
    (w.log ++ entries).drop w.log.length = entries := drop_left

lemma atomic_startFailed (hfinal : Yields env p content w final)
    (hcheck : checkChange (w.lastOuts p) final = true) (hmade : made env starts w final ≠ [])
    (hstarted : started = startOutbounds p (made env starts w final) w) :
    (Restored p w (logged (created env p starts w final) started.log) ∧
        AllClosed w (logged (created env p starts w final) started.log) ∧
        Reinstalls env p content (logged (created env p starts w final) started.log)) ↔
      final.map (Options.left env.leaves) = w.lastOuts p ∧ ∀ id, LogEntry.start id true ∉ started.log := by
  have hlast : (logged (created env p starts w final) started.log).lastOuts p =
      final.map (Options.left env.leaves) := update_self ..
  have hlog : (logged (created env p starts w final) started.log).log.drop w.log.length =
      started.log := drop_log w started.log
  constructor
  · rintro ⟨hrestored, hclosed, -⟩
    refine ⟨hlast.symm.trans hrestored.lastOuts, fun id hid => ?_⟩
    obtain ⟨listed, hlisted⟩ := hclosed id (hlog.symm ▸ hid)
    rw [hlog, hstarted] at hlisted
    obtain ⟨_, _, _, heq⟩ := startEach_log _ _ _ hlisted
    cases heq
  · rintro ⟨hlastOuts, hnone⟩
    refine ⟨⟨rfl, rfl, hlast.trans hlastOuts, rfl, rfl⟩, ?_, ?_⟩
    · intro id hid
      rw [hlog] at hid
      exact absurd hid (hnone id)
    · refine reinstalls_of_change starts (hfinal.congr rfl) ?_ ?_
      · rw [hlast, ← hcheck, hlastOuts]
      · rwa [Ne, made_eq_nil_iff, ← made_eq_nil_iff starts w]

lemma atomic_groupFailed {updated : World δ} {err : String} (hfinal : Yields env p content w final)
    (hcheck : checkChange (w.lastOuts p) final = true) (hmade : made env starts w final ≠ [])
    (hstarted : started = startOutbounds p (made env starts w final) w)
    (hupdated : updateGroups p (installed p started (created env p starts w final)) =
      (updated, some err)) (hw' : w' = (closeOutbounds p started.outbounds updated).setLists p
        (w.outbounds p) (w.outboundByTag p)) :
    (Restored p w w' ∧ AllClosed w w' ∧ Reinstalls env p content w') ↔
      final.map (Options.left env.leaves) = w.lastOuts p ∧ updated.snapshots = w.snapshots := by
  obtain ⟨net, hnet, hproviders⟩ :=
    updateGroups_eq p (installed p started (created env p starts w final))
  rw [hupdated] at hnet
  dsimp only at hnet
  have hprovider : updated.provider p = (w.provider p).map fun q =>
      { q with outbounds := started.outbounds, outboundByTag := fill Outbound.tag started.outbounds } := by
    rw [← provider_setLists started.outbounds, hnet, World.provider]
    change find? _ net.providers = _
    rw [hproviders]
    rfl
  have hp : w'.provider p = (w.provider p).map fun q =>
      { q with outbounds := w.outbounds p, outboundByTag := w.outboundByTag p } := by
    rw [hw', provider_setLists]
    change Option.map _ (updated.provider p) = _
    rw [hprovider, Option.map_map]
    rfl
  have houts : w'.outbounds p = w.outbounds p := by
    rw [World.outbounds, hp]
    cases hq : w.provider p with
    | none => simp [World.outbounds, hq]
    | some q => rfl
  have hbyTag : w'.outboundByTag p = w.outboundByTag p := by
    rw [World.outboundByTag, hp]
    cases hq : w.provider p with
    | none => simp [World.outboundByTag, hq]
    | some q => rfl
  have hlast : w'.lastOuts p = final.map (Options.left env.leaves) := by
    rw [hw']
    change updated.lastOuts p = _
    rw [hnet]
    exact update_self ..
  have hsnap : w'.snapshots = updated.snapshots := by
    rw [hw']
    rfl
  have hlog : w'.log.drop w.log.length = started.log ++ started.outbounds.map fun out =>
      .close out.id ((updated.outbounds p).any fun o => o.id == out.id) := by
    rw [hw']
    change (updated.log ++ _).drop _ = _
    rw [hnet]
    change ((w.log ++ started.log) ++ _).drop _ = _
    rw [append_assoc, drop_left]
  constructor
  · rintro ⟨hrestored, -, -⟩
    exact ⟨hlast.symm.trans hrestored.lastOuts, hsnap.symm.trans hrestored.groups⟩
  · rintro ⟨hlastOuts, hgroups⟩
    refine ⟨⟨houts, hbyTag, hlast.trans hlastOuts, ?_, hsnap.trans hgroups⟩, ?_, ?_⟩
    · rw [hw']
      change updated.lastEtag p = _
      rw [hnet]
      rfl
    · intro id hid
      rw [hlog, mem_append] at hid
      rcases hid with hid | hid
      · rw [hstarted] at hid
        obtain ⟨out, hout, ok, heq⟩ := startEach_log _ _ _ hid
        cases heq
        refine ⟨_, hlog ▸ mem_append_right _ (mem_map.2 ⟨out, ?_, rfl⟩)⟩
        rw [hstarted]
        exact hout
      · obtain ⟨_, _, heq⟩ := mem_map.1 hid
        cases heq
    · have hfilters : w'.filters p = w.filters p := by
        rw [hw']
        change updated.filters p = _
        rw [hnet]
        rfl
      refine reinstalls_of_change starts (hfinal.congr hfilters) ?_ ?_
      · rw [hlast, ← hcheck, hlastOuts]
      · rwa [Ne, made_eq_nil_iff, ← made_eq_nil_iff starts w]

omit [DecidableEq δ] in
lemma nextId_le_started {out : Outbound} (hout : out ∈ (startRun env p starts w final).outbounds) :
    w.nextId ≤ out.id := by
  have hid := mem_map_of_mem (f := Outbound.id) hout
  rw [startRun, startOutbounds, startEach_ids, made, map_map, mem_map] at hid
  obtain ⟨x, hx, hid⟩ := hid
  exact hid ▸ (constructEach_ids env starts w.nextId final x hx).1

variable (hw : Numbered w)
include hw

omit [DecidableEq δ] in
lemma updateGroups_err_iff : (updateGroups p (installed p (startRun env p starts w final)
      (created env p starts w final))).2 ≠ none ↔ ∃ g ∈ w.updatedGroups, GroupRefuses env p starts w final g := by
  change (updateEach p (if w.routerStarted then w.net.groups.map Group.id else [])
    (w.holding p (startRun env p starts w final).outbounds)).2 ≠ none ↔ _
  unfold World.updatedGroups
  split_ifs
  · exact updateEach_err_iff (s := w.holding p _) [] [] rfl hw.groups rfl
  · simp [updateEach]

omit [DecidableEq δ] in
lemma updateGroups_snapshots {before after : List Group} {g : Group}
    (hgroups : w.updatedGroups = before ++ g :: after)
    (hbefore : ∀ h ∈ before, ¬ GroupRefuses env p starts w final h) (hg : GroupRefuses env p starts w final g) :
    (updateGroups p (installed p (startRun env p starts w final)
        (created env p starts w final))).1.snapshots = w.snapshots ↔
      ∀ h ∈ before, Untouched p (startRun env p starts w final).outbounds w h := by
  obtain hrouter | hrouter := w.routerStarted.eq_false_or_eq_true
  · rw [World.updatedGroups, if_pos hrouter] at hgroups
    have hround := updateEach_snapshots (s := w.holding p (startRun env p starts w final).outbounds)
      [] [] hgroups hw.groups rfl hbefore hg
    rw [← hgroups] at hround
    change (updateEach p (if w.routerStarted then w.net.groups.map Group.id else []) _).1.groups.map snapshot =
      _ ↔ _
    rw [if_pos hrouter]
    refine hround.trans (forall₂_congr fun h hh => ?_)
    exact calmUpdate_holding hw (hgroups ▸ mem_append_left _ hh) fun out => nextId_le_started
  · rw [World.updatedGroups, if_neg (by simp [hrouter])] at hgroups
    exact absurd hgroups.symm (by simp)

variable (env p content starts)

lemma fails_iff :
    Fails env p starts w content ↔
      ∃ err w', updateProviderFromContent env p content starts w = (.error err, w') := by
  constructor
  · rintro (⟨err, hparse⟩ | ⟨final, ⟨hfinal, hcheck, hmade⟩, hfails | ⟨hstart, hgroups⟩⟩)
    · exact ⟨err, w, (Outcome.unparsed hparse).eq⟩
    · rw [← startEach_err_iff, Option.ne_none_iff_exists'] at hfails
      obtain ⟨err, herr⟩ := hfails
      exact ⟨err, _, (Outcome.startFailed hfinal hcheck hmade rfl herr).eq⟩
    · rw [← updateGroups_err_iff hw, Option.ne_none_iff_exists'] at hgroups
      obtain ⟨err, herr⟩ := hgroups
      rw [← startEach_err_iff, not_not] at hstart
      exact ⟨err, _, (Outcome.groupFailed hfinal hcheck hmade rfl hstart (Prod.ext rfl herr)).eq⟩
  · rintro ⟨err, w', h⟩
    cases outcome_of_eq env p content starts w h with
    | unparsed hparse => exact .inl ⟨err, hparse⟩
    | startFailed hfinal hcheck hmade hstarted herr =>
      refine .inr ⟨_, ⟨hfinal, hcheck, hmade⟩, .inl ?_⟩
      rw [← startEach_err_iff, Option.ne_none_iff_exists']
      exact ⟨err, hstarted ▸ herr⟩
    | groupFailed hfinal hcheck hmade hstarted hok hupdated =>
      refine .inr ⟨_, ⟨hfinal, hcheck, hmade⟩, .inr ⟨?_, ?_⟩⟩
      · rw [← startEach_err_iff, not_not]
        exact hstarted ▸ hok
      · rw [← updateGroups_err_iff hw, startRun, ← hstarted, hupdated]
        exact Option.some_ne_none err

lemma atomicUpdate_iff : AtomicUpdate env p content starts w ↔ Harmless env p starts w content := by
  constructor
  · rintro h final ⟨hfinal, hcheck, hmade⟩
    constructor
    · intro hfails
      rw [firstStartFails_iff hfails]
      rw [← startEach_err_iff, Option.ne_none_iff_exists'] at hfails
      obtain ⟨err, herr⟩ := hfails
      exact (atomic_startFailed hfinal hcheck hmade rfl).1
        (h err _ (Outcome.startFailed hfinal hcheck hmade rfl herr).eq)
    · intro hstart before g after hgroups hbefore hg
      have hrefused : ∃ g ∈ w.updatedGroups, GroupRefuses env p starts w final g :=
        ⟨g, hgroups ▸ mem_append_right _ mem_cons_self, hg⟩
      have herr := (updateGroups_err_iff hw).2 hrefused
      rw [Option.ne_none_iff_exists'] at herr
      obtain ⟨err, herr⟩ := herr
      rw [← startEach_err_iff, not_not] at hstart
      obtain ⟨hlast, hsnap⟩ := (atomic_groupFailed hfinal hcheck hmade rfl (Prod.ext rfl herr) rfl).1
        (h err _ (Outcome.groupFailed hfinal hcheck hmade rfl hstart (Prod.ext rfl herr)).eq)
      exact ⟨hlast, (updateGroups_snapshots hw hgroups hbefore hg).1 hsnap⟩
  · intro h err w' hupdate
    cases outcome_of_eq env p content starts w hupdate with
    | unparsed hparse =>
      refine ⟨⟨rfl, rfl, rfl, rfl, rfl⟩, ?_, ?_⟩
      · intro id hid
        rw [drop_length] at hid
        exact absurd hid not_mem_nil
      · intro starts' changed w' h'
        rw [(Outcome.unparsed hparse).eq] at h'
        cases h'
    | @startFailed final _ _ hfinal hcheck hmade hstarted herr =>
      have hfails : StartFails (made env starts w final) := by
        rw [← startEach_err_iff, Option.ne_none_iff_exists']
        exact ⟨err, hstarted ▸ herr⟩
      obtain ⟨hlast, hfirst⟩ := (h _ ⟨hfinal, hcheck, hmade⟩).1 hfails
      rw [firstStartFails_iff hfails] at hfirst
      exact (atomic_startFailed hfinal hcheck hmade hstarted).2 ⟨hlast, hstarted ▸ hfirst⟩
    | @groupFailed final _ _ _ hfinal hcheck hmade hstarted hok hupdated =>
      have hfails : ¬ StartFails (made env starts w final) := by
        rw [← startEach_err_iff, not_not]
        exact hstarted ▸ hok
      have hrefused : ∃ g ∈ w.updatedGroups, GroupRefuses env p starts w final g := by
        rw [← updateGroups_err_iff hw, startRun, ← hstarted, hupdated]
        exact Option.some_ne_none err
      obtain ⟨before, g, after, hgroups, hbefore, hg⟩ := exists_first hrefused
      obtain ⟨hlast, huntouched⟩ := (h _ ⟨hfinal, hcheck, hmade⟩).2 hfails before g after hgroups hbefore hg
      refine (atomic_groupFailed hfinal hcheck hmade hstarted hupdated rfl).2 ⟨hlast, ?_⟩
      have hsnap := (updateGroups_snapshots hw hgroups hbefore hg).2 huntouched
      rwa [startRun, ← hstarted, hupdated] at hsnap

end Failures

section Fetches

variable (env : Env δ) (p content : String) (starts : ℕ → StartMethod) (w : World δ) {w' : World δ}
  {etag subInfo raw : String}

lemma lastEtag_update {result : Except String Bool}
    (h : updateProviderFromContent env p content starts w = (result, w')) :
    w'.lastEtag = w.lastEtag := by
  cases outcome_of_eq env p content starts w h with
  | unparsed => rfl
  | same => rfl
  | empty => rfl
  | startFailed => rfl
  | @groupFailed final started _ _ _ _ _ _ _ hupdated =>
    obtain ⟨net, hnet, -⟩ := updateGroups_eq p (installed p started (created env p starts w final))
    rw [hupdated] at hnet
    exact (congrArg World.lastEtag hnet).trans rfl
  | @installed final started _ _ _ _ _ _ hupdated =>
    obtain ⟨net, hnet, -⟩ := updateGroups_eq p (installed p started (created env p starts w final))
    rw [hupdated] at hnet
    exact (congrArg World.lastEtag hnet).trans rfl

def World.withEtag (p etag : String) (w : World δ) : World δ :=
  if etag = "" then w else { w with lastEtag := update w.lastEtag p etag }

omit [DecidableEq δ] in
lemma restored_withEtag (hetag : w'.lastEtag = (w.withEtag p etag).lastEtag) :
    Restored p w w' ↔ Restored p (w.withEtag p etag) w' ∧ (etag = "" ∨ etag = w.lastEtag p) := by
  rw [World.withEtag] at hetag ⊢
  by_cases hempty : etag = ""
  · simp [hempty]
  · rw [if_neg hempty] at hetag ⊢
    have hself : update w.lastEtag p etag p = etag := update_self ..
    have hp : w'.lastEtag p = etag := (congrFun hetag p).trans hself
    constructor
    · rintro ⟨h₁, h₂, h₃, h₄, h₅⟩
      exact ⟨⟨h₁, h₂, h₃, hp.trans hself.symm, h₅⟩, .inr (hp.symm.trans h₄)⟩
    · rintro ⟨⟨h₁, h₂, h₃, -, h₅⟩, h⟩
      exact ⟨h₁, h₂, h₃, hp.trans (h.resolve_left hempty), h₅⟩

omit [DecidableEq δ] in
lemma numbered_withEtag (etag : String) : Numbered (w.withEtag p etag) ↔ Numbered w := by
  rw [World.withEtag]
  split_ifs
  · rfl
  · exact ⟨fun h => ⟨h.groups, h.outbounds, h.uses⟩, fun h => ⟨h.groups, h.outbounds, h.uses⟩⟩

lemma harmless_withEtag (etag content : String) :
    Harmless env p starts (w.withEtag p etag) content ↔ Harmless env p starts w content := by
  rw [World.withEtag]
  split_ifs
  · rfl
  · rfl

lemma fails_withEtag (etag content : String) :
    Fails env p starts (w.withEtag p etag) content ↔ Fails env p starts w content := by
  rw [World.withEtag]
  split_ifs
  · rfl
  · rfl

omit [DecidableEq δ] in
lemma allClosed_withEtag (etag : String) (w' : World δ) :
    AllClosed (w.withEtag p etag) w' ↔ AllClosed w w' := by
  rw [World.withEtag]
  split_ifs
  · rfl
  · rfl

lemma fetchOnce_body (hraw : raw ≠ "") : fetchOnce env p (.body etag subInfo raw) starts w =
      match updateProviderFromContent env p (strippedContent env subInfo raw) starts
        (w.withEtag p etag) with
      | (.error err, w) => (some err, w)
      | (.ok _, w) => (none, w) := by
  rw [fetchOnce]
  exact if_neg hraw

lemma atomicFetch_body (hw : Numbered w) (hraw : raw ≠ "") : AtomicFetch env p (.body etag subInfo raw) starts w ↔
      AtomicUpdate env p (strippedContent env subInfo raw) starts (w.withEtag p etag) ∧
        (Fails env p starts (w.withEtag p etag) (strippedContent env subInfo raw) →
          etag = "" ∨ etag = w.lastEtag p) := by
  have hcontent : (Response.body etag subInfo raw).content env =
      some (strippedContent env subInfo raw) := if_neg hraw
  rw [fails_iff env p _ starts (numbered_withEtag p w etag |>.2 hw), AtomicFetch, AtomicUpdate,
    fetchOnce_body env p starts w hraw]
  cases hupdate : updateProviderFromContent env p (strippedContent env subInfo raw) starts
      (w.withEtag p etag) with
  | mk result w₂ =>
  cases result with
  | ok changed => simp
  | error err =>
    have hetag := lastEtag_update env p _ starts (w.withEtag p etag) hupdate
    simp only [Prod.mk.injEq, Option.some.injEq, Except.error.injEq, and_imp, forall_eq',
      hcontent, forall_apply_eq_imp_iff, exists_eq', true_implies,
      exists_and_left, and_true, restored_withEtag p w hetag, allClosed_withEtag]
    tauto

theorem failed_update_atomic_iff (hw : Numbered w) (response : Response) :
    (AtomicUpdate env p content starts w ↔ Harmless env p starts w content) ∧
      (AtomicFetch env p response starts w ↔ HarmlessFetch env p starts w response) := by
  refine ⟨atomicUpdate_iff env p content starts hw, ?_⟩
  have hsame : Restored p w w ∧ AllClosed w w := by
    refine ⟨⟨rfl, rfl, rfl, rfl, rfl⟩, fun id hid => ?_⟩
    rw [drop_length] at hid
    exact absurd hid not_mem_nil
  cases response with
  | body etag subInfo raw =>
    by_cases hraw : raw = ""
    · refine iff_of_true ?_ ?_
      · intro err w' h
        rw [fetchOnce, if_pos hraw] at h
        cases h
        refine ⟨hsame.1, hsame.2, fun content hcontent => ?_⟩
        rw [Response.content, if_pos hraw] at hcontent
        cases hcontent
      · rintro etag' subInfo' raw' heq hraw'
        cases heq
        exact absurd hraw hraw'
    · rw [atomicFetch_body env p starts w hw hraw, atomicUpdate_iff env p _ starts
        (numbered_withEtag p w etag |>.2 hw), harmless_withEtag, fails_withEtag]
      constructor
      · rintro h etag' subInfo' raw' heq -
        cases heq
        exact h
      · exact fun h => h etag subInfo raw rfl hraw
  | failed err₀ =>
    refine iff_of_true ?_ (fun _ _ _ h => nomatch h)
    rintro err w' ⟨⟩
    exact ⟨hsame.1, hsame.2, fun _ h => nomatch h⟩
  | notModified => exact iff_of_true (fun _ _ h => nomatch h) (fun _ _ _ h => nomatch h)
  | unexpected status =>
    refine iff_of_true ?_ (fun _ _ _ h => nomatch h)
    rintro err w' ⟨⟩
    exact ⟨hsame.1, hsame.2, fun _ h => nomatch h⟩
  | unreadable err₀ =>
    refine iff_of_true ?_ (fun _ _ _ h => nomatch h)
    rintro err w' ⟨⟩
    exact ⟨hsame.1, hsame.2, fun _ h => nomatch h⟩

end Fetches

/-- The constructor of a ShadowTLS outbound writes to the options it is given. -/
def rewriting : Env Bool where
  decodeBase64Safe := id
  isSubInfo := fun _ => false
  newParser := fun _ _ => .ok [⟨.shadowTLS, "a", 80, false⟩]
  new := fun _ => some [.tcp]
  leaves := fun _ => true
  leaves_leaves _ := rfl
  new_leaves _ := rfl

def pickyGroup (id : ℕ) (tag defaultTag : String) (filter : Filter) : Group :=
  .selector { id, tag, defaultTag, filter, uses := ["p"], providers := ["p"],
              outbounds := [idleWorld.net.outboundless], selected := some idleWorld.net.outboundless }

/-- One group takes no outbound of the provider, the other has a default that the provider lacks. -/
def refusingWorld : World Bool where
  net := { idleWorld.net with
    groups := [pickyGroup 1 "g" "" { excludes := some (· == "a") }, pickyGroup 2 "h" "b" {}] }
  lastOuts := fun _ => [⟨.shadowTLS, "a", 80, true⟩]
  nextId := 3

lemma refusingWorld_numbered : Numbered refusingWorld where
  groups := by decide
  outbounds := by decide
  uses := fun g hg => by
    rcases mem_pair.1 hg with rfl | rfl <;> exact fun _ h => h

lemma refusingWorld_harmless : Harmless rewriting "p" (fun _ => .absent) refusingWorld "c" := by
  rintro final ⟨⟨outbounds, houtbounds, rfl⟩, -, -⟩
  cases houtbounds
  refine ⟨fun ⟨out, hout, err, herr⟩ => ?_, fun _ before g after hgroups hbefore hg => ⟨rfl, ?_⟩⟩
  · cases mem_singleton.1 hout
    cases herr
  · rcases before with _ | ⟨h, _ | ⟨h', before⟩⟩
    · exact fun _ h => absurd h not_mem_nil
    · cases hgroups
      rw [forall_mem_singleton]
      refine fun _ => ⟨fun out hout => ?_, _, rfl, rfl⟩
      cases mem_singleton.1 hout
      rfl
    · exact absurd (congrArg length hgroups) (by simp [World.updatedGroups, refusingWorld])

theorem refused_update_atomic : Numbered refusingWorld ∧
    (updateProviderFromContent rewriting "p" "c" (fun _ => .absent) refusingWorld).1 =
      .error "update outbound group[h] with outbound provider[p]: update oubounds failed: h" ∧
    AtomicUpdate rewriting "p" "c" (fun _ => .absent) refusingWorld :=
  ⟨refusingWorld_numbered, rfl,
    (failed_update_atomic_iff _ _ "c" _ _ refusingWorld_numbered .notModified).1.2 refusingWorld_harmless⟩

def halfStarted : Env Unit :=
  .plain (fun _ _ => .ok [⟨.tor, "a", 80, ()⟩, ⟨.wireGuard, "b", 80, ()⟩]) fun _ => some [.tcp]

def startsFirst (id : ℕ) : StartMethod := if id = 1 then .succeeds else .fails "busy"

theorem half_started_update_not_atomic :
    ¬ AtomicUpdate halfStarted "p" "c" startsFirst idleWorld ∧
      ¬ AtomicFetch halfStarted "p" (.body "" "" "c") startsFirst idleWorld ∧
      (updateProviderFromContent halfStarted "p" "c" startsFirst idleWorld).2.log =
        [.start 1 true, .start 2 false] ∧
      (updateProviderFromContent halfStarted "p" "c" (fun _ => .succeeds)
        (updateProviderFromContent halfStarted "p" "c" startsFirst idleWorld).2).1 =
          .ok false := by
  refine ⟨fun h => ?_, fun h => ?_, rfl, rfl⟩
  · cases (h _ _ rfl).1.lastOuts
  · cases (h _ _ rfl).1.lastOuts

end SingBox.Provider
