import SingBox.Provider.Update

namespace SingBox.Provider

open Adapter Groups Lib.Table List

variable {δ : Type}

lemma ite_setTag_id (c : Prop) [Decidable c] (out : Outbound) (tag : String) :
    (if c then out.setTag tag else out).id = out.id := by
  split_ifs <;> rfl

lemma ite_setTag_start (c : Prop) [Decidable c] (out : Outbound) (tag : String) :
    (if c then out.setTag tag else out).start = out.start := by
  split_ifs <;> rfl

variable {pTag : String} {outs : List Outbound}

lemma startEach_log (i : ℕ) (used : List String) :
    ∀ e ∈ (startEach pTag i used outs).log,
      ∃ out ∈ (startEach pTag i used outs).outbounds, ∃ ok, e = .start out.id ok := by
  induction outs generalizing i used with
  | nil => exact fun e he => absurd he not_mem_nil
  | cons out rest ih =>
    intro e he
    rw [startEach] at he ⊢
    dsimp only at he ⊢
    split at he
    · rw [mem_singleton] at he
      exact ⟨_, mem_cons_self, false, he⟩
    · rcases mem_cons.1 he with rfl | he
      · exact ⟨_, mem_cons_self, true, rfl⟩
      · obtain ⟨o, ho, hok⟩ := ih _ _ e he
        exact ⟨o, mem_cons_of_mem _ ho, hok⟩
    · obtain ⟨o, ho, hok⟩ := ih _ _ e he
      exact ⟨o, mem_cons_of_mem _ ho, hok⟩

lemma startEach_ids (i : ℕ) (used : List String) :
    (startEach pTag i used outs).outbounds.map Outbound.id = outs.map Outbound.id := by
  induction outs generalizing i used with
  | nil => rfl
  | cons out rest ih =>
    rw [startEach]
    dsimp only
    split
    · rw [map_cons, map_cons, ite_setTag_id]
    · rw [map_cons, map_cons, ite_setTag_id, ih]
    · rw [map_cons, map_cons, ite_setTag_id, ih]

lemma constructEach_ids (env : Env δ) (starts : ℕ → StartMethod) (id : ℕ) (os : List (Options δ)) :
    ∀ x ∈ constructEach env starts id os, id ≤ x.1.id ∧ x.1.id < id + os.length := by
  induction os generalizing id with
  | nil => exact fun x hx => absurd hx not_mem_nil
  | cons o os ih =>
    intro x hx
    rw [constructEach] at hx
    rw [length_cons]
    split at hx
    · have := ih (id + 1) x hx
      omega
    · rename_i out hout
      rcases mem_cons.1 hx with rfl | hx
      · rw [construct] at hout
        split_ifs at hout
        obtain ⟨network, _, rfl⟩ := Option.map_eq_some_iff.1 hout
        dsimp only
        omega
      · have := ih (id + 1) x hx
        omega

lemma constructEach_nodup (env : Env δ) (starts : ℕ → StartMethod) (id : ℕ) (os : List (Options δ)) :
    ((constructEach env starts id os).map fun x => x.1.id).Nodup := by
  induction os generalizing id with
  | nil => exact nodup_nil
  | cons o os ih =>
    rw [constructEach]
    split
    · exact ih (id + 1)
    · rename_i out hout
      rw [map_cons, nodup_cons]
      refine ⟨fun hmem => ?_, ih (id + 1)⟩
      obtain ⟨x, hx, hid⟩ := mem_map.1 hmem
      have hlow := (constructEach_ids env starts (id + 1) os x hx).1
      have hself : out.id = id := by
        rw [construct] at hout
        split_ifs at hout
        obtain ⟨network, _, rfl⟩ := Option.map_eq_some_iff.1 hout
        rfl
      dsimp only at hid
      omega

def constructible (env : Env δ) (final : List (Options δ)) : List (Options δ) :=
  (final.filter fun o => !isSkipped o.type && (env.new o).isSome).map (Options.left env.leaves)

lemma constructEach_snd (env : Env δ) (starts : ℕ → StartMethod) (id : ℕ) (os : List (Options δ)) :
    (constructEach env starts id os).map Prod.snd = constructible env os := by
  induction os generalizing id with
  | nil => rfl
  | cons o os ih =>
    rw [constructible] at ih ⊢
    rw [constructEach, filter_cons]
    cases hskip : isSkipped o.type with
    | true => simp [construct, hskip, ih]
    | false =>
      cases hnew : env.new o with
      | none => simp [construct, hskip, hnew, ih]
      | some network => simp [construct, hskip, hnew, ih]

@[simp] lemma Options.left_tag (leaves : Options δ → δ) (o : Options δ) : (o.left leaves).tag = o.tag := by
  unfold Options.left
  split_ifs <;> rfl

@[simp] lemma Options.left_type (leaves : Options δ → δ) (o : Options δ) :
    (o.left leaves).type = o.type := by
  unfold Options.left
  split_ifs <;> rfl

lemma Env.left_left (env : Env δ) (o : Options δ) :
    (o.left env.leaves).left env.leaves = o.left env.leaves := by
  cases hskip : isSkipped o.type with
  | true => simp [Options.left, hskip]
  | false => simp [Options.left, hskip, env.leaves_leaves]

lemma Env.new_left (env : Env δ) (o : Options δ) : env.new (o.left env.leaves) = env.new o := by
  cases hskip : isSkipped o.type with
  | true => simp [Options.left, hskip]
  | false => simp [Options.left, hskip, env.new_leaves]

lemma constructible_left (env : Env δ) (final : List (Options δ)) :
    constructible env (final.map (Options.left env.leaves)) = constructible env final := by
  rw [constructible, constructible, filter_map, map_map]
  refine congrArg₂ map (funext env.left_left) (filter_congr fun o _ => ?_)
  simp [env.new_left]

@[simp] lemma State.put_providers (s : State) (g : Group) : (s.put g).providers = s.providers := rfl

lemma updateEach_providers (p : String) (ids : List ℕ) (s : State) :
    (updateEach p ids s).1.providers = s.providers := by
  induction ids generalizing s with
  | nil => rfl
  | cons id ids ih =>
    rw [updateEach]
    split
    · exact ih s
    · split
      · rw [ih, State.put_providers]
      · rfl

lemma updateGroups_eq (p : String) (w : World δ) :
    ∃ net, (updateGroups p w).1 = { w with net } ∧ net.providers = w.net.providers :=
  ⟨_, rfl, updateEach_providers _ _ _⟩

variable {w : World δ} {p : String}

lemma provider_setLists (outbounds : List Outbound) (byTag : String → Option Outbound) :
    (w.setLists p outbounds byTag).provider p =
      (w.provider p).map fun q => { q with outbounds, outboundByTag := byTag } := by
  change find? _ (w.net.providers.map _) = _
  rw [find?_map]
  have hpred : ((fun q : Startup.Provider => q.tag == p) ∘ fun q =>
      if q.tag = p then { q with outbounds, outboundByTag := byTag } else q) = fun q => q.tag == p := by
    funext q
    rw [Function.comp_apply]
    split_ifs <;> rfl
  rw [hpred]
  change Option.map _ (w.provider p) = _
  cases hp : w.provider p with
  | none => rfl
  | some q =>
    have htag : q.tag = p := by simpa using find?_some hp
    rw [Option.map_some, Option.map_some, if_pos htag]

lemma outbounds_setLists (hp : (w.provider p).isSome) (outbounds : List Outbound)
    (byTag : String → Option Outbound) : (w.setLists p outbounds byTag).outbounds p = outbounds := by
  rw [World.outbounds, provider_setLists]
  obtain ⟨q, hq⟩ := Option.isSome_iff_exists.1 hp
  rw [hq]
  rfl

variable (env : Env δ) (p content : String) (starts : ℕ → StartMethod) (w : World δ)

def made (final : List (Options δ)) : List Outbound :=
  (constructEach env starts w.nextId final).map Prod.fst

def created (final : List (Options δ)) : World δ :=
  { (createOutbounds env starts final w).2.2 with
    lastOuts := Function.update w.lastOuts p (final.map (Options.left env.leaves)) }

def logged (w : World δ) (entries : List LogEntry) : World δ := { w with log := w.log ++ entries }

def installed (started : StartRun) (w : World δ) : World δ :=
  (logged w started.log).setLists p started.outbounds (fill Outbound.tag started.outbounds)

def Yields (final : List (Options δ)) : Prop :=
  ∃ outbounds, env.newParser p (env.decodeBase64Safe content) = .ok outbounds ∧
    final = finalOuts (w.filters p) outbounds

variable {final : List (Options δ)}

variable {env p content w} in
lemma Yields.unique {final' : List (Options δ)} (h : Yields env p content w final)
    (h' : Yields env p content w final') : final = final' := by
  obtain ⟨outs, houts, rfl⟩ := h
  obtain ⟨outs', houts', rfl⟩ := h'
  rw [houts] at houts'
  cases houts'
  rfl

variable {w' : World δ}

variable {env p content w} in
lemma Yields.congr (h : Yields env p content w final)
    (hfilters : w'.filters p = w.filters p) : Yields env p content w' final := by
  obtain ⟨outs, houts, rfl⟩ := h
  exact ⟨outs, houts, by rw [hfilters]⟩

variable {env} in
lemma made_eq_nil_iff :
    made env starts w final = [] ↔ constructible env final = [] := by
  rw [← constructEach_snd env starts w.nextId, made, map_eq_nil_iff, map_eq_nil_iff]

variable [DecidableEq δ]

inductive Outcome : Except String Bool → World δ → Prop
  | unparsed {err : String} (hparse : env.newParser p (env.decodeBase64Safe content) = .error err) :
      Outcome (.error err) w
  | same {final : List (Options δ)} (hfinal : Yields env p content w final)
      (hcheck : checkChange (w.lastOuts p) final = false) : Outcome (.ok false) w
  | empty {final : List (Options δ)} (hfinal : Yields env p content w final)
      (hcheck : checkChange (w.lastOuts p) final = true) (hmade : made env starts w final = []) :
      Outcome (.ok false) (created env p starts w final)
  | startFailed {final : List (Options δ)} {started : StartRun} {err : String}
      (hfinal : Yields env p content w final)
      (hcheck : checkChange (w.lastOuts p) final = true) (hmade : made env starts w final ≠ [])
      (hstarted : started = startOutbounds p (made env starts w final) w)
      (herr : started.err = some err) :
      Outcome (.error err) (logged (created env p starts w final) started.log)
  | groupFailed {final : List (Options δ)} {started : StartRun} {updated : World δ} {err : String}
      (hfinal : Yields env p content w final)
      (hcheck : checkChange (w.lastOuts p) final = true) (hmade : made env starts w final ≠ [])
      (hstarted : started = startOutbounds p (made env starts w final) w)
      (hok : started.err = none)
      (hupdated : updateGroups p (installed p started (created env p starts w final)) =
        (updated, some err)) :
      Outcome (.error err)
        ((closeOutbounds p started.outbounds updated).setLists p (w.outbounds p) (w.outboundByTag p))
  | installed {final : List (Options δ)} {started : StartRun} {updated : World δ}
      (hfinal : Yields env p content w final)
      (hcheck : checkChange (w.lastOuts p) final = true) (hmade : made env starts w final ≠ [])
      (hstarted : started = startOutbounds p (made env starts w final) w)
      (hok : started.err = none)
      (hupdated : updateGroups p (Provider.installed p started (created env p starts w final)) =
        (updated, none)) :
      Outcome (.ok true) updated

variable {env p content starts w}

omit [DecidableEq δ] in
lemma startOutbounds_created (final : List (Options δ)) :
    startOutbounds p (made env starts w final) (created env p starts w final) =
      startOutbounds p (made env starts w final) w := rfl

lemma install_outcome (starts : ℕ → StartMethod) (hfinal : Yields env p content w final)
    (hcheck : checkChange (w.lastOuts p) final = true) (hmade : made env starts w final ≠ []) :
    Outcome env p content starts w
      (installOutbounds p (made env starts w final) (created env p starts w final)).1
      (installOutbounds p (made env starts w final) (created env p starts w final)).2 := by
  rw [installOutbounds]
  dsimp only
  rw [startOutbounds_created]
  split
  · rename_i err herr
    exact .startFailed hfinal hcheck hmade rfl herr
  · rename_i hok
    split
    · rename_i err herr
      exact .groupFailed hfinal hcheck hmade rfl hok (Prod.ext rfl herr)
    · rename_i herr
      exact .installed hfinal hcheck hmade rfl hok (Prod.ext rfl herr)

lemma parseOutbounds_changed (hfinal : Yields env p content w final)
    (hcheck : checkChange (w.lastOuts p) final = true) :
    parseOutbounds env p (env.decodeBase64Safe content) starts w =
      (.ok (made env starts w final), created env p starts w final) := by
  obtain ⟨outbounds, hparse, rfl⟩ := hfinal
  rw [parseOutbounds, hparse]
  dsimp only
  rw [hcheck]
  rfl

lemma parseOutbounds_same (hfinal : Yields env p content w final)
    (hcheck : checkChange (w.lastOuts p) final = false) :
    parseOutbounds env p (env.decodeBase64Safe content) starts w = (.ok [], w) := by
  obtain ⟨outbounds, hparse, rfl⟩ := hfinal
  rw [parseOutbounds, hparse]
  dsimp only
  rw [hcheck]
  rfl

variable (env p content starts w)

lemma outcome :
    Outcome env p content starts w (updateProviderFromContent env p content starts w).1
      (updateProviderFromContent env p content starts w).2 := by
  cases hparse : env.newParser p (env.decodeBase64Safe content) with
  | error err =>
    rw [updateProviderFromContent, parseOutbounds, hparse]
    exact .unparsed hparse
  | ok outbounds =>
    have hfinal : Yields env p content w (finalOuts (w.filters p) outbounds) := ⟨outbounds, hparse, rfl⟩
    cases hcheck : checkChange (w.lastOuts p) (finalOuts (w.filters p) outbounds) with
    | false =>
      rw [updateProviderFromContent, parseOutbounds_same hfinal hcheck]
      exact .same hfinal hcheck
    | true =>
      have hinstall := install_outcome starts hfinal hcheck
      rw [updateProviderFromContent, parseOutbounds_changed hfinal hcheck]
      cases hmade : made env starts w (finalOuts (w.filters p) outbounds) with
      | nil => exact .empty hfinal hcheck hmade
      | cons out rest =>
        rw [hmade] at hinstall
        exact hinstall (cons_ne_nil out rest)

variable {result : Except String Bool}

lemma outcome_of_eq (h : updateProviderFromContent env p content starts w = (result, w')) :
    Outcome env p content starts w result w' := by
  have ho := outcome env p content starts w
  rwa [h] at ho

variable {env p content starts w}

lemma update_changed (hfinal : Yields env p content w final)
    (hcheck : checkChange (w.lastOuts p) final = true) (hmade : made env starts w final ≠ []) :
    updateProviderFromContent env p content starts w =
      installOutbounds p (made env starts w final) (created env p starts w final) := by
  rw [updateProviderFromContent, parseOutbounds_changed hfinal hcheck]
  obtain ⟨out, rest, hcons⟩ := exists_cons_of_ne_nil hmade
  rw [hcons]

lemma Outcome.eq (h : Outcome env p content starts w result w') :
    updateProviderFromContent env p content starts w = (result, w') := by
  cases h with
  | unparsed hparse => rw [updateProviderFromContent, parseOutbounds, hparse]
  | same hfinal hcheck => rw [updateProviderFromContent, parseOutbounds_same hfinal hcheck]
  | empty hfinal hcheck hmade =>
    rw [updateProviderFromContent, parseOutbounds_changed hfinal hcheck, hmade]
  | startFailed hfinal hcheck hmade hstarted herr =>
    rw [hstarted] at herr ⊢
    rw [update_changed hfinal hcheck hmade, installOutbounds, startOutbounds_created]
    simp only [herr]
    rfl
  | groupFailed hfinal hcheck hmade hstarted hok hupdated =>
    rw [hstarted] at hok hupdated ⊢
    rw [Provider.installed, logged] at hupdated
    rw [update_changed hfinal hcheck hmade, installOutbounds, startOutbounds_created]
    simp only [hok, hupdated]
    rfl
  | installed hfinal hcheck hmade hstarted hok hupdated =>
    rw [hstarted] at hok hupdated
    rw [Provider.installed, logged] at hupdated
    rw [update_changed hfinal hcheck hmade, installOutbounds, startOutbounds_created]
    simp only [hok, hupdated]

end SingBox.Provider
