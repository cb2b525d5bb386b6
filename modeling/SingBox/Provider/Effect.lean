import SingBox.Provider.Outcomes

namespace SingBox.Provider

open Adapter Groups Lib.Table List

variable {δ : Type}

def World.running (p : String) (w : World δ) : List (Option (Options δ)) :=
  (w.outbounds p).map fun out => w.origin out.id

structure TakesEffect (env : Env δ) (p : String) (final : List (Options δ)) (changed : Bool)
    (w w' : World δ) : Prop where
  running : w'.running p = (constructible env final).map some
  noChanges : changed = false → final = w.lastOuts p
  emptied : constructible env final = [] → w'.outbounds p = []

variable {env : Env δ} {p content : String} {starts : ℕ → StartMethod} {w w' : World δ}
  {final : List (Options δ)}

lemma origin_created (id : ℕ) : (created env p starts w final).origin id =
    (((constructEach env starts w.nextId final).find? fun y => y.1.id == id).map Prod.snd).or
      (w.origin id) := by
  rw [created, createOutbounds]
  dsimp only
  cases (constructEach env starts w.nextId final).find? fun y => y.1.id == id <;> rfl

lemma created_origin {x : Outbound × Options δ} (hx : x ∈ constructEach env starts w.nextId final) :
    (created env p starts w final).origin x.1.id = some x.2 := by
  have hfind := find?_of_nodup (fun y : Outbound × Options δ => y.1.id)
    (constructEach_nodup env starts w.nextId final) hx
  rw [origin_created, hfind]
  rfl

lemma created_running :
    (made env starts w final).map (fun out => (created env p starts w final).origin out.id) =
      (constructible env final).map some := by
  rw [← constructEach_snd env starts w.nextId, made, map_map, map_map]
  exact map_congr_left fun x hx => created_origin hx

lemma updateGroups_installed {started : StartRun} {updated : World δ} {e : Option String}
    (hp : (w.provider p).isSome)
    (hupdated : updateGroups p (installed p started (created env p starts w final)) = (updated, e)) :
    updated.outbounds p = started.outbounds ∧ updated.origin = (created env p starts w final).origin ∧
      updated.lastOuts p = final.map (Options.left env.leaves) := by
  obtain rfl : (updateGroups p (installed p started (created env p starts w final))).1 = updated :=
    congrArg Prod.fst hupdated
  refine ⟨?_, rfl, Function.update_self ..⟩
  rw [World.outbounds, World.provider]
  change ((find? _ (updateEach p _ _).1.providers).map _).getD _ = _
  rw [updateEach_providers]
  exact outbounds_setLists hp started.outbounds _

variable [DecidableEq δ]

lemma running_of_changed (hp : (w.provider p).isSome) (hfinal : Yields env p content w final)
    (h : updateProviderFromContent env p content starts w = (.ok true, w')) :
    w'.running p = (constructible env final).map some ∧
      w'.lastOuts p = final.map (Options.left env.leaves) := by
  cases outcome_of_eq env p content starts w h with
  | @installed final' _ _ hfinal' _ _ hstarted _ hupdated =>
    rw [← hfinal'.unique hfinal]
    obtain ⟨houts, horigin, hlast⟩ := updateGroups_installed hp hupdated
    refine ⟨?_, hlast⟩
    have hids : w'.running p =
        ((w'.outbounds p).map Outbound.id).map (created env p starts w final').origin := by
      rw [World.running, horigin, map_map]
      rfl
    rw [hids, houts, hstarted, startOutbounds, startEach_ids, map_map]
    exact created_running

lemma running_of_unchanged
    (h : updateProviderFromContent env p content starts w = (.ok false, w')) :
    w'.running p = w.running p ∧ w'.outbounds p = w.outbounds p := by
  cases outcome_of_eq env p content starts w h with
  | same => exact ⟨rfl, rfl⟩
  | @empty final _ _ hmade =>
    refine ⟨?_, rfl⟩
    rw [made, map_eq_nil_iff] at hmade
    have horigin : (created env p starts w final).origin = w.origin := by
      funext id
      rw [origin_created, hmade]
      rfl
    rw [World.running, horigin]
    rfl

lemma changed_iff (hfinal : Yields env p content w final) {changed : Bool}
    (h : updateProviderFromContent env p content starts w = (.ok changed, w')) :
    changed = true ↔ checkChange (w.lastOuts p) final = true ∧ constructible env final ≠ [] := by
  cases outcome_of_eq env p content starts w h with
  | same hfinal' hcheck =>
    rw [hfinal'.unique hfinal] at hcheck
    simp [hcheck]
  | empty hfinal' _ hmade =>
    rw [hfinal'.unique hfinal, made_eq_nil_iff] at hmade
    simp [hmade]
  | installed hfinal' hcheck hmade =>
    rw [hfinal'.unique hfinal] at hcheck hmade
    rw [Ne, made_eq_nil_iff] at hmade
    exact iff_of_true rfl ⟨hcheck, hmade⟩

variable {old new : String} {starts₀ : ℕ → StartMethod} {w₀ w₁ w₂ : World δ}
  {changed₀ changed : Bool}

lemma provider_isSome_of_ok (hp : (w₀.provider p).isSome)
    (h : updateProviderFromContent env p old starts₀ w₀ = (.ok changed₀, w₁)) :
    (w₁.provider p).isSome := by
  cases outcome_of_eq env p old starts₀ w₀ h with
  | same => exact hp
  | empty => exact hp
  | @installed final started _ _ _ _ _ _ hupdated =>
    obtain ⟨net, hnet, hproviders⟩ := updateGroups_eq p
      (Provider.installed p started (created env p starts₀ w₀ final))
    rw [hupdated] at hnet
    have hprovider : w₁.provider p =
        (Provider.installed p started (created env p starts₀ w₀ final)).provider p := by
      rw [World.provider, World.provider, ← hproviders]
      exact congrArg (fun w : World δ => w.net.providers.find? fun q => q.tag == p) hnet
    rw [hprovider, Provider.installed, provider_setLists, Option.isSome_map]
    exact hp

lemma takesEffect_of_changed (hp : (w₁.provider p).isSome) (hfinal : Yields env p new w₁ final)
    (h : updateProviderFromContent env p new starts w₁ = (.ok true, w₂)) :
    TakesEffect env p final true w₁ w₂ := by
  obtain ⟨hrunning, -⟩ := running_of_changed hp hfinal h
  refine ⟨hrunning, fun hfalse => (nomatch hfalse), fun hnil => ?_⟩
  rw [hnil, map_nil, World.running, map_eq_nil_iff] at hrunning
  exact hrunning

lemma takesEffect_of_unchanged
    (h : updateProviderFromContent env p new starts w₁ = (.ok false, w₂)) :
    TakesEffect env p final false w₁ w₂ ↔
      final = w₁.lastOuts p ∧ w₁.running p = (constructible env final).map some := by
  obtain ⟨hrunning, houts⟩ := running_of_unchanged h
  constructor
  · rintro ⟨hr, hlast, -⟩
    exact ⟨hlast rfl, hrunning.symm.trans hr⟩
  · rintro ⟨hlast, hr⟩
    refine ⟨hrunning.trans hr, fun _ => hlast, fun hnil => ?_⟩
    rw [hnil, map_nil, World.running, map_eq_nil_iff] at hr
    exact houts.trans hr

theorem update_takes_effect_iff (hp : (w₀.provider p).isSome)
    (hold : updateProviderFromContent env p old starts₀ w₀ = (.ok changed₀, w₁))
    (hnew : updateProviderFromContent env p new starts w₁ = (.ok changed, w₂))
    (hfinal : Yields env p new w₁ final) :
    (TakesEffect env p final changed w₁ w₂ ↔
      checkChange (w₁.lastOuts p) final = true ∧ constructible env final ≠ [] ∨
        final = w₁.lastOuts p ∧ w₁.running p = (constructible env final).map some) ∧
    (changed₀ = true → (TakesEffect env p final changed w₁ w₂ ↔
      checkChange (w₁.lastOuts p) final = true ∧ constructible env final ≠ [] ∨
        final = w₁.lastOuts p)) := by
  have hp₁ := provider_isSome_of_ok hp hold
  have hchanged := changed_iff hfinal hnew
  have hiff : TakesEffect env p final changed w₁ w₂ ↔
      checkChange (w₁.lastOuts p) final = true ∧ constructible env final ≠ [] ∨
        final = w₁.lastOuts p ∧ w₁.running p = (constructible env final).map some := by
    rw [← hchanged]
    cases changed with
    | true => exact iff_of_true (takesEffect_of_changed hp₁ hfinal hnew) (.inl rfl)
    | false => simpa using takesEffect_of_unchanged hnew
  refine ⟨hiff, ?_⟩
  rintro rfl
  rw [hiff]
  -- the list that the first update has applied is the one it runs
  have hrunning : final = w₁.lastOuts p → w₁.running p = (constructible env final).map some := by
    intro hlast
    cases outcome_of_eq env p old starts₀ w₀ hold with
    | installed hfinal₀ =>
      obtain ⟨hr, hl⟩ := running_of_changed hp hfinal₀ hold
      rw [hr, hlast, hl, constructible_left]
  exact or_congr_right (and_iff_left_of_imp hrunning)

def entry (type : OutboundType) (tag : String) : Options Unit := ⟨type, tag, 80, ()⟩

def subscription : Env Unit :=
  .plain (fun _ content =>
    if content = "ab" then .ok [entry .http "a", entry .http "b"]
    else if content = "ba" then .ok [entry .http "b", entry .http "a"]
    else .ok [entry .direct "d"]) fun _ => some [.tcp]

def updatedTwice (old new : String) : Except String Bool × World Unit :=
  updateProviderFromContent subscription "p" new (fun _ => .absent)
    (updateProviderFromContent subscription "p" old (fun _ => .absent) idleWorld).2

theorem update_takes_effect_nothing_left :
    TakesEffect subscription "p" [entry .http "a", entry .http "b"] true
      (updateProviderFromContent subscription "p" "d" (fun _ => .absent) idleWorld).2
      (updatedTwice "d" "ab").2 := by
  have hold : updateProviderFromContent subscription "p" "d" (fun _ => .absent) idleWorld =
    (.ok false, (updateProviderFromContent subscription "p" "d" (fun _ => .absent) idleWorld).2) := rfl
  have hnew : updatedTwice "d" "ab" = (.ok true, (updatedTwice "d" "ab").2) := rfl
  have hfinal : Yields subscription "p" "ab"
      (updateProviderFromContent subscription "p" "d" (fun _ => .absent) idleWorld).2
      [entry .http "a", entry .http "b"] := ⟨_, rfl, rfl⟩
  exact (update_takes_effect_iff rfl hold hnew hfinal).1.2 (.inl ⟨rfl, by decide⟩)

theorem reordered_update_not_in_effect :
    (updatedTwice "ab" "ba").1 = .ok false ∧
      (updatedTwice "ab" "ba").2.running "p" = [some (entry .http "a"), some (entry .http "b")] ∧
      ¬ TakesEffect subscription "p" [entry .http "b", entry .http "a"] false
        (updateProviderFromContent subscription "p" "ab" (fun _ => .absent) idleWorld).2
        (updatedTwice "ab" "ba").2 ∧
      (updatedTwice "ab" "d").1 = .ok false ∧
      (updatedTwice "ab" "d").2.running "p" = [some (entry .http "a"), some (entry .http "b")] ∧
      ¬ TakesEffect subscription "p" [entry .direct "d"] false
        (updateProviderFromContent subscription "p" "ab" (fun _ => .absent) idleWorld).2
        (updatedTwice "ab" "d").2 := by
  refine ⟨rfl, rfl, fun h => ?_, rfl, rfl, fun h => ?_⟩
  · exact absurd (h.noChanges rfl) (by decide)
  · cases h.noChanges rfl

end SingBox.Provider
