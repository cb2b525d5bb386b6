import SingBox.Outbound.Selection

namespace SingBox.Groups

open Adapter Lib.Errors Selector State List

variable {delay : Outbound → Option UInt16} {sel : Selector} {detour : Outbound}

def IsLeast (delay : Outbound → Option UInt16) (seen : List Outbound) (best : Outbound × Option UInt16) : Prop :=
  (best.2 = none ∧ ∀ out ∈ seen, delay out = none) ∨
    ∃ d, best.2 = some d ∧ delay best.1 = some d ∧ ∀ out ∈ seen, ∀ d', delay out = some d' → d ≤ d'

variable {best : Outbound × Option UInt16}

lemma minDelayStep_none (h : delay detour = none) :
    minDelayStep delay best detour = best := by
  rw [minDelayStep, h]

lemma minDelayStep_some {d : UInt16} (h : delay detour = some d) :
    minDelayStep delay best detour =
      if best.2.all (fun m => d < m) then (detour, some d) else best := by
  rw [minDelayStep, h]

variable {seen : List Outbound}

lemma isLeast_append : IsLeast delay (seen ++ [detour]) best ↔
      (best.2 = none ∧ (∀ out ∈ seen, delay out = none) ∧ delay detour = none) ∨
        ∃ d, best.2 = some d ∧ delay best.1 = some d ∧
          (∀ out ∈ seen, ∀ d', delay out = some d' → d ≤ d') ∧ ∀ d', delay detour = some d' → d ≤ d' := by
  simp only [IsLeast, mem_append, mem_singleton, or_imp, forall_and, forall_eq]

lemma IsLeast.step (h : IsLeast delay seen best) (out : Outbound) :
    IsLeast delay (seen ++ [out]) (minDelayStep delay best out) := by
  rw [isLeast_append]
  cases hout : delay out with
  | none =>
    rw [minDelayStep_none hout]
    rcases h with ⟨hnone, hseen⟩ | ⟨d, hd, hbest, hle⟩
    · exact .inl ⟨hnone, hseen, rfl⟩
    · exact .inr ⟨d, hd, hbest, hle, fun _ h => by cases h⟩
  | some d =>
    have hself : ∀ d', some d = some d' → d ≤ d' := by
      rintro _ ⟨⟩
      exact UInt16.le_refl d
    rw [minDelayStep_some hout]
    rcases h with ⟨hnone, hseen⟩ | ⟨m, hm, hbest, hle⟩
    · rw [hnone]
      refine .inr ⟨d, rfl, hout, fun out' hout' d' hd' => ?_, hself⟩
      rw [hseen out' hout'] at hd'
      cases hd'
    · rw [hm, Option.all_some]
      by_cases hlt : d < m
      · rw [if_pos (decide_eq_true hlt)]
        refine .inr ⟨d, rfl, hout, fun out' hout' d' hd' => ?_, hself⟩
        exact UInt16.le_trans (UInt16.le_of_lt hlt) (hle out' hout' d' hd')
      · rw [if_neg (by simpa using hlt)]
        refine .inr ⟨m, hm, hbest, hle, ?_⟩
        rintro _ ⟨⟩
        exact UInt16.not_lt.1 hlt

lemma isLeast_foldl {l : List Outbound} (h : IsLeast delay seen best) :
    IsLeast delay (seen ++ l) (l.foldl (minDelayStep delay) best) := by
  induction l generalizing seen best with
  | nil => simpa using h
  | cons out l ih => simpa using ih (h.step out)

lemma getMinDelayDetour_spec {ok : Bool} (h : sel.getMinDelayDetour delay = some (detour, ok)) :
    (ok = true → ∃ d, delay detour = some d ∧ ∀ out ∈ sel.outbounds, ∀ d', delay out = some d' → d ≤ d') ∧
      (ok = false → ∀ out ∈ sel.outbounds, delay out = none) := by
  rw [getMinDelayDetour] at h
  split at h
  · cases h
  · rename_i first rest hlist
    have hstart : IsLeast delay [] (first, none) := .inl ⟨rfl, fun _ hout => absurd hout not_mem_nil⟩
    have hleast := isLeast_foldl (l := first :: rest) hstart
    cases h
    rw [hlist]
    rcases hleast with ⟨hnone, hseen⟩ | ⟨d, hd, hbest, hle⟩
    · refine ⟨fun htrue => ?_, fun _ => hseen⟩
      rw [hnone] at htrue
      cases htrue
    · refine ⟨fun _ => ⟨d, hbest, hle⟩, fun hfalse => ?_⟩
      rw [hd] at hfalse
      cases hfalse

variable {s s' : State} {id depth storage : ℕ} {tag : String} {ok : Bool} {last : Outbound}
  {rank : ℕ → ℕ}

def Enabled (provider : String) (sel : Selector) : Prop :=
  sel.fallbackByDelayTest = true ∧ (provider = "" ∨ provider ∈ sel.providers)

def Untested (out : Outbound) : Prop := out.type = .dns ∨ out.type = .direct ∨ out.type = .block

def State.delayOf (s : State) (out : Outbound) : Option UInt16 :=
  s.clashServer.bind fun storage => s.histories storage (s.realTag out)

structure Nested (s : State) (rank : ℕ → ℕ) : Prop where
  selected : ∀ sel, Group.selector sel ∈ s.groups → ∃ out ∈ sel.outbounds, sel.selected = some out
  lower : ∀ sel, Group.selector sel ∈ s.groups → ∀ out ∈ sel.outbounds, isGroup out = true →
    rank out.id < rank sel.id
  found : ∀ sel, Group.selector sel ∈ s.groups → ∀ out ∈ sel.outbounds, out.type = .selector →
    ∃ sel', s.find out.id = some (.selector sel')

inductive Outcome (s : State) (sel : Selector) (last : Outbound) (provider : String) (depth : ℕ) :
    Bool → State → Prop where
  | disabled (h : ¬ Enabled provider sel) : Outcome s sel last provider depth false s
  | untested (h : Untested last) : Outcome s sel last provider depth true s
  | recorded (h : (s.delayOf last).isSome) : Outcome s sel last provider depth true s
  | nested {s' : State} (htype : last.type = .selector)
      (h : updateSelected depth last.id "" s = some (true, s')) : Outcome s sel last provider depth true s'
  | fellBack {storage : ℕ} {ok : Bool} {s' : State} (hclash : s.clashServer = some storage)
      (h : fallBack storage sel.id s = some (ok, s')) : Outcome s sel last provider depth ok s'

lemma fallBack_false (h : fallBack storage id s = some (false, s')) : s' = s := by
  rw [fallBack] at h
  split at h
  · obtain ⟨⟨detour, found⟩, -, h⟩ := Option.bind_eq_some_iff.1 h
    dsimp only at h
    split_ifs at h
    · cases h
    · cases h
      rfl
  · cases h

lemma enabled_iff {provider : String} : (!sel.fallbackByDelayTest ||
    (provider != "" && !sel.providers.contains provider)) = true ↔ ¬ Enabled provider sel := by
  rw [Enabled]
  cases sel.fallbackByDelayTest <;> simp

lemma untested_iff : (last.type == .dns || last.type == .direct || last.type == .block) = true ↔
    Untested last := by
  simp [Untested, or_assoc]

lemma outcome_of_eq_some (hf : s.find id = some (.selector sel)) (hlast : sel.selected = some last)
    (hfalse : ∀ s₁, updateSelected depth last.id "" s = some (false, s₁) → s₁ = s)
    (h : updateSelected (depth + 1) id tag s = some (ok, s')) : Outcome s sel last tag depth ok s' := by
  have hid : sel.id = id := (find_mem hf).2
  rw [updateSelected, hf] at h
  dsimp only at h
  rw [hlast] at h
  split at h
  · rename_i hdisabled
    cases h
    exact .disabled (enabled_iff.1 hdisabled)
  · dsimp only at h
    split at h
    · rename_i huntested
      cases h
      exact .untested (untested_iff.1 huntested)
    · split at h
      · cases h
      · rename_i storage hclash
        split at h
        · rename_i hrecorded
          cases h
          refine .recorded ?_
          rw [delayOf, hclash]
          exact hrecorded
        · obtain ⟨⟨updated, s₁⟩, hnested, h⟩ := Option.bind_eq_some_iff.1 h
          cases updated with
          | true =>
            cases h
            split at hnested
            · rename_i htype
              exact .nested (by simpa using htype) hnested
            · cases hnested
          | false =>
            have hs₁ : s₁ = s := by
              split at hnested
              · exact hfalse s₁ hnested
              · cases hnested
                rfl
            rw [hs₁, ← hid] at h
            exact .fellBack hclash h

lemma exists_of_updateSelected {x : Bool × State} (h : updateSelected depth id tag s = some x) :
    ∃ sel, s.find id = some (.selector sel) := by
  cases depth with
  | zero => cases h
  | succ depth =>
    rw [updateSelected] at h
    split at h
    · exact ⟨_, by assumption⟩
    · cases h

lemma eq_of_updateSelected_false (hs : Nested s rank)
    (h : updateSelected depth id tag s = some (false, s')) : s' = s := by
  induction depth generalizing id tag s' with
  | zero => cases h
  | succ depth ih =>
    obtain ⟨sel, hf⟩ := exists_of_updateSelected h
    obtain ⟨last, -, hlast⟩ := hs.selected sel (find_mem hf).1
    cases outcome_of_eq_some hf hlast (fun s₁ h₁ => ih h₁) h with
    | disabled => rfl
    | fellBack _ hback => exact fallBack_false hback

lemma Nested.outcome (hs : Nested s rank) (hf : s.find id = some (.selector sel))
    (hlast : sel.selected = some last) (h : updateSelected (depth + 1) id tag s = some (ok, s')) :
    Outcome s sel last tag depth ok s' :=
  outcome_of_eq_some hf hlast (fun _ h₁ => eq_of_updateSelected_false hs h₁) h

lemma fallBack_spec (hf : s.find id = some (.selector sel)) (hclash : s.clashServer = some storage)
    (h : fallBack storage id s = some (ok, s')) :
    (ok = true → ∃ detour ∈ sel.outbounds, (∃ d, s.delayOf detour = some d ∧
        ∀ out ∈ sel.outbounds, ∀ d', s.delayOf out = some d' → d ≤ d') ∧
      s' = { s.put (.selector (sel.setSelected s.cacheFile detour).1) with
        cacheFile := (sel.setSelected s.cacheFile detour).2 }) ∧
      (ok = false → ∀ out ∈ sel.outbounds, s.delayOf out = none) := by
  have hdelay : (fun out => s.histories storage (s.realTag out)) = s.delayOf := by
    funext out
    rw [delayOf, hclash, Option.bind_some]
  rw [fallBack, hf] at h
  rw [hdelay] at h
  obtain ⟨⟨detour, found⟩, hmin, h⟩ := Option.bind_eq_some_iff.1 h
  obtain ⟨htrue, hfalse⟩ := getMinDelayDetour_spec hmin
  dsimp only at h
  split_ifs at h with hfound
  · cases h
    exact ⟨fun _ => ⟨detour, getMinDelayDetour_mem hmin, htrue hfound, rfl⟩, fun h => by cases h⟩
  · cases h
    exact ⟨fun h => (by cases h), fun _ => hfalse (by simpa using hfound)⟩

variable {cacheFile : Option CacheFile}

lemma setSelected_id (detour : Outbound) :
    (Group.selector (sel.setSelected cacheFile detour).1).id = sel.id := by
  rw [Group.id, Group.adapter, setSelected_adapter]

lemma find_put_of_ne {g : Group} (h : id ≠ g.id) : (s.put g).find id = s.find id := by
  rw [find_put]
  cases hf : s.find id with
  | none => rfl
  | some g' =>
    have hid := (find_mem hf).2
    rw [Option.map_some, if_neg (by omega)]

lemma updateSelected_frame (hs : Nested s rank) (h : updateSelected depth id tag s = some (ok, s')) :
    (∀ j, rank id < rank j → s'.find j = s.find j) ∧ s'.histories = s.histories ∧
      s'.clashServer = s.clashServer := by
  induction depth generalizing id tag ok s' with
  | zero => cases h
  | succ depth ih =>
    obtain ⟨sel, hf⟩ := exists_of_updateSelected h
    obtain ⟨hmem, rfl : sel.id = id⟩ := find_mem hf
    obtain ⟨last, hout, hlast⟩ := hs.selected sel hmem
    cases hs.outcome hf hlast h with
    | disabled => exact ⟨fun _ _ => rfl, rfl, rfl⟩
    | untested => exact ⟨fun _ _ => rfl, rfl, rfl⟩
    | recorded => exact ⟨fun _ _ => rfl, rfl, rfl⟩
    | nested htype hnested =>
      have hlower := hs.lower sel hmem last hout (by simp [isGroup, htype])
      obtain ⟨hfind, hrest⟩ := ih hnested
      exact ⟨fun j hj => hfind j (Nat.lt_trans hlower hj), hrest⟩
    | fellBack hclash hback =>
      obtain ⟨htrue, -⟩ := fallBack_spec hf hclash hback
      cases ok with
      | false =>
        rw [fallBack_false hback]
        exact ⟨fun _ _ => rfl, rfl, rfl⟩
      | true =>
        obtain ⟨detour, -, -, rfl⟩ := htrue rfl
        refine ⟨fun j hj => find_put_of_ne ?_, rfl, rfl⟩
        rw [setSelected_id]
        rintro rfl
        exact Nat.lt_irrefl _ hj

lemma exists_fallBack (hf : s.find id = some (.selector sel)) (storage : ℕ) (hne : sel.outbounds ≠ []) :
    ∃ ok s', fallBack storage id s = some (ok, s') := by
  obtain ⟨first, rest, hlist⟩ := exists_cons_of_ne_nil hne
  rw [fallBack, hf]
  dsimp only
  rw [getMinDelayDetour, hlist]
  dsimp only [bind, Option.bind]
  split_ifs <;> exact ⟨_, _, rfl⟩

lemma exists_updateSelected (hs : Nested s rank) (hclash : s.clashServer = some storage)
    (hf : s.find id = some (.selector sel)) (hdepth : rank id < depth) :
    ∃ ok s', updateSelected depth id tag s = some (ok, s') := by
  induction depth generalizing id tag sel with
  | zero => cases hdepth
  | succ depth ih =>
    obtain ⟨hmem, rfl : sel.id = id⟩ := find_mem hf
    obtain ⟨last, hout, hlast⟩ := hs.selected sel hmem
    have hback := exists_fallBack hf storage (ne_nil_of_mem hout)
    have hnested : last.type = .selector → ∃ ok s', updateSelected depth last.id "" s = some (ok, s') := by
      intro htype
      obtain ⟨sel', hf'⟩ := hs.found sel hmem last hout htype
      have hlower := hs.lower sel hmem last hout (by simp [isGroup, htype])
      exact ih hf' (by omega)
    rw [updateSelected, hf]
    dsimp only
    rw [hlast, hclash]
    split
    · exact ⟨_, _, rfl⟩
    · dsimp only
      split
      · exact ⟨_, _, rfl⟩
      · split
        · exact ⟨_, _, rfl⟩
        · split
          · rename_i htype
            obtain ⟨ok, s', h⟩ := hnested (by simpa using htype)
            cases ok with
            | true => exact ⟨true, s', by rw [h]; rfl⟩
            | false =>
              rw [h, eq_of_updateSelected_false hs h]
              exact hback
          · exact hback

variable {out : Outbound}

lemma Nested.notSelf (hs : Nested s rank) (hmem : Group.selector sel ∈ s.groups)
    (hout : out ∈ sel.outbounds) : NotSelf sel.id out := by
  intro hgroup hid
  have hlower := hs.lower sel hmem out hout hgroup
  rw [hid] at hlower
  exact Nat.lt_irrefl _ hlower

lemma delayOf_setSelected (hout : NotSelf sel.id out) :
    ({ s.put (.selector (sel.setSelected s.cacheFile detour).1) with
      cacheFile := (sel.setSelected s.cacheFile detour).2 } : State).delayOf out = s.delayOf out := by
  have htag : (s.put (.selector (sel.setSelected s.cacheFile detour).1)).realTag out = s.realTag out := by
    refine realTag_put ?_
    rw [setSelected_id]
    exact hout
  exact congrArg (s.clashServer.bind fun storage => s.histories storage ·) htag

lemma find_setSelected (hf : s.find sel.id = some (.selector sel)) :
    ({ s.put (.selector (sel.setSelected s.cacheFile detour).1) with cacheFile } : State).find sel.id =
      some (.selector (sel.setSelected s.cacheFile detour).1) := by
  change (s.put _).find sel.id = _
  rw [find_put, hf, setSelected_id]
  exact congrArg some (if_pos rfl)

lemma setSelected_selected (detour : Outbound) :
    (sel.setSelected cacheFile detour).1.selected = some detour := by
  rw [setSelected]
  by_cases h : sel.selected = some detour
  · rw [if_pos h]
    exact h
  · rw [if_neg h]

structure FailsOver (s : State) (provider : String) (sel : Selector) : Prop where
  ends : ∃ depth ok s', updateSelected depth sel.id provider s = some (ok, s')
  sound : ∀ depth s', updateSelected depth sel.id provider s = some (true, s') → ∃ sel' out,
    s'.find sel.id = some (.selector sel') ∧ sel'.selected = some out ∧
      (Untested out ∨ (s'.delayOf out).isSome ∨
        out.type = .selector ∧ ∃ depth, updateSelected depth out.id "" s = some (true, s'))
  least : ∀ depth ok s' sel' out, updateSelected depth sel.id provider s = some (ok, s') →
    s'.find sel.id = some (.selector sel') → sel'.selected = some out → sel.selected ≠ some out →
      ∃ d, s'.delayOf out = some d ∧ ∀ o ∈ sel.outbounds, ∀ d', s'.delayOf o = some d' → d ≤ d'
  complete : Enabled provider sel → ∀ depth s', updateSelected depth sel.id provider s = some (false, s') →
    ∀ out ∈ sel.outbounds, s'.delayOf out = none

lemma selected_of_outcome (hs : Nested s rank) (hf : s.find sel.id = some (.selector sel))
    (hlast : sel.selected = some last) (h : Outcome s sel last tag depth ok s') :
    (s'.find sel.id = some (.selector sel) ∧ (ok = true → Untested last ∨ (s'.delayOf last).isSome ∨
        last.type = .selector ∧ updateSelected depth last.id "" s = some (true, s'))) ∨
      ∃ sel' out d, s'.find sel.id = some (.selector sel') ∧ sel'.selected = some out ∧
        s'.delayOf out = some d ∧ ∀ o ∈ sel.outbounds, ∀ d', s'.delayOf o = some d' → d ≤ d' := by
  have hmem := (find_mem hf).1
  cases h with
  | disabled => exact .inl ⟨hf, fun h => by cases h⟩
  | untested h => exact .inl ⟨hf, fun _ => .inl h⟩
  | recorded h => exact .inl ⟨hf, fun _ => .inr (.inl h)⟩
  | nested htype hnested =>
    obtain ⟨out, hout, hout'⟩ := hs.selected sel hmem
    rw [hlast] at hout'
    cases hout'
    have hlower := hs.lower sel hmem last hout (by simp [isGroup, htype])
    refine .inl ⟨?_, fun _ => .inr (.inr ⟨htype, hnested⟩)⟩
    rw [(updateSelected_frame hs hnested).1 sel.id hlower]
    exact hf
  | fellBack hclash hback =>
    cases ok with
    | false =>
      rw [fallBack_false hback]
      exact .inl ⟨hf, fun h => by cases h⟩
    | true =>
      obtain ⟨detour, hdetour, ⟨d, hd, hle⟩, rfl⟩ := (fallBack_spec hf hclash hback).1 rfl
      refine .inr ⟨_, detour, d, find_setSelected hf, setSelected_selected detour, ?_, ?_⟩
      · rw [delayOf_setSelected (hs.notSelf hmem hdetour)]
        exact hd
      · intro o ho d' hd'
        rw [delayOf_setSelected (hs.notSelf hmem ho)] at hd'
        exact hle o ho d' hd'

lemma updateSelected_eq_none (hf : s.find id = some (.selector sel)) (hclash : s.clashServer = none)
    (henabled : Enabled tag sel) (hlast : sel.selected = some last) (htested : ¬ Untested last) :
    updateSelected depth id tag s = none := by
  cases depth with
  | zero => rfl
  | succ depth =>
    rw [updateSelected, hf]
    dsimp only
    rw [hlast, hclash, if_neg (fun h => enabled_iff.1 h henabled)]
    dsimp only
    rw [if_neg (fun h => htested (untested_iff.1 h))]

lemma exists_call (hs : Nested s rank) (hf : s.find sel.id = some (.selector sel))
    (h : s.clashServer.isSome ∨ ¬ Enabled tag sel ∨ ∃ last, sel.selected = some last ∧ Untested last) :
    ∃ depth ok s', updateSelected depth sel.id tag s = some (ok, s') := by
  by_cases henabled : Enabled tag sel
  · rcases h with hclash | hdisabled | ⟨last, hlast, huntested⟩
    · obtain ⟨storage, hclash⟩ := Option.isSome_iff_exists.1 hclash
      exact ⟨_, exists_updateSelected hs hclash hf (Nat.lt_succ_self _)⟩
    · exact absurd henabled hdisabled
    · refine ⟨1, true, s, ?_⟩
      rw [updateSelected, hf]
      dsimp only
      rw [hlast, if_neg (fun h => enabled_iff.1 h henabled)]
      exact if_pos (untested_iff.2 huntested)
  · refine ⟨1, false, s, ?_⟩
    rw [updateSelected, hf]
    exact if_pos (enabled_iff.2 henabled)

theorem failover_iff (s : State) (rank : ℕ → ℕ) (provider : String) (sel : Selector) (hs : Nested s rank)
    (hf : s.find sel.id = some (.selector sel)) :
    FailsOver s provider sel ↔ s.clashServer.isSome ∨ ¬ Enabled provider sel ∨
      ∃ last, sel.selected = some last ∧ Untested last := by
  obtain ⟨last, -, hlast⟩ := hs.selected sel (find_mem hf).1
  constructor
  · intro h
    by_contra! hnot
    obtain ⟨hclash, henabled, htested⟩ := hnot
    obtain ⟨depth, ok, s', hcall⟩ := h.ends
    rw [updateSelected_eq_none hf (by simpa using hclash) henabled hlast (htested last hlast)] at hcall
    cases hcall
  · intro h
    have houtcome : ∀ depth ok s', updateSelected depth sel.id provider s = some (ok, s') →
        ∃ depth, Outcome s sel last provider depth ok s' := by
      intro depth ok s' hcall
      cases depth with
      | zero => cases hcall
      | succ depth => exact ⟨depth, hs.outcome hf hlast hcall⟩
    refine ⟨exists_call hs hf h, ?_, ?_, ?_⟩
    · intro depth s' hcall
      obtain ⟨depth, ho⟩ := houtcome depth true s' hcall
      rcases selected_of_outcome hs hf hlast ho with ⟨hf', hgood⟩ | ⟨sel', out, d, hf', hout, hd, -⟩
      · refine ⟨sel, last, hf', hlast, ?_⟩
        exact (hgood rfl).imp_right (.imp_right fun hnested => ⟨hnested.1, depth, hnested.2⟩)
      · exact ⟨sel', out, hf', hout, .inr (.inl (by rw [hd, Option.isSome_some]))⟩
    · intro depth ok s' sel' out hcall hf' hout hchanged
      obtain ⟨depth, ho⟩ := houtcome depth ok s' hcall
      rcases selected_of_outcome hs hf hlast ho with ⟨hsame, -⟩ | ⟨sel₁, out₁, d, hf₁, hout₁, hd, hle⟩
      · rw [hsame] at hf'
        cases hf'
        exact absurd hout hchanged
      · rw [hf₁] at hf'
        cases hf'
        rw [hout₁] at hout
        cases hout
        exact ⟨d, hd, hle⟩
    · intro henabled depth s' hcall
      obtain ⟨depth, ho⟩ := houtcome depth false s' hcall
      cases ho with
      | disabled hdisabled => exact absurd henabled hdisabled
      | fellBack hclash hback =>
        rw [fallBack_false hback]
        exact (fallBack_spec hf hclash hback).2 rfl

def lowSelector : Selector where
  id := 1
  tag := "low"
  fallbackByDelayTest := true
  outbounds := [{ id := 2, tag := "a", type := .trojan }, { id := 3, tag := "b", type := .trojan }]
  selected := some { id := 2, tag := "a", type := .trojan }

def topSelector : Selector where
  id := 0
  tag := "top"
  fallbackByDelayTest := true
  outbounds := [{ id := 1, tag := "low", type := .selector }]
  selected := some { id := 1, tag := "low", type := .selector }

def nestedState (clashServer : Option ℕ) : State where
  outboundByTag _ := none
  outboundless := { id := 9, tag := "OUTBOUNDLESS", type := .direct }
  providers := []
  groups := [.selector topSelector, .selector lowSelector]
  histories _ := Function.update (fun _ => none) "b" (some 30)
  clashServer

lemma nested_nestedState (clashServer : Option ℕ) : Nested (nestedState clashServer) fun id => 1 - id where
  selected sel hsel := by
    rcases mem_pair.1 hsel with heq | heq <;> cases heq
    · exact ⟨_, mem_cons_self, rfl⟩
    · exact ⟨_, mem_cons_self, rfl⟩
  lower sel hsel out hout hgroup := by
    rcases mem_pair.1 hsel with heq | heq <;> cases heq
    · rw [mem_singleton.1 hout]
      decide
    · rcases mem_pair.1 hout with rfl | rfl <;> cases hgroup
  found sel hsel out hout htype := by
    rcases mem_pair.1 hsel with heq | heq <;> cases heq
    · rw [mem_singleton.1 hout]
      exact ⟨lowSelector, rfl⟩
    · rcases mem_pair.1 hout with rfl | rfl <;> cases htype

theorem failover_nested :
    (nestedState (some 0)).find topSelector.id = some (.selector topSelector) ∧
      FailsOver (nestedState (some 0)) "" topSelector :=
  ⟨rfl, (failover_iff (nestedState (some 0)) _ "" topSelector (nested_nestedState _) rfl).2 (.inl rfl)⟩

theorem failover_panics :
    Enabled "" topSelector ∧ (∀ depth, updateSelected depth 0 "" (nestedState none) = none) ∧
      ¬ FailsOver (nestedState none) "" topSelector := by
  have henabled : Enabled "" topSelector := ⟨rfl, .inl rfl⟩
  have hfind : (nestedState none).find 0 = some (.selector topSelector) := rfl
  have hpanic : ∀ depth, updateSelected depth 0 "" (nestedState none) = none := fun depth =>
    updateSelected_eq_none hfind rfl henabled rfl (by simp [Untested])
  refine ⟨henabled, hpanic, fun h => ?_⟩
  obtain ⟨depth, ok, s', hcall⟩ := h.ends
  change updateSelected depth 0 "" _ = _ at hcall
  rw [hpanic] at hcall
  cases hcall

end SingBox.Groups
