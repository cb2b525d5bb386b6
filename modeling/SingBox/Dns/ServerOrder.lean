import Mathlib.Data.List.Perm.Subperm
import SingBox.Dns.Servers
import SingBox.Lib.ReadyOrder

namespace SingBox.Dns.Servers

open Lib.Errors Lib.Loops Lib.ReadyOrder Lib.Text List Prod

variable {δ : Type} {env : Env δ} {tags built built' : List String} {tag : String} {server : ServerOptions δ}
  {upstream : Option String} {failure : Failure} {entries : List (String × ServerOptions δ)}

def Met (built : List String) (upstream : Option String) : Prop := ∀ r, upstream = some r → r ∈ built

lemma met_iff : upstream.all built.contains = true ↔ Met built upstream := by
  cases upstream <;> simp [Met]

lemma build_eq_ok : build env tag server upstream built = .ok built' ↔
    env.createTransport tag server upstream = .ok () ∧ built' = built ++ [tag] := by
  rw [build]
  cases env.createTransport tag server upstream <;> simp [eq_comm]

lemma build_eq_error : build env tag server upstream built = .error failure ↔
    ∃ err, env.createTransport tag server upstream = .error err ∧
      failure = .error (cause err ("parse dns server[" ++ tag ++ "]")) := by
  rw [build]
  cases env.createTransport tag server upstream <;> simp [eq_comm]

lemma serverStep_of_mem (h : tag ∈ built) : serverStep env tags built (tag, server) = .ok built :=
  if_pos (by simpa using h)

lemma serverStep_eq_ok (h : tag ∉ built) : serverStep env tags built (tag, server) = .ok built' ↔
    ∃ upstream, upstreamOf env tags tag server = .ok upstream ∧
      (Met built upstream ∧ env.createTransport tag server upstream = .ok () ∧ built' = built ++ [tag] ∨
        ¬ Met built upstream ∧ built' = built) := by
  rw [serverStep, if_neg (by simpa using h)]
  cases upstreamOf env tags tag server with
  | error failure => simp
  | ok upstream =>
    by_cases hmet : Met built upstream
    · simp [met_iff.2 hmet, hmet, build_eq_ok]
    · have hnot : ¬ upstream.all built.contains = true := fun hall => hmet (met_iff.1 hall)
      simp [hnot, hmet, eq_comm]

lemma serverStep_eq_error : serverStep env tags built (tag, server) = .error failure ↔ tag ∉ built ∧
    (upstreamOf env tags tag server = .error failure ∨
      ∃ upstream err, upstreamOf env tags tag server = .ok upstream ∧ Met built upstream ∧
        env.createTransport tag server upstream = .error err ∧
        failure = .error (cause err ("parse dns server[" ++ tag ++ "]"))) := by
  by_cases h : tag ∈ built
  · rw [serverStep_of_mem h]
    simp [h]
  · rw [serverStep]
    cases upstreamOf env tags tag server with
    | error failure => simp [h]
    | ok upstream =>
      by_cases hmet : Met built upstream
      · simp [met_iff.2 hmet, hmet, h, build_eq_error]
      · have hnot : ¬ upstream.all built.contains = true := fun hall => hmet (met_iff.1 hall)
        simp [hnot, hmet]

def Resolves (env : Env δ) (entries : List (String × ServerOptions δ)) (tag resolver : String) : Prop :=
  ∃ server, (tag, server) ∈ entries ∧ needUpstream env tag 0 server.address = .ok true ∧
    server.addressResolver = resolver

def resolvers (env : Env δ) (entries : List (String × ServerOptions δ)) (tag : String) : List String :=
  (entries.filter fun entry => entry.1 == tag &&
    (needUpstream env entry.1 0 entry.2.address).toOption == some true).map
    fun entry => entry.2.addressResolver

lemma mem_resolvers {resolver : String} :
    resolver ∈ resolvers env entries tag ↔ Resolves env entries tag resolver := by
  simp only [resolvers, mem_map, mem_filter, Bool.and_eq_true, beq_iff_eq]
  constructor
  · rintro ⟨⟨t, server⟩, ⟨hmem, rfl, hneeds⟩, rfl⟩
    refine ⟨server, hmem, ?_, rfl⟩
    cases hup : needUpstream env t 0 server.address with
    | error failure => simp [hup, Except.toOption] at hneeds
    | ok needs =>
      rw [hup] at hneeds
      cases hneeds
      rfl
  · rintro ⟨server, hmem, hneeds, rfl⟩
    exact ⟨(tag, server), ⟨hmem, rfl, by rw [hneeds]; rfl⟩, rfl⟩

inductive Buildable (env : Env δ) (entries : List (String × ServerOptions δ)) : String → Prop where
  | direct {tag : String} {server : ServerOptions δ} (hmem : (tag, server) ∈ entries)
      (h : needUpstream env tag 0 server.address = .ok false) : Buildable env entries tag
  | resolved {tag : String} {server : ServerOptions δ} (hmem : (tag, server) ∈ entries)
      (h : needUpstream env tag 0 server.address = .ok true)
      (hresolver : Buildable env entries server.addressResolver) : Buildable env entries tag

lemma findResolver_true : findResolver tags tag server true = .ok upstream ↔ server.addressResolver ≠ "" ∧
    server.addressResolver ∈ tags ∧ upstream = some server.addressResolver := by
  rw [findResolver]
  by_cases hempty : server.addressResolver = ""
  · simp [hempty]
  · by_cases hmem : server.addressResolver ∈ tags
    · simp [hempty, hmem, eq_comm]
    · simp [hempty, hmem]

lemma upstreamOf_eq_ok : upstreamOf env tags tag server = .ok upstream ↔ server.address ≠ [] ∧
    (needUpstream env tag 0 server.address = .ok false ∧ upstream = none ∨
      needUpstream env tag 0 server.address = .ok true ∧ server.addressResolver ≠ "" ∧
        server.addressResolver ∈ tags ∧ upstream = some server.addressResolver) := by
  rw [upstreamOf]
  by_cases haddress : server.address = []
  · simp [haddress]
  · rw [if_neg haddress, bind_eq_ok]
    constructor
    · rintro ⟨needs, hneeds, h⟩
      cases needs with
      | false =>
        cases h
        exact ⟨haddress, .inl ⟨hneeds, rfl⟩⟩
      | true => exact ⟨haddress, .inr ⟨hneeds, findResolver_true.1 h⟩⟩
    · rintro ⟨-, ⟨hneeds, rfl⟩ | ⟨hneeds, h⟩⟩
      · exact ⟨false, hneeds, rfl⟩
      · exact ⟨true, hneeds, findResolver_true.2 h⟩

lemma upstreamOf_eq_panic :
    upstreamOf env tags tag server = .error .panic ↔ needUpstream env tag 0 server.address = .error .panic := by
  rw [upstreamOf]
  by_cases haddress : server.address = []
  · simp [haddress, needUpstream]
  · rw [if_neg haddress, bind_eq_error, or_iff_left]
    rintro ⟨needs, -, h⟩
    cases needs with
    | false => cases h
    | true =>
      rw [findResolver] at h
      split_ifs at h <;> cases h

lemma buildable_of_met (hmem : (tag, server) ∈ entries) (h : upstreamOf env tags tag server = .ok upstream)
    (hmet : ∀ r, upstream = some r → Buildable env entries r) : Buildable env entries tag := by
  obtain ⟨-, ⟨hneeds, -⟩ | ⟨hneeds, -, -, rfl⟩⟩ := upstreamOf_eq_ok.1 h
  · exact .direct hmem hneeds
  · exact .resolved hmem hneeds (hmet _ rfl)

section Passes

structure Sound (env : Env δ) (tags : List String) (entries : List (String × ServerOptions δ))
    (built : List String) : Prop where
  ready : Ready (resolvers env entries) built
  made : ∀ tag ∈ built, Buildable env entries tag ∧ ∃ server upstream, (tag, server) ∈ entries ∧
    upstreamOf env tags tag server = .ok upstream ∧ env.createTransport tag server upstream = .ok ()

lemma sound_nil : Sound env tags entries [] := ⟨.nil, fun _ h => absurd h not_mem_nil⟩

lemma Sound.subperm (h : Sound env tags entries built) : built.Subperm (entries.map fst) := by
  refine h.ready.nodup.subperm fun tag htag => ?_
  obtain ⟨-, server, -, hmem, -⟩ := h.made tag htag
  exact mem_map_of_mem hmem

lemma isPrefix_step {entry : String × ServerOptions δ} (h : serverStep env tags built entry = .ok built') :
    built <+: built' := by
  by_cases hbuilt : entry.1 ∈ built
  · rw [serverStep_of_mem hbuilt] at h
    cases h
    exact prefix_rfl
  · obtain ⟨upstream, -, ⟨-, -, rfl⟩ | ⟨-, rfl⟩⟩ := (serverStep_eq_ok hbuilt).1 h
    · exact prefix_append _ _
    · exact prefix_rfl

lemma isPrefix_pass (h : Servers.pass env tags entries built = .ok built') : built <+: built' :=
  foldlM_invariant (fun _ _ _ _ hs hstep => hs.trans (isPrefix_step hstep))
    prefix_rfl h

variable (hnodup : (entries.map fst).Nodup)

include hnodup

lemma eq_of_mem_entries {server' : ServerOptions δ} (h : (tag, server) ∈ entries)
    (h' : (tag, server') ∈ entries) : server = server' := by
  have heq := inj_on_of_nodup_map hnodup h h' rfl
  cases heq
  rfl

lemma resolvers_subset (hmem : (tag, server) ∈ entries) (h : upstreamOf env tags tag server = .ok upstream)
    (hmet : Met built upstream) : ∀ r ∈ resolvers env entries tag, r ∈ built := by
  intro r hr
  obtain ⟨server', hmem', hneeds, rfl⟩ := mem_resolvers.1 hr
  rw [← eq_of_mem_entries hnodup hmem hmem'] at hneeds ⊢
  obtain ⟨-, ⟨hnot, -⟩ | ⟨-, -, -, rfl⟩⟩ := upstreamOf_eq_ok.1 h
  · rw [hneeds] at hnot
    cases hnot
  · exact hmet _ rfl

lemma Sound.step (h : Sound env tags entries built) (hmem : (tag, server) ∈ entries)
    (hstep : serverStep env tags built (tag, server) = .ok built') : Sound env tags entries built' := by
  by_cases hbuilt : tag ∈ built
  · rw [serverStep_of_mem hbuilt] at hstep
    cases hstep
    exact h
  · obtain ⟨upstream, hup, ⟨hmet, hcreate, rfl⟩ | ⟨-, rfl⟩⟩ := (serverStep_eq_ok hbuilt).1 hstep
    · refine ⟨h.ready.snoc hbuilt (resolvers_subset hnodup hmem hup hmet), ?_⟩
      intro t ht
      rcases mem_append.1 ht with ht | ht
      · exact h.made t ht
      · rw [mem_singleton.1 ht]
        refine ⟨buildable_of_met hmem hup fun r hr => (h.made r (hmet r hr)).1, ?_⟩
        exact ⟨server, upstream, hmem, hup, hcreate⟩
    · exact h

lemma Sound.pass (h : Sound env tags entries built) (hpass : Servers.pass env tags entries built = .ok built') :
    Sound env tags entries built' :=
  foldlM_invariant (fun _ _ _ ha hs hstep => hs.step hnodup ha hstep) h hpass

lemma Sound.turn (h : Sound env tags entries built) (hpass : Servers.pass env tags entries built = .ok built')
    (hmem : (tag, server) ∈ entries) : ∃ upstream, upstreamOf env tags tag server = .ok upstream ∧
      (tag ∈ built' ∨ ∃ r, upstream = some r ∧ r ∉ built) := by
  obtain ⟨before, after, s₁, s₂, hsplit, hbefore, hstep, hafter⟩ := foldlM_turn hpass hmem
  have hs₁ : Sound env tags entries s₁ := foldlM_invariant
    (fun _ _ _ ha hs hstep => hs.step hnodup (hsplit ▸ mem_append_left _ ha) hstep) h hbefore
  have hsub : s₂ <+: built' := isPrefix_pass hafter
  by_cases hbuilt : tag ∈ s₁
  · obtain ⟨-, server', upstream, hmem', hup, -⟩ := hs₁.made tag hbuilt
    rw [← eq_of_mem_entries hnodup hmem hmem'] at hup
    exact ⟨upstream, hup, .inl (hsub.mem ((isPrefix_step hstep).mem hbuilt))⟩
  · obtain ⟨upstream, hup, ⟨-, -, rfl⟩ | ⟨hmet, -⟩⟩ := (serverStep_eq_ok hbuilt).1 hstep
    · exact ⟨upstream, hup, .inl (hsub.mem (mem_append_right _ mem_cons_self))⟩
    · rw [Met] at hmet
      push Not at hmet
      obtain ⟨r, hr, hnot⟩ := hmet
      exact ⟨upstream, hup, .inr ⟨r, hr, fun hin => hnot ((isPrefix_pass hbefore).mem hin)⟩⟩

def AllChecked (env : Env δ) (tags : List String) (entries : List (String × ServerOptions δ)) : Prop :=
  ∀ tag server, (tag, server) ∈ entries → ∃ upstream, upstreamOf env tags tag server = .ok upstream

def CreateFails (env : Env δ) (tags : List String) (entries : List (String × ServerOptions δ)) : Prop :=
  ∃ tag server upstream err, (tag, server) ∈ entries ∧ upstreamOf env tags tag server = .ok upstream ∧
    Buildable env entries tag ∧ env.createTransport tag server upstream = .error err

lemma Sound.pass_error (h : Sound env tags entries built)
    (hpass : Servers.pass env tags entries built = .error failure) :
    (∃ tag server, (tag, server) ∈ entries ∧ upstreamOf env tags tag server = .error failure) ∨
      (∃ text, failure = .error text) ∧ CreateFails env tags entries := by
  obtain ⟨before, ⟨tag, server⟩, after, s₁, rfl, hbefore, hstep⟩ := foldlM_eq_error.1 hpass
  have hmem : (tag, server) ∈ before ++ (tag, server) :: after := mem_append_right _ mem_cons_self
  have hs₁ := foldlM_invariant
    (fun _ _ _ ha hs hstep => Sound.step hnodup hs (mem_append_left _ ha) hstep) h hbefore
  obtain ⟨-, hup | ⟨upstream, err, hup, hmet, hcreate, rfl⟩⟩ := serverStep_eq_error.1 hstep
  · exact .inl ⟨tag, server, hmem, hup⟩
  · refine .inr ⟨⟨_, rfl⟩, tag, server, upstream, err, hmem, hup, ?_, hcreate⟩
    exact buildable_of_met hmem hup fun r hr => (hs₁.made r (hmet r hr)).1

lemma Sound.complete (h : Sound env tags entries built)
    (hpass : Servers.pass env tags entries built = .ok built) (hbuildable : Buildable env entries tag) :
    tag ∈ built := by
  induction hbuildable with
  | direct hmem hneeds =>
    obtain ⟨upstream, hup, hbuilt | ⟨r, rfl, -⟩⟩ := h.turn hnodup hpass hmem
    · exact hbuilt
    · obtain ⟨-, ⟨-, hnone⟩ | ⟨hneeds', -⟩⟩ := upstreamOf_eq_ok.1 hup
      · cases hnone
      · rw [hneeds] at hneeds'
        cases hneeds'
  | resolved hmem hneeds _ ih =>
    obtain ⟨upstream, hup, hbuilt | ⟨r, rfl, hr⟩⟩ := h.turn hnodup hpass hmem
    · exact hbuilt
    · obtain ⟨-, ⟨-, hnone⟩ | ⟨-, -, -, heq⟩⟩ := upstreamOf_eq_ok.1 hup
      · cases hnone
      · cases heq
        exact absurd ih hr

end Passes

section Run

variable (env entries)

inductive Ending : List String → Except Failure Unit → Prop where
  | complete {built : List String} (hs : Sound env (entries.map fst) entries built)
      (hchecked : AllChecked env (entries.map fst) entries) (hlen : entries.length = built.length) :
      Ending built (.ok ())
  | first {built : List String} {failure : Failure}
      (h : pass env (entries.map fst) entries [] = .error failure) : Ending built (.error failure)
  | create {built : List String} {text : String} (h : CreateFails env (entries.map fst) entries) :
      Ending built (.error (.error text))
  | stuck {built : List String} (hs : Sound env (entries.map fst) entries built)
      (hpass : pass env (entries.map fst) entries built = .ok built)
      (hlen : entries.length ≠ built.length) :
      Ending built (.error (.circular (unresolvedTags (entries.map fst) built)))

variable {env entries}

lemma of_again (h : buildTurn env tags entries built = .again built') :
    pass env tags entries built = .ok built' ∧ entries.length ≠ built'.length ∧
      built.length ≠ built'.length := by
  rw [buildTurn] at h
  split at h
  · cases h
  · rename_i hpass
    split_ifs at h with hall hprogress
    cases h
    exact ⟨hpass, hall, hprogress⟩

variable (hnodup : (entries.map fst).Nodup)

include hnodup

lemma exists_unbuilt (hs : Sound env tags entries built) (hlen : entries.length ≠ built.length) :
    ∃ tag ∈ entries.map fst, tag ∉ built := by
  by_contra! hall
  have hle := hs.subperm
  have hge : (entries.map fst).Subperm built := hnodup.subperm hall
  have heq := hge.length_le.antisymm hle.length_le
  rw [length_map] at heq
  exact hlen heq

lemma allChecked_of_pass (hs : Sound env tags entries built) (h : pass env tags entries built = .ok built') :
    AllChecked env tags entries := by
  intro tag server hmem
  obtain ⟨upstream, hup, -⟩ := hs.turn hnodup h hmem
  exact ⟨upstream, hup⟩

lemma unresolvedTags_ne_nil (hs : Sound env (entries.map fst) entries built)
    (hlen : entries.length ≠ built.length) : unresolvedTags (entries.map fst) built ≠ [] := by
  obtain ⟨tag, htag, hnot⟩ := exists_unbuilt hnodup hs hlen
  intro hnil
  rw [unresolvedTags, mapIdx_eq_nil_iff] at hnil
  have hmem : tag ∈ (entries.map fst).filter fun tag => !built.contains tag :=
    mem_filter.2 ⟨htag, by simpa using hnot⟩
  rw [hnil] at hmem
  cases hmem

lemma ending_of_leave {result : Except Failure Unit} (hs : Sound env (entries.map fst) entries built)
    (h : built = [] ∨ AllChecked env (entries.map fst) entries)
    (hturn : buildTurn env (entries.map fst) entries built = .leave built' result) :
    Ending env entries built' result := by
  rw [buildTurn] at hturn
  split at hturn
  · rename_i failure hpass
    cases hturn
    rcases h with rfl | hchecked
    · exact .first hpass
    · obtain ⟨tag, server, hmem, hup⟩ | ⟨⟨text, rfl⟩, hcreate⟩ := hs.pass_error hnodup hpass
      · obtain ⟨upstream, hok⟩ := hchecked tag server hmem
        rw [hok] at hup
        cases hup
      · exact .create hcreate
  · rename_i built₁ hpass
    have hs₁ := hs.pass hnodup hpass
    split_ifs at hturn with hall hprogress hnil
    · cases hturn
      exact .complete hs₁ (allChecked_of_pass hnodup hs hpass) hall
    · cases hturn
      rw [List.isEmpty_iff] at hnil
      exact absurd hnil (unresolvedTags_ne_nil hnodup hs₁ hall)
    · cases hturn
      have heq : built = built' := (isPrefix_pass hpass).eq_of_length (not_not.1 hprogress)
      subst heq
      exact .stuck hs hpass hall

lemma exists_ending (env : Env δ) : ∃ built result,
    loop (buildTurn env (entries.map fst) entries) (entries.length + 1) [] = some (built, result) ∧
      Ending env entries built result := by
  let Inv (built : List String) : Prop := Sound env (entries.map fst) entries built ∧
    (built = [] ∨ AllChecked env (entries.map fst) entries)
  have hrank : ∀ built built', Inv built → buildTurn env (entries.map fst) entries built = .again built' →
      Inv built' ∧ entries.length - built'.length < entries.length - built.length := by
    rintro built built' ⟨hs, -⟩ hturn
    obtain ⟨hpass, hall, hprogress⟩ := of_again hturn
    have hs' := hs.pass hnodup hpass
    have hle := (hs'.subperm).length_le
    have hlt := (isPrefix_pass hpass).length_le
    rw [length_map] at hle
    exact ⟨⟨hs', .inr (allChecked_of_pass hnodup hs hpass)⟩, by omega⟩
  obtain ⟨built, built', result, ⟨hs, hchecked⟩, hleave, hloop⟩ :=
    loop_of_rank hrank ⟨sound_nil, .inl rfl⟩ (Nat.lt_succ_of_le (Nat.sub_le entries.length _))
  exact ⟨built', result, hloop, ending_of_leave hnodup hs hchecked hleave⟩

end Run

def BuiltEarly (env : Env δ) (tags : List String) : List (String × ServerOptions δ) → String → Prop
  | [], _ => False
  | (tag', server) :: before, tag => BuiltEarly env tags before tag ∨
      tag = tag' ∧ ∃ upstream, upstreamOf env tags tag' server = .ok upstream ∧
        ∀ r, upstream = some r → BuiltEarly env tags before r

def GoesThrough (env : Env δ) (tags : List String) : List (String × ServerOptions δ) → Prop
  | [] => True
  | (tag, server) :: before => GoesThrough env tags before ∧
      ∃ upstream, upstreamOf env tags tag server = .ok upstream ∧
        ((∀ r, upstream = some r → BuiltEarly env tags before r) →
          env.createTransport tag server upstream = .ok ())

variable {before : List (String × ServerOptions δ)}

lemma builtEarly_mem (h : BuiltEarly env tags before tag) : tag ∈ before.map fst := by
  induction before with
  | nil => exact h.elim
  | cons entry before ih =>
    rcases h with h | ⟨rfl, -⟩
    · exact mem_cons_of_mem _ (ih h)
    · exact mem_cons_self

lemma firstPass_iff (env : Env δ) (tags : List String) (before : List (String × ServerOptions δ))
    (hnodup : (before.map fst).Nodup) :
    ((∃ built, pass env tags before.reverse [] = .ok built) ↔ GoesThrough env tags before) ∧
      ∀ built, pass env tags before.reverse [] = .ok built →
        ∀ tag, tag ∈ built ↔ BuiltEarly env tags before tag := by
  induction before with
  | nil =>
    refine ⟨iff_of_true ⟨[], rfl⟩ trivial, ?_⟩
    rintro _ ⟨⟩ tag
    exact iff_of_false not_mem_nil id
  | cons entry before ih =>
    obtain ⟨tag, server⟩ := entry
    obtain ⟨hnot, hnodup⟩ := nodup_cons.1 hnodup
    obtain ⟨hok, hbuilt⟩ := ih hnodup
    have hpass : ∀ built', pass env tags ((tag, server) :: before).reverse [] = .ok built' ↔
        ∃ built, pass env tags before.reverse [] = .ok built ∧
          serverStep env tags built (tag, server) = .ok built' := by
      intro built'
      rw [reverse_cons, pass, foldlM_append_eq_ok]
      simp only [foldlM_singleton]
      rfl
    have hfresh : ∀ built, pass env tags before.reverse [] = .ok built → tag ∉ built :=
      fun built h hmem => hnot (builtEarly_mem ((hbuilt built h tag).1 hmem))
    have hmet : ∀ built upstream, pass env tags before.reverse [] = .ok built →
        (Met built upstream ↔ ∀ r, upstream = some r → BuiltEarly env tags before r) := by
      intro built upstream h
      exact forall₂_congr fun r _ => hbuilt built h r
    constructor
    · rw [GoesThrough, ← hok]
      constructor
      · rintro ⟨built', h⟩
        obtain ⟨built, h₁, hstep⟩ := (hpass built').1 h
        obtain ⟨upstream, hup, ⟨-, hcreate, -⟩ | ⟨hunmet, -⟩⟩ := (serverStep_eq_ok (hfresh built h₁)).1 hstep
        · exact ⟨⟨built, h₁⟩, upstream, hup, fun _ => hcreate⟩
        · exact ⟨⟨built, h₁⟩, upstream, hup, fun h => absurd ((hmet built upstream h₁).2 h) hunmet⟩
      · rintro ⟨⟨built, h₁⟩, upstream, hup, hcreate⟩
        by_cases hm : Met built upstream
        · refine ⟨built ++ [tag], (hpass _).2 ⟨built, h₁, (serverStep_eq_ok (hfresh built h₁)).2 ?_⟩⟩
          exact ⟨upstream, hup, .inl ⟨hm, hcreate ((hmet built upstream h₁).1 hm), rfl⟩⟩
        · refine ⟨built, (hpass _).2 ⟨built, h₁, (serverStep_eq_ok (hfresh built h₁)).2 ?_⟩⟩
          exact ⟨upstream, hup, .inr ⟨hm, rfl⟩⟩
    · intro built' h t
      obtain ⟨built, h₁, hstep⟩ := (hpass built').1 h
      rw [BuiltEarly, ← hbuilt built h₁ t]
      obtain ⟨upstream, hup, ⟨hm, -, rfl⟩ | ⟨hm, rfl⟩⟩ := (serverStep_eq_ok (hfresh built h₁)).1 hstep
      · rw [mem_append, mem_singleton]
        refine or_congr_right ⟨fun ht => ⟨ht, upstream, hup, (hmet built upstream h₁).1 hm⟩, And.left⟩
      · rw [iff_self_or]
        rintro ⟨-, upstream', hup', hearly⟩
        rw [hup] at hup'
        cases hup'
        exact absurd ((hmet built' upstream h₁).2 hearly) hm

def BadURL (env : Env δ) (address : String) : Prop :=
  env.toLower (trimSpace address) ∉ ["", "local", "fakeip"] ∧ contains (trimSpace address) "://" = true ∧
    env.parseURL (trimSpace address) = none

variable {i : ℕ} {address : String}

lemma addressNeeds_eq_panic :
    addressNeeds env tag i address = .error .panic ↔ BadURL env address := by
  simp only [BadURL]
  rw [addressNeeds]
  by_cases hempty : env.toLower (trimSpace address) = ""
  · simp [hempty]
  · by_cases hlocal : env.toLower (trimSpace address) = "local" ∨ env.toLower (trimSpace address) = "fakeip"
    · rcases hlocal with h | h <;> simp [h]
    · rw [if_neg hempty, if_neg hlocal]
      cases contains (trimSpace address) "://" with
      | false => simp
      | true =>
        cases env.parseURL (trimSpace address) with
        | none => simp [hempty, hlocal]
        | some url =>
          dsimp only
          split_ifs <;> simp

variable {addresses : List String}

lemma needUpstream_eq_panic :
    needUpstream env tag i addresses = .error .panic ↔ ∃ earlier address later needs,
      addresses = earlier ++ address :: later ∧ needUpstream env tag i earlier = .ok needs ∧
        BadURL env address := by
  induction addresses generalizing i with
  | nil =>
    refine iff_of_false (fun h => by cases h) ?_
    rintro ⟨earlier, address, later, needs, heq, -⟩
    simp at heq
  | cons a addresses ih =>
    rw [needUpstream, bind_eq_error]
    constructor
    · rintro (h | ⟨needs, hneeds, h⟩)
      · exact ⟨[], a, addresses, false, rfl, rfl, addressNeeds_eq_panic.1 h⟩
      · obtain h | ⟨_, _, h⟩ := bind_eq_error.1 h
        · obtain ⟨earlier, address, later, others, rfl, hothers, hbad⟩ := ih.1 h
          refine ⟨a :: earlier, address, later, needs || others, rfl, ?_, hbad⟩
          exact bind_eq_ok.2 ⟨needs, hneeds, bind_eq_ok.2 ⟨others, hothers, rfl⟩⟩
        · cases h
    · rintro ⟨earlier, address, later, needs, heq, hearlier, hbad⟩
      cases earlier with
      | nil =>
        cases heq
        exact .inl (addressNeeds_eq_panic.2 hbad)
      | cons b earlier =>
        cases heq
        obtain ⟨first, hfirst, h⟩ := bind_eq_ok.1 hearlier
        obtain ⟨others, hothers, -⟩ := bind_eq_ok.1 h
        have hlater := ih.2 ⟨earlier, address, later, others, rfl, hothers, hbad⟩
        exact .inr ⟨first, hfirst, bind_eq_error.2 (.inl hlater)⟩

def ReachesBadURL (env : Env δ) (tags : List String) (entries : List (String × ServerOptions δ)) : Prop :=
  ∃ before tag server after, entries = before ++ (tag, server) :: after ∧
    GoesThrough env tags before.reverse ∧ ∃ earlier address later needs,
      server.address = earlier ++ address :: later ∧ needUpstream env tag 0 earlier = .ok needs ∧
        BadURL env address

lemma nodup_keys_reverse {after : List (String × ServerOptions δ)}
    (h : ((before ++ after).map fst).Nodup) : (before.reverse.map fst).Nodup := by
  rw [map_reverse, nodup_reverse]
  rw [map_append] at h
  exact h.of_append_left

lemma pass_eq_panic (hnodup : (entries.map fst).Nodup) :
    pass env tags entries [] = .error .panic ↔ ReachesBadURL env tags entries := by
  rw [pass, foldlM_eq_error]
  constructor
  · rintro ⟨before, ⟨tag, server⟩, after, built, rfl, hbefore, hstep⟩
    have hthrough := (firstPass_iff env tags before.reverse (nodup_keys_reverse hnodup)).1.1
      ⟨built, by rw [reverse_reverse]; exact hbefore⟩
    obtain ⟨-, hup | ⟨_, _, -, -, -, h⟩⟩ := serverStep_eq_error.1 hstep
    · exact ⟨before, tag, server, after, rfl, hthrough, needUpstream_eq_panic.1 (upstreamOf_eq_panic.1 hup)⟩
    · cases h
  · rintro ⟨before, tag, server, after, rfl, hthrough, hbad⟩
    obtain ⟨hok, hbuilt⟩ := firstPass_iff env tags before.reverse (nodup_keys_reverse hnodup)
    obtain ⟨built, hpass⟩ := hok.2 hthrough
    have hfresh : tag ∉ built := by
      intro hmem
      have hkey := builtEarly_mem ((hbuilt built hpass tag).1 hmem)
      rw [map_reverse, mem_reverse] at hkey
      rw [map_append] at hnodup
      exact (disjoint_of_nodup_append hnodup) hkey mem_cons_self
    rw [reverse_reverse] at hpass
    refine ⟨before, (tag, server), after, built, rfl, hpass, serverStep_eq_error.2 ⟨hfresh, .inl ?_⟩⟩
    exact upstreamOf_eq_panic.2 (needUpstream_eq_panic.2 hbad)

variable {l : List String} {p : String → Bool}

def ComesFirst (P : String → Prop) (l : List String) : Prop :=
  ∀ before tag after, l = before ++ tag :: after → ¬ P tag → ∀ tag' ∈ after, ¬ P tag'

lemma mapIdx_getD_eq_take {l' : List String} (h : l'.length ≤ l.length) :
    (l'.mapIdx fun i _ => l.getD i "") = l.take l'.length := by
  refine ext_getElem? fun i => ?_
  rw [getElem?_mapIdx, getElem?_take]
  by_cases hi : i < l'.length
  · rw [if_pos hi, getElem?_eq_getElem hi, Option.map_some, getD_eq_getElem?_getD,
      getElem?_eq_getElem (hi.trans_le h), Option.getD_some]
  · rw [if_neg hi, getElem?_eq_none (not_lt.1 hi), Option.map_none]

lemma filter_eq_take (h : ComesFirst (fun tag => p tag = true) l) : l.filter p = l.take (l.filter p).length := by
  induction l with
  | nil => rfl
  | cons tag l ih =>
    by_cases htag : p tag = true
    · rw [filter_cons_of_pos htag, length_cons, take_succ_cons, ← ih]
      exact fun before t after heq => h (tag :: before) t after (by rw [heq, cons_append])
    · have hnone : l.filter p = [] := filter_eq_nil_iff.2 fun t ht => h [] tag l rfl htag t ht
      rw [filter_cons_of_neg htag, hnone, length_nil, take_zero]

lemma mem_take_filter_iff (hnodup : l.Nodup) :
    (∀ tag, tag ∈ l.take (l.filter p).length ↔ tag ∈ l.filter p) ↔ ComesFirst (fun tag => p tag = true) l := by
  constructor
  · rintro h before tag after rfl htag tag' htag' hp
    have hlen : ((before ++ tag :: after).filter p).length ≤ before.length := by
      by_contra! hlt
      have hmem : tag ∈ (before ++ tag :: after).take ((before ++ tag :: after).filter p).length := by
        refine mem_of_getElem? (i := before.length) ?_
        rw [getElem?_take, if_pos hlt, getElem?_append_right le_rfl, Nat.sub_self]
        rfl
      exact htag (mem_filter.1 ((h tag).1 hmem)).2
    have hmem := (h tag').2 (mem_filter.2 ⟨by simp [htag'], hp⟩)
    rw [take_append_of_le_length hlen] at hmem
    exact disjoint_of_nodup_append hnodup (mem_of_mem_take hmem) (mem_cons_of_mem _ htag')
  · intro h tag
    rw [← filter_eq_take h]

lemma ComesFirst.congr {P Q : String → Prop} (h : ∀ tag ∈ l, P tag ↔ Q tag) : ComesFirst P l ↔ ComesFirst Q l := by
  refine forall₃_congr fun before tag after => forall_congr' fun heq => ?_
  subst heq
  rw [h tag (by simp)]
  refine forall_congr' fun _ => forall₂_congr fun tag' htag' => ?_
  rw [h tag' (by simp [htag'])]

def Plain (failure : Failure) : Prop := failure = .panic ∨ ∃ text, failure = .error text

lemma plain_addressNeeds (h : addressNeeds env tag i address = .error failure) : Plain failure := by
  rw [addressNeeds] at h
  split_ifs at h
  · cases h
    exact .inr ⟨_, rfl⟩
  · split at h
    · cases h
      exact .inl rfl
    · split_ifs at h
      cases h
      exact .inr ⟨_, rfl⟩

lemma plain_needUpstream (h : needUpstream env tag i addresses = .error failure) :
    Plain failure := by
  induction addresses generalizing i with
  | nil => cases h
  | cons address addresses ih =>
    rcases bind_eq_error.1 h with h | ⟨_, _, h⟩
    · exact plain_addressNeeds h
    · rcases bind_eq_error.1 h with h | ⟨_, _, h⟩
      · exact ih h
      · cases h

lemma plain_upstreamOf (h : upstreamOf env tags tag server = .error failure) : Plain failure := by
  rw [upstreamOf] at h
  split_ifs at h
  · cases h
    exact .inr ⟨_, rfl⟩
  · rcases bind_eq_error.1 h with h | ⟨needs, -, h⟩
    · exact plain_needUpstream h
    · cases needs with
      | false => cases h
      | true =>
        rw [findResolver] at h
        split_ifs at h <;> cases h <;> exact .inr ⟨_, rfl⟩

lemma plain_pass (h : pass env tags entries built = .error failure) : Plain failure := by
  obtain ⟨_, ⟨tag, server⟩, _, _, -, -, hstep⟩ := foldlM_eq_error.1 h
  obtain ⟨-, hup | ⟨_, _, -, -, -, rfl⟩⟩ := serverStep_eq_error.1 hstep
  · exact plain_upstreamOf hup
  · exact .inr ⟨_, rfl⟩

variable {servers : List (ServerOptions δ)}

def entriesOf (servers : List (ServerOptions δ)) : List (String × ServerOptions δ) :=
  (transportTags servers).zip servers

structure BuildsServers (env : Env δ) (servers : List (ServerOptions δ)) : Prop where
  ends : newTransports env servers ≠ .error .panic ∧ newTransports env servers ≠ .error .spins
  once : ∀ built, newTransports env servers = .ok built → built.Nodup ∧ built.Perm (transportTags servers)
  after : ∀ built, newTransports env servers = .ok built → ∀ tag resolver,
    Resolves env (entriesOf servers) tag resolver → ∀ before after, built = before ++ tag :: after →
      resolver ∈ before
  fails : ∀ tag resolver, Resolves env (entriesOf servers) tag resolver →
    resolver = "" ∨ resolver ∉ transportTags servers ∨
      Relation.TransGen (Resolves env (entriesOf servers)) resolver resolver →
    ∃ failure, newTransports env servers = .error failure
  circular : ∀ unresolved, newTransports env servers = .error (.circular unresolved) →
    ∀ tag, tag ∈ unresolved ↔ tag ∈ transportTags servers ∧ ¬ Buildable env (entriesOf servers) tag

lemma duplicate?_eq_none {seen : List String} :
    duplicate? seen tags = none ↔ tags.Nodup ∧ ∀ tag ∈ tags, tag ∉ seen := by
  induction tags generalizing seen with
  | nil => simp [duplicate?]
  | cons tag tags ih =>
    rw [duplicate?]
    by_cases h : tag ∈ seen
    · simp [h]
    · rw [if_neg (by simpa using h), ih, nodup_cons, forall_mem_cons]
      simp only [mem_cons, not_or, forall_and]
      constructor
      · rintro ⟨hnodup, hne, hseen⟩
        exact ⟨⟨fun hmem => hne tag hmem rfl, hnodup⟩, h, hseen⟩
      · rintro ⟨⟨hnot, hnodup⟩, -, hseen⟩
        exact ⟨hnodup, fun t ht heq => hnot (heq ▸ ht), hseen⟩

lemma keys_entriesOf (servers : List (ServerOptions δ)) :
    (entriesOf servers).map fst = transportTags servers := by
  refine map_fst_zip (Nat.le_of_eq ?_)
  rw [transportTags, length_mapIdx]

lemma length_entriesOf (servers : List (ServerOptions δ)) : (entriesOf servers).length = servers.length := by
  rw [entriesOf, length_zip, transportTags, length_mapIdx, Nat.min_self]

lemma newTransports_duplicate (env : Env δ) (h : ¬ (transportTags servers).Nodup) :
    ∃ text, newTransports env servers = .error (.error text) := by
  rw [newTransports]
  cases hdup : duplicate? [] (transportTags servers) with
  | some tag => exact ⟨_, rfl⟩
  | none => exact absurd (duplicate?_eq_none.1 hdup).1 h

lemma newTransports_eq (env : Env δ) (h : (transportTags servers).Nodup) :
    ∃ built result, newTransports env servers = result.map (fun _ => built) ∧
      Ending env (entriesOf servers) built result := by
  have hkeys := keys_entriesOf servers
  have hnodup : ((entriesOf servers).map fst).Nodup := hkeys ▸ h
  obtain ⟨built, result, hloop, hending⟩ := exists_ending hnodup env
  refine ⟨built, result, ?_, hending⟩
  rw [hkeys, length_entriesOf] at hloop
  rw [newTransports, duplicate?_eq_none.2 ⟨h, by simp⟩]
  rw [← entriesOf, hloop]

lemma newTransports_of_pass_error (h : (transportTags servers).Nodup)
    (hpass : pass env (transportTags servers) (entriesOf servers) [] = .error failure) :
    newTransports env servers = .error failure := by
  rw [newTransports, duplicate?_eq_none.2 ⟨h, by simp⟩]
  rw [← entriesOf, loop, buildTurn, hpass]
  rfl

lemma stuck_report (hnodup : (entries.map fst).Nodup) (hs : Sound env (entries.map fst) entries built)
    (hpass : pass env (entries.map fst) entries built = .ok built) :
    (∀ tag, tag ∈ unresolvedTags (entries.map fst) built ↔
        tag ∈ entries.map fst ∧ ¬ Buildable env entries tag) ↔
      ComesFirst (fun tag => ¬ Buildable env entries tag) (entries.map fst) := by
  have hbuilt : ∀ tag, tag ∈ built ↔ Buildable env entries tag := fun tag =>
    ⟨fun h => (hs.made tag h).1, hs.complete hnodup hpass⟩
  have hunbuilt : ∀ tag ∈ entries.map fst,
      (!built.contains tag) = true ↔ ¬ Buildable env entries tag := by
    intro tag _
    rw [← hbuilt tag]
    simp
  rw [← ComesFirst.congr hunbuilt, ← mem_take_filter_iff hnodup, unresolvedTags,
    mapIdx_getD_eq_take (length_filter_le _ _)]
  refine forall_congr' fun tag => ?_
  rw [mem_filter, and_congr_right (hunbuilt tag)]

lemma not_createFails (hnodup : (entries.map fst).Nodup) (hs : Sound env tags entries built)
    (hpass : pass env tags entries built = .ok built) : ¬ CreateFails env tags entries := by
  rintro ⟨tag, server, upstream, err, hmem, hup, hbuildable, hcreate⟩
  obtain ⟨-, server', upstream', hmem', hup', hcreate'⟩ := hs.made tag (hs.complete hnodup hpass hbuildable)
  rw [← eq_of_mem_entries hnodup hmem hmem', hup] at hup'
  cases hup'
  rw [← eq_of_mem_entries hnodup hmem hmem', hcreate] at hcreate'
  cases hcreate'

def Unhindered (env : Env δ) (servers : List (ServerOptions δ)) : Prop :=
  AllChecked env (transportTags servers) (entriesOf servers) ∧
    ¬ CreateFails env (transportTags servers) (entriesOf servers)

lemma Sound.perm (hs : Sound env tags entries built)
    (hlen : entries.length = built.length) : built.Perm (entries.map fst) :=
  hs.subperm.perm_of_length_le (by rw [length_map, hlen])

variable {result : Except Failure Unit}

lemma comesFirst_of_ending (hnodup : (transportTags servers).Nodup) (h : BuildsServers env servers)
    (hun : Unhindered env servers) (heq : newTransports env servers = result.map fun _ => built)
    (hending : Ending env (entriesOf servers) built result) :
    ComesFirst (fun tag => ¬ Buildable env (entriesOf servers) tag) (transportTags servers) := by
  obtain ⟨hchecked, hcreate⟩ := hun
  have hkeys := keys_entriesOf servers
  rw [← hkeys] at hnodup hchecked hcreate ⊢
  cases hending with
  | complete hs _ hlen =>
    rintro before tag after hsplit - tag' htag' hunbuildable
    refine hunbuildable (hs.made tag' ((hs.perm hlen).mem_iff.2 ?_)).1
    rw [hsplit]
    exact mem_append_right _ (mem_cons_of_mem _ htag')
  | first hpass =>
    obtain ⟨tag, server, hmem, hup⟩ | ⟨-, hfails⟩ := sound_nil.pass_error hnodup hpass
    · obtain ⟨upstream, hok⟩ := hchecked tag server hmem
      rw [hok] at hup
      cases hup
    · exact absurd hfails hcreate
  | create hfails => exact absurd hfails hcreate
  | stuck hs hpass _ =>
    rw [← stuck_report hnodup hs hpass]
    have hcircular := h.circular _ heq
    rw [← hkeys] at hcircular
    exact hcircular

lemma buildsServers_of_ending (hnodup : (transportTags servers).Nodup)
    (hurl : ¬ ReachesBadURL env (transportTags servers) (entriesOf servers))
    (hfirst : Unhindered env servers →
      ComesFirst (fun tag => ¬ Buildable env (entriesOf servers) tag) (transportTags servers))
    (heq : newTransports env servers = result.map fun _ => built)
    (hending : Ending env (entriesOf servers) built result) : BuildsServers env servers := by
  have hkeys := keys_entriesOf servers
  cases hending with
  | complete hs hchecked hlen =>
    have hok : newTransports env servers = .ok built := heq
    refine ⟨by simp [hok], ?_, ?_, ?_, by simp [hok]⟩
    · rintro _ hbuilt
      cases hok.symm.trans hbuilt
      exact ⟨hs.ready.nodup, hkeys ▸ hs.perm hlen⟩
    · rintro _ hbuilt tag resolver hresolves before after hsplit
      cases hok.symm.trans hbuilt
      exact hs.ready.before before after tag hsplit resolver (mem_resolvers.2 hresolves)
    · rintro tag resolver ⟨server, hmem, hneeds, rfl⟩ hbad
      exfalso
      obtain ⟨upstream, hup⟩ := hchecked tag server hmem
      obtain ⟨-, ⟨hnot, -⟩ | ⟨-, hne, hin, -⟩⟩ := upstreamOf_eq_ok.1 hup
      · rw [hneeds] at hnot
        cases hnot
      · rcases hbad with hempty | hunknown | hcycle
        · exact hne hempty
        · exact hunknown (hkeys ▸ hin)
        · refine hs.ready.acyclic ((hs.perm hlen).mem_iff.2 hin) ?_
          exact hcycle.lift id fun _ _ => mem_resolvers.2
  | first hpass =>
    rename_i failure
    have herror : newTransports env servers = .error failure := heq
    rw [hkeys] at hpass
    have hplain := plain_pass hpass
    refine ⟨⟨?_, ?_⟩, by simp [herror], by simp [herror], fun _ _ _ _ => ⟨_, herror⟩, ?_⟩
    · rintro h
      cases herror.symm.trans h
      exact hurl ((pass_eq_panic (hkeys ▸ hnodup)).1 hpass)
    · rintro h
      cases herror.symm.trans h
      rcases hplain with h | ⟨_, h⟩ <;> cases h
    · rintro unresolved h
      cases herror.symm.trans h
      rcases hplain with h | ⟨_, h⟩ <;> cases h
  | create hfails =>
    rename_i text
    have herror : newTransports env servers = .error (.error text) := heq
    exact ⟨by simp [herror], by simp [herror], by simp [herror], fun _ _ _ _ => ⟨_, herror⟩, by simp [herror]⟩
  | stuck hs hpass _ =>
    have herror : newTransports env servers =
        .error (.circular (unresolvedTags ((entriesOf servers).map fst) built)) := heq
    have hnodup' : ((entriesOf servers).map fst).Nodup := hkeys ▸ hnodup
    refine ⟨by simp [herror], by simp [herror], by simp [herror], fun _ _ _ _ => ⟨_, herror⟩, ?_⟩
    rintro unresolved h
    cases herror.symm.trans h
    have hun : Unhindered env servers := by
      rw [Unhindered, ← hkeys]
      exact ⟨allChecked_of_pass hnodup' hs hpass, not_createFails hnodup' hs hpass⟩
    have hreport := (stuck_report hnodup' hs hpass).2 (by rw [hkeys]; exact hfirst hun)
    rw [hkeys] at hreport ⊢
    exact hreport

theorem dns_servers_iff (env : Env δ) (servers : List (ServerOptions δ)) :
    BuildsServers env servers ↔ ((transportTags servers).Nodup →
      ¬ ReachesBadURL env (transportTags servers) (entriesOf servers) ∧
      (Unhindered env servers →
        ComesFirst (fun tag => ¬ Buildable env (entriesOf servers) tag) (transportTags servers))) := by
  have hkeys := keys_entriesOf servers
  by_cases hnodup : (transportTags servers).Nodup
  · obtain ⟨built, result, heq, hending⟩ := newTransports_eq env hnodup
    constructor
    · intro h _
      have hnodup' : ((entriesOf servers).map fst).Nodup := hkeys ▸ hnodup
      refine ⟨fun hbad => h.ends.1 (newTransports_of_pass_error hnodup ((pass_eq_panic hnodup').2 hbad)), ?_⟩
      exact fun hun => comesFirst_of_ending hnodup h hun heq hending
    · intro h
      obtain ⟨hurl, hfirst⟩ := h hnodup
      exact buildsServers_of_ending hnodup hurl hfirst heq hending
  · obtain ⟨text, heq⟩ := newTransports_duplicate env hnodup
    refine iff_of_true ?_ fun h => absurd h hnodup
    exact ⟨by simp [heq], by simp [heq], by simp [heq], fun _ _ _ _ => ⟨_, heq⟩, by simp [heq]⟩

def plainEnv : Env Unit where
  toLower := id
  parseURL _ := none
  isAddress host := host == "8.8.8.8"
  inHosts _ := false
  createTransport _ _ _ := .ok ()

def cyclicServers : List (ServerOptions Unit) :=
  [{ tag := "a", address := ["8.8.8.8"], rest := () },
    { tag := "b", address := ["dns.b"], addressResolver := "c", rest := () },
    { tag := "c", address := ["dns.c"], addressResolver := "b", rest := () }]

theorem dns_servers_misreported :
    newTransports plainEnv [{ address := ["tls://["], rest := () }] = .error .panic ∧
      newTransports plainEnv cyclicServers = .error (.circular ["a", "b"]) ∧
      Buildable plainEnv (entriesOf cyclicServers) "a" ∧ ¬ BuildsServers plainEnv cyclicServers := by
  have hcircular : newTransports plainEnv cyclicServers = .error (.circular ["a", "b"]) := by decide +kernel
  have ha : Buildable plainEnv (entriesOf cyclicServers) "a" := .direct mem_cons_self (by decide +kernel)
  refine ⟨by decide +kernel, hcircular, ha, fun h => ?_⟩
  exact ((h.circular _ hcircular "a").1 mem_cons_self).2 ha

end SingBox.Dns.Servers
