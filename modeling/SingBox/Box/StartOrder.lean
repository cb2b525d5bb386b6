import SingBox.Box.ProviderTags
import SingBox.Lib.ReadyOrder
import Mathlib.Data.List.Perm.Subperm

namespace SingBox.Startup

open Adapter Lib.ReadyOrder List

def dependenciesOf (outs : List Outbound) (tag : String) : List String :=
  ((Lib.Table.fill Outbound.tag outs tag).map Outbound.dependencies).getD []

structure Scheduled (outs : List Outbound) (started : List String) : Prop where
  ready : Ready (dependenciesOf outs) started
  known : ∀ t ∈ started, t ∈ outs.map Outbound.tag
  clean : ∀ out ∈ outs, out.tag ∈ started → out.start.error? = none

def Stuck (outs : List Outbound) (started : List String) : Prop :=
  ∀ out ∈ outs, out.tag ∈ started ∨ ∃ d ∈ out.dependencies, d ∉ started

variable {out : Outbound} {rest : List Outbound} {started : List String} {c : Bool}

lemma startOne_cases (h : (startOne (out :: rest) started c).err = none) :
    (out.tag ∈ started ∧ startOne (out :: rest) started c = startOne rest started c) ∨
      (out.tag ∉ started ∧ (∃ d ∈ out.dependencies, d ∉ started) ∧
        startOne (out :: rest) started c = startOne rest started c) ∨
      (out.tag ∉ started ∧ (∀ d ∈ out.dependencies, d ∈ started) ∧ out.start.error? = none ∧
        startOne (out :: rest) started c = startOne rest (started ++ [out.tag]) true) := by
  by_cases hs : out.tag ∈ started
  · exact .inl ⟨hs, by rw [startOne, if_pos hs]⟩
  by_cases hd : ∀ d ∈ out.dependencies, d ∈ started
  · rw [startOne, if_neg hs, if_pos hd] at h ⊢
    cases he : out.start.error? with
    | some err => simp [he] at h
    | none => exact .inr (.inr ⟨hs, hd, rfl, rfl⟩)
  · exact .inr (.inl ⟨hs, by simpa using hd, by rw [startOne, if_neg hs, if_neg hd]⟩)

lemma startOne_raised (h : (startOne rest started true).err = none) :
    (startOne rest started true).canContinue = true := by
  induction rest generalizing started with
  | nil => rfl
  | cons out rest ih =>
    rcases startOne_cases h with ⟨_, hrun⟩ | ⟨_, _, hrun⟩ | ⟨_, _, _, hrun⟩ <;>
    · rw [hrun] at h ⊢
      exact ih h

lemma startOne_length (h : (startOne rest started c).err = none) :
    started.length ≤ (startOne rest started c).started.length ∧
      ((startOne rest started c).canContinue = true → c = true ∨
        started.length < (startOne rest started c).started.length) := by
  induction rest generalizing started c with
  | nil => exact ⟨Nat.le_refl _, .inl⟩
  | cons out rest ih =>
    rcases startOne_cases h with ⟨_, hrun⟩ | ⟨_, _, hrun⟩ | ⟨_, _, _, hrun⟩
    · rw [hrun] at h ⊢
      exact ih h
    · rw [hrun] at h ⊢
      exact ih h
    · rw [hrun] at h ⊢
      have hlen := (ih h).1
      simp only [length_append, length_singleton] at hlen
      exact ⟨by omega, fun _ => .inr (by omega)⟩

lemma startOne_stuck (h : (startOne rest started c).err = none)
    (hc : (startOne rest started c).canContinue = false) :
    (startOne rest started c).started = started ∧ Stuck rest started := by
  induction rest generalizing started c with
  | nil => exact ⟨rfl, by simp [Stuck]⟩
  | cons out rest ih =>
    rcases startOne_cases h with ⟨hs, hrun⟩ | ⟨_, hd, hrun⟩ | ⟨_, _, _, hrun⟩
    · rw [hrun] at h hc ⊢
      exact ⟨(ih h hc).1, forall_mem_cons.mpr ⟨.inl hs, (ih h hc).2⟩⟩
    · rw [hrun] at h hc ⊢
      exact ⟨(ih h hc).1, forall_mem_cons.mpr ⟨.inr hd, (ih h hc).2⟩⟩
    · rw [hrun] at h hc
      rw [startOne_raised h] at hc
      cases hc

lemma Scheduled.length_le {outs : List Outbound} (h : Scheduled outs started) :
    started.length ≤ outs.length := by
  simpa using (subperm_of_subset h.ready.nodup h.known).length_le

lemma Scheduled.all_started {outs : List Outbound} (h : Scheduled outs started)
    (hl : started.length = outs.length) (ho : out ∈ outs) : out.tag ∈ started := by
  have hp := subperm_of_subset h.ready.nodup h.known
  exact (hp.perm_of_length_le (by simp [hl])).mem_iff.mpr (mem_map_of_mem ho)

lemma lintOutbound_returns {outs : List Outbound} (hstuck : Stuck outs started) (fuel : ℕ)
    (oTree : List String) (cur : Outbound) (hc : cur ∈ outs) (hs : cur.tag ∉ started)
    (ht : oTree.Nodup) (hk : ∀ t ∈ oTree, t ∈ outs.map Outbound.tag)
    (hf : outs.length < fuel + oTree.length) :
    ∃ err, lintOutbound outs started fuel oTree cur = .returned (some err) := by
  induction fuel generalizing oTree cur with
  | zero =>
    have hle := (subperm_of_subset ht hk).length_le
    simp only [length_map] at hle
    omega
  | succ fuel ih =>
    obtain ⟨d, hd, hds⟩ := (hstuck cur hc).resolve_left hs
    obtain ⟨tag, hfind⟩ : ∃ tag, cur.dependencies.find? (fun it => it ∉ started) = some tag := by
      rw [← Option.isSome_iff_exists, find?_isSome]
      exact ⟨d, hd, by simpa using hds⟩
    have hnew : tag ∉ started := by simpa using find?_some hfind
    rw [lintOutbound, hfind]
    simp only [Option.getD_some]
    by_cases hcycle : tag ∈ oTree
    · exact ⟨_, by rw [if_pos hcycle]⟩
    rw [if_neg hcycle]
    cases hlook : Lib.Table.fill Outbound.tag outs tag with
    | none => exact ⟨_, rfl⟩
    | some next =>
      obtain ⟨hm, rfl⟩ := Lib.Table.fill_mem _ _ _ _ hlook
      refine ih _ next hm hnew ?_ ?_ ?_
      · simpa using ht.concat hcycle
      · intro t ht'
        rcases mem_append.mp ht' with ht' | ht'
        · exact hk t ht'
        · exact mem_singleton.mp ht' ▸ mem_map_of_mem hm
      · simp only [length_append, length_singleton]
        omega

section

variable {outs : List Outbound} (hn : (outs.map Outbound.tag).Nodup)
include hn

lemma dependenciesOf_mem (ho : out ∈ outs) : dependenciesOf outs out.tag = out.dependencies := by
  simp [dependenciesOf, Lib.Table.fill_nodup Outbound.tag outs hn out ho]

lemma eq_of_tag {a b : Outbound} (ha : a ∈ outs) (hb : b ∈ outs) (h : a.tag = b.tag) : a = b := by
  have h₁ := Lib.Table.fill_nodup Outbound.tag outs hn a ha
  rw [h, Lib.Table.fill_nodup Outbound.tag outs hn b hb] at h₁
  exact (Option.some.inj h₁).symm

lemma Scheduled.start (h : Scheduled outs started) (ho : out ∈ outs) (hs : out.tag ∉ started)
    (hd : ∀ d ∈ out.dependencies, d ∈ started) (he : out.start.error? = none) :
    Scheduled outs (started ++ [out.tag]) where
  ready := .snoc h.ready hs (by rwa [dependenciesOf_mem hn ho])
  known := by
    intro t ht
    rcases mem_append.mp ht with ht | ht
    · exact h.known t ht
    · exact mem_singleton.mp ht ▸ mem_map_of_mem ho
  clean := by
    intro o ho' ht
    rcases mem_append.mp ht with ht | ht
    · exact h.clean o ho' ht
    · rw [eq_of_tag hn ho' ho (mem_singleton.mp ht), he]

lemma startOne_scheduled (hr : ∀ out ∈ rest, out ∈ outs) (c : Bool) (h : Scheduled outs started)
    (he : (startOne rest started c).err = none) :
    Scheduled outs (startOne rest started c).started := by
  induction rest generalizing started c with
  | nil => exact h
  | cons out rest ih =>
    have hr' : ∀ o ∈ rest, o ∈ outs := fun o ho => hr o (mem_cons_of_mem _ ho)
    rcases startOne_cases he with ⟨_, hrun⟩ | ⟨_, _, hrun⟩ | ⟨hs, hd, hout, hrun⟩
    · rw [hrun] at he ⊢
      exact ih hr' c h he
    · rw [hrun] at he ⊢
      exact ih hr' c h he
    · rw [hrun] at he ⊢
      exact ih hr' true (h.start hn (hr out (by simp)) hs hd hout) he

lemma unstarted_exists (h : Scheduled outs started) (hl : started.length ≠ outs.length) :
    ∃ out ∈ outs, out.tag ∉ started := by
  by_contra hc
  push Not at hc
  have hp : outs.length ≤ started.length := by
    have hsub : ∀ t ∈ outs.map Outbound.tag, t ∈ started := by
      intro t ht
      obtain ⟨out, ho, rfl⟩ := mem_map.mp ht
      exact hc out ho
    simpa using (subperm_of_subset hn hsub).length_le
  exact hl (Nat.le_antisymm (h.length_le) hp)

lemma startLoop_returns (fuel : ℕ) (h : Scheduled outs started)
    (hf : outs.length < fuel + started.length) :
    ∃ err, (startLoop outs fuel started).2 = .returned err ∧
      (err = none → Scheduled outs (startLoop outs fuel started).1 ∧
        (startLoop outs fuel started).1.length = outs.length) := by
  induction fuel generalizing started with
  | zero =>
    have hle := h.length_le
    omega
  | succ fuel ih =>
    rw [startLoop]
    cases he : (startOne outs started false).err with
    | some err => exact ⟨some err, rfl, by simp⟩
    | none =>
      have hsched := startOne_scheduled hn (fun out ho => ho) false h he
      by_cases hl : (startOne outs started false).started.length = outs.length
      · rw [if_pos hl]
        exact ⟨none, rfl, fun _ => ⟨hsched, hl⟩⟩
      rw [if_neg hl]
      cases hc : (startOne outs started false).canContinue with
      | true =>
        have hgrow := ((startOne_length he).2 hc).resolve_left (by simp)
        exact ih hsched (by omega)
      | false =>
        obtain ⟨out, ho, hs⟩ := unstarted_exists hn hsched hl
        obtain ⟨cur, hfind⟩ : ∃ cur, outs.find?
            (fun it => it.tag ∉ (startOne outs started false).started) = some cur := by
          rw [← Option.isSome_iff_exists, find?_isSome]
          exact ⟨out, ho, by simpa using hs⟩
        obtain ⟨hsame, hstuck⟩ := startOne_stuck he hc
        have hcur : cur ∈ outs := mem_of_find?_eq_some hfind
        obtain ⟨err, herr⟩ := lintOutbound_returns (hsame ▸ hstuck) (outs.length + 1) [cur.tag] cur
          hcur (by simpa using find?_some hfind) (by simp)
          (by simpa using ⟨cur, hcur, rfl⟩) (by rw [length_singleton]; omega)
        refine ⟨some err, ?_, by simp⟩
        simp only [hfind, herr]
        rfl

end

lemma startEach_err (pTag : String) (i j : ℕ) (outboundTag : TagCount) (outs : List Outbound) :
    (startEach pTag i j outboundTag outs).err = none ↔ ∀ out ∈ outs, out.start.error? = none := by
  induction outs generalizing j outboundTag with
  | nil => simp [startEach]
  | cons out outs ih =>
    cases he : out.start.error? with
    | some err => simp [startEach, he]
    | none => simp [startEach, he, ih]

lemma startProviders_err (i : ℕ) (outboundTag : TagCount) (ps : List Provider) :
    (startProviders i outboundTag ps).err = none ↔
      ∀ p ∈ ps, ∀ out ∈ p.outbounds, out.start.error? = none := by
  induction ps generalizing i outboundTag with
  | nil => simp [startProviders]
  | cons p ps ih =>
    rw [forall_mem_cons, ← startEach_err (providerTag i p) i 0 outboundTag p.outbounds]
    cases he : (startEach (providerTag i p) i 0 outboundTag p.outbounds).err with
    | some err => simp [startProviders, he]
    | none => simp [startProviders, he, ih]

lemma startEach_log (pTag : String) (i j : ℕ) (outboundTag : TagCount) (outs : List Outbound)
    (h : (startEach pTag i j outboundTag outs).err = none) (k : ℕ) (hk : k < outs.length) :
    .provider i (j + k) ∈ (startEach pTag i j outboundTag outs).log := by
  induction outs generalizing j outboundTag k with
  | nil => simp at hk
  | cons out outs ih =>
    cases he : out.start.error? with
    | some err => simp [startEach, he] at h
    | none =>
      simp only [startEach, he] at h ⊢
      cases k with
      | zero => simp
      | succ k =>
        have hrest := ih (j + 1) _ h k (by simpa using hk)
        rw [show j + (k + 1) = j + 1 + k by omega]
        exact mem_cons_of_mem _ hrest

lemma startProviders_log (i : ℕ) (outboundTag : TagCount) (ps : List Provider)
    (h : (startProviders i outboundTag ps).err = none) (m : ℕ) (p : Provider) (hm : ps[m]? = some p)
    (k : ℕ) (hk : k < p.outbounds.length) :
    .provider (i + m) k ∈ (startProviders i outboundTag ps).log := by
  induction ps generalizing i outboundTag m with
  | nil => simp at hm
  | cons q ps ih =>
    cases he : (startEach (providerTag i q) i 0 outboundTag q.outbounds).err with
    | some err => simp [startProviders, he] at h
    | none =>
      simp only [startProviders, he] at h ⊢
      cases m with
      | zero =>
        obtain rfl : q = p := by simpa using hm
        have hlog := startEach_log (providerTag i q) i 0 outboundTag q.outbounds he k hk
        exact mem_append_left _ (by simpa using hlog)
      | succ m =>
        have hrest := ih (i + 1) _ h m (by simpa using hm)
        rw [show i + (m + 1) = i + 1 + m by omega]
        exact mem_append_right _ hrest

lemma log_no_static (i : ℕ) (outboundTag : TagCount) (ps : List Provider) (tag : String) :
    .static tag ∉ (startProviders i outboundTag ps).log := by
  have heach : ∀ (pTag : String) (i j : ℕ) (outboundTag : TagCount) (outs : List Outbound),
      .static tag ∉ (startEach pTag i j outboundTag outs).log := by
    intro pTag i j outboundTag outs
    induction outs generalizing j outboundTag with
    | nil => simp [startEach]
    | cons out outs ih =>
      cases he : out.start.error? with
      | some err => simp [startEach, he]
      | none => simpa [startEach, he] using ih _ _
  induction ps generalizing i outboundTag with
  | nil => simp [startProviders]
  | cons p ps ih =>
    cases he : (startEach (providerTag i p) i 0 outboundTag p.outbounds).err with
    | some err => simpa [startProviders, he] using heach _ _ _ _ _
    | none => simpa [startProviders, he] using ⟨heach _ _ _ _ _, ih _ _⟩

def tagOutbounds : ℕ → List Outbound → List Outbound
  | _, [] => []
  | i, out :: rest => assignTag i out :: tagOutbounds (i + 1) rest

lemma assignTags_err (i : ℕ) (seen : List String) (outs : List Outbound) :
    (assignTags i seen outs).2 = none ↔ ((tagOutbounds i outs).map Outbound.tag).Nodup ∧
      ∀ t ∈ (tagOutbounds i outs).map Outbound.tag, t ∉ seen := by
  induction outs generalizing i seen with
  | nil => simp [assignTags, tagOutbounds]
  | cons out outs ih =>
    by_cases hd : (assignTag i out).tag ∈ seen
    · simp [assignTags, tagOutbounds, hd]
    · simp only [assignTags, hd, if_false, ih, tagOutbounds, map_cons, nodup_cons]
      rw [forall_mem_cons]
      simp only [mem_cons, not_or]
      constructor
      · rintro ⟨hn, hs⟩
        exact ⟨⟨fun hm => (hs _ hm).1 rfl, hn⟩, hd, fun t ht => (hs t ht).2⟩
      · rintro ⟨⟨hm, hn⟩, _, hs⟩
        exact ⟨hn, fun t ht => ⟨fun he => hm (he ▸ ht), hs t ht⟩⟩

lemma assignTags_fst (i : ℕ) (seen : List String) (outs : List Outbound)
    (h : (assignTags i seen outs).2 = none) : (assignTags i seen outs).1 = tagOutbounds i outs := by
  induction outs generalizing i seen with
  | nil => rfl
  | cons out outs ih =>
    by_cases hd : (assignTag i out).tag ∈ seen
    · simp [assignTags, hd] at h
    · simp only [assignTags, hd, if_false] at h ⊢
      rw [ih _ _ h, tagOutbounds]

def Box.tagged (s : Box) : List Outbound := tagOutbounds 0 s.outbounds

def Box.DuplicateTag (s : Box) : Prop := ¬ (s.tagged.map Outbound.tag).Nodup

def Box.ProviderFails (s : Box) : Prop :=
  ∃ p ∈ s.providers, ∃ out ∈ p.outbounds, out.start.error? ≠ none

def DependsOn (outs : List Outbound) (a b : Outbound) : Prop :=
  a ∈ outs ∧ b ∈ outs ∧ b.tag ∈ a.dependencies

inductive Defective (s : Box) : Prop
  | duplicate : s.DuplicateTag → Defective s
  | missing (out : Outbound) (d : String) : out ∈ s.tagged → d ∈ out.dependencies →
      d ∉ s.tagged.map Outbound.tag → Defective s
  | cycle (out : Outbound) : Relation.TransGen (DependsOn s.tagged) out out → Defective s
  | start (out : Outbound) : out ∈ s.tagged → out.start.error? ≠ none → Defective s
  | provider : s.ProviderFails → Defective s

structure AllStarted (s : Box) (log : List Event) : Prop where
  once : ∀ out ∈ s.tagged, log.count (.static out.tag) = 1
  after : ∀ out ∈ s.tagged, ∀ l r, log = l ++ .static out.tag :: r →
    ∀ d ∈ out.dependencies, .static d ∈ l
  providers : ∀ (m : ℕ) (p : Provider), s.providers[m]? = some p →
    ∀ k < p.outbounds.length, .provider m k ∈ log

structure StartsUp (s : Box) : Prop where
  terminates : ∃ err, s.startOutbounds.exit = .returned err
  started : s.startOutbounds.exit = .returned none → AllStarted s s.startOutbounds.log
  reported : Defective s → ∃ err, s.startOutbounds.exit = .returned (some err)

variable {s : Box}

lemma Scheduled.no_defect (hn : ¬ s.DuplicateTag) (hp : ¬ s.ProviderFails)
    (h : Scheduled s.tagged started) (hl : started.length = s.tagged.length) : ¬ Defective s := by
  have hnodup : (s.tagged.map Outbound.tag).Nodup := not_not.mp hn
  rintro (hd | ⟨out, d, ho, hd, hm⟩ | ⟨out, hc⟩ | ⟨out, ho, he⟩ | hd)
  · exact hn hd
  · have hs := h.all_started hl ho
    exact hm (h.known d (h.ready.closed hs (by rwa [dependenciesOf_mem hnodup ho])))
  · have ho : out ∈ s.tagged := by
      obtain ⟨b, hb, _⟩ := Relation.TransGen.head'_iff.mp hc
      exact hb.1
    refine h.ready.acyclic (h.all_started hl ho) (hc.lift Outbound.tag ?_)
    intro a b hab
    change b.tag ∈ dependenciesOf s.tagged a.tag
    rw [dependenciesOf_mem hnodup hab.1]
    exact hab.2.2
  · exact he (h.clean out ho (h.all_started hl ho))
  · exact hp hd

lemma static_split (started : List String) (log l r : List Event) (tag : String)
    (hlog : ∀ t, .static t ∉ log) (h : log ++ started.map .static = l ++ .static tag :: r) :
    ∃ before later, started = before ++ tag :: later ∧ l = log ++ before.map .static := by
  rcases append_eq_append_iff.mp h with ⟨m, rfl, hm⟩ | ⟨m, hm, _⟩
  · obtain ⟨before, rest, rfl, rfl, hrest⟩ := map_eq_append_iff.mp hm
    obtain ⟨t, later, rfl, ht, rfl⟩ := map_eq_cons_iff.mp hrest
    obtain rfl : t = tag := by simpa using ht
    exact ⟨before, later, rfl, rfl⟩
  · cases m with
    | nil =>
      simp only [append_nil] at hm
      subst hm
      obtain ⟨t, later, rfl, ht, rfl⟩ := map_eq_cons_iff.mp (append_cancel_left h)
      obtain rfl : t = tag := by simpa using ht
      exact ⟨[], later, rfl, by simp⟩
    | cons e m =>
      exfalso
      refine hlog tag ?_
      rename_i hm'
      simp only [cons_append, List.cons.injEq] at hm'
      rw [hm, hm'.1]
      simp

lemma Scheduled.allStarted (hn : (s.tagged.map Outbound.tag).Nodup) (h : Scheduled s.tagged started)
    (hl : started.length = s.tagged.length)
    (hp : (startProviderOutbounds s.tagged s.providers).err = none) :
    AllStarted s ((startProviderOutbounds s.tagged s.providers).log ++ started.map .static) where
  once := by
    intro out ho
    have hinj : Function.Injective Event.static := fun a b hab => by simpa using hab
    have hzero : (startProviderOutbounds s.tagged s.providers).log.count (.static out.tag) = 0 :=
      count_eq_zero_of_not_mem (log_no_static _ _ _ _)
    rw [count_append, hzero, Nat.zero_add]
    exact count_eq_one_of_mem (h.ready.nodup.map hinj) (mem_map_of_mem (h.all_started hl ho))
  after := by
    intro out ho l r hlog d hd
    obtain ⟨before, later, hsplit, rfl⟩ := static_split started _ l r out.tag (log_no_static _ _ _) hlog
    have hb := h.ready.before before later out.tag hsplit d (by rwa [dependenciesOf_mem hn ho])
    exact mem_append_right _ (mem_map_of_mem hb)
  providers := by
    intro m p hm k hk
    have hlog := startProviders_log 0 (staticTags s.tagged) s.providers hp m p hm k hk
    rw [Nat.zero_add] at hlog
    exact mem_append_left _ hlog

lemma startOutbounds_duplicate (s : Box) (h : s.DuplicateTag) :
    ∃ err, s.startOutbounds.exit = .returned (some err) := by
  cases he : (assignTags 0 [] s.outbounds).2 with
  | none => exact absurd ((assignTags_err 0 [] s.outbounds).mp he).1 h
  | some err => exact ⟨err, by simp [Box.startOutbounds, he]⟩

lemma assignTags_tagged (s : Box) (h : ¬ s.DuplicateTag) :
    assignTags 0 [] s.outbounds = (s.tagged, none) := by
  have he : (assignTags 0 [] s.outbounds).2 = none :=
    (assignTags_err 0 [] s.outbounds).mpr ⟨not_not.mp h, by simp⟩
  exact Prod.ext (assignTags_fst 0 [] s.outbounds he) he

lemma startOutbounds_provider (s : Box) (h : ¬ s.DuplicateTag) (hp : s.ProviderFails) :
    s.startOutbounds.exit = .returned none := by
  cases he : (startProviderOutbounds s.tagged s.providers).err with
  | none =>
    obtain ⟨p, hp, out, ho, hs⟩ := hp
    exact absurd ((startProviders_err _ _ _).mp he p hp out ho) hs
  | some err => simp [Box.startOutbounds, assignTags_tagged s h, he]

theorem starts_up_iff (s : Box) : StartsUp s ↔ s.DuplicateTag ∨ ¬ s.ProviderFails := by
  constructor
  · intro h
    by_contra hc
    obtain ⟨hn, hp⟩ := not_or.mp hc
    obtain ⟨err, he⟩ := h.reported (.provider (not_not.mp hp))
    rw [startOutbounds_provider s hn (not_not.mp hp)] at he
    simp at he
  · intro h
    by_cases hn : s.DuplicateTag
    · obtain ⟨err, he⟩ := startOutbounds_duplicate s hn
      exact ⟨⟨_, he⟩, by simp [he], fun _ => ⟨err, he⟩⟩
    have hp := h.resolve_left hn
    have hnodup : (s.tagged.map Outbound.tag).Nodup := not_not.mp hn
    have hrun : (startProviderOutbounds s.tagged s.providers).err = none := by
      refine (startProviders_err _ _ _).mpr (fun p hmem out ho => ?_)
      by_contra hs
      exact hp ⟨p, hmem, out, ho, hs⟩
    have hempty : Scheduled s.tagged [] := ⟨.nil, by simp, by simp⟩
    obtain ⟨err, hexit, hdone⟩ := startLoop_returns hnodup (s.tagged.length + 1) hempty (by simp)
    have hall : s.startOutbounds = ⟨⟨s.tagged, (startProviderOutbounds s.tagged s.providers).providers⟩,
        (startProviderOutbounds s.tagged s.providers).log ++
          (startLoop s.tagged (s.tagged.length + 1) []).1.map .static, .returned err⟩ := by
      simp [Box.startOutbounds, assignTags_tagged s hn, hrun, hexit]
    refine ⟨⟨err, by rw [hall]⟩, ?_, ?_⟩
    · intro hr
      rw [hall] at hr ⊢
      obtain ⟨hsched, hl⟩ := hdone (by simpa using hr)
      exact hsched.allStarted hnodup hl hrun
    · intro hdef
      cases err with
      | some err => exact ⟨err, by rw [hall]⟩
      | none =>
        obtain ⟨hsched, hl⟩ := hdone rfl
        exact absurd hdef (hsched.no_defect hn hp hl)

theorem starts_up_silent_failure :
    ¬ StartsUp ⟨[outboundless],
      [⟨"sub", [{ id := 1, tag := "A", type := .wireGuard, start := .fails "bad key" }], fun _ => none⟩]⟩ := by
  intro h
  obtain ⟨err, he⟩ := h.reported (.provider ⟨_, mem_singleton_self _, _, mem_singleton_self _, by decide⟩)
  exact absurd he (by simp [Box.startOutbounds, assignTags, startProviderOutbounds,
    startProviders, startEach, StartMethod.error?])

end SingBox.Startup
