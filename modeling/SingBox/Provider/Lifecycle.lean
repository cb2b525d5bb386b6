import SingBox.Lib.Runs
import SingBox.Provider.Atomicity
import SingBox.Provider.Effect

namespace SingBox.Provider

open Adapter Groups Lib.Runs Lib.Table List LogEntry Startup.Provider

variable {δ : Type} [DecidableEq δ]

def LogEntry.id : LogEntry → ℕ
  | .start id _ => id
  | .close id _ => id

def World.Lists (w : World δ) (out : Outbound) : Prop := ∃ q ∈ w.net.providers, out ∈ q.outbounds

def World.ListsElsewhere (p : String) (w : World δ) (out : Outbound) : Prop :=
  ∃ q ∈ w.net.providers, q.tag ≠ p ∧ out ∈ q.outbounds

def boxClose (w : World δ) : World δ :=
  { w with log := w.log ++ w.net.providers.flatMap fun q =>
      q.outbounds.map fun out => .close out.id true }

structure ClosedProperly (w : World δ) : Prop where
  closed : ∀ id ok, start id ok ∈ (boxClose w).log →
    ∃ listed, close id listed ∈ (boxClose w).log
  unlisted : ∀ id, close id true ∉ w.log

inductive Attempt where
  | content (p content : String) (starts : ℕ → StartMethod)
  | fetch (p : String) (response : Response) (starts : ℕ → StartMethod)

def attempt (env : Env δ) (w : World δ) : Attempt → Option (World δ)
  | .content p content starts =>
    if (w.provider p).isSome then some (updateProviderFromContent env p content starts w).2 else none
  | .fetch p response starts =>
    if (w.provider p).isSome then some (fetchOnce env p response starts w).2 else none

def groupsUpdate (env : Env δ) (p : String) (starts : ℕ → StartMethod) (w : World δ)
    (final : List (Options δ)) : World δ × Option String :=
  updateGroups p
    (installed p (startOutbounds p (made env starts w final) w) (created env p starts w final))

def Lossless (env : Env δ) (p : String) (starts : ℕ → StartMethod) (w : World δ) (content : String) :
    Prop :=
  ∀ final, Installs env p starts w content final →
    ¬ StartFails (made env starts w final) ∧ (groupsUpdate env p starts w final).2 = none ∧
      ∀ out ∈ w.outbounds p, out.start = .absent

def LosslessAttempt (env : Env δ) (w : World δ) : Attempt → Prop
  | .content p content starts => Lossless env p starts w content
  | .fetch p response starts =>
    ∀ content, response.content env = some content → Lossless env p starts w content

structure Accounted (w : World δ) : Prop where
  tags : (w.net.providers.map tag).Nodup
  disjoint : ∀ q ∈ w.net.providers, ∀ q' ∈ w.net.providers, q.tag ≠ q'.tag →
    ∀ out ∈ q.outbounds, ∀ out' ∈ q'.outbounds, out.id ≠ out'.id
  numbered : ∀ out, w.Lists out → out.id < w.nextId
  logged : ∀ e ∈ w.log, e.id < w.nextId
  started : ∀ out, w.Lists out →
    ((∃ ok, start out.id ok ∈ w.log) ↔ out.start ≠ .absent)
  unclosed : ∀ out, w.Lists out → ∀ listed, close out.id listed ∉ w.log

structure Ready (w : World δ) : Prop extends Accounted w where
  onlyStarts : ∀ e ∈ w.log, ∃ out, w.Lists out ∧ e = .start out.id true

structure Kept (w : World δ) : Prop where
  listed : ∀ id ok, start id ok ∈ w.log →
    (∃ out, w.Lists out ∧ out.id = id) ∨ ∃ listed, close id listed ∈ w.log
  unlisted : ∀ id, close id true ∉ w.log

section Lists

variable {p : String} {w w' : World δ}
  {id : ℕ}

omit [DecidableEq δ] in
lemma mem_boxClose_start {ok : Bool} :
    start id ok ∈ (boxClose w).log ↔ start id ok ∈ w.log := by
  simp [boxClose]

omit [DecidableEq δ] in
lemma mem_boxClose_close : (∃ listed, close id listed ∈ (boxClose w).log) ↔
      (∃ out, w.Lists out ∧ out.id = id) ∨ ∃ listed, close id listed ∈ w.log := by
  constructor
  · rintro ⟨listed, h⟩
    rcases mem_append.1 h with h | h
    · exact .inr ⟨listed, h⟩
    · obtain ⟨q, hq, hout⟩ := mem_flatMap.1 h
      obtain ⟨out, hmem, heq⟩ := mem_map.1 hout
      cases heq
      exact .inl ⟨out, ⟨q, hq, hmem⟩, rfl⟩
  · rintro (⟨out, ⟨q, hq, hmem⟩, rfl⟩ | ⟨listed, h⟩)
    · exact ⟨true, mem_append_right _
        (mem_flatMap.2 ⟨q, hq, mem_map.2 ⟨out, hmem, rfl⟩⟩)⟩
    · exact ⟨listed, mem_append_left _ h⟩

omit [DecidableEq δ] in
lemma closedProperly_iff : ClosedProperly w ↔ Kept w := by
  constructor
  · rintro ⟨hclosed, hunlisted⟩
    exact ⟨fun id ok h => mem_boxClose_close.1 (hclosed id ok (mem_boxClose_start.2 h)), hunlisted⟩
  · rintro ⟨hlisted, hunlisted⟩
    exact ⟨fun id ok h => mem_boxClose_close.2 (hlisted id ok (mem_boxClose_start.1 h)), hunlisted⟩

omit [DecidableEq δ] in
lemma Ready.kept (h : Ready w) : Kept w := by
  constructor
  · intro id ok hmem
    obtain ⟨out, hout, heq⟩ := h.onlyStarts _ hmem
    cases heq
    exact .inl ⟨out, hout, rfl⟩
  · intro id hmem
    obtain ⟨out, -, heq⟩ := h.onlyStarts _ hmem
    cases heq

omit [DecidableEq δ] in
lemma provider_of_mem (htags : (w.net.providers.map tag).Nodup)
    {q : Startup.Provider} (hq : q ∈ w.net.providers) : w.provider q.tag = some q :=
  find?_of_nodup tag htags hq

omit [DecidableEq δ] in
lemma lists_iff (htags : (w.net.providers.map tag).Nodup) {out : Outbound} :
    w.Lists out ↔ out ∈ w.outbounds p ∨ w.ListsElsewhere p out := by
  constructor
  · rintro ⟨q, hq, hout⟩
    by_cases hp : q.tag = p
    · left
      rw [World.outbounds, ← hp, provider_of_mem htags hq]
      exact hout
    · exact .inr ⟨q, hq, hp, hout⟩
  · rintro (hout | ⟨q, hq, -, hout⟩)
    · rw [World.outbounds] at hout
      cases hq : w.provider p with
      | none =>
        rw [hq] at hout
        exact absurd hout not_mem_nil
      | some q =>
        rw [hq] at hout
        exact ⟨q, mem_of_find?_eq_some hq, hout⟩
    · exact ⟨q, hq, hout⟩

omit [DecidableEq δ] in
lemma setLists_restore (htags : (w.net.providers.map tag).Nodup)
    (outbounds : List Outbound) (byTag : String → Option Outbound)
    (hw' : w'.net.providers = (w.setLists p outbounds byTag).net.providers) :
    (w'.setLists p (w.outbounds p) (w.outboundByTag p)).net.providers = w.net.providers := by
  change w'.net.providers.map _ = _
  rw [hw']
  change (w.net.providers.map _).map _ = _
  rw [map_map]
  refine (map_congr_left fun q hq => ?_).trans (map_id _)
  rw [Function.comp_apply]
  by_cases hp : q.tag = p
  · have hprovider : w.provider p = some q := hp ▸ provider_of_mem htags hq
    rw [if_pos hp, if_pos hp, World.outbounds, World.outboundByTag, hprovider]
    rfl
  · rw [if_neg hp, if_neg hp]
    rfl

end Lists

variable {pTag : String} {outs : List Outbound}

lemma startEach_start {i : ℕ} {used : List String} (hnodup : (outs.map Outbound.id).Nodup)
    (hok : (startEach pTag i used outs).err = none) :
    ∀ out ∈ (startEach pTag i used outs).outbounds,
      ((∃ ok, start out.id ok ∈ (startEach pTag i used outs).log) ↔ out.start ≠ .absent) := by
  induction outs generalizing i used with
  | nil => exact fun out hout => absurd hout not_mem_nil
  | cons out rest ih =>
    rw [map_cons, nodup_cons] at hnodup
    have hfresh : ∀ i used, ∀ o ∈ (startEach pTag i used rest).outbounds, o.id ≠ out.id := by
      intro i used o ho heq
      apply hnodup.1
      rw [← heq, ← startEach_ids i used]
      exact mem_map_of_mem ho
    intro o ho
    rw [startEach] at hok ho ⊢
    simp only [ite_setTag_start, ite_setTag_id] at hok ho ⊢
    cases hout : out.start with
    | fails err => simp [hout] at hok
    | succeeds =>
      simp only [hout] at hok ho ⊢
      rcases mem_cons.1 ho with rfl | ho
      · rw [ite_setTag_id, ite_setTag_start, hout]
        exact iff_of_true ⟨true, mem_cons_self⟩ (by simp)
      · rw [← ih hnodup.2 hok o ho]
        have hne := hfresh _ _ o ho
        simp [hne]
    | absent =>
      simp only [hout] at hok ho ⊢
      rcases mem_cons.1 ho with rfl | ho
      · rw [ite_setTag_id, ite_setTag_start, hout]
        refine iff_of_false ?_ (by simp)
        rintro ⟨ok, hmem⟩
        obtain ⟨o, ho, _, heq⟩ := startEach_log _ _ _ hmem
        exact hfresh _ _ o ho (congrArg LogEntry.id heq).symm
      · exact ih hnodup.2 hok o ho

lemma startEach_failed (hfails : StartFails outs) (pTag : String) (i : ℕ) (used : List String) :
    ∃ id, start id false ∈ (startEach pTag i used outs).log := by
  induction outs generalizing i used with
  | nil => exact absurd hfails startFails_nil
  | cons out rest ih =>
    rw [startFails_cons] at hfails
    rw [startEach]
    simp only [ite_setTag_start]
    cases hout : out.start with
    | fails err => exact ⟨_, mem_singleton_self _⟩
    | succeeds =>
      obtain ⟨id, hid⟩ := ih (by simpa [hout] using hfails) _ _
      exact ⟨id, mem_cons_of_mem _ hid⟩
    | absent => exact ih (by simpa [hout] using hfails) _ _

variable {env : Env δ} {p content : String} {starts : ℕ → StartMethod} {w w' : World δ}
  {final : List (Options δ)}

omit [DecidableEq δ] in
lemma started_ids :
    ∀ out ∈ (startOutbounds p (made env starts w final) w).outbounds,
      w.nextId ≤ out.id ∧ out.id < (created env p starts w final).nextId := by
  intro out hout
  have hmem : out.id ∈ (made env starts w final).map Outbound.id := by
    rw [← startEach_ids 0 (usedTags p w)]
    exact mem_map_of_mem hout
  rw [made, map_map] at hmem
  obtain ⟨x, hx, hid⟩ := mem_map.1 hmem
  have := constructEach_ids env starts w.nextId final x hx
  rw [← hid]
  exact this

omit [DecidableEq δ] in
lemma started_log :
    ∀ e ∈ (startOutbounds p (made env starts w final) w).log,
      w.nextId ≤ e.id ∧ e.id < (created env p starts w final).nextId := by
  intro e he
  obtain ⟨out, hout, ok, rfl⟩ := startEach_log _ _ e he
  exact started_ids out hout

omit [DecidableEq δ] in
lemma Accounted.append (h : Accounted w) (entries : List LogEntry)
    (hproviders : w'.net.providers = w.net.providers) (hnext : w.nextId ≤ w'.nextId)
    (hlog : w'.log = w.log ++ entries) (hentries : ∀ e ∈ entries, w.nextId ≤ e.id ∧ e.id < w'.nextId) :
    Accounted w' := by
  have hlists : ∀ out, w'.Lists out ↔ w.Lists out := by
    intro out
    rw [World.Lists, World.Lists, hproviders]
  have hold : ∀ out, w.Lists out → ∀ e ∈ entries, e.id ≠ out.id := by
    intro out hout e he heq
    have := h.numbered out hout
    have := (hentries e he).1
    omega
  refine ⟨hproviders ▸ h.tags, hproviders ▸ h.disjoint, ?_, ?_, ?_, ?_⟩
  · intro out hout
    exact Nat.lt_of_lt_of_le (h.numbered out ((hlists out).1 hout)) hnext
  · intro e he
    rw [hlog] at he
    rcases mem_append.1 he with he | he
    · exact Nat.lt_of_lt_of_le (h.logged e he) hnext
    · exact (hentries e he).2
  · intro out hout
    rw [hlists] at hout
    rw [← h.started out hout, hlog]
    constructor
    · rintro ⟨ok, hok⟩
      rcases mem_append.1 hok with hok | hok
      · exact ⟨ok, hok⟩
      · exact absurd rfl (hold out hout _ hok)
    · rintro ⟨ok, hok⟩
      exact ⟨ok, mem_append_left _ hok⟩
  · intro out hout listed hmem
    rw [hlists] at hout
    rw [hlog] at hmem
    rcases mem_append.1 hmem with hmem | hmem
    · exact h.unclosed out hout listed hmem
    · exact hold out hout _ hmem rfl

structure Replaces (p : String) (w w' : World δ) (outs : List Outbound) (entries : List LogEntry) :
    Prop where
  providers : w'.net.providers = (w.setLists p outs (fill Outbound.tag outs)).net.providers
  log : w'.log = w.log ++ entries
  nextId : w.nextId ≤ w'.nextId
  ids : ∀ out ∈ outs, w.nextId ≤ out.id ∧ out.id < w'.nextId
  onlyStarts : ∀ e ∈ entries, ∃ out ∈ outs, ∃ ok, e = .start out.id ok
  started : ∀ out ∈ outs, ((∃ ok, start out.id ok ∈ entries) ↔ out.start ≠ .absent)

variable {byTag : String → Option Outbound}

omit [DecidableEq δ] in
lemma mem_setLists {q : Startup.Provider} (hq : q ∈ (w.setLists p outs byTag).net.providers) :
    q.tag = p ∧ q.outbounds = outs ∨ q.tag ≠ p ∧ q ∈ w.net.providers := by
  obtain ⟨q₀, hq₀, rfl⟩ := mem_map.1 hq
  split_ifs with h
  · exact .inl ⟨h, rfl⟩
  · exact .inr ⟨h, hq₀⟩

variable {out : Outbound}

omit [DecidableEq δ] in
lemma lists_setLists (hp : (w.provider p).isSome) :
    (w.setLists p outs byTag).Lists out ↔ out ∈ outs ∨ w.ListsElsewhere p out := by
  constructor
  · rintro ⟨q, hq, hout⟩
    rcases mem_setLists hq with ⟨-, houts⟩ | ⟨htag, hq⟩
    · exact .inl (houts ▸ hout)
    · exact .inr ⟨q, hq, htag, hout⟩
  · rintro (hout | ⟨q, hq, htag, hout⟩)
    · obtain ⟨q, hq⟩ := Option.isSome_iff_exists.1 hp
      have htag : q.tag = p := by simpa using find?_some hq
      refine ⟨_, mem_map_of_mem (mem_of_find?_eq_some hq), ?_⟩
      rw [if_pos htag]
      exact hout
    · refine ⟨_, mem_map_of_mem hq, ?_⟩
      rw [if_neg htag]
      exact hout

variable {entries : List LogEntry}

omit [DecidableEq δ] in
lemma Replaces.lists (hr : Replaces p w w' outs entries) (hp : (w.provider p).isSome) :
    w'.Lists out ↔ out ∈ outs ∨ w.ListsElsewhere p out := by
  rw [← lists_setLists hp, World.Lists, World.Lists, hr.providers]

omit [DecidableEq δ] in
lemma ListsElsewhere.lists (h : w.ListsElsewhere p out) : w.Lists out := by
  obtain ⟨q, hq, -, hout⟩ := h
  exact ⟨q, hq, hout⟩

omit [DecidableEq δ] in
lemma Accounted.replace (h : Accounted w) (hp : (w.provider p).isSome)
    (hr : Replaces p w w' outs entries) : Accounted w' := by
  have hlog : ∀ e ∈ w'.log, e ∈ w.log ∨ e ∈ entries := by
    intro e he
    rw [hr.log] at he
    exact mem_append.1 he
  have hnew : ∀ e ∈ entries, w.nextId ≤ e.id ∧ e.id < w'.nextId := by
    intro e he
    obtain ⟨out, hout, ok, rfl⟩ := hr.onlyStarts e he
    exact hr.ids out hout
  have hcross : ∀ q ∈ w.net.providers, ∀ out ∈ outs, ∀ out' ∈ q.outbounds, out.id ≠ out'.id := by
    intro q hq out hout out' hout' heq
    have := (hr.ids out hout).1
    have := h.numbered out' ⟨q, hq, hout'⟩
    omega
  refine ⟨?_, ?_, ?_, ?_, ?_, ?_⟩
  · rw [hr.providers]
    have htags : (w.setLists p outs (fill Outbound.tag outs)).net.providers.map tag =
        w.net.providers.map tag := by
      change (w.net.providers.map _).map _ = _
      rw [map_map]
      refine map_congr_left fun q _ => ?_
      rw [Function.comp_apply]
      split_ifs <;> rfl
    rw [htags]
    exact h.tags
  · intro q hq q' hq' htag
    rw [hr.providers] at hq hq'
    rcases mem_setLists hq with ⟨hq, houts⟩ | ⟨hne, hq⟩ <;>
      rcases mem_setLists hq' with ⟨hq', houts'⟩ | ⟨hne', hq'⟩
    · exact absurd (hq.trans hq'.symm) htag
    · rw [houts]
      exact hcross q' hq'
    · rw [houts']
      exact fun out hout out' hout' => (hcross q hq out' hout' out hout).symm
    · exact h.disjoint q hq q' hq' htag
  · intro out hout
    rcases (hr.lists hp).1 hout with hout | hout
    · exact (hr.ids out hout).2
    · exact Nat.lt_of_lt_of_le (h.numbered out (ListsElsewhere.lists hout)) hr.nextId
  · intro e he
    rcases hlog e he with he | he
    · exact Nat.lt_of_lt_of_le (h.logged e he) hr.nextId
    · exact (hnew e he).2
  · intro out hout
    rcases (hr.lists hp).1 hout with hout | hout
    · rw [← hr.started out hout]
      constructor
      · rintro ⟨ok, hok⟩
        rcases hlog _ hok with hok | hok
        · have := h.logged _ hok
          have := (hr.ids out hout).1
          simp only [LogEntry.id] at *
          omega
        · exact ⟨ok, hok⟩
      · rintro ⟨ok, hok⟩
        exact ⟨ok, hr.log ▸ mem_append_right _ hok⟩
    · have hlists := ListsElsewhere.lists hout
      rw [← h.started out hlists]
      constructor
      · rintro ⟨ok, hok⟩
        rcases hlog _ hok with hok | hok
        · exact ⟨ok, hok⟩
        · have := (hnew _ hok).1
          have := h.numbered out hlists
          simp only [LogEntry.id] at *
          omega
      · rintro ⟨ok, hok⟩
        exact ⟨ok, hr.log ▸ mem_append_left _ hok⟩
  · intro out hout listed hmem
    rcases hlog _ hmem with hmem | hmem
    · rcases (hr.lists hp).1 hout with hout | hout
      · have := h.logged _ hmem
        have := (hr.ids out hout).1
        simp only [LogEntry.id] at *
        omega
      · exact h.unclosed out (ListsElsewhere.lists hout) listed hmem
    · obtain ⟨_, _, _, heq⟩ := hr.onlyStarts _ hmem
      cases heq

omit [DecidableEq δ] in
lemma Kept.replace_iff (h : Accounted w) (hp : (w.provider p).isSome)
    (hr : Replaces p w w' outs entries) :
    Kept w' ↔ Kept w ∧ ∀ out ∈ w.outbounds p, out.start = .absent := by
  have hclose : ∀ id listed, close id listed ∈ w'.log ↔ close id listed ∈ w.log := by
    intro id listed
    rw [hr.log, mem_append, or_iff_left_iff_imp]
    intro hmem
    obtain ⟨_, _, _, heq⟩ := hr.onlyStarts _ hmem
    cases heq
  -- what was started before is listed by another provider or closed
  have hold : ∀ id ok, start id ok ∈ w.log → (∃ out, w'.Lists out ∧ out.id = id) →
      ∃ out, w.ListsElsewhere p out ∧ out.id = id := by
    rintro id ok hmem ⟨out, hout, rfl⟩
    rcases (hr.lists hp).1 hout with hout | hout
    · have := h.logged _ hmem
      have := (hr.ids out hout).1
      simp only [LogEntry.id] at *
      omega
    · exact ⟨out, hout, rfl⟩
  constructor
  · intro hk
    refine ⟨⟨fun id ok hmem => ?_, fun id => ?_⟩, fun out hout => ?_⟩
    · rcases hk.listed id ok (hr.log ▸ mem_append_left _ hmem) with hl | ⟨listed, hl⟩
      · obtain ⟨out, hout, hid⟩ := hold id ok hmem hl
        exact .inl ⟨out, ListsElsewhere.lists hout, hid⟩
      · exact .inr ⟨listed, (hclose id listed).1 hl⟩
    · rw [← hclose]
      exact hk.unlisted id
    · by_contra hne
      have hlists : w.Lists out := (lists_iff h.tags).2 (.inl hout)
      obtain ⟨ok, hmem⟩ := (h.started out hlists).2 hne
      rcases hk.listed _ ok (hr.log ▸ mem_append_left _ hmem) with hl | ⟨listed, hl⟩
      · obtain ⟨out', ⟨q', hq', htag', hout'⟩, hid⟩ := hold _ ok hmem hl
        obtain ⟨q, hq⟩ := Option.isSome_iff_exists.1 hp
        rw [World.outbounds, hq] at hout
        have htag : q.tag = p := by simpa using find?_some hq
        exact h.disjoint q (mem_of_find?_eq_some hq) q' hq' (htag ▸ htag'.symm) out hout out' hout'
          hid.symm
      · exact h.unclosed out hlists listed ((hclose _ listed).1 hl)
  · rintro ⟨hk, habsent⟩
    refine ⟨fun id ok hmem => ?_, fun id => ?_⟩
    · rw [hr.log] at hmem
      rcases mem_append.1 hmem with hmem | hmem
      · rcases hk.listed id ok hmem with ⟨out, hout, rfl⟩ | ⟨listed, hl⟩
        · rcases (lists_iff h.tags).1 hout with hp' | hother
          · exact absurd (habsent out hp') ((h.started out hout).1 ⟨ok, hmem⟩)
          · exact .inl ⟨out, (hr.lists hp).2 (.inr hother), rfl⟩
        · exact .inr ⟨listed, (hclose id listed).2 hl⟩
      · obtain ⟨out, hout, _, heq⟩ := hr.onlyStarts _ hmem
        cases heq
        exact .inl ⟨out, (hr.lists hp).2 (.inl hout), rfl⟩
    · rw [hclose]
      exact hk.unlisted id

lemma lossless_of_none (h : ∀ final, ¬ Installs env p starts w content final) :
    Lossless env p starts w content :=
  fun final hfinal => absurd hfinal (h final)

lemma not_kept_of_startFailed (h : Accounted w) (hfails : StartFails (made env starts w final)) :
    ¬ Kept (logged (created env p starts w final)
      (startOutbounds p (made env starts w final) w).log) := by
  intro hk
  obtain ⟨id, hid⟩ := startEach_failed hfails p 0 (usedTags p w)
  have hnew := (started_log (p := p) _ hid).1
  rcases hk.listed id false (mem_append_right _ hid) with ⟨out, hout, rfl⟩ | ⟨listed, hmem⟩
  · have := h.numbered out hout
    simp only [LogEntry.id] at *
    omega
  · rcases mem_append.1 hmem with hmem | hmem
    · have := h.logged _ hmem
      simp only [LogEntry.id] at *
      omega
    · obtain ⟨_, _, _, heq⟩ := startEach_log _ _ _ hmem
      cases heq

variable {started : StartRun} {updated : World δ}

omit [DecidableEq δ] in
lemma not_kept_of_groupFailed (hp : (w.provider p).isSome) {err : String}
    (hmade : made env starts w final ≠ [])
    (hstarted : started = startOutbounds p (made env starts w final) w)
    (hupdated : updateGroups p (installed p started (created env p starts w final)) =
      (updated, some err)) (outs : List Outbound) (byTag : String → Option Outbound) :
    ¬ Kept ((closeOutbounds p started.outbounds updated).setLists p outs byTag) := by
  intro hk
  have houts := (updateGroups_installed hp hupdated).1
  have hne : started.outbounds ≠ [] := by
    intro hnil
    rw [hstarted, startOutbounds] at hnil
    apply hmade
    rw [← map_eq_nil_iff, ← startEach_ids 0 (usedTags p w), hnil, map_nil]
  obtain ⟨out, rest, hcons⟩ := exists_cons_of_ne_nil hne
  apply hk.unlisted out.id
  refine mem_append_right _ (mem_map.2 ⟨out, hcons ▸ mem_cons_self, ?_⟩)
  rw [houts, hcons]
  simp

omit [DecidableEq δ] in
lemma replaces_of_installed (hstarted : started = startOutbounds p (made env starts w final) w)
    (hok : started.err = none)
    (hupdated : updateGroups p (installed p started (created env p starts w final)) =
      (updated, none)) : Replaces p w updated started.outbounds started.log := by
  obtain ⟨net, hnet, hproviders⟩ :=
    updateGroups_eq p (installed p started (created env p starts w final))
  rw [hupdated] at hnet
  have hnodup : ((made env starts w final).map Outbound.id).Nodup := by
    rw [made, map_map]
    exact constructEach_nodup env starts w.nextId final
  refine ⟨?_, ?_, ?_, ?_, ?_, ?_⟩
  · exact (congrArg (fun w => w.net.providers) hnet).trans hproviders
  · exact congrArg World.log hnet
  · rw [(congrArg World.nextId hnet : updated.nextId = _)]
    exact Nat.le_add_right _ _
  · rw [(congrArg World.nextId hnet : updated.nextId = _), hstarted]
    exact started_ids
  · rw [hstarted]
    exact startEach_log _ _
  · rw [hstarted] at hok ⊢
    exact startEach_start hnodup hok

lemma update_accounted (env : Env δ) (content : String) (starts : ℕ → StartMethod) (h : Accounted w)
    (hp : (w.provider p).isSome) :
    Accounted (updateProviderFromContent env p content starts w).2 ∧
      (Kept (updateProviderFromContent env p content starts w).2 ↔
        Kept w ∧ Lossless env p starts w content) := by
  generalize hresult : updateProviderFromContent env p content starts w = result
  obtain ⟨result, w'⟩ := result
  dsimp only
  cases outcome_of_eq env p content starts w hresult with
  | unparsed hparse =>
    refine ⟨h, (and_iff_left (lossless_of_none ?_)).symm⟩
    rintro final ⟨⟨_, hok, _⟩, -⟩
    rw [hparse] at hok
    cases hok
  | same hfinal hcheck =>
    refine ⟨h, (and_iff_left (lossless_of_none ?_)).symm⟩
    rintro final ⟨hfinal', hcheck', -⟩
    rw [hfinal'.unique hfinal, hcheck] at hcheck'
    cases hcheck'
  | @empty final hfinal hcheck hmade =>
    refine ⟨h.append [] rfl (Nat.le_add_right _ _) (append_nil _).symm (by simp), ?_⟩
    have hkept : Kept (created env p starts w final) ↔ Kept w :=
      ⟨fun ⟨h₁, h₂⟩ => ⟨h₁, h₂⟩, fun ⟨h₁, h₂⟩ => ⟨h₁, h₂⟩⟩
    rw [hkept]
    refine (and_iff_left (lossless_of_none ?_)).symm
    rintro final' ⟨hfinal', -, hmade'⟩
    rw [hfinal'.unique hfinal] at hmade'
    exact hmade' hmade
  | @startFailed final _ err hfinal hcheck hmade hstarted herr =>
    have hfails : StartFails (made env starts w final) := by
      rw [← startEach_err_iff, Option.ne_none_iff_exists']
      exact ⟨err, hstarted ▸ herr⟩
    rw [hstarted]
    refine ⟨h.append _ rfl (Nat.le_add_right _ _) rfl started_log, iff_of_false ?_ ?_⟩
    · exact not_kept_of_startFailed h hfails
    · exact fun hl => (hl.2 final ⟨hfinal, hcheck, hmade⟩).1 hfails
  | @groupFailed final started updated err hfinal hcheck hmade hstarted hok hupdated =>
    have hgroups : (groupsUpdate env p starts w final).2 = some err := by
      rw [groupsUpdate, ← hstarted, hupdated]
    obtain ⟨net, hnet, hproviders⟩ :=
      updateGroups_eq p (installed p started (created env p starts w final))
    rw [hupdated] at hnet
    refine ⟨?_, iff_of_false (not_kept_of_groupFailed hp hmade hstarted hupdated _ _) ?_⟩
    · have hlists : updated.net.providers =
          (w.setLists p started.outbounds (fill Outbound.tag started.outbounds)).net.providers :=
        (congrArg (fun w => w.net.providers) hnet).trans hproviders
      have hnext : updated.nextId = (created env p starts w final).nextId :=
        (congrArg World.nextId hnet).trans rfl
      have hlog : updated.log = w.log ++ started.log := congrArg World.log hnet
      refine h.append (started.log ++ started.outbounds.map fun out =>
        .close out.id ((updated.outbounds p).any fun o => o.id == out.id))
        (setLists_restore h.tags _ _ hlists) ?_ ?_ ?_
      · change w.nextId ≤ updated.nextId
        rw [hnext]
        exact Nat.le_add_right _ _
      · change updated.log ++ _ = _
        rw [hlog, append_assoc]
      · intro e he
        change w.nextId ≤ e.id ∧ e.id < updated.nextId
        rw [hnext]
        rw [hstarted] at he
        rcases mem_append.1 he with he | he
        · exact started_log e he
        · obtain ⟨out, hout, rfl⟩ := mem_map.1 he
          exact started_ids out hout
    · intro hl
      have := (hl.2 final ⟨hfinal, hcheck, hmade⟩).2.1
      rw [hgroups] at this
      cases this
  | @installed final started _ hfinal hcheck hmade hstarted hok hupdated =>
    have hr := replaces_of_installed hstarted hok hupdated
    refine ⟨h.replace hp hr, ?_⟩
    rw [Kept.replace_iff h hp hr]
    refine and_congr_right fun _ => ⟨fun habsent final' hfinal' => ⟨?_, ?_, habsent⟩, fun hl => ?_⟩
    · obtain rfl := hfinal'.1.unique hfinal
      rw [← startEach_err_iff, not_not]
      exact hstarted ▸ hok
    · obtain rfl := hfinal'.1.unique hfinal
      rw [groupsUpdate, ← hstarted, hupdated]
    · exact (hl final ⟨hfinal, hcheck, hmade⟩).2.2

omit [DecidableEq δ] in
lemma Accounted.withEtag (h : Accounted w) (p etag : String) : Accounted (w.withEtag p etag) := by
  rw [World.withEtag]
  split_ifs
  · exact h
  · exact ⟨h.tags, h.disjoint, h.numbered, h.logged, h.started, h.unclosed⟩

omit [DecidableEq δ] in
lemma kept_withEtag (p etag : String) : Kept (w.withEtag p etag) ↔ Kept w := by
  rw [World.withEtag]
  split_ifs
  · rfl
  · exact ⟨fun h => ⟨h.listed, h.unlisted⟩, fun h => ⟨h.listed, h.unlisted⟩⟩

lemma lossless_withEtag (p etag content : String) (starts : ℕ → StartMethod) :
    Lossless env p starts (w.withEtag p etag) content ↔ Lossless env p starts w content := by
  rw [World.withEtag]
  split_ifs
  · rfl
  · rfl

lemma fetchOnce_cases (env : Env δ) (w : World δ) (p : String) (response : Response)
    (starts : ℕ → StartMethod) :
    response.content env = none ∧ (fetchOnce env p response starts w).2 = w ∨
      ∃ content etag, response.content env = some content ∧
        (fetchOnce env p response starts w).2 =
          (updateProviderFromContent env p content starts (w.withEtag p etag)).2 := by
  cases response with
  | body etag subInfo raw =>
    by_cases hraw : raw = ""
    · left
      rw [Response.content, fetchOnce, if_pos hraw, if_pos hraw]
      exact ⟨rfl, rfl⟩
    · right
      refine ⟨strippedContent env subInfo raw, etag, if_neg hraw, ?_⟩
      rw [fetchOnce_body env p starts w hraw]
      split <;> simp_all
  | failed => exact .inl ⟨rfl, rfl⟩
  | notModified => exact .inl ⟨rfl, rfl⟩
  | unexpected => exact .inl ⟨rfl, rfl⟩
  | unreadable => exact .inl ⟨rfl, rfl⟩

lemma attempt_accounted {a : Attempt} (h : Accounted w) (hstep : attempt env w a = some w') :
    Accounted w' ∧ (Kept w' ↔ Kept w ∧ LosslessAttempt env w a) := by
  cases a with
  | content p content starts =>
    rw [attempt] at hstep
    split_ifs at hstep with hp
    cases hstep
    exact update_accounted env content starts h hp
  | fetch p response starts =>
    rw [attempt] at hstep
    split_ifs at hstep with hp
    cases hstep
    rcases fetchOnce_cases env w p response starts with ⟨hnone, heq⟩ | ⟨content, etag, hsome, heq⟩
    · rw [heq]
      refine ⟨h, (and_iff_left fun content hcontent => ?_).symm⟩
      rw [hnone] at hcontent
      cases hcontent
    · have hp' : ((w.withEtag p etag).provider p).isSome := by
        rw [World.withEtag]
        split_ifs
        · exact hp
        · exact hp
      obtain ⟨hacc, hkept⟩ := update_accounted env content starts (h.withEtag p etag) hp'
      rw [heq]
      refine ⟨hacc, ?_⟩
      rw [hkept, kept_withEtag, lossless_withEtag, LosslessAttempt]
      simp only [hsome, Option.some.injEq, forall_eq']

def tagOnly : Env Unit := .plain (fun _ content => .ok [entry .wireGuard content]) fun _ => some [.tcp]

lemma ready_idleWorld : Ready idleWorld := by
  have hnone : ∀ out, ¬ idleWorld.Lists out := by
    rintro out ⟨q, hq, hout⟩
    rw [mem_singleton.1 hq] at hout
    exact absurd hout not_mem_nil
  refine ⟨⟨nodup_singleton _, ?_, ?_, ?_, ?_, ?_⟩, ?_⟩
  · intro q hq q' hq' htag
    rw [mem_singleton.1 hq, mem_singleton.1 hq'] at htag
    exact absurd rfl htag
  · exact fun out hout => absurd hout (hnone out)
  · exact fun e he => absurd he not_mem_nil
  · exact fun out hout => absurd hout (hnone out)
  · exact fun out hout => absurd hout (hnone out)
  · exact fun e he => absurd he not_mem_nil

end SingBox.Provider
