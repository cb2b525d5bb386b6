import Mathlib.Data.List.Perm.Subperm
import Mathlib.Data.Nat.Basic
import SingBox.Box.ProviderTags
import SingBox.Lib.Loops
import SingBox.Provider.Atomicity

namespace SingBox.Provider

open Adapter Groups Lib.Loops Lib.Table Startup List

variable {used earlier : List String} {tag wanted : String}

def renameTurn (used : List String) (tag : String) (i : ℕ) : Turn ℕ String :=
  if used.contains (numbered tag i) then .again (i + 1) else .leave i (numbered tag i)

lemma numbered_injective (tag : String) : Function.Injective (numbered tag) := by
  intro i j h
  rw [numbered, numbered, String.append_left_inj, String.append_right_inj] at h
  have hdigits : Nat.toDigits 10 i = Nat.toDigits 10 j := by
    simpa [Nat.toString_eq_repr] using congrArg String.toList h
  simpa [Nat.ofDigitChars_toDigits] using congrArg (Nat.ofDigitChars 10 · 0) hdigits

lemma numbered_ne (tag : String) (i : ℕ) : numbered tag i ≠ "" := by
  rw [numbered, Ne, String.append_eq_empty_iff]
  simp

def IsFirstFree (used : List String) (tag : String) (k : ℕ) : Prop :=
  numbered tag (k + 1) ∉ used ∧ ∀ l < k, numbered tag (l + 1) ∈ used

lemma exists_free (used : List String) (tag : String) :
    ∃ k ∈ range (used.length + 1), numbered tag (k + 1) ∉ used := by
  by_contra! hall
  have hinj : Function.Injective fun k => numbered tag (k + 1) :=
    (numbered_injective tag).comp Nat.succ_injective
  have hnodup : ((range (used.length + 1)).map fun k => numbered tag (k + 1)).Nodup :=
    nodup_range.map hinj
  have hsubset : ((range (used.length + 1)).map fun k => numbered tag (k + 1)) ⊆ used := by
    intro s hs
    obtain ⟨k, hk, rfl⟩ := mem_map.1 hs
    exact hall k hk
  have hle := (hnodup.subperm hsubset).length_le
  rw [length_map, length_range] at hle
  omega

lemma freshTag_spec (used : List String) (tag : String) :
    ∃ k, IsFirstFree used tag k ∧ freshTag used tag = numbered tag (k + 1) := by
  unfold freshTag
  cases hfind : (range (used.length + 1)).find? fun i => !used.contains (numbered tag (i + 1)) with
  | none =>
    obtain ⟨k, hk, hfree⟩ := exists_free used tag
    have htaken := find?_eq_none.1 hfind k hk
    simp [hfree] at htaken
  | some k =>
    obtain ⟨hfree, -, hbefore⟩ := find?_range_eq_some.1 hfind
    refine ⟨k, ⟨by simpa using hfree, fun l hl => ?_⟩, rfl⟩
    simpa using hbefore l hl

lemma freshTag_eq_of_isFirstFree {k : ℕ} (h : IsFirstFree used tag k) :
    freshTag used tag = numbered tag (k + 1) := by
  obtain ⟨k', h', heq⟩ := freshTag_spec used tag
  rcases Nat.lt_trichotomy k k' with hlt | rfl | hlt
  · exact absurd (h'.2 k hlt) h.1
  · exact heq
  · exact absurd (h.2 k' hlt) h'.1

lemma loop_renameTurn {k : ℕ} (h : IsFirstFree used tag k) (d : ℕ) :
    d ≤ k → loop (renameTurn used tag) (d + 1) (k - d + 1) = some (k + 1, numbered tag (k + 1)) := by
  induction d with
  | zero =>
    intro _
    simp [loop, renameTurn, h.1]
  | succ d ih =>
    intro hd
    have htaken : numbered tag (k - (d + 1) + 1) ∈ used := h.2 _ (by omega)
    have hturn : renameTurn used tag (k - (d + 1) + 1) = .again (k - d + 1) := by
      rw [renameTurn, if_pos (by simpa using htaken)]
      congr 1
      omega
    rw [loop, hturn]
    exact ih (by omega)

lemma renaming_ends (used : List String) (tag : String) :
    ∃ fuel i, loop (renameTurn used tag) fuel 1 = some (i, freshTag used tag) := by
  obtain ⟨k, hk, heq⟩ := freshTag_spec used tag
  have hloop := loop_renameTurn hk k le_rfl
  rw [Nat.sub_self, Nat.zero_add, ← heq] at hloop
  exact ⟨_, _, hloop⟩

def claim (used : List String) (wanted : String) : String :=
  if used.contains wanted then freshTag used wanted else wanted

lemma claim_of_mem (h : wanted ∈ used) : claim used wanted = freshTag used wanted :=
  if_pos (by simpa using h)

lemma claim_of_notMem (h : wanted ∉ used) : claim used wanted = wanted :=
  if_neg (by simpa using h)

lemma claim_notMem (used : List String) (wanted : String) : claim used wanted ∉ used := by
  by_cases h : wanted ∈ used
  · obtain ⟨k, hk, heq⟩ := freshTag_spec used wanted
    rw [claim_of_mem h, heq]
    exact hk.1
  · rw [claim_of_notMem h]
    exact h

lemma claim_ne (h : wanted ≠ "") : claim used wanted ≠ "" := by
  by_cases hmem : wanted ∈ used
  · obtain ⟨k, -, heq⟩ := freshTag_spec used wanted
    rw [claim_of_mem hmem, heq]
    exact numbered_ne wanted _
  · rw [claim_of_notMem hmem]
    exact h

def working (used : List String) : List String → List String
  | [] => used
  | wanted :: earlier => claim (working used earlier) wanted :: working used earlier

def Taken (used : List String) : List String → String → Prop
  | [], tag => tag ∈ used
  | wanted :: earlier, tag => Taken used earlier tag ∨ tag = wanted ∨
      Taken used earlier wanted ∧ ∃ k, tag = numbered wanted (k + 1) ∧
        ∀ l < k, Taken used earlier (numbered wanted (l + 1))

lemma taken_iff (used : List String) : Taken used earlier tag ↔ tag ∈ working used earlier := by
  induction earlier generalizing tag with
  | nil => rfl
  | cons wanted earlier ih =>
    simp only [Taken, working, mem_cons, ih]
    constructor
    · rintro (htag | rfl | ⟨hwanted, k, rfl, hsmaller⟩)
      · exact .inr htag
      · by_cases hmem : tag ∈ working used earlier
        · exact .inr hmem
        · exact .inl (claim_of_notMem hmem).symm
      · by_cases hmem : numbered wanted (k + 1) ∈ working used earlier
        · exact .inr hmem
        · rw [claim_of_mem hwanted, freshTag_eq_of_isFirstFree ⟨hmem, hsmaller⟩]
          exact .inl rfl
    · rintro (rfl | htag)
      · by_cases hmem : wanted ∈ working used earlier
        · obtain ⟨k, hk, heq⟩ := freshTag_spec (working used earlier) wanted
          exact .inr (.inr ⟨hmem, k, by rw [claim_of_mem hmem, heq], hk.2⟩)
        · exact .inr (.inl (claim_of_notMem hmem))
      · exact .inl htag

def claims (used : List String) : List String → List String → List String
  | _, [] => []
  | earlier, wanted :: rest => claim (working used earlier) wanted :: claims used (wanted :: earlier) rest

lemma claims_notMem {wants : List String} (h : tag ∈ claims used earlier wants) :
    tag ∉ working used earlier := by
  induction wants generalizing earlier with
  | nil => cases h
  | cons wanted wants ih =>
    rcases mem_cons.1 h with rfl | h
    · exact claim_notMem _ _
    · exact fun hmem => ih h (mem_cons_of_mem _ hmem)

lemma nodup_claims (used earlier wants : List String) : (claims used earlier wants).Nodup := by
  induction wants generalizing earlier with
  | nil => exact nodup_nil
  | cons wanted wants ih =>
    exact nodup_cons.2 ⟨fun h => claims_notMem h mem_cons_self, ih _⟩

lemma mem_working_reverse (used earlier wants : List String) :
    tag ∈ working used (wants.reverse ++ earlier) ↔
      tag ∈ claims used earlier wants ∨ tag ∈ working used earlier := by
  induction wants generalizing earlier with
  | nil => simp [claims]
  | cons wanted wants ih =>
    rw [reverse_cons, append_assoc, singleton_append, ih, claims, working,
      mem_cons, mem_cons, or_left_comm, or_assoc]

variable {p : String} {outs : List Outbound} {out : Outbound} {i j : ℕ}

def settle (used : List String) (wanted : String) (out : Outbound) : Outbound :=
  if used.contains wanted then out.setTag (claim used wanted) else out

def settled (p : String) (used : List String) : ℕ → List String → List Outbound → List Outbound
  | _, _, [] => []
  | i, earlier, out :: rest =>
    settle (working used earlier) (defaultTag p i out.tag) out ::
      settled p used (i + 1) (defaultTag p i out.tag :: earlier) rest

lemma startEach_outbounds (h : ¬ StartFails outs) :
    (startEach p i (working used earlier) outs).outbounds = settled p used i earlier outs := by
  induction outs generalizing i earlier with
  | nil => rfl
  | cons out rest ih =>
    rw [startFails_cons, not_or] at h
    have hrest : (startEach p (i + 1) (working used (defaultTag p i out.tag :: earlier)) rest).outbounds =
        settled p used (i + 1) (defaultTag p i out.tag :: earlier) rest := ih h.2
    rw [startEach, settled]
    simp only [ite_setTag_start]
    cases hout : out.start with
    | fails err => exact absurd ⟨err, hout⟩ h.1
    | succeeds => exact congrArg₂ List.cons rfl hrest
    | absent => exact congrArg₂ List.cons rfl hrest

lemma length_settled : (settled p used i earlier outs).length = outs.length := by
  induction outs generalizing i earlier with
  | nil => rfl
  | cons out rest ih => rw [settled, length_cons, length_cons, ih]

lemma settled_getElem? (h : outs[j]? = some out) :
    (settled p used i earlier outs)[j]? =
      some (settle (working used ((declaredTags p i (outs.take j)).reverse ++ earlier))
        (defaultTag p (i + j) out.tag) out) := by
  induction outs generalizing i earlier j with
  | nil => cases h
  | cons o rest ih =>
    cases j with
    | zero =>
      cases h
      rfl
    | succ j =>
      rw [getElem?_cons_succ] at h
      rw [settled, getElem?_cons_succ, ih h, take_succ_cons, declaredTags, reverse_cons,
        append_assoc, singleton_append, Nat.add_right_comm, Nat.add_assoc i j 1]

lemma settle_tag_of_mem (h : wanted ∈ used) : (settle used wanted out).tag = claim used wanted := by
  rw [settle, if_pos (by simpa using h), Outbound.setTag_tag]

lemma settle_of_notMem (h : wanted ∉ used) : settle used wanted out = out :=
  if_neg (by simpa using h)

lemma settle_tag_ne_iff :
    (settle used (defaultTag p i out.tag) out).tag ≠ "" ↔
      (out.tag = "" → defaultTag p i out.tag ∈ used) := by
  by_cases h : defaultTag p i out.tag ∈ used
  · rw [settle_tag_of_mem h]
    exact iff_of_true (claim_ne (defaultTag_ne p i out.tag)) fun _ => h
  · rw [settle_of_notMem h]
    exact ⟨fun hne hempty => absurd hempty hne, fun himp hempty => h (himp hempty)⟩

lemma settle_tag (h : (settle used (defaultTag p i out.tag) out).tag ≠ "") :
    (settle used (defaultTag p i out.tag) out).tag = claim used (defaultTag p i out.tag) := by
  by_cases hmem : defaultTag p i out.tag ∈ used
  · exact settle_tag_of_mem hmem
  · rw [settle_of_notMem hmem] at h ⊢
    rw [claim_of_notMem hmem, defaultTag, if_neg h]

lemma settled_tags (h : ∀ o ∈ settled p used i earlier outs, o.tag ≠ "") :
    (settled p used i earlier outs).map Outbound.tag = claims used earlier (declaredTags p i outs) := by
  induction outs generalizing i earlier with
  | nil => rfl
  | cons out rest ih =>
    rw [settled, forall_mem_cons] at h
    rw [settled, map_cons, declaredTags, claims, settle_tag h.1, ih h.2]

lemma settle_tag_eq_iff (hne : out.tag ≠ "") :
    (settle used (defaultTag p i out.tag) out).tag = out.tag ↔ out.tag ∉ used := by
  have hwanted : defaultTag p i out.tag = out.tag := if_neg hne
  rw [hwanted]
  by_cases h : out.tag ∈ used
  · rw [settle_tag_of_mem h]
    refine iff_of_false (fun heq => claim_notMem used out.tag ?_) (not_not.2 h)
    rw [heq]
    exact h
  · rw [settle_of_notMem h]
    exact iff_of_true rfl h

variable {δ : Type} {w : World δ}

def existingTags (p : String) (w : World δ) : List String :=
  w.static.map Outbound.tag ++
    (w.net.providers.filter fun q => q.tag != p).flatMap fun q => q.outbounds.map Outbound.tag

def UniqueTag (p : String) (outs : List Outbound) (w : World δ) (out : Outbound) : Prop :=
  out.tag ≠ "" ∧ out.tag ∉ existingTags p w ∧ (outs.map Outbound.tag).count out.tag = 1

structure GoodTags (p : String) (outs outs' : List Outbound) (w : World δ) : Prop where
  nonempty : ∀ o ∈ outs', o.tag ≠ ""
  distinct : (outs'.map Outbound.tag).Nodup
  disjoint : ∀ o ∈ outs', o.tag ∉ existingTags p w
  keeps : ∀ (i : ℕ) (out : Outbound), outs[i]? = some out → UniqueTag p outs w out →
    (outs'[i]?).map Outbound.tag = some out.tag
  outboundByTag : ∀ o ∈ outs', fill Outbound.tag outs' o.tag = some o

structure TagsOfUpdate (p : String) (outs : List Outbound) (w : World δ) : Prop where
  ends : ∀ used tag, ∃ fuel i, loop (renameTurn used tag) fuel 1 = some (i, freshTag used tag)
  good : (startOutbounds p outs w).err = none → GoodTags p outs (startOutbounds p outs w).outbounds w

def TakenAt (p : String) (outs : List Outbound) (w : World δ) (i : ℕ) (tag : String) : Prop :=
  Taken (usedTags p w) (declaredTags p 0 (outs.take i)).reverse tag

structure Unimpeded (p : String) (outs : List Outbound) (w : World δ) : Prop where
  named : ∀ (i : ℕ) (out : Outbound), outs[i]? = some out → out.tag = "" → TakenAt p outs w i (defaultTag p i "")
  free : ∀ (i : ℕ) (out : Outbound), outs[i]? = some out → UniqueTag p outs w out → ¬ TakenAt p outs w i out.tag
  seen : ∀ tag ∈ existingTags p w, TakenAt p outs w outs.length tag → tag ∈ usedTags p w

abbrev final (p : String) (outs : List Outbound) (w : World δ) : List Outbound :=
  settled p (usedTags p w) 0 [] outs

lemma final_getElem? (h : outs[i]? = some out) :
    (final p outs w)[i]? = some (settle (working (usedTags p w) (declaredTags p 0 (outs.take i)).reverse)
      (defaultTag p i out.tag) out) := by
  rw [final, settled_getElem? h, append_nil, Nat.zero_add]

lemma nonempty_iff_named : (∀ o ∈ final p outs w, o.tag ≠ "") ↔
    ∀ (i : ℕ) (out : Outbound), outs[i]? = some out → out.tag = "" → TakenAt p outs w i (defaultTag p i "") := by
  constructor
  · intro h i out hout hempty
    have hne := h _ (mem_of_getElem? (final_getElem? hout))
    have hmem := settle_tag_ne_iff.1 hne hempty
    rw [hempty] at hmem
    exact (taken_iff _).2 hmem
  · intro h o ho
    obtain ⟨i, hi⟩ := mem_iff_getElem?.1 ho
    have hlt : i < outs.length := by
      rw [← length_settled]
      exact (List.getElem?_eq_some_iff.1 hi).1
    have hout := getElem?_eq_getElem hlt
    rw [final_getElem? hout, Option.some.injEq] at hi
    rw [← hi, settle_tag_ne_iff]
    intro hempty
    have htaken := h i _ hout hempty
    rw [← hempty] at htaken
    exact (taken_iff _).1 htaken

lemma takenAt_length_iff : TakenAt p outs w outs.length tag ↔
    tag ∈ claims (usedTags p w) [] (declaredTags p 0 outs) ∨ tag ∈ usedTags p w := by
  rw [TakenAt, taken_iff, take_length, ← append_nil (reverse _), mem_working_reverse]
  rfl

lemma goodTags_iff : GoodTags p outs (final p outs w) w ↔ Unimpeded p outs w := by
  constructor
  · intro h
    have htags := settled_tags h.nonempty
    refine ⟨nonempty_iff_named.1 h.nonempty, ?_, ?_⟩
    · intro i out hout hunique htaken
      have hkeeps := h.keeps i out hout hunique
      rw [final_getElem? hout, Option.map_some, Option.some.injEq, settle_tag_eq_iff hunique.1] at hkeeps
      exact hkeeps ((taken_iff _).1 htaken)
    · intro tag hexisting htaken
      refine (takenAt_length_iff.1 htaken).resolve_left fun hclaim => ?_
      rw [← htags] at hclaim
      obtain ⟨o, ho, rfl⟩ := mem_map.1 hclaim
      exact h.disjoint o ho hexisting
  · intro h
    have hnonempty := nonempty_iff_named.2 h.named
    have htags := settled_tags hnonempty
    have hnodup : ((final p outs w).map Outbound.tag).Nodup := htags ▸ nodup_claims _ _ _
    refine ⟨hnonempty, hnodup, ?_, ?_, fun o ho => fill_nodup _ _ hnodup o ho⟩
    · intro o ho hexisting
      have hclaim : o.tag ∈ claims (usedTags p w) [] (declaredTags p 0 outs) :=
        htags ▸ mem_map_of_mem ho
      exact claims_notMem hclaim (h.seen o.tag hexisting (takenAt_length_iff.2 (.inl hclaim)))
    · intro i out hout hunique
      rw [final_getElem? hout, Option.map_some, Option.some.injEq, settle_tag_eq_iff hunique.1]
      exact fun hmem => h.free i out hout hunique ((taken_iff _).2 hmem)

theorem update_tags_iff (p : String) (outs : List Outbound) (w : World δ) :
    TagsOfUpdate p outs w ↔ StartFails outs ∨ Unimpeded p outs w := by
  have herr : (startOutbounds p outs w).err ≠ none ↔ StartFails outs := startEach_err_iff _ _
  by_cases hfails : StartFails outs
  · refine iff_of_true ⟨renaming_ends, fun hok => absurd hok (herr.2 hfails)⟩ (.inl hfails)
  · have hok : (startOutbounds p outs w).err = none := not_not.1 fun h => hfails (herr.1 h)
    have houts : (startEach p 0 (working (usedTags p w) []) outs).outbounds = final p outs w :=
      startEach_outbounds hfails
    change (startOutbounds p outs w).outbounds = _ at houts
    rw [or_iff_right hfails, ← goodTags_iff, ← houts]
    exact ⟨fun h => h.good hok, fun h => ⟨renaming_ends, fun _ => h⟩⟩

def untagged : List Outbound :=
  [{ id := 1, tag := "", type := .trojan }, { id := 2, tag := "", type := .trojan }]

theorem update_tags_empty :
    (startOutbounds "p" untagged idleWorld).err = none ∧
      (startOutbounds "p" untagged idleWorld).outbounds = untagged ∧
      fill Outbound.tag untagged "" = some { id := 2, tag := "", type := .trojan } ∧
      ¬ TagsOfUpdate "p" untagged idleWorld := by
  have hok : (startOutbounds "p" untagged idleWorld).err = none := by decide
  have houts : (startOutbounds "p" untagged idleWorld).outbounds = untagged := by decide
  refine ⟨hok, houts, by decide, fun h => ?_⟩
  have hgood := h.good hok
  rw [houts] at hgood
  exact hgood.nonempty _ mem_cons_self rfl

end SingBox.Provider
