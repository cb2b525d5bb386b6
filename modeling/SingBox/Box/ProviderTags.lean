import SingBox.Box.Startup

namespace SingBox.Startup

open Adapter List Function

def renamed (tag : String) : String := tag ++ "[1]"

def InUse (static : List String) : List String → String → Prop
  | [], tag => tag ∈ static
  | used :: earlier, tag =>
    InUse static earlier tag ∨ tag = used ∨ (tag = renamed used ∧ InUse static earlier used)

instance InUse.decidable (static : List String) :
    (earlier : List String) → (tag : String) → Decidable (InUse static earlier tag)
  | [], tag => inferInstanceAs (Decidable (tag ∈ static))
  | used :: earlier, tag =>
    have := InUse.decidable static earlier tag
    have := InUse.decidable static earlier used
    inferInstanceAs (Decidable (_ ∨ _ ∨ (_ ∧ _)))

def Unambiguous (static : List String) : List String → List String → Prop
  | _, [] => True
  | earlier, tag :: rest =>
    ¬ (InUse static earlier tag ∧ InUse static earlier (renamed tag)) ∧
      Unambiguous static (tag :: earlier) rest

instance Unambiguous.decidable (static : List String) :
    (earlier tags : List String) → Decidable (Unambiguous static earlier tags)
  | _, [] => inferInstanceAs (Decidable True)
  | earlier, tag :: rest =>
    have := Unambiguous.decidable static (tag :: earlier) rest
    inferInstanceAs (Decidable (¬ (_ ∧ _) ∧ _))

def finalTag (static earlier : List String) (tag : String) : String :=
  if InUse static earlier tag then renamed tag else tag

def finalTags (static : List String) : List String → List String → List String
  | _, [] => []
  | earlier, tag :: rest => finalTag static earlier tag :: finalTags static (tag :: earlier) rest

def declaredTags (pTag : String) : ℕ → List Outbound → List String
  | _, [] => []
  | j, out :: rest => defaultTag pTag j out.tag :: declaredTags pTag (j + 1) rest

def providerTags : ℕ → List Provider → List String
  | _, [] => []
  | i, p :: rest => declaredTags (providerTag i p) 0 p.outbounds ++ providerTags (i + 1) rest

def outboundTags (providers : List Provider) : List String :=
  providers.flatMap (fun p => p.outbounds.map Outbound.tag)

lemma finalTags_append (static earlier xs ys : List String) :
    finalTags static earlier (xs ++ ys) =
      finalTags static earlier xs ++ finalTags static (xs.reverse ++ earlier) ys := by
  induction xs generalizing earlier with
  | nil => rfl
  | cons x xs ih => simp [finalTags, ih]

lemma inUse_finalTag (static earlier : List String) (tag t : String) :
    InUse static (tag :: earlier) t ↔ InUse static earlier t ∨ t = finalTag static earlier tag := by
  by_cases h : InUse static earlier tag
  · simp only [InUse, finalTag, h, and_true]
    constructor
    · rintro (h' | rfl | h')
      · exact .inl h'
      · exact .inl h
      · exact .inr h'
    · rintro (h' | h')
      · exact .inl h'
      · exact .inr (.inr h')
  · simp [InUse, finalTag, h]

lemma nodup_finalTags (static used earlier rest : List String) (hn : (static ++ used).Nodup)
    (hu : ∀ t, InUse static earlier t ↔ t ∈ static ++ used) :
    (static ++ (used ++ finalTags static earlier rest)).Nodup ↔ Unambiguous static earlier rest := by
  induction rest generalizing used earlier with
  | nil => simpa [finalTags, Unambiguous] using hn
  | cons tag rest ih =>
    let final := finalTag static earlier tag
    have hfree : final ∉ static ++ used ↔
        ¬ (InUse static earlier tag ∧ InUse static earlier (renamed tag)) := by
      rw [← hu]
      by_cases h : InUse static earlier tag <;> simp [final, finalTag, h]
    have hmove : static ++ (used ++ finalTags static earlier (tag :: rest)) =
        static ++ (used ++ [final] ++ finalTags static (tag :: earlier) rest) := by
      simp [finalTags, final]
    rw [hmove, Unambiguous, ← hfree]
    constructor
    · intro h
      have hpre : (static ++ (used ++ [final])).Nodup := by
        rw [← append_assoc] at h
        exact (nodup_append.mp h).1
      have hout : final ∉ static ++ used := by
        rw [← append_assoc, nodup_append] at hpre
        exact fun hm => hpre.2.2 _ hm _ (by simp) rfl
      refine ⟨hout, (ih (used ++ [final]) (tag :: earlier) hpre ?_).mp h⟩
      intro t
      rw [inUse_finalTag, hu]
      simp [final, or_assoc]
    · rintro ⟨hout, h⟩
      have hpre : (static ++ (used ++ [final])).Nodup := by
        rw [← append_assoc, nodup_append]
        refine ⟨hn, by simp, ?_⟩
        intro a ha b hb hab
        rw [mem_singleton.mp hb] at hab
        exact hout (hab ▸ ha)
      refine (ih (used ++ [final]) (tag :: earlier) hpre ?_).mpr h
      intro t
      rw [inUse_finalTag, hu]
      simp [final, or_assoc]

def Tracks (static earlier : List String) (outboundTag : TagCount) : Prop :=
  ∀ t, outboundTag t = if InUse static earlier t then some 0 else none

lemma tracks_static (outbounds : List Outbound) :
    Tracks (outbounds.map Outbound.tag) [] (staticTags outbounds) := fun _ => rfl

lemma claimTag_spec (static earlier : List String) (outboundTag : TagCount) (tag : String)
    (h : Tracks static earlier outboundTag) :
    (claimTag outboundTag tag).1 = finalTag static earlier tag ∧
      Tracks static (tag :: earlier) (claimTag outboundTag tag).2 := by
  have hone : tag ++ "[" ++ toString (0 + 1) ++ "]" = renamed tag := by
    simp only [String.append_assoc]
    rfl
  have hclaim : claimTag outboundTag tag = (finalTag static earlier tag,
      update outboundTag (finalTag static earlier tag) (some 0)) := by
    by_cases hu : InUse static earlier tag
    · simp only [claimTag, h tag, hu, if_true, finalTag, hone, update_idem]
    · simp [claimTag, h tag, hu, finalTag]
  rw [hclaim]
  refine ⟨rfl, fun t => ?_⟩
  change update _ _ _ t = _
  by_cases ht : t = finalTag static earlier tag
  · have hin : InUse static (tag :: earlier) t := (inUse_finalTag static earlier tag t).mpr (.inr ht)
    rw [if_pos hin, ht, update_self]
  · rw [update_of_ne ht, h t]
    simp [inUse_finalTag, ht]

lemma startEach_tags (static : List String) (pTag : String) (i j : ℕ) (earlier : List String)
    (outboundTag : TagCount) (outs : List Outbound) (h : Tracks static earlier outboundTag)
    (hs : (startEach pTag i j outboundTag outs).err = none) :
    (startEach pTag i j outboundTag outs).outbounds.map Outbound.tag =
        finalTags static earlier (declaredTags pTag j outs) ∧
      Tracks static ((declaredTags pTag j outs).reverse ++ earlier)
        (startEach pTag i j outboundTag outs).outboundTag := by
  induction outs generalizing j earlier outboundTag with
  | nil => exact ⟨rfl, h⟩
  | cons out outs ih =>
    obtain ⟨htag, htracks⟩ := claimTag_spec static earlier outboundTag (defaultTag pTag j out.tag) h
    cases he : out.start.error? with
    | some err => simp [startEach, he] at hs
    | none =>
      simp only [startEach, he] at hs ⊢
      obtain ⟨ht, hk⟩ := ih (j + 1) _ _ htracks hs
      refine ⟨?_, ?_⟩
      · rw [declaredTags, finalTags, map_cons, ht, Outbound.setTag_tag, htag]
      · simpa [declaredTags] using hk

lemma startProviders_tags (static : List String) (i : ℕ) (earlier : List String)
    (outboundTag : TagCount) (ps : List Provider) (h : Tracks static earlier outboundTag)
    (hs : (startProviders i outboundTag ps).err = none) :
    outboundTags (startProviders i outboundTag ps).providers =
      finalTags static earlier (providerTags i ps) := by
  induction ps generalizing i earlier outboundTag with
  | nil => rfl
  | cons p ps ih =>
    cases he : (startEach (providerTag i p) i 0 outboundTag p.outbounds).err with
    | some err => simp [startProviders, he] at hs
    | none =>
      obtain ⟨ht, hk⟩ := startEach_tags static (providerTag i p) i 0 earlier outboundTag p.outbounds h he
      simp only [startProviders, he] at hs ⊢
      have hrest := ih (i + 1) _ _ hk hs
      rw [providerTags, finalTags_append, ← hrest, ← ht]
      rfl

lemma startProviders_reachable (i : ℕ) (outboundTag : TagCount) (ps : List Provider)
    (hs : (startProviders i outboundTag ps).err = none) (p : Provider)
    (hp : p ∈ (startProviders i outboundTag ps).providers) :
    p.outboundByTag = Lib.Table.fill Outbound.tag p.outbounds := by
  induction ps generalizing i outboundTag with
  | nil => simp [startProviders] at hp
  | cons q ps ih =>
    cases he : (startEach (providerTag i q) i 0 outboundTag q.outbounds).err with
    | some err => simp [startProviders, he] at hs
    | none =>
      simp only [startProviders, he, mem_cons] at hs hp
      rcases hp with rfl | hp
      · rfl
      · exact ih (i + 1) _ hs hp

lemma assignTags_spec (i : ℕ) (seen : List String) (outs : List Outbound)
    (h : (assignTags i seen outs).2 = none) :
    ((assignTags i seen outs).1.map Outbound.tag).Nodup ∧
      ∀ out ∈ (assignTags i seen outs).1, out.tag ≠ "" ∧ out.tag ∉ seen := by
  induction outs generalizing i seen with
  | nil => simp [assignTags]
  | cons out outs ih =>
    by_cases hd : (assignTag i out).tag ∈ seen
    · simp [assignTags, hd] at h
    · simp only [assignTags, hd, if_false] at h ⊢
      obtain ⟨hn, ho⟩ := ih (i + 1) ((assignTag i out).tag :: seen) h
      refine ⟨?_, ?_⟩
      · rw [map_cons, nodup_cons]
        refine ⟨?_, hn⟩
        rintro hm
        obtain ⟨o, ho', hot⟩ := mem_map.mp hm
        exact (ho o ho').2 (by simp [hot])
      · rintro o (_ | ⟨_, hm⟩)
        · refine ⟨?_, hd⟩
          unfold assignTag
          split
          · exact fun hc => absurd hc (by simp)
          · assumption
        · exact ⟨(ho o hm).1, fun hc => (ho o hm).2 (mem_cons_of_mem _ hc)⟩

lemma defaultTag_ne (pTag : String) (j : ℕ) (tag : String) : defaultTag pTag j tag ≠ "" := by
  unfold defaultTag
  split
  · simp
  · assumption

lemma declaredTags_ne (pTag : String) (j : ℕ) (outs : List Outbound) (t : String)
    (ht : t ∈ declaredTags pTag j outs) : t ≠ "" := by
  induction outs generalizing j with
  | nil => simp [declaredTags] at ht
  | cons out outs ih =>
    rcases mem_cons.mp ht with rfl | ht
    · exact defaultTag_ne pTag j out.tag
    · exact ih (j + 1) ht

lemma providerTags_ne (i : ℕ) (ps : List Provider) (t : String) (ht : t ∈ providerTags i ps) :
    t ≠ "" := by
  induction ps generalizing i with
  | nil => simp [providerTags] at ht
  | cons p ps ih =>
    rcases mem_append.mp ht with ht | ht
    · exact declaredTags_ne _ _ _ t ht
    · exact ih (i + 1) ht

lemma finalTags_ne (static earlier tags : List String) (h : ∀ t ∈ tags, t ≠ "") (t : String)
    (ht : t ∈ finalTags static earlier tags) : t ≠ "" := by
  induction tags generalizing earlier with
  | nil => simp [finalTags] at ht
  | cons tag tags ih =>
    rcases mem_cons.mp ht with rfl | ht
    · unfold finalTag
      split
      · simp [renamed]
      · exact h tag (by simp)
    · exact ih (tag :: earlier) (fun t ht => h t (mem_cons_of_mem _ ht)) ht

structure TagsUnique (static : List Outbound) (providers : List Provider) : Prop where
  distinct : (static.map Outbound.tag ++ outboundTags providers).Nodup
  nonempty : ∀ t ∈ static.map Outbound.tag ++ outboundTags providers, t ≠ ""
  reachable : ∀ p ∈ providers, ∀ out ∈ p.outbounds, p.outboundByTag out.tag = some out

theorem provider_tags_unique_iff (s : Box) (static : List Outbound)
    (ht : assignTags 0 [] s.outbounds = (static, none))
    (hs : (startProviderOutbounds static s.providers).err = none) :
    TagsUnique static (startProviderOutbounds static s.providers).providers ↔
      Unambiguous (static.map Outbound.tag) [] (providerTags 0 s.providers) := by
  have hassign := assignTags_spec 0 [] s.outbounds (by rw [ht])
  rw [ht] at hassign
  obtain ⟨hdistinct, hne⟩ := hassign
  have htags := startProviders_tags (static.map Outbound.tag) 0 [] (staticTags static) s.providers
    (tracks_static static) hs
  have hnodup := nodup_finalTags (static.map Outbound.tag) [] [] (providerTags 0 s.providers)
    (by simpa using hdistinct) (by simp [InUse])
  rw [← htags] at hnodup
  constructor
  · intro h
    exact hnodup.mp h.distinct
  · intro h
    have hall := hnodup.mpr h
    refine ⟨hall, ?_, ?_⟩
    · intro t hmem
      rcases mem_append.mp hmem with hmem | hmem
      · obtain ⟨out, ho, rfl⟩ := mem_map.mp hmem
        exact (hne out ho).1
      · rw [startProviderOutbounds, htags] at hmem
        exact finalTags_ne _ _ _ (fun t => providerTags_ne 0 s.providers t) t hmem
    · intro p hp out ho
      rw [startProviders_reachable 0 _ s.providers hs p hp]
      have hp' := (nodup_flatMap.mp (nodup_append.mp hall).2.1).1 p hp
      exact Lib.Table.fill_nodup Outbound.tag p.outbounds hp' out ho

def outboundless : Outbound := { id := 0, tag := "OUTBOUNDLESS", type := .direct }

def node (id : ℕ) (tag : String) : Outbound := { id, tag, type := .vmess, start := .succeeds }

theorem provider_tags_unique_pair :
    TagsUnique [outboundless] (startProviderOutbounds [outboundless]
      [⟨"sub", [node 1 "A", node 2 "A", node 3 ""], fun _ => none⟩]).providers :=
  (provider_tags_unique_iff ⟨[outboundless], [⟨"sub", [node 1 "A", node 2 "A", node 3 ""], fun _ => none⟩]⟩
    [outboundless] (by decide) (by decide)).mpr (by decide)

theorem provider_tags_clash_triple :
    assignTags 0 [] [outboundless] = ([outboundless], none) ∧
      (startProviderOutbounds [outboundless]
        [⟨"sub", [node 1 "A", node 2 "A", node 3 "A"], fun _ => none⟩]).err = none ∧
      ¬ TagsUnique [outboundless] (startProviderOutbounds [outboundless]
        [⟨"sub", [node 1 "A", node 2 "A", node 3 "A"], fun _ => none⟩]).providers := by
  refine ⟨by decide, by decide, ?_⟩
  intro h
  exact absurd h.distinct (by decide)

end SingBox.Startup
