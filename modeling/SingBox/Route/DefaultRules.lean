import SingBox.Lib.Search
import SingBox.Route.Context

namespace SingBox.Route

open Lib.Search List Function InboundContext

def MatchFlags.Coherent (f : MatchFlags) : Prop := ∀ g, f.matched g = true → f.didMatch = true

lemma MatchFlags.coherent_empty : MatchFlags.Coherent {} := fun _ h => by cases h

structure DefaultRule (ι : Type*) where
  invert : Bool := false
  items : List ι := []
  sourceAddressItems : List ι := []
  sourcePortItems : List ι := []
  destinationAddressItems : List ι := []
  destinationIPCIDRItems : List ι := []
  destinationPortItems : List ι := []

namespace DefaultRule

variable {ι : Type*}

def allItems (r : DefaultRule ι) : List ι :=
  r.items ++ r.sourceAddressItems ++ r.sourcePortItems ++ r.destinationAddressItems ++
    r.destinationIPCIDRItems ++ r.destinationPortItems

variable (sem : ι → InboundContext → Bool × InboundContext) (isRuleSet : ι → Bool)

def checkGroup (g : Group) (items : List ι) (m : InboundContext) : InboundContext :=
  if !items.isEmpty && !m.flags.matched g then
    let found := anyS sem items m.markDidMatch
    if found.1 then found.2.setMatched g else found.2
  else m

def visitItem (item : ι) (m : InboundContext) : Bool × InboundContext :=
  sem item (if isRuleSet item then m else m.markDidMatch)

def declares (r : DefaultRule ι) (ignoreDestinationIPCIDR : Bool) : Group → Bool
  | .sourceAddress => !r.sourceAddressItems.isEmpty
  | .sourcePort => !r.sourcePortItems.isEmpty
  | .destinationAddress =>
    (!ignoreDestinationIPCIDR && !r.destinationIPCIDRItems.isEmpty) ||
      !r.destinationAddressItems.isEmpty
  | .destinationPort => !r.destinationPortItems.isEmpty

def missing (r : DefaultRule ι) (m : InboundContext) (g : Group) : Bool :=
  r.declares m.ignoreDestinationIPCIDRMatch g && !m.flags.matched g

def checkGroups (r : DefaultRule ι) (m : InboundContext) : InboundContext :=
  let m := checkGroup sem .sourceAddress r.sourceAddressItems m
  let m := checkGroup sem .sourcePort r.sourcePortItems m
  let m := checkGroup sem .destinationAddress r.destinationAddressItems m
  let m := if !m.ignoreDestinationIPCIDRMatch then
      checkGroup sem .destinationAddress r.destinationIPCIDRItems m
    else m
  checkGroup sem .destinationPort r.destinationPortItems m

def conclude (r : DefaultRule ι) (m : InboundContext) : Bool :=
  if r.missing m .sourceAddress then r.invert
  else if r.missing m .sourcePort then r.invert
  else if r.missing m .destinationAddress then r.invert
  else if r.missing m .destinationPort then r.invert
  else if !m.flags.didMatch then true
  else !r.invert

def matchRule (r : DefaultRule ι) (m : InboundContext) : Bool × InboundContext :=
  if r.allItems.isEmpty then (true, m)
  else
    let visited := allS (visitItem sem isRuleSet) r.items (r.checkGroups sem m)
    if visited.1 then (r.conclude visited.2, visited.2) else (r.invert, visited.2)

def groupItems (r : DefaultRule ι) (ignore : Bool) : Group → List ι
  | .sourceAddress => r.sourceAddressItems
  | .sourcePort => r.sourcePortItems
  | .destinationAddress =>
    r.destinationAddressItems ++ if ignore then [] else r.destinationIPCIDRItems
  | .destinationPort => r.destinationPortItems

def satisfies (r : DefaultRule ι) (ignore : Bool) (p : ι → Bool) (g : Group) : Bool :=
  (r.groupItems ignore g).any p

def flagsAfter (r : DefaultRule ι) (ignore : Bool) (p : ι → Bool) (f : MatchFlags) : MatchFlags where
  matched g := f.matched g || r.satisfies ignore p g
  didMatch := f.didMatch || Group.all.any (fun g => r.declares ignore g && !f.matched g) ||
    !r.items.isEmpty

def completes (r : DefaultRule ι) (ignore : Bool) (p : ι → Bool) (f : MatchFlags) : Bool :=
  r.items.all p &&
    Group.all.all fun g => !r.declares ignore g || f.matched g || r.satisfies ignore p g

def verdict (r : DefaultRule ι) (ignore : Bool) (p : ι → Bool) (f : MatchFlags) : Bool :=
  if r.allItems.isEmpty then true
  else if r.completes ignore p f then !(r.flagsAfter ignore p f).didMatch || !r.invert
  else r.invert

def PureOn (sem : ι → InboundContext → Bool × InboundContext) (p : ι → Bool) (m : InboundContext)
    (items : List ι) : Prop :=
  ∀ i ∈ items, ∀ f, sem i (m.withFlags f) = (p i, m.withFlags f)

variable {sem : ι → InboundContext → Bool × InboundContext} {isRuleSet : ι → Bool}
  {p : ι → Bool} {m : InboundContext} {f : MatchFlags} {r : DefaultRule ι}

lemma declares_eq (r : DefaultRule ι) (ignore : Bool) (g : Group) :
    r.declares ignore g = !(r.groupItems ignore g).isEmpty := by
  cases g with
  | destinationAddress =>
    cases ignore <;> cases h : r.destinationAddressItems <;> simp [declares, groupItems, h]
  | _ => rfl

lemma mem_allItems {i : ι} :
    i ∈ r.allItems ↔ i ∈ r.items ∨ ∃ g, i ∈ r.groupItems false g := by
  simp only [allItems, mem_append]
  refine ⟨?_, ?_⟩
  · rintro (((((h | h) | h) | h) | h) | h)
    · exact .inl h
    · exact .inr ⟨.sourceAddress, h⟩
    · exact .inr ⟨.sourcePort, h⟩
    · exact .inr ⟨.destinationAddress, mem_append_left _ h⟩
    · exact .inr ⟨.destinationAddress, mem_append_right _ h⟩
    · exact .inr ⟨.destinationPort, h⟩
  · rintro (h | ⟨g, h⟩)
    · simp [h]
    · cases g with
      | destinationAddress => rcases mem_append.1 h with h | h <;> simp_all
      | _ => simp_all [groupItems]

variable {g : Group}

lemma satisfies_declares {ignore : Bool} (h : r.satisfies ignore p g = true) :
    r.declares ignore g = true := by
  rw [declares_eq]
  rw [satisfies] at h
  cases hl : r.groupItems ignore g with
  | nil => simp [hl] at h
  | cons _ _ => rfl

section Invariant

variable {I : InboundContext → Prop} (hflags : ∀ m f, I m → I (m.withFlags f))

include hflags

lemma checkGroup_invariant {g : Group} {items : List ι} (h : ∀ i ∈ items, ∀ m, I m → I (sem i m).2)
    (hm : I m) : I (checkGroup sem g items m) := by
  have hfound := anyS_invariant h (hflags m { m.flags with didMatch := true } hm)
  rw [checkGroup]
  split_ifs
  · dsimp only
    split_ifs
    · exact hflags _ _ hfound
    · exact hfound
  · exact hm

lemma matchRule_invariant {ignore : Bool} (hig : ∀ m, I m → m.ignoreDestinationIPCIDRMatch = ignore)
    (hitems : ∀ i ∈ r.items, ∀ m, I m → I (sem i m).2)
    (hgroups : ∀ g, ∀ i ∈ r.groupItems ignore g, ∀ m, I m → I (sem i m).2) (hm : I m) :
    I (r.matchRule sem isRuleSet m).2 := by
  have hgroup : ∀ g, ∀ items ⊆ r.groupItems ignore g, ∀ m, I m → I (checkGroup sem g items m) :=
    fun g items hsub m hm => checkGroup_invariant hflags (fun i hi => hgroups g i (hsub hi)) hm
  have hchecked : I (r.checkGroups sem m) := by
    rw [checkGroups]
    apply hgroup .destinationPort _ (List.Subset.refl _)
    have h₃ : I (checkGroup sem .destinationAddress r.destinationAddressItems
        (checkGroup sem .sourcePort r.sourcePortItems
          (checkGroup sem .sourceAddress r.sourceAddressItems m))) := by
      apply hgroup .destinationAddress _ (by simp [groupItems])
      apply hgroup .sourcePort _ (List.Subset.refl _)
      exact hgroup .sourceAddress _ (List.Subset.refl _) m hm
    cases ignore with
    | true =>
      rw [hig _ h₃]
      exact h₃
    | false =>
      rw [hig _ h₃]
      exact hgroup .destinationAddress _ (by simp [groupItems]) _ h₃
  have hvisited : I (allS (visitItem sem isRuleSet) r.items (r.checkGroups sem m)).2 := by
    apply allS_invariant _ hchecked
    intro i hi m hm
    rw [visitItem]
    apply hitems i hi
    split_ifs
    · exact hm
    · exact hflags _ _ hm
  rw [matchRule]
  split_ifs
  · exact hm
  · dsimp only
    split_ifs
    · exact hvisited
    · exact hvisited

end Invariant

def idle (r : DefaultRule ι) (ignore : Bool) : Bool :=
  r.items.isEmpty && Group.all.all fun g => !r.declares ignore g

def checkFlags (p : ι → Bool) (g : Group) (items : List ι) (f : MatchFlags) : MatchFlags where
  matched := update f.matched g (f.matched g || items.any p)
  didMatch := f.didMatch || (!items.isEmpty && !f.matched g)

lemma completes_eq (r : DefaultRule ι) (ignore : Bool) (p : ι → Bool) (f : MatchFlags) :
    r.completes ignore p f = (r.items.all p &&
      Group.all.all fun g => !(r.declares ignore g && !(r.flagsAfter ignore p f).matched g)) := by
  simp [completes, flagsAfter, Bool.not_and, Bool.or_assoc]

lemma completes_iff {ignore : Bool} :
    r.completes ignore p f = true ↔ (∀ i ∈ r.items, p i = true) ∧
      ∀ g, r.declares ignore g = true → f.matched g = true ∨ r.satisfies ignore p g = true := by
  rw [completes, Bool.and_eq_true, all_eq_true, all_eq_true]
  refine and_congr_right fun _ => ⟨fun h g hd => ?_, fun h g _ => ?_⟩
  · simpa [hd] using h g (Group.mem_all g)
  · cases hd : r.declares ignore g with
    | true => simpa using h g hd
    | false => rfl

lemma checkFlags_eq (p : ι → Bool) (g : Group) (items : List ι) (f : MatchFlags) :
    checkFlags p g items f =
      if !items.isEmpty && !f.matched g then
        if items.any p then { f with didMatch := true }.set g else { f with didMatch := true }
      else f := by
  have hself := update_eq_self g f.matched
  cases hf : f.matched g with
  | true =>
    rw [hf] at hself
    simp [checkFlags, hf, hself]
  | false =>
    rw [hf] at hself
    cases ha : items.any p with
    | true =>
      have hne : items.isEmpty = false := by
        cases items with
        | nil => simp at ha
        | cons _ _ => rfl
      simp [checkFlags, hf, ha, hne, MatchFlags.set]
    | false => cases he : items.isEmpty <;> simp [checkFlags, hf, ha, he, hself]

variable {items : List ι}

lemma checkGroup_pure (h : PureOn sem p m items) :
    checkGroup sem g items (m.withFlags f) = m.withFlags (checkFlags p g items f) := by
  have hany : anyS sem items (m.withFlags f).markDidMatch =
      (items.any p, (m.withFlags f).markDidMatch) := anyS_pure fun i hi => h i hi _
  rw [checkGroup, hany, checkFlags_eq]
  simp only [withFlags_flags]
  split_ifs <;> rfl

lemma checkGroups_pure (h : PureOn sem p m r.allItems) :
    r.checkGroups sem (m.withFlags f) =
      m.withFlags { r.flagsAfter m.ignoreDestinationIPCIDRMatch p f with
        didMatch := f.didMatch ||
          Group.all.any fun g => r.declares m.ignoreDestinationIPCIDRMatch g && !f.matched g } := by
  have hsa : PureOn sem p m r.sourceAddressItems := fun i hi => h i (by simp [allItems, hi])
  have hsp : PureOn sem p m r.sourcePortItems := fun i hi => h i (by simp [allItems, hi])
  have hda : PureOn sem p m r.destinationAddressItems := fun i hi => h i (by simp [allItems, hi])
  have hip : PureOn sem p m r.destinationIPCIDRItems := fun i hi => h i (by simp [allItems, hi])
  have hdp : PureOn sem p m r.destinationPortItems := fun i hi => h i (by simp [allItems, hi])
  rw [checkGroups, checkGroup_pure hsa, checkGroup_pure hsp, checkGroup_pure hda]
  cases hig : m.ignoreDestinationIPCIDRMatch with
  | true =>
    simp only [withFlags_ignore, hig, Bool.not_true, Bool.false_eq_true, if_false]
    rw [checkGroup_pure hdp]
    congr 1
    ext g
    · cases g <;> simp [checkFlags, flagsAfter, satisfies, groupItems, update]
    · simp [checkFlags, declares, Group.all, update, Bool.or_assoc]
  | false =>
    simp only [withFlags_ignore, hig, Bool.not_false, if_true]
    rw [checkGroup_pure hip, checkGroup_pure hdp]
    congr 1
    ext g
    · cases g <;> simp [checkFlags, flagsAfter, satisfies, groupItems, update, Bool.or_assoc]
    · cases hl : r.destinationAddressItems <;> cases hf : f.matched .destinationAddress <;>
        simp [checkFlags, declares, Group.all, update, hl, hf, Bool.or_assoc]

lemma visitItems_pure (h : PureOn sem p m items) (hset : ∀ i ∈ items, isRuleSet i = false) :
    allS (visitItem sem isRuleSet) items (m.withFlags f) =
      (items.all p, m.withFlags { f with didMatch := f.didMatch || !items.isEmpty }) := by
  induction items generalizing f with
  | nil => simp
  | cons i items ih =>
    have hi : visitItem sem isRuleSet i (m.withFlags f) =
        (p i, m.withFlags { f with didMatch := true }) := by
      rw [visitItem, hset i (by simp)]
      exact h i (by simp) _
    rw [allS_cons, hi, all_cons]
    cases p i with
    | true =>
      rw [if_pos rfl, ih (fun j hj => h j (mem_cons_of_mem _ hj))
        (fun j hj => hset j (mem_cons_of_mem _ hj))]
      simp
    | false => simp

lemma conclude_eq (r : DefaultRule ι) (m : InboundContext) :
    r.conclude m = if Group.all.all fun g => !r.missing m g then !m.flags.didMatch || !r.invert
      else r.invert := by
  cases h₁ : r.missing m .sourceAddress <;> cases h₂ : r.missing m .sourcePort <;>
    cases h₃ : r.missing m .destinationAddress <;> cases h₄ : r.missing m .destinationPort <;>
    cases h₅ : m.flags.didMatch <;> simp [conclude, Group.all, h₁, h₂, h₃, h₄, h₅]

lemma matchRule_pure (h : PureOn sem p m r.allItems)
    (hset : ∀ i ∈ r.items, isRuleSet i = false) (hne : r.allItems.isEmpty = false) :
    r.matchRule sem isRuleSet (m.withFlags f) =
      (r.verdict m.ignoreDestinationIPCIDRMatch p f,
        m.withFlags (r.flagsAfter m.ignoreDestinationIPCIDRMatch p f)) := by
  have hitems : PureOn sem p m r.items := fun i hi => h i (by simp [allItems, hi])
  rw [matchRule, checkGroups_pure h, visitItems_pure hitems hset, hne]
  simp only [Bool.false_eq_true, if_false, verdict, hne, completes_eq, conclude_eq, missing,
    withFlags_flags, withFlags_ignore]
  cases r.items.all p with
  | true => rfl
  | false => rfl

variable {ignore : Bool}

lemma flagsAfter_coherent (hf : f.Coherent) : (r.flagsAfter ignore p f).Coherent := by
  intro g hg
  have hg' : f.matched g = true ∨ r.satisfies ignore p g = true := by
    simpa [flagsAfter] using hg
  rcases hg' with h | h
  · simp [flagsAfter, hf g h]
  · cases hm : f.matched g with
    | true => simp [flagsAfter, hf g hm]
    | false =>
      have hany : (Group.all.any fun g => r.declares ignore g && !f.matched g) = true :=
        any_eq_true.2 ⟨g, Group.mem_all g, by simp [satisfies_declares h, hm]⟩
      simp [flagsAfter, hany]

lemma completes_mono (h : r.completes ignore p {} = true) : r.completes ignore p f = true := by
  rw [completes_iff] at h ⊢
  refine ⟨h.1, fun g hd => ?_⟩
  rcases h.2 g hd with hg | hg
  · cases hg
  · exact .inr hg

lemma idle_completes (h : r.idle ignore = true) : r.completes ignore p f = true := by
  rw [idle, Bool.and_eq_true, List.isEmpty_iff, all_eq_true] at h
  rw [completes_iff, h.1]
  refine ⟨by simp, fun g hd => ?_⟩
  have hg := h.2 g (Group.mem_all g)
  simp [hd] at hg

lemma flagsAfter_didMatch (hf : f.Coherent) :
    (r.flagsAfter ignore p f).didMatch = (f.didMatch || !r.idle ignore) := by
  cases hd : f.didMatch with
  | true => simp [flagsAfter, hd]
  | false =>
    have hm : ∀ g, f.matched g = false := by
      intro g
      by_contra h
      simp [hf g (by simpa using h)] at hd
    simp [flagsAfter, idle, hd, hm, Bool.or_comm, not_all_eq_any_not]

lemma verdict_alone (hne : r.allItems.isEmpty = false) :
    r.verdict false p {} = (r.completes false p {} != r.invert) := by
  have hidle : r.idle false = false := by
    cases hi : r.idle false with
    | false => rfl
    | true =>
      rw [idle, Bool.and_eq_true, all_eq_true] at hi
      have hnil : r.allItems = [] := by
        apply eq_nil_iff_forall_not_mem.2
        intro i hmem
        rcases mem_allItems.1 hmem with h | ⟨g, h⟩
        · simp [List.isEmpty_iff.1 hi.1] at h
        · have hg := hi.2 g (Group.mem_all g)
          rw [declares_eq, Bool.not_not, List.isEmpty_iff] at hg
          simp [hg] at h
      simp [hnil] at hne
  rw [verdict, hne, flagsAfter_didMatch MatchFlags.coherent_empty, hidle]
  cases r.completes false p {} <;> simp

end DefaultRule

end SingBox.Route
