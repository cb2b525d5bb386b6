import SingBox.Route.RuleBuilder

namespace SingBox.Route

open Lib.Errors Lib.LogicTree

section Items

open HeadlessItem

variable (lib : Library)

def IsIPRange (text : String) : Prop :=
  (∃ range, lib.parsePrefix text = .ok range) ∨ ∃ addr, lib.parseAddr text = .ok addr

structure RuleConditions.Parses (o : RuleConditions) : Prop where
  ipVersion : o.ipVersion > 0 → o.ipVersion = 4 ∨ o.ipVersion = 6
  domainRegex : ∀ regex ∈ o.domainRegex, ∃ matcher, lib.compileRegex regex = .ok matcher
  sourceIPCIDR : ∀ text ∈ o.sourceIPCIDR, IsIPRange lib text
  ipCIDR : ∀ text ∈ o.ipCIDR, IsIPRange lib text
  sourcePortRange : ∀ text ∈ o.sourcePortRange, ∃ range, parsePortRange lib text = .ok range
  portRange : ∀ text ∈ o.portRange, ∃ range, parsePortRange lib text = .ok range

variable {lib} {l : List String}

lemma exists_newDomainRegexItem_iff :
    (∃ item, newDomainRegexItem lib l = .ok item) ↔
      ∀ regex ∈ l, ∃ matcher, lib.compileRegex regex = .ok matcher := by
  rw [newDomainRegexItem, exists_bind_pure_iff]
  apply exists_mapFrom_iff
  intro i regex
  cases lib.compileRegex regex <;> simp

lemma exists_parseIPRange_iff (i : ℕ) (text : String) :
    (∃ range, parseIPRange lib i text = .ok range) ↔ IsIPRange lib text := by
  rw [parseIPRange, IsIPRange]
  cases lib.parsePrefix text with
  | ok range => simp
  | error err => cases lib.parseAddr text <;> simp

variable {isSource : Bool}

lemma exists_newIPCIDRItem_iff :
    (∃ item, newIPCIDRItem lib isSource l = .ok item) ↔ ∀ text ∈ l, IsIPRange lib text := by
  rw [newIPCIDRItem, exists_bind_pure_iff, parseIPSet, exists_bind_pure_iff,
    exists_mapFrom_iff exists_parseIPRange_iff]

lemma exists_newPortRangeItem_iff : (∃ item, newPortRangeItem lib isSource l = .ok item) ↔
      ∀ text ∈ l, ∃ range, parsePortRange lib text = .ok range := by
  rw [newPortRangeItem, exists_bind_pure_iff]
  refine exists_mapFrom_iff fun _ text => ?_
  exact Iff.rfl

lemma exists_newIPVersionItem_iff {version : Int} :
    (∃ items, newIPVersionItem version = .ok items) ↔
      (version > 0 → version = 4 ∨ version = 6) := by
  rw [newIPVersionItem]
  split_ifs with hp hv
  · simpa [hp] using hv
  · simpa [hp] using hv
  · simp [hp]

variable {name : String}

lemma exists_parseList_iff {ι : Type} {item : List String → Except String ι} {P : String → Prop}
    (hi : (∃ i, item l = .ok i) ↔ ∀ text ∈ l, P text) :
    (∃ items, parseList name l item = .ok items) ↔ ∀ text ∈ l, P text := by
  cases l with
  | nil => simp [parseList]
  | cons text l =>
    rw [← hi]
    simp only [parseList_cons]
    constructor
    · rintro ⟨_, i, h, _⟩
      exact ⟨i, h⟩
    · rintro ⟨i, h⟩
      exact ⟨[i], i, h, rfl⟩

lemma exists_parseItems_iff {o : RuleConditions} :
    (∃ parsed, parseItems lib name o = .ok parsed) ↔ o.Parses lib := by
  constructor
  · rintro ⟨parsed, h⟩
    obtain ⟨h₁, h₂, h₃, h₄, h₅, h₆⟩ := parseItems_eq_ok.1 h
    exact
      { ipVersion := exists_newIPVersionItem_iff.1 ⟨_, h₁⟩
        domainRegex := (exists_parseList_iff exists_newDomainRegexItem_iff).1 ⟨_, h₂⟩
        sourceIPCIDR := (exists_parseList_iff exists_newIPCIDRItem_iff).1 ⟨_, h₃⟩
        ipCIDR := (exists_parseList_iff exists_newIPCIDRItem_iff).1 ⟨_, h₄⟩
        sourcePortRange := (exists_parseList_iff exists_newPortRangeItem_iff).1 ⟨_, h₅⟩
        portRange := (exists_parseList_iff exists_newPortRangeItem_iff).1 ⟨_, h₆⟩ }
  · intro h
    obtain ⟨ipVersion, h₁⟩ := exists_newIPVersionItem_iff.2 h.ipVersion
    obtain ⟨domainRegex, h₂⟩ := (exists_parseList_iff exists_newDomainRegexItem_iff).2 h.domainRegex
    obtain ⟨sourceIPCIDR, h₃⟩ := (exists_parseList_iff exists_newIPCIDRItem_iff).2 h.sourceIPCIDR
    obtain ⟨ipCIDR, h₄⟩ := (exists_parseList_iff exists_newIPCIDRItem_iff).2 h.ipCIDR
    obtain ⟨sourcePortRange, h₅⟩ :=
      (exists_parseList_iff exists_newPortRangeItem_iff).2 h.sourcePortRange
    obtain ⟨portRange, h₆⟩ := (exists_parseList_iff exists_newPortRangeItem_iff).2 h.portRange
    exact ⟨⟨ipVersion, domainRegex, sourceIPCIDR, ipCIDR, sourcePortRange, portRange⟩,
      parseItems_eq_ok.2 ⟨h₁, h₂, h₃, h₄, h₅, h₆⟩⟩

lemma exists_newDefaultRule_iff {o : DefaultRuleOptions} :
    (∃ r, newDefaultRule lib o = .ok r) ↔ o.Parses lib := by
  rw [newDefaultRule, exists_bind_pure_iff, exists_parseItems_iff]

lemma exists_parseMode_iff {mode : String} :
    (∃ parsed, parseMode mode = .ok parsed) ↔ mode = "and" ∨ mode = "or" := by
  rw [parseMode]
  split_ifs with ha ho
  · simpa using .inl (by simpa using ha)
  · simpa using .inr (by simpa using ho)
  · simpa using ⟨by simpa using ha, by simpa using ho⟩

end Items

namespace RuleOptions

mutual

def Sound (lib : Library) (checkOutbound : Bool) : RuleOptions → Prop
  | .default o => (o.outbound = "" → checkOutbound = false) ∧ o.Parses lib
  | .logical mode rules _ _ outbound =>
    rules ≠ [] ∧ (outbound = "" → checkOutbound = false) ∧ (mode = "and" ∨ mode = "or") ∧
      SoundAll lib rules

def SoundAll (lib : Library) : List RuleOptions → Prop
  | [] => True
  | o :: rules => Sound lib false o ∧ SoundAll lib rules

end

variable {lib : Library} {checkOutbound : Bool}

mutual

lemma Sound.isValid : ∀ {options : RuleOptions} {checkOutbound : Bool},
    options.Sound lib checkOutbound → options.isValid = true
  | .default _, _, _ => by rw [RuleOptions.isValid]
  | .logical _ rules _ _ _, _, h => by
    rw [Sound] at h
    rw [RuleOptions.isValid, SoundAll.allValid h.2.2.2]
    simpa using h.1

lemma SoundAll.allValid : ∀ {rules : List RuleOptions}, SoundAll lib rules → allValid rules = true
  | [], _ => by rw [RuleOptions.allValid]
  | o :: rules, h => by
    rw [SoundAll] at h
    rw [RuleOptions.allValid, Sound.isValid h.1, SoundAll.allValid h.2]
    rfl

end

mutual

lemma exists_newRule_iff : ∀ (options : RuleOptions) (checkOutbound : Bool),
    (∃ rule, newRule lib checkOutbound options = .ok rule) ↔ options.Sound lib checkOutbound
  | .default o, checkOutbound => by
    rw [newRule, Sound, ← exists_newDefaultRule_iff]
    split_ifs with hc
    · simp_all
    · rw [and_iff_right (by simpa using hc), exists_bind_pure_iff]
  | .logical mode rules invert skipResolve outbound, checkOutbound => by
    constructor
    · rintro ⟨rule, h⟩
      rw [newRule] at h
      split_ifs at h with hv hc
      obtain ⟨parsed, hm, h⟩ := bind_eq_ok.1 h
      obtain ⟨subs, hs, -⟩ := bind_eq_ok.1 h
      rw [isValid] at hv
      rw [Sound]
      refine ⟨?_, by simpa using hc, exists_parseMode_iff.1 ⟨parsed, hm⟩,
        (exists_newSubRules_iff rules 0).1 ⟨subs, hs⟩⟩
      rintro rfl
      simp at hv
    · intro h
      have hv := h.isValid
      rw [Sound] at h
      obtain ⟨-, ho, hm, hs⟩ := h
      obtain ⟨parsed, hm⟩ := exists_parseMode_iff.2 hm
      obtain ⟨subs, hs⟩ := (exists_newSubRules_iff rules 0).2 hs
      rw [newRule, hv, if_neg (by simp), if_neg (by simpa using ho)]
      exact ⟨_, bind_eq_ok.2 ⟨parsed, hm, bind_eq_ok.2 ⟨subs, hs, rfl⟩⟩⟩

lemma exists_newSubRules_iff : ∀ (rules : List RuleOptions) (i : ℕ),
    (∃ subs, newSubRules lib i rules = .ok subs) ↔ SoundAll lib rules
  | [], i => by simp [newSubRules, SoundAll]
  | o :: rules, i => by
    rw [newSubRules, SoundAll, ← exists_newRule_iff o false, ← exists_newSubRules_iff rules (i + 1)]
    cases newRule lib false o with
    | error err => simp
    | ok rule => rw [and_iff_right ⟨rule, rfl⟩, exists_bind_pure_iff]

end

end RuleOptions

end SingBox.Route
