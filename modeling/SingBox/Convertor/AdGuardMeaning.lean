import SingBox.Convertor.AdGuard

namespace SingBox.AdGuard

open Lib.Text Lib.Errors Lib.LogicTree Route HeadlessRule HeadlessRuleOptions List DefaultRule HeadlessItem
open RuleLine

variable {lib : Library} {hasRouter : Bool} {env : Env} {m : InboundContext} {name : String}

structure Asks (env : Env) (m : InboundContext) (name : String) : Prop where
  ne : name ≠ ""
  host : domainHost env m = name
  adGuardHost : adGuardDomainHost m = name
  flags : m.flags = {}
  dnsFallBack : m.dnsFallBack = false
  fakeIPFilter : m.fakeIPFilter = false

lemma asks_of_ne (env : Env) (h : name ≠ "") :
    Asks env { domain := name, destination := { fqdn := name } } name where
  ne := h
  host := by
    unfold domainHost
    split_ifs <;> first | rfl | contradiction
  adGuardHost := by simp [adGuardDomainHost]
  flags := rfl
  dnsFallBack := rfl
  fakeIPFilter := rfl

lemma Asks.reset (h : Asks env m name) : Asks env m.resetRuleCache name :=
  ⟨h.ne, h.host, h.adGuardHost, rfl, h.dnsFallBack, h.fakeIPFilter⟩

variable (lib hasRouter) in
def Accepted (o : HeadlessRuleOptions) : Prop := ∃ r, o.newHeadlessRule lib hasRouter = .ok r

variable (lib hasRouter env) in
def Says (o : HeadlessRuleOptions) (P : String → Prop) : Prop :=
  ∀ r, o.newHeadlessRule lib hasRouter = .ok r → ∀ m name, Asks env m name →
    (answer env m r = true ↔ P (env.toLower name))

lemma Says.congr {o : HeadlessRuleOptions} {P Q : String → Prop} (h : Says lib hasRouter env o P)
    (hPQ : ∀ name, P name ↔ Q name) : Says lib hasRouter env o Q := fun r hr m name hm =>
  (h r hr m name hm).trans (hPQ _)

variable {a b : HeadlessRuleOptions} {P Q : String → Prop} {text : String} {mode : Mode}
  {r : HeadlessRule}

lemma newHeadlessRule_pair (hmode : parseMode text = .ok mode) :
    (logical text [a, b] false).newHeadlessRule lib hasRouter = .ok r ↔
      ∃ ra rb, a.newHeadlessRule lib hasRouter = .ok ra ∧ b.newHeadlessRule lib hasRouter = .ok rb ∧
        r = .node mode [ra, rb] false := by
  rw [newHeadlessRule_logical]
  constructor
  · rintro ⟨-, mode', subs, hmode', hsubs, rfl⟩
    cases hmode.symm.trans hmode'
    rcases hsubs with _ | ⟨ha, _ | ⟨hb, _ | _⟩⟩
    exact ⟨_, _, ha, hb, rfl⟩
  · rintro ⟨ra, rb, ha, hb, rfl⟩
    exact ⟨cons_ne_nil _ _, mode, _, hmode, .cons ha (.cons hb .nil), rfl⟩

lemma accepted_pair (hmode : parseMode text = .ok mode) :
    Accepted lib hasRouter (.logical text [a, b] false) ↔
      Accepted lib hasRouter a ∧ Accepted lib hasRouter b := by
  constructor
  · rintro ⟨r, hr⟩
    obtain ⟨ra, rb, ha, hb, -⟩ := (newHeadlessRule_pair hmode).1 hr
    exact ⟨⟨ra, ha⟩, rb, hb⟩
  · rintro ⟨⟨ra, ha⟩, rb, hb⟩
    exact ⟨_, (newHeadlessRule_pair hmode).2 ⟨ra, rb, ha, hb, rfl⟩⟩

lemma answer_and (h : Asks env m name) (ra rb : HeadlessRule) :
    answer env m (.node .and [ra, rb] false) =
      (answer env m.resetRuleCache ra && answer env m.resetRuleCache rb) := by
  rw [answer_reset h.dnsFallBack, answer_reset h.dnsFallBack]
  simp [answer, h.dnsFallBack, AndOrTree.holds, AndOrTree.holdsAll]

lemma answer_or (h : Asks env m name) (ra rb : HeadlessRule) :
    answer env m (.node .or [ra, rb] false) =
      (answer env m.resetRuleCache ra || answer env m.resetRuleCache rb) := by
  rw [answer_reset h.dnsFallBack, answer_reset h.dnsFallBack]
  simp [answer, h.dnsFallBack, AndOrTree.holds, AndOrTree.holdsAny]

lemma says_and (ha : Says lib hasRouter env a P) (hb : Says lib hasRouter env b Q) :
    Says lib hasRouter env (.logical "and" [a, b] false) fun name => P name ∧ Q name := by
  intro r hr m name hm
  obtain ⟨ra, rb, hra, hrb, rfl⟩ := (newHeadlessRule_pair (show parseMode "and" = .ok .and from rfl)).1 hr
  rw [answer_and hm, Bool.and_eq_true, ha ra hra _ _ hm.reset, hb rb hrb _ _ hm.reset]

lemma says_or (ha : Says lib hasRouter env a P) (hb : Says lib hasRouter env b Q) :
    Says lib hasRouter env (.logical "or" [a, b] false) fun name => P name ∨ Q name := by
  intro r hr m name hm
  obtain ⟨ra, rb, hra, hrb, rfl⟩ := (newHeadlessRule_pair (show parseMode "or" = .ok .or from rfl)).1 hr
  rw [answer_or hm, Bool.or_eq_true, ha ra hra _ _ hm.reset, hb rb hrb _ _ hm.reset]

lemma verdict_addressItems (h : Asks env m name) (l : List HeadlessItem) (invert : Bool) :
    DefaultHeadlessRule.verdict env { invert, destinationAddressItems := l } m =
      (l.isEmpty || (l.any fun i => i.holds env m) != invert) := by
  cases l with
  | nil => rfl
  | cons i l =>
    rw [DefaultHeadlessRule.verdict, h.dnsFallBack, h.fakeIPFilter, h.flags]
    cases hany : (i :: l).any fun i => i.holds env m <;> cases invert <;>
      simp_all [verdict, allItems, completes, flagsAfter,
        declares, satisfies, groupItems, Group.all]

lemma newDefaultHeadlessRule_domains (adGuardDomain domainRegex : List String) (invert : Bool) :
    newDefaultHeadlessRule lib hasRouter
        { adGuardDomain := some adGuardDomain, domainRegex := some domainRegex, invert } =
      (parseList "domain_regex" domainRegex (newDomainRegexItem lib)).map fun items =>
        { invert, destinationAddressItems := items ++ adGuardItems lib adGuardDomain none } := by
  simp only [newDefaultHeadlessRule, Listable.values, Option.getD]
  cases parseList "domain_regex" domainRegex (newDomainRegexItem lib) with
  | error err => rfl
  | ok items =>
    have hnil : items ++ adGuardItems lib adGuardDomain none =
        [domainItems lib [] [] none, [], items, adGuardItems lib adGuardDomain none].flatten := by
      simp [domainItems]
    rw [Except.map, hnil]
    cases hasRouter <;> rfl

def Compiles (lib : Library) (expression : String) : Prop :=
  ∃ matcher, lib.compileRegex expression = .ok matcher

def regexpCovers (lib : Library) (expression name : String) : Prop :=
  ∃ matcher, lib.compileRegex expression = .ok matcher ∧ matcher name = true

variable {expressions : List String} {items : List HeadlessItem}

lemma exists_regexItems_iff :
    (∃ items, parseList "domain_regex" expressions (newDomainRegexItem lib) = .ok items) ↔
      ∀ e ∈ expressions, Compiles lib e := by
  cases expressions with
  | nil => exact iff_of_true ⟨[], rfl⟩ fun e he => absurd he not_mem_nil
  | cons e l =>
    constructor
    · rintro ⟨items, h⟩ x hx
      obtain ⟨item, hitem, -⟩ := parseList_cons.1 h
      obtain ⟨matchers, hmatchers, -⟩ := newDomainRegexItem_eq_ok.1 hitem
      obtain ⟨matcher, -, hmatcher⟩ := exists_right_of_forall₂ hmatchers hx
      exact ⟨matcher, hmatcher⟩
    · intro h
      obtain ⟨matchers, hmatchers⟩ := exists_forall₂ h
      exact ⟨_, parseList_cons.2 ⟨_, newDomainRegexItem_eq_ok.2 ⟨matchers, hmatchers, rfl⟩, rfl⟩⟩

lemma regexItems_eq_ok
    (h : parseList "domain_regex" expressions (newDomainRegexItem lib) = .ok items)
    (hm : Asks env m name) :
    items.isEmpty = expressions.isEmpty ∧
      ((items.any fun i => i.holds env m) = true ↔
        ∃ e ∈ expressions, regexpCovers lib e (env.toLower name)) := by
  cases expressions with
  | nil =>
    cases h
    simp
  | cons e l =>
    obtain ⟨item, hitem, rfl⟩ := parseList_cons.1 h
    obtain ⟨matchers, hmatchers, rfl⟩ := newDomainRegexItem_eq_ok.1 hitem
    refine ⟨rfl, ?_⟩
    have hholds : (HeadlessItem.domainRegex matchers).holds env m =
        matchers.any fun matcher => matcher (env.toLower name) := by
      simp [holds, matchHost, hm.host, hm.ne]
    rw [any_cons, any_nil, Bool.or_false, hholds, any_eq_true]
    exact exists_mem_forall₂ hmatchers

/-- A matcher of several lines or names accepts what one of them accepts; a name is accepted by
itself alone. -/
structure ByLine (lib : Library) : Prop where
  adGuard : ∀ lines name, lib.newAdGuardMatcher lines name =
    lines.any fun line => lib.newAdGuardMatcher [line] name
  domain : ∀ domains name, lib.newMatcher domains [] name = domains.contains name

lemma adGuardItems_eq (hlib : ByLine lib) (lines : List String) (hm : Asks env m name) :
    (adGuardItems lib lines none).isEmpty = lines.isEmpty ∧
      (((adGuardItems lib lines none).any fun i => i.holds env m) = true ↔
        ∃ line ∈ lines, lib.newAdGuardMatcher [line] (env.toLower name) = true) := by
  cases lines with
  | nil => simp [adGuardItems]
  | cons line lines =>
    refine ⟨rfl, ?_⟩
    have hholds : (HeadlessItem.adGuardDomain (lib.newAdGuardMatcher (line :: lines))).holds env m =
        lib.newAdGuardMatcher (line :: lines) (env.toLower name) := by
      simp [holds, matchHost, hm.adGuardHost, hm.ne]
    have hitems : adGuardItems lib (line :: lines) none =
        [.adGuardDomain (lib.newAdGuardMatcher (line :: lines))] := rfl
    rw [hitems, any_cons, any_nil, Bool.or_false, hholds, hlib.adGuard, any_eq_true]

variable {lines : List RuleLine} {isImportant isExclude invert : Bool}

def passedOn (lib : Library) (it : RuleLine) (name : String) : Prop :=
  if it.isRegexp then regexpCovers lib (mapDomain it) name
  else lib.newAdGuardMatcher [mapDomain it] name = true

def Covered (covers : RuleLine → String → Prop) (lines : List RuleLine) (isImportant isExclude : Bool)
    (name : String) : Prop :=
  ∃ it ∈ lines, (it.isImportant = isImportant ∧ it.isExclude = isExclude) ∧ covers it name

lemma mem_select {isRegexp : Bool} : text ∈ select isImportant isExclude isRegexp lines ↔
      ∃ it ∈ lines, (it.isImportant = isImportant ∧ it.isExclude = isExclude) ∧
        it.isRegexp = isRegexp ∧ mapDomain it = text := by
  simp only [select, mem_map, mem_filter, Bool.and_eq_true, beq_iff_eq]
  constructor
  · rintro ⟨it, ⟨hit, ⟨hi, hr⟩, he⟩, htext⟩
    exact ⟨it, hit, ⟨hi, he⟩, hr, htext⟩
  · rintro ⟨it, hit, ⟨hi, he⟩, hr, htext⟩
    exact ⟨it, ⟨hit, ⟨hi, hr⟩, he⟩, htext⟩

lemma covered_passedOn_iff :
    Covered (passedOn lib) lines isImportant isExclude name ↔
      (∃ e ∈ select isImportant isExclude true lines, regexpCovers lib e name) ∨
        ∃ line ∈ select isImportant isExclude false lines, lib.newAdGuardMatcher [line] name = true := by
  constructor
  · rintro ⟨it, hit, hclass, hcovers⟩
    unfold passedOn at hcovers
    split_ifs at hcovers with hregexp
    · exact .inl ⟨_, mem_select.2 ⟨it, hit, hclass, hregexp, rfl⟩, hcovers⟩
    · exact .inr ⟨_, mem_select.2 ⟨it, hit, hclass, by simpa using hregexp, rfl⟩, hcovers⟩
  · rintro (⟨e, he, hcovers⟩ | ⟨line, hline, hcovers⟩)
    · obtain ⟨it, hit, hclass, hregexp, rfl⟩ := mem_select.1 he
      exact ⟨it, hit, hclass, by rwa [passedOn, if_pos hregexp]⟩
    · obtain ⟨it, hit, hclass, hregexp, rfl⟩ := mem_select.1 hline
      exact ⟨it, hit, hclass, by rwa [passedOn, if_neg (by simp [hregexp])]⟩

lemma hasClass_iff : hasClass isImportant isExclude lines = true ↔
    ∃ it ∈ lines, it.isImportant = isImportant ∧ it.isExclude = isExclude := by
  have hne : ∀ isRegexp, (select isImportant isExclude isRegexp lines).isEmpty = false ↔
      ∃ text, text ∈ select isImportant isExclude isRegexp lines := fun isRegexp => by
    rw [isEmpty_eq_false_iff]
    exact ⟨exists_mem_of_ne_nil _, fun ⟨_, h⟩ => ne_nil_of_mem h⟩
  rw [hasClass, Bool.or_eq_true, Bool.not_eq_true', Bool.not_eq_true', hne, hne]
  constructor
  · rintro (⟨text, h⟩ | ⟨text, h⟩)
    · obtain ⟨it, hit, hclass, -⟩ := mem_select.1 h
      exact ⟨it, hit, hclass⟩
    · obtain ⟨it, hit, hclass, -⟩ := mem_select.1 h
      exact ⟨it, hit, hclass⟩
  · rintro ⟨it, hit, hclass⟩
    cases hregexp : it.isRegexp with
    | false => exact .inl ⟨_, mem_select.2 ⟨it, hit, hclass, hregexp, rfl⟩⟩
    | true => exact .inr ⟨_, mem_select.2 ⟨it, hit, hclass, hregexp, rfl⟩⟩

lemma not_covered {covers : RuleLine → String → Prop} (h : hasClass isImportant isExclude lines = false) :
    ¬ Covered covers lines isImportant isExclude name := by
  rintro ⟨it, hit, hclass, -⟩
  rw [hasClass_iff.2 ⟨it, hit, hclass⟩] at h
  cases h

lemma newHeadlessRule_default {o : DefaultHeadlessOptions} (hvalid : o.isValid = true) :
    (HeadlessRuleOptions.default o).newHeadlessRule lib hasRouter = .ok r ↔
      ∃ d, newDefaultHeadlessRule lib hasRouter o = .ok d ∧ r = .leaf d := by
  rw [newHeadlessRule, hvalid, if_neg (by decide), bind_eq_ok]
  exact exists_congr fun d => and_congr_right fun _ =>
    ⟨fun h => (Except.ok.inj h).symm, fun h => h ▸ rfl⟩

lemma newHeadlessRule_classRule :
    (classRule isImportant isExclude invert lines).newHeadlessRule lib hasRouter = .ok r ↔
      ∃ items, parseList "domain_regex" (select isImportant isExclude true lines)
          (newDomainRegexItem lib) = .ok items ∧
        r = .leaf { invert, destinationAddressItems :=
          items ++ adGuardItems lib (select isImportant isExclude false lines) none } := by
  rw [classRule, newHeadlessRule_default (by simp [DefaultHeadlessOptions.isValid,
    DefaultHeadlessOptions.textLists]), newDefaultHeadlessRule_domains]
  constructor
  · rintro ⟨d, hd, rfl⟩
    obtain ⟨items, hitems, rfl⟩ := map_eq_ok.1 hd
    exact ⟨items, hitems, rfl⟩
  · rintro ⟨items, hitems, rfl⟩
    exact ⟨_, map_eq_ok.2 ⟨items, hitems, rfl⟩, rfl⟩

variable (lib lines) in
def ClassCompiles (isImportant isExclude : Bool) : Prop :=
  ∀ it ∈ lines, (it.isImportant = isImportant ∧ it.isExclude = isExclude) → it.isRegexp = true →
    Compiles lib (mapDomain it)

lemma accepted_classRule :
    Accepted lib hasRouter (classRule isImportant isExclude invert lines) ↔
      ClassCompiles lib lines isImportant isExclude := by
  have hitems : Accepted lib hasRouter (classRule isImportant isExclude invert lines) ↔
      ∀ e ∈ select isImportant isExclude true lines, Compiles lib e := by
    rw [← exists_regexItems_iff]
    constructor
    · rintro ⟨r, hr⟩
      obtain ⟨items, hitems, -⟩ := newHeadlessRule_classRule.1 hr
      exact ⟨items, hitems⟩
    · rintro ⟨items, hitems⟩
      exact ⟨_, newHeadlessRule_classRule.2 ⟨items, hitems, rfl⟩⟩
  rw [hitems]
  constructor
  · exact fun h it hit hclass hregexp => h _ (mem_select.2 ⟨it, hit, hclass, hregexp, rfl⟩)
  · intro h e he
    obtain ⟨it, hit, hclass, hregexp, rfl⟩ := mem_select.1 he
    exact h it hit hclass hregexp

lemma says_classRule (hlib : ByLine lib) (lines : List RuleLine) (isImportant isExclude invert : Bool) :
    Says lib hasRouter env (classRule isImportant isExclude invert lines) fun name =>
      hasClass isImportant isExclude lines = true →
        (Covered (passedOn lib) lines isImportant isExclude name ↔ invert = false) := by
  intro r hr m name hm
  obtain ⟨items, hitems, rfl⟩ := newHeadlessRule_classRule.1 hr
  obtain ⟨hempty, hany⟩ := regexItems_eq_ok hitems hm
  obtain ⟨hempty', hany'⟩ := adGuardItems_eq hlib (select isImportant isExclude false lines) hm
  have hclass : (items ++ adGuardItems lib (select isImportant isExclude false lines) none).isEmpty =
      !hasClass isImportant isExclude lines := by
    have happend : ∀ l : List HeadlessItem, (items ++ l).isEmpty = (items.isEmpty && l.isEmpty) :=
      fun l => by cases items <;> rfl
    rw [happend, hempty, hempty', hasClass, Bool.not_or, Bool.not_not, Bool.not_not, Bool.and_comm]
  dsimp only
  rw [answer, verdict_addressItems hm, hclass, covered_passedOn_iff, ← hany, ← hany']
  cases hasClass isImportant isExclude lines <;> cases invert <;> simp

def Decides (covers : RuleLine → String → Prop) (lines : List RuleLine) (name : String) : Prop :=
  ¬ Covered covers lines true true name ∧
    (Covered covers lines true false name ∨
      ¬ Covered covers lines false true name ∧
        (hasClass false false lines = true → Covered covers lines false false name))

variable (lib hasRouter env) in
structure Means (rule : HeadlessRuleOptions) (C : Prop) (P : String → Prop) : Prop where
  accepted : Accepted lib hasRouter rule ↔ C
  meaning : Says lib hasRouter env rule P

lemma means_ordinary (hlib : ByLine lib) (lines : List RuleLine) :
    Means lib hasRouter env (classRule false false false lines) (ClassCompiles lib lines false false)
      fun name => hasClass false false lines = true → Covered (passedOn lib) lines false false name where
  accepted := accepted_classRule
  meaning := (says_classRule hlib lines false false false).congr fun name => by simp

variable {rule : HeadlessRuleOptions} {C : Prop}

lemma classCompiles_of_not_hasClass (h : ¬ hasClass isImportant isExclude lines = true) :
    ClassCompiles lib lines isImportant isExclude :=
  fun it hit hclass => absurd (hasClass_iff.2 ⟨it, hit, hclass⟩) h

lemma means_exclusion (hlib : ByLine lib) (isImportant : Bool) (hrule : Means lib hasRouter env rule C P) :
    Means lib hasRouter env
      (if hasClass isImportant true lines then
        .logical "and" [classRule isImportant true true lines, rule] false else rule)
      (ClassCompiles lib lines isImportant true ∧ C)
      fun name => ¬ Covered (passedOn lib) lines isImportant true name ∧ P name := by
  split_ifs with hclass
  · refine ⟨?_, (says_and (says_classRule hlib lines isImportant true true) hrule.meaning).congr
      fun name => by simp [hclass]⟩
    rw [accepted_pair (show parseMode "and" = .ok .and from rfl), accepted_classRule, hrule.accepted]
  · refine ⟨?_, hrule.meaning.congr fun name => by simp [not_covered (Bool.eq_false_iff.2 hclass)]⟩
    rw [hrule.accepted, and_iff_right (classCompiles_of_not_hasClass hclass)]

lemma means_important (hlib : ByLine lib) (hrule : Means lib hasRouter env rule C P) :
    Means lib hasRouter env
      (if hasClass true false lines then
        .logical "or" [classRule true false false lines, rule] false else rule)
      (ClassCompiles lib lines true false ∧ C)
      fun name => Covered (passedOn lib) lines true false name ∨ P name := by
  split_ifs with hclass
  · refine ⟨?_, (says_or (says_classRule hlib lines true false false) hrule.meaning).congr
      fun name => by simp [hclass]⟩
    rw [accepted_pair (show parseMode "or" = .ok .or from rfl), accepted_classRule, hrule.accepted]
  · refine ⟨?_, hrule.meaning.congr fun name => by simp [not_covered (Bool.eq_false_iff.2 hclass)]⟩
    rw [hrule.accepted, and_iff_right (classCompiles_of_not_hasClass hclass)]

lemma means_nested (hlib : ByLine lib) (lines : List RuleLine) :
    Means lib hasRouter env (importantExcludeRule lines)
      (ClassCompiles lib lines true true ∧ ClassCompiles lib lines true false ∧
        ClassCompiles lib lines false true ∧ ClassCompiles lib lines false false)
      (Decides (passedOn lib) lines) :=
  means_exclusion hlib true (means_important hlib (means_exclusion hlib false (means_ordinary hlib lines)))

lemma classCompiles_iff :
    (ClassCompiles lib lines true true ∧ ClassCompiles lib lines true false ∧
        ClassCompiles lib lines false true ∧ ClassCompiles lib lines false false) ↔
      ∀ it ∈ lines, it.isRegexp = true → Compiles lib (mapDomain it) := by
  constructor
  · rintro ⟨h₁, h₂, h₃, h₄⟩ it hit hregexp
    cases hi : it.isImportant <;> cases he : it.isExclude
    · exact h₄ it hit ⟨hi, he⟩ hregexp
    · exact h₃ it hit ⟨hi, he⟩ hregexp
    · exact h₂ it hit ⟨hi, he⟩ hregexp
    · exact h₁ it hit ⟨hi, he⟩ hregexp
  · exact fun h => ⟨fun it hit _ => h it hit, fun it hit _ => h it hit, fun it hit _ => h it hit,
      fun it hit _ => h it hit⟩

lemma means_raw (hlib : ByLine lib) (hne : lines ≠ []) :
    Means lib hasRouter env (.default { domain := some (lines.map ruleLine) }) True
      fun name => ∃ it ∈ lines, it.ruleLine = name := by
  have hnames : (lines.map ruleLine).isEmpty = false := by simpa using hne
  have hnew : newDefaultHeadlessRule lib hasRouter { domain := some (lines.map ruleLine) } =
      .ok { destinationAddressItems := [.domain (lib.newMatcher (lines.map ruleLine) [])] } := by
    have hitems : domainItems lib (lines.map ruleLine) [] none =
        [.domain (lib.newMatcher (lines.map ruleLine) [])] := by
      simp [domainItems, newDomainItem, hnames]
    simp only [newDefaultHeadlessRule, Listable.values, Option.getD, hitems]
    cases hasRouter <;> rfl
  have hbuilt : ∀ r, newHeadlessRule lib hasRouter
      (.default { domain := some (lines.map ruleLine) }) = .ok r ↔
      r = .leaf { destinationAddressItems :=
        [.domain (lib.newMatcher (lines.map ruleLine) [])] } := fun r => by
    rw [newHeadlessRule_default rfl, hnew]
    simp
  refine ⟨iff_of_true ⟨_, (hbuilt _).2 rfl⟩ trivial, fun r hr m name hm => ?_⟩
  rw [(hbuilt r).1 hr, answer, verdict_addressItems hm]
  simp [holds, matchHost, hm.host, hm.ne, hlib.domain]

end SingBox.AdGuard
