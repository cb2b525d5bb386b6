import Mathlib.Data.List.TakeWhile
import SingBox.Convertor.AdGuardFilters

namespace SingBox.AdGuard

open Lib.Text Lib.Errors Lib.LogicTree Route List HeadlessRule

variable {lib : Library} {hasRouter : Bool} {env : Env} {m : InboundContext} {name : String}

def covers (lib : Library) (it : RuleLine) (name : String) : Prop :=
  if it.isRawDomain then it.ruleLine = name
  else if it.isRegexp then regexpCovers lib it.ruleLine name
  else lib.newAdGuardMatcher [mapDomain it] name = true

def reading (lib : Library) (lines : List RuleLine) : RuleLine → String → Prop :=
  if lines.all RuleLine.isRawDomain then covers lib else passedOn lib

structure Plain (it : RuleLine) : Prop where
  isImportant : it.isImportant = false
  isExclude : it.isExclude = false
  isRegexp : it.isRegexp = false

variable {addrs : Addresses} {it : RuleLine}

def Blocks (covers : RuleLine → String → Prop) (lines : List RuleLine) (name : String) : Prop :=
  ¬ Covered covers lines true true name ∧
    (Covered covers lines true false name ∨
      ¬ Covered covers lines false true name ∧ Covered covers lines false false name)

variable {lines : List RuleLine}

lemma decides_iff_blocks {covers : RuleLine → String → Prop}
    (h : hasClass false false lines = true ∨ Covered covers lines true true name ∨
      Covered covers lines false true name) :
    Decides covers lines name ↔ Blocks covers lines name := by
  unfold Decides Blocks
  cases hclass : hasClass false false lines with
  | true => simp
  | false =>
    rw [hclass] at h
    tauto

lemma decides_of_unexcluded {covers : RuleLine → String → Prop} (hclass : hasClass false false lines = false)
    (h₁ : ¬ Covered covers lines true true name) (h₂ : ¬ Covered covers lines false true name) :
    Decides covers lines name :=
  ⟨h₁, .inr ⟨h₂, fun h => by rw [hclass] at h; cases h⟩⟩

lemma decides_raw (hraw : lines.all RuleLine.isRawDomain = true)
    (hplain : ∀ it ∈ lines, it.isRawDomain = true → Plain it) (hne : lines ≠ []) :
    Decides (covers lib) lines name ↔ ∃ it ∈ lines, it.ruleLine = name := by
  have hplain' : ∀ it ∈ lines, Plain it := fun it hit => hplain it hit (all_eq_true.1 hraw it hit)
  have hcovers : ∀ it ∈ lines, covers lib it name ↔ it.ruleLine = name := fun it hit => by
    rw [covers, if_pos (all_eq_true.1 hraw it hit)]
  have hnone : ∀ isImportant isExclude, isImportant = true ∨ isExclude = true →
      ¬ Covered (covers lib) lines isImportant isExclude name := by
    rintro isImportant isExclude h ⟨it, hit, ⟨rfl, rfl⟩, -⟩
    rw [(hplain' it hit).isImportant, (hplain' it hit).isExclude] at h
    simp at h
  have hclass : hasClass false false lines = true := by
    obtain ⟨it, hit⟩ := exists_mem_of_ne_nil lines hne
    exact hasClass_iff.2 ⟨it, hit, (hplain' it hit).isImportant, (hplain' it hit).isExclude⟩
  rw [Decides, hclass, imp_iff_right rfl, and_iff_right (hnone true true (.inl rfl)),
    or_iff_right (hnone true false (.inl rfl)), and_iff_right (hnone false true (.inr rfl))]
  constructor
  · rintro ⟨it, hit, -, h⟩
    exact ⟨it, hit, (hcovers it hit).1 h⟩
  · rintro ⟨it, hit, h⟩
    exact ⟨it, hit, ⟨(hplain' it hit).isImportant, (hplain' it hit).isExclude⟩, (hcovers it hit).2 h⟩

lemma means_convertLines (hlib : ByLine lib) (hplain : ∀ it ∈ lines, it.isRawDomain = true → Plain it)
    (hne : lines ≠ []) :
    Means lib hasRouter env (convertLines lines)
      (∀ it ∈ lines, it.isRegexp = true → Compiles lib (mapDomain it))
      (Decides (reading lib lines) lines) := by
  unfold convertLines reading
  split_ifs with hraw
  · have hmeans : Means lib hasRouter env _ _ _ := means_raw hlib hne
    refine ⟨hmeans.accepted.trans (iff_of_true trivial fun it hit hregexp => ?_),
      hmeans.meaning.congr fun name => (decides_raw hraw hplain hne).symm⟩
    rw [(hplain it hit (all_eq_true.1 hraw it hit)).isRegexp] at hregexp
    cases hregexp
  · have hmeans : Means lib hasRouter env _ _ _ := means_nested hlib lines
    exact ⟨hmeans.accepted.trans classCompiles_iff, hmeans.meaning⟩

variable {text : String}

lemma convert_eq_ok {rules : List HeadlessRuleOptions} :
    convert env addrs text = .ok rules ↔
      (∀ line ∈ scan (textLines text), (parseLine env addrs (dropCR line)).isPanic = false) ∧
        ruleLines env addrs (scan (textLines text)) ≠ [] ∧
        rules = [convertLines (ruleLines env addrs (scan (textLines text)))] := by
  unfold convert
  dsimp only
  split_ifs with hpanic hempty
  · refine iff_of_false (by simp) fun h => ?_
    obtain ⟨line, hline, htrue⟩ := any_eq_true.1 hpanic
    rw [h.1 line hline] at htrue
    cases htrue
  · exact iff_of_false (by simp) fun h => h.2.1 (List.isEmpty_iff.1 hempty)
  · rw [Except.ok.injEq]
    refine ⟨fun h => ⟨fun line hline => ?_, fun h => hempty (List.isEmpty_iff.2 h), h.symm⟩,
      fun h => h.2.2.symm⟩
    exact Bool.eq_false_iff.2 fun h => hpanic (any_eq_true.2 ⟨line, hline, h⟩)

namespace Filter

def isExclude : Filter → Bool
  | pattern isExclude _ _ _ _ | regexp isExclude _ _ => isExclude
  | _ => false

def isImportant : Filter → Bool
  | pattern _ _ _ _ isImportant | regexp _ _ isImportant => isImportant
  | _ => false

def isRaw : Filter → Bool
  | .name _ | .host _ _ => true
  | _ => false

def Covers (lib : Library) : Filter → String → Prop
  | comment _, _ => False
  | .name domain, n | .host _ domain, n => String.ofList domain = n
  | pattern _ anchor domain hasEnd _, n =>
    lib.newAdGuardMatcher [String.ofList (anchor.write ++ (domain ++ separator hasEnd))] n = true
  | regexp _ expression _, n => regexpCovers lib (String.ofList expression) n

def CoveredBy (lib : Library) (fs : List Filter) (isImportant isExclude : Bool) (n : String) : Prop :=
  ∃ f ∈ fs, (f.isImportant = isImportant ∧ f.isExclude = isExclude) ∧ f.Covers lib n

def Blocked (lib : Library) (fs : List Filter) (n : String) : Prop :=
  ¬ CoveredBy lib fs true true n ∧
    (CoveredBy lib fs true false n ∨ ¬ CoveredBy lib fs false true n ∧ CoveredBy lib fs false false n)

def Converts (lib : Library) (hasRouter : Bool) (env : Env) (addrs : Addresses) (fs : List Filter) : Prop :=
  ∃ rule r, convert env addrs (Filter.text fs) = .ok [rule] ∧ rule.newHeadlessRule lib hasRouter = .ok r ∧
    ∀ m n, Asks env m n → ((matchRule env r m).1 = true ↔ Blocked lib fs (env.toLower n))

structure Ordinary (lib : Library) (env : Env) (addrs : Addresses) (fs : List Filter) : Prop where
  wellFormed : ∀ f ∈ fs, f.WellFormed env addrs
  short : ∀ f ∈ fs, (String.ofList f.write).utf8ByteSize < 64 * 1024
  compiles : ∀ isExclude expression isImportant, regexp isExclude expression isImportant ∈ fs →
    Compiles lib (String.ofList expression)
  blocking : ∃ f ∈ fs, f.ruleLine?.isSome = true ∧ f.isImportant = false ∧ f.isExclude = false
  unmixed : (∀ f ∈ fs, f.ruleLine?.isSome = true → f.isRaw = true) ∨ ∀ f ∈ fs, f.isRaw = false

variable {f : Filter} {fs : List Filter}

lemma ruleLine_fields (h : f.ruleLine? = some it) :
    it.isImportant = f.isImportant ∧ it.isExclude = f.isExclude ∧ it.isRawDomain = f.isRaw := by
  cases f <;> cases h <;> exact ⟨rfl, rfl, rfl⟩

lemma mapDomain_pattern (isExclude : Bool) (anchor : Anchor) (domain : Line) (hasEnd isImportant : Bool) :
    mapDomain { ruleLine := String.ofList domain, isExclude, isSuffix := anchor = .suffix,
                hasStart := anchor = .start, hasEnd, isImportant } =
      String.ofList (anchor.write ++ (domain ++ separator hasEnd)) := by
  apply String.toList_inj.1
  cases anchor <;> cases hasEnd <;> simp [mapDomain, Anchor.write, separator]

lemma passedOn_iff_covers (h : f.ruleLine? = some it) (hraw : f.isRaw = false) :
    passedOn lib it name ↔ f.Covers lib name := by
  cases f with
  | comment _ => cases h
  | name _ => cases hraw
  | host _ _ => cases hraw
  | pattern isExclude anchor domain hasEnd isImportant =>
    cases h
    rw [passedOn, if_neg Bool.false_ne_true, mapDomain_pattern]
    rfl
  | regexp isExclude expression isImportant =>
    cases h
    rw [passedOn, if_pos rfl]
    simp only [mapDomain, Bool.false_eq_true, if_false, String.append_empty]
    rfl

lemma covers_iff_covers (h : f.ruleLine? = some it) (hraw : f.isRaw = true) :
    AdGuard.covers lib it name ↔ f.Covers lib name := by
  cases f with
  | name _ => cases h; exact Iff.rfl
  | host _ _ => cases h; exact Iff.rfl
  | _ => cases hraw

/-- Whether the names of the list are passed on as names depends on all of its lines. -/
lemma reading_iff (hunmixed : (∀ f ∈ fs, f.ruleLine?.isSome = true → f.isRaw = true) ∨
    ∀ f ∈ fs, f.isRaw = false) (hf : f ∈ fs) (h : f.ruleLine? = some it) :
    reading lib (fs.filterMap ruleLine?) it name ↔ f.Covers lib name := by
  rw [reading]
  rcases hunmixed with hraw | hraw
  · have hall : (fs.filterMap ruleLine?).all RuleLine.isRawDomain = true := by
      rw [all_eq_true]
      intro it' hit'
      obtain ⟨f', hf', h'⟩ := mem_filterMap.1 hit'
      rw [(ruleLine_fields h').2.2, hraw f' hf' (by rw [h']; rfl)]
    rw [if_pos hall]
    exact covers_iff_covers h (hraw f hf (by rw [h]; rfl))
  · have hall : ¬ (fs.filterMap ruleLine?).all RuleLine.isRawDomain = true := fun hall => by
      have htrue := all_eq_true.1 hall it (mem_filterMap.2 ⟨f, hf, h⟩)
      rw [(ruleLine_fields h).2.2, hraw f hf] at htrue
      cases htrue
    rw [if_neg hall]
    exact passedOn_iff_covers h (hraw f hf)

lemma covered_iff (hunmixed : (∀ f ∈ fs, f.ruleLine?.isSome = true → f.isRaw = true) ∨
    ∀ f ∈ fs, f.isRaw = false) (isImportant isExclude : Bool) :
    Covered (reading lib (fs.filterMap ruleLine?)) (fs.filterMap ruleLine?) isImportant isExclude name ↔
      CoveredBy lib fs isImportant isExclude name := by
  constructor
  · rintro ⟨it, hit, hclass, hcovers⟩
    obtain ⟨f, hf, h⟩ := mem_filterMap.1 hit
    obtain ⟨himportant, hexclude, -⟩ := ruleLine_fields h
    rw [himportant, hexclude] at hclass
    exact ⟨f, hf, hclass, (reading_iff hunmixed hf h).1 hcovers⟩
  · rintro ⟨f, hf, hclass, hcovers⟩
    cases h : f.ruleLine? with
    | none =>
      cases f with
      | comment _ => exact hcovers.elim
      | _ => cases h
    | some it =>
      obtain ⟨himportant, hexclude, -⟩ := ruleLine_fields h
      rw [← himportant, ← hexclude] at hclass
      exact ⟨it, mem_filterMap.2 ⟨f, hf, h⟩, hclass, (reading_iff hunmixed hf h).2 hcovers⟩

lemma convert_text (h : ∀ f ∈ fs, f.WellFormed env addrs)
    (hshort : ∀ f ∈ fs, (String.ofList f.write).utf8ByteSize < 64 * 1024)
    (hne : fs.filterMap ruleLine? ≠ []) :
    convert env addrs (Filter.text fs) = .ok [convertLines (fs.filterMap ruleLine?)] := by
  have hfs : fs ≠ [] := by
    rintro rfl
    exact hne rfl
  have hscan : scan (textLines (Filter.text fs)) = fs.map write := by
    rw [textLines_text h hfs, scan, takeWhile_eq_self_iff]
    intro line hline
    obtain ⟨f, hf, rfl⟩ := mem_map.1 hline
    exact decide_eq_true (hshort f hf)
  rw [convert_eq_ok, hscan, ruleLines_write h]
  refine ⟨fun line hline => ?_, hne, rfl⟩
  obtain ⟨f, hf, rfl⟩ := mem_map.1 hline
  rw [parseLine_dropCR h hf]
  cases f.ruleLine? <;> rfl

lemma plain_of_ruleLine (h : f.ruleLine? = some it) (hraw : it.isRawDomain = true) : Plain it := by
  cases f <;> cases h <;> first | exact ⟨rfl, rfl, rfl⟩ | cases hraw

end Filter

def nameEnv : Env :=
  { Env.bare with isDomainName := fun s => s != "" && s.toList.all fun c =>
      c.isAlphanum || c == '.' || c == '-' }

def noAddrs : Addresses where
  parseAddr _ := none
  isUnspecified _ := false

/-- The names after each of the points of a name. -/
def parents : Line → List Line
  | [] => []
  | c :: s => if c = '.' then s :: parents s else parents s

def suffixLib : Library :=
  { Library.bare with
    newAdGuardMatcher := fun lines name => lines.any fun line =>
      (name.toList :: parents name.toList).any fun domain =>
        line == String.ofList ("||".toList ++ (domain ++ ['^'])) }

lemma byLine_suffixLib : ByLine suffixLib where
  adGuard lines name := by simp only [suffixLib, any_cons, any_nil, Bool.or_false]
  domain _ _ := rfl

namespace Filter

def adsFilter (isImportant : Bool) : Filter :=
  .pattern false .suffix "ads.example".toList true isImportant

lemma wellFormed_pattern {isExclude hasEnd isImportant : Bool} {anchor : Anchor} {domain : Line}
    (hne : domain ≠ []) (hchars : domain.all isPatternChar = true)
    (hname : nameEnv.isDomainName (String.ofList (sample domain)) = true)
    (hline : nameEnv.isDomainName (String.ofList
      (pattern isExclude anchor domain hasEnd isImportant).write) = false) :
    (pattern isExclude anchor domain hasEnd isImportant).WellFormed nameEnv noAddrs :=
  ⟨hne, all_eq_true.1 hchars, hname, hline⟩

def adsList : List Filter :=
  [.comment " advertisements".toList, adsFilter false,
    .pattern true .suffix "good.ads.example".toList true false]

end Filter

end SingBox.AdGuard
