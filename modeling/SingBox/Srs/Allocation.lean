import SingBox.Lib.Traced
import SingBox.Srs.RoundTrip

namespace SingBox.Srs

open Lib.Wire Lib.Traced Route RuleItemType Formats

inductive Event where
  | makeRules (count left : ℕ)
  | makeRanges (count left : ℕ)
  | call (level : ℕ)
  deriving DecidableEq, Repr

namespace Event

def count : Event → ℕ
  | makeRules count _ | makeRanges count _ => count
  | call _ => 0

def Fits : Event → Prop
  | makeRules count left | makeRanges count left => count ≤ left
  | call _ => True

end Event

def allocated (log : List Event) : ℕ := (log.map Event.count).sum

structure Limits where
  maxRules : ℕ
  maxRanges : ℕ
  maxDepth : ℕ

def Limits.allows (limits : Limits) : Event → Bool
  | .makeRules count _ => decide (count ≤ limits.maxRules)
  | .makeRanges count _ => decide (count ≤ limits.maxRanges)
  | .call level => decide (level ≤ limits.maxDepth)

namespace Checked

variable {lib : Library} (w : Formats lib) (allowed : Event → Bool) (recover : Bool)

def readIPSet : Tracer Event (List IPRange) := do
  let version ← lift readByte
  if version ≠ 1 then lift (fail "invalid argument")
  else do
    let length ← lift (readBigEndian 8)
    announce allowed (.makeRanges length)
    let ranges ← lift (w.readRanges length)
    return ranges.map fun data => ⟨w.addrFromIP data.1, w.addrFromIP data.2⟩

def readItem (rule : DefaultHeadlessOptions) : RuleItemType → Tracer Event DefaultHeadlessOptions
  | .sourceIPCIDR => do
    let ipSet ← readIPSet w allowed
    let rule := { rule with sourceIPSet := some ipSet }
    return if recover then { rule with sourceIPCIDR := some (w.prefixes ipSet) } else rule
  | .ipCIDR => do
    let ipSet ← readIPSet w allowed
    let rule := { rule with ipSet := some ipSet }
    return if recover then { rule with ipCIDR := some (w.prefixes ipSet) } else rule
  | itemType => lift (Srs.readItem w recover rule itemType)

def readItems : ℕ → UInt8 → DefaultHeadlessOptions → Tracer Event DefaultHeadlessOptions
  | 0, _, _ => lift (fail "EOF")
  | turns + 1, lastItemType, rule => do
    let itemType ← lift readByte
    if itemType = ruleItemFinal then lift ((fun invert => { rule with invert }) <$> readBool)
    else match ofByte itemType with
      | none => lift (fail ("unknown rule item type: " ++ toString itemType ++ ", last type: " ++
          toString lastItemType))
      | some t => do
        let rule ← readItem w allowed recover rule t
        readItems turns itemType rule

def readDefaultRule : Tracer Event DefaultHeadlessOptions := fun s =>
  readItems w allowed recover s.length 0 {} s

def readLogicalRule (readRule : Tracer Event HeadlessRuleOptions) :
    Tracer Event HeadlessRuleOptions := do
  let mode ← lift readMode
  let length ← lift readUvarint
  announce allowed (.makeRules length)
  let rules ← readMany readRule
    (fun i err => Lib.Errors.cause err ("read logical rule [" ++ toString i ++ "]")) 0 length
  let invert ← lift readBool
  return .logical mode rules invert

def readRule : ℕ → ℕ → Tracer Event HeadlessRuleOptions
  | 0, _ => lift (fail "EOF")
  | depth + 1, level => do
    announce allowed fun _ => .call level
    let ruleType ← lift readByte
    if ruleType = 0 then do
      let options ← readDefaultRule w allowed recover
      return .default options
    else if ruleType = 1 then readLogicalRule allowed (readRule depth (level + 1))
    else lift (fail ("unknown rule type: " ++ toString ruleType))

def readRules : Tracer Event (List HeadlessRuleOptions) := fun s => (do
  let length ← lift readUvarint
  announce allowed (.makeRules length)
  readMany (readRule w allowed recover s.length 1)
    (fun i err => Lib.Errors.cause err ("read rule[" ++ toString i ++ "]")) 0 length :
      Tracer Event _) s

def read (data : Bytes) : List Event × Except Stop (List HeadlessRuleOptions) :=
  match readHeader data with
  | .error err => ([], .error (.error err))
  | .ok header => match w.delivers header.2 with
    | .error err => ([], .error (.error err))
    | .ok plain =>
      ((readRules w allowed recover plain).1, (readRules w allowed recover plain).2.map Prod.fst)

variable (w : Formats lib) (recover : Bool)

lemma models_readIPSet : Models (fun ok => readIPSet w ok) (Srs.readIPSet w) := by
  refine (Models.lift readByte).bind fun version => ?_
  by_cases hv : version ≠ 1
  · simp only [if_pos hv]
    exact .lift _
  · simp only [if_neg hv]
    refine (Models.lift _).bind fun length => .announce _ ?_
    exact (Models.lift _).bind fun ranges => .pure _

lemma models_readItem (rule : DefaultHeadlessOptions) (t : RuleItemType) :
    Models (fun ok => readItem w ok recover rule t) (Srs.readItem w recover rule t) := by
  cases t
  case sourceIPCIDR => exact (models_readIPSet w).bind fun ipSet => .pure _
  case ipCIDR => exact (models_readIPSet w).bind fun ipSet => .pure _
  all_goals exact .lift _

lemma models_readItems (turns : ℕ) (lastItemType : UInt8) (rule : DefaultHeadlessOptions) :
    Models (fun ok => readItems w ok recover turns lastItemType rule)
      (Srs.readItems w recover turns lastItemType rule) := by
  induction turns generalizing lastItemType rule with
  | zero => exact .lift _
  | succ turns ih =>
    refine (Models.lift readByte).bind fun itemType => ?_
    by_cases hfinal : itemType = ruleItemFinal
    · simp only [if_pos hfinal]
      exact .lift _
    · simp only [if_neg hfinal]
      cases ofByte itemType with
      | none => exact .lift _
      | some t => exact (models_readItem w recover rule t).bind fun rule => ih itemType rule

lemma models_readDefaultRule :
    Models (fun ok => readDefaultRule w ok recover) (Srs.readDefaultRule w recover) where
  result s := (models_readItems w recover s.length 0 {}).result s
  allowed ok s := (models_readItems w recover s.length 0 {}).allowed ok s
  refused ok s := (models_readItems w recover s.length 0 {}).refused ok s

lemma models_readLogicalRule {p : (Event → Bool) → Tracer Event HeadlessRuleOptions}
    {r : Reader HeadlessRuleOptions} (hp : Models p r) :
    Models (fun ok => readLogicalRule ok (p ok)) (Srs.readLogicalRule r) := by
  refine (Models.lift readMode).bind fun mode => (Models.lift readUvarint).bind fun length => ?_
  refine .announce _ ((hp.readMany _ 0 length).bind fun rules => ?_)
  exact (Models.lift readBool).bind fun invert => .pure _

lemma models_readRule (depth level : ℕ) :
    Models (fun ok => readRule w ok recover depth level) (Srs.readRule w recover depth) := by
  induction depth generalizing level with
  | zero => exact .lift _
  | succ depth ih =>
    refine .announce _ ((Models.lift readByte).bind fun ruleType => ?_)
    by_cases h0 : ruleType = 0
    · simp only [if_pos h0]
      exact (models_readDefaultRule w recover).bind fun options => .pure _
    · by_cases h1 : ruleType = 1
      · simp only [if_neg h0, if_pos h1]
        exact models_readLogicalRule (ih (level + 1))
      · simp only [if_neg h0, if_neg h1]
        exact .lift _

lemma models_readRules : Models (fun ok => readRules w ok recover) (Srs.readRules w recover) := by
  have h : ∀ depth, Models (fun ok => do
      let length ← lift readUvarint
      announce ok (.makeRules length)
      readMany (readRule w ok recover depth 1)
        (fun i err => Lib.Errors.cause err ("read rule[" ++ toString i ++ "]")) 0 length) (do
      let length ← readUvarint
      Lib.Wire.readMany (Srs.readRule w recover depth)
        (fun i err => Lib.Errors.cause err ("read rule[" ++ toString i ++ "]")) 0 length) := by
    intro depth
    refine (Models.lift readUvarint).bind fun length => ?_
    exact .announce _ ((models_readRule w recover depth 1).readMany _ 0 length)
  exact
    { result := fun s => (h s.length).result s
      allowed := fun ok s => (h s.length).allowed ok s
      refused := fun ok s => (h s.length).refused ok s }

end Checked

section Consuming

variable {lib : Library}

/-- The readers of the libraries do not run backwards, and a range takes at least a byte. -/
structure Consuming (w : Formats lib) : Prop where
  strings : Shrinks w.strings.read
  uint16s : Shrinks w.uint16s.read
  matcher : Shrinks w.readMatcher
  adGuardMatcher : Shrinks w.readAdGuardMatcher
  ranges : ∀ n s ranges rest, Reads (w.readRanges n) s ranges rest → n + rest.length ≤ s.length

variable {w : Formats lib} (hw : Consuming w) (recover : Bool)

include hw

lemma Consuming.readIPSet : Shrinks (readIPSet w) := by
  refine shrinks_readByte.bind fun version => ?_
  split_ifs
  · exact .fail _
  · refine (shrinks_readBigEndian 8).bind fun length => Shrinks.bind ?_ fun ranges => .pure _
    exact fun s ranges rest h => (Nat.le_add_left _ _).trans (hw.ranges length s ranges rest h)

lemma Consuming.readItem (rule : DefaultHeadlessOptions) (t : RuleItemType) :
    Shrinks (readItem w recover rule t) := by
  cases t
  case queryType | sourcePort | port => exact hw.uint16s.map
  case domain => exact hw.matcher.bind fun _ => .pure _
  case sourceIPCIDR | ipCIDR => exact hw.readIPSet.bind fun _ => .pure _
  case adGuardDomain =>
    rw [Srs.readItem]
    split_ifs
    · exact .fail _
    · exact hw.adGuardMatcher.map
  all_goals exact hw.strings.map

lemma Consuming.readItems (turns : ℕ) (lastItemType : UInt8) (rule : DefaultHeadlessOptions) :
    Shrinks (readItems w recover turns lastItemType rule) := by
  induction turns generalizing lastItemType rule with
  | zero => exact .fail _
  | succ turns ih =>
    refine shrinks_readByte.bind fun itemType => ?_
    split_ifs
    · exact shrinks_readBool.map
    · cases ofByte itemType with
      | none => exact .fail _
      | some t => exact (hw.readItem recover rule t).bind fun rule => ih itemType rule

lemma Consuming.readRule (depth : ℕ) : Consumes (readRule w recover depth) := by
  induction depth with
  | zero => rintro s rule rest ⟨⟩
  | succ depth ih =>
    have hmode : Shrinks readMode := by
      refine shrinks_readByte.bind fun mode => ?_
      split_ifs
      · exact .pure _
      · exact .pure _
      · exact .fail _
    refine consumes_readByte.bind fun ruleType => ?_
    split_ifs
    · exact Shrinks.map fun s o rest h => hw.readItems recover s.length 0 {} s o rest h
    · refine hmode.bind fun mode => shrinks_readUvarint.bind fun length => ?_
      exact (shrinks_readMany ih _ 0 length).bind fun rules => shrinks_readBool.bind fun _ => .pure _
    · exact .fail _

end Consuming

section Fitting

variable {lib : Library} {w : Formats lib} (hw : Consuming w) (recover : Bool)

lemma le_of_readMany_traced {p : (Event → Bool) → Tracer Event HeadlessRuleOptions}
    {r : Reader HeadlessRuleOptions} (hm : Models p r) (hr : Consumes r) {err : ℕ → String → String}
    {length : ℕ} {s rest : Bytes} {log : List Event} {rules : List HeadlessRuleOptions}
    (h : readMany (p fun _ => true) err 0 length s = (log, .ok (rules, rest))) :
    length ≤ s.length :=
  (Nat.le_add_right _ _).trans (le_of_readMany hr ((hm.readMany err 0 length).reads h))

include hw

lemma fitting_readIPSet : Fitting Event.Fits (Checked.readIPSet w fun _ => true) := by
  refine (Fitting.lift readByte).bind fun version => ?_
  split_ifs
  · exact .lift _
  · refine (Fitting.lift _).bind fun length => .announce ?_ ?_
    · exact (Fitting.lift _).bind fun ranges => .pure _
    · intro s log ipSet rest h
      obtain ⟨_, ranges, rest', _, hranges, _⟩ := bind_eq_ok h
      have hle := hw.ranges length s ranges rest' ((Models.lift (ε := Event) _).reads hranges)
      exact (Nat.le_add_right _ _).trans hle

lemma fitting_readItem (rule : DefaultHeadlessOptions) (t : RuleItemType) :
    Fitting Event.Fits (Checked.readItem w (fun _ => true) recover rule t) := by
  cases t
  case sourceIPCIDR => exact (fitting_readIPSet hw).bind fun _ => .pure _
  case ipCIDR => exact (fitting_readIPSet hw).bind fun _ => .pure _
  all_goals exact .lift _

lemma fitting_readItems (turns : ℕ) (lastItemType : UInt8) (rule : DefaultHeadlessOptions) :
    Fitting Event.Fits (Checked.readItems w (fun _ => true) recover turns lastItemType rule) := by
  induction turns generalizing lastItemType rule with
  | zero => exact .lift _
  | succ turns ih =>
    refine (Fitting.lift readByte).bind fun itemType => ?_
    split_ifs
    · exact .lift _
    · cases ofByte itemType with
      | none => exact .lift _
      | some t => exact (fitting_readItem hw recover rule t).bind fun rule => ih itemType rule

lemma fitting_readRule (depth level : ℕ) :
    Fitting Event.Fits (Checked.readRule w (fun _ => true) recover depth level) := by
  induction depth generalizing level with
  | zero => exact .lift _
  | succ depth ih =>
    refine .announce ((Fitting.lift readByte).bind fun ruleType => ?_) fun _ _ _ _ _ => trivial
    split_ifs
    · refine Fitting.bind (fun s log o rest h => ?_) fun _ => .pure _
      exact fitting_readItems hw recover s.length 0 {} s log o rest h
    · refine (Fitting.lift readMode).bind fun mode => (Fitting.lift readUvarint).bind fun length => ?_
      refine .announce (((ih (level + 1)).readMany 0 length).bind fun rules => ?_) ?_
      · exact (Fitting.lift readBool).bind fun _ => .pure _
      · intro s log rule rest h
        obtain ⟨_, rules, _, _, hrules, _⟩ := bind_eq_ok h
        exact le_of_readMany_traced (Checked.models_readRule w recover depth (level + 1))
          (hw.readRule recover depth) hrules
    · exact .lift _

lemma fitting_readRules : Fitting Event.Fits (Checked.readRules w (fun _ => true) recover) := by
  have h : ∀ depth, Fitting Event.Fits (do
      let length ← lift readUvarint
      announce (fun _ => true) (.makeRules length)
      readMany (Checked.readRule w (fun _ => true) recover depth 1)
        (fun i err => Lib.Errors.cause err ("read rule[" ++ toString i ++ "]")) 0 length) := by
    intro depth
    refine (Fitting.lift readUvarint).bind fun length => ?_
    refine .announce ((fitting_readRule hw recover depth 1).readMany 0 length) ?_
    intro s log rules rest h
    exact le_of_readMany_traced (Checked.models_readRule w recover depth 1)
      (hw.readRule recover depth) h
  exact fun s => h s.length s

end Fitting

variable {lib : Library} {w : Formats lib}

/-- The part of the expanded file that can be read. -/
def Plain (w : Formats lib) (data plain : Bytes) : Prop :=
  ∃ header, readHeader data = .ok header ∧ w.delivers header.2 = .ok plain

def declared (w : Formats lib) (recover : Bool) (plain : Bytes) : List Event :=
  (Checked.readRules w (fun _ => true) recover plain).1

variable {data plain : Bytes}

lemma read_of_plain (h : Plain w data plain) (allowed : Event → Bool) (recover : Bool) :
    Checked.read w allowed recover data =
      ((Checked.readRules w allowed recover plain).1,
        (Checked.readRules w allowed recover plain).2.map Prod.fst) := by
  obtain ⟨header, hheader, hplain⟩ := h
  rw [Checked.read, hheader]
  simp only
  rw [hplain]

lemma read_of_not_plain (h : ¬ ∃ plain, Plain w data plain) (allowed : Event → Bool)
    (recover : Bool) : ∃ err, Checked.read w allowed recover data = ([], .error (.error err)) := by
  rw [Checked.read]
  cases hheader : readHeader data with
  | error err => exact ⟨err, rfl⟩
  | ok header =>
    cases hplain : w.delivers header.2 with
    | error err => exact ⟨err, by simp only [hplain]⟩
    | ok plain => exact absurd ⟨plain, header, hheader, hplain⟩ h

variable {recover : Bool}

lemma read_of_allowed (h : Plain w data plain) {allowed : Event → Bool}
    (hall : ∀ e ∈ declared w recover plain, allowed e = true) :
    Checked.read w allowed recover data =
      (declared w recover plain, (read w recover data).mapError .error) := by
  have hm := Checked.models_readRules w recover
  rw [read_of_plain h, hm.allowed allowed plain hall, hm.result plain]
  obtain ⟨header, hheader, hplain⟩ := h
  have hread : read w recover data = (do let rules ← readRules w recover plain; return rules.1) := by
    change (readHeader data >>= fun header => w.delivers header.2 >>= _) = _
    rw [hheader]
    change (w.delivers header.2 >>= _) = _
    rw [hplain]
    rfl
  rw [hread, declared]
  cases readRules w recover plain <;> rfl

lemma fits_of_read_ok (hw : Consuming w) (h : Plain w data plain) {rules : List HeadlessRuleOptions}
    (hok : read w recover data = .ok rules) : ∀ e ∈ declared w recover plain, e.Fits := by
  have hread : Checked.read w (fun _ => true) recover data =
      (declared w recover plain, (read w recover data).mapError .error) :=
    read_of_allowed h fun _ _ => rfl
  rw [read_of_plain h, hok] at hread
  have hresult := congrArg Prod.snd hread
  cases hrules : (Checked.readRules w (fun _ => true) recover plain).2 with
  | error stop =>
    rw [hrules] at hresult
    cases hresult
  | ok x => exact fitting_readRules hw recover plain _ x.1 x.2 (Prod.ext rfl hrules)

theorem rule_set_read_safe_iff (hw : Consuming w) (limits : Limits) (factor : ℕ) (recover : Bool)
    (data : Bytes) :
    ((Checked.read w limits.allows recover data).2 ≠ .error .panic ∧
      ∀ plain, Plain w data plain →
        allocated (Checked.read w limits.allows recover data).1 ≤ factor * plain.length ∧
        ((∃ e ∈ (Checked.read w limits.allows recover data).1, ¬ e.Fits) →
          ∃ err, (Checked.read w limits.allows recover data).2 = .error (.error err))) ↔
      ∀ plain, Plain w data plain →
        (∀ e ∈ declared w recover plain, limits.allows e = true) ∧
          allocated (declared w recover plain) ≤ factor * plain.length := by
  constructor
  · rintro ⟨hpanic, h⟩ plain hplain
    have hall : ∀ e ∈ declared w recover plain, limits.allows e = true := by
      by_contra hbad
      refine hpanic ?_
      have hm := Checked.models_readRules w recover
      rw [read_of_plain hplain, hm.refused limits.allows plain (by simpa [declared] using hbad)]
      rfl
    have hbound := (h plain hplain).1
    rw [read_of_allowed hplain hall] at hbound
    exact ⟨hall, hbound⟩
  · intro h
    constructor
    · by_cases hp : ∃ plain, Plain w data plain
      · obtain ⟨plain, hplain⟩ := hp
        rw [read_of_allowed hplain (h plain hplain).1]
        cases read w recover data <;> simp [Except.mapError]
      · obtain ⟨err, hread⟩ := read_of_not_plain hp limits.allows recover
        simp [hread]
    · intro plain hplain
      obtain ⟨hall, hbound⟩ := h plain hplain
      rw [read_of_allowed hplain hall]
      refine ⟨hbound, ?_⟩
      rintro ⟨e, he, hbig⟩
      cases hread : read w recover data with
      | error err => exact ⟨err, rfl⟩
      | ok rules => exact absurd (fits_of_read_ok hw hplain hread e he) hbig

variable {α : Type} {f : Format α}

lemma shrinks_getList (hf : Shrinks f.read) (k : ℕ) : Shrinks (f.getList k) := by
  induction k with
  | zero => exact .fail _
  | succ k ih =>
    refine shrinks_readByte.bind fun b => ?_
    split_ifs
    · exact .pure _
    · exact hf.bind fun a => ih.bind fun l => .pure _

lemma shrinks_list (hf : Shrinks f.read) : Shrinks (Format.list f).read :=
  fun s => shrinks_getList hf s.length s

lemma consumes_list (hf : Shrinks f.read) : Consumes (Format.list f).read := by
  intro s l rest h
  cases s with
  | nil => cases h
  | cons b s =>
    have hread : Consumes (f.getList (s.length + 1)) := by
      refine consumes_readByte.bind fun b => ?_
      split_ifs
      · exact .pure _
      · exact hf.bind fun a => (shrinks_getList hf s.length).bind fun l => .pure _
    exact hread (b :: s) l rest h

lemma consuming_bare : Consuming bare := by
  have hstrings : Shrinks (Format.list Format.string).read :=
    shrinks_list (shrinks_list (shrinks_readBigEndian 4).map).map
  have hrange : Consumes rangeFormat.read :=
    (consumes_list shrinks_readByte).bind fun _ =>
      (shrinks_list shrinks_readByte).bind fun _ => .pure _
  exact
    { strings := hstrings
      uint16s := shrinks_list (shrinks_readBigEndian 2).map
      matcher := Shrinks.map (hstrings.bind fun _ => hstrings.bind fun _ => .pure _)
      adGuardMatcher := hstrings.map
      ranges := by
        intro n s ranges rest h
        change Reads (if n = 0 then (Format.list rangeFormat).read
          else Lib.Wire.readMany rangeFormat.read (fun _ err => err) 0 n) s ranges rest at h
        split_ifs at h with hn
        · have hle := shrinks_list hrange.shrinks s ranges rest h
          omega
        · exact le_of_readMany hrange h }

theorem rule_set_read_safe_single :
    (Checked.read bare (Limits.allows ⟨10, 10, 10⟩) false
        [0x53, 0x52, 0x53, 1, 1, 0, 0xFF, 0]).2 ≠ .error .panic ∧
      ∀ plain, Plain bare [0x53, 0x52, 0x53, 1, 1, 0, 0xFF, 0] plain →
        allocated (Checked.read bare (Limits.allows ⟨10, 10, 10⟩) false
          [0x53, 0x52, 0x53, 1, 1, 0, 0xFF, 0]).1 ≤ 1 * plain.length ∧
        ((∃ e ∈ (Checked.read bare (Limits.allows ⟨10, 10, 10⟩) false
            [0x53, 0x52, 0x53, 1, 1, 0, 0xFF, 0]).1, ¬ e.Fits) →
          ∃ err, (Checked.read bare (Limits.allows ⟨10, 10, 10⟩) false
            [0x53, 0x52, 0x53, 1, 1, 0, 0xFF, 0]).2 = .error (.error err)) := by
  refine (rule_set_read_safe_iff consuming_bare ⟨10, 10, 10⟩ 1 false _).2 ?_
  rintro plain ⟨header, hheader, hplain⟩
  cases hheader
  cases hplain
  exact ⟨by decide, by decide⟩

theorem declared_count_panics :
    Checked.read bare (Limits.allows ⟨2 ^ 48, 2 ^ 48, 10 ^ 6⟩) false
        [0x53, 0x52, 0x53, 1, 0x80, 0x80, 0x80, 0x80, 0x80, 0x80, 0x80, 0x80, 0x80, 1] =
      ([.makeRules (2 ^ 63) 0], .error .panic) := by
  rfl

end SingBox.Srs
