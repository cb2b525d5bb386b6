import SingBox.Srs.Decode

namespace SingBox.Srs

open Lib.Errors Lib.Wire Route HeadlessRuleOptions DefaultHeadlessOptions List Format

variable {lib : Library} {hasRouter : Bool} {o o' : DefaultHeadlessOptions}
  {values : List String} {ipSet : Option (List IPRange)}

lemma ipCIDRItems_denotes (h : DenotesSet lib values ipSet) (name : String) (isSource : Bool) :
    ipCIDRItems lib name isSource [] ipSet = ipCIDRItems lib name isSource values none := by
  cases ipSet with
  | none =>
    rw [show values = [] from h]
  | some ipSet =>
    obtain ⟨hne, hparse⟩ := h
    have hempty : values.isEmpty = false := by simpa using hne
    have hitem : HeadlessItem.newIPCIDRItem lib isSource values =
        .ok (.ipCIDR isSource (lib.contains ipSet)) :=
      bind_eq_ok.2 ⟨ipSet, hparse, rfl⟩
    rw [ipCIDRItems, if_neg (by simp), ipCIDRItems, parseList, hitem, hempty]
    rfl

lemma domainItems_accepts {matcher : Option DomainMatcher}
    (h : matcher.map DomainMatcher.accepts = domainSet lib o) :
    domainItems lib [] [] matcher = domainItems lib o.domain.values o.domainSuffix.values none := by
  have hraw : (matcher.map newRawDomainItem).toList =
      ((matcher.map DomainMatcher.accepts).map HeadlessItem.domain).toList := by
    rw [Option.map_map]
    rfl
  rw [domainItems, if_neg (by simp), hraw, h, domainSet, domainItems, newDomainItem]
  split_ifs <;> rfl

lemma adGuardItems_adGuardSet :
    adGuardItems lib [] (adGuardSet lib o) = adGuardItems lib o.adGuardDomain.values none := by
  rw [adGuardItems, if_neg (by simp), adGuardSet, adGuardItems]
  split_ifs with h h' h' <;> simp_all

lemma newDefaultHeadlessRule_compiled (h : Compiled lib o o') (hplain : o.Plain) :
    newDefaultHeadlessRule lib hasRouter o' = newDefaultHeadlessRule lib hasRouter o := by
  obtain ⟨matcher, sourceIPSet, ipSet, rfl, hmatcher, hsource, hip⟩ := h
  have hnil : Listable.values (none : Listable String) = [] := rfl
  simp only [newDefaultHeadlessRule, compiled, written_values, hnil, hplain.domainMatcher,
    hplain.sourceIPSet, hplain.ipSet, hplain.adGuardDomainMatcher, ipCIDRItems_denotes hsource,
    ipCIDRItems_denotes hip, domainItems_accepts hmatcher, adGuardItems_adGuardSet]

lemma DenotesSet.isSome (h : DenotesSet lib values ipSet) : ipSet.isSome = !values.isEmpty := by
  cases ipSet with
  | none =>
    rw [show values = [] from h]
    rfl
  | some ipSet => simp [h.1]

lemma Compiled.isValid (h : Compiled lib o o') : o'.isValid = o.hasValues := by
  obtain ⟨matcher, sourceIPSet, ipSet, rfl, hmatcher, hsource, hip⟩ := h
  have hm : matcher.isSome = (!o.domain.values.isEmpty || !o.domainSuffix.values.isEmpty) := by
    rw [← Option.isSome_map, hmatcher, domainSet]
    split_ifs with hd <;> simp_all
  have ha : (adGuardSet lib o).isSome = !o.adGuardDomain.values.isEmpty := by
    rw [adGuardSet]
    split_ifs with hd <;> simp_all
  simp only [DefaultHeadlessOptions.isValid, hasValues,
    textLists, numberLists, compiled, any_cons,
    any_nil, written_isSome, hm, ha, hsource.isSome, hip.isSome, Option.isSome_none,
    Bool.or_false, Bool.false_or]
  ac_rfl

def Filled (o : DefaultHeadlessOptions) : Prop := o.Plain ∧ o.isValid = o.hasValues

lemma filled_of_hasValues (hplain : o.Plain) (h : o.hasValues = true) : Filled o := by
  have hsome : ∀ {α : Type} (l : Listable α), (!l.values.isEmpty) = true → l.isSome = true := by
    intro α l hl
    cases l with
    | none => cases hl
    | some l => rfl
  refine ⟨hplain, ?_⟩
  rw [h, DefaultHeadlessOptions.isValid]
  rw [hasValues, Bool.or_eq_true, any_eq_true, any_eq_true] at h
  rcases h with ⟨l, hl, hv⟩ | ⟨l, hl, hv⟩
  · rw [any_eq_true.2 ⟨l, hl, hsome l hv⟩]
    rfl
  · rw [any_eq_true.2 ⟨l, hl, hsome l hv⟩, Bool.or_true]
    rfl

def BuiltAlike (lib : Library) (hasRouter : Bool) (rule rule' : HeadlessRuleOptions) : Prop :=
  rule'.isValid = rule.isValid ∧
    newHeadlessRule lib hasRouter rule' = newHeadlessRule lib hasRouter rule

lemma BuiltAlike.logical {rules rules' : List HeadlessRuleOptions}
    (h : List.Forall₂ (BuiltAlike lib hasRouter) rules rules') (mode : String) (invert : Bool) :
    BuiltAlike lib hasRouter (.logical mode rules invert) (.logical mode rules' invert) := by
  have hvalid : allValid rules' = allValid rules := by
    induction h with
    | nil => rfl
    | cons h _ ih => rw [allValid, allValid, h.1, ih]
  have hsub : ∀ i, newSubRules lib hasRouter i rules' = newSubRules lib hasRouter i rules := by
    clear hvalid
    induction h with
    | nil => exact fun _ => rfl
    | cons h _ ih =>
      intro i
      rw [newSubRules, newSubRules, h.2]
      simp only [ih]
  have hempty : rules'.isEmpty = rules.isEmpty := by
    cases h <;> rfl
  have hv : isValid (.logical mode rules' invert) = isValid (.logical mode rules invert) := by
    rw [HeadlessRuleOptions.isValid, HeadlessRuleOptions.isValid, hempty, hvalid]
  exact ⟨hv, by rw [newHeadlessRule, newHeadlessRule, hv, hsub]⟩

lemma builtAlike (hasRouter : Bool) {rule rule' : HeadlessRuleOptions}
    (h : SameShape (Compiled lib) rule rule')
    (hfilled : ∀ o ∈ rule.leaves, Filled o) : BuiltAlike lib hasRouter rule rule' := by
  induction rule using HeadlessRuleOptions.induction generalizing rule' with
  | default o =>
    cases h with
    | default h =>
      obtain ⟨hplain, hvalid⟩ := hfilled o (by simp [leaves])
      have hv := h.isValid.trans hvalid.symm
      refine ⟨hv, ?_⟩
      rw [newHeadlessRule, newHeadlessRule, hv, newDefaultHeadlessRule_compiled h hplain]
  | logical mode rules invert ih =>
    cases h with
    | logical h =>
      rw [leaves] at hfilled
      apply BuiltAlike.logical
      induction h with
      | nil => exact .nil
      | cons h _ ihl =>
        rw [leavesOf] at hfilled
        exact .cons (ih _ mem_cons_self h fun o ho => hfilled o (mem_append_left _ ho))
          (ihl (fun rule hrule => ih rule (mem_cons_of_mem _ hrule))
            fun o ho => hfilled o (mem_append_right _ ho))

variable (w : Formats lib) (hasRouter : Bool)

def SameMatches (lib : Library) (hasRouter : Bool) (rule decoded : HeadlessRuleOptions) : Prop :=
  ∀ r, newHeadlessRule lib hasRouter rule = .ok r →
    ∃ r', newHeadlessRule lib hasRouter decoded = .ok r' ∧
      ∀ (env : Env) (m : InboundContext), (HeadlessRule.matchRule env r' m.resetRuleCache).1 =
        (HeadlessRule.matchRule env r m.resetRuleCache).1

def RoundTrips (rules : List HeadlessRuleOptions) (data : Bytes) : Prop :=
  ∃ decoded, read w false data = .ok decoded ∧
    List.Forall₂ (SameShape (SameItems lib)) rules decoded ∧
    List.Forall₂ (SameMatches lib hasRouter) rules decoded

variable {w hasRouter}
  {rule decoded : HeadlessRuleOptions}

lemma sameMatches_of_hasValues (hsame : SameShape (Compiled lib) rule decoded)
    (hplain : ∀ o ∈ rule.leaves, o.Plain)
    (hvalues : ∀ r, newHeadlessRule lib hasRouter rule = .ok r →
      ∀ o ∈ rule.leaves, o.hasValues = true) : SameMatches lib hasRouter rule decoded := by
  intro r hr
  have hbuilt := (builtAlike hasRouter hsame fun o ho =>
    filled_of_hasValues (hplain o ho) (hvalues r hr o ho)).2
  exact ⟨r, hbuilt.trans hr, fun _ _ => rfl⟩

lemma hasValues_of_sameMatches (hsame : SameShape (Compiled lib) rule decoded)
    (h : SameMatches lib hasRouter rule decoded) {r : HeadlessRule}
    (hr : newHeadlessRule lib hasRouter rule = .ok r) : ∀ o ∈ rule.leaves, o.hasValues = true := by
  obtain ⟨r', hr', _⟩ := h r hr
  have hvalid := isValid_leaves (newHeadlessRule_valid hr')
  intro o ho
  obtain ⟨i, hi, rfl⟩ := getElem_of_mem ho
  have hlen := hsame.leaves.length_eq
  have hcompiled := hsame.leaves.get hi (hlen ▸ hi)
  exact hcompiled.isValid.symm.trans (hvalid _ (get_mem _ _))

theorem rule_set_round_trip_iff {generateUnstable : Bool} {rules : List HeadlessRuleOptions}
    (hplain : ∀ rule ∈ rules, ∀ o ∈ rule.leaves, o.Plain) (hfits : FitsAll lib rules) {data : Bytes}
    (hdata : write w generateUnstable rules = .ok data) :
    RoundTrips w hasRouter rules data ↔
      ∀ rule ∈ rules, ∀ r, newHeadlessRule lib hasRouter rule = .ok r →
        ∀ o ∈ rule.leaves, o.hasValues = true := by
  obtain ⟨decoded, hread, hsame⟩ := read_write hfits hdata
  constructor
  · rintro ⟨decoded', hread', _, hmatches⟩ rule hrule r hr
    obtain rfl : decoded = decoded' := Except.ok.inj (hread.symm.trans hread')
    obtain ⟨i, hi, rfl⟩ := getElem_of_mem hrule
    have hi' := hsame.length_eq ▸ hi
    exact hasValues_of_sameMatches (hsame.get hi hi') (hmatches.get hi hi') hr
  · intro hvalues
    refine ⟨decoded, hread, hsame.imp fun _ _ h => h.mono fun _ _ => Compiled.sameItems, ?_⟩
    clear hread hdata hfits
    induction hsame with
    | nil => exact .nil
    | cons h _ ih =>
      exact .cons
        (sameMatches_of_hasValues h (hplain _ mem_cons_self) (hvalues _ mem_cons_self))
        (ih (fun rule hrule => hplain rule (mem_cons_of_mem _ hrule))
          (fun rule hrule => hvalues rule (mem_cons_of_mem _ hrule)))

def addrFormat : Format (Option IPAddr) :=
  .iso (.pair .byte (.pair (.bigEndian 16 BitVec.toNat (BitVec.ofNat 128) (fun a => a.isLt)
      (fun a => by simp)) .string))
    (fun addr => match addr with
      | none => (0, 0#128, "")
      | some (.v4 bits) => (1, bits.setWidth 128, "")
      | some (.v6 bits zone) => (2, bits, zone))
    (fun data =>
      if data.1 = 0 then none
      else if data.1 = 1 then some (.v4 (data.2.1.setWidth 32))
      else some (.v6 data.2.1 data.2.2))
    (fun addr => by
      rcases addr with _ | bits | ⟨bits, zone⟩
      · rfl
      · simp
      · rfl)

def rangeFormat : Format (Bytes × Bytes) := .pair (.list .byte) (.list .byte)

def Formats.bare : Formats .bare where
  strings := .list .string
  uint16s := .list .uint16
  writeMatcher _ domains suffixes :=
    (pair (.list .string) (.list .string)).write (domains, suffixes)
  readMatcher := (fun lists => ⟨Library.bare.newMatcher lists.1 lists.2, lists⟩) <$>
    (pair (.list .string) (.list .string)).read
  reads_matcher _ domains suffixes := ⟨(domains, suffixes), fun rest =>
    ((pair (.list .string) (.list .string)).reads (domains, suffixes) rest).map⟩
  writeAdGuardMatcher := (list .string).write
  readAdGuardMatcher := Library.bare.newAdGuardMatcher <$> (list .string).read
  reads_adGuardMatcher lines rest := ((list .string).reads lines rest).map
  writeRange := rangeFormat.write
  readRanges n :=
    if n = 0 then (list rangeFormat).read
    else readMany rangeFormat.read (fun _ err => err) 0 n
  reads_ranges ranges hne rest := by
    rw [if_neg (length_pos_of_ne_nil hne).ne']
    have hchunks : List.Forall₂ (fun chunk a => ∀ rest, Reads rangeFormat.read (chunk ++ rest) a rest)
        (ranges.map rangeFormat.write) ranges := by
      rw [forall₂_map_left_iff, forall₂_same]
      exact fun range _ => rangeFormat.reads range
    exact readMany_flatten hchunks 0 rest
  buildIPSet_ne_nil _ hne := hne
  asSlice := addrFormat.write
  addrFromIP data := match addrFormat.read data with
    | .ok (addr, _) => addr
    | .error _ => none
  addrFromIP_asSlice ranges range _ := by
    have hread : ∀ addr, Reads addrFormat.read (addrFormat.write addr) addr [] := fun addr => by
      simpa using addrFormat.reads addr []
    rw [hread, hread]
    exact ⟨rfl, rfl⟩
  prefixes _ := []
  compress data := data
  delivers := .ok
  delivers_compress _ := rfl

def loopbackRules : List HeadlessRuleOptions :=
  [.logical "or" [.default { domain := some ["a.com"], ipCIDR := some ["127.0.0.1"] },
    .default { port := some [53], invert := true }] false]

theorem rule_set_round_trip_loopback :
    ∃ data, write Formats.bare true loopbackRules = .ok data ∧
      RoundTrips Formats.bare true loopbackRules data := by
  refine ⟨_, rfl, (rule_set_round_trip_iff ?_ ?_ rfl).2 ?_⟩
  · simp only [loopbackRules, mem_singleton, forall_eq, leaves, leavesOf]
    simp only [append_nil, cons_append, nil_append, forall_mem_cons]
    exact ⟨⟨rfl, rfl, rfl, rfl⟩, ⟨rfl, rfl, rfl, rfl⟩, fun _ h => absurd h not_mem_nil⟩
  · have hnone : FitsSet .bare [] := fun ipSet h => by
      obtain rfl : [] = ipSet := Except.ok.inj h
      decide
    have hone : FitsSet .bare ["127.0.0.1"] := fun ipSet h => by
      obtain rfl : [.single (.v4 0x7F000001#32)] = ipSet := Except.ok.inj h
      decide
    exact ⟨by decide, ⟨by decide, ⟨hnone, hone⟩, ⟨hnone, hnone⟩, trivial⟩, trivial⟩
  · intro rule hrule r _
    rw [loopbackRules, mem_singleton] at hrule
    subst hrule
    decide

theorem rule_set_round_trip_empty_list :
    let rules : List HeadlessRuleOptions := [.default { domain := some [] }]
    let data : Bytes := [0x53, 0x52, 0x53, 1, 1, 0, 0xFF, 0]
    write Formats.bare false rules = .ok data ∧
      read Formats.bare false data = .ok [.default {}] ∧
      newHeadlessRule .bare true (.default { domain := some [] }) = .ok (.leaf {}) ∧
      newHeadlessRule .bare true (.default {}) = .error "missing conditions" ∧
      ¬RoundTrips Formats.bare true rules data := by
  refine ⟨rfl, rfl, rfl, rfl, ?_⟩
  rintro ⟨decoded, hread, _, hmatches⟩
  cases hread
  cases hmatches with
  | cons h _ =>
    obtain ⟨r', hr', _⟩ := h _ rfl
    cases hr'

end SingBox.Srs
