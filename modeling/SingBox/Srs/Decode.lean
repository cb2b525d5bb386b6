import SingBox.Srs.Binary

namespace SingBox.Srs

open Lib.Errors Lib.Wire Route HeadlessRuleOptions List

inductive SameShape (R : DefaultHeadlessOptions → DefaultHeadlessOptions → Prop) :
    HeadlessRuleOptions → HeadlessRuleOptions → Prop
  | default {o o' : DefaultHeadlessOptions} (h : R o o') : SameShape R (.default o) (.default o')
  | logical {mode : String} {rules rules' : List HeadlessRuleOptions} {invert : Bool}
      (h : List.Forall₂ (SameShape R) rules rules') :
      SameShape R (.logical mode rules invert) (.logical mode rules' invert)

namespace SameShape

variable {R R' : DefaultHeadlessOptions → DefaultHeadlessOptions → Prop}
  {rule rule' : HeadlessRuleOptions}

lemma mono (hR : ∀ o o', R o o' → R' o o') (h : SameShape R rule rule') : SameShape R' rule rule' := by
  induction rule using HeadlessRuleOptions.induction generalizing rule' with
  | default o =>
    cases h with
    | default h => exact .default (hR _ _ h)
  | logical mode rules invert ih =>
    cases h with
    | logical h =>
      refine .logical ?_
      induction h with
      | nil => exact .nil
      | cons h _ ihl =>
        exact .cons (ih _ mem_cons_self h)
          (ihl fun rule hrule => ih rule (mem_cons_of_mem _ hrule))

lemma leaves (h : SameShape R rule rule') : List.Forall₂ R rule.leaves rule'.leaves := by
  induction rule using HeadlessRuleOptions.induction generalizing rule' with
  | default o =>
    cases h with
    | default h => exact .cons h .nil
  | logical mode rules invert ih =>
    cases h with
    | logical h =>
      rw [HeadlessRuleOptions.leaves, HeadlessRuleOptions.leaves]
      induction h with
      | nil => exact .nil
      | cons h _ ihl =>
        rw [leavesOf, leavesOf]
        exact rel_append (ih _ mem_cons_self h)
          (ihl fun rule hrule => ih rule (mem_cons_of_mem _ hrule))

end SameShape

variable (lib : Library)

def domainSet (o : DefaultHeadlessOptions) : Option (String → Bool) :=
  if !o.domain.values.isEmpty || !o.domainSuffix.values.isEmpty then
    some (lib.newMatcher o.domain.values o.domainSuffix.values)
  else none

def adGuardSet (o : DefaultHeadlessOptions) : Option (String → Bool) :=
  if o.adGuardDomain.values.isEmpty then none
  else some (lib.newAdGuardMatcher o.adGuardDomain.values)

def DenotesSet (values : List String) : Option (List IPRange) → Prop
  | none => values = []
  | some ipSet => values ≠ [] ∧ HeadlessItem.parseIPSet lib values = .ok ipSet

structure SameItems (o o' : DefaultHeadlessOptions) : Prop where
  queryType : o'.queryType.values = o.queryType.values
  network : o'.network.values = o.network.values
  domainKeyword : o'.domainKeyword.values = o.domainKeyword.values
  domainRegex : o'.domainRegex.values = o.domainRegex.values
  sourcePort : o'.sourcePort.values = o.sourcePort.values
  sourcePortRange : o'.sourcePortRange.values = o.sourcePortRange.values
  port : o'.port.values = o.port.values
  portRange : o'.portRange.values = o.portRange.values
  processName : o'.processName.values = o.processName.values
  processPath : o'.processPath.values = o.processPath.values
  packageName : o'.packageName.values = o.packageName.values
  wifiSSID : o'.wifiSSID.values = o.wifiSSID.values
  wifiBSSID : o'.wifiBSSID.values = o.wifiBSSID.values
  invert : o'.invert = o.invert
  domain : o'.domain = none ∧ o'.domainSuffix = none
  domainMatcher : o'.domainMatcher.map DomainMatcher.accepts = domainSet lib o
  adGuardDomain : o'.adGuardDomain = none
  adGuardDomainMatcher : o'.adGuardDomainMatcher = adGuardSet lib o
  ipCIDR : o'.sourceIPCIDR = none ∧ o'.ipCIDR = none
  sourceIPSet : DenotesSet lib o.sourceIPCIDR.values o'.sourceIPSet
  ipSet : DenotesSet lib o.ipCIDR.values o'.ipSet

def written {α : Type} (l : Listable α) : Listable α :=
  if l.values.isEmpty then none else some l.values

lemma written_values {α : Type} (l : Listable α) : (written l).values = l.values := by
  rw [written]
  split_ifs with h
  · rw [List.isEmpty_iff.1 h]
    rfl
  · rfl

lemma written_isSome {α : Type} (l : Listable α) : (written l).isSome = !l.values.isEmpty := by
  rw [written]
  split_ifs with h <;> simp [h]

def compiled (o : DefaultHeadlessOptions) (matcher : Option DomainMatcher)
    (sourceIPSet ipSet : Option (List IPRange)) : DefaultHeadlessOptions where
  queryType := written o.queryType
  network := written o.network
  domainKeyword := written o.domainKeyword
  domainRegex := written o.domainRegex
  sourcePort := written o.sourcePort
  sourcePortRange := written o.sourcePortRange
  port := written o.port
  portRange := written o.portRange
  processName := written o.processName
  processPath := written o.processPath
  packageName := written o.packageName
  wifiSSID := written o.wifiSSID
  wifiBSSID := written o.wifiBSSID
  invert := o.invert
  domainMatcher := matcher
  sourceIPSet := sourceIPSet
  ipSet := ipSet
  adGuardDomainMatcher := adGuardSet lib o

def Compiled (o o' : DefaultHeadlessOptions) : Prop :=
  ∃ matcher sourceIPSet ipSet, o' = compiled lib o matcher sourceIPSet ipSet ∧
    matcher.map DomainMatcher.accepts = domainSet lib o ∧
    DenotesSet lib o.sourceIPCIDR.values sourceIPSet ∧ DenotesSet lib o.ipCIDR.values ipSet

variable {lib} {o o' : DefaultHeadlessOptions}

lemma Compiled.sameItems (h : Compiled lib o o') : SameItems lib o o' := by
  obtain ⟨matcher, sourceIPSet, ipSet, rfl, hmatcher, hsource, hip⟩ := h
  constructor
  case domainMatcher => exact hmatcher
  case sourceIPSet => exact hsource
  case ipSet => exact hip
  case domain | ipCIDR => exact ⟨rfl, rfl⟩
  case invert | adGuardDomain | adGuardDomainMatcher => rfl
  all_goals exact written_values _

variable {lib : Library} {w : Formats lib} {acc r : DefaultHeadlessOptions} {s : Bytes}

def Yields (w : Formats lib) (acc : DefaultHeadlessOptions) (s : Bytes)
    (r : DefaultHeadlessOptions) : Prop :=
  ∀ turns lastItemType rest, s.length ≤ turns →
    Reads (readItems w false turns lastItemType acc) (s ++ rest) r rest

lemma yields_final (acc : DefaultHeadlessOptions) (invert : Bool) :
    Yields w acc [ruleItemFinal, putBool invert] { acc with invert } := by
  intro turns lastItemType rest hlen
  obtain ⟨turns, rfl⟩ := Nat.exists_eq_succ_of_ne_zero (Nat.ne_of_gt (Nat.lt_of_lt_of_le (by simp) hlen))
  refine (readByte_cons ruleItemFinal _).bind ?_
  rw [if_pos rfl]
  exact (readBool_putBool invert rest).map

lemma yields_item {t : RuleItemType} {acc' : DefaultHeadlessOptions} {payload : Bytes}
    (hread : ∀ rest, Reads (readItem w false acc t) (payload ++ rest) acc' rest)
    (h : Yields w acc' s r) : Yields w acc (t.code :: payload ++ s) r := by
  intro turns lastItemType rest hlen
  simp only [cons_append, length_cons, length_append] at hlen
  obtain ⟨turns, rfl⟩ := Nat.exists_eq_succ_of_ne_zero (by omega : turns ≠ 0)
  rw [cons_append, cons_append, append_assoc]
  refine (readByte_cons t.code _).bind ?_
  rw [if_neg t.code_ne_final, t.ofByte_code]
  exact (hread _).bind (h turns _ rest (by omega))

def setText (o : DefaultHeadlessOptions) (l : Listable String) :
    RuleItemType → DefaultHeadlessOptions
  | .network => { o with network := l }
  | .domainKeyword => { o with domainKeyword := l }
  | .domainRegex => { o with domainRegex := l }
  | .sourcePortRange => { o with sourcePortRange := l }
  | .portRange => { o with portRange := l }
  | .processName => { o with processName := l }
  | .processPath => { o with processPath := l }
  | .packageName => { o with packageName := l }
  | .wifiSSID => { o with wifiSSID := l }
  | .wifiBSSID => { o with wifiBSSID := l }
  | _ => o

def setNumbers (o : DefaultHeadlessOptions) (l : Listable UInt16) :
    RuleItemType → DefaultHeadlessOptions
  | .queryType => { o with queryType := l }
  | .sourcePort => { o with sourcePort := l }
  | .port => { o with port := l }
  | _ => o

def setMatcher (o : DefaultHeadlessOptions) (matcher : Option DomainMatcher) :
    DefaultHeadlessOptions :=
  { o with domainMatcher := matcher }

def setIPSet (o : DefaultHeadlessOptions) (ipSet : Option (List IPRange)) :
    RuleItemType → DefaultHeadlessOptions
  | .sourceIPCIDR => { o with sourceIPSet := ipSet }
  | _ => { o with ipSet := ipSet }

def setAdGuard (o : DefaultHeadlessOptions) (matcher : Option (String → Bool)) :
    DefaultHeadlessOptions :=
  { o with adGuardDomainMatcher := matcher }

lemma yields_list {α : Type} {t : RuleItemType} (f : Format (List α))
    (put : Listable α → DefaultHeadlessOptions) (l : Listable α) (hnone : put none = acc)
    (hread : readItem w false acc t = (fun l => put (some l)) <$> f.read)
    (h : Yields w (put (written l)) s r) : Yields w acc (writeItem t f.write l.values ++ s) r := by
  rw [written] at h
  rw [writeItem]
  split_ifs at h ⊢ with hl
  · rwa [hnone] at h
  · refine yields_item (fun rest => ?_) h
    rw [hread]
    exact (f.reads l.values rest).map

lemma yields_text (t : RuleItemType) (l : Listable String) (hnone : setText acc none t = acc)
    (hread : readItem w false acc t = (fun l => setText acc (some l) t) <$> w.strings.read)
    (h : Yields w (setText acc (written l) t) s r) :
    Yields w acc (writeItem t w.strings.write l.values ++ s) r :=
  yields_list w.strings (fun l => setText acc l t) l hnone hread h

lemma yields_numbers (t : RuleItemType) (l : Listable UInt16) (hnone : setNumbers acc none t = acc)
    (hread : readItem w false acc t = (fun l => setNumbers acc (some l) t) <$> w.uint16s.read)
    (h : Yields w (setNumbers acc (written l) t) s r) :
    Yields w acc (writeItem t w.uint16s.write l.values ++ s) r :=
  yields_list w.uint16s (fun l => setNumbers acc l t) l hnone hread h

lemma yields_domain (generateUnstable : Bool) (o : DefaultHeadlessOptions) :
    ∃ matcher, matcher.map DomainMatcher.accepts = domainSet lib o ∧
      ∀ {acc r s}, setMatcher acc none = acc → Yields w (setMatcher acc matcher) s r →
        Yields w acc (writeDomain w generateUnstable o.domain.values o.domainSuffix.values ++ s) r := by
  cases hany : !o.domain.values.isEmpty || !o.domainSuffix.values.isEmpty with
  | false =>
    refine ⟨none, by rw [domainSet, hany]; rfl, fun hnone h => ?_⟩
    rw [writeDomain, hany]
    rwa [hnone] at h
  | true =>
    obtain ⟨dump, hdump⟩ :=
      w.reads_matcher (!generateUnstable) o.domain.values o.domainSuffix.values
    refine ⟨some ⟨_, dump⟩, by rw [domainSet, hany]; rfl, fun _ h => ?_⟩
    rw [writeDomain, hany]
    exact yields_item (fun rest => (hdump rest).bind Reads.pure) h

lemma readIPSet_writeIPSet {ranges : List IPRange} (hne : ranges ≠ [])
    (hlen : (lib.buildIPSet ranges).length < 2 ^ 64) (rest : Bytes) :
    Reads (readIPSet w) (writeIPSet w (lib.buildIPSet ranges) ++ rest) (lib.buildIPSet ranges)
      rest := by
  have haddr := w.addrFromIP_asSlice ranges
  have hne := w.buildIPSet_ne_nil ranges hne
  generalize lib.buildIPSet ranges = ipSet at hlen haddr hne ⊢
  have hranges := w.reads_ranges
    (ipSet.map fun range => (w.asSlice range.first, w.asSlice range.last)) (by simpa using hne) rest
  rw [length_map, flatMap_map] at hranges
  have hback : (ipSet.map fun range => (w.asSlice range.first, w.asSlice range.last)).map
      (fun data => (⟨w.addrFromIP data.1, w.addrFromIP data.2⟩ : IPRange)) = ipSet := by
    rw [map_map]
    refine (map_congr_left fun range hrange => ?_).trans (map_id ipSet)
    obtain ⟨hfirst, hlast⟩ := haddr range hrange
    simp [hfirst, hlast]
  rw [writeIPSet, cons_append, cons_append, append_assoc]
  refine (readByte_cons 1 _).bind ?_
  rw [if_neg (by decide)]
  refine (readBigEndian_putBigEndian (by simpa using hlen) _).bind (hranges.bind ?_)
  rw [hback]
  exact Reads.pure

def FitsSet (lib : Library) (values : List String) : Prop :=
  ∀ ipSet, HeadlessItem.parseIPSet lib values = .ok ipSet → ipSet.length < 2 ^ 64

lemma yields_cidr (t : RuleItemType) {name : String} {values : List String} {data : Bytes}
    (hfits : FitsSet lib values) (hdata : writeRuleItemCIDR w t name values = .ok data) :
    ∃ ipSet, DenotesSet lib values ipSet ∧
      ∀ {acc r s}, setIPSet acc none t = acc →
        (readItem w false acc t = (fun ipSet => setIPSet acc (some ipSet) t) <$> readIPSet w) →
        Yields w (setIPSet acc ipSet t) s r → Yields w acc (data ++ s) r := by
  rw [writeRuleItemCIDR] at hdata
  split_ifs at hdata with hempty
  · cases hdata
    refine ⟨none, List.isEmpty_iff.1 hempty, fun hnone _ h => ?_⟩
    rwa [hnone] at h
  · split at hdata
    · rename_i ipSet hparse
      cases hdata
      refine ⟨some ipSet, ⟨fun h => hempty (List.isEmpty_iff.2 h), hparse⟩, fun _ hread h => ?_⟩
      have hlen := hfits ipSet hparse
      obtain ⟨ranges, hranges, hbuilt⟩ := bind_eq_ok.1 hparse
      cases hbuilt
      have hne : ranges ≠ [] := by
        rintro rfl
        exact hempty (List.isEmpty_iff.2 (mapFrom_eq_nil hranges))
      refine yields_item (fun rest => ?_) h
      rw [hread]
      exact (readIPSet_writeIPSet hne hlen rest).map
    · cases hdata

lemma yields_adGuard (o : DefaultHeadlessOptions) (hnone : setAdGuard acc none = acc)
    (h : Yields w (setAdGuard acc (adGuardSet lib o)) s r) :
    Yields w acc (writeItem .adGuardDomain w.writeAdGuardMatcher o.adGuardDomain.values ++ s) r := by
  rw [adGuardSet] at h
  rw [writeItem]
  split_ifs at h ⊢ with hl
  · rwa [hnone] at h
  · exact yields_item (fun rest => (w.reads_adGuardMatcher o.adGuardDomain.values rest).map) h

def FitsDefault (lib : Library) (o : DefaultHeadlessOptions) : Prop :=
  FitsSet lib o.sourceIPCIDR.values ∧ FitsSet lib o.ipCIDR.values

lemma yields_default {generateUnstable : Bool} {o : DefaultHeadlessOptions} {data : Bytes}
    (hfits : FitsDefault lib o) (hdata : writeDefaultRule w generateUnstable o = .ok data) :
    ∃ o' items, Compiled lib o o' ∧ data = 0 :: items ∧ Yields w {} items o' := by
  obtain ⟨source, hsource, hdata⟩ := bind_eq_ok.1 hdata
  obtain ⟨dst, hdst, hdata⟩ := bind_eq_ok.1 hdata
  cases hdata
  obtain ⟨sourceIPSet, hsourceSet, ysource⟩ := yields_cidr .sourceIPCIDR hfits.1 hsource
  obtain ⟨ipSet, hipSet, ydst⟩ := yields_cidr .ipCIDR hfits.2 hdst
  obtain ⟨matcher, hmatcher, ydomain⟩ := yields_domain (w := w) generateUnstable o
  refine ⟨compiled lib o matcher sourceIPSet ipSet, _,
    ⟨matcher, sourceIPSet, ipSet, rfl, hmatcher, hsourceSet, hipSet⟩, rfl, ?_⟩
  simp only [flatten_cons, flatten_nil, append_assoc, nil_append]
  apply yields_numbers .queryType o.queryType rfl rfl
  apply yields_text .network o.network rfl rfl
  apply ydomain rfl
  apply yields_text .domainKeyword o.domainKeyword rfl rfl
  apply yields_text .domainRegex o.domainRegex rfl rfl
  apply ysource rfl rfl
  apply ydst rfl rfl
  apply yields_numbers .sourcePort o.sourcePort rfl rfl
  apply yields_text .sourcePortRange o.sourcePortRange rfl rfl
  apply yields_numbers .port o.port rfl rfl
  apply yields_text .portRange o.portRange rfl rfl
  apply yields_text .processName o.processName rfl rfl
  apply yields_text .processPath o.processPath rfl rfl
  apply yields_text .packageName o.packageName rfl rfl
  apply yields_text .wifiSSID o.wifiSSID rfl rfl
  apply yields_text .wifiBSSID o.wifiBSSID rfl rfl
  apply yields_adGuard o rfl
  exact yields_final _ o.invert

variable {generateUnstable : Bool}

mutual

def Fits (lib : Library) : HeadlessRuleOptions → Prop
  | .default o => FitsDefault lib o
  | .logical _ rules _ => rules.length < 2 ^ 64 ∧ FitsEach lib rules

def FitsEach (lib : Library) : List HeadlessRuleOptions → Prop
  | [] => True
  | rule :: rules => Fits lib rule ∧ FitsEach lib rules

end

def FitsAll (lib : Library) (rules : List HeadlessRuleOptions) : Prop :=
  rules.length < 2 ^ 64 ∧ FitsEach lib rules

def Decodes (w : Formats lib) (data : Bytes) (rule : HeadlessRuleOptions) : Prop :=
  ∀ depth rest, data.length ≤ depth → Reads (readRule w false depth) (data ++ rest) rule rest

lemma decodes_default {o : DefaultHeadlessOptions} {items : Bytes} (h : Yields w {} items o) :
    Decodes w (0 :: items) (.default o) := by
  intro depth rest hdepth
  obtain ⟨depth, rfl⟩ := Nat.exists_eq_succ_of_ne_zero (Nat.ne_of_gt (Nat.zero_lt_of_lt hdepth))
  refine (readByte_cons 0 _).bind ?_
  rw [if_pos rfl]
  exact Reads.map (h (items ++ rest).length 0 rest (by simp))

lemma readMode_writeMode {mode : String} {b : UInt8} (h : writeMode mode = .ok b) (rest : Bytes) :
    Reads readMode (b :: rest) mode rest := by
  rw [writeMode] at h
  split_ifs at h with hand hor
  · cases h
    rw [beq_iff_eq.1 hand]
    rfl
  · cases h
    rw [beq_iff_eq.1 hor]
    rfl

lemma readMany_decodes {chunks : List Bytes} {rules : List HeadlessRuleOptions}
    {err : ℕ → String → String} {depth : ℕ} (h : List.Forall₂ (Decodes w) chunks rules)
    (hdepth : chunks.flatten.length ≤ depth) (rest : Bytes) :
    Reads (readMany (readRule w false depth) err 0 rules.length) (chunks.flatten ++ rest) rules
      rest := by
  refine readMany_flatten ?_ 0 rest
  induction h with
  | nil => exact .nil
  | cons h _ ih =>
    rw [flatten_cons, length_append] at hdepth
    exact .cons (fun rest => h depth rest (by omega)) (ih (by omega))

lemma decodes_logical {mode : String} {b : UInt8} {rules : List HeadlessRuleOptions} {invert : Bool}
    {chunks : List Bytes} (hmode : writeMode mode = .ok b) (hlen : rules.length < 2 ^ 64)
    (h : List.Forall₂ (Decodes w) chunks rules) :
    Decodes w (1 :: b :: (writeUvarint rules.length ++ (chunks.flatten ++ [putBool invert])))
      (.logical mode rules invert) := by
  intro depth rest hdepth
  simp only [length_cons, length_append, length_nil] at hdepth
  obtain ⟨depth, rfl⟩ := Nat.exists_eq_succ_of_ne_zero (by omega : depth ≠ 0)
  simp only [cons_append, append_assoc, nil_append]
  refine (readByte_cons 1 _).bind ?_
  rw [if_neg (by decide), if_pos rfl]
  refine (readMode_writeMode hmode _).bind ?_
  refine (readUvarint_writeUvarint hlen _).bind ?_
  refine (readMany_decodes h (by omega) _).bind ?_
  exact (readBool_putBool invert rest).bind Reads.pure

lemma decodes_each {rules : List HeadlessRuleOptions}
    (ih : ∀ rule ∈ rules, Fits lib rule → ∀ {data}, writeRule w generateUnstable rule = .ok data →
      ∃ rule', SameShape (Compiled lib) rule rule' ∧ Decodes w data rule')
    (hfits : FitsEach lib rules) {chunks : List Bytes}
    (hchunks : writeRules w generateUnstable rules = .ok chunks) :
    ∃ rules', List.Forall₂ (SameShape (Compiled lib)) rules rules' ∧
      List.Forall₂ (Decodes w) chunks rules' := by
  induction rules generalizing chunks with
  | nil =>
    cases hchunks
    exact ⟨[], .nil, .nil⟩
  | cons rule rules ihl =>
    obtain ⟨data, hdata, hchunks⟩ := bind_eq_ok.1 hchunks
    obtain ⟨rest, hrest, hchunks⟩ := bind_eq_ok.1 hchunks
    cases hchunks
    obtain ⟨rule', hsame, hdecodes⟩ := ih rule mem_cons_self hfits.1 hdata
    obtain ⟨rules', hsames, hdecodess⟩ :=
      ihl (fun rule hrule => ih rule (mem_cons_of_mem _ hrule)) hfits.2 hrest
    exact ⟨rule' :: rules', .cons hsame hsames, .cons hdecodes hdecodess⟩

lemma decodes_rule {rule : HeadlessRuleOptions} (hfits : Fits lib rule) {data : Bytes}
    (hdata : writeRule w generateUnstable rule = .ok data) :
    ∃ rule', SameShape (Compiled lib) rule rule' ∧ Decodes w data rule' := by
  induction rule using HeadlessRuleOptions.induction generalizing data with
  | default o =>
    rw [writeRule] at hdata
    obtain ⟨o', items, hcompiled, rfl, hyields⟩ := yields_default hfits hdata
    exact ⟨.default o', .default hcompiled, decodes_default hyields⟩
  | logical mode rules invert ih =>
    rw [writeRule] at hdata
    obtain ⟨b, hb, hdata⟩ := bind_eq_ok.1 hdata
    obtain ⟨chunks, hchunks, hdata⟩ := bind_eq_ok.1 hdata
    cases hdata
    obtain ⟨rules', hsame, hdecodes⟩ := decodes_each ih hfits.2 hchunks
    refine ⟨.logical mode rules' invert, .logical hsame, ?_⟩
    rw [hsame.length_eq]
    exact decodes_logical hb (hsame.length_eq ▸ hfits.1) hdecodes

lemma readHeader_magicBytes (generateUnstable : Bool) (rest : Bytes) :
    Reads readHeader (magicBytes ++ (if generateUnstable then 2 else 1) :: rest) () rest := by
  cases generateUnstable <;> rfl

lemma read_write {rules : List HeadlessRuleOptions} (hfits : FitsAll lib rules) {data : Bytes}
    (hdata : write w generateUnstable rules = .ok data) :
    ∃ decoded, read w false data = .ok decoded ∧
      List.Forall₂ (SameShape (Compiled lib)) rules decoded := by
  obtain ⟨chunks, hchunks, hdata⟩ := bind_eq_ok.1 hdata
  cases hdata
  obtain ⟨decoded, hsame, hdecodes⟩ :=
    decodes_each (fun rule _ hfits {_} hdata => decodes_rule hfits hdata) hfits.2 hchunks
  refine ⟨decoded, ?_, hsame⟩
  have hrules : Reads (readRules w false) (writeUvarint rules.length ++ chunks.flatten) decoded [] := by
    have hlen := hfits.1
    rw [hsame.length_eq] at hlen ⊢
    rw [← append_nil chunks.flatten]
    exact (readUvarint_writeUvarint hlen _).bind (readMany_decodes hdecodes (by simp) [])
  exact bind_eq_ok.2 ⟨_, readHeader_magicBytes generateUnstable _,
    bind_eq_ok.2 ⟨_, w.delivers_compress _, bind_eq_ok.2 ⟨_, hrules, rfl⟩⟩⟩

end SingBox.Srs
