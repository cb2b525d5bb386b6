import Mathlib.Data.List.Induction
import SingBox.Srs.RoundTrip

namespace SingBox.Route

open Lib.Errors Lib.Wire List Option

structure PlainRuleSetCompat where
  version : ℤ
  rules : List HeadlessRuleOptions

def PlainRuleSetCompat.upgrade (r : PlainRuleSetCompat) : Except String (List HeadlessRuleOptions) :=
  if r.version = 1 ∨ r.version = 2 then .ok r.rules
  else .error ("unknown rule-set version: " ++ toString r.version)

namespace DefaultHeadlessOptions

def isProcessHeadlessRule (o : DefaultHeadlessOptions) : Bool :=
  !o.processName.values.isEmpty || !o.processPath.values.isEmpty || !o.packageName.values.isEmpty

def isWIFIHeadlessRule (o : DefaultHeadlessOptions) : Bool :=
  !o.wifiSSID.values.isEmpty || !o.wifiBSSID.values.isEmpty

end DefaultHeadlessOptions

def DefaultRule.ruleCount (r : DefaultRule HeadlessItem) : UInt64 :=
  let addresses := r.destinationAddressItems.length + r.destinationIPCIDRItems.length
  .ofNat (if r.allItems.length = addresses then addresses
    else if r.allItems.length = r.sourceAddressItems.length then r.sourceAddressItems.length
    else if r.allItems.length = r.sourcePortItems.length then r.sourcePortItems.length
    else if r.allItems.length = r.destinationPortItems.length then r.destinationPortItems.length
    else 1)

def HeadlessRule.ruleCount : HeadlessRule → UInt64
  | .leaf r => r.ruleCount
  | .node _ _ _ => 1

structure RuleSetMetadata where
  containsProcessRule : Bool := false
  containsWIFIRule : Bool := false
  containsIPCIDRRule : Bool := false
  deriving DecidableEq, Repr

structure LoadedRules where
  rules : List HeadlessRule := []
  ruleCount : UInt64 := 0
  metadata : RuleSetMetadata := {}

def loadRules (lib : Library) (headlessRules : List HeadlessRuleOptions) : Except String LoadedRules := do
  let s ← reloadRules lib headlessRules
  return {
    rules := s.rules
    ruleCount := s.rules.foldl (fun count rule => count + HeadlessRule.ruleCount rule) 0
    metadata := {
      containsProcessRule := HeadlessRuleOptions.hasHeadlessRule
        DefaultHeadlessOptions.isProcessHeadlessRule headlessRules
      containsWIFIRule := HeadlessRuleOptions.hasHeadlessRule
        DefaultHeadlessOptions.isWIFIHeadlessRule headlessRules
      containsIPCIDRRule := s.containsIPCIDRRule } }

structure Loader (lib : Library) where
  format : String
  unmarshal : Bytes → Except String PlainRuleSetCompat
  formats : Srs.Formats lib

def Loader.loadBytes {lib : Library} (l : Loader lib) (content : Bytes) : Except String LoadedRules :=
  if l.format = "source" then do
    let compat ← l.unmarshal content
    let rules ← compat.upgrade
    loadRules lib rules
  else if l.format = "binary" then do
    let rules ← Srs.read l.formats false content
    loadRules lib rules
  else .error ("unknown rule-set format: " ++ l.format)

structure RemoteRuleSet where
  loaded : LoadedRules := {}
  lastUpdated : Option ℕ := none
  lastEtag : String := ""
  refs : ℕ
  file : Option (Bytes × ℕ)

inductive Answer where
  | failed (err : String)
  | response (statusCode : ℕ) (status etag : String) (body : Except String Bytes)

/-- One request: its answer, when it came, whether the file could be written, and what the server has
at that time: a content and its etag, or "" for none. -/
structure Fetch where
  answer : Answer
  now : ℕ
  writes : Bool := true
  current : Bytes × String

namespace RemoteRuleSet

variable {lib : Library} (l : Loader lib)

def start (refs : ℕ) (file : Option (Bytes × ℕ)) : RemoteRuleSet := match file with
  | none => { refs, file }
  | some (content, modTime) => match l.loadBytes content with
    | .error _ => { refs, file }
    | .ok loaded => { loaded, lastUpdated := some modTime, refs, file }

def ifNoneMatch (s : RemoteRuleSet) : Option String := if s.lastEtag ≠ "" then some s.lastEtag else none

def fetchOnce (s : RemoteRuleSet) (f : Fetch) : Option String × RemoteRuleSet := match f.answer with
  | .failed err => (some err, s)
  | .response statusCode status etag body =>
    if statusCode = 200 then match body with
      | .error err => (some err, s)
      | .ok content => match l.loadBytes content with
        | .error err => (some err, s)
        | .ok loaded =>
          (none, { s with
            loaded
            lastEtag := if etag ≠ "" then etag else s.lastEtag
            lastUpdated := some f.now
            file := if f.writes then some (content, f.now) else s.file })
    else if statusCode = 304 then
      (none, { s with
        lastUpdated := some f.now
        file := s.file.map fun file => (file.1, if f.writes then f.now else file.2) })
    else (some ("unexpected status: " ++ status), s)

def update (s : RemoteRuleSet) (f : Fetch) : RemoteRuleSet :=
  let result := s.fetchOnce l f
  if result.1 = none ∧ s.refs = 0 then { result.2 with loaded := { result.2.loaded with rules := [] } }
  else result.2

def run (s : RemoteRuleSet) (fetches : List Fetch) : RemoteRuleSet := fetches.foldl (update l) s

end RemoteRuleSet

def Answer.served : Answer → Option (Bytes × String)
  | .failed _ => none
  | .response statusCode _ etag body =>
    if statusCode = 200 then body.toOption.map fun content => (content, etag) else none

def Answer.notModified : Answer → Prop
  | .response statusCode _ _ _ => statusCode = 304
  | .failed _ => False

variable {lib : Library} (l : Loader lib)

def Loader.loads (content : Bytes) : Bool := (l.loadBytes content).isOk

def Loader.given (f : Fetch) : Option (Bytes × String) :=
  f.answer.served.filter fun version => l.loads version.1

def Loader.received (fetches : List Fetch) : List (Bytes × String) := fetches.filterMap l.given

def Loader.contentNow (file : Option (Bytes × ℕ)) (fetches : List Fetch) : Option Bytes :=
  (((file.map Prod.fst).filter l.loads).toList ++ (l.received fetches).map Prod.fst).getLast?

def lastTag (versions : List (Bytes × String)) : String :=
  ((versions.map Prod.snd).filter (· != "")).getLastD ""

def Loader.Reflects (loaded : LoadedRules) : Option Bytes → Prop
  | none => loaded = {}
  | some content => l.loadBytes content = .ok loaded

/-- The server sends what it has, answers with not-modified only if the etag of the request is that of
what it has, and never gives one etag to two contents. -/
structure Honest (s : RemoteRuleSet) (fetches : List Fetch) : Prop where
  served : ∀ f ∈ fetches, ∀ version, f.answer.served = some version → f.current = version
  notModified : ∀ past f, past ++ [f] <+: fetches → f.answer.notModified →
    (s.run l past).ifNoneMatch = some f.current.2
  tags : ∀ f ∈ fetches, ∀ f' ∈ fetches, f.current.2 ≠ "" → f.current.2 = f'.current.2 →
    f.current.1 = f'.current.1

structure Consistent (refs : ℕ) (file : Option (Bytes × ℕ)) (fetches : List Fetch) : Prop where
  loaded : ∀ past, past <+: fetches →
    l.Reflects ((RemoteRuleSet.start l refs file).run l past).loaded (l.contentNow file past)
  failed : ∀ past f, past ++ [f] <+: fetches → ∀ s s' : RemoteRuleSet,
    s = (RemoteRuleSet.start l refs file).run l past → s' = s.update l f →
      (s.fetchOnce l f).1 ≠ none →
        s'.loaded = s.loaded ∧ s'.lastEtag = s.lastEtag ∧ s'.lastUpdated = s.lastUpdated
  etag : ∀ past, past <+: fetches → ∀ etag,
    ((RemoteRuleSet.start l refs file).run l past).ifNoneMatch = some etag →
      ∃ content, l.contentNow file past = some content ∧
        ∃ f ∈ past, f.answer.served = some (content, etag)
  notModified : Honest l (RemoteRuleSet.start l refs file) fetches →
    ∀ past f, past ++ [f] <+: fetches → f.answer.notModified →
      l.loadBytes f.current.1 = .ok ((RemoteRuleSet.start l refs file).run l (past ++ [f])).loaded

def Tagged (fetches : List Fetch) : Prop :=
  ∀ past f, past ++ [f] <+: fetches → ∀ content, l.given f = some (content, "") →
    lastTag (l.received past) ≠ "" → (content, lastTag (l.received past)) ∈ l.received past

variable {l : Loader lib} {s : RemoteRuleSet} {f : Fetch} {past fetches : List Fetch} {refs : ℕ}
  {file : Option (Bytes × ℕ)}

lemma lastTag_append (versions : List (Bytes × String)) (content : Bytes) (etag : String) :
    lastTag (versions ++ [(content, etag)]) = if etag ≠ "" then etag else lastTag versions := by
  by_cases h : etag = "" <;> simp [lastTag, h]

variable {content : Bytes}

lemma Loader.loads_of_ok {loaded : LoadedRules} (h : l.loadBytes content = .ok loaded) :
    l.loads content = true := by
  rw [Loader.loads, h]
  rfl

lemma Loader.loads_of_error {err : String} (h : l.loadBytes content = .error err) :
    l.loads content = false := by
  rw [Loader.loads, h]
  rfl

lemma Answer.served_of_notModified {answer : Answer} (h : answer.notModified) : answer.served = none := by
  cases answer with
  | failed err => rfl
  | response statusCode status etag body =>
    rw [Answer.notModified] at h
    rw [Answer.served, h]
    rfl

variable {version : Bytes × String}

lemma Loader.given_eq_some :
    l.given f = some version ↔ f.answer.served = some version ∧ l.loads version.1 = true :=
  filter_eq_some_iff

lemma Loader.mem_received : version ∈ l.received fetches ↔
      (∃ f ∈ fetches, f.answer.served = some version) ∧ l.loads version.1 = true := by
  simp only [Loader.received, mem_filterMap, Loader.given_eq_some]
  grind

lemma Loader.received_append (fetches : List Fetch) (f : Fetch) :
    l.received (fetches ++ [f]) = l.received fetches ++ (l.given f).toList := by
  rw [Loader.received, filterMap_append]
  cases h : l.given f <;> simp [Loader.received, h]

lemma Loader.contentNow_append (fetches : List Fetch) (f : Fetch) :
    l.contentNow file (fetches ++ [f]) = ((l.given f).map Prod.fst).or (l.contentNow file fetches) := by
  rw [Loader.contentNow, Loader.received_append]
  cases l.given f with
  | none => simp [Loader.contentNow]
  | some version => simp [← append_assoc]

namespace RemoteRuleSet

variable (l s f) in
lemma fetchOnce_cases :
    l.given f = none ∧ (s.fetchOnce l f).2.loaded = s.loaded ∧ (s.fetchOnce l f).2.lastEtag = s.lastEtag ∧
        (s.fetchOnce l f).2.refs = s.refs ∨
      ∃ content etag, l.given f = some (content, etag) ∧
        l.loadBytes content = .ok (s.fetchOnce l f).2.loaded ∧
        (s.fetchOnce l f).2.lastEtag = (if etag ≠ "" then etag else s.lastEtag) ∧
        (s.fetchOnce l f).2.refs = s.refs := by
  rw [fetchOnce, Loader.given]
  cases f.answer with
  | failed err => exact .inl ⟨rfl, rfl, rfl, rfl⟩
  | response statusCode status etag body =>
    dsimp only
    rw [Answer.served]
    split
    next =>
      cases body with
      | error err => exact .inl ⟨rfl, rfl, rfl, rfl⟩
      | ok content =>
        cases h : l.loadBytes content with
        | error err =>
          have hloads := Loader.loads_of_error h
          exact .inl ⟨by simp [Except.toOption, hloads], by simp [h]⟩
        | ok loaded =>
          have hloads := Loader.loads_of_ok h
          exact .inr ⟨content, etag, by simp [Except.toOption, hloads], by simp [h]⟩
    next =>
      split
      · exact .inl ⟨rfl, rfl, rfl, rfl⟩
      · exact .inl ⟨rfl, rfl, rfl, rfl⟩

lemma fetchOnce_failed (h : (s.fetchOnce l f).1 ≠ none) : (s.fetchOnce l f).2 = s := by
  revert h
  rw [fetchOnce]
  cases f.answer with
  | failed err => exact fun _ => rfl
  | response statusCode status etag body =>
    dsimp only
    split
    next =>
      cases body with
      | error err => exact fun _ => rfl
      | ok content =>
        dsimp only
        split
        · exact fun _ => rfl
        · exact fun h => absurd rfl h
    next =>
      split
      · exact fun h => absurd rfl h
      · exact fun _ => rfl

lemma update_eq (h : s.refs ≠ 0) : s.update l f = (s.fetchOnce l f).2 := by
  rw [update]
  exact if_neg fun hidle => h hidle.2

variable (l s) in
lemma run_append (past : List Fetch) (f : Fetch) : s.run l (past ++ [f]) = (s.run l past).update l f := by
  rw [run, run, foldl_append]
  rfl

structure Tracks (l : Loader lib) (refs : ℕ) (file : Option (Bytes × ℕ)) (past : List Fetch)
    (s : RemoteRuleSet) : Prop where
  loaded : l.Reflects s.loaded (l.contentNow file past)
  etag : s.lastEtag = lastTag (l.received past)
  refs : s.refs = refs

variable (l refs file) in
lemma tracks_start : Tracks l refs file [] (start l refs file) := by
  cases file with
  | none => exact ⟨rfl, rfl, rfl⟩
  | some saved =>
    have hnow : l.contentNow (some saved) [] = (some saved.1).filter l.loads := by
      rw [Loader.contentNow, Loader.received, filterMap_nil, map_nil, append_nil,
        map_some]
      cases (some saved.1).filter l.loads <;> rfl
    refine ⟨?_, ?_, ?_⟩
    · rw [hnow, start]
      cases h : l.loadBytes saved.1 with
      | error err =>
        rw [filter_some, Loader.loads_of_error h]
        rfl
      | ok loaded =>
        rw [filter_some, Loader.loads_of_ok h]
        exact h
    · rw [start]
      cases l.loadBytes saved.1 <;> rfl
    · rw [start]
      cases l.loadBytes saved.1 <;> rfl

lemma Tracks.update (hs : Tracks l refs file past s) (hrefs : refs ≠ 0) :
    Tracks l refs file (past ++ [f]) (s.update l f) := by
  rw [update_eq (hs.refs ▸ hrefs)]
  rcases fetchOnce_cases l s f with
    ⟨hgiven, hloaded, hetag, hrefs⟩ | ⟨content, etag, hgiven, hloaded, hetag, hrefs⟩
  · constructor
    · rw [Loader.contentNow_append, hgiven, hloaded]
      exact hs.loaded
    · rw [Loader.received_append, hgiven, hetag, hs.etag]
      simp
    · rw [hrefs, hs.refs]
  · constructor
    · rw [Loader.contentNow_append, hgiven]
      exact hloaded
    · rw [Loader.received_append, hgiven, hetag, hs.etag]
      exact (lastTag_append _ _ _).symm
    · rw [hrefs, hs.refs]

variable (l file) in
lemma tracks_run (hrefs : refs ≠ 0) (past : List Fetch) :
    Tracks l refs file past ((start l refs file).run l past) := by
  induction past using reverseRecOn with
  | nil => exact tracks_start l refs file
  | append_singleton past f ih =>
    rw [run_append]
    exact ih.update hrefs

end RemoteRuleSet

def EtagCurrent (l : Loader lib) (file : Option (Bytes × ℕ)) (past : List Fetch) : Prop :=
  lastTag (l.received past) ≠ "" → ∃ content, l.contentNow file past = some content ∧
    (content, lastTag (l.received past)) ∈ l.received past

lemma etagCurrent_of_tagged (h : Tagged l fetches) (hpast : past <+: fetches) :
    EtagCurrent l file past := by
  induction past using reverseRecOn with
  | nil => exact fun hne => absurd rfl hne
  | append_singleton past f ih =>
    have hshort : past <+: fetches := (prefix_append past [f]).trans hpast
    intro hne
    rw [Loader.contentNow_append]
    rw [Loader.received_append] at hne ⊢
    cases hgiven : l.given f with
    | none =>
      rw [hgiven, toList_none, append_nil] at hne
      rw [toList_none, append_nil]
      exact ih hshort hne
    | some version =>
      obtain ⟨content, etag⟩ := version
      rw [hgiven, toList_some, lastTag_append] at hne
      rw [toList_some, lastTag_append]
      refine ⟨content, rfl, ?_⟩
      by_cases hetag : etag = ""
      · subst hetag
        rw [if_neg (by simp)] at hne ⊢
        exact mem_append_left _ (h past f hpast content hgiven hne)
      · rw [if_pos hetag]
        exact mem_append_right _ mem_cons_self

variable (file) in
lemma tagged_of_etagCurrent (h : ∀ past, past <+: fetches → EtagCurrent l file past) :
    Tagged l fetches := by
  intro past f hpast content hgiven hne
  have hcurrent := h (past ++ [f]) hpast
  rw [EtagCurrent, Loader.contentNow_append, Loader.received_append, hgiven, toList_some,
    lastTag_append, if_neg (by simp)] at hcurrent
  obtain ⟨content', heq, hmem⟩ := hcurrent hne
  cases heq
  rcases mem_append.1 hmem with hmem | hmem
  · exact hmem
  · exact absurd (congrArg Prod.snd (mem_singleton.1 hmem)) hne

lemma etagCurrent_iff (hrefs : refs ≠ 0) :
    (∀ etag, ((RemoteRuleSet.start l refs file).run l past).ifNoneMatch = some etag →
        ∃ content, l.contentNow file past = some content ∧
          ∃ f ∈ past, f.answer.served = some (content, etag)) ↔ EtagCurrent l file past := by
  have htracks := RemoteRuleSet.tracks_run l file hrefs past
  have hloads : ∀ content, l.contentNow file past = some content → l.loads content = true := by
    intro content hnow
    have hloaded := htracks.loaded
    rw [hnow] at hloaded
    exact Loader.loads_of_ok hloaded
  rw [RemoteRuleSet.ifNoneMatch, htracks.etag]
  constructor
  · intro h hne
    obtain ⟨content, hnow, hserved⟩ := h _ (if_pos hne)
    exact ⟨content, hnow, Loader.mem_received.2 ⟨hserved, hloads content hnow⟩⟩
  · intro h etag hetag
    split_ifs at hetag with hne
    cases hetag
    obtain ⟨content, hnow, hmem⟩ := h hne
    exact ⟨content, hnow, (Loader.mem_received.1 hmem).1⟩

lemma current_of_etagCurrent (hrefs : refs ≠ 0) (hcurrent : EtagCurrent l file past)
    (hhonest : Honest l (RemoteRuleSet.start l refs file) fetches) (hpast : past ++ [f] <+: fetches)
    (hanswer : f.answer.notModified) : l.contentNow file past = some f.current.1 := by
  have hmatch := hhonest.notModified past f hpast hanswer
  obtain ⟨content, hnow, f', hf', hserved⟩ := (etagCurrent_iff hrefs).2 hcurrent _ hmatch
  have hsub := hpast.subset
  have hf : f ∈ fetches := hsub (by simp)
  have hf'' : f' ∈ fetches := hsub (by simp [hf'])
  have hcur := hhonest.served f' hf'' _ hserved
  have hne : f.current.2 ≠ "" := by
    rw [RemoteRuleSet.ifNoneMatch] at hmatch
    split_ifs at hmatch with hne
    rwa [← Option.some.inj hmatch]
  rw [hhonest.tags f hf f' hf'' hne (by rw [hcur]), hcur, hnow]

theorem remote_rule_set_consistent_iff (l : Loader lib) {refs : ℕ} (hrefs : refs ≠ 0)
    (file : Option (Bytes × ℕ)) (fetches : List Fetch) :
    Consistent l refs file fetches ↔ Tagged l fetches := by
  constructor
  · intro h
    exact tagged_of_etagCurrent file fun past hpast => (etagCurrent_iff hrefs).1 (h.etag past hpast)
  · intro h
    have htracks := RemoteRuleSet.tracks_run l file hrefs
    have hcurrent : ∀ past, past <+: fetches → EtagCurrent l file past :=
      fun past hpast => etagCurrent_of_tagged h hpast
    refine ⟨fun past _ => (htracks past).loaded, ?_, fun past hpast => (etagCurrent_iff hrefs).2
      (hcurrent past hpast), ?_⟩
    · rintro past f - s s' rfl rfl hfailed
      rw [RemoteRuleSet.update_eq (by rwa [(htracks past).refs]), RemoteRuleSet.fetchOnce_failed hfailed]
      exact ⟨rfl, rfl, rfl⟩
    · intro hhonest past f hpast hanswer
      have hnow := current_of_etagCurrent hrefs (hcurrent past ((prefix_append past [f]).trans hpast))
        hhonest hpast hanswer
      have hgiven : l.given f = none := by
        rw [Loader.given, Answer.served_of_notModified hanswer]
        rfl
      have hloaded := (htracks (past ++ [f])).loaded
      rw [Loader.contentNow_append, hgiven, map_none, none_or, hnow] at hloaded
      exact hloaded

def countLoader : Loader .bare where
  format := "source"
  unmarshal content :=
    .ok ⟨1, replicate (content.headD 0).toNat (.default { domain := some ["a.com"] })⟩
  formats := .bare

def twoVersions : List Fetch :=
  [⟨.response 200 "200 OK" "v1" (.ok [1]), 1, true, ([1], "v1")⟩,
    ⟨.response 200 "200 OK" "v2" (.ok [2]), 2, true, ([2], "v2")⟩,
    ⟨.response 304 "304 Not Modified" "" (.ok []), 3, true, ([2], "v2")⟩]

theorem remote_rule_set_consistent_tagged : Consistent countLoader 1 none twoVersions ∧
    ((RemoteRuleSet.start countLoader 1 none).run countLoader twoVersions).loaded.ruleCount = 2 := by
  refine ⟨(remote_rule_set_consistent_iff countLoader (by decide) none _).2 ?_, rfl⟩
  intro past f hpast content hgiven
  have hf : f ∈ twoVersions := hpast.subset (by simp)
  simp only [twoVersions, mem_cons, not_mem_nil, or_false] at hf
  rcases hf with rfl | rfl | rfl <;> simp [Loader.given, Answer.served] at hgiven

def untagged : List Fetch :=
  [⟨.response 200 "200 OK" "v1" (.ok [1]), 1, true, ([1], "v1")⟩,
    ⟨.response 200 "200 OK" "" (.ok [2]), 2, true, ([2], "")⟩,
    ⟨.response 304 "304 Not Modified" "" (.ok []), 3, true, ([1], "v1")⟩]

theorem remote_rule_set_etag_kept :
    let s := RemoteRuleSet.start countLoader 1 none
    Honest countLoader s untagged ∧
      (s.run countLoader (untagged.take 2)).ifNoneMatch = some "v1" ∧
      (countLoader.loadBytes [1]).map LoadedRules.ruleCount = .ok 1 ∧
      (s.run countLoader untagged).loaded.ruleCount = 2 := by
  refine ⟨⟨?_, ?_, ?_⟩, ?_, ?_, ?_⟩
  · simp [untagged, Answer.served, Except.toOption]
  · rintro past f ⟨rest, hrest⟩ hanswer
    -- only the third fetch is answered with not-modified
    rcases past with _ | ⟨f₁, _ | ⟨f₂, _ | ⟨f₃, past⟩⟩⟩
    · obtain ⟨rfl, -⟩ := List.cons.inj hrest
      cases hanswer
    · obtain ⟨-, hrest⟩ := List.cons.inj hrest
      obtain ⟨rfl, -⟩ := List.cons.inj hrest
      cases hanswer
    · cases hrest
      decide
    · simp [untagged] at hrest
  · simp [untagged]
  · decide
  · decide
  · decide

end SingBox.Route
