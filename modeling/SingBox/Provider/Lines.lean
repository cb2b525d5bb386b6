import SingBox.Provider.Parser

namespace SingBox.Provider

open SingBox.Options Lib.Text Lib.Maps Lib.Errors

variable {α : Type} {f : MapOrder → α → Except Failure (List Outbound)}
  {order : ℕ → MapOrder} {l : List α} {outbounds : List Outbound}

lemma flatMapM_cons_eq_ok {a : α} :
    flatMapM f order (a :: l) = .ok outbounds ↔ ∃ first, f (order 0) a = .ok first ∧
      ∃ rest, flatMapM f (fun i => order (i + 1)) l = .ok rest ∧ first ++ rest = outbounds := by
  rw [flatMapM, bind_eq_ok]
  refine exists_congr fun first => and_congr_right fun _ => ?_
  rw [bind_eq_ok]
  exact exists_congr fun rest => and_congr_right fun _ => ⟨Except.ok.inj, congrArg Except.ok⟩

lemma flatMapM_ok_iff : (∃ outbounds, flatMapM f order l = .ok outbounds) ↔
      ∀ i a, l[i]? = some a → ∃ outbounds, f (order i) a = .ok outbounds := by
  induction l generalizing order with
  | nil => simp [flatMapM]
  | cons a l ih =>
    constructor
    · rintro ⟨outbounds, h⟩ i b hb
      obtain ⟨first, hfirst, rest, hrest, -⟩ := flatMapM_cons_eq_ok.1 h
      cases i with
      | zero =>
        cases hb
        exact ⟨first, hfirst⟩
      | succ i => exact ih.1 ⟨rest, hrest⟩ i b hb
    · intro h
      obtain ⟨first, hfirst⟩ := h 0 a rfl
      obtain ⟨rest, hrest⟩ := ih.2 fun i b hb => h (i + 1) b hb
      exact ⟨first ++ rest, flatMapM_cons_eq_ok.2 ⟨first, hfirst, rest, hrest, rfl⟩⟩

lemma flatMapM_forall {P : Outbound → Prop}
    (h : ∀ order a outbounds, f order a = .ok outbounds → ∀ o ∈ outbounds, P o)
    (hl : flatMapM f order l = .ok outbounds) : ∀ o ∈ outbounds, P o := by
  induction l generalizing order outbounds with
  | nil =>
    cases hl
    exact fun o ho => absurd ho List.not_mem_nil
  | cons a l ih =>
    obtain ⟨first, hfirst, rest, hrest, rfl⟩ := flatMapM_cons_eq_ok.1 hl
    intro o ho
    rcases List.mem_append.1 ho with ho | ho
    · exact h _ _ _ hfirst o ho
    · exact ih hrest o ho

lemma flatMapM_map (g : Outbound → Outbound) (order : ℕ → MapOrder) (l : List α) :
    (flatMapM f order l).map (List.map g) = flatMapM (fun order a => (f order a).map (List.map g)) order l := by
  induction l generalizing order with
  | nil => rfl
  | cons a l ih =>
    rw [flatMapM, flatMapM, ← ih]
    cases f (order 0) a with
    | error err => rfl
    | ok first =>
      cases flatMapM f (fun i => order (i + 1)) l with
      | error err => rfl
      | ok rest =>
        change Except.ok (List.map g (first ++ rest)) = Except.ok (first.map g ++ rest.map g)
        rw [List.map_append]

lemma flatMapM_failsIff {err : Failure} {bad : α → Prop} (h : ∀ order a, FailsIff err (bad a) (f order a))
    (order : ℕ → MapOrder) (l : List α) : FailsIff err (∃ a ∈ l, bad a) (flatMapM f order l) := by
  induction l generalizing order with
  | nil => exact (FailsIff.ok []).congr (by simp)
  | cons a l ih =>
    rw [flatMapM]
    exact ((h (order 0) a).bind fun outbounds => (ih _).bind_ok (outbounds ++ ·)).congr (by simp)

variable {d : TextDecoders} {order : MapOrder} {content : String} {outbound : Outbound}

lemma ssrStep_detour (o : Outbound × ShadowsocksROptions) (addon : String) :
    (ssrStep d o addon).1.dialer.detour = o.1.dialer.detour := by
  rw [ssrStep]
  split
  split <;> rfl

lemma tuicStep_detour (o : DialerOptions × TUICOptions) (addon : String) :
    (tuicStep o addon).1.detour = o.1.detour := by
  rw [tuicStep]
  split
  split <;> rfl

lemma hysteriaStep_detour (o : DialerOptions × HysteriaOptions) (addon : String) :
    (hysteriaStep o addon).1.detour = o.1.detour := by
  rw [hysteriaStep]
  split
  split <;> rfl

lemma foldl_kept {σ β : Type} {step : σ → α → σ} {g : σ → β} (h : ∀ s a, g (step s a) = g s)
    (l : List α) (s : σ) : g (l.foldl step s) = g s := by
  induction l generalizing s with
  | nil => rfl
  | cons a l ih => exact (ih (step s a)).trans (h s a)

lemma newSSNativeParser_detour (h : newSSNativeParser d content = .ok outbound) :
    outbound.dialer.detour = "" := by
  rw [newSSNativeParser] at h
  split at h
  · cases h
  · split at h
    · cases h
      rfl
    · cases h

lemma newSSRNativeParser_detour (h : newSSRNativeParser d content = .ok outbound) :
    outbound.dialer.detour = "" := by
  rw [newSSRNativeParser] at h
  split at h
  · cases h
  · cases h
    exact foldl_kept (g := fun o : Outbound × ShadowsocksROptions => o.1.dialer.detour) ssrStep_detour _ _

lemma newTuicNativeParser_detour (h : newTuicNativeParser d content = .ok outbound) :
    outbound.dialer.detour = "" := by
  rw [newTuicNativeParser] at h
  split at h
  · cases h
  · cases h
    exact foldl_kept (g := fun o : DialerOptions × TUICOptions => o.1.detour) tuicStep_detour _ _

lemma newHysteriaNativeParser_detour (h : newHysteriaNativeParser content = .ok outbound) :
    outbound.dialer.detour = "" := by
  rw [newHysteriaNativeParser] at h
  split at h
  · cases h
  · cases h
    exact foldl_kept (g := fun o : DialerOptions × HysteriaOptions => o.1.detour) hysteriaStep_detour _ _

lemma newVMessNativeParser_detour (h : newVMessNativeParser d order content = .ok outbound) :
    outbound.dialer.detour = "" := by
  obtain ⟨proxy, -, h⟩ := bind_eq_ok.1 h
  obtain ⟨o, -, h⟩ := bind_eq_ok.1 h
  cases h
  rfl

lemma newVLESSNativeParser_detour (h : newVLESSNativeParser d order content = .ok outbound) :
    outbound.dialer.detour = "" := by
  rw [newVLESSNativeParser] at h
  split at h
  · cases h
  · obtain ⟨o, -, h⟩ := bind_eq_ok.1 h
    cases h
    rfl

lemma newTrojanNativeParser_detour (h : newTrojanNativeParser d order content = .ok outbound) :
    outbound.dialer.detour = "" := by
  rw [newTrojanNativeParser] at h
  split at h
  · cases h
  · obtain ⟨o, -, h⟩ := bind_eq_ok.1 h
    cases h
    rfl

lemma newHysteria2NativeParser_detour (h : newHysteria2NativeParser content = .ok outbound) :
    outbound.dialer.detour = "" := by
  rw [newHysteria2NativeParser] at h
  split at h
  · cases h
  · obtain ⟨o, -, h⟩ := bind_eq_ok.1 h
    cases h
    rfl

lemma protocolParser_detour {protocol : String}
    (h : protocolParser d order protocol content = some (.ok outbound)) : outbound.dialer.detour = "" := by
  unfold protocolParser at h
  split at h
  · exact newSSNativeParser_detour (Option.some.inj h)
  · exact newSSRNativeParser_detour (Option.some.inj h)
  · exact newTuicNativeParser_detour (Option.some.inj h)
  · exact newVMessNativeParser_detour (Option.some.inj h)
  · exact newVLESSNativeParser_detour (Option.some.inj h)
  · exact newTrojanNativeParser_detour (Option.some.inj h)
  · exact newHysteriaNativeParser_detour (Option.some.inj h)
  · exact newHysteria2NativeParser_detour (Option.some.inj h)
  · exact newHysteria2NativeParser_detour (Option.some.inj h)
  · cases h

variable {result : Except Failure Outbound}

lemma kept_ok (h : kept result = .ok outbounds) : ∀ o ∈ outbounds, result = .ok o := by
  unfold kept at h
  split at h
  · cases h
    intro o ho
    rw [List.mem_singleton.1 ho]
  · cases h
    exact fun o ho => absurd ho List.not_mem_nil
  · cases h

variable {line : String}

lemma parseLine_detour (h : parseLine d order line = .ok outbounds) :
    ∀ o ∈ outbounds, o.dialer.detour = "" := by
  have hnil : ∀ o ∈ ([] : List Outbound), o.dialer.detour = "" := fun o ho => absurd ho List.not_mem_nil
  unfold parseLine at h
  split at h
  · split at h
    · cases h
      exact hnil
    · next hparsed =>
      intro o ho
      rw [kept_ok h o ho] at hparsed
      exact protocolParser_detour hparsed
  · cases h
    exact hnil

variable {err : Failure}

lemma kept_error (h : kept result = .error err) : err = .panic := by
  unfold kept at h
  split at h
  · cases h
  · cases h
  · cases h
    rfl

lemma parseLine_error (h : parseLine d order line = .error err) : err = .panic := by
  unfold parseLine at h
  split at h
  · split at h
    · cases h
    · exact kept_error h
  · cases h

lemma parseLine_ok_iff : (∃ outbounds, parseLine d order line = .ok outbounds) ↔
      parseLine d order line ≠ .error .panic := by
  cases h : parseLine d order line with
  | ok outbounds => exact ⟨fun _ => nofun, fun _ => ⟨outbounds, rfl⟩⟩
  | error err =>
    rw [parseLine_error h]
    exact ⟨fun ⟨_, hok⟩ => (nomatch hok), fun hne => absurd rfl hne⟩

variable (d : Decoders) (override : Option OutboundOverrideOptions)

lemma overrideOutbound_tags (tags tags' : List String) (h : outbound.dialer.detour = "") :
    overrideOutbound override tags outbound = overrideOutbound override tags' outbound := by
  have hknown : ∀ tags, knownDetour tags outbound.dialer = outbound.dialer := by
    intro tags
    rw [knownDetour, h, if_neg (by simp)]
  rw [overrideOutbound, overrideOutbound, overrideDialerOption, overrideDialerOption, hknown, hknown]

lemma overrideOutbounds_eq_map (h : ∀ o ∈ outbounds, o.dialer.detour = "") :
    overrideOutbounds override outbounds = outbounds.map (overrideOutbound override []) :=
  List.map_congr_left fun o ho => overrideOutbound_tags override _ [] (h o ho)

def parseAlone (order : MapOrder) (line : String) : Except Failure (List Outbound) :=
  (newNativeURIParser d.toTextDecoders (fun _ => order) line).map (overrideOutbounds override)

lemma parseAlone_eq (h : '\n' ∉ line.toList) : parseAlone d override order line =
      (parseLine d.toTextDecoders order line).map (List.map (overrideOutbound override [])) := by
  rw [parseAlone, newNativeURIParser, splitChar_of_not_mem h, flatMapM]
  cases hline : parseLine d.toTextDecoders order line with
  | error err => rfl
  | ok outbounds =>
    change Except.ok (overrideOutbounds override (outbounds ++ [])) = _
    rw [List.append_nil, overrideOutbounds_eq_map override (parseLine_detour hline)]
    rfl

structure LineIndependent (order : ℕ → MapOrder) (lines : List String) : Prop where
  native : formatOf (join "\n" lines) = .native
  accepted : ∃ outbounds, newParser d override order (join "\n" lines) = .ok outbounds
  concatenated : newParser d override order (join "\n" lines) =
    flatMapM (parseAlone d override) order lines

def isKeyword (line : String) : Bool := contains line "outbounds" || contains line "proxies"

variable {d override}

lemma toList_join (lines : List String) :
    (join "\n" lines).toList = ['\n'].intercalate (lines.map String.toList) := by
  induction lines with
  | nil => rfl
  | cons line lines ih =>
    cases lines with
    | nil => simp [join]
    | cons next lines =>
      rw [join, String.toList_append, String.toList_append, ih]
      simp [List.intercalate]

lemma contains_join {word : String} (hw : '\n' ∉ word.toList) (hne : word.toList ≠ []) (lines : List String) :
    contains (join "\n" lines) word = lines.any (contains · word) := by
  rw [Bool.eq_iff_iff, contains, decide_eq_true_eq, toList_join, infix_intercalate_iff hw hne,
    List.any_eq_true]
  simp [contains]

variable {lines : List String}

lemma formatOf_join_eq_native :
    formatOf (join "\n" lines) = .native ↔ ∀ line ∈ lines, isKeyword line = false := by
  rw [formatOf, contains_join (by decide) (by decide), contains_join (by decide) (by decide)]
  simp only [isKeyword, Bool.or_eq_false_iff]
  split_ifs with houtbounds hproxies
  · rw [List.any_eq_true] at houtbounds
    obtain ⟨line, hline, hword⟩ := houtbounds
    refine ⟨fun h => (nomatch h), fun h => ?_⟩
    rw [(h line hline).1] at hword
    cases hword
  · rw [List.any_eq_true] at hproxies
    obtain ⟨line, hline, hword⟩ := hproxies
    refine ⟨fun h => (nomatch h), fun h => ?_⟩
    rw [(h line hline).2] at hword
    cases hword
  · rw [Bool.not_eq_true, List.any_eq_false] at houtbounds hproxies
    exact ⟨fun _ line hline => ⟨by simpa using houtbounds line hline, by simpa using hproxies line hline⟩,
      fun _ => rfl⟩

lemma splitChar_join (h : ∀ line ∈ lines, '\n' ∉ line.toList) (hne : lines ≠ []) :
    splitChar '\n' (join "\n" lines) = lines := by
  rw [splitChar, toList_join, List.splitOn_intercalate, List.map_map]
  · simp
  · simpa using h
  · simpa using hne

lemma newNativeURIParser_join (h : ∀ line ∈ lines, '\n' ∉ line.toList) (d : TextDecoders)
    (order : ℕ → MapOrder) :
    newNativeURIParser d order (join "\n" lines) = flatMapM (parseLine d) order lines := by
  cases lines with
  | nil => rfl
  | cons line lines => rw [newNativeURIParser, splitChar_join h (by simp)]

lemma flatMapM_congr {g : MapOrder → α → Except Failure (List Outbound)}
    (h : ∀ a ∈ l, ∀ order, f order a = g order a) (order : ℕ → MapOrder) :
    flatMapM f order l = flatMapM g order l := by
  induction l generalizing order with
  | nil => rfl
  | cons a l ih =>
    rw [flatMapM, flatMapM, h a List.mem_cons_self, ih fun b hb => h b (List.mem_cons_of_mem _ hb)]

lemma newParser_join (h : ∀ line ∈ lines, '\n' ∉ line.toList)
    (hnative : formatOf (join "\n" lines) = .native) (order : ℕ → MapOrder) :
    newParser d override order (join "\n" lines) = flatMapM (parseAlone d override) order lines := by
  have halone : flatMapM (parseAlone d override) order lines =
      (flatMapM (parseLine d.toTextDecoders) order lines).map
        (List.map (overrideOutbound override [])) := by
    rw [flatMapM_map]
    exact flatMapM_congr (fun line hline order => parseAlone_eq d override (h line hline)) order
  rw [newParser, hnative]
  change Except.map _ (newNativeURIParser _ _ _) = _
  rw [newNativeURIParser_join h, halone]
  cases hl : flatMapM (parseLine d.toTextDecoders) order lines with
  | error err => rfl
  | ok outbounds =>
    have hdetour := flatMapM_forall (fun _ _ _ hline => parseLine_detour hline) hl
    exact congrArg Except.ok (overrideOutbounds_eq_map override hdetour)

lemma lineIndependent_iff (order : ℕ → MapOrder) (lines : List String)
    (h : ∀ line ∈ lines, '\n' ∉ line.toList) :
    LineIndependent d override order lines ↔
      (∀ line ∈ lines, isKeyword line = false) ∧
      ∀ i line, lines[i]? = some line → parseLine d.toTextDecoders (order i) line ≠ .error .panic := by
  have haccepted : (∃ outbounds, flatMapM (parseAlone d override) order lines = .ok outbounds) ↔
      ∀ i line, lines[i]? = some line → parseLine d.toTextDecoders (order i) line ≠ .error .panic := by
    rw [flatMapM_ok_iff]
    refine forall₃_congr fun i line hline => ?_
    rw [parseAlone_eq d override (h line (List.mem_of_getElem? hline)), ← parseLine_ok_iff]
    cases parseLine d.toTextDecoders (order i) line with
    | error err => simp [Except.map]
    | ok outbounds => exact ⟨fun _ => ⟨_, rfl⟩, fun _ => ⟨_, rfl⟩⟩
  rw [← formatOf_join_eq_native, ← haccepted]
  constructor
  · rintro ⟨hnative, hok, hconcat⟩
    rw [hconcat] at hok
    exact ⟨hnative, hok⟩
  · rintro ⟨hnative, hok⟩
    have hconcat : newParser d override order (join "\n" lines) =
      flatMapM (parseAlone d override) order lines := newParser_join h hnative order
    rw [← hconcat] at hok
    exact ⟨hnative, hok, hconcat⟩

def plainDecoders : Decoders where
  base64Std _ := none
  base64RawStd _ := none
  base64URL _ := none
  base64RawURL _ := none
  queryUnescape := some
  toLower s := s
  jsonStrings _ := none
  jsonStrings_distinct _ _ h := nomatch h
  yaml _ := .error "yaml: cannot unmarshal"
  yaml_wellformed _ _ h := nomatch h
  sprint _ := ""
  marshal _ := ""
  jsonString _ := none
  parsePrefix _ := none
  preConvert := .error
  unmarshalOutbounds := .error

end SingBox.Provider
