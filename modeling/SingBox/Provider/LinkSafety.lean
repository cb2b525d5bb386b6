import SingBox.Provider.LinkOrder
import SingBox.Provider.Lines

namespace SingBox.Provider

open SingBox.Options Lib.Text Lib.Maps Lib.Regexp Lib.Errors List

def IsHeader (s : List Char) : Prop :=
  ∃ before name gap value after, s = before ++ name ++ ':' :: gap ++ value ++ after ∧
    (∀ c ∈ before ++ gap ++ after, blank c = true) ∧ name ≠ [] ∧ value ≠ [] ∧
    ∀ c ∈ name ++ value, nonSpace c = true

variable {s : List Char}

lemma accepts_lazyPlus {p : Char → Bool} :
    (Re.lazyPlus p).Accepts s ↔ s ≠ [] ∧ ∀ c ∈ s, p c = true := by
  constructor
  · rintro ⟨_, v, rfl, ⟨c, hc, rfl⟩, hv⟩
    exact ⟨by simp, forall_mem_cons.2 ⟨hc, hv⟩⟩
  · rintro ⟨hne, hs⟩
    obtain ⟨c, v, rfl⟩ := exists_cons_of_ne_nil hne
    obtain ⟨hc, hv⟩ := forall_mem_cons.1 hs
    exact ⟨[c], v, rfl, ⟨c, hc, rfl⟩, hv⟩

lemma accepts_char {c : Char} : (Re.char c).Accepts s ↔ s = [c] := by
  simp [Re.char, Re.Accepts]

lemma accepts_headerParser : headerParser.Accepts s ↔ IsHeader s := by
  constructor
  · rintro ⟨before, _, rfl, hbefore, name, _, rfl, hname, _, _, rfl, hcolon, gap, _, rfl, hgap, value,
      after, rfl, hvalue, hafter⟩
    obtain ⟨hname, hname'⟩ := accepts_lazyPlus.1 hname
    obtain ⟨hvalue, hvalue'⟩ := accepts_lazyPlus.1 hvalue
    obtain rfl := accepts_char.1 hcolon
    refine ⟨before, name, gap, value, after, by simp, ?_, hname, hvalue, ?_⟩
    · exact forall_mem_append.2 ⟨forall_mem_append.2 ⟨hbefore, hgap⟩, hafter⟩
    · exact forall_mem_append.2 ⟨hname', hvalue'⟩
  · rintro ⟨before, name, gap, value, after, rfl, hblank, hname, hvalue, hspace⟩
    obtain ⟨hblank, hafter⟩ := forall_mem_append.1 hblank
    obtain ⟨hbefore, hgap⟩ := forall_mem_append.1 hblank
    obtain ⟨hname', hvalue'⟩ := forall_mem_append.1 hspace
    exact ⟨before, name ++ ':' :: gap ++ value ++ after, by simp, hbefore,
      name, ':' :: gap ++ value ++ after, by simp, accepts_lazyPlus.2 ⟨hname, hname'⟩,
      [':'], gap ++ value ++ after, by simp, accepts_char.2 rfl,
      gap, value ++ after, by simp, hgap, value, after, rfl, accepts_lazyPlus.2 ⟨hvalue, hvalue'⟩, hafter⟩

lemma headerParser_eq_none_iff {s : String} :
    headerParser.findStringSubmatch s = none ↔ ¬ IsHeader s.toList := by
  rw [← accepts_headerParser, ← findStringSubmatch_isSome_iff, Bool.not_eq_true,
    Option.isSome_eq_false_iff, Option.isNone_iff_eq_none]

lemma pathParser_eq_none_iff {digits : Re} (hd : ∀ s, digits.Accepts s → '\n' ∉ s) {path : String} :
    (pathParser digits).findStringSubmatch path = none ↔ '\n' ∈ path.toList := by
  have haccepts : (pathParser digits).Accepts path.toList ↔ '\n' ∉ path.toList := by
    constructor
    · rintro ⟨u, v, huv, hu, hv⟩
      have hu : '\n' ∉ u := fun h => by simpa [Re.dot] using hu '\n' h
      rw [huv, mem_append, not_or]
      refine ⟨hu, ?_⟩
      rcases hv with ⟨_, _, rfl, hq, _, _, rfl, he, _, _, rfl, hd', _, w, rfl, heq, hw⟩ | rfl
      · obtain rfl := accepts_char.1 hq
        obtain rfl := accepts_char.1 he
        obtain rfl := accepts_char.1 hd'
        obtain rfl := accepts_char.1 heq
        have hw := hd w hw
        simpa using hw
      · exact not_mem_nil
    · intro h
      refine ⟨path.toList, [], by simp, fun c hc => ?_, .inr rfl⟩
      have hne : c ≠ '\n' := fun heq => h (heq ▸ hc)
      simpa [Re.dot] using hne
  rw [← not_iff_not, ← haccepts, ← findStringSubmatch_isSome_iff, Option.isSome_iff_ne_none, ne_eq]

lemma not_mem_of_accepts_star (h : (Re.star Char.isDigit).Accepts s) : '\n' ∉ s :=
  fun hc => absurd (h '\n' hc) (by decide)

variable {proxy : List (String × String)}

def BadHeaders (text : String) : Prop := ∃ header ∈ splitChar '\n' text, ¬ IsHeader header.toList

lemma patternHeaders_failsIff (text : String) :
    FailsIff .panic (BadHeaders text) (patternHeaders text) := by
  refine FailsIff.foldlM (fun headers header => ?_) _ _
  cases h : headerParser.findStringSubmatch header with
  | none => exact .inl ⟨headerParser_eq_none_iff.1 h, rfl⟩
  | some result =>
    refine .inr ⟨fun hbad => ?_, _, rfl⟩
    rw [headerParser_eq_none_iff.2 hbad] at h
    cases h

lemma withPath_failsIff {digits : Re} (hd : ∀ s, digits.Accepts s → '\n' ∉ s) (path : String)
    (options : V2RayWebsocketOptions) :
    FailsIff .panic ('\n' ∈ path.toList) (withPath digits path options) := by
  rw [withPath]
  cases h : (pathParser digits).findStringSubmatch path with
  | none => exact .inl ⟨(pathParser_eq_none_iff hd).1 h, rfl⟩
  | some result =>
    refine .inr ⟨fun hmem => ?_, _, rfl⟩
    rw [(pathParser_eq_none_iff hd).2 hmem] at h
    cases h

def BreaksLine (path : Option String) : Prop := ∃ text, path = some text ∧ '\n' ∈ text.toList

lemma withOptionalPath_failsIff (options : V2RayWebsocketOptions) :
    FailsIff .panic (BreaksLine (nonEmpty proxy "path")) (withOptionalPath proxy options) := by
  rw [withOptionalPath]
  cases nonEmpty proxy "path" with
  | none => exact (FailsIff.ok options).congr (by simp [BreaksLine])
  | some path =>
    exact (withPath_failsIff (fun _ => not_mem_of_accepts_star) path options).congr (by simp [BreaksLine])

def BadWebsocket (proxy : List (String × String)) : Prop :=
  (∃ host, nonEmpty proxy "host" = some host ∧ BadHeaders ("Host:" ++ host)) ∨
    BreaksLine (nonEmpty proxy "path")

lemma wsTransport_failsIff : FailsIff .panic (BadWebsocket proxy) (wsTransport proxy) := by
  rw [wsTransport, BadWebsocket]
  cases nonEmpty proxy "host" with
  | none => exact ((withOptionalPath_failsIff _).bind_ok _).congr (by simp)
  | some host =>
    exact ((patternHeaders_failsIff ("Host:" ++ host)).bind fun headers =>
      (withOptionalPath_failsIff { headers }).bind_ok _).congr (by simp)

def BadVMessTransport (proxy : List (String × String)) (net : String) : Prop :=
  net = "ws" ∧ BreaksLine (nonEmpty proxy "path") ∨
    net = "tcp" ∧ proxy.lookup "type" = some "http" ∧
      ∃ headers, proxy.lookup "headers" = some headers ∧ BadHeaders headers

lemma vmessTransport_failsIff (net : String) :
    FailsIff .panic (BadVMessTransport proxy net) (vmessTransport proxy net) := by
  unfold vmessTransport
  split
  · exact ((withOptionalPath_failsIff _).bind_ok _).congr (by simp [BadVMessTransport])
  · exact (FailsIff.ok _).congr (by simp [BadVMessTransport])
  · split_ifs with htype
    · cases hheaders : proxy.lookup "headers" with
      | none => exact (FailsIff.ok _).congr (by simp [BadVMessTransport, hheaders])
      | some headers =>
        refine ((patternHeaders_failsIff headers).bind_ok _).congr ?_
        simp [BadVMessTransport, htype, hheaders]
    · exact (FailsIff.ok _).congr (by simp [BadVMessTransport, htype])
  · exact (FailsIff.ok _).congr (by simp [BadVMessTransport])
  · next hws _ htcp _ =>
    refine (FailsIff.ok _).congr (iff_of_false (fun h => ?_) not_false)
    exact h.elim (fun h => hws h.1) fun h => htcp h.1

variable {type : String}

lemma vlessTransport_panic_iff :
    vlessTransport proxy type = .error .panic ↔ type = "ws" ∧ BadWebsocket proxy := by
  unfold vlessTransport
  split
  · simp
  · simp [wsTransport_failsIff.error_iff]
  · simp
  · simp
  · next hws _ _ => exact ⟨nofun, fun h => (hws h.1).elim⟩

lemma trojanTransport_panic_iff :
    trojanTransport proxy type = .error .panic ↔ type = "ws" ∧ BadWebsocket proxy := by
  unfold trojanTransport
  split
  · simp [wsTransport_failsIff.error_iff]
  · simp
  · next hws _ => exact ⟨nofun, fun h => (hws h.1).elim⟩

variable {params : List (String × Param)} {transport : String → Except Failure V2RayTransportOptions}
  {tls : String → Bool} {m : List (String × String)}

lemma loop_panic_iff (hs : Switch params) (hd : Distinct m) {key : String}
    (hkey : ∀ k, paramOf params k = .transport ↔ k = key) (order : MapOrder) (init : LinkOptions)
    (make : LinkOptions → Outbound) :
    ((order.range Site.link m).foldlM (paramStep params transport tls) init).map make = .error .panic ↔
      ∃ value, (key, value) ∈ m ∧ transport value = .error .panic := by
  by_cases hmade : TransportMade params transport m
  · obtain ⟨o, ho⟩ : ∃ o, (order.range Site.link m).foldlM (paramStep params transport tls) init = .ok o :=
      foldlM_ok (fun x hx => hmade x ((order.perm _ m).mem_iff.1 hx)) init
    rw [ho]
    refine ⟨nofun, ?_⟩
    rintro ⟨value, hvalue, hpanic⟩
    obtain ⟨options, hoptions⟩ := hmade _ hvalue ((hkey key).2 rfl)
    rw [hoptions] at hpanic
    cases hpanic
  · have hloop : ∀ x ∈ m, ∀ err, paramOf params x.1 = .transport → transport x.2 = .error err →
        (order.range Site.link m).foldlM (paramStep params transport tls) init = .error err :=
      fun x hx err hparam herr => foldlM_perm_error hs hd (order.perm _ m) hx hparam herr init
    constructor
    · intro hpanic
      simp only [TransportMade, not_forall] at hmade
      obtain ⟨x, hx, hparam, hnone⟩ := hmade
      cases herr : transport x.2 with
      | ok options => exact absurd ⟨options, herr⟩ hnone
      | error err =>
        rw [hloop x hx err hparam herr] at hpanic
        cases hpanic
        exact ⟨x.2, (hkey x.1).1 hparam ▸ hx, herr⟩
    · rintro ⟨value, hvalue, herr⟩
      rw [hloop _ hvalue _ ((hkey key).2 rfl) herr]
      rfl

lemma paramOf_vmess_iff (key : String) : paramOf vmessParams key = .transport ↔ key = "net" := by
  have hparams : ∀ x ∈ vmessParams, x.2 = .transport → x.1 = "net" := by decide
  refine ⟨fun h => hparams _ (paramOf_mem h nofun) rfl, ?_⟩
  rintro rfl
  rfl

lemma paramOf_vless_iff (key : String) : paramOf vlessParams key = .transport ↔ key = "type" := by
  have hparams : ∀ x ∈ vlessParams, x.2 = .transport → x.1 = "type" := by decide
  refine ⟨fun h => hparams _ (paramOf_mem h nofun) rfl, ?_⟩
  rintro rfl
  rfl

lemma paramOf_trojan_iff (key : String) : paramOf trojanParams key = .transport ↔ key = "type" := by
  have hparams : ∀ x ∈ trojanParams, x.2 = .transport → x.1 = "type" := by decide
  refine ⟨fun h => hparams _ (paramOf_mem h nofun) rfl, ?_⟩
  rintro rfl
  rfl

variable (d : TextDecoders) {order : MapOrder} {content : String}

def SSPanics (content : String) : Prop :=
  ∃ result, linkParser.findStringSubmatch content = some result ∧
    ':' ∉ (decodeBase64Safe d (result 1)).toList

def VMessPanics (content : String) : Prop :=
  ∃ proxy, vmessMap d content = .ok proxy ∧ ∃ net, ("net", net) ∈ proxy ∧ BadVMessTransport proxy net

def WebsocketPanics (parameters : Groups → List (String × String)) (content : String) : Prop :=
  ∃ result, linkParser.findStringSubmatch content = some result ∧
    ("type", "ws") ∈ parameters result ∧ BadWebsocket (parameters result)

def setsObfs (addon : String) : Bool :=
  splitKeyValue '=' addon == ("obfs", "salamander") || (splitKeyValue '=' addon).1 == "obfs-password"

def Hysteria2Panics (content : String) : Prop :=
  ∃ result, hysteria2Parser.findStringSubmatch content = some result ∧
    ∃ addon ∈ splitChar '\n' (result 4), setsObfs addon = true

lemma splitChar_of_mem {c : Char} {text : String} (h : c ∈ text.toList) :
    ∃ first second rest, splitChar c text = first :: second :: rest := by
  obtain ⟨before, after, happend⟩ := append_of_mem h
  rw [splitChar, happend, splitOn_append_cons_self]
  obtain ⟨first, firsts, hfirst⟩ := exists_cons_of_ne_nil (splitOn_ne_nil c before)
  obtain ⟨second, rest, hsecond⟩ := exists_cons_of_ne_nil (splitOn_ne_nil c after)
  rw [hfirst, hsecond]
  cases firsts with
  | nil => exact ⟨_, _, _, rfl⟩
  | cons => exact ⟨_, _, _, rfl⟩

lemma newSSNativeParser_panic_iff : newSSNativeParser d content = .error .panic ↔ SSPanics d content := by
  rw [newSSNativeParser, SSPanics]
  cases linkParser.findStringSubmatch content with
  | none => simp
  | some result =>
    simp only [Option.some.injEq, exists_eq_left']
    by_cases hcolon : ':' ∈ (decodeBase64Safe d (result 1)).toList
    · obtain ⟨method, password, rest, hsplit⟩ := splitChar_of_mem hcolon
      simp [hsplit, hcolon]
    · simp [splitChar_of_not_mem hcolon, hcolon]

lemma vmessMap_ne_panic : vmessMap d content ≠ .error .panic := by
  rw [vmessMap]
  split
  · simp
  · split <;> simp

lemma newVMessNativeParser_panic_iff :
    newVMessNativeParser d order content = .error .panic ↔ VMessPanics d content := by
  rw [newVMessNativeParser, VMessPanics]
  cases hmap : vmessMap d content with
  | error err =>
    constructor
    · rintro ⟨⟩
      exact absurd hmap (vmessMap_ne_panic d)
    · rintro ⟨_, ⟨⟩, _⟩
  | ok proxy =>
    simp only [Except.ok.injEq, exists_eq_left', ← (vmessTransport_failsIff _).error_iff]
    exact loop_panic_iff vmess_switch (vmessMap_distinct d hmap) paramOf_vmess_iff order _ _

lemma newVLESSNativeParser_panic_iff :
    newVLESSNativeParser d order content = .error .panic ↔ WebsocketPanics (vlessMap d) content := by
  rw [newVLESSNativeParser, WebsocketPanics]
  cases linkParser.findStringSubmatch content with
  | none => simp
  | some result =>
    refine (loop_panic_iff vless_switch (vlessMap_distinct d result) paramOf_vless_iff order _ _).trans ?_
    simp [vlessTransport_panic_iff]

lemma newTrojanNativeParser_panic_iff :
    newTrojanNativeParser d order content = .error .panic ↔ WebsocketPanics (trojanMap d) content := by
  rw [newTrojanNativeParser, WebsocketPanics]
  cases linkParser.findStringSubmatch content with
  | none => simp
  | some result =>
    refine (loop_panic_iff trojan_switch (trojanMap_distinct d result) paramOf_trojan_iff order _ _).trans ?_
    simp [trojanTransport_panic_iff]

lemma hysteria2Step_failsIff (o : Hysteria2Options) (addon : String) :
    FailsIff .panic (setsObfs addon = true) (hysteria2Step o addon) := by
  rw [setsObfs, hysteria2Step]
  obtain ⟨key, value⟩ := splitKeyValue '=' addon
  simp only
  split
  · exact (FailsIff.ok _).congr (by simp)
  · exact (FailsIff.ok _).congr (by simp)
  · by_cases hvalue : value = "salamander"
    · exact .inl (by simp [hvalue])
    · exact .inr (by simp [hvalue])
  · exact .inl (by simp)
  · exact (FailsIff.ok _).congr (by simp)
  · exact (FailsIff.ok _).congr (by simp)
  · next hobfs hpassword _ _ =>
    exact (FailsIff.ok _).congr (by simpa using ⟨fun h => (hobfs h).elim, hpassword⟩)

lemma newHysteria2NativeParser_panic_iff :
    newHysteria2NativeParser content = .error .panic ↔ Hysteria2Panics content := by
  rw [newHysteria2NativeParser, Hysteria2Panics]
  cases hysteria2Parser.findStringSubmatch content with
  | none => simp
  | some result =>
    simp only [Option.some.injEq, exists_eq_left']
    split <;> exact ((FailsIff.foldlM hysteria2Step_failsIff _ _).bind_ok _).error_iff

def LinkPanics (protocol content : String) : Prop :=
  protocol = "ss" ∧ SSPanics d content ∨ protocol = "vmess" ∧ VMessPanics d content ∨
    protocol = "vless" ∧ WebsocketPanics (vlessMap d) content ∨
    protocol = "trojan" ∧ WebsocketPanics (trojanMap d) content ∨
    protocol ∈ ["hy2", "hysteria2"] ∧ Hysteria2Panics content

lemma newSSRNativeParser_ne_panic : newSSRNativeParser d content ≠ .error .panic := by
  rw [newSSRNativeParser]
  split <;> simp

lemma newTuicNativeParser_ne_panic : newTuicNativeParser d content ≠ .error .panic := by
  rw [newTuicNativeParser]
  split <;> simp

lemma newHysteriaNativeParser_ne_panic : newHysteriaNativeParser content ≠ .error .panic := by
  rw [newHysteriaNativeParser]
  split <;> simp

lemma protocolParser_panic_iff (order : MapOrder) (protocol content : String) :
    protocolParser d order protocol content = some (.error .panic) ↔ LinkPanics d protocol content := by
  unfold protocolParser
  split
  · simp [LinkPanics, newSSNativeParser_panic_iff]
  · simp [LinkPanics, newSSRNativeParser_ne_panic]
  · simp [LinkPanics, newTuicNativeParser_ne_panic]
  · simp [LinkPanics, newVMessNativeParser_panic_iff]
  · simp [LinkPanics, newVLESSNativeParser_panic_iff]
  · simp [LinkPanics, newTrojanNativeParser_panic_iff]
  · simp [LinkPanics, newHysteriaNativeParser_ne_panic]
  · simp [LinkPanics, newHysteria2NativeParser_panic_iff]
  · simp [LinkPanics, newHysteria2NativeParser_panic_iff]
  · next hss _ _ hvmess hvless htrojan _ hhy2 hhysteria2 =>
    refine ⟨nofun, fun h => ?_⟩
    simp only [LinkPanics, mem_cons, not_mem_nil, or_false] at h
    tauto

def LinePanics (line : String) : Prop :=
  ∃ protocol content rest, split "://" (trimSpace line) = protocol :: content :: rest ∧
    LinkPanics d (d.toLower (trimSpace protocol))
      (trimSpace (decodeBase64Safe d (trimSpace content)))

lemma kept_failsIff (result : Except Failure Outbound) :
    FailsIff .panic (result = .error .panic) (kept result) := by
  unfold kept
  split
  · exact (FailsIff.ok _).congr (by simp)
  · exact (FailsIff.ok _).congr (by simp)
  · exact .inl ⟨rfl, rfl⟩

lemma parseLine_failsIff (order : MapOrder) (line : String) :
    FailsIff .panic (LinePanics d line) (parseLine d order line) := by
  rw [parseLine, LinePanics]
  rcases split "://" (trimSpace line) with _ | ⟨protocol, _ | ⟨content, rest⟩⟩
  · exact (FailsIff.ok _).congr (by simp)
  · exact (FailsIff.ok _).congr (by simp)
  · have hlink := protocolParser_panic_iff d order (d.toLower (trimSpace protocol))
      (trimSpace (decodeBase64Safe d (trimSpace content)))
    dsimp only
    cases hresult : protocolParser d order (d.toLower (trimSpace protocol))
      (trimSpace (decodeBase64Safe d (trimSpace content))) with
    | none => exact (FailsIff.ok _).congr (by simp [← hlink, hresult])
    | some result => exact (kept_failsIff result).congr (by simp [← hlink, hresult])

lemma parseLine_ne_panic_iff (order : MapOrder) (line : String) :
    parseLine d order line ≠ .error .panic ↔ ¬ LinePanics d line :=
  (parseLine_failsIff d order line).error_iff.not

theorem uri_lines_independent_iff {d : Decoders} {override : Option OutboundOverrideOptions}
    (order : ℕ → MapOrder) (lines : List String) (h : ∀ line ∈ lines, '\n' ∉ line.toList) :
    LineIndependent d override order lines ↔
      (∀ line ∈ lines, isKeyword line = false) ∧ ∀ line ∈ lines, ¬ LinePanics d.toTextDecoders line := by
  rw [lineIndependent_iff order lines h]
  refine and_congr_right fun _ => ⟨fun hlines line hline => ?_, fun hlines i line hline => ?_⟩
  · obtain ⟨i, hi⟩ := mem_iff_getElem?.1 hline
    exact (parseLine_ne_panic_iff _ _ line).1 (hlines i line hi)
  · exact (parseLine_ne_panic_iff _ _ line).2 (hlines line (mem_of_getElem? hline))

theorem uri_lines_independent_trojan :
    LineIndependent plainDecoders none (fun _ => .asListed)
      ["trojan://p@h:443#first", "no link", "trojan://p@i:443#second"] := by
  refine (uri_lines_independent_iff (fun _ => .asListed) _ (by decide)).2 ⟨by decide, ?_⟩
  have hline : ∀ line ∈ ["trojan://p@h:443#first", "no link", "trojan://p@i:443#second"],
      parseLine plainDecoders.toTextDecoders .asListed line ≠ .error .panic := by
    decide
  exact fun line h => (parseLine_ne_panic_iff _ .asListed line).1 (hline line h)

theorem uri_lines_tag_detected :
    let lines := ["trojan://p@h:443#proxies", "trojan://p@i:443#second"]
    let order : ℕ → MapOrder := fun _ => .asListed
    newParser plainDecoders none order (join "\n" lines) = .error (.error "yaml: cannot unmarshal") ∧
      (flatMapM (parseAlone plainDecoders none) order lines).map (List.map (·.tag)) =
        .ok ["proxies", "second"] ∧
      newParser plainDecoders none order (join "\n" ["ss://x@h:443#first", "trojan://p@i:443#second"]) =
        .error .panic ∧
      ¬ LineIndependent plainDecoders none order lines := by
  refine ⟨by decide, by decide, by decide, fun h => ?_⟩
  have hnative := h.native
  revert hnative
  decide

theorem uri_parser_never_panics_iff (order : ℕ → MapOrder) (content : String) :
    newNativeURIParser d order content ≠ .error .panic ↔
      ∀ line ∈ splitChar '\n' content, ¬ LinePanics d line := by
  have hlines : FailsIff .panic (∃ line ∈ splitChar '\n' content, LinePanics d line)
    (newNativeURIParser d order content) := flatMapM_failsIff (parseLine_failsIff d) order _
  rw [ne_eq, hlines.error_iff]
  simp

def unescapeBreaks : List Char → List Char
  | '%' :: '0' :: 'A' :: text => '\n' :: unescapeBreaks text
  | c :: text => c :: unescapeBreaks text
  | [] => []

def escapedDecoders : TextDecoders :=
  { plainDecoders.toTextDecoders with
    queryUnescape := fun text => some (String.ofList (unescapeBreaks text.toList)) }

theorem uri_parser_panics :
    let parse := newNativeURIParser escapedDecoders fun _ => .asListed
    parse "ss://x@h:1#a" = .error .panic ∧ parse "trojan://p@h:1?type=ws&path=%0A#a" = .error .panic ∧
      parse "hy2://p@h?obfs=salamander#a" = .error .panic := by
  decide +kernel

end SingBox.Provider
