import SingBox.Provider.LinkSafety

namespace SingBox.Provider

open SingBox.Options Lib.Text Lib.Maps Lib.Regexp Lib.Errors

variable (d : Decoders) (order : MapOrder) {proxy : Proxy}

lemma not_mem_of_accepts_plus {s : List Char} (h : (Re.plus Char.isDigit).Accepts s) : '\n' ∉ s := by
  obtain ⟨_, t, rfl, ⟨c, hc, rfl⟩, ht⟩ := h
  rw [List.singleton_append, List.mem_cons, not_or]
  refine ⟨?_, not_mem_of_accepts_star ht⟩
  rintro rfl
  cases hc

lemma withClashPath_failsIff (path : Option String) (options : V2RayWebsocketOptions) :
    FailsIff .panic (BreaksLine path) (withClashPath path options) := by
  cases path with
  | none => exact (FailsIff.ok options).congr (by simp [BreaksLine])
  | some path =>
    exact (withPath_failsIff (fun _ => not_mem_of_accepts_plus) path options).congr (by simp [BreaksLine])

def wsOpts (proxy : Proxy) : Proxy := (getMap proxy "ws-opts").getD []

def BadPaths (proxy : Proxy) : Prop :=
  BreaksLine (getString (wsOpts proxy) "path") ∨ BreaksLine (getString proxy "ws-path")

lemma convertWSTransport_failsIff :
    FailsIff .panic (BadPaths proxy) (convertWSTransport d order proxy) :=
  (withClashPath_failsIff _ _).bind fun _ => (withClashPath_failsIff _ _).bind_ok _

def EmptyHost (x : String × Value) : Prop := d.toLower x.1 = "host" ∧ x.2 = .list []

lemma upgradeHeader_failsIff (options : V2RayHTTPUpgradeOptions) (x : String × Value) :
    FailsIff .panic (EmptyHost d x) (upgradeHeader d options x) := by
  rw [upgradeHeader, EmptyHost]
  by_cases hkey : d.toLower x.1 = "host"
  · rw [if_pos (by simpa using hkey)]
    cases htexts : headerTexts d x.2 with
    | nil =>
      refine .inl ⟨⟨hkey, ?_⟩, rfl⟩
      unfold headerTexts at htexts
      split at htexts
      · next l hl => rw [hl, List.map_eq_nil_iff.1 htexts]
      · cases htexts
    | cons host rest =>
      refine .inr ⟨fun ⟨_, hempty⟩ => ?_, _, rfl⟩
      rw [hempty] at htexts
      cases htexts
  · rw [if_neg (by simpa using hkey)]
    exact (FailsIff.ok _).congr (by simp [hkey])

def BadHosts (proxy : Proxy) : Prop :=
  (∃ x ∈ (getMap (wsOpts proxy) "headers").getD [], EmptyHost d x) ∨
    ∃ x ∈ (getMap proxy "ws-headers").getD [], EmptyHost d x

lemma range_failsIff (site : Site) (m : Proxy) (options : V2RayHTTPUpgradeOptions) :
    FailsIff .panic (∃ x ∈ m, EmptyHost d x) ((order.range site m).foldlM (upgradeHeader d) options) := by
  refine (FailsIff.foldlM (upgradeHeader_failsIff d) _ _).congr ?_
  simp only [(order.perm site m).mem_iff]

lemma convertHTTPUpgradeTransport_failsIff (h : isHTTPUpgrade proxy = true) :
    FailsIff .panic (BadHosts d proxy) (convertHTTPUpgradeTransport d order proxy) := by
  rw [convertHTTPUpgradeTransport, BadHosts, wsOpts]
  cases hopts : getMap proxy "ws-opts" with
  | none =>
    rw [isHTTPUpgrade, hopts] at h
    cases h
  | some opts => exact (range_failsIff d order _ _ _).bind fun _ => range_failsIff d order _ _ _

def BadClashWebsocket (proxy : Proxy) : Prop :=
  isHTTPUpgrade proxy = true ∧ BadHosts d proxy ∨ isHTTPUpgrade proxy = false ∧ BadPaths proxy

lemma clashWSTransport_failsIff :
    FailsIff .panic (BadClashWebsocket d proxy) (clashWSTransport d order proxy) := by
  rw [clashWSTransport, BadClashWebsocket]
  split_ifs with h
  · exact ((convertHTTPUpgradeTransport_failsIff d order h).map _).congr (by simp [h])
  · exact ((convertWSTransport_failsIff d order).map _).congr (by simp [h])

def BadNetwork (proxy : Proxy) : Prop :=
  getString proxy "network" = some "ws" ∧ BadClashWebsocket d proxy

lemma networkTransport_failsIff {transport : String → Except Failure V2RayTransportOptions}
    (hws : transport "ws" = clashWSTransport d order proxy)
    (hother : ∀ network ≠ "ws", ∃ options, transport network = .ok options) :
    FailsIff .panic (BadNetwork d proxy) (networkTransport transport proxy) := by
  rw [networkTransport, BadNetwork]
  cases getString proxy "network" with
  | none => exact (FailsIff.ok _).congr (by simp)
  | some network =>
    by_cases hnetwork : network = "ws"
    · subst hnetwork
      dsimp only
      rw [hws]
      exact ((clashWSTransport_failsIff d order).map _).congr (by simp)
    · obtain ⟨options, hoptions⟩ := hother network hnetwork
      dsimp only
      rw [hoptions]
      exact (FailsIff.ok _).congr (by simp [hnetwork])

lemma newVMessClashParser_failsIff :
    FailsIff .panic (BadNetwork d proxy) (newVMessClashParser d order proxy) := by
  refine (networkTransport_failsIff d order rfl fun network hne => ?_).bind_ok _
  unfold vmessClashTransport
  split
  · exact absurd rfl hne
  all_goals exact ⟨_, rfl⟩

lemma clashTransport_failsIff :
    FailsIff .panic (BadNetwork d proxy) (networkTransport (clashTransport d order proxy) proxy) := by
  refine networkTransport_failsIff d order rfl fun network hne => ?_
  unfold clashTransport
  split
  · exact absurd rfl hne
  all_goals exact ⟨_, rfl⟩

lemma newVLESSClashParser_failsIff :
    FailsIff .panic (BadNetwork d proxy) (newVLESSClashParser d order proxy) :=
  (clashTransport_failsIff d order).bind_ok _

lemma newTrojanClashParser_failsIff :
    FailsIff .panic (BadNetwork d proxy) (newTrojanClashParser d order proxy) :=
  (clashTransport_failsIff d order).bind_ok _

def ReadsNetwork (proxy : Proxy) : Prop :=
  getString proxy "type" = some "vmess" ∨
    (getString proxy "type" = some "vless" ∧
      ∀ flow, getString proxy "flow" = some flow → flow = "xtls-rprx-vision" ∨ flow = "") ∨
    getString proxy "type" = some "trojan" ∧ getString proxy "flow" = none

def ProxyPanics (proxy : Proxy) : Prop := ReadsNetwork proxy ∧ BadNetwork d proxy

lemma newSTLSClashParser_ne_panic : newSTLSClashParser d proxy ≠ .error .panic := by
  rw [newSTLSClashParser]
  split <;> nofun

lemma passedOver_failsIff (h : ¬ ReadsNetwork proxy) (outbounds : List Outbound) :
    FailsIff .panic (ProxyPanics d proxy) (.ok outbounds : Except Failure (List Outbound)) :=
  (FailsIff.ok outbounds).congr (by simp [ProxyPanics, h])

lemma unless_failsIff {skip : Bool} (hskip : ReadsNetwork proxy ↔ skip = false) {x : Except Failure Outbound}
    (hx : FailsIff .panic (BadNetwork d proxy) x) :
    FailsIff .panic (ProxyPanics d proxy) (if skip then .ok [] else x.map ([·])) := by
  cases skip with
  | false => exact (hx.map _).congr (by simp [ProxyPanics, hskip])
  | true => exact passedOver_failsIff d (by simp [hskip]) []

lemma parseProxy_failsIff (order : MapOrder) (proxy : Proxy) :
    FailsIff .panic (ProxyPanics d proxy) (parseProxy d order proxy) := by
  unfold parseProxy
  split
  case h_1 htype =>
    have hss : ¬ ReadsNetwork proxy := by simp [ReadsNetwork, htype]
    split
    · exact passedOver_failsIff d hss _
    · split
      · exact passedOver_failsIff d hss _
      · exact passedOver_failsIff d hss _
      · next hpanic => exact absurd hpanic (newSTLSClashParser_ne_panic d)
    all_goals exact passedOver_failsIff d hss _
  case h_5 htype =>
    refine ((newVMessClashParser_failsIff d order).map _).congr ?_
    simp [ProxyPanics, ReadsNetwork, htype]
  case h_6 htype =>
    refine unless_failsIff d ?_ (newVLESSClashParser_failsIff d order)
    cases hflow : getString proxy "flow" with
    | none => simp [ReadsNetwork, htype, hflow]
    | some flow => simp [ReadsNetwork, htype, hflow, or_iff_not_imp_left]
  case h_8 htype =>
    refine unless_failsIff d ?_ (newTrojanClashParser_failsIff d order)
    simp [ReadsNetwork, htype]
  case h_12 hvmess hvless _ htrojan _ _ _ =>
    refine passedOver_failsIff d ?_ []
    rintro (h | ⟨h, -⟩ | ⟨h, -⟩)
    · exact hvmess h
    · exact hvless h
    · exact htrojan h
  all_goals next htype => exact passedOver_failsIff d (by simp [ReadsNetwork, htype]) _

theorem clash_parser_never_panics_iff (order : ℕ → MapOrder) (content : String) :
    newClashParser d order content ≠ .error .panic ↔
      ∀ proxies, d.yaml content = .ok proxies → ∀ proxy ∈ proxies, ¬ ProxyPanics d proxy := by
  rw [newClashParser]
  cases d.yaml content with
  | error err => simp
  | ok proxies =>
    simp [(flatMapM_failsIff (parseProxy_failsIff d) order proxies).error_iff]

def proxyDecoders (proxy : Proxy) (h : (Value.map proxy).Wellformed) : Decoders :=
  { plainDecoders with
    yaml := fun _ => .ok [proxy]
    yaml_wellformed := by
      rintro content _ ⟨⟩ proxy hproxy
      rwa [List.mem_singleton.1 hproxy] }

def brokenPath : Proxy :=
  [("type", .str "vmess"), ("network", .str "ws"), ("ws-opts", .map [("path", .str "a\nb")])]

def emptyHost : Proxy :=
  [("type", .str "trojan"), ("network", .str "ws"),
    ("ws-opts", .map [("v2ray-http-upgrade", .bool true), ("headers", .map [("host", .list [])])])]

lemma brokenPath_wellformed : (Value.map brokenPath).Wellformed := by
  simp [brokenPath, Value.Wellformed, mapWellformed, Distinct]

lemma emptyHost_wellformed : (Value.map emptyHost).Wellformed := by
  simp [emptyHost, Value.Wellformed, mapWellformed, listWellformed, Distinct]

theorem clash_parser_panics :
    newClashParser (proxyDecoders brokenPath brokenPath_wellformed) (fun _ => .asListed) "" =
        .error .panic ∧
      newClashParser (proxyDecoders emptyHost emptyHost_wellformed) (fun _ => .asListed) "" =
        .error .panic := by
  decide

end SingBox.Provider
