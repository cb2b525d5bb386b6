import SingBox.Provider.PortFidelity

namespace SingBox.Provider

open SingBox.Options Lib.Maps List
open Route (IPAddr)

variable {d : Decoders} {order : MapOrder} {proxy : Proxy} {o : Outbound} {tls : OutboundTLSOptions}

def tlsOf : ProtocolOptions → Option OutboundTLSOptions
  | .tuic options => some options.tls
  | .vmess options => some options.tls
  | .vless options => some options.tls
  | .trojan options => some options.tls
  | .hysteria options => some options.tls
  | .hysteria2 options => some options.tls
  | .shadowTLS options => some options.tls
  | .http options => some options.tls
  | _ => none

def FlagKept (proxy : Proxy) (o : Outbound) : Prop :=
  ∀ tls, tlsOf o.protocol = some tls → tls.enabled = true →
    (tls.insecure = true ↔ proxy.lookup "skip-cert-verify" = some (.bool true))

def FlagUnread (proxy : Proxy) : Prop :=
  proxy.lookup "skip-cert-verify" = some (.bool true) ∧ getBool proxy "tls" = none

def asksTLS (proxy : Proxy) : Bool :=
  (getString proxy "client-fingerprint").isSome || (getMap proxy "reality-opts").isSome

def usesTLS (proxy : Proxy) : Bool :=
  match getString proxy "type" with
  | some "ss" => getString proxy "plugin" == some "shadow-tls" && (getMap proxy "plugin-opts").isSome
  | some "http" => asksTLS proxy
  | some "tuic" => !(proxy.lookup "token").isSome && asksTLS proxy
  | some "vmess" => asksTLS proxy || getString proxy "network" == some "h2"
  | some "vless" =>
    !((getString proxy "flow").any fun flow => flow != "xtls-rprx-vision" && flow != "") && asksTLS proxy
  | some "trojan" => !(getString proxy "flow").isSome
  | some "hysteria" | some "hysteria2" => true
  | _ => false

lemma flagKept_of_none (h : tlsOf o.protocol = none) : FlagKept proxy o := by
  intro tls htls
  rw [h] at htls
  cases htls

variable {key : String}

lemma getBool_eq_some {b : Bool} :
    getBool proxy key = some b ↔ proxy.lookup key = some (.bool b) := by
  rw [getBool]
  cases proxy.lookup key with
  | none => simp
  | some v => cases v <;> simp [Value.bool?]

lemma getString_eq_some {s : String} :
    getString proxy key = some s ↔ proxy.lookup key = some (.str s) := by
  rw [getString]
  cases proxy.lookup key with
  | none => simp
  | some v => cases v <;> simp [Value.str?]

lemma flagKept_iff (h : tlsOf o.protocol = some tls)
    (hinsecure : tls.insecure = (convertTLSOptions d proxy).insecure) :
    FlagKept proxy o ↔ ¬ (tls.enabled = true ∧ FlagUnread proxy) := by
  have hkept : FlagKept proxy o ↔ (tls.enabled = true →
      (tls.insecure = true ↔ getBool proxy "skip-cert-verify" = some true)) := by
    rw [getBool_eq_some]
    constructor
    · exact fun hkept => hkept tls h
    · rintro hkept tls' htls'
      cases h.symm.trans htls'
      exact hkept
  rw [hkept, hinsecure, FlagUnread, ← getBool_eq_some, convertTLSOptions]
  cases getBool proxy "tls" with
  | none => simp
  | some b => cases getBool proxy "skip-cert-verify" <;> simp

lemma enabled_of_unread (h : FlagUnread proxy) : (convertTLSOptions d proxy).enabled =
    (getString proxy "type" == some "trojan" || asksTLS proxy) := by
  rw [convertTLSOptions, h.2, asksTLS]
  simp [Bool.or_assoc]

lemma flagKept_iff_usesTLS (h : tlsOf o.protocol = some tls)
    (hinsecure : tls.insecure = (convertTLSOptions d proxy).insecure)
    (henabled : FlagUnread proxy → tls.enabled = usesTLS proxy) :
    (∀ o' ∈ [o], FlagKept proxy o') ↔ ¬ (usesTLS proxy = true ∧ FlagUnread proxy) := by
  rw [forall_mem_singleton, flagKept_iff h hinsecure]
  exact not_congr (and_congr_left fun hunread => by rw [henabled hunread])

lemma flagKept_iff_converted (h : tlsOf o.protocol = some (convertTLSOptions d proxy))
    (huses : (getString proxy "type" == some "trojan" || asksTLS proxy) = usesTLS proxy) :
    (∀ o' ∈ [o], FlagKept proxy o') ↔ ¬ (usesTLS proxy = true ∧ FlagUnread proxy) :=
  flagKept_iff_usesTLS h rfl fun hunread => (enabled_of_unread hunread).trans huses

variable {outs : List Outbound}

lemma flagKept_iff_of_unused (h : ∀ o ∈ outs, tlsOf o.protocol = none)
    (hunused : usesTLS proxy = false) :
    (∀ o ∈ outs, FlagKept proxy o) ↔ ¬ (usesTLS proxy = true ∧ FlagUnread proxy) :=
  iff_of_true (fun o ho => flagKept_of_none (h o ho)) fun huses => by simp [hunused] at huses

lemma networkTransport_eq_ok {α : Type} {transport : Except Failure α} {make : α → Outbound}
    (h : (transport >>= fun t => Except.ok (make t)).map ([·]) = .ok outs) :
    ∃ t, outs = [make t] := by
  cases transport with
  | error err => cases h
  | ok t => exact ⟨t, (Except.ok.inj h).symm⟩

lemma usesTLS_ss (htype : getString proxy "type" = some "ss")
    (hplugin : proxy.lookup "plugin" ≠ some (.str "shadow-tls")) : usesTLS proxy = false := by
  have hne : ¬ getString proxy "plugin" = some "shadow-tls" := fun h => hplugin (getString_eq_some.1 h)
  simp [usesTLS, htype, hne]

theorem certificate_flag_iff (order : MapOrder) {outs : List Outbound} (h : parseProxy d order proxy = .ok outs) :
    (∀ o ∈ outs, FlagKept proxy o) ↔ ¬ (usesTLS proxy = true ∧ FlagUnread proxy) := by
  unfold parseProxy at h
  split at h
  · next htype =>
    split at h
    · next hplugin =>
      cases h
      exact flagKept_iff_of_unused (by simp [newSSClashParser, tlsOf]) (usesTLS_ss htype (by simp [hplugin]))
    · next hplugin =>
      rw [newSTLSClashParser] at h
      cases hopts : getMap proxy "plugin-opts" with
      | none =>
        rw [hopts] at h
        cases h
        exact flagKept_iff_of_unused (by simp) (by simp [usesTLS, htype, hopts])
      | some opts =>
        rw [hopts] at h
        cases h
        rw [forall_mem_cons, and_iff_right (flagKept_of_none rfl)]
        refine flagKept_iff_usesTLS (d := d) rfl rfl fun _ => ?_
        simp [usesTLS, htype, hopts, getString_eq_some.2 hplugin]
    · next hplugin =>
      cases h
      exact flagKept_iff_of_unused (by simp [newSSClashParser, tlsOf]) (usesTLS_ss htype (by simp [hplugin]))
    · next hplugin =>
      cases h
      exact flagKept_iff_of_unused (by simp [newSSClashParser, tlsOf]) (usesTLS_ss htype (by simp [hplugin]))
    · next hshadow _ _ hplugin =>
      cases h
      exact flagKept_iff_of_unused (by simp) (usesTLS_ss htype (by simpa [hplugin] using hshadow))
  · next htype =>
    cases h
    exact flagKept_iff_of_unused (by simp [newSSRClashParser, tlsOf]) (by simp [usesTLS, htype])
  · next htype =>
    cases h
    exact flagKept_iff_converted (d := d) rfl (by simp [usesTLS, htype])
  · next htype =>
    split_ifs at h with htoken
    · cases h
      exact flagKept_iff_of_unused (by simp) (by rw [usesTLS, htype, htoken]; rfl)
    · cases h
      refine flagKept_iff_usesTLS (d := d) rfl rfl fun hunread => ?_
      rw [enabled_of_unread hunread, usesTLS, htype, Bool.eq_false_of_not_eq_true htoken]
      rfl
  · next htype =>
    obtain ⟨t, rfl⟩ := networkTransport_eq_ok h
    refine flagKept_iff_usesTLS (d := d) rfl rfl fun hunread => ?_
    rw [enabled_of_unread hunread]
    simp [usesTLS, htype]
  · next htype =>
    split_ifs at h with hflow
    · cases h
      exact flagKept_iff_of_unused (by simp) (by simp [usesTLS, htype, hflow])
    · obtain ⟨t, rfl⟩ := networkTransport_eq_ok h
      exact flagKept_iff_converted (d := d) rfl (by simp [usesTLS, htype, hflow])
  · next htype =>
    cases h
    exact flagKept_iff_of_unused (by simp [newSOCKS5ClashParser, tlsOf]) (by simp [usesTLS, htype])
  · next htype =>
    split_ifs at h with hflow
    · cases h
      exact flagKept_iff_of_unused (by simp) (by simp [usesTLS, htype, hflow])
    · obtain ⟨t, rfl⟩ := networkTransport_eq_ok h
      exact flagKept_iff_converted (d := d) rfl (by simp_all [usesTLS])
  · next htype =>
    cases h
    exact flagKept_iff_usesTLS (d := d) rfl rfl fun _ => by simp [usesTLS, htype, withCertificate]
  · next htype =>
    cases h
    exact flagKept_iff_usesTLS (d := d) rfl rfl fun _ => by simp [usesTLS, htype, withCertificate]
  · next htype =>
    cases h
    exact flagKept_iff_of_unused (by simp [newWireGuardClashParser, tlsOf]) (by simp [usesTLS, htype])
  · cases h
    refine flagKept_iff_of_unused (by simp) ?_
    unfold usesTLS
    split <;> simp_all

def unverified (rest : Proxy) : Proxy := [("type", .str "trojan"), ("skip-cert-verify", .bool true)] ++ rest

theorem certificate_flag_read : ∃ outs,
    parseProxy plainDecoders .asListed (unverified [("tls", .bool true)]) = .ok outs ∧ outs ≠ [] ∧ ∀ o ∈ outs, FlagKept (unverified [("tls", .bool true)]) o :=
  ⟨_, rfl, by simp, (certificate_flag_iff .asListed rfl).2 fun h => absurd h.2.2 (by decide)⟩

theorem certificate_flag_unread : ∃ outs, parseProxy plainDecoders .asListed (unverified []) = .ok outs ∧
    ¬ ∀ o ∈ outs, FlagKept (unverified []) o := by
  refine ⟨_, rfl, fun h => ?_⟩
  have hinsecure := (h _ mem_cons_self _ rfl rfl).2 rfl
  exact absurd hinsecure (by decide)

/-- What is asked of `netip`, whose addresses are no prefixes, and of the decoder of JSON strings, which
have quotes. -/
structure ClashLaws (d : Decoders) where
  parseAddr : String → Option IPAddr
  contains : IPAddr × ℕ → IPAddr → Bool
  contains_self : ∀ text p, d.parsePrefix text = some p → contains p p.1 = true
  parsePrefix_addr : ∀ text addr, parseAddr text = some addr → d.parsePrefix text = none
  jsonString_bare : ∀ text ∈ ["", "ipv4_only", "ipv6_only", "prefer_ipv4", "prefer_ipv6"], d.jsonString text = none

def namedStrategy : String → Option DomainStrategy
  | "dual" => some .asIS
  | "ipv4" => some .useIPv4
  | "ipv6" => some .useIPv6
  | "ipv4-prefer" => some .preferIPv4
  | "ipv6-prefer" => some .preferIPv6
  | _ => none

variable (laws : ClashLaws d)

def ClashLaws.addressIn (text : String) : Option IPAddr :=
  (laws.parseAddr text).or ((d.parsePrefix text).map Prod.fst)

def localTexts (proxy : Proxy) : List String := (getString proxy "ip").toList ++ (getString proxy "ipv6").toList

def listedPeers (l : List Value) : List Proxy := (l.filterMap Value.map?).filter (getServer · != "")

structure ListsCarried (d : Decoders) (opts : Proxy) (options : V2RayHTTPOptions) : Prop where
  path : ∀ v l, opts.lookup "path" = some (.list (v :: l)) → options.path = sprint d v
  host : ∀ l, opts.lookup "host" = some (.list l) → options.host = l.map (sprint d)

def HasNetwork (proxy : Proxy) (network : String) : Prop :=
  (getString proxy "type" = some "vmess" ∨ getString proxy "type" = some "vless" ∨
    getString proxy "type" = some "trojan") ∧ getString proxy "network" = some network

def httpOptionsOf (o : Outbound) : V2RayHTTPOptions := ((transportOf o.protocol).getD {}).httpOptions

def wireGuardOf (o : Outbound) : WireGuardOptions :=
  match o.protocol with
  | .wireGuard options => options
  | _ => {}

structure Carried (proxy : Proxy) (o : Outbound) : Prop where
  mark : ∀ n, proxy.lookup "routing-mark" = some (.int n) → (o.dialer.routingMark.toNat : ℤ) = n
  strategy : ∀ keyword s, getString proxy "ip-version" = some keyword → namedStrategy keyword = some s →
    o.dialer.domainStrategy = s
  http : HasNetwork proxy "http" → ∀ opts, getMap proxy "http-opts" = some opts →
    ListsCarried d opts (httpOptionsOf o)
  h2 : HasNetwork proxy "h2" → ∀ opts l, getMap proxy "h2-opts" = some opts →
    opts.lookup "host" = some (.list l) → (httpOptionsOf o).host = l.map (sprint d)
  peers : getString proxy "type" = some "wireguard" → ∀ l, proxy.lookup "peers" = some (.list l) →
    (wireGuardOf o).peers = (listedPeers l).map (wireGuardPeer d)
  addresses : getString proxy "type" = some "wireguard" →
    List.Forall₂ (fun text p => ∀ addr, laws.addressIn text = some addr →
      ∃ q, p = some q ∧ laws.contains q addr = true) (localTexts proxy) (wireGuardOf o).localAddress

structure Bare (proxy : Proxy) : Prop where
  mark : ∀ n, proxy.lookup "routing-mark" = some (.int n) → n = 0
  strategy : ∀ keyword s, getString proxy "ip-version" = some keyword → namedStrategy keyword = some s → s = .asIS
  http : HasNetwork proxy "http" → ∀ opts, getMap proxy "http-opts" = some opts →
      (∀ v l, opts.lookup "path" = some (.list (v :: l)) → sprint d v = "") ∧
        ∀ l, opts.lookup "host" = some (.list l) → l = []
  h2 : HasNetwork proxy "h2" → ∀ opts l, getMap proxy "h2-opts" = some opts →
    opts.lookup "host" = some (.list l) → l = []
  peers : getString proxy "type" = some "wireguard" → ∀ l, proxy.lookup "peers" = some (.list l) →
    listedPeers l = []
  addresses : getString proxy "type" = some "wireguard" → ∀ text ∈ localTexts proxy, laws.parseAddr text = none

lemma convertDialerOption_mark : (convertDialerOption d proxy).routingMark = 0 := by
  have hnone : (proxy.lookup "routing-mark").bind Value.uint32? = none := by
    cases proxy.lookup "routing-mark" <;> rfl
  rw [convertDialerOption, hnone]
  rfl

include laws in
lemma convertDialerOption_strategy : (convertDialerOption d proxy).domainStrategy = .asIS := by
  have hbare : ∀ text ∈ ["", "ipv4_only", "ipv6_only", "prefer_ipv4", "prefer_ipv6"],
      unmarshalStrategy d text = .asIS := fun text htext => by
    rw [unmarshalStrategy, laws.jsonString_bare text htext]
  rw [convertDialerOption]
  cases getString proxy "ip-version" with
  | none => rfl
  | some version =>
    change ipVersionStrategy d version = .asIS
    unfold ipVersionStrategy
    split <;> first | exact hbare _ (by simp) | rfl

lemma hosts_list (l : List Value) : hosts (some (.list l)) = [] := rfl

variable {opts : Proxy}

lemma listsCarried_iff {options : V2RayHTTPOptions}
    (h : (∀ l, opts.lookup "path" = some (.list l) → options.path = "") ∧
      ∀ l, opts.lookup "host" = some (.list l) → options.host = []) :
    ListsCarried d opts options ↔ (∀ v l, opts.lookup "path" = some (.list (v :: l)) → sprint d v = "") ∧
      ∀ l, opts.lookup "host" = some (.list l) → l = [] := by
  constructor
  · rintro ⟨hpath, hhost⟩
    refine ⟨fun v l hl => (hpath v l hl).symm.trans (h.1 _ hl), fun l hl => ?_⟩
    exact map_eq_nil_iff.1 ((hhost l hl).symm.trans (h.2 l hl))
  · rintro ⟨hpath, hhost⟩
    refine ⟨fun v l hl => (h.1 _ hl).trans (hpath v l hl).symm, fun l hl => ?_⟩
    rw [h.2 l hl, hhost l hl]
    rfl

lemma forall₂_localAddress_iff (texts : List String) :
    List.Forall₂ (fun text p => ∀ addr, laws.addressIn text = some addr →
      ∃ q, p = some q ∧ laws.contains q addr = true) texts (texts.map d.parsePrefix) ↔
    ∀ text ∈ texts, laws.parseAddr text = none := by
  rw [forall₂_map_right_iff, forall₂_same]
  refine forall₂_congr fun text _ => ⟨fun h => ?_, fun h addr haddr => ?_⟩
  · by_contra hsome
    obtain ⟨addr, haddr⟩ := Option.ne_none_iff_exists'.1 hsome
    obtain ⟨q, hq, -⟩ := h addr (by rw [ClashLaws.addressIn, haddr]; rfl)
    rw [laws.parsePrefix_addr text addr haddr] at hq
    cases hq
  · rw [ClashLaws.addressIn, h, Option.none_or, Option.map_eq_some_iff] at haddr
    obtain ⟨p, hp, rfl⟩ := haddr
    exact ⟨p, hp, laws.contains_self text p hp⟩

lemma httpOptionsOf_lists (hfrom : FromEntry d order proxy o) (hnetwork : HasNetwork proxy "http")
    (hopts : getMap proxy "http-opts" = some opts) :
    (∀ l, opts.lookup "path" = some (.list l) → (httpOptionsOf o).path = "") ∧
      ∀ l, opts.lookup "host" = some (.list l) → (httpOptionsOf o).host = [] := by
  obtain ⟨htype | htype, hnetwork⟩ := hnetwork
  · have htransport := hfrom.vmess htype
    rw [networkTransport, hnetwork] at htransport
    rw [httpOptionsOf, ← Except.ok.inj htransport]
    simp only [Option.getD_some, convertHTTPTransport, hopts]
    exact ⟨fun l hl => by rw [hl, hosts_list]; rfl, fun l hl => by rw [hl, hosts_list]⟩
  · have htransport := hfrom.others htype
    rw [networkTransport, hnetwork] at htransport
    rw [httpOptionsOf, ← Except.ok.inj htransport]
    exact ⟨fun _ _ => rfl, fun _ _ => rfl⟩

lemma httpOptionsOf_host {l : List Value} (hfrom : FromEntry d order proxy o)
    (hnetwork : HasNetwork proxy "h2") (hopts : getMap proxy "h2-opts" = some opts)
    (hl : opts.lookup "host" = some (.list l)) : (httpOptionsOf o).host = [] := by
  obtain ⟨htype | htype, hnetwork⟩ := hnetwork
  · have htransport := hfrom.vmess htype
    rw [networkTransport, hnetwork] at htransport
    rw [httpOptionsOf, ← Except.ok.inj htransport]
    simp only [Option.getD_some, convertH2Transport, hopts, hl, hosts_list]
  · have htransport := hfrom.others htype
    rw [networkTransport, hnetwork] at htransport
    rw [httpOptionsOf, ← Except.ok.inj htransport]
    rfl

lemma wireGuardOf_eq (hfrom : FromEntry d order proxy o) (htype : getString proxy "type" = some "wireguard") :
    (wireGuardOf o).peers = [] ∧ (wireGuardOf o).localAddress = (localTexts proxy).map d.parsePrefix := by
  have hnone : (proxy.lookup "peers").bind Value.maps? = none := by
    cases proxy.lookup "peers" <;> rfl
  rw [hfrom.wireGuard htype, wireGuardOf, newWireGuardClashParser, hnone]
  exact ⟨rfl, rfl⟩

theorem clash_values_iff (order : MapOrder) (h : (Entry.clash proxy).outbound d order = some o) :
    Carried laws proxy o ↔ Bare laws proxy := by
  obtain ⟨outs, hparsed, hlast⟩ := Entry.outbound_eq_some h
  have hfrom := parseProxy_last proxy outs o hparsed hlast
  have hmark : (o.dialer.routingMark.toNat : ℤ) = 0 := by
    rw [hfrom.dialer, convertDialerOption_mark]
    rfl
  have hstrategy : o.dialer.domainStrategy = .asIS := by
    rw [hfrom.dialer, convertDialerOption_strategy laws]
  have hhttp : HasNetwork proxy "http" → ∀ opts, getMap proxy "http-opts" = some opts →
      (ListsCarried d opts (httpOptionsOf o) ↔
        (∀ v l, opts.lookup "path" = some (.list (v :: l)) → sprint d v = "") ∧
          ∀ l, opts.lookup "host" = some (.list l) → l = []) :=
    fun hnetwork opts hopts => listsCarried_iff (httpOptionsOf_lists hfrom hnetwork hopts)
  have hh2 : HasNetwork proxy "h2" → ∀ opts l, getMap proxy "h2-opts" = some opts →
      opts.lookup "host" = some (.list l) → ((httpOptionsOf o).host = l.map (sprint d) ↔ l = []) := by
    intro hnetwork opts l hopts hl
    rw [httpOptionsOf_host hfrom hnetwork hopts hl, eq_comm, map_eq_nil_iff]
  have hpeers : getString proxy "type" = some "wireguard" → ∀ l,
      ((wireGuardOf o).peers = (listedPeers l).map (wireGuardPeer d) ↔ listedPeers l = []) := by
    intro htype l
    rw [(wireGuardOf_eq hfrom htype).1, eq_comm, map_eq_nil_iff]
  have haddresses := fun htype : getString proxy "type" = some "wireguard" =>
    (wireGuardOf_eq hfrom htype).2 ▸ forall₂_localAddress_iff laws (localTexts proxy)
  constructor
  · rintro ⟨h₁, h₂, h₃, h₄, h₅, h₆⟩
    exact
      { mark := fun n hn => (h₁ n hn).symm.trans hmark
        strategy := fun keyword s hkeyword hs => (h₂ keyword s hkeyword hs).symm.trans hstrategy
        http := fun hn opts ho => (hhttp hn opts ho).1 (h₃ hn opts ho)
        h2 := fun hn opts l ho hl => (hh2 hn opts l ho hl).1 (h₄ hn opts l ho hl)
        peers := fun ht l hl => (hpeers ht l).1 (h₅ ht l hl)
        addresses := fun ht => (haddresses ht).1 (h₆ ht) }
  · rintro ⟨h₁, h₂, h₃, h₄, h₅, h₆⟩
    exact
      { mark := fun n hn => hmark.trans (h₁ n hn).symm
        strategy := fun keyword s hkeyword hs => hstrategy.trans (h₂ keyword s hkeyword hs).symm
        http := fun hn opts ho => (hhttp hn opts ho).2 (h₃ hn opts ho)
        h2 := fun hn opts l ho hl => (hh2 hn opts l ho hl).2 (h₄ hn opts l ho hl)
        peers := fun ht l hl => (hpeers ht l).2 (h₅ ht l hl)
        addresses := fun ht => (haddresses ht).2 (h₆ ht) }

def plainLaws : ClashLaws plainDecoders where
  parseAddr _ := none
  contains p addr := p.1 == addr
  contains_self _ _ _ := beq_self_eq_true _
  parsePrefix_addr _ _ _ := rfl
  jsonString_bare _ _ := rfl

def prefixDecoders : Decoders :=
  { plainDecoders with
    parsePrefix := fun text => if text = "10.0.0.2/24" then some (.v4 0x0A000002#32, 24) else none }

def prefixLaws : ClashLaws prefixDecoders where
  parseAddr text := if text = "10.0.0.2" then some (.v4 0x0A000002#32) else none
  contains p addr := p.1 == addr
  contains_self _ _ _ := beq_self_eq_true _
  parsePrefix_addr text addr h := by
    split_ifs at h with htext
    rw [htext]
    rfl
  jsonString_bare _ _ := rfl

def tunnelProxy : Proxy :=
  [("type", .str "wireguard"), ("ip", .str "10.0.0.2/24"), ("routing-mark", .int 0)]

theorem clash_values_kept :
    (∃ o, (Entry.clash [("type", .str "socks5"), ("routing-mark", .int 0)]).outbound plainDecoders
      .asListed = some o ∧ Carried plainLaws [("type", .str "socks5"), ("routing-mark", .int 0)] o) ∧
    ∃ o, (Entry.clash tunnelProxy).outbound prefixDecoders .asListed = some o ∧
      Carried prefixLaws tunnelProxy o ∧ (wireGuardOf o).localAddress = [some (.v4 0x0A000002#32, 24)] := by
  refine ⟨⟨_, rfl, (clash_values_iff plainLaws .asListed rfl).2 ?_⟩,
    _, rfl, (clash_values_iff prefixLaws .asListed rfl).2 ?_, rfl⟩
  · exact
      { mark := by rintro n ⟨⟩; rfl
        strategy := by rintro keyword s ⟨⟩
        http := fun h => absurd h.2 (by decide)
        h2 := fun h => absurd h.2 (by decide)
        peers := fun h => absurd h (by decide)
        addresses := fun h => absurd h (by decide) }
  · exact
      { mark := by rintro n ⟨⟩; rfl
        strategy := by rintro keyword s ⟨⟩
        http := fun h => absurd h.2 (by decide)
        h2 := fun h => absurd h.2 (by decide)
        peers := by rintro - l ⟨⟩
        addresses := by
          rintro - text htext
          have hlocal : localTexts tunnelProxy = ["10.0.0.2/24"] := rfl
          rw [hlocal, mem_singleton] at htext
          rw [htext]
          rfl }

theorem clash_values_lost :
    (∃ o, (Entry.clash [("type", .str "wireguard"), ("peers", .list [.map [("server", .str "a")]])]).outbound
      plainDecoders .asListed = some o ∧ (wireGuardOf o).peers = []) ∧
    (∃ o, (Entry.clash [("type", .str "socks5"), ("routing-mark", .int 5), ("ip-version", .str "ipv4")]).outbound
      plainDecoders .asListed = some o ∧ o.dialer.routingMark = 0 ∧ o.dialer.domainStrategy = .asIS) ∧
    ∃ o, (Entry.clash [("type", .str "vmess"), ("network", .str "http"),
      ("http-opts", .map [("host", .list [.str "a"])])]).outbound plainDecoders .asListed = some o ∧
        ¬ Carried plainLaws [("type", .str "vmess"), ("network", .str "http"),
          ("http-opts", .map [("host", .list [.str "a"])])] o := by
  refine ⟨⟨_, rfl, rfl⟩, ⟨_, rfl, rfl, rfl⟩, _, rfl, fun h => ?_⟩
  have hhost := (h.http ⟨.inl rfl, rfl⟩ _ rfl).host _ rfl
  cases hhost

end SingBox.Provider
