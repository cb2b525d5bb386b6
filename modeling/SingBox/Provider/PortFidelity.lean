import SingBox.Provider.LinkAddress

namespace SingBox.Provider

open SingBox.Options Lib.Text Lib.Maps Lib.Regexp Lib.Errors List

variable {text : String} {n : ℕ}

def HasPort (written : Option String) (o : Outbound) : Prop :=
  ∃ text n, written = some text ∧ digits? text.toList = some n ∧ o.serverPort.toNat = n

def IsPort (written : Option String) : Prop :=
  ∃ text n, written = some text ∧ digits? text.toList = some n ∧ n < 2 ^ 16

def portOf (text : Option String) : UInt16 := (text.map stringToUint16).getD 0

lemma portOf_toNat (h : digits? text.toList = some n) (hn : n < 2 ^ 16) :
    (portOf (some text)).toNat = n := by
  have hport : (UInt16.ofNat n).toNat = n := by rw [UInt16.toNat_ofNat', Nat.mod_eq_of_lt hn]
  rw [← hport] at h
  change (stringToUint16 text).toNat = n
  rw [stringToUint16_of_digits h, hport]

lemma hasPort_iff {written read : Option String} {o : Outbound}
    (h : IsPort written → o.serverPort = portOf read) :
    HasPort written o ↔ IsPort written ∧ portOf read = portOf written := by
  constructor
  · rintro ⟨text, n, rfl, hn, hport⟩
    have hlt : n < 2 ^ 16 := hport ▸ o.serverPort.toNat_lt
    have hwritten : IsPort (some text) := ⟨text, n, rfl, hn, hlt⟩
    refine ⟨hwritten, ?_⟩
    rw [← h hwritten, ← UInt16.toNat_inj, hport, portOf_toNat hn hlt]
  · rintro ⟨hwritten, hsame⟩
    obtain ⟨text, n, rfl, hn, hlt⟩ := id hwritten
    exact ⟨text, n, rfl, hn, by rw [h hwritten, hsame, portOf_toNat hn hlt]⟩

variable {params : List (String × Param)} {transport : String → Except Failure V2RayTransportOptions}
  {tls : String → Bool} {o o' : LinkOptions}

lemma apply_serverPort (p : Param) (value : String) (o : LinkOptions) :
    (p.apply value o).serverPort = if p = .port then stringToUint16 value else o.serverPort := by
  cases p <;> rfl

lemma paramStep_serverPort {x : String × String} (h : paramStep params transport tls o x = .ok o') :
    o'.serverPort = if paramOf params x.1 = .port then stringToUint16 x.2 else o.serverPort := by
  by_cases hx : paramOf params x.1 = .transport
  · rw [paramStep_of_eq hx] at h
    rw [hx]
    cases htransport : transport x.2 with
    | error err =>
      rw [htransport] at h
      cases h
    | ok options =>
      rw [htransport] at h
      cases h
      rfl
  · rw [paramStep_of_ne hx] at h
    cases h
    exact apply_serverPort _ _ _

variable {l : List (String × String)}

lemma loop_serverPort (h : l.foldlM (paramStep params transport tls) o = .ok o')
    (hnone : ∀ x ∈ l, paramOf params x.1 ≠ .port) : o'.serverPort = o.serverPort := by
  induction l generalizing o with
  | nil =>
    cases h
    rfl
  | cons x l ih =>
    obtain ⟨next, hstep, hrest⟩ := bind_eq_ok.1 h
    rw [ih hrest fun y hy => hnone y (mem_cons_of_mem x hy), paramStep_serverPort hstep,
      if_neg (hnone x mem_cons_self)]

lemma loop_serverPort_lookup (hd : Distinct l)
    (h : l.foldlM (paramStep params transport tls) o = .ok o')
    (hport : ∀ key, paramOf params key = .port ↔ key = "port") :
    o'.serverPort = ((l.lookup "port").map stringToUint16).getD o.serverPort := by
  induction l generalizing o with
  | nil =>
    cases h
    rfl
  | cons x l ih =>
    obtain ⟨next, hstep, hrest⟩ := bind_eq_ok.1 h
    obtain ⟨hnot, hl⟩ := nodup_cons.1 hd
    have hnext := paramStep_serverPort hstep
    obtain ⟨key, value⟩ := x
    by_cases hx : key = "port"
    · subst hx
      have hother : ∀ y ∈ l, paramOf params y.1 ≠ .port := by
        intro y hy hkey
        exact hnot (mem_map.2 ⟨y, hy, (hport _).1 hkey⟩)
      rw [loop_serverPort hrest hother, hnext, if_pos ((hport _).2 rfl), lookup_cons_self]
      rfl
    · have hne : ("port" == key) = false := beq_false_of_ne (Ne.symm hx)
      rw [ih hl hrest, hnext, if_neg (mt (hport _).1 hx), lookup_cons, hne]

section Links

variable (d : TextDecoders)

def portParameter (query : String) : Option String :=
  ((splitChar '&' query).map (splitKeyValue '=')).reverse.lookup "port"

def vmessPort (result : Groups) : String :=
  (portParameter (result 4)).getD (decodeURIComponent d (result 3))

def linkParts (line : String) : Option (String × String) := match split "://" (trimSpace line) with
  | protocol :: content :: _ =>
    some (d.toLower (trimSpace protocol), trimSpace (decodeBase64Safe d (trimSpace content)))
  | _ => none

variable {d} {order : MapOrder} {protocol content : String} {outbound : Outbound}

lemma newSSNativeParser_port (h : newSSNativeParser d content = .ok outbound) :
    ∃ result, linkParser.findStringSubmatch content = some result ∧
      outbound.serverPort = stringToUint16 (result 3) := by
  rw [newSSNativeParser] at h
  split at h
  · cases h
  next result hmatch =>
    split at h <;> cases h
    exact ⟨result, hmatch, rfl⟩

lemma ssrStep_port (o : Outbound × ShadowsocksROptions) (addon : String) :
    (ssrStep d o addon).1.serverPort = o.1.serverPort := by
  rw [ssrStep]
  split
  split <;> rfl

lemma newSSRNativeParser_port (h : newSSRNativeParser d content = .ok outbound) :
    ∃ result, ssrParser.findStringSubmatch content = some result ∧
      outbound.serverPort = stringToUint16 (result 2) := by
  rw [newSSRNativeParser] at h
  split at h
  · cases h
  next result hmatch =>
    cases h
    exact ⟨result, hmatch,
      foldl_kept (g := fun o : Outbound × ShadowsocksROptions => o.1.serverPort) ssrStep_port _ _⟩

lemma newTuicNativeParser_port (h : newTuicNativeParser d content = .ok outbound) :
    ∃ result, tuicParser.findStringSubmatch content = some result ∧
      outbound.serverPort = stringToUint16 (result 4) := by
  rw [newTuicNativeParser] at h
  split at h <;> cases h
  next result hmatch => exact ⟨result, hmatch, rfl⟩

lemma newHysteriaNativeParser_port (h : newHysteriaNativeParser content = .ok outbound) :
    ∃ result, hysteriaParser.findStringSubmatch content = some result ∧
      outbound.serverPort = stringToUint16 (result 2) := by
  rw [newHysteriaNativeParser] at h
  split at h <;> cases h
  next result hmatch => exact ⟨result, hmatch, rfl⟩

lemma newHysteria2NativeParser_port (h : newHysteria2NativeParser content = .ok outbound) :
    ∃ result, hysteria2Parser.findStringSubmatch content = some result ∧
      outbound.serverPort = stringToUint16 (if result 3 = "" then "443" else result 3) := by
  rw [newHysteria2NativeParser] at h
  split at h
  · cases h
  next result hmatch =>
    obtain ⟨o, -, h⟩ := bind_eq_ok.1 h
    cases h
    refine ⟨result, hmatch, ?_⟩
    split_ifs
    · rfl
    · rfl

lemma newVLESSNativeParser_port (h : newVLESSNativeParser d order content = .ok outbound) :
    ∃ result, linkParser.findStringSubmatch content = some result ∧
      outbound.serverPort = stringToUint16 (result 3) := by
  rw [newVLESSNativeParser] at h
  split at h
  · cases h
  next result hmatch =>
    obtain ⟨o, ho, h⟩ := bind_eq_ok.1 h
    cases h
    have hnone : ∀ x ∈ vlessParams, x.2 ≠ .port := by decide
    exact ⟨result, hmatch, loop_serverPort ho fun x _ hx => hnone _ (paramOf_mem hx (by decide)) rfl⟩

lemma newTrojanNativeParser_port (h : newTrojanNativeParser d order content = .ok outbound) :
    ∃ result, linkParser.findStringSubmatch content = some result ∧
      outbound.serverPort = stringToUint16 (result 3) := by
  rw [newTrojanNativeParser] at h
  split at h
  · cases h
  next result hmatch =>
    obtain ⟨o, ho, h⟩ := bind_eq_ok.1 h
    cases h
    have hnone : ∀ x ∈ trojanParams, x.2 ≠ .port := by decide
    exact ⟨result, hmatch, loop_serverPort ho fun x _ hx => hnone _ (paramOf_mem hx (by decide)) rfl⟩

lemma paramOf_vmess_port (key : String) : paramOf vmessParams key = .port ↔ key = "port" := by
  constructor
  · intro h
    have hkeys : ∀ x ∈ vmessParams, x.2 = .port → x.1 = "port" := by decide
    exact hkeys _ (paramOf_mem h (by decide)) rfl
  · rintro rfl
    rfl

lemma vmessAddon_port (proxy : List (String × String)) (addon : String) :
    (vmessAddon d proxy addon).lookup "port" =
      if (splitKeyValue '=' addon).1 = "port" then some (splitKeyValue '=' addon).2
      else proxy.lookup "port" := by
  rw [vmessAddon]
  split
  next key value hsplit =>
  rw [hsplit]
  split
  · split_ifs <;> simp_all [lookup_set]
  all_goals simp_all [lookup_set, eq_comm]

lemma vmessAddons_port (addons : List String) (proxy : List (String × String)) :
    (addons.foldl (vmessAddon d) proxy).lookup "port" =
      ((addons.map (splitKeyValue '=')).reverse.lookup "port").or (proxy.lookup "port") := by
  induction addons generalizing proxy with
  | nil => rfl
  | cons addon addons ih =>
    rw [foldl_cons, ih, vmessAddon_port, map_cons, reverse_cons, lookup_append,
      Option.or_assoc, lookup_cons]
    by_cases hkey : (splitKeyValue '=' addon).1 = "port"
    · rw [if_pos hkey, hkey, beq_self_eq_true]
      rfl
    · rw [if_neg hkey, beq_false_of_ne (Ne.symm hkey)]
      rfl

lemma newVMessNativeParser_port (h : newVMessNativeParser d order content = .ok outbound) :
    ∃ proxy, vmessMap d content = .ok proxy ∧ outbound.serverPort = portOf (proxy.lookup "port") := by
  obtain ⟨proxy, hmap, h⟩ := bind_eq_ok.1 h
  obtain ⟨o, ho, h⟩ := bind_eq_ok.1 h
  cases h
  have hd := vmessMap_distinct d hmap
  have hperm := order.perm .link proxy
  refine ⟨proxy, hmap, ?_⟩
  rw [hd.lookup_perm hperm.symm]
  exact loop_serverPort_lookup (hd.perm hperm.symm) ho paramOf_vmess_port

lemma vmessMap_object {proxy m : List (String × String)} (hjson : d.jsonStrings content = some m)
    (h : vmessMap d content = .ok proxy) : proxy = m := by
  rw [vmessMap] at h
  simp only [hjson] at h
  cases h
  rfl

lemma vmessMap_address {proxy : List (String × String)} (hjson : d.jsonStrings content = none)
    (h : vmessMap d content = .ok proxy) : ∃ result, linkParser.findStringSubmatch content = some result ∧
      proxy.lookup "port" = some (vmessPort d result) := by
  rw [vmessMap] at h
  simp only [hjson] at h
  split at h <;> cases h
  next result hmatch =>
    refine ⟨result, hmatch, ?_⟩
    rw [vmessAddons_port]
    simp [vmessPort, portParameter, lookup_set]

/-- The text that becomes the port of an address, by the groups of the pattern. -/
def AddressScheme.portRead (d : TextDecoders) (s : AddressScheme) (result : Groups) : String := match s with
  | .hysteria2 | .hy2 => if result 3 = "" then "443" else result 3
  | .vmess => vmessPort d result
  | _ => result s.portGroup

lemma protocolParser_address {s : AddressScheme} (hjson : s = .vmess → d.jsonStrings content = none)
    (h : protocolParser d order s.name content = some (.ok outbound)) :
    ∃ result, s.pattern.findStringSubmatch content = some result ∧
      outbound.serverPort = stringToUint16 (s.portRead d result) := by
  cases s with
  | ss => exact newSSNativeParser_port (Option.some.inj h)
  | tuic => exact newTuicNativeParser_port (Option.some.inj h)
  | vmess =>
    obtain ⟨proxy, hmap, hport⟩ := newVMessNativeParser_port (Option.some.inj h)
    obtain ⟨result, hfind, hlookup⟩ := vmessMap_address (hjson rfl) hmap
    rw [hlookup] at hport
    exact ⟨result, hfind, hport⟩
  | vless => exact newVLESSNativeParser_port (Option.some.inj h)
  | trojan => exact newTrojanNativeParser_port (Option.some.inj h)
  | hysteria => exact newHysteriaNativeParser_port (Option.some.inj h)
  | hysteria2 => exact newHysteria2NativeParser_port (Option.some.inj h)
  | hy2 => exact newHysteria2NativeParser_port (Option.some.inj h)

lemma protocolParser_ssr (h : protocolParser d order "ssr" content = some (.ok outbound)) :
    newSSRNativeParser d content = .ok outbound := Option.some.inj h

lemma protocolParser_vmess (h : protocolParser d order "vmess" content = some (.ok outbound)) :
    newVMessNativeParser d order content = .ok outbound := Option.some.inj h

lemma parseLine_parts {line : String} {outbounds : List Outbound} {o : Outbound}
    (hparts : linkParts d line = some (protocol, content)) (h : parseLine d order line = .ok outbounds)
    (ho : o ∈ outbounds) : protocolParser d order protocol content = some (.ok o) := by
  rw [linkParts] at hparts
  rw [parseLine] at h
  split at h
  next protocol content rest hsplit =>
    simp only [hsplit] at hparts
    cases hparts
    split at h
    · cases h
      exact absurd ho not_mem_nil
    next hresult =>
      rw [kept_ok h o ho] at hresult
      exact hresult
  · cases h
    exact absurd ho not_mem_nil

end Links

variable {d : Decoders} {order : MapOrder} {P : Outbound → Prop}

def LastIs (P : Outbound → Prop) (result : Except Failure (List Outbound)) : Prop :=
  ∀ outbounds o, result = .ok outbounds → outbounds.getLast? = some o → P o

lemma lastIs_nil : LastIs P (.ok []) := by
  rintro _ o ⟨⟩ ⟨⟩

variable {o : Outbound}

lemma lastIs_single (h : P o) : LastIs P (.ok [o]) := by
  rintro _ o ⟨⟩ ⟨⟩
  exact h

lemma lastIs_pair {o' : Outbound} (h : P o') : LastIs P (.ok [o, o']) := by
  rintro _ o ⟨⟩ ⟨⟩
  exact h

lemma lastIs_map {α : Type} {result : Except Failure α} {make : α → Outbound}
    (h : ∀ a, result = .ok a → P (make a)) : LastIs P ((result >>= fun a => .ok (make a)).map ([·])) := by
  cases result with
  | error err => rintro _ o ⟨⟩
  | ok a => exact lastIs_single (h a rfl)

def transportOf : ProtocolOptions → Option V2RayTransportOptions
  | .vmess options => options.transport
  | .vless options => options.transport
  | .trojan options => options.transport
  | _ => none

structure FromEntry (d : Decoders) (order : MapOrder) (proxy : Proxy) (o : Outbound) : Prop where
  port : o.serverPort = getPort d proxy
  dialer : o.dialer = convertDialerOption d proxy
  vmess : getString proxy "type" = some "vmess" →
    networkTransport (vmessClashTransport d order proxy) proxy = .ok (transportOf o.protocol)
  others : getString proxy "type" = some "vless" ∨ getString proxy "type" = some "trojan" →
    networkTransport (clashTransport d order proxy) proxy = .ok (transportOf o.protocol)
  wireGuard : getString proxy "type" = some "wireguard" → o = newWireGuardClashParser d proxy

lemma fromEntry_of_type {proxy : Proxy} {type : String} (htype : getString proxy "type" = some type)
    (hother : type ∉ ["vmess", "vless", "trojan", "wireguard"])
    (hport : o.serverPort = getPort d proxy) (hdialer : o.dialer = convertDialerOption d proxy) :
    FromEntry d order proxy o := by
  simp only [mem_cons, not_mem_nil, or_false, not_or] at hother
  constructor <;> simp_all

lemma parseProxy_last (proxy : Proxy) : LastIs (FromEntry d order proxy) (parseProxy d order proxy) := by
  unfold parseProxy
  split
  · next htype =>
    split
    · exact lastIs_single (fromEntry_of_type htype (by decide) rfl rfl)
    · rw [newSTLSClashParser]
      cases getMap proxy "plugin-opts" with
      | none => exact lastIs_nil
      | some opts => exact lastIs_pair (fromEntry_of_type htype (by decide) rfl rfl)
    · exact lastIs_single (fromEntry_of_type htype (by decide) rfl rfl)
    · exact lastIs_single (fromEntry_of_type htype (by decide) rfl rfl)
    · exact lastIs_nil
  · next htype => exact lastIs_single (fromEntry_of_type htype (by decide) rfl rfl)
  · next htype => exact lastIs_single (fromEntry_of_type htype (by decide) rfl rfl)
  · next htype =>
    split_ifs
    · exact lastIs_nil
    · exact lastIs_single (fromEntry_of_type htype (by decide) rfl rfl)
  · next htype =>
    exact lastIs_map fun t ht => ⟨rfl, rfl, fun _ => ht, by simp [htype], by simp [htype]⟩
  · next htype =>
    split_ifs
    · exact lastIs_nil
    · exact lastIs_map fun t ht => ⟨rfl, rfl, by simp [htype], fun _ => ht, by simp [htype]⟩
  · next htype => exact lastIs_single (fromEntry_of_type htype (by decide) rfl rfl)
  · next htype =>
    split_ifs
    · exact lastIs_nil
    · exact lastIs_map fun t ht => ⟨rfl, rfl, by simp [htype], fun _ => ht, by simp [htype]⟩
  · next htype => exact lastIs_single (fromEntry_of_type htype (by decide) rfl rfl)
  · next htype => exact lastIs_single (fromEntry_of_type htype (by decide) rfl rfl)
  · next htype =>
    exact lastIs_single ⟨rfl, rfl, by simp [htype], by simp [htype], fun _ => rfl⟩
  · exact lastIs_nil

lemma getPort_eq (proxy : Proxy) : getPort d proxy = portOf ((proxy.lookup "port").map (sprint d)) := by
  rw [getPort, portOf, Option.map_map]
  rfl

/-- What outbounds are made from: a line of a subscription, by what it says, or a proxy of a Clash
configuration. -/
inductive Entry where
  | address (line : String) (scheme : AddressScheme) (a : LinkAddress)
  | ssr (line : String) (fields : SSRFields)
  | vmessObject (line content : String) (object : List (String × String))
  | clash (proxy : Proxy)

namespace Entry

variable (d : Decoders) (order : MapOrder)

def Says : Entry → Prop
  | .address line scheme a => a.Plain scheme ∧
      linkParts d.toTextDecoders line = some (scheme.name, a.content scheme) ∧
      (scheme = .vmess → d.jsonStrings (a.content scheme) = none)
  | .ssr line fields => fields.Plain ∧ linkParts d.toTextDecoders line = some ("ssr", fields.content)
  | .vmessObject line content object =>
      linkParts d.toTextDecoders line = some ("vmess", content) ∧ d.jsonStrings content = some object
  | .clash _ => True

def port : Entry → Option String
  | .address _ _ a => a.port.map String.ofList
  | .ssr _ fields => some (String.ofList fields.port)
  | .vmessObject _ _ object => object.lookup "port"
  | .clash proxy => (proxy.lookup "port").map (sprint d)

/-- A parameter of a VMess link that is named like the port stands for the same one. -/
def Agrees : Entry → Prop
  | .address _ .vmess a => ∀ text ∈ portParameter a.queryText,
      stringToUint16 text = portOf (a.port.map String.ofList)
  | _ => True

def outbounds : Entry → Except Failure (List Outbound)
  | .address line _ _ | .ssr line _ | .vmessObject line _ _ => parseLine d.toTextDecoders order line
  | .clash proxy => parseProxy d order proxy

/-- The outbound of an accepted entry that has its address; with ShadowTLS it is the second one. -/
def outbound (entry : Entry) : Option Outbound := (entry.outbounds d order).toOption.bind (·.getLast?)

def portTaken : Entry → Option String
  | .address _ .vmess a => (portParameter a.queryText).or (a.port.map String.ofList)
  | entry => entry.port d

variable {d order} {entry : Entry}

lemma outbound_eq_some (h : entry.outbound d order = some o) :
    ∃ outs, entry.outbounds d order = .ok outs ∧ outs.getLast? = some o := by
  obtain ⟨outs, houts, hlast⟩ := Option.bind_eq_some_iff.1 h
  cases hparsed : entry.outbounds d order with
  | error err =>
    rw [hparsed] at houts
    cases houts
  | ok outs' =>
    rw [hparsed] at houts
    cases houts
    exact ⟨_, rfl, hlast⟩

lemma agrees_iff : entry.Agrees ↔ portOf (entry.portTaken d) = portOf (entry.port d) := by
  cases entry with
  | address line scheme a =>
    cases scheme with
    | vmess =>
      rw [Agrees, portTaken, port]
      cases portParameter a.queryText with
      | none => simp
      | some text => simp [portOf]
    | _ => exact iff_of_true trivial rfl
  | _ => exact iff_of_true trivial rfl

/-- Digits stand for themselves in an escaped text. -/
def UnescapesDigits (d : TextDecoders) : Prop :=
  ∀ s : List Char, (∀ c ∈ s, c.isDigit = true) → d.queryUnescape (String.ofList s) = some (String.ofList s)

lemma address_serverPort (hd : UnescapesDigits d.toTextDecoders) {line : String} {s : AddressScheme}
    {a : LinkAddress} (hs : (Entry.address line s a).Says d)
    (h : protocolParser d.toTextDecoders order s.name (a.content s) = some (.ok o))
    (hport : IsPort ((Entry.address line s a).port d)) :
    o.serverPort = portOf ((Entry.address line s a).portTaken d) := by
  obtain ⟨ha, -, hjson⟩ := hs
  obtain ⟨text, n, htext, hn, -⟩ := hport
  obtain ⟨port, hport, rfl⟩ := Option.map_eq_some_iff.1 htext
  rw [String.toList_ofList] at hn
  obtain ⟨hne, hdigits⟩ := digits?_eq_some hn
  obtain ⟨result, hfind, hserver⟩ := protocolParser_address hjson h
  have htag : s.isTagged = true → a.tag.isSome = true := fun hs =>
    tag_of_find ha hdigits hport hs (by rw [hfind]; rfl)
  obtain ⟨result', hfind', hgroup, hquery⟩ := find_port ha hdigits hne hport htag
  cases hfind.symm.trans hfind'
  rw [hserver]
  cases s with
  | vmess =>
    have hdecode : decodeURIComponent d.toTextDecoders (result 3) = String.ofList port := by
      rw [show result 3 = String.ofList port from hgroup, decodeURIComponent, hd port hdigits]
      rfl
    rw [AddressScheme.portRead, vmessPort, show result 4 = a.queryText from hquery, hdecode, portTaken, hport]
    cases portParameter a.queryText <;> rfl
  | hysteria2 | hy2 =>
    have hgroup : result 3 = String.ofList port := hgroup
    have hempty : String.ofList port ≠ "" := fun hempty => hne (by
      rw [← String.toList_ofList (l := port), hempty]
      rfl)
    change stringToUint16 (if result 3 = "" then "443" else result 3) = portOf (a.port.map String.ofList)
    rw [hgroup, if_neg hempty, hport]
    rfl
  | _ =>
    change stringToUint16 (result _) = portOf (a.port.map String.ofList)
    rw [hport]
    exact congrArg stringToUint16 hgroup

lemma serverPort_eq (hd : UnescapesDigits d.toTextDecoders) (hs : entry.Says d)
    (h : entry.outbound d order = some o) (hport : IsPort (entry.port d)) :
    o.serverPort = portOf (entry.portTaken d) := by
  obtain ⟨outs, hparsed, hlast⟩ := outbound_eq_some h
  have hmem := mem_of_getLast? hlast
  cases entry with
  | address line s a =>
    have hparts : linkParts d.toTextDecoders line = some (s.name, a.content s) := hs.2.1
    have hparsed : parseLine d.toTextDecoders order line = .ok outs := hparsed
    exact address_serverPort hd hs (parseLine_parts hparts hparsed hmem) hport
  | ssr line fields =>
    obtain ⟨hplain, hparts⟩ := hs
    have hparsed : parseLine d.toTextDecoders order line = .ok outs := hparsed
    have hparser := parseLine_parts hparts hparsed hmem
    obtain ⟨result, hfind, hserver⟩ := newSSRNativeParser_port (protocolParser_ssr hparser)
    obtain ⟨result', hfind', hgroup⟩ := SSRFields.find_ssrParser hplain
    obtain rfl := Option.some.inj (hfind.symm.trans hfind')
    rw [hserver, hgroup]
    rfl
  | vmessObject line content object =>
    obtain ⟨hparts, hjson⟩ := hs
    have hparsed : parseLine d.toTextDecoders order line = .ok outs := hparsed
    have hparser := parseLine_parts hparts hparsed hmem
    obtain ⟨proxy, hmap, hserver⟩ := newVMessNativeParser_port (protocolParser_vmess hparser)
    rw [hserver, vmessMap_object hjson hmap]
    rfl
  | clash proxy =>
    rw [(parseProxy_last proxy outs o hparsed hlast).port, getPort_eq]
    rfl

end Entry

def socksProxy (port : Value) : Proxy := [("type", .str "socks5"), ("port", port)]

def plainAddress (port : List Char) (query : Option (Char × List Char)) : LinkAddress :=
  ⟨['p'], [], ['h'], some port, query, some ['a']⟩

lemma plainAddress_plain {port : List Char} {query : Option (Char × List Char)} {s : AddressScheme}
    (h : ∀ x ∈ query, (x.1 = '/' ∨ x.1 = '?') ∧ '#' ∉ x.2 ∧ '\n' ∉ x.2) : (plainAddress port query).Plain s where
  user := show ∀ c ∈ ['p'], c ∉ _ by simp
  user_ne := cons_ne_nil _ _
  tuic _ := show ':' ∉ ['p'] by simp
  password := forall_mem_nil _
  host := show ∀ c ∈ ['h'], c ∉ _ by simp
  host_ne := cons_ne_nil _ _
  query := h
  tag := by
    rintro _ ⟨⟩
    decide

def trojanEntry : Entry := .address "trojan://p@h:443#a" .trojan (plainAddress ['4', '4', '3'] none)

/-- Accepted entries with the port each says and the one its outbound gets. -/
def misread : List (Entry × String × UInt16) :=
  [(.address "hy2://p@h:abc#a" .hy2 (plainAddress ['a', 'b', 'c'] none), "abc", 443),
    (.address "trojan://p@h:70000#a" .trojan (plainAddress ['7', '0', '0', '0', '0'] none), "70000", 4464),
    (.address "vmess://p@h:1?port=2#a" .vmess
      (plainAddress ['1'] (some ('?', ['p', 'o', 'r', 't', '=', '2']))), "1", 2),
    (.clash (socksProxy (.str "abc")), "abc", 0)]

end SingBox.Provider
