import SingBox.Provider.Clash
import SingBox.Provider.LinkOrder

namespace SingBox.Provider

open SingBox.Options Lib.Maps Lib.Text List Ranges Outbound ProtocolOptions

variable {m : Proxy} {key : String}

lemma wellformed_of_lookup {v : Value} (h : mapWellformed m) (hv : m.lookup key = some v) :
    v.Wellformed := by
  induction m with
  | nil => cases hv
  | cons x m ih =>
    obtain ⟨hx, hm⟩ := h
    rw [lookup_cons] at hv
    split at hv
    · cases hv
      exact hx
    · exact ih hm hv

lemma Value.Wellformed.getMap (h : (Value.map m).Wellformed) (key : String) :
    (Value.map ((getMap m key).getD [])).Wellformed := by
  have hnil : (Value.map []).Wellformed := ⟨distinct_nil, trivial⟩
  unfold Provider.getMap
  cases hv : m.lookup key with
  | none => exact hnil
  | some v =>
    have hw : v.Wellformed := wellformed_of_lookup h.2 hv
    cases v with
    | map m => exact hw
    | _ => exact hnil

variable (d : Decoders) {proxy : Proxy}

lemma addHeaders_order {headers : Option Proxy} (hd : Distinct (headers.getD [])) (site : Site)
    (init : HTTPHeader) (r r' : MapOrder) :
    addHeaders d r site headers init = addHeaders d r' site headers init := by
  refine foldl_perm (hd.perm (r.perm site _).symm) ((r.perm site _).trans (r'.perm site _).symm) ?_ init
  intro x _ y _ hne s
  exact Finmap.insert_insert_of_ne s hne

lemma convertWSTransport_order (hw : (Value.map proxy).Wellformed) (r r' : MapOrder) :
    convertWSTransport d r proxy = convertWSTransport d r' proxy := by
  have hopts := fun init => addHeaders_order d ((hw.getMap "ws-opts").getMap "headers").1 .wsOptsHeaders
    init r r'
  have hheaders := fun init => addHeaders_order d (hw.getMap "ws-headers").1 .wsHeaders init r r'
  simp only [convertWSTransport, hopts, hheaders]

lemma convertHTTPTransport_order (hw : (Value.map proxy).Wellformed) (r r' : MapOrder) :
    convertHTTPTransport d r proxy = convertHTTPTransport d r' proxy := by
  unfold convertHTTPTransport
  cases hopts : getMap proxy "http-opts" with
  | none => rfl
  | some httpOpts =>
    have hw' : (Value.map httpOpts).Wellformed := by
      have h := hw.getMap "http-opts"
      rwa [hopts] at h
    simp only [addHeaders_order d (hw'.getMap "headers").1 .httpOptsHeaders ∅ r r']

def isHost (x : String × Value) : Bool := d.toLower x.1 == "host"

def hostText (x : String × Value) : String := (headerTexts d x.2).headD ""

def HostMissing (m : Proxy) : Prop := ∃ x ∈ m, isHost d x = true ∧ headerTexts d x.2 = []

def HostConflict (m : Proxy) : Prop :=
  ∃ x ∈ m, ∃ y ∈ m, isHost d x = true ∧ isHost d y = true ∧ hostText d x ≠ hostText d y

def setHeader (options : V2RayHTTPUpgradeOptions) (x : String × Value) : V2RayHTTPUpgradeOptions :=
  if isHost d x then { options with host := hostText d x }
  else { options with headers := options.headers.insert x.1 (headerTexts d x.2) }

variable {x : String × Value}

lemma upgradeHeader_eq (h : ¬ (isHost d x = true ∧ headerTexts d x.2 = []))
    (options : V2RayHTTPUpgradeOptions) :
    upgradeHeader d options x = .ok (setHeader d options x) := by
  unfold upgradeHeader setHeader hostText isHost
  by_cases hhost : (d.toLower x.1 == "host") = true
  · rw [if_pos hhost, if_pos hhost]
    cases htexts : headerTexts d x.2 with
    | nil => exact absurd ⟨hhost, htexts⟩ h
    | cons host texts => rfl
  · rw [if_neg hhost, if_neg hhost]

lemma foldlM_upgradeHeader (h : ¬ HostMissing d m) (options : V2RayHTTPUpgradeOptions) :
    m.foldlM (upgradeHeader d) options = .ok (m.foldl (setHeader d) options) := by
  induction m generalizing options with
  | nil => rfl
  | cons x m ih =>
    rw [foldlM_cons, foldl_cons, upgradeHeader_eq d fun hx => h ⟨x, mem_cons_self, hx⟩]
    exact ih (fun ⟨y, hy, hm⟩ => h ⟨y, mem_cons_of_mem x hy, hm⟩) _

lemma foldlM_upgradeHeader_missing (h : HostMissing d m) (options : V2RayHTTPUpgradeOptions) :
    m.foldlM (upgradeHeader d) options = .error .panic := by
  induction m generalizing options with
  | nil =>
    obtain ⟨x, hx, -⟩ := h
    cases hx
  | cons x m ih =>
    rw [foldlM_cons]
    by_cases hx : isHost d x = true ∧ headerTexts d x.2 = []
    · have hhost : (d.toLower x.1 == "host") = true := hx.1
      rw [upgradeHeader, if_pos hhost, hx.2]
      rfl
    · rw [upgradeHeader_eq d hx]
      obtain ⟨y, hy, hm⟩ := h
      rcases mem_cons.1 hy with rfl | hy
      · exact absurd hm hx
      · exact ih ⟨y, hy, hm⟩ _

lemma hostMissing_perm {m' : Proxy} (hp : m.Perm m') : HostMissing d m ↔ HostMissing d m' :=
  exists_congr fun _ => and_congr_left fun _ => hp.mem_iff

variable {y : String × Value}

lemma setHeader_comm (hne : x.1 ≠ y.1)
    (h : isHost d x = true → isHost d y = true → hostText d x = hostText d y)
    (options : V2RayHTTPUpgradeOptions) :
    setHeader d (setHeader d options x) y = setHeader d (setHeader d options y) x := by
  unfold setHeader
  by_cases hx : isHost d x = true <;> by_cases hy : isHost d y = true
  · simp only [hx, hy, if_true, h hx hy]
  · simp only [hx, hy, if_true, if_false, Bool.false_eq_true]
  · simp only [hx, hy, if_true, if_false, Bool.false_eq_true]
  · simp only [hx, hy, if_false, Bool.false_eq_true, Finmap.insert_insert_of_ne _ hne]

lemma foldl_setHeader_order (hd : Distinct m) (h : ¬ HostConflict d m) (site : Site) (r r' : MapOrder)
    (options : V2RayHTTPUpgradeOptions) :
    (r.range site m).foldl (setHeader d) options = (r'.range site m).foldl (setHeader d) options := by
  refine foldl_perm (hd.perm (r.perm site m).symm) ((r.perm site m).trans (r'.perm site m).symm) ?_ options
  intro x hx y hy hne
  refine setHeader_comm d hne fun hhx hhy => ?_
  by_contra htext
  exact h ⟨x, (r.perm site m).mem_iff.1 hx, y, (r.perm site m).mem_iff.1 hy, hhx, hhy, htext⟩

def withoutHost (options : V2RayHTTPUpgradeOptions) : V2RayHTTPUpgradeOptions := { options with host := "" }

lemma withoutHost_setHeader (options : V2RayHTTPUpgradeOptions) (x : String × Value) :
    withoutHost (setHeader d options x) = withoutHost (setHeader d (withoutHost options) x) := by
  unfold setHeader
  split <;> rfl

lemma withoutHost_foldl_order (hd : Distinct m) (site : Site) (r r' : MapOrder)
    (options : V2RayHTTPUpgradeOptions) :
    withoutHost ((r.range site m).foldl (setHeader d) options) =
      withoutHost ((r'.range site m).foldl (setHeader d) options) := by
  have hloop : ∀ (l : Proxy) (o : V2RayHTTPUpgradeOptions), withoutHost (l.foldl (setHeader d) o) =
      l.foldl (fun o x => withoutHost (setHeader d o x)) (withoutHost o) := by
    intro l o
    induction l generalizing o with
    | nil => rfl
    | cons x l ih => rw [foldl_cons, foldl_cons, ih, withoutHost_setHeader]
  rw [hloop, hloop]
  refine foldl_perm (hd.perm (r.perm site m).symm) ((r.perm site m).trans (r'.perm site m).symm) ?_ _
  intro x _ y _ hne o
  unfold setHeader withoutHost
  split <;> split <;> simp only [Finmap.insert_insert_of_ne _ hne]

lemma foldl_setHeader_of_host (h : ∃ x ∈ m, isHost d x = true) {o o' : V2RayHTTPUpgradeOptions}
    (ho : withoutHost o = withoutHost o') : m.foldl (setHeader d) o = m.foldl (setHeader d) o' := by
  induction m generalizing o o' with
  | nil =>
    obtain ⟨x, hx, -⟩ := h
    cases hx
  | cons x m ih =>
    rw [foldl_cons, foldl_cons]
    by_cases hx : isHost d x = true
    · have hstep : setHeader d o x = setHeader d o' x := by
        unfold setHeader
        rw [if_pos hx, if_pos hx]
        exact congrArg (fun o : V2RayHTTPUpgradeOptions => { o with host := hostText d x }) ho
      rw [hstep]
    · obtain ⟨y, hy, hhost⟩ := h
      rcases mem_cons.1 hy with rfl | hy
      · exact absurd hhost hx
      · refine ih ⟨y, hy, hhost⟩ ?_
        rw [withoutHost_setHeader, ho, ← withoutHost_setHeader]

lemma foldl_setHeader_host (h : ∀ x ∈ m, isHost d x = false) (o : V2RayHTTPUpgradeOptions) :
    (m.foldl (setHeader d) o).host = o.host := by
  induction m generalizing o with
  | nil => rfl
  | cons x m ih =>
    rw [foldl_cons, ih fun y hy => h y (mem_cons_of_mem x hy), setHeader,
      h x mem_cons_self]
    rfl

lemma foldl_andLast_host (hd : Distinct m) (hx : x ∈ m) (hhost : isHost d x = true) (site : Site)
    (o : V2RayHTTPUpgradeOptions) :
    (((asListed.andLast x.1 : MapOrder).range site m).foldl (setHeader d) o).host =
      hostText d x := by
  rw [andLast_range _ _ hd hx, foldl_append, foldl_cons, foldl_nil, setHeader,
    if_pos hhost]

def wsOptsHeaders (proxy : Proxy) : Proxy :=
  (getMap ((getMap proxy "ws-opts").getD []) "headers").getD []

def wsHeaders (proxy : Proxy) : Proxy := (getMap proxy "ws-headers").getD []

def UpgradeAmbiguous (proxy : Proxy) : Prop :=
  ¬ HostMissing d (wsOptsHeaders proxy) ∧ ¬ HostMissing d (wsHeaders proxy) ∧
    (HostConflict d (wsHeaders proxy) ∨
      (∀ x ∈ wsHeaders proxy, isHost d x = false) ∧ HostConflict d (wsOptsHeaders proxy))

lemma exists_wsOpts (h : isHTTPUpgrade proxy = true) : ∃ wsOpts, getMap proxy "ws-opts" = some wsOpts := by
  cases hopts : getMap proxy "ws-opts" with
  | some wsOpts => exact ⟨wsOpts, rfl⟩
  | none =>
    rw [isHTTPUpgrade, hopts] at h
    cases h

def upgradeOptions (proxy : Proxy) (r : MapOrder) : V2RayHTTPUpgradeOptions :=
  let options := (r.range .wsOptsHeaders (wsOptsHeaders proxy)).foldl (setHeader d)
    { path := (getString ((getMap proxy "ws-opts").getD []) "path").getD "" }
  (r.range .wsHeaders (wsHeaders proxy)).foldl (setHeader d)
    { options with path := (getString proxy "ws-path").getD options.path }

lemma convertHTTPUpgradeTransport_eq (hopts : isHTTPUpgrade proxy = true)
    (h : ¬ HostMissing d (wsOptsHeaders proxy)) (h' : ¬ HostMissing d (wsHeaders proxy)) (r : MapOrder) :
    convertHTTPUpgradeTransport d r proxy = .ok (upgradeOptions d proxy r) := by
  obtain ⟨wsOpts, hws⟩ := exists_wsOpts hopts
  have hm := fun site => mt (hostMissing_perm d (r.perm site (wsOptsHeaders proxy))).1 h
  have hm' := fun site => mt (hostMissing_perm d (r.perm site (wsHeaders proxy))).1 h'
  have hheaders : (getMap wsOpts "headers").getD [] = wsOptsHeaders proxy := by
    rw [wsOptsHeaders, hws]
    rfl
  unfold convertHTTPUpgradeTransport upgradeOptions
  simp only [hws, hheaders, foldlM_upgradeHeader d (hm _)]
  exact foldlM_upgradeHeader d (hm' _) _

lemma convertHTTPUpgradeTransport_missing (hopts : isHTTPUpgrade proxy = true)
    (h : HostMissing d (wsOptsHeaders proxy) ∨ HostMissing d (wsHeaders proxy)) (r : MapOrder) :
    convertHTTPUpgradeTransport d r proxy = .error .panic := by
  obtain ⟨wsOpts, hws⟩ := exists_wsOpts hopts
  have hheaders : (getMap wsOpts "headers").getD [] = wsOptsHeaders proxy := by
    rw [wsOptsHeaders, hws]
    rfl
  unfold convertHTTPUpgradeTransport
  simp only [hws, hheaders]
  by_cases hm : HostMissing d (r.range Site.wsOptsHeaders (wsOptsHeaders proxy))
  · rw [foldlM_upgradeHeader_missing d hm]
    rfl
  · rw [foldlM_upgradeHeader d hm]
    have hm' : HostMissing d (r.range Site.wsHeaders (wsHeaders proxy)) :=
      (hostMissing_perm d (r.perm _ _)).2
        (h.resolve_left fun h => hm ((hostMissing_perm d (r.perm _ _)).2 h))
    exact foldlM_upgradeHeader_missing d hm' _

lemma upgradeOptions_order (hw : (Value.map proxy).Wellformed)
    (h : ¬ (HostConflict d (wsHeaders proxy) ∨
      (∀ x ∈ wsHeaders proxy, isHost d x = false) ∧ HostConflict d (wsOptsHeaders proxy)))
    (r r' : MapOrder) : upgradeOptions d proxy r = upgradeOptions d proxy r' := by
  have hd : Distinct (wsOptsHeaders proxy) := ((hw.getMap "ws-opts").getMap "headers").1
  have hd' : Distinct (wsHeaders proxy) := (hw.getMap "ws-headers").1
  obtain ⟨hno, hno'⟩ := not_or.1 h
  unfold upgradeOptions
  refine (foldl_setHeader_order d hd' hno _ r r' _).trans ?_
  by_cases hhost : ∃ x ∈ wsHeaders proxy, isHost d x = true
  · -- the first loop is known up to the host only, which the second one sets
    obtain ⟨x, hx, hxhost⟩ := hhost
    refine foldl_setHeader_of_host d ⟨x, (r'.perm _ _).mem_iff.2 hx, hxhost⟩ ?_
    exact congrArg (fun o : V2RayHTTPUpgradeOptions =>
      { o with path := (getString proxy "ws-path").getD o.path })
      (withoutHost_foldl_order d hd .wsOptsHeaders r r' _)
  · have hnone : ∀ x ∈ wsHeaders proxy, isHost d x = false := fun x hx =>
      Bool.eq_false_iff.2 fun hxhost => hhost ⟨x, hx, hxhost⟩
    rw [foldl_setHeader_order d hd (fun hc => hno' ⟨hnone, hc⟩) _ r r']

lemma upgradeOptions_differ (hw : (Value.map proxy).Wellformed) (h : UpgradeAmbiguous d proxy) :
    ∃ r r', (upgradeOptions d proxy r).host ≠ (upgradeOptions d proxy r').host := by
  have hd : Distinct (wsOptsHeaders proxy) := ((hw.getMap "ws-opts").getMap "headers").1
  have hd' : Distinct (wsHeaders proxy) := (hw.getMap "ws-headers").1
  obtain ⟨-, -, ⟨x, hx, y, hy, hhx, hhy, hne⟩ | ⟨hnone, x, hx, y, hy, hhx, hhy, hne⟩⟩ := h
  · refine ⟨asListed.andLast x.1, asListed.andLast y.1, ?_⟩
    unfold upgradeOptions
    rwa [foldl_andLast_host d hd' hx hhx, foldl_andLast_host d hd' hy hhy]
  · have hnone' : ∀ (r : MapOrder), ∀ x ∈ r.range Site.wsHeaders (wsHeaders proxy), isHost d x = false :=
      fun r x hx => hnone x ((r.perm _ _).mem_iff.1 hx)
    refine ⟨asListed.andLast x.1, asListed.andLast y.1, ?_⟩
    unfold upgradeOptions
    rw [foldl_setHeader_host d (hnone' _), foldl_setHeader_host d (hnone' _)]
    change V2RayHTTPUpgradeOptions.host (foldl _ _ _) ≠ V2RayHTTPUpgradeOptions.host (foldl _ _ _)
    rwa [foldl_andLast_host d hd hx hhx, foldl_andLast_host d hd hy hhy]

lemma convertHTTPUpgradeTransport_facts (hw : (Value.map proxy).Wellformed)
    (hopts : isHTTPUpgrade proxy = true) :
    OrderFacts (convertHTTPUpgradeTransport d · proxy) id (UpgradeAmbiguous d proxy) := by
  by_cases hmissing : HostMissing d (wsOptsHeaders proxy) ∨ HostMissing d (wsHeaders proxy)
  · refine (OrderFacts.of_eq fun _ _ => rfl).congr (g := fun _ => .error .panic)
      (convertHTTPUpgradeTransport_missing d hopts hmissing) (iff_of_false ?_ not_false)
    exact fun h => hmissing.elim h.1 h.2.1
  obtain ⟨h, h'⟩ := not_or.1 hmissing
  have heq := convertHTTPUpgradeTransport_eq d hopts h h'
  refine ⟨fun r r' err herr => ?_, fun hnot r r' => ?_, fun hambiguous => ?_⟩
  · rw [heq] at herr
    cases herr
  · rw [heq, heq, upgradeOptions_order d hw fun hc => hnot ⟨h, h', hc⟩]
  · obtain ⟨r, r', hne⟩ := upgradeOptions_differ d hw hambiguous
    exact ⟨r, r', _, _, heq r, heq r', fun hoptions => hne (congrArg V2RayHTTPUpgradeOptions.host hoptions)⟩

lemma clashWSTransport_facts (hw : (Value.map proxy).Wellformed) :
    OrderFacts (clashWSTransport d · proxy) id
      (isHTTPUpgrade proxy = true ∧ UpgradeAmbiguous d proxy) := by
  by_cases h : isHTTPUpgrade proxy = true
  · refine ((convertHTTPUpgradeTransport_facts d hw h).map
      (fun options => ({ type := "httpupgrade", httpUpgradeOptions := options } : V2RayTransportOptions))
      fun _ _ heq => congrArg V2RayTransportOptions.httpUpgradeOptions heq).congr (fun r => ?_) ?_
    · rw [clashWSTransport, if_pos h]
    · exact and_iff_right h
  · refine (OrderFacts.of_eq fun r r' => ?_).congr (fun r => rfl) (iff_of_false (fun hc => h hc.1) not_false)
    simp only [clashWSTransport, if_neg h, convertWSTransport_order d hw r r']

def TransportAmbiguous (proxy : Proxy) : Prop :=
  getString proxy "network" = some "ws" ∧ isHTTPUpgrade proxy = true ∧ UpgradeAmbiguous d proxy

lemma networkTransport_facts {transport : MapOrder → String → Except Failure V2RayTransportOptions}
    (hws : ∀ r, transport r "ws" = clashWSTransport d r proxy)
    (hother : ∀ network, network ≠ "ws" → ∀ r r', transport r network = transport r' network)
    (hw : (Value.map proxy).Wellformed) :
    OrderFacts (fun r => networkTransport (transport r) proxy) id (TransportAmbiguous d proxy) := by
  unfold networkTransport TransportAmbiguous
  cases hnetwork : getString proxy "network" with
  | none => exact (OrderFacts.of_eq fun _ _ => rfl).congr (fun _ => rfl) (iff_of_false nofun not_false)
  | some network =>
    by_cases h : network = "ws"
    · subst h
      refine ((clashWSTransport_facts d hw).map some fun _ _ heq => Option.some.inj heq).congr
        (fun r => ?_) (and_iff_right rfl)
      exact congrArg (Except.map some) (hws r)
    · refine (OrderFacts.of_eq fun r r' => ?_).congr (fun _ => rfl)
        (iff_of_false (fun hc => h (Option.some.inj hc.1)) not_false)
      exact congrArg (Except.map some) (hother network h r r')

lemma vmessClashTransport_facts (hw : (Value.map proxy).Wellformed) :
    OrderFacts (fun r => networkTransport (vmessClashTransport d r proxy) proxy) id
      (TransportAmbiguous d proxy) := by
  refine networkTransport_facts d (fun r => rfl) (fun network h r r' => ?_) hw
  unfold vmessClashTransport
  split
  · exact absurd rfl h
  · rw [convertHTTPTransport_order d hw r r']
  all_goals rfl

lemma clashTransport_facts (hw : (Value.map proxy).Wellformed) :
    OrderFacts (fun r => networkTransport (clashTransport d r proxy) proxy) id
      (TransportAmbiguous d proxy) := by
  refine networkTransport_facts d (fun r => rfl) (fun network h r r' => ?_) hw
  unfold clashTransport
  split
  · exact absurd rfl h
  all_goals rfl

def PluginAmbiguous (proxy : Proxy) : Prop :=
  ∃ plugin text, pluginOf d proxy = some (plugin, text) ∧
    ∃ x ∈ (getMap proxy "plugin-opts").getD [], ∃ y ∈ (getMap proxy "plugin-opts").getD [],
      ∃ s t, text x = some s ∧ text y = some t ∧ s ++ ";" ++ t ≠ t ++ ";" ++ s

lemma terminated_pair (s t : String) :
    terminated ";" [s] ++ terminated ";" [t] = (s ++ ";" ++ t).toList ++ [';'] := by
  simp [terminated]

variable {s t : String}

lemma terminated_comm :
    terminated ";" [s] ++ terminated ";" [t] = terminated ";" [t] ++ terminated ";" [s] ↔
      s ++ ";" ++ t = t ++ ";" ++ s := by
  rw [terminated_pair, terminated_pair, append_left_inj, String.toList_inj]

variable {m' : Proxy} {text : String × Value → Option String}

lemma terminated_filterMap (m : Proxy) :
    terminated ";" (m.filterMap text) = m.flatMap fun x => terminated ";" (text x).toList := by
  induction m with
  | nil => rfl
  | cons x m ih =>
    rw [flatMap_cons, ← ih]
    cases h : text x with
    | none => rw [filterMap_cons_none h]; rfl
    | some s =>
      rw [filterMap_cons_some h]
      simp [terminated]

lemma join_filterMap_iff (hp : m.Perm m') :
    join ";" (m.filterMap text) = join ";" (m'.filterMap text) ↔
      m.flatMap (fun x => terminated ";" (text x).toList) =
        m'.flatMap fun x => terminated ";" (text x).toList := by
  have hnil : m.filterMap text = [] ↔ m'.filterMap text = [] := by
    rw [← length_eq_zero_iff, ← length_eq_zero_iff, (hp.filterMap text).length_eq]
  rw [join_eq_iff hnil, terminated_filterMap, terminated_filterMap]

lemma join_order (h : ∀ x ∈ m, ∀ y ∈ m, ∀ s t, text x = some s → text y = some t →
      s ++ ";" ++ t = t ++ ";" ++ s) (hp : m.Perm m') :
    join ";" (m.filterMap text) = join ";" (m'.filterMap text) := by
  refine (join_filterMap_iff hp).2 (flatMap_perm hp fun x hx y hy => ?_)
  cases hs : text x with
  | none => simp [terminated]
  | some s =>
    cases ht : text y with
    | none => simp [terminated]
    | some t => exact terminated_comm.2 (h x hx y hy s t hs ht)

lemma join_differ (hd : Distinct m) (hx : x ∈ m) (hy : y ∈ m) (hs : text x = some s)
    (ht : text y = some t) (hne : s ++ ";" ++ t ≠ t ++ ";" ++ s) (site : Site) :
    ∃ r r' : MapOrder, join ";" ((r.range site m).filterMap text) ≠
      join ";" ((r'.range site m).filterMap text) := by
  have hkey : x.1 ≠ y.1 := by
    intro hkey
    rw [hd.eq_of_key hx hy hkey, ht] at hs
    cases hs
    exact hne rfl
  obtain ⟨r, r', rest, hr, hr'⟩ := exists_last_two site hd hx hy hkey
  refine ⟨r, r', fun heq => hne (terminated_comm.1 ?_)⟩
  rw [join_filterMap_iff ((r.perm site m).trans (r'.perm site m).symm), hr, hr', flatMap_append,
    flatMap_append, append_right_inj] at heq
  simpa [hs, ht] using heq

lemma newSSClashParser_facts (hw : (Value.map proxy).Wellformed) :
    OrderFacts (fun r => Except.ok (newSSClashParser d r proxy)) protocol
      (PluginAmbiguous d proxy) := by
  refine ⟨nofun, fun hnot r r' => ?_, ?_⟩
  · unfold newSSClashParser
    cases hplugin : pluginOf d proxy with
    | none => rfl
    | some plugin =>
      have hjoin : join ";" ((r.range .pluginOpts ((getMap proxy "plugin-opts").getD [])).filterMap
          plugin.2) = join ";" ((r'.range .pluginOpts
            ((getMap proxy "plugin-opts").getD [])).filterMap plugin.2) := by
        refine join_order (fun x hx y hy s t hs ht => ?_) ((r.perm _ _).trans (r'.perm _ _).symm)
        by_contra hne
        exact hnot ⟨plugin.1, plugin.2, hplugin, x, (r.perm _ _).mem_iff.1 hx, y,
          (r.perm _ _).mem_iff.1 hy, s, t, hs, ht, hne⟩
      simp only [hjoin]
  · rintro ⟨plugin, text, hplugin, x, hx, y, hy, s, t, hs, ht, hne⟩
    obtain ⟨r, r', hjoin⟩ := join_differ (hw.getMap "plugin-opts").1 hx hy hs ht hne .pluginOpts
    refine ⟨r, r', _, _, rfl, rfl, fun heq => hjoin ?_⟩
    simp only [newSSClashParser, hplugin] at heq
    exact congrArg ShadowsocksOptions.pluginOptions (shadowsocks.inj heq)

def ProxyAmbiguous (proxy : Proxy) : Prop :=
  getString proxy "type" = some "ss" ∧ PluginAmbiguous d proxy ∨
  getString proxy "type" = some "vmess" ∧ TransportAmbiguous d proxy ∨
  getString proxy "type" = some "vless" ∧
    ((getString proxy "flow").any fun flow => flow != "xtls-rprx-vision" && flow != "") = false ∧
    TransportAmbiguous d proxy ∨
  getString proxy "type" = some "trojan" ∧ (getString proxy "flow").isSome = false ∧
    TransportAmbiguous d proxy

lemma newVMessClashParser_facts (hw : (Value.map proxy).Wellformed) :
    OrderFacts (newVMessClashParser d · proxy) protocol (TransportAmbiguous d proxy) :=
  (vmessClashTransport_facts d hw).bind_ok fun _ _ heq =>
    congrArg VMessOptions.transport (vmess.inj heq)

lemma newVLESSClashParser_facts (hw : (Value.map proxy).Wellformed) :
    OrderFacts (newVLESSClashParser d · proxy) protocol (TransportAmbiguous d proxy) :=
  (clashTransport_facts d hw).bind_ok fun _ _ heq =>
    congrArg VLESSOptions.transport (vless.inj heq)

lemma newTrojanClashParser_facts (hw : (Value.map proxy).Wellformed) :
    OrderFacts (newTrojanClashParser d · proxy) protocol (TransportAmbiguous d proxy) :=
  (clashTransport_facts d hw).bind_ok fun _ _ heq =>
    congrArg TrojanOptions.transport (trojan.inj heq)

lemma newHTTPClashParser_order (hw : (Value.map proxy).Wellformed) (r r' : MapOrder) :
    newHTTPClashParser d r proxy = newHTTPClashParser d r' proxy := by
  have hheaders : ((getMap proxy "headers").map fun headers => addHeaders d r .headers (some headers) ∅) =
      (getMap proxy "headers").map fun headers => addHeaders d r' .headers (some headers) ∅ := by
    have hd := (hw.getMap "headers").1
    cases hget : getMap proxy "headers" with
    | none => rfl
    | some headers =>
      rw [hget] at hd
      exact congrArg some (addHeaders_order d hd .headers ∅ r r')
  simp only [newHTTPClashParser, hheaders]

lemma parseProxy_order (hw : (Value.map proxy).Wellformed)
    (h : ∀ type ∈ ["ss", "vmess", "vless", "trojan"], getString proxy "type" ≠ some type)
    (r r' : MapOrder) : parseProxy d r proxy = parseProxy d r' proxy := by
  unfold parseProxy
  split
  case h_1 htype => exact absurd htype (h "ss" (by simp))
  case h_3 htype => rw [newHTTPClashParser_order d hw r r']
  case h_5 htype => exact absurd htype (h "vmess" (by simp))
  case h_6 htype => exact absurd htype (h "vless" (by simp))
  case h_8 htype => exact absurd htype (h "trojan" (by simp))
  all_goals rfl

lemma lookup_of_getString (h : getString proxy key = some s) :
    proxy.lookup key = some (.str s) := by
  obtain ⟨v, hv, hs⟩ := Option.bind_eq_some_iff.1 h
  cases v with
  | str s' =>
    cases hs
    exact hv
  | _ => cases hs

lemma parseProxy_plugin {plugin : String × (String × Value → Option String)}
    (htype : getString proxy "type" = some "ss") (h : pluginOf d proxy = some plugin) (r : MapOrder) :
    parseProxy d r proxy = .ok [newSSClashParser d r proxy] := by
  unfold pluginOf at h
  split at h
  · next hplugin => simp only [parseProxy, htype, lookup_of_getString hplugin]
  · next hplugin => simp only [parseProxy, htype, lookup_of_getString hplugin]
  · cases h

lemma parseProxy_no_plugin (htype : getString proxy "type" = some "ss") (h : pluginOf d proxy = none)
    (r r' : MapOrder) : parseProxy d r proxy = parseProxy d r' proxy := by
  have hss : newSSClashParser d r proxy = newSSClashParser d r' proxy := by
    simp only [newSSClashParser, h]
  simp only [parseProxy, htype, hss]

lemma facts_of_single {g : MapOrder → Except Failure Outbound} {f : MapOrder → Except Failure (List Outbound)}
    {ambiguous : Prop} (h : OrderFacts g protocol ambiguous) (skip : Bool)
    (hf : ∀ r, f r = if skip then .ok [] else (g r).map ([·])) :
    OrderFacts f (List.map protocol) (skip = false ∧ ambiguous) := by
  cases skip with
  | true => exact (OrderFacts.of_eq fun _ _ => rfl).congr hf (iff_of_false nofun not_false)
  | false =>
    refine (h.map ([·]) fun a b heq => ?_).congr hf (and_iff_right rfl)
    exact head_eq_of_cons_eq heq

lemma parseProxy_facts (hw : (Value.map proxy).Wellformed) :
    OrderFacts (parseProxy d · proxy) (List.map protocol) (ProxyAmbiguous d proxy) := by
  by_cases hss : getString proxy "type" = some "ss"
  · have hambiguous : ProxyAmbiguous d proxy ↔ PluginAmbiguous d proxy := by simp [ProxyAmbiguous, hss]
    cases hplugin : pluginOf d proxy with
    | some plugin =>
      exact (facts_of_single (newSSClashParser_facts d hw) false (parseProxy_plugin d hss hplugin)).congr
        (fun _ => rfl) (hambiguous.trans (and_iff_right rfl).symm)
    | none =>
      refine (OrderFacts.of_eq (parseProxy_no_plugin d hss hplugin)).congr (fun _ => rfl)
        (hambiguous.trans (iff_of_false ?_ not_false))
      rintro ⟨plugin, text, h, -⟩
      rw [hplugin] at h
      cases h
  by_cases hvmess : getString proxy "type" = some "vmess"
  · refine (facts_of_single (newVMessClashParser_facts d hw) false fun r => ?_).congr (fun _ => rfl) ?_
    · simp only [parseProxy, hvmess]
      rfl
    · simp [ProxyAmbiguous, hvmess]
  by_cases hvless : getString proxy "type" = some "vless"
  · refine (facts_of_single (newVLESSClashParser_facts d hw)
      ((getString proxy "flow").any fun flow => flow != "xtls-rprx-vision" && flow != "")
      fun r => ?_).congr (fun _ => rfl) ?_
    · simp only [parseProxy, hvless]
    · simp [ProxyAmbiguous, hvless]
  by_cases htrojan : getString proxy "type" = some "trojan"
  · refine (facts_of_single (newTrojanClashParser_facts d hw) (getString proxy "flow").isSome
      fun r => ?_).congr (fun _ => rfl) ?_
    · simp only [parseProxy, htrojan]
    · simp [ProxyAmbiguous, htrojan]
  refine (OrderFacts.of_eq (parseProxy_order d hw ?_)).congr (fun _ => rfl) ?_
  · simp [hss, hvmess, hvless, htrojan]
  · simp [ProxyAmbiguous, hss, hvmess, hvless, htrojan]

end SingBox.Provider
