import Mathlib.Algebra.Order.BigOperators.Group.List
import Mathlib.Algebra.Order.Ring.Nat
import SingBox.Provider.Lines

namespace SingBox.Provider

open SingBox.Options Lib.Text Lib.Maps Lib.Errors List

inductive ArgsError where
  | finalEscape (s : List Char)
  | emptyKey

abbrev Args := List (String × String)

def unescape (term : List Char) : Bool → List Char → Option (List Char × List Char)
  | false, [] => some ([], [])
  | true, [] => none
  | true, c :: s => (unescape term false s).map fun x => (c :: x.1, x.2)
  | false, c :: s =>
    if c ∈ term then some ([], c :: s)
    else if c = '\\' then unescape term true s
    else (unescape term false s).map fun x => (c :: x.1, x.2)

def indexUnescaped (s term : List Char) : Except ArgsError (List Char × List Char) :=
  (unescape term false s).elim (.error (.finalEscape s)) .ok

def readOption (s : List Char) : Except ArgsError ((String × String) × List Char) := do
  let (key, rest) ← indexUnescaped s ['=', ';']
  if key = [] then .error .emptyKey
  else if rest.head? = some '=' then do
    let (value, rest) ← indexUnescaped rest.tail [';']
    .ok ((String.ofList key, String.ofList value), rest.tail)
  else .ok ((String.ofList key, "1"), rest.tail)

def escapes (s : List Char) : ℕ := s.count '\\'

def escapesOf (x : String × String) : ℕ := escapes x.1.toList + escapes x.2.toList

structure Plain (x : String × String) : Prop where
  nonempty : x.1 ≠ ""
  key : ∀ c ∈ x.1.toList, c ∉ ['\\', '=', ';']
  value : ∀ c ∈ x.2.toList, c ∉ ['\\', ';']

variable {term s u r : List Char} {x : String × String} {args : Args}

lemma escapes_cons (c : Char) : escapes (c :: s) = escapes s + if c = '\\' then 1 else 0 := by
  simp [escapes, count_cons]

-- each escape that is read takes a backslash away
lemma unescape_spec {esc : Bool} (h : unescape term esc s = some (u, r)) :
    u.length + r.length ≤ s.length ∧ escapes u + escapes r ≤ escapes s ∧
      (esc = false → escapes u + escapes r = escapes s → ∀ c ∈ u, c ∉ '\\' :: term) := by
  induction s generalizing esc u with
  | nil => cases esc <;> simp_all [unescape, escapes]
  | cons c s ih =>
    have hkept : ∀ {u}, (unescape term false s).map (fun x => (c :: x.1, x.2)) = some (u, r) →
        ∃ u', u = c :: u' ∧ unescape term false s = some (u', r) := by
      intro u hu
      obtain ⟨x, hx, heq⟩ := Option.map_eq_some_iff.1 hu
      cases heq
      exact ⟨x.1, rfl, hx⟩
    rw [length_cons, escapes_cons]
    cases esc with
    | true =>
      obtain ⟨u', rfl, hu⟩ := hkept h
      obtain ⟨hlen, hle, -⟩ := ih hu
      rw [length_cons, escapes_cons]
      exact ⟨by omega, by omega, by simp⟩
    | false =>
      rw [unescape] at h
      split_ifs at h with hterm hesc
      · cases h
        have hnil : escapes [] = 0 := rfl
        simp [escapes_cons, hnil]
      · obtain ⟨hlen, hle, -⟩ := ih h
        rw [if_pos hesc]
        exact ⟨by omega, by omega, fun _ _ => by omega⟩
      · obtain ⟨u', rfl, hu⟩ := hkept h
        obtain ⟨hlen, hle, hplain⟩ := ih hu
        rw [length_cons, escapes_cons, if_neg hesc]
        refine ⟨by omega, hle, fun _ heq => ?_⟩
        rw [forall_mem_cons, mem_cons, not_or]
        exact ⟨⟨hesc, hterm⟩, hplain rfl heq⟩

lemma unescape_plain (hu : ∀ c ∈ u, c ∉ '\\' :: term) (hr : ∀ c ∈ r.head?, c ∈ term) :
    unescape term false (u ++ r) = some (u, r) := by
  induction u with
  | nil => cases r <;> simp_all [unescape]
  | cons c u ih =>
    rw [forall_mem_cons, mem_cons, not_or] at hu
    rw [cons_append, unescape, if_neg hu.1.2, if_neg hu.1.1, ih hu.2]
    rfl

lemma indexUnescaped_eq_ok (h : indexUnescaped s term = .ok (u, r)) : unescape term false s = some (u, r) := by
  unfold indexUnescaped at h
  cases hs : unescape term false s with
  | none => simp [hs] at h
  | some x => simpa [hs] using h

lemma escapes_tail (s : List Char) : escapes s.tail ≤ escapes s := (tail_sublist s).count_le _

lemma readOption_spec (h : readOption s = .ok (x, r)) : r.length < s.length ∧
    escapesOf x + escapes r ≤ escapes s ∧ (escapesOf x + escapes r = escapes s → Plain x) := by
  obtain ⟨⟨key, rest⟩, hkey, h⟩ := bind_eq_ok.1 h
  obtain ⟨hlen, hle, hplain⟩ := unescape_spec (indexUnescaped_eq_ok hkey)
  dsimp only at h
  split_ifs at h with hne heq
  all_goals have hpos := length_pos_iff.2 hne
  · obtain ⟨⟨value, rest'⟩, hvalue, h⟩ := bind_eq_ok.1 h
    obtain ⟨hlen', hle', hplain'⟩ := unescape_spec (indexUnescaped_eq_ok hvalue)
    have htail := escapes_tail rest
    have htail' := escapes_tail rest'
    dsimp only at h
    cases h
    have hsum : escapesOf (String.ofList key, String.ofList value) = escapes key + escapes value := by
      simp [escapesOf]
    rw [length_tail] at hlen' ⊢
    rw [hsum]
    refine ⟨by omega, by omega, fun hall => ?_⟩
    exact ⟨by simpa using hne, by simpa using hplain rfl (by omega), by simpa using hplain' rfl (by omega)⟩
  · have htail := escapes_tail rest
    cases h
    have hone : escapesOf (String.ofList key, "1") = escapes key := by simp [escapesOf, escapes]
    rw [hone, length_tail]
    refine ⟨by omega, by omega, fun hall => ⟨by simpa using hne, by simpa using hplain rfl (by omega), ?_⟩⟩
    simp

def parseArgs (s : List Char) : Except ArgsError Args :=
  if s = [] then .ok []
  else match _h : readOption s with
    | .error err => .error err
    | .ok (x, rest) => (parseArgs rest).map (x :: ·)
  termination_by s.length
  decreasing_by exact (readOption_spec _h).1

def parsePluginOptions (s : String) : Except ArgsError Args := parseArgs s.toList

lemma parseArgs_nil : parseArgs [] = .ok [] := by
  rw [parseArgs, if_pos rfl]

lemma parseArgs_cons (h : readOption s = .ok (x, r)) : parseArgs s = (parseArgs r).map (x :: ·) := by
  have hne : s ≠ [] := length_pos_iff.1 (Nat.zero_lt_of_lt (readOption_spec h).1)
  rw [parseArgs, if_neg hne]
  split <;> simp_all

lemma plain_of_parseArgs (h : parseArgs s = .ok args) : (args.map escapesOf).sum ≤ escapes s ∧
    ((args.map escapesOf).sum = escapes s → ∀ x ∈ args, Plain x) := by
  induction args generalizing s with
  | nil => simp
  | cons x args ih =>
    rw [parseArgs] at h
    split_ifs at h
    · cases h
    split at h
    · cases h
    · rename_i y rest hread
      obtain ⟨args', hrest, heq⟩ := map_eq_ok.1 h
      obtain ⟨rfl, rfl⟩ := List.cons.inj heq
      obtain ⟨-, hle, hplain⟩ := readOption_spec hread
      obtain ⟨hle', hplain'⟩ := ih hrest
      rw [map_cons, sum_cons, forall_mem_cons]
      exact ⟨by omega, fun hall => ⟨hplain (by omega), hplain' (by omega)⟩⟩

def optionText (x : String × String) : String := x.1 ++ "=" ++ x.2

lemma readOption_plain (hx : Plain x) (hr : ∀ c ∈ r.head?, c = ';') :
    readOption ((optionText x).toList ++ r) = .ok (x, r.tail) := by
  have hkey := unescape_plain (r := '=' :: (x.2.toList ++ r)) hx.key (by simp)
  have hvalue := unescape_plain hx.value (by simpa using hr)
  have hne : x.1.toList ≠ [] := by simpa using hx.nonempty
  have htext : (optionText x).toList ++ r = x.1.toList ++ '=' :: (x.2.toList ++ r) := by simp [optionText]
  rw [readOption, indexUnescaped, htext, hkey]
  simp [bind, Except.bind, hne, indexUnescaped, hvalue]

lemma parsePluginOptions_join (h : ∀ x ∈ args, Plain x) :
    parsePluginOptions (join ";" (args.map optionText)) = .ok args := by
  unfold parsePluginOptions
  induction args with
  | nil => exact parseArgs_nil
  | cons x args ih =>
    rw [forall_mem_cons] at h
    cases args with
    | nil =>
      have hread := readOption_plain (r := []) h.1 (by simp)
      rw [append_nil] at hread
      rw [map_singleton, join, parseArgs_cons hread, tail_nil, parseArgs_nil]
      rfl
    | cons y args =>
      have hread := readOption_plain (r := ';' :: (join ";" ((y :: args).map optionText)).toList) h.1 (by simp)
      have htext : (join ";" ((x :: y :: args).map optionText)).toList =
          (optionText x).toList ++ ';' :: (join ";" ((y :: args).map optionText)).toList := by simp [join]
      rw [htext, parseArgs_cons hread, tail_cons, ih h.2]
      rfl

lemma escapes_join : escapes (join ";" (args.map optionText)).toList = (args.map escapesOf).sum := by
  have htext : ∀ x, escapes (optionText x).toList = escapesOf x := fun x => by
    simp [escapes, escapesOf, optionText]
  induction args with
  | nil => rfl
  | cons x args ih =>
    rw [map_cons (f := escapesOf), sum_cons, ← ih, ← htext x]
    cases args with
    | nil => simp [join, escapes]
    | cons y args => simp [join, escapes]

lemma readBack_iff {written named : Args} (hle : (written.map escapesOf).sum ≤ (named.map escapesOf).sum)
    (hplain : (∀ x ∈ named, Plain x) → ∀ x ∈ written, Plain x) :
    (∃ args, parsePluginOptions (join ";" (written.map optionText)) = .ok args ∧ args.Perm named) ↔
      (∀ x ∈ named, Plain x) ∧ written.Perm named := by
  constructor
  · rintro ⟨args, hargs, hperm⟩
    obtain ⟨hless, hall⟩ := plain_of_parseArgs hargs
    rw [escapes_join] at hless hall
    have hsum := (hperm.map escapesOf).sum_eq
    have hnamed : ∀ x ∈ named, Plain x := fun x hx => hall (by omega) x (hperm.mem_iff.2 hx)
    rw [parsePluginOptions_join (hplain hnamed)] at hargs
    cases hargs
    exact ⟨hnamed, hperm⟩
  · rintro ⟨hnamed, hperm⟩
    exact ⟨written, parsePluginOptions_join (hplain hnamed), hperm⟩

variable (d : Decoders) (proxy : Proxy)

def obfsNamed (x : String × Value) : String × String :=
  match x.1 with
  | "mode" => ("obfs", sprint d x.2)
  | "host" => ("obfs-host", sprint d x.2)
  | key => (key, sprint d x.2)

/-- What `v2ray-plugin` is to be told; the host and the path of the entry itself come first. -/
def v2rayNamed (x : String × Value) : String × String :=
  match x.1 with
  | "host" => ("host", (getString proxy "ws-host").getD (sprint d x.2))
  | "path" => ("path", (getString proxy "ws-path").getD (sprint d x.2))
  | "headers" => ("headers", x.2.map?.elim (sprint d x.2) fun m => d.marshal (some m))
  | key => (key, sprint d x.2)

def intended (plugin : String) (opts : Proxy) : Args :=
  if plugin = "obfs" then opts.map (obfsNamed d)
  else (opts.filter fun x => x.1 != "mux").map (v2rayNamed d proxy)

def shadowsocksOf (o : Outbound) : ShadowsocksOptions := match o.protocol with
  | .shadowsocks options => options
  | _ => {}

structure ReadBack (plugin : String) (opts : Proxy) (o : Outbound) : Prop where
  options : ∃ args, parsePluginOptions (shadowsocksOf o).pluginOptions = .ok args ∧
    args.Perm (intended d proxy plugin opts)
  mux : plugin = "v2ray-plugin" → ("mux", .bool true) ∈ opts →
    ((shadowsocksOf o).multiplex.getD {}).enabled = true

structure Writable (plugin : String) (opts : Proxy) : Prop where
  plain : ∀ x ∈ intended d proxy plugin opts, Plain x
  mode : plugin = "v2ray-plugin" → ∀ x ∈ opts, x.1 ≠ "mode"
  headers : plugin = "v2ray-plugin" → ∀ x ∈ opts, x.1 = "headers" → x.2.map? = none → sprint d x.2 = "null"
  mux : plugin = "v2ray-plugin" → ("mux", .bool true) ∈ opts →
    (getMap proxy "smux").bind (getBool · "enabled") = some true

def v2rayWritten (x : String × Value) : String × String :=
  if x.1 = "mode" then ("obfs", sprint d x.2)
  else if x.1 = "headers" then ("headers", d.marshal x.2.map?)
  else v2rayNamed d proxy x

lemma obfsOption_eq (x : String × Value) : obfsOption d x = some (optionText (obfsNamed d x)) := by
  unfold obfsOption obfsNamed
  split <;> simp_all [optionText]

lemma filterMap_v2rayOption (opts : Proxy) : opts.filterMap (v2rayOption d proxy) =
    ((opts.filter fun x => x.1 != "mux").map (v2rayWritten d proxy)).map optionText := by
  have hoption : ∀ x, v2rayOption d proxy x =
      if x.1 != "mux" then some (optionText (v2rayWritten d proxy x)) else none := by
    rintro ⟨key, v⟩
    unfold v2rayOption v2rayWritten v2rayNamed
    dsimp only
    split <;> simp_all [optionText]
  induction opts with
  | nil => rfl
  | cons x opts ih =>
    rw [filterMap_cons, hoption, filter_cons]
    split_ifs <;> simp [ih]

variable {d proxy} {opts : Proxy} {plugin : String}

lemma v2rayNamed_mode (x : String × Value) (h : x.1 = "mode") : v2rayNamed d proxy x = ("mode", sprint d x.2) := by
  simp [v2rayNamed, h]

lemma v2rayNamed_headers (x : String × Value) (h : x.1 = "headers") :
    v2rayNamed d proxy x = ("headers", x.2.map?.elim (sprint d x.2) fun m => d.marshal (some m)) := by
  simp [v2rayNamed, h]

lemma v2rayNamed_fst (x : String × Value) : (v2rayNamed d proxy x).1 = x.1 := by
  unfold v2rayNamed
  split <;> simp_all

lemma v2rayWritten_spec (hnull : d.marshal none = "null") (x : String × Value) :
    escapesOf (v2rayWritten d proxy x) ≤ escapesOf (v2rayNamed d proxy x) ∧
      (Plain (v2rayNamed d proxy x) → Plain (v2rayWritten d proxy x)) ∧
      (v2rayWritten d proxy x = v2rayNamed d proxy x ↔
        x.1 ≠ "mode" ∧ (x.1 = "headers" → x.2.map? = none → sprint d x.2 = "null")) := by
  unfold v2rayWritten
  split_ifs with hmode hheaders
  · rw [v2rayNamed_mode x hmode]
    refine ⟨?_, fun h => ⟨by simp, by simp, h.value⟩, by simp [hmode]⟩
    simp [escapesOf, escapes]
  · rw [v2rayNamed_headers x hheaders]
    cases hmap : x.2.map? with
    | none =>
      rw [hnull]
      refine ⟨?_, fun _ => ⟨by simp, by simp, by simp⟩, by simp [hheaders, eq_comm]⟩
      simp [escapesOf, escapes]
    | some m => simp [hheaders]
  · exact ⟨le_rfl, id, by simp [hmode, hheaders]⟩

lemma perm_v2rayWritten_iff (hd : Distinct opts) :
    (opts.map (v2rayWritten d proxy)).Perm (opts.map (v2rayNamed d proxy)) ↔
      ∀ x ∈ opts, v2rayWritten d proxy x = v2rayNamed d proxy x := by
  constructor
  · intro hperm
    have hfrom : ∀ x ∈ opts, ∃ y ∈ opts, v2rayWritten d proxy y = v2rayNamed d proxy x := fun x hx =>
      mem_map.1 (hperm.mem_iff.2 (mem_map_of_mem hx))
    have hfst : ∀ y : String × Value, y.1 ≠ "mode" → (v2rayWritten d proxy y).1 = y.1 := by
      intro y hy
      unfold v2rayWritten
      rw [if_neg hy]
      split_ifs with hheaders
      · exact hheaders.symm
      · exact v2rayNamed_fst y
    -- nothing is written under the name mode
    have hmode : ∀ x ∈ opts, x.1 ≠ "mode" := by
      intro x hx hmode
      obtain ⟨y, -, hy⟩ := hfrom x hx
      have hkey := (congrArg Prod.fst hy).trans ((v2rayNamed_fst x).trans hmode)
      by_cases hy' : y.1 = "mode"
      · simp [v2rayWritten, hy'] at hkey
      · exact hy' ((hfst y hy').symm.trans hkey)
    intro x hx
    obtain ⟨y, hmem, hy⟩ := hfrom x hx
    have hkey := (hfst y (hmode y hmem)).symm.trans ((congrArg Prod.fst hy).trans (v2rayNamed_fst x))
    rwa [hd.eq_of_key hmem hx hkey] at hy
  · intro h
    rw [map_congr_left h]

variable {order : MapOrder}

lemma pluginOptions_eq {name : String} {text : String × Value → Option String}
    (hplugin : pluginOf d proxy = some (name, text)) (hopts : getMap proxy "plugin-opts" = some opts) :
    (shadowsocksOf (newSSClashParser d order proxy)).pluginOptions =
      join ";" ((order.range .pluginOpts opts).filterMap text) := by
  simp [shadowsocksOf, newSSClashParser, hplugin, hopts]

lemma multiplex_enabled : ((shadowsocksOf (newSSClashParser d order proxy)).multiplex.getD {}).enabled = true ↔
    (getMap proxy "smux").bind (getBool · "enabled") = some true := by
  have hmux : (shadowsocksOf (newSSClashParser d order proxy)).multiplex = some (convertSMuxOptions proxy) := by
    unfold shadowsocksOf newSSClashParser
    cases pluginOf d proxy <;> rfl
  rw [hmux, Option.getD_some, convertSMuxOptions]
  cases getMap proxy "smux" with
  | none => simp
  | some smux => cases hb : getBool smux "enabled" <;> simp [hb]

lemma obfs_readBack_iff (hplugin : getString proxy "plugin" = some "obfs")
    (hopts : getMap proxy "plugin-opts" = some opts) :
    (∃ args, parsePluginOptions (shadowsocksOf (newSSClashParser d order proxy)).pluginOptions = .ok args ∧
      args.Perm (opts.map (obfsNamed d))) ↔ ∀ x ∈ opts.map (obfsNamed d), Plain x := by
  have hperm := (order.perm .pluginOpts opts).map (obfsNamed d)
  have htext : (order.range .pluginOpts opts).filterMap (obfsOption d) =
      ((order.range .pluginOpts opts).map (obfsNamed d)).map optionText := by
    rw [map_map, ← filterMap_eq_map]
    exact filterMap_congr fun x _ => obfsOption_eq d x
  have hof : pluginOf d proxy = some ("obfs-local", obfsOption d) := by
    simp [pluginOf, hplugin]
  rw [pluginOptions_eq hof hopts, htext,
    readBack_iff ((hperm.map escapesOf).sum_eq.le) fun h x hx => h x (hperm.mem_iff.1 hx)]
  exact and_iff_left hperm

lemma v2ray_readBack_iff (hplugin : getString proxy "plugin" = some "v2ray-plugin")
    (hopts : getMap proxy "plugin-opts" = some opts) (hd : Distinct opts) (hnull : d.marshal none = "null") :
    (∃ args, parsePluginOptions (shadowsocksOf (newSSClashParser d order proxy)).pluginOptions = .ok args ∧
      args.Perm ((opts.filter fun x => x.1 != "mux").map (v2rayNamed d proxy))) ↔
    (∀ x ∈ (opts.filter fun x => x.1 != "mux").map (v2rayNamed d proxy), Plain x) ∧
      ∀ x ∈ opts, x.1 ≠ "mode" ∧ (x.1 = "headers" → x.2.map? = none → sprint d x.2 = "null") := by
  let kept := opts.filter fun x => x.1 != "mux"
  have hspec : ∀ x, _ := @v2rayWritten_spec d proxy hnull
  have hperm := ((order.perm .pluginOpts opts).filter fun x => x.1 != "mux").map (v2rayWritten d proxy)
  have hle : ((kept.map (v2rayWritten d proxy)).map escapesOf).sum ≤
      ((kept.map (v2rayNamed d proxy)).map escapesOf).sum := by
    rw [map_map, map_map]
    exact sum_le_sum fun x _ => (hspec x).1
  have hplain : (∀ x ∈ kept.map (v2rayNamed d proxy), Plain x) →
      ∀ x ∈ kept.map (v2rayWritten d proxy), Plain x := by
    simp only [forall_mem_map]
    exact fun h x hx => (hspec x).2.1 (h x hx)
  have hof : pluginOf d proxy = some ("v2ray-plugin", v2rayOption d proxy) := by
    simp [pluginOf, hplugin]
  rw [pluginOptions_eq hof hopts, filterMap_v2rayOption,
    readBack_iff ((hperm.map escapesOf).sum_eq.trans_le hle) fun h x hx => hplain h x (hperm.mem_iff.1 hx),
    hperm.congr_left, perm_v2rayWritten_iff (hd.filter _)]
  refine and_congr_right fun _ => ?_
  simp only [(hspec _).2.2, mem_filter, bne_iff_ne]
  exact ⟨fun h x hx => ⟨fun hmode => (h x ⟨hx, by simp [hmode]⟩).1 hmode,
    fun hheaders => (h x ⟨hx, by simp [hheaders]⟩).2 hheaders⟩, fun h x hx => h x hx.1⟩

theorem plugin_options_iff (order : MapOrder) (hplugin : getString proxy "plugin" = some plugin)
    (hkind : plugin = "obfs" ∨ plugin = "v2ray-plugin") (hopts : getMap proxy "plugin-opts" = some opts)
    (hd : Distinct opts) (hnull : d.marshal none = "null") :
    ReadBack d proxy plugin opts (newSSClashParser d order proxy) ↔ Writable d proxy plugin opts := by
  rcases hkind with rfl | rfl
  · have hoptions := @obfs_readBack_iff d proxy opts order hplugin hopts
    exact ⟨fun h => ⟨hoptions.1 h.options, by simp, by simp, by simp⟩, fun h => ⟨hoptions.2 h.plain, by simp⟩⟩
  · have hoptions := @v2ray_readBack_iff d proxy opts order hplugin hopts hd hnull
    constructor
    · rintro ⟨hread, hmux⟩
      obtain ⟨hplain, hall⟩ := hoptions.1 hread
      exact ⟨hplain, fun _ x hx => (hall x hx).1, fun _ x hx => (hall x hx).2,
        fun _ h => multiplex_enabled.1 (hmux rfl h)⟩
    · rintro ⟨hplain, hmode, hheaders, hmux⟩
      exact ⟨hoptions.2 ⟨hplain, fun x hx => ⟨hmode rfl x hx, hheaders rfl x hx⟩⟩,
        fun _ h => multiplex_enabled.2 (hmux rfl h)⟩

def jsonDecoders : Decoders := { plainDecoders with marshal := fun _ => "null" }

def pluginProxy (plugin : String) (opts : Proxy) : Proxy :=
  [("type", .str "ss"), ("plugin", .str plugin), ("plugin-opts", .map opts)]

def tlsOpts : Proxy := [("mode", .str "tls"), ("host", .str "a=b")]

theorem plugin_options_read :
    ReadBack jsonDecoders (pluginProxy "obfs" tlsOpts) "obfs" tlsOpts
      (newSSClashParser jsonDecoders .asListed (pluginProxy "obfs" tlsOpts)) := by
  refine (plugin_options_iff .asListed rfl (.inl rfl) rfl (by simp [Distinct, tlsOpts]) rfl).2
    ⟨?_, by simp, by simp, by simp⟩
  simp only [intended, tlsOpts, ↓reduceIte, forall_mem_map, forall_mem_cons]
  exact ⟨⟨by decide, by simp [obfsNamed], by simp [obfsNamed, sprint]⟩,
    ⟨by decide, by simp [obfsNamed], by simp [obfsNamed, sprint]⟩, by simp⟩

theorem plugin_options_misread :
    (¬ ReadBack jsonDecoders (pluginProxy "v2ray-plugin" [("mode", .str "quic")]) "v2ray-plugin"
      [("mode", .str "quic")]
      (newSSClashParser jsonDecoders .asListed (pluginProxy "v2ray-plugin" [("mode", .str "quic")]))) ∧
    parsePluginOptions (shadowsocksOf (newSSClashParser jsonDecoders .asListed
      (pluginProxy "obfs" [("host", .str "a;b")]))).pluginOptions = .ok [("obfs-host", "a"), ("b", "1")] := by
  constructor
  · rintro ⟨⟨args, hargs, hperm⟩, -⟩
    have hplain : ∀ x ∈ [("obfs", "quic")], Plain x := by
      simpa using ⟨by decide, by simp, by simp⟩
    cases hargs.symm.trans (parsePluginOptions_join hplain)
    exact absurd hperm (by decide)
  · change parseArgs _ = _
    rw [parseArgs_cons (r := ['b']) (x := ("obfs-host", "a")) rfl]
    rw [parseArgs_cons (r := []) (x := ("b", "1")) rfl, parseArgs_nil]
    rfl

end SingBox.Provider
