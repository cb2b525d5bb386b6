import SingBox.Provider.ClashOrder
import SingBox.Provider.ClashSafety
import SingBox.Provider.Lines
import SingBox.Provider.Outcomes

namespace SingBox.Provider

open SingBox.Options Lib.Maps Lib.Text Lib.Table Lib.Errors List
open Adapter (StartMethod)
open Groups (Filter)

abbrev protocols : List Outbound → List ProtocolOptions := map Outbound.protocol

lemma OrderFacts.append {ρ ρ' : Type*} {g : ρ → Except Failure (List Outbound)}
    {g' : ρ' → Except Failure (List Outbound)} {ambiguous ambiguous' : Prop}
    (h : OrderFacts g protocols ambiguous) (h' : OrderFacts g' protocols ambiguous') (r₀ : ρ) (r₀' : ρ') :
    OrderFacts (fun r : ρ × ρ' => do
        let outbounds ← g r.1
        let rest ← g' r.2
        return outbounds ++ rest) protocols
      ((∃ x, g r₀ = .ok x) ∧ (∃ y, g' r₀' = .ok y) ∧ (ambiguous ∨ ambiguous')) := by
  by_cases hok : ∃ x, g r₀ = .ok x
  case neg =>
    obtain ⟨err, herr⟩ := exists_error hok
    refine (OrderFacts.of_eq fun _ _ => rfl).congr (g := fun _ => .error err) (fun r => ?_)
      (iff_of_false (fun hc => hok hc.1) not_false)
    rw [h.fails r₀ r.1 err herr]
    rfl
  by_cases hok' : ∃ y, g' r₀' = .ok y
  case neg =>
    obtain ⟨err, herr⟩ := exists_error hok'
    refine (OrderFacts.of_eq fun _ _ => rfl).congr (g := fun _ => .error err) (fun r => ?_)
      (iff_of_false (fun hc => hok' hc.2.1) not_false)
    obtain ⟨x, hx⟩ := h.ok_of_ok r₀ r.1 hok
    rw [hx, h'.fails r₀' r.2 err herr]
    rfl
  have hmake : ∀ (r : ρ × ρ') x y, g r.1 = .ok x → g' r.2 = .ok y → (do
      let outbounds ← g r.1
      let rest ← g' r.2
      return outbounds ++ rest) = Except.ok (x ++ y) := by
    intro r x y hx hy
    rw [hx, hy]
    rfl
  refine ⟨fun r r' err herr => ?_, fun hnot r r' => ?_, ?_⟩
  · obtain ⟨x, hx⟩ := h.ok_of_ok r₀ r.1 hok
    obtain ⟨y, hy⟩ := h'.ok_of_ok r₀' r.2 hok'
    rw [hmake r x y hx hy] at herr
    cases herr
  · obtain ⟨hno, hno'⟩ := not_or.1 fun ha => hnot ⟨hok, hok', ha⟩
    rw [h.settled hno r.1 r'.1, h'.settled hno' r.2 r'.2]
  · rintro ⟨⟨x₀, hx₀⟩, ⟨y₀, hy₀⟩, ha | ha⟩
    · obtain ⟨r, r', x, y, hx, hy, hne⟩ := h.differs ha
      refine ⟨(r, r₀'), (r', r₀'), _, _, hmake _ x y₀ hx hy₀, hmake _ y y₀ hy hy₀, fun heq => hne ?_⟩
      rwa [protocols, map_append, map_append, append_left_inj] at heq
    · obtain ⟨r, r', x, y, hx, hy, hne⟩ := h'.differs ha
      refine ⟨(r₀, r), (r₀, r'), _, _, hmake _ x₀ x hx₀ hx, hmake _ x₀ y hx₀ hy, fun heq => hne ?_⟩
      rwa [protocols, map_append, map_append, append_right_inj] at heq

variable {α : Type} {f : MapOrder → α → Except Failure (List Outbound)} {ambiguous : α → Prop}

def listed : ℕ → MapOrder := fun _ => .asListed

lemma flatMapM_facts {l : List α} (h : ∀ a ∈ l, OrderFacts (f · a) protocols (ambiguous a)) :
    OrderFacts (fun order => flatMapM f order l) protocols
      ((∃ outbounds, flatMapM f listed l = .ok outbounds) ∧ ∃ a ∈ l, ambiguous a) := by
  induction l with
  | nil => exact (OrderFacts.of_eq fun _ _ => rfl).congr (fun _ => rfl) (iff_of_false (by simp) not_false)
  | cons a l ih =>
    have hfirst := h a mem_cons_self
    have hrest := ih fun b hb => h b (mem_cons_of_mem a hb)
    have hsurj : Function.Surjective fun order : ℕ → MapOrder => (order 0, fun i => order (i + 1)) :=
      fun r => ⟨fun i => Nat.casesOn i r.1 r.2, rfl⟩
    have happend := (hfirst.append hrest Ranges.asListed listed).comp hsurj
    refine happend.congr (fun order => rfl) ?_
    constructor
    · rintro ⟨⟨outbounds, hok⟩, b, hb, hambiguous⟩
      obtain ⟨first, hf, rest, hr, -⟩ := flatMapM_cons_eq_ok.1 hok
      refine ⟨⟨first, hf⟩, ⟨rest, hr⟩, ?_⟩
      rcases mem_cons.1 hb with rfl | hb
      · exact .inl hambiguous
      · exact .inr ⟨⟨rest, hr⟩, b, hb, hambiguous⟩
    · rintro ⟨⟨first, hf⟩, ⟨rest, hr⟩, hambiguous⟩
      refine ⟨⟨first ++ rest, flatMapM_cons_eq_ok.2 ⟨first, hf, rest, hr, rfl⟩⟩, ?_⟩
      rcases hambiguous with hambiguous | ⟨-, b, hb, hambiguous⟩
      · exact ⟨a, mem_cons_self, hambiguous⟩
      · exact ⟨b, mem_cons_of_mem a hb, hambiguous⟩

variable (d : Decoders) (override : Option OutboundOverrideOptions) (content : String)

def readOutbounds (order : ℕ → MapOrder) : Except Failure (List Outbound) :=
  match formatOf content with
  | .singBox => decodeOutbounds d content
  | .clash => newClashParser d order content
  | .native => newNativeURIParser d.toTextDecoders order content

def Ambiguous : Prop :=
  match formatOf content with
  | .singBox => False
  | .clash => ∃ proxies, d.yaml content = .ok proxies ∧ ∃ proxy ∈ proxies, ProxyAmbiguous d proxy
  | .native => ∃ line ∈ splitChar '\n' content, LineAmbiguous d.toTextDecoders line

lemma newClashParser_facts : OrderFacts (newClashParser d · content) protocols
    ((∃ outbounds, newClashParser d listed content = .ok outbounds) ∧
      ∃ proxies, d.yaml content = .ok proxies ∧ ∃ proxy ∈ proxies, ProxyAmbiguous d proxy) := by
  unfold newClashParser
  cases hyaml : d.yaml content with
  | error err => exact (OrderFacts.of_eq fun _ _ => rfl).congr (fun _ => rfl) (iff_of_false (by simp) not_false)
  | ok proxies =>
    have hw := d.yaml_wellformed content proxies hyaml
    refine (flatMapM_facts fun proxy hproxy => parseProxy_facts d (hw proxy hproxy)).congr (fun _ => rfl) ?_
    simp

lemma readOutbounds_facts : OrderFacts (readOutbounds d content) protocols
    ((∃ outbounds, readOutbounds d content listed = .ok outbounds) ∧ Ambiguous d content) := by
  unfold readOutbounds Ambiguous
  cases formatOf content with
  | singBox =>
    exact (OrderFacts.of_eq fun _ _ => rfl).congr (fun _ => rfl) (iff_of_false (fun hc => hc.2) not_false)
  | clash => exact newClashParser_facts d content
  | native => exact flatMapM_facts fun line _ => parseLine_facts d.toTextDecoders line

lemma newParser_eq (order : ℕ → MapOrder) :
    newParser d override order content =
      (readOutbounds d content order).map (overrideOutbounds override) := rfl

lemma protocols_overrideOutbounds (outbounds : List Outbound) :
    protocols (overrideOutbounds override outbounds) = protocols outbounds := by
  rw [protocols, overrideOutbounds, map_map]
  rfl

lemma newParser_facts : OrderFacts (newParser d override · content) protocols
    ((∃ outbounds, readOutbounds d content listed = .ok outbounds) ∧ Ambiguous d content) := by
  refine ((readOutbounds_facts d content).map (overrideOutbounds override) fun a b heq => ?_).congr
    (newParser_eq d override content) Iff.rfl
  rwa [protocols_overrideOutbounds, protocols_overrideOutbounds] at heq

variable {δ : Type} [DecidableEq δ]

lemma checkChange_self_iff (outbounds : List (Provider.Options δ)) :
    checkChange outbounds outbounds = false ↔
      ∀ a ∈ outbounds, ∀ b ∈ outbounds, a.tag = b.tag → a = b := by
  have hall : checkChange outbounds outbounds = false ↔
      ∀ a ∈ outbounds, fill Options.tag outbounds a.tag = some a := by
    rw [checkChange, if_neg (not_not.2 rfl), Bool.not_eq_false', all_eq_true]
    refine forall₂_congr fun a _ => ?_
    cases fill Options.tag outbounds a.tag <;> simp
  rw [hall]
  constructor
  · intro h a ha b hb htag
    have hfill := h a ha
    rw [htag, h b hb] at hfill
    exact (Option.some.inj hfill).symm
  · exact fun h a ha => fill_of_unique Options.tag h ha

/-- What the constructor writes to the TLS options its argument points to. The version it settles on
is that of a copy. -/
def newShadowTLSLeaves (options : ShadowTLSOptions) : ShadowTLSOptions :=
  if options.tls.enabled ∧ (options.version = 0 ∨ options.version = 1) then
    { options with tls.minVersion := "1.2", tls.maxVersion := "1.2" }
  else options

/-- What constructors leave of options that were decoded as a whole. -/
structure Leavings where
  decoded : String → String
  decoded_decoded : ∀ text, decoded (decoded text) = decoded text

namespace Leavings

variable (c : Leavings)

def protocol : ProtocolOptions → ProtocolOptions
  | .shadowTLS options => .shadowTLS (newShadowTLSLeaves options)
  | .decoded text => .decoded (c.decoded text)
  | options => options

def leaves (o : Provider.Options Outbound) : Outbound := { o.data with protocol := c.protocol o.data.protocol }

def Rewrites (o : Provider.Options Outbound) : Prop :=
  isSkipped o.type = false ∧ match o.data.protocol with
    | .shadowTLS options => options.tls.enabled = true ∧ (options.version = 0 ∨ options.version = 1) ∧
        (options.tls.minVersion ≠ "1.2" ∨ options.tls.maxVersion ≠ "1.2")
    | .decoded text => c.decoded text ≠ text
    | _ => False

lemma newShadowTLSLeaves_eq_self_iff (options : ShadowTLSOptions) : newShadowTLSLeaves options = options ↔
    ¬ (options.tls.enabled = true ∧ (options.version = 0 ∨ options.version = 1) ∧
      (options.tls.minVersion ≠ "1.2" ∨ options.tls.maxVersion ≠ "1.2")) := by
  unfold newShadowTLSLeaves
  split_ifs with h
  · obtain ⟨_, _, tls⟩ := options
    obtain ⟨_, _, _, _, _, min, max, _, _, _, _⟩ := tls
    simp only [ShadowTLSOptions.mk.injEq, OutboundTLSOptions.mk.injEq]
    have := h.1
    have := h.2
    dsimp only at *
    tauto
  · exact iff_of_true rfl fun hc => h ⟨hc.1, hc.2.1⟩

lemma protocol_protocol (options : ProtocolOptions) : c.protocol (c.protocol options) = c.protocol options := by
  cases options with
  | shadowTLS options =>
    refine congrArg ProtocolOptions.shadowTLS ((newShadowTLSLeaves_eq_self_iff _).2 ?_)
    unfold newShadowTLSLeaves
    split_ifs with h
    · simp
    · exact fun hc => h ⟨hc.1, hc.2.1⟩
  | decoded text => exact congrArg ProtocolOptions.decoded (c.decoded_decoded text)
  | _ => rfl

lemma left_eq_self_iff (o : Provider.Options Outbound) : o.left c.leaves = o ↔ ¬ c.Rewrites o := by
  obtain ⟨type, tag, port, data⟩ := o
  unfold Options.left Rewrites
  cases hskipped : isSkipped type with
  | true => simp
  | false =>
    obtain ⟨_, _, _, _, _, protocol⟩ := data
    cases protocol <;> simp [leaves, Leavings.protocol, newShadowTLSLeaves_eq_self_iff]

lemma left_left (o : Provider.Options Outbound) : (o.left c.leaves).left c.leaves = o.left c.leaves := by
  unfold Options.left
  split_ifs with h
  · rfl
  · simp [leaves, protocol_protocol]

end Leavings

def compared (filter : Filter) (outbounds : List Outbound) : List (Provider.Options Outbound) :=
  finalOuts filter (outbounds.map toOptions)

/-- The list a change is looked for in is what the constructors of the last update left. -/
structure OrderIndependent (d : Decoders) (c : Leavings) (override : Option OutboundOverrideOptions)
    (filter : Filter) (content : String) : Prop where
  same : ∀ order order', newParser d override order content = newParser d override order' content
  unchanged : ∀ order order' outbounds outbounds',
    newParser d override order content = .ok outbounds →
    newParser d override order' content = .ok outbounds' →
      checkChange ((compared filter outbounds).map (Options.left c.leaves)) (compared filter outbounds') = false
  kept : ∀ order order' outbounds outbounds',
    newParser d override order content = .ok outbounds →
    newParser d override order' content = .ok outbounds' →
      ∀ (env : Env Outbound) (p fetched : String) (starts : ℕ → StartMethod) (w : World Outbound),
        env.decodeBase64Safe fetched = content → env.newParser p content = .ok (outbounds'.map toOptions) →
        env.leaves = c.leaves → w.filters p = filter →
        w.lastOuts p = (compared filter outbounds).map (Options.left env.leaves) →
          updateProviderFromContent env p fetched starts w = (.ok false, w)

lemma checkChange_left_iff (c : Leavings) (outbounds : List (Provider.Options Outbound)) :
    checkChange (outbounds.map (Options.left c.leaves)) outbounds = false ↔
      (∀ a ∈ outbounds, ¬ c.Rewrites a) ∧ ∀ a ∈ outbounds, ∀ b ∈ outbounds, a.tag = b.tag → a = b := by
  have hself : (∀ a ∈ outbounds, ¬ c.Rewrites a) → outbounds.map (Options.left c.leaves) = outbounds :=
    fun h => (map_congr_left fun a ha => (c.left_eq_self_iff a).2 (h a ha)).trans (map_id _)
  constructor
  · intro h
    have hkept : ∀ a ∈ outbounds, ¬ c.Rewrites a := by
      intro a ha
      rw [checkChange, if_neg (by simp), Bool.not_eq_false', all_eq_true] at h
      have hfill := h a ha
      cases hout : fill Options.tag (outbounds.map (Options.left c.leaves)) a.tag with
      | none => simp [hout] at hfill
      | some out =>
        obtain rfl : out = a := by simpa [hout] using hfill
        obtain ⟨b, -, rfl⟩ := mem_map.1 (fill_mem _ _ _ _ hout).1
        exact (c.left_eq_self_iff _).1 (c.left_left b)
    rw [hself hkept] at h
    exact ⟨hkept, (checkChange_self_iff _).1 h⟩
  · rintro ⟨hkept, htags⟩
    rw [hself hkept]
    exact (checkChange_self_iff _).2 htags

variable {d : Decoders} {c : Leavings} {override : Option OutboundOverrideOptions} {filter : Filter}
  {content : String}

lemma OrderIndependent.of_same
    (hsame : ∀ order order', newParser d override order content = newParser d override order' content)
    (hkept : ∀ outbounds, newParser d override listed content = .ok outbounds →
      (∀ a ∈ compared filter outbounds, ¬ c.Rewrites a) ∧
        ∀ a ∈ compared filter outbounds, ∀ b ∈ compared filter outbounds, a.tag = b.tag → a = b) :
    OrderIndependent d c override filter content := by
  have hunchanged : ∀ order order' outbounds outbounds', newParser d override order content = .ok outbounds →
      newParser d override order' content = .ok outbounds' →
        checkChange ((compared filter outbounds).map (Options.left c.leaves)) (compared filter outbounds') = false := by
    intro order order' outbounds outbounds' h h'
    rw [hsame order listed] at h
    rw [hsame order' listed, h] at h'
    cases h'
    exact (checkChange_left_iff c _).2 (hkept outbounds h)
  refine ⟨hsame, hunchanged, ?_⟩
  rintro order order' outbounds outbounds' h h' env p fetched starts w rfl henv hleaves rfl hlast
  have hcheck := hunchanged order order' outbounds outbounds' h h'
  rw [← hleaves, ← hlast] at hcheck
  rw [updateProviderFromContent, parseOutbounds_same ⟨_, henv, rfl⟩ hcheck]

variable (d c override filter content)

def untouched : Leavings := ⟨id, fun _ => rfl⟩

/-- The version is left to its default. -/
def behindShadowTLS : Proxy :=
  [("name", .str "a"), ("type", .str "ss"), ("plugin", .str "shadow-tls"),
    ("plugin-opts", .map [("password", .str "p")])]

def shadowTLSDecoders : Decoders :=
  proxyDecoders behindShadowTLS
    (by simp [behindShadowTLS, Value.Wellformed, mapWellformed, Distinct])

def changesAgain (d : Decoders) (order order' : ℕ → MapOrder) (content : String) : Except Failure Bool := do
  let outbounds ← newParser d none order content
  let outbounds' ← newParser d none order' content
  return checkChange ((compared {} outbounds).map (Options.left untouched.leaves)) (compared {} outbounds')

lemma not_orderIndependent {order order' : ℕ → MapOrder} (h : changesAgain d order order' content = .ok true) :
    ¬ OrderIndependent d untouched none {} content := by
  intro hindependent
  obtain ⟨outbounds, hparse, h⟩ := bind_eq_ok.1 h
  obtain ⟨outbounds', hparse', h⟩ := bind_eq_ok.1 h
  have hchange := Except.ok.inj h
  rw [hindependent.unchanged _ _ _ _ hparse hparse'] at hchange
  cases hchange

end SingBox.Provider
