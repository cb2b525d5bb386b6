import SingBox.Lib.Errors
import SingBox.Provider.Native

namespace SingBox.Provider

open SingBox.Options Lib.Maps Lib.Errors Lib.Text List

namespace Param

def shared : Param → Bool
  | .insecure | .tfo | .serverName | .other => true
  | _ => false

def Conflict : Param → String → Param → String → Prop
  | .serverName, v, .serverName, v' => v ≠ v'
  | .packetEncoding, v, .xudp, v' => v ≠ "xudp" ∧ isTrue v' = true
  | .xudp, v, .packetEncoding, v' => v' ≠ "xudp" ∧ isTrue v = true
  | _, _, _, _ => False

variable {v v' : String}

lemma packetEncoding_xudp_comm (h : ¬ packetEncoding.Conflict v xudp v') (o : LinkOptions) :
    xudp.apply v' (packetEncoding.apply v o) = packetEncoding.apply v (xudp.apply v' o) := by
  have hite : (if isTrue v' then "xudp" else v) = v := by
    by_cases hv : v = "xudp"
    · rw [hv, ite_self]
    · exact if_neg fun htrue => h ⟨hv, htrue⟩
  change { o with packetEncoding := if isTrue v' then "xudp" else v } = { o with packetEncoding := v }
  rw [hite]

lemma tls_security_comm (o : LinkOptions) :
    security.apply v' (tls.apply v o) = tls.apply v (security.apply v' o) := by
  simp only [apply]
  congr 2
  ac_rfl

lemma apply_comm {p p' : Param} (hshared : p = p' → p.shared = true)
    (hadd : ¬ (p = .add ∧ p' = .serverName)) (hadd' : ¬ (p = .serverName ∧ p' = .add))
    (h : ¬ p.Conflict v p' v') (o : LinkOptions) :
    p'.apply v' (p.apply v o) = p.apply v (p'.apply v' o) := by
  -- most pairs write different fields
  cases p <;> cases p' <;> first
    | rfl
    | exact absurd (hshared rfl) Bool.false_ne_true
    | exact absurd ⟨rfl, rfl⟩ hadd
    | exact absurd ⟨rfl, rfl⟩ hadd'
    | skip
  case packetEncoding.xudp => exact packetEncoding_xudp_comm h o
  case xudp.packetEncoding => exact (packetEncoding_xudp_comm h o).symm
  case tls.security => exact tls_security_comm o
  case security.tls => exact (tls_security_comm o).symm
  case insecure.insecure => simp only [apply, Bool.or_right_comm]
  case tfo.tfo => simp only [apply, Bool.or_right_comm]
  case serverName.serverName => rw [not_ne_iff.1 h]

end Param

structure Switch (params : List (String × Param)) : Prop where
  unshared : ∀ x ∈ params, ∀ y ∈ params, x.2 = y.2 → x.1 ≠ y.1 → x.2.shared = true
  serverName : ∀ x ∈ params, x.2 = .serverName → ∀ y ∈ params, y.2 ≠ .add

lemma vmess_switch : Switch vmessParams := ⟨by decide, by decide⟩

lemma vless_switch : Switch vlessParams := ⟨by decide, by decide⟩

lemma trojan_switch : Switch trojanParams := ⟨by decide, by decide⟩

variable {params : List (String × Param)} {transport : String → Except Failure V2RayTransportOptions}
  {tls : String → Bool} {m m' : List (String × String)}
  {p : Param}

lemma paramOf_mem {key : String} (h : paramOf params key = p) (hp : p ≠ .other) :
    (key, p) ∈ params := by
  rw [paramOf] at h
  cases hl : params.lookup key with
  | none =>
    rw [hl] at h
    exact absurd h.symm hp
  | some q =>
    rw [hl] at h
    obtain rfl : q = p := h
    rw [lookup_eq_some_iff] at hl
    obtain ⟨before, after, rfl, -⟩ := hl
    exact mem_append_right _ mem_cons_self

variable {k : String}

lemma Switch.paramOf_shared (hs : Switch params) {k' : String} (hne : k ≠ k')
    (h : paramOf params k = paramOf params k') : (paramOf params k).shared = true := by
  by_cases hother : paramOf params k = .other
  · rw [hother]
    rfl
  · exact hs.unshared (k, _) (paramOf_mem rfl hother) (k', _) (paramOf_mem h.symm hother) rfl hne

lemma Switch.not_add (hs : Switch params) (k k' : String) :
    ¬ (paramOf params k = .add ∧ paramOf params k' = .serverName) := fun ⟨hadd, hname⟩ =>
  hs.serverName _ (paramOf_mem hname nofun) rfl _ (paramOf_mem hadd nofun) rfl

variable (params) in
def ParamConflict (m : List (String × String)) : Prop :=
  ∃ x ∈ m, ∃ y ∈ m, x.1 ≠ y.1 ∧ (paramOf params x.1).Conflict x.2 (paramOf params y.1) y.2

lemma ParamConflict.perm (h : ParamConflict params m) (hp : m.Perm m') : ParamConflict params m' := by
  obtain ⟨x, hx, y, hy, hxy⟩ := h
  exact ⟨x, hp.mem_iff.1 hx, y, hp.mem_iff.1 hy, hxy⟩

variable {x : String × String}

lemma paramStep_of_ne (h : paramOf params x.1 ≠ .transport) (o : LinkOptions) :
    paramStep params transport tls o x = .ok ((paramOf params x.1).apply x.2 o) := by
  rw [paramStep]
  split
  next hx => exact absurd hx h
  next => rfl

lemma paramStep_of_eq (h : paramOf params x.1 = .transport) (o : LinkOptions) :
    paramStep params transport tls o x = (transport x.2).map fun options =>
      { o with transport := some options, tls.enabled := o.tls.enabled || tls x.2 } := by
  rw [paramStep, h]
  cases transport x.2 <;> rfl

lemma transport_comm (v : String) (t : V2RayTransportOptions) (b : Bool) (o : LinkOptions) :
    p.apply v { o with transport := some t, tls.enabled := o.tls.enabled || b } =
      { p.apply v o with
        transport := some t
        tls.enabled := (p.apply v o).tls.enabled || b } := by
  cases p <;> first
    | rfl
    | skip
  case tls =>
    simp only [Param.apply]
    congr 2
    ac_rfl
  case security =>
    simp only [Param.apply]
    congr 2
    ac_rfl

lemma paramStep_comm (hs : Switch params) {y : String × String} (hne : x.1 ≠ y.1)
    (h : ¬ (paramOf params x.1).Conflict x.2 (paramOf params y.1) y.2) (o : LinkOptions) :
    (paramStep params transport tls o x >>= fun o => paramStep params transport tls o y) =
      paramStep params transport tls o y >>= fun o => paramStep params transport tls o x := by
  by_cases hx : paramOf params x.1 = .transport
  · have hy : paramOf params y.1 ≠ .transport := by
      intro hy
      have hshared := hs.paramOf_shared hne (hx.trans hy.symm)
      rw [hx] at hshared
      cases hshared
    simp only [paramStep_of_eq hx, paramStep_of_ne hy]
    cases transport x.2 with
    | error err => rfl
    | ok t => exact congrArg Except.ok (transport_comm y.2 t (tls x.2) o)
  · by_cases hy : paramOf params y.1 = .transport
    · simp only [paramStep_of_eq hy, paramStep_of_ne hx]
      cases transport y.2 with
      | error err => rfl
      | ok t => exact congrArg Except.ok (transport_comm x.2 t (tls y.2) o).symm
    · simp only [paramStep_of_ne hx, paramStep_of_ne hy]
      refine congrArg Except.ok (Param.apply_comm (hs.paramOf_shared hne) (hs.not_add _ _) ?_ h o)
      exact fun hadd => hs.not_add _ _ hadd.symm

lemma foldlM_paramStep_perm (hs : Switch params) (hd : Distinct m) (hp : m.Perm m')
    (h : ¬ ParamConflict params m) (o : LinkOptions) :
    m.foldlM (paramStep params transport tls) o = m'.foldlM (paramStep params transport tls) o :=
  foldlM_perm hd hp (fun x hx y hy hne o =>
    paramStep_comm hs hne (fun hc => h ⟨x, hx, y, hy, hne, hc⟩) o) o

variable (params transport) in
def TransportMade (m : List (String × String)) : Prop :=
  ∀ x ∈ m, paramOf params x.1 = .transport → ∃ options, transport x.2 = .ok options

lemma foldlM_ok (h : TransportMade params transport m) (o : LinkOptions) :
    ∃ o', m.foldlM (paramStep params transport tls) o = .ok o' := by
  induction m generalizing o with
  | nil => exact ⟨o, rfl⟩
  | cons x m ih =>
    have hm : TransportMade params transport m := fun y hy => h y (mem_cons_of_mem _ hy)
    rw [foldlM_cons]
    by_cases hx : paramOf params x.1 = .transport
    · obtain ⟨options, hoptions⟩ := h x mem_cons_self hx
      rw [paramStep_of_eq hx, hoptions]
      exact ih hm _
    · rw [paramStep_of_ne hx]
      exact ih hm _

variable {err : Failure}

lemma foldlM_error (hx : x ∈ m) (hparam : paramOf params x.1 = .transport)
    (herr : transport x.2 = .error err)
    (hother : ∀ y ∈ m, y.1 ≠ x.1 → paramOf params y.1 ≠ .transport) (hd : Distinct m)
    (o : LinkOptions) : m.foldlM (paramStep params transport tls) o = .error err := by
  induction m generalizing o with
  | nil => cases hx
  | cons y m ih =>
    rw [foldlM_cons]
    rcases mem_cons.1 hx with rfl | hmem
    · rw [paramStep_of_eq hparam, herr]
      rfl
    · have hne : y.1 ≠ x.1 := fun hkey =>
        (nodup_cons.1 hd).1 (hkey ▸ mem_map_of_mem (f := Prod.fst) hmem)
      rw [paramStep_of_ne (hother y mem_cons_self hne)]
      exact ih hmem (fun z hz => hother z (mem_cons_of_mem _ hz)) (nodup_cons.1 hd).2 _

lemma foldlM_perm_error (hs : Switch params) (hd : Distinct m) (hp : m'.Perm m) (hx : x ∈ m)
    (hparam : paramOf params x.1 = .transport) (herr : transport x.2 = .error err) (o : LinkOptions) :
    m'.foldlM (paramStep params transport tls) o = .error err := by
  refine foldlM_error (hp.mem_iff.2 hx) hparam herr (fun y _ hne hy => ?_) (hd.perm hp.symm) o
  have hshared := hs.paramOf_shared hne (hy.trans hparam.symm)
  rw [hy] at hshared
  cases hshared

lemma exists_foldlM_error (hs : Switch params) (hd : Distinct m)
    (h : ¬ TransportMade params transport m) :
    ∃ err, ∀ m' : List (String × String), m'.Perm m → ∀ o,
      m'.foldlM (paramStep params transport tls) o = .error err := by
  simp only [TransportMade, not_forall] at h
  obtain ⟨x, hx, hparam, hnone⟩ := h
  cases herr : transport x.2 with
  | ok options => exact absurd ⟨options, herr⟩ hnone
  | error err => exact ⟨err, fun m' hp => foldlM_perm_error hs hd hp hx hparam herr⟩

variable (tls) in
lemma foldlM_andLast (hd : Distinct m) (hmade : TransportMade params transport m) {v : String}
    (hx : (k, v) ∈ m) (hk : paramOf params k ≠ .transport) (o : LinkOptions) :
    ∃ o', ((Ranges.asListed.andLast k).range Site.link m).foldlM (paramStep params transport tls) o =
      .ok ((paramOf params k).apply v o') := by
  have hrest : TransportMade params transport (m.filter (·.1 ≠ k)) :=
    fun y hy => hmade y (mem_of_mem_filter hy)
  obtain ⟨o', ho'⟩ : ∃ o', (m.filter (·.1 ≠ k)).foldlM (paramStep params transport tls) o = .ok o' :=
    foldlM_ok hrest o
  have hlast : [(k, v)].foldlM (paramStep params transport tls) o' =
      .ok ((paramOf params k).apply v o') := by
    rw [foldlM_cons, paramStep_of_ne hk]
    rfl
  refine ⟨o', ?_⟩
  rw [Ranges.andLast_range _ _ hd hx, foldlM_append]
  change (m.filter (·.1 ≠ k)).foldlM _ o >>= _ = _
  rw [ho']
  exact hlast

def XudpConflict (m : List (String × String)) : Prop :=
  ∃ v, ("packet_encoding", v) ∈ m ∧ v ≠ "xudp" ∧ ∃ v', ("xudp", v') ∈ m ∧ isTrue v' = true

def serverNameKeys : List String := ["serviceName", "sni", "peer"]

def ServerNameConflict (m : List (String × String)) : Prop :=
  ∃ x ∈ m, ∃ y ∈ m, x.1 ∈ serverNameKeys ∧ y.1 ∈ serverNameKeys ∧ x.2 ≠ y.2

lemma Param.Conflict.cases {p' : Param} {v v' : String} (h : p.Conflict v p' v') :
    (p = .serverName ∧ p' = .serverName ∧ v ≠ v') ∨
      (p = .packetEncoding ∧ p' = .xudp ∧ v ≠ "xudp" ∧ isTrue v' = true) ∨
      (p = .xudp ∧ p' = .packetEncoding ∧ v' ≠ "xudp" ∧ isTrue v = true) := by
  unfold Param.Conflict at h
  split at h
  · exact .inl ⟨rfl, rfl, h⟩
  · exact .inr (.inl ⟨rfl, rfl, h⟩)
  · exact .inr (.inr ⟨rfl, rfl, h⟩)
  · exact h.elim

lemma xudpConflict_of_paramConflict (h : ParamConflict vmessParams m) : XudpConflict m := by
  obtain ⟨⟨k, v⟩, hx, ⟨k', v'⟩, hy, -, hconflict⟩ := h
  have hkeys : ∀ x ∈ vmessParams, x.2 ≠ .serverName ∧ (x.2 = .packetEncoding → x.1 = "packet_encoding") ∧
      (x.2 = .xudp → x.1 = "xudp") := by decide
  obtain ⟨hp, -, -⟩ | ⟨hp, hp', hv⟩ | ⟨hp, hp', hv⟩ := hconflict.cases
  · exact absurd rfl (hkeys _ (paramOf_mem hp nofun)).1
  · obtain rfl : k = _ := (hkeys _ (paramOf_mem hp nofun)).2.1 rfl
    obtain rfl : k' = _ := (hkeys _ (paramOf_mem hp' nofun)).2.2 rfl
    exact ⟨v, hx, hv.1, v', hy, hv.2⟩
  · obtain rfl : k = _ := (hkeys _ (paramOf_mem hp nofun)).2.2 rfl
    obtain rfl : k' = _ := (hkeys _ (paramOf_mem hp' nofun)).2.1 rfl
    exact ⟨v', hy, hv.1, v, hx, hv.2⟩

lemma serverNameConflict_of_paramConflict
    (hparams : ∀ x ∈ params, (x.2 = .serverName → x.1 ∈ serverNameKeys) ∧ x.2 ≠ .packetEncoding)
    (h : ParamConflict params m) : ServerNameConflict m := by
  obtain ⟨x, hx, y, hy, -, hconflict⟩ := h
  obtain ⟨hp, hp', hv⟩ | ⟨hp, -, -⟩ | ⟨-, hp', -⟩ := hconflict.cases
  · exact ⟨x, hx, y, hy, (hparams _ (paramOf_mem hp nofun)).1 rfl,
      (hparams _ (paramOf_mem hp' nofun)).1 rfl, hv⟩
  · exact absurd rfl (hparams _ (paramOf_mem hp nofun)).2
  · exact absurd rfl (hparams _ (paramOf_mem hp' nofun)).2

/-- How the result `g` of a parser depends on the order: not at all, also in its failures, unless
the entry is ambiguous, and then `obs` tells the results of two orders apart. -/
structure OrderFacts {ρ α β : Type*} (g : ρ → Except Failure α) (obs : α → β) (ambiguous : Prop) :
    Prop where
  fails : ∀ r r' err, g r = .error err → g r' = .error err
  settled : ¬ ambiguous → ∀ r r', g r = g r'
  differs : ambiguous → ∃ r r' x y, g r = .ok x ∧ g r' = .ok y ∧ obs x ≠ obs y

namespace OrderFacts

variable {ρ α α' β β' : Type*} {g g' : ρ → Except Failure α} {obs : α → β} {obs' : α' → β'}
  {ambiguous ambiguous' : Prop}

lemma of_eq (h : ∀ r r', g r = g r') : OrderFacts g obs False :=
  ⟨fun r r' _ herr => (h r' r).trans herr, fun _ => h, False.elim⟩

lemma congr (h : OrderFacts g obs ambiguous) (hg : ∀ r, g' r = g r) (ha : ambiguous' ↔ ambiguous) :
    OrderFacts g' obs ambiguous' := by
  obtain rfl : g' = g := funext hg
  rwa [propext ha]

variable {make : α → α'}

lemma through (h : OrderFacts g obs ambiguous) {f : Except Failure α → Except Failure α'}
    (hok : ∀ a, f (.ok a) = .ok (make a))
    (hobs : ∀ a b, obs' (make a) = obs' (make b) → obs a = obs b) :
    OrderFacts (fun r => f (g r)) obs' ambiguous := by
  refine ⟨fun r r' err herr => ?_, fun hnot r r' => congrArg f (h.settled hnot r r'), fun ha => ?_⟩
  · cases hr : g r with
    | ok a =>
      rw [hr, hok] at herr
      cases herr
    | error err' =>
      rw [hr] at herr
      rw [h.fails r r' err' hr, herr]
  · obtain ⟨r, r', x, y, hx, hy, hne⟩ := h.differs ha
    refine ⟨r, r', make x, make y, ?_, ?_, fun heq => hne (hobs x y heq)⟩
    · rw [hx, hok]
    · rw [hy, hok]

lemma map (h : OrderFacts g obs ambiguous) (make : α → α')
    (hobs : ∀ a b, obs' (make a) = obs' (make b) → obs a = obs b) :
    OrderFacts (fun r => (g r).map make) obs' ambiguous :=
  h.through (fun _ => rfl) hobs

lemma bind_ok (h : OrderFacts g obs ambiguous)
    (hobs : ∀ a b, obs' (make a) = obs' (make b) → obs a = obs b) :
    OrderFacts (fun r => Except.bind (g r) fun a => .ok (make a)) obs' ambiguous :=
  h.through (f := fun x => Except.bind x fun a => .ok (make a)) (fun _ => rfl) hobs

lemma ok_of_ok (h : OrderFacts g obs ambiguous) (r r' : ρ) : (∃ x, g r = .ok x) → ∃ x, g r' = .ok x := by
  rintro ⟨x, hx⟩
  cases hr : g r' with
  | ok y => exact ⟨y, rfl⟩
  | error err =>
    rw [h.fails r' r err hr] at hx
    cases hx

lemma comp {ρ' : Type*} (h : OrderFacts g obs ambiguous) {e : ρ' → ρ} (he : e.Surjective) :
    OrderFacts (fun r => g (e r)) obs ambiguous := by
  refine ⟨fun r r' => h.fails (e r) (e r'), fun hnot r r' => h.settled hnot (e r) (e r'), fun ha => ?_⟩
  obtain ⟨r, r', x, y, hx, hy, hne⟩ := h.differs ha
  obtain ⟨s, rfl⟩ := he r
  obtain ⟨s', rfl⟩ := he r'
  exact ⟨s, s', x, y, hx, hy, hne⟩

end OrderFacts

variable (transport tls) in
lemma orderFacts_loop (hs : Switch params) (hd : Distinct m) (init : LinkOptions)
    (make : LinkOptions → Outbound) {conflict : Prop} (hconflict : ParamConflict params m → conflict)
    (hdiffers : conflict → TransportMade params transport m → ∃ x ∈ m, ∃ y ∈ m,
      paramOf params x.1 ≠ .transport ∧ paramOf params y.1 ≠ .transport ∧ ∀ o o',
        (make ((paramOf params x.1).apply x.2 o)).protocol ≠
          (make ((paramOf params y.1).apply y.2 o')).protocol) :
    OrderFacts
      (fun r : MapOrder => ((r.range Site.link m).foldlM (paramStep params transport tls) init).map make)
      Outbound.protocol (TransportMade params transport m ∧ conflict) := by
  by_cases hmade : TransportMade params transport m
  case neg =>
    obtain ⟨err, herr⟩ : ∃ err, ∀ m' : List (String × String), m'.Perm m → ∀ o,
      m'.foldlM (paramStep params transport tls) o = .error err := exists_foldlM_error hs hd hmade
    refine ⟨fun r r' err' h => ?_, fun _ r r' => ?_, fun h => absurd h.1 hmade⟩
    · rw [← h, herr _ (r.perm _ m), herr _ (r'.perm _ m)]
    · rw [herr _ (r.perm _ m), herr _ (r'.perm _ m)]
  constructor
  · intro r r' err h
    obtain ⟨o, ho⟩ : ∃ o, (r.range Site.link m).foldlM (paramStep params transport tls) init = .ok o :=
      foldlM_ok (fun x hx => hmade x ((r.perm _ m).mem_iff.1 hx)) init
    rw [ho] at h
    cases h
  · intro hnot r r'
    have hno : ¬ ParamConflict params (r.range Site.link m) := fun hc =>
      hnot ⟨hmade, hconflict (hc.perm (r.perm _ m))⟩
    exact congrArg (Except.map make) (foldlM_paramStep_perm hs (hd.perm (r.perm _ m).symm)
      ((r.perm _ m).trans (r'.perm _ m).symm) hno init)
  · rintro ⟨-, hc⟩
    obtain ⟨x, hx, y, hy, hpx, hpy, hne⟩ := hdiffers hc hmade
    obtain ⟨o, ho⟩ : ∃ o, ((Ranges.asListed.andLast x.1).range Site.link m).foldlM
        (paramStep params transport tls) init = .ok ((paramOf params x.1).apply x.2 o) :=
      foldlM_andLast tls hd hmade hx hpx init
    obtain ⟨o', ho'⟩ : ∃ o, ((Ranges.asListed.andLast y.1).range Site.link m).foldlM
        (paramStep params transport tls) init = .ok ((paramOf params y.1).apply y.2 o) :=
      foldlM_andLast tls hd hmade hy hpy init
    refine ⟨_, _, _, _, congrArg (Except.map make) ho, congrArg (Except.map make) ho', hne o o'⟩

variable (d : TextDecoders) {content : String}

lemma foldl_distinct {α : Type} {step : List (String × String) → α → List (String × String)}
    (hstep : ∀ m a, Distinct m → Distinct (step m a)) (l : List α) (h : Distinct m) :
    Distinct (l.foldl step m) := by
  induction l generalizing m with
  | nil => exact h
  | cons a l ih => exact ih (hstep m a h)

lemma vmessAddon_distinct (m : List (String × String)) (addon : String) (h : Distinct m) :
    Distinct (vmessAddon d m addon) := by
  rw [vmessAddon]
  split
  split
  · split
    · exact (h.set _ _).set _ _
    · exact h
  all_goals exact h.set _ _

variable {proxy : List (String × String)}

lemma vmessMap_distinct (h : vmessMap d content = .ok proxy) : Distinct proxy := by
  rw [vmessMap] at h
  split at h
  · next hjson =>
    cases h
    exact d.jsonStrings_distinct _ _ hjson
  · split at h
    · cases h
    · cases h
      exact foldl_distinct (vmessAddon_distinct d) _ ((((distinct_nil.set _ _).set _ _).set _ _).set _ _)

lemma vlessMap_distinct (result : Lib.Regexp.Groups) : Distinct (vlessMap d result) := by
  refine foldl_distinct (fun m addon h => ?_) _ distinct_nil
  rw [vlessAddon]
  split
  split <;> exact h.set _ _

lemma trojanMap_distinct (result : Lib.Regexp.Groups) : Distinct (trojanMap d result) :=
  foldl_distinct (fun _ _ h => h.set _ _) _ distinct_nil

def VMessAmbiguous (content : String) : Prop :=
  ∃ proxy, vmessMap d content = .ok proxy ∧
    TransportMade vmessParams (vmessTransport proxy) proxy ∧ XudpConflict proxy

def VLESSAmbiguous (content : String) : Prop :=
  ∃ result, linkParser.findStringSubmatch content = some result ∧
    TransportMade vlessParams (vlessTransport (vlessMap d result)) (vlessMap d result) ∧
    ServerNameConflict (vlessMap d result)

def TrojanAmbiguous (content : String) : Prop :=
  ∃ result, linkParser.findStringSubmatch content = some result ∧
    TransportMade trojanParams (trojanTransport (trojanMap d result)) (trojanMap d result) ∧
    ServerNameConflict (trojanMap d result)

lemma vmessLoop_facts (hd : Distinct proxy) :
    OrderFacts (fun r : MapOrder => ((r.range .link proxy).foldlM (vmessStep proxy) {}).map vmessOutbound)
      Outbound.protocol (TransportMade vmessParams (vmessTransport proxy) proxy ∧ XudpConflict proxy) := by
  refine orderFacts_loop (vmessTransport proxy) (· == "h2") vmess_switch hd {} vmessOutbound
    xudpConflict_of_paramConflict ?_
  rintro ⟨v, hv, hne, v', hv', htrue⟩ -
  refine ⟨_, hv, _, hv', nofun, nofun, fun o o' h => hne ?_⟩
  have hencoding : v = if isTrue v' then "xudp" else o'.packetEncoding :=
    congrArg VMessOptions.packetEncoding (ProtocolOptions.vmess.inj h)
  rwa [if_pos htrue] at hencoding

lemma newVMessNativeParser_facts (content : String) :
    OrderFacts (newVMessNativeParser d · content) Outbound.protocol (VMessAmbiguous d content) := by
  cases hmap : vmessMap d content with
  | error err =>
    refine (OrderFacts.of_eq fun _ _ => rfl).congr (g := fun _ => .error err) (fun r => ?_) ?_
    · rw [newVMessNativeParser, hmap]
      rfl
    · rw [VMessAmbiguous, hmap]
      simp
  | ok proxy =>
    refine (vmessLoop_facts (vmessMap_distinct d hmap)).congr (fun r => ?_) ?_
    · rw [newVMessNativeParser, hmap]
      rfl
    · rw [VMessAmbiguous, hmap]
      simp

lemma serverName_differs (hparams : ∀ key ∈ serverNameKeys, paramOf params key = .serverName)
    {make : LinkOptions → Outbound}
    (hmake : ∀ o o', (make o).protocol = (make o').protocol → o.tls = o'.tls)
    (h : ServerNameConflict m) :
    ∃ x ∈ m, ∃ y ∈ m, paramOf params x.1 ≠ .transport ∧ paramOf params y.1 ≠ .transport ∧ ∀ o o',
      (make ((paramOf params x.1).apply x.2 o)).protocol ≠
        (make ((paramOf params y.1).apply y.2 o')).protocol := by
  obtain ⟨x, hx, y, hy, hkx, hky, hne⟩ := h
  refine ⟨x, hx, y, hy, ?_⟩
  rw [hparams _ hkx, hparams _ hky]
  refine ⟨nofun, nofun, fun o o' heq => hne ?_⟩
  exact congrArg OutboundTLSOptions.serverName (hmake _ _ heq)

lemma vlessLoop_facts (hd : Distinct proxy) (init : LinkOptions) :
    OrderFacts (fun r : MapOrder => ((r.range .link proxy).foldlM (vlessStep proxy) init).map vlessOutbound)
      Outbound.protocol (TransportMade vlessParams (vlessTransport proxy) proxy ∧ ServerNameConflict proxy) := by
  refine orderFacts_loop (vlessTransport proxy) (fun _ => false) vless_switch hd init vlessOutbound
    (serverNameConflict_of_paramConflict (by decide)) fun hc _ => serverName_differs (by decide) ?_ hc
  exact fun o o' h => congrArg VLESSOptions.tls (ProtocolOptions.vless.inj h)

lemma newVLESSNativeParser_facts (content : String) :
    OrderFacts (newVLESSNativeParser d · content) Outbound.protocol (VLESSAmbiguous d content) := by
  cases hresult : linkParser.findStringSubmatch content with
  | none =>
    refine (OrderFacts.of_eq fun _ _ => rfl).congr (g := fun _ => .error (.error "invalid vless uri"))
      (fun r => ?_) ?_
    · rw [newVLESSNativeParser, hresult]
    · rw [VLESSAmbiguous, hresult]
      simp
  | some result =>
    refine (vlessLoop_facts (vlessMap_distinct d result) (vlessInit d result)).congr (fun r => ?_) ?_
    · rw [newVLESSNativeParser, hresult]
    · rw [VLESSAmbiguous, hresult]
      simp

lemma trojanLoop_facts (hd : Distinct proxy) (password : String) (init : LinkOptions) :
    OrderFacts (fun r : MapOrder =>
        ((r.range .link proxy).foldlM (trojanStep proxy) init).map (trojanOutbound password))
      Outbound.protocol
      (TransportMade trojanParams (trojanTransport proxy) proxy ∧ ServerNameConflict proxy) := by
  refine orderFacts_loop (trojanTransport proxy) (fun _ => false) trojan_switch hd init
    (trojanOutbound password) (serverNameConflict_of_paramConflict (by decide))
    fun hc _ => serverName_differs (by decide) ?_ hc
  exact fun o o' h => congrArg TrojanOptions.tls (ProtocolOptions.trojan.inj h)

lemma newTrojanNativeParser_facts (content : String) :
    OrderFacts (newTrojanNativeParser d · content) Outbound.protocol (TrojanAmbiguous d content) := by
  cases hresult : linkParser.findStringSubmatch content with
  | none =>
    refine (OrderFacts.of_eq fun _ _ => rfl).congr (g := fun _ => .error (.error "invalid trojan uri"))
      (fun r => ?_) ?_
    · rw [newTrojanNativeParser, hresult]
    · rw [TrojanAmbiguous, hresult]
      simp
  | some result =>
    refine (trojanLoop_facts (trojanMap_distinct d result) (decodeURIComponent d (result 1))
      (trojanInit d result)).congr (fun r => ?_) ?_
    · rw [newTrojanNativeParser, hresult]
    · rw [TrojanAmbiguous, hresult]
      simp

lemma OrderFacts.kept {g : MapOrder → Except Failure Outbound} {ambiguous : Prop}
    (h : OrderFacts g Outbound.protocol ambiguous) :
    OrderFacts (fun r => kept (g r)) (List.map Outbound.protocol) ambiguous :=
  h.through (fun _ => rfl) fun _ _ heq => head_eq_of_cons_eq heq

def LinkAmbiguous (protocol content : String) : Prop :=
  protocol = "vmess" ∧ VMessAmbiguous d content ∨ protocol = "vless" ∧ VLESSAmbiguous d content ∨
    protocol = "trojan" ∧ TrojanAmbiguous d content

lemma link_facts (protocol content : String) :
    OrderFacts (fun r => ((protocolParser d r protocol content).map kept).getD (.ok []))
      (List.map Outbound.protocol) (LinkAmbiguous d protocol content) := by
  by_cases hvmess : protocol = "vmess"
  · subst hvmess
    exact (newVMessNativeParser_facts d content).kept.congr (fun _ => rfl) (by simp [LinkAmbiguous])
  by_cases hvless : protocol = "vless"
  · subst hvless
    exact (newVLESSNativeParser_facts d content).kept.congr (fun _ => rfl) (by simp [LinkAmbiguous])
  by_cases htrojan : protocol = "trojan"
  · subst htrojan
    exact (newTrojanNativeParser_facts d content).kept.congr (fun _ => rfl) (by simp [LinkAmbiguous])
  refine (OrderFacts.of_eq fun r r' => ?_).congr (fun _ => rfl)
    (by simp [LinkAmbiguous, hvmess, hvless, htrojan])
  have horder : protocolParser d r protocol content = protocolParser d r' protocol content := by
    unfold protocolParser
    split
    case h_4 => exact absurd rfl hvmess
    case h_5 => exact absurd rfl hvless
    case h_6 => exact absurd rfl htrojan
    all_goals rfl
  rw [horder]

def LineAmbiguous (line : String) : Prop :=
  ∃ protocol content rest, split "://" (trimSpace line) = protocol :: content :: rest ∧
    LinkAmbiguous d (d.toLower (trimSpace protocol))
      (trimSpace (decodeBase64Safe d (trimSpace content)))

lemma parseLine_facts (line : String) :
    OrderFacts (parseLine d · line) (List.map Outbound.protocol) (LineAmbiguous d line) := by
  match hsplit : split "://" (trimSpace line) with
  | protocol :: content :: rest =>
    refine (link_facts d _ _).congr (fun r => ?_) ⟨?_, fun h => ⟨protocol, content, rest, hsplit, h⟩⟩
    · simp only [parseLine, hsplit]
      cases protocolParser d r (d.toLower (trimSpace protocol))
        (trimSpace (decodeBase64Safe d (trimSpace content))) <;> rfl
    · rintro ⟨protocol', content', rest', hsplit', h⟩
      rw [hsplit] at hsplit'
      cases hsplit'
      exact h
  | [] | [_] =>
    refine (OrderFacts.of_eq fun r r' => ?_).congr (fun _ => rfl) (iff_of_false ?_ not_false)
    · simp only [parseLine, hsplit]
    · rintro ⟨protocol, content, rest, hsplit', -⟩
      rw [hsplit] at hsplit'
      cases hsplit'

end SingBox.Provider
