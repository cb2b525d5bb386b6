import SingBox.Outbound.URLTest

namespace SingBox.Groups.URLTest

open Adapter List

variable (v : View) (network : Network)

structure Candidate (out : Outbound) (d : UInt16) : Prop where
  supports : v.supports out network = true
  delay : v.delayOf out = some d

structure Optimal (g : URLTest) : Prop where
  least : ∀ out, g.select v network = (some out, true) → ∃ e, Candidate v network out e ∧
    ∀ other ∈ g.outbounds, ∀ d, Candidate v network other d → e.toNat ≤ d.toNat + g.tolerance.toNat
  keeps : ∀ out x, g.selectedOn network = some out → v.delayOf out = some x →
    g.select v network = (some out, true) ∨
      ∃ other ∈ g.outbounds, ∃ d, Candidate v network other d ∧ d.toNat + g.tolerance.toNat < x.toNat

def Selectable (g : URLTest) : Prop :=
  ∀ out, g.selectedOn network = some out → out ∈ g.outbounds ∧ v.supports out network = true

/-- What can go wrong when `a`, of delay `x`, is held and `b`, of delay `y`, comes: a delay of zero
is taken for none, and the sum with the tolerance wraps around. -/
def Comparable (tolerance x y : UInt16) : Prop :=
  x ≠ 0 ∧ (65536 ≤ y.toNat + tolerance.toNat → x.toNat + 65536 ≤ y.toNat + tolerance.toNat)

def Separated (tolerance : UInt16) (pool : List Outbound) : Prop :=
  ∀ a ∈ pool, ∀ b ∈ pool, a ≠ b → ∀ x y, Candidate v network a x → Candidate v network b y →
    Comparable tolerance x y

/-- An outbound is compared with those before it in the list and with the current selection. -/
def InTurn (g : URLTest) : Prop :=
  ∀ before b after, g.outbounds = before ++ b :: after →
    ∀ a, a ∈ before ∨ g.selectedOn network = some a → a ≠ b →
      ∀ x y, Candidate v network a x → Candidate v network b y → Comparable g.tolerance x y

variable {v : View} {network : Network} {g : URLTest} {pool : List Outbound} {tolerance d e : UInt16}
  {best : UInt16 × Option Outbound} {detour out : Outbound}

lemma selectStep_candidate (h : Candidate v network detour d) :
    selectStep v tolerance network best detour =
      if best.1 = 0 ∨ d + tolerance < best.1 then (d, some detour) else best := by
  rw [selectStep, if_pos h.supports, h.delay]

lemma selectStep_other (h : ∀ d, ¬ Candidate v network detour d) :
    selectStep v tolerance network best detour = best := by
  rw [selectStep]
  split_ifs with hsupports
  · cases hd : v.delayOf detour with
    | none => rfl
    | some d => exact absurd ⟨hsupports, hd⟩ (h d)
  · rfl

lemma lt_iff_wraps (d t e : UInt16) :
    d + t < e ↔ d.toNat + t.toNat < e.toNat ∨
      65536 ≤ d.toNat + t.toNat ∧ d.toNat + t.toNat < e.toNat + 65536 := by
  rw [UInt16.lt_iff_toNat_lt, UInt16.toNat_add]
  have hd := d.toNat_lt
  have ht := t.toNat_lt
  omega

inductive Settled (v : View) (network : Network) (g : URLTest) (seen : List Outbound) :
    UInt16 × Option Outbound → Prop where
  | nothing (hseen : ∀ other ∈ seen, ∀ d, ¬ Candidate v network other d)
      (hcurrent : ∀ cur, g.selectedOn network = some cur → v.delayOf cur = none) :
      Settled v network g seen (0, none)
  | found {out : Outbound} {e : UInt16} (hheld : out ∈ seen ∨ g.selectedOn network = some out) (hout : Candidate v network out e)
      (hleast : ∀ other ∈ seen, ∀ d, Candidate v network other d →
        e.toNat ≤ d.toNat + g.tolerance.toNat)
      (hkeeps : ∀ cur x, g.selectedOn network = some cur → v.delayOf cur = some x →
        out = cur ∨ ∃ other ∈ g.outbounds, ∃ d, Candidate v network other d ∧
          d.toNat + g.tolerance.toNat < x.toNat) :
      Settled v network g seen (e, some out)

lemma settled_current (hg : Selectable v network g) : Settled v network g [] (g.current v network) := by
  rw [current]
  split
  · rename_i hnone
    refine .nothing (by simp) ?_
    intro cur hcur
    rw [hnone] at hcur
    cases hcur
  · rename_i cur hcur
    have hsupports := (hg cur hcur).2
    have hunique : ∀ cur', g.selectedOn network = some cur' → cur' = cur := by
      intro cur' hcur'
      rw [hcur] at hcur'
      exact (Option.some.inj hcur').symm
    cases hd : v.delayOf cur with
    | none =>
      refine .nothing (by simp) ?_
      intro cur' hcur'
      rw [hunique cur' hcur', hd]
    | some x =>
      refine .found (.inr hcur) ⟨hsupports, hd⟩ (by simp) ?_
      intro cur' x' hcur' _
      exact .inl (hunique cur' hcur').symm

variable {a b : Outbound} {x y : UInt16}

lemma lt_of_takes (hsep : Comparable tolerance x y) (h : x = 0 ∨ y + tolerance < x) :
    y.toNat + tolerance.toNat < x.toNat := by
  have hlt := h.resolve_left hsep.1
  rw [lt_iff_wraps] at hlt
  have hwraps := hsep.2
  omega

variable {seen after : List Outbound}

lemma Settled.step (hturn : InTurn v network g) (h : Settled v network g seen best)
    (hsplit : g.outbounds = seen ++ detour :: after) :
    Settled v network g (seen ++ [detour]) (selectStep v g.tolerance network best detour) := by
  by_cases hcandidate : ∃ d, Candidate v network detour d
  swap
  · rw [selectStep_other fun d hd => hcandidate ⟨d, hd⟩]
    have hno : ∀ d, ¬ Candidate v network detour d := fun d hd => hcandidate ⟨d, hd⟩
    cases h with
    | nothing hseen hcurrent =>
      refine .nothing (forall_mem_append.2 ⟨hseen, ?_⟩) hcurrent
      simpa using hno
    | found hheld hout hleast hkeeps =>
      refine .found (hheld.imp_left (mem_append_left _)) hout (forall_mem_append.2 ⟨hleast, ?_⟩) hkeeps
      intro other hother d hd
      rw [mem_singleton] at hother
      subst hother
      exact absurd hd (hno d)
  obtain ⟨d, hd⟩ := hcandidate
  have hunique : ∀ d', Candidate v network detour d' → d' = d := by
    intro d' hd'
    have heq := hd.delay.symm.trans hd'.delay
    exact (Option.some.inj heq).symm
  have hlast : ∀ e : UInt16, e.toNat ≤ d.toNat + g.tolerance.toNat →
      ∀ other ∈ [detour], ∀ d', Candidate v network other d' →
        e.toNat ≤ d'.toNat + g.tolerance.toNat := by
    intro e he other hother d' hd'
    rw [mem_singleton] at hother
    subst hother
    rwa [hunique d' hd']
  have hdetour : detour ∈ g.outbounds := hsplit ▸ mem_append_right _ mem_cons_self
  have hheld' : detour ∈ seen ++ [detour] := mem_append_right _ (mem_singleton_self _)
  rw [selectStep_candidate hd]
  cases h with
  | nothing hseen hcurrent =>
    refine .found (.inl hheld') hd (forall_mem_append.2 ⟨fun other ho d' hd' => absurd hd' (hseen other ho d'),
      hlast d (Nat.le_add_right _ _)⟩) ?_
    intro cur x hcur hx
    rw [hcurrent cur hcur] at hx
    cases hx
  | @found out e hheld hout hleast hkeeps =>
    by_cases htakes : e = 0 ∨ d + g.tolerance < e
    · rw [if_pos htakes]
      by_cases hsame : out = detour
      · subst hsame
        obtain rfl : e = d := hunique e hout
        exact .found (.inl hheld') hd (forall_mem_append.2 ⟨hleast, hlast e (Nat.le_add_right _ _)⟩) hkeeps
      · have hlt := lt_of_takes (hturn seen detour after hsplit out hheld hsame e d hout hd) htakes
        refine .found (.inl hheld') hd (forall_mem_append.2 ⟨?_, hlast d (Nat.le_add_right _ _)⟩) ?_
        · intro other hother d' hd'
          have := hleast other hother d' hd'
          omega
        · intro cur x hcur hx
          rcases hkeeps cur x hcur hx with rfl | hbetter
          · have heq := hout.delay.symm.trans hx
            cases heq
            exact .inr ⟨detour, hdetour, d, hd, hlt⟩
          · exact .inr hbetter
    · rw [if_neg htakes]
      refine .found (hheld.imp_left (mem_append_left _)) hout (forall_mem_append.2 ⟨hleast, hlast e ?_⟩) hkeeps
      rw [lt_iff_wraps] at htakes
      omega

lemma settled_foldl (hturn : InTurn v network g) {outs : List Outbound} (hsplit : g.outbounds = seen ++ outs)
    (h : Settled v network g seen best) :
    Settled v network g (seen ++ outs) (outs.foldl (selectStep v g.tolerance network) best) := by
  induction outs generalizing seen best with
  | nil => rwa [append_nil]
  | cons detour outs ih =>
    rw [append_cons]
    exact ih (by rw [hsplit, append_cons]) (h.step hturn hsplit)

lemma select_of_found
    (h : (g.outbounds.foldl (selectStep v g.tolerance network) (g.current v network)).2 = some out) :
    g.select v network = (some out, true) := by
  rw [select, h]

lemma select_of_nothing
    (h : (g.outbounds.foldl (selectStep v g.tolerance network) (g.current v network)).2 = none) :
    (g.select v network).2 = false := by
  rw [select, h]

lemma optimal_of_inTurn (hturn : InTurn v network g) (hg : Selectable v network g) : Optimal v network g := by
  have hfinal := settled_foldl hturn (nil_append _).symm (settled_current hg)
  generalize hbest : g.outbounds.foldl (selectStep v g.tolerance network) (g.current v network) = best
    at hfinal
  cases hfinal with
  | nothing hseen hcurrent =>
    refine ⟨fun out hout => ?_, fun out x hcur hx => ?_⟩
    · have hfalse := select_of_nothing (congrArg Prod.snd hbest)
      rw [hout] at hfalse
      cases hfalse
    · rw [hcurrent out hcur] at hx
      cases hx
  | found hheld hout hleast hkeeps =>
    have hselect := select_of_found (congrArg Prod.snd hbest)
    refine ⟨fun out hsel => ?_, fun cur x hcur hx => ?_⟩
    · rw [hselect] at hsel
      cases hsel
      exact ⟨_, hout, hleast⟩
    · rcases hkeeps cur x hcur hx with rfl | hbetter
      · exact .inl hselect
      · exact .inr hbetter

def pair (network : Network) (tolerance : UInt16) (a b : Outbound) : URLTest :=
  ({ id := 0, tag := "", tolerance, outbounds := [a, b] } : URLTest).choose a network

lemma select_pair (hx : Candidate v network a x) (hy : Candidate v network b y)
    (h : x = 0 ∨ y + tolerance < x) :
    (pair network tolerance a b).select v network = (some b, true) := by
  have hcurrent : (pair network tolerance a b).current v network = (x, some a) := by
    rw [current, pair, choose_selectedOn]
    dsimp only
    rw [hx.delay]
  have hfirst : selectStep v tolerance network (x, some a) a = (x, some a) := by
    rw [selectStep_candidate hx, ite_self]
  have hsecond : selectStep v tolerance network (x, some a) b = (y, some b) := by
    rw [selectStep_candidate hy, if_pos h]
  apply select_of_found
  rw [hcurrent, pair, choose_outbounds, choose_tolerance, foldl_cons, hfirst, foldl_cons,
    hsecond, foldl_nil]

lemma Separated.inTurn (hsep : Separated v network g.tolerance pool) (hpool : ∀ out ∈ g.outbounds, out ∈ pool)
    (hg : Selectable v network g) : InTurn v network g := by
  intro before b after hsplit a ha hne x y
  have hmem : a ∈ g.outbounds := by
    rcases ha with ha | ha
    · exact hsplit ▸ mem_append_left _ ha
    · exact (hg a ha).1
  exact hsep a (hpool a hmem) b (hpool b (hsplit ▸ mem_append_right _ mem_cons_self)) hne x y

def outboundA : Outbound := { id := 1, tag := "a", type := .direct }

def outboundB : Outbound := { id := 2, tag := "b", type := .direct }

def twoDelays (a b : UInt16) : View where
  supports out network := out.network.contains network
  realTag out := out.tag
  delay tag := if tag = "a" then some a else if tag = "b" then some b else none

end SingBox.Groups.URLTest
