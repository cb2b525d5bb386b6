import SingBox.Adapter.Outbound
import SingBox.Lib.Errors
import SingBox.Lib.Table

namespace SingBox.Groups

open Adapter Lib.Errors

/-- Regular expressions stand for the texts they match; an empty port map accepts every port. -/
structure Filter where
  includes : List (String → Bool) := []
  excludes : Option (String → Bool) := none
  types : List String := []
  ports : List UInt16 := []

namespace Filter

def testIncludes (f : Filter) (tag : String) : Bool := f.includes.all fun regex => regex tag

def testExcludes (f : Filter) (tag : String) : Bool := f.excludes.all fun regex => !regex tag

def testTypes (f : Filter) (type : String) : Bool := f.types.isEmpty || f.types.contains type

def testPorts (f : Filter) (port : UInt16) : Bool :=
  port == 0 || f.ports.isEmpty || f.ports.contains port

def accepts (f : Filter) (tag type : String) (port : UInt16) : Bool :=
  f.testIncludes tag && f.testExcludes tag && f.testTypes type && f.testPorts port

def outboundFilter (f : Filter) (out : Outbound) : Bool := f.accepts out.tag out.type.name out.port

end Filter

/-- `providers` are the keys of the map that `pickOutbounds` fills while the group starts. -/
structure GroupAdapter where
  id : ℕ
  tag : String
  tags : List String := []
  uses : List String := []
  useAllProviders : Bool := false
  filter : Filter := {}
  providers : List String := []

/-- What a group asks of the router. The direct outbound `OUTBOUNDLESS` always exists. -/
structure Lookup where
  outbound : String → Option Outbound
  outboundless : Outbound
  providerTags : List String
  provider : String → Option (List Outbound)

def isGroup (out : Outbound) : Bool := out.type == .selector || out.type == .urlTest

variable (r : Lookup)

def pickTagged (tags : List String) : Except String (List Outbound) :=
  mapFrom (fun i tag => match r.outbound tag with
    | some detour => .ok detour
    | none => .error ("outbound " ++ toString i ++ " not found: " ++ tag)) 0 tags

def pickProvided (what : String) (filter : Filter) (uses : List String) :
    Except String (List Outbound) := do
  let lists ← mapFrom (fun i tag => match r.provider tag with
    | some outbounds => .ok (outbounds.filter filter.outboundFilter)
    | none => .error (what ++ " " ++ toString i ++ " not found: " ++ tag)) 0 uses
  return lists.flatten

def GroupAdapter.resolveUses (g : GroupAdapter) : List String :=
  if g.useAllProviders then r.providerTags else g.uses

def Pickable (tags : List String) (out : Outbound) : Prop :=
  (∃ tag ∈ tags, r.outbound tag = some out) ∨
    (∃ tag outbounds, r.provider tag = some outbounds ∧ out ∈ outbounds) ∨ out = r.outboundless

variable {r}

lemma mem_mapFrom {α β : Type} {f : ℕ → α → Except String β} {i : ℕ} {l : List α} {bs : List β}
    (h : mapFrom f i l = .ok bs) : ∀ b ∈ bs, ∃ j, ∃ a ∈ l, f j a = .ok b := by
  induction l generalizing i bs with
  | nil =>
    cases h
    exact fun b hb => absurd hb List.not_mem_nil
  | cons a l ih =>
    obtain ⟨b, hb, h⟩ := bind_eq_ok.1 h
    obtain ⟨rest, hrest, h⟩ := bind_eq_ok.1 h
    cases h
    intro c hc
    rcases List.mem_cons.1 hc with rfl | hc
    · exact ⟨i, a, List.mem_cons_self, hb⟩
    · obtain ⟨j, a', ha', hf⟩ := ih hrest c hc
      exact ⟨j, a', List.mem_cons_of_mem _ ha', hf⟩

variable {tags : List String} {outs : List Outbound}

lemma pickTagged_pickable (h : pickTagged r tags = .ok outs) :
    ∀ out ∈ outs, Pickable r tags out := by
  intro out hout
  obtain ⟨_, tag, htag, hf⟩ := mem_mapFrom h out hout
  refine .inl ⟨tag, htag, ?_⟩
  split at hf
  · cases hf
    assumption
  · cases hf

lemma pickProvided_pickable {what : String} {filter : Filter} {uses : List String}
    (h : pickProvided r what filter uses = .ok outs) : ∀ out ∈ outs, Pickable r tags out := by
  obtain ⟨lists, hlists, h⟩ := bind_eq_ok.1 h
  cases h
  intro out hout
  obtain ⟨list, hlist, hout⟩ := List.mem_flatten.1 hout
  obtain ⟨_, tag, _, hf⟩ := mem_mapFrom hlists list hlist
  split at hf
  · rename_i outbounds hprovider
    cases hf
    exact .inr (.inl ⟨tag, outbounds, hprovider, (List.mem_filter.1 hout).1⟩)
  · cases hf

end SingBox.Groups
