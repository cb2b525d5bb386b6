import SingBox.Box.Startup
import SingBox.Outbound.Selector
import SingBox.Outbound.URLTest

namespace SingBox.Groups

open Adapter

inductive Group where
  | selector (s : Selector)
  | urlTest (g : URLTest)

namespace Group

def adapter : Group → GroupAdapter
  | selector s => s.toGroupAdapter
  | urlTest g => g.toGroupAdapter

def id (g : Group) : ℕ := g.adapter.id

def outbounds : Group → List Outbound
  | selector s => s.outbounds
  | urlTest g => g.outbounds

def now : Group → String
  | selector s => s.now
  | urlTest g => g.now

def Consistent : Group → Prop
  | selector s => ∀ out, s.selected = some out → out ∈ s.outbounds
  | urlTest g => g.Consistent

end Group

/-- The delay histories are numbered: groups and providers may share one or have their own. -/
structure State where
  outboundByTag : String → Option Outbound
  outboundless : Outbound
  providers : List Startup.Provider
  groups : List Group
  histories : ℕ → String → Option UInt16
  clashServer : Option ℕ := none
  cacheFile : Option CacheFile := none

namespace State

variable (s : State)

def lookup : Lookup where
  outbound := s.outboundByTag
  outboundless := s.outboundless
  providerTags := s.providers.map Startup.Provider.tag
  provider tag := (Lib.Table.fill Startup.Provider.tag s.providers tag).map Startup.Provider.outbounds

def find (id : ℕ) : Option Group := s.groups.find? fun g => g.id == id

def put (g : Group) : State :=
  { s with groups := s.groups.map fun h => if h.id = g.id then g else h }

def groupOf (out : Outbound) : Option Group := if isGroup out then s.find out.id else none

/-- `Network()`. A selector answers for its selection; selections nest no deeper than there are
groups. -/
def network : ℕ → Outbound → List Network
  | 0, _ => []
  | depth + 1, out => match s.groupOf out with
    | none => out.network
    | some (.urlTest _) => [.tcp, .udp]
    | some (.selector sel) => match sel.selected with
      | none => [.tcp, .udp]
      | some out => network depth out

def realTag (out : Outbound) : String :=
  match s.groupOf out with
  | none => out.tag
  | some g => g.now

def view (history : ℕ) : View where
  supports out network := (s.network (s.groups.length + 1) out).contains network
  realTag := s.realTag
  delay := s.histories history

def viewAs (g : URLTest) : View := (s.put (.urlTest g)).view g.history

def updateOutbounds (tag : String) : Group → Except String Group
  | .selector sel => do
    let sel ← sel.updateOutbounds s.lookup s.cacheFile tag
    return .selector sel
  | .urlTest g => do
    let g ← g.updateOutbounds s.lookup s.viewAs tag
    return .urlTest g

end State

/-- The end of `UpdateSelected`, once neither the selection nor a selector in its place has a
recorded delay. No value stands for a panic. -/
def fallBack (storage id : ℕ) (s : State) : Option (Bool × State) :=
  match s.find id with
  | some (.selector sel) => do
    let (detour, ok) ← sel.getMinDelayDetour fun out => s.histories storage (s.realTag out)
    if ok then
      let (sel, cacheFile) := sel.setSelected s.cacheFile detour
      return (true, { s.put (.selector sel) with cacheFile })
    else return (false, s)
  | _ => none

def updateSelected : ℕ → ℕ → String → State → Option (Bool × State)
  | 0, _, _, _ => none
  | depth + 1, id, tag, s => match s.find id with
    | some (.selector sel) =>
      if !sel.fallbackByDelayTest || (tag != "" && !sel.providers.contains tag) then some (false, s)
      else match sel.selected with
        | none => none
        | some last =>
          if last.type == .dns || last.type == .direct || last.type == .block then some (true, s)
          else match s.clashServer with
            | none => none
            | some storage =>
              if (s.histories storage (s.realTag last)).isSome then some (true, s)
              else
                (if last.type == .selector then updateSelected depth last.id "" s
                  else some (false, s)).bind fun nested =>
                    if nested.1 then some nested else fallBack storage id nested.2
    | _ => none

/-- The calls, each of them one step; a hot update, a URL test or a failed dial is a sequence of them,
interleaved with others in any way. -/
inductive Event where
  | installOutbounds (provider : String) (outbounds : List Outbound)
  | updateOutbounds (group : ℕ) (provider : String)
  | recordDelay (storage : ℕ) (tag : String) (delay : Option UInt16)
  | performUpdateCheck (group : ℕ) (provider : String) (force : Bool)
  | updateSelected (group : ℕ) (provider : String)
  | selectOutbound (group : ℕ) (tag : String)

namespace State

/-- Providers never create groups, and an update that fails leaves the group as it was. -/
def step (s : State) : Event → Option State
  | .installOutbounds provider outbounds =>
    if outbounds.any isGroup then none
    else some { s with
      providers := s.providers.map fun p => if p.tag = provider then { p with outbounds } else p }
  | .updateOutbounds group provider =>
    (s.find group).map fun g => match s.updateOutbounds provider g with
      | .ok g => s.put g
      | .error _ => s
  | .recordDelay storage tag delay =>
    some { s with
      histories := Function.update s.histories storage
        (Function.update (s.histories storage) tag delay) }
  | .performUpdateCheck group provider force => match s.find group with
    | some (.urlTest g) =>
      if g.providers.contains provider || force then
        some (s.put (.urlTest (g.performUpdateCheck s.viewAs)))
      else some s
    | _ => none
  | .updateSelected group provider =>
    (updateSelected (s.groups.length + 1) group provider s).map Prod.snd
  | .selectOutbound group tag => match s.find group with
    | some (.selector sel) =>
      let (_, sel, cacheFile) := sel.selectOutbound s.cacheFile tag
      some { s.put (.selector sel) with cacheFile }
    | _ => none

end State

end SingBox.Groups
