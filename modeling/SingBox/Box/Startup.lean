import SingBox.Adapter.Outbound
import SingBox.Lib.Errors
import SingBox.Lib.Table

namespace SingBox.Startup

open Adapter Lib.Errors

structure Provider where
  tag : String
  outbounds : List Outbound
  outboundByTag : String → Option Outbound := fun _ => none

def Provider.updateOutboundByTag (p : Provider) : Provider :=
  { p with outboundByTag := Lib.Table.fill Outbound.tag p.outbounds }

inductive Event where
  | provider (i j : ℕ)
  | static (tag : String)
  deriving DecidableEq, Repr

abbrev TagCount := String → Option ℕ

def providerTag (i : ℕ) (p : Provider) : String :=
  if p.tag = "" then toString i else p.tag

def defaultTag (pTag : String) (j : ℕ) (tag : String) : String :=
  if tag = "" then "[" ++ pTag ++ "]" ++ toString j else tag

def claimTag (outboundTag : TagCount) (tag : String) : String × TagCount :=
  match outboundTag tag with
  | some n =>
    let count := n + 1
    let tag := tag ++ "[" ++ toString count ++ "]"
    -- the counter is stored under the new tag and overwritten at once, as in the source
    (tag, Function.update (Function.update outboundTag tag (some count)) tag (some 0))
  | none => (tag, Function.update outboundTag tag (some 0))

structure Pass where
  outbounds : List Outbound
  outboundTag : TagCount
  log : List Event
  err : Option String

def startEach (pTag : String) (i : ℕ) : ℕ → TagCount → List Outbound → Pass
  | _, outboundTag, [] => ⟨[], outboundTag, [], none⟩
  | j, outboundTag, out :: rest =>
    let claimed := claimTag outboundTag (defaultTag pTag j out.tag)
    match out.start.error? with
    | some err =>
      ⟨out.setTag claimed.1 :: rest, claimed.2, [], some (cause err ("initialize outbound provider[" ++
        pTag ++ "] outbound/" ++ out.type.name ++ "[" ++ claimed.1 ++ "]"))⟩
    | none =>
      let next := startEach pTag i (j + 1) claimed.2 rest
      ⟨out.setTag claimed.1 :: next.outbounds, next.outboundTag, .provider i j :: next.log, next.err⟩

structure ProviderRun where
  providers : List Provider
  log : List Event
  err : Option String

def startProviders : ℕ → TagCount → List Provider → ProviderRun
  | _, _, [] => ⟨[], [], none⟩
  | i, outboundTag, p :: rest =>
    let pass := startEach (providerTag i p) i 0 outboundTag p.outbounds
    match pass.err with
    | some err => ⟨{ p with outbounds := pass.outbounds } :: rest, pass.log, some err⟩
    | none =>
      let next := startProviders (i + 1) pass.outboundTag rest
      ⟨({ p with outbounds := pass.outbounds } : Provider).updateOutboundByTag :: next.providers,
        pass.log ++ next.log, next.err⟩

def staticTags (outbounds : List Outbound) : TagCount :=
  fun tag => if tag ∈ outbounds.map Outbound.tag then some 0 else none

def startProviderOutbounds (outbounds : List Outbound) (providers : List Provider) : ProviderRun :=
  startProviders 0 (staticTags outbounds) providers

def assignTag (i : ℕ) (out : Outbound) : Outbound :=
  if out.tag = "" then out.setTag (toString i) else out

def assignTags : ℕ → List String → List Outbound → List Outbound × Option String
  | _, _, [] => ([], none)
  | i, seen, out :: rest =>
    let out := assignTag i out
    if out.tag ∈ seen then (out :: rest, some ("outbound tag " ++ out.tag ++ " duplicated"))
    else
      let next := assignTags (i + 1) (out.tag :: seen) rest
      (out :: next.1, next.2)

structure Sweep where
  started : List String
  canContinue : Bool
  err : Option String

def startOne : List Outbound → List String → Bool → Sweep
  | [], started, canContinue => ⟨started, canContinue, none⟩
  | out :: rest, started, canContinue =>
    if out.tag ∈ started then startOne rest started canContinue
    else if ∀ dependency ∈ out.dependencies, dependency ∈ started then
      match out.start.error? with
      | some err => ⟨started ++ [out.tag], true, some (cause err ("initialize outbound/" ++
          out.type.name ++ "[" ++ out.tag ++ "]"))⟩
      | none => startOne rest (started ++ [out.tag]) true
    else startOne rest started canContinue

/-- How a call ends: `running` stands for a computation that has used up its fuel. -/
inductive Exit where
  | returned (err : Option String)
  | panicked
  | running
  deriving DecidableEq, Repr

def lintOutbound (outbounds : List Outbound) (started : List String) :
    ℕ → List String → Outbound → Exit
  | 0, _, _ => .running
  | fuel + 1, oTree, oCurrent =>
    let problemOutboundTag := (oCurrent.dependencies.find? (fun it => it ∉ started)).getD ""
    if problemOutboundTag ∈ oTree then
      .returned (some ("circular outbound dependency: " ++ " -> ".intercalate oTree ++ " -> " ++
        problemOutboundTag))
    else
      match Lib.Table.fill Outbound.tag outbounds problemOutboundTag with
      | none => .returned (some ("dependency[" ++ problemOutboundTag ++ "] not found for outbound[" ++
          oCurrent.tag ++ "]"))
      | some problemOutbound =>
        lintOutbound outbounds started fuel (oTree ++ [problemOutboundTag]) problemOutbound

def startLoop (outbounds : List Outbound) : ℕ → List String → List String × Exit
  | 0, started => (started, .running)
  | fuel + 1, started =>
    let sweep := startOne outbounds started false
    match sweep.err with
    | some err => (sweep.started, .returned (some err))
    | none =>
      if sweep.started.length = outbounds.length then (sweep.started, .returned none)
      else if sweep.canContinue then startLoop outbounds fuel sweep.started
      else
        match outbounds.find? (fun it => it.tag ∉ sweep.started) with
        | none => (sweep.started, .panicked)
        | some currentOutbound =>
          (sweep.started, lintOutbound outbounds sweep.started (outbounds.length + 1)
            [currentOutbound.tag] currentOutbound)

structure Box where
  outbounds : List Outbound
  providers : List Provider

structure Outcome where
  box : Box
  log : List Event
  exit : Exit

def Box.startOutbounds (s : Box) : Outcome :=
  let tagged := assignTags 0 [] s.outbounds
  match tagged.2 with
  | some err => ⟨⟨tagged.1, s.providers⟩, [], .returned (some err)⟩
  | none =>
    let run := startProviderOutbounds tagged.1 s.providers
    match run.err with
    -- the provider error is dropped here: the source returns nil
    | some _ => ⟨⟨tagged.1, run.providers⟩, run.log, .returned none⟩
    | none =>
      let loop := startLoop tagged.1 (tagged.1.length + 1) []
      ⟨⟨tagged.1, run.providers⟩, run.log ++ loop.1.map .static, loop.2⟩

end SingBox.Startup
