import SingBox.Lib.Runs
import SingBox.Route.Context

namespace SingBox.Loopback

open Function List

open Route (IPAddr)
open Lib.Runs

structure AddrPort where
  addr : Option IPAddr
  port : UInt16
  deriving DecidableEq

structure Router where
  isLoopback : IPAddr → Bool
  interfaceByAddr : IPAddr → Bool
  isPublicAddr : IPAddr → Bool

structure Detector where
  connMap : AddrPort → Option AddrPort := fun _ => none
  packetConnMap : UInt16 → Option UInt16 := fun _ => none

inductive Wrapper where
  | conn (connAddr : AddrPort)
  | udpConn (connPort : UInt16)
  | packetConn (connPort : UInt16)

variable (r : Router)

def isLocal (a : IPAddr) : Bool := r.isLoopback a || r.interfaceByAddr a

def registerPacketConn (source port : UInt16) (l : Detector) : Detector :=
  { l with packetConnMap := update l.packetConnMap source (some port) }

def newConn (isUDPConn : Bool) (source remote : AddrPort) (l : Detector) : Option Wrapper × Detector :=
  match source.addr with
  | none => (none, l)
  | some a =>
    if isUDPConn then
      if !isLocal r a then (none, l)
      else if !r.isPublicAddr a then (none, l)
      else (some (.udpConn source.port), registerPacketConn source.port remote.port l)
    else (some (.conn source), { l with connMap := update l.connMap source (some remote) })

def newPacketConn (source destination : AddrPort) (l : Detector) : Option Wrapper × Detector :=
  match source.addr with
  | none => (none, l)
  | some a =>
    if !isLocal r a then (none, l)
    else (some (.packetConn source.port), registerPacketConn source.port destination.port l)

def checkConn (source here : AddrPort) (l : Detector) : Bool :=
  (l.connMap source).any (· != here)

def checkPacketConn (source here : AddrPort) (l : Detector) : Bool :=
  match source.addr with
  | none => false
  | some a =>
    isLocal r a && !r.isPublicAddr a && (l.packetConnMap source.port).any (· != here.port)

def Wrapper.close (l : Detector) : Wrapper → Detector
  | .conn connAddr => { l with connMap := update l.connMap connAddr none }
  | .udpConn connPort => { l with packetConnMap := update l.packetConnMap connPort none }
  | .packetConn connPort => { l with packetConnMap := update l.packetConnMap connPort none }

structure Handle where
  wrapper : Option Wrapper
  source : AddrPort
  remotePort : UInt16
  closed : Bool := false

def Handle.watched (h : Handle) : Option UInt16 :=
  if h.closed then none
  else match h.wrapper with
    | some (.udpConn port) | some (.packetConn port) => some port
    | _ => none

structure System where
  detector : Detector := {}
  handles : List Handle := []

inductive Event where
  | newConn (isUDPConn : Bool) (source remote : AddrPort)
  | newPacketConn (source destination : AddrPort)
  | close (i : ℕ)

def opened (result : Option Wrapper × Detector) (source : AddrPort) (remotePort : UInt16) (s : System) :
    System :=
  { detector := result.2, handles := s.handles ++ [{ wrapper := result.1, source, remotePort }] }

def closeHandle (i : ℕ) (h : Handle) (s : System) : System :=
  { detector := if h.closed then s.detector else (h.wrapper.map (·.close s.detector)).getD s.detector
    handles := s.handles.set i { h with closed := true } }

def step (r : Router) (s : System) : Event → Option System
  | .newConn isUDPConn source remote =>
    some (opened (newConn r isUDPConn source remote s.detector) source remote.port s)
  | .newPacketConn source destination =>
    some (opened (newPacketConn r source destination s.detector) source destination.port s)
  | .close i => s.handles[i]?.map fun h => closeHandle i h s

variable {r : Router} {s s' : System}

def Detects (r : Router) (s : System) : Prop :=
  ∀ h ∈ s.handles, h.watched.isSome → ∀ here : AddrPort, here.port ≠ h.remotePort →
    checkPacketConn r h.source here s.detector = true

def Undisturbed (r : Router) (s : System) : Event → Prop
  | .newConn isUDPConn source _ =>
    ∀ a, source.addr = some a → isUDPConn = true → isLocal r a = true → r.isPublicAddr a = false
  | .newPacketConn source destination =>
    ∀ a, source.addr = some a → isLocal r a = true →
      r.isPublicAddr a = false ∧
        ∀ h ∈ s.handles, h.watched = some source.port → h.remotePort = destination.port
  | .close i => ∀ h port, s.handles[i]? = some h → h.watched = some port →
      ∀ j h', j ≠ i → s.handles[j]? = some h' → h'.watched ≠ some port

variable {source remote : AddrPort} {l : Detector} {isUDPConn : Bool}

variable (r isUDPConn source remote l) in
lemma newConn_cases :
    (newConn r isUDPConn source remote l = (none, l) ∧
      ∀ a, source.addr = some a → isUDPConn = true → isLocal r a = true → r.isPublicAddr a = false) ∨
    (isUDPConn = false ∧ newConn r isUDPConn source remote l =
      (some (.conn source), { l with connMap := update l.connMap source (some remote) })) ∨
    ∃ a, source.addr = some a ∧ isUDPConn = true ∧ isLocal r a = true ∧ r.isPublicAddr a = true ∧
      newConn r isUDPConn source remote l =
        (some (.udpConn source.port), registerPacketConn source.port remote.port l) := by
  unfold newConn
  cases hsource : source.addr with
  | none => exact .inl ⟨rfl, by simp⟩
  | some a =>
    cases isUDPConn with
    | false => exact .inr (.inl ⟨rfl, rfl⟩)
    | true =>
      cases hlocal : isLocal r a with
      | false => exact .inl ⟨by simp [hlocal], by simp [hlocal]⟩
      | true =>
        cases hpublic : r.isPublicAddr a with
        | false => exact .inl ⟨by simp [hlocal, hpublic], by simp [hpublic]⟩
        | true => exact .inr (.inr ⟨a, rfl, rfl, hlocal, hpublic, by simp [hlocal, hpublic]⟩)

variable (r source remote l) in
lemma newPacketConn_cases :
    (newPacketConn r source remote l = (none, l) ∧ ∀ a, source.addr = some a → isLocal r a = false) ∨
    ∃ a, source.addr = some a ∧ isLocal r a = true ∧
      newPacketConn r source remote l =
        (some (.packetConn source.port), registerPacketConn source.port remote.port l) := by
  unfold newPacketConn
  cases hsource : source.addr with
  | none => exact .inl ⟨rfl, by simp⟩
  | some a =>
    cases hlocal : isLocal r a with
    | false => exact .inl ⟨by simp [hlocal], by simp [hlocal]⟩
    | true => exact .inr ⟨a, rfl, hlocal, by simp [hlocal]⟩

variable {h : Handle} {port : UInt16}

lemma closeHandle_of_watched (hw : h.watched = some port) (i : ℕ) :
    (closeHandle i h s).detector.packetConnMap = update s.detector.packetConnMap port none := by
  obtain ⟨wrapper, source, remotePort, closed⟩ := h
  cases closed with
  | true => cases hw
  | false =>
    cases wrapper with
    | none => cases hw
    | some wrapper =>
      cases wrapper with
      | conn connAddr => cases hw
      | udpConn connPort =>
        cases hw
        rfl
      | packetConn connPort =>
        cases hw
        rfl

lemma closeHandle_of_unwatched (hw : h.watched = none) (i : ℕ) :
    (closeHandle i h s).detector.packetConnMap = s.detector.packetConnMap := by
  obtain ⟨wrapper, source, remotePort, closed⟩ := h
  cases closed with
  | true => rfl
  | false =>
    cases wrapper with
    | none => rfl
    | some wrapper =>
      cases wrapper with
      | conn connAddr => rfl
      | udpConn connPort => cases hw
      | packetConn connPort => cases hw

def Registered (r : Router) (s : System) : Prop :=
  ∀ h ∈ s.handles, ∀ port, h.watched = some port →
    h.source.port = port ∧ ∃ a, h.source.addr = some a ∧ isLocal r a = true

def Entered (r : Router) (s : System) : Prop :=
  ∀ h ∈ s.handles, ∀ port, h.watched = some port →
    (∀ a, h.source.addr = some a → r.isPublicAddr a = false) ∧
      s.detector.packetConnMap port = some h.remotePort

lemma checkPacketConn_iff {here : AddrPort} : checkPacketConn r source here l = true ↔
      ∃ a, source.addr = some a ∧ isLocal r a = true ∧ r.isPublicAddr a = false ∧
        ∃ port, l.packetConnMap source.port = some port ∧ port ≠ here.port := by
  unfold checkPacketConn
  cases source.addr with
  | none => simp
  | some a => simp [and_assoc, Option.any_eq_true]

lemma detects_iff (hr : Registered r s) : Detects r s ↔ Entered r s := by
  constructor
  · intro hd h hh port hw
    have hcheck := hd h hh (by rw [hw]; rfl)
    obtain ⟨hport, a, ha, -⟩ := hr h hh port hw
    -- a port that differs from the registered one shows what the table holds
    obtain ⟨a', ha', -, hpublic, d, hd', -⟩ :=
      checkPacketConn_iff.1 (hcheck ⟨none, h.remotePort + 1⟩ (by simp))
    have hsame : d = h.remotePort := by
      by_contra hne
      obtain ⟨-, -, -, -, d', hd'', hne'⟩ := checkPacketConn_iff.1 (hcheck ⟨none, d⟩ hne)
      rw [hd', Option.some.injEq] at hd''
      exact hne' hd''.symm
    rw [← hport, hd', hsame]
    refine ⟨fun b hb => ?_, rfl⟩
    rw [ha', Option.some.injEq] at hb
    rw [← hb, hpublic]
  · intro he h hh hw here hne
    obtain ⟨port, hw⟩ := Option.isSome_iff_exists.1 hw
    obtain ⟨rfl, a, ha, hlocal⟩ := hr h hh port hw
    obtain ⟨hpublic, htable⟩ := he h hh _ hw
    exact checkPacketConn_iff.2 ⟨a, ha, hlocal, hpublic a ha, h.remotePort, htable, hne.symm⟩

variable {h₀ : Handle}

lemma entered_append_unwatched (hw : h₀.watched = none)
    (hl : l.packetConnMap = s.detector.packetConnMap) (he : Entered r s) :
    Entered r ⟨l, s.handles ++ [h₀]⟩ := by
  intro h hh port hport
  rcases mem_append.1 hh with hh | hh
  · obtain ⟨hpublic, htable⟩ := he h hh port hport
    exact ⟨hpublic, hl ▸ htable⟩
  · rw [mem_singleton.1 hh, hw] at hport
    cases hport

lemma entered_append_watched (hw : h₀.watched = some port)
    (hl : l.packetConnMap = update s.detector.packetConnMap port (some h₀.remotePort))
    (he : Entered r s) : Entered r ⟨l, s.handles ++ [h₀]⟩ ↔
      (∀ a, h₀.source.addr = some a → r.isPublicAddr a = false) ∧
        ∀ h ∈ s.handles, h.watched = some port → h.remotePort = h₀.remotePort := by
  have hself : l.packetConnMap port = some h₀.remotePort := by rw [hl, update_self]
  constructor
  · intro he'
    refine ⟨(he' h₀ (by simp) port hw).1, fun h hh hport => ?_⟩
    have htable := (he' h (mem_append_left _ hh) port hport).2
    rw [hself, Option.some.injEq] at htable
    exact htable.symm
  · rintro ⟨hpublic, hsame⟩ h hh q hq
    rcases mem_append.1 hh with hh | hh
    · refine ⟨(he h hh q hq).1, ?_⟩
      by_cases hqp : q = port
      · subst hqp
        rw [hself, hsame h hh hq]
      · exact (congrFun hl q).trans ((update_of_ne hqp _ _).trans (he h hh q hq).2)
    · rw [mem_singleton.1 hh] at hq ⊢
      rw [hw, Option.some.injEq] at hq
      subst hq
      exact ⟨hpublic, hself⟩

lemma registered_append (hr : Registered r s) (h₀_ok : ∀ port, h₀.watched = some port →
    h₀.source.port = port ∧ ∃ a, h₀.source.addr = some a ∧ isLocal r a = true) :
    Registered r ⟨l, s.handles ++ [h₀]⟩ := by
  intro h hh
  rcases mem_append.1 hh with hh | hh
  · exact hr h hh
  · rw [mem_singleton.1 hh]
    exact h₀_ok

variable {i : ℕ}
  {j : ℕ}

lemma getElem?_closeHandle (hj : (closeHandle i h₀ s).handles[j]? = some h)
    (hw : h.watched = some port) : j ≠ i ∧ s.handles[j]? = some h := by
  rw [closeHandle, getElem?_set] at hj
  split_ifs at hj with hij
  · cases hj
    cases hw
  · exact ⟨.symm hij, hj⟩

lemma getElem?_closeHandle_of_ne (hj : j ≠ i) :
    (closeHandle i h₀ s).handles[j]? = s.handles[j]? := by
  rw [closeHandle, getElem?_set_ne hj.symm]

lemma registered_closeHandle (hr : Registered r s) : Registered r (closeHandle i h₀ s) := by
  intro h hh port hw
  obtain ⟨j, hj⟩ := mem_iff_getElem?.1 hh
  exact hr h (mem_of_getElem? (getElem?_closeHandle hj hw).2) port hw

lemma entered_closeHandle_iff (he : Entered r s) :
    Entered r (closeHandle i h₀ s) ↔ ∀ port, h₀.watched = some port →
      ∀ j h, j ≠ i → s.handles[j]? = some h → h.watched ≠ some port := by
  constructor
  · intro he' port hport j h hj hh hw
    have hmem : h ∈ (closeHandle i h₀ s).handles :=
      mem_of_getElem? ((getElem?_closeHandle_of_ne hj).trans hh)
    have htable := (he' h hmem port hw).2
    rw [closeHandle_of_watched hport, update_self] at htable
    cases htable
  · intro hother h hh q hq
    obtain ⟨j, hj⟩ := mem_iff_getElem?.1 hh
    obtain ⟨hji, hj⟩ := getElem?_closeHandle hj hq
    obtain ⟨hpublic, htable⟩ := he h (mem_of_getElem? hj) q hq
    refine ⟨hpublic, ?_⟩
    cases hport : h₀.watched with
    | none => rwa [closeHandle_of_unwatched hport]
    | some port =>
      have hne : q ≠ port := by
        rintro rfl
        exact hother q hport j h hji hj hq
      rwa [closeHandle_of_watched hport, update_of_ne hne]

variable {e : Event}

lemma registered_step (hr : Registered r s) (hstep : step r s e = some s') : Registered r s' := by
  cases e with
  | newConn isUDPConn source remote =>
    cases hstep
    rcases newConn_cases r source remote s.detector isUDPConn with ⟨heq, -⟩ | ⟨-, heq⟩ | ⟨a, ha, -, hlocal, -, heq⟩
    · rw [heq]
      exact registered_append hr (by simp [Handle.watched])
    · rw [heq]
      exact registered_append hr (by simp [Handle.watched])
    · rw [heq]
      refine registered_append hr fun port hport => ?_
      cases hport
      exact ⟨rfl, a, ha, hlocal⟩
  | newPacketConn source destination =>
    cases hstep
    rcases newPacketConn_cases r source destination s.detector with ⟨heq, -⟩ | ⟨a, ha, hlocal, heq⟩
    · rw [heq]
      exact registered_append hr (by simp [Handle.watched])
    · rw [heq]
      refine registered_append hr fun port hport => ?_
      cases hport
      exact ⟨rfl, a, ha, hlocal⟩
  | close i =>
    obtain ⟨h, -, rfl⟩ := Option.map_eq_some_iff.1 hstep
    exact registered_closeHandle hr

lemma entered_step_iff (he : Entered r s) (hstep : step r s e = some s') :
    Entered r s' ↔ Undisturbed r s e := by
  cases e with
  | newConn isUDPConn source remote =>
    cases hstep
    rcases newConn_cases r source remote s.detector isUDPConn with ⟨heq, hnot⟩ | ⟨hudp, heq⟩ |
      ⟨a, ha, hudp, hlocal, hpublic, heq⟩
    · rw [heq]
      exact iff_of_true (entered_append_unwatched rfl rfl he) hnot
    · rw [heq]
      refine iff_of_true (entered_append_unwatched rfl rfl he) fun _ _ h => ?_
      rw [hudp] at h
      cases h
    · -- what is registered here is public, and the check rejects public addresses
      rw [heq]
      refine iff_of_false (fun he' => ?_) fun h => ?_
      · have hnot := ((entered_append_watched rfl rfl he).1 he').1 a ha
        rw [hpublic] at hnot
        cases hnot
      · have hnot := h a ha hudp hlocal
        rw [hpublic] at hnot
        cases hnot
  | newPacketConn source destination =>
    cases hstep
    rcases newPacketConn_cases r source destination s.detector with ⟨heq, hnot⟩ | ⟨a, ha, hlocal, heq⟩
    · rw [heq]
      refine iff_of_true (entered_append_unwatched rfl rfl he) fun a ha hlocal => ?_
      rw [hnot a ha] at hlocal
      cases hlocal
    · rw [heq]
      refine (entered_append_watched rfl rfl he).trans ⟨?_, fun h => ?_⟩
      · rintro ⟨hpublic, hsame⟩ b hb -
        exact ⟨hpublic b hb, hsame⟩
      · refine ⟨fun b hb => ?_, (h a ha hlocal).2⟩
        obtain rfl : a = b := Option.some.inj (ha.symm.trans hb)
        exact (h a ha hlocal).1
  | close i =>
    obtain ⟨h, hh, rfl⟩ := Option.map_eq_some_iff.1 hstep
    refine (entered_closeHandle_iff he).trans ⟨fun hother h' port hh' => ?_, fun hother port => ?_⟩
    · obtain rfl : h = h' := Option.some.inj (hh.symm.trans hh')
      exact hother port
    · exact hother h port hh

theorem udp_loopback_detected_iff (r : Router) (es : List Event) :
    Always (step r) (Detects r) {} es ↔ Throughout (step r) (Undisturbed r) {} es := by
  have hinit : Registered r {} := by simp [Registered]
  refine always_iff_throughout (fun _ _ _ => registered_step) (fun s e s' hr hd hstep => ?_) hinit
    (by simp [Detects]) es
  rw [detects_iff (registered_step hr hstep)]
  exact entered_step_iff ((detects_iff hr).1 hd) hstep

def hostLoopback : AddrPort := ⟨some (.v4 0x7F000001#32), 1000⟩

def hostPrivate : AddrPort := ⟨some (.v4 0xC0A80102#32), 1000⟩

def hostPublic : AddrPort := ⟨some (.v4 0xC6336401#32), 1000⟩

def resolver : AddrPort := ⟨some (.v4 0x08080808#32), 53⟩

def hostRouter : Router where
  isLoopback a := hostLoopback.addr = some a
  interfaceByAddr a := hostPrivate.addr = some a ∨ hostPublic.addr = some a
  isPublicAddr a := hostPublic.addr = some a

theorem udp_loopback_undetected :
    ¬ Always (step hostRouter) (Detects hostRouter) {} [.newConn true hostPublic resolver] ∧
    ¬ Always (step hostRouter) (Detects hostRouter) {}
      [.newPacketConn hostLoopback resolver, .newPacketConn hostPrivate resolver, .close 0] := by
  constructor
  · intro h
    have hd := always_run h rfl ⟨some (.udpConn 1000), hostPublic, 53, false⟩
      (mem_of_getElem? (i := 0) rfl) rfl ⟨none, 0⟩ (by decide)
    revert hd
    decide
  · intro h
    have hd := always_run h rfl ⟨some (.packetConn 1000), hostPrivate, 53, false⟩
      (mem_of_getElem? (i := 1) rfl) rfl ⟨none, 0⟩ (by decide)
    revert hd
    decide

end SingBox.Loopback
