import SingBox.Trojan.Address

namespace SingBox.Trojan

open List Function

open Lib.Wire (Bytes putBigEndian)
open Lib.Stream

abbrev Key := { b : Bytes // b.length = KeyLength }

variable {K D : Type} (S : Serializer D)

structure Service (K : Type) where
  users : K → Option Key := fun _ => none
  keys : Key → Option K := fun _ => none
  fallbackHandler : Bool := true

section Users

variable [DecidableEq K] [ToString K]

def addUsers (keyOf : String → Key) (s : Service K) : List K → List String → Except Failure (Service K)
  | [], _ => .ok s
  | user :: userList, passwordList =>
    if (s.users user).isSome then .error (.error "user already exists")
    else match passwordList with
      | [] => .error .panic
      | password :: passwordList =>
        match s.keys (keyOf password) with
        | some oldUser => .error (.error
            (Lib.Errors.extend "user already exists" ("password used by " ++ toString oldUser)))
        | none =>
          addUsers keyOf
            { s with
              users := update s.users user (some (keyOf password))
              keys := update s.keys (keyOf password) (some user) } userList passwordList

def updateUsers (keyOf : String → Key) (s : Service K) (userList : List K) (passwordList : List String) :
    Except Failure (Service K) :=
  addUsers keyOf { fallbackHandler := s.fallbackHandler } userList passwordList

variable {keyOf : String → Key} {s s' : Service K} {userList : List K}
  {passwordList : List String}

lemma addUsers_cons {user : K} (h : addUsers keyOf s (user :: userList) passwordList = .ok s') :
    ∃ password rest, passwordList = password :: rest ∧ s.keys (keyOf password) = none ∧
      addUsers keyOf
        { s with
          users := update s.users user (some (keyOf password))
          keys := update s.keys (keyOf password) (some user) } userList rest = .ok s' := by
  unfold addUsers at h
  split_ifs at h
  cases passwordList with
  | nil => cases h
  | cons password rest =>
    dsimp only at h
    cases hfree : s.keys (keyOf password) with
    | some oldUser =>
      rw [hfree] at h
      cases h
    | none =>
      rw [hfree] at h
      exact ⟨password, rest, rfl, hfree, h⟩

lemma addUsers_keys (h : addUsers keyOf s userList passwordList = .ok s') :
    (∀ k user, s.keys k = some user → s'.keys k = some user) ∧
      ∀ user password, (user, password) ∈ userList.zip passwordList →
        s'.keys (keyOf password) = some user := by
  induction userList generalizing s passwordList with
  | nil =>
    cases h
    exact ⟨fun _ _ hk => hk, by simp⟩
  | cons user userList ih =>
    obtain ⟨password, rest, rfl, hfree, h⟩ := addUsers_cons h
    obtain ⟨hold, hnew⟩ := ih h
    refine ⟨fun k user' hk => hold k user' ?_, fun user' password' hmem => ?_⟩
    · have hne : k ≠ keyOf password := by
        rintro rfl
        rw [hfree] at hk
        cases hk
      exact (update_of_ne hne ..).trans hk
    · rw [zip_cons_cons, mem_cons, Prod.mk.injEq] at hmem
      rcases hmem with ⟨rfl, rfl⟩ | hmem
      · exact hold _ _ (update_self ..)
      · exact hnew user' password' hmem

end Users

inductive Handled (K D : Type) where
  | connection (user : K) (destination : D) (conn : Pieces)
  | packetConnection (user : K) (destination : D) (conn : Pieces)
  | muxConnection (user : K) (destination : D) (conn : Pieces)
  | fallback (conn : Pieces)
  | error (err : String)

def fallback (s : Service K) (conn : Pieces) (header : Bytes) (err : String) : Handled K D :=
  if s.fallbackHandler then .fallback (header :: conn)
  else .error (Lib.Errors.extend err "fallback disabled")

def readRequest : Reader (ℕ × D) := do
  causing "skip crlf" (skipN 2)
  let command ← causing "read command" (readBigEndian 1)
  if command = commandTCP.toNat ∨ command = commandUDP.toNat ∨ command = commandMux.toNat then do
    let destination ← causing "read destination" S.readAddrPort
    causing "skip crlf" (skipN 2)
    return (command, destination)
  else fun _ => .error ("unknown command " ++ toString command)

/-- The key is taken from a single read, which may return less than was sent. -/
def newConnection (s : Service K) (conn : Pieces) : Handled K D :=
  match read KeyLength conn with
  | .error err => .error err
  | .ok (key, conn) =>
    if h : key.length = KeyLength then
      match s.keys ⟨key, h⟩ with
      | none => fallback s conn key "bad request"
      | some user =>
        match readRequest S conn with
        | .error err => .error err
        | .ok ((command, destination), conn) =>
          if command = commandTCP.toNat then .connection user destination conn
          else if command = commandUDP.toNat then .packetConnection user destination conn
          else .muxConnection user destination conn
    else fallback s conn key "bad request size"

def readPackets (unwrap : D → D) : List ℕ → Reader (List (D × Bytes))
  | [] => pure []
  | free :: l => do
    let p ← readPacket S unwrap free
    let ps ← readPackets unwrap l
    return p :: ps

def runAll {ε : Type} (call : Client → ε → Client × Except Failure Unit) :
    Client → List ε → Except Failure Client
  | c, [] => .ok c
  | c, e :: es =>
    match (call c e).2 with
    | .error err => .error err
    | .ok () => runAll call (call c e).1 es

def writeAll (key : Bytes) (d : D) (ws : List Write) : Except Failure Client :=
  runAll (clientConnWrite S key d · · .done) {} ws

def sendAll (key : Bytes) (ps : List (Packet D)) : Except Failure Client :=
  runAll (clientWritePacket S key) {} ps

variable {S} {s : Service K} {key : Key} {user : K} {d : D}
  {addr rest : Bytes} {conn : Pieces}
  {command : UInt8}

lemma takes_readRequest (hd : S.writeAddrPort d = .ok addr)
    (hcommand : command = commandTCP ∨ command = commandUDP) :
    Takes (readRequest S) (crlf ++ [command] ++ addr ++ crlf) (command.toNat, d) := by
  have hskip (message : String) : Takes (causing message (skipN 2)) crlf () :=
    (takes_skipN crlf).causing message
  have hbyte : Takes (causing "read command" (readBigEndian 1)) [command] command.toNat := by
    have h := (takes_readBigEndian (k := 1) command.toNat_lt).causing "read command"
    rwa [show putBigEndian 1 command.toNat = [command] by simp [putBigEndian]] at h
  have hknown : command.toNat = commandTCP.toNat ∨ command.toNat = commandUDP.toNat ∨
      command.toNat = commandMux.toNat := by
    rcases hcommand with rfl | rfl
    · exact .inl rfl
    · exact .inr (.inl rfl)
  have haddr := (S.takes d addr hd).causing "read destination"
  rw [append_assoc, append_assoc, ← append_nil (addr ++ crlf), append_assoc]
  refine (hskip _).bind (hbyte.bind ?_)
  rw [if_pos hknown]
  exact haddr.bind ((hskip _).bind Takes.pure)

lemma newConnection_of_ready (hkey : s.keys key = some user) (hd : S.writeAddrPort d = .ok addr)
    (hcommand : command = commandTCP ∨ command = commandUDP)
    (hconn : conn.flatten = requestHeader key command addr ++ rest) (hready : Ready KeyLength conn) :
    ∃ conn', conn'.flatten = rest ∧ newConnection S s conn =
      if command = commandTCP then .connection user d conn' else .packetConnection user d conn' := by
  obtain ⟨key, hlen⟩ := key
  have hconn : conn.flatten = key ++ (crlf ++ [command] ++ addr ++ crlf ++ rest) := by
    rw [hconn]
    simp only [requestHeader, append_assoc]
  obtain ⟨conn₁, hread, hconn₁⟩ := read_of_ready hconn (hlen ▸ hready)
  obtain ⟨conn₂, hrequest, hconn₂⟩ := takes_readRequest hd hcommand conn₁ rest hconn₁
  rw [hlen] at hread
  refine ⟨conn₂, hconn₂, ?_⟩
  rw [newConnection, hread]
  dsimp only
  rw [dif_pos hlen, hkey]
  dsimp only
  rw [hrequest]
  rcases hcommand with rfl | rfl
  · rfl
  · rfl

lemma ready_of_newConnection
    (h : ∃ user d conn', newConnection S s conn = .connection user d conn' ∨
      newConnection S s conn = .packetConnection user d conn') : Ready KeyLength conn := by
  obtain ⟨user, d, conn', h⟩ := h
  unfold newConnection at h
  cases hread : read KeyLength conn with
  | error err => simp [hread] at h
  | ok x =>
    obtain ⟨key, conn₁⟩ := x
    by_cases hlen : key.length = KeyLength
    · exact ready_of_read (n := 55) hread hlen
    · simp [hread, hlen, fallback] at h
      split_ifs at h <;> simp at h

variable {key : Bytes} {c c' : Client} {buffer : Buffer} {o o₁ o₂ : Outcome} {ε : Type}
  {call : Client → ε → Client × Except Failure Unit} {es : List ε}

lemma runAll_cons {e : ε} (h : runAll call c (e :: es) = .ok c') :
    (call c e).2 = .ok () ∧ runAll call (call c e).1 es = .ok c' := by
  rw [runAll] at h
  split at h
  · cases h
  · next hcall => exact ⟨hcall, h⟩

variable {wire : Bytes}

lemma runAll_wire {f : ε → Bytes} {P : ε → Prop}
    (hcall : ∀ wire e, (call ⟨true, wire⟩ e).2 = .ok () → P e ∧ (call ⟨true, wire⟩ e).1 = ⟨true, wire ++ f e⟩)
    (h : runAll call ⟨true, wire⟩ es = .ok c') :
    (∀ e ∈ es, P e) ∧ c'.wire = wire ++ es.flatMap f := by
  induction es generalizing wire with
  | nil =>
    cases h
    exact ⟨by simp, (append_nil _).symm⟩
  | cons e es ih =>
    obtain ⟨hok, h⟩ := runAll_cons h
    obtain ⟨he, hstep⟩ := hcall wire e hok
    rw [hstep] at h
    obtain ⟨hes, hwire⟩ := ih h
    refine ⟨forall_mem_cons.2 ⟨he, hes⟩, ?_⟩
    rw [hwire, flatMap_cons, append_assoc]

lemma clientHandshake_ok {p : Bytes} (h : (clientHandshake S key d p o).2 = .ok ()) :
    ∃ addr, S.writeAddrPort d = .ok addr ∧
      (clientHandshake S key d p o).1 = requestHeader key commandTCP addr ++ p := by
  rw [clientHandshake] at h ⊢
  cases hd : S.writeAddrPort d with
  | error err =>
    rw [hd] at h
    cases h
  | ok addr =>
    rw [hd] at h
    refine ⟨addr, rfl, ?_⟩
    dsimp only
    rw [cause_fst, connWrite_fst (cause_snd_eq_ok h)]

lemma clientHandshakeBuffer_ok (h : (clientHandshakeBuffer S key d buffer o).2 = .ok ()) :
    clientHandshakeBuffer S key d buffer o = clientHandshake S key d buffer.bytes o := by
  rw [clientHandshakeBuffer] at h ⊢
  split_ifs at h ⊢
  rfl

lemma clientHandshakePacket_ok (h : (clientHandshakePacket S key d buffer o₁ o₂).2 = .ok ()) :
    ∃ addr, S.writeAddrPort d = .ok addr ∧ (clientHandshakePacket S key d buffer o₁ o₂).1 =
      requestHeader key commandUDP addr ++ (packetHeader addr buffer.bytes.length ++ buffer.bytes) := by
  rw [clientHandshakePacket] at h ⊢
  cases hd : S.writeAddrPort d with
  | error err =>
    rw [hd] at h
    cases h
  | ok addr =>
    rw [hd] at h
    dsimp only at h ⊢
    refine ⟨addr, rfl, ?_⟩
    split_ifs at h ⊢
    · rw [cause_fst, connWrite_fst (cause_snd_eq_ok h), append_assoc]
    · cases o₁ with
      | failed n err => cases h
      | done =>
        change _ ++ (Written.cause _ _).1 = _
        rw [cause_fst, connWrite_fst (cause_snd_eq_ok h), append_assoc]

lemma writePacket_ok (h : (writePacket S buffer d o).2 = .ok ()) :
    ∃ addr, S.writeAddrPort d = .ok addr ∧
      (writePacket S buffer d o).1 = packetHeader addr buffer.bytes.length ++ buffer.bytes := by
  rw [writePacket] at h ⊢
  split_ifs at h ⊢
  cases hd : S.writeAddrPort d with
  | error err =>
    rw [hd] at h
    cases h
  | ok addr =>
    rw [hd] at h
    refine ⟨addr, rfl, ?_⟩
    dsimp only
    rw [cause_fst, connWrite_fst (cause_snd_eq_ok h)]

def frame (S : Serializer D) (p : Packet D) : Bytes :=
  match S.writeAddrPort p.destination with
  | .ok addr => packetHeader addr p.buffer.bytes.length ++ p.buffer.bytes
  | .error _ => []

variable {p : Packet D}

lemma frame_eq (hd : S.writeAddrPort p.destination = .ok addr) :
    frame S p = packetHeader addr p.buffer.bytes.length ++ p.buffer.bytes := by
  rw [frame, hd]

variable {w : Write}

lemma clientConnWrite_first (h : (clientConnWrite S key d {} w o).2 = .ok ()) :
    ∃ addr, S.writeAddrPort d = .ok addr ∧
      (clientConnWrite S key d {} w o).1 = ⟨true, requestHeader key commandTCP addr ++ w.bytes⟩ := by
  unfold clientConnWrite at h ⊢
  rw [if_neg (by simp)] at h ⊢
  cases w with
  | write p =>
    obtain ⟨addr, hd, hsent⟩ := clientHandshake_ok h
    refine ⟨addr, hd, ?_⟩
    dsimp only at h ⊢
    rw [h, hsent]
    rfl
  | writeBuffer buffer =>
    have hsame := clientHandshakeBuffer_ok h
    dsimp only at h ⊢
    rw [hsame] at h ⊢
    obtain ⟨addr, hd, hsent⟩ := clientHandshake_ok h
    refine ⟨addr, hd, ?_⟩
    rw [h, hsent]
    rfl

variable {ws : List Write}

lemma writeAll_wire (h : writeAll S key d (w :: ws) = .ok c') :
    ∃ addr, S.writeAddrPort d = .ok addr ∧
      c'.wire = requestHeader key commandTCP addr ++ (w :: ws).flatMap Write.bytes := by
  obtain ⟨hok, h⟩ := runAll_cons h
  obtain ⟨addr, hd, hfirst⟩ := clientConnWrite_first hok
  rw [hfirst] at h
  have hrest := (runAll_wire (f := Write.bytes) (P := fun _ => True) (fun _ _ _ => ⟨trivial, rfl⟩) h).2
  refine ⟨addr, hd, ?_⟩
  rw [hrest, flatMap_cons, append_assoc]

lemma clientWritePacket_first (h : (clientWritePacket S key {} p).2 = .ok ()) :
    ∃ addr, S.writeAddrPort p.destination = .ok addr ∧
      (clientWritePacket S key {} p).1 = ⟨true, requestHeader key commandUDP addr ++ frame S p⟩ := by
  rw [clientWritePacket, if_neg (by simp)] at h ⊢
  obtain ⟨addr, hd, hsent⟩ := clientHandshakePacket_ok h
  refine ⟨addr, hd, ?_⟩
  rw [frame_eq hd, ← hsent]
  rfl

lemma clientWritePacket_later (h : (clientWritePacket S key ⟨true, wire⟩ p).2 = .ok ()) :
    (∃ addr, S.writeAddrPort p.destination = .ok addr) ∧
      (clientWritePacket S key ⟨true, wire⟩ p).1 = ⟨true, wire ++ frame S p⟩ := by
  rw [clientWritePacket, if_pos rfl] at h ⊢
  obtain ⟨addr, hd, hsent⟩ := writePacket_ok h
  refine ⟨⟨addr, hd⟩, ?_⟩
  rw [frame_eq hd, ← hsent]

variable {ps : List (Packet D)}

lemma sendAll_wire (h : sendAll S key (p :: ps) = .ok c') :
    (∀ q ∈ p :: ps, ∃ addr, S.writeAddrPort q.destination = .ok addr) ∧
      ∃ addr, S.writeAddrPort p.destination = .ok addr ∧
        c'.wire = requestHeader key commandUDP addr ++ (p :: ps).flatMap (frame S) := by
  obtain ⟨hok, h⟩ := runAll_cons h
  obtain ⟨addr, hd, hfirst⟩ := clientWritePacket_first hok
  rw [hfirst] at h
  obtain ⟨haccepted, hrest⟩ := runAll_wire (fun _ _ => clientWritePacket_later) h
  refine ⟨forall_mem_cons.2 ⟨⟨addr, hd⟩, haccepted⟩, addr, hd, ?_⟩
  rw [hrest, flatMap_cons, append_assoc]

variable {unwrap : D → D}

lemma takes_readPacket {free : ℕ} (hlen : p.buffer.bytes.length ≤ 65535)
    (hfree : p.buffer.bytes.length ≤ free) (hd : ∃ addr, S.writeAddrPort p.destination = .ok addr) :
    Takes (readPacket S unwrap free) (frame S p) (unwrap p.destination, p.buffer.bytes) := by
  obtain ⟨addr, hd⟩ := hd
  have hlength := (takes_readBigEndian (k := 2) (n := p.buffer.bytes.length % 2 ^ 16) (by omega)).causing
    "read chunk length"
  rw [Nat.mod_eq_of_lt (by omega)] at hlength
  have hpayload : Takes (readFullFrom free p.buffer.bytes.length) p.buffer.bytes p.buffer.bytes := by
    rw [readFullFrom, if_neg (by omega)]
    exact takes_readFull _
  rw [frame_eq hd, packetHeader, Nat.mod_eq_of_lt (by omega), append_assoc, append_assoc,
    ← append_nil (_ ++ p.buffer.bytes), append_assoc]
  exact ((S.takes _ addr hd).causing _).bind (hlength.bind
    (((takes_skipN crlf).causing _).bind (hpayload.bind Takes.pure)))

variable (unwrap) in
lemma takes_readPackets {rooms : List ℕ}
    (hlen : ∀ p ∈ ps, p.buffer.bytes.length ≤ 65535)
    (hrooms : List.Forall₂ (fun free p => p.buffer.bytes.length ≤ free) rooms ps)
    (hd : ∀ p ∈ ps, ∃ addr, S.writeAddrPort p.destination = .ok addr) :
    Takes (readPackets S unwrap rooms) (ps.flatMap (frame S))
      (ps.map fun p => (unwrap p.destination, p.buffer.bytes)) := by
  induction hrooms with
  | nil => exact Takes.pure
  | @cons free p rooms ps hfree _ ih =>
    rw [forall_mem_cons] at hlen hd
    rw [flatMap_cons, map_cons, ← append_nil (ps.flatMap _)]
    exact (takes_readPacket hlen.1 hfree hd.1).bind ((ih hlen.2 hd.2).bind Takes.pure)

variable (S : Serializer D) (unwrap : D → D) (s : Service K)

def HandsOverStream (user : K) (d : D) (bytes : Bytes) (conn : Pieces) : Prop :=
  ∃ conn', newConnection S s conn = .connection user d conn' ∧ conn'.flatten = bytes

def HandsOverPackets (user : K) (ps : List (Packet D)) (conn : Pieces) : Prop :=
  ∃ d conn', newConnection S s conn = .packetConnection user d conn' ∧
    (∀ p ∈ ps.head?, p.destination = d) ∧
    ∀ rooms, List.Forall₂ (fun free (p : Packet D) => p.buffer.bytes.length ≤ free) rooms ps →
      ∃ rest, readPackets S unwrap rooms conn' =
        .ok (ps.map fun p => (p.destination, p.buffer.bytes), rest) ∧ rest.flatten = []

def FallsBack (conn : Pieces) : Prop :=
  ∃ conn', newConnection S s conn = .fallback conn' ∧ conn'.flatten = conn.flatten

def Unregistered (conn : Pieces) : Prop :=
  ∀ h : (conn.flatten.take KeyLength).length = KeyLength, s.keys ⟨_, h⟩ = none

variable {S unwrap s} {key : Key} {user : K} {d : D} {c : Client} {conn : Pieces}

lemma not_ready_of_flatten_eq_nil (hconn : conn.flatten = []) : ¬ Ready KeyLength conn := by
  rintro ⟨b, conn', rfl, hlen⟩
  rw [flatten_cons, append_eq_nil_iff] at hconn
  rw [hconn.1] at hlen
  exact absurd hlen (by decide)

lemma handsOverStream_iff (hkey : s.keys key = some user) (hclient : writeAll S key d ws = .ok c)
    (hconn : conn.flatten = c.wire) :
    HandsOverStream S s user d (ws.flatMap Write.bytes) conn ↔ Ready KeyLength conn := by
  refine ⟨fun ⟨conn', h, _⟩ => ready_of_newConnection ⟨user, d, conn', .inl h⟩, fun hready => ?_⟩
  cases ws with
  | nil =>
    cases hclient
    exact absurd hready (not_ready_of_flatten_eq_nil hconn)
  | cons w ws =>
    obtain ⟨addr, hd, hwire⟩ := writeAll_wire hclient
    obtain ⟨conn', hconn', hnew⟩ := newConnection_of_ready hkey hd (.inl rfl) (hconn.trans hwire) hready
    exact ⟨conn', hnew, hconn'⟩

lemma handsOverPackets_iff (hkey : s.keys key = some user)
    (hlen : ∀ p ∈ ps, p.buffer.bytes.length ≤ 65535) (hclient : sendAll S key ps = .ok c)
    (hconn : conn.flatten = c.wire) : HandsOverPackets S unwrap s user ps conn ↔
      Ready KeyLength conn ∧ ∀ p ∈ ps, unwrap p.destination = p.destination := by
  have hready (h : HandsOverPackets S unwrap s user ps conn) : Ready KeyLength conn := by
    obtain ⟨d, conn', hnew, -⟩ := h
    exact ready_of_newConnection ⟨user, d, conn', .inr hnew⟩
  cases ps with
  | nil =>
    cases hclient
    have hnot := not_ready_of_flatten_eq_nil hconn
    exact iff_of_false (fun h => hnot (hready h)) (fun h => hnot h.1)
  | cons p ps =>
    obtain ⟨haccepted, addr, hd, hwire⟩ := sendAll_wire hclient
    have hread (rooms : List ℕ) (hrooms : List.Forall₂
        (fun free (p : Packet D) => p.buffer.bytes.length ≤ free) rooms (p :: ps)) :=
      takes_readPackets unwrap hlen hrooms haccepted
    constructor
    · intro h
      have hr := hready h
      obtain ⟨conn', hconn', hnew⟩ :=
        newConnection_of_ready hkey hd (.inr rfl) (hconn.trans hwire) hr
      obtain ⟨d', conn'', hnew', -, hall⟩ := h
      obtain rfl : conn' = conn'' := by
        rw [hnew] at hnew'
        cases hnew'
        rfl
      -- buffers that just fit show what is returned for the destinations
      have hfit : List.Forall₂ (fun free (p : Packet D) => p.buffer.bytes.length ≤ free)
          ((p :: ps).map (·.buffer.bytes.length)) (p :: ps) := by
        rw [forall₂_map_left_iff]
        exact forall₂_same.2 fun _ _ => le_rfl
      obtain ⟨rest, hgot, -⟩ := hall _ hfit
      obtain ⟨rest', hgot', -⟩ := hread _ hfit conn' [] (by rw [hconn', append_nil])
      rw [hgot', Except.ok.injEq, Prod.mk.injEq] at hgot
      refine ⟨hr, fun q hq => ?_⟩
      exact congrArg Prod.fst (map_inj_left.1 hgot.1 q hq)
    · rintro ⟨hr, hunwrap⟩
      obtain ⟨conn', hconn', hnew⟩ :=
        newConnection_of_ready hkey hd (.inr rfl) (hconn.trans hwire) hr
      refine ⟨p.destination, conn', hnew, by simp, fun rooms hrooms => ?_⟩
      obtain ⟨rest, hgot, hrest⟩ := hread rooms hrooms conn' [] (by rw [hconn', append_nil])
      refine ⟨rest, ?_, hrest⟩
      rw [hgot]
      congr 2
      exact map_congr_left fun q hq => by rw [hunwrap q hq]

lemma fallsBack_iff (hfallback : s.fallbackHandler = true) (hkey : Unregistered s conn) :
    FallsBack S s conn ↔ conn ≠ [] := by
  cases hread : read KeyLength conn with
  | error err =>
    cases conn with
    | nil =>
      refine iff_of_false ?_ (by simp)
      rintro ⟨conn', h, -⟩
      cases h
    | cons b conn => cases hread
  | ok x =>
    obtain ⟨header, conn'⟩ := x
    have hflat := read_flatten hread
    refine iff_of_true ⟨header :: conn', ?_, hflat.symm⟩ (by rintro rfl; cases hread)
    have hfall (err : String) : fallback s conn' header err = (.fallback (header :: conn') : Handled K D) := by
      rw [fallback, if_pos hfallback]
    unfold newConnection
    rw [hread]
    dsimp only
    split_ifs with hlen
    · have htake : conn.flatten.take KeyLength = header := by
        rw [hflat, ← hlen, take_left]
      have hnone : s.keys ⟨header, hlen⟩ = none := by
        have := hkey (by rw [htake, hlen])
        simpa only [htake] using this
      rw [hnone]
      exact hfall _
    · exact hfall _

variable (S unwrap) in
theorem trojan_agreement_iff [DecidableEq K] [ToString K] {keyOf : String → Key} {s₀ : Service K} {userList : List K}
    {passwordList : List String} (hupdate : updateUsers keyOf s₀ userList passwordList = .ok s) :
    (∀ user password, (user, password) ∈ userList.zip passwordList →
      (∀ d ws c conn, writeAll S (keyOf password) d ws = .ok c → conn.flatten = c.wire →
        (HandsOverStream S s user d (ws.flatMap Write.bytes) conn ↔ Ready KeyLength conn)) ∧
      ∀ ps c conn, (∀ p ∈ ps, p.buffer.bytes.length ≤ 65535) → sendAll S (keyOf password) ps = .ok c →
        conn.flatten = c.wire →
        (HandsOverPackets S unwrap s user ps conn ↔
          Ready KeyLength conn ∧ ∀ p ∈ ps, unwrap p.destination = p.destination)) ∧
    ∀ conn, s.fallbackHandler = true → Unregistered s conn → (FallsBack S s conn ↔ conn ≠ []) := by
  refine ⟨fun user password hmem => ?_, fun conn => fallsBack_iff⟩
  have hkey := (addUsers_keys hupdate).2 user password hmem
  exact ⟨fun d ws c conn => handsOverStream_iff hkey, fun ps c conn => handsOverPackets_iff hkey⟩

def sampleKey (password : String) : Key :=
  ⟨replicate 56 (UInt8.ofNat password.length), by simp [KeyLength]⟩

def sampleService : Service String :=
  { users := update (fun _ => none) "alice" (some (sampleKey "secret"))
    keys := update (fun _ => none) (sampleKey "secret") (some "alice") }

def target : Socksaddr := ⟨.ipv4 0xC6336401#32, 443⟩

def sampleWire : Bytes :=
  (sampleKey "secret").1 ++ [0x0D, 0x0A, 1, 1, 198, 51, 100, 1, 1, 187, 0x0D, 0x0A, 7, 8, 9]

theorem trojan_agreement_alice :
    HandsOverStream socksaddrSerializer sampleService "alice" target [7, 8, 9] [sampleWire] := by
  have hupdate : updateUsers sampleKey {} ["alice"] ["secret"] = .ok sampleService := rfl
  have hagree := (trojan_agreement_iff socksaddrSerializer Socksaddr.unwrap hupdate).1 "alice" "secret"
    (by simp)
  exact (hagree.1 target [.write [7, 8, 9]] ⟨true, sampleWire⟩ [sampleWire] rfl (by simp)).2
    ⟨sampleWire, [], rfl, by decide⟩

def toMapped : Packet Socksaddr :=
  { buffer := ⟨100, [1]⟩, destination := ⟨.ipv6 0xffff01020304#128, 53⟩ }

theorem trojan_split_key :
    (writeAll socksaddrSerializer (sampleKey "secret").1 target [.write [7, 8, 9]] =
        .ok ⟨true, sampleWire⟩ ∧
      ¬ HandsOverStream socksaddrSerializer sampleService "alice" target [7, 8, 9]
        [sampleWire.take 10, sampleWire.drop 10]) ∧
    ∃ c, sendAll socksaddrSerializer (sampleKey "secret").1 [toMapped] = .ok c ∧
      ¬ HandsOverPackets socksaddrSerializer Socksaddr.unwrap sampleService "alice" [toMapped]
        [c.wire] := by
  refine ⟨⟨rfl, ?_⟩, _, rfl, fun h => ?_⟩
  · rintro ⟨conn, h, -⟩
    cases h
  · have hkey : sampleService.keys (sampleKey "secret") = some "alice" := rfl
    rw [handsOverPackets_iff hkey (by simp [toMapped]) rfl (by simp)] at h
    exact absurd (h.2 toMapped (by simp)) (by decide)

end SingBox.Trojan
