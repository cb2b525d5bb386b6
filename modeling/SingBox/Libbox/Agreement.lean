import SingBox.Libbox.Commands

namespace SingBox.Libbox

open Lib.Wire Lib.Varbin Cache List Connection

def Session.expected : Session → List Delivered
  | .group ticks => ticks.map fun tick => .groups (tick.getD OutboundGroup.codec.slice.zero)
  | .provider ticks => ticks.map fun tick => .providers (tick.getD OutboundProvider.codec.slice.zero)
  | .connections ticks => (sentConnections (fun _ => none) ticks).map .connections

variable {α : Type} (c : Codec α)

def readTick : Option (Slice α) → List (Slice α)
  | some l => [l]
  | none => [c.slice.zero, c.slice.zero]

lemma flatMap_writeTick (ticks : List (Option (Slice α))) :
    ticks.flatMap (writeTick c) = (ticks.flatMap (readTick c)).flatMap c.slice.write := by
  induction ticks with
  | nil => rfl
  | cons tick ticks ih =>
    rw [flatMap_cons, flatMap_cons, flatMap_append, ih]
    cases tick with
    | some l => simp [writeTick, readTick]
    | none => rfl

lemma flatMap_readTick_eq_iff {ticks : List (Option (Slice α))} :
    ticks.flatMap (readTick c) = ticks.map (·.getD c.slice.zero) ↔ ∀ tick ∈ ticks, tick.isSome := by
  have hlength : (ticks.flatMap (readTick c)).length = ticks.length + ticks.countP (·.isNone) := by
    induction ticks with
    | nil => rfl
    | cons tick ticks ih =>
      cases tick <;> simp [readTick, ih] <;> omega
  constructor
  · intro h tick htick
    have hnone : ticks.countP (·.isNone) = 0 := by
      rw [h, length_map] at hlength
      omega
    have hsome := countP_eq_zero.1 hnone tick htick
    simpa [Option.isSome_iff_ne_none] using hsome
  · intro h
    rw [map_eq_flatMap]
    refine flatMap_congr fun tick htick => ?_
    obtain ⟨l, rfl⟩ := Option.isSome_iff_exists.1 (h tick htick)
    rfl

def Named (connections : Known) : Prop := ∀ id c, connections id = some c → c.id = UUID.string id

def Identified (l : List Connection) : Prop := ∀ c ∈ l, ∃ id : UUID, c.id = id.string

variable {connections : Known}

lemma newConnection_named (h : Named connections) (metadata : TrackerMetadata) (isClosed : Bool) :
    (newConnection connections metadata isClosed).1.id = metadata.id.string ∧
      Named (newConnection connections metadata isClosed).2 := by
  have hupdate : ∀ c : Connection, c.id = metadata.id.string →
      Named (Function.update connections metadata.id (some c)) := by
    intro c hc id c' hc'
    by_cases hid : id = metadata.id
    · rw [hid, Function.update_self] at hc'
      rw [← Option.some.inj hc', hc, hid]
    · rw [Function.update_of_ne hid] at hc'
      exact h id c' hc'
  have hid : (newConnection connections metadata isClosed).1.id = metadata.id.string := by
    rw [newConnection]
    split
    · next old hold =>
      have hname : old.id = metadata.id.string := h _ _ hold
      dsimp only
      split_ifs <;> exact hname
    · rfl
  refine ⟨hid, ?_⟩
  rw [newConnection] at hid ⊢
  split at hid
  · exact hupdate _ hid
  · exact hupdate _ hid

variable {isClosed : Bool} {x : List Connection × Known}

lemma addConnection_named (h : Identified x.1 ∧ Named x.2) (metadata : TrackerMetadata) :
    Identified (addConnection isClosed x metadata).1 ∧ Named (addConnection isClosed x metadata).2 := by
  obtain ⟨hid, hnamed⟩ := newConnection_named h.2 metadata isClosed
  refine ⟨?_, hnamed⟩
  intro c hc
  rcases mem_append.1 hc with hc | hc
  · exact h.1 c hc
  · exact ⟨metadata.id, mem_singleton.1 hc ▸ hid⟩

lemma foldl_addConnection_named (l : List TrackerMetadata) (h : Identified x.1 ∧ Named x.2) :
    Identified (l.foldl (addConnection isClosed) x).1 ∧ Named (l.foldl (addConnection isClosed) x).2 := by
  induction l generalizing x with
  | nil => exact h
  | cons metadata l ih => exact ih (addConnection_named h metadata)

lemma collect_named (h : Named connections) (snapshot : Snapshot) :
    Identified (collect connections snapshot).1 ∧ Named (collect connections snapshot).2 :=
  foldl_addConnection_named _ (foldl_addConnection_named _ ⟨by simp [Identified], h⟩)

lemma sentConnections_identified (h : Named connections) (ticks : List Snapshot) :
    ∀ l ∈ sentConnections connections ticks, Identified l.1 := by
  induction ticks generalizing connections with
  | nil => simp [sentConnections]
  | cons tick ticks ih =>
    obtain ⟨hids, hnamed⟩ := collect_named h tick
    exact forall_mem_cons.2 ⟨hids, ih hnamed⟩

lemma hexDigit_ne : ∀ x : UInt8, hexDigit (x / 16) ≠ 36 := by
  rintro ⟨⟨n⟩⟩
  revert n
  decide +kernel

lemma head_text (u : UUID) : ∃ x rest, UUID.text u = hexDigit (x / 16) :: rest := by
  obtain ⟨_ | ⟨x, b⟩, hlength⟩ := u
  · cases hlength
  · exact ⟨x, _, rfl⟩

lemma reads_blob {s rest : Bytes} {b : Blob} (h : Reads blob.read s b rest) :
    ∃ s', Reads readUvarint s b.1.length s' ∧ s' = b.1 ++ rest := by
  obtain ⟨n, s', hn, h⟩ := h.of_bind
  obtain ⟨b', s'', hb, hbound⟩ := h.of_bind
  obtain ⟨rfl, rfl⟩ := eq_append_of_readFull hb
  split_ifs at hbound
  · cases hbound
    exact ⟨_, hn, rfl⟩
  · cases hbound

lemma not_reads_length {s a : Slice Connection} (hs : s.1 ≠ []) (ha : Identified a.1)
    (input rest : Bytes) :
    ¬ Reads (codec.slice.readInto s) (codec.slice.write a ++ input) a rest := by
  intro h
  obtain ⟨old, new, l, s', hnew, hread⟩ := Codec.slice_first hs h
  obtain ⟨id, hid⟩ := ha new (hnew ▸ mem_cons_self)
  -- the length of the list is read as the length of the first identifier
  obtain ⟨s'', hfirst⟩ := Codec.pair_first (Codec.reads_of_iso hread)
  obtain ⟨after, hlength, hafter⟩ := reads_blob (b := new.id) hfirst
  have hwrite : codec.slice.write a ++ input =
      writeUvarint a.1.length ++ (a.1.flatMap codec.write ++ input) := by
    rw [← append_assoc]
    rfl
  rw [hwrite] at hlength
  obtain ⟨-, rfl⟩ := (readUvarint_writeUvarint a.2 _).unique hlength
  -- and its bytes start with the length of the real one
  obtain ⟨x, digits, htext⟩ := head_text id
  have hlen : new.id.1.length = 36 := hid ▸ UUID.length_text id
  have hhead : (a.1.flatMap codec.write ++ input).head? = some 36 := by
    have hfield : ∃ fields, codec.write new = writeUvarint new.id.1.length ++ fields :=
      ⟨_, append_assoc _ _ _⟩
    obtain ⟨fields, hfield⟩ := hfield
    rw [hnew, flatMap_cons, hfield, hlen]
    rfl
  rw [hafter, hid] at hhead
  change (UUID.text id ++ s'').head? = some 36 at hhead
  rw [htext] at hhead
  exact hexDigit_ne x (Option.some.inj hhead)

lemma dropLast_sentConnections {ticks : List Snapshot} :
    (∀ l ∈ (sentConnections connections ticks).dropLast, l.1 = []) ↔
      ∀ tick ∈ ticks.dropLast, tick.connections = [] ∧ tick.closedConnections = [] := by
  induction ticks generalizing connections with
  | nil => simp [sentConnections]
  | cons tick ticks ih =>
    cases ticks with
    | nil => simp [sentConnections]
    | cons next ticks =>
      rw [dropLast_cons_of_ne_nil (by simp), sentConnections,
        dropLast_cons_of_ne_nil (by simp [sentConnections]), forall_mem_cons, forall_mem_cons,
        ih]
      refine and_congr_left fun _ => ?_
      rw [← length_eq_zero_iff, outConnections, length_collect]
      simp

def Session.Sound : Session → Prop
  | .group ticks => ∀ tick ∈ ticks, tick.isSome
  | .provider ticks => ticks = []
  | .connections ticks =>
    ∀ tick ∈ ticks.dropLast, tick.connections = [] ∧ tick.closedConnections = []

theorem channel_agreement_iff (session : Session) :
    session.delivered = session.expected ↔ session.Sound := by
  cases session with
  | group ticks =>
    have hexpected : (Session.group ticks).expected =
        (ticks.map (·.getD OutboundGroup.codec.slice.zero)).map Delivered.groups := by
      rw [map_map]
      rfl
    have hdelivered : (Session.group ticks).delivered =
        (ticks.flatMap (readTick OutboundGroup.codec)).map Delivered.groups := by
      rw [Session.delivered, handleGroupConn, Session.sent, flatMap_writeTick, readGroups, readAll_flatMap]
    rw [hexpected, hdelivered, List.map_inj_right fun _ _ => Delivered.groups.inj, flatMap_readTick_eq_iff]
    rfl
  | provider ticks =>
    cases ticks with
    | nil => exact iff_of_true rfl rfl
    | cons tick ticks =>
      refine iff_of_false (fun h => ?_) nofun
      have hkind : Delivered.providers (tick.getD OutboundProvider.codec.slice.zero) ∈
          (Session.provider (tick :: ticks)).delivered := by
        rw [h]
        exact mem_cons_self
      obtain ⟨groups, -, hgroups⟩ := mem_map.1 hkind
      cases hgroups
  | connections ticks =>
    have hids : ∀ l ∈ sentConnections (fun _ => none) ticks, Identified l.1 :=
      sentConnections_identified (fun _ _ h => absurd h (by simp)) ticks
    rw [Session.delivered, handleConnectionsConn, Session.sent, Session.expected,
      List.map_inj_right fun _ _ => Delivered.connections.inj,
      readAll_inPlace_iff (fun s a hs ha => not_reads_length hs ha) hids, dropLast_sentConnections]
    rfl

def emptySnapshot : Snapshot := ⟨[], [], by decide⟩

def singleSnapshot : Snapshot :=
  { connections := [
      { id := ⟨replicate 16 0, by decide⟩, inbound := emptyBlob, inboundType := emptyBlob
        ipVersion := 4, network := emptyBlob, source := emptyBlob, destination := emptyBlob
        domain := emptyBlob, protocol := emptyBlob, user := emptyBlob, fromOutbound := emptyBlob
        createdAt := 0, closedAt := none, upload := 0, download := 0, chain := ⟨[], by decide⟩
        rule := none, outbound := emptyBlob, outboundType := emptyBlob }]
    closedConnections := []
    bounded := by decide }

theorem channel_disagreement :
    let noGroups := Delivered.groups OutboundGroup.codec.slice.zero
    let noProviders := Delivered.providers OutboundProvider.codec.slice.zero
    let tracked := Session.connections [singleSnapshot, emptySnapshot]
    (Session.group [none]).delivered = [noGroups, noGroups] ∧ (Session.group [none]).expected = [noGroups] ∧
      (Session.provider [some ⟨[], by decide⟩]).delivered = [noGroups] ∧
      (Session.provider [some ⟨[], by decide⟩]).expected = [noProviders] ∧
      tracked.delivered.length = 1 ∧ tracked.expected.length = 2 := by
  decide +kernel

end SingBox.Libbox
