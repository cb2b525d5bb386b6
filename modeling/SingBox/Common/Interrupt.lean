import Mathlib.Data.List.Nodup
import Mathlib.Data.List.Range
import Mathlib.Tactic.Common

namespace SingBox.Interrupt

open List

structure Item where
  id : ℕ
  isExternal : Bool

/-- The group with all connections that were ever in it and the calls of their `Close`, in order. -/
structure Group where
  connections : List Item := []
  created : List Item := []
  closed : List ℕ := []

inductive Event where
  | newConn (isExternal : Bool)
  | close (id : ℕ)
  | interrupt (interruptExternalConnections : Bool)

def interrupted (interruptExternalConnections : Bool) (item : Item) : Bool :=
  !item.isExternal || interruptExternalConnections

def step (g : Group) : Event → Group
  | .newConn isExternal =>
    let item := ⟨g.created.length, isExternal⟩
    { g with connections := g.connections ++ [item], created := g.created ++ [item] }
  | .close id =>
    -- only connections that were created can be closed
    if id < g.created.length then
      { g with connections := g.connections.filter (·.id ≠ id), closed := g.closed ++ [id] }
    else g
  | .interrupt external =>
    { g with
      connections := g.connections.filter (!interrupted external ·)
      closed := g.closed ++ (g.connections.filter (interrupted external)).map Item.id }

structure Tracked (g : Group) : Prop where
  ids : g.created.map Item.id = range g.created.length
  closed : ∀ id ∈ g.closed, id < g.created.length
  connections : g.connections = g.created.filter (·.id ∉ g.closed)

variable {g : Group}

lemma Tracked.eq_of_id (h : Tracked g) {x y : Item} (hx : x ∈ g.created) (hy : y ∈ g.created) (hid : x.id = y.id) :
    x = y :=
  inj_on_of_nodup_map (h.ids ▸ nodup_range) hx hy hid

lemma Tracked.id_lt (h : Tracked g) {x : Item} (hx : x ∈ g.created) : x.id < g.created.length :=
  mem_range.1 (h.ids ▸ mem_map_of_mem hx)

lemma Tracked.step (h : Tracked g) (e : Event) : Tracked (step g e) := by
  cases e with
  | newConn isExternal =>
    have hnew : g.created.length ∉ g.closed := fun hmem => lt_irrefl _ (h.closed _ hmem)
    refine ⟨?_, fun id hid => ?_, ?_⟩
    · simp [Interrupt.step, h.ids, range_succ]
    · simpa [Interrupt.step] using (h.closed id hid).trans (Nat.lt_succ_self _)
    · simp [Interrupt.step, h.connections, hnew]
  | close id =>
    rw [Interrupt.step]
    split_ifs with hid
    · refine ⟨h.ids, fun id' hid' => ?_, ?_⟩
      · rcases mem_append.1 hid' with hid' | hid'
        · exact h.closed id' hid'
        · rwa [mem_singleton.1 hid']
      · rw [h.connections, filter_filter]
        exact filter_congr fun x _ => by simp [and_comm]
    · exact h
  | interrupt external =>
    have hsub : ∀ x ∈ g.connections, x ∈ g.created := fun x hx => (mem_filter.1 (h.connections ▸ hx)).1
    refine ⟨h.ids, fun id hid => ?_, ?_⟩
    · rcases mem_append.1 hid with hid | hid
      · exact h.closed id hid
      · obtain ⟨x, hx, rfl⟩ := mem_map.1 hid
        exact h.id_lt (hsub x (mem_filter.1 hx).1)
    · rw [Interrupt.step]
      rw [h.connections, filter_filter]
      refine filter_congr fun x hx => ?_
      rw [Bool.eq_iff_iff]
      simp only [Bool.and_eq_true, Bool.not_eq_true', decide_eq_true_eq, mem_append, not_or, mem_map, mem_filter]
      constructor
      · rintro ⟨hkept, hopen⟩
        refine ⟨hopen, ?_⟩
        rintro ⟨y, ⟨⟨hy, -⟩, hselected⟩, hid⟩
        obtain rfl := h.eq_of_id hy hx hid
        rw [hkept] at hselected
        cases hselected
      · rintro ⟨hopen, hnone⟩
        refine ⟨?_, hopen⟩
        by_contra hselected
        exact hnone ⟨x, ⟨⟨hx, hopen⟩, by simpa using hselected⟩, rfl⟩

theorem interrupt_closes_open_connections (events : List Event) (external : Bool) :
    (events.foldl step {}).connections =
        (events.foldl step {}).created.filter (·.id ∉ (events.foldl step {}).closed) ∧
      (step (events.foldl step {}) (.interrupt external)).closed = (events.foldl step {}).closed ++
        ((events.foldl step {}).created.filter fun item =>
          interrupted external item && item.id ∉ (events.foldl step {}).closed).map Item.id := by
  have h : Tracked (events.foldl step {}) := foldlRecOn events step
    ⟨rfl, by simp, rfl⟩ fun _ h e _ => h.step e
  refine ⟨h.connections, ?_⟩
  rw [step]
  dsimp only
  rw [h.connections, filter_filter]

end SingBox.Interrupt
