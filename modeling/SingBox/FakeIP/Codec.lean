import SingBox.Lib.Wire

namespace SingBox.FakeIP.Codec

open Lib.Wire Lib.Errors

structure Binary (α : Type) where
  marshalBinary : α → Bytes
  unmarshalBinary : Bytes → Except String α
  round_trip : ∀ a, unmarshalBinary (marshalBinary a) = .ok a

/-- Prefixes and addresses of `netip`. An address may have a zone of any length, a prefix has none. -/
structure Netip (P A : Type) where
  range : Binary P
  addr : Binary A
  range_short : ∀ p, (range.marshalBinary p).length < 2 ^ 16
  addr_canonical : ∀ data a, addr.unmarshalBinary data = .ok a → addr.marshalBinary a = data

structure Metadata (P A : Type) where
  inet4Range : P
  inet6Range : P
  inet4Current : A
  inet6Current : A

inductive Failure where
  | error (err : String)
  | panic

variable {P A α : Type} {c : Binary α} {N : Netip P A} {s data rest : Bytes} {a : α}

def frame (data : Bytes) : Bytes := putBigEndian 2 (data.length % 2 ^ 16) ++ data

def marshalBinary (N : Netip P A) (m : Metadata P A) : Bytes :=
  frame (N.range.marshalBinary m.inet4Range) ++ (frame (N.range.marshalBinary m.inet6Range) ++
    (frame (N.addr.marshalBinary m.inet4Current) ++ frame (N.addr.marshalBinary m.inet6Current)))

/-- One turn of the loop: `common.Must` panics if the length cannot be read. -/
def element (c : Binary α) : Bytes → Except Failure (α × Bytes)
  | high :: low :: s => do
    let x ← (readFull (ofBigEndian [high, low]) s).mapError .error
    let a ← (c.unmarshalBinary x.1).mapError .error
    return (a, x.2)
  | _ => .error .panic

def unmarshalBinary (N : Netip P A) (data : Bytes) : Except Failure (Metadata P A) := do
  let inet4Range ← element N.range data
  let inet6Range ← element N.range inet4Range.2
  let inet4Current ← element N.addr inet6Range.2
  let inet6Current ← element N.addr inet4Current.2
  return ⟨inet4Range.1, inet6Range.1, inet4Current.1, inet6Current.1⟩

def Framed (s data rest : Bytes) : Prop :=
  ∃ high low, s = high :: low :: (data ++ rest) ∧ data.length = ofBigEndian [high, low]

lemma framed_frame (h : data.length < 2 ^ 16) (rest : Bytes) : Framed (frame data ++ rest) data rest := by
  rw [frame, Nat.mod_eq_of_lt h]
  exact ⟨_, _, by rw [List.append_assoc]; rfl, (ofBigEndian_putBigEndian (k := 2) (by omega)).symm⟩

lemma Framed.length_lt (h : Framed s data rest) : data.length < 2 ^ 16 := by
  obtain ⟨high, low, -, hlen⟩ := h
  simpa [hlen] using ofBigEndian_lt [high, low]

variable {x : Except String α}

lemma mapError_eq_ok : x.mapError Failure.error = .ok a ↔ x = .ok a := by
  cases x <;> simp [Except.mapError]

lemma mapError_ne_panic : x.mapError Failure.error ≠ .error .panic := by
  cases x <;> simp [Except.mapError]

lemma element_eq_ok :
    element c s = .ok (a, rest) ↔ ∃ data, Framed s data rest ∧ c.unmarshalBinary data = .ok a := by
  match s with
  | [] | [_] => exact ⟨fun h => (nomatch h), fun ⟨_, ⟨_, _, h, _⟩, _⟩ => (nomatch h)⟩
  | high :: low :: s =>
    simp only [element, bind_eq_ok, mapError_eq_ok]
    constructor
    · rintro ⟨⟨data, rest'⟩, hread, a', ha, h⟩
      cases h
      obtain ⟨hlen, rfl⟩ := eq_append_of_readFull hread
      exact ⟨data, ⟨high, low, rfl, hlen⟩, ha⟩
    · rintro ⟨data, ⟨high', low', heq, hlen⟩, ha⟩
      cases heq
      exact ⟨(data, rest), hlen ▸ readFull_append data rest, a, ha, rfl⟩

lemma element_eq_panic : element c s = .error .panic ↔ s.length < 2 := by
  match s with
  | [] | [_] => simp [element]
  | high :: low :: s => simp [element, bind_eq_error, mapError_ne_panic, pure, Except.pure]

/-- The data end before or in the length of an element, behind elements that are accepted. -/
inductive Cut : List (Bytes → Prop) → Bytes → Prop
  | here {accepts : Bytes → Prop} {later : List (Bytes → Prop)} {s : Bytes} (h : s.length < 2) :
      Cut (accepts :: later) s
  | later {accepts : Bytes → Prop} {later : List (Bytes → Prop)} {s data rest : Bytes}
      (h : Framed s data rest) (hdata : accepts data) (hrest : Cut later rest) : Cut (accepts :: later) s

def Accepts (c : Binary α) (data : Bytes) : Prop := ∃ a, c.unmarshalBinary data = .ok a

lemma cut_iff {later : List (Bytes → Prop)} : Cut (Accepts c :: later) s ↔
    element c s = .error .panic ∨ ∃ x, element c s = .ok x ∧ Cut later x.2 := by
  rw [element_eq_panic]
  constructor
  · rintro (h | ⟨h, ⟨a, ha⟩, hrest⟩)
    · exact .inl h
    · exact .inr ⟨(a, _), element_eq_ok.2 ⟨_, h, ha⟩, hrest⟩
  · rintro (h | ⟨⟨a, rest⟩, h, hrest⟩)
    · exact .here h
    · obtain ⟨data, hframed, ha⟩ := element_eq_ok.1 h
      exact .later hframed ⟨a, ha⟩ hrest

lemma not_cut_nil : ¬ Cut [] s := nofun

lemma unmarshalBinary_eq_panic : unmarshalBinary N data = .error .panic ↔
    Cut [Accepts N.range, Accepts N.range, Accepts N.addr, Accepts N.addr] data := by
  simp only [unmarshalBinary, bind_eq_error, cut_iff, not_cut_nil, pure,
    Except.pure, reduceCtorEq]

lemma length_lt_of_element {a : A} (h : element N.addr s = .ok (a, rest)) :
    (N.addr.marshalBinary a).length < 2 ^ 16 := by
  obtain ⟨data, hframed, ha⟩ := element_eq_ok.1 h
  rw [N.addr_canonical data a ha]
  exact hframed.length_lt

lemma unmarshalBinary_marshalBinary {m : Metadata P A} :
    unmarshalBinary N (marshalBinary N m) = .ok m ↔ (N.addr.marshalBinary m.inet4Current).length < 2 ^ 16 ∧
      (N.addr.marshalBinary m.inet6Current).length < 2 ^ 16 := by
  constructor
  · intro h
    obtain ⟨_, -, h⟩ := bind_eq_ok.1 h
    obtain ⟨_, -, h⟩ := bind_eq_ok.1 h
    obtain ⟨_, h₄, h⟩ := bind_eq_ok.1 h
    obtain ⟨_, h₆, h⟩ := bind_eq_ok.1 h
    cases h
    exact ⟨length_lt_of_element h₄, length_lt_of_element h₆⟩
  · rintro ⟨h₄, h₆⟩
    have hread : ∀ {α : Type} (c : Binary α) (a : α) rest, (c.marshalBinary a).length < 2 ^ 16 →
        element c (frame (c.marshalBinary a) ++ rest) = .ok (a, rest) := fun c a rest h =>
      element_eq_ok.2 ⟨_, framed_frame h rest, c.round_trip a⟩
    rw [marshalBinary, ← List.append_nil (frame (N.addr.marshalBinary m.inet6Current)), unmarshalBinary,
      hread _ _ _ (N.range_short _)]
    change (element N.range _ >>= _) = _
    rw [hread _ _ _ (N.range_short _)]
    change (element N.addr _ >>= _) = _
    rw [hread _ _ _ h₄]
    change (element N.addr _ >>= _) = _
    rw [hread _ _ _ h₆]
    rfl

theorem metadata_codec_iff (N : Netip P A) :
    (∀ m, unmarshalBinary N (marshalBinary N m) = .ok m ↔
      (N.addr.marshalBinary m.inet4Current).length < 2 ^ 16 ∧
        (N.addr.marshalBinary m.inet6Current).length < 2 ^ 16) ∧
    ∀ data, unmarshalBinary N data = .error .panic ↔
      Cut [Accepts N.range, Accepts N.range, Accepts N.addr, Accepts N.addr] data :=
  ⟨fun _ => unmarshalBinary_marshalBinary, fun _ => unmarshalBinary_eq_panic⟩

def plainNetip : Netip Unit Bytes where
  range := ⟨fun _ => [], fun _ => .ok (), fun _ => rfl⟩
  addr := ⟨id, .ok, fun _ => rfl⟩
  range_short _ := Nat.two_pow_pos 16
  addr_canonical _ _ h := (Except.ok.inj h).symm

theorem metadata_codec_panics : unmarshalBinary plainNetip [0] = .error .panic ∧
    unmarshalBinary plainNetip (marshalBinary plainNetip ⟨(), (), [], List.replicate (2 ^ 16) 0⟩) ≠
      .ok ⟨(), (), [], List.replicate (2 ^ 16) 0⟩ := by
  refine ⟨rfl, fun h => ?_⟩
  have hlt : (List.replicate (2 ^ 16) (0 : UInt8)).length < 2 ^ 16 := (unmarshalBinary_marshalBinary.1 h).2
  rw [List.length_replicate] at hlt
  exact lt_irrefl _ hlt

end SingBox.FakeIP.Codec
