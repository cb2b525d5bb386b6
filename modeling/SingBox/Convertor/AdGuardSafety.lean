import SingBox.Convertor.AdGuardFidelity

namespace SingBox.AdGuard

open Lib.Text List

variable {env : Route.Env} {addrs : Addresses} {line : Line}

lemma length_of_mapM {α β : Type} {f : α → Option β} {l : List α} {l' : List β} (h : l.mapM f = some l') :
    l'.length = l.length := by
  induction l generalizing l' with
  | nil => cases h; rfl
  | cons a l ih =>
    rw [mapM_cons] at h
    obtain ⟨b, -, h⟩ := Option.bind_eq_some_iff.1 h
    obtain ⟨bs, hbs, h⟩ := Option.bind_eq_some_iff.1 h
    cases h
    rw [length_cons, length_cons, ih hbs]

lemma parseADGuardIPCIDRLine_length {bytes : List ℕ} {bitLen : ℕ}
    (h : parseADGuardIPCIDRLine line = some (bytes, bitLen)) : bytes.length = 4 := by
  unfold parseADGuardIPCIDRLine at h
  dsimp only at h
  split_ifs at h with hparts
  obtain ⟨ruleParts, hruleParts, h⟩ := Option.map_eq_some_iff.1 h
  cases h
  have hlen := length_of_mapM hruleParts
  rw [length_append, length_replicate]
  omega

def stripped (line : Line) : Line :=
  let line := trimSuffix ['|'] (if "@@".toList.isPrefixOf line then line.drop 2 else line)
  trimSuffix ['^'] (if "||".toList.isPrefixOf line then line.drop 2
    else if !"||".toList.isPrefixOf line && ['|'].isPrefixOf line then line.drop 1 else line)

def Parsed.isIgnored : Parsed → Bool
  | .ignored => true
  | _ => false

lemma isPanic_iff {parsed : Parsed} : parsed.isPanic = true ↔ parsed = .panic := by
  cases parsed <;> simp [Parsed.isPanic]

lemma parsePattern_ne_panic (rule : RuleLine) : parsePattern env rule line ≠ .panic := by
  have haddress : ∀ line, (parseADGuardIPCIDRLine line).any (fun x => x.1.length < 4) = false := by
    intro line
    cases h : parseADGuardIPCIDRLine line with
    | none => rfl
    | some x => simp [parseADGuardIPCIDRLine_length h]
  unfold parsePattern
  dsimp only
  simp only [haddress, Bool.false_eq_true, if_false]
  split_ifs <;> simp

lemma parseRegexp_eq_panic {rule : RuleLine} (h : ['/'].isPrefixOf line = true) :
    parseRegexp rule line = .panic ↔ line = ['/'] := by
  obtain ⟨t, rfl⟩ := List.isPrefixOf_iff_prefix.1 h
  unfold parseRegexp
  dsimp only
  cases t with
  | nil => simp
  | cons c t =>
    rw [if_neg (show ¬ (['/'] ++ c :: t).length < 2 by simp)]
    split_ifs <;> simp

lemma parseRule_eq_panic {isImportant : Bool} :
    parseRule env isImportant line = .panic ↔ stripped line = ['/'] := by
  unfold parseRule
  dsimp only
  rw [← stripped]
  by_cases hslash : (['/'].isPrefixOf (stripped line) && ['/'].isSuffixOf (stripped line)) = true
  · rw [if_pos hslash]
    exact parseRegexp_eq_panic (Bool.and_eq_true _ _ ▸ hslash).1
  · rw [if_neg hslash]
    refine iff_of_false (parsePattern_ne_panic _) fun h => hslash ?_
    rw [h]
    rfl

/-- A line that is read as a rule and comes down to a slash. -/
structure LoneSlash (env : Route.Env) (addrs : Addresses) (line : Line) : Prop where
  uncommented : line.head? ≠ some '!' ∧ line.head? ≠ some '#'
  noDomain : env.isDomainName (String.ofList line) = false
  noHostLine : parseHostLine env addrs line = none
  modifiers : (modifiers addrs (trimSuffix ['|'] line)).isSome
  slash : stripped (withoutModifiers (trimSuffix ['|'] line)) = ['/']

lemma parseHostLine_ne_panic : parseHostLine env addrs line ≠ some .panic := by
  unfold parseHostLine
  repeat' split
  all_goals simp

lemma parseLine_eq_panic : parseLine env addrs line = .panic ↔ LoneSlash env addrs line := by
  constructor
  · intro h
    unfold parseLine at h
    split_ifs at h with hcomment hdomain
    simp only [Bool.or_eq_true, not_or, beq_iff_eq] at hcomment
    split at h
    · next hhost => exact absurd (h ▸ hhost) parseHostLine_ne_panic
    · next hhost =>
      dsimp only at h
      split at h
      · cases h
      · next hmodifiers =>
        exact ⟨⟨hcomment.1.2, hcomment.2⟩, by simpa using hdomain, hhost, by rw [hmodifiers]; rfl,
          parseRule_eq_panic.1 h⟩
  · rintro ⟨⟨h₁, h₂⟩, hdomain, hhost, hmodifiers, hslash⟩
    have hne : line ≠ [] := by
      rintro rfl
      exact absurd hslash (by decide)
    obtain ⟨isImportant, hmodifiers⟩ := Option.isSome_iff_exists.1 hmodifiers
    simp [parseLine, h₁, h₂, hne, hdomain, hhost, hmodifiers, parseRule_eq_panic.2 hslash]

def kept (env : Route.Env) (addrs : Addresses) (text : String) : List Line :=
  (scan (textLines text)).filter fun line => !(parseLine env addrs (dropCR line)).isIgnored

lemma any_kept (text : String) :
    ((kept env addrs text).any fun line => (parseLine env addrs (dropCR line)).isPanic) =
      (scan (textLines text)).any fun line => (parseLine env addrs (dropCR line)).isPanic := by
  rw [kept, any_filter]
  congr 1
  funext line
  cases parseLine env addrs (dropCR line) <;> rfl

lemma ruleLines_kept (text : String) :
    ruleLines env addrs (kept env addrs text) = ruleLines env addrs (scan (textLines text)) := by
  rw [kept, ruleLines, filterMap_filter]
  congr 1
  funext line
  cases parseLine env addrs (dropCR line) <;> rfl

theorem convert_panics_iff (env : Route.Env) (addrs : Addresses) (text : String) :
    (convert env addrs text = .error .panic ↔
      ∃ line ∈ scan (textLines text), LoneSlash env addrs (dropCR line)) ∧
    (∀ text', kept env addrs text' = kept env addrs text →
      convert env addrs text' = convert env addrs text) ∧
    ∀ line bytes bitLen, parseADGuardIPCIDRLine line = some (bytes, bitLen) → bytes.length = 4 := by
  refine ⟨?_, fun text' h => ?_, fun _ _ _ h => parseADGuardIPCIDRLine_length h⟩
  · have hany : ((scan (textLines text)).any fun line => (parseLine env addrs (dropCR line)).isPanic) = true ↔
        ∃ line ∈ scan (textLines text), LoneSlash env addrs (dropCR line) := by
      simp only [any_eq_true, isPanic_iff, parseLine_eq_panic]
    unfold convert
    dsimp only
    split_ifs <;> simp_all
  · unfold convert
    dsimp only
    rw [← any_kept, ← any_kept, ← ruleLines_kept, ← ruleLines_kept, h]

theorem convert_panics_on_slash :
    convert nameEnv noAddrs "ads.example\n||/^$important" = .error .panic := by
  unfold convert
  exact if_pos (by decide +kernel)

end SingBox.AdGuard
