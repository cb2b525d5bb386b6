import SingBox.Convertor.AdGuardMeaning

/-! The lines of a filter list as their authors write them, and how the converter reads them. -/

namespace SingBox.AdGuard

open Lib.Text Route List

inductive Anchor where
  | none
  | start
  | suffix
  deriving DecidableEq, Repr

def Anchor.write : Anchor → Line
  | none => []
  | start => ['|']
  | suffix => ['|', '|']

inductive Filter where
  | comment (text : Line)
  | name (domain : Line)
  | host (address domain : Line)
  | pattern (isExclude : Bool) (anchor : Anchor) (domain : Line) (hasEnd isImportant : Bool)
  | regexp (isExclude : Bool) (expression : Line) (isImportant : Bool)
  deriving DecidableEq, Repr

namespace Filter

def exception (isExclude : Bool) : Line := if isExclude then ['@', '@'] else []

def importance (isImportant : Bool) : Line := if isImportant then '$' :: "important".toList else []

def separator (hasEnd : Bool) : Line := if hasEnd then ['^'] else []

def write : Filter → Line
  | comment text => '!' :: text
  | name domain => domain
  | host address domain => address ++ ' ' :: domain
  | pattern isExclude anchor domain hasEnd isImportant =>
    exception isExclude ++ (anchor.write ++ (domain ++ separator hasEnd)) ++ importance isImportant
  | regexp isExclude expression isImportant =>
    exception isExclude ++ ('/' :: (expression ++ ['/'])) ++ importance isImportant

def isNameChar (c : Char) : Bool := c.isAlphanum || c == '-' || c == '_' || c == '.'

def isPatternChar (c : Char) : Bool := isNameChar c || c == '*'

def isAddressChar (c : Char) : Bool := c.isAlphanum || c == '.' || c == ':'

/-- The pattern with a letter in front of a leading point or hyphen and for each asterisk. -/
def sample (domain : Line) : Line :=
  (if ['.'].isPrefixOf domain || ['-'].isPrefixOf domain then 'r' :: domain else domain).map
    fun c => if c = '*' then 'x' else c

def WellFormed (env : Env) (addrs : Addresses) (f : Filter) : Prop :=
  match f with
  | comment text => '\n' ∉ text ∧ '\r' ∉ text
  | name domain => domain ≠ [] ∧ (∀ c ∈ domain, isNameChar c = true) ∧
      env.isDomainName (String.ofList domain) = true
  | host address domain => addrs.parseAddr address = some true ∧ address ≠ [] ∧
      (∀ c ∈ address, isAddressChar c = true) ∧ domain ≠ [] ∧ (∀ c ∈ domain, isNameChar c = true) ∧
      env.isDomainName (String.ofList domain) = true ∧ env.isDomainName (String.ofList f.write) = false
  | pattern _ _ domain _ _ => domain ≠ [] ∧ (∀ c ∈ domain, isPatternChar c = true) ∧
      env.isDomainName (String.ofList (sample domain)) = true ∧
      env.isDomainName (String.ofList f.write) = false
  | regexp isExclude expression isImportant =>
      (∀ c ∈ expression, c ≠ '\n' ∧ c ≠ '\r' ∧ c ≠ ' ') ∧ (isExclude = true → '$' ∉ expression) ∧
      (isImportant = true → isExclude = true) ∧ ignoreIPCIDRRegexp expression = false ∧
      env.isDomainName (String.ofList f.write) = false

def ruleLine? : Filter → Option RuleLine
  | comment _ => none
  | name domain => some { ruleLine := String.ofList domain, isRawDomain := true }
  | host _ domain =>
    some { ruleLine := String.ofList domain, isRawDomain := true, hasStart := true, hasEnd := true }
  | pattern isExclude anchor domain hasEnd isImportant =>
    some { ruleLine := String.ofList domain, isExclude, isSuffix := anchor = .suffix,
           hasStart := anchor = .start, hasEnd, isImportant }
  | regexp isExclude expression isImportant =>
    some { ruleLine := String.ofList expression, isExclude, isRegexp := true, isImportant }

end Filter

section Lines

variable {c : Char} {u v s : Line}

lemma cut_of_not_mem (h : c ∉ s) : cut [c] s = none := by
  rw [cut_eq_none_iff (cons_ne_nil _ _), singleton_infix_iff]
  exact h

lemma cut_append_cons (h : c ∉ u) (v : Line) : cut [c] (u ++ c :: v) = some (u, v) := by
  induction u with
  | nil => simp [cut]
  | cons a u ih =>
    have ha : c ≠ a := fun ha => h (ha ▸ mem_cons_self)
    rw [cons_append, cut, ih fun hu => h (mem_cons_of_mem _ hu)]
    simp [ha]

lemma isPrefixOf_of_not_mem {w : Line} (h : c ∉ s) : (c :: w).isPrefixOf s = false := by
  cases s with
  | nil => rfl
  | cons a s =>
    have ha : c ≠ a := fun ha => h (ha ▸ mem_cons_self)
    simp [List.isPrefixOf, ha]

lemma isSuffixOf_of_not_mem (hs : c ∉ s) (hne : s ≠ []) (u : Line) : [c].isSuffixOf (u ++ s) = false := by
  rw [← Bool.not_eq_true, List.isSuffixOf_iff_suffix]
  intro h
  have hsuffix : [c] <:+ s := suffix_of_suffix_length_le h (suffix_append u s)
    (length_pos_iff.2 hne)
  exact hs (hsuffix.subset mem_cons_self)

lemma trimSuffix_of_not_mem (hs : c ∉ s) (hne : s ≠ []) (u : Line) : trimSuffix [c] (u ++ s) = u ++ s := by
  rw [trimSuffix, isSuffixOf_of_not_mem hs hne, if_neg Bool.false_ne_true]

lemma trimSuffix_concat (c : Char) (s : Line) : trimSuffix [c] (s ++ [c]) = s := by
  have h : [c].isSuffixOf (s ++ [c]) = true := List.isSuffixOf_iff_suffix.2 (suffix_append s [c])
  rw [trimSuffix, if_pos h]
  simp

end Lines

namespace Filter

variable {env : Env} {addrs : Addresses}

lemma ne_of_isPatternChar {c x : Char} (hc : isPatternChar c = true) (hx : isPatternChar x = false) :
    c ≠ x := by
  rintro rfl
  rw [hc] at hx
  cases hx

lemma not_mem_of_pattern {domain : Line} (h : ∀ c ∈ domain, isPatternChar c = true) {x : Char}
    (hx : isPatternChar x = false) : x ∉ domain := fun hmem => ne_of_isPatternChar (h x hmem) hx rfl

lemma parsePattern_domain {domain : Line} (rule : RuleLine) (hne : domain ≠ [])
    (hchars : ∀ c ∈ domain, isPatternChar c = true)
    (hname : env.isDomainName (String.ofList (sample domain)) = true) :
    parsePattern env rule domain = .rule { rule with ruleLine := String.ofList domain } := by
  have hcut : ∀ (x : Char) (w : Line), isPatternChar x = false → cut (x :: w) domain = none := by
    intro x w hx
    rw [cut_eq_none_iff (cons_ne_nil _ _)]
    exact fun h => not_mem_of_pattern hchars hx (h.subset mem_cons_self)
  have hafter : substringAfter "://".toList domain = domain := by
    have h : cut "://".toList domain = none := hcut ':' "//".toList rfl
    rw [substringAfter, h]
    rfl
  have hslash : domain.contains '/' = false := by
    simpa using not_mem_of_pattern hchars (x := '/') rfl
  have h₁ : cut "##".toList domain = none := hcut '#' ['#'] rfl
  have h₂ : cut "#$#".toList domain = none := hcut '#' "$#".toList rfl
  have hempty : domain.isEmpty = false := by simpa using hne
  rw [sample] at hname
  simp only [parsePattern, hafter, hslash, h₁, h₂, hempty, hname]
  rfl

lemma parseRule_pattern {isExclude hasEnd : Bool} (isImportant : Bool) {anchor : Anchor} {domain : Line}
    (hne : domain ≠ []) (hchars : ∀ c ∈ domain, isPatternChar c = true)
    (hname : env.isDomainName (String.ofList (sample domain)) = true) :
    parseRule env isImportant (exception isExclude ++ (anchor.write ++ (domain ++ separator hasEnd))) =
      .rule
        { ruleLine := String.ofList domain, isExclude, isSuffix := anchor = .suffix,
          hasStart := anchor = .start, hasEnd, isImportant } := by
  have hrest : ∀ x, isPatternChar x = false → x ≠ '^' → x ∉ domain ++ separator hasEnd := by
    intro x hx hcaret hmem
    rcases mem_append.1 hmem with h | h
    · exact not_mem_of_pattern hchars hx h
    · cases hasEnd <;> simp [separator] at h
      exact hcaret h
  have hbar := hrest '|' rfl (by decide)
  have hne' : domain ++ separator hasEnd ≠ [] := by simp [hne]
  have hat : '@' ∉ anchor.write ++ (domain ++ separator hasEnd) := by
    rw [mem_append, not_or]
    refine ⟨?_, hrest '@' rfl (by decide)⟩
    cases anchor <;> decide
  have hexclude : "@@".toList.isPrefixOf
      (exception isExclude ++ (anchor.write ++ (domain ++ separator hasEnd))) = isExclude := by
    cases isExclude with
    | true => rfl
    | false => exact isPrefixOf_of_not_mem hat
  have hdrop : (if isExclude = true then
      (exception isExclude ++ (anchor.write ++ (domain ++ separator hasEnd))).drop 2
      else exception isExclude ++ (anchor.write ++ (domain ++ separator hasEnd))) =
      anchor.write ++ (domain ++ separator hasEnd) := by
    cases isExclude <;> rfl
  have hsuffix : "||".toList.isPrefixOf (anchor.write ++ (domain ++ separator hasEnd)) =
      decide (anchor = .suffix) := by
    cases anchor with
    | none => exact isPrefixOf_of_not_mem hbar
    | start => exact isPrefixOf_of_not_mem (w := []) hbar
    | suffix => rfl
  have hstart : (!decide (anchor = .suffix) &&
      ['|'].isPrefixOf (anchor.write ++ (domain ++ separator hasEnd))) = decide (anchor = .start) := by
    cases anchor with
    | none => exact isPrefixOf_of_not_mem hbar
    | start => rfl
    | suffix => rfl
  have hanchored : (if decide (anchor = .suffix) = true then
      (anchor.write ++ (domain ++ separator hasEnd)).drop 2
      else if decide (anchor = .start) = true then
        (anchor.write ++ (domain ++ separator hasEnd)).drop 1
      else anchor.write ++ (domain ++ separator hasEnd)) = domain ++ separator hasEnd := by
    cases anchor <;> rfl
  have hcaret : '^' ∉ domain := not_mem_of_pattern hchars rfl
  have hended : ['^'].isSuffixOf (domain ++ separator hasEnd) = hasEnd := by
    cases hasEnd with
    | true => exact List.isSuffixOf_iff_suffix.2 (suffix_append _ _)
    | false =>
      have h := isSuffixOf_of_not_mem hcaret hne []
      simpa [separator] using h
  have htrimmed : trimSuffix ['^'] (domain ++ separator hasEnd) = domain := by
    cases hasEnd with
    | true => exact trimSuffix_concat '^' domain
    | false =>
      have h := trimSuffix_of_not_mem hcaret hne []
      simpa [separator] using h
  have hslash : ['/'].isPrefixOf domain = false := isPrefixOf_of_not_mem (not_mem_of_pattern hchars rfl)
  simp only [parseRule, hexclude, hdrop, trimSuffix_of_not_mem hbar hne', hsuffix, hstart, hanchored,
    hended, htrimmed, hslash, Bool.false_and, Bool.false_eq_true, if_false]
  exact parsePattern_domain _ hne hchars hname

/-- What a line must satisfy for its modifiers to be told from the rest. -/
structure Separable (body : Line) (isImportant : Bool) : Prop where
  ne : body ≠ []
  head : body.head? ≠ some '!' ∧ body.head? ≠ some '#'
  space : ' ' ∉ body
  bar : ∃ u v, body = u ++ v ∧ v ≠ [] ∧ '|' ∉ v
  slash : ['/'].isPrefixOf body = true → isImportant = false
  dollar : ['/'].isPrefixOf body = false → '$' ∉ body

lemma modifiers_importance (addrs : Addresses) {body : Line} {isImportant : Bool}
    (h : Separable body isImportant) :
    modifiers addrs (body ++ importance isImportant) = some isImportant ∧
      withoutModifiers (body ++ importance isImportant) = body := by
  have hslash : ['/'].isPrefixOf (body ++ importance isImportant) = ['/'].isPrefixOf body := by
    cases hbody : body with
    | nil => exact absurd hbody h.ne
    | cons c body => simp [List.isPrefixOf]
  rw [modifiers, withoutModifiers, hslash]
  cases hs : ['/'].isPrefixOf body with
  | true =>
    rw [h.slash hs]
    simp [importance]
  | false =>
    have hdollar := h.dollar hs
    cases isImportant with
    | false =>
      have hline : body ++ importance false = body := append_nil body
      rw [hline, cut_of_not_mem hdollar, substringBefore, cut_of_not_mem hdollar]
      exact ⟨rfl, rfl⟩
    | true =>
      have hcut : cut ['$'] (body ++ importance true) = some (body, "important".toList) :=
        cut_append_cons hdollar _
      have hparam : ((("important".toList).splitOn ',').mapM (modifier addrs)).map
          (fun l => l.any id) = some true := by
        have hsplit : "important".toList.splitOn ',' = ["important".toList] :=
          splitOn_of_not_mem (by decide)
        have hname : "important".toList.splitOn '=' = ["important".toList] :=
          splitOn_of_not_mem (by decide)
        have hparam : modifier addrs "important".toList = some true := by
          rw [modifier, hname]
          rfl
        rw [hsplit, mapM_cons, hparam]
        rfl
      simp only [hcut, substringAfter, substringBefore, Option.elim, Option.isSome, Bool.not_false,
        Bool.and_self, if_true, Bool.false_eq_true, if_false]
      exact ⟨hparam, trivial⟩

lemma parseLine_separable (addrs : Addresses) {body : Line} {isImportant : Bool}
    (h : Separable body isImportant)
    (hname : env.isDomainName (String.ofList (body ++ importance isImportant)) = false) :
    parseLine env addrs (body ++ importance isImportant) = parseRule env isImportant body := by
  obtain ⟨hmodifiers, hbody⟩ := modifiers_importance addrs h
  have hhead : (body ++ importance isImportant).head? = body.head? := by
    cases hb : body with
    | nil => exact absurd hb h.ne
    | cons c body => rfl
  have hspace : ' ' ∉ body ++ importance isImportant := by
    rw [mem_append, not_or]
    refine ⟨h.space, ?_⟩
    cases isImportant <;> decide
  have hempty : (body ++ importance isImportant).isEmpty = false := by simp [h.ne]
  have hbar : trimSuffix ['|'] (body ++ importance isImportant) = body ++ importance isImportant := by
    obtain ⟨u, v, rfl, hne, hv⟩ := h.bar
    rw [append_assoc]
    refine trimSuffix_of_not_mem ?_ (by simp [hne]) u
    rw [mem_append, not_or]
    refine ⟨hv, ?_⟩
    cases isImportant <;> decide
  have hcomment : ((body ++ importance isImportant).isEmpty ||
      (body ++ importance isImportant).head? == some '!' ||
        (body ++ importance isImportant).head? == some '#') = false := by
    rw [hempty, hhead]
    simp [h.head.1, h.head.2]
  rw [parseLine, hcomment, hname, parseHostLine, cut_of_not_mem hspace]
  simp only [Bool.false_eq_true, if_false, hbar, hmodifiers, hbody]

lemma separable_pattern {isExclude hasEnd : Bool} (isImportant : Bool) {anchor : Anchor} {domain : Line}
    (hne : domain ≠ []) (hchars : ∀ c ∈ domain, isPatternChar c = true) :
    Separable (exception isExclude ++ (anchor.write ++ (domain ++ separator hasEnd))) isImportant := by
  have hmem : ∀ x, isPatternChar x = false → x ≠ '@' → x ≠ '|' → x ≠ '^' →
      x ∉ exception isExclude ++ (anchor.write ++ (domain ++ separator hasEnd)) := by
    intro x hx h₁ h₂ h₃ h
    simp only [mem_append] at h
    rcases h with h | h | h | h
    · cases isExclude <;> simp [exception] at h
      exact h₁ h
    · cases anchor <;> simp [Anchor.write] at h <;> exact h₂ h
    · exact not_mem_of_pattern hchars hx h
    · cases hasEnd <;> simp [separator] at h
      exact h₃ h
  have hhead : ∀ x, isPatternChar x = false → x ≠ '@' → x ≠ '|' → x ≠ '^' →
      (exception isExclude ++ (anchor.write ++ (domain ++ separator hasEnd))).head? ≠ some x :=
    fun x hx h₁ h₂ h₃ h => hmem x hx h₁ h₂ h₃ (mem_of_mem_head? h)
  have hslash : ['/'].isPrefixOf (exception isExclude ++ (anchor.write ++ (domain ++ separator hasEnd))) =
      false := isPrefixOf_of_not_mem (hmem '/' rfl (by decide) (by decide) (by decide))
  refine ⟨by simp [hne], ⟨hhead '!' rfl (by decide) (by decide) (by decide),
    hhead '#' rfl (by decide) (by decide) (by decide)⟩,
    hmem ' ' rfl (by decide) (by decide) (by decide),
    ⟨exception isExclude ++ anchor.write, domain ++ separator hasEnd, by simp, by simp [hne], ?_⟩,
    fun h => ?_, fun _ => hmem '$' rfl (by decide) (by decide) (by decide)⟩
  · rw [mem_append, not_or]
    refine ⟨not_mem_of_pattern hchars rfl, ?_⟩
    cases hasEnd <;> decide
  · rw [hslash] at h
    cases h

lemma parseRule_regexp {isExclude : Bool} (isImportant : Bool) {expression : Line}
    (hip : ignoreIPCIDRRegexp expression = false) :
    parseRule env isImportant (exception isExclude ++ ('/' :: (expression ++ ['/']))) =
      .rule { ruleLine := String.ofList expression, isExclude, isRegexp := true, isImportant } := by
  have hexclude : "@@".toList.isPrefixOf (exception isExclude ++ ('/' :: (expression ++ ['/']))) =
      isExclude := by
    cases isExclude <;> rfl
  have hdrop : (if isExclude = true then
      (exception isExclude ++ ('/' :: (expression ++ ['/']))).drop 2
      else exception isExclude ++ ('/' :: (expression ++ ['/']))) = '/' :: (expression ++ ['/']) := by
    cases isExclude <;> rfl
  have hlast : ∀ c, c ≠ '/' → [c].isSuffixOf ('/' :: (expression ++ ['/'])) = false := fun c hc =>
    isSuffixOf_of_not_mem (s := ['/']) (by simpa using hc) (cons_ne_nil _ _) ('/' :: expression)
  have htrim : ∀ c, c ≠ '/' → trimSuffix [c] ('/' :: (expression ++ ['/'])) = '/' :: (expression ++ ['/']) :=
    fun c hc => trimSuffix_of_not_mem (s := ['/']) (by simpa using hc) (cons_ne_nil _ _) ('/' :: expression)
  have hsuffix : "||".toList.isPrefixOf ('/' :: (expression ++ ['/'])) = false := rfl
  have hstart : ['|'].isPrefixOf ('/' :: (expression ++ ['/'])) = false := rfl
  have hslash : (['/'].isPrefixOf ('/' :: (expression ++ ['/'])) &&
      ['/'].isSuffixOf ('/' :: (expression ++ ['/']))) = true := by
    rw [Bool.and_eq_true, List.isSuffixOf_iff_suffix]
    exact ⟨rfl, suffix_append ('/' :: expression) ['/']⟩
  simp only [parseRule, hexclude, hdrop, htrim '|' (by decide), htrim '^' (by decide),
    hlast '^' (by decide), hsuffix, hstart, hslash, Bool.and_false, Bool.false_eq_true, if_false, if_true]
  simp [parseRegexp, hip]

lemma separable_regexp {isExclude isImportant : Bool} {expression : Line}
    (hchars : ∀ c ∈ expression, c ≠ '\n' ∧ c ≠ '\r' ∧ c ≠ ' ') (hdollar : isExclude = true → '$' ∉ expression)
    (himportant : isImportant = true → isExclude = true) :
    Separable (exception isExclude ++ ('/' :: (expression ++ ['/']))) isImportant := by
  have hspace : ' ' ∉ expression := fun h => (hchars ' ' h).2.2 rfl
  refine ⟨by simp, ?_, ?_, ⟨exception isExclude ++ '/' :: expression, ['/'], by simp, by simp, by decide⟩,
    ?_, ?_⟩
  · cases isExclude <;> simp [exception]
  · cases isExclude <;> simpa [exception] using hspace
  · intro h
    cases isExclude with
    | true => cases h
    | false =>
      rw [← Bool.not_eq_true]
      exact fun hi => absurd (himportant hi) Bool.false_ne_true
  · intro h
    cases isExclude with
    | true => simpa [exception] using hdollar rfl
    | false => cases h

lemma parseLine_write {f : Filter} (h : f.WellFormed env addrs) :
    parseLine env addrs f.write = f.ruleLine?.elim .ignored .rule := by
  cases f with
  | comment text => rfl
  | name domain =>
    obtain ⟨hne, hchars, hname⟩ := h
    have hhead : ∀ x, isNameChar x = false → domain.head? ≠ some x := fun x hx hhead =>
      Bool.false_ne_true (hx.symm.trans (hchars x (mem_of_mem_head? hhead)))
    have hempty : domain.isEmpty = false := by simpa using hne
    simp [parseLine, write, hempty, hhead '!' rfl, hhead '#' rfl, hname, ruleLine?]
  | host address domain =>
    obtain ⟨haddr, hne, hchars, hdomain, -, hname, hline⟩ := h
    have hhead : ∀ x, isAddressChar x = false → (address ++ ' ' :: domain).head? ≠ some x := by
      intro x hx hhead
      rw [head?_append_of_ne_nil _ hne] at hhead
      exact Bool.false_ne_true (hx.symm.trans (hchars x (mem_of_mem_head? hhead)))
    have hspace : ' ' ∉ address := fun hmem => Bool.false_ne_true (hchars ' ' hmem)
    rw [write] at hline ⊢
    have hempty : domain.isEmpty = false := by simpa using hdomain
    have hcomment : ((address ++ ' ' :: domain).isEmpty || (address ++ ' ' :: domain).head? == some '!' ||
        (address ++ ' ' :: domain).head? == some '#') = false := by
      rw [Bool.or_eq_false_iff, Bool.or_eq_false_iff, beq_eq_false_iff_ne, beq_eq_false_iff_ne]
      exact ⟨⟨by simp, hhead '!' rfl⟩, hhead '#' rfl⟩
    rw [parseLine, hcomment, hline, parseHostLine, cut_append_cons hspace]
    simp [haddr, hname, ruleLine?, hempty]
  | pattern isExclude anchor domain hasEnd isImportant =>
    obtain ⟨hne, hchars, hname, hline⟩ := h
    rw [write, parseLine_separable addrs (separable_pattern isImportant hne hchars) hline,
      parseRule_pattern isImportant hne hchars hname]
    rfl
  | regexp isExclude expression isImportant =>
    obtain ⟨hchars, hdollar, himportant, hip, hline⟩ := h
    rw [write, parseLine_separable addrs (separable_regexp hchars hdollar himportant) hline,
      parseRule_regexp isImportant hip]
    rfl

lemma not_mem_write {f : Filter} (h : f.WellFormed env addrs) {x : Char} (hx : x = '\n' ∨ x = '\r') :
    x ∉ f.write := by
  have hpattern : isPatternChar x = false := by rcases hx with rfl | rfl <;> rfl
  have haddress : isAddressChar x = false := by rcases hx with rfl | rfl <;> rfl
  have hname : isNameChar x = false := by rcases hx with rfl | rfl <;> rfl
  have himportance : ∀ b, x ∉ importance b := by rcases hx with rfl | rfl <;> decide
  have hexception : ∀ b, x ∉ exception b := by rcases hx with rfl | rfl <;> decide
  cases f with
  | comment text =>
    rcases hx with rfl | rfl
    · simpa [write] using h.1
    · simpa [write] using h.2
  | name domain => exact fun hmem => Bool.false_ne_true (hname.symm.trans (h.2.1 x hmem))
  | host address domain =>
    intro hmem
    rcases mem_append.1 hmem with hmem | hmem
    · exact Bool.false_ne_true (haddress.symm.trans (h.2.2.1 x hmem))
    · rcases mem_cons.1 hmem with rfl | hmem
      · rcases hx with hx | hx <;> cases hx
      · exact Bool.false_ne_true (hname.symm.trans (h.2.2.2.2.1 x hmem))
  | pattern isExclude anchor domain hasEnd isImportant =>
    simp only [write, mem_append, not_or]
    refine ⟨⟨hexception _, ?_, not_mem_of_pattern h.2.1 hpattern, ?_⟩, himportance _⟩
    · rcases hx with rfl | rfl <;> cases anchor <;> decide
    · rcases hx with rfl | rfl <;> cases hasEnd <;> decide
  | regexp isExclude expression isImportant =>
    have hexpression : x ∉ expression := fun hmem => by
      rcases hx with rfl | rfl
      · exact (h.1 _ hmem).1 rfl
      · exact (h.1 _ hmem).2.1 rfl
    have hslash : x ≠ '/' := by rcases hx with rfl | rfl <;> decide
    simp only [write, mem_append, mem_cons, not_or]
    exact ⟨⟨hexception _, hslash, hexpression, hslash, not_mem_nil⟩, himportance _⟩

def text (fs : List Filter) : String := String.ofList (['\n'].intercalate (fs.map write))

variable {fs : List Filter} (h : ∀ f ∈ fs, f.WellFormed env addrs)

include h

lemma textLines_text (hne : fs ≠ []) : textLines (text fs) = fs.map write := by
  rw [textLines, text, String.toList_ofList]
  refine splitOn_intercalate _ ?_ (by simpa using hne)
  intro line hline
  obtain ⟨f, hf, rfl⟩ := mem_map.1 hline
  exact not_mem_write (h f hf) (.inl rfl)

lemma parseLine_dropCR {f : Filter} (hf : f ∈ fs) :
    parseLine env addrs (dropCR f.write) = f.ruleLine?.elim .ignored .rule := by
  have hcr : dropCR f.write = f.write := by
    have hmem := not_mem_write (h f hf) (.inr rfl)
    rw [dropCR]
    by_cases hnil : f.write = []
    · rw [hnil]
      rfl
    · exact trimSuffix_of_not_mem hmem hnil []
  rw [hcr, parseLine_write (h f hf)]

lemma ruleLines_write : ruleLines env addrs (fs.map write) = fs.filterMap ruleLine? := by
  rw [ruleLines, filterMap_map]
  refine filterMap_congr fun f hf => ?_
  rw [Function.comp_apply, parseLine_dropCR h hf]
  cases f.ruleLine? <;> rfl

end Filter

end SingBox.AdGuard
