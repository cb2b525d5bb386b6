import Mathlib.Data.List.DropRight
import SingBox.Provider.LinkSafety

namespace SingBox.Provider

open SingBox.Options Lib.Text Lib.Maps Lib.Regexp Lib.Errors List Option Function

section Numbers

variable {n : ℕ}

lemma digits?_eq_some {s : List Char} (h : digits? s = some n) :
    s ≠ [] ∧ ∀ c ∈ s, c.isDigit = true := by
  rw [digits?] at h
  split_ifs at h with hs
  simpa [not_or] using hs

variable {text : String}

lemma atoi_of_digits (h : digits? text.toList = some n) (hn : n < 2 ^ 63) : atoi text = n := by
  obtain ⟨hne, hdigits⟩ := digits?_eq_some h
  have hclamp : max (-2 ^ 63) (min (2 ^ 63 - 1) (n : ℤ)) = n := by omega
  have hsign : ∀ c ∈ ['-', '+'], ∀ s, text.toList ≠ c :: s := by
    intro c hc s htext
    rw [htext] at hdigits
    have hdigit := hdigits c mem_cons_self
    simp only [mem_cons, not_mem_nil, or_false] at hc
    rcases hc with rfl | rfl <;> revert hdigit <;> decide
  rw [atoi]
  split
  · next s hs => exact absurd hs (hsign '-' (by simp) s)
  · next s hs => exact absurd hs (hsign '+' (by simp) s)
  · rw [h]
    exact hclamp

lemma stringToUint16_of_digits {port : UInt16} (h : digits? text.toList = some port.toNat) :
    stringToUint16 text = port := by
  have hlt := port.toNat_lt
  rw [stringToUint16, atoi_of_digits h (by omega), ← UInt16.toNat_inj, UInt16.ofInt, UInt16.toNat_ofNat']
  omega

end Numbers

inductive Base64Variant where
  | std
  | rawStd
  | url
  | rawURL
  deriving DecidableEq

def TextDecoders.base64 (d : TextDecoders) : Base64Variant → String → Option String
  | .std => d.base64Std
  | .rawStd => d.base64RawStd
  | .url => d.base64URL
  | .rawURL => d.base64RawURL

def isBase64Char (c : Char) : Bool := c.isAlphanum || ['+', '/', '-', '_', '='].contains c

structure Base64Laws (d : TextDecoders) (encode : Base64Variant → String → String) : Prop where
  decode_encode : ∀ v text, d.base64 v (encode v text) = some text
  decode_other : ∀ v w text, d.base64 v (encode w text) = none ∨ d.base64 v (encode w text) = some text
  alphabet : ∀ v text, ∀ c ∈ (encode v text).toList, isBase64Char c = true
  rejects : ∀ v text, '@' ∈ text.toList → d.base64 v text = none
  queryUnescape_empty : d.queryUnescape "" = some ""
  toLower_ss : d.toLower "ss" = "ss"

section Decode

variable {text : String}

lemma decodeBase64Safe_of_none {d : TextDecoders} (h : ∀ v, d.base64 v text = none) :
    decodeBase64Safe d text = text := by
  have h₁ := h .std
  have h₂ := h .rawStd
  have h₃ := h .url
  have h₄ := h .rawURL
  simp only [TextDecoders.base64] at h₁ h₂ h₃ h₄
  rw [decodeBase64Safe, h₁, h₂, h₃, h₄]
  rfl

variable {d : TextDecoders} {encode : Base64Variant → String → String} (h : Base64Laws d encode)
include h

lemma Base64Laws.decodeBase64Safe_encode (v : Base64Variant) (text : String) :
    decodeBase64Safe d (encode v text) = text := by
  have hstd := h.decode_other .std v text
  have hrawStd := h.decode_other .rawStd v text
  have hurl := h.decode_other .url v text
  have hrawURL := h.decode_other .rawURL v text
  have hself := h.decode_encode v text
  simp only [TextDecoders.base64] at hstd hrawStd hurl hrawURL
  rw [decodeBase64Safe]
  rcases hstd with hstd | hstd
  · rcases hrawStd with hrawStd | hrawStd
    · rcases hurl with hurl | hurl
      · cases v <;> simp_all [TextDecoders.base64]
      · simp [hstd, hrawStd, hurl]
    · simp [hstd, hrawStd]
  · simp [hstd]

lemma Base64Laws.decodeBase64Safe_link (hat : '@' ∈ text.toList) : decodeBase64Safe d text = text :=
  decodeBase64Safe_of_none fun v => h.rejects v text hat

lemma Base64Laws.not_mem {c : Char} (hc : isBase64Char c = false) (v : Base64Variant) (text : String) :
    c ∉ (encode v text).toList := by
  intro hmem
  rw [h.alphabet v text c hmem] at hc
  cases hc

end Decode

variable {user host port tag : List Char}

def linkChars (user host port tag : List Char) : List Char :=
  user ++ '@' :: (host ++ ':' :: (port ++ '#' :: tag))

lemma dot_of_not_mem {s : List Char} (h : '\n' ∉ s) : ∀ c ∈ s, Re.dot c = true := by
  intro c hc
  rw [Re.dot, bne_iff_ne]
  rintro rfl
  exact h hc

variable {c : Char}

lemma run_query_none (hslash : c ≠ '/') (hquestion : c ≠ '?') (n : ℕ) (s : List Char) (g : Groups)
    (k : Cont) : (query n).run (c :: s) g k = k (c :: s) g := by
  rw [query, run_opt_of_none]
  rw [run_seq, Re.run, run_char_of_ne hslash, orElse, Re.run, run_char_of_ne hquestion, orElse, run_seq,
    run_char_of_ne hslash]

lemma run_field {u v : List Char} {n : ℕ} {r : Re} {g result : Groups} {k : Cont} (hu : c ∉ u)
    (hu' : '\n' ∉ u) (h : r.run v (update g n (String.ofList u)) k = some result) :
    (Re.seq (anyText n) (.seq (.char c) r)).run (u ++ c :: v) g k = some result := by
  refine run_seq_lazyStar (dot_of_not_mem hu') (fun u₁ e u₂ hsplit g => ?_) ?_
  · rw [run_seq, run_char_of_ne (fun he => hu (by simp [hsplit, he]))]
  · rwa [run_seq, run_char_self]

lemma linkParser_plain (huser : '@' ∉ user) (huser' : '\n' ∉ user) (hhost : ':' ∉ host)
    (hhost' : '\n' ∉ host) (hport : ∀ c ∈ port, c.isDigit = true) (hne : port ≠ []) (htag : '\n' ∉ tag) :
    ∃ result, linkParser.findStringSubmatch (String.ofList (linkChars user host port tag)) = some result ∧
      result 1 = String.ofList user ∧ result 2 = String.ofList host ∧ result 3 = String.ofList port ∧
      result 4 = "" ∧ result 5 = String.ofList tag := by
  let groups : Groups := update (update (update (update (fun _ => "")
    1 (String.ofList user)) 2 (String.ofList host)) 3 (String.ofList port)) 5 (String.ofList tag)
  refine ⟨groups, ?_, rfl, rfl, rfl, rfl, rfl⟩
  rw [Re.findStringSubmatch, String.toList_ofList, linkChars, linkParser]
  refine run_field huser huser' (run_field hhost hhost' ?_)
  refine run_seq_plus hport hne (by simp) ?_
  simp only [Re.seqs, anyText]
  rw [run_seq, run_query_none (by decide) (by decide), run_seq, run_char_self,
    run_lazyStar_end (dot_of_not_mem htag)]

lemma linkParser_eq_none {content : String} (h : '\n' ∈ content.toList) :
    linkParser.findStringSubmatch content = none := by
  rw [← not_isSome_iff_eq_none, findStringSubmatch_isSome_iff]
  exact fun haccepts => not_mem_of_accepts (by decide) haccepts h

variable {p : Char → Bool}

lemma rdropWhile_append_of_last (hc : p c = false) (a b : List Char) :
    (a ++ c :: b).rdropWhile p = a ++ c :: b.rdropWhile p := by
  induction b using reverseRecOn with
  | nil => exact rdropWhile_concat_neg p a c (by simp [hc])
  | append_singleton b x ih =>
    rw [← cons_append, ← append_assoc, rdropWhile_concat, rdropWhile_concat, ih]
    split_ifs <;> simp

lemma trim_append {c' : Char} (hc : p c = false) (hc' : p c' = false) (a b : List Char) :
    trim p (String.ofList (c :: (a ++ c' :: b))) = String.ofList (c :: (a ++ c' :: b.rdropWhile p)) := by
  rw [trim, String.toList_ofList, dropWhile_cons_of_neg (by simp [hc])]
  congr 1
  exact rdropWhile_append_of_last hc' (c :: a) b

def keptChars (tag : List Char) : List Char :=
  (substringBefore [':', '/', '/'] (tag.rdropWhile isSpace)).rdropWhile isSpace

def keptTag (tag : String) : String := String.ofList (keptChars tag.toList)

lemma splitFrom_first (sep s : List Char) (hsep : sep ≠ []) :
    ∃ rest, splitFrom sep [] 0 s = substringBefore sep s :: rest := by
  rw [splitFrom_eq_cut hsep, substringBefore]
  cases cut sep s with
  | none => exact ⟨[], rfl⟩
  | some x => exact ⟨_, rfl⟩

lemma not_begins_scheme (hc : c ≠ ':') (s : List Char) :
    [':', '/', '/'].isPrefixOf (c :: s) = false := by
  simp [isPrefixOf, hc.symm]

lemma cut_scheme_append {u : List Char} (hu : ':' ∉ u) (v : List Char) :
    cut [':', '/', '/'] (u ++ v) = (cut [':', '/', '/'] v).map fun x => (u ++ x.1, x.2) := by
  refine cut_append fun u₁ c u₂ h => not_begins_scheme ?_ _
  rintro rfl
  exact hu (by simp [h])

lemma split_scheme {scheme : List Char} (h : ':' ∉ scheme) (s : List Char) :
    ∃ rest, split "://" (String.ofList (scheme ++ ':' :: '/' :: '/' :: s)) =
      String.ofList scheme :: String.ofList (substringBefore [':', '/', '/'] s) :: rest := by
  obtain ⟨rest, hrest⟩ := splitFrom_first [':', '/', '/'] s (by simp)
  refine ⟨rest.map String.ofList, ?_⟩
  have hcut : cut [':', '/', '/'] (':' :: '/' :: '/' :: s) = some ([], s) := rfl
  rw [split, String.toList_ofList, String.toList_ofList, splitFrom_eq_cut (by simp), cut_scheme_append h,
    hcut, map_some, elim_some, hrest]
  simp

lemma substringBefore_linkChars (huser : ':' ∉ user) (hhost : ':' ∉ host)
    (hport : ∀ c ∈ port, c.isDigit = true) (hne : port ≠ []) (tag : List Char) :
    substringBefore [':', '/', '/'] (linkChars user host port tag) =
      linkChars user host port (substringBefore [':', '/', '/'] tag) := by
  have hcolon : ':' ∉ port := fun h => absurd (hport _ h) (by decide)
  have hdigit : ∀ s, [':', '/', '/'].isPrefixOf (':' :: (port ++ s)) = false := by
    obtain ⟨c, port, rfl⟩ := exists_cons_of_ne_nil hne
    intro s
    have hc : c ≠ '/' := fun h => absurd (hport c mem_cons_self) (by rw [h]; decide)
    simp [isPrefixOf, hc.symm]
  have hcut : cut [':', '/', '/'] (linkChars user host port tag) =
      (cut [':', '/', '/'] tag).map fun x => (linkChars user host port x.1, x.2) := by
    have hsign : ∀ {c : Char}, c ≠ ':' → ∀ s, cut [':', '/', '/'] (c :: s) =
        (cut [':', '/', '/'] s).map fun x => (c :: x.1, x.2) := by
      intro c hc s
      rw [cut, not_begins_scheme hc]
      rfl
    rw [linkChars, cut_scheme_append huser, hsign (by decide), cut_scheme_append hhost, cut, hdigit,
      if_neg (by simp), cut_scheme_append hcolon, hsign (by decide)]
    cases cut [':', '/', '/'] tag <;> rfl
  rw [substringBefore, substringBefore, hcut]
  cases cut [':', '/', '/'] tag <;> rfl

lemma linkChars_eq (user host port tag : List Char) :
    linkChars user host port tag = (user ++ '@' :: (host ++ ':' :: port)) ++ '#' :: tag := by
  simp [linkChars]

lemma trimSpace_linkChars (huser : ∀ c ∈ user, isSpace c = false) (host port tag : List Char) :
    trimSpace (String.ofList (linkChars user host port tag)) =
      String.ofList (linkChars user host port (tag.rdropWhile isSpace)) := by
  rw [linkChars_eq, linkChars_eq]
  cases user with
  | nil => exact trim_append (by decide) (by decide) _ tag
  | cons c user => exact trim_append (huser c mem_cons_self) (by decide) _ tag

lemma trimSpace_scheme (user host port tag : List Char) :
    trimSpace (String.ofList ('s' :: 's' :: ':' :: '/' :: '/' :: linkChars user host port tag)) =
      String.ofList ('s' :: 's' :: ':' :: '/' :: '/' :: linkChars user host port (tag.rdropWhile isSpace)) := by
  rw [linkChars_eq, linkChars_eq]
  exact trim_append (by decide) (by decide) ('s' :: ':' :: '/' :: '/' :: (user ++ '@' :: (host ++ ':' :: port))) tag

lemma isSpace_of_isBase64Char (h : isBase64Char c = true) : isSpace c = false := by
  delta isBase64Char Char.isAlphanum Char.isAlpha Char.isUpper Char.isLower Char.isDigit at h
  simp only [Bool.or_eq_true, Bool.and_eq_true, decide_eq_true_eq, contains_eq_mem, mem_cons,
    not_mem_nil, or_false, ge_iff_le, UInt32.le_iff_toNat_le] at h
  simp only [isSpace, Char.toNat]
  rcases h with ((h | h) | h) | h
  · simp at h ⊢
    omega
  · simp at h ⊢
    omega
  · simp at h ⊢
    omega
  · rcases h with rfl | rfl | rfl | rfl | rfl <;> decide

def ssLink (encoded host port tag : String) : String :=
  "ss://" ++ encoded ++ "@" ++ host ++ ":" ++ port ++ "#" ++ tag

section Parse

variable {d : TextDecoders} {encode : Base64Variant → String → String} (h : Base64Laws d encode)
include h

lemma Base64Laws.parseLine_ssLink (order : MapOrder) (v : Base64Variant) (text : String) {host port : String}
    (hhost : ':' ∉ host.toList) (hport : ∀ c ∈ port.toList, c.isDigit = true) (hne : port.toList ≠ [])
    (tag : String) :
    parseLine d order (ssLink (encode v text) host port tag) =
      kept (newSSNativeParser d (String.ofList
        (linkChars (encode v text).toList host.toList port.toList (keptChars tag.toList)))) := by
  have hlink : ssLink (encode v text) host port tag = String.ofList ('s' :: 's' :: ':' :: '/' :: '/' ::
      linkChars (encode v text).toList host.toList port.toList tag.toList) := by
    rw [← String.toList_inj, String.toList_ofList]
    simp [ssLink, linkChars]
  have hspace : ∀ c ∈ (encode v text).toList, isSpace c = false :=
    fun c hc => isSpace_of_isBase64Char (h.alphabet v text c hc)
  obtain ⟨rest, hsplit⟩ := @split_scheme ['s', 's'] (by decide)
    (linkChars (encode v text).toList host.toList port.toList (tag.toList.rdropWhile isSpace))
  rw [substringBefore_linkChars (h.not_mem (by decide) v text) hhost hport hne] at hsplit
  simp only [cons_append, nil_append] at hsplit
  rw [hlink, parseLine, trimSpace_scheme, hsplit]
  dsimp only
  rw [show trimSpace "ss" = "ss" from rfl, h.toLower_ss, trimSpace_linkChars hspace,
    h.decodeBase64Safe_link (by simp [linkChars]), trimSpace_linkChars hspace, rdropWhile_idempotent]
  rfl

end Parse

def ssOutbound (d : TextDecoders) (method password host : String) (port : UInt16) (tag : String) : Outbound :=
  { type := .shadowsocks, tag := decodeURIComponent d tag, server := host, serverPort := port
    protocol := .shadowsocks { method, password } }

lemma splitChar_cons {first : String} (hfirst : c ∉ first.toList) (rest : String) :
    splitChar c (first ++ String.singleton c ++ rest) = first :: splitChar c rest := by
  rw [splitChar, splitChar, String.toList_append, String.toList_append, String.toList_singleton,
    append_assoc, singleton_append, splitOn_append_cons_self, splitOn_of_not_mem hfirst,
    singleton_append, map_cons, String.ofList_toList]

lemma splitChar_head (c : Char) (text : String) :
    ∃ first rest, splitChar c text = first :: rest ∧ (first = text ↔ c ∉ text.toList) := by
  by_cases hc : c ∈ text.toList
  · obtain ⟨before, after, happend, hbefore⟩ := eq_append_cons_of_mem hc
    have htext : text = String.ofList before ++ String.singleton c ++ String.ofList after := by
      rw [← String.toList_inj]
      simp [happend]
    refine ⟨String.ofList before, splitChar c (String.ofList after), ?_, iff_of_false ?_ (not_not.2 hc)⟩
    · rw [htext]
      exact splitChar_cons (by simpa using hbefore) _
    · intro heq
      rw [← heq, String.toList_ofList] at hc
      exact hbefore hc
  · exact ⟨text, [], splitChar_of_not_mem hc, by simp [hc]⟩

section Parse

variable {d : TextDecoders} {encode : Base64Variant → String → String} (h : Base64Laws d encode)
include h

lemma Base64Laws.newSSNativeParser_linkChars (v : Base64Variant) {method password first : String}
    (hmethod : ':' ∉ method.toList) {rest : List String}
    (hfirst : splitChar ':' password = first :: rest) {host portText : String} {port : UInt16}
    (hhost : ':' ∉ host.toList) (hport : digits? portText.toList = some port.toNat)
    (hhost' : '\n' ∉ host.toList) (htag : '\n' ∉ tag) :
    newSSNativeParser d (String.ofList
        (linkChars (encode v (method ++ ":" ++ password)).toList host.toList portText.toList tag)) =
      .ok (ssOutbound d method first host port (String.ofList tag)) := by
  obtain ⟨hne, hdigits⟩ := digits?_eq_some hport
  obtain ⟨result, hresult, h₁, h₂, h₃, h₄, h₅⟩ := linkParser_plain
    (h.not_mem (by decide) v _) (h.not_mem (by decide) v _) hhost hhost' hdigits hne htag
  have hsplit : splitChar ':' (method ++ ":" ++ password) = method :: first :: rest := by
    rw [← hfirst]
    exact splitChar_cons hmethod password
  have hquery : decodeURIComponent d "" = "" := by
    rw [decodeURIComponent, h.queryUnescape_empty]
    rfl
  rw [newSSNativeParser, hresult]
  dsimp only
  rw [h₁, h₂, h₃, h₄, h₅, String.ofList_toList, String.ofList_toList, String.ofList_toList,
    h.decodeBase64Safe_encode, hsplit, stringToUint16_of_digits hport, hquery]
  rfl

theorem ss_link_round_trip_iff (order : MapOrder) (v : Base64Variant) {method : String}
    (hmethod : ':' ∉ method.toList) (password : String) {host : String}
    (hhost : '@' ∉ host.toList ∧ ':' ∉ host.toList ∧ '#' ∉ host.toList) {portText : String} {port : UInt16}
    (hport : digits? portText.toList = some port.toNat) (tag : String) :
    parseLine d order (ssLink (encode v (method ++ ":" ++ password)) host portText tag) =
        .ok [ssOutbound d method password host port tag] ↔
      ':' ∉ password.toList ∧ '\n' ∉ host.toList ∧ '\n' ∉ (keptTag tag).toList ∧
        decodeURIComponent d (keptTag tag) = decodeURIComponent d tag := by
  obtain ⟨hne, hdigits⟩ := digits?_eq_some hport
  obtain ⟨first, rest, hfirst, hwhole⟩ := splitChar_head ':' password
  rw [h.parseLine_ssLink order v _ hhost.2.1 hdigits hne, keptTag, String.toList_ofList]
  by_cases hline : '\n' ∉ host.toList ∧ '\n' ∉ keptChars tag.toList
  · rw [h.newSSNativeParser_linkChars v hmethod hfirst hhost.2.1 hport hline.1 hline.2, kept]
    simp [ssOutbound, hline, hwhole, and_comm]
  · have hbreak : '\n' ∈ (String.ofList (linkChars (encode v (method ++ ":" ++ password)).toList
        host.toList portText.toList (keptChars tag.toList))).toList := by
      rw [String.toList_ofList, linkChars]
      rcases not_and_or.1 hline with hmem | hmem
      · simp [not_not.1 hmem]
      · simp [not_not.1 hmem]
    rw [newSSNativeParser, linkParser_eq_none hbreak]
    refine iff_of_false ?_ fun hall => hline ⟨hall.2.1, hall.2.2.1⟩
    simp [kept]

end Parse

def letter (n : ℕ) : Char := Char.ofNat (97 + n % 16)

def letterValue (c : Char) : Option ℕ :=
  if 'a' ≤ c ∧ c ≤ 'p' then some (c.toNat - 97) else none

def letters (c : Char) : List Char :=
  [letter (c.toNat / 16 ^ 5), letter (c.toNat / 16 ^ 4), letter (c.toNat / 16 ^ 3),
    letter (c.toNat / 16 ^ 2), letter (c.toNat / 16), letter c.toNat]

def lettersEncode (text : String) : String := String.ofList (text.toList.flatMap letters)

def lettersFrom : ℕ → ℕ → List Char → Option (List Char)
  | _, left, [] => if left = 6 then some [] else none
  | n, left, c :: s => (letterValue c).bind fun k =>
    if left = 1 then (lettersFrom 0 6 s).map (Char.ofNat (16 * n + k) :: ·)
    else lettersFrom (16 * n + k) (left - 1) s

def lettersDecode (text : String) : Option String := (lettersFrom 0 6 text.toList).map String.ofList

def letterDecoders : TextDecoders :=
  { plainDecoders.toTextDecoders with
    base64Std := lettersDecode, base64RawStd := lettersDecode, base64URL := lettersDecode
    base64RawURL := lettersDecode }

lemma letterValue_letter (n : ℕ) : letterValue (letter n) = some (n % 16) := by
  have hlt := Nat.mod_lt n (show 0 < 16 by decide)
  rw [letter]
  revert hlt
  generalize n % 16 = k
  revert k
  decide

lemma isBase64Char_letter (n : ℕ) : isBase64Char (letter n) = true := by
  have hlt := Nat.mod_lt n (show 0 < 16 by decide)
  rw [letter]
  revert hlt
  generalize n % 16 = k
  revert k
  decide

lemma toNat_lt (c : Char) : c.toNat < 16 ^ 6 := by
  have hvalid := c.valid
  simp only [UInt32.isValidChar, Nat.isValidChar] at hvalid
  rw [Char.toNat]
  omega

lemma lettersFrom_letters (c : Char) (s : List Char) :
    lettersFrom 0 6 (letters c ++ s) = (lettersFrom 0 6 s).map (c :: ·) := by
  have hlt := toNat_lt c
  have hvalue : 16 * (16 * (16 * (16 * (16 * (16 * 0 + c.toNat / 16 ^ 5 % 16) + c.toNat / 16 ^ 4 % 16) +
      c.toNat / 16 ^ 3 % 16) + c.toNat / 16 ^ 2 % 16) + c.toNat / 16 % 16) + c.toNat % 16 = c.toNat := by
    omega
  simp only [letters, cons_append, nil_append, lettersFrom, letterValue_letter, bind_some,
    hvalue, Char.ofNat_toNat]
  rfl

lemma lettersDecode_encode (text : String) : lettersDecode (lettersEncode text) = some text := by
  have hchars : ∀ s : List Char, lettersFrom 0 6 (s.flatMap letters) = some s := by
    intro s
    induction s with
    | nil => rfl
    | cons c s ih => rw [flatMap_cons, lettersFrom_letters, ih, map_some]
  rw [lettersDecode, lettersEncode, String.toList_ofList, hchars, map_some, String.ofList_toList]

lemma lettersFrom_eq_none (hc : letterValue c = none) {s : List Char} (h : c ∈ s) (n left : ℕ) :
    lettersFrom n left s = none := by
  induction s generalizing n left with
  | nil => cases h
  | cons c' s ih =>
    rw [lettersFrom]
    rcases mem_cons.1 h with rfl | h
    · rw [hc, bind_none]
    · simp only [ih h, map_none, ite_self, bind_fun_none]

lemma base64_letterDecoders (v : Base64Variant) : letterDecoders.base64 v = lettersDecode := by
  cases v <;> rfl

lemma base64Laws_letters : Base64Laws letterDecoders fun _ => lettersEncode where
  decode_encode v text := by rw [base64_letterDecoders, lettersDecode_encode]
  decode_other v _ text := .inr (by rw [base64_letterDecoders, lettersDecode_encode])
  alphabet v text c hc := by
    rw [lettersEncode, String.toList_ofList, mem_flatMap] at hc
    obtain ⟨c', -, hc⟩ := hc
    simp only [letters, mem_cons, not_mem_nil, or_false] at hc
    rcases hc with rfl | rfl | rfl | rfl | rfl | rfl <;> exact isBase64Char_letter _
  rejects v text hat := by
    rw [base64_letterDecoders, lettersDecode, lettersFrom_eq_none (by decide) hat, map_none]
  queryUnescape_empty := rfl
  toLower_ss := rfl

theorem ss_link_round_trip_aes :
    parseLine letterDecoders .asListed (ssLink (lettersEncode ("aes" ++ ":" ++ "key")) "h" "443" "a") =
      .ok [ssOutbound letterDecoders "aes" "key" "h" 443 "a"] :=
  (ss_link_round_trip_iff base64Laws_letters .asListed .std (by decide) "key" (by decide) (by decide) "a").2
    (by decide)

theorem ss_link_second_key_lost :
    parseLine letterDecoders .asListed (ssLink (lettersEncode ("aes" ++ ":" ++ "key:key2")) "h" "443" "a") =
      .ok [ssOutbound letterDecoders "aes" "key" "h" 443 "a"] := by
  have hlaws := base64Laws_letters
  have hport : digits? "443".toList = some (443 : UInt16).toNat := by decide
  rw [hlaws.parseLine_ssLink .asListed .std _ (by decide) (all_eq_true.1 (by decide)) (by decide),
    hlaws.newSSNativeParser_linkChars .std (by decide) rfl (by decide) hport (by decide) (by decide)]
  rfl

end SingBox.Provider
