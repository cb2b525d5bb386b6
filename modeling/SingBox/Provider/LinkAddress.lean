import SingBox.Provider.ShadowsocksLink

/-! Share links as a user, a host, a port and what follows, and what the patterns make of them. -/

namespace SingBox.Provider

open SingBox.Options Lib.Text Lib.Regexp Lib.Errors List Function

inductive AddressScheme where
  | ss
  | tuic
  | vmess
  | vless
  | trojan
  | hysteria
  | hysteria2
  | hy2
  deriving DecidableEq, Repr

namespace AddressScheme

def name : AddressScheme → String
  | ss => "ss"
  | tuic => "tuic"
  | vmess => "vmess"
  | vless => "vless"
  | trojan => "trojan"
  | hysteria => "hysteria"
  | hysteria2 => "hysteria2"
  | hy2 => "hy2"

def pattern : AddressScheme → Re
  | ss | vmess | vless | trojan => linkParser
  | tuic => tuicParser
  | hysteria => hysteriaParser
  | hysteria2 | hy2 => hysteria2Parser

def portGroup : AddressScheme → ℕ
  | tuic => 4
  | hysteria => 2
  | _ => 3

def queryGroup : AddressScheme → ℕ
  | tuic => 5
  | hysteria => 3
  | _ => 4

/-- Whether the pattern asks for a fragment. -/
def isTagged : AddressScheme → Bool
  | hysteria | hysteria2 | hy2 => false
  | _ => true

end AddressScheme

structure LinkAddress where
  user : List Char
  password : List Char
  host : List Char
  port : Option (List Char)
  query : Option (Char × List Char)
  tag : Option (List Char)

namespace LinkAddress

variable (a : LinkAddress) (s : AddressScheme)

def portChars : List Char := a.port.elim [] (':' :: ·)

def queryChars : List Char := a.query.elim [] fun x => x.1 :: x.2

def tagChars : List Char := a.tag.elim [] ('#' :: ·)

def chars : List Char :=
  let rest := a.host ++ (a.portChars ++ (a.queryChars ++ a.tagChars))
  match s with
  | .tuic => a.user ++ ':' :: (a.password ++ '@' :: rest)
  | .hysteria => rest
  | _ => a.user ++ '@' :: rest

def content : String := String.ofList (a.chars s)

def queryText : String := (a.query.map Prod.snd).elim "" String.ofList

structure Plain (a : LinkAddress) (s : AddressScheme) : Prop where
  user : ∀ c ∈ a.user, c ∉ ['@', '#', '\n']
  user_ne : a.user ≠ []
  tuic : s = .tuic → ':' ∉ a.user
  password : ∀ c ∈ a.password, c ∉ ['@', '#', '\n']
  host : ∀ c ∈ a.host, c ∉ [':', '/', '?', '#', '\n']
  host_ne : a.host ≠ []
  query : ∀ x ∈ a.query, (x.1 = '/' ∨ x.1 = '?') ∧ '#' ∉ x.2 ∧ '\n' ∉ x.2
  tag : ∀ t ∈ a.tag, '\n' ∉ t

variable {a s} {c : Char} (h : a.Plain s)

include h

lemma Plain.not_mem_user (hc : c ∈ ['@', '#', '\n']) : c ∉ a.user := fun hmem => h.user c hmem hc

lemma Plain.not_mem_password (hc : c ∈ ['@', '#', '\n']) : c ∉ a.password :=
  fun hmem => h.password c hmem hc

lemma Plain.not_mem_host (hc : c ∈ [':', '/', '?', '#', '\n']) : c ∉ a.host := fun hmem => h.host c hmem hc

end LinkAddress

section Patterns

open Re

variable {n m : ℕ} {g result : Groups}

abbrev atEnd : Cont := fun rest g => if rest.isEmpty then some g else none

lemma run_query_nil (n : ℕ) (g : Groups) (k : Cont) : (query n).run [] g k = k [] g := by
  rw [query, run_opt_of_none]
  rfl

lemma run_query_mark {c : Char} (hc : c = '/' ∨ c = '?') (s : List Char) (g : Groups) {k : Cont}
    (h : (anyText n).run s g k = some result) : (query n).run (c :: s) g k = some result := by
  rw [query]
  refine run_opt_of_some ?_
  rw [run_seq, Re.run]
  rcases hc with rfl | rfl
  · rw [run_char_self, h]
    rfl
  · rw [run_char_of_ne (by decide), orElse, Re.run, run_char_self, h]
    rfl

def textGroup (g : Groups) (n : ℕ) (text : Option (List Char)) : Groups :=
  text.elim g fun s => update g n (String.ofList s)

lemma textGroup_of_ne {k : ℕ} (h : k ≠ n) (text : Option (List Char)) : textGroup g n text k = g k := by
  cases text with
  | none => rfl
  | some s => exact update_of_ne h _ _

def addressGroups (g : Groups) (k n m : ℕ) (port : List Char) (a : LinkAddress) : Groups :=
  textGroup (textGroup (update g k (String.ofList port)) n (a.query.map Prod.snd)) m a.tag

section Groups

variable {k : ℕ} {port : List Char} {a : LinkAddress}

lemma addressGroups_port (hn : k ≠ n) (hm : k ≠ m) :
    addressGroups g k n m port a k = String.ofList port := by
  rw [addressGroups, textGroup_of_ne hm, textGroup_of_ne hn, update_self]

lemma addressGroups_query (hm : n ≠ m) (hk : n ≠ k) (hg : g n = "") :
    addressGroups g k n m port a n = a.queryText := by
  rw [addressGroups, textGroup_of_ne hm, textGroup, LinkAddress.queryText]
  cases a.query.map Prod.snd with
  | none => exact (update_of_ne hk _ _).trans hg
  | some q => exact update_self _ _ _

end Groups

section Tail

variable {a : LinkAddress} {s : AddressScheme} (ha : a.Plain s)

include ha

lemma run_tag_chars {r : Re} (hr : r = opt (seq (char '#') (anyText m)) ∨
    r = seq (char '#') (anyText m) ∧ a.tag.isSome = true) (g : Groups) :
    r.run a.tagChars g atEnd = some (textGroup g m a.tag) := by
  cases htag : a.tag with
  | none =>
    rcases hr with rfl | ⟨-, h⟩
    · rw [LinkAddress.tagChars, htag, run_opt_of_none]
      · rfl
      · rfl
    · rw [htag] at h
      cases h
  | some t =>
    have hrun : (seq (char '#') (anyText m)).run ('#' :: t) g atEnd =
        some (update g m (String.ofList t)) := by
      rw [run_seq, run_char_self]
      exact run_lazyStar_end (dot_of_not_mem (ha.tag t htag))
    rw [LinkAddress.tagChars, htag]
    rcases hr with rfl | ⟨rfl, -⟩
    · exact run_opt_of_some hrun
    · exact hrun

lemma run_tail {r : Re} (hr : r = opt (seq (char '#') (anyText m)) ∨
    r = seq (char '#') (anyText m) ∧ a.tag.isSome = true) (g : Groups) :
    (seq (query n) r).run (a.queryChars ++ a.tagChars) g atEnd =
      some (textGroup (textGroup g n (a.query.map Prod.snd)) m a.tag) := by
  have hstop : ∀ c s g, c ≠ '#' → r.run (c :: s) g atEnd = none := by
    intro c s g hc
    have hnone : (seq (char '#') (anyText m)).run (c :: s) g atEnd = none := by
      rw [run_seq, run_char_of_ne hc]
    rcases hr with rfl | ⟨rfl, -⟩
    · rw [run_opt_of_none hnone]
      rfl
    · exact hnone
  rw [run_seq, LinkAddress.queryChars]
  cases hquery : a.query with
  | none =>
    change (query n).run a.tagChars g _ = _
    have htag := run_tag_chars ha hr g
    cases ht : a.tag with
    | none =>
      rw [LinkAddress.tagChars, ht] at htag ⊢
      exact (run_query_nil n g _).trans htag
    | some t =>
      rw [LinkAddress.tagChars, ht] at htag ⊢
      exact (run_query_none (by decide) (by decide) n t g _).trans htag
  | some x =>
    obtain ⟨hmark, hhash, hline⟩ := ha.query x hquery
    refine run_query_mark hmark _ g ?_
    refine run_seq_lazyStar (dot_of_not_mem hline) (fun u₁ c u₂ hu g => hstop c _ g ?_)
      (run_tag_chars ha hr _)
    rintro rfl
    exact hhash (by simp [hu])

variable {port : List Char} (hdigits : ∀ c ∈ port, c.isDigit = true) (hne : port ≠ [])

include hdigits hne

lemma run_port_tail {k : ℕ} {r : Re} (hr : r = opt (seq (char '#') (anyText m)) ∨
    r = seq (char '#') (anyText m) ∧ a.tag.isSome = true) (g : Groups) :
    (seq (Provider.port k) (seq (query n) r)).run (port ++ (a.queryChars ++ a.tagChars)) g atEnd =
      some (addressGroups g k n m port a) := by
  have hstop : ∀ c ∈ (a.queryChars ++ a.tagChars).head?, c.isDigit = false := by
    intro c hc
    rw [LinkAddress.queryChars, LinkAddress.tagChars] at hc
    cases hquery : a.query with
    | some x =>
      rw [hquery] at hc
      cases hc
      rcases (ha.query x hquery).1 with h | h <;> rw [h] <;> rfl
    | none =>
      rw [hquery] at hc
      cases htag : a.tag with
      | some t =>
        rw [htag] at hc
        cases hc
        rfl
      | none =>
        rw [htag] at hc
        cases hc
  exact run_seq_plus hdigits hne hstop (run_tail ha hr _)

lemma find_linkParser (htag : a.tag.isSome = true) :
    linkParser.findStringSubmatch
        (String.ofList (a.user ++ '@' :: (a.host ++ ':' :: (port ++ (a.queryChars ++ a.tagChars))))) =
      some (addressGroups (update (update (fun _ => "") 1 (String.ofList a.user)) 2 (String.ofList a.host))
        3 4 5 port a) := by
  rw [Re.findStringSubmatch, String.toList_ofList, linkParser]
  exact run_field (ha.not_mem_user (by simp)) (ha.not_mem_user (by simp))
    (run_field (ha.not_mem_host (by simp)) (ha.not_mem_host (by simp))
      (run_port_tail ha hdigits hne (.inr ⟨rfl, htag⟩) _))

lemma find_tuicParser (htag : a.tag.isSome = true) (hcolon : ':' ∉ a.user) :
    tuicParser.findStringSubmatch (String.ofList (a.user ++ ':' :: (a.password ++ '@' ::
        (a.host ++ ':' :: (port ++ (a.queryChars ++ a.tagChars)))))) =
      some (addressGroups (update (update (update (fun _ => "") 1 (String.ofList a.user))
        2 (String.ofList a.password)) 3 (String.ofList a.host)) 4 5 6 port a) := by
  rw [Re.findStringSubmatch, String.toList_ofList, tuicParser]
  exact run_field hcolon (ha.not_mem_user (by simp))
    (run_field (ha.not_mem_password (by simp)) (ha.not_mem_password (by simp))
      (run_field (ha.not_mem_host (by simp)) (ha.not_mem_host (by simp))
        (run_port_tail ha hdigits hne (.inr ⟨rfl, htag⟩) _)))

lemma find_hysteriaParser :
    hysteriaParser.findStringSubmatch
        (String.ofList (a.host ++ ':' :: (port ++ (a.queryChars ++ a.tagChars)))) =
      some (addressGroups (update (fun _ => "") 1 (String.ofList a.host)) 2 3 4 port a) := by
  rw [Re.findStringSubmatch, String.toList_ofList, hysteriaParser]
  exact run_field (ha.not_mem_host (by simp)) (ha.not_mem_host (by simp))
    (run_port_tail ha hdigits hne (.inl rfl) _)

lemma find_hysteria2Parser :
    hysteria2Parser.findStringSubmatch
        (String.ofList (a.user ++ '@' :: (a.host ++ ':' :: (port ++ (a.queryChars ++ a.tagChars))))) =
      some (addressGroups (update (update (fun _ => "") 1 (String.ofList a.user)) 2 (String.ofList a.host))
        3 4 5 port a) := by
  rw [Re.findStringSubmatch, String.toList_ofList, hysteria2Parser]
  simp only [Re.seqs, anyText]
  refine run_seq_lazyPlus (dot_of_not_mem (ha.not_mem_user (by simp))) ha.user_ne
    (fun u₁ c u₂ hu _ g => ?_) ?_
  · rw [run_seq, run_char_of_ne (fun h => ha.not_mem_user (c := '@') (by simp) (by simp [hu, h]))]
  rw [run_seq, run_char_self]
  refine run_seq_lazyPlus (dot_of_not_mem (ha.not_mem_host (by simp))) ha.host_ne
    (fun u₁ c u₂ hu _ g => ?_) ?_
  · have hc := ha.host c (by simp [hu])
    simp only [mem_cons, not_mem_nil, or_false, not_or] at hc
    rw [run_seq, run_opt_of_none, run_seq, run_query_none hc.2.1 hc.2.2.1, run_opt_of_none]
    · rfl
    · rw [run_seq, run_char_of_ne hc.2.2.2.1]
    · rw [run_seq, run_char_of_ne hc.1]
  rw [run_seq]
  refine run_opt_of_some ?_
  rw [run_seq, run_char_self]
  exact run_port_tail ha hdigits hne (.inl rfl) _

/-- The pattern of the scheme finds the port where it is written, if it is a decimal number. -/
lemma find_port (hport : a.port = some port) (htag : s.isTagged = true → a.tag.isSome = true) :
    ∃ result, s.pattern.findStringSubmatch (a.content s) = some result ∧
      result s.portGroup = String.ofList port ∧ result s.queryGroup = a.queryText := by
  have hchars : a.portChars ++ (a.queryChars ++ a.tagChars) =
      ':' :: (port ++ (a.queryChars ++ a.tagChars)) := by
    rw [LinkAddress.portChars, hport]
    rfl
  rw [LinkAddress.content]
  have hlink := fun htag => find_linkParser ha hdigits hne htag
  have hhysteria2 := find_hysteria2Parser ha hdigits hne
  have hgroups : ∀ g : Groups, g 4 = "" → addressGroups g 3 4 5 port a 3 = String.ofList port ∧
      addressGroups g 3 4 5 port a 4 = a.queryText := fun g hg =>
    ⟨addressGroups_port (by decide) (by decide), addressGroups_query (by decide) (by decide) hg⟩
  cases s with
  | ss | vmess | vless | trojan =>
    simp only [LinkAddress.chars, hchars, AddressScheme.pattern, hlink (htag rfl), Option.some.injEq,
      exists_eq_left']
    exact hgroups _ rfl
  | hysteria2 | hy2 =>
    simp only [LinkAddress.chars, hchars, AddressScheme.pattern, hhysteria2, Option.some.injEq,
      exists_eq_left']
    exact hgroups _ rfl
  | tuic =>
    have htuic := find_tuicParser ha hdigits hne (htag rfl) (ha.tuic rfl)
    simp only [LinkAddress.chars, hchars, AddressScheme.pattern, htuic, Option.some.injEq, exists_eq_left']
    exact ⟨addressGroups_port (by decide) (by decide), addressGroups_query (by decide) (by decide) rfl⟩
  | hysteria =>
    have hhysteria := find_hysteriaParser ha hdigits hne
    simp only [LinkAddress.chars, hchars, AddressScheme.pattern, hhysteria, Option.some.injEq, exists_eq_left']
    exact ⟨addressGroups_port (by decide) (by decide), addressGroups_query (by decide) (by decide) rfl⟩

omit hne in
lemma tag_of_find (hport : a.port = some port) (hs : s.isTagged = true)
    (hfind : (s.pattern.findStringSubmatch (a.content s)).isSome = true) : a.tag.isSome = true := by
  rw [findStringSubmatch_isSome_iff, LinkAddress.content, String.toList_ofList] at hfind
  have hlink : ∀ {l}, linkParser.Accepts l → '#' ∈ l := by
    intro l h
    rw [linkParser] at h
    exact mem_of_accepts_seqs h (by simp)
  have hhash : '#' ∈ a.chars s := by
    cases s with
    | tuic =>
      rw [AddressScheme.pattern, tuicParser] at hfind
      exact mem_of_accepts_seqs hfind (by simp)
    | hysteria | hysteria2 | hy2 => cases hs
    | ss | vmess | vless | trojan => exact hlink hfind
  cases htag : a.tag with
  | some t => rfl
  | none =>
    have hquery : '#' ∉ a.queryChars := by
      rw [LinkAddress.queryChars]
      cases hq : a.query with
      | none => exact not_mem_nil
      | some x =>
        obtain ⟨hmark, hx, -⟩ := ha.query x hq
        refine fun hmem => (mem_cons.1 hmem).elim (fun h => ?_) hx
        rcases hmark with hmark | hmark <;> rw [hmark] at h <;> cases h
    have hdigit : '#' ∉ port := fun h => by simpa using hdigits _ h
    have huser : '#' ∉ a.user := ha.not_mem_user (by simp)
    have hpassword : '#' ∉ a.password := ha.not_mem_password (by simp)
    have hhost : '#' ∉ a.host := ha.not_mem_host (by simp)
    cases s <;>
      simp [LinkAddress.chars, LinkAddress.portChars, LinkAddress.tagChars, hport, htag, hquery, hdigit, huser,
        hpassword, hhost] at hhash

end Tail

/-- The fields of a ShadowsocksR link and what follows them. -/
structure SSRFields where
  server : List Char
  port : List Char
  protocol : List Char
  method : List Char
  obfs : List Char
  password : List Char
  query : Option (Char × List Char)

namespace SSRFields

variable (f : SSRFields)

def content : String :=
  String.ofList (f.server ++ ':' :: (f.port ++ ':' :: (f.protocol ++ ':' :: (f.method ++ ':' ::
    (f.obfs ++ ':' :: (f.password ++ f.query.elim [] fun x => x.1 :: x.2))))))

structure Plain : Prop where
  fields : ∀ s ∈ [f.server, f.port, f.protocol, f.method, f.obfs], ':' ∉ s ∧ '\n' ∉ s
  password : ∀ c ∈ f.password, c ∉ ['/', '?', '\n']
  query : ∀ x ∈ f.query, (x.1 = '/' ∨ x.1 = '?') ∧ '\n' ∉ x.2

variable {f}

lemma find_ssrParser (h : f.Plain) : ∃ result, ssrParser.findStringSubmatch f.content = some result ∧
    result 2 = String.ofList f.port := by
  have hfields := h.fields
  simp only [mem_cons, not_mem_nil, or_false, forall_eq_or_imp, forall_eq] at hfields
  obtain ⟨h₁, h₂, h₃, h₄, h₅⟩ := hfields
  have htail : ∀ g : Groups, ∃ g', (seq (anyText 6) (Provider.query 7)).run
      (f.password ++ f.query.elim [] fun x => x.1 :: x.2) g atEnd = some g' ∧ g' 2 = g 2 := by
    intro g
    refine ⟨textGroup (update g 6 (String.ofList f.password)) 7 (f.query.map Prod.snd), ?_, ?_⟩
    · refine run_seq_lazyStar (dot_of_not_mem fun hmem => h.password _ hmem (by simp))
        (fun u₁ c u₂ hu g => ?_) ?_
      · have hc := h.password c (by simp [hu])
        simp only [mem_cons, not_mem_nil, or_false, not_or] at hc
        rw [run_query_none hc.1 hc.2.1]
        rfl
      · cases hquery : f.query with
        | none => exact run_query_nil 7 _ _
        | some x =>
          obtain ⟨hmark, hline⟩ := h.query x hquery
          exact run_query_mark hmark _ _ (run_lazyStar_end (dot_of_not_mem hline))
    · rw [textGroup_of_ne (by decide), update_of_ne (by decide)]
  obtain ⟨result, hrun, hport⟩ := htail (update (update (update (update (update (fun _ => "")
    1 (String.ofList f.server)) 2 (String.ofList f.port)) 3 (String.ofList f.protocol))
    4 (String.ofList f.method)) 5 (String.ofList f.obfs))
  refine ⟨result, ?_, hport⟩
  rw [Re.findStringSubmatch, content, String.toList_ofList, ssrParser]
  exact run_field h₁.1 h₁.2 (run_field h₂.1 h₂.2 (run_field h₃.1 h₃.2 (run_field h₄.1 h₄.2
    (run_field h₅.1 h₅.2 hrun))))

end SSRFields

end Patterns

end SingBox.Provider
