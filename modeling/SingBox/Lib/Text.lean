import Mathlib.Algebra.Ring.Int.Defs
import Mathlib.Data.List.Infix
import Mathlib.Data.List.SplitOn
import Mathlib.Tactic.Common

namespace SingBox.Lib.Text

open List

def contains (s sub : String) : Bool := decide (sub.toList <:+: s.toList)

def splitChar (sep : Char) (s : String) : List String := (s.toList.splitOn sep).map String.ofList

def splitFrom (sep : List Char) (field : List Char) : ℕ → List Char → List (List Char)
  | _, [] => [field.reverse]
  | skip + 1, _ :: s => splitFrom sep field skip s
  | 0, c :: s =>
    if sep.isPrefixOf (c :: s) then field.reverse :: splitFrom sep [] (sep.length - 1) s
    else splitFrom sep (c :: field) 0 s

def split (sep s : String) : List String := (splitFrom sep.toList [] 0 s.toList).map String.ofList

def cut (sep : List Char) : List Char → Option (List Char × List Char)
  | [] => if sep.isEmpty then some ([], []) else none
  | c :: s =>
    if sep.isPrefixOf (c :: s) then some ([], (c :: s).drop sep.length)
    else (cut sep s).map fun x => (c :: x.1, x.2)

def substringBefore (sep s : List Char) : List Char := (cut sep s).elim s Prod.fst

def substringAfter (sep s : List Char) : List Char := (cut sep s).elim s Prod.snd

def trimSuffix (suffix s : List Char) : List Char :=
  if suffix.isSuffixOf s then s.take (s.length - suffix.length) else s

def join (sep : String) : List String → String
  | [] => ""
  | [s] => s
  | s :: t :: l => s ++ sep ++ join sep (t :: l)

def trim (p : Char → Bool) (s : String) : String :=
  String.ofList ((s.toList.dropWhile p).reverse.dropWhile p).reverse

def isSpace (c : Char) : Bool :=
  let n := c.toNat
  (9 ≤ n && n ≤ 13) || n == 0x20 || n == 0x85 || n == 0xA0 || n == 0x1680 ||
    (0x2000 ≤ n && n ≤ 0x200A) || n == 0x2028 || n == 0x2029 || n == 0x202F || n == 0x205F || n == 0x3000

def trimSpace : String → String := trim isSpace

def digits? (s : List Char) : Option ℕ :=
  if s.isEmpty || !s.all Char.isDigit then none
  else some (s.foldl (fun n c => 10 * n + (c.toNat - 48)) 0)

/-- The value of `strconv.Atoi`, its error being ignored: zero for what is not a number, and the
nearest number for one that is out of range. -/
def atoi (s : String) : ℤ :=
  let clamp (n : ℤ) : ℤ := max (-2 ^ 63) (min (2 ^ 63 - 1) n)
  match s.toList with
  | '-' :: s => ((digits? s).map fun n => clamp (-n)).getD 0
  | '+' :: s => ((digits? s).map fun n => clamp n).getD 0
  | s => ((digits? s).map fun n => clamp n).getD 0

variable {c : Char}

lemma splitOn_of_not_mem {s : List Char} (h : c ∉ s) : s.splitOn c = [s] := by
  have hsplit : ([c].intercalate [s]).splitOn c = [s] := splitOn_intercalate c (by simpa using h) (by simp)
  simpa using hsplit

lemma splitChar_of_not_mem {s : String} (h : c ∉ s.toList) : splitChar c s = [s] := by
  rw [splitChar, splitOn_of_not_mem h, map_singleton, String.ofList_toList]

variable {sep field : List Char} {u v s : List Char}

lemma splitFrom_skip (field : List Char) (skip : ℕ) (s : List Char) :
    splitFrom sep field skip s = splitFrom sep field 0 (s.drop skip) := by
  induction s generalizing skip with
  | nil => cases skip <;> rfl
  | cons c s ih =>
    cases skip with
    | zero => rfl
    | succ skip => rw [splitFrom, ih, drop_succ_cons]

lemma splitFrom_eq_cut (hsep : sep ≠ []) (field s : List Char) :
    splitFrom sep field 0 s = (cut sep s).elim [field.reverse ++ s] fun x =>
      (field.reverse ++ x.1) :: splitFrom sep [] 0 x.2 := by
  induction s generalizing field with
  | nil =>
    rw [splitFrom, cut, if_neg (by simpa using hsep), append_nil]
    rfl
  | cons c s ih =>
    rw [splitFrom, cut]
    split_ifs with h
    · obtain ⟨c', sep, rfl⟩ := exists_cons_of_ne_nil hsep
      rw [splitFrom_skip, length_cons, Nat.add_sub_cancel, Option.elim_some, append_nil,
        drop_succ_cons]
    · rw [ih]
      cases cut sep s <;> simp

lemma cut_append (hu : ∀ u₁ c u₂, u = u₁ ++ c :: u₂ → sep.isPrefixOf (c :: (u₂ ++ v)) = false) :
    cut sep (u ++ v) = (cut sep v).map fun x => (u ++ x.1, x.2) := by
  induction u with
  | nil => cases h : cut sep v <;> simp [h]
  | cons c u ih =>
    rw [cons_append, cut, hu [] c u rfl, ih fun u₁ c' u₂ h => hu (c :: u₁) c' u₂ (by rw [h, cons_append])]
    cases cut sep v <;> simp

lemma cut_eq_none_iff (hsep : sep ≠ []) : cut sep s = none ↔ ¬ sep <:+: s := by
  induction s with
  | nil => simp [cut, hsep]
  | cons c s ih =>
    rw [infix_cons_iff, not_or, ← ih, ← List.isPrefixOf_iff_prefix, cut]
    split_ifs with hbegins <;> simp [hbegins]

variable {α : Type*} {sep : α} {w : List α}
  {t : List α}

lemma eq_nil_of_begins_cons (hw : sep ∉ w) (h : w <+: sep :: t) : w = [] := by
  cases w with
  | nil => rfl
  | cons c w =>
    obtain ⟨rfl, -⟩ := cons_prefix_cons.1 h
    exact absurd mem_cons_self hw

lemma infix_append_cons_iff (hw : sep ∉ w) (hne : w ≠ []) (s t : List α) :
    w <:+: s ++ sep :: t ↔ w <:+: s ∨ w <:+: t := by
  rw [infix_append_iff, infix_cons_iff]
  constructor
  · rintro (h | (h | h) | ⟨u, v, rfl, hu, hv⟩)
    · exact .inl h
    · exact absurd (eq_nil_of_begins_cons hw h) hne
    · exact .inr h
    · have hnil : v = [] := eq_nil_of_begins_cons (fun h => hw (mem_append_right _ h)) hv
      rw [hnil, append_nil]
      exact .inl hu.isInfix
  · rintro (h | h)
    · exact .inl h
    · exact .inr (.inl (.inr h))

lemma infix_intercalate_iff (hw : sep ∉ w) (hne : w ≠ []) (fields : List (List α)) :
    w <:+: [sep].intercalate fields ↔ ∃ field ∈ fields, w <:+: field := by
  induction fields with
  | nil => simpa using hne
  | cons field fields ih =>
    cases fields with
    | nil => simp
    | cons next fields =>
      have hjoin : [sep].intercalate (field :: next :: fields) =
          field ++ sep :: [sep].intercalate (next :: fields) := by
        simp [intercalate]
      rw [hjoin, infix_append_cons_iff hw hne, ih]
      simp

variable {sep : String} {l l' : List String}

def terminated (sep : String) (l : List String) : List Char := l.flatMap fun s => s.toList ++ sep.toList

lemma toList_join_append (h : l ≠ []) : (join sep l).toList ++ sep.toList = terminated sep l := by
  induction l with
  | nil => exact absurd rfl h
  | cons s l ih =>
    cases l with
    | nil => simp [join, terminated]
    | cons t l =>
      rw [join, String.toList_append, String.toList_append, append_assoc, ih (cons_ne_nil t l)]
      simp [terminated]

lemma join_eq_iff (h : l = [] ↔ l' = []) : join sep l = join sep l' ↔ terminated sep l = terminated sep l' := by
  by_cases hl : l = []
  · rw [hl, h.1 hl]
    simp
  · rw [← toList_join_append hl, ← toList_join_append (mt h.2 hl), append_left_inj, String.toList_inj]

end SingBox.Lib.Text
