import Mathlib.Data.List.Infix
import Mathlib.Tactic.Lemma
import QualityBands.Yaml.Error

/-!
The hint on a repeated key.

A hint is chosen by the words of a message, and the message on a repeated key holds the key and
the names of the sections around it. None of the words that come first is in the message's own
text, so the hint is the one on repeated keys unless a name brings the word "tab" with it. A tab
character in the key is written with the letter t, which counts as well.
-/

namespace QualityBands

namespace Text

variable {cs : List Char} {c : Char}

/-! ### One word as a scan -/

/-- What has just been read of the word "tab"; `all` once it has occurred. -/
inductive Seen where
  | none
  | t
  | ta
  | all
  deriving DecidableEq

/-- The letters that are seen and not yet followed by another one. -/
def Seen.letters : Seen → List Char
  | none => []
  | t => ['t']
  | ta => ['t', 'a']
  | all => ['t', 'a', 'b']

def Seen.next (s : Seen) (c : Char) : Seen :=
  if s = all ∨ s = ta ∧ c = 'b' then all
  else if s = t ∧ c = 'a' then ta
  else if c = 't' then t
  else none

/-- Reading a character keeps what matters of the letters in front of it. -/
lemma infix_next_iff (s : Seen) (c : Char) (cs : List Char) :
    ['t', 'a', 'b'] <:+: (s.next c).letters ++ cs ↔ ['t', 'a', 'b'] <:+: s.letters ++ c :: cs := by
  cases s with
  | none =>
    by_cases ht : c = 't'
    · simp [Seen.next, Seen.letters, ht]
    · simp [Seen.next, Seen.letters, ht, List.infix_cons_iff, List.cons_prefix_cons, Ne.symm ht]
  | t =>
    by_cases ha : c = 'a'
    · simp [Seen.next, Seen.letters, ha]
    · by_cases ht : c = 't'
      · simp [Seen.next, Seen.letters, ht, List.infix_cons_iff, List.cons_prefix_cons]
      · simp [Seen.next, Seen.letters, ha, ht, List.infix_cons_iff, List.cons_prefix_cons,
          Ne.symm ha, Ne.symm ht]
  | ta =>
    by_cases hb : c = 'b'
    · simp [Seen.next, Seen.letters, hb]
    · by_cases ht : c = 't'
      · simp [Seen.next, Seen.letters, ht, List.infix_cons_iff, List.cons_prefix_cons]
      · simp [Seen.next, Seen.letters, hb, ht, List.infix_cons_iff, List.cons_prefix_cons,
          Ne.symm hb, Ne.symm ht]
  | all =>
    have hword : ∀ ds, ['t', 'a', 'b'] <:+: Seen.all.letters ++ ds := fun ds =>
      (List.prefix_append _ ds).isInfix
    exact iff_of_true (hword cs) (hword (c :: cs))

lemma foldl_next_iff (s : Seen) (cs : List Char) :
    cs.foldl Seen.next s = .all ↔ ['t', 'a', 'b'] <:+: s.letters ++ cs := by
  induction cs generalizing s with
  | nil => cases s <;> decide
  | cons c cs ih => rw [List.foldl_cons, ih, infix_next_iff]

/-- A character is read without regard to its case. -/
def Seen.read (s : Seen) (c : Char) : Seen := s.next c.toLower

def scan (s : Seen) (cs : List Char) : Seen := cs.foldl Seen.read s

@[simp] lemma scan_cons (s : Seen) (c : Char) (cs : List Char) :
    scan s (c :: cs) = scan (s.read c) cs := rfl

lemma scan_append (s : Seen) (cs ds : List Char) : scan s (cs ++ ds) = scan (scan s cs) ds :=
  List.foldl_append

/-- Whether the word "tab" is in a text, in letters of either case. -/
def HoldsTab (cs : List Char) : Prop := ['t', 'a', 'b'] <:+: cs.map Char.toLower

instance (cs : List Char) : Decidable (HoldsTab cs) :=
  inferInstanceAs (Decidable (['t', 'a', 'b'] <:+: cs.map Char.toLower))

lemma holdsTab_iff : HoldsTab cs ↔ scan .none cs = .all := by
  have h := foldl_next_iff .none (cs.map Char.toLower)
  rw [List.foldl_map] at h
  exact h.symm

/-! ### What a message mentions -/

lemma mentions_iff (text word : String) :
    mentions text word ↔ word.toList <:+: text.toList.flatMap lowered := by
  have hgo : ∀ cs, mentions.go word cs ↔ word.toList <:+: cs := by
    intro cs
    induction cs with
    | nil => simp [mentions.go]
    | cons c cs ih =>
      rw [mentions.go, Bool.or_eq_true, ih, List.isPrefixOf_iff_prefix, List.infix_cons_iff]
  exact hgo _

/-- A letter of the word comes from that letter alone, in either case. -/
lemma foldl_lowered (s : Seen) (c : Char) : (lowered c).foldl Seen.next s = s.read c := by
  unfold lowered
  split_ifs with hk hi
  · rw [hk]
    cases s <;> decide
  · rw [hi]
    cases s <;> decide
  · rfl

lemma mentions_tab_iff (text : String) : mentions text "tab" ↔ HoldsTab text.toList := by
  have hfold : ∀ s cs, (List.flatMap lowered cs).foldl Seen.next s = scan s cs := by
    intro s cs
    induction cs generalizing s with
    | nil => rfl
    | cons c cs ih => rw [List.flatMap_cons, List.foldl_append, foldl_lowered, ih, scan_cons]
  rw [mentions_iff, holdsTab_iff, ← hfold, foldl_next_iff]
  rfl

/-- A text mentions what one of its parts mentions. -/
lemma mentions_append {part word : String} (h : mentions part word) (before after : String) :
    mentions (before ++ part ++ after) word := by
  rw [mentions_iff] at h ⊢
  rw [String.toList_append, String.toList_append, List.flatMap_append, List.flatMap_append]
  exact h.trans ⟨_, _, rfl⟩

/-! ### Texts put together -/

lemma scan_all (cs : List Char) : scan .all cs = .all := by
  induction cs with
  | nil => rfl
  | cons c cs ih => rw [scan_cons, show Seen.all.read c = .all from rfl, ih]

/-- Whether a character is none of the letters of the word. -/
def IsApart (c : Char) : Prop := c.toLower ≠ 't' ∧ c.toLower ≠ 'a' ∧ c.toLower ≠ 'b'

instance (c : Char) : Decidable (IsApart c) :=
  inferInstanceAs (Decidable (c.toLower ≠ 't' ∧ c.toLower ≠ 'a' ∧ c.toLower ≠ 'b'))

lemma read_of_isApart (h : IsApart c) (s : Seen) :
    s.read c = if s = .all then .all else .none := by
  obtain ⟨ht, ha, hb⟩ := h
  cases s <;> simp [Seen.read, Seen.next, ht, ha, hb]

/-- A character that is not in the word keeps what is in front of it from what is behind. -/
lemma holdsTab_append_cons (h : IsApart c) (cs ds : List Char) :
    HoldsTab (cs ++ c :: ds) ↔ HoldsTab cs ∨ HoldsTab ds := by
  rw [holdsTab_iff, holdsTab_iff, holdsTab_iff, scan_append, scan_cons, read_of_isApart h]
  by_cases hall : scan .none cs = .all
  · simp [hall, scan_all]
  · simp [hall]

lemma not_holdsTab (h : ∀ c ∈ cs, c.toLower ≠ 't') : ¬ HoldsTab cs := by
  intro hword
  obtain ⟨c, hc, ht⟩ := List.mem_map.mp (hword.subset (List.mem_cons_self (a := 't')))
  exact h c hc ht

/-- Lower case comes of letters only. -/
lemma letter_of_toLower (h : 97 ≤ c.toLower.toNat ∧ c.toLower.toNat ≤ 122) :
    65 ≤ c.toNat ∧ c.toNat ≤ 122 := by
  unfold Char.toLower at h
  split at h
  · next hupper =>
    have hlow : 65 ≤ c.toNat := UInt32.le_iff_toNat_le.mp hupper.1
    have hhigh : c.toNat ≤ 90 := UInt32.le_iff_toNat_le.mp hupper.2
    omega
  · omega

lemma not_holdsTab_toDigits (n : Nat) : ¬ HoldsTab (Nat.toDigits 10 n) := by
  apply not_holdsTab
  intro c hc ht
  have hdigit := Nat.isDigit_of_mem_toDigits (by decide) (by decide) hc
  simp only [Char.isDigit, Bool.and_eq_true, decide_eq_true_eq] at hdigit
  have hhigh : c.toNat ≤ 57 := UInt32.le_iff_toNat_le.mp hdigit.2
  have hletter := letter_of_toLower (c := c) (by rw [ht]; decide)
  omega

/-! ### Quoted texts -/

/-- The character that a quoted text shows for a character, as far as the word goes: a tab is
written with a t, and no other escape has one. -/
def shownAs (c : Char) : Char := if c = '\t' then 't' else c

lemma isShown_of_letter (h : 65 ≤ c.toNat ∧ c.toNat ≤ 122) : isShown c := by
  have hranges : ∀ r ∈ hiddenRanges, r.2 < 65 ∨ 122 < r.1 := by decide +kernel
  rw [isShown, Bool.not_eq_true', Bool.eq_false_iff]
  intro hhidden
  obtain ⟨r, hr, hin⟩ := List.any_eq_true.mp hhidden
  rw [Bool.and_eq_true, decide_eq_true_eq, decide_eq_true_eq] at hin
  have := hranges r hr
  omega

/-- No letter of the word is hidden. -/
lemma isApart_of_hidden (h : ¬ isShown c) : IsApart c := by
  have hletter : ∀ d : Char, 97 ≤ d.toNat ∧ d.toNat ≤ 122 → c.toLower ≠ d := by
    rintro d hd rfl
    exact h (isShown_of_letter (letter_of_toLower hd))
  exact ⟨hletter _ (by decide), hletter _ (by decide), hletter _ (by decide)⟩

lemma not_t_of_mem_hexadecimal {n : Nat} (h : c ∈ (hexadecimal n).toList) : c.toLower ≠ 't' := by
  rw [hexadecimal, String.toList_ofList] at h
  induction n using Nat.strongRecOn with
  | ind n ih =>
    have hdigit : ∀ d < 16, (Nat.digitChar d).toLower ≠ 't' := by decide
    rw [Nat.toDigits_eq_if (by decide)] at h
    split_ifs at h with hn
    · rw [List.mem_singleton.mp h]
      exact hdigit n hn
    · rcases List.mem_append.mp h with h | h
      · exact ih (n / 16) (by omega) h
      · rw [List.mem_singleton.mp h]
        exact hdigit _ (Nat.mod_lt n (by decide))

/-- An escape without a t keeps what is in front of it from what is behind. -/
lemma scan_escape (h : ∀ c ∈ cs, c.toLower ≠ 't') (s : Seen) :
    scan s ('\\' :: cs) = if s = .all then .all else .none := by
  have hnone : scan .none cs = .none := by
    induction cs with
    | nil => rfl
    | cons c cs ih =>
      rw [List.forall_mem_cons] at h
      have hc : Seen.none.read c = .none := by simp [Seen.read, Seen.next, h.1]
      rw [scan_cons, hc, ih h.2]
  rw [scan_cons, read_of_isApart (by decide)]
  split_ifs
  · exact scan_all cs
  · exact hnone

lemma scan_quotedChar (s : Seen) (c : Char) :
    scan s (quotedChar c).toList = s.read (shownAs c) := by
  unfold quotedChar
  split
  · cases s <;> decide
  · cases s <;> decide
  · cases s <;> decide
  · cases s <;> decide
  · cases s <;> decide
  · cases s <;> decide
  · next htab _ =>
    have hc : shownAs c = c := if_neg htab
    split_ifs with hshown
    · rw [hc, Char.toString, String.toList_singleton]
      rfl
    · have hrest : ∀ d ∈ 'u' :: '\x7b' :: ((hexadecimal c.toNat).toList ++ ['\x7d']),
          d.toLower ≠ 't' := by
        simp only [List.mem_cons, List.mem_append, List.not_mem_nil, or_false]
        rintro d (rfl | rfl | hd | rfl)
        · decide
        · decide
        · exact not_t_of_mem_hexadecimal hd
        · decide
      rw [hc, read_of_isApart (isApart_of_hidden hshown), ← scan_escape hrest]
      simp

lemma toList_quoted (s : String) : (quoted s).toList =
    '"' :: (s.toList.flatMap (fun c => (quotedChar c).toList) ++ ['"']) := by
  simp [quoted, String.toList_join, List.flatMap_map]

/-- What is quoted is shown with its tab characters as letters t and with no other letter of the
word added or left out. -/
lemma holdsTab_shown (cs : List Char) :
    HoldsTab (cs.flatMap fun c => (quotedChar c).toList) ↔ HoldsTab (cs.map shownAs) := by
  have hscan : ∀ s : Seen,
      scan s (cs.flatMap fun c => (quotedChar c).toList) = scan s (cs.map shownAs) := by
    induction cs with
    | nil => exact fun s => rfl
    | cons c cs ih =>
      intro s
      rw [List.flatMap_cons, scan_append, scan_quotedChar, ih, List.map_cons, scan_cons]
  rw [holdsTab_iff, hscan, ← holdsTab_iff]

/-- Names with dots between them hold the word where one of the names does. -/
lemma holdsTab_intercalate (names : List String) :
    HoldsTab (".".intercalate names).toList ↔ ∃ name ∈ names, HoldsTab name.toList := by
  rw [String.toList_intercalate]
  induction names with
  | nil => decide
  | cons name rest ih =>
    cases rest with
    | nil => simp
    | cons other rest =>
      have hdot : ".".toList.intercalate ((name :: other :: rest).map String.toList) =
          name.toList ++ '.' :: ".".toList.intercalate ((other :: rest).map String.toList) := by
        simp
      rw [hdot, holdsTab_append_cons (by decide), ih]
      constructor
      · rintro (h | ⟨found, hmem, h⟩)
        · exact ⟨name, List.mem_cons_self, h⟩
        · exact ⟨found, List.mem_cons_of_mem _ hmem, h⟩
      · rintro ⟨found, hmem, h⟩
        rcases List.mem_cons.mp hmem with rfl | hmem
        · exact Or.inl h
        · exact Or.inr ⟨found, hmem, h⟩

end Text

/-! ### The message -/

namespace Yaml.Error

open Text

variable {key : String} {path : List String} {mark : Mark}

lemma holdsTab_pathText :
    HoldsTab (pathText path).toList ↔ ∃ name ∈ path, HoldsTab name.toList := by
  unfold pathText
  split_ifs with h
  · rw [List.isEmpty_iff.mp h]
    decide
  · exact holdsTab_intercalate path

lemma not_holdsTab_place (mark : Mark) : ¬ HoldsTab (place mark).toList := by
  unfold place
  split_ifs
  · decide
  · have hplace : (" at " ++ mark.text).toList = " at line".toList ++ ' ' ::
        (Nat.toDigits 10 (mark.line + 1) ++ ' ' :: ("column".toList ++ ' ' ::
          Nat.toDigits 10 (mark.column + 1))) := by
      simp [Mark.text]
    have hline : ¬ HoldsTab " at line".toList := by decide
    have hcolumn : ¬ HoldsTab "column".toList := by decide
    rw [hplace]
    simp only [holdsTab_append_cons (show IsApart ' ' by decide), hline, hcolumn,
      not_holdsTab_toDigits, or_self, not_false_eq_true]

/-- The word is in a message where it is in the path or in what is said about it. -/
lemma holdsTab_inPath (path : List String) (text behind : String) :
    HoldsTab (inPath path text ++ behind).toList ↔
      (∃ name ∈ path, HoldsTab name.toList) ∨ HoldsTab (text ++ behind).toList := by
  rw [← holdsTab_pathText]
  unfold inPath
  split_ifs with h
  · have hroot : ¬ HoldsTab ".".toList := by decide
    rw [h, or_iff_right hroot]
  · have hparts : (pathText path ++ ": " ++ text ++ behind).toList =
        (pathText path).toList ++ ':' :: ([] ++ ' ' :: (text ++ behind).toList) := by
      simp
    have hnil : ¬ HoldsTab [] := by decide
    rw [hparts, holdsTab_append_cons (by decide), holdsTab_append_cons (by decide),
      or_iff_right hnil]

lemma holdsTab_repeated (behind : String) :
    HoldsTab ("duplicate entry " ++ keyName (.text key) ++ behind).toList ↔
      HoldsTab (key.toList.map shownAs) ∨ HoldsTab behind.toList := by
  have hparts : ("duplicate entry " ++ keyName (.text key) ++ behind).toList =
      "duplicate entry with key ".toList ++ '"' ::
        (key.toList.flatMap (fun c => (quotedChar c).toList) ++ '"' :: behind.toList) := by
    simp [keyName, toList_quoted]
  have hwords : ¬ HoldsTab "duplicate entry with key ".toList := by decide
  rw [hparts, holdsTab_append_cons (by decide), holdsTab_append_cons (by decide),
    holdsTab_shown, or_iff_right hwords]

lemma mentions_inPath {text word : String} (h : mentions text word) (path : List String)
    (behind : String) : mentions (inPath path text ++ behind) word := by
  unfold inPath
  split_ifs
  · simpa using mentions_append h "" behind
  · exact mentions_append h (pathText path ++ ": ") behind

lemma message_repeatedKey : message (.repeatedKey (.text key) path mark) =
    inPath path ("duplicate entry " ++ keyName (.text key)) ++ place mark := rfl

lemma holdsTab_message : HoldsTab (message (.repeatedKey (.text key) path mark)).toList ↔
    (∃ name ∈ path, HoldsTab name.toList) ∨ HoldsTab (key.toList.map shownAs) := by
  rw [message_repeatedKey, holdsTab_inPath, holdsTab_repeated,
    or_iff_left (not_holdsTab_place mark)]

lemma mentions_duplicate :
    mentions (message (.repeatedKey (.text key) path mark)) "duplicate" := by
  have hword : mentions "duplicate entry " "duplicate" := by decide
  have htext := mentions_append hword "" (keyName (.text key))
  rw [String.empty_append] at htext
  rw [message_repeatedKey]
  exact mentions_inPath htext path (place mark)

end Yaml.Error

/-! ### The hint -/

namespace Source.Fault

/-- The hint that tells to indent with spaces. -/
def tabHint : String := "YAML requires spaces for indentation, not tabs. Replace tabs with spaces."

/-- The hint that tells to give each key once. -/
def repeatedKeyHint : String :=
  "Each dimension and threshold key can only appear once in its section."

/-- The first two kinds of mistakes decide where the message is on a repeated key. -/
lemma hint?_of_mentions {message : String} (h : Text.mentions message "duplicate") :
    hint? message =
      some (if Text.HoldsTab message.toList then tabHint else repeatedKeyHint) := by
  have htab := Text.mentions_tab_iff message
  by_cases hholds : Text.HoldsTab message.toList
  · rw [if_pos hholds]
    simp [hint?, hints, htab.mpr hholds, tabHint]
  · rw [if_neg hholds]
    simp [hint?, hints, mt htab.mp hholds, h, repeatedKeyHint]

end Source.Fault

open Source (Fault)
open Text (HoldsTab shownAs)

/-- **A repeated key is explained as one unless a name has "tab" in it.** The report on a text
key that is repeated, at any place and under any path, says that keys appear once, except where
the name of a section on the path or the key has the word in it, in letters of either case; in
the key, a tab character stands for its first letter. Then the report is about tabs. -/
theorem help_on_repeated_key (key : String) (path : List String) (mark : Yaml.Mark)
    (source : String) :
    ((Yaml.Error.repeatedKey (.text key) path mark).fault source).report.help =
      some (if (∃ name ∈ path, HoldsTab name.toList) ∨ HoldsTab (key.toList.map shownAs)
        then Fault.tabHint else Fault.repeatedKeyHint) := by
  have hword : Text.mentions (Yaml.Error.repeatedKey (.text key) path mark).message "duplicate" :=
    Yaml.Error.mentions_duplicate
  calc ((Yaml.Error.repeatedKey (.text key) path mark).fault source).report.help
      = Fault.hint? (Yaml.Error.repeatedKey (.text key) path mark).message := rfl
    _ = some (if HoldsTab (Yaml.Error.repeatedKey (.text key) path mark).message.toList
          then Fault.tabHint else Fault.repeatedKeyHint) := Fault.hint?_of_mentions hword
    _ = _ := congrArg some (if_congr Yaml.Error.holdsTab_message rfl rfl)

/-- A table that is there twice is taken for a matter of tabs. -/
theorem help_on_repeated_table :
    ((Yaml.Error.repeatedKey (.text "table") ["dimension_scores", "dimensions"]
      ⟨34, 2, 4⟩).fault "").report.help = some Fault.tabHint ∧
    Fault.tabHint ≠ Fault.repeatedKeyHint := by
  decide +kernel

end QualityBands
