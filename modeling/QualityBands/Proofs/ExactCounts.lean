import Mathlib.Data.Nat.Digits.Defs
import QualityBands.Proofs.NumberTexts
import QualityBands.Proofs.StrictBounds
import QualityBands.Proofs.Trimming

/-!
Counts are read as they are written.

A whole number in range is read as it is, a float within range loses its fraction and nothing
else, and a text counts when it is a sign and digits between blanks. Everything else is an error
at its place: no reading wraps round, stops at a limit or rounds.
-/

namespace QualityBands

open Text Decimal

/-! ### Whole numbers as texts -/

/-- What decimal digits stand for, by their powers of ten. -/
def positional (digits : List Char) : Nat := Nat.ofDigits 10 (digits.reverse.map digitValue)

/-- A sign or none, and one or more digits. -/
def WritesWhole (cs : List Char) (n : Int) : Prop :=
  ∃ sign digits : List Char, cs = sign ++ digits ∧ digits ≠ [] ∧ (∀ c ∈ digits, c.isDigit) ∧
    ((sign = [] ∨ sign = ['+']) ∧ n = positional digits ∨
      sign = ['-'] ∧ n = -(positional digits : Int))

/-- A text that is a whole number with blanks around it. -/
def Text.Denotes (s : String) (n : Int) : Prop :=
  ∃ front whole back : List Char, s.toList = front ++ whole ++ back ∧
    (∀ c ∈ front, isBlank c) ∧ (∀ c ∈ back, isBlank c) ∧ WritesWhole whole n

lemma naturalOf_eq_positional (digits : List Char) : naturalOf digits = positional digits := by
  induction digits using List.reverseRecOn with
  | nil => rfl
  | append_singleton digits c ih =>
    rw [naturalOf, List.foldl_append, ← naturalOf, ih, positional, positional,
      List.reverse_append, List.reverse_singleton, List.singleton_append, List.map_cons,
      Nat.ofDigits_cons]
    simp only [List.foldl_cons, List.foldl_nil]
    omega

section
variable {cs digits front whole back : List Char} {n : Int} {s : String}

lemma wholeOfChars?_digits (hne : digits ≠ []) (hd : ∀ c ∈ digits, c.isDigit) {negative : Bool}
    (h : splitSign cs = (negative, digits)) : wholeOfChars? cs =
      some (if negative then -(positional digits : Int) else positional digits) := by
  have hempty : digits.isEmpty = false := by simpa using hne
  have hall : digits.all Char.isDigit := List.all_eq_true.mpr hd
  rw [wholeOfChars?, h]
  simp only [hempty, hall, naturalOf_eq_positional]
  cases negative <;> rfl

lemma exists_sign (cs : List Char) : ∃ sign negative digits, splitSign cs = (negative, digits) ∧
    cs = sign ++ digits ∧
      ((sign = [] ∨ sign = ['+']) ∧ negative = false ∨ sign = ['-'] ∧ negative = true) := by
  unfold splitSign
  split
  · exact ⟨['-'], _, _, rfl, rfl, .inr ⟨rfl, rfl⟩⟩
  · exact ⟨['+'], _, _, rfl, rfl, .inl ⟨.inr rfl, rfl⟩⟩
  · exact ⟨[], _, _, rfl, rfl, .inl ⟨.inl rfl, rfl⟩⟩

/-- Reading a whole number accepts exactly what writes one. -/
lemma wholeOfChars?_eq_some_iff : wholeOfChars? cs = some n ↔ WritesWhole cs n := by
  constructor
  · intro h
    obtain ⟨sign, negative, digits, hsplit, hcs, hsign⟩ := exists_sign cs
    by_cases hdigits : digits ≠ [] ∧ ∀ c ∈ digits, c.isDigit
    · obtain ⟨hne, hd⟩ := hdigits
      rw [wholeOfChars?_digits hne hd hsplit, Option.some.injEq] at h
      refine ⟨sign, digits, hcs, hne, hd, hsign.imp ?_ ?_⟩
      · rintro ⟨hs, rfl⟩
        exact ⟨hs, h.symm⟩
      · rintro ⟨hs, rfl⟩
        exact ⟨hs, h.symm⟩
    · have hnone : wholeOfChars? cs = none := by
        rw [wholeOfChars?, hsplit]
        refine if_pos ?_
        rw [not_and_or] at hdigits
        simpa using hdigits
      rw [hnone] at h
      cases h
  · rintro ⟨sign, digits, rfl, hne, hd, ⟨rfl | rfl, rfl⟩ | ⟨rfl, rfl⟩⟩
    · obtain ⟨c, rest, rfl⟩ := List.exists_cons_of_ne_nil hne
      have hsplit := splitSign_of_isDigit (hd c List.mem_cons_self) rest
      exact wholeOfChars?_digits hne hd hsplit
    · have hsplit : splitSign ('+' :: digits) = (false, digits) := rfl
      exact wholeOfChars?_digits hne hd hsplit
    · have hsplit : splitSign ('-' :: digits) = (true, digits) := rfl
      exact wholeOfChars?_digits hne hd hsplit

/-! ### Blanks around a text -/

lemma not_blank_of_isDigit {c : Char} (h : c.isDigit) : isBlank c = false := by
  have hrange : 48 ≤ c.toNat ∧ c.toNat ≤ 57 := by
    simpa [Char.isDigit, UInt32.le_iff_toNat_le] using h
  simp only [isBlank, blankRanges, List.any_cons, List.any_nil, Bool.or_false,
    Bool.or_eq_false_iff, Bool.and_eq_false_imp, decide_eq_true_eq, decide_eq_false_iff_not, not_le]
  omega

lemma WritesWhole.isTrimmed (h : WritesWhole cs n) : IsTrimmed cs := by
  obtain ⟨sign, digits, rfl, -, hd, hsign⟩ := h
  have hblank : ∀ c ∈ sign ++ digits, isBlank c = false := by
    refine List.forall_mem_append.mpr ⟨?_, fun c hc => not_blank_of_isDigit (hd c hc)⟩
    rcases hsign with ⟨rfl | rfl, -⟩ | ⟨rfl, -⟩
    · exact List.forall_mem_nil _
    · exact List.forall_mem_singleton.mpr rfl
    · exact List.forall_mem_singleton.mpr rfl
  exact ⟨fun c hc => hblank c (List.mem_of_head? hc),
    fun c hc => hblank c (List.mem_of_getLast? hc)⟩

/-- Trimming and reading accept exactly the texts of whole numbers between blanks. -/
lemma whole?_trim_eq_some_iff : whole? (trim s) = some n ↔ Text.Denotes s n := by
  rw [whole?, toList_trim, wholeOfChars?_eq_some_iff]
  constructor
  · intro h
    obtain ⟨front, back, hs, hf, hb⟩ := pads_trimmed s.toList
    exact ⟨front, _, back, hs, hf, hb, h⟩
  · rintro ⟨front, whole, back, hs, hf, hb, hw⟩
    rwa [hw.isTrimmed.trimmed_eq ⟨front, back, hs, hf, hb⟩]

/-- Digits and a sign stay the same number whatever blanks stand around them. -/
lemma denotes_toString (hf : ∀ c ∈ front, isBlank c) (hb : ∀ c ∈ back, isBlank c) (n : Int) :
    Text.Denotes (String.ofList (front ++ (toString n).toList ++ back)) n := by
  refine ⟨front, (toString n).toList, back, String.toList_ofList, hf, hb, ?_⟩
  rw [toList_toString, ← wholeOfChars?_eq_some_iff]
  exact wholeOfChars?_integer n

end

/-! ### Whole parts -/

/-- A rational without its fraction. -/
def towardZero (v : ℚ) : Int := if 0 ≤ v then ⌊v⌋ else ⌈v⌉

lemma towardZero_neg (v : ℚ) : towardZero (-v) = -towardZero v := by
  unfold towardZero
  rcases lt_trichotomy v 0 with h | rfl | h
  · rw [if_pos (by linarith), if_neg (by linarith), Int.floor_neg]
  · simp
  · rw [if_neg (by linarith), if_pos h.le, Int.ceil_neg]

lemma abs_towardZero_sub_lt (v : ℚ) : |(towardZero v : ℚ) - v| < 1 := by
  have hfloor := Int.floor_le v
  have hfloor' := Int.lt_floor_add_one v
  have hceil := Int.le_ceil v
  have hceil' := Int.ceil_lt_add_one v
  unfold towardZero
  rw [abs_lt]
  split <;> constructor <;> linarith

lemma natAbs_towardZero_lt_iff {v : ℚ} {n : Nat} : (towardZero v).natAbs < n ↔ |v| < n := by
  unfold towardZero
  split
  · next h =>
    have hpos : 0 ≤ ⌊v⌋ := Int.floor_nonneg.mpr h
    have hlt : ⌊v⌋ < n ↔ v < n := Int.floor_lt
    rw [abs_of_nonneg h, ← hlt]
    omega
  · next h =>
    have hneg : ⌈v⌉ ≤ 0 := Int.ceil_nonpos.mpr (by linarith)
    have hlt : -(n : Int) < ⌈v⌉ ↔ ((-(n : Int) : Int) : ℚ) < v := Int.lt_ceil
    push_cast at hlt
    rw [abs_of_neg (by linarith), neg_lt, ← hlt]
    omega

lemma natAbs_towardZero_lt_bound (v : ℚ) :
    (towardZero v).natAbs < 9223372036854775808 ↔ |v| < 9223372036854775808 :=
  natAbs_towardZero_lt_iff

/-- The whole part of a float is the one of its exact value. -/
lemma Binary64.truncate?_eq (x : Binary64) : x.truncate? = x.value?.map towardZero := by
  cases x with
  | nan => rfl
  | number negative code =>
    have hwhole : towardZero (units code / one) = (wholePart code : Int) := by
      have hpos : (0 : ℚ) ≤ units code / one := div_nonneg (Nat.cast_nonneg _) (Nat.cast_nonneg _)
      rw [towardZero, if_pos hpos, floor_units]
    simp only [truncate?, value?]
    split
    · cases negative with
      | false => simp only [Bool.false_eq_true, if_false, Option.map_some, hwhole]
      | true => simp only [if_true, Option.map_some, towardZero_neg, hwhole]
    · rfl

/-! ### Counts -/

namespace Node

variable {node : Node} {t : Tree} {x : Binary64} {count : Count} {s : String} {n : Int}

/-- Reading gives this whole number, or an error that names the place if there is none. -/
def GivesCount (node : Node) : Option Int → Prop
  | some n => ∃ count, node.toCount = .ok count ∧ count.val = n
  | none => node.toCount = .error (.invalidInteger node.path (describe node.found))

lemma toCount_eq_ok_iff :
    node.toCount = .ok count ↔ ∃ t, node.value? = some t ∧ readCount? t = some count := by
  constructor
  · exact readCount_of_toCount
  · rintro ⟨t, hv, hr⟩
    simp only [toCount, hv, Option.bind_some, hr]

lemma eq_of_toCount_error {e : RulesError} (h : node.toCount = .error e) :
    e = .invalidInteger node.path (describe node.found) := by
  unfold toCount at h
  split at h
  · cases h
  · cases h
    rfl

lemma givesCount_none (h : ∀ t, node.value? = some t → readCount? t = none) :
    node.GivesCount none := by
  cases hc : node.toCount with
  | ok count =>
    obtain ⟨t, hv, hr⟩ := toCount_eq_ok_iff.mp hc
    rw [h t hv] at hr
    cases hr
  | error e => exact hc.trans (congrArg Except.error (eq_of_toCount_error hc))

lemma givesCount_of_value (hv : node.value? = some t) :
    node.GivesCount ((readCount? t).map (·.val)) := by
  cases hr : readCount? t with
  | some count => exact ⟨count, toCount_eq_ok_iff.mpr ⟨t, hv, hr⟩, rfl⟩
  | none =>
    refine givesCount_none fun other ho => ?_
    rwa [← Option.some.inj (hv.symm.trans ho)]

lemma map_val_integer (n : Int) : (readCount? (.number (.integer n))).map (·.val) =
    if -9223372036854775808 ≤ n ∧ n < 9223372036854775808 then some n else none := by
  rw [readCount?_integer, Count.ofInt?]
  split <;> rfl

lemma wholeCount?_eq_some_iff_value : wholeCount? x = some count ↔
    ∃ v, x.value? = some v ∧ |v| < 9223372036854775808 ∧ towardZero v = count.val := by
  rw [wholeCount?_eq_some_iff, Binary64.truncate?_eq, Option.map_eq_some_iff]
  constructor
  · rintro ⟨⟨v, hv, hval⟩, hlt⟩
    exact ⟨v, hv, (natAbs_towardZero_lt_bound v).mp (hval ▸ hlt), hval⟩
  · rintro ⟨v, hv, hlt, hval⟩
    exact ⟨⟨v, hv, hval⟩, hval ▸ (natAbs_towardZero_lt_bound v).mpr hlt⟩

lemma map_val_float (x : Binary64) : (readCount? (.number (.float x))).map (·.val) =
    (x.value?.filter (|·| < 9223372036854775808)).map towardZero := by
  refine Option.ext fun n => ?_
  simp only [readCount?, Option.map_eq_some_iff, wholeCount?_eq_some_iff_value,
    Option.filter_eq_some_iff, decide_eq_true_eq]
  constructor
  · rintro ⟨count, ⟨v, hv, hlt, hval⟩, rfl⟩
    exact ⟨v, ⟨hv, hlt⟩, hval⟩
  · rintro ⟨v, ⟨hv, hlt⟩, rfl⟩
    have hrange := (natAbs_towardZero_lt_bound v).mpr hlt
    exact ⟨⟨towardZero v, by omega, by omega⟩, ⟨v, hv, hlt, rfl⟩, rfl⟩

lemma readCount?_text_iff : readCount? (.text s) = some count ↔ Text.Denotes s count.val := by
  rw [readCount?, Option.bind_eq_some_iff, ← whole?_trim_eq_some_iff]
  constructor
  · rintro ⟨n, hw, hn⟩
    rw [Count.ofInt?_eq_some_iff.mp hn]
    exact hw
  · intro h
    exact ⟨count.val, h, count.ofInt?_val⟩

/-- What is read differs from what is written by less than one. -/
lemma exists_quantity (h : readCount? t = some count) :
    ∃ v, t.quantity? = some v ∧ |(count.val : ℚ) - v| < 1 := by
  cases t with
  | number number =>
    cases number with
    | integer n =>
      rw [readCount?_integer] at h
      refine ⟨n, rfl, ?_⟩
      rw [Count.ofInt?_eq_some_iff.mp h, sub_self, abs_zero]
      exact one_pos
    | float x =>
      obtain ⟨v, hv, -, hval⟩ := wholeCount?_eq_some_iff_value.mp h
      exact ⟨v, hv, hval ▸ abs_towardZero_sub_lt v⟩
  | text s =>
    have hw := whole?_trim_eq_some_iff.mpr (readCount?_text_iff.mp h)
    refine ⟨count.val, by rw [Tree.quantity?, hw, Option.map_some], ?_⟩
    rw [sub_self, abs_zero]
    exact one_pos
  | _ => cases h

end Node

/-- **Counts are read as they are written.** A whole number is read as it is, or is an error out
of range; a float gives its exact value without the fraction, or is an error when it is not
finite or reaches two to the power 63; a text counts exactly if it writes a whole number in range
between blanks; any other value is an error. Each error names the place. -/
theorem counts_read_exactly :
    (∀ node : Node,
      (∀ n, node.value? = some (.number (.integer n)) → node.GivesCount
        (if -9223372036854775808 ≤ n ∧ n < 9223372036854775808 then some n else none)) ∧
      (∀ x, node.value? = some (.number (.float x)) → node.GivesCount
        ((x.value?.filter (|·| < 9223372036854775808)).map towardZero)) ∧
      (∀ s, node.value? = some (.text s) →
        (∀ count, node.toCount = .ok count ↔ Text.Denotes s count.val) ∧
          ((∀ count : Count, ¬ Text.Denotes s count.val) → node.GivesCount none)) ∧
      ((∀ n, node.value? ≠ some (.number n)) → (∀ s, node.value? ≠ some (.text s)) →
        node.GivesCount none) ∧
      ∀ t count, node.value? = some t → node.toCount = .ok count →
        ∃ v, t.quantity? = some v ∧ |(count.val : ℚ) - v| < 1) ∧
    ∀ (path : String) (count : Count) (front back : List Char),
      (∀ c ∈ front, Text.isBlank c) → (∀ c ∈ back, Text.isBlank c) →
        (Node.mk (some (.number (.integer count.val))) path).toCount = .ok count ∧
        (Node.mk (some (.text (String.ofList (front ++ (toString count.val).toList ++ back))))
          path).toCount = .ok count := by
  refine ⟨fun node => ⟨fun n hv => ?_, fun x hv => ?_, fun s hv => ⟨fun count => ?_, fun h => ?_⟩,
    fun hn hs => ?_, fun t count hv hc => ?_⟩, fun path count front back hf hb => ⟨?_, ?_⟩⟩
  · exact Node.map_val_integer n ▸ Node.givesCount_of_value hv
  · exact Node.map_val_float x ▸ Node.givesCount_of_value hv
  · rw [Node.toCount_eq_ok_iff, hv, ← Node.readCount?_text_iff]
    simp
  · refine Node.givesCount_none fun t ht => ?_
    rw [← Option.some.inj (hv.symm.trans ht), Option.eq_none_iff_forall_ne_some]
    exact fun count hc => h count (Node.readCount?_text_iff.mp hc)
  · refine Node.givesCount_none fun t ht => ?_
    cases t with
    | number n => exact absurd ht (hn n)
    | text s => exact absurd ht (hs s)
    | _ => rfl
  · obtain ⟨other, ho, hr⟩ := Node.toCount_eq_ok_iff.mp hc
    rw [← Option.some.inj (hv.symm.trans ho)] at hr
    exact Node.exists_quantity hr
  · have hr : Node.readCount? (.number (.integer count.val)) = some count := by
      rw [Node.readCount?_integer, count.ofInt?_val]
    exact Node.toCount_eq_ok_iff.mpr ⟨_, rfl, hr⟩
  · have hr := Node.readCount?_text_iff.mpr (denotes_toString hf hb count.val)
    exact Node.toCount_eq_ok_iff.mpr ⟨_, rfl, hr⟩

/-- The greatest whole number of a document is no count, minus two to the power 63 is one as a
whole number and none as a float, and a fraction is dropped towards zero. -/
theorem counts_read_exactly_at_limits :
    let place (t : Tree) : Node := ⟨some t, "a.b"⟩
    (place (.number (.integer 18446744073709551615))).toCount =
        .error (.invalidInteger "a.b" "18446744073709551615") ∧
      (∃ count, (place (.number (.integer (-9223372036854775808)))).toCount = .ok count ∧
        count.val = -9223372036854775808) ∧
      (place (.number (.float (.ofWord 0xc3e0000000000000)))).toCount =
        .error (.invalidInteger "a.b" "-9.223372036854776e18") ∧
      (∃ count, (place (.number (.float (.ofWord 0xc016000000000000)))).toCount = .ok count ∧
        count.val = -5) ∧
      (place (.text (String.ofList ([' ', '\n'] ++ (toString Count.greatest.val).toList ++
        ['\u00a0'])))).toCount = .ok Count.greatest := by
  intro place
  obtain ⟨hplace, htext⟩ := counts_read_exactly
  have hlow : (Binary64.ofWord 0xc3e0000000000000).value?.filter
      (|·| < 9223372036854775808) = none := by decide +kernel
  have hfraction : (Binary64.ofWord 0xc016000000000000).value?.filter
      (|·| < 9223372036854775808) = some (-11 / 2) := by decide +kernel
  have hzero : towardZero (-11 / 2) = -5 := by
    rw [towardZero, if_neg (by norm_num), Int.ceil_eq_iff]
    norm_num
  have hgreatest := (hplace (place (.number (.integer 18446744073709551615)))).1 _ rfl
  have hleast := (hplace (place (.number (.integer (-9223372036854775808))))).1 _ rfl
  have hfloat := (hplace (place (.number (.float (.ofWord 0xc3e0000000000000))))).2.1 _ rfl
  have hhalf := (hplace (place (.number (.float (.ofWord 0xc016000000000000))))).2.1 _ rfl
  rw [if_neg (by omega)] at hgreatest
  rw [if_pos (by omega)] at hleast
  rw [hlow, Option.map_none] at hfloat
  rw [hfraction, Option.map_some, hzero] at hhalf
  have hshown : (Number.float (.ofWord 0xc3e0000000000000)).text = "-9.223372036854776e18" := by
    decide +kernel
  have hfront : ∀ c ∈ [' ', '\n'], Text.isBlank c :=
    List.forall_mem_cons.mpr ⟨rfl, List.forall_mem_singleton.mpr rfl⟩
  have hback : ∀ c ∈ ['\u00a0'], Text.isBlank c := List.forall_mem_singleton.mpr rfl
  refine ⟨hgreatest, hleast, hfloat.trans ?_, hhalf, ?_⟩
  · exact congrArg (fun text => Except.error (RulesError.invalidInteger "a.b" text)) hshown
  · exact (htext "a.b" Count.greatest [' ', '\n'] ['\u00a0'] hfront hback).2

end QualityBands
