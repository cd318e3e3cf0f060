import Mathlib.Data.List.TakeWhile
import QualityBands.Decimal.Reading
import QualityBands.Proofs.ShortestDecimals

/-!
Written numbers read back.

A finite number is written as a mantissa of digits before and behind a point, with or without an
exponent behind it. Reading takes the parts apart again, and what they stand for is rounded to
the number that was written.
-/

namespace QualityBands

open Binary64 Decimal

/-! ### Lists of digits -/

lemma naturalOf_toDigits (n : Nat) : naturalOf (Nat.toDigits 10 n) = n :=
  Nat.ofDigitChars_toDigits (by decide) (by decide)

lemma isDigit_zeros {n : Nat} {c : Char} (h : c ∈ Layout.zeros n) : c.isDigit := by
  rw [List.eq_of_mem_replicate h]
  rfl

lemma naturalOf_zeros_append (n : Nat) (digits : List Char) :
    naturalOf (Layout.zeros n ++ digits) = naturalOf digits := by
  induction n with
  | zero => rfl
  | succ n ih => exact ih

lemma naturalOf_append_zeros (digits : List Char) (n : Nat) :
    naturalOf (digits ++ Layout.zeros n) = naturalOf digits * 10 ^ n := by
  induction n with
  | zero => rw [Layout.zeros, List.replicate_zero, List.append_nil, Nat.pow_zero, Nat.mul_one]
  | succ n ih =>
    rw [Layout.zeros, List.replicate_succ', ← Layout.zeros, ← List.append_assoc, naturalOf,
      List.foldl_append, ← naturalOf, ih, Nat.pow_succ]
    simp only [List.foldl_cons, List.foldl_nil, digitValue]
    rw [Nat.sub_self, Nat.add_zero, Nat.mul_comm, Nat.mul_assoc]

/-! ### Mantissas -/

/-- Digits before and behind a point, where there may be none behind it. -/
structure Mantissa where
  before : List Char
  fraction : List Char
  before_ne : before ≠ []
  isDigit : ∀ c ∈ before ++ fraction, c.isDigit

namespace Mantissa

def text (m : Mantissa) : List Char :=
  m.before ++ if m.fraction.isEmpty then [] else '.' :: m.fraction

/-- What a mantissa stands for. -/
def decimal (m : Mantissa) : Decimal :=
  ⟨naturalOf (m.before ++ m.fraction), -m.fraction.length⟩

variable {m : Mantissa}

lemma text_of_eq (h : m.fraction = []) : m.text = m.before := by
  rw [text, h]
  exact List.append_nil _

lemma text_of_ne (h : m.fraction ≠ []) : m.text = m.before ++ '.' :: m.fraction := by
  rw [text, if_neg (by simpa using h)]

lemma exists_cons_text (m : Mantissa) : ∃ c cs, m.text = c :: cs ∧ c.isDigit := by
  obtain ⟨c, cs, hb⟩ := List.exists_cons_of_ne_nil m.before_ne
  refine ⟨c, cs ++ if m.fraction.isEmpty then [] else '.' :: m.fraction, ?_, ?_⟩
  · rw [text, hb, List.cons_append]
  · exact m.isDigit c (List.mem_append_left _ (hb ▸ List.mem_cons_self))

lemma mem_text {c : Char} (h : c ∈ m.text) : c.isDigit ∨ c = '.' := by
  by_cases hf : m.fraction = []
  · rw [text_of_eq hf] at h
    exact .inl (m.isDigit c (List.mem_append_left _ h))
  · rw [text_of_ne hf, List.mem_append, List.mem_cons] at h
    rcases h with h | h | h
    · exact .inl (m.isDigit c (List.mem_append_left _ h))
    · exact .inr h
    · exact .inl (m.isDigit c (List.mem_append_right _ h))

end Mantissa

/-! ### Layouts -/

lemma Decimal.value_shifted (digits zeros fraction : Nat) :
    value ⟨digits * 10 ^ zeros, -fraction⟩ = digits * 10 ^ ((zeros : Int) - fraction) := by
  rw [value, sub_eq_add_neg, zpow_add₀ (by norm_num), zpow_natCast]
  push_cast
  rw [mul_assoc]

/-- Digits and zeros around them make a mantissa. -/
lemma Mantissa.exists_of_shift {before fraction digits : List Char} {zeros : Nat}
    (hne : before ≠ []) (hd : ∀ c ∈ before ++ fraction, c.isDigit)
    (hn : naturalOf (before ++ fraction) = naturalOf digits * 10 ^ zeros) :
    ∃ m : Mantissa, m.before = before ∧ m.fraction = fraction ∧
      m.decimal.value = naturalOf digits * 10 ^ ((zeros : Int) - fraction.length) :=
  ⟨⟨before, fraction, hne, hd⟩, rfl, rfl, by rw [decimal, hn, Decimal.value_shifted]⟩

namespace Layout

variable {digits : List Char}

lemma decimal_eq (layout : Layout) (d : Decimal) : layout.decimal d =
    match layout.positional with
    | none => placed (Nat.toDigits 10 d.digits) d.point
    | some (first, last) =>
      if first ≤ d.point ∧ d.point ≤ last then placed (Nat.toDigits 10 d.digits) d.point
      else scientific layout.plusSign (Nat.toDigits 10 d.digits) d.point := rfl

/-- Digits with a point are a mantissa, and it has no fraction where the point stands behind all
digits and so far that whole numbers are not marked. -/
lemma exists_mantissa_placed (hd : ∀ c ∈ digits, c.isDigit) (hne : digits ≠ []) (point : Int) :
    ∃ m : Mantissa, m.text = placed digits point ∧
      m.decimal.value = naturalOf digits * 10 ^ (point - digits.length) ∧
      (m.fraction = [] ↔ digits.length ≤ point ∧ 16 < point) := by
  have hlen : 0 < digits.length := List.length_pos_of_ne_nil hne
  have hzeros : ∀ k, ∀ c ∈ digits ++ zeros k, c.isDigit := fun k c hc =>
    (List.mem_append.mp hc).elim (hd c) isDigit_zeros
  unfold placed
  split_ifs with hpoint hinside hmarked
  · obtain ⟨k, rfl⟩ : ∃ k : Nat, point = -k := ⟨(-point).toNat, by omega⟩
    have hfraction : zeros k ++ digits ≠ [] := fun h => hne (List.append_eq_nil_iff.mp h).2
    have hd' : ∀ c ∈ zeros 1 ++ (zeros k ++ digits), c.isDigit := fun c hc =>
      (List.mem_append.mp hc).elim isDigit_zeros fun hc =>
        (List.mem_append.mp hc).elim isDigit_zeros (hd c)
    have hn : naturalOf (zeros 1 ++ (zeros k ++ digits)) = naturalOf digits * 10 ^ 0 := by
      rw [naturalOf_zeros_append, naturalOf_zeros_append, Nat.pow_zero, Nat.mul_one]
    obtain ⟨m, hb, hf, hv⟩ := Mantissa.exists_of_shift (List.cons_ne_nil _ _) hd' hn
    refine ⟨m, ?_, ?_, fun h => absurd (hf ▸ h) hfraction, fun h => by omega⟩
    · rw [Mantissa.text_of_ne (hf ▸ hfraction), hb, hf, neg_neg, Int.toNat_natCast]
      rfl
    · rw [hv, List.length_append, zeros, List.length_replicate]
      congr 2
      omega
  · obtain ⟨k, rfl⟩ : ∃ k : Nat, point = k := ⟨point.toNat, by omega⟩
    have hbefore : digits.take k ≠ [] := by
      rw [Ne, List.take_eq_nil_iff]
      exact fun h => h.elim (by omega) hne
    have hfraction : digits.drop k ≠ [] := by
      rw [Ne, List.drop_eq_nil_iff]
      omega
    have hn : naturalOf (digits.take k ++ digits.drop k) = naturalOf digits * 10 ^ 0 := by
      rw [List.take_append_drop, Nat.pow_zero, Nat.mul_one]
    obtain ⟨m, hb, hf, hv⟩ := Mantissa.exists_of_shift hbefore (by rwa [List.take_append_drop]) hn
    refine ⟨m, ?_, ?_, fun h => absurd (hf ▸ h) hfraction, fun h => by omega⟩
    · rw [Mantissa.text_of_ne (hf ▸ hfraction), hb, hf, Int.toNat_natCast, List.append_assoc]
      rfl
    · rw [hv, List.length_drop]
      congr 2
      omega
  · obtain ⟨k, rfl⟩ : ∃ k : Nat, point = digits.length + k :=
      ⟨(point - digits.length).toNat, by omega⟩
    have hd' : ∀ c ∈ digits ++ zeros k ++ zeros 1, c.isDigit := fun c hc =>
      (List.mem_append.mp hc).elim (hzeros k c) isDigit_zeros
    have hn : naturalOf (digits ++ zeros k ++ zeros 1) = naturalOf digits * 10 ^ (k + 1) := by
      rw [naturalOf_append_zeros, naturalOf_append_zeros, Nat.mul_assoc, ← Nat.pow_add]
    obtain ⟨m, hb, hf, hv⟩ := Mantissa.exists_of_shift (by simp [hne]) hd' hn
    have hfraction : m.fraction ≠ [] := hf ▸ List.cons_ne_nil _ _
    refine ⟨m, ?_, ?_, fun h => absurd h hfraction, fun h => absurd hmarked (not_le.mpr h.2)⟩
    · rw [Mantissa.text_of_ne hfraction, hb, hf, add_sub_cancel_left, Int.toNat_natCast]
      rfl
    · rw [hv, zeros, List.length_replicate]
      congr 2
      omega
  · obtain ⟨k, rfl⟩ : ∃ k : Nat, point = digits.length + k :=
      ⟨(point - digits.length).toNat, by omega⟩
    have hn : naturalOf (digits ++ zeros k ++ []) = naturalOf digits * 10 ^ k := by
      rw [List.append_nil, naturalOf_append_zeros]
    obtain ⟨m, hb, hf, hv⟩ :=
      Mantissa.exists_of_shift (by simp [hne]) (by rw [List.append_nil]; exact hzeros k) hn
    refine ⟨m, ?_, ?_, fun _ => ⟨by omega, not_le.mp hmarked⟩, fun _ => hf⟩
    · rw [Mantissa.text_of_eq hf, hb, add_sub_cancel_left, Int.toNat_natCast, List.append_nil]
    · rw [hv]
      congr 2
      simp

/-- In scientific notation the point stands behind the first digit. -/
lemma exists_mantissa_scientific (hd : ∀ c ∈ digits, c.isDigit) (hne : digits ≠ [])
    (plusSign : Bool) (point : Int) :
    ∃ m : Mantissa, scientific plusSign digits point = m.text ++ 'e' ::
        ((if plusSign ∧ 0 < point - 1 then ['+'] else []) ++ integer (point - 1)) ∧
      m.before ++ m.fraction = digits ∧ m.before.length = 1 := by
  have hlen : 0 < digits.length := List.length_pos_of_ne_nil hne
  have hbefore : digits.take 1 ≠ [] := by
    rw [Ne, List.take_eq_nil_iff]
    exact fun h => h.elim (by decide) hne
  refine ⟨⟨digits.take 1, digits.drop 1, hbefore, by rwa [List.take_append_drop]⟩, ?_,
    List.take_append_drop 1 digits, ?_⟩
  · simp only [scientific, Mantissa.text, List.append_assoc, List.cons_append, List.nil_append]
  · rw [List.length_take]
    omega

end Layout

/-! ### Reading mantissas -/

namespace Mantissa

lemma splitPoint?_text (m : Mantissa) : splitPoint? m.text = some (m.before, m.fraction) := by
  have hbefore : ∀ c ∈ m.before, c.isDigit = true :=
    fun c hc => m.isDigit c (List.mem_append_left _ hc)
  have hne : m.before.isEmpty = false := by simpa using m.before_ne
  cases hf : m.fraction with
  | nil =>
    have hdrop : m.before.dropWhile Char.isDigit = [] := List.dropWhile_eq_nil_iff.mpr hbefore
    have htake : m.before.takeWhile Char.isDigit = m.before :=
      List.takeWhile_eq_self_iff.mpr hbefore
    rw [text_of_eq hf, splitPoint?, hdrop, htake, hne]
    rfl
  | cons c cs =>
    have hdrop : (m.before ++ '.' :: c :: cs).dropWhile Char.isDigit = '.' :: c :: cs :=
      List.dropWhile_append_of_pos hbefore
    have htake : (m.before ++ '.' :: c :: cs).takeWhile Char.isDigit = m.before := by
      rw [List.takeWhile_append_of_pos hbefore]
      exact List.append_nil _
    have hall : (c :: cs).all Char.isDigit :=
      List.all_eq_true.mpr fun d hd => m.isDigit d (List.mem_append_right _ (hf ▸ hd))
    rw [text_of_ne (hf ▸ List.cons_ne_nil c cs), hf, splitPoint?, hdrop, htake]
    exact if_pos ⟨hall, by simp [hne]⟩

lemma not_mark_text (m : Mantissa) :
    ∀ c ∈ m.text, (!(decide (c = 'e') || decide (c = 'E'))) = true := by
  intro c hc
  rcases mem_text hc with hd | rfl
  · rw [Bool.not_eq_true', Bool.or_eq_false_iff, decide_eq_false_iff_not, decide_eq_false_iff_not]
    constructor <;> rintro rfl <;> exact absurd hd (by decide)
  · rfl

/-- The mark of an exponent is found behind the mantissa. -/
lemma splitExponent?_mark (m : Mantissa) (exponent : List Char) :
    splitExponent? (m.text ++ 'e' :: exponent) =
      (wholeOfChars? exponent).map fun e => (m.text, e) := by
  have htake : (m.text ++ 'e' :: exponent).takeWhile
      (fun c => !(decide (c = 'e') || decide (c = 'E'))) = m.text := by
    rw [List.takeWhile_append_of_pos m.not_mark_text]
    exact List.append_nil _
  have hdrop : (m.text ++ 'e' :: exponent).dropWhile
      (fun c => !(decide (c = 'e') || decide (c = 'E'))) = 'e' :: exponent :=
    List.dropWhile_append_of_pos m.not_mark_text
  simp only [splitExponent?, htake, hdrop]

lemma splitExponent?_text (m : Mantissa) : splitExponent? m.text = some (m.text, 0) := by
  have htake : m.text.takeWhile (fun c => !(decide (c = 'e') || decide (c = 'E'))) = m.text :=
    List.takeWhile_eq_self_iff.mpr m.not_mark_text
  have hdrop : m.text.dropWhile (fun c => !(decide (c = 'e') || decide (c = 'E'))) = [] :=
    List.dropWhile_eq_nil_iff.mpr m.not_mark_text
  simp only [splitExponent?, htake, hdrop]

end Mantissa

/-! ### Reading layouts -/

lemma splitSign_of_isDigit {c : Char} (h : c.isDigit) (cs : List Char) :
    splitSign (c :: cs) = (false, c :: cs) := by
  unfold splitSign
  split
  · next heq => cases heq; exact absurd h (by decide)
  · next heq => cases heq; exact absurd h (by decide)
  · rfl

lemma splitSign_toDigits (n : Nat) :
    splitSign (Nat.toDigits 10 n) = (false, Nat.toDigits 10 n) := by
  obtain ⟨c, cs, h⟩ := List.exists_cons_of_ne_nil (Nat.toDigits_ne_nil (n := n) (b := 10))
  rw [h]
  exact splitSign_of_isDigit (isDigit_toDigits (h ▸ List.mem_cons_self)) cs

lemma wholeOfChars?_of_split (cs : List Char) (negative : Bool) (n : Nat)
    (h : splitSign cs = (negative, Nat.toDigits 10 n)) :
    wholeOfChars? cs = some (if negative then -(n : Int) else n) := by
  have hne : (Nat.toDigits 10 n).isEmpty = false := by simp
  have hall : (Nat.toDigits 10 n).all Char.isDigit :=
    List.all_eq_true.mpr fun _ hc => isDigit_toDigits hc
  rw [wholeOfChars?, h]
  simp only [hne, hall, naturalOf_toDigits]
  cases negative <;> rfl

lemma wholeOfChars?_integer (n : Int) : wholeOfChars? (Layout.integer n) = some n := by
  unfold Layout.integer
  split
  · next h =>
    rw [wholeOfChars?_of_split _ true n.natAbs rfl, if_pos rfl]
    congr 1
    omega
  · next h =>
    rw [wholeOfChars?_of_split _ _ _ (splitSign_toDigits _)]
    congr 1
    simp
    omega

lemma toList_toString (n : Int) : (toString n).toList = Layout.integer n := by
  rw [Int.toString_eq_repr, Int.repr_eq_if, Layout.integer]
  split
  · next h =>
    rw [if_neg (by omega), Nat.toList_repr]
    congr 1
    omega
  · next h =>
    rw [if_pos (by omega), String.toList_append, Nat.toList_repr]
    change '-' :: Nat.toDigits 10 (-n).toNat = _
    congr 2
    omega

lemma wholeOfChars?_plus {n : Int} (h : 0 ≤ n) :
    wholeOfChars? ('+' :: Layout.integer n) = some n := by
  rw [Layout.integer, if_neg (by omega), wholeOfChars?_of_split _ false n.natAbs rfl]
  congr 1
  simp
  omega

lemma ofMagnitude?_of_split {negative : Bool} {cs : List Char} {m : Mantissa} {e : Int}
    (h : splitExponent? cs = some (m.text, e)) (hl : -400 ≤ e + m.before.length) (hu : e ≤ 400) :
    ofMagnitude? negative cs =
      some (nearest negative m.decimal.digits (e + m.decimal.exponent)) := by
  have hclamp : clampExponent (m.before ++ m.fraction).length (e - m.fraction.length) =
      e + m.decimal.exponent := by
    have hexp : m.decimal.exponent = -m.fraction.length := rfl
    rw [clampExponent, List.length_append, hexp]
    omega
  simp only [ofMagnitude?, h, Option.bind_eq_bind, Option.bind_some, m.splitPoint?_text, hclamp]
  rfl

namespace Layout

variable {d : Decimal}

/-- Reading takes a layout apart to a decimal of the same value. -/
lemma ofMagnitude?_decimal (layout : Layout) (negative : Bool) (hl : -400 < d.point)
    (hu : d.point ≤ 400) : ∃ e : Decimal,
      ofMagnitude? negative (layout.decimal d) = some (nearest negative e.digits e.exponent) ∧
        e.value = d.value := by
  have hd : ∀ c ∈ Nat.toDigits 10 d.digits, c.isDigit := fun _ hc => isDigit_toDigits hc
  have hne : Nat.toDigits 10 d.digits ≠ [] := Nat.toDigits_ne_nil
  have hplaced : ∃ e : Decimal, ofMagnitude? negative
        (placed (Nat.toDigits 10 d.digits) d.point) = some (nearest negative e.digits e.exponent) ∧
      e.value = d.value := by
    obtain ⟨m, ht, hv, -⟩ := exists_mantissa_placed hd hne d.point
    refine ⟨m.decimal, ?_, ?_⟩
    · rw [← ht, ofMagnitude?_of_split m.splitExponent?_text (by omega) (by omega), zero_add]
    · rw [hv, naturalOf_toDigits, Decimal.point, Decimal.length, add_sub_cancel_left, value]
  have hscientific : ofMagnitude? negative
        (scientific layout.plusSign (Nat.toDigits 10 d.digits) d.point) =
      some (nearest negative d.digits d.exponent) := by
    obtain ⟨m, ht, hm, hb⟩ := exists_mantissa_scientific hd hne layout.plusSign d.point
    have hwhole : wholeOfChars? ((if layout.plusSign ∧ 0 < d.point - 1 then ['+'] else []) ++
        integer (d.point - 1)) = some (d.point - 1) := by
      split
      · next h => exact wholeOfChars?_plus h.2.le
      · exact wholeOfChars?_integer _
    have hsplit := m.splitExponent?_mark
      ((if layout.plusSign ∧ 0 < d.point - 1 then ['+'] else []) ++ integer (d.point - 1))
    rw [← ht, hwhole, Option.map_some] at hsplit
    rw [ofMagnitude?_of_split hsplit (by omega) (by omega), Mantissa.decimal, hm,
      naturalOf_toDigits]
    have hlen := congrArg List.length hm
    rw [List.length_append, hb] at hlen
    congr 2
    rw [point, length, ← hlen]
    push_cast
    ring
  rw [decimal_eq]
  split
  · exact hplaced
  · split
    · exact hplaced
    · exact ⟨d, hscientific, rfl⟩

end Layout

/-! ### Reading back -/

lemma toLower_of_isDigit {c : Char} (h : c.isDigit) : c.toLower = c := by
  unfold Char.toLower
  split
  · next hu =>
    simp only [Char.isDigit, Bool.and_eq_true, decide_eq_true_eq] at h
    exact absurd (UInt32.le_trans hu.1 h.2) (by decide)
  · rfl

lemma Binary64.ofRatio_eq {negative : Bool} {num den code : Nat} (hd : 0 < den) (hc : code < top)
    (h : Rounds code (num / den * one)) :
    ofRatio negative num den = .number negative ⟨code, Nat.lt_succ_of_lt hc⟩ := by
  have hcode : nearestCode (num * one) den = code := by
    refine nearestCode_eq hd hc ?_
    rwa [Nat.cast_mul, mul_div_right_comm]
  simp only [ofRatio, hcode]

namespace Decimal

variable {negative : Bool} {d : Decimal} {code : Nat}

lemma nearest_eq (hc : code < top) (h : Rounds code (d.value * one)) :
    nearest negative d.digits d.exponent = .number negative ⟨code, Nat.lt_succ_of_lt hc⟩ := by
  unfold nearest
  split
  · next he =>
    obtain ⟨n, hn⟩ := Int.eq_ofNat_of_zero_le he
    refine ofRatio_eq Nat.one_pos hc ?_
    rw [value, hn, zpow_natCast] at h
    rw [hn, Int.toNat_natCast, Nat.pow_eq]
    push_cast
    rwa [div_one]
  · next he =>
    obtain ⟨n, hn⟩ : ∃ n : Nat, d.exponent = -n := ⟨(-d.exponent).toNat, by omega⟩
    refine ofRatio_eq (Nat.pow_pos (by decide)) hc ?_
    rw [value, hn, zpow_neg, zpow_natCast, ← div_eq_mul_inv] at h
    rw [hn, neg_neg, Int.toNat_natCast]
    push_cast
    exact h

/-- The digits that are written for a finite magnitude. -/
def ofCode (tie : Tie) (code : Nat) : Decimal := if code = 0 then ⟨0, 0⟩ else shortest tie code

lemma rounds_ofCode (tie : Tie) (code : Nat) : Rounds code ((ofCode tie code).value * one) := by
  unfold ofCode
  split
  · next hzero =>
    rw [value, Nat.cast_zero, zero_mul, zero_mul, hzero]
    exact rounds_units 0
  · next hpos => exact (rounds_shortest tie (Nat.pos_of_ne_zero hpos)).1

lemma point_ofCode_bounds (tie : Tie) (hc : code < top) :
    -400 < (ofCode tie code).point ∧ (ofCode tie code).point ≤ 400 := by
  unfold ofCode
  split
  · decide
  · next hpos => exact point_shortest_bounds tie (Nat.pos_of_ne_zero hpos) hc

end Decimal

namespace Layout

variable {layout : Layout} {negative : Bool} {code : Fin (top + 1)}

lemma write_of_lt (hc : code.val < top) : (layout.write (.number negative code)).toList =
    (if negative then ['-'] else []) ++ layout.decimal (ofCode layout.tie code) := by
  rw [write, if_neg hc.ne, String.toList_ofList]
  rfl

/-- A layout begins with the mantissa. -/
lemma exists_mantissa_decimal (layout : Layout) (d : Decimal) :
    ∃ (m : Mantissa) (back : List Char), layout.decimal d = m.text ++ back := by
  have hd : ∀ c ∈ Nat.toDigits 10 d.digits, c.isDigit := fun _ hc => isDigit_toDigits hc
  have hne : Nat.toDigits 10 d.digits ≠ [] := Nat.toDigits_ne_nil
  obtain ⟨m, ht, -⟩ := exists_mantissa_placed hd hne d.point
  obtain ⟨n, hn, -⟩ := exists_mantissa_scientific hd hne layout.plusSign d.point
  have hplaced : placed (Nat.toDigits 10 d.digits) d.point = m.text ++ [] := by
    rw [ht, List.append_nil]
  rw [decimal_eq]
  split
  · exact ⟨m, [], hplaced⟩
  · split
    · exact ⟨m, [], hplaced⟩
    · exact ⟨n, _, hn⟩

lemma exists_cons_decimal (layout : Layout) (d : Decimal) :
    ∃ c cs, layout.decimal d = c :: cs ∧ c.isDigit := by
  obtain ⟨m, back, h⟩ := layout.exists_mantissa_decimal d
  obtain ⟨c, cs, ht, hc⟩ := m.exists_cons_text
  exact ⟨c, cs ++ back, by rw [h, ht, List.cons_append], hc⟩

/-- **A written finite number reads back.** -/
theorem number?_write (layout : Layout) (hc : code.val < top) :
    number? (layout.write (.number negative code)) = some (.number negative code) := by
  obtain ⟨c, cs, hd, hdigit⟩ := layout.exists_cons_decimal (ofCode layout.tie code)
  obtain ⟨hl, hu⟩ := point_ofCode_bounds layout.tie hc
  obtain ⟨e, he, hv⟩ := layout.ofMagnitude?_decimal negative hl hu
  have hsign : splitSign (layout.write (.number negative code)).toList = (negative, c :: cs) := by
    rw [write_of_lt hc, hd]
    cases negative with
    | true => rfl
    | false => exact splitSign_of_isDigit hdigit cs
  have hword : ∀ w ws, w.isDigit = false → (c :: cs).map Char.toLower ≠ w :: ws := by
    rintro w ws hw h
    rw [List.map_cons, toLower_of_isDigit hdigit] at h
    cases h
    rw [hdigit] at hw
    cases hw
  have hround := rounds_ofCode layout.tie code
  rw [← hv] at hround
  simp only [number?, hsign]
  rw [if_neg (not_or.mpr ⟨hword 'i' _ rfl, hword 'i' _ rfl⟩), if_neg (hword 'n' _ rfl), ← hd, he,
    nearest_eq hc hround]

end Layout

end QualityBands
