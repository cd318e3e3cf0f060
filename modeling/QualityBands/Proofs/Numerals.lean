import Mathlib.Algebra.Order.Group.Abs
import QualityBands.Proofs.Alike
import QualityBands.Proofs.Colours
import QualityBands.Proofs.NumberTexts
import QualityBands.Proofs.StrictBounds

/-!
Printed percentages as numerals.

A block compares the score with the texts of two percentages. Such a text has a point and digits
on both its sides as long as the percentage is finite and below ten to the power 16. From there
on the digits stand alone, and an infinite percentage is a word.
-/

namespace QualityBands

open Template Decimal

/-! ### Numerals -/

/-- An optional minus sign, digits, a point and digits. -/
def IsDecimalNumeral (text : String) : Prop :=
  ∃ sign before fraction : List Char, text.toList = sign ++ (before ++ '.' :: fraction) ∧
    (sign = [] ∨ sign = ['-']) ∧ before ≠ [] ∧ fraction ≠ [] ∧
    ∀ c ∈ before ++ fraction, c.isDigit

/-- An optional minus sign and digits. -/
def IsWholeNumeral (text : String) : Prop :=
  ∃ sign digits : List Char, text.toList = sign ++ digits ∧ (sign = [] ∨ sign = ['-']) ∧
    digits ≠ [] ∧ ∀ c ∈ digits, c.isDigit

variable {text : String}

lemma IsDecimalNumeral.mem (h : IsDecimalNumeral text) : '.' ∈ text.toList := by
  obtain ⟨sign, before, fraction, ht, -⟩ := h
  rw [ht]
  simp

lemma IsWholeNumeral.not_mem (h : IsWholeNumeral text) : '.' ∉ text.toList := by
  obtain ⟨sign, digits, ht, hs, -, hd⟩ := h
  rw [ht, List.mem_append]
  rintro (hm | hm)
  · rcases hs with rfl | rfl
    · cases hm
    · exact absurd (List.mem_singleton.mp hm) (by decide)
  · exact absurd (hd _ hm) (by decide)

/-! ### Percentages -/

section
variable {negative : Bool} {code : Fin (Binary64.top + 1)}

/-- The percentage of a finite number is a mantissa, and it lacks a fraction from ten to the
power 16 on. -/
lemma exists_mantissa_percentage (hc : code.val < Binary64.top) : ∃ m : Mantissa,
    (percentage (.number negative code)).toList = (if negative then ['-'] else []) ++ m.text ∧
      (m.fraction = [] ↔ marker ≤ code.val) := by
  have hd : ∀ c ∈ Nat.toDigits 10 (ofCode .upward code).digits, c.isDigit :=
    fun _ hc => isDigit_toDigits hc
  obtain ⟨m, ht, -, hf⟩ :=
    Layout.exists_mantissa_placed hd Nat.toDigits_ne_nil (ofCode .upward code).point
  refine ⟨m, ?_, hf.trans ?_⟩
  · rw [ht]
    exact Layout.write_of_lt hc
  · rcases Nat.eq_zero_or_pos code.val with hzero | hpos
    · rw [hzero]
      decide +kernel
    · have hcode : ofCode .upward code = shortest .upward code := if_neg hpos.ne'
      have hpoint := point_shortest_le_iff .upward hpos
      rw [hcode]
      constructor
      · rintro ⟨-, h⟩
        exact Nat.not_lt.mp (mt hpoint.mpr h.not_ge)
      · intro h
        have hexp := exponent_shortest_nonneg .upward h
        refine ⟨?_, not_le.mp (mt hpoint.mp (Nat.not_lt.mpr h))⟩
        rw [point, length]
        omega

lemma isDecimalNumeral_percentage (hc : code.val < marker) :
    IsDecimalNumeral (percentage (.number negative code)) := by
  obtain ⟨m, ht, hf⟩ := exists_mantissa_percentage (hc.trans marker_lt_top)
  have hne : m.fraction ≠ [] := mt hf.mp (Nat.not_le.mpr hc)
  rw [Mantissa.text_of_ne hne] at ht
  exact ⟨_, m.before, m.fraction, ht, by cases negative <;> simp, m.before_ne, hne, m.isDigit⟩

lemma isWholeNumeral_percentage (hm : marker ≤ code.val) (hc : code.val < Binary64.top) :
    IsWholeNumeral (percentage (.number negative code)) := by
  obtain ⟨m, ht, hf⟩ := exists_mantissa_percentage hc
  rw [Mantissa.text_of_eq (hf.mpr hm)] at ht
  exact ⟨_, m.before, ht, by cases negative <;> simp, m.before_ne,
    fun c h => m.isDigit c (List.mem_append_left _ h)⟩

/-- Codes below the marker are those of the magnitudes below ten to the power 16. -/
lemma abs_value_lt_iff {v : ℚ} (hv : (Binary64.number negative code).value? = some v) :
    |v| < 10000000000000000 ↔ code.val < marker := by
  have habs : |v| = Binary64.units code / Binary64.one := by
    have hpos : (0 : ℚ) ≤ Binary64.units code / Binary64.one :=
      div_nonneg (Nat.cast_nonneg _) cast_one_pos.le
    rw [Binary64.value?] at hv
    split at hv
    · obtain rfl := Option.some.inj hv
      cases negative with
      | false => exact abs_of_nonneg hpos
      | true => exact (abs_neg _).trans (abs_of_nonneg hpos)
    · cases hv
  have hmarker : (Binary64.units marker : ℚ) = 10000000000000000 * Binary64.one := by
    have hten : (10 : ℚ) ^ 16 = 10000000000000000 := by norm_num
    rw [units_marker, Nat.cast_mul, Nat.cast_pow, Nat.cast_ofNat, hten]
  rw [habs, div_lt_iff₀ cast_one_pos, ← hmarker, Nat.cast_lt, Binary64.units_strictMono.lt_iff_lt]

lemma value?_eq_none_iff : (Binary64.number negative code).value? = none ↔
    code.val = Binary64.top := by
  have hle := Nat.lt_succ_iff.mp code.isLt
  rw [Binary64.value?, ite_eq_right_iff]
  constructor
  · intro h
    by_contra hne
    cases h (by omega)
  · intro h hlt
    omega

lemma percentage_top (hc : code.val = Binary64.top) :
    percentage (.number negative code) = if negative then "-inf" else "inf" := if_pos hc

end

/-- Finite percentages below ten to the power 16 are shown as decimal numerals and other finite
ones as whole numerals; no other percentage is shown as a decimal numeral. -/
lemma isDecimalNumeral_percentage_iff {x : Binary64} (hx : x ≠ .nan) :
    (IsDecimalNumeral (percentage x) ↔ ∃ v, x.value? = some v ∧ |v| < 10000000000000000) ∧
      ∀ v, x.value? = some v → 10000000000000000 ≤ |v| → IsWholeNumeral (percentage x) := by
  cases x with
  | nan => exact absurd rfl hx
  | number negative code =>
    have hwhole : ∀ v, (Binary64.number negative code).value? = some v →
        10000000000000000 ≤ |v| → IsWholeNumeral (percentage (.number negative code)) := by
      intro v hv hle
      have hc : code.val ≠ Binary64.top := fun h => by
        rw [value?_eq_none_iff.mpr h] at hv
        cases hv
      have hm : marker ≤ code.val := Nat.not_lt.mp (mt (abs_value_lt_iff hv).mpr hle.not_gt)
      exact isWholeNumeral_percentage hm (by have := code.isLt; omega)
    refine ⟨⟨fun h => ?_, ?_⟩, hwhole⟩
    · cases hv : (Binary64.number negative code).value? with
      | some v => exact ⟨v, rfl, not_le.mp fun hle => (hwhole v hv hle).not_mem h.mem⟩
      | none =>
        have hmem := h.mem
        rw [percentage_top (value?_eq_none_iff.mp hv)] at hmem
        cases negative <;> exact absurd hmem (by decide)
    · rintro ⟨v, hv, hlt⟩
      exact isDecimalNumeral_percentage ((abs_value_lt_iff hv).mp hlt)

/-! ### Tokens -/

/-- Whatever the dimension, `text` is what the token of this name stands for. -/
def Dimension.Shows (bands : ScoreBands) (name text : String) : Prop :=
  ∀ dimension : Dimension, (tokens.zip (dimension.tokenValues bands)).lookup name = some text ∧
    dimension.render bands (token name) = text

/-- The percentage that a token shows. -/
def ScoreBands.percentage? (bands : ScoreBands) : String → Option Binary64
  | "THRESH_EXCELLENT" => some bands.excellent
  | "THRESH_ACCEPTABLE" => some bands.acceptable
  | _ => none

/-- The tokens of percentages, with the keys under which a dialect writes them. -/
def Dialect.shownPercentages (dialect : Dialect) : List (String × String × String) :=
  [("THRESH_EXCELLENT", "excellent", dialect.percentageKeys.1),
   ("THRESH_ACCEPTABLE", "acceptable", dialect.percentageKeys.2)]

section
variable {bands : ScoreBands} {name : String} {x : Binary64} {document : Tree} {r : Reading}

lemma Dimension.shows_percentage (hx : bands.percentage? name = some x) :
    Shows bands name (percentage x) := by
  intro dimension
  have hf : dimension.field bands name = some (percentage x) := by
    unfold ScoreBands.percentage? at hx
    split at hx <;> cases hx <;> rfl
  have hl : (tokens.zip (dimension.tokenValues bands)).lookup name = some (percentage x) :=
    (congrFun (lookup_tokenValues dimension bands) name).trans hf
  refine ⟨hl, fill_token (fun r hr => ?_) hl (clean_percentage x)⟩
  exact (areNames_dimensionTokens _ (List.of_mem_zip hr).1).1

lemma Reading.exists_percentage (h : Rules.read document = .ok r) {key field : String}
    (hm : (name, key, field) ∈ r.dialect.shownPercentages) :
    ∃ x, (((Place.percentages document).child key).child field).toNumber = .ok x ∧
      r.rules.scores.percentage? name = some x := by
  simp only [Dialect.shownPercentages, List.mem_cons, Prod.mk.injEq, List.not_mem_nil,
    or_false] at hm
  rcases (Reading.read_eq_ok_iff.mp h).2 with ⟨-, hr⟩ | ⟨-, hr⟩ <;> rw [hr.dialect] at hm <;>
    rcases hm with ⟨rfl, rfl, rfl⟩ | ⟨rfl, rfl, rfl⟩
  · exact ⟨_, hr.excellent, rfl⟩
  · exact ⟨_, hr.acceptable, rfl⟩
  · exact ⟨_, hr.excellent, rfl⟩
  · exact ⟨_, hr.acceptable, rfl⟩

lemma Rules.less_of_validate {rules : Rules} (h : rules.validate = .ok ()) :
    rules.scores.acceptable.less rules.scores.excellent := by
  obtain ⟨_, hs, -⟩ := bind_eq_ok_iff.mp h
  rw [ScoreBands.validate] at hs
  split at hs
  · assumption
  · cases hs

/-- Percentages that decrease strictly are numbers, and infinite ones have the signs that leave
room between them. -/
lemma ScoreBands.percentage_of_less (h : bands.acceptable.less bands.excellent)
    (hx : bands.percentage? name = some x) : x ≠ .nan ∧ (x.value? = none →
      (name, percentage x) ∈ [("THRESH_EXCELLENT", "inf"), ("THRESH_ACCEPTABLE", "-inf")]) := by
  obtain ⟨excellent, acceptable⟩ := bands
  cases excellent with
  | nan => cases acceptable <;> cases h
  | number en ec =>
    cases acceptable with
    | nan => cases h
    | number an ac =>
      have hrank : (if an then -(ac.val : Int) else ac.val) <
          if en then -(ec.val : Int) else ec.val := of_decide_eq_true h
      have hac := Nat.lt_succ_iff.mp ac.isLt
      have hec := Nat.lt_succ_iff.mp ec.isLt
      unfold percentage? at hx
      split at hx
      · cases hx
        refine ⟨nofun, fun hv => ?_⟩
        rw [value?_eq_none_iff] at hv
        rw [percentage_top hv]
        cases en with
        | false => exact .head _
        | true => cases an <;> simp only [if_true, Bool.false_eq_true, if_false] at hrank <;> omega
      · cases hx
        refine ⟨nofun, fun hv => ?_⟩
        rw [value?_eq_none_iff] at hv
        rw [percentage_top hv]
        cases an with
        | true => exact .tail _ (.head _)
        | false => cases en <;> simp only [if_true, Bool.false_eq_true, if_false] at hrank <;> omega
      · cases hx

end

/-- **Percentages are shown as decimal numerals below ten to the power 16.** Where rules are
valid, both tokens stand for the percentages of the document. Finite ones are decimal numerals
below that bound and whole numerals from there on, and infinite ones are the words for them. -/
theorem printed_percentages {document : Tree} {r : Reading} (h : Rules.read document = .ok r)
    (hv : r.rules.validate = .ok ()) :
    ∀ name key field, (name, key, field) ∈ r.dialect.shownPercentages →
      ∃ x, (((Place.percentages document).child key).child field).toNumber = .ok x ∧
        Dimension.Shows r.rules.scores name (percentage x) ∧
        (IsDecimalNumeral (percentage x) ↔
          ∃ v, x.value? = some v ∧ |v| < 10000000000000000) ∧
        (∀ v, x.value? = some v → 10000000000000000 ≤ |v| → IsWholeNumeral (percentage x)) ∧
        (x.value? = none → (name, percentage x) ∈
          [("THRESH_EXCELLENT", "inf"), ("THRESH_ACCEPTABLE", "-inf")]) := by
  intro name key field hm
  obtain ⟨x, hn, hx⟩ := Reading.exists_percentage h hm
  obtain ⟨hnan, hinf⟩ := ScoreBands.percentage_of_less (Rules.less_of_validate hv) hx
  obtain ⟨hdecimal, hwhole⟩ := isDecimalNumeral_percentage_iff hnan
  exact ⟨x, hn, Dimension.shows_percentage hx, hdecimal, hwhole, hinf⟩

/-- A legacy document with these percentages. -/
def percentageDocument (excellent acceptable : Tree) : Tree :=
  .mapping
    [(.text "dimension_scores", .mapping
       [(.text "thresholds", .mapping
          [(.text "excellent", .mapping [(.text "percentage", excellent)]),
           (.text "acceptable", .mapping [(.text "min_percentage", acceptable)])])]),
     (.text "error_distribution", .mapping
       [(.text "thresholds", .mapping
         [(.text "critical", .mapping [(.text "min_count", .number (.integer 3))]),
          (.text "high", .mapping [(.text "min_count", .number (.integer 2))]),
          (.text "medium", .mapping [(.text "min_count", .number (.integer 1))])])])]

theorem printed_percentages_beyond_range :
    ∃ r, Rules.read (percentageDocument (.text " 1e400 ") (.number (.integer 75))) = .ok r ∧
      r.rules.validate = .ok () ∧
      Dimension.Shows r.rules.scores "THRESH_EXCELLENT" "inf" ∧ ¬ IsDecimalNumeral "inf" ∧
      Dimension.Shows r.rules.scores "THRESH_ACCEPTABLE" "75.0" ∧ IsDecimalNumeral "75.0" := by
  have he : percentage (Binary64.infinity false) = "inf" := rfl
  have ha : percentage (Binary64.ofInt 75) = "75.0" := by decide +kernel
  have hve : (Binary64.infinity false).value? = none := by decide +kernel
  have hva : (Binary64.ofInt 75).value? = some 75 := by decide +kernel
  obtain ⟨r, h, hp⟩ := exists_ok_of_any
    (x := Rules.read (percentageDocument (.text " 1e400 ") (.number (.integer 75))))
    (p := fun r => r.dialect = .legacy ∧ r.rules.validate = .ok ()) (by decide +kernel)
  obtain ⟨hd, hv⟩ := of_decide_eq_true hp
  have hs := printed_percentages h hv
  rw [hd] at hs
  obtain ⟨x, hx, hxs, hxd, -⟩ := hs _ _ _ (.head _)
  obtain ⟨y, hy, hys, hyd, -⟩ := hs _ _ _ (.tail _ (.head _))
  cases hx.symm.trans (show _ = .ok (Binary64.infinity false) by decide +kernel)
  cases hy.symm.trans (show _ = .ok (Binary64.ofInt 75) by decide +kernel)
  rw [he] at hxs hxd
  rw [ha] at hys hyd
  refine ⟨r, h, hv, hxs, fun hn => ?_, hys, hyd.mpr ⟨75, hva, by norm_num⟩⟩
  obtain ⟨v, hv, -⟩ := hxd.mp hn
  rw [hve] at hv
  cases hv

/-- From ten to the power 16 on, a valid percentage is shown without a point. -/
theorem percentage_without_point :
    ∃ r, Rules.read (percentageDocument (.number (.integer 10000000000000000))
        (.number (.integer 75))) = .ok r ∧ r.rules.validate = .ok () ∧
      Dimension.Shows r.rules.scores "THRESH_EXCELLENT" "10000000000000000" ∧
      ¬ IsDecimalNumeral "10000000000000000" := by
  obtain ⟨r, h, hp⟩ := exists_ok_of_any
    (x := Rules.read (percentageDocument (.number (.integer 10000000000000000))
      (.number (.integer 75))))
    (p := fun r => r.rules.validate = .ok () ∧
      percentage r.rules.scores.excellent = "10000000000000000") (by decide +kernel)
  obtain ⟨hv, ht⟩ := of_decide_eq_true hp
  exact ⟨r, h, hv, ht ▸ Dimension.shows_percentage rfl, fun hn => absurd hn.mem (by decide)⟩

end QualityBands
